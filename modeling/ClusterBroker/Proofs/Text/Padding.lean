import ClusterBroker.Proofs.Text.Stripping

/-!
# Texts among white space and commas

What a reader makes of a text is told here from the other side: by how such a text may be written.

**Padding.**  `Trimmed` texts are those that can be read at all, and `Pads` says that one is written
with white space around it.  `strip_eq_iff` is that stripping finds just the text that was padded.

**Lists.**  `Lists` says that segments hold some texts, each with white space around it and with
blank segments anywhere.  **`parts_eq_iff`**: the parts of a text are those that are listed in it.
-/

namespace ClusterBroker.Text

/-! ## Padding -/

/-- Text that is there, without white space at either end. -/
structure Trimmed (s : String) : Prop where
  ne_empty : s ≠ ""
  first : ∀ c ∈ s.toList.head?, isBlank c = false
  last : ∀ c ∈ s.toList.getLast?, isBlank c = false

/-- Characters are those of a text and white space before and after it. -/
def Pads (cs : List Char) (s : String) : Prop :=
  ∃ before after, Blank before ∧ Blank after ∧ cs = before ++ (s.toList ++ after)

section Pads

variable {cs : List Char} {s : String}

lemma stripStart_of_head (h : ∀ c ∈ cs.head?, isBlank c = false) : stripStart cs = cs := by
  cases cs with
  | nil => rfl
  | cons c cs => simp [stripStart, h c rfl]

lemma Trimmed.stripList (h : Trimmed s) : stripList s.toList = s.toList := by
  have hlast : ∀ c ∈ s.toList.reverse.head?, isBlank c = false := by
    rw [List.head?_reverse]
    exact h.last
  rw [Text.stripList, stripStart_of_head h.first, stripEnd, stripStart_of_head hlast,
    List.reverse_reverse]

/-- **Stripping finds the text that was padded**, if that was trimmed. -/
theorem stripList_eq_iff :
    ¬ Blank cs ∧ String.ofList (stripList cs) = s ↔ Trimmed s ∧ Pads cs s := by
  constructor
  · rintro ⟨hblank, rfl⟩
    obtain ⟨before, after, hbefore, hafter, hcs, hfirst, hlast⟩ := stripList_spec cs
    have htrimmed : Trimmed (String.ofList (stripList cs)) := by
      refine ⟨fun hempty => hblank (stripList_eq_nil.1 ?_), ?_, ?_⟩
      · exact String.ofList_eq_empty_iff.1 hempty
      · rwa [String.toList_ofList]
      · rwa [String.toList_ofList]
    refine ⟨htrimmed, before, after, hbefore, hafter, ?_⟩
    rw [String.toList_ofList]
    exact hcs
  · rintro ⟨htrimmed, before, after, hbefore, hafter, rfl⟩
    have hstrip : stripList (before ++ (s.toList ++ after)) = s.toList := by
      rw [stripList_append hbefore hafter, htrimmed.stripList]
    refine ⟨fun hblank => htrimmed.ne_empty ?_, by rw [hstrip, String.ofList_toList]⟩
    rw [← String.toList_eq_nil_iff, ← hstrip]
    exact stripList_eq_nil.2 hblank

lemma Pads.comma_not_mem (h : Pads cs s) (hs : ',' ∉ s.toList) : ',' ∉ cs := by
  obtain ⟨before, after, hbefore, hafter, rfl⟩ := h
  simp only [List.mem_append, not_or]
  exact ⟨fun hc => ne_comma_of_isBlank (hbefore _ hc) rfl, hs,
    fun hc => ne_comma_of_isBlank (hafter _ hc) rfl⟩

end Pads

/-! ## Lists -/

/-- Segments hold some texts in their order, each with white space around it; any other segment is
blank. -/
inductive Lists : List (List Char) → List String → Prop where
  | nil : Lists [] []
  | blank {segment : List Char} {segments : List (List Char)} {texts : List String} :
    Blank segment → Lists segments texts → Lists (segment :: segments) texts
  | text {segment : List Char} {segments : List (List Char)} {s : String} {texts : List String} :
    Pads segment s → Lists segments texts → Lists (segment :: segments) (s :: texts)

/-- The segments that are not blank, stripped, are the texts that they hold. -/
lemma map_stripList_eq_iff {segments : List (List Char)} {texts : List String} :
    ((segments.filter fun segment => ¬ Blank segment).map fun segment =>
        String.ofList (stripList segment)) = texts ↔
      Lists segments texts ∧ ∀ s ∈ texts, Trimmed s := by
  induction segments generalizing texts with
  | nil =>
      constructor
      · rintro rfl
        exact ⟨.nil, by simp⟩
      · rintro ⟨⟨⟩, -⟩
        rfl
  | cons segment segments ih =>
      by_cases hblank : Blank segment
      · rw [List.filter_cons_of_neg (by simpa using hblank), ih]
        constructor
        · exact fun ⟨hlists, htrimmed⟩ => ⟨.blank hblank hlists, htrimmed⟩
        · rintro ⟨hlists, htrimmed⟩
          cases hlists with
          | blank _ hrest => exact ⟨hrest, htrimmed⟩
          | text hpads _ =>
              exact absurd hblank (stripList_eq_iff.2 ⟨htrimmed _ List.mem_cons_self, hpads⟩).1
      · rw [List.filter_cons_of_pos (by simpa using hblank), List.map_cons]
        constructor
        · rintro rfl
          obtain ⟨htrimmed, hpads⟩ := stripList_eq_iff.1 ⟨hblank, rfl⟩
          obtain ⟨hlists, hrest⟩ := ih.1 rfl
          exact ⟨.text hpads hlists, List.forall_mem_cons.2 ⟨htrimmed, hrest⟩⟩
        · rintro ⟨hlists, htrimmed⟩
          cases hlists with
          | blank hb _ => exact absurd hb hblank
          | text hpads hrest =>
              obtain ⟨hfirst, hothers⟩ := List.forall_mem_cons.1 htrimmed
              rw [(stripList_eq_iff.2 ⟨hfirst, hpads⟩).2, ih.2 ⟨hrest, hothers⟩]

/-- No segment has a comma in it. -/
lemma comma_not_mem_segments {cs segment : List Char} (h : segment ∈ segments cs) :
    ',' ∉ segment := by
  induction cs generalizing segment with
  | nil =>
      obtain rfl := List.mem_singleton.1 h
      exact List.not_mem_nil
  | cons c cs ih =>
      rw [segments_cons] at h
      split at h
      · rcases List.mem_cons.1 h with rfl | hrest
        · exact List.not_mem_nil
        · exact ih hrest
      · next hc =>
          cases hsegments : segments cs with
          | nil => exact absurd hsegments (segments_ne_nil cs)
          | cons first rest =>
              rw [hsegments] at h ih
              rcases List.mem_cons.1 h with rfl | hrest
              · have hfirst := ih List.mem_cons_self
                simpa [Ne.symm hc] using hfirst
              · exact ih (List.mem_cons_of_mem _ hrest)

lemma Lists.comma_not_mem {segments : List (List Char)} {texts : List String}
    (h : Lists segments texts) (htexts : ∀ s ∈ texts, ',' ∉ s.toList) :
    ∀ segment ∈ segments, ',' ∉ segment := by
  induction h with
  | nil => simp
  | blank hblank _ ih =>
      exact List.forall_mem_cons.2 ⟨fun hc => ne_comma_of_isBlank (hblank _ hc) rfl, ih htexts⟩
  | text hpads _ ih =>
      obtain ⟨hfirst, hothers⟩ := List.forall_mem_cons.1 htexts
      exact List.forall_mem_cons.2 ⟨hpads.comma_not_mem hfirst, ih hothers⟩

/-- A text without a comma that can be told from its surroundings: an item of a list. -/
structure Item (s : String) : Prop where
  trimmed : Trimmed s
  noComma : ',' ∉ s.toList

/-- **The parts of a text are the items that are listed in it**, between commas. -/
theorem parts_eq_iff {s : String} {items : List String} :
    parts s = items ↔
      (∀ item ∈ items, Item item) ∧
        ∃ segments, s.toList = [','].intercalate segments ∧ Lists segments items := by
  rw [parts]
  constructor
  · intro h
    obtain ⟨hlists, htrimmed⟩ := map_stripList_eq_iff.1 h
    refine ⟨fun item hitem => ⟨htrimmed item hitem, ?_⟩, _, (List.intercalate_splitOn ',').symm, hlists⟩
    rw [← h] at hitem
    obtain ⟨segment, hsegment, rfl⟩ := List.mem_map.1 hitem
    have hmem : segment ∈ segments s.toList := by
      rw [segments_eq_splitOn]
      exact List.mem_of_mem_filter hsegment
    obtain ⟨before, after, -, -, hcs, -⟩ := stripList_spec segment
    intro hcomma
    refine comma_not_mem_segments hmem ?_
    rw [hcs]
    exact List.mem_append_right _ (List.mem_append_left _ (by simpa using hcomma))
  · rintro ⟨hitems, segments, hs, hlists⟩
    have hcommas := hlists.comma_not_mem fun item hitem => (hitems item hitem).noComma
    have htrimmed := fun item hitem => (hitems item hitem).trimmed
    cases segments with
    | nil =>
        cases hlists
        rw [hs]
        simp [Blank]
    | cons first rest =>
        rw [hs, List.splitOn_intercalate ',' hcommas (List.cons_ne_nil _ _)]
        exact map_stripList_eq_iff.2 ⟨hlists, htrimmed⟩

end ClusterBroker.Text
