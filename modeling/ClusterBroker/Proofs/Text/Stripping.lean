import ClusterBroker.Text.Blank
import Mathlib.Data.List.Forall2
import Mathlib.Data.List.TakeWhile
import Mathlib.Tactic.Lemma

/-!
# Stripped text and its segments

**Stripping.**  `Text.stripList_spec` says what stripping leaves: everything but the white space at
the two ends.  By `Text.stripList_append` white space added there makes no difference.

**Segments.**  `Text.parts` are the segments of a text that are not blank, each one stripped.
**`Text.splitComma_strip`** says that these are found whether or not the text as a whole was stripped
before, since no comma is white space.
-/

namespace ClusterBroker.Text

/-! ## Stripping -/

/-- White space and nothing else. -/
def Blank (cs : List Char) : Prop :=
  ∀ c ∈ cs, isBlank c = true

instance (cs : List Char) : Decidable (Blank cs) :=
  inferInstanceAs (Decidable (∀ c ∈ cs, isBlank c = true))

section Strip

variable {c : Char} {cs before after : List Char}

lemma blank_cons : Blank (c :: cs) ↔ isBlank c = true ∧ Blank cs :=
  List.forall_mem_cons

lemma blank_append : Blank (before ++ after) ↔ Blank before ∧ Blank after :=
  List.forall_mem_append

lemma blank_reverse : Blank cs.reverse ↔ Blank cs := by
  simp [Blank]

lemma stripStart_append (h : Blank before) : stripStart (before ++ cs) = stripStart cs :=
  List.dropWhile_append_of_pos h

/-- Where something is left, what follows is left too. -/
lemma stripStart_append_of_not_blank (h : ¬ Blank cs) (after : List Char) :
    stripStart (cs ++ after) = stripStart cs ++ after := by
  induction cs with
  | nil => exact absurd (by simp [Blank]) h
  | cons c cs ih =>
      by_cases hc : isBlank c = true
      · have hrest : ¬ Blank cs := fun hcs => h (blank_cons.2 ⟨hc, hcs⟩)
        simpa [stripStart, List.dropWhile_cons, hc] using ih hrest
      · simp [stripStart, hc]

lemma stripStart_eq_nil : stripStart cs = [] ↔ Blank cs :=
  List.dropWhile_eq_nil_iff

lemma stripEnd_append (h : Blank after) : stripEnd (cs ++ after) = stripEnd cs := by
  rw [stripEnd, List.reverse_append, stripStart_append (blank_reverse.2 h), stripEnd]

/-- What is stripped at its start is the rest after some white space. -/
lemma exists_stripStart (cs : List Char) :
    ∃ before, Blank before ∧ cs = before ++ stripStart cs ∧
      ∀ c ∈ (stripStart cs).head?, isBlank c = false := by
  refine ⟨cs.takeWhile isBlank, fun c hc => List.mem_takeWhile_imp hc,
    List.takeWhile_append_dropWhile.symm, fun c hc => ?_⟩
  have hhead := List.head?_dropWhile_not isBlank cs
  rw [stripStart] at hc
  rw [Option.mem_def.1 hc] at hhead
  simpa using hhead

/-- White space at the ends makes no difference. -/
lemma stripList_append (hbefore : Blank before) (hafter : Blank after) :
    stripList (before ++ (cs ++ after)) = stripList cs := by
  rw [stripList, stripStart_append hbefore, stripList]
  by_cases hcs : Blank cs
  · rw [stripStart_eq_nil.2 (blank_append.2 ⟨hcs, hafter⟩), stripStart_eq_nil.2 hcs]
  · rw [stripStart_append_of_not_blank hcs, stripEnd_append hafter]

lemma stripList_eq_nil : stripList cs = [] ↔ Blank cs := by
  obtain ⟨before, hbefore, hcs, -⟩ := exists_stripStart cs
  have hwhole : Blank cs ↔ Blank (before ++ stripStart cs) := by rw [← hcs]
  rw [hwhole, blank_append, and_iff_right hbefore, stripList, stripEnd, List.reverse_eq_nil_iff,
    stripStart_eq_nil, blank_reverse]

/-- **What stripping leaves**: everything but white space at the two ends, where none is left. -/
theorem stripList_spec (cs : List Char) :
    ∃ before after, Blank before ∧ Blank after ∧ cs = before ++ (stripList cs ++ after) ∧
      (∀ c ∈ (stripList cs).head?, isBlank c = false) ∧
      ∀ c ∈ (stripList cs).getLast?, isBlank c = false := by
  obtain ⟨before, hbefore, hcs, hfirst⟩ := exists_stripStart cs
  obtain ⟨after, hafter, hstart, hlast⟩ := exists_stripStart (stripStart cs).reverse
  have hend : stripStart cs = stripList cs ++ after.reverse := by
    rw [stripList, stripEnd, ← List.reverse_append, ← hstart, List.reverse_reverse]
  refine ⟨before, after.reverse, hbefore, blank_reverse.2 hafter, ?_, fun c hc => ?_, fun c hc => ?_⟩
  · rw [← hend]
    exact hcs
  · refine hfirst c ?_
    rw [hend, List.head?_append, Option.mem_def.1 hc]
    rfl
  · refine hlast c ?_
    rwa [stripList, stripEnd, List.getLast?_reverse] at hc

end Strip

/-! ## Segments -/

/-- The segments of a text between commas that are not blank, in order, each without the white space
at its ends. -/
def parts (s : String) : List String :=
  ((s.toList.splitOn ',').filter fun segment => ¬ Blank segment).map fun segment =>
    String.ofList (stripList segment)

section Segments

variable {cs before after : List Char}

lemma segments_ne_nil (cs : List Char) : segments cs ≠ [] := by
  cases cs with
  | nil => exact List.cons_ne_nil _ _
  | cons c cs =>
      rw [segments]
      split
      · exact List.cons_ne_nil _ _
      · split <;> exact List.cons_ne_nil _ _

lemma segments_cons (c : Char) (cs : List Char) :
    segments (c :: cs)
      = if c = ',' then [] :: segments cs else (segments cs).modifyHead (c :: ·) := by
  rw [segments]
  cases h : segments cs with
  | nil => exact absurd h (segments_ne_nil cs)
  | cons segment rest => rfl

lemma segments_eq_splitOn (cs : List Char) : segments cs = cs.splitOn ',' := by
  induction cs with
  | nil => rfl
  | cons c cs ih =>
      rw [segments_cons, ih, List.splitOn, List.splitOn, List.splitOnP_cons_eq_if_modifyHead]
      simp only [beq_iff_eq]

lemma ne_comma_of_isBlank {c : Char} (h : isBlank c = true) : c ≠ ',' := by
  rintro rfl
  cases h

/-- White space before a text goes to its first segment. -/
lemma segments_append_left (h : Blank before) (cs : List Char) :
    segments (before ++ cs) = (segments cs).modifyHead (before ++ ·) := by
  induction before with
  | nil =>
      rw [List.nil_append]
      cases segments cs <;> rfl
  | cons c before ih =>
      obtain ⟨hc, hrest⟩ := blank_cons.1 h
      rw [List.cons_append, segments_cons, if_neg (ne_comma_of_isBlank hc), ih hrest]
      cases segments cs <;> rfl

/-- The same segments, but for white space after some of them. -/
abbrev Trailed : List (List Char) → List (List Char) → Prop :=
  List.Forall₂ fun segment segment' => ∃ more, Blank more ∧ segment' = segment ++ more

/-- White space after a text goes to its last segment. -/
lemma segments_append_right (h : Blank after) (cs : List Char) :
    Trailed (segments cs) (segments (cs ++ after)) := by
  induction cs with
  | nil =>
      have hafter : segments after = [after] := by
        simpa [segments] using segments_append_left h []
      rw [List.nil_append, hafter]
      exact .cons ⟨after, h, rfl⟩ .nil
  | cons c cs ih =>
      rw [List.cons_append, segments_cons, segments_cons]
      split
      · exact .cons ⟨[], by simp [Blank], rfl⟩ ih
      · generalize segments cs = old, segments (cs ++ after) = new at ih ⊢
        cases ih with
        | nil => exact .nil
        | cons hfirst hrest =>
            obtain ⟨more, hmore, rfl⟩ := hfirst
            exact .cons ⟨more, hmore, rfl⟩ hrest

lemma Trailed.map_stripList {old new : List (List Char)} (h : Trailed old new) :
    new.map stripList = old.map stripList := by
  induction h with
  | nil => rfl
  | @cons segment segment' old new hfirst _ ih =>
      obtain ⟨more, hmore, rfl⟩ := hfirst
      have hsame : stripList ([] ++ (segment ++ more)) = stripList segment :=
        stripList_append (by simp [Blank]) hmore
      rw [List.map_cons, List.map_cons, ih, ← hsame]
      rfl

/-- **White space at the ends of a text** makes no difference to its stripped segments. -/
theorem map_stripList_segments (hbefore : Blank before) (hafter : Blank after) (cs : List Char) :
    (segments (before ++ (cs ++ after))).map stripList = (segments cs).map stripList := by
  rw [segments_append_left hbefore, ← (segments_append_right hafter cs).map_stripList]
  cases segments (cs ++ after) with
  | nil => rfl
  | cons segment rest =>
      have hsame : stripList (before ++ (segment ++ [])) = stripList segment :=
        stripList_append hbefore (by simp [Blank])
      simpa using hsame

/-- The parts of a text are its stripped segments. -/
lemma splitComma_eq_parts (s : String) : splitComma s = parts s := by
  rw [splitComma, segments_eq_splitOn, parts]
  induction s.toList.splitOn ',' with
  | nil => rfl
  | cons segment rest ih =>
      by_cases hblank : Blank segment
      · have hnil := stripList_eq_nil.2 hblank
        simpa [hnil, hblank] using ih
      · have hne : stripList segment ≠ [] := fun hnil => hblank (stripList_eq_nil.1 hnil)
        simpa [hne, hblank] using ih

/-- **Stripping a text before it is split** changes nothing. -/
theorem splitComma_strip (s : String) : splitComma (strip s) = splitComma s := by
  obtain ⟨before, after, hbefore, hafter, hs, -⟩ := stripList_spec s.toList
  rw [splitComma, splitComma, strip, String.toList_ofList]
  conv_rhs => rw [hs]
  rw [map_stripList_segments hbefore hafter]

end Segments

end ClusterBroker.Text
