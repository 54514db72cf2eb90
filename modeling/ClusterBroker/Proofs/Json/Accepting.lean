import ClusterBroker.Proofs.Json.Machine

/-!
# Readers accept what is written and means something

The tree of what is written shows a reader all of it that the reader looks at (`faithful_shows`).  So
what a reader makes of a text can be said in the grammar alone: a text is accepted if it spells
something that means something, and it is read as what that means.

`readDocument_eq_ok` says so for any reader that fails on flawed trees, and `ofText_eq_ok` for reading
a text as a JSON value.
-/

namespace ClusterBroker.Json

/-! ## What trees show -/

lemma Key.Shows.read {k : Key} {gs : List Glyph} (h : k.Shows gs) :
    k.read.toOption = textValue? gs := by
  obtain ⟨⟨start, stop, token⟩, colon⟩ := k
  cases h.name with
  | text hv => exact hv

lemma Key.Shows.checkColon {k : Key} {gs : List Glyph} (h : k.Shows gs) :
    k.checkColon = .ok () := by
  rw [Key.checkColon, h.colon]

lemma Key.Shows.skim {k : Key} {gs : List Glyph} (h : k.Shows gs) : k.skim = .ok () := by
  have hcolon := h.checkColon
  obtain ⟨⟨start, stop, token⟩, colon⟩ := k
  cases h.name with
  | text hv => exact hcolon

lemma ItemsShow.forall₂ {items : List Node} {ws : List Written} (h : ItemsShow items ws) :
    List.Forall₂ Node.Shows items ws := by
  induction items generalizing ws with
  | nil =>
      cases h
      exact .nil
  | cons node items ih =>
      cases h with
      | cons hnode hrest => exact .cons hnode (ih hrest)

lemma Written.named?_cons {β : Type} (gs : List Glyph) (b : β) (es : List (List Glyph × β)) :
    named? ((gs, b) :: es) = (textValue? gs).bind fun name => (named? es).map ((name, b) :: ·) := by
  rw [named?, List.mapM_cons]
  cases textValue? gs with
  | none => rfl
  | some name => cases h : named? es <;> simp_all [named?]

lemma toOption_eq_some {ε α : Type} {x : Except ε α} {a : α} (h : x.toOption = some a) :
    x = .ok a := by
  cases x with
  | error e => cases h
  | ok b => exact congrArg Except.ok (Option.some.inj h)

/-- Entries stand for what is under their names. -/
lemma EntriesShow.stand {entries : List (Key × Node)} {es : List (List Glyph × Written)}
    (h : EntriesShow entries es) {named : List (String × Written)}
    (hnamed : Written.named? es = some named) :
    List.Forall₂ (EntryStands Node.Shows) entries named := by
  induction entries generalizing es named with
  | nil =>
      cases h
      cases hnamed
      exact .nil
  | cons entry entries ih =>
      cases h with
      | @cons k gs node w _ es hkey hnode hrest =>
          rw [Written.named?_cons] at hnamed
          obtain ⟨name, hname, hnamed⟩ := Option.bind_eq_some_iff.1 hnamed
          obtain ⟨named, hmore, rfl⟩ := Option.map_eq_some_iff.1 hnamed
          have hread : k.read = .ok name := toOption_eq_some (hkey.read.trans hname)
          exact .cons ⟨hread, hkey.checkColon, hnode⟩ (ih hrest hmore)

/-- Where not all names have values, there is one that cannot be read. -/
lemma EntriesShow.exists_unnamed {entries : List (Key × Node)} {es : List (List Glyph × Written)}
    (h : EntriesShow entries es) (hnone : Written.named? es = none) :
    ∃ entry ∈ entries, entry.1.read.toOption = none := by
  induction entries generalizing es with
  | nil =>
      cases h
      cases hnone
  | cons entry entries ih =>
      cases h with
      | @cons k gs node w _ es hkey hnode hrest =>
          rw [Written.named?_cons] at hnone
          cases hname : textValue? gs with
          | none => exact ⟨(k, node), List.mem_cons_self, hkey.read.trans hname⟩
          | some name =>
              rw [hname, Option.bind_some, Option.map_eq_none_iff] at hnone
              obtain ⟨entry, hmem, hunnamed⟩ := ih hrest hnone
              exact ⟨entry, List.mem_cons_of_mem _ hmem, hunnamed⟩

mutual

theorem Node.Shows.skim : ∀ {w : Written} {node : Node}, node.Shows w → node.skim = .ok ()
  | .null, node, h => by cases h; rfl
  | .bool b, node, h => by cases h; rfl
  | .number f, node, h => by cases h; rfl
  | .text gs, node, h => by cases h; rfl
  | .array ws, node, h => by
      cases h with
      | array start stop hitems => exact Node.skim_array hitems.skim start stop
  | .object es, node, h => by
      cases h with
      | object start stop hentries => exact Node.skim_object hentries.skim start stop

theorem ItemsShow.skim : ∀ {ws : List Written} {items : List Node}, ItemsShow items ws →
    ∀ node ∈ items, node.skim = .ok ()
  | [], items, h => by
      cases h
      simp
  | w :: ws, items, h => by
      cases h with
      | cons hnode hrest => exact List.forall_mem_cons.2 ⟨hnode.skim, hrest.skim⟩

theorem EntriesShow.skim : ∀ {es : List (List Glyph × Written)} {entries : List (Key × Node)},
    EntriesShow entries es → ∀ e ∈ entries, e.1.skim = .ok () ∧ e.2.skim = .ok ()
  | [], entries, h => by
      cases h
      simp
  | (gs, w) :: es, entries, h => by
      cases h with
      | cons hkey hnode hrest =>
          exact List.forall_mem_cons.2 ⟨⟨hkey.skim, hnode.skim⟩, hrest.skim⟩

end

/-- **A tree shows all of what is written that a shape looks at.** -/
theorem faithful_shows : Faithful Written.look Node.Shows where
  looks := by
    intro node w h
    cases h with
    | null start stop => exact .null start stop
    | bool start stop b => exact .bool start stop b
    | @number start stop f v hv =>
        rw [Written.look, ← f.look_value, ← hv]
        exact Node.looks_number start stop v
    | @text start stop gs v hv =>
        rw [Written.look, ← hv]
        exact Node.looks_text start stop v
    | array start stop hitems => exact .array start stop hitems.forall₂
    | @object start stop entries es hentries =>
        rw [Written.look]
        cases hnamed : Written.named? es with
        | some named => exact .object start stop (hentries.stand hnamed)
        | none =>
            obtain ⟨entry, hmem, hname⟩ := hentries.exists_unnamed hnamed
            exact .unnamed start _ hmem hname
  skims := Node.Shows.skim

/-! ## Values -/

mutual

/-- **The tree of what is written has its value**, if that keeps to the limits. -/
theorem Node.Shows.value : ∀ {w : Written} {node : Node}, node.Shows w → ∀ d : Nat,
    (node.value d).toOption = w.value? d
  | .null, node, h, d => by cases h; rfl
  | .bool b, node, h, d => by cases h; rfl
  | .number f, node, h, d => by
      cases h with
      | number start stop hv => exact (toOption_map _ _).trans (congrArg _ hv)
  | .text gs, node, h, d => by
      cases h with
      | text start stop hv => exact (toOption_map _ _).trans (congrArg _ hv)
  | .array ws, node, h, d => by
      cases h with
      | array start stop hitems =>
          rw [Node.value, Written.value?]
          split
          · rw [toOption_bind, hitems.values]
            cases Written.itemValues? (d + 1) ws <;> rfl
          · rfl
  | .object es, node, h, d => by
      cases h with
      | object start stop hentries =>
          rw [Node.value, Written.value?]
          split
          · rw [toOption_bind, hentries.values]
            cases Written.entryValues? (d + 1) es <;> rfl
          · rfl

theorem ItemsShow.values : ∀ {ws : List Written} {items : List Node}, ItemsShow items ws →
    ∀ d : Nat, (itemValues d items).toOption = Written.itemValues? d ws
  | [], items, h, d => by cases h; rfl
  | w :: ws, items, h, d => by
      cases h with
      | cons hnode hrest =>
          rw [itemValues, Written.itemValues?, toOption_bind, hnode.value d]
          simp only [toOption_bind, hrest.values d]
          rfl

theorem EntriesShow.values : ∀ {es : List (List Glyph × Written)} {entries : List (Key × Node)},
    EntriesShow entries es → ∀ d : Nat,
      (entryValues d entries).toOption = Written.entryValues? d es
  | [], entries, h, d => by cases h; rfl
  | (gs, w) :: es, entries, h, d => by
      cases h with
      | cons hkey hnode hrest =>
          rw [entryValues, Written.entryValues?, toOption_bind, hkey.read]
          simp only [toOption_bind, hkey.checkColon, hnode.value d, hrest.values d]
          rfl

end

/-! ## Whole texts -/

/-- **A text is accepted if it spells something that means something**, and read as that. -/
theorem readDocument_eq_ok {α : Type} {read : Node → Except Fault α} {meaning : Written → Option α}
    (hread : ∀ {node w}, node.Shows w → (read node).toOption = meaning w)
    (hskim : ∀ {node a}, read node = .ok a → node.skim = .ok ()) {text : List Char} {a : α} :
    readDocument read text = .ok a ↔ ∃ w : Written, w.SpelledBy text ∧ meaning w = some a := by
  constructor
  case mp =>
    intro h
    obtain ⟨value, hvalue, h⟩ := bind_eq_ok h
    obtain ⟨⟨⟩, hend, h⟩ := bind_eq_ok h
    obtain rfl : value = a := Except.ok.inj h
    have hnext : (Document.ofText text).next.isEnd = true := by
      unfold Document.checkEnd at hend
      split at hend
      · assumption
      · cases hend
    obtain ⟨w, hspelled, hroot⟩ := Document.Accepted.spelled ⟨hskim hvalue, hnext⟩
    exact ⟨w, hspelled, by rw [← hread hroot, hvalue]; rfl⟩
  case mpr =>
    rintro ⟨w, hspelled, hmeans⟩
    obtain ⟨hroot, hnext⟩ := hspelled.document
    have hvalue : read (Document.ofText text).root = .ok a :=
      toOption_eq_some ((hread hroot).trans hmeans)
    rw [readDocument]
    simp only [hvalue, Document.checkEnd, hnext, if_true]
    rfl

/-- **A text has the value of what it spells**, if that keeps to the limits. -/
theorem ofText_eq_ok {text : List Char} {j : Json} :
    ofText text = .ok j ↔ ∃ w : Written, w.SpelledBy text ∧ w.value? 0 = some j :=
  readDocument_eq_ok (fun h => h.value 0) Node.skim_of_value

end ClusterBroker.Json
