import ClusterBroker.Proofs.Json.Accepting
import ClusterBroker.Proofs.Json.Alike.Texts

/-!
# Texts that are alike have trees that are alike

The machine takes the lexemes of two texts in step.  Where they differ a value was swapped, so the
two states differ in a leaf and in nothing else.

**States.**  `State.Alike` relates the states of both runs.  A lexeme that is the same in both texts
keeps it, or spoils the tree (`State.Alike.step`), and so does a swapped one, unless it is taken for
a key (`State.Alike.swapped`).  Then no colon follows, and the tree is spoilt as well.

**Runs.**  `State.Alike.run` goes through all lexemes of a text that is accepted, and
`Document.alike_ofText` is about whole texts.
-/

namespace ClusterBroker.Json

/-! ## Trees -/

mutual

/-- Trees that differ in swapped leaves only. -/
inductive Node.Alike (swap : Symbol → Symbol → Prop) : Node → Node → Prop where
  | same (node : Node) : Alike swap node node
  | leaf (start : Nat) {s s' : Symbol} : s.Swapped swap s' →
    Alike swap (.leaf (s.lexeme start)) (.leaf (s'.lexeme start))
  | array (start : Nat) (finish : Finish) {items items' : List Node} :
    ItemsAlike swap items items' →
      Alike swap (.array start items finish) (.array start items' finish)
  | object (start : Nat) (finish : Finish) {entries entries' : List (Key × Node)} :
    EntriesAlike swap entries entries' →
      Alike swap (.object start entries finish) (.object start entries' finish)

/-- Items that differ in swapped leaves only. -/
inductive Node.ItemsAlike (swap : Symbol → Symbol → Prop) : List Node → List Node → Prop where
  | nil : ItemsAlike swap [] []
  | cons {node node' : Node} {items items' : List Node} : Alike swap node node' →
    ItemsAlike swap items items' → ItemsAlike swap (node :: items) (node' :: items')

/-- Entries that differ in swapped leaves only. -/
inductive Node.EntriesAlike (swap : Symbol → Symbol → Prop) :
    List (Key × Node) → List (Key × Node) → Prop where
  | nil : EntriesAlike swap [] []
  | cons (k : Key) {node node' : Node} {entries entries' : List (Key × Node)} :
    Alike swap node node' → EntriesAlike swap entries entries' →
      EntriesAlike swap ((k, node) :: entries) ((k, node') :: entries')

end

variable {swap : Symbol → Symbol → Prop}

namespace Node

lemma ItemsAlike.append {items items' more more' : List Node} (h : ItemsAlike swap items items')
    (hmore : ItemsAlike swap more more') : ItemsAlike swap (items ++ more) (items' ++ more') := by
  induction items generalizing items' with
  | nil =>
      cases h
      exact hmore
  | cons node items ih =>
      cases h with
      | cons hnode hrest => exact .cons hnode (ih hrest)

lemma EntriesAlike.append {entries entries' more more' : List (Key × Node)}
    (h : EntriesAlike swap entries entries') (hmore : EntriesAlike swap more more') :
    EntriesAlike swap (entries ++ more) (entries' ++ more') := by
  induction entries generalizing entries' with
  | nil =>
      cases h
      exact hmore
  | cons entry entries ih =>
      cases h with
      | cons k hnode hrest => exact .cons k hnode (ih hrest)

lemma ItemsAlike.snoc {before before' : List Node}
    (h : ItemsAlike swap before.reverse before'.reverse) {node node' : Node}
    (hnode : Alike swap node node') :
    ItemsAlike swap (node :: before).reverse (node' :: before').reverse := by
  rw [List.reverse_cons, List.reverse_cons]
  exact h.append (.cons hnode .nil)

lemma EntriesAlike.snoc {before before' : List (Key × Node)}
    (h : EntriesAlike swap before.reverse before'.reverse) (k : Key) {node node' : Node}
    (hnode : Alike swap node node') :
    EntriesAlike swap ((k, node) :: before).reverse ((k, node') :: before').reverse := by
  rw [List.reverse_cons, List.reverse_cons]
  exact h.append (.cons k hnode .nil)

end Node

open Node (ItemsAlike EntriesAlike)

/-! ## States -/

/-- Open arrays and objects that differ in swapped leaves only. -/
inductive StackAlike (swap : Symbol → Symbol → Prop) : List Frame → List Frame → Prop where
  | nil : StackAlike swap [] []
  | item (start : Nat) {before before' : List Node} {stack stack' : List Frame} :
    StackAlike swap stack stack' → ItemsAlike swap before.reverse before'.reverse →
      StackAlike swap (.item start before :: stack) (.item start before' :: stack')
  | entry (start : Nat) (k : Key) {before before' : List (Key × Node)}
    {stack stack' : List Frame} :
    StackAlike swap stack stack' → EntriesAlike swap before.reverse before'.reverse →
      StackAlike swap (.entry start before k :: stack) (.entry start before' k :: stack')

/-- States that differ in swapped leaves only, and have no flaw. -/
inductive State.Alike (swap : Symbol → Symbol → Prop) : State → State → Prop where
  | value {stack stack' : List Frame} : StackAlike swap stack stack' →
    Alike swap (.value stack) (.value stack')
  | arrayStart (start : Nat) {stack stack' : List Frame} : StackAlike swap stack stack' →
    Alike swap (.arrayStart start stack) (.arrayStart start stack')
  | itemEnd (start : Nat) {items items' : List Node} {stack stack' : List Frame} :
    StackAlike swap stack stack' → ItemsAlike swap items.reverse items'.reverse →
      Alike swap (.itemEnd start items stack) (.itemEnd start items' stack')
  | itemStart (start : Nat) {items items' : List Node} {stack stack' : List Frame} :
    StackAlike swap stack stack' → ItemsAlike swap items.reverse items'.reverse →
      Alike swap (.itemStart start items stack) (.itemStart start items' stack')
  | objectStart (start : Nat) {stack stack' : List Frame} : StackAlike swap stack stack' →
    Alike swap (.objectStart start stack) (.objectStart start stack')
  | colon (start : Nat) (name : Lexeme) {entries entries' : List (Key × Node)}
    {stack stack' : List Frame} :
    StackAlike swap stack stack' → EntriesAlike swap entries.reverse entries'.reverse →
      Alike swap (.colon start entries name stack) (.colon start entries' name stack')
  | entryEnd (start : Nat) {entries entries' : List (Key × Node)} {stack stack' : List Frame} :
    StackAlike swap stack stack' → EntriesAlike swap entries.reverse entries'.reverse →
      Alike swap (.entryEnd start entries stack) (.entryEnd start entries' stack')
  | entryStart (start : Nat) {entries entries' : List (Key × Node)} {stack stack' : List Frame} :
    StackAlike swap stack stack' → EntriesAlike swap entries.reverse entries'.reverse →
      Alike swap (.entryStart start entries stack) (.entryStart start entries' stack')
  | complete {root root' : Node} : root.Alike swap root' →
    Alike swap (.complete root) (.complete root')

/-- What two states may become in step: alike, unless the first one is spoilt. -/
def State.Keeps (swap : Symbol → Symbol → Prop) (next next' : State) : Prop :=
  next.Spoilt ∨ next.Alike swap next'

section Step

variable {stack stack' : List Frame}

lemma StackAlike.give (h : StackAlike swap stack stack') {node node' : Node}
    (hnode : node.Alike swap node') :
    (State.give node stack).Alike swap (State.give node' stack') := by
  cases h with
  | nil => exact .complete hnode
  | item start houter hbefore => exact .itemEnd start houter (hbefore.snoc hnode)
  | entry start k houter hbefore => exact .entryEnd start houter (hbefore.snoc k hnode)

lemma StackAlike.startValue (h : StackAlike swap stack stack') (l : Lexeme) :
    (State.startValue l stack).Keeps swap (State.startValue l stack') := by
  obtain ⟨start, stop, token⟩ := l
  cases token with
  | openBracket => exact .inr (.arrayStart start h)
  | openBrace => exact .inr (.objectStart start h)
  | null | bool | number | text => exact .inr (h.give (.same _))
  | _ => exact .inl (State.spoilt_flaw (by intro hskim; cases hskim) stack)

/-- A swapped lexeme where a value may start is a swapped leaf. -/
lemma StackAlike.swapped (h : StackAlike swap stack stack') (start : Nat) {s s' : Symbol}
    (hs : s.Swapped swap s') :
    (State.startValue (s.lexeme start) stack).Alike swap
      (State.startValue (s'.lexeme start) stack') := by
  have hgiven := h.give (.leaf start hs)
  cases hs <;> exact hgiven

lemma StackAlike.startKey (h : StackAlike swap stack stack')
    {entries entries' : List (Key × Node)}
    (hentries : EntriesAlike swap entries.reverse entries'.reverse) {finish : Finish}
    (hfinish : ∀ stop, finish ≠ .closed stop) (l : Lexeme) (start : Nat) :
    (State.startKey l start entries finish stack).Keeps swap
      (State.startKey l start entries' finish stack') := by
  obtain ⟨first, stop, token⟩ := l
  cases token with
  | text v => exact .inr (.colon start _ h hentries)
  | brokenText wanted skipped => exact .inl (State.spoilt_object (by simp) stack)
  | _ => exact .inl (State.spoilt_object hfinish stack)

end Step

/-- **A lexeme that both texts have keeps states alike**, or spoils the tree. -/
theorem State.Alike.step {state state' : State} (h : state.Alike swap state') (l : Lexeme) :
    (state.step l).Keeps swap (state'.step l) := by
  cases h with
  | value hstack => exact hstack.startValue l
  | @arrayStart start stack stack' hstack =>
      have hnone : ItemsAlike swap ([] : List Node).reverse ([] : List Node).reverse := .nil
      have hnext := (StackAlike.item start hstack hnone).startValue l
      obtain ⟨first, stop, token⟩ := l
      cases token with
      | closeBracket => exact .inr (hstack.give (.same _))
      | endOfText => exact .inl (spoilt_array (by simp) stack)
      | _ => exact hnext
  | @itemEnd start items items' stack stack' hstack hitems =>
      obtain ⟨first, stop, token⟩ := l
      cases token with
      | comma => exact .inr (.itemStart start hstack hitems)
      | closeBracket => exact .inr (hstack.give (.array start (.closed stop) hitems))
      | _ => exact .inl (spoilt_array (by simp) stack)
  | @itemStart start items items' stack stack' hstack hitems =>
      have hnext := (StackAlike.item start hstack hitems).startValue l
      obtain ⟨first, stop, token⟩ := l
      cases token with
      | closeBracket | endOfText => exact .inl (spoilt_array (by simp) stack)
      | _ => exact hnext
  | @objectStart start stack stack' hstack =>
      have hnone : EntriesAlike swap ([] : List (Key × Node)).reverse
          ([] : List (Key × Node)).reverse := .nil
      have hkeyless : ∀ stop, Finish.keyless l ≠ .closed stop := by simp
      have hnext := hstack.startKey hnone hkeyless l start
      obtain ⟨first, stop, token⟩ := l
      cases token with
      | closeBrace => exact .inr (hstack.give (.same _))
      | _ => exact hnext
  | @colon start name entries entries' stack stack' hstack hentries =>
      obtain ⟨first, stop, token⟩ := l
      cases token with
      | colon => exact .inr (.value (.entry start _ hstack hentries))
      | _ => exact .inl (spoilt_object (by simp) stack)
  | @entryEnd start entries entries' stack stack' hstack hentries =>
      obtain ⟨first, stop, token⟩ := l
      cases token with
      | comma => exact .inr (.entryStart start hstack hentries)
      | closeBrace => exact .inr (hstack.give (.object start (.closed stop) hentries))
      | _ => exact .inl (spoilt_object (by simp) stack)
  | entryStart start hstack hentries => exact hstack.startKey hentries (by simp) l start
  | complete hroot => exact .inr (.complete hroot)

/-- **A swapped lexeme keeps states alike**, or spoils the tree, or is taken for a key. -/
theorem State.Alike.swapped {state state' : State} (h : state.Alike swap state') (start : Nat)
    {s s' : Symbol} (hs : s.Swapped swap s') :
    (state.step (s.lexeme start)).Keeps swap (state'.step (s'.lexeme start)) ∨
      ∃ first entries stack,
        state.step (s.lexeme start) = .colon first entries (s.lexeme start) stack := by
  cases h with
  | value hstack => exact .inl (.inr (hstack.swapped start hs))
  | arrayStart first hstack =>
      have hnone : ItemsAlike swap ([] : List Node).reverse ([] : List Node).reverse := .nil
      have hnext := (StackAlike.item first hstack hnone).swapped start hs
      cases hs <;> exact .inl (.inr hnext)
  | itemStart first hstack hitems =>
      have hnext := (StackAlike.item first hstack hitems).swapped start hs
      cases hs <;> exact .inl (.inr hnext)
  | @itemEnd first items items' stack stack' hstack hitems =>
      cases hs <;> exact .inl (.inl (spoilt_array (by simp) stack))
  | @colon first name entries entries' stack stack' hstack hentries =>
      cases hs <;> exact .inl (.inl (spoilt_object (by simp) stack))
  | @entryEnd first entries entries' stack stack' hstack hentries =>
      cases hs <;> exact .inl (.inl (spoilt_object (by simp) stack))
  | @objectStart first stack stack' hstack =>
      cases hs with
      | number => exact .inl (.inl (spoilt_object (by simp) stack))
      | text => exact .inr ⟨_, _, _, rfl⟩
  | @entryStart first entries entries' stack stack' hstack hentries =>
      cases hs with
      | number => exact .inl (.inl (spoilt_object (by simp) stack))
      | text => exact .inr ⟨_, _, _, rfl⟩
  | complete hroot => exact .inl (.inr (.complete hroot))

/-! ## Runs -/

section Run

variable {endOfText : Lexeme}

/-- A key without a colon is not accepted. -/
lemma State.not_accepted_of_colon (hend : endOfText.isEnd = true) {ls : List Lexeme}
    (hls : ∀ l ∈ ls.head?, l.token ≠ .colon) (start : Nat) (entries : List (Key × Node))
    (name : Lexeme) (stack : List Frame) :
    ¬((State.colon start entries name stack).run endOfText ls).Accepted := by
  have hspoilt (l : Lexeme) (hl : l.token ≠ .colon) :
      ((State.colon start entries name stack).step l).Spoilt := by
    obtain ⟨first, stop, token⟩ := l
    cases token with
    | colon => exact absurd rfl hl
    | _ => exact spoilt_object (by simp) stack
  cases ls with
  | nil =>
      refine Spoilt.not_accepted_nil (hspoilt endOfText fun hcolon => ?_)
      simp [Lexeme.isEnd, hcolon] at hend
  | cons l ls => exact (hspoilt l (hls l rfl)).not_accepted endOfText ls

/-- Both runs have their value, or neither has. -/
lemma State.Alike.complete_or_open {state state' : State} (h : state.Alike swap state') :
    (∃ root root', state = .complete root ∧ state' = .complete root' ∧ root.Alike swap root') ∨
      (∀ root, state ≠ .complete root) ∧ ∀ root, state' ≠ .complete root := by
  cases h with
  | complete hroot => exact .inl ⟨_, _, rfl, rfl, hroot⟩
  | _ => exact .inr (by simp)

lemma State.Alike.close {state state' : State}
    (h : (state.step endOfText).Alike swap (state'.step endOfText)) :
    (state.close endOfText).root.Alike swap (state'.close endOfText).root := by
  unfold State.close
  generalize state.step endOfText = last at h
  generalize state'.step endOfText = last' at h
  cases h with
  | complete hroot => exact hroot
  | _ => exact .same _

/-- **Runs over the lexemes of texts that are alike end alike**, if the first text is accepted. -/
theorem State.Alike.run (hend : endOfText.isEnd = true) {ls ls' : List Lexeme}
    (h : Lexeme.Parallel swap ls ls') {state state' : State} (hstate : state.Alike swap state')
    (haccepted : (state.run endOfText ls).Accepted) :
    (state.run endOfText ls).root.Alike swap (state'.run endOfText ls').root := by
  induction h generalizing state state' with
  | nil =>
      rcases hstate.step endOfText with hspoilt | hnext
      · exact absurd haccepted hspoilt.not_accepted_nil
      · rw [State.run_nil, State.run_nil]
        exact hnext.close
  | @same l ls ls' hls ih =>
      rcases hstate.complete_or_open with ⟨root, root', rfl, rfl, hroot⟩ | ⟨hopen, hopen'⟩
      · exact hroot
      · rw [State.run_cons hopen] at haccepted ⊢
        rw [State.run_cons hopen']
        rcases hstate.step l with hspoilt | hnext
        · exact absurd haccepted (hspoilt.not_accepted endOfText ls)
        · exact ih hnext haccepted
  | @swapped start s s' ls ls' hs hhead hls ih =>
      rcases hstate.complete_or_open with ⟨root, root', rfl, rfl, hroot⟩ | ⟨hopen, hopen'⟩
      · exact hroot
      · rw [State.run_cons hopen] at haccepted ⊢
        rw [State.run_cons hopen']
        rcases hstate.swapped start hs with (hspoilt | hnext) | ⟨first, entries, stack, hkey⟩
        · exact absurd haccepted (hspoilt.not_accepted endOfText ls)
        · exact ih hnext haccepted
        · rw [hkey] at haccepted
          exact absurd haccepted (not_accepted_of_colon hend hhead first entries _ stack)

end Run

/-! ## Whole texts -/

/-- **Texts that spell alike syntax have alike trees**, and nothing comes after them. -/
theorem Document.alike_ofText {w w' : Written} (hw : w.Alike swap w') {text text' : List Char}
    (h : SpacedAlike w.symbols w'.symbols text text') :
    (Document.ofText text).root.Alike swap (Document.ofText text').root ∧
      (Document.ofText text).next.isEnd = true ∧ (Document.ofText text').next.isEnd = true := by
  have hspelled : w.SpelledBy text := h.left
  have hspelled' : w'.SpelledBy text' := h.right
  obtain ⟨hshows, hnext⟩ := hspelled.document
  refine ⟨?_, hnext, hspelled'.document.2⟩
  unfold Document.ofText Document.ofLexemes
  rw [← h.byteCount hw.symbols]
  exact State.Alike.run rfl (h.lexemes hw.symbols w.apart_symbols w'.apart_symbols 0)
    (.value .nil) ⟨hshows.skim, hnext⟩

end ClusterBroker.Json
