import ClusterBroker.Proofs.Json.Trees

/-!
# The machine accepts what is written, and nothing else

`State.Holds` says which symbols a state stands for: those of the open arrays and objects, with what
is in them so far.  One lexeme adds its symbol to them or spoils the tree (`State.Holds.step`), and a
spoilt tree cannot be skipped, let alone read.  So a tree that can be skipped was made from symbols
of one value, and these are all the symbols of its text (`State.Holds.run`).

**Whole texts.**  `Written.SpelledBy.document` and `Document.Accepted.spelled` are the two directions
for a text.
-/

namespace ClusterBroker.Json

/-! ## What is built was written -/

lemma separated_append (runs : List (List Symbol)) (run : List Symbol) :
    separated (runs ++ [run]) = runs.flatMap (· ++ [.comma]) ++ run := by
  fun_induction separated runs with
  | case1 => rfl
  | case2 first => simp [separated]
  | case3 first next rest ih =>
      rw [List.cons_append, List.cons_append, separated, ← List.cons_append, ih]
      simp

namespace Written

/-- An array that is still open, with a comma after each of its items. -/
def openItems (ws : List Written) : List Symbol :=
  .openBracket :: (itemSymbols ws).flatMap (· ++ [.comma])

/-- An object that is still open, with a comma after each of its entries. -/
def openEntries (es : List (List Glyph × Written)) : List Symbol :=
  .openBrace :: (entrySymbols es).flatMap (· ++ [.comma])

lemma itemSymbols_append (ws : List Written) (w : Written) :
    itemSymbols (ws ++ [w]) = itemSymbols ws ++ [w.symbols] := by
  induction ws with
  | nil => rfl
  | cons v ws ih => rw [List.cons_append, itemSymbols, ih, itemSymbols, List.cons_append]

lemma entrySymbols_append (es : List (List Glyph × Written)) (gs : List Glyph) (w : Written) :
    entrySymbols (es ++ [(gs, w)]) = entrySymbols es ++ [.text gs :: .colon :: w.symbols] := by
  induction es with
  | nil => rfl
  | cons e es ih => rw [List.cons_append, entrySymbols, ih, entrySymbols, List.cons_append]

lemma openItems_append (ws : List Written) (w : Written) :
    openItems (ws ++ [w]) = openItems ws ++ (w.symbols ++ [.comma]) := by
  simp [openItems, itemSymbols_append]

lemma openEntries_append (es : List (List Glyph × Written)) (gs : List Glyph) (w : Written) :
    openEntries (es ++ [(gs, w)])
      = openEntries es ++ (.text gs :: .colon :: (w.symbols ++ [.comma])) := by
  simp [openEntries, entrySymbols_append]

lemma symbols_array_append (ws : List Written) (w : Written) :
    (array (ws ++ [w])).symbols = openItems ws ++ (w.symbols ++ [.closeBracket]) := by
  rw [symbols, itemSymbols_append, separated_append, openItems, List.append_assoc, List.cons_append]

lemma symbols_object_append (es : List (List Glyph × Written)) (gs : List Glyph) (w : Written) :
    (object (es ++ [(gs, w)])).symbols
      = openEntries es ++ (.text gs :: .colon :: (w.symbols ++ [.closeBrace])) := by
  rw [symbols, entrySymbols_append, separated_append, openEntries, List.append_assoc,
    List.cons_append]
  rfl

end Written

open Written (openItems openEntries)

/-- The symbols that the open arrays and objects on a stack stand for. -/
inductive StackHolds : List Frame → List Symbol → Prop where
  | nil : StackHolds [] []
  | item (start : Nat) {before : List Node} {ws : List Written} {stack : List Frame}
    {outer : List Symbol} :
    StackHolds stack outer → ItemsShow before.reverse ws →
      StackHolds (.item start before :: stack) (outer ++ openItems ws)
  | entry (start : Nat) {before : List (Key × Node)} {es : List (List Glyph × Written)} {k : Key}
    {gs : List Glyph} {stack : List Frame} {outer : List Symbol} :
    StackHolds stack outer → EntriesShow before.reverse es → k.Shows gs →
      StackHolds (.entry start before k :: stack)
        (outer ++ (openEntries es ++ [.text gs, .colon]))

/-- The symbols that a state stands for. -/
inductive State.Holds : State → List Symbol → Prop where
  | value {stack : List Frame} {done : List Symbol} :
    StackHolds stack done → Holds (.value stack) done
  | arrayStart (start : Nat) {stack : List Frame} {outer : List Symbol} :
    StackHolds stack outer → Holds (.arrayStart start stack) (outer ++ [.openBracket])
  | itemEnd (start : Nat) {node : Node} {w : Written} {before : List Node} {ws : List Written}
    {stack : List Frame} {outer : List Symbol} :
    StackHolds stack outer → ItemsShow before.reverse ws → node.Shows w →
      Holds (.itemEnd start (node :: before) stack) (outer ++ (openItems ws ++ w.symbols))
  | itemStart (start : Nat) {items : List Node} {ws : List Written} {stack : List Frame}
    {outer : List Symbol} :
    StackHolds stack outer → ItemsShow items.reverse ws →
      Holds (.itemStart start items stack) (outer ++ openItems ws)
  | objectStart (start : Nat) {stack : List Frame} {outer : List Symbol} :
    StackHolds stack outer → Holds (.objectStart start stack) (outer ++ [.openBrace])
  | colon (start : Nat) {entries : List (Key × Node)} {es : List (List Glyph × Written)}
    {name : Lexeme} {gs : List Glyph} {stack : List Frame} {outer : List Symbol} :
    StackHolds stack outer → EntriesShow entries.reverse es →
      (Symbol.text gs).Reads name.token →
      Holds (.colon start entries name stack) (outer ++ (openEntries es ++ [.text gs]))
  | entryEnd (start : Nat) {k : Key} {gs : List Glyph} {node : Node} {w : Written}
    {before : List (Key × Node)} {es : List (List Glyph × Written)} {stack : List Frame}
    {outer : List Symbol} :
    StackHolds stack outer → EntriesShow before.reverse es → k.Shows gs → node.Shows w →
      Holds (.entryEnd start ((k, node) :: before) stack)
        (outer ++ (openEntries es ++ (.text gs :: .colon :: w.symbols)))
  | entryStart (start : Nat) {entries : List (Key × Node)} {es : List (List Glyph × Written)}
    {stack : List Frame} {outer : List Symbol} :
    StackHolds stack outer → EntriesShow entries.reverse es →
      Holds (.entryStart start entries stack) (outer ++ openEntries es)
  | complete {root : Node} {w : Written} : root.Shows w → Holds (.complete root) w.symbols

/-- The tree of a state has a flaw. -/
def State.Spoilt : State → Prop
  | .flawed root => root.skim ≠ .ok ()
  | _ => False

/-- Whether a lexeme is made of a symbol. -/
def Lexeme.isSymbol (l : Lexeme) : Bool :=
  !l.token.isBroken && !l.isEnd

/-- What a state may become by a lexeme: spoilt, or what stands for one symbol more. -/
def State.Follows (next : State) (done : List Symbol) (l : Lexeme) : Prop :=
  next.Spoilt ∨ l.isSymbol = true ∧ ∀ s : Symbol, s.Reads l.token → next.Holds (done ++ [s])

lemma Node.closed_of_skim_array {start : Nat} {items : List Node} {finish : Finish}
    (h : (Node.array start items finish).skim = .ok ()) : ∃ stop, finish = .closed stop := by
  rw [Node.skim] at h
  obtain ⟨⟨⟩, -, h⟩ := bind_eq_ok h
  cases finish with
  | closed stop => exact ⟨stop, rfl⟩
  | _ => cases h

lemma Node.closed_of_skim_object {start : Nat} {entries : List (Key × Node)} {finish : Finish}
    (h : (Node.object start entries finish).skim = .ok ()) : ∃ stop, finish = .closed stop := by
  rw [Node.skim] at h
  obtain ⟨⟨⟩, -, h⟩ := bind_eq_ok h
  cases finish with
  | closed stop => exact ⟨stop, rfl⟩
  | _ => cases h

/-- **A flaw inside makes the whole tree one that cannot be skipped.** -/
lemma State.spoilt_flaw {node : Node} (h : node.skim ≠ .ok ()) (stack : List Frame) :
    (State.flaw node stack).Spoilt := by
  show (enclose node stack).skim ≠ .ok ()
  induction stack generalizing node with
  | nil => exact h
  | cons frame stack ih =>
      cases frame with
      | item start before =>
          refine ih fun hskim => ?_
          obtain ⟨stop, hclosed⟩ := Node.closed_of_skim_array hskim
          cases hclosed
      | entry start before key =>
          refine ih fun hskim => ?_
          obtain ⟨stop, hclosed⟩ := Node.closed_of_skim_object hskim
          cases hclosed

lemma State.spoilt_array {start : Nat} {items : List Node} {finish : Finish}
    (h : ∀ stop, finish ≠ .closed stop) (stack : List Frame) :
    (State.flaw (.array start items finish) stack).Spoilt :=
  spoilt_flaw (fun hskim => by
    obtain ⟨stop, hclosed⟩ := Node.closed_of_skim_array hskim
    exact h stop hclosed) stack

lemma State.spoilt_object {start : Nat} {entries : List (Key × Node)} {finish : Finish}
    (h : ∀ stop, finish ≠ .closed stop) (stack : List Frame) :
    (State.flaw (.object start entries finish) stack).Spoilt :=
  spoilt_flaw (fun hskim => by
    obtain ⟨stop, hclosed⟩ := Node.closed_of_skim_object hskim
    exact h stop hclosed) stack

/-- A value that is finished is the next item, or the value of the next entry. -/
lemma StackHolds.give {stack : List Frame} {done : List Symbol} (h : StackHolds stack done)
    {node : Node} {w : Written} (hnode : node.Shows w) :
    (State.give node stack).Holds (done ++ w.symbols) := by
  cases h with
  | nil => exact .complete hnode
  | item start houter hbefore =>
      rw [List.append_assoc]
      exact .itemEnd start houter hbefore hnode
  | entry start houter hbefore hk =>
      rw [List.append_assoc, List.append_assoc]
      exact .entryEnd start houter hbefore hk hnode

lemma StackHolds.startValue {stack : List Frame} {done : List Symbol} (h : StackHolds stack done)
    (l : Lexeme) : (State.startValue l stack).Follows done l := by
  obtain ⟨start, stop, token⟩ := l
  cases token with
  | openBracket =>
      refine .inr ⟨rfl, fun s hs => ?_⟩
      cases hs
      exact .arrayStart start h
  | openBrace =>
      refine .inr ⟨rfl, fun s hs => ?_⟩
      cases hs
      exact .objectStart start h
  | null =>
      refine .inr ⟨rfl, fun s hs => ?_⟩
      cases hs
      exact h.give (.null start stop)
  | bool b =>
      refine .inr ⟨rfl, fun s hs => ?_⟩
      cases hs
      exact h.give (.bool start stop b)
  | number v =>
      refine .inr ⟨rfl, fun s hs => ?_⟩
      cases hs with
      | number hv => exact h.give (.number start stop hv)
  | text v =>
      refine .inr ⟨rfl, fun s hs => ?_⟩
      cases hs with
      | text hv => exact h.give (.text start stop hv)
  | _ => exact .inl (State.spoilt_flaw (by intro hskim; cases hskim) stack)

lemma StackHolds.startKey {stack : List Frame} {outer : List Symbol} (h : StackHolds stack outer)
    {entries : List (Key × Node)} {es : List (List Glyph × Written)}
    (hentries : EntriesShow entries.reverse es) (finish : Finish)
    (hfinish : ∀ stop, finish ≠ .closed stop) (l : Lexeme) (start : Nat) :
    (State.startKey l start entries finish stack).Follows (outer ++ openEntries es) l := by
  obtain ⟨first, stop, token⟩ := l
  cases token with
  | text v =>
      refine .inr ⟨rfl, fun s hs => ?_⟩
      cases hs with
      | text hv =>
          rw [List.append_assoc]
          exact .colon start h hentries (.text hv)
  | brokenText wanted skipped => exact .inl (State.spoilt_object (by simp) stack)
  | _ => exact .inl (State.spoilt_object hfinish stack)

/-- After an item there is another one, or the array ends. -/
lemma StackHolds.stepItemEnd {stack : List Frame} {outer : List Symbol}
    (houter : StackHolds stack outer) (start : Nat) {before : List Node} {ws : List Written}
    (hbefore : ItemsShow before.reverse ws) {node : Node} {w : Written} (hnode : node.Shows w)
    (l : Lexeme) :
    ((State.itemEnd start (node :: before) stack).step l).Follows
      (outer ++ (openItems ws ++ w.symbols)) l := by
  have hitems : ItemsShow (node :: before).reverse (ws ++ [w]) := by
    rw [List.reverse_cons]
    exact hbefore.append (.cons hnode .nil)
  obtain ⟨first, stop, token⟩ := l
  cases token with
  | comma =>
      refine .inr ⟨rfl, fun s hs => ?_⟩
      cases hs
      rw [List.append_assoc, List.append_assoc, ← Written.openItems_append]
      exact .itemStart start houter hitems
  | closeBracket =>
      refine .inr ⟨rfl, fun s hs => ?_⟩
      cases hs
      rw [List.append_assoc, List.append_assoc, ← Written.symbols_array_append]
      exact houter.give (.array start stop hitems)
  | _ => exact .inl (State.spoilt_array (by simp) stack)

/-- After an entry there is another one, or the object ends. -/
lemma StackHolds.stepEntryEnd {stack : List Frame} {outer : List Symbol}
    (houter : StackHolds stack outer) (start : Nat) {before : List (Key × Node)}
    {es : List (List Glyph × Written)} (hbefore : EntriesShow before.reverse es) {k : Key}
    {gs : List Glyph} (hk : k.Shows gs) {node : Node} {w : Written} (hnode : node.Shows w)
    (l : Lexeme) :
    ((State.entryEnd start ((k, node) :: before) stack).step l).Follows
      (outer ++ (openEntries es ++ (.text gs :: .colon :: w.symbols))) l := by
  have hentries : EntriesShow ((k, node) :: before).reverse (es ++ [(gs, w)]) := by
    rw [List.reverse_cons]
    exact hbefore.append (.cons hk hnode .nil)
  obtain ⟨first, stop, token⟩ := l
  cases token with
  | comma =>
      refine .inr ⟨rfl, fun s hs => ?_⟩
      cases hs
      rw [List.append_assoc, List.append_assoc, List.cons_append, List.cons_append,
        ← Written.openEntries_append]
      exact .entryStart start houter hentries
  | closeBrace =>
      refine .inr ⟨rfl, fun s hs => ?_⟩
      cases hs
      rw [List.append_assoc, List.append_assoc, List.cons_append, List.cons_append,
        ← Written.symbols_object_append]
      exact houter.give (.object start stop hentries)
  | _ => exact .inl (State.spoilt_object (by simp) stack)

/-- **One lexeme more is one symbol more**, or the tree is spoilt. -/
theorem State.Holds.step {state : State} {done : List Symbol} (h : state.Holds done)
    (hopen : ∀ root, state ≠ .complete root) (l : Lexeme) : (state.step l).Follows done l := by
  cases h with
  | value hstack => exact hstack.startValue l
  | @arrayStart start stack outer houter =>
      have hnone : ItemsShow ([] : List Node).reverse [] := .nil
      have hnext := (StackHolds.item start houter hnone).startValue l
      obtain ⟨first, stop, token⟩ := l
      cases token with
      | closeBracket =>
          refine .inr ⟨rfl, fun s hs => ?_⟩
          cases hs
          rw [List.append_assoc]
          exact houter.give (.array start stop .nil)
      | endOfText => exact .inl (spoilt_array (by simp) stack)
      | _ => exact hnext
  | itemEnd start houter hbefore hnode => exact houter.stepItemEnd start hbefore hnode l
  | @itemStart start items ws stack outer houter hitems =>
      rw [State.step]
      split
      · exact .inl (spoilt_array (by simp) stack)
      · exact .inl (spoilt_array (by simp) stack)
      · exact (StackHolds.item start houter hitems).startValue l
  | @objectStart start stack outer houter =>
      have hnone : EntriesShow ([] : List (Key × Node)).reverse [] := .nil
      have hnext := houter.startKey hnone (.keyless l) (by simp) l start
      obtain ⟨first, stop, token⟩ := l
      cases token with
      | closeBrace =>
          refine .inr ⟨rfl, fun s hs => ?_⟩
          cases hs
          rw [List.append_assoc]
          exact houter.give (.object start stop .nil)
      | _ => exact hnext
  | @colon start entries es name gs stack outer houter hentries hname =>
      obtain ⟨first, stop, token⟩ := l
      cases token with
      | colon =>
          refine .inr ⟨rfl, fun s hs => ?_⟩
          cases hs
          rw [List.append_assoc, List.append_assoc]
          exact .value (.entry start houter hentries ⟨hname, rfl⟩)
      | _ => exact .inl (spoilt_object (by simp) stack)
  | entryEnd start houter hbefore hk hnode => exact houter.stepEntryEnd start hbefore hk hnode l
  | entryStart start houter hentries =>
      exact houter.startKey hentries (.dangling l) (by simp) l start
  | @complete root => exact absurd rfl (hopen root)

lemma Lexeme.not_isEnd_of_reads {l : Lexeme} {s : Symbol} (h : s.Reads l.token) :
    l.isEnd = false := by
  obtain ⟨start, stop, token⟩ := l
  cases h <;> rfl

lemma Lexeme.not_isEnd_of_isBroken {l : Lexeme} (h : l.token.isBroken = true) :
    l.isEnd = false := by
  obtain ⟨start, stop, token⟩ := l
  cases token <;> first | rfl | cases h

/-- The tree of a text that the machine has gone through can be skipped, and nothing is left. -/
def Document.Accepted (d : Document) : Prop :=
  d.root.skim = .ok () ∧ d.next.isEnd = true

/-- A spoilt state stays spoilt. -/
lemma State.Spoilt.not_accepted {state : State} (h : state.Spoilt) (endOfText : Lexeme)
    (ls : List Lexeme) : ¬(state.run endOfText ls).Accepted := by
  cases state with
  | flawed root =>
      rw [State.run]
      exact fun haccepted => h haccepted.1
  | _ => cases h

lemma State.run_nil (endOfText : Lexeme) (state : State) :
    state.run endOfText [] = state.close endOfText := by
  cases state <;> rfl

lemma State.run_cons {state : State} (hopen : ∀ root, state ≠ .complete root)
    (endOfText l : Lexeme) (ls : List Lexeme) :
    state.run endOfText (l :: ls) = (state.step l).run endOfText ls := by
  cases state with
  | complete root => exact absurd rfl (hopen root)
  | flawed root => cases ls <;> rfl
  | _ => rfl

/-- The last state is spoilt if the end of the text spoils it. -/
lemma State.Spoilt.not_accepted_nil {state : State} {endOfText : Lexeme}
    (h : (state.step endOfText).Spoilt) : ¬(state.run endOfText []).Accepted := by
  rw [State.run_nil, State.close]
  generalize state.step endOfText = last at h
  cases last with
  | flawed root => exact fun haccepted => h haccepted.1
  | _ => cases h

/-- A text that ends too early is not accepted. -/
lemma State.Holds.not_accepted {state : State} {done : List Symbol} (h : state.Holds done)
    (hopen : ∀ root, state ≠ .complete root) {endOfText : Lexeme} (hend : endOfText.isEnd = true) :
    ¬(state.run endOfText []).Accepted := by
  refine Spoilt.not_accepted_nil ((h.step hopen endOfText).resolve_right fun hsymbol => ?_)
  simp [Lexeme.isSymbol, hend] at hsymbol

/-- **What the machine accepts was written.**  The symbols of the text are those that its state still
lacks. -/
theorem State.Holds.run {text : List Char} {ls : List Lexeme} (h : Lexed text ls)
    {endOfText : Lexeme} (hend : endOfText.isEnd = true) {state : State} {done : List Symbol}
    (hstate : state.Holds done) (haccepted : (state.run endOfText ls).Accepted) :
    ∃ ss w, Spaced ss text ∧ done ++ ss = Written.symbols w ∧
      (state.run endOfText ls).root.Shows w := by
  induction h generalizing state done with
  | nil hblanks =>
      by_cases hopen : ∀ root, state ≠ .complete root
      case pos => exact absurd haccepted (hstate.not_accepted hopen hend)
      case neg =>
        obtain ⟨root, rfl⟩ : ∃ root, state = .complete root := by simpa using hopen
        cases hstate with
        | @complete root w hroot => exact ⟨[], w, .nil hblanks, List.append_nil _, hroot⟩
  | @cons blanks s l text ls hblanks hreads hrest ih =>
      by_cases hopen : ∀ root, state ≠ .complete root
      case pos =>
        rw [State.run_cons hopen] at haccepted ⊢
        rcases hstate.step hopen l with hspoilt | ⟨-, hnext⟩
        · exact absurd haccepted (hspoilt.not_accepted endOfText ls)
        · obtain ⟨ss, w, hspaced, hsymbols, hroot⟩ := ih (hnext s hreads) haccepted
          refine ⟨s :: ss, w, .cons hblanks hspaced, ?_, hroot⟩
          rw [← hsymbols, List.append_assoc, List.singleton_append]
      case neg =>
        -- something comes after the value
        obtain ⟨root, rfl⟩ : ∃ root, state = .complete root := by simpa using hopen
        have hnext : l.isEnd = true := haccepted.2
        rw [Lexeme.not_isEnd_of_reads hreads] at hnext
        cases hnext
  | @broken text l hbroken =>
      by_cases hopen : ∀ root, state ≠ .complete root
      case pos =>
        rw [State.run_cons hopen] at haccepted
        rcases hstate.step hopen l with hspoilt | ⟨hsymbol, -⟩
        · exact absurd haccepted (hspoilt.not_accepted endOfText [])
        · simp [Lexeme.isSymbol, hbroken] at hsymbol
      case neg =>
        obtain ⟨root, rfl⟩ : ∃ root, state = .complete root := by simpa using hopen
        have hnext : l.isEnd = true := haccepted.2
        rw [Lexeme.not_isEnd_of_isBroken hbroken] at hnext
        cases hnext

/-! ## Whole texts -/

/-- **A text that spells a value has its tree**, and nothing comes after it. -/
theorem Written.SpelledBy.document {w : Written} {text : List Char} (h : w.SpelledBy text) :
    (Document.ofText text).root.Shows w ∧ (Document.ofText text).next.isEnd = true := by
  obtain ⟨node, hnode, hrun⟩ := State.run_written (.atEnd (byteCount text)) w
    (reads_lexemesFrom h w.apart_symbols 0) [] []
  have hdocument : Document.ofText text = ⟨node, .atEnd (byteCount text)⟩ := by
    rw [List.append_nil] at hrun
    exact hrun
  rw [hdocument]
  exact ⟨hnode, rfl⟩

/-- **A text whose tree can be skipped spells a value**, if nothing comes after it. -/
theorem Document.Accepted.spelled {text : List Char} (h : (Document.ofText text).Accepted) :
    ∃ w : Written, w.SpelledBy text ∧ (Document.ofText text).root.Shows w := by
  obtain ⟨ss, w, hspaced, hsymbols, hroot⟩ :=
    State.Holds.run (lexed_lexemesFrom text 0) rfl (.value .nil) h
  refine ⟨w, ?_, hroot⟩
  rw [Written.SpelledBy, ← hsymbols]
  exact hspaced

end ClusterBroker.Json
