import ClusterBroker.Proofs.Json.Cutting

/-!
# The machine takes what is written

`Node.Shows` says which written value a tree was made from.  `State.run_written` takes the machine over
the lexemes of one value, in whatever arrays and objects that value stands, and finds that it has one
node more.  Items and entries follow in one lemma each, from any state in which the next one may start.
-/

namespace ClusterBroker.Json

/-! ## Trees and what is written -/

/-- A key that is written, with its colon. -/
structure Key.Shows (k : Key) (gs : List Glyph) : Prop where
  name : (Symbol.text gs).Reads k.name.token
  colon : k.colon.token = .colon

mutual

/-- The tree of a written value. -/
inductive Node.Shows : Node → Written → Prop where
  | null (start stop : Nat) : Node.Shows (.leaf ⟨start, stop, .null⟩) .null
  | bool (start stop : Nat) (b : Bool) : Node.Shows (.leaf ⟨start, stop, .bool b⟩) (.bool b)
  | number (start stop : Nat) {f : Figure} {v : Except Fault Number} :
    v.toOption = f.value? → Node.Shows (.leaf ⟨start, stop, .number v⟩) (.number f)
  | text (start stop : Nat) {gs : List Glyph} {v : Except Fault String} :
    v.toOption = textValue? gs → Node.Shows (.leaf ⟨start, stop, .text v⟩) (.text gs)
  | array (start stop : Nat) {items : List Node} {ws : List Written} :
    ItemsShow items ws → Node.Shows (.array start items (.closed stop)) (.array ws)
  | object (start stop : Nat) {entries : List (Key × Node)} {es : List (List Glyph × Written)} :
    EntriesShow entries es → Node.Shows (.object start entries (.closed stop)) (.object es)

/-- The trees of written items. -/
inductive ItemsShow : List Node → List Written → Prop where
  | nil : ItemsShow [] []
  | cons {node : Node} {w : Written} {items : List Node} {ws : List Written} :
    node.Shows w → ItemsShow items ws → ItemsShow (node :: items) (w :: ws)

/-- The keys and trees of written entries. -/
inductive EntriesShow : List (Key × Node) → List (List Glyph × Written) → Prop where
  | nil : EntriesShow [] []
  | cons {k : Key} {gs : List Glyph} {node : Node} {w : Written} {entries : List (Key × Node)}
    {es : List (List Glyph × Written)} :
    k.Shows gs → node.Shows w → EntriesShow entries es →
      EntriesShow ((k, node) :: entries) ((gs, w) :: es)

end

lemma ItemsShow.append {items more : List Node} {ws vs : List Written} (h : ItemsShow items ws)
    (hmore : ItemsShow more vs) : ItemsShow (items ++ more) (ws ++ vs) := by
  induction items generalizing ws with
  | nil =>
      cases h
      exact hmore
  | cons node items ih =>
      cases h with
      | cons hnode hrest => exact .cons hnode (ih hrest)

lemma EntriesShow.append {entries more : List (Key × Node)} {es fs : List (List Glyph × Written)}
    (h : EntriesShow entries es) (hmore : EntriesShow more fs) :
    EntriesShow (entries ++ more) (es ++ fs) := by
  induction entries generalizing es with
  | nil =>
      cases h
      exact hmore
  | cons entry entries ih =>
      cases h with
      | cons hkey hnode hrest => exact .cons hkey hnode (ih hrest)

/-! ## What is written is built -/

section Build

variable {endOfText l : Lexeme} {ls : List Lexeme} {stack : List Frame}

/-- The lexemes of symbols. -/
abbrev ReadAs (ss : List Symbol) (ls : List Lexeme) : Prop :=
  List.Forall₂ (fun s l => s.Reads l.token) ss ls

lemma ReadAs.split {before after : List Symbol} (h : ReadAs (before ++ after) ls) :
    ∃ front back, ls = front ++ back ∧ ReadAs before front ∧ ReadAs after back := by
  induction before generalizing ls with
  | nil => exact ⟨[], ls, rfl, .nil, h⟩
  | cons s before ih =>
      cases h with
      | cons hs hrest =>
          obtain ⟨front, back, rfl, hfront, hback⟩ := ih hrest
          exact ⟨_ :: front, back, rfl, .cons hs hfront, hback⟩

/-- A symbol with which a value starts. -/
def Symbol.startsValue : Symbol → Bool
  | .openBracket | .openBrace | .null | .bool _ | .number _ | .text _ => true
  | _ => false

lemma Written.exists_symbols (w : Written) :
    ∃ s rest, w.symbols = s :: rest ∧ s.startsValue = true := by
  cases w <;> exact ⟨_, _, rfl, rfl⟩

/-- A state in which a value is the next item of an array. -/
def State.StartsItem (endOfText : Lexeme) (state : State) (start : Nat) (before : List Node)
    (stack : List Frame) : Prop :=
  ∀ {s : Symbol} {l : Lexeme} (ls : List Lexeme), s.startsValue = true → s.Reads l.token →
    state.run endOfText (l :: ls)
      = State.run endOfText (.value (.item start before :: stack)) (l :: ls)

lemma State.startsItem_arrayStart (start : Nat) :
    StartsItem endOfText (.arrayStart start stack) start [] stack := by
  intro s l ls hs hreads
  obtain ⟨first, stop, token⟩ := l
  cases hreads <;> first | rfl | cases hs

lemma State.startsItem_itemStart (start : Nat) (items : List Node) :
    StartsItem endOfText (.itemStart start items stack) start items stack := by
  intro s l ls hs hreads
  obtain ⟨first, stop, token⟩ := l
  cases hreads <;> first | rfl | cases hs

lemma State.StartsItem.run_symbols {state : State} {start : Nat} {before : List Node}
    (h : StartsItem endOfText state start before stack) {w : Written} (hls : ReadAs w.symbols ls)
    (rest : List Lexeme) :
    state.run endOfText (ls ++ rest)
      = State.run endOfText (.value (.item start before :: stack)) (ls ++ rest) := by
  obtain ⟨s, ss, hsymbols, hs⟩ := w.exists_symbols
  rw [hsymbols] at hls
  cases hls with
  | cons hreads hrest => exact h _ hs hreads

/-- A state in which a text is the next key of an object. -/
def State.StartsEntry (endOfText : Lexeme) (state : State) (start : Nat)
    (before : List (Key × Node)) (stack : List Frame) : Prop :=
  ∀ {gs : List Glyph} {l : Lexeme} (ls : List Lexeme), (Symbol.text gs).Reads l.token →
    state.run endOfText (l :: ls) = State.run endOfText (.colon start before l stack) ls

lemma State.startsEntry_objectStart (start : Nat) :
    StartsEntry endOfText (.objectStart start stack) start [] stack := by
  intro gs l ls hreads
  obtain ⟨first, stop, token⟩ := l
  cases hreads
  rfl

lemma State.startsEntry_entryStart (start : Nat) (entries : List (Key × Node)) :
    StartsEntry endOfText (.entryStart start entries stack) start entries stack := by
  intro gs l ls hreads
  obtain ⟨first, stop, token⟩ := l
  cases hreads
  rfl

lemma State.StartsEntry.run_key {state : State} {start : Nat} {before : List (Key × Node)}
    (h : StartsEntry endOfText state start before stack) {k : Key} {gs : List Glyph}
    (hk : k.Shows gs) (ls : List Lexeme) :
    state.run endOfText (k.name :: k.colon :: ls)
      = State.run endOfText (.value (.entry start before k :: stack)) ls := by
  obtain ⟨name, ⟨first, stop, token⟩⟩ := k
  obtain ⟨hname, rfl⟩ := hk
  exact h _ hname

end Build

/-- One symbol is one lexeme. -/
lemma ReadAs.single {s : Symbol} {ls : List Lexeme} (h : ReadAs [s] ls) :
    ∃ start stop token, ls = [⟨start, stop, token⟩] ∧ s.Reads token := by
  cases h with
  | cons hs hnil =>
      cases hnil
      exact ⟨_, _, _, rfl, hs⟩

/-- A key and a colon are two lexemes. -/
lemma ReadAs.key {gs : List Glyph} {ss : List Symbol} {ls : List Lexeme}
    (h : ReadAs (.text gs :: .colon :: ss) ls) :
    ∃ (k : Key) (rest : List Lexeme), ls = k.name :: k.colon :: rest ∧ k.Shows gs ∧
      ReadAs ss rest := by
  cases h with
  | @cons _ name _ _ hname h =>
      cases h with
      | @cons _ colon _ rest hcolon h =>
          refine ⟨⟨name, colon⟩, rest, rfl, ⟨hname, ?_⟩, h⟩
          obtain ⟨start, stop, token⟩ := colon
          cases hcolon
          rfl

namespace Written

lemma separated_itemSymbols_cons (w v : Written) (rest : List Written) :
    separated (itemSymbols (w :: v :: rest))
      = w.symbols ++ .comma :: separated (itemSymbols (v :: rest)) := rfl

lemma separated_entrySymbols_cons (gs : List Glyph) (w : Written) (e : List Glyph × Written)
    (rest : List (List Glyph × Written)) :
    separated (entrySymbols ((gs, w) :: e :: rest))
      = .text gs :: .colon :: (w.symbols ++ .comma :: separated (entrySymbols (e :: rest))) := rfl

end Written

open Written in
mutual

/-- **The machine takes what is written as one node.** -/
theorem State.run_written (endOfText : Lexeme) : ∀ (w : Written) {ls : List Lexeme},
    ReadAs w.symbols ls → ∀ (stack : List Frame) (rest : List Lexeme), ∃ node : Node,
      node.Shows w ∧ State.run endOfText (.value stack) (ls ++ rest)
        = State.run endOfText (.give node stack) rest
  | .null, ls, h, stack, rest => by
      obtain ⟨start, stop, token, rfl, hs⟩ := ReadAs.single h
      cases hs
      exact ⟨_, .null start stop, rfl⟩
  | .bool b, ls, h, stack, rest => by
      obtain ⟨start, stop, token, rfl, hs⟩ := ReadAs.single h
      cases hs
      exact ⟨_, .bool start stop b, rfl⟩
  | .number f, ls, h, stack, rest => by
      obtain ⟨start, stop, token, rfl, hs⟩ := ReadAs.single h
      cases hs with
      | number hv => exact ⟨_, .number start stop hv, rfl⟩
  | .text gs, ls, h, stack, rest => by
      obtain ⟨start, stop, token, rfl, hs⟩ := ReadAs.single h
      cases hs with
      | text hv => exact ⟨_, .text start stop hv, rfl⟩
  | .array items, ls, h, stack, rest => by
      cases h with
      | @cons _ l _ ls hopen h =>
          obtain ⟨start, stop, token⟩ := l
          cases hopen
          by_cases hitems : items = []
          · subst hitems
            obtain ⟨first, last, token, rfl, hclose⟩ := ReadAs.single h
            cases hclose
            exact ⟨_, .array start last .nil, rfl⟩
          · obtain ⟨nodes, last, hnodes, hrun⟩ := State.run_items endOfText items hitems h
              (State.startsItem_arrayStart start) rest
            exact ⟨_, .array start last hnodes, hrun⟩
  | .object entries, ls, h, stack, rest => by
      cases h with
      | @cons _ l _ ls hopen h =>
          obtain ⟨start, stop, token⟩ := l
          cases hopen
          by_cases hentries : entries = []
          · subst hentries
            obtain ⟨first, last, token, rfl, hclose⟩ := ReadAs.single h
            cases hclose
            exact ⟨_, .object start last .nil, rfl⟩
          · obtain ⟨nodes, last, hnodes, hrun⟩ := State.run_entries endOfText entries hentries h
              (State.startsEntry_objectStart start) rest
            exact ⟨_, .object start last hnodes, hrun⟩

/-- The machine takes the items that are left, and closes the array. -/
theorem State.run_items (endOfText : Lexeme) : ∀ (items : List Written), items ≠ [] →
    ∀ {ls : List Lexeme}, ReadAs (separated (itemSymbols items) ++ [.closeBracket]) ls →
      ∀ {state : State} {start : Nat} {before : List Node} {stack : List Frame},
        state.StartsItem endOfText start before stack → ∀ (rest : List Lexeme),
          ∃ nodes stop, ItemsShow nodes items ∧ state.run endOfText (ls ++ rest)
            = State.run endOfText
              (.give (.array start (before.reverse ++ nodes) (.closed stop)) stack) rest
  | [], hne, ls, h, state, start, before, stack, hstate, rest => absurd rfl hne
  | [w], _, ls, h, state, start, before, stack, hstate, rest => by
      obtain ⟨front, back, rfl, hw, h⟩ := ReadAs.split h
      obtain ⟨first, stop, token, rfl, hclose⟩ := ReadAs.single h
      cases hclose
      obtain ⟨node, hnode, hrun⟩ := State.run_written endOfText w hw (.item start before :: stack)
        (⟨first, stop, .closeBracket⟩ :: rest)
      refine ⟨[node], stop, .cons hnode .nil, ?_⟩
      rw [List.append_assoc, hstate.run_symbols hw, List.singleton_append, hrun, ← List.reverse_cons]
      rfl
  | w :: v :: items, _, ls, h, state, start, before, stack, hstate, rest => by
      rw [separated_itemSymbols_cons, List.append_assoc] at h
      obtain ⟨front, back, rfl, hw, h⟩ := ReadAs.split h
      cases h with
      | @cons _ l _ back hcomma hitems =>
          obtain ⟨first, after, token⟩ := l
          cases hcomma
          obtain ⟨node, hnode, hrun⟩ := State.run_written endOfText w hw
            (.item start before :: stack) (⟨first, after, .comma⟩ :: (back ++ rest))
          obtain ⟨nodes, stop, hnodes, hclose⟩ := State.run_items endOfText (v :: items) (by simp)
            hitems (State.startsItem_itemStart start (node :: before)) rest
          refine ⟨node :: nodes, stop, .cons hnode hnodes, ?_⟩
          rw [List.append_assoc, hstate.run_symbols hw, List.cons_append, hrun]
          refine hclose.trans ?_
          rw [List.reverse_cons, List.append_assoc, List.singleton_append]

/-- The machine takes the entries that are left, and closes the object. -/
theorem State.run_entries (endOfText : Lexeme) : ∀ (entries : List (List Glyph × Written)),
    entries ≠ [] → ∀ {ls : List Lexeme},
      ReadAs (separated (entrySymbols entries) ++ [.closeBrace]) ls →
      ∀ {state : State} {start : Nat} {before : List (Key × Node)} {stack : List Frame},
        state.StartsEntry endOfText start before stack → ∀ (rest : List Lexeme),
          ∃ nodes stop, EntriesShow nodes entries ∧ state.run endOfText (ls ++ rest)
            = State.run endOfText
              (.give (.object start (before.reverse ++ nodes) (.closed stop)) stack) rest
  | [], hne, ls, h, state, start, before, stack, hstate, rest => absurd rfl hne
  | [(gs, w)], _, ls, h, state, start, before, stack, hstate, rest => by
      obtain ⟨k, ls, rfl, hk, h⟩ := ReadAs.key h
      obtain ⟨front, back, rfl, hw, h⟩ := ReadAs.split h
      obtain ⟨first, stop, token, rfl, hclose⟩ := ReadAs.single h
      cases hclose
      obtain ⟨node, hnode, hrun⟩ := State.run_written endOfText w hw (.entry start before k :: stack)
        (⟨first, stop, .closeBrace⟩ :: rest)
      refine ⟨[(k, node)], stop, .cons hk hnode .nil, ?_⟩
      rw [List.cons_append, List.cons_append, hstate.run_key hk, List.append_assoc,
        List.singleton_append, hrun, ← List.reverse_cons]
      rfl
  | (gs, w) :: e :: entries, _, ls, h, state, start, before, stack, hstate, rest => by
      rw [separated_entrySymbols_cons, List.cons_append, List.cons_append, List.append_assoc] at h
      obtain ⟨k, ls, rfl, hk, h⟩ := ReadAs.key h
      obtain ⟨front, back, rfl, hw, h⟩ := ReadAs.split h
      cases h with
      | @cons _ l _ back hcomma hentries =>
          obtain ⟨first, after, token⟩ := l
          cases hcomma
          obtain ⟨node, hnode, hrun⟩ := State.run_written endOfText w hw
            (.entry start before k :: stack) (⟨first, after, .comma⟩ :: (back ++ rest))
          obtain ⟨nodes, stop, hnodes, hclose⟩ := State.run_entries endOfText (e :: entries)
            (by simp) hentries (State.startsEntry_entryStart start ((k, node) :: before)) rest
          refine ⟨(k, node) :: nodes, stop, .cons hk hnode hnodes, ?_⟩
          rw [List.cons_append, List.cons_append, hstate.run_key hk, List.append_assoc,
            List.cons_append, hrun]
          refine hclose.trans ?_
          rw [List.reverse_cons, List.append_assoc, List.singleton_append]

end

end ClusterBroker.Json
