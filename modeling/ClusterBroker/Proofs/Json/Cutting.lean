import ClusterBroker.Proofs.Json.Spelling.Number
import ClusterBroker.Proofs.Json.Spelling.Text
import Mathlib.Data.List.Chain

/-!
# A text is cut into its symbols

`Symbol.Reads` says which token is made of a symbol, and `Symbol.lexeme` which lexeme is cut where it
is spelled.  Cutting goes in both directions again.

**What is cut was spelled.**  Whatever a text is, its lexemes are made of symbols, except for the last
one if it is broken: `Lexed` follows a text and its lexemes side by side, and
`lexed_lexemesFrom` says that this is what happens to every text.

**What is spelled is cut.**  `reads_lexemesFrom` is about symbols with blanks between them.  Two
numbers without a mark between them would not be told apart, so symbols have to be `Apart`, which
those of a written value are (`Written.apart_symbols`).
-/

namespace ClusterBroker.Json

/-! ## Symbols and tokens -/

/-- The token that is made of a symbol.  Numbers and texts have their values, if there are any. -/
inductive Symbol.Reads : Symbol → Token → Prop where
  | openBrace : Reads .openBrace .openBrace
  | closeBrace : Reads .closeBrace .closeBrace
  | openBracket : Reads .openBracket .openBracket
  | closeBracket : Reads .closeBracket .closeBracket
  | colon : Reads .colon .colon
  | comma : Reads .comma .comma
  | null : Reads .null .null
  | bool (b : Bool) : Reads (.bool b) (.bool b)
  | number {f : Figure} {v : Except Fault Number} :
    v.toOption = f.value? → Reads (.number f) (.number v)
  | text {gs : List Glyph} {v : Except Fault String} :
    v.toOption = textValue? gs → Reads (.text gs) (.text v)

/-- The token of a symbol that is spelled at a byte offset. -/
def Symbol.token (start : Nat) : Symbol → Token
  | .openBrace => .openBrace
  | .closeBrace => .closeBrace
  | .openBracket => .openBracket
  | .closeBracket => .closeBracket
  | .colon => .colon
  | .comma => .comma
  | .null => .null
  | .bool b => .bool b
  | .number f => .number (f.form start).value
  | .text gs => .text (String.ofList <$> decodeAt (start + 1) gs)

/-- The lexeme of a symbol that is spelled at a byte offset. -/
def Symbol.lexeme (start : Nat) (s : Symbol) : Lexeme :=
  ⟨start, start + byteCount s.chars, s.token start⟩

lemma Symbol.reads_token (start : Nat) (s : Symbol) : s.Reads (s.token start) := by
  cases s with
  | number f => exact .number (f.value_form start)
  | text gs => exact .text (by rw [toOption_map, toOption_decodeAt]; rfl)
  | _ => constructor

/-- Whether a token is broken, so that nothing after it is cut. -/
def Token.isBroken : Token → Bool
  | .brokenWord _ | .brokenNumber _ _ | .brokenText _ _ | .stray => true
  | _ => false

/-! ## What is cut was spelled -/

lemma wordFault?_eq_none {offset : Nat} {expected found : List Char}
    (h : wordFault? offset expected found = none) : ∃ rest, found = expected ++ rest := by
  induction expected generalizing offset found with
  | nil => exact ⟨found, rfl⟩
  | cons e es ih =>
      cases found with
      | nil => cases h
      | cons c cs =>
          rw [wordFault?] at h
          split at h
          next heq =>
            obtain ⟨rest, rfl⟩ := ih h
            exact ⟨rest, by rw [heq, List.cons_append]⟩
          next => cases h

/-- What a cut makes of the characters from its first one on. -/
def Cut.Takes (cs : List Char) : Cut → Prop
  | .whole token _ following => ∃ (s : Symbol) (rest : List Char),
    cs = s.chars ++ rest ∧ s.chars.length = following + 1 ∧ s.Reads token
  | .broken token => token.isBroken = true

lemma takes_cutMark {token : Token} {s : Symbol} {c : Char} (hs : s.Reads token)
    (hchars : s.chars = [c]) (offset : Nat) (cs : List Char) :
    (cutMark offset token).Takes (c :: cs) :=
  ⟨s, cs, by rw [hchars]; rfl, by rw [hchars]; rfl, hs⟩

lemma takes_cutWord {token : Token} {s : Symbol} {c : Char} {expected : List Char}
    (hs : s.Reads token) (hchars : s.chars = c :: expected) (offset : Nat) (cs : List Char) :
    (cutWord offset token expected cs).Takes (c :: cs) := by
  unfold cutWord
  split
  next h =>
    obtain ⟨rest, rfl⟩ := wordFault?_eq_none h
    exact ⟨s, rest, by rw [hchars]; rfl, by rw [hchars]; rfl, hs⟩
  next => rfl

lemma takes_cutText (offset : Nat) (cs : List Char) : (cutText offset cs).Takes ('"' :: cs) := by
  unfold cutText
  dsimp only
  split
  next e hskim =>
    obtain ⟨gs, rest, rfl, hlength⟩ := endsText_of_skimText hskim
    refine ⟨.text gs, rest, by simp [Symbol.chars], ?_, ?_⟩
    · simp only [Symbol.chars, List.length_cons, List.length_append, List.length_nil, hlength]
    · rw [decodeText_glyphs]
      exact Symbol.reads_token offset (.text gs)
  next => split <;> rfl

lemma Figure.length_chars_pos (f : Figure) : 0 < f.chars.length := by
  obtain ⟨c, ds, hds, -⟩ := f.exists_whole
  simp only [chars, hds, List.length_append, List.length_cons]
  omega

lemma takes_cutNumber (offset : Nat) (cs : List Char) : (cutNumber offset cs).Takes cs := by
  unfold cutNumber
  split
  next form hread =>
    obtain ⟨f, rest, rfl, rfl⟩ := NumberForm.figure_of_read hread
    have hpos := f.length_chars_pos
    refine ⟨.number f, rest, rfl, ?_, .number (f.value_form offset)⟩
    simp only [Symbol.chars, Figure.form]
    omega
  next => rfl

/-- **What is cut is spelled as a symbol.** -/
theorem takes_cut (offset : Nat) (c : Char) (cs : List Char) : (cut offset c cs).Takes (c :: cs) := by
  unfold cut
  split
  · exact takes_cutMark .openBrace rfl offset cs
  · exact takes_cutMark .closeBrace rfl offset cs
  · exact takes_cutMark .openBracket rfl offset cs
  · exact takes_cutMark .closeBracket rfl offset cs
  · exact takes_cutMark .colon rfl offset cs
  · exact takes_cutMark .comma rfl offset cs
  · exact takes_cutWord .null rfl offset cs
  · exact takes_cutWord (.bool true) rfl offset cs
  · exact takes_cutWord (.bool false) rfl offset cs
  · exact takes_cutText offset cs
  · split
    · exact takes_cutNumber offset _
    · rfl

/-- A text and its lexemes side by side. -/
inductive Lexed : List Char → List Lexeme → Prop where
  | nil {blanks : List Char} : (∀ c ∈ blanks, isSpace c = true) → Lexed blanks []
  | cons {blanks : List Char} {s : Symbol} {l : Lexeme} {text : List Char} {ls : List Lexeme} :
    (∀ c ∈ blanks, isSpace c = true) → s.Reads l.token → Lexed text ls →
      Lexed (blanks ++ (s.chars ++ text)) (l :: ls)
  | broken (text : List Char) {l : Lexeme} : l.token.isBroken = true → Lexed text [l]

lemma Lexed.blank {c : Char} (hc : isSpace c = true) {text : List Char} {ls : List Lexeme}
    (h : Lexed text ls) : Lexed (c :: text) ls := by
  cases h with
  | nil hblanks => exact .nil (List.forall_mem_cons.2 ⟨hc, hblanks⟩)
  | @cons blanks s l text ls hblanks hs htext =>
      exact @Lexed.cons (c :: blanks) s l text ls (List.forall_mem_cons.2 ⟨hc, hblanks⟩) hs htext
  | broken text hbroken => exact .broken (c :: text) hbroken

/-- Characters that belong to a lexeme already cut are passed over. -/
lemma lexemesFrom_append (taken rest : List Char) (offset : Nat) :
    lexemesFrom taken.length offset (taken ++ rest)
      = lexemesFrom 0 (offset + byteCount taken) rest := by
  induction taken generalizing offset with
  | nil => rfl
  | cons c taken ih =>
      rw [List.length_cons, List.cons_append, lexemesFrom, ih, byteCount, Nat.add_assoc]

/-- A symbol that was cut, before characters that are cut well. -/
lemma Cut.Takes.lexed {c : Char} {cs : List Char} {token : Token} {stop following : Nat}
    (h : (Cut.whole token stop following).Takes (c :: cs))
    (hrest : ∀ rest : List Char, rest.length ≤ cs.length → ∀ later : Nat,
      Lexed rest (lexemesFrom 0 later rest)) (start offset : Nat) :
    Lexed (c :: cs) (⟨start, stop, token⟩ :: lexemesFrom following offset cs) := by
  obtain ⟨s, rest, hchars, hlength, hs⟩ := h
  cases hspelled : s.chars with
  | nil =>
      rw [hspelled] at hlength
      cases hlength
  | cons d tail =>
      rw [hspelled, List.length_cons] at hlength
      rw [hspelled, List.cons_append] at hchars
      obtain ⟨rfl, rfl⟩ := List.cons.inj hchars
      obtain rfl : tail.length = following := Nat.succ.inj hlength
      have hle : rest.length ≤ (tail ++ rest).length := by
        rw [List.length_append]
        omega
      rw [lexemesFrom_append, ← List.cons_append, ← hspelled]
      exact @Lexed.cons [] s ⟨start, stop, token⟩ rest _ (by simp) hs (hrest rest hle _)

/-- **Whatever a text is, its lexemes are made of its symbols**, up to the first broken one. -/
theorem lexed_lexemesFrom (text : List Char) (offset : Nat) :
    Lexed text (lexemesFrom 0 offset text) := by
  induction hn : text.length using Nat.strongRecOn generalizing text offset with
  | ind n ih =>
      cases text with
      | nil => exact .nil (by simp)
      | cons c cs =>
          have hrest (rest : List Char) (hle : rest.length ≤ cs.length) (later : Nat) :
              Lexed rest (lexemesFrom 0 later rest) := by
            refine ih rest.length ?_ rest later rfl
            rw [← hn, List.length_cons]
            omega
          rw [lexemesFrom]
          split
          next hspace => exact (hrest cs (Nat.le_refl _) _).blank hspace
          next hspace =>
            have htakes := takes_cut offset c cs
            generalize cut offset c cs = made at htakes
            cases made with
            | broken token => exact .broken _ htakes
            | whole token stop following => exact htakes.lexed hrest _ _

/-! ## What is spelled is cut -/

lemma cutText_glyphs (offset : Nat) (gs : List Glyph) (rest : List Char) :
    cutText offset (gs.flatMap Glyph.chars ++ ['"'] ++ rest)
      = .whole ((Symbol.text gs).token offset) (offset + byteCount (Symbol.text gs).chars)
        (gs.flatMap Glyph.chars ++ ['"']).length := by
  have hstop : offset + 1 + byteCount (gs.flatMap Glyph.chars) + 1
      = offset + byteCount (Symbol.text gs).chars := by
    have hquote : byteCount ['"'] = 1 := by decide
    rw [Symbol.chars, ← List.singleton_append, byteCount_append, byteCount_append, hquote]
    omega
  rw [List.append_assoc, List.singleton_append]
  simp only [cutText, skimText_glyphs, decodeText_glyphs, hstop, List.length_append]
  rfl

lemma isSpace_cases {c : Char} (h : isSpace c = true) :
    c = ' ' ∨ c = '\n' ∨ c = '\t' ∨ c = '\r' := by
  simpa [isSpace, or_assoc] using h

/-- A digit is cut as the start of a number, and so is a minus sign. -/
lemma cut_number {c : Char} (hc : c = '-' ∨ c.isDigit = true) (offset : Nat) (cs : List Char) :
    isSpace c = false ∧ cut offset c cs = cutNumber offset (c :: cs) := by
  constructor
  · cases hspace : isSpace c with
    | false => rfl
    | true => rcases isSpace_cases hspace with rfl | rfl | rfl | rfl <;> simp at hc
  · unfold cut
    split
    all_goals first | (exfalso; revert hc; decide) | skip
    rw [if_pos hc]

lemma Figure.head_chars (f : Figure) :
    ∃ c cs, f.chars = c :: cs ∧ (c = '-' ∨ c.isDigit = true) := by
  obtain ⟨c, ds, hds, hc⟩ := f.exists_whole
  unfold chars
  cases f.negative with
  | true => exact ⟨'-', _, rfl, .inl rfl⟩
  | false => exact ⟨c, _, by rw [hds]; rfl, .inr hc⟩

/-- Whether a symbol is a number. -/
def Symbol.isNumber : Symbol → Bool
  | .number _ => true
  | _ => false

/-- **A symbol is cut where it is spelled**, unless it is a number that could go on. -/
theorem cut_symbol (s : Symbol) {rest : List Char} (hr : s.isNumber = true → EndsNumber rest)
    (offset : Nat) : ∃ c cs, s.chars = c :: cs ∧ isSpace c = false ∧
      cut offset c (cs ++ rest)
        = .whole (s.token offset) (offset + byteCount s.chars) cs.length := by
  cases s with
  | number f =>
      obtain ⟨c, cs, hchars, hc⟩ := f.head_chars
      obtain ⟨hspace, hcut⟩ := cut_number hc offset (cs ++ rest)
      refine ⟨c, cs, hchars, hspace, ?_⟩
      have hfollowing : f.chars.length - 1 = cs.length := by simp [hchars]
      rw [hcut, cutNumber, ← List.cons_append, ← hchars, NumberForm.read_figure offset f (hr rfl)]
      simp only [Symbol.token, Symbol.chars, f.narrow_chars.byteCount, Figure.form,
        Nat.add_sub_cancel_left, hfollowing]
  | text gs => exact ⟨_, _, rfl, rfl, cutText_glyphs offset gs rest⟩
  | bool b => cases b <;> exact ⟨_, _, rfl, rfl, rfl⟩
  | _ => exact ⟨_, _, rfl, rfl, rfl⟩

/-- The lexeme at the start of a spelled symbol. -/
lemma lexemesFrom_symbol (s : Symbol) {rest : List Char}
    (hr : s.isNumber = true → EndsNumber rest) (offset : Nat) :
    lexemesFrom 0 offset (s.chars ++ rest)
      = s.lexeme offset :: lexemesFrom 0 (offset + byteCount s.chars) rest := by
  obtain ⟨c, cs, hchars, hspace, hcut⟩ := cut_symbol s hr offset
  have hlater : offset + byteCount s.chars = offset + c.utf8Size + byteCount cs := by
    rw [hchars, byteCount, Nat.add_assoc]
  rw [Symbol.lexeme, hlater, ← lexemesFrom_append cs rest, hchars, List.cons_append, lexemesFrom,
    hspace, hcut, hlater]
  rfl

lemma lexemesFrom_blanks {blanks : List Char} (h : ∀ c ∈ blanks, isSpace c = true)
    (rest : List Char) (offset : Nat) :
    lexemesFrom 0 offset (blanks ++ rest) = lexemesFrom 0 (offset + blanks.length) rest := by
  induction blanks generalizing offset with
  | nil => rfl
  | cons c blanks ih =>
      obtain ⟨hc, hblanks⟩ := List.forall_mem_cons.1 h
      rw [List.cons_append, lexemesFrom, if_pos hc, ih hblanks, List.length_cons]
      congr 1
      omega

/-! ## Symbols apart -/

/-- Whether a symbol is a punctuation mark. -/
def Symbol.isMark : Symbol → Bool
  | .openBrace | .closeBrace | .openBracket | .closeBracket | .colon | .comma => true
  | _ => false

/-- Of each two neighbours one is a mark. -/
def Apart (ss : List Symbol) : Prop :=
  ss.IsChain fun a b => a.isMark = true ∨ b.isMark = true

lemma endsNumber_cons {c : Char} (h : c.isDigit = false ∧ c ≠ '.' ∧ c ≠ 'e' ∧ c ≠ 'E')
    (rest : List Char) : EndsNumber (c :: rest) := by
  intro d hd
  obtain rfl : c = d := by simpa using hd
  exact h

lemma endsNumber_of_isSpace {c : Char} (h : isSpace c = true) (rest : List Char) :
    EndsNumber (c :: rest) := by
  refine endsNumber_cons ?_ rest
  rcases isSpace_cases h with rfl | rfl | rfl | rfl <;> decide

lemma endsNumber_of_isMark {s : Symbol} (h : s.isMark = true) (rest : List Char) :
    EndsNumber (s.chars ++ rest) := by
  cases s <;> first | exact endsNumber_cons (by decide) _ | cases h

/-- No number goes on before a mark. -/
lemma Spaced.endsNumber {ss : List Symbol} {text : List Char} (h : Spaced ss text)
    (hmark : ∀ s ∈ ss.head?, s.isMark = true) : EndsNumber text := by
  cases h with
  | nil hblanks =>
      cases text with
      | nil => simp [EndsNumber]
      | cons c blanks => exact endsNumber_of_isSpace (hblanks c (by simp)) blanks
  | @cons blanks s rest text hblanks hrest =>
      cases blanks with
      | nil => exact endsNumber_of_isMark (hmark s rfl) text
      | cons c blanks => exact endsNumber_of_isSpace (hblanks c (by simp)) _

/-- No number goes on in the symbols after it. -/
lemma Spaced.ends {s : Symbol} {rest : List Symbol} {text : List Char} (h : Spaced rest text)
    (hapart : Apart (s :: rest)) : s.isNumber = true → EndsNumber text := by
  intro hnumber
  refine h.endsNumber fun t ht => ((List.isChain_cons.1 hapart).1 t ht).resolve_left ?_
  cases s with
  | number f => simp [Symbol.isMark]
  | _ => cases hnumber

lemma lexemesFrom_of_blanks {blanks : List Char} (h : ∀ c ∈ blanks, isSpace c = true)
    (offset : Nat) : lexemesFrom 0 offset blanks = [] := by
  rw [← List.append_nil blanks, lexemesFrom_blanks h, lexemesFrom]

/-- **Symbols that are apart are cut where they are spelled.** -/
theorem reads_lexemesFrom {ss : List Symbol} {text : List Char} (h : Spaced ss text)
    (hapart : Apart ss) (offset : Nat) :
    List.Forall₂ (fun s l => s.Reads l.token) ss (lexemesFrom 0 offset text) := by
  induction h generalizing offset with
  | nil hblanks =>
      rw [lexemesFrom_of_blanks hblanks]
      exact .nil
  | @cons blanks s rest text hblanks hrest ih =>
      rw [lexemesFrom_blanks hblanks, lexemesFrom_symbol s (hrest.ends hapart)]
      exact .cons (s.reads_token _) (ih (List.isChain_cons.1 hapart).2 _)

lemma apart_cons {m : Symbol} (hm : m.isMark = true) {ss : List Symbol} (h : Apart ss) :
    Apart (m :: ss) :=
  List.isChain_cons.2 ⟨fun _ _ => .inl hm, h⟩

lemma apart_append {m : Symbol} (hm : m.isMark = true) {before after : List Symbol}
    (hbefore : Apart before) (hafter : Apart after) : Apart (before ++ m :: after) := by
  refine List.isChain_append.2 ⟨hbefore, apart_cons hm hafter, fun _ _ s hs => .inr ?_⟩
  obtain rfl : m = s := by simpa using hs
  exact hm

lemma apart_separated {runs : List (List Symbol)} (h : ∀ run ∈ runs, Apart run) :
    Apart (separated runs) := by
  fun_induction separated runs with
  | case1 => exact .nil
  | case2 run => exact h run (by simp)
  | case3 run next rest ih =>
      obtain ⟨hrun, hrest⟩ := List.forall_mem_cons.1 h
      exact apart_append rfl hrun (ih hrest)

namespace Written

mutual

/-- **The symbols of a written value are apart.** -/
theorem apart_symbols : ∀ w : Written, Apart w.symbols
  | .null => List.isChain_singleton _
  | .bool _ => List.isChain_singleton _
  | .number _ => List.isChain_singleton _
  | .text _ => List.isChain_singleton _
  | .array items =>
    apart_cons rfl (apart_append rfl (apart_separated (apart_itemSymbols items)) .nil)
  | .object entries =>
    apart_cons rfl (apart_append rfl (apart_separated (apart_entrySymbols entries)) .nil)

theorem apart_itemSymbols : ∀ items : List Written, ∀ run ∈ itemSymbols items, Apart run
  | [] => by simp [itemSymbols]
  | w :: rest => List.forall_mem_cons.2 ⟨w.apart_symbols, apart_itemSymbols rest⟩

theorem apart_entrySymbols :
    ∀ entries : List (List Glyph × Written), ∀ run ∈ entrySymbols entries, Apart run
  | [] => by simp [entrySymbols]
  | (key, w) :: rest =>
    List.forall_mem_cons.2
      ⟨@apart_append .colon rfl [.text key] w.symbols (List.isChain_singleton _) w.apart_symbols,
        apart_entrySymbols rest⟩

end

end Written

end ClusterBroker.Json
