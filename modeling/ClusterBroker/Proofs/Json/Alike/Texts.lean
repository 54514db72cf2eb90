import ClusterBroker.Proofs.Json.Cutting

/-!
# Texts that differ in some scalars

Two texts may spell the same syntax but for some numbers and texts, in whose place stand others of
the same kind and of the same size.  Which scalar may stand for which is left open: `swap` relates
them.

**What is written.**  `Written.Alike` is about syntax, and `SpacedAlike` about texts that have the
same blanks.  Keys are not swapped.

**Lexemes.**  Such texts have the same lexemes at the same places, but for the swapped ones
(`SpacedAlike.lexemes`).  A swapped lexeme is a value, so no colon follows it.

**Places.**  An offset is the same place in both (`SpacedAlike.advance`).
-/

namespace ClusterBroker.Json

/-! ## Scalars -/

/-- A scalar and one that stands in its place, which is of the same kind and takes as many bytes. -/
inductive Symbol.Swapped (swap : Symbol → Symbol → Prop) : Symbol → Symbol → Prop where
  | number {f f' : Figure} : swap (.number f) (.number f') →
    byteCount (Symbol.number f).chars = byteCount (Symbol.number f').chars →
      Swapped swap (.number f) (.number f')
  | text {gs gs' : List Glyph} : swap (.text gs) (.text gs') →
    byteCount (Symbol.text gs).chars = byteCount (Symbol.text gs').chars →
      Swapped swap (.text gs) (.text gs')

variable {swap : Symbol → Symbol → Prop}

lemma Symbol.Swapped.related {s s' : Symbol} (h : s.Swapped swap s') : swap s s' := by
  cases h <;> assumption

lemma Symbol.Swapped.byteCount {s s' : Symbol} (h : s.Swapped swap s') :
    byteCount s.chars = byteCount s'.chars := by
  cases h <;> assumption

/-! ## What is written -/

mutual

/-- Syntax with scalars swapped, anywhere but in keys. -/
inductive Written.Alike (swap : Symbol → Symbol → Prop) : Written → Written → Prop where
  | same (w : Written) : Alike swap w w
  | number {f f' : Figure} : (Symbol.number f).Swapped swap (.number f') →
    Alike swap (.number f) (.number f')
  | text {gs gs' : List Glyph} : (Symbol.text gs).Swapped swap (.text gs') →
    Alike swap (.text gs) (.text gs')
  | array {ws ws' : List Written} : ItemsAlike swap ws ws' → Alike swap (.array ws) (.array ws')
  | object {es es' : List (List Glyph × Written)} : EntriesAlike swap es es' →
    Alike swap (.object es) (.object es')

/-- Items with scalars swapped. -/
inductive Written.ItemsAlike (swap : Symbol → Symbol → Prop) :
    List Written → List Written → Prop where
  | nil : ItemsAlike swap [] []
  | cons {w w' : Written} {ws ws' : List Written} : Alike swap w w' → ItemsAlike swap ws ws' →
    ItemsAlike swap (w :: ws) (w' :: ws')

/-- Entries with scalars swapped, under the same keys. -/
inductive Written.EntriesAlike (swap : Symbol → Symbol → Prop) :
    List (List Glyph × Written) → List (List Glyph × Written) → Prop where
  | nil : EntriesAlike swap [] []
  | cons (key : List Glyph) {w w' : Written} {es es' : List (List Glyph × Written)} :
    Alike swap w w' → EntriesAlike swap es es' →
      EntriesAlike swap ((key, w) :: es) ((key, w') :: es')

end

/-- Symbols side by side: the same ones, but for scalars that are swapped.  These are not keys. -/
inductive Symbol.Parallel (swap : Symbol → Symbol → Prop) :
    List Symbol → List Symbol → Prop where
  | nil : Parallel swap [] []
  | same (s : Symbol) {ss ss' : List Symbol} : Parallel swap ss ss' →
    Parallel swap (s :: ss) (s :: ss')
  | swapped {s s' : Symbol} {ss ss' : List Symbol} : s.Swapped swap s' → ss.head? ≠ some .colon →
    Parallel swap ss ss' → Parallel swap (s :: ss) (s' :: ss')

lemma Symbol.Parallel.append (common : List Symbol) {ss ss' : List Symbol}
    (h : Parallel swap ss ss') : Parallel swap (common ++ ss) (common ++ ss') := by
  induction common with
  | nil => exact h
  | cons s common ih => exact .same s ih

namespace Written

mutual

/-- **Alike syntax is written with the same symbols**, but for the swapped ones. -/
theorem Alike.parallel : ∀ {w w' : Written}, w.Alike swap w' → ∀ {ss ss' : List Symbol},
    ss.head? ≠ some .colon → Symbol.Parallel swap ss ss' →
      Symbol.Parallel swap (w.symbols ++ ss) (w'.symbols ++ ss')
  | w, _, .same _, ss, ss', _, hss => hss.append w.symbols
  | _, _, .number h, ss, ss', hhead, hss => .swapped h hhead hss
  | _, _, .text h, ss, ss', hhead, hss => .swapped h hhead hss
  | _, _, .array h, ss, ss', _, hss => by
      simp only [symbols, List.cons_append, List.append_assoc, List.nil_append]
      exact .same _ (h.parallel (by simp) (.same .closeBracket hss))
  | _, _, .object h, ss, ss', _, hss => by
      simp only [symbols, List.cons_append, List.append_assoc, List.nil_append]
      exact .same _ (h.parallel (by simp) (.same .closeBrace hss))

theorem ItemsAlike.parallel : ∀ {ws ws' : List Written}, ItemsAlike swap ws ws' →
    ∀ {ss ss' : List Symbol}, ss.head? ≠ some .colon → Symbol.Parallel swap ss ss' →
      Symbol.Parallel swap (separated (itemSymbols ws) ++ ss) (separated (itemSymbols ws') ++ ss')
  | _, _, .nil, ss, ss', _, hss => hss
  | _, _, .cons hw .nil, ss, ss', hhead, hss => hw.parallel hhead hss
  | _, _, .cons hw (.cons hv hws), ss, ss', hhead, hss => by
      simp only [itemSymbols, separated, List.append_assoc, List.cons_append]
      exact hw.parallel (by simp) (.same .comma ((ItemsAlike.cons hv hws).parallel hhead hss))

theorem EntriesAlike.parallel : ∀ {es es' : List (List Glyph × Written)}, EntriesAlike swap es es' →
    ∀ {ss ss' : List Symbol}, ss.head? ≠ some .colon → Symbol.Parallel swap ss ss' →
      Symbol.Parallel swap (separated (entrySymbols es) ++ ss) (separated (entrySymbols es') ++ ss')
  | _, _, .nil, ss, ss', _, hss => hss
  | _, _, .cons key hw .nil, ss, ss', hhead, hss =>
    .same (.text key) (.same .colon (hw.parallel hhead hss))
  | _, _, .cons key hw (.cons key' hv hes), ss, ss', hhead, hss => by
      simp only [entrySymbols, separated, List.append_assoc, List.cons_append]
      exact .same (.text key) (.same .colon (hw.parallel (by simp)
        (.same .comma ((EntriesAlike.cons key' hv hes).parallel hhead hss))))

end

/-- Alike syntax on its own. -/
theorem Alike.symbols {w w' : Written} (h : w.Alike swap w') :
    Symbol.Parallel swap w.symbols w'.symbols := by
  simpa using h.parallel (by simp) .nil

end Written

/-! ## Texts -/

/-- Symbols of two texts, with the same blanks before, between and after them. -/
inductive SpacedAlike : (ss ss' : List Symbol) → (text text' : List Char) → Prop where
  | nil {blanks : List Char} : (∀ c ∈ blanks, isSpace c = true) → SpacedAlike [] [] blanks blanks
  | cons {blanks : List Char} {s s' : Symbol} {ss ss' : List Symbol} {text text' : List Char} :
    (∀ c ∈ blanks, isSpace c = true) → SpacedAlike ss ss' text text' →
      SpacedAlike (s :: ss) (s' :: ss') (blanks ++ (s.chars ++ text))
        (blanks ++ (s'.chars ++ text'))

section Spaced

variable {ss ss' : List Symbol} {text text' : List Char}

lemma SpacedAlike.left (h : SpacedAlike ss ss' text text') : Spaced ss text := by
  induction h with
  | nil hblanks => exact .nil hblanks
  | cons hblanks _ ih => exact .cons hblanks ih

lemma SpacedAlike.right (h : SpacedAlike ss ss' text text') : Spaced ss' text' := by
  induction h with
  | nil hblanks => exact .nil hblanks
  | cons hblanks _ ih => exact .cons hblanks ih

/-- Without blanks symbols are spelled alike. -/
lemma Symbol.Parallel.spaced (h : Parallel swap ss ss') :
    SpacedAlike ss ss' (ss.flatMap Symbol.chars) (ss'.flatMap Symbol.chars) := by
  have hblanks : ∀ c ∈ ([] : List Char), isSpace c = true := by simp
  induction h with
  | nil => exact .nil hblanks
  | same s _ ih => exact .cons hblanks ih
  | swapped _ _ _ ih => exact .cons hblanks ih

/-- **Texts that are alike take as many bytes.** -/
theorem SpacedAlike.byteCount (h : SpacedAlike ss ss' text text')
    (hss : Symbol.Parallel swap ss ss') : byteCount text = byteCount text' := by
  induction h with
  | nil => rfl
  | cons _ _ ih =>
      cases hss with
      | same s hss => simp only [byteCount_append, ih hss]
      | swapped hs _ hss => simp only [byteCount_append, ih hss, hs.byteCount]

/-- **An offset is the same place in texts that are alike.** -/
theorem SpacedAlike.advance (h : SpacedAlike ss ss' text text')
    (hss : Symbol.Parallel swap ss ss') (p : Place) (offset : Nat) :
    p.advance offset text = p.advance offset text' := by
  have hcommon (front : List Char) {text text' : List Char}
      (h : ∀ (p : Place) (offset : Nat), p.advance offset text = p.advance offset text')
      (p : Place) (offset : Nat) :
      p.advance offset (front ++ text) = p.advance offset (front ++ text') := by
    induction front generalizing p offset with
    | nil => exact h p offset
    | cons c front ih => simp only [List.cons_append, Place.advance, ih]
  induction h generalizing p offset with
  | nil => rfl
  | @cons blanks s s' ss ss' text text' _ _ ih =>
      have hrest : ∀ (p : Place) (offset : Nat),
          p.advance offset (s.chars ++ text) = p.advance offset (s'.chars ++ text') := by
        intro p offset
        cases hss with
        | same _ hss => exact hcommon s.chars (ih hss) p offset
        | swapped hs _ hss =>
            rw [p.advance_append offset s.no_newline, p.advance_append offset s'.no_newline,
              hs.byteCount, ih hss]
      exact hcommon blanks hrest p offset

end Spaced

/-! ## Lexemes -/

/-- Lexemes side by side: the same ones, but for scalars that are swapped.  These are not keys. -/
inductive Lexeme.Parallel (swap : Symbol → Symbol → Prop) :
    List Lexeme → List Lexeme → Prop where
  | nil : Parallel swap [] []
  | same (l : Lexeme) {ls ls' : List Lexeme} : Parallel swap ls ls' →
    Parallel swap (l :: ls) (l :: ls')
  | swapped (start : Nat) {s s' : Symbol} {ls ls' : List Lexeme} : s.Swapped swap s' →
    (∀ l ∈ ls.head?, l.token ≠ .colon) → Parallel swap ls ls' →
      Parallel swap (s.lexeme start :: ls) (s'.lexeme start :: ls')

/-- Where no colon is spelled there is none. -/
lemma head_lexemesFrom {ss : List Symbol} {text : List Char} (h : Spaced ss text)
    (hapart : Apart ss) (hhead : ss.head? ≠ some .colon) (offset : Nat) :
    ∀ l ∈ (lexemesFrom 0 offset text).head?, l.token ≠ .colon := by
  have hreads := reads_lexemesFrom h hapart offset
  generalize lexemesFrom 0 offset text = ls at hreads
  cases hreads with
  | nil => simp
  | @cons s l ss ls hs hrest =>
      intro l' hl' hcolon
      obtain rfl : l = l' := by simpa using hl'
      rw [hcolon] at hs
      cases hs
      exact hhead rfl

/-- **Texts that are alike are cut at the same places**, into the same lexemes but for the swapped
ones. -/
theorem SpacedAlike.lexemes {ss ss' : List Symbol} {text text' : List Char}
    (h : SpacedAlike ss ss' text text') (hss : Symbol.Parallel swap ss ss') (hapart : Apart ss)
    (hapart' : Apart ss') (offset : Nat) :
    Lexeme.Parallel swap (lexemesFrom 0 offset text) (lexemesFrom 0 offset text') := by
  induction h generalizing offset with
  | nil hblanks =>
      rw [lexemesFrom_of_blanks hblanks]
      exact .nil
  | @cons blanks s s' ss ss' text text' hblanks hrest ih =>
      have hnext := (List.isChain_cons.1 hapart).2
      have hnext' := (List.isChain_cons.1 hapart').2
      rw [lexemesFrom_blanks hblanks, lexemesFrom_blanks hblanks,
        lexemesFrom_symbol s (hrest.left.ends hapart),
        lexemesFrom_symbol s' (hrest.right.ends hapart')]
      cases hss with
      | same _ hss => exact .same _ (ih hss hnext hnext' _)
      | swapped hs hhead hss =>
          rw [← hs.byteCount]
          exact .swapped _ hs (head_lexemesFrom hrest.left hnext hhead _) (ih hss hnext hnext' _)

end ClusterBroker.Json
