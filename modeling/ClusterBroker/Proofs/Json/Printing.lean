import ClusterBroker.Json.Printer
import ClusterBroker.Proofs.Json.Accepting

/-!
# Printed values are read back

The compact text of a value has that value again, as long as its numbers are integers of sixty-four
bits and its brackets do not nest too deep.

**Spelling.**  What is printed is spelled as the grammar wants it: `exists_glyphs` is about texts,
`exists_figure` about integers, and `exists_written` about whole values.

**Whole texts.**  `ofText_print` is the round trip, and by `render_inj` no two values share a text.
-/

namespace ClusterBroker.Json

/-! ## Values whose texts can be read -/

/-- The integers that fit sixty-four bits, with a sign or without. -/
def IsWord (n : Int) : Prop :=
  -(Decimal.twoTo 63 : Int) ≤ n ∧ n < Decimal.twoTo 64

mutual

/-- How deep brackets nest in a value. -/
def depth : Json → Nat
  | .array items => depthOfItems items + 1
  | .object entries => depthOfEntries entries + 1
  | _ => 0

/-- How deep brackets nest in items. -/
def depthOfItems : List Json → Nat
  | [] => 0
  | j :: rest => max j.depth (depthOfItems rest)

/-- How deep brackets nest in entries. -/
def depthOfEntries : List (String × Json) → Nat
  | [] => 0
  | (_, j) :: rest => max j.depth (depthOfEntries rest)

end

mutual

/-- Every number in a value is an integer of sixty-four bits. -/
def HasWords : Json → Prop
  | .number (.whole n) => IsWord n
  | .number (.real _ _) => False
  | .array items => ItemsHaveWords items
  | .object entries => EntriesHaveWords entries
  | _ => True

/-- Every number in some items is an integer of sixty-four bits. -/
def ItemsHaveWords : List Json → Prop
  | [] => True
  | j :: rest => j.HasWords ∧ ItemsHaveWords rest

/-- Every number in some entries is an integer of sixty-four bits. -/
def EntriesHaveWords : List (String × Json) → Prop
  | [] => True
  | (_, j) :: rest => j.HasWords ∧ EntriesHaveWords rest

end

/-! ## Texts -/

lemma hexDigits_four (n : Nat) :
    Text.hexDigits 4 n = [Text.hexDigit (n / 16 / 16 / 16 % 16), Text.hexDigit (n / 16 / 16 % 16),
      Text.hexDigit (n / 16 % 16), Text.hexDigit (n % 16)] := rfl

/-- A control character is escaped by four digits that stand for it. -/
lemma hexUnit?_hexDigits : ∀ n < 32,
    hexUnit? (Text.hexDigit (n / 16 / 16 / 16 % 16)) (Text.hexDigit (n / 16 / 16 % 16))
      (Text.hexDigit (n / 16 % 16)) (Text.hexDigit (n % 16)) = some n := by
  decide

/-- The characters that are escaped by a letter. -/
lemma unescape?_of_letterEscape? {c e : Char} (h : letterEscape? c = some e) :
    unescape? e = some c := by
  unfold letterEscape? at h
  split at h
  next hc =>
    obtain rfl : c = e := by simpa using h
    rcases hc with rfl | rfl <;> decide
  next =>
    repeat' split at h
    all_goals cases h
    all_goals
      subst_vars
      decide

/-- A character that is printed as it stands. -/
lemma plain_of_letterEscape? {c : Char} (h : letterEscape? c = none) : c ≠ '"' ∧ c ≠ '\\' := by
  constructor <;> rintro rfl <;> cases h

lemma not_surrogate {n : Nat} (h : n < 32) :
    isLowSurrogate n = false ∧ isHighSurrogate n = false := by
  simp only [isLowSurrogate, isHighSurrogate, Bool.and_eq_false_imp, decide_eq_true_eq]
  omega

/-- A printed character is a glyph that stands for it. -/
lemma exists_glyph (c : Char) :
    ∃ g : Glyph, g.chars = printChar c ∧ ∀ gs, decode? (g :: gs) = (c :: ·) <$> decode? gs := by
  unfold printChar
  cases hletter : letterEscape? c with
  | some e => exact ⟨.letter e c (unescape?_of_letterEscape? hletter), rfl, fun _ => rfl⟩
  | none =>
      obtain ⟨hquote, hslash⟩ := plain_of_letterEscape? hletter
      by_cases hlow : c.toNat < 32
      · obtain ⟨hl, hh⟩ := not_surrogate hlow
        refine ⟨.unit _ _ _ _ c.toNat (hexUnit?_hexDigits _ hlow), ?_, fun gs => ?_⟩
        · rw [Glyph.chars, if_pos hlow, hexDigits_four]
          rfl
        · conv_lhs => unfold decode?
          simp only [hl, hh, Bool.false_eq_true, if_false, Char.ofNat_toNat]
      · refine ⟨.plain c ⟨hquote, hslash, by omega⟩, ?_, fun _ => rfl⟩
        rw [if_neg hlow]
        rfl

/-- **A printed text is glyphs that stand for it.** -/
theorem exists_glyphs (s : String) :
    ∃ gs, (Symbol.text gs).chars = printText s ∧ textValue? gs = some s := by
  obtain ⟨gs, hchars, hdecode⟩ : ∃ gs, gs.flatMap Glyph.chars = s.toList.flatMap printChar ∧
      decode? gs = some s.toList := by
    induction s.toList with
    | nil => exact ⟨[], rfl, rfl⟩
    | cons c cs ih =>
        obtain ⟨g, hg, hvalue⟩ := exists_glyph c
        obtain ⟨gs, hchars, hdecode⟩ := ih
        refine ⟨g :: gs, by rw [List.flatMap_cons, List.flatMap_cons, hg, hchars], ?_⟩
        rw [hvalue, hdecode]
        rfl
  refine ⟨gs, by rw [Symbol.chars, printText, hchars], ?_⟩
  rw [textValue?, hdecode]
  exact congrArg some String.ofList_toList

/-! ## Integers -/

/-- Of the decimal digits of a number, the first one is zero only if the number is. -/
lemma toDigits_cases (n : Nat) : ∃ c ds, Nat.toDigits 10 n = c :: ds ∧ (c = '0' → n = 0) := by
  induction n using Nat.strongRecOn with
  | ind n ih =>
      by_cases h : n < 10
      · have hzero : ∀ n < 10, n.digitChar = '0' → n = 0 := by decide
        exact ⟨n.digitChar, [], Nat.toDigits_of_lt_base h, hzero n h⟩
      · obtain ⟨c, ds, hds, hzero⟩ := ih (n / 10) (by omega)
        refine ⟨c, ds ++ [(n % 10).digitChar], ?_, fun hc => ?_⟩
        · rw [Nat.toDigits_of_base_le (by decide) (by omega), hds]
          rfl
        · have := hzero hc
          omega

/-- A printed integer as it is spelled. -/
def Figure.ofWhole (n : Int) : Figure where
  negative := n < 0
  whole := Nat.toDigits 10 n.natAbs
  fraction := []
  exponent := none
  wholeIsDigits := by
    refine ⟨?_, fun c hc => Nat.isDigit_of_mem_toDigits (by decide) (by decide) hc⟩
    obtain ⟨c, ds, hds, -⟩ := toDigits_cases n.natAbs
    simp [hds]
  noLeadingZero := by
    intro hhead
    obtain ⟨c, ds, hds, hzero⟩ := toDigits_cases n.natAbs
    rw [hds] at hhead
    rw [hzero (by simpa using hhead), Nat.toDigits_zero]
  fractionIsDigits := by simp

/-- The sign and the digits of an integer have its value. -/
lemma wholeValue_natAbs {n : Int} (h : IsWord n) (stop : Nat) :
    wholeValue stop (decide (n < 0)) n.natAbs = .ok (.whole n) := by
  obtain ⟨hlow, -⟩ := h
  rw [wholeValue]
  by_cases hneg : n < 0
  · have hpos : 0 < n.natAbs ∧ n.natAbs ≤ Decimal.twoTo 63 := by omega
    have hn : -(n.natAbs : Int) = n := by omega
    rw [decide_eq_true hneg, if_neg (by decide), if_pos hpos, hn]
  · have hn : (n.natAbs : Int) = n := by omega
    rw [decide_eq_false hneg, if_pos (by decide), hn]

/-- **A printed integer is spelled with its sign and digits**, and has its value. -/
theorem exists_figure {n : Int} (h : IsWord n) :
    ∃ f : Figure, f.chars = printWhole n ∧ f.value? = some (.whole n) := by
  refine ⟨Figure.ofWhole n, ?_, ?_⟩
  · by_cases hneg : n < 0 <;>
      simp [Figure.chars, Figure.ofWhole, signChars, fractionChars, exponentChars, printWhole, hneg]
  · have hlt : n.natAbs < Decimal.twoTo 64 := by
      have hless : Decimal.twoTo 63 < Decimal.twoTo 64 := by decide
      obtain ⟨hlow, hhigh⟩ := h
      omega
    have hvalue : ((Figure.ofWhole n).form 0).value
        = wholeValue ((Figure.ofWhole n).form 0).stop (decide (n < 0)) n.natAbs :=
      NumberForm.value_of_whole rfl rfl Nat.ofDigitChars_ten_toDigits hlt
    rw [Figure.value?, hvalue, wholeValue_natAbs h]
    rfl

/-! ## Values -/

/-- Symbols without blanks. -/
lemma spaced_chars (ss : List Symbol) : Spaced ss (ss.flatMap Symbol.chars) := by
  induction ss with
  | nil => exact .nil (by simp)
  | cons s rest ih => exact @Spaced.cons [] s rest _ (by simp) ih

/-- What is written is printed as a value, and has it. -/
structure Written.Prints (w : Written) (j : Json) : Prop where
  chars : w.symbols.flatMap Symbol.chars = j.print
  value : ∀ {d : Nat}, d + j.depth < depthLimit → w.value? d = some j

open Written in
mutual

/-- **A printed value is written**, without blanks. -/
theorem exists_written : ∀ {j : Json}, j.HasWords → ∃ w : Written, w.Prints j
  | .null, _ => ⟨.null, rfl, fun _ => rfl⟩
  | .bool true, _ => ⟨.bool true, rfl, fun _ => rfl⟩
  | .bool false, _ => ⟨.bool false, rfl, fun _ => rfl⟩
  | .number (.real _ _), h => by cases h
  | .number (.whole n), h => by
      obtain ⟨f, hchars, hvalue⟩ := exists_figure h
      refine ⟨.number f, ?_, fun _ => ?_⟩
      · rw [symbols, List.flatMap_singleton]
        exact hchars
      · rw [value?, hvalue]
        rfl
  | .text s, _ => by
      obtain ⟨gs, hchars, hvalue⟩ := exists_glyphs s
      refine ⟨.text gs, ?_, fun _ => ?_⟩
      · rw [symbols, List.flatMap_singleton]
        exact hchars
      · rw [value?, hvalue]
        rfl
  | .array [], _ => by
      refine ⟨.array [], rfl, fun hd => ?_⟩
      rw [value?, if_pos (by simpa [depth, depthOfItems] using hd)]
      rfl
  | .array (j :: items), h => by
      obtain ⟨w, hw⟩ := exists_written h.1
      obtain ⟨ws, hchars, hvalues⟩ := exists_items h.2
      refine ⟨.array (w :: ws), ?_, fun {d} hd => ?_⟩
      · rw [symbols, itemSymbols, List.flatMap_cons, hchars, hw.chars]
        rfl
      · have hdeep : d + (max j.depth (depthOfItems items) + 1) < depthLimit := hd
        rw [value?, if_pos (by omega), itemValues?, hw.value (by omega), hvalues (by omega)]
        rfl
  | .object [], _ => by
      refine ⟨.object [], rfl, fun hd => ?_⟩
      rw [value?, if_pos (by simpa [depth, depthOfEntries] using hd)]
      rfl
  | .object ((key, j) :: entries), h => by
      obtain ⟨gs, hkey, hname⟩ := exists_glyphs key
      obtain ⟨w, hw⟩ := exists_written h.1
      obtain ⟨es, hchars, hvalues⟩ := exists_entries h.2
      refine ⟨.object ((gs, w) :: es), ?_, fun {d} hd => ?_⟩
      · rw [symbols, entrySymbols, List.flatMap_cons, hchars, List.flatMap_cons, List.flatMap_cons,
          hkey, hw.chars]
        simp [print, Symbol.chars]
      · have hdeep : d + (max j.depth (depthOfEntries entries) + 1) < depthLimit := hd
        rw [value?, if_pos (by omega), entryValues?, hname, hw.value (by omega),
          hvalues (by omega)]
        rfl

/-- The items after the first are written, and the end of the array. -/
theorem exists_items : ∀ {items : List Json}, ItemsHaveWords items → ∃ ws : List Written,
    (∀ run : List Symbol,
      (separated (run :: itemSymbols ws) ++ [Symbol.closeBracket]).flatMap Symbol.chars
        = run.flatMap Symbol.chars ++ printItems items) ∧
    ∀ {d : Nat}, d + depthOfItems items < depthLimit → itemValues? d ws = some items
  | [], _ => ⟨[], fun _ => List.flatMap_append, fun _ => rfl⟩
  | j :: items, h => by
      obtain ⟨w, hw⟩ := exists_written h.1
      obtain ⟨ws, hchars, hvalues⟩ := exists_items h.2
      refine ⟨w :: ws, fun run => ?_, fun {d} hd => ?_⟩
      · rw [itemSymbols, separated, List.append_assoc, List.cons_append, List.flatMap_append,
          List.flatMap_cons, hchars, hw.chars]
        rfl
      · have hdeep : d + max j.depth (depthOfItems items) < depthLimit := hd
        rw [itemValues?, hw.value (by omega), hvalues (by omega)]
        rfl

/-- The entries after the first are written, and the end of the object. -/
theorem exists_entries : ∀ {entries : List (String × Json)}, EntriesHaveWords entries →
    ∃ es : List (List Glyph × Written),
      (∀ run : List Symbol,
        (separated (run :: entrySymbols es) ++ [Symbol.closeBrace]).flatMap Symbol.chars
          = run.flatMap Symbol.chars ++ printEntries entries) ∧
      ∀ {d : Nat}, d + depthOfEntries entries < depthLimit → entryValues? d es = some entries
  | [], _ => ⟨[], fun _ => List.flatMap_append, fun _ => rfl⟩
  | (key, j) :: entries, h => by
      obtain ⟨gs, hkey, hname⟩ := exists_glyphs key
      obtain ⟨w, hw⟩ := exists_written h.1
      obtain ⟨es, hchars, hvalues⟩ := exists_entries h.2
      refine ⟨(gs, w) :: es, fun run => ?_, fun {d} hd => ?_⟩
      · rw [entrySymbols, separated, List.append_assoc, List.cons_append, List.flatMap_append,
          List.flatMap_cons, hchars, List.flatMap_cons, List.flatMap_cons, hkey, hw.chars]
        simp [printEntries, Symbol.chars]
      · have hdeep : d + max j.depth (depthOfEntries entries) < depthLimit := hd
        rw [entryValues?, hname, hw.value (by omega), hvalues (by omega)]
        rfl

end

/-! ## Whole texts -/

/-- **A printed value is read back.** -/
theorem ofText_print {j : Json} (hw : j.HasWords) (hd : j.depth < depthLimit) :
    ofText j.print = .ok j := by
  obtain ⟨w, hprints⟩ := exists_written hw
  refine ofText_eq_ok.2 ⟨w, ?_, hprints.value (by omega)⟩
  rw [← hprints.chars]
  exact spaced_chars w.symbols

/-- **A value is told by its compact text.** -/
theorem render_inj {j k : Json} (hj : j.HasWords ∧ j.depth < depthLimit)
    (hk : k.HasWords ∧ k.depth < depthLimit) : j.render = k.render ↔ j = k := by
  constructor
  · intro h
    have hprint : j.print = k.print := String.ofList_injective h
    refine Except.ok.inj ((ofText_print hj.1 hj.2).symm.trans ?_)
    rw [hprint, ofText_print hk.1 hk.2]
  · rintro rfl
    rfl

end ClusterBroker.Json
