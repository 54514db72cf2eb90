import ClusterBroker.Proofs.Json.Grammar
import ClusterBroker.Proofs.Json.Reading

/-!
# Numbers are taken as they are spelled

The reader takes a number part by part, each one as long as it can, and the grammar describes a whole
one.  Both directions are here: what is spelled is taken up to its end, and what is taken is spelled.

**Parts.**  `NumberForm.read_figure` and `NumberForm.figure_of_read` are the two directions, from one
lemma in each direction for every part.  The first needs that no part of a number follows.

**Values.**  `Figure.look_value` says which numbers have integers of thirty-two bits for their
values: those that are spelled as such.
-/

namespace ClusterBroker.Json

/-! ## Digits -/

/-- Characters that do not go on with a number. -/
def EndsNumber (rest : List Char) : Prop :=
  ∀ c ∈ rest.head?, c.isDigit = false ∧ c ≠ '.' ∧ c ≠ 'e' ∧ c ≠ 'E'

lemma leadingDigits_append {ds rest : List Char} (hd : ∀ c ∈ ds, c.isDigit = true)
    (hr : ∀ c ∈ rest.head?, c.isDigit = false) : leadingDigits (ds ++ rest) = ds := by
  induction ds with
  | nil =>
      cases rest with
      | nil => rfl
      | cons c rest => simp [leadingDigits, hr c rfl]
  | cons c ds ih =>
      have hc : c.isDigit = true := hd c (by simp)
      have htail := ih fun d hmem => hd d (by simp [hmem])
      simp only [leadingDigits] at htail ⊢
      simp [hc, htail]

/-- The digits at the start are digits, and there they are. -/
lemma leadingDigits_spec (cs : List Char) :
    (∀ c ∈ leadingDigits cs, c.isDigit = true) ∧ ∃ rest, cs = leadingDigits cs ++ rest :=
  ⟨List.all_eq_true.1 List.all_takeWhile, cs.dropWhile Char.isDigit,
    (List.takeWhile_append_dropWhile).symm⟩

lemma isDigits_leadingDigits {cs : List Char} (h : leadingDigits cs ≠ []) :
    IsDigits (leadingDigits cs) :=
  ⟨h, (leadingDigits_spec cs).1⟩

lemma wholeDigits_append (offset : Nat) {ds rest : List Char} (hd : IsDigits ds)
    (hzero : ds.head? = some '0' → ds = ['0']) (hr : ∀ c ∈ rest.head?, c.isDigit = false) :
    wholeDigits offset (ds ++ rest) = .ok ds := by
  obtain ⟨hne, hdigits⟩ := hd
  cases ds with
  | nil => exact absurd rfl hne
  | cons c ds =>
      have hc : c.isDigit = true := hdigits c (by simp)
      have hlead : leadingDigits (ds ++ rest) = ds :=
        leadingDigits_append (fun d hmem => hdigits d (by simp [hmem])) hr
      have hsingle : ¬(c = '0' ∧ ds ≠ []) := by
        rintro ⟨rfl, hmore⟩
        exact hmore (List.cons.inj (hzero rfl)).2
      rw [List.cons_append, wholeDigits, hlead]
      simp only [hc, Bool.not_true, Bool.false_eq_true, if_false]
      rw [if_neg hsingle]

lemma wholeDigits_eq_ok {offset : Nat} {cs ds : List Char} (h : wholeDigits offset cs = .ok ds) :
    IsDigits ds ∧ (ds.head? = some '0' → ds = ['0']) ∧ ∃ rest, cs = ds ++ rest := by
  cases cs with
  | nil => cases h
  | cons c cs =>
      obtain ⟨hlead, rest, hrest⟩ := leadingDigits_spec cs
      rw [wholeDigits] at h
      split at h
      · cases h
      next hc =>
        split at h
        · cases h
        next hzero =>
          cases h
          refine ⟨⟨by simp, List.forall_mem_cons.2 ⟨by simpa using hc, hlead⟩⟩, ?_, rest,
            by rw [List.cons_append, ← hrest]⟩
          intro hhead
          have hnone : leadingDigits cs = [] := by
            by_contra hmore
            exact hzero ⟨by simpa using hhead, hmore⟩
          rw [hnone] at hhead ⊢
          simpa using hhead

/-! ## Fractions -/

lemma afterFraction_eq (offset : Nat) (fraction : List Char) :
    afterFraction offset fraction = offset + (fractionChars fraction).length := by
  unfold afterFraction fractionChars
  split
  · rfl
  · rw [List.length_cons]
    omega

lemma fractionDigits_append (offset : Nat) {ds rest : List Char}
    (hd : ∀ c ∈ ds, c.isDigit = true) (hr : ∀ c ∈ rest.head?, c.isDigit = false ∧ c ≠ '.') :
    fractionDigits offset (fractionChars ds ++ rest) = .ok ds := by
  cases ds with
  | nil =>
      cases rest with
      | nil => rfl
      | cons c rest =>
          have hc := (hr c rfl).2
          rw [fractionChars, List.isEmpty_nil, if_pos rfl, List.nil_append, fractionDigits]
          rintro cs h
          exact absurd (List.cons.inj h).1 hc
  | cons d ds =>
      have hlead : leadingDigits (d :: ds ++ rest) = d :: ds :=
        leadingDigits_append hd fun c hc => (hr c hc).1
      have hpoint : fractionChars (d :: ds) ++ rest = '.' :: (d :: ds ++ rest) := rfl
      rw [hpoint]
      unfold fractionDigits
      simp only [hlead]

lemma fractionChars_of_ne_nil {ds : List Char} (h : ds ≠ []) : fractionChars ds = '.' :: ds := by
  rw [fractionChars, if_neg (by simpa using h)]

lemma fractionDigits_eq_ok {offset : Nat} {cs ds : List Char}
    (h : fractionDigits offset cs = .ok ds) :
    (∀ c ∈ ds, c.isDigit = true) ∧ ∃ rest, cs = fractionChars ds ++ rest := by
  unfold fractionDigits at h
  split at h
  next cs =>
    obtain ⟨hlead, rest, hrest⟩ := leadingDigits_spec cs
    split at h
    · cases h
    · cases h
    next hne _ =>
      cases h
      refine ⟨hlead, rest, ?_⟩
      rw [fractionChars_of_ne_nil hne, List.cons_append, ← hrest]
  next =>
    cases h
    exact ⟨by simp, _, rfl⟩

/-! ## Exponents -/

lemma exponentDigits_append (offset : Nat) {ds rest : List Char} (hd : IsDigits ds)
    (hr : ∀ c ∈ rest.head?, c.isDigit = false) : exponentDigits offset (ds ++ rest) = .ok ds := by
  have hlead := leadingDigits_append hd.isDigit hr
  unfold exponentDigits
  split
  next hnone _ => exact absurd (hlead.symm.trans hnone) hd.ne_nil
  next hnone _ => exact absurd (hlead.symm.trans hnone) hd.ne_nil
  next => rw [hlead]

lemma exponentDigits_eq_ok {offset : Nat} {cs ds : List Char}
    (h : exponentDigits offset cs = .ok ds) : IsDigits ds ∧ ∃ rest, cs = ds ++ rest := by
  unfold exponentDigits at h
  split at h
  · cases h
  · cases h
  next hne _ =>
    cases h
    exact ⟨isDigits_leadingDigits hne, (leadingDigits_spec _).2⟩

lemma exponentPart_append (offset : Nat) (e : Option Exponent) {rest : List Char}
    (hr : ∀ c ∈ rest.head?, c.isDigit = false ∧ c ≠ 'e' ∧ c ≠ 'E') :
    exponentPart offset (exponentChars e ++ rest) = .ok (e.map (Exponent.part offset)) := by
  cases e with
  | none =>
      cases rest with
      | nil => rfl
      | cons c rest =>
          obtain ⟨-, he, hE⟩ := hr c rfl
          simp [exponentPart, exponentChars, he, hE]
  | some e =>
      obtain ⟨mark, sign, digits, hmark, hdigits⟩ := e
      have hread (later : Nat) : exponentDigits later (digits ++ rest) = .ok digits :=
        exponentDigits_append later hdigits fun c hc => (hr c hc).1
      match sign with
      | some true => exact (if_pos hmark).trans (congrArg (Functor.map _) (hread (offset + 2)))
      | some false => exact (if_pos hmark).trans (congrArg (Functor.map _) (hread (offset + 2)))
      | none =>
          have hhead {c : Char} {cs : List Char} (h : digits ++ rest = c :: cs) :
              c.isDigit = true := by
            cases digits with
            | nil => exact absurd rfl hdigits.ne_nil
            | cons d ds => exact (List.cons.inj h).1 ▸ hdigits.isDigit d (by simp)
          show exponentPart offset (mark :: (digits ++ rest)) = _
          rw [exponentPart, if_pos hmark, hread]
          · rfl
          · exact fun cs h => absurd (hhead h) (by decide)
          · exact fun cs h => absurd (hhead h) (by decide)

lemma exponentPart_eq_ok {offset : Nat} {cs : List Char} {part : Option (Bool × List Char × Nat)}
    (h : exponentPart offset cs = .ok part) :
    ∃ e : Option Exponent, part = e.map (Exponent.part offset) ∧
      ∃ rest, cs = exponentChars e ++ rest := by
  unfold exponentPart at h
  split at h
  · cases h
    exact ⟨none, rfl, [], rfl⟩
  next mark cs =>
    split at h
    next hmark =>
      split at h
      all_goals
        obtain ⟨ds, hds, rfl⟩ := map_eq_ok h
        obtain ⟨hdigits, rest, rfl⟩ := exponentDigits_eq_ok hds
      · exact ⟨some ⟨mark, some true, ds, hmark, hdigits⟩, rfl, rest, rfl⟩
      · exact ⟨some ⟨mark, some false, ds, hmark, hdigits⟩, rfl, rest, rfl⟩
      · exact ⟨some ⟨mark, none, ds, hmark, hdigits⟩, rfl, rest, rfl⟩
    next =>
      cases h
      exact ⟨none, rfl, mark :: cs, rfl⟩

/-! ## Forms -/

/-- The parts of a number after its sign. -/
def NumberForm.readUnsigned (negative : Bool) (start : Nat) (cs : List Char) :
    Except NumberFault NumberForm := do
  let whole ← wholeDigits start cs
  let cs := cs.drop whole.length
  let point := start + whole.length
  let fraction ← fractionDigits point cs
  let mark := afterFraction point fraction
  let exponent ← exponentPart mark (cs.drop (mark - point))
  let stop := match exponent with
    | none => mark
    | some (_, ds, at_) => at_ + ds.length
  return ⟨negative, whole, fraction, exponent, stop⟩

/-- A number is read by its sign and then the rest. -/
lemma NumberForm.read_signed (offset : Nat) (negative : Bool) {cs : List Char}
    (h : negative = false → cs.head? ≠ some '-') :
    NumberForm.read offset (signChars negative ++ cs)
      = readUnsigned negative (offset + (signChars negative).length) cs := by
  cases negative with
  | true => rfl
  | false =>
      simp only [NumberForm.read, signChars, Bool.false_eq_true, if_false, List.nil_append,
        beq_eq_false_iff_ne.2 (h rfl)]
      rfl

namespace Figure

lemma exists_whole (f : Figure) : ∃ c ds, f.whole = c :: ds ∧ c.isDigit = true := by
  obtain ⟨hne, hdigits⟩ := f.wholeIsDigits
  cases h : f.whole with
  | nil => exact absurd h hne
  | cons c ds => exact ⟨c, ds, rfl, hdigits c (by simp [h])⟩

end Figure

lemma head_exponentChars (e : Option Exponent) {rest : List Char} (hr : EndsNumber rest) :
    ∀ c ∈ (exponentChars e ++ rest).head?, c.isDigit = false ∧ c ≠ '.' := by
  cases e with
  | none => exact fun c hc => ⟨(hr c hc).1, (hr c hc).2.1⟩
  | some e =>
      intro c hc
      obtain rfl : e.mark = c := by simpa [exponentChars] using hc
      rcases e.isMark with h | h <;> rw [h] <;> decide

lemma head_fractionChars (ds : List Char) (e : Option Exponent) {rest : List Char}
    (hr : EndsNumber rest) :
    ∀ c ∈ (fractionChars ds ++ (exponentChars e ++ rest)).head?, c.isDigit = false := by
  cases ds with
  | nil => exact fun c hc => (head_exponentChars e hr c hc).1
  | cons d ds =>
      intro c hc
      obtain rfl : '.' = c := by simpa [fractionChars] using hc
      decide

/-- Where an exponent ends whose mark stands at an offset, or would. -/
lemma stop_exponent (mark : Nat) (e : Option Exponent) :
    (match e.map (Exponent.part mark) with
      | none => mark
      | some (_, ds, at_) => at_ + ds.length) = mark + (exponentChars e).length := by
  cases e with
  | none => rfl
  | some e =>
      show mark + 1 + e.signChars.length + e.digits.length = _
      simp only [exponentChars, List.length_cons, List.length_append]
      omega

/-- **A number is read with the parts it is spelled with**, unless it could go on. -/
theorem NumberForm.read_figure (offset : Nat) (f : Figure) {rest : List Char}
    (hr : EndsNumber rest) : NumberForm.read offset (f.chars ++ rest) = .ok (f.form offset) := by
  have hwhole := wholeDigits_append (offset + (signChars f.negative).length) f.wholeIsDigits
    f.noLeadingZero (head_fractionChars f.fraction f.exponent hr)
  have hfraction := fractionDigits_append
    (offset + (signChars f.negative).length + f.whole.length) f.fractionIsDigits
    (head_exponentChars f.exponent hr)
  have hexponent (mark : Nat) := exponentPart_append mark f.exponent fun c hc =>
    ⟨(hr c hc).1, (hr c hc).2.2⟩
  have hhead : (f.whole ++ (fractionChars f.fraction ++ (exponentChars f.exponent ++ rest))).head?
      ≠ some '-' := by
    obtain ⟨c, ds, hds, hc⟩ := f.exists_whole
    rw [hds]
    rintro h
    obtain rfl : c = '-' := by simpa using h
    cases hc
  simp only [Figure.chars, List.append_assoc]
  rw [read_signed offset f.negative fun _ => hhead]
  simp only [readUnsigned, hwhole, bind, Except.bind, List.drop_left, hfraction, afterFraction_eq,
    Nat.add_sub_cancel_left, hexponent, stop_exponent]
  simp only [Figure.form, Figure.chars, afterFraction_eq, List.length_append, Nat.add_assoc]
  rfl

/-- Characters are a sign, if there is one, and the rest. -/
lemma exists_signChars (cs : List Char) :
    ∃ (negative : Bool) (body : List Char), cs = signChars negative ++ body ∧
      (negative = false → body.head? ≠ some '-') := by
  by_cases h : cs.head? = some '-'
  · obtain ⟨body, rfl⟩ := List.head?_eq_some_iff.1 h
    exact ⟨true, body, rfl, by simp⟩
  · exact ⟨false, cs, rfl, fun _ => h⟩

/-- **What is read as a number is spelled as one.** -/
theorem NumberForm.figure_of_read {offset : Nat} {cs : List Char} {form : NumberForm}
    (h : NumberForm.read offset cs = .ok form) :
    ∃ (f : Figure) (rest : List Char), cs = f.chars ++ rest ∧ form = f.form offset := by
  obtain ⟨negative, body, rfl, hbody⟩ := exists_signChars cs
  rw [read_signed offset negative hbody] at h
  obtain ⟨whole, hwhole, h⟩ := bind_eq_ok h
  obtain ⟨hdigits, hzero, rest, rfl⟩ := wholeDigits_eq_ok hwhole
  rw [List.drop_left] at h
  obtain ⟨fraction, hfraction, h⟩ := bind_eq_ok h
  obtain ⟨hfractionDigits, rest, rfl⟩ := fractionDigits_eq_ok hfraction
  simp only [afterFraction_eq, Nat.add_sub_cancel_left, List.drop_left] at h
  obtain ⟨part, hpart, hform⟩ := bind_eq_ok h
  obtain ⟨e, rfl, rest, rfl⟩ := exponentPart_eq_ok hpart
  rw [stop_exponent] at hform
  refine ⟨⟨negative, whole, fraction, e, hdigits, hzero, hfractionDigits⟩, rest, ?_, ?_⟩
  · simp only [Figure.chars, List.append_assoc]
  · rw [← Except.ok.inj hform]
    simp only [Figure.form, Figure.chars, afterFraction_eq, List.length_append, Nat.add_assoc]

/-! ## Values of numbers -/

lemma le_ofDigitChars (ds : List Char) (n : Nat) : n ≤ Nat.ofDigitChars 10 ds n := by
  rw [Nat.ofDigitChars_eq_ofDigitChars_zero]
  have : 0 < 10 ^ ds.length := Nat.pow_pos (by decide)
  exact Nat.le_trans (Nat.le_mul_of_pos_left n this) (Nat.le_add_right _ _)

/-- Digits are absorbed as long as their value stays below the limit. -/
lemma absorb_eq {limit : Nat} {ds : List Char} {n : Nat}
    (h : Nat.ofDigitChars 10 ds n < limit) :
    absorb limit n ds = (Nat.ofDigitChars 10 ds n, []) := by
  induction ds generalizing n with
  | nil => simp [absorb]
  | cons c ds ih =>
      have hstep : n * 10 + digitValue c = 10 * n + (c.toNat - '0'.toNat) := by
        rw [digitValue, Nat.mul_comm]
        rfl
      rw [Nat.ofDigitChars_cons] at h ⊢
      have hlt := Nat.lt_of_le_of_lt (le_ofDigitChars ds _) h
      rw [absorb, hstep, if_pos hlt, ih h]

lemma realValue_toOption (stop stop' : Nat) (negative : Bool) (n : Nat) (e : Int) :
    (realValue stop negative n e).toOption = (realValue stop' negative n e).toOption := by
  unfold realValue
  split <;> rfl

lemma wholeValue_toOption (stop stop' : Nat) (negative : Bool) (n : Nat) :
    (wholeValue stop negative n).toOption = (wholeValue stop' negative n).toOption := by
  unfold wholeValue
  split
  · rfl
  · split
    · rfl
    · exact realValue_toOption _ _ _ _ _

/-- Where a number stands does not matter to its value. -/
lemma Figure.value_form (f : Figure) (offset : Nat) :
    (f.form offset).value.toOption = f.value? := by
  unfold Figure.value? NumberForm.value
  cases hexponent : f.exponent with
  | none =>
      simp only [Figure.form, hexponent, Option.map_none]
      by_cases hint : f.fraction.isEmpty ∧ (none : Option (Bool × List Char × Nat)).isNone ∧
          (absorb (Decimal.twoTo 64) 0 f.whole).2.isEmpty
      · rw [if_pos hint, if_pos hint]
        exact wholeValue_toOption _ _ _ _
      · rw [if_neg hint, if_neg hint]
        exact realValue_toOption _ _ _ _ _
  | some e =>
      simp only [Figure.form, hexponent, Option.map_some, Exponent.part, Option.isNone_some,
        Bool.false_eq_true, false_and, and_false, if_false]
      by_cases hfits : (absorb (Decimal.twoTo 31) 0 e.digits).2.isEmpty = true
      · rw [if_pos hfits, if_pos hfits]
        exact realValue_toOption _ _ _ _ _
      · rw [if_neg hfits, if_neg hfits]
        split <;> rfl

lemma cause_of_realValue {stop : Nat} {negative : Bool} {n : Nat} {e : Int} {fault : Fault}
    (h : realValue stop negative n e = .error fault) : fault.cause = .numberOutOfRange := by
  unfold realValue at h
  split at h
  · cases h
  · cases h
    rfl

/-- All that can be wrong with the value of a number is that it is out of range. -/
lemma NumberForm.cause_of_value {form : NumberForm} {fault : Fault}
    (h : form.value = .error fault) : fault.cause = .numberOutOfRange := by
  unfold NumberForm.value at h
  dsimp only at h
  split at h
  · unfold wholeValue at h
    split at h
    · cases h
    · split at h
      · cases h
      · exact cause_of_realValue h
  · split at h
    · exact cause_of_realValue h
    · split at h
      · exact cause_of_realValue h
      · split at h
        · cases h
          rfl
        · cases h

/-- A sign, a significand and a power of ten are no integer. -/
lemma look_realValue {β : Type} (stop : Nat) (negative : Bool) (n : Nat) (e : Int) :
    Look.ofNumber? (realValue stop negative n e).toOption = (.other : Look β) := by
  unfold realValue
  split <;> rfl

/-- A number with a fraction, an exponent or too many digits is no integer. -/
lemma NumberForm.look_value {β : Type} {form : NumberForm}
    (h : ¬(form.fraction.isEmpty ∧ form.exponent.isNone ∧
      (absorb (Decimal.twoTo 64) 0 form.whole).2.isEmpty)) :
    Look.ofNumber? form.value.toOption = (.other : Look β) := by
  simp only [NumberForm.value]
  rw [if_neg h]
  split
  · exact look_realValue _ _ _ _
  · split
    · exact look_realValue _ _ _ _
    · split <;> rfl

/-- Digits that were all absorbed have a value below the limit. -/
lemma lt_of_absorb {limit n : Nat} (hn : n < limit) {ds : List Char}
    (h : (absorb limit n ds).2 = []) : Nat.ofDigitChars 10 ds n < limit := by
  induction ds generalizing n with
  | nil => simpa using hn
  | cons c ds ih =>
      have hstep : n * 10 + digitValue c = 10 * n + (c.toNat - '0'.toNat) := by
        rw [digitValue, Nat.mul_comm]
        rfl
      rw [absorb] at h
      split at h
      next hlt =>
        rw [Nat.ofDigitChars_cons, ← hstep]
        exact ih hlt h
      next => cases h

/-- Digits without a fraction and an exponent are an integer, if it fits sixty-four bits. -/
lemma NumberForm.value_of_whole {form : NumberForm} {n : Nat} (hfraction : form.fraction = [])
    (hexponent : form.exponent = none) (hn : Nat.ofDigitChars 10 form.whole 0 = n)
    (hlt : n < Decimal.twoTo 64) : form.value = wholeValue form.stop form.negative n := by
  have habsorb : absorb (Decimal.twoTo 64) 0 form.whole = (n, []) := by
    rw [absorb_eq (by rwa [hn]), hn]
  simp [NumberForm.value, habsorb, hfraction, hexponent]

lemma look_whole_of_large {β : Type} {n : Int} (h : 2147483648 < n ∨ n < -2147483648) :
    Look.ofNumber? (some (.whole n)) = (.other : Look β) := by
  refine if_neg ?_
  have hlow : Int32.minValue.toInt = -2147483648 := by decide
  have hhigh : Int32.maxValue.toInt = 2147483647 := by decide
  omega

/-- What an integer of digits looks like, if it is not negative zero. -/
lemma look_wholeValue {β : Type} (stop : Nat) (negative : Bool) (n : Nat) :
    Look.ofNumber? (wholeValue stop negative n).toOption
      = (Look.ofNumber? ((if negative ∧ n = 0 then none
          else some (if negative then -(n : Int) else n)).map .whole) : Look β) := by
  unfold wholeValue
  cases negative with
  | false => rfl
  | true =>
      have hlarge : 2 ^ 31 < Decimal.twoTo 63 := by decide
      simp only [Bool.not_true, Bool.false_eq_true, if_false, if_true, true_and]
      split
      next hfits =>
        rw [if_neg (by omega)]
        rfl
      next hfits =>
        rw [look_realValue]
        split
        · rfl
        · exact (look_whole_of_large (by omega)).symm

/-- **A number looks like an integer if it is spelled as one.** -/
theorem Figure.look_value {β : Type} (f : Figure) :
    Look.ofNumber? f.value? = (Look.ofNumber? (f.integer?.map .whole) : Look β) := by
  generalize hn : Nat.ofDigitChars 10 f.whole 0 = n
  by_cases hint : f.fraction = [] ∧ f.exponent = none
  case neg =>
    have hpart : f.fraction ≠ [] ∨ f.exponent.isSome := by
      by_cases hfraction : f.fraction = []
      · exact .inr (Option.isSome_iff_ne_none.2 fun hnone => hint ⟨hfraction, hnone⟩)
      · exact .inl hfraction
    have hinteger : f.integer? = none := if_pos (hpart.imp_right .inl)
    rw [hinteger]
    refine NumberForm.look_value fun h => hint ⟨List.isEmpty_iff.1 h.1, ?_⟩
    simpa [form] using h.2.1
  case pos =>
    obtain ⟨hfraction, hexponent⟩ := hint
    have hinteger : f.integer? = if f.negative ∧ n = 0 then none
        else some (if f.negative then -(n : Int) else n) := by
      simp [integer?, hfraction, hexponent, hn]
    rw [hinteger]
    by_cases hlt : n < Decimal.twoTo 64
    · have hvalue : (f.form 0).value = wholeValue (f.form 0).stop f.negative n :=
        NumberForm.value_of_whole hfraction (by simp [form, hexponent]) hn hlt
      rw [value?, hvalue, look_wholeValue]
    · have hlarge : 2 ^ 31 < Decimal.twoTo 64 := by decide
      have hbeyond : (absorb (Decimal.twoTo 64) 0 f.whole).2 ≠ [] := fun h =>
        hlt (hn ▸ lt_of_absorb (by decide) h)
      have hvalue : Look.ofNumber? f.value? = (.other : Look β) :=
        NumberForm.look_value fun h => hbeyond (List.isEmpty_iff.1 h.2.2)
      rw [hvalue, if_neg (by omega)]
      refine (look_whole_of_large ?_).symm
      split <;> omega

end ClusterBroker.Json
