import ClusterBroker.Text.Hex
import Mathlib.Algebra.Group.Nat.Defs
import Mathlib.Tactic.Lemma

/-!
# Rows of hexadecimal digits

**Fixed rows.**  `hexDigits_add` cuts a row in two, and by `hexDigits_injective` a row has only one
value among the numbers for which it is long enough.

**Rows as long as needed.**  **`hex_injective`** is the same for numbers that have as many digits as
they need.
-/

namespace ClusterBroker.Text

/-! ## Fixed rows -/

lemma length_hexDigits (count n : Nat) : (hexDigits count n).length = count := by
  induction count generalizing n with
  | zero => rfl
  | succ count ih => simp [hexDigits, ih]

/-- A row of digits is the digits above some place and the digits below it. -/
lemma hexDigits_add (above below n : Nat) :
    hexDigits (above + below) n = hexDigits above (n / 16 ^ below) ++ hexDigits below n := by
  induction below generalizing n with
  | zero => simp [hexDigits]
  | succ below ih =>
      rw [← Nat.add_assoc, hexDigits, hexDigits, ih, List.append_assoc, Nat.div_div_eq_div_mul,
        Nat.pow_succ']

lemma hexDigit_injective : ∀ a < 16, ∀ b < 16, hexDigit a = hexDigit b → a = b := by
  decide

/-- **A row of digits has one value**, among the numbers for which it is long enough. -/
theorem hexDigits_injective {count a b : Nat} (ha : a < 16 ^ count) (hb : b < 16 ^ count)
    (h : hexDigits count a = hexDigits count b) : a = b := by
  induction count generalizing a b with
  | zero => omega
  | succ count ih =>
      obtain ⟨habove, hlast⟩ := List.append_inj' h rfl
      have hdiv : a / 16 = b / 16 := by
        rw [Nat.pow_succ'] at ha hb
        exact ih (Nat.div_lt_of_lt_mul ha) (Nat.div_lt_of_lt_mul hb) habove
      have hmod : a % 16 = b % 16 :=
        hexDigit_injective _ (Nat.mod_lt _ (by decide)) _ (Nat.mod_lt _ (by decide))
          (List.singleton_inj.1 hlast)
      omega

/-- The digits are `0` to `9` and `a` to `f`. -/
lemma mem_of_mem_hexDigits {count n : Nat} {c : Char} (h : c ∈ hexDigits count n) :
    c ∈ "0123456789abcdef".toList := by
  induction count generalizing n with
  | zero => cases h
  | succ count ih =>
      rcases List.mem_append.1 h with habove | hlast
      · exact ih habove
      · have hall : ∀ d < 16, hexDigit d ∈ "0123456789abcdef".toList := by decide
        rw [List.mem_singleton.1 hlast]
        exact hall _ (Nat.mod_lt _ (by decide))

/-! ## Rows as long as needed -/

lemma lt_pow_hexWidth (n : Nat) : n < 16 ^ hexWidth n := by
  by_cases hzero : n = 0
  · simp [hzero, hexWidth]
  · have hbits : n < 2 ^ (4 * (n.log2 / 4 + 1)) := (Nat.log2_lt hzero).1 (by omega)
    rwa [hexWidth, if_neg hzero, show 16 = 2 ^ 4 from rfl, ← Nat.pow_mul]

/-- **A number is told by its digits.** -/
theorem hex_injective {a b : Nat} (h : hex a = hex b) : a = b := by
  have hwidth : hexWidth a = hexWidth b := by
    simpa [hex, length_hexDigits] using congrArg List.length h
  have ha := lt_pow_hexWidth a
  rw [hex, hex, hwidth] at h
  rw [hwidth] at ha
  exact hexDigits_injective ha (lt_pow_hexWidth b) h

end ClusterBroker.Text
