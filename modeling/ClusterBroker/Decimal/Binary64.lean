/-!
# Finite binary64 numbers, exactly

A non-negative finite binary64 number is `mantissa * 2 ^ exponent`.  Every operation here is exact
integer arithmetic followed by one rounding, to the nearest number and to the even mantissa when
two are as near.

* `Binary64.ofRatio` — the nearest number to a quotient of naturals, `none` past the largest.
* `Binary64.mul`, `Binary64.div` — the rounded product and quotient.
* `Binary64.scaleTen` — scaling by a power of ten with the powers up to `10 ^ 308`, so at most two
  roundings below that and none above.
-/

namespace ClusterBroker.Decimal

/-- A non-negative finite binary64 number, `mantissa * 2 ^ exponent`. -/
structure Binary64 where
  mantissa : Nat
  exponent : Int
  deriving DecidableEq, Repr

/-! ## Powers -/

/-- A power of two. -/
def twoTo (k : Nat) : Nat := Nat.pow 2 k

/-- A power of ten. -/
def tenTo (k : Nat) : Nat := Nat.pow 10 k

/-! ## Rounding -/

/-- A quotient rounded to the nearest natural, a half going to the even neighbour. -/
def roundHalfEven (num den : Nat) : Nat :=
  let q := num / den
  let r := num % den
  if den < 2 * r ∨ (2 * r = den ∧ q % 2 = 1) then q + 1 else q

/-- A quotient of naturals divided by `2 ^ exponent`, again as a quotient of naturals. -/
def overPowerOfTwo (num den : Nat) (exponent : Int) : Nat × Nat :=
  if 0 ≤ exponent then (num, den * twoTo exponent.toNat)
  else (num * twoTo (-exponent).toNat, den)

namespace Binary64

/-- Zero. -/
def zero : Binary64 := ⟨0, -1074⟩

/-- The exponent with which `num / den` has a mantissa of fifty-three bits, not below the least. -/
def exponentFor (num den : Nat) : Int :=
  let guess : Int := (Nat.log2 num : Int) - (Nat.log2 den : Int) - 52
  let (n, d) := overPowerOfTwo num den guess
  let exact := if n / d < twoTo 52 then guess - 1 else guess
  max exact (-1074)

/-- The number nearest to `num / den`, or `none` when that is past the largest finite one. -/
def ofRatio (num den : Nat) : Option Binary64 :=
  if num = 0 then some zero
  else
    let e := exponentFor num den
    let (n, d) := overPowerOfTwo num den e
    let m := roundHalfEven n d
    let rounded : Binary64 := if m = twoTo 53 then ⟨twoTo 52, e + 1⟩ else ⟨m, e⟩
    if 971 < rounded.exponent then none else some rounded

/-- The number as a quotient of naturals. -/
def toRatio (x : Binary64) : Nat × Nat :=
  if 0 ≤ x.exponent then (x.mantissa * twoTo x.exponent.toNat, 1)
  else (x.mantissa, twoTo (-x.exponent).toNat)

/-- The number nearest to a natural. -/
def ofNat (n : Nat) : Option Binary64 :=
  ofRatio n 1

/-! ## Arithmetic -/

/-- The rounded product, `none` on overflow. -/
def mul (x y : Binary64) : Option Binary64 :=
  ofRatio (x.toRatio.1 * y.toRatio.1) (x.toRatio.2 * y.toRatio.2)

/-- The rounded quotient, `none` on overflow. -/
def div (x y : Binary64) : Option Binary64 :=
  ofRatio (x.toRatio.1 * y.toRatio.2) (x.toRatio.2 * y.toRatio.1)

/-- The number nearest to a power of ten. -/
def powerOfTen (k : Nat) : Option Binary64 :=
  ofNat (tenTo k)

/-- A number times `10 ^ exponent`.  A scale above 308 overflows unless the number is zero.  A
scale below -308 divides by `10 ^ 308` first; two such divisions bring every integer below `2 ^ 64`
to zero, so nothing is left to scale below -616. -/
def scaleTen (x : Binary64) (exponent : Int) : Option Binary64 :=
  let k := exponent.natAbs
  if 0 ≤ exponent then
    if k ≤ 308 then (powerOfTen k).bind x.mul
    else if x.mantissa = 0 then some x
    else none
  else if k ≤ 308 then (powerOfTen k).bind x.div
  else if k ≤ 616 then
    (powerOfTen 308).bind fun big =>
      (x.div big).bind fun y => (powerOfTen (k - 308)).bind y.div
  else some zero

end Binary64

end ClusterBroker.Decimal
