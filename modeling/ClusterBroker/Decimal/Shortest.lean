import ClusterBroker.Decimal.Binary64

/-!
# The shortest decimal text of a binary64 number

Among the decimals that round to a given number, the text shows one with the fewest digits, and of
those the nearest.  `shortest` finds it on the decimal grids of 1, 2, … 17 digits: the two grid
points around the number are tested against the interval that rounds to it, in exact integer
arithmetic.

* `shortest` — the digits and the power of ten.
* `render` — the text: positional for exponents from -5 to 15, else scientific with a signed
  exponent.
-/

namespace ClusterBroker.Decimal

/-- The decimal `digits * 10 ^ power`. -/
structure Scaled where
  digits : Nat
  power : Int
  deriving DecidableEq, Repr

/-! ## The digits -/

/-- Whether `c * 10 ^ k` is less than `t * 2 ^ q`. -/
def decimalLess (c : Nat) (k : Int) (t : Nat) (q : Int) : Bool :=
  c * tenTo k.toNat * twoTo (-q).toNat < t * twoTo q.toNat * tenTo (-k).toNat

/-- Whether `t * 2 ^ q` is less than `c * 10 ^ k`. -/
def binaryLess (t : Nat) (q : Int) (c : Nat) (k : Int) : Bool :=
  t * twoTo q.toNat * tenTo (-k).toNat < c * tenTo k.toNat * twoTo (-q).toNat

/-- Whether a decimal rounds to the number.  The bounds lie half a step above and half a step below,
a quarter of a step below a power of two; they belong to the interval of an even mantissa. -/
def roundsTo (x : Binary64) (d : Scaled) : Bool :=
  let q := x.exponent - 2
  let below := if x.mantissa = twoTo 52 ∧ -1074 < x.exponent then 1 else 2
  let low := 4 * x.mantissa - below
  let high := 4 * x.mantissa + 2
  if x.mantissa % 2 = 0 then
    !decimalLess d.digits d.power low q && !binaryLess high q d.digits d.power
  else
    binaryLess low q d.digits d.power && decimalLess d.digits d.power high q

/-- The exponent of the leading decimal digit of a positive number. -/
def leadingExponent (x : Binary64) : Int :=
  let (n, d) := x.toRatio
  ((Nat.toDigits 10 (n * tenTo 400 / d)).length : Int) - 401

/-- The grid point with `count` digits that rounds to the number, if one of the two around it does;
of two the nearer, and the even one if both are as near. -/
def onGrid (x : Binary64) (count : Nat) : Option Scaled :=
  let k := leadingExponent x - (count : Int) + 1
  let (n, d) := x.toRatio
  let num := n * tenTo (-k).toNat
  let den := d * tenTo k.toNat
  let lower : Scaled := ⟨num / den, k⟩
  let upper : Scaled := ⟨num / den + 1, k⟩
  match roundsTo x lower, roundsTo x upper with
  | true, true => some ⟨roundHalfEven num den, k⟩
  | true, false => some lower
  | false, true => some upper
  | false, false => none

/-- The shortest decimal that rounds to a positive number. -/
def shortest (x : Binary64) : Scaled :=
  ((List.range' 1 17).findSome? (onGrid x)).getD ⟨0, 0⟩

/-! ## The text -/

/-- Digits without their trailing zeros. -/
def withoutTrailingZeros (cs : List Char) : List Char :=
  (cs.reverse.dropWhile (· == '0')).reverse

/-- An exponent after its mark: a sign and the digits. -/
def exponentText (e : Int) : List Char :=
  (if e < 0 then '-' else '+') :: Nat.toDigits 10 e.natAbs

/-- Decimal digits laid out around the point, the first of them having the exponent `e`. -/
def layOut (digits : List Char) (e : Int) : List Char :=
  if 0 ≤ e ∧ e ≤ 15 then
    let whole := e.toNat + 1
    let shown := digits ++ List.replicate (whole - digits.length) '0'
    let fraction := shown.drop whole
    shown.take whole ++ '.' :: (if fraction.isEmpty then ['0'] else fraction)
  else if -5 ≤ e ∧ e < 0 then
    ['0', '.'] ++ List.replicate ((-e).toNat - 1) '0' ++ digits
  else
    let tail := digits.drop 1
    digits.take 1 ++ (if tail.isEmpty then [] else '.' :: tail) ++ 'e' :: exponentText e

/-- The shortest text of a number and its sign. -/
def render (negative : Bool) (x : Binary64) : String :=
  let sign := if negative then ['-'] else []
  let body :=
    if x.mantissa = 0 then ['0', '.', '0']
    else
      let d := shortest x
      let all := Nat.toDigits 10 d.digits
      layOut (withoutTrailingZeros all) (d.power + (all.length : Int) - 1)
  String.ofList (sign ++ body)

end ClusterBroker.Decimal
