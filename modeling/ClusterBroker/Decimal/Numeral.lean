import ClusterBroker.Decimal.Binary64

/-!
# Decimal numerals

A numeral is a sign, decimal digits with a point among them or without one, and maybe an exponent.
It needs one digit on either side of the point, leading zeros are fine, and its size has no limit.

* `Numeral.ofChars?` — the numeral that characters spell.
* `Numeral.magnitude?` — its size as a binary64 number.
* `Numeral.fits` — whether it denotes an integer of a given width.
-/

namespace ClusterBroker.Decimal

/-- The decimal `digits * 10 ^ power` and its sign.  A plain numeral has no point and no exponent. -/
structure Numeral where
  negative : Bool
  digits : Nat
  power : Int
  plain : Bool
  deriving DecidableEq, Repr

/-! ## Reading -/

/-- The number that decimal digits spell. -/
def natOfDigits (cs : List Char) : Nat :=
  cs.foldl (fun n c => 10 * n + (c.toNat - 48)) 0

/-- The value of an exponent: digits, maybe after a sign. -/
def exponentOf? (cs : List Char) : Option Int :=
  let value (ds : List Char) : Option Int :=
    if ds ≠ [] ∧ ds.all Char.isDigit then some (natOfDigits ds) else none
  match cs with
  | '-' :: ds => (value ds).map (- ·)
  | '+' :: ds => value ds
  | ds => value ds

/-- The value of what follows the digits of a numeral: nothing, or a mark and an exponent. -/
def scaleOf? : List Char → Option Int
  | [] => some 0
  | c :: cs => if c = 'e' ∨ c = 'E' then exponentOf? cs else none

namespace Numeral

/-- The numeral that characters without a sign spell. -/
def ofUnsigned? (negative : Bool) (cs : List Char) : Option Numeral := do
  let whole := cs.takeWhile Char.isDigit
  let rest := cs.dropWhile Char.isDigit
  let pointed := rest.head? = some '.'
  let fraction := if pointed then rest.tail.takeWhile Char.isDigit else []
  let tail := if pointed then rest.tail.dropWhile Char.isDigit else rest
  guard (whole ++ fraction ≠ [])
  let scale ← scaleOf? tail
  return ⟨negative, natOfDigits (whole ++ fraction), scale - fraction.length, rest.isEmpty⟩

/-- The numeral that characters spell, if they spell one. -/
def ofChars? : List Char → Option Numeral
  | '-' :: cs => ofUnsigned? true cs
  | cs => ofUnsigned? false cs

/-! ## Size -/

/-- One more than the exponent of the leading digit. -/
def leading (n : Numeral) : Int :=
  (Nat.toDigits 10 n.digits).length + n.power

/-- The binary64 number nearest to a numeral, its sign apart, or `none` when that is past the largest
finite one.  Nothing from `10 ^ 310` on is finite, and all below `10 ^ -330` is nearest to zero. -/
def magnitude? (n : Numeral) : Option Binary64 :=
  if n.digits = 0 ∨ n.leading < -330 then some .zero
  else if 310 < n.leading then none
  else Binary64.ofRatio (n.digits * tenTo n.power.toNat) (tenTo (-n.power).toNat)

/-! ## Integers -/

/-- The integer that a plain numeral spells, if it has at most sixty-four bits. -/
def integer? (n : Numeral) : Option Int :=
  if !n.plain then none
  else if n.negative then
    if n.digits ≤ twoTo 63 then some (-(n.digits : Int)) else none
  else if n.digits < twoTo 64 then some n.digits
  else none

/-- The natural that a number is, if it has no fraction. -/
def natural? (x : Binary64) : Option Nat :=
  let (num, den) := x.toRatio
  if num % den = 0 then some (num / den) else none

/-- The size of the outermost integer of a width and a sign, as a number.  The greatest integer of
sixty-four bits is no binary64 number, so the next one stands for it. -/
def outermost (bits : Nat) (negative : Bool) : Nat :=
  if negative then twoTo (bits - 1)
  else ((Binary64.ofNat (twoTo (bits - 1) - 1)).bind natural?).getD 0

/-- Whether a numeral denotes an integer of the given width in two's complement.  A plain numeral of
up to sixty-four bits is taken as it stands and any other is rounded to a binary64 number first. -/
def fits (bits : Nat) (n : Numeral) : Bool :=
  match n.integer? with
  | some i => -(twoTo (bits - 1) : Int) ≤ i && i < twoTo (bits - 1)
  | none => (n.magnitude?.bind natural?).any (· ≤ outermost bits n.negative)

end Numeral

end ClusterBroker.Decimal
