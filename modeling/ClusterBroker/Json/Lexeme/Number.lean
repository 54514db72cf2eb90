import ClusterBroker.Json.Fault

/-!
# Numbers: their form and their value

The form of a number is checked first: a sign, digits without a leading zero, a fraction, an
exponent.  Its value comes second, and only where it is wanted, since a number that is skipped may
be of any size.

* `NumberForm.read` — the parts of a number; a malformed one is reported in two ways, one for a
  number that is wanted and one for a number that is skipped.
* `NumberForm.value` — the value, or where it was seen to be out of range.
-/

namespace ClusterBroker.Json

open Decimal (Binary64 twoTo)

/-! ## The form -/

/-- The parts of a number.  The offset is that of the first exponent digit. -/
structure NumberForm where
  negative : Bool
  whole : List Char
  fraction : List Char
  exponent : Option (Bool × List Char × Nat)
  stop : Nat
  deriving DecidableEq, Repr

/-- A malformed number: the fault if its value is wanted, and the fault if it is skipped. -/
structure NumberFault where
  wanted : Fault
  skipped : Fault
  deriving DecidableEq, Repr

/-- The same fault in both cases. -/
def NumberFault.same (f : Fault) : NumberFault :=
  ⟨f, f⟩

/-- The digits at the start. -/
def leadingDigits (cs : List Char) : List Char :=
  cs.takeWhile Char.isDigit

/-- The digits before the point. -/
def wholeDigits (offset : Nat) : List Char → Except NumberFault (List Char)
  | [] => .error ⟨⟨.endInValue, offset⟩, ⟨.malformedNumber, offset⟩⟩
  | c :: cs =>
    if !c.isDigit then .error (.same ⟨.malformedNumber, offset + 1⟩)
    else if c = '0' ∧ (leadingDigits cs) ≠ [] then .error (.same ⟨.malformedNumber, offset + 2⟩)
    else .ok (c :: leadingDigits cs)

/-- The digits after the point; none if there is no point. -/
def fractionDigits (offset : Nat) : List Char → Except NumberFault (List Char)
  | '.' :: cs =>
    match leadingDigits cs, cs with
    | [], [] => .error ⟨⟨.endInValue, offset + 1⟩, ⟨.malformedNumber, offset + 1⟩⟩
    | [], _ => .error (.same ⟨.malformedNumber, offset + 2⟩)
    | ds, _ => .ok ds
  | _ => .ok []

/-- An exponent after its mark and sign. -/
def exponentDigits (offset : Nat) (cs : List Char) : Except NumberFault (List Char) :=
  match leadingDigits cs, cs with
  | [], [] => .error ⟨⟨.endInValue, offset⟩, ⟨.malformedNumber, offset⟩⟩
  | [], _ => .error (.same ⟨.malformedNumber, offset + 1⟩)
  | ds, _ => .ok ds

/-- The exponent, if there is one: its sign, its digits and their offset. -/
def exponentPart (offset : Nat) :
    List Char → Except NumberFault (Option (Bool × List Char × Nat))
  | [] => .ok none
  | e :: cs =>
    if e = 'e' ∨ e = 'E' then
      match cs with
      | '-' :: rest =>
        (fun ds => some (true, ds, offset + 2)) <$> exponentDigits (offset + 2) rest
      | '+' :: rest =>
        (fun ds => some (false, ds, offset + 2)) <$> exponentDigits (offset + 2) rest
      | rest => (fun ds => some (false, ds, offset + 1)) <$> exponentDigits (offset + 1) rest
    else .ok none

/-- The offset after a fraction that starts at `offset`. -/
def afterFraction (offset : Nat) (fraction : List Char) : Nat :=
  if fraction.isEmpty then offset else offset + 1 + fraction.length

/-- The number at the start of some characters that are a sign or a digit and what follows. -/
def NumberForm.read (offset : Nat) (cs : List Char) : Except NumberFault NumberForm := do
  let negative := cs.head? == some '-'
  let cs := if negative then cs.tail else cs
  let start := if negative then offset + 1 else offset
  let whole ← wholeDigits start cs
  let cs := cs.drop whole.length
  let point := start + whole.length
  let fraction ← fractionDigits point cs
  let mark := afterFraction point fraction
  let exponent ← exponentPart mark (cs.drop (mark - point))
  let stop := match exponent with
    | none => mark
    | some (_, ds, at_) => at_ + ds.length
  return ⟨negative, whole, fraction, exponent, stop⟩

/-! ## The value -/

/-- The value of a decimal digit. -/
def digitValue (c : Char) : Nat :=
  c.toNat - 48

/-- Digits appended to a number for as long as it stays below a limit, and the digits left. -/
def absorb (limit n : Nat) : List Char → Nat × List Char
  | [] => (n, [])
  | c :: cs =>
    if n * 10 + digitValue c < limit then absorb limit (n * 10 + digitValue c) cs
    else (n, c :: cs)

/-- A sign, a significand of at most sixty-four bits and a power of ten as a number. -/
def realValue (stop : Nat) (negative : Bool) (significand : Nat) (exponent : Int) :
    Except Fault Number :=
  match (Binary64.ofNat significand).bind (·.scaleTen exponent) with
  | some x => .ok (.real negative x)
  | none => .error ⟨.numberOutOfRange, stop⟩

/-- An integer without a fraction or an exponent.  A negative one below sixty-four bits of
two's complement is no integer, and neither is negative zero. -/
def wholeValue (stop : Nat) (negative : Bool) (n : Nat) : Except Fault Number :=
  if !negative then .ok (.whole n)
  else if 0 < n ∧ n ≤ twoTo 63 then .ok (.whole (-(n : Int)))
  else realValue stop true n 0

/-- The value of a number.  Digits of the whole part that do not fit sixty-four bits count as
powers of ten, digits of the fraction that do not fit are dropped, and an exponent that does not fit
thirty-two bits is out of range on the spot, unless the number is zero or the exponent negative,
which makes it zero. -/
def NumberForm.value (form : NumberForm) : Except Fault Number :=
  let (n, beyond) := absorb (twoTo 64) 0 form.whole
  if form.fraction.isEmpty ∧ form.exponent.isNone ∧ beyond.isEmpty then
    wholeValue form.stop form.negative n
  else
    let (n, dropped) := absorb (twoTo 64) n form.fraction
    let scale : Int := (beyond.length : Int) - (form.fraction.length - dropped.length : Nat)
    match form.exponent with
    | none => realValue form.stop form.negative n scale
    | some (negative, digits, start) =>
      let (e, left) := absorb (twoTo 31) 0 digits
      if left.isEmpty then
        realValue form.stop form.negative n (if negative then scale - e else scale + e)
      else if n ≠ 0 ∧ !negative then
        .error ⟨.numberOutOfRange, start + (digits.length - left.length) + 1⟩
      else .ok (.real form.negative Binary64.zero)

end ClusterBroker.Json
