/-!
# Hexadecimal digits

* `hexDigit`, `upperHexDigit` — the digit of a value below sixteen.
* `hexValue?` — the value of a digit, of either case.
* `hex` — a number with as many digits as it needs; `hexDigits` — with a given number of them.
-/

namespace ClusterBroker.Text

/-- The lower-case digit of a value below sixteen. -/
def hexDigit (n : Nat) : Char :=
  if n < 10 then Char.ofNat (48 + n) else Char.ofNat (87 + n)

/-- The upper-case digit of a value below sixteen. -/
def upperHexDigit (n : Nat) : Char :=
  if n < 10 then Char.ofNat (48 + n) else Char.ofNat (55 + n)

/-- The value of a hexadecimal digit of either case. -/
def hexValue? (c : Char) : Option Nat :=
  if '0' ≤ c ∧ c ≤ '9' then some (c.toNat - 48)
  else if 'a' ≤ c ∧ c ≤ 'f' then some (c.toNat - 87)
  else if 'A' ≤ c ∧ c ≤ 'F' then some (c.toNat - 55)
  else none

/-- The lowest `count` hexadecimal digits of a number, highest first. -/
def hexDigits : (count n : Nat) → List Char
  | 0, _ => []
  | count + 1, n => hexDigits count (n / 16) ++ [hexDigit (n % 16)]

/-- How many hexadecimal digits a number needs, at least one. -/
def hexWidth (n : Nat) : Nat :=
  if n = 0 then 1 else Nat.log2 n / 4 + 1

/-- A number in lower-case hexadecimal, without padding. -/
def hex (n : Nat) : List Char :=
  hexDigits (hexWidth n) n

end ClusterBroker.Text
