import ClusterBroker.Decimal.Shortest
import ClusterBroker.Json.Basic
import ClusterBroker.Text.Hex

/-!
# The compact text of a JSON value

No blanks, entries in their order.  In a text the quote, the backslash and the control characters
below the blank are escaped, and nothing else is.

* `Json.print` — the text as characters; `Json.render` — as a string.
-/

namespace ClusterBroker.Json

/-! ## Texts and numbers -/

/-- The one-letter escape of a character, for the seven characters that have one. -/
def letterEscape? (c : Char) : Option Char :=
  if c = '"' ∨ c = '\\' then some c
  else if c = '\x08' then some 'b'
  else if c = '\t' then some 't'
  else if c = '\n' then some 'n'
  else if c = '\x0c' then some 'f'
  else if c = '\r' then some 'r'
  else none

/-- One character of a text. -/
def printChar (c : Char) : List Char :=
  match letterEscape? c with
  | some e => ['\\', e]
  | none => if c.toNat < 32 then ['\\', 'u'] ++ Text.hexDigits 4 c.toNat else [c]

/-- A text between quotes. -/
def printText (s : String) : List Char :=
  '"' :: (s.toList.flatMap printChar ++ ['"'])

/-- An integer in decimal. -/
def printWhole (n : Int) : List Char :=
  if n < 0 then '-' :: Nat.toDigits 10 n.natAbs else Nat.toDigits 10 n.natAbs

/-- A number; one that is not an integer has its shortest text. -/
def Number.print : Number → List Char
  | .whole n => printWhole n
  | .real negative x => (Decimal.render negative x).toList

/-! ## Values -/

mutual

/-- The compact text of a value. -/
def print : Json → List Char
  | .null => ['n', 'u', 'l', 'l']
  | .bool true => ['t', 'r', 'u', 'e']
  | .bool false => ['f', 'a', 'l', 's', 'e']
  | .number n => n.print
  | .text s => printText s
  | .array [] => ['[', ']']
  | .array (j :: rest) => '[' :: (print j ++ printItems rest)
  | .object [] => ['\x7b', '\x7d']
  | .object ((key, j) :: rest) => '\x7b' :: (printText key ++ ':' :: (print j ++ printEntries rest))

/-- The items after the first, and the end of the array. -/
def printItems : List Json → List Char
  | [] => [']']
  | j :: rest => ',' :: (print j ++ printItems rest)

/-- The entries after the first, and the end of the object. -/
def printEntries : List (String × Json) → List Char
  | [] => ['\x7d']
  | (key, j) :: rest => ',' :: (printText key ++ ':' :: (print j ++ printEntries rest))

end

/-- The compact text of a value as a string. -/
def render (j : Json) : String :=
  String.ofList j.print

end ClusterBroker.Json
