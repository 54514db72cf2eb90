import ClusterBroker.Text.Hex
import ClusterBroker.Text.Unprintable

/-!
# Quoted text

Text as diagnostics show it: between double quotes, with the quote, the backslash and the four
control characters that have a short name escaped by a backslash, and every other code point
without a glyph spelled `\u` with its number in braces.

* `quoted` — the quoted form.
* `shownOption`, `shownRecord` — optional values and records as diagnostics show them.
-/

namespace ClusterBroker.Text

/-- The short escape of a character, for the six characters that have one. -/
def shortEscape? (c : Char) : Option Char :=
  if c = '"' ∨ c = '\\' then some c
  else if c = '\n' then some 'n'
  else if c = '\r' then some 'r'
  else if c = '\t' then some 't'
  else if c = '\x00' then some '0'
  else none

/-- One character of quoted text. -/
def quotedChar (c : Char) : List Char :=
  match shortEscape? c with
  | some e => ['\\', e]
  | none => if isUnprintable c then ['\\', 'u', '\x7b'] ++ hex c.toNat ++ ['\x7d'] else [c]

/-- Text between double quotes, escaped so that it stays on one line and can be told apart. -/
def quoted (s : String) : String :=
  String.ofList ('"' :: (s.toList.flatMap quotedChar ++ ['"']))

/-! ## Larger values -/

/-- An optional value, by the text of the value. -/
def shownOption : Option String → String
  | none => "None"
  | some shown => "Some(" ++ shown ++ ")"

/-- A record, by its name and the names and texts of its fields. -/
def shownRecord (name : String) (fields : List (String × String)) : String :=
  name ++ " \x7b " ++ String.intercalate ", " (fields.map fun f => f.1 ++ ": " ++ f.2) ++ " \x7d"

/-- What is shown in place of a secret. -/
def redacted : String := "<redacted>"

end ClusterBroker.Text
