import ClusterBroker.Text.Hex

/-!
# Text in addresses

The name of a host is a row of labels with a dot between each two.  A label has between one and
sixty-three characters, each a letter or a digit of ASCII or a hyphen, and does not start with a
hyphen.

A segment of a request path keeps the letters and digits of ASCII and four marks; every other byte
of its UTF-8 form is written as `%` and two upper-case hexadecimal digits.

* `isHostLabel`, `isHostName` — whether a text is a label or a row of labels.
* `percentEncoded` — the encoded form of a path segment.
-/

namespace ClusterBroker.Text

/-! ## Hosts -/

/-- How many characters a label may have. -/
def longestLabel : Nat := 63

/-- Whether characters form a label. -/
def isHostLabel (cs : List Char) : Bool :=
  cs ≠ [] && cs.length ≤ longestLabel && cs.head? ≠ some '-' &&
    cs.all fun c => c.isAlphanum || c == '-'

/-- The parts of characters between dots. -/
def dotted : List Char → List (List Char)
  | [] => [[]]
  | c :: cs =>
    if c = '.' then [] :: dotted cs
    else
      match dotted cs with
      | part :: parts => (c :: part) :: parts
      | [] => [[c]]

/-- Whether a text is a row of labels. -/
def isHostName (s : String) : Bool :=
  (dotted s.toList).all isHostLabel

/-! ## Paths -/

/-- Whether a byte stands for itself in a path segment: an ASCII letter or digit, or one of
`-`, `.`, `_` and `~`. -/
def isUnreserved (b : UInt8) : Bool :=
  let n := b.toNat
  (48 ≤ n && n ≤ 57) || (65 ≤ n && n ≤ 90) || (97 ≤ n && n ≤ 122) ||
    n == 45 || n == 46 || n == 95 || n == 126

/-- One byte of a path segment. -/
def percentByte (b : UInt8) : List Char :=
  if isUnreserved b then [Char.ofNat b.toNat]
  else ['%', upperHexDigit (b.toNat / 16), upperHexDigit (b.toNat % 16)]

/-- A path segment in percent-encoded form. -/
def percentEncoded (s : String) : String :=
  String.ofList (s.toUTF8.toList.flatMap percentByte)

end ClusterBroker.Text
