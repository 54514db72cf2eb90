/-!
# White space, and text without it at its ends

The white space here is the Unicode property `White_Space`, twenty-five code points, not only the
ASCII blanks.

* `isBlank` — the property.
* `strip` — text without the white space at its two ends.
* `splitComma` — the segments of text between commas.
-/

namespace ClusterBroker.Text

/-- The code points with the property `White_Space`, as closed ranges. -/
def blankRanges : List (Nat × Nat) :=
  [(0x9, 0xD), (0x20, 0x20), (0x85, 0x85), (0xA0, 0xA0), (0x1680, 0x1680), (0x2000, 0x200A),
    (0x2028, 0x2029), (0x202F, 0x202F), (0x205F, 0x205F), (0x3000, 0x3000)]

/-- Whether a character has the property `White_Space`. -/
def isBlank (c : Char) : Bool :=
  blankRanges.any fun r => r.1 ≤ c.toNat && c.toNat ≤ r.2

/-! ## Stripping -/

/-- Characters without leading white space. -/
def stripStart (cs : List Char) : List Char :=
  cs.dropWhile isBlank

/-- Characters without trailing white space. -/
def stripEnd (cs : List Char) : List Char :=
  (stripStart cs.reverse).reverse

/-- Characters without white space at either end. -/
def stripList (cs : List Char) : List Char :=
  stripEnd (stripStart cs)

/-- Text without white space at either end. -/
def strip (s : String) : String :=
  String.ofList (stripList s.toList)

/-! ## Segments -/

/-- The segments between commas, in order; `n` commas make `n + 1` segments. -/
def segments : List Char → List (List Char)
  | [] => [[]]
  | c :: cs =>
    if c = ',' then [] :: segments cs
    else
      match segments cs with
      | [] => [[c]]
      | s :: rest => (c :: s) :: rest

/-- The stripped segments between commas, without those that are blank throughout. -/
def splitComma (s : String) : List String :=
  ((segments s.toList).map stripList).filterMap fun cs =>
    if cs.isEmpty then none else some (String.ofList cs)

end ClusterBroker.Text
