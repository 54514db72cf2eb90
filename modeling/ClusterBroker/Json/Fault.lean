import ClusterBroker.Decimal.Shortest
import ClusterBroker.Json.Basic
import ClusterBroker.Text.Quoted

/-!
# What can be wrong with a JSON text, and where

A fault is a cause and a place.  Places are byte offsets into the UTF-8 form of the text; only the
message turns them into a line and a column, which are counted in bytes too.

* `Cause` — the causes, each with its wording in `Cause.message`.
* `Place.ofOffset` — line and column of an offset.
* `Fault.describe` — the message of a fault, with its place in the text.
-/

namespace ClusterBroker.Json

open Decimal (Binary64)

/-! ## Causes -/

/-- What stood where a value of another kind was wanted. -/
inductive Found where
  | null
  | bool (value : Bool)
  | number (value : Number)
  | text (value : String)
  | sequence
  | map
  deriving DecidableEq, Repr

/-- What stood there, in words. -/
def Found.describe : Found → String
  | .null => "null"
  | .bool true => "boolean `true`"
  | .bool false => "boolean `false`"
  | .number (.whole n) => "integer `" ++ toString n ++ "`"
  | .number (.real negative x) => "floating point `" ++ Decimal.render negative x ++ "`"
  | .text s => "string " ++ Text.quoted s
  | .sequence => "sequence"
  | .map => "map"

/-- Why a text is not the JSON that was wanted. -/
inductive Cause where
  | endInValue
  | endInText
  | endInArray
  | endInObject
  | valueWanted
  | wordWanted
  | colonWanted
  | commaOrBracketWanted
  | commaOrBraceWanted
  | keyWanted
  | trailingComma
  | trailingCharacters
  | malformedNumber
  | numberOutOfRange
  | malformedEscape
  | controlCharacter
  | loneSurrogate
  | halfSurrogatePair
  | tooDeep
  | mismatch (found : Found) (wanted : String)
  | outOfRange (value : Int) (wanted : String)
  | wrongLength (length : Nat) (record : String) (fields : Nat)
  | duplicateField (key : String)
  | unknownVariant (name : String) (known : List String)
  deriving DecidableEq, Repr

/-- Names as a message lists them, each between back quotes. -/
def nameList (names : List String) : String :=
  String.intercalate ", " (names.map fun n => "`" ++ n ++ "`")

/-- The wording of a cause. -/
def Cause.message : Cause → String
  | .endInValue => "EOF while parsing a value"
  | .endInText => "EOF while parsing a string"
  | .endInArray => "EOF while parsing a list"
  | .endInObject => "EOF while parsing an object"
  | .valueWanted => "expected value"
  | .wordWanted => "expected ident"
  | .colonWanted => "expected `:`"
  | .commaOrBracketWanted => "expected `,` or `]`"
  | .commaOrBraceWanted => "expected `,` or `\x7d`"
  | .keyWanted => "key must be a string"
  | .trailingComma => "trailing comma"
  | .trailingCharacters => "trailing characters"
  | .malformedNumber => "invalid number"
  | .numberOutOfRange => "number out of range"
  | .malformedEscape => "invalid escape"
  | .controlCharacter => "control character (\\u0000-\\u001F) found while parsing a string"
  | .loneSurrogate => "lone leading surrogate in hex escape"
  | .halfSurrogatePair => "unexpected end of hex escape"
  | .tooDeep => "recursion limit exceeded"
  | .mismatch found wanted => "invalid type: " ++ found.describe ++ ", expected " ++ wanted
  | .outOfRange value wanted =>
    "invalid value: integer `" ++ toString value ++ "`, expected " ++ wanted
  | .wrongLength length record fields =>
    "invalid length " ++ toString length ++ ", expected struct " ++ record ++ " with " ++
      toString fields ++ (if fields = 1 then " element" else " elements")
  | .duplicateField key => "duplicate field `" ++ key ++ "`"
  | .unknownVariant name known =>
    "unknown variant `" ++ name ++ "`, expected one of " ++ nameList known

/-! ## Places -/

/-- A line, counted from one, and how many bytes of it lie before the place. -/
structure Place where
  line : Nat
  column : Nat
  deriving DecidableEq, Repr

/-- The place reached by walking `offset` bytes into a text from a given place. -/
def Place.advance (p : Place) : (offset : Nat) → List Char → Place
  | _, [] => p
  | offset, c :: cs =>
    if offset = 0 then p
    else if c = '\n' then advance ⟨p.line + 1, 0⟩ (offset - 1) cs
    else
      advance ⟨p.line, p.column + min offset c.utf8Size⟩ (offset - c.utf8Size) cs

/-- The place of a byte offset in a text. -/
def Place.ofOffset (text : List Char) (offset : Nat) : Place :=
  Place.advance ⟨1, 0⟩ offset text

/-! ## Faults -/

/-- A cause and the byte offset where it was noticed. -/
structure Fault where
  cause : Cause
  offset : Nat
  deriving DecidableEq, Repr

/-- The message of a fault in a text. -/
def Fault.describe (text : List Char) (f : Fault) : String :=
  let place := Place.ofOffset text f.offset
  f.cause.message ++ " at line " ++ toString place.line ++ " column " ++ toString place.column

end ClusterBroker.Json
