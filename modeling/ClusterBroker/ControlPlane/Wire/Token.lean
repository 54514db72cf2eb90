import ClusterBroker.Decimal.Numeral
import ClusterBroker.Json.Lexeme.Text

/-!
# Tokens of a reply's body

A body is JSON that is read leniently: a numeral may have leading zeros or nothing on one side of
its point, and what is between the quotes of a text stays as it is spelled.  Escapes are only looked
at where the text itself is wanted, so a malformed one can be passed over.

* `Spelling` — the characters between two quotes; `Spelling.decode?` — the text they spell.
* `Token` — the tokens, of which the flaw is the last if there is one.
* `tokens` — the tokens of a body.
-/

namespace ClusterBroker.Wire

open Decimal (Numeral)

/-! ## Texts -/

/-- The characters of a text between its quotes, as they are spelled. -/
structure Spelling where
  characters : List Char
  deriving DecidableEq, Repr

namespace Spelling

/-- Whether the characters are just those of a text, without regard to escapes. -/
def spells (s : Spelling) (text : String) : Bool :=
  s.characters == text.toList

/-- The text that the characters spell.  Every escape has to be one and every surrogate one half of a
pair. -/
def decode? (s : Spelling) : Option String :=
  match Json.decodeText 0 (s.characters ++ ['"']) with
  | .ok cs => some (String.ofList cs)
  | .error _ => none

end Spelling

/-- The characters up to a closing quote.  A quote after a backslash does not close, and control
characters have to follow a backslash too. -/
def spelled? : List Char → Option (List Char)
  | [] => none
  | '"' :: _ => some []
  | '\\' :: [] => none
  | '\\' :: c :: rest => (fun cs => '\\' :: c :: cs) <$> spelled? rest
  | c :: rest => if c.toNat < 32 then none else (c :: ·) <$> spelled? rest

/-! ## Tokens -/

/-- The tokens of a body. -/
inductive Token where
  | openBrace
  | closeBrace
  | openBracket
  | closeBracket
  | colon
  | comma
  | null
  | flag (value : Bool)
  | number (value : Numeral)
  | text (spelling : Spelling)
  | flaw
  deriving DecidableEq, Repr

/-- Blanks between tokens. -/
def isBlank (c : Char) : Bool :=
  c == ' ' || c == '\n' || c == '\t' || c == '\r'

/-- Whether a character ends a word or a numeral. -/
def isDelimiter (c : Char) : Bool :=
  isBlank c || c == ',' || c == ']' || c == '\x7d'

/-- The token that a run of characters up to a delimiter spells. -/
def Token.ofRun (cs : List Char) : Token :=
  if cs = "null".toList then .null
  else if cs = "true".toList then .flag true
  else if cs = "false".toList then .flag false
  else if cs.head?.any fun c => c == '-' || c.isDigit then
    ((Numeral.ofChars? cs).map .number).getD .flaw
  else .flaw

/-- The token that starts with a character, and how many of the characters after it belong to it. -/
def cut (c : Char) (cs : List Char) : Token × Nat :=
  match c with
  | '\x7b' => (.openBrace, 0)
  | '\x7d' => (.closeBrace, 0)
  | '[' => (.openBracket, 0)
  | ']' => (.closeBracket, 0)
  | ':' => (.colon, 0)
  | ',' => (.comma, 0)
  | '"' =>
    match spelled? cs with
    | some characters => (.text ⟨characters⟩, characters.length + 1)
    | none => (.flaw, 0)
  | c =>
    let more := cs.takeWhile fun d => !isDelimiter d
    (.ofRun (c :: more), more.length)

/-- The tokens of characters.  The number says how many of them belong to a token already cut. -/
def tokensFrom : (taken : Nat) → List Char → List Token
  | _, [] => []
  | taken + 1, _ :: cs => tokensFrom taken cs
  | 0, c :: cs =>
    if isBlank c then tokensFrom 0 cs
    else
      match cut c cs with
      | (.flaw, _) => [.flaw]
      | (token, taken) => token :: tokensFrom taken cs

/-- The tokens of a body. -/
def tokens (text : String) : List Token :=
  tokensFrom 0 text.toList

end ClusterBroker.Wire
