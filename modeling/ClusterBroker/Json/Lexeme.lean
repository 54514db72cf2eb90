import ClusterBroker.Json.Lexeme.Number
import ClusterBroker.Json.Lexeme.Text

/-!
# Lexemes of a JSON text

A text is cut into punctuation, words, numbers and texts, each with the bytes it takes.  Cutting
does not depend on what is wanted, so a lexeme that can be read in two ways carries both readings.
Cutting stops at the first malformed lexeme; nothing after it is ever looked at.

* `Token` — the kinds of lexeme.
* `lexemes` — the lexemes of a text.
-/

namespace ClusterBroker.Json

/-- The kinds of lexeme.  A number whose form is right may still be out of range, and a text whose
escapes are right may still hold half a surrogate pair; `value` says so.  The broken kinds carry the
fault for a value that is wanted and for one that is skipped. -/
inductive Token where
  | openBrace
  | closeBrace
  | openBracket
  | closeBracket
  | colon
  | comma
  | null
  | bool (value : Bool)
  | number (value : Except Fault Number)
  | text (value : Except Fault String)
  | brokenWord (fault : Fault)
  | brokenNumber (wanted skipped : Fault)
  | brokenText (wanted skipped : Fault)
  | stray
  | endOfText

/-- A token and the bytes it takes, from `start` up to `stop`. -/
structure Lexeme where
  start : Nat
  stop : Nat
  token : Token

/-- The end of a text of the given size. -/
def Lexeme.atEnd (size : Nat) : Lexeme :=
  ⟨size, size, .endOfText⟩

/-- Whether a lexeme is the end of the text. -/
def Lexeme.isEnd (l : Lexeme) : Bool :=
  match l.token with
  | .endOfText => true
  | _ => false

/-- Where a fault is noticed by looking at a lexeme without taking it: after its first byte. -/
def Lexeme.peek (l : Lexeme) : Nat :=
  if l.isEnd then l.start else l.start + 1

/-! ## Cutting -/

/-- Blanks between lexemes. -/
def isSpace (c : Char) : Bool :=
  c == ' ' || c == '\n' || c == '\t' || c == '\r'

/-- What is wrong with the rest of a word, if it is not the expected one. -/
def wordFault? (offset : Nat) : (expected found : List Char) → Option Fault
  | [], _ => none
  | _ :: _, [] => some ⟨.endInValue, offset⟩
  | e :: es, c :: cs => if c = e then wordFault? (offset + 1) es cs else some ⟨.wordWanted, offset + 1⟩

/-- A token with its last byte's offset, and how many characters follow its first one.  `broken`
tokens end the cutting. -/
inductive Cut where
  | whole (token : Token) (stop following : Nat)
  | broken (token : Token)

/-- A punctuation mark. -/
def cutMark (offset : Nat) (token : Token) : Cut :=
  .whole token (offset + 1) 0

/-- A word whose first letter is at `offset`. -/
def cutWord (offset : Nat) (token : Token) (rest found : List Char) : Cut :=
  match wordFault? (offset + 1) rest found with
  | none => .whole token (offset + 1 + rest.length) rest.length
  | some fault => .broken (.brokenWord fault)

/-- A text whose opening quote is at `offset`. -/
def cutText (offset : Nat) (cs : List Char) : Cut :=
  let value := String.ofList <$> decodeText (offset + 1) cs
  match skimText (offset + 1) cs with
  | .ok e => .whole (.text value) e.offset e.characters
  | .error skipped =>
    match value with
    | .ok _ => .broken (.brokenText skipped skipped)
    | .error wanted => .broken (.brokenText wanted skipped)

/-- A number that starts at `offset`. -/
def cutNumber (offset : Nat) (cs : List Char) : Cut :=
  match NumberForm.read offset cs with
  | .ok form => .whole (.number form.value) form.stop (form.stop - offset - 1)
  | .error fault => .broken (.brokenNumber fault.wanted fault.skipped)

/-- The token at the start of some characters, the first of which is not a blank. -/
def cut (offset : Nat) (c : Char) (cs : List Char) : Cut :=
  match c with
  | '\x7b' => cutMark offset .openBrace
  | '\x7d' => cutMark offset .closeBrace
  | '[' => cutMark offset .openBracket
  | ']' => cutMark offset .closeBracket
  | ':' => cutMark offset .colon
  | ',' => cutMark offset .comma
  | 'n' => cutWord offset .null ['u', 'l', 'l'] cs
  | 't' => cutWord offset (.bool true) ['r', 'u', 'e'] cs
  | 'f' => cutWord offset (.bool false) ['a', 'l', 's', 'e'] cs
  | '"' => cutText offset cs
  | c => if c = '-' ∨ c.isDigit then cutNumber offset (c :: cs) else .broken .stray

/-- The lexemes of characters at a byte offset.  The first number says how many characters belong
to a lexeme already cut. -/
def lexemesFrom : (taken offset : Nat) → List Char → List Lexeme
  | _, _, [] => []
  | taken + 1, offset, c :: cs => lexemesFrom taken (offset + c.utf8Size) cs
  | 0, offset, c :: cs =>
    if isSpace c then lexemesFrom 0 (offset + 1) cs
    else
      match cut offset c cs with
      | .whole token stop following =>
        ⟨offset, stop, token⟩ :: lexemesFrom following (offset + c.utf8Size) cs
      | .broken token => [⟨offset, offset, token⟩]

/-- The lexemes of a text. -/
def lexemes (text : List Char) : List Lexeme :=
  lexemesFrom 0 0 text

end ClusterBroker.Json
