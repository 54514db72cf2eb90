import ClusterBroker.Json.Node.Walk
import ClusterBroker.Proofs.Json.Meaning

/-!
# The grammar of JSON texts

What a JSON text is can be said without a machine that takes it apart.  The grammar has two levels.

**Symbols.**  A `Symbol` is a mark, a word, a number or a text, spelled in one way.  Numbers and texts
keep their spelling: a `Figure` is a number with its digits, and a `Glyph` one character of a text with
its escape.

**Trees.**  A `Written` value is made of symbols; the entries of its objects keep their order and may
repeat a key.  A text spells it if its symbols stand there with blanks between them
(`Written.SpelledBy`).

**Values.**  Syntax need not have a value.  A number may be out of range, half a surrogate pair may
lack the other half, and brackets may nest too deep: `Written.value?` is where these limits are.  A
shape looks at syntax one level at a time (`Written.look`), so the limits do not matter in the parts
that it does not look at.
-/

namespace ClusterBroker.Json

/-! ## Texts -/

/-- One character of a text as it is spelled: as it stands, as a letter after a backslash, or as four
hexadecimal digits after `\u`. -/
inductive Glyph where
  | plain (c : Char) (proper : c ≠ '"' ∧ c ≠ '\\' ∧ 32 ≤ c.toNat)
  | letter (e c : Char) (stands : unescape? e = some c)
  | unit (a b c d : Char) (n : Nat) (stands : hexUnit? a b c d = some n)

/-- The spelling of a glyph. -/
def Glyph.chars : Glyph → List Char
  | .plain c _ => [c]
  | .letter e _ _ => ['\\', e]
  | .unit a b c d _ _ => ['\\', 'u', a, b, c, d]

/-- The characters that glyphs stand for.  A unit that is half a surrogate pair needs the other half
right after it. -/
def decode? : List Glyph → Option (List Char)
  | [] => some []
  | .plain c _ :: rest => (c :: ·) <$> decode? rest
  | .letter _ c _ :: rest => (c :: ·) <$> decode? rest
  | .unit _ _ _ _ n _ :: rest =>
    if isLowSurrogate n then none
    else if isHighSurrogate n then
      match rest with
      | .unit _ _ _ _ m _ :: rest' =>
        if isLowSurrogate m then (pairChar n m :: ·) <$> decode? rest' else none
      | _ => none
    else (Char.ofNat n :: ·) <$> decode? rest

/-- The text that glyphs stand for. -/
def textValue? (glyphs : List Glyph) : Option String :=
  String.ofList <$> decode? glyphs

/-! ## Numbers -/

/-- Decimal digits, at least one. -/
structure IsDigits (ds : List Char) : Prop where
  ne_nil : ds ≠ []
  isDigit : ∀ c ∈ ds, c.isDigit = true

/-- An exponent, with its sign if there is one. -/
structure Exponent where
  mark : Char
  sign : Option Bool
  digits : List Char
  isMark : mark = 'e' ∨ mark = 'E'
  isDigits : IsDigits digits

/-- The sign of an exponent. -/
def Exponent.signChars (e : Exponent) : List Char :=
  match e.sign with
  | none => []
  | some true => ['-']
  | some false => ['+']

/-- The parts of an exponent whose mark stands at a byte offset. -/
def Exponent.part (offset : Nat) (e : Exponent) : Bool × List Char × Nat :=
  (e.sign == some true, e.digits, offset + 1 + e.signChars.length)

/-- A number as it is spelled.  Its whole part does not start with a zero unless that is all of it,
and a fraction without digits is none. -/
structure Figure where
  negative : Bool
  whole : List Char
  fraction : List Char
  exponent : Option Exponent
  wholeIsDigits : IsDigits whole
  noLeadingZero : whole.head? = some '0' → whole = ['0']
  fractionIsDigits : ∀ c ∈ fraction, c.isDigit = true

/-- The sign of a number. -/
def signChars (negative : Bool) : List Char :=
  if negative then ['-'] else []

/-- A fraction after its point. -/
def fractionChars (fraction : List Char) : List Char :=
  if fraction.isEmpty then [] else '.' :: fraction

/-- An exponent after its mark. -/
def exponentChars : Option Exponent → List Char
  | none => []
  | some e => e.mark :: (e.signChars ++ e.digits)

namespace Figure

/-- The spelling of a number. -/
def chars (f : Figure) : List Char :=
  signChars f.negative ++ (f.whole ++ (fractionChars f.fraction ++ exponentChars f.exponent))

/-- The parts of a number that stands at a byte offset. -/
def form (f : Figure) (offset : Nat) : NumberForm :=
  let mark := afterFraction (offset + (signChars f.negative).length + f.whole.length) f.fraction
  { negative := f.negative
    whole := f.whole
    fraction := f.fraction
    exponent := f.exponent.map (Exponent.part mark)
    stop := offset + f.chars.length }

/-- The value of a number, if it is in range. -/
def value? (f : Figure) : Option Number :=
  (f.form 0).value.toOption

/-- The integer that a number is spelled as: there is no fraction, no exponent and no minus sign
before a zero. -/
def integer? (f : Figure) : Option Int :=
  let n := Nat.ofDigitChars 10 f.whole 0
  if f.fraction ≠ [] ∨ f.exponent.isSome ∨ f.negative ∧ n = 0 then none
  else some (if f.negative then -n else n)

end Figure

/-! ## Symbols -/

/-- The symbols of a JSON text. -/
inductive Symbol where
  | openBrace
  | closeBrace
  | openBracket
  | closeBracket
  | colon
  | comma
  | null
  | bool (value : Bool)
  | number (figure : Figure)
  | text (glyphs : List Glyph)

/-- The spelling of a symbol. -/
def Symbol.chars : Symbol → List Char
  | .openBrace => ['\x7b']
  | .closeBrace => ['\x7d']
  | .openBracket => ['[']
  | .closeBracket => [']']
  | .colon => [':']
  | .comma => [',']
  | .null => ['n', 'u', 'l', 'l']
  | .bool true => ['t', 'r', 'u', 'e']
  | .bool false => ['f', 'a', 'l', 's', 'e']
  | .number figure => figure.chars
  | .text glyphs => '"' :: (glyphs.flatMap Glyph.chars ++ ['"'])

/-- Symbols one after the other, with blanks before, between and after them. -/
inductive Spaced : List Symbol → List Char → Prop where
  | nil {blanks : List Char} : (∀ c ∈ blanks, isSpace c = true) → Spaced [] blanks
  | cons {blanks : List Char} {s : Symbol} {rest : List Symbol} {text : List Char} :
    (∀ c ∈ blanks, isSpace c = true) → Spaced rest text →
      Spaced (s :: rest) (blanks ++ (s.chars ++ text))

/-! ## Trees -/

/-- A value as it is written. -/
inductive Written where
  | null
  | bool (value : Bool)
  | number (figure : Figure)
  | text (glyphs : List Glyph)
  | array (items : List Written)
  | object (entries : List (List Glyph × Written))

/-- Runs of symbols with a comma between each two of them. -/
def separated : List (List Symbol) → List Symbol
  | [] => []
  | [run] => run
  | run :: next :: rest => run ++ .comma :: separated (next :: rest)

namespace Written

mutual

/-- The symbols that a value is written with. -/
def symbols : Written → List Symbol
  | .null => [.null]
  | .bool b => [.bool b]
  | .number f => [.number f]
  | .text gs => [.text gs]
  | .array items => .openBracket :: (separated (itemSymbols items) ++ [.closeBracket])
  | .object entries => .openBrace :: (separated (entrySymbols entries) ++ [.closeBrace])

/-- The symbols of each item. -/
def itemSymbols : List Written → List (List Symbol)
  | [] => []
  | w :: rest => w.symbols :: itemSymbols rest

/-- The symbols of each entry. -/
def entrySymbols : List (List Glyph × Written) → List (List Symbol)
  | [] => []
  | (key, w) :: rest => (.text key :: .colon :: w.symbols) :: entrySymbols rest

end

/-- A whole text spells a value. -/
def SpelledBy (w : Written) (text : List Char) : Prop :=
  Spaced w.symbols text

/-! ## Values -/

mutual

/-- The value of what is written inside `depth` brackets, if it keeps to the limits: numbers in range,
surrogates in pairs, and brackets nested less than `depthLimit` deep. -/
def value? (depth : Nat) : Written → Option Json
  | .null => some .null
  | .bool b => some (.bool b)
  | .number f => .number <$> f.value?
  | .text gs => .text <$> textValue? gs
  | .array items =>
    if depth + 1 < depthLimit then .array <$> itemValues? (depth + 1) items else none
  | .object entries =>
    if depth + 1 < depthLimit then .object <$> entryValues? (depth + 1) entries else none

/-- The values of items, in order. -/
def itemValues? (depth : Nat) : List Written → Option (List Json)
  | [] => some []
  | w :: rest => do
    let value ← w.value? depth
    let values ← itemValues? depth rest
    return value :: values

/-- The keys and values of entries, in order. -/
def entryValues? (depth : Nat) : List (List Glyph × Written) → Option (List (String × Json))
  | [] => some []
  | (key, w) :: rest => do
    let name ← textValue? key
    let value ← w.value? depth
    let values ← entryValues? depth rest
    return (name, value) :: values

end

/-! ## Looks -/

/-- Entries with the texts that their keys stand for. -/
def named? {β : Type} (entries : List (List Glyph × β)) : Option (List (String × β)) :=
  entries.mapM fun e => (fun name => (name, e.2)) <$> textValue? e.1

/-- The look of what is written.  What has no value itself is something else. -/
def look : Written → Look Written
  | .null => .null
  | .bool b => .bool b
  | .number f => .ofNumber? (f.integer?.map .whole)
  | .text gs => .ofText? (textValue? gs)
  | .array items => .array items
  | .object entries =>
    match named? entries with
    | some es => .object es
    | none => .other

end Written

end ClusterBroker.Json
