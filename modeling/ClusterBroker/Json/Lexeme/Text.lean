import ClusterBroker.Json.Fault
import ClusterBroker.Text.Hex

/-!
# Texts: the characters after an opening quote

A text is read in one of two ways.  Where its value is wanted it is *decoded*, which pairs
surrogates and refuses half a pair.  Where it is skipped it is *skimmed*, which checks the escapes
one by one and nothing between them.

* `decodeText` — the characters a text stands for, up to its closing quote.
* `skimText` — where a text ends.

Both take the byte offset of the characters they are given.
-/

namespace ClusterBroker.Json

/-! ## Escapes -/

/-- What a one-letter escape stands for. -/
def unescape? (c : Char) : Option Char :=
  if c = '"' ∨ c = '\\' ∨ c = '/' then some c
  else if c = 'b' then some '\x08'
  else if c = 'f' then some '\x0c'
  else if c = 'n' then some '\n'
  else if c = 'r' then some '\r'
  else if c = 't' then some '\t'
  else none

/-- The value of four hexadecimal digits. -/
def hexUnit? (a b c d : Char) : Option Nat := do
  let a ← Text.hexValue? a
  let b ← Text.hexValue? b
  let c ← Text.hexValue? c
  let d ← Text.hexValue? d
  return ((a * 16 + b) * 16 + c) * 16 + d

/-- The first half of a surrogate pair. -/
def isHighSurrogate (n : Nat) : Bool := 0xD800 ≤ n && n ≤ 0xDBFF

/-- The second half of a surrogate pair. -/
def isLowSurrogate (n : Nat) : Bool := 0xDC00 ≤ n && n ≤ 0xDFFF

/-- The character of a surrogate pair. -/
def pairChar (high low : Nat) : Char :=
  Char.ofNat (0x10000 + (high - 0xD800) * 0x400 + (low - 0xDC00))

/-- How many bytes characters take in UTF-8. -/
def byteCount : List Char → Nat
  | [] => 0
  | c :: cs => c.utf8Size + byteCount cs

/-- What is wrong with characters after `\u` that are not four hexadecimal digits: four bytes are
taken if there are as many. -/
def hexUnitFault (offset : Nat) (cs : List Char) : Fault :=
  if 4 ≤ byteCount cs then ⟨.malformedEscape, offset + 4⟩ else ⟨.endInText, offset + byteCount cs⟩

/-- What is wrong with characters that follow the first half of a surrogate pair and do not spell
the second half. -/
def pairFault (offset : Nat) : List Char → Fault
  | [] => ⟨.endInText, offset⟩
  | '\\' :: [] => ⟨.endInText, offset + 1⟩
  | '\\' :: 'u' :: a :: b :: c :: d :: _ =>
    match hexUnit? a b c d with
    | some _ => ⟨.loneSurrogate, offset + 6⟩
    | none => ⟨.malformedEscape, offset + 6⟩
  | '\\' :: 'u' :: cs => hexUnitFault (offset + 2) cs
  | '\\' :: _ => ⟨.halfSurrogatePair, offset + 2⟩
  | _ => ⟨.halfSurrogatePair, offset + 1⟩

/-! ## Decoding -/

/-- The characters a text stands for. -/
def decodeText (offset : Nat) : List Char → Except Fault (List Char)
  | [] => .error ⟨.endInText, offset⟩
  | '"' :: _ => .ok []
  | '\\' :: [] => .error ⟨.endInText, offset + 1⟩
  | '\\' :: 'u' :: a :: b :: c :: d :: rest =>
    match hexUnit? a b c d with
    | none => .error (hexUnitFault (offset + 2) (a :: b :: c :: d :: rest))
    | some n =>
      if isLowSurrogate n then .error ⟨.loneSurrogate, offset + 6⟩
      else if isHighSurrogate n then
        match rest with
        | '\\' :: 'u' :: e :: f :: g :: h :: rest' =>
          match (hexUnit? e f g h).filter isLowSurrogate with
          | some m => (pairChar n m :: ·) <$> decodeText (offset + 12) rest'
          | none => .error (pairFault (offset + 6) rest)
        | _ => .error (pairFault (offset + 6) rest)
      else (Char.ofNat n :: ·) <$> decodeText (offset + 6) rest
  | '\\' :: 'u' :: cs => .error (hexUnitFault (offset + 2) cs)
  | '\\' :: e :: rest =>
    match unescape? e with
    | some c => (c :: ·) <$> decodeText (offset + 2) rest
    | none => .error ⟨.malformedEscape, offset + 2⟩
  | c :: rest =>
    if c.toNat < 32 then .error ⟨.controlCharacter, offset + 1⟩
    else (c :: ·) <$> decodeText (offset + c.utf8Size) rest

/-! ## Skimming -/

/-- How many characters a text takes, its closing quote included, and the offset after that. -/
structure TextEnd where
  characters : Nat
  offset : Nat
  deriving DecidableEq, Repr

/-- The end of a text that begins some characters earlier. -/
def TextEnd.after (n : Nat) (e : TextEnd) : TextEnd :=
  ⟨e.characters + n, e.offset⟩

/-- Where a text ends. -/
def skimText (offset : Nat) : List Char → Except Fault TextEnd
  | [] => .error ⟨.endInText, offset⟩
  | '"' :: _ => .ok ⟨1, offset + 1⟩
  | '\\' :: [] => .error ⟨.endInText, offset + 1⟩
  | '\\' :: 'u' :: a :: b :: c :: d :: rest =>
    match hexUnit? a b c d with
    | none => .error (hexUnitFault (offset + 2) (a :: b :: c :: d :: rest))
    | some _ => (TextEnd.after 6) <$> skimText (offset + 6) rest
  | '\\' :: 'u' :: cs => .error (hexUnitFault (offset + 2) cs)
  | '\\' :: e :: rest =>
    match unescape? e with
    | some _ => (TextEnd.after 2) <$> skimText (offset + 2) rest
    | none => .error ⟨.malformedEscape, offset + 2⟩
  | c :: rest =>
    if c.toNat < 32 then .error ⟨.controlCharacter, offset⟩
    else (TextEnd.after 1) <$> skimText (offset + c.utf8Size) rest

end ClusterBroker.Json
