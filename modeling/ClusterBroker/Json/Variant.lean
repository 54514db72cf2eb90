import ClusterBroker.Json.Shape

/-!
# Variants: one of several names

A variant without contents is spelled as a text with its name, or as an object with one entry whose
key is the name and whose value is null.

* `readVariant` — the variant in a text.
-/

namespace ClusterBroker.Json

/-- What is wrong with a lexeme that is wanted to be of another kind. -/
def Lexeme.mismatch (wanted : String) (l : Lexeme) : Fault :=
  match l.token with
  | .openBracket => ⟨.mismatch .sequence wanted, l.start⟩
  | .openBrace => ⟨.mismatch .map wanted, l.start⟩
  | _ => (Node.leaf l).mismatch wanted

/-- The variant that a lexeme names, if it is a text with one of the known names. -/
def readName {α : Type} (variants : List (String × α)) (l : Lexeme) : Except Fault α :=
  match l.token with
  | .text value => do
    let name ← value
    match variants.lookup name with
    | some variant => return variant
    | none => throw ⟨.unknownVariant name (variants.map (·.1)), l.stop⟩
  | _ => .error (l.mismatch "variant identifier")

/-- Checks that nothing follows. -/
def checkNothing : List Lexeme → Except Fault Unit
  | [] => .ok ()
  | l :: _ => .error ⟨.trailingCharacters, l.peek⟩

/-- Checks that an object has an entry and that it starts with a key. -/
def checkEntry (l : Lexeme) : Except Fault Unit :=
  match l.token with
  | .text _ | .brokenText _ _ => .ok ()
  | .endOfText => .error ⟨.endInObject, l.peek⟩
  | .closeBrace => .error ⟨.valueWanted, l.peek⟩
  | _ => .error ⟨.keyWanted, l.peek⟩

/-- The rest of an object with one entry, from its key on; `size` is that of the text. -/
def readEntryVariant {α : Type} (variants : List (String × α)) (size : Nat) (ls : List Lexeme) :
    Except Fault α := do
  let at_ (n : Nat) : Lexeme := ls[n]?.getD (.atEnd size)
  checkEntry (at_ 0)
  let variant ← readName variants (at_ 0)
  Key.checkColon ⟨at_ 0, at_ 1⟩
  match (at_ 2).token with
  | .null => pure ()
  | _ => throw ((at_ 2).mismatch "unit")
  match (at_ 3).token with
  | .closeBrace => pure ()
  | .endOfText => throw ⟨.endInObject, (at_ 3).start⟩
  | _ => throw ⟨.valueWanted, (at_ 3).start⟩
  checkNothing (ls.drop 4)
  return variant

/-- The variant in a text, of those with the given names. -/
def readVariant {α : Type} (variants : List (String × α)) (text : List Char) : Except Fault α :=
  let size := byteCount text
  match lexemes text with
  | [] => .error (Lexeme.atEnd size).valueFault
  | l :: rest =>
    match l.token with
    | .openBrace => readEntryVariant variants size rest
    | .text _ => do
      let variant ← readName variants l
      checkNothing rest
      return variant
    | .brokenText wanted _ => .error wanted
    | _ => .error ⟨.valueWanted, l.peek⟩

end ClusterBroker.Json
