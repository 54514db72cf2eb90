import ClusterBroker.Json.Node

/-!
# Walking a tree: for its value, or only past it

Both walks go through the tree in the order of the text and stop at the first fault.

* `Node.value` — the value of a tree, at a given depth of enclosing brackets.  Numbers have to be in
  range, surrogates paired and brackets nested less than `depthLimit` deep.
* `Node.skim` — whether a value can be skipped: brackets, commas, colons and the form of its leaves.

The two name the same flaw differently in a few places: after a comma, in texts and in numbers.
-/

namespace ClusterBroker.Json

/-- The depth of brackets that is too much. -/
def depthLimit : Nat := 128

/-! ## Flaws where a value is wanted -/

/-- What is wrong with a lexeme where a value is wanted that is not one. -/
def Lexeme.valueFault (l : Lexeme) : Fault :=
  ⟨if l.isEnd then .endInValue else .valueWanted, l.peek⟩

/-- The name of a key that is wanted. -/
def Key.read (k : Key) : Except Fault String :=
  match k.name.token with
  | .text value => value
  | .brokenText wanted _ => .error wanted
  | _ => .error ⟨.keyWanted, k.name.peek⟩

/-- Whether a colon follows a key. -/
def Key.checkColon (k : Key) : Except Fault Unit :=
  match k.colon.token with
  | .colon => .ok ()
  | .endOfText => .error ⟨.endInObject, k.colon.peek⟩
  | _ => .error ⟨.colonWanted, k.colon.peek⟩

/-- Whether the items of an array ended well. -/
def Finish.checkArray : Finish → Except Fault Unit
  | .closed _ => .ok ()
  | .stuck found =>
    .error ⟨if found.isEnd then .endInArray else .commaOrBracketWanted, found.peek⟩
  | .dangling found =>
    .error ⟨if found.isEnd then .endInValue else .trailingComma, found.peek⟩
  | .keyless found => .error ⟨.valueWanted, found.peek⟩
  | .cut => .error ⟨.valueWanted, 0⟩

/-- Whether the entries of an object ended well. -/
def Finish.checkObject : Finish → Except Fault Unit
  | .closed _ => .ok ()
  | .stuck found =>
    .error ⟨if found.isEnd then .endInObject else .commaOrBraceWanted, found.peek⟩
  | .dangling found =>
    match found.token with
    | .endOfText => .error ⟨.endInValue, found.peek⟩
    | .closeBrace => .error ⟨.trailingComma, found.peek⟩
    | _ => .error ⟨.keyWanted, found.peek⟩
  | .keyless found => .error ⟨if found.isEnd then .endInObject else .keyWanted, found.peek⟩
  | .cut => .error ⟨.valueWanted, 0⟩

/-- The value of a leaf. -/
def Lexeme.value (l : Lexeme) : Except Fault Json :=
  match l.token with
  | .null => .ok .null
  | .bool b => .ok (.bool b)
  | .number n => .number <$> n
  | .text s => .text <$> s
  | .brokenWord fault => .error fault
  | .brokenNumber wanted _ => .error wanted
  | .brokenText wanted _ => .error wanted
  | _ => .error l.valueFault

/-! ## The value of a tree -/

mutual

/-- The value of a tree inside `depth` brackets. -/
def Node.value (depth : Nat) : Node → Except Fault Json
  | .leaf found => found.value
  | .array start items finish =>
    if depth + 1 < depthLimit then do
      let values ← itemValues (depth + 1) items
      finish.checkArray
      return .array values
    else .error ⟨.tooDeep, start + 1⟩
  | .object start entries finish =>
    if depth + 1 < depthLimit then do
      let values ← entryValues (depth + 1) entries
      finish.checkObject
      return .object values
    else .error ⟨.tooDeep, start + 1⟩

/-- The values of items, in order. -/
def itemValues (depth : Nat) : List Node → Except Fault (List Json)
  | [] => .ok []
  | node :: rest => do
    let value ← node.value depth
    let values ← itemValues depth rest
    return value :: values

/-- The keys and values of entries, in order. -/
def entryValues (depth : Nat) : List (Key × Node) → Except Fault (List (String × Json))
  | [] => .ok []
  | (key, node) :: rest => do
    let name ← key.read
    key.checkColon
    let value ← node.value depth
    let values ← entryValues depth rest
    return (name, value) :: values

end

/-! ## Skimming -/

/-- Whether a leaf can be skipped. -/
def Lexeme.skim (l : Lexeme) : Except Fault Unit :=
  match l.token with
  | .null | .bool _ | .number _ | .text _ => .ok ()
  | .brokenWord fault => .error fault
  | .brokenNumber _ skipped => .error skipped
  | .brokenText _ skipped => .error skipped
  | _ => .error l.valueFault

/-- Whether a key can be skipped. -/
def Key.skim (k : Key) : Except Fault Unit :=
  match k.name.token with
  | .text _ => k.checkColon
  | .brokenText _ skipped => .error skipped
  | _ => .error ⟨.keyWanted, k.name.peek⟩

/-- Whether the items of a skipped array ended well. -/
def Finish.skimArray : Finish → Except Fault Unit
  | .dangling found => .error found.valueFault
  | finish => finish.checkArray

/-- Whether the entries of a skipped object ended well. -/
def Finish.skimObject : Finish → Except Fault Unit
  | .dangling found => .error ⟨if found.isEnd then .endInObject else .keyWanted, found.peek⟩
  | finish => finish.checkObject

mutual

/-- Whether a tree can be skipped. -/
def Node.skim : Node → Except Fault Unit
  | .leaf found => found.skim
  | .array _ items finish => do
    skimItems items
    finish.skimArray
  | .object _ entries finish => do
    skimEntries entries
    finish.skimObject

/-- Whether items can be skipped. -/
def skimItems : List Node → Except Fault Unit
  | [] => .ok ()
  | node :: rest => do
    node.skim
    skimItems rest

/-- Whether entries can be skipped. -/
def skimEntries : List (Key × Node) → Except Fault Unit
  | [] => .ok ()
  | (key, node) :: rest => do
    key.skim
    node.skim
    skimEntries rest

end

end ClusterBroker.Json
