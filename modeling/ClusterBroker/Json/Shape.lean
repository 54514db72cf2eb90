import ClusterBroker.Dict
import ClusterBroker.Json.Node.Walk

/-!
# Shapes: what a JSON text is wanted to hold

A shape describes a type of values and how JSON spells them.  A record may be spelled as an object,
with its fields in any order and unknown ones skipped, or as an array of all its fields.  Every
field may be absent or null.

* `Shape`, `Fields` — the descriptions; `Shape.Value`, `Fields.Values` — what they describe.
* `Shape.read` — the value of a tree under a shape, or the first fault in the order of the text.
* `Shape.write` — the tree of a value, with null for absent fields or without them.
* `Shape.ofText`, `Json.ofText` — the value of a whole text, under a shape or as it is.
-/

namespace ClusterBroker.Json

/-! ## Descriptions -/

mutual

/-- A type of values: flags, numbers of thirty-two bits, texts, records with a name, and tables from
text to values of one shape. -/
inductive Shape where
  | flag
  | whole
  | text
  | record (name : String) (fields : Fields)
  | table (values : Shape)

/-- The fields of a record in their order, each with its key. -/
inductive Fields where
  | nil
  | cons (key : String) (shape : Shape) (rest : Fields)

end

mutual

/-- The values that a shape describes. -/
@[reducible] def Shape.Value : Shape → Type
  | .flag => Bool
  | .whole => Int32
  | .text => String
  | .record _ fields => fields.Values
  | .table values => Dict values.Value

/-- The values of the fields of a record, each possibly absent. -/
@[reducible] def Fields.Values : Fields → Type
  | .nil => Unit
  | .cons _ shape rest => Option shape.Value × rest.Values

end

namespace Fields

/-- Fields from a list of keys and shapes. -/
@[reducible] def ofList : List (String × Shape) → Fields
  | [] => .nil
  | (key, shape) :: rest => .cons key shape (ofList rest)

/-- The record without any field. -/
def absent : (fields : Fields) → fields.Values
  | .nil => ()
  | .cons _ _ rest => (none, absent rest)

/-- How many fields there are. -/
def count : Fields → Nat
  | .nil => 0
  | .cons _ _ rest => rest.count + 1

/-- The keys in their order. -/
def keys : Fields → List String
  | .nil => []
  | .cons key _ rest => key :: rest.keys

end Fields

/-- What a shape is called where something else is found. -/
def Shape.wanted : Shape → String
  | .flag => "a boolean"
  | .whole => "i32"
  | .text => "a string"
  | .record name _ => "struct " ++ name
  | .table _ => "a map"

/-! ## Faults -/

/-- What is wrong with a tree that is wanted to be of another kind.  A leaf is taken first, so what
is wrong with the leaf itself comes before; a bracket is not taken. -/
def Node.mismatch (wanted : String) : Node → Fault
  | .leaf l =>
    match l.token with
    | .null => ⟨.mismatch .null wanted, l.stop⟩
    | .bool b => ⟨.mismatch (.bool b) wanted, l.stop⟩
    | .number (.ok n) => ⟨.mismatch (.number n) wanted, l.stop⟩
    | .number (.error fault) => fault
    | .text (.ok s) => ⟨.mismatch (.text s) wanted, l.stop⟩
    | .text (.error fault) => fault
    | .brokenWord fault => fault
    | .brokenNumber fault _ => fault
    | .brokenText fault _ => fault
    | _ => l.valueFault
  | .array start _ _ => ⟨.mismatch .sequence wanted, start⟩
  | .object start _ _ => ⟨.mismatch .map wanted, start⟩

/-- Where a flaw of the whole object is placed that shows at a key: after what follows the key, if
that is the closing brace, else before it. -/
def Key.after (k : Key) : Nat :=
  match k.colon.token with
  | .closeBrace => k.colon.stop
  | _ => k.colon.start

/-- What is wrong with an array that goes on after the last field of a record, or does not end. -/
def overlong : List Node → Finish → Except Fault Unit
  | node :: _, _ => .error ⟨.trailingCharacters, node.peek⟩
  | [], .closed _ => .ok ()
  | [], .stuck found =>
    .error ⟨if found.isEnd then .endInArray else .trailingCharacters, found.peek⟩
  | [], .dangling found =>
    .error ⟨if found.isEnd then .trailingCharacters else .trailingComma, found.peek⟩
  | [], finish => finish.checkArray

/-! ## Entries of an object -/

/-- What the entries of an object have given so far: the values, and the keys that were known and
those that were not, in their order. -/
structure Gathered (α : Type) where
  values : α
  known : List String
  unknown : List String

/-- Takes one entry.  A known key may occur once; `past` says how the value of an unknown one is
skipped. -/
def gatherEntry {α : Type} (isKnown : String → Bool) (readField : String → Node → α → Except Fault α)
    (past : Node → Except Fault Unit) (acc : Gathered α) (entry : Key × Node) :
    Except Fault (Gathered α) := do
  let name ← entry.1.read
  if isKnown name then
    if name ∈ acc.known then
      throw ⟨.duplicateField name, entry.1.after⟩
    entry.1.checkColon
    let values ← readField name entry.2 acc.values
    return { acc with values, known := acc.known ++ [name] }
  else
    entry.1.checkColon
    past entry.2
    return { acc with unknown := acc.unknown ++ [name] }

/-- Takes the entries of an object in order, and its end. -/
def gather {α : Type} (isKnown : String → Bool) (readField : String → Node → α → Except Fault α)
    (past : Node → Except Fault Unit) (start : α) (entries : List (Key × Node)) (finish : Finish) :
    Except Fault (Gathered α) := do
  let gathered ← entries.foldlM (gatherEntry isKnown readField past) ⟨start, [], []⟩
  finish.checkObject
  return gathered

/-! ## Reading -/

/-- A flag. -/
def readFlag (node : Node) : Except Fault Bool :=
  match node with
  | .leaf ⟨_, _, .bool b⟩ => .ok b
  | _ => .error (node.mismatch Shape.flag.wanted)

/-- A number of thirty-two bits. -/
def readWhole (node : Node) : Except Fault Int32 :=
  match node with
  | .leaf ⟨_, stop, .number (.ok (.whole n))⟩ =>
    if Int32.minValue.toInt ≤ n ∧ n ≤ Int32.maxValue.toInt then .ok (Int32.ofInt n)
    else .error ⟨.outOfRange n Shape.whole.wanted, stop⟩
  | _ => .error (node.mismatch Shape.whole.wanted)

/-- A text. -/
def readText (node : Node) : Except Fault String :=
  match node with
  | .leaf ⟨_, _, .text value⟩ => value
  | _ => .error (node.mismatch Shape.text.wanted)

/-- A value that null stands for the absence of. -/
def orNull {α : Type} (read : Node → Except Fault α) (node : Node) : Except Fault (Option α) :=
  match node with
  | .leaf ⟨_, _, .null⟩ => .ok none
  | _ => some <$> read node

mutual

/-- The value of a tree under a shape. -/
def Shape.read : (shape : Shape) → Node → Except Fault shape.Value
  | .flag, node => readFlag node
  | .whole, node => readWhole node
  | .text, node => readText node
  | .record name fields, node =>
    match node with
    | .array _ items finish => fields.readItems name fields.count 0 items finish
    | .object _ entries finish =>
      Gathered.values <$>
        gather fields.keys.contains (fun key node acc => fields.readField key node acc) Node.skim
          fields.absent entries finish
    | _ => .error (node.mismatch ("struct " ++ name))
  | .table values, node =>
    match node with
    | .object _ entries finish => do
      let table ← entries.foldlM
        (fun (acc : Dict values.Value) (entry : Key × Node) => do
          let name ← entry.1.read
          entry.1.checkColon
          let value ← values.read entry.2
          return acc.insert name value)
        Dict.empty
      finish.checkObject
      return table
    | _ => .error (node.mismatch "a map")

/-- The values of the fields with the value of one key read from a tree. -/
def Fields.readField :
    (fields : Fields) → (key : String) → Node → fields.Values → Except Fault fields.Values
  | .nil, _, _, values => .ok values
  | .cons k shape rest, key, node, (value, values) =>
    if k = key then (fun v => (v, values)) <$> orNull shape.read node
    else (fun vs => (value, vs)) <$> rest.readField key node values

/-- The values of the fields from the items of an array, one for each.  `total` is the number of
fields of the record and `index` that of the fields before. -/
def Fields.readItems (record : String) (total : Nat) :
    (fields : Fields) → (index : Nat) → List Node → Finish → Except Fault fields.Values
  | .nil, _, items, finish => (fun _ => ()) <$> overlong items finish
  | .cons _ shape rest, index, items, finish =>
    match items, finish with
    | [], .closed stop => .error ⟨.wrongLength index record total, stop⟩
    | [], finish =>
      match finish.checkArray with
      | .error fault => .error fault
      | .ok () => .error ⟨.wrongLength index record total, 0⟩
    | node :: items, finish => do
      let value ← orNull shape.read node
      let values ← rest.readItems record total (index + 1) items finish
      return (value, values)

end

/-! ## Writing -/

mutual

/-- The tree of a value.  With `full`, absent fields are written as null; without, they are left
out. -/
def Shape.write (full : Bool) : (shape : Shape) → shape.Value → Json
  | .flag, b => .bool b
  | .whole, n => Json.whole n.toInt
  | .text, s => .text s
  | .record _ fields, values => .object (fields.write full values)
  | .table shape, table => .object (table.entries.map fun e => (e.1, shape.write full e.2))

/-- The entries of the fields of a record. -/
def Fields.write (full : Bool) : (fields : Fields) → fields.Values → List (String × Json)
  | .nil, _ => []
  | .cons key shape rest, (value, values) =>
    match value with
    | some v => (key, shape.write full v) :: rest.write full values
    | none => if full then (key, .null) :: rest.write full values else rest.write full values

end

/-! ## Whole texts -/

/-- Whether nothing but blanks follows the value of a text. -/
def Document.checkEnd (d : Document) : Except Fault Unit :=
  if d.next.isEnd then .ok () else .error ⟨.trailingCharacters, d.next.peek⟩

/-- What a reader makes of a whole text. -/
def readDocument {α : Type} (read : Node → Except Fault α) (text : List Char) : Except Fault α := do
  let document := Document.ofText text
  let value ← read document.root
  document.checkEnd
  return value

/-- The value of a whole text under a shape. -/
def Shape.ofText (shape : Shape) (text : List Char) : Except Fault shape.Value :=
  readDocument shape.read text

/-- The JSON value of a whole text. -/
def ofText (text : List Char) : Except Fault Json :=
  readDocument (Node.value 0) text

end ClusterBroker.Json
