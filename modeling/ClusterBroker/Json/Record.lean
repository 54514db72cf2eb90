import ClusterBroker.Json.Shape

/-!
# Structures as records

A structure whose fields are all optional can say how JSON spells it: by the name of the record, its
fields, and the two directions between the structure and the values of the fields.  Reading and
writing then come from the shape.

* `Record` — the class of such structures.
* `Record.shape`, `Record.toJson`, `Record.ofNode` — what follows.
* `Record.option`, `Record.table` — a structure as a field of another, alone or by name.
-/

namespace ClusterBroker.Json

/-- A structure that is the record of some optional fields. -/
class Record (α : Type) where
  name : String
  fields : Fields
  ofValues : fields.Values → α
  toValues : α → fields.Values
  ofValues_toValues : ∀ a, ofValues (toValues a) = a
  toValues_ofValues : ∀ v, toValues (ofValues v) = v

namespace Record

variable {α : Type} [Record α]

/-- The shape of a structure. -/
def shape (α : Type) [Record α] : Shape :=
  .record (name α) (fields α)

/-! ## Structures inside structures -/

/-- An optional structure from its optional value. -/
def option : Option (shape α).Value → Option α :=
  Option.map ofValues

@[simp] theorem option_none : option (none : Option (shape α).Value) = none := rfl

@[simp] theorem option_some (v : (shape α).Value) : option (some v) = some (ofValues v) := rfl

/-- The optional value of an optional structure. -/
def optionValue : Option α → Option (shape α).Value :=
  Option.map toValues

/-- An optional table of structures from its value. -/
def table : Option (Shape.table (shape α)).Value → Option (Dict α) :=
  Option.map (Dict.map ofValues)

/-- The value of an optional table of structures. -/
def tableValue : Option (Dict α) → Option (Shape.table (shape α)).Value :=
  Option.map (Dict.map toValues)

@[simp] theorem option_optionValue (a : Option α) : option (optionValue a) = a := by
  cases a with
  | none => rfl
  | some a => exact congrArg some (ofValues_toValues a)

@[simp] theorem optionValue_option (v : Option (shape α).Value) : optionValue (option v) = v := by
  cases v with
  | none => rfl
  | some v => exact congrArg some (toValues_ofValues v)

@[simp] theorem table_tableValue (a : Option (Dict α)) : table (tableValue a) = a := by
  cases a with
  | none => rfl
  | some a =>
      refine congrArg some ((Dict.map_map toValues ofValues a).trans ?_)
      simp only [ofValues_toValues]
      exact Dict.map_id a

@[simp] theorem tableValue_table (v : Option (Shape.table (shape α)).Value) :
    tableValue (table v) = v := by
  cases v with
  | none => rfl
  | some v =>
      refine congrArg some ((Dict.map_map ofValues toValues v).trans ?_)
      simp only [toValues_ofValues]
      exact Dict.map_id v

/-! ## Reading and writing -/

/-- The tree of a structure, with null for absent fields or without them. -/
def toJson (full : Bool) (a : α) : Json :=
  .object ((fields α).write full (toValues a))

/-- The structure that a tree holds. -/
def ofNode (node : Node) : Except Fault α :=
  ofValues <$> (shape α).read node

/-- The structure that a whole text holds. -/
def ofText (text : List Char) : Except Fault α :=
  readDocument ofNode text

end Record

end ClusterBroker.Json
