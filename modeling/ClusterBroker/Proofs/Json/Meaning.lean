import ClusterBroker.Json.Shape
import Mathlib.Tactic.Lemma

/-!
# What a value means under a shape

Reading works through a text from left to right.  What it comes to can be said without an order: a
field of a record holds what stands under its key, which may occur once, and the other keys do not
matter.

**Looks.**  A shape looks at a value one level at a time, and what it needs to know of each level is
a `Look`.  So the meaning is one function for all that can be looked at: for JSON values
(`Json.look`), and for the syntax of a text, parts of which have no value at all.

**Meaning.**  `Shape.meaning?` is the value that something means under a shape, if it means one.
Of the entries of a record it looks only at what stands under the keys of its fields.

**Entry by entry.**  `Fields.resume?` is the meaning of a record some of whose entries have been
taken already, and `Fields.resume?_cons` takes one more, which is how a reader goes on.
-/

namespace ClusterBroker.Json

/-- Fields are a list of shapes with their keys. -/
@[elab_as_elim, induction_eliminator]
theorem Fields.induction {motive : Fields → Prop} (nil : motive .nil)
    (cons : ∀ key shape rest, motive rest → motive (.cons key shape rest)) :
    ∀ fields, motive fields
  | .nil => nil
  | .cons key shape rest => cons key shape rest (Fields.induction nil cons rest)

/-! ## Looks -/

/-- What something is at first sight, with its parts not looked at yet.  A number that is no integer
of thirty-two bits is of no use to any shape, so it is something else. -/
inductive Look (β : Type) where
  | null
  | bool (value : Bool)
  | whole (value : Int32)
  | text (value : String)
  | array (items : List β)
  | object (entries : List (String × β))
  | other

/-- The look of a number, if it has a value. -/
def Look.ofNumber? {β : Type} : Option Number → Look β
  | some (.whole n) =>
    if Int32.minValue.toInt ≤ n ∧ n ≤ Int32.maxValue.toInt then .whole (Int32.ofInt n) else .other
  | _ => .other

/-- The look of a text, if it has a value. -/
def Look.ofText? {β : Type} : Option String → Look β
  | some s => .text s
  | none => .other

/-- The look of a JSON value. -/
def look : Json → Look Json
  | .null => .null
  | .bool b => .bool b
  | .number n => .ofNumber? (some n)
  | .text s => .ofText? (some s)
  | .array items => .array items
  | .object entries => .object entries

/-! ## Meaning -/

section Meaning

variable {α β : Type}

/-- What stands under a key, in order. -/
def valuesAt (key : String) (entries : List (String × β)) : List β :=
  (entries.filter fun e => e.1 = key).map (·.2)

/-- The meaning of what null stands for the absence of. -/
def orNull? (look : β → Look β) (meaning : β → Option α) (b : β) : Option (Option α) :=
  match look b with
  | .null => some none
  | _ => some <$> meaning b

/-- The meaning of what stands under one key, which may be at most one thing. -/
def atMostOne? (absent : α) (meaning : β → Option α) : List β → Option α
  | [] => some absent
  | [b] => meaning b
  | _ => none

variable (look : β → Look β)

mutual

/-- The value that something means under a shape. -/
def Shape.meaning? : (shape : Shape) → β → Option shape.Value
  | .flag, b =>
    match look b with
    | .bool value => some value
    | _ => none
  | .whole, b =>
    match look b with
    | .whole value => some value
    | _ => none
  | .text, b =>
    match look b with
    | .text value => some value
    | _ => none
  | .record _ fields, b =>
    match look b with
    | .array items => fields.ofItems? items
    | .object entries => fields.ofEntries? entries
    | _ => none
  | .table values, b =>
    match look b with
    | .object entries => do
      let pairs ← entries.mapM fun e => (fun v => (e.1, v)) <$> values.meaning? e.2
      return Dict.ofList pairs
    | _ => none

/-- The values of the fields of a record from its entries: of each field, the one value under its
key, or none. -/
def Fields.ofEntries? : (fields : Fields) → List (String × β) → Option fields.Values
  | .nil, _ => some ()
  | .cons key shape rest, entries => do
    let value ← atMostOne? none (orNull? look shape.meaning?) (valuesAt key entries)
    let values ← rest.ofEntries? entries
    return (value, values)

/-- The values of the fields of a record from an array with one item for each. -/
def Fields.ofItems? : (fields : Fields) → List β → Option fields.Values
  | .nil, [] => some ()
  | .nil, _ :: _ => none
  | .cons _ _ _, [] => none
  | .cons _ shape rest, b :: items => do
    let value ← orNull? look shape.meaning? b
    let values ← rest.ofItems? items
    return (value, values)

end

end Meaning

/-! ## Keys -/

section Keys

variable {β : Type}

@[simp] lemma valuesAt_nil (key : String) : valuesAt key ([] : List (String × β)) = [] := rfl

lemma valuesAt_cons (key name : String) (b : β) (rest : List (String × β)) :
    valuesAt key ((name, b) :: rest)
      = if name = key then b :: valuesAt key rest else valuesAt key rest := by
  by_cases h : name = key <;> simp [valuesAt, h]

lemma valuesAt_append (key : String) (before after : List (String × β)) :
    valuesAt key (before ++ after) = valuesAt key before ++ valuesAt key after := by
  simp [valuesAt]

/-- Nothing stands under a key that does not occur. -/
lemma valuesAt_eq_nil {key : String} {entries : List (String × β)}
    (h : key ∉ entries.map (·.1)) : valuesAt key entries = [] := by
  simp only [valuesAt, List.map_eq_nil_iff, List.filter_eq_nil_iff]
  rintro e he hkey
  exact h (List.mem_map.2 ⟨e, he, by simpa using hkey⟩)

end Keys

mutual

/-- Whether no record in a shape has two fields with one key. -/
def Shape.distinct : Shape → Bool
  | .record _ fields => fields.distinct
  | .table values => values.distinct
  | _ => true

/-- Whether fields have different keys, and so have the records in them. -/
def Fields.distinct : Fields → Bool
  | .nil => true
  | .cons key shape rest => !rest.keys.contains key && shape.distinct && rest.distinct

end

lemma Fields.distinct_cons {key : String} {shape : Shape} {rest : Fields} :
    (Fields.cons key shape rest).distinct = true
      ↔ key ∉ rest.keys ∧ shape.distinct = true ∧ rest.distinct = true := by
  simp [distinct, and_assoc]

/-! ## Entry by entry -/

section Resume

variable {β : Type} (look : β → Look β)

/-- The values of the fields with the value of one key taken from something. -/
def Fields.ofField? :
    (fields : Fields) → (key : String) → β → fields.Values → Option fields.Values
  | .nil, _, _, values => some values
  | .cons k shape rest, key, b, (value, values) =>
    if k = key then (fun v => (v, values)) <$> orNull? look (shape.meaning? look) b
    else (fun vs => (value, vs)) <$> rest.ofField? key b values

/-- The values of the fields from the entries that are left, after some keys were taken. -/
def Fields.resume? (taken : List String) :
    (fields : Fields) → fields.Values → List (String × β) → Option fields.Values
  | .nil, _, _ => some ()
  | .cons key shape rest, (value, values), entries => do
    let value ← atMostOne? value
      (fun b => if key ∈ taken then none else orNull? look (shape.meaning? look) b)
      (valuesAt key entries)
    let values ← rest.resume? taken values entries
    return (value, values)

end Resume

namespace Fields

variable {β : Type} {look : β → Look β}

/-- Where nothing has been taken, nothing is resumed. -/
lemma resume?_absent (fields : Fields) (entries : List (String × β)) :
    fields.resume? look [] fields.absent entries = fields.ofEntries? look entries := by
  induction fields with
  | nil => rfl
  | cons key shape rest ih => simp [resume?, absent, ofEntries?, ih]

lemma resume?_nil (taken : List String) (fields : Fields) (values : fields.Values) :
    fields.resume? look taken values [] = some values := by
  induction fields with
  | nil => rfl
  | cons key shape rest ih => simp [resume?, ih, atMostOne?]

lemma resume?_congr {taken taken' : List String} {fields : Fields} {values : fields.Values}
    {entries entries' : List (String × β)}
    (ht : ∀ key ∈ fields.keys, key ∈ taken' ↔ key ∈ taken)
    (he : ∀ key ∈ fields.keys, valuesAt key entries' = valuesAt key entries) :
    fields.resume? look taken' values entries' = fields.resume? look taken values entries := by
  induction fields with
  | nil => rfl
  | cons key shape rest ih =>
      have htaken := ht key (by simp [keys])
      have hkey := he key (by simp [keys])
      have hrest : rest.resume? look taken' values.2 entries'
          = rest.resume? look taken values.2 entries :=
        ih (fun k hk => ht k (by simp [keys, hk])) fun k hk => he k (by simp [keys, hk])
      simp only [resume?, htaken, hkey, hrest]

lemma nodup_keys {fields : Fields} (h : fields.distinct = true) : fields.keys.Nodup := by
  induction fields with
  | nil => exact .nil
  | cons key shape rest ih =>
      obtain ⟨hkey, -, hrest⟩ := distinct_cons.1 h
      exact List.nodup_cons.2 ⟨hkey, ih hrest⟩

/-- **Taking one entry more.**  A key of the record may occur once and its value has to mean
something; any other key changes nothing. -/
theorem resume?_cons {fields : Fields} (h : fields.keys.Nodup) (taken : List String)
    (values : fields.Values) (name : String) (b : β) (entries : List (String × β)) :
    fields.resume? look taken values ((name, b) :: entries)
      = if name ∈ fields.keys then
          if name ∈ taken then none
          else (fields.ofField? look name b values).bind fun vs =>
            fields.resume? look (taken ++ [name]) vs entries
        else fields.resume? look taken values entries := by
  induction fields with
  | nil => rfl
  | cons key shape rest ih =>
      obtain ⟨hkey, hrest⟩ := List.nodup_cons.1 h
      obtain ⟨value, values⟩ := values
      by_cases hname : name = key
      · subst hname
        have hsame : rest.resume? look (taken ++ [name]) values entries
            = rest.resume? look taken values ((name, b) :: entries) := by
          refine resume?_congr (fun k hk => ?_) fun k hk => ?_
          · have hne : k ≠ name := fun e => hkey (e ▸ hk)
            simp [hne]
          · have hne : name ≠ k := fun e => hkey (e ▸ hk)
            rw [valuesAt_cons, if_neg hne]
        have hmem : name ∈ (cons name shape rest).keys := by simp [keys]
        rw [if_pos hmem, resume?, valuesAt_cons, if_pos rfl, ← hsame]
        by_cases htaken : name ∈ taken
        · rw [if_pos htaken]
          cases valuesAt name entries <;> simp [atMostOne?, htaken]
        · rw [if_neg htaken]
          simp only [ofField?, if_true, resume?]
          cases hvalue : orNull? look (shape.meaning? look) b with
          | none => cases valuesAt name entries <;> simp [atMostOne?, htaken, hvalue]
          | some v => rcases valuesAt name entries with _ | ⟨k, _ | ⟨k', more⟩⟩ <;>
              simp [atMostOne?, htaken, hvalue]
      · have hkeys : name ∈ (cons key shape rest).keys ↔ name ∈ rest.keys := by
          simp [keys, hname]
        have hother : key ∈ taken ++ [name] ↔ key ∈ taken := by
          simp [Ne.symm hname]
        simp only [resume?, valuesAt_cons, if_neg hname, hkeys, ih hrest, ofField?,
          if_neg (Ne.symm hname)]
        by_cases hin : name ∈ rest.keys
        · simp only [if_pos hin]
          by_cases htaken : name ∈ taken
          · simp [htaken]
          · simp only [if_neg htaken]
            cases rest.ofField? look name b values with
            | none => simp
            | some vs => simp only [Option.map_eq_map, Option.map_some, Option.bind_some, hother]
        · simp only [if_neg hin]

end Fields

end ClusterBroker.Json
