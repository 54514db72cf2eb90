import ClusterBroker.ControlPlane.Wire.Body

/-!
# Forms: what a reply may hold

A form says of which type the value at some place of a body has to be.  The fields of a record may be
absent, null or repeated, and fields that it does not know may hold anything that can be passed over.
The items of a list and the values of a table are never null.

* `Form` — the forms.
* `Form.admits` — whether a tree is of a form.
-/

namespace ClusterBroker.Wire

/-- A type of values: texts, flags, integers of a width, moments as seconds since an epoch, lists,
tables from keys to values, and records by their fields. -/
inductive Form where
  | text
  | flag
  | whole (bits : Nat)
  | moment
  | list (items : Form)
  | table (values : Form)
  | record (fields : List (String × Form))

namespace Form

mutual

/-- Whether a tree is of a form.  A moment has to be finite. -/
def admits : Form → Body → Bool
  | text, .text s => s.decode?.isSome
  | flag, .flag _ => true
  | whole bits, .number n => n.fits bits
  | moment, .number n => n.magnitude?.isSome
  | list form, .list items => admitsItems form items
  | table form, .record entries => admitsValues form entries
  | record fields, .record entries => admitsFields fields entries
  | _, _ => false

/-- Whether all items are of a form. -/
def admitsItems (form : Form) : List Body → Bool
  | [] => true
  | item :: rest => form.admits item && admitsItems form rest

/-- Whether all entries have a key that is a text and a value of a form. -/
def admitsValues (form : Form) : List (Spelling × Body) → Bool
  | [] => true
  | (key, value) :: rest => key.decode?.isSome && form.admits value && admitsValues form rest

/-- Whether all entries have a key that is a text and, if it is that of a field, a value of the form of
the field or null, and else a value that can be passed over. -/
def admitsFields (fields : List (String × Form)) : List (Spelling × Body) → Bool
  | [] => true
  | (key, value) :: rest =>
    (match key.decode? with
      | none => false
      | some name =>
        match fields.lookup name with
        | none => value.canBeSkipped
        | some form => value.orAbsent.isNone || form.admits value) &&
      admitsFields fields rest

end

end Form

end ClusterBroker.Wire
