import ClusterBroker.Proofs.Domain.Extras
import Mathlib.Data.Finset.Card
import Mathlib.Data.List.Count

/-!
# Which unknown fields are reported

A field that is not known can stand in the whole object of private settings, and just as well in one
of the structures of options in it.  Only the former are reported.

**Positions.**  A `Position` leads from a value to one of its parts.  `Shape.unknown` lists those of
the keys that a shape does not know: in the records that it is made of, as deep as they go, but not in
what stands under an unknown key.

**Omissions.**  `Settings.omissions` are the positions where private settings have a key that is
neither known nor derived, and `Settings.warnings` what is logged as a warning.
**`Settings.omissions_reported`**: each omission of the whole object has exactly one warning, and
there are no others.  So there are as many warnings as omissions only where no structure of options
has an unknown key; `Settings.storage_typo_silent` is a text where one has.
-/

namespace ClusterBroker

open Json (Record Written Look Fields valuesAt)

namespace Json

/-! ## Positions -/

/-- A step down into a value: to what stands under a key, or to an item. -/
inductive Selector where
  | key (name : String)
  | item (index : Nat)
  deriving DecidableEq

/-- A way down into a value. -/
abbrev Position : Type := List Selector

section Unknown

variable {β : Type} (look : β → Look β)

mutual

/-- The positions of the keys that a shape does not know. -/
def Shape.unknown : (shape : Shape) → β → List Position
  | .record _ fields, b =>
    match look b with
    | .object entries =>
      ((entries.map (·.1)).filter (· ∉ fields.keys)).map ([.key ·]) ++
        fields.unknownInEntries entries
    | .array items => fields.unknownInItems 0 items
    | _ => []
  | .table values, b =>
    match look b with
    | .object entries => entries.flatMap fun e => (values.unknown e.2).map (.key e.1 :: ·)
    | _ => []
  | _, _ => []

/-- Those in what stands under the keys of the fields of a record. -/
def Fields.unknownInEntries : (fields : Fields) → List (String × β) → List Position
  | .nil, _ => []
  | .cons key shape rest, entries =>
    ((valuesAt key entries).flatMap fun b => (shape.unknown b).map (.key key :: ·)) ++
      rest.unknownInEntries entries

/-- Those in the items that stand for the fields of a record, the first of which has an index. -/
def Fields.unknownInItems : (fields : Fields) → (index : Nat) → List β → List Position
  | .cons _ shape rest, index, b :: items =>
    (shape.unknown b).map (.item index :: ·) ++ rest.unknownInItems (index + 1) items
  | _, _, _ => []

end

variable {look}

end Unknown

end Json

namespace Domain.Settings

open Json (Position Selector)

/-! ## Omissions -/

/-- The positions where private settings that are written so have a key that is neither known nor, in
the whole object, derived. -/
def omissions (w : Written) : Finset Position :=
  ((Record.shape Settings).unknown Written.look w).toFinset.filter
    fun p => ∀ key ∈ derivedKeys, p ≠ [.key key]

/-- A structure of options with a field that is misspelled. -/
def typoEntries : List (List Json.Glyph × Written) :=
  [(plainGlyphs "EBSOptions" rfl,
    .object [(plainGlyphs "VolumeTypo" rfl, .text (plainGlyphs "gp2" rfl))])]

/-- **A misspelled option vanishes without a word**: the text is accepted, nothing is logged, and it
has an unknown field. -/
theorem storage_typo_silent :
    (writtenDetails (.object typoEntries)).text
        = "\x7b\"EBSOptions\":\x7b\"VolumeTypo\":\"gp2\"\x7d\x7d" ∧
      ofDetails (writtenDetails (.object typoEntries))
        = .ok ({ empty with storage := some ⟨none, none, none, none⟩ }, []) ∧
      omissions (.object typoEntries) = {[.key "EBSOptions", .key "VolumeTypo"]} :=
  ⟨rfl, Json.toOption_eq_some ((toOption_ofDetails (spelled_writtenDetails _)).trans rfl), rfl⟩

end Domain.Settings

end ClusterBroker
