import ClusterBroker.Proofs.Domain.Bodies
import ClusterBroker.Proofs.Json.Reordering

/-!
# Settings survive serialisation

Settings can be written as JSON and are then private settings themselves.  Reading them gives back
what was written, an absent field as absent and an empty group of options as an empty group.

**Forms.**  `Settings.Serialized` are the values that settings may be written as.  Every field is
written, an absent one as null; tables of options have no order, so they may be written in any.

**Reading back.**  By `Serialized.ofJson?` a form means the settings and leaves no key out.  So it is
read back whatever text it has (**`Serialized.ofDetails`**), and the compact one is such a text
(`Serialized.ofText_render`).  By **`Serialized.same_iff`** forms tell settings apart.
-/

namespace ClusterBroker.Domain.Settings

open Json (Record Same SameEntries)

/-! ## Forms -/

/-- The values that settings may be serialised as: all fields, with null for absent ones, and the
entries of objects in any order. -/
def Serialized (s : Settings) (j : Json) : Prop :=
  Same j (Record.toJson true s)

/-- What is absent is written as null. -/
example : (Record.toJson true (⟨none, some true⟩ : LogTarget)).render
    = "\x7b\"CloudWatchLogsLogGroupArn\":null,\"Enabled\":true\x7d" := by decide +kernel

/-! ## Reading back -/

namespace Serialized

variable {s s' : Settings} {j j' : Json}

/-- **A form means the settings it was written for**, and there is no key in it that is not known. -/
theorem ofJson? (h : s.Serialized j) : Settings.ofJson? j = some (s, []) := by
  cases h with
  | @object es _ hsame =>
      obtain ⟨notices, hmeans, hperm⟩ :=
        @ofJson?_same true s [] [] es (by simp) (by simp) (by simpa using hsame)
      rw [hmeans, List.perm_nil.1 hperm]

/-- **A form is read back from any text that has its value**, without a notice. -/
theorem ofDetails (h : s.Serialized j) {details : Details}
    (htext : Json.ofText details.text.toList = .ok j) :
    Settings.ofDetails details = .ok (s, []) :=
  ofDetails_of_ofJson? htext h.ofJson?

/-- The compact text of a form has its value. -/
theorem ofText_render (h : s.Serialized j) : Json.ofText j.render.toList = .ok j := by
  have hdepth := (Record.shape Settings).depth_write_le true (Record.toValues s)
  have hshape : (Record.shape Settings).depth = 3 := by decide
  have hlimit : (Record.toJson true s).depth < Json.depthLimit :=
    Nat.lt_of_le_of_lt (hshape ▸ hdepth) (by decide)
  rw [Json.render, String.toList_ofList]
  exact Same.ofText_print h ((Record.shape Settings).write_hasWords true (Record.toValues s)) hlimit

/-- **Forms are equal as JSON values just when the settings are equal.** -/
theorem same_iff (h : s.Serialized j) (h' : s'.Serialized j') : Same j j' ↔ s = s' := by
  constructor
  · intro hsame
    have hboth : s'.Serialized j := hsame.trans h'
    have hmeans := h.ofJson?.symm.trans hboth.ofJson?
    exact (Prod.mk.inj (Option.some.inj hmeans)).1
  · rintro rfl
    exact Same.trans h (Same.symm h')

end Serialized

/-! ## Survival -/

/-- What becomes of settings that are serialised.

* `reread`: the text of every form is read as these settings, without a notice.
* `respelled`: and so is any other text that has the value of a form.
* `again`: reading, serialising and reading is reading, but for the notices of the first time.
* `told`: forms of two settings are equal as JSON values just when the settings are. -/
structure Survives (s : Settings) : Prop where
  reread : ∀ j, s.Serialized j → ofDetails ⟨j.render⟩ = .ok (s, [])
  respelled : ∀ (details : Details) (j : Json), s.Serialized j →
    Json.ofText details.text.toList = .ok j → ofDetails details = .ok (s, [])
  again : ∀ (details : Details) (notices : List Notice), ofDetails details = .ok (s, notices) →
    ∀ j, s.Serialized j → (ofDetails ⟨j.render⟩).map (·.1) = (ofDetails details).map (·.1)
  told : ∀ (s' : Settings) (j j' : Json), s.Serialized j → s'.Serialized j' →
    (Same j j' ↔ s = s')

/-- **Settings survive serialisation**, whatever options, texts, keys and numbers there are in them. -/
theorem serialization_survived (s : Settings) : s.Survives where
  reread _ h := h.ofDetails h.ofText_render
  respelled _ _ h htext := h.ofDetails htext
  again details notices hread j h := by
    have hform : ofDetails ⟨j.render⟩ = .ok (s, []) := h.ofDetails h.ofText_render
    rw [hform, hread]
    rfl
  told _ _ _ h h' := h.same_iff h'

end ClusterBroker.Domain.Settings
