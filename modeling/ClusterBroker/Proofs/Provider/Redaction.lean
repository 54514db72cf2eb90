import ClusterBroker.Provider.Operation
import Mathlib.Data.List.Perm.Basic
import Mathlib.Tactic.Lemma

/-!
# What is private and what may be shown

**Redaction.**  `Plan.redacted` takes the private settings out of a plan, and so on for everything
that holds a plan.  `Call.redacted` takes out of a call what comes from the settings: the options of
a request and the choice of subnets.  Whatever is left is not private.

**Texts.**  `Outcome.texts` and `Failure.texts` are everything that can be written down of a result:
its public tree, its text in diagnostics, its wording.  They do not change under redaction
(`resultTexts_redacted`), so what is told of a result does not depend on private settings.

**Private settings.**  `Details.ReadAlike` relates settings that can be read and leave out the same
fields.  They give the same notices in some order, and the same request but for what is private
(`Domain.Request.redacted_make`).
-/

namespace ClusterBroker

open Domain (Request Settings Naming Placement)

/-! ## Redaction -/

/-- A plan without its private settings. -/
def Plan.redacted (p : Plan) : Plan :=
  { p with details := ⟨""⟩ }

/-- An instance without the private settings of its plan. -/
def Instance.redacted (i : Instance) : Instance :=
  { i with plan := i.plan.redacted }

/-- An outcome without private settings. -/
def Outcome.redacted : Outcome → Outcome
  | found i => found i.redacted
  | other => other

/-- A failure without private settings. -/
def Failure.redacted : Failure → Failure
  | untagged orphan reason => untagged orphan.redacted reason
  | other => other

/-- A result without private settings. -/
def redactedResult (r : Except Failure Outcome) : Except Failure Outcome :=
  (r.map Outcome.redacted).mapError Failure.redacted

/-- A request without the options and the choice of subnets. -/
def Domain.Request.redacted (r : Request) : Request where
  name := r.name
  version := none
  topology := none
  storage := none
  snapshots := none
  advanced := none
  restEncryption := none
  nodeEncryption := none
  logTargets := none
  cognito := none
  endpointPolicy := none
  accessControl := none
  policy := r.policy
  placement := r.placement.map fun p => { p with subnets := [] }

/-- A call without what comes from private settings. -/
def Call.redacted : Call → Call
  | create r => create r.redacted
  | update r => update r.redacted
  | other => other

/-! ## Texts -/

namespace Outcome

/-- The public tree of an outcome. -/
def toJson : Outcome → Json
  | found i => i.toJson
  | urls byName => .object (byName.entries.map fun e => (e.1, .text e.2))
  | serviceName text => .text text
  | done => .null

/-- An outcome as diagnostics show it. -/
def shown : Outcome → String
  | found i => i.shown
  | urls byName =>
    "\x7b" ++ String.intercalate ", "
      (byName.entries.map fun e => Text.quoted e.1 ++ ": " ++ Text.quoted e.2) ++ "\x7d"
  | serviceName text => Text.quoted text
  | done => "()"

/-- Everything that can be written down of an outcome. -/
def texts (o : Outcome) : List String :=
  [o.toJson.render, o.shown]

@[simp] lemma texts_redacted (o : Outcome) : o.redacted.texts = o.texts := by
  cases o <;> rfl

end Outcome

namespace Failure

/-- Everything that can be written down of a failure, with the instance left behind. -/
def texts (f : Failure) : List String :=
  f.variant :: f.message :: f.shown :: (f.orphan?.map fun i => i.toJson.render).toList

@[simp] lemma texts_redacted (f : Failure) : f.redacted.texts = f.texts := by
  cases f <;> rfl

end Failure

/-- Everything that can be written down of a result. -/
def resultTexts (r : Except Failure Outcome) : Except (List String) (List String) :=
  (r.map Outcome.texts).mapError Failure.texts

/-- **The texts of a result do not show private settings.** -/
theorem resultTexts_redacted (r : Except Failure Outcome) :
    resultTexts (redactedResult r) = resultTexts r := by
  cases r with
  | ok o => exact congrArg Except.ok o.texts_redacted
  | error f => exact congrArg Except.error f.texts_redacted

/-! ## Private settings -/

/-- Private settings that can be read, and that leave out the same fields. -/
def Details.ReadAlike (d d' : Details) : Prop :=
  ∃ read read' : Settings × List String,
    Json.readDocument Settings.gather d.text.toList = .ok read ∧
    Json.readDocument Settings.gather d'.text.toList = .ok read' ∧
    ∀ key, key ∈ read.2 ↔ key ∈ read'.2

lemma nodup_eraseDups : ∀ l : List String, l.eraseDups.Nodup
  | [] => List.nodup_nil
  | a :: rest => by
      rw [List.eraseDups_cons]
      refine List.nodup_cons.2 ⟨fun h => ?_, nodup_eraseDups (rest.filter fun b => !b == a)⟩
      simpa using (List.mem_filter.1 (List.mem_eraseDups.1 h)).2
termination_by l => l.length
decreasing_by exact Nat.lt_succ_of_le (List.length_filter_le _ rest)

lemma Domain.Settings.ofDetails_of_gather {details : Details} {read : Settings × List String}
    (h : Json.readDocument gather details.text.toList = .ok read) :
    ofDetails details = .ok (read.1, read.2.eraseDups.map noticeOf) := by
  rw [ofDetails, ofText, h]
  rfl

/-- Settings that leave out the same fields give the same notices. -/
lemma Details.ReadAlike.ofDetails {d d' : Details} (h : d.ReadAlike d') :
    ∃ settings settings' notices notices', Settings.ofDetails d = .ok (settings, notices) ∧
      Settings.ofDetails d' = .ok (settings', notices') ∧ notices.Perm notices' := by
  obtain ⟨read, read', hread, hread', hkeys⟩ := h
  refine ⟨_, _, _, _, Settings.ofDetails_of_gather hread, Settings.ofDetails_of_gather hread', ?_⟩
  refine List.Perm.map _ ((List.perm_ext_iff_of_nodup (nodup_eraseDups _) (nodup_eraseDups _)).2 ?_)
  intro key
  rw [List.mem_eraseDups, List.mem_eraseDups]
  exact hkeys key

/-- The options and the subnets are all that a request takes from private settings. -/
lemma Domain.Request.redacted_make (e : Environment) (settings settings' : Settings)
    (naming : Naming) : (make e settings naming).redacted = (make e settings' naming).redacted := by
  simp [make, redacted, Placement.derive?, Option.map_map, Function.comp_def]

end ClusterBroker
