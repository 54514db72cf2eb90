import ClusterBroker.Proofs.Json.Printing
import ClusterBroker.Proofs.Provider.Redaction
import ClusterBroker.Proofs.Text.Apart

/-!
# What the texts of an instance tell

An instance is written down in two ways, and neither tells everything about it.

**Published.**  The public text tells what `Instance.PublicAlike` lists and nothing else: by
`Instance.render_toJson_eq_iff` two instances have the same text exactly if they agree on that.

**Diagnosed.**  Diagnostics put a placeholder in place of each secret.  `masked` takes the secrets out
of a value, and by `Instance.tells_shown` diagnostics tell just what is left then.

**`Instance.texts_tell`** has both, and the same for control of access.
-/

namespace ClusterBroker

open Text (Apart FieldsApart Tells tells_quoted tells_record quoted_inj)

/-! ## Published -/

/-- Two instances agree on all that is public. -/
structure Instance.PublicAlike (i j : Instance) : Prop where
  id : i.id = j.id
  name : i.name = j.name
  serviceId : i.serviceId = j.serviceId
  planId : i.plan.id = j.plan.id
  planScheme : i.plan.scheme = j.plan.scheme
  planTag : i.plan.kind.tag = j.plan.kind.tag
  credentials : i.credentials = j.credentials
  endpoint : i.endpoint = j.endpoint
  scheme : i.scheme = j.scheme
  phase : i.phase = j.phase
  ready : i.ready = j.ready
  engine : i.engine = j.engine
  engineVersion : i.engineVersion = j.engineVersion

lemma Phase.name_inj {p q : Phase} : p.name = q.name ↔ p = q := by
  cases p <;> cases q <;> decide

lemma Plan.toJson_eq_iff {p q : Plan} :
    p.toJson = q.toJson ↔ p.id = q.id ∧ p.kind.tag = q.kind.tag ∧ p.scheme = q.scheme := by
  simp [toJson]

lemma Credentials.toJson_inj {c d : Credentials} : c.toJson = d.toJson ↔ c = d := by
  cases c
  cases d
  simp [toJson]

namespace Instance

/-- The public tree can be read back from its text. -/
lemma toJson_readable (i : Instance) : i.toJson.HasWords ∧ i.toJson.depth < Json.depthLimit := by
  cases hcredentials : i.credentials <;>
    simp [toJson, hcredentials, Credentials.toJson, Plan.toJson, Json.HasWords,
      Json.EntriesHaveWords, Json.depth, Json.depthOfEntries, Json.depthLimit]

/-- Two instances have the same public tree exactly if they agree on all that is public. -/
lemma toJson_eq_iff {i j : Instance} : i.toJson = j.toJson ↔ i.PublicAlike j := by
  constructor
  · intro h
    -- There is one entry more if there are credentials, so these are compared first.
    have hcredentials : i.credentials = j.credentials := by
      cases hi : i.credentials <;> cases hj : j.credentials <;>
        simp only [toJson, hi, hj, Json.object.injEq, List.nil_append, List.cons_append,
          List.cons.injEq, Prod.mk.injEq, Credentials.toJson_inj, true_and] at h
      · rfl
      · simp at h
      · simp at h
      · exact congrArg some h.2.2.2.2.1
    simp only [toJson, hcredentials, Plan.toJson_eq_iff, Phase.name_inj, Json.object.injEq,
      Json.text.injEq, Json.bool.injEq, List.append_cancel_left_eq, List.nil_append,
      List.cons_append, List.cons.injEq, Prod.mk.injEq, true_and, and_true] at h
    obtain ⟨hid, hname, hservice, ⟨hplan, htag, hplanScheme⟩, hendpoint, hscheme, hphase, hready,
      hengine, hversion⟩ := h
    exact ⟨hid, hname, hservice, hplan, hplanScheme, htag, hcredentials, hendpoint, hscheme,
      hphase, hready, hengine, hversion⟩
  · intro h
    have hplan := Plan.toJson_eq_iff.2 ⟨h.planId, h.planTag, h.planScheme⟩
    simp only [toJson, h.id, h.name, h.serviceId, hplan, h.credentials, h.endpoint, h.scheme,
      h.phase, h.ready, h.engine, h.engineVersion]

/-- **The public text tells all that is public**, and nothing else. -/
theorem render_toJson_eq_iff {i j : Instance} :
    i.toJson.render = j.toJson.render ↔ i.PublicAlike j := by
  rw [Json.render_inj i.toJson_readable j.toJson_readable, toJson_eq_iff]

end Instance

/-! ## Diagnosed -/

/-- Credentials without their password. -/
def Credentials.masked (c : Credentials) : Credentials :=
  { c with password := "" }

/-- An instance without what is secret: the private settings of its plan and its password. -/
def Instance.masked (i : Instance) : Instance :=
  { i.redacted with credentials := i.credentials.map Credentials.masked }

/-- A master user without password. -/
def Domain.MasterUser.masked (m : Domain.MasterUser) : Domain.MasterUser :=
  { m with password := none }

/-- Control of access without the password of the master user. -/
def Domain.AccessControl.masked (a : Domain.AccessControl) : Domain.AccessControl :=
  { a with masterUser := a.masterUser.map Domain.MasterUser.masked }

/-! ### Parts -/

lemma tells_bool : Tells (toString : Bool → String) id :=
  .of_first (by decide) (by decide)

lemma Phase.tells_shown : Tells Phase.shown id :=
  .of_first (by intro p; cases p <;> decide) (by intro p q; cases p <;> cases q <;> decide)

lemma ServiceKind.tells_shown : Tells ServiceKind.shown id where
  shown_eq := congrArg shown
  key_eq {k l s t} heq := by
    have hunknown (tag : String) : (unknown tag).shown.toList.head? = some 'U' := by simp [shown]
    have hknown : elasticsearch.shown.toList.head? = some 'A' := rfl
    cases k with
    | elasticsearch =>
        cases l with
        | elasticsearch => rfl
        | unknown tag =>
            exact absurd heq (Text.append_ne_append hknown (hunknown tag) (by decide) s t)
    | unknown tag =>
        cases l with
        | elasticsearch =>
            exact absurd heq (Text.append_ne_append (hunknown tag) hknown (by decide) s t)
        | unknown tag' => exact congrArg unknown ((tells_quoted.between "Unknown(" ")").key_eq heq)

lemma Plan.tells_shown : Tells Plan.shown Plan.redacted := by
  have hdetails (d d' : Details) : d.shown = d'.shown := rfl
  refine tells_record "ProviderPlan" (fun p q => ?_) (fun {p q} => ?_)
  · simp [FieldsApart, tells_quoted.apart, ServiceKind.tells_shown.apart, Apart.refl,
      hdetails p.details q.details]
  · simp [redacted, quoted_inj, ServiceKind.tells_shown.eq_iff, hdetails p.details q.details]

lemma Credentials.tells_shown : Tells Credentials.shown Credentials.masked := by
  refine tells_record "Credentials" (fun c d => ?_) (fun {c d} => ?_)
  · simp [FieldsApart, tells_quoted.apart]
  · simp [masked, quoted_inj]

lemma Domain.MasterUser.tells_shown : Tells MasterUser.shown MasterUser.masked := by
  refine tells_record "MasterUserOptions" (fun m n => ?_) (fun {m n} => ?_)
  · simp [FieldsApart, tells_quoted.option.apart, tells_quoted.apart]
  · simp [masked, tells_quoted.option.eq_iff]

/-! ### Wholes -/

/-- **Diagnostics tell all of an instance but its secrets.** -/
theorem Instance.tells_shown : Tells Instance.shown Instance.masked := by
  refine tells_record "Instance" (fun i j => ?_) (fun {i j} => ?_)
  · simp [FieldsApart, tells_quoted.apart, Plan.tells_shown.apart,
      Credentials.tells_shown.option.apart, Phase.tells_shown.apart, tells_bool.apart]
  · simp [masked, redacted, quoted_inj, Plan.tells_shown.eq_iff,
      Credentials.tells_shown.option.eq_iff, Phase.tells_shown.eq_iff, tells_bool.eq_iff]

/-- **Diagnostics tell all of control of access but the password.** -/
theorem Domain.AccessControl.tells_shown : Tells AccessControl.shown AccessControl.masked := by
  refine tells_record "AdvancedSecurityOptions" (fun a b => ?_) (fun {a b} => ?_)
  · simp [FieldsApart, tells_bool.option.apart, MasterUser.tells_shown.option.apart]
  · simp [masked, tells_bool.option.eq_iff, MasterUser.tells_shown.option.eq_iff]

/-- **What the texts of an instance tell.**  The public text tells what is public, and diagnostics tell
all but the secrets. -/
theorem Instance.texts_tell (i j : Instance) (a b : Domain.AccessControl) :
    (i.toJson.render = j.toJson.render ↔ i.PublicAlike j) ∧
      (i.shown = j.shown ↔ i.masked = j.masked) ∧ (a.shown = b.shown ↔ a.masked = b.masked) :=
  ⟨render_toJson_eq_iff, tells_shown.eq_iff, Domain.AccessControl.tells_shown.eq_iff⟩

end ClusterBroker
