import ClusterBroker.Provider.Operation

/-!
# The registry of providers

A registry finds the provider for a plan.  It builds the provider when it is first wanted, from the
environment at that moment, and keeps it; a failure to build it is not kept.

* `Registry` — the registry; `Handle` — what it hands out.
* `Registry.resolve` — the provider for a plan.
* `Registry.route` — an operation on the provider for a plan.
* `Registry.shutdown` — the end of the reaper.
-/

namespace ClusterBroker

/-- A provider handed out by a registry; the serial tells apart providers built at different
times. -/
structure Handle (σ : Type) where
  serial : Nat
  provider : Provider σ

/-- A handle as diagnostics show it. -/
def Handle.shown {σ : Type} (_ : Handle σ) : String :=
  "Provider(" ++ Text.quoted Provider.name ++ ")"

/-- A registry: the tuning of the provider to be built, the provider once there is one, and how many
were built. -/
structure Registry (σ : Type) where
  tuning : Tuning
  current : Option (Handle σ)
  built : Nat

namespace Registry

variable {σ : Type}

/-- A registry that has built nothing yet. -/
def withTuning (tuning : Tuning) : Registry σ :=
  ⟨tuning, none, 0⟩

/-- A registry that was given a provider. -/
def withProvider (provider : Provider σ) : Registry σ :=
  ⟨provider.tuning, some ⟨0, provider⟩, 1⟩

/-- What resolving a plan gives: a handle or a failure, the registry afterwards and the notices. -/
structure Resolution (σ : Type) where
  outcome : Except Failure (Handle σ)
  registry : Registry σ
  notices : List Notice

/-- The provider for a plan.  `connect` builds one for an environment. -/
def resolve (r : Registry σ) (connect : Environment → Tuning → Provider σ) (vars : Variables)
    (plan : Plan) : Resolution σ :=
  match plan.kind with
  | .unknown tag => ⟨.error (.unsupported tag), r, [.noProvider plan.id tag]⟩
  | .elasticsearch =>
    match r.current with
    | some handle => ⟨.ok handle, r, []⟩
    | none =>
      match Environment.read vars with
      | .error failure => ⟨.error failure, r, []⟩
      | .ok environment =>
        let handle := ⟨r.built, connect environment r.tuning⟩
        ⟨.ok handle, { r with current := some handle, built := r.built + 1 },
          [.ready environment.region r.tuning.namePrefix]⟩

/-- An operation on the provider for a plan, in the world of that provider. -/
def route (r : Registry σ) (connect : Environment → Tuning → Provider σ) (vars : Variables)
    (plan : Plan) (o : Operation) (w : World σ) :
    Except Failure Outcome × Registry σ × World σ :=
  let resolution := r.resolve connect vars plan
  let noted := { w with timeline := w.timeline.noteAll resolution.notices }
  match resolution.outcome with
  | .error failure => (.error failure, resolution.registry, noted)
  | .ok handle =>
    let (outcome, after) := o.run handle.provider noted
    (outcome, resolution.registry, after)

/-- Ends the reaper of the provider, if there is one.  The registry keeps the provider. -/
def shutdown (r : Registry σ) (w : World σ) : World σ :=
  if r.current.isSome then w.shutdown else w

end Registry

end ClusterBroker
