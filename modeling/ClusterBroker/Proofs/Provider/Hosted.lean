import ClusterBroker.Proofs.Provider.Custody
import ClusterBroker.Proofs.Provider.Freshness

/-!
# What all instances of a provider have in common

`Instance.Hosted` says what does not depend on the plan or on the control plane: no credentials, a
fixed scheme and engine, and readiness that goes with the phase.  Every instance made of a report
is hosted (`Provider.hosted_toInstance`), whatever flags and names the report has.

**`Provider.instances_hosted`** carries this over to whole runs: to the cache at every moment, where
in addition each instance answers to its own key only, and to everything handed out.
-/

namespace ClusterBroker

open Domain (Report)

variable {σ : Type}

/-- An instance as a provider makes it. -/
structure Instance.Hosted (i : Instance) : Prop where
  credentials : i.credentials = none
  scheme : i.scheme = "https"
  engine : i.engine = "elasticsearch"
  ready : i.ready = true ↔ i.phase = .available ∨ i.phase = .processing

/-- A cache that holds hosted instances, each under its own name and the identifier of its plan. -/
structure Cache.Hosts (c : Cache) : Prop where
  hosted : ∀ i ∈ c.instances, i.Hosted
  keyed : ∀ key i, c.get? key = some i → i.name = key.name ∧ i.plan.id = key.planId

/-- A cluster takes traffic exactly while it is there and its version does not change. -/
lemma Flags.ready_iff (f : Flags) :
    f.ready = true ↔ f.phase = .available ∨ f.phase = .processing := by
  obtain ⟨created, deleted, processing, upgrading⟩ := f
  cases created <;> cases deleted <;> cases processing <;> cases upgrading <;> decide

/-- Whatever is reported, the instance made of it is hosted. -/
lemma Provider.hosted_toInstance (id : String) (plan : Plan) (report : Report) :
    (toInstance id plan report).Hosted where
  credentials := rfl
  scheme := rfl
  engine := rfl
  ready := report.flags.ready_iff

lemma Operation.buildsOnly_hosted (o : Operation) : o.BuildsOnly Instance.Hosted :=
  fun id plan _ report => Provider.hosted_toInstance id plan report

/-- A cache all of whose instances are hosted also has them under the right keys. -/
lemma Cache.Holds.hosts {c : Cache} (h : c.Holds Instance.Hosted) : c.Hosts where
  hosted i hi := h i.cacheKey i (get?_of_mem hi)
  keyed _ _ hget := CacheKey.mk.inj (cacheKey_of_get? hget)

/-- **Every instance of a provider is hosted**, in every run of operations, sleeps and shutdowns,
whatever the control plane answers.  The cache hosts its instances at every moment of the run, also
in the middle of an operation.  What is handed out afterwards is hosted, unless the caller brought
it along; and an instance that was read has the plan that was asked for, and the name that was asked
for if no call was made. -/
theorem Provider.instances_hosted (p : Provider σ) (state : σ) (events : List Event) :
    let w := p.play events (p.start state)
    (∀ marks, marks <+: p.chronicle events (p.start state) → (Cache.empty.replay marks).Hosts) ∧
    (∃ c, w.timeline.cache = some c ∧ c.Hosts) ∧
    (∀ o : Operation, (∀ target, o ≠ .postProvision target) →
      ∀ i, HandsOut (o.run p w).1 i → i.Hosted) ∧
    ∀ name plan i, ((Operation.getInstance name plan).run p w).1 = .ok (.found i) →
      i.plan.id = plan.id ∧
      (((Operation.getInstance name plan).run p w).2.exchanges = w.exchanges → i.name = name) := by
  intro w
  have hbuild : BuildOnly Instance.Hosted events := fun o _ => o.buildsOnly_hosted
  have hmoments : ∀ marks, marks <+: p.chronicle events (p.start state) →
      (Cache.empty.replay marks).Hosts := fun marks hpre =>
    (Cache.holds_empty.replay
      ((p.storesOnly_chronicle hbuild (p.holds_start state)).of_isPrefix hpre)).hosts
  refine ⟨hmoments, ⟨_, (p.records_play events _).cache, hmoments _ (List.prefix_refl _)⟩, ?_, ?_⟩
  · intro o hown i hout
    rcases p.handsOut_play hbuild state o.buildsOnly_hosted hout with hhosted | hpost
    · exact hhosted
    · exact absurd hpost (hown i)
  · intro name plan i hread
    rcases Operation.getInstance_cases p hread with ⟨hget, -⟩ | ⟨e, report, hmade, -, hfound, -⟩
    · obtain ⟨hname, hplan⟩ := CacheKey.mk.inj (Timeline.cacheKey_of_get? hget)
      exact ⟨hplan, fun _ => hname⟩
    · refine ⟨congrArg (·.plan.id) hfound, fun hsame => ?_⟩
      rw [hsame] at hmade
      simp at hmade

end ClusterBroker
