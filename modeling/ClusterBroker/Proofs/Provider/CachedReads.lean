import ClusterBroker.Proofs.Provider.Custody
import ClusterBroker.Proofs.Provider.Freshness

/-!
# Cached and uncached reads

Reads, provisions and changes of a plan all fill the cache that reads are served from, each with an
identifier of its own: a read with none, the others with the one that the caller gave.

**`Provider.cached_read_agrees`** compares a cached read with the one that would be made without
the cache, if the control plane still reported what the cached instance was made from.  The two
agree in everything but the identifier, and also in that if no operation of the run was given one.

**`Rehearsal.identifier_read_back`** is a run in which they differ: the caller's identifier comes
back from the cache.
-/

namespace ClusterBroker

open Domain (Report)

variable {σ : Type}

/-- An instance was made of a report by one of the operations among some events. -/
def MadeBy (events : List Event) (i : Instance) : Prop :=
  ∃ o id plan report, .operation o ∈ events ∧ o.Builds id plan ∧
    i = Provider.toInstance id plan report

lemma buildOnly_madeBy (events : List Event) : BuildOnly (MadeBy events) events :=
  fun o ho id plan hbuilds report => ⟨o, id, plan, report, ho, hbuilds, rfl⟩

/-- The operation of a run that made the instance found under a key. -/
lemma Provider.madeBy_of_get? (p : Provider σ) {events : List Event} {state : σ} {key : CacheKey}
    {found : Instance} (h : (p.play events (p.start state)).timeline.get? key = some found) :
    MadeBy events found :=
  p.holds_play (buildOnly_madeBy events) state key found h

/-- What is kept from an answer describes the report in it. -/
lemma KeptFrom.describes {p : Provider σ} {events : List Event} {w : World σ} {e : Exchange}
    {i : Instance} {report : Report} (h : KeptFrom (p.chronicle events w) e i)
    (hreport : e.report? = some report) : Describes i report := by
  obtain ⟨before, after, hmarks, -⟩ := h
  obtain ⟨earlier, source, other, hlast, hother, hdesc⟩ :=
    p.sourced_chronicle events w (before ++ [.exchanged e]) i after (by simpa using hmarks)
  obtain rfl : e = source := by simpa using (List.append_inj' hlast rfl).2
  obtain rfl : report = other := by simpa [hreport] using hother
  exact hdesc

/-- An instance says by itself which plan it was made for; so without its identifier it is what a
read makes of the same report. -/
lemma Describes.toInstance_eq {i : Instance} {report : Report} (h : Describes i report) :
    Provider.toInstance "" i.plan report = { i with id := "" } := by
  obtain ⟨id, plan, rfl⟩ := h
  rfl

/-- A read that finds nothing in the cache makes an instance of the report that it gets. -/
lemma Operation.getInstance_miss (p : Provider σ) {name : String} {plan : Plan} {w : World σ}
    {report : Report} (hmiss : w.timeline.get? ⟨name, plan.id⟩ = none)
    (hreply : (p.reply (.describe name) w).outcome = .ok report) :
    ((getInstance name plan).run p w).1 = .ok (.found (Provider.toInstance "" plan report)) := by
  simp [run_eq_script, script, Script.getInstance, Script.run, hmiss, Script.describe,
    Script.request, hreply]

/-- **A cached read agrees with an uncached one in everything but the identifier**, for every run in
which the plans of the identifier read are the plan read.  `w'` is any world that differs from the
one read in having nothing in the cache; there the control plane reports once more what the cached
instance was made from.  The identifier is missing from the cached instance too if no operation of
the run was given one. -/
theorem Provider.cached_read_agrees (p : Provider σ) (state : σ) {events : List Event}
    {name : String} {plan : Plan}
    (hplans : ∀ o, .operation o ∈ events → ∀ id q, o.Builds id q → q.id = plan.id → q = plan)
    {found : Instance} {w : World σ} (hw : w = p.play events (p.start state))
    (hread : ((Operation.getInstance name plan).run p w).1 = .ok (.found found))
    (hcached : ((Operation.getInstance name plan).run p w).2.exchanges = w.exchanges)
    {e : Exchange} {report : Report}
    (hkept : KeptFrom (p.chronicle events (p.start state)) e found)
    (hreport : e.report? = some report) {w' : World σ} (hplane : w'.plane = w.plane)
    (hmiss : w'.timeline.get? ⟨name, plan.id⟩ = none)
    (hsame : (p.reply (.describe name) w).outcome = .ok report) :
    ((Operation.getInstance name plan).run p w').1 = .ok (.found { found with id := "" }) ∧
    ((∀ o, .operation o ∈ events → ∀ id q, o.Builds id q → id = "") →
      ((Operation.getInstance name plan).run p w').1 = .ok (.found found)) := by
  subst hw
  have hget : (p.play events (p.start state)).timeline.get? ⟨name, plan.id⟩ = some found := by
    rcases Operation.getInstance_cases p hread with ⟨hget, -⟩ | ⟨e, report, hmade, -⟩
    · exact hget
    · rw [hcached] at hmade
      simp at hmade
  obtain ⟨o, id, q, made, ho, hbuilds, hfound⟩ := p.madeBy_of_get? hget
  have hplan : found.plan = plan := by
    have hid : q.id = plan.id := by
      rw [hfound] at hget
      exact (CacheKey.mk.inj (Timeline.cacheKey_of_get? hget)).2
    rw [hfound]
    exact hplans o ho id q hbuilds hid
  have hreply : (p.reply (.describe name) w').outcome = .ok report := by
    rw [reply, hplane]
    exact hsame
  have hread' : ((Operation.getInstance name plan).run p w').1
      = .ok (.found { found with id := "" }) := by
    rw [Operation.getInstance_miss p hmiss hreply, ← hplan,
      (hkept.describes hreport).toInstance_eq]
  refine ⟨hread', fun hnone => ?_⟩
  have hempty : found.id = "" := by
    rw [hfound]
    exact hnone o ho id q hbuilds
  rw [hread', ← hempty]

namespace Rehearsal

/-- A cluster is made, and a plan is applied to it. -/
def changedRun : List Event :=
  [.operation (.provision "i-1" plan "team"), .operation (.modify made plan)]

/-- The same world with nothing in the cache. -/
def uncached (w : World Rehearsal) : World Rehearsal :=
  { w with timeline := { w.timeline with cache := some .empty } }

/-- The report about a cluster that is being changed. -/
def changedReport : Report :=
  { newReport request with flags := { Flags.none with processing := true } }

/-- The answer that a change of the plan ends with. -/
def changedAnswer : Exchange :=
  ⟨.describe made.name, 10000, 10000, .ok changedReport⟩

lemma keptFrom_changedAnswer :
    KeptFrom (provider.chronicle changedRun (provider.start start)) changedAnswer made :=
  ⟨(provider.chronicle changedRun (provider.start start)).take 6, [], rfl, by simp⟩

/-- Without the cache, a read after the change gives the same cluster without its identifier. -/
theorem uncached_read_after_change :
    ((Operation.getInstance made.name plan).run provider
        (uncached (provider.play changedRun (provider.start start)))).1
      = .ok (.found { made with id := "" }) := by
  have hplans : ∀ o, .operation o ∈ changedRun → ∀ id q, o.Builds id q → q.id = plan.id →
      q = plan := by
    rintro o ho id q hbuilds -
    simp only [changedRun, List.mem_cons, Event.operation.injEq, List.not_mem_nil, or_false] at ho
    rcases ho with rfl | rfl <;> cases hbuilds <;> rfl
  have hread : ((Operation.getInstance made.name plan).run provider
      (provider.play changedRun (provider.start start))).1 = .ok (.found made) := rfl
  have hcached : ((Operation.getInstance made.name plan).run provider
      (provider.play changedRun (provider.start start))).2.exchanges
      = (provider.play changedRun (provider.start start)).exchanges := rfl
  have hsame : (provider.reply (.describe made.name)
      (provider.play changedRun (provider.start start))).outcome = .ok changedReport := rfl
  have hmiss : (uncached (provider.play changedRun (provider.start start))).timeline.get?
      ⟨made.name, plan.id⟩ = none := rfl
  have hplane : (uncached (provider.play changedRun (provider.start start))).plane
      = (provider.play changedRun (provider.start start)).plane := rfl
  exact (provider.cached_read_agrees start hplans rfl hread hcached keptFrom_changedAnswer rfl
    hplane hmiss hsame).1

/-- **The identifier given by the caller is read back from the cache.**  After a change of the plan
the cached instance was made from the report that the control plane would give again, and the read
makes no call; yet it gives the identifier that the same read without the cache leaves empty. -/
theorem identifier_read_back :
    let w := provider.play changedRun (provider.start start)
    let read := (Operation.getInstance made.name plan).run provider
    KeptFrom (provider.chronicle changedRun (provider.start start)) changedAnswer made ∧
    (provider.reply (.describe made.name) w).outcome = changedAnswer.outcome ∧
    (read w).1 = .ok (.found made) ∧ (read w).2.exchanges = w.exchanges ∧
    (read (uncached w)).1 ≠ (read w).1 := by
  refine ⟨keptFrom_changedAnswer, rfl, rfl, rfl, fun hsame => ?_⟩
  have hid : Except.ok (Outcome.found { made with id := "" })
      = (Except.ok (Outcome.found made) : Except Failure Outcome) := hsame
  injection hid with hid
  injection hid with hid
  exact absurd (congrArg Instance.id hid) (by decide)

end Rehearsal

end ClusterBroker
