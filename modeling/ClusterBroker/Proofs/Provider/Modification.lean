import ClusterBroker.Proofs.Provider.CachedReads
import ClusterBroker.Proofs.Provider.Economy
import ClusterBroker.Proofs.Provider.Incidents

/-!
# Reading back a modification

A modification that succeeds has sent the new settings, has asked for the domain afterwards, and has
put what was reported into the cache, under the new plan.

**One run.**  `Operation.modify_ok` takes a modification that succeeds apart: two calls, one instance
stored, and the ticks that may fall in between.

**Afterwards.**  `Modified` says what was asked for, that the instance is read back until its key is
touched, and that nothing else happens to the cache unless a tick is due.
**`Operation.modify_reads_own_write`** is that every modification that succeeds is such.
-/

namespace ClusterBroker

open Domain (Report Request Settings)

variable {σ : Type}

/-! ## One run -/

section Run

variable {p : Provider σ} {target j : Instance} {plan : Plan} {w : World σ}

/-- A script that starts with a call and succeeds goes on with the answer. -/
lemma Script.request_ok {c : Call} {refused : Refusal → Failure} {rest : c.Answer → Script}
    {result : Outcome} (h : ((request c refused rest).run p w).1 = .ok result) :
    ∃ answer, (p.reply c w).outcome = .ok answer ∧
      (request c refused rest).run p w = (rest answer).run p (p.afterCall c w) ∧
      (request c refused rest).chronicle p w
        = p.callMarks c w ++ (rest answer).chronicle p (p.afterCall c w) := by
  simp only [request, run, chronicle] at h ⊢
  cases hreply : (p.reply c w).outcome with
  | error refusal =>
      rw [hreply] at h
      cases h
  | ok answer => exact ⟨answer, rfl, rfl, rfl⟩

/-- A description that succeeds stores what was reported. -/
lemma Script.describe_ok {id name : String}
    (h : ((describe id name plan).run p w).1 = .ok (.found j)) :
    ∃ report, (p.reply (.describe name) w).outcome = .ok report ∧
      j = Provider.toInstance id plan report ∧
      ((describe id name plan).run p w).2 = (p.afterCall (.describe name) w).store j ∧
      (describe id name plan).chronicle p w = p.callMarks (.describe name) w ++ [.stored j] := by
  obtain ⟨report, hreply, hrun, hmarks⟩ := request_ok h
  refine ⟨report, hreply, ?_⟩
  rw [describe, hrun] at h ⊢
  obtain rfl : Provider.toInstance id plan report = j := by simpa [run] using h
  exact ⟨rfl, rfl, hmarks⟩

/-- **A modification that succeeds, step by step**: an update that is accepted, a description of the
same domain, and what it says in the cache, under the new plan. -/
theorem Operation.modify_ok (h : ((modify target plan).run p w).1 = .ok (.found j)) :
    ∃ (request : Request) (notices : List Notice) (report : Report)
      (sent updated described : World σ),
      Request.resolve p.environment plan.details (.given target.name) = .ok (request, notices) ∧
      sent = (w.noteAll notices).noteAll [.updating target.name plan.id] ∧
      updated = p.afterCall (.update request) sent ∧
      described = p.afterCall (.describe target.name) updated ∧
      p.exchange (.update request) sent
        = ⟨.update request, sent.timeline.now, updated.timeline.now, .ok ()⟩ ∧
      p.exchange (.describe target.name) updated
        = ⟨.describe target.name, updated.timeline.now, described.timeline.now, .ok report⟩ ∧
      j = Provider.toInstance target.id plan report ∧
      ((modify target plan).run p w).2 = (described.store j).settle ∧
      (modify target plan).chronicle p w
        = (p.callMarks (.update request) sent ++ p.callMarks (.describe target.name) updated)
          ++ .stored j :: (described.store j).timeline.settleMarks := by
  rw [chronicle, perform_eq_script]
  rw [run_eq_script] at h ⊢
  simp only [script, Script.modify] at h ⊢
  cases hparse : Settings.ofDetails plan.details with
  | error failure =>
      rw [hparse] at h
      cases h
  | ok parsed =>
      obtain ⟨settings, notices⟩ := parsed
      simp only [hparse, Script.run, Script.chronicle] at h ⊢
      obtain ⟨_, hupdate, hrun, hmarks⟩ := Script.request_ok h
      rw [hrun] at h
      obtain ⟨report, hreply, hj, hlast, hstored⟩ := Script.describe_ok h
      refine ⟨.make p.environment settings (.given target.name), notices, report, _, _, _, ?_, rfl,
        rfl, rfl, ?_, ?_, hj, ?_, ?_⟩
      · rw [Request.resolve, hparse]
        rfl
      · rw [Provider.exchange, hupdate]
        rfl
      · rw [Provider.exchange, hreply]
        rfl
      · rw [hrun, hlast]
      · rw [hmarks, hstored, hrun, hlast]
        simp

end Run

/-! ## Afterwards -/

/-- A modification of `target` to a plan has given `j`.  The world before is `w`, that afterwards is
`after`, and `marks` is the chronicle in between.

* `asked`: what was sent is the request of the plan for the same name, then a description was asked
  for, and `j` is what was reported, with the identifier of `target` and the new plan.
* `written`: `j` was put into the cache, and no other instance.  Until its key is touched it is found
  there, and if it has the name of `target` a read gives it without a call.
* `kept`, `cleared`: under any other key the same is found as before, unless a reaper has cleared the
  cache meanwhile; then nothing is found.
* `previous`: so an entry under the plan before stays as it was.
* `quiet`: no reaper has cleared the cache if none has a tick due. -/
structure Modified (p : Provider σ) (target : Instance) (plan : Plan) (j : Instance)
    (w after : World σ) (marks : List Mark) : Prop where
  asked : ∃ request notices report updated,
    Request.resolve p.environment plan.details (.given target.name) = .ok (request, notices) ∧
    after.exchanges = w.exchanges ++
      [⟨.update request, w.timeline.now, updated, .ok ()⟩,
        ⟨.describe target.name, updated, after.timeline.now, .ok report⟩] ∧
    j = Provider.toInstance target.id plan report
  written : ∃ before since, marks = before ++ .stored j :: since ∧
    (∀ i, .stored i ∉ before ∧ .stored i ∉ since) ∧
    ∀ later : List Incident, Untouched ⟨j.name, plan.id⟩ (since ++ p.diary later after) →
      (p.undergo later after).timeline.get? ⟨j.name, plan.id⟩ = some j ∧
      (j.name = target.name →
        let read := (Operation.getInstance target.name plan).run p (p.undergo later after)
        read.1 = .ok (.found j) ∧ read.2.exchanges = (p.undergo later after).exchanges)
  kept : .cleared ∉ marks → ∀ key ≠ (⟨j.name, plan.id⟩ : CacheKey),
    after.timeline.get? key = w.timeline.get? key
  cleared : .cleared ∈ marks → ∀ key ≠ (⟨j.name, plan.id⟩ : CacheKey),
    after.timeline.get? key = none
  previous : target.plan.id ≠ plan.id → .cleared ∉ marks → ∀ name,
    after.timeline.get? ⟨name, target.plan.id⟩ = w.timeline.get? ⟨name, target.plan.id⟩
  quiet : w.timeline.anyDue after.timeline.now = false → .cleared ∉ marks

/-- Among marks of which one is an instance stored, no other is. -/
lemma eq_of_only_stored {i j : Instance} {before since : List Mark}
    (honly : ∀ i, .stored i ∉ before ∧ .stored i ∉ since)
    (hi : .stored i ∈ before ++ .stored j :: since) : i = j := by
  rw [List.mem_append, List.mem_cons] at hi
  rcases hi with hi | hi | hi
  · exact absurd hi (honly i).1
  · exact Mark.stored.inj hi
  · exact absurd hi (honly i).2

/-- **A modification is read back, and touches nothing else**, whatever the control plane answers and
however long it takes. -/
theorem Operation.modify_reads_own_write {p : Provider σ} {target j : Instance} {plan : Plan}
    {w : World σ} (hcache : w.timeline.cache.isSome = true)
    (h : ((modify target plan).run p w).1 = .ok (.found j)) :
    Modified p target plan j w ((modify target plan).run p w).2
      ((modify target plan).chronicle p w) := by
  have hrecords := (modify target plan).records_run p w
  have hquiet : w.timeline.anyDue ((modify target plan).run p w).2.timeline.now = false →
      .cleared ∉ (modify target plan).chronicle p w :=
    fun hdue => ((modify target plan).quiet_run hdue).not_cleared
  obtain ⟨request, notices, report, sent, updated, described, hresolve, hsent, hupdated, hdescribed,
    hupdate, hdescribe, hj, hafter, hmarks⟩ := modify_ok h
  generalize ((modify target plan).run p w).2 = after at hrecords hquiet hafter ⊢
  generalize (modify target plan).chronicle p w = marks at hrecords hquiet hmarks ⊢
  have hkey : j.cacheKey = ⟨j.name, plan.id⟩ := by
    rw [hj]
    rfl
  have honly : ∀ i, .stored i ∉
      p.callMarks (.update request) sent ++ p.callMarks (.describe target.name) updated ∧
      .stored i ∉ (described.store j).timeline.settleMarks :=
    fun i => ⟨by simp [not_stored_callMarks], not_stored_tickMarks _ _ i⟩
  have hother : ∀ key ≠ (⟨j.name, plan.id⟩ : CacheKey), ∀ i, .stored i ∈ marks →
      i.cacheKey ≠ key := by
    intro key hne i hi
    rw [hmarks] at hi
    rw [eq_of_only_stored honly hi, hkey]
    exact Ne.symm hne
  refine ⟨?_, ?_, ?_, ?_, ?_, hquiet⟩
  · refine ⟨request, notices, report, updated.timeline.now, hresolve, ?_, hj⟩
    have hnow : after.timeline.now = described.timeline.now := by
      rw [hafter]
      exact Timeline.settle_now _
    have hexchanges : after.exchanges = (w.exchanges ++ [p.exchange (.update request) sent])
        ++ [p.exchange (.describe target.name) updated] := by
      rw [hafter, hdescribed, hupdated, hsent]
      rfl
    rw [hexchanges, hupdate, hdescribe, hnow, hsent, List.append_assoc]
    rfl
  · refine ⟨_, _, hmarks, honly, fun later huntouched => ?_⟩
    have hget : (p.undergo later after).timeline.get? ⟨j.name, plan.id⟩ = some j := by
      refine (hrecords.trans (p.records_undergo later after)).get?_of_lastStored hcache ?_
      rw [hmarks, List.append_assoc]
      exact ⟨_, _, rfl, hkey, huntouched⟩
    refine ⟨hget, fun hname => ?_⟩
    rw [hname] at hget
    exact getInstance_hit p hget
  · exact fun hquiet key hne => hrecords.get?_eq ⟨hquiet, hother key hne⟩
  · exact fun hcleared key hne => hrecords.get?_of_cleared hcleared (hother key hne)
  · refine fun hplan hquiet name => hrecords.get?_eq ⟨hquiet, hother _ ?_⟩
    intro hsame
    exact hplan (congrArg CacheKey.planId hsame)

namespace Rehearsal

/-- A plan to change to. -/
def largerPlan : Plan :=
  { plan with id := "large" }

/-- The cluster as it is reported while its plan is changed. -/
def enlarged : Instance :=
  Provider.toInstance "i-1" largerPlan changedReport

/-- A cluster is made and read. -/
def readRun : List Incident :=
  [.event (.operation (.provision "i-1" plan "team")),
    .event (.operation (.getInstance made.name plan))]

/-- After a change of its plan the cluster is read back under the new one, until somebody clears the
cache; what was read before is still there under the old one. -/
theorem larger_plan_read_back :
    let w := provider.undergo readRun (provider.start start)
    let after := ((Operation.modify made largerPlan).run provider w).2
    (∀ later, Untouched ⟨made.name, "large"⟩ (provider.diary later after) →
      (provider.undergo later after).timeline.get? ⟨made.name, "large"⟩ = some enlarged) ∧
    after.timeline.get? ⟨made.name, "small"⟩ = some { made with id := "" } := by
  intro w after
  have hcache : w.timeline.cache.isSome = true := provider.cached_undergo start readRun
  have hok : ((Operation.modify made largerPlan).run provider w).1 = .ok (.found enlarged) := rfl
  have hmodified := Operation.modify_reads_own_write hcache hok
  have hdue : w.timeline.anyDue after.timeline.now = false := rfl
  have hquiet : .cleared ∉ (Operation.modify made largerPlan).chronicle provider w :=
    hmodified.quiet hdue
  refine ⟨fun later huntouched => ?_, ?_⟩
  · obtain ⟨before, since, hmarks, hstored, hread⟩ := hmodified.written
    have hsince : Untouched ⟨made.name, "large"⟩ since :=
      ⟨fun hmem => hquiet (by simp [hmarks, hmem]), fun i hi => absurd hi (hstored i).2⟩
    exact (hread later (hsince.append huntouched)).1
  · exact hmodified.previous (by decide) hquiet made.name

end Rehearsal

end ClusterBroker
