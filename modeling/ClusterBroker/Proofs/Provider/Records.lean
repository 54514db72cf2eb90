import ClusterBroker.Proofs.Provider.Chronicle

/-!
# What a chronicle says about the worlds around it

**Exchanges and cache.**  `Records` relates a world, a chronicle and a later world: the exchanges
made in between are those of the chronicle, and the later cache is the replay of the chronicle on
the earlier one.  `Provider.records_play` is that for whole runs.

**Sources.**  `Sourced` says that every instance put into the cache describes the report that the
control plane gave at that very moment.  `Provider.sourced_chronicle` is that for whole runs,
whatever the control plane answers: no operation invents an instance, and none keeps a report for
later.
-/

namespace ClusterBroker

open Domain (Report)

variable {σ : Type}

/-! ## Exchanges and cache -/

/-- A chronicle of what happened between two worlds. -/
structure Records (w : World σ) (marks : List Mark) (after : World σ) : Prop where
  exchanges : after.exchanges = w.exchanges ++ marks.filterMap Mark.exchange?
  cache : after.timeline.cache = w.timeline.cache.map (·.replay marks)
  later : w.timeline.now ≤ after.timeline.now

namespace Records

variable {w after last : World σ} {marks more : List Mark}

lemma refl (w : World σ) : Records w [] w where
  exchanges := by simp
  cache := by simp [Cache.replay]
  later := Nat.le_refl _

lemma trans (h : Records w marks after) (h' : Records after more last) :
    Records w (marks ++ more) last where
  exchanges := by rw [h'.exchanges, h.exchanges, List.filterMap_append, List.append_assoc]
  cache := by
    rw [h'.cache, h.cache, Option.map_map]
    congr 1
    funext c
    exact (c.replay_append marks more).symm
  later := Nat.le_trans h.later h'.later

/-- Notices and tokens leave no entry. -/
lemma of_eq (hx : after.exchanges = w.exchanges) (hc : after.timeline.cache = w.timeline.cache)
    (hn : after.timeline.now = w.timeline.now) : Records w [] after where
  exchanges := by simp [hx]
  cache := by simp [hc, Cache.replay]
  later := by omega

lemma store (w : World σ) (i : Instance) : Records w [.stored i] (w.store i) where
  exchanges := by simp [World.store, Mark.exchange?]
  cache := rfl
  later := Nat.le_refl _

lemma exchange?_tickMarks (t : Timeline) (time : Nat) :
    (t.tickMarks time).filterMap Mark.exchange? = [] := by
  unfold Timeline.tickMarks
  split <;> simp [Mark.exchange?]

lemma cache_runTo (t : Timeline) (time : Nat) :
    (t.runTo time).cache = t.cache.map (·.replay (t.tickMarks time)) := by
  rw [Timeline.runTo_cache, Timeline.tickMarks]
  split
  · rfl
  · simp [Cache.replay]

lemma wait (w : World σ) (duration : Nat) :
    Records w (w.timeline.waitMarks duration) (w.wait duration) := by
  by_cases h : duration = 0
  · subst h
    exact of_eq rfl rfl rfl
  · refine ⟨?_, ?_, w.timeline.now_le_wait_now duration⟩
    · simp [World.wait, Timeline.waitMarks, h, exchange?_tickMarks]
    · show (w.timeline.wait duration).cache = _
      rw [Timeline.wait_of_ne_zero _ h, Timeline.waitMarks, if_neg h]
      exact cache_runTo _ _

lemma settle (w : World σ) : Records w w.timeline.settleMarks w.settle where
  exchanges := by
    rw [Timeline.settleMarks, exchange?_tickMarks, List.append_nil]
    rfl
  cache := cache_runTo w.timeline _
  later := Nat.le_of_eq (Timeline.settle_now _).symm

lemma sleep (w : World σ) (duration : Nat) :
    Records w (w.timeline.waitMarks duration ++ (w.timeline.wait duration).settleMarks)
      (w.sleep duration) :=
  (wait w duration).trans (settle (w.wait duration))

lemma afterCall (p : Provider σ) (c : Call) (w : World σ) :
    Records w (p.callMarks c w) (p.afterCall c w) := by
  have h := wait (w.noteAll (p.reply c w).notices) (p.reply c w).latency
  refine ⟨?_, ?_, h.later⟩
  · have hw : (w.timeline.waitMarks (p.reply c w).latency).filterMap Mark.exchange? = [] := by
      unfold Timeline.waitMarks
      split
      · rfl
      · exact exchange?_tickMarks _ _
    rw [Provider.callMarks, List.filterMap_append, hw]
    rfl
  · show (p.timelineAfter c w).cache = _
    rw [Provider.callMarks]
    simp only [Cache.replay_append]
    exact h.cache

end Records

/-- The chronicle of a script is one of what it does. -/
theorem Script.records_run (p : Provider σ) (s : Script) (w : World σ) :
    Records w (s.chronicle p w) (s.run p w).2 := by
  induction s generalizing w with
  | finish result => exact Records.refl w
  | note ns rest ih =>
      have h : Records w [] (w.noteAll ns) := Records.of_eq rfl rfl rfl
      exact h.trans (ih (w.noteAll ns))
  | draw rest ih =>
      have h : Records w [] w.drawOne := Records.of_eq rfl rfl rfl
      exact h.trans (ih _ w.drawOne)
  | look key rest ih => exact ih _ w
  | call c rest ih => exact (Records.afterCall p c w).trans (ih _ (p.afterCall c w))
  | store i rest ih => exact (Records.store w i).trans (ih (w.store i))
  | wait duration rest ih => exact (Records.wait w duration).trans (ih (w.wait duration))

/-- The chronicle of an operation is one of what it does. -/
theorem Operation.records_run (o : Operation) (p : Provider σ) (w : World σ) :
    Records w (o.chronicle p w) (o.run p w).2 := by
  rw [o.run_eq_script, chronicle, o.perform_eq_script]
  exact ((o.script p).records_run p w).trans (Records.settle _)

/-- The chronicle of an event is one of what it does. -/
theorem Event.records_play (p : Provider σ) (e : Event) (w : World σ) :
    Records w (e.chronicle p w) (e.play p w) := by
  cases e with
  | operation o => exact o.records_run p w
  | sleep duration => exact Records.sleep w duration
  | shutdown => exact Records.of_eq rfl rfl rfl

/-- **The chronicle of a run is one of what it does**: its exchanges are the exchanges made, and its
replay is the cache. -/
theorem Provider.records_play (p : Provider σ) (events : List Event) (w : World σ) :
    Records w (p.chronicle events w) (p.play events w) := by
  induction events generalizing w with
  | nil => exact Records.refl w
  | cons e rest ih => exact (e.records_play p w).trans (ih (e.play p w))

/-! ## Sources -/

/-- The report in the answer to a call, if the call asks for one and is not refused. -/
def Call.report? : (c : Call) → Except Refusal c.Answer → Option Report
  | describe _, .ok report => some report
  | create _, .ok report => some report
  | _, _ => none

/-- The report in an exchange. -/
def Exchange.report? (e : Exchange) : Option Report :=
  e.call.report? e.outcome

/-- An instance describes a report, under some identifier and for some plan. -/
def Describes (i : Instance) (report : Report) : Prop :=
  ∃ id plan, i = Provider.toInstance id plan report

/-- The chronicle ends with an exchange whose report the instance describes. -/
def HasSource (before : List Mark) (i : Instance) : Prop :=
  ∃ earlier e report, before = earlier ++ [.exchanged e] ∧ e.report? = some report ∧
    Describes i report

/-- Every instance put into the cache describes the report in the exchange right before it. -/
def Sourced (marks : List Mark) : Prop :=
  ∀ before i after, marks = before ++ .stored i :: after → HasSource before i

lemma HasSource.append {before : List Mark} {i : Instance} (h : HasSource before i)
    (front : List Mark) : HasSource (front ++ before) i := by
  obtain ⟨earlier, e, report, rfl, he, hi⟩ := h
  exact ⟨front ++ earlier, e, report, by simp, he, hi⟩

lemma sourced_of_not_stored {marks : List Mark} (h : ∀ i, .stored i ∉ marks) : Sourced marks := by
  rintro before i after rfl
  exact absurd (List.mem_append_right _ List.mem_cons_self) (h i)

/-- An instance stored after entries that store nothing is stored among the later ones. -/
lemma of_not_stored {marks more before after : List Mark} {i : Instance}
    (hnot : .stored i ∉ marks) (h : marks ++ more = before ++ .stored i :: after) :
    ∃ front, before = marks ++ front ∧ more = front ++ .stored i :: after := by
  rcases append_eq_append_cons h with ⟨rest, hmarks, -⟩ | hlater
  · exact absurd (by simp [hmarks]) hnot
  · exact hlater

lemma Sourced.append {marks more : List Mark} (h : Sourced marks) (h' : Sourced more) :
    Sourced (marks ++ more) := by
  intro before i after heq
  rcases append_eq_append_cons heq with ⟨rest, hmarks, -⟩ | ⟨front, rfl, hmore⟩
  · exact h before i rest hmarks
  · exact (h' front i after hmore).append marks

lemma not_stored_tickMarks (t : Timeline) (time : Nat) (i : Instance) :
    .stored i ∉ t.tickMarks time := by
  intro h
  cases Timeline.eq_cleared_of_mem_tickMarks h

lemma not_stored_waitMarks (t : Timeline) (duration : Nat) (i : Instance) :
    .stored i ∉ t.waitMarks duration := by
  intro h
  cases Timeline.eq_cleared_of_mem_waitMarks h

lemma not_stored_callMarks (p : Provider σ) (c : Call) (w : World σ) (i : Instance) :
    .stored i ∉ p.callMarks c w := by
  simp [Provider.callMarks, not_stored_waitMarks]

namespace Script

/-- A script keeps only what was just reported: each instance that it stores describes the report in
the answer that came right before.  `last` is the report in the answer before the script. -/
def Reports : (last : Option Report) → Script → Prop
  | _, finish _ => True
  | last, note _ rest => rest.Reports last
  | last, draw rest => ∀ token, (rest token).Reports last
  | last, look _ rest => ∀ found, (rest found).Reports last
  | _, call c rest => ∀ outcome, (rest outcome).Reports (c.report? outcome)
  | last, store i rest => (∃ report, last = some report ∧ Describes i report) ∧ rest.Reports none
  | _, wait _ rest => rest.Reports none

/-- In a script that keeps only what was just reported, the first instance stored may describe the
report before the script; any other has its source in the chronicle. -/
lemma Reports.sourced (p : Provider σ) {s : Script} {last : Option Report} (hs : s.Reports last)
    (w : World σ) {before after : List Mark} {i : Instance}
    (h : s.chronicle p w = before ++ .stored i :: after) :
    (before = [] ∧ ∃ report, last = some report ∧ Describes i report) ∨ HasSource before i := by
  induction s generalizing last w before with
  | finish result => simp [chronicle] at h
  | note ns rest ih => exact ih hs (w.noteAll ns) h
  | draw rest ih => exact ih _ (hs _) w.drawOne h
  | look key rest ih => exact ih _ (hs _) w h
  | call c rest ih =>
      obtain ⟨front, rfl, hrest⟩ := of_not_stored (not_stored_callMarks p c w i) h
      refine .inr ?_
      rcases ih _ (hs _) (p.afterCall c w) hrest with ⟨rfl, report, hr, hi⟩ | hsource
      · exact ⟨_, p.exchange c w, report, List.append_nil _, hr, hi⟩
      · exact hsource.append _
  | store j rest ih =>
      cases before with
      | nil =>
          obtain ⟨hj, -⟩ := List.cons.inj h
          obtain rfl := Mark.stored.inj hj
          exact .inl ⟨rfl, hs.1⟩
      | cons m before =>
          obtain ⟨-, hrest⟩ := List.cons.inj h
          rcases ih hs.2 (w.store j) hrest with ⟨-, report, hr, -⟩ | hsource
          · cases hr
          · exact .inr (hsource.append [m])
  | wait duration rest ih =>
      obtain ⟨front, rfl, hrest⟩ := of_not_stored (not_stored_waitMarks w.timeline duration i) h
      rcases ih hs (w.wait duration) hrest with ⟨-, report, hr, -⟩ | hsource
      · cases hr
      · exact .inr (hsource.append _)

lemma reports_describe (id name : String) (plan : Plan) (last : Option Report) :
    (describe id name plan).Reports last := by
  rintro (refusal | report)
  · trivial
  · exact ⟨⟨report, rfl, id, plan, rfl⟩, trivial⟩

lemma reports_provision (p : Provider σ) (id : String) (plan : Plan) (owner : String)
    (last : Option Report) : (provision p id plan owner).Reports last := by
  unfold provision
  cases Domain.Settings.ofDetails plan.details with
  | error failure => trivial
  | ok parsed =>
      rintro token (refusal | report)
      · trivial
      · refine ⟨⟨report, rfl, id, plan, rfl⟩, ?_⟩
        rintro (refusal | _) <;> trivial

lemma reports_modify (p : Provider σ) (target : Instance) (plan : Plan) (last : Option Report) :
    (modify p target plan).Reports last := by
  unfold modify
  cases Domain.Settings.ofDetails plan.details with
  | error failure => trivial
  | ok parsed =>
      rintro (refusal | _)
      · trivial
      · exact reports_describe target.id target.name plan _

lemma reports_delete (target : Instance) (last : Option Report) :
    (delete target).Reports last := by
  rintro (refusal | _) <;> trivial

lemma reports_retag (c : Call) (last : Option Report) : (retag c).Reports last := by
  rintro (refusal | answer) <;> trivial

end Script

/-- Every operation keeps only what was just reported. -/
theorem Operation.reports (o : Operation) (p : Provider σ) : (o.script p).Reports none := by
  cases o with
  | getInstance name plan =>
      rintro (_ | found)
      · exact Script.reports_describe "" name plan none
      · trivial
  | provision id plan owner => exact Script.reports_provision p id plan owner none
  | modify target plan => exact Script.reports_modify p target plan none
  | postProvision target => trivial
  | deprovision target takeSnapshot =>
      cases takeSnapshot <;> exact Script.reports_delete target none
  | tag target key value => exact Script.reports_retag _ none
  | untag target key => exact Script.reports_retag _ none
  | urls target => trivial
  | serviceName => trivial

lemma Operation.sourced_chronicle (o : Operation) (p : Provider σ) (w : World σ) :
    Sourced (o.chronicle p w) := by
  refine Sourced.append ?_ (sourced_of_not_stored fun i => not_stored_tickMarks _ _ i)
  intro before i after h
  rcases (o.reports p).sourced p w h with ⟨-, report, hr, -⟩ | hsource
  · cases hr
  · exact hsource

lemma Event.sourced_chronicle (e : Event) (p : Provider σ) (w : World σ) :
    Sourced (e.chronicle p w) := by
  cases e with
  | operation o => exact o.sourced_chronicle p w
  | sleep duration =>
      exact Sourced.append (sourced_of_not_stored fun i => not_stored_waitMarks _ _ i)
        (sourced_of_not_stored fun i => not_stored_tickMarks _ _ i)
  | shutdown => exact sourced_of_not_stored (by simp [Event.chronicle])

/-- **Every instance put into the cache during a run describes the report received right before**,
whatever the control plane answers. -/
theorem Provider.sourced_chronicle (p : Provider σ) (events : List Event) (w : World σ) :
    Sourced (p.chronicle events w) := by
  induction events generalizing w with
  | nil => exact sourced_of_not_stored (by simp [Provider.chronicle])
  | cons e rest ih => exact (e.sourced_chronicle p w).append (ih (e.play p w))

end ClusterBroker
