import ClusterBroker.Proofs.Provider.Records

/-!
# How old a cached instance can be

The cache has no expiry of its own: it is young because a reaper clears it.  An instance goes into
the cache at the very moment of an answer, when the next tick is at most one interval away.  As long
as nothing is cleared, that tick has not happened, so it still lies ahead.

**The invariant.**  `Timeline.Watched` ties the next tick of a reaper to every answer since the last
clear.  Ticks may fall in the middle of an operation, so each deed of a script keeps it
(`Script.watched_run`), not only each operation.

**Reads.**  `Provider.cached_source` says where a cached instance comes from, and
`Provider.kept_recent` bounds its age.
-/

namespace ClusterBroker

open Domain (Report)

variable {σ : Type}

/-! ## The invariant -/

/-- A running reaper is on schedule, and its next tick is at most one interval after every answer
that the chronicle has since the last clear. -/
structure Timeline.Watched (t : Timeline) (marks : List Mark) (name : String) (r : Reaper) : Prop
    extends t.Tended name r where
  recent : ∀ before e after, marks = before ++ .exchanged e :: after → .cleared ∉ after →
    e.answered ≤ t.now ∧ r.deadline ≤ e.answered + r.interval

/-- A watched timeline on which no tick is due any more. -/
structure Timeline.Rested (t : Timeline) (marks : List Mark) (name : String) (r : Reaper) : Prop
    extends t.Watched marks name r where
  ahead : t.now < r.deadline

/-- The last entry of a chronicle is the one that a split is about, or comes after it. -/
lemma last_mark_cases {marks before after : List Mark} {m x : Mark}
    (h : marks ++ [m] = before ++ x :: after) :
    (after = [] ∧ m = x) ∨ ∃ front, after = front ++ [m] ∧ marks = before ++ x :: front := by
  rcases after.eq_nil_or_concat with rfl | ⟨front, y, rfl⟩
  · have hlast := List.append_inj_right' h rfl
    exact .inl ⟨rfl, by simpa using hlast⟩
  · rw [List.concat_eq_append, ← List.cons_append, ← List.append_assoc] at h
    have hlast := List.append_inj_right' h rfl
    obtain rfl : m = y := by simpa using hlast
    exact .inr ⟨front, List.concat_eq_append, List.append_inj_left' h rfl⟩

namespace Timeline.Watched

variable {t t' : Timeline} {marks : List Mark} {name : String} {r : Reaper}

lemma noteAll (h : t.Watched marks name r) (ns : List Notice) :
    (t.noteAll ns).Watched marks name r :=
  ⟨h.toTended.noteAll ns, h.recent⟩

lemma put (h : t.Watched marks name r) (i : Instance) :
    (t.put i).Watched (marks ++ [.stored i]) name r := by
  refine ⟨h.toTended.put i, fun before e after heq hclear => ?_⟩
  rcases last_mark_cases heq with ⟨-, hm⟩ | ⟨front, rfl, rfl⟩
  · cases hm
  · exact h.recent before e front rfl (by simp_all)

/-- An answer that has just come is one interval younger than the next tick at most. -/
lemma exchanged (h : t.Watched marks name r) {e : Exchange} (he : e.answered = t.now) :
    t.Watched (marks ++ [.exchanged e]) name r := by
  refine ⟨h.toTended, fun before e' after heq hclear => ?_⟩
  rcases last_mark_cases heq with ⟨-, hm⟩ | ⟨front, rfl, rfl⟩
  · obtain rfl := Mark.exchanged.inj hm
    exact ⟨Nat.le_of_eq he, he ▸ h.near⟩
  · exact h.recent before e' front rfl (by simp_all)

/-- Where a tick was due, no answer is left since the last clear; elsewhere the reaper has not
moved. -/
lemma ticks (h : t.Watched marks name r) {time : Nat} (hle : t.now ≤ t'.now)
    (ht : t'.Tended name (r.onTime time)) :
    t'.Watched (marks ++ t.tickMarks time) name (r.onTime time) := by
  refine ⟨ht, fun before e after heq hclear => ?_⟩
  unfold tickMarks at heq
  split at heq
  · rcases last_mark_cases heq with ⟨-, hm⟩ | ⟨front, rfl, rfl⟩
    · cases hm
    · simp at hclear
  · rename_i hdue
    rw [List.append_nil] at heq
    obtain ⟨hans, hdead⟩ := h.recent before e after heq hclear
    rw [Reaper.onTime_of_not_due (isDue_of_anyDue_eq_false (by simpa using hdue) h.running)]
    exact ⟨Nat.le_trans hans hle, hdead⟩

lemma wait (h : t.Watched marks name r) (duration : Nat) :
    ∃ r', r'.interval = r.interval ∧
      (t.wait duration).Watched (marks ++ t.waitMarks duration) name r' := by
  by_cases hd : duration = 0
  · subst hd
    exact ⟨r, rfl, by simpa [waitMarks, wait_zero] using h⟩
  · refine ⟨r.onTime (t.lastTickTime duration), rfl, ?_⟩
    rw [waitMarks, if_neg hd]
    exact h.ticks (t.now_le_wait_now duration) (h.toTended.wait hd)

lemma settle (h : t.Watched marks name r) :
    ∃ r', r'.interval = r.interval ∧ t.settle.Rested (marks ++ t.settleMarks) name r' := by
  refine ⟨r.onTime t.now, rfl, ?_, ?_⟩
  · exact h.ticks (Nat.le_of_eq t.settle_now.symm) h.toTended.settle
  · rw [settle_now]
    exact r.lt_deadline_onTime t.now

end Timeline.Watched

/-- **A script keeps its reaper watched**, whatever it does and however long it takes. -/
theorem Script.watched_run (p : Provider σ) (s : Script) {w : World σ} {marks : List Mark}
    {name : String} {r : Reaper} (h : w.timeline.Watched marks name r) :
    ∃ r', r'.interval = r.interval ∧
      (s.run p w).2.timeline.Watched (marks ++ s.chronicle p w) name r' := by
  induction s generalizing w marks r with
  | finish result => exact ⟨r, rfl, by simpa [chronicle, run] using h⟩
  | note ns rest ih => exact ih (w := w.noteAll ns) (h.noteAll ns)
  | draw rest ih => exact ih _ (w := w.drawOne) h
  | look key rest ih => exact ih _ h
  | call c rest ih =>
      obtain ⟨r₁, hr₁, hwait⟩ := (h.noteAll (p.reply c w).notices).wait (p.reply c w).latency
      have hcall : (p.afterCall c w).timeline.Watched (marks ++ p.callMarks c w) name r₁ := by
        rw [Provider.callMarks, ← List.append_assoc]
        exact hwait.exchanged rfl
      obtain ⟨r₂, hr₂, hrest⟩ := ih _ hcall
      rw [List.append_assoc] at hrest
      exact ⟨r₂, hr₂.trans hr₁, hrest⟩
  | store i rest ih =>
      obtain ⟨r₁, hr₁, hrest⟩ := ih (w := w.store i) (h.put i)
      rw [List.append_assoc] at hrest
      exact ⟨r₁, hr₁, hrest⟩
  | wait duration rest ih =>
      obtain ⟨r₁, hr₁, hwait⟩ := h.wait duration
      obtain ⟨r₂, hr₂, hrest⟩ := ih (w := w.wait duration) hwait
      rw [List.append_assoc] at hrest
      exact ⟨r₂, hr₂.trans hr₁, hrest⟩

/-- Between events no tick is due. -/
lemma Event.rested_play (p : Provider σ) {e : Event} (he : e ≠ .shutdown) {w : World σ}
    {marks : List Mark} {name : String} {r : Reaper} (h : w.timeline.Watched marks name r) :
    ∃ r', r'.interval = r.interval ∧
      (e.play p w).timeline.Rested (marks ++ e.chronicle p w) name r' := by
  cases e with
  | operation o =>
      obtain ⟨r₁, hr₁, hrun⟩ := (o.script p).watched_run p h
      obtain ⟨r₂, hr₂, hrest⟩ := hrun.settle
      refine ⟨r₂, hr₂.trans hr₁, ?_⟩
      simp only [play, chronicle, Operation.chronicle, o.run_eq_script, o.perform_eq_script]
      rw [← List.append_assoc]
      exact hrest
  | sleep duration =>
      obtain ⟨r₁, hr₁, hwait⟩ := h.wait duration
      obtain ⟨r₂, hr₂, hrest⟩ := hwait.settle
      refine ⟨r₂, hr₂.trans hr₁, ?_⟩
      rw [chronicle, ← List.append_assoc]
      exact hrest
  | shutdown => exact absurd rfl he

/-- A run without a shutdown keeps the reaper watched, and leaves no tick due. -/
theorem Provider.rested_play (p : Provider σ) {events : List Event}
    (hrun : Event.shutdown ∉ events) {w : World σ} {marks : List Mark} {name : String} {r : Reaper}
    (h : w.timeline.Rested marks name r) :
    ∃ r', r'.interval = r.interval ∧
      (p.play events w).timeline.Rested (marks ++ p.chronicle events w) name r' := by
  induction events generalizing w marks r with
  | nil => exact ⟨r, rfl, by simpa [chronicle, play] using h⟩
  | cons e rest ih =>
      simp only [List.mem_cons, not_or] at hrun
      obtain ⟨r₁, hr₁, he⟩ := e.rested_play p (Ne.symm hrun.1) h.toWatched
      obtain ⟨r₂, hr₂, hrest⟩ := ih hrun.2 he
      rw [List.append_assoc] at hrest
      exact ⟨r₂, hr₂.trans hr₁, hrest⟩

/-- A provider with an interval starts with its reaper on schedule. -/
lemma Provider.rested_start (p : Provider σ) (state : σ) (h : 0 < p.tuning.cacheInterval) :
    (p.start state).timeline.Rested [] reaperName
      ⟨p.tuning.cacheInterval, 0 + p.tuning.cacheInterval, h⟩ where
  toTended := Timeline.Tended.spawn (t := Timeline.start) rfl reaperName h
  recent := by simp
  ahead := by
    show 0 < 0 + p.tuning.cacheInterval
    omega

/-! ## Reads -/

/-- An instance was put into the cache right after an exchange, and nothing was cleared since. -/
def KeptFrom (marks : List Mark) (e : Exchange) (i : Instance) : Prop :=
  ∃ before after, marks = before ++ .exchanged e :: .stored i :: after ∧ .cleared ∉ after

lemma KeptFrom.mem_exchanges {p : Provider σ} {events : List Event} {state : σ} {e : Exchange}
    {i : Instance} (h : KeptFrom (p.chronicle events (p.start state)) e i) :
    e ∈ (p.play events (p.start state)).exchanges := by
  obtain ⟨before, after, hmarks, -⟩ := h
  rw [(p.records_play events _).exchanges, hmarks]
  simp [Mark.exchange?]

/-- **Where a cached instance comes from**: the last answer about it since the last clear. -/
theorem Provider.cached_source (p : Provider σ) (events : List Event) (state : σ) {key : CacheKey}
    {found : Instance} (h : (p.play events (p.start state)).timeline.get? key = some found) :
    found.cacheKey = key ∧ ∃ e report,
      KeptFrom (p.chronicle events (p.start state)) e found ∧ e.report? = some report ∧
        Describes found report := by
  have hcache : (p.play events (p.start state)).timeline.cache
      = some (Cache.empty.replay (p.chronicle events (p.start state))) :=
    (p.records_play events (p.start state)).cache
  rw [Timeline.get?, hcache] at h
  rcases (Cache.get?_replay key found _ _).1 h with ⟨before, after, hmarks, hkey, hsince⟩ | ⟨hnone, -⟩
  · obtain ⟨earlier, e, report, rfl, hreport, hdesc⟩ :=
      p.sourced_chronicle events (p.start state) before found after hmarks
    refine ⟨hkey, e, report, ⟨earlier, after, ?_, hsince.not_cleared⟩, hreport, hdesc⟩
    rw [hmarks, List.append_assoc]
    rfl
  · simp at hnone

/-- An answer whose instance is still in the cache came less than one interval ago. -/
theorem Provider.kept_recent (p : Provider σ) (state : σ) (hpos : 0 < p.tuning.cacheInterval)
    {events : List Event} (hrun : Event.shutdown ∉ events) {e : Exchange} {i : Instance}
    (h : KeptFrom (p.chronicle events (p.start state)) e i) :
    e.answered ≤ (p.play events (p.start state)).timeline.now ∧
      (p.play events (p.start state)).timeline.now < e.answered + p.tuning.cacheInterval := by
  obtain ⟨r, hr, hrest⟩ := p.rested_play hrun (p.rested_start state hpos)
  obtain ⟨before, after, hmarks, hclear⟩ := h
  obtain ⟨hans, hdead⟩ := hrest.recent before e (.stored i :: after) (by simpa using hmarks)
    (by simpa using hclear)
  have hahead := hrest.ahead
  have hinterval : r.interval = p.tuning.cacheInterval := hr
  exact ⟨hans, by omega⟩

/-- A read is answered from the cache, without a call, or with the answer to the one call that it
makes. -/
lemma Operation.getInstance_cases (p : Provider σ) {name : String} {plan : Plan}
    {found : Instance} {w : World σ}
    (h : ((getInstance name plan).run p w).1 = .ok (.found found)) :
    (w.timeline.get? ⟨name, plan.id⟩ = some found ∧
        ((getInstance name plan).run p w).2.exchanges = w.exchanges) ∨
      ∃ e report, ((getInstance name plan).run p w).2.exchanges = w.exchanges ++ [e] ∧
        e.report? = some report ∧ found = Provider.toInstance "" plan report ∧
        w.timeline.now ≤ e.answered := by
  rw [run_eq_script] at h ⊢
  simp only [script, Script.getInstance, Script.run] at h ⊢
  cases hget : w.timeline.get? ⟨name, plan.id⟩ with
  | some cached =>
      rw [hget] at h
      obtain rfl : cached = found := by simpa [Script.run] using h
      exact .inl ⟨rfl, rfl⟩
  | none =>
      rw [hget] at h
      simp only [Script.describe, Script.request, Script.run] at h ⊢
      cases hreply : (p.reply (.describe name) w).outcome with
      | error refusal =>
          rw [hreply] at h
          cases h
      | ok report =>
          rw [hreply] at h
          obtain rfl : Provider.toInstance "" plan report = found := by
            simpa [Script.run] using h
          refine .inr ⟨p.exchange (.describe name) w, report, rfl, ?_, rfl, ?_⟩
          · simp [Exchange.report?, Provider.exchange, hreply, Call.report?]
          · exact (w.timeline.noteAll (p.reply (.describe name) w).notices).now_le_wait_now _

/-- **A read gives nothing old**, in any run without a shutdown, whatever the control plane answers
and however long it takes.  An instance that is read without a call was put into the cache right
after an answer that came less than one interval ago, for the same name and a plan of the same
identifier, and nothing was cleared since.  So a read that starts one interval after a deletion has
ended gives what was reported after the deletion. -/
theorem Provider.getInstance_fresh (p : Provider σ) (state : σ) (hpos : 0 < p.tuning.cacheInterval)
    {events : List Event} (hrun : Event.shutdown ∉ events) {name : String} {plan : Plan}
    {found : Instance}
    (hread : ((Operation.getInstance name plan).run p (p.play events (p.start state))).1
      = .ok (.found found)) :
    let w := p.play events (p.start state)
    let after := ((Operation.getInstance name plan).run p w).2
    (after.exchanges = w.exchanges →
      ∃ e ∈ w.exchanges, ∃ report id plan₀,
        e.report? = some report ∧ found = toInstance id plan₀ report ∧
        plan₀.id = plan.id ∧ report.name = name ∧
        KeptFrom (p.chronicle events (p.start state)) e found ∧
        e.answered ≤ w.timeline.now ∧ w.timeline.now < e.answered + p.tuning.cacheInterval) ∧
    (∀ earlier target takeSnapshot later,
      events = earlier ++ .operation (.deprovision target takeSnapshot) :: later →
      let deleted := p.play (earlier ++ [.operation (.deprovision target takeSnapshot)])
        (p.start state)
      deleted.timeline.now + p.tuning.cacheInterval ≤ w.timeline.now →
      ∃ e ∈ after.exchanges, ∃ report,
        e.report? = some report ∧ Describes found report ∧
        deleted.timeline.now < e.answered) := by
  intro w after
  rcases Operation.getInstance_cases p hread with
    ⟨hget, hsame⟩ | ⟨e, report, hmade, hreport, hfound, hlate⟩
  · obtain ⟨hkey, e, report, hkept, hreport, id, plan₀, hfound⟩ := p.cached_source events state hget
    obtain ⟨hans, hage⟩ := p.kept_recent state hpos hrun hkept
    have hmem := hkept.mem_exchanges
    have hkeys : report.name = name ∧ plan₀.id = plan.id := by
      rw [hfound] at hkey
      exact CacheKey.mk.inj hkey
    refine ⟨fun _ => ⟨e, hmem, report, id, plan₀, hreport, hfound, hkeys.2, hkeys.1, hkept, hans,
      hage⟩, ?_⟩
    intro earlier target takeSnapshot later _ deleted hdeleted
    have hnow : w.timeline.now < e.answered + p.tuning.cacheInterval := hage
    refine ⟨e, ?_, report, hreport, ⟨id, plan₀, hfound⟩, by omega⟩
    show e ∈ after.exchanges
    rw [show after.exchanges = w.exchanges from hsame]
    exact hmem
  · have hlist : after.exchanges = w.exchanges ++ [e] := hmade
    refine ⟨fun hsame => ?_, ?_⟩
    · rw [hsame] at hlist
      simp at hlist
    · intro earlier target takeSnapshot later _ deleted hdeleted
      refine ⟨e, by simp [hlist], report, hreport, ⟨"", plan, hfound⟩, ?_⟩
      have : w.timeline.now ≤ e.answered := hlate
      omega

namespace Rehearsal

/-- The same cluster as a read finds it after its deletion. -/
def deleted : Instance :=
  { made with id := "", phase := .deleted }

/-- A cluster is made and deleted, and read one interval later. -/
def deletionRun : List Event :=
  [.operation (.provision "i-1" plan "team"), .operation (.deprovision made false), .sleep 5000,
    .operation (.getInstance made.name plan)]

/-- A second read is answered from the cache, with what was reported after the deletion. -/
theorem reread_after_deletion :
    let w := provider.play deletionRun (provider.start start)
    (∃ e ∈ w.exchanges, KeptFrom (provider.chronicle deletionRun (provider.start start)) e deleted ∧
      w.timeline.now < e.answered + 5000) ∧
    ∃ e ∈ w.exchanges, ∃ report,
      e.report? = some report ∧ Describes deleted report ∧ 10000 < e.answered := by
  have hread : ((Operation.getInstance made.name plan).run provider
      (provider.play deletionRun (provider.start start))).1 = .ok (.found deleted) :=
    rfl
  have hrun : Event.shutdown ∉ deletionRun := by decide
  obtain ⟨hcached, hafter⟩ := provider.getInstance_fresh start (by decide) hrun hread
  obtain ⟨e, he, -, -, -, -, -, -, -, hkept, -, hage⟩ := hcached rfl
  refine ⟨⟨e, he, hkept, hage⟩, ?_⟩
  exact hafter [.operation (.provision "i-1" plan "team")] made false _ rfl (by decide +kernel)

end Rehearsal

end ClusterBroker
