import ClusterBroker.Proofs.Provider.Provision
import Mathlib.Data.List.Nodup

/-!
# Which instances a provider stores and hands out

**One script.**  `Script.Trades P Q` is a contract: as long as the cache holds only instances that
are `P`, the script stores only such and hands out only instances that are `Q`.
`Script.Trades.run` says that a run keeps to the contract.

**One operation.**  `Operation.Builds` lists the identifiers and plans under which an operation
makes instances out of reports.  What these instances have in common is true of everything that the
operation stores, and of everything that it hands out but did not get from the caller
(`Operation.trades`).

**One run.**  `Provider.storesOnly_chronicle` and `Provider.handsOut_play` are that for runs, and
`Cache.holds_replay` carries it over to the cache at every moment, also within an operation.
-/

namespace ClusterBroker

open Domain (Report)

variable {σ : Type}

/-! ## Chronicles and caches -/

/-- Every instance that a chronicle puts into the cache is of a kind. -/
def StoresOnly (P : Instance → Prop) (marks : List Mark) : Prop :=
  ∀ i, .stored i ∈ marks → P i

/-- Every instance in a cache is of a kind. -/
def Cache.Holds (P : Instance → Prop) (c : Cache) : Prop :=
  ∀ key i, c.get? key = some i → P i

/-- Every instance that can be looked up is of a kind. -/
def Timeline.Holds (P : Instance → Prop) (t : Timeline) : Prop :=
  ∀ key i, t.get? key = some i → P i

section

variable {P : Instance → Prop}

lemma storesOnly_nil : StoresOnly P [] := by
  simp [StoresOnly]

lemma storesOnly_of_not_stored {marks : List Mark} (h : ∀ i, .stored i ∉ marks) :
    StoresOnly P marks :=
  fun i hi => absurd hi (h i)

lemma StoresOnly.append {marks more : List Mark} (h : StoresOnly P marks)
    (h' : StoresOnly P more) : StoresOnly P (marks ++ more) :=
  fun i hi => (List.mem_append.1 hi).elim (h i) (h' i)

lemma StoresOnly.of_isPrefix {marks more : List Mark} (h : StoresOnly P more)
    (hpre : marks <+: more) : StoresOnly P marks :=
  fun i hi => h i (hpre.subset hi)

lemma LastStored.mem {key : CacheKey} {i : Instance} {marks : List Mark}
    (h : LastStored key i marks) : .stored i ∈ marks := by
  obtain ⟨before, after, rfl, -⟩ := h
  simp

namespace Cache

lemma holds_empty : Cache.empty.Holds P := by
  simp [Holds]

/-- A cache holds after a chronicle what it held before and what the chronicle put into it. -/
lemma Holds.replay {c : Cache} (hc : c.Holds P) {marks : List Mark} (h : StoresOnly P marks) :
    (c.replay marks).Holds P := by
  intro key i hget
  rcases (get?_replay key i marks c).1 hget with hlast | ⟨hold, -⟩
  · exact h i hlast.mem
  · exact hc key i hold

lemma cacheKey_of_get? {c : Cache} {key : CacheKey} {i : Instance} (h : c.get? key = some i) :
    i.cacheKey = key := by
  simpa using List.find?_some h

/-- Instances have distinct keys, so each is found under its own. -/
lemma get?_of_mem {c : Cache} {i : Instance} (h : i ∈ c.instances) :
    c.get? i.cacheKey = some i := by
  cases hget : c.get? i.cacheKey with
  | none =>
      have hne : ¬ i.cacheKey = i.cacheKey := by simpa using List.find?_eq_none.1 hget i h
      exact absurd rfl hne
  | some j =>
      have hkey : j.cacheKey = i.cacheKey := cacheKey_of_get? hget
      rw [List.inj_on_of_nodup_map c.distinct (List.mem_of_find?_eq_some hget) h hkey]

end Cache

lemma Timeline.cacheKey_of_get? {t : Timeline} {key : CacheKey} {i : Instance}
    (h : t.get? key = some i) : i.cacheKey = key := by
  obtain ⟨c, -, hget⟩ := Option.bind_eq_some_iff.1 h
  exact Cache.cacheKey_of_get? hget

/-- What a world can look up, it could look up before or it put there since. -/
lemma Records.holds {w after : World σ} {marks : List Mark} (hr : Records w marks after)
    (hw : w.timeline.Holds P) (h : StoresOnly P marks) : after.timeline.Holds P := by
  intro key i hget
  rw [Timeline.get?, hr.cache] at hget
  cases hc : w.timeline.cache with
  | none => simp [hc] at hget
  | some c =>
      have hold : c.Holds P := fun key' j hj => hw key' j (by simp [Timeline.get?, hc, hj])
      exact hold.replay h key i (by simpa [hc] using hget)

/-! ## One script -/

namespace Script

/-- A script that finds only `P` in the cache stores only `P` and hands out only `Q`. -/
def Trades (P Q : Instance → Prop) : Script → Prop
  | finish result => ∀ i, HandsOut result i → Q i
  | note _ rest => rest.Trades P Q
  | draw rest => ∀ token, (rest token).Trades P Q
  | look _ rest => ∀ found, (∀ i, found = some i → P i) → (rest found).Trades P Q
  | call _ rest => ∀ outcome, (rest outcome).Trades P Q
  | store i rest => P i ∧ rest.Trades P Q
  | wait _ rest => rest.Trades P Q

variable {Q : Instance → Prop}

/-- **A run keeps to the contract of its script.** -/
theorem Trades.run (p : Provider σ) {s : Script} (hs : s.Trades P Q) {w : World σ}
    (hw : w.timeline.Holds P) :
    StoresOnly P (s.chronicle p w) ∧ ∀ i, HandsOut (s.run p w).1 i → Q i := by
  induction s generalizing w with
  | finish result => exact ⟨storesOnly_nil, hs⟩
  | note ns rest ih => exact ih hs (w := w.noteAll ns) hw
  | draw rest ih => exact ih _ (hs _) (w := w.drawOne) hw
  | look key rest ih => exact ih _ (hs _ fun i hi => hw key i hi) hw
  | call c rest ih =>
      have hnone : StoresOnly P (p.callMarks c w) :=
        storesOnly_of_not_stored (not_stored_callMarks p c w)
      obtain ⟨hstores, hout⟩ := ih _ (hs _) ((Records.afterCall p c w).holds hw hnone)
      exact ⟨hnone.append hstores, hout⟩
  | store i rest ih =>
      have hone : StoresOnly P [.stored i] := by simpa [StoresOnly] using hs.1
      obtain ⟨hstores, hout⟩ := ih hs.2 ((Records.store w i).holds hw hone)
      exact ⟨hone.append hstores, hout⟩
  | wait duration rest ih =>
      have hnone : StoresOnly P (w.timeline.waitMarks duration) :=
        storesOnly_of_not_stored (not_stored_waitMarks w.timeline duration)
      obtain ⟨hstores, hout⟩ := ih hs ((Records.wait w duration).holds hw hnone)
      exact ⟨hnone.append hstores, hout⟩

lemma trades_failure {failure : Failure} (h : failure.orphan? = none) :
    (finish (.error failure)).Trades P Q :=
  fun i hi => absurd hi (not_handsOut rfl h i)

lemma trades_found {i : Instance} (h : Q i) : (finish (.ok (.found i))).Trades P Q :=
  fun _ hj => HandsOut.unique (.inl rfl) hj ▸ h

lemma trades_done : (finish (.ok .done)).Trades P Q := by
  rintro i (hi | ⟨reason, hi⟩) <;> cases hi

lemma orphan?_describeFailure (name : String) (refusal : Refusal) :
    (Provider.describeFailure name refusal).orphan? = none := by
  cases refusal <;> rfl

lemma trades_describe {id name : String} {plan : Plan}
    (h : ∀ report, P (Provider.toInstance id plan report)) (hPQ : ∀ i, P i → Q i) :
    (describe id name plan).Trades P Q := by
  rintro (refusal | report)
  · exact trades_failure (orphan?_describeFailure name refusal)
  · exact ⟨h report, trades_found (hPQ _ (h report))⟩

lemma trades_getInstance {name : String} {plan : Plan}
    (h : ∀ report, P (Provider.toInstance "" plan report)) (hPQ : ∀ i, P i → Q i) :
    (getInstance name plan).Trades P Q := by
  rintro (_ | found) hfound
  · exact trades_describe h hPQ
  · exact trades_found (P := P) (hPQ found (hfound found rfl))

lemma trades_billing {made : Instance} (owner : String) (h : Q made) :
    (billing made owner).Trades P Q := by
  rintro (refusal | _)
  · intro i hi
    exact HandsOut.unique (.inr ⟨_, rfl⟩) hi ▸ h
  · exact trades_found h

lemma trades_provision (p : Provider σ) {id : String} {plan : Plan} (owner : String)
    (h : ∀ report, P (Provider.toInstance id plan report)) (hPQ : ∀ i, P i → Q i) :
    (provision p id plan owner).Trades P Q := by
  unfold provision
  cases hparse : Domain.Settings.ofDetails plan.details with
  | error failure =>
      obtain ⟨reason, rfl⟩ := Domain.Settings.configuration_of_ofDetails hparse
      exact trades_failure rfl
  | ok parsed =>
      rintro token (refusal | report)
      · exact trades_failure rfl
      · exact ⟨h report, trades_billing owner (hPQ _ (h report))⟩

lemma trades_modify (p : Provider σ) {target : Instance} {plan : Plan}
    (h : ∀ report, P (Provider.toInstance target.id plan report)) (hPQ : ∀ i, P i → Q i) :
    (modify p target plan).Trades P Q := by
  unfold modify
  cases hparse : Domain.Settings.ofDetails plan.details with
  | error failure =>
      obtain ⟨reason, rfl⟩ := Domain.Settings.configuration_of_ofDetails hparse
      exact trades_failure rfl
  | ok parsed =>
      rintro (refusal | _)
      · exact trades_failure rfl
      · exact trades_describe h hPQ

lemma trades_delete (target : Instance) : (delete target).Trades P Q := by
  rintro (refusal | _)
  · exact trades_failure rfl
  · exact trades_done

lemma trades_retag (c : Call) : (retag c).Trades P Q := by
  rintro (refusal | answer)
  · exact trades_failure rfl
  · exact trades_done

end Script

/-! ## One operation -/

/-- An operation makes an instance of a report under an identifier and for a plan. -/
inductive Operation.Builds : Operation → String → Plan → Prop where
  | getInstance (name : String) (plan : Plan) : Builds (.getInstance name plan) "" plan
  | provision (id : String) (plan : Plan) (owner : String) :
    Builds (.provision id plan owner) id plan
  | modify (target : Instance) (plan : Plan) : Builds (.modify target plan) target.id plan

/-- Everything that an operation makes of a report is of a kind. -/
def Operation.BuildsOnly (P : Instance → Prop) (o : Operation) : Prop :=
  ∀ id plan, o.Builds id plan → ∀ report, P (Provider.toInstance id plan report)

/-- An operation stores what it makes, and hands out what it makes, what it finds in the cache and
what the caller hands in. -/
theorem Operation.trades (o : Operation) (p : Provider σ) (h : o.BuildsOnly P) :
    (o.script p).Trades P fun i => P i ∨ o = .postProvision i := by
  cases o with
  | getInstance name plan =>
      exact Script.trades_getInstance (h "" plan (.getInstance name plan)) fun _ => .inl
  | provision id plan owner =>
      exact Script.trades_provision p owner (h id plan (.provision id plan owner)) fun _ => .inl
  | modify target plan =>
      exact Script.trades_modify p (h target.id plan (.modify target plan)) fun _ => .inl
  | postProvision target => exact Script.trades_found (.inr rfl)
  | deprovision target takeSnapshot => cases takeSnapshot <;> exact Script.trades_delete target
  | tag target key value => exact Script.trades_retag _
  | untag target key => exact Script.trades_retag _
  | urls target => rintro i (hi | ⟨reason, hi⟩) <;> cases hi
  | serviceName => rintro i (hi | ⟨reason, hi⟩) <;> cases hi

/-! ## One run -/

/-- Everything that the operations among some events make of a report is of a kind. -/
def BuildOnly (P : Instance → Prop) (events : List Event) : Prop :=
  ∀ o, .operation o ∈ events → o.BuildsOnly P

lemma Event.storesOnly_chronicle (p : Provider σ) {e : Event} (h : BuildOnly P [e])
    {w : World σ} (hw : w.timeline.Holds P) : StoresOnly P (e.chronicle p w) := by
  cases e with
  | operation o =>
      obtain ⟨hstores, -⟩ := (o.trades p (h o (by simp))).run p hw
      exact hstores.append (storesOnly_of_not_stored (not_stored_tickMarks _ _))
  | sleep duration =>
      exact (storesOnly_of_not_stored (not_stored_waitMarks _ _)).append
        (storesOnly_of_not_stored (not_stored_tickMarks _ _))
  | shutdown => exact storesOnly_nil

/-- **A run stores only what its operations make.** -/
theorem Provider.storesOnly_chronicle (p : Provider σ) {events : List Event}
    (h : BuildOnly P events) {w : World σ} (hw : w.timeline.Holds P) :
    StoresOnly P (p.chronicle events w) := by
  induction events generalizing w with
  | nil => exact storesOnly_nil
  | cons e rest ih =>
      have he : StoresOnly P (e.chronicle p w) :=
        e.storesOnly_chronicle p (fun o ho => h o (by simp_all)) hw
      have hrest : BuildOnly P rest := fun o ho => h o (List.mem_cons_of_mem e ho)
      exact he.append (ih hrest ((e.records_play p w).holds hw he))

lemma Provider.holds_start (p : Provider σ) (state : σ) : (p.start state).timeline.Holds P := by
  intro key i hget
  simp [start, Timeline.get?, Timeline.spawn, Timeline.start] at hget

/-- What can be looked up after a run was made by one of its operations. -/
lemma Provider.holds_play (p : Provider σ) {events : List Event} (h : BuildOnly P events)
    (state : σ) : (p.play events (p.start state)).timeline.Holds P :=
  (p.records_play events _).holds (p.holds_start state)
    (p.storesOnly_chronicle h (p.holds_start state))

/-- **What an operation hands out after a run** was made by it or by an operation before, or handed
in by the caller. -/
theorem Provider.handsOut_play (p : Provider σ) {events : List Event} (h : BuildOnly P events)
    (state : σ) {o : Operation} (ho : o.BuildsOnly P) {i : Instance}
    (hout : HandsOut (o.run p (p.play events (p.start state))).1 i) :
    P i ∨ o = .postProvision i := by
  rw [o.run_eq_script] at hout
  exact ((o.trades p ho).run p (p.holds_play h state)).2 i hout

end

end ClusterBroker
