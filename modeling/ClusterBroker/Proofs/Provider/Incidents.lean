import ClusterBroker.Proofs.Cache.Lifetime
import ClusterBroker.Proofs.Provider.Records

/-!
# What may happen to a provider and its cache

Others may hold the cache of a provider and put instances into it or clear it, between what is asked
of the provider.

**Incidents.**  `Incident` is an event, or somebody else's hand on the cache.  `Provider.undergo` is
what incidents do to a world, and `Provider.diary` their chronicle: `Provider.records_undergo`.

**Untouched keys.**  By `Records.get?_eq` what is found under a key that nothing touches stays the
same, and by `Records.get?_of_lastStored` the last instance put there is found.

**Quiet times.**  `Quiet` says that nothing was cleared and every reaper waits for what it waited for.
By **`Operation.quiet_run`** an operation is quiet if no tick is due by its end.
-/

namespace ClusterBroker

variable {σ : Type}

/-! ## Incidents -/

/-- What happens to a provider, or to its cache by another hand. -/
inductive Incident where
  | event (e : Event)
  | put (i : Instance)
  | clear

namespace World

/-- The world after its cache was cleared. -/
def clear (w : World σ) : World σ :=
  { w with timeline := w.timeline.clear }

end World

/-- The world after an incident. -/
def Incident.play (p : Provider σ) : Incident → World σ → World σ
  | event e, w => e.play p w
  | put i, w => w.store i
  | clear, w => w.clear

/-- The chronicle of an incident. -/
def Incident.chronicle (p : Provider σ) : Incident → World σ → List Mark
  | event e, w => e.chronicle p w
  | put i, _ => [.stored i]
  | clear, _ => [.cleared]

namespace Provider

/-- The world after incidents, one after the other. -/
def undergo (p : Provider σ) : List Incident → World σ → World σ
  | [], w => w
  | incident :: rest, w => p.undergo rest (incident.play p w)

/-- The chronicle of incidents. -/
def diary (p : Provider σ) : List Incident → World σ → List Mark
  | [], _ => []
  | incident :: rest, w => incident.chronicle p w ++ p.diary rest (incident.play p w)

lemma undergo_append (p : Provider σ) (before after : List Incident) (w : World σ) :
    p.undergo (before ++ after) w = p.undergo after (p.undergo before w) := by
  induction before generalizing w with
  | nil => rfl
  | cons incident rest ih => exact ih (incident.play p w)

end Provider

namespace Records

lemma clear (w : World σ) : Records w [.cleared] w.clear where
  exchanges := by simp [World.clear, Mark.exchange?]
  cache := w.timeline.clear_cache
  later := Nat.le_of_eq w.timeline.clear_now.symm

end Records

/-- The chronicle of an incident is one of what it does. -/
theorem Incident.records_play (p : Provider σ) (incident : Incident) (w : World σ) :
    Records w (incident.chronicle p w) (incident.play p w) := by
  cases incident with
  | event e => exact e.records_play p w
  | put i => exact Records.store w i
  | clear => exact Records.clear w

/-- **The diary is a chronicle of what incidents do.** -/
theorem Provider.records_undergo (p : Provider σ) (incidents : List Incident) (w : World σ) :
    Records w (p.diary incidents w) (p.undergo incidents w) := by
  induction incidents generalizing w with
  | nil => exact Records.refl w
  | cons incident rest ih => exact (incident.records_play p w).trans (ih (incident.play p w))

/-- Nobody takes its cache from a provider. -/
lemma Provider.cached_undergo (p : Provider σ) (state : σ) (incidents : List Incident) :
    (p.undergo incidents (p.start state)).timeline.cache.isSome = true := by
  rw [(p.records_undergo incidents _).cache]
  rfl

/-! ## Untouched keys -/

section Untouched

variable {key : CacheKey} {i : Instance} {marks more : List Mark} {w after : World σ}

lemma Untouched.append (h : Untouched key marks) (h' : Untouched key more) :
    Untouched key (marks ++ more) := by
  refine ⟨by simp [h.not_cleared, h'.not_cleared], fun i hi => ?_⟩
  rcases List.mem_append.1 hi with hi | hi
  · exact h.not_stored i hi
  · exact h'.not_stored i hi

lemma Untouched.not_lastStored (h : Untouched key marks) (i : Instance) :
    ¬ LastStored key i marks := by
  rintro ⟨before, since, rfl, hkey, -⟩
  exact h.not_stored i (by simp) hkey

lemma Cache.get?_replay_of_untouched (h : Untouched key marks) (c : Cache) :
    (c.replay marks).get? key = c.get? key := by
  refine Option.ext fun i => ?_
  rw [Cache.get?_replay]
  simp [h, h.not_lastStored i]

/-- **Under a key that nothing touches** the same is found before and after. -/
theorem Records.get?_eq (h : Records w marks after) (huntouched : Untouched key marks) :
    after.timeline.get? key = w.timeline.get? key := by
  rw [Timeline.get?, Timeline.get?, h.cache]
  cases w.timeline.cache with
  | none => rfl
  | some c => exact Cache.get?_replay_of_untouched huntouched c

/-- The last instance put under a key is found there, unless the cache was dropped. -/
theorem Records.get?_of_lastStored (h : Records w marks after)
    (hcache : w.timeline.cache.isSome = true) (hlast : LastStored key i marks) :
    after.timeline.get? key = some i := by
  obtain ⟨c, hc⟩ := Option.isSome_iff_exists.1 hcache
  rw [Timeline.get?, h.cache, hc]
  exact (Cache.get?_replay key i marks c).2 (.inl hlast)

/-- After a clear, what is found under a key was put there since. -/
lemma Records.get?_of_cleared (h : Records w marks after) (hcleared : .cleared ∈ marks)
    (hnot : ∀ i, .stored i ∈ marks → i.cacheKey ≠ key) : after.timeline.get? key = none := by
  by_contra hfound
  obtain ⟨i, hi⟩ := Option.ne_none_iff_exists'.1 hfound
  rw [Timeline.get?, h.cache] at hi
  obtain ⟨c, hc, hget⟩ := Option.bind_eq_some_iff.1 hi
  obtain ⟨earlier, -, rfl⟩ := Option.map_eq_some_iff.1 hc
  rcases (Cache.get?_replay key i marks earlier).1 hget with ⟨before, since, rfl, hkey, -⟩ | ⟨-, hun⟩
  · exact hnot i (by simp) hkey
  · exact hun.not_cleared hcleared

end Untouched

/-! ## Quiet times -/

/-- Between two timelines nothing was cleared, and every reaper waits for what it waited for. -/
structure Quiet (t : Timeline) (marks : List Mark) (t' : Timeline) : Prop where
  not_cleared : .cleared ∉ marks
  reapers : t'.reapers = t.reapers

namespace Timeline

variable {t t' : Timeline} {time duration : Nat}

lemma anyDue_congr (h : t'.reapers = t.reapers) (time : Nat) : t'.anyDue time = t.anyDue time := by
  rw [anyDue, anyDue, h]

lemma anyDue_eq_false_of_le {later : Nat} (h : t.anyDue later = false) (hle : time ≤ later) :
    t.anyDue time = false := by
  by_contra hdue
  rw [anyDue_mono hle (by simpa using hdue)] at h
  cases h

lemma tickMarks_of_not_due (h : t.anyDue time = false) : t.tickMarks time = [] := by
  rw [tickMarks, h]
  rfl

end Timeline

namespace Quiet

variable {t t' t'' : Timeline} {marks more : List Mark}

lemma refl (t : Timeline) : Quiet t [] t :=
  ⟨by simp, rfl⟩

lemma trans (h : Quiet t marks t') (h' : Quiet t' more t'') : Quiet t (marks ++ more) t'' :=
  ⟨by simp [h.not_cleared, h'.not_cleared], h'.reapers.trans h.reapers⟩

lemma wait {duration : Nat} (h : t.anyDue (t.wait duration).now = false) :
    Quiet t (t.waitMarks duration) (t.wait duration) := by
  by_cases hd : duration = 0
  · subst hd
    exact refl t
  · rw [Timeline.wait_of_ne_zero t hd] at h ⊢
    have hnot : t.anyDue (t.lastTickTime duration) = false :=
      Timeline.anyDue_eq_false_of_le h (Nat.le_succ _)
    rw [Timeline.waitMarks, if_neg hd, Timeline.tickMarks_of_not_due hnot,
      Timeline.runTo_of_not_due hnot]
    exact ⟨by simp, rfl⟩

lemma settle (h : t.anyDue t.now = false) : Quiet t t.settleMarks t.settle := by
  rw [Timeline.settleMarks, Timeline.tickMarks_of_not_due h, Timeline.settle,
    Timeline.runTo_of_not_due h]
  exact refl t

end Quiet

section Quiet

variable {p : Provider σ} {w : World σ}

lemma Provider.quiet_afterCall {c : Call}
    (h : w.timeline.anyDue (p.afterCall c w).timeline.now = false) :
    Quiet w.timeline (p.callMarks c w) (p.afterCall c w).timeline := by
  have hwait : Quiet (w.timeline.noteAll (p.reply c w).notices)
      ((w.timeline.noteAll (p.reply c w).notices).waitMarks (p.reply c w).latency)
      ((w.timeline.noteAll (p.reply c w).notices).wait (p.reply c w).latency) := Quiet.wait h
  refine ⟨?_, hwait.reapers⟩
  rw [Provider.callMarks, List.mem_append, not_or]
  exact ⟨hwait.not_cleared, by simp⟩

/-- A script is quiet if no tick is due by its end. -/
theorem Script.quiet_run (s : Script)
    (h : w.timeline.anyDue (s.run p w).2.timeline.now = false) :
    Quiet w.timeline (s.chronicle p w) (s.run p w).2.timeline := by
  induction s generalizing w with
  | finish result => exact Quiet.refl _
  | note ns rest ih =>
      have hrest := ih (w := w.noteAll ns) h
      exact ⟨hrest.not_cleared, hrest.reapers⟩
  | draw rest ih => exact ih _ (w := w.drawOne) h
  | look key rest ih => exact ih _ h
  | call c rest ih =>
      have hlater := ((rest (p.reply c w).outcome).records_run p (p.afterCall c w)).later
      have hcall := Provider.quiet_afterCall (Timeline.anyDue_eq_false_of_le h hlater)
      exact hcall.trans (ih _ ((Timeline.anyDue_congr hcall.reapers _).trans h))
  | store i rest ih =>
      have hrest := ih (w := w.store i) h
      exact ⟨by simp [Script.chronicle, hrest.not_cleared], hrest.reapers⟩
  | wait duration rest ih =>
      have hlater := (rest.records_run p (w.wait duration)).later
      have hwait : Quiet w.timeline (w.timeline.waitMarks duration) (w.wait duration).timeline :=
        Quiet.wait (Timeline.anyDue_eq_false_of_le h hlater)
      exact hwait.trans (ih ((Timeline.anyDue_congr hwait.reapers _).trans h))

/-- **An operation is quiet if no tick is due by its end.** -/
theorem Operation.quiet_run (o : Operation)
    (h : w.timeline.anyDue (o.run p w).2.timeline.now = false) :
    Quiet w.timeline (o.chronicle p w) (o.run p w).2.timeline := by
  rw [chronicle, o.perform_eq_script]
  rw [o.run_eq_script] at h ⊢
  have hend : w.timeline.anyDue ((o.script p).run p w).2.timeline.now = false := by
    rw [← Timeline.settle_now]
    exact h
  have hscript := (o.script p).quiet_run hend
  exact hscript.trans (Quiet.settle ((Timeline.anyDue_congr hscript.reapers _).trans hend))

lemma World.quiet_sleep {duration : Nat}
    (h : w.timeline.anyDue (w.sleep duration).timeline.now = false) :
    Quiet w.timeline ((Event.sleep duration).chronicle p w) (w.sleep duration).timeline := by
  have hend : w.timeline.anyDue (w.timeline.wait duration).now = false := by
    rw [← Timeline.settle_now]
    exact h
  have hwait := Quiet.wait hend
  exact hwait.trans (Quiet.settle ((Timeline.anyDue_congr hwait.reapers _).trans hend))

end Quiet

end ClusterBroker
