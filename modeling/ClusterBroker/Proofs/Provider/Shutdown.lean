import ClusterBroker.Proofs.Provider.Economy
import ClusterBroker.Proofs.Provider.Incidents

/-!
# What a shutdown ends

A provider starts one reaper and no other.  So when it is shut down no reaper runs any more, and
only a hand on the cache can take something out of it.

**One reaper.**  Nothing that is asked of a provider starts a reaper (`Script.running?_run`), and no
incident does: `Provider.running?_undergo`.

**No ticks.**  By `Provider.not_cleared_diary` nothing is cleared where no reaper runs, in the middle
of operations or between them.

**`Provider.life_and_shutdown`** says how long reapers run on any timeline, and what that means for a
provider.
-/

namespace ClusterBroker

variable {σ : Type}

/-! ## One reaper -/

namespace Timeline

variable {t : Timeline} {name : String}

lemma running?_runTo_of_ended (h : t.running? name = none) (time : Nat) :
    (t.runTo time).running? name = none := by
  have hpass := t.running?_passTo time (·.onTime time) name
  rw [h, Option.bind_none] at hpass
  exact hpass

lemma running?_wait_of_ended (h : t.running? name = none) (duration : Nat) :
    (t.wait duration).running? name = none := by
  by_cases hd : duration = 0
  · rw [hd, wait_zero]
    exact h
  · rw [wait_of_ne_zero t hd]
    exact running?_runTo_of_ended h _

end Timeline

section Running

variable {p : Provider σ} {w : World σ} {name : String}

/-- A script starts no reaper. -/
theorem Script.running?_run (s : Script) (h : w.timeline.running? name = none) :
    (s.run p w).2.timeline.running? name = none := by
  induction s generalizing w with
  | finish result => exact h
  | note ns rest ih => exact ih (w := w.noteAll ns) h
  | draw rest ih => exact ih _ (w := w.drawOne) h
  | look key rest ih => exact ih _ h
  | call c rest ih =>
      exact ih _ (w := p.afterCall c w)
        (Timeline.running?_wait_of_ended (t := w.timeline.noteAll (p.reply c w).notices) h _)
  | store i rest ih => exact ih (w := w.store i) h
  | wait duration rest ih =>
      exact ih (w := w.wait duration) (Timeline.running?_wait_of_ended h duration)

lemma Event.running?_play (e : Event) (h : w.timeline.running? name = none) :
    (e.play p w).timeline.running? name = none := by
  cases e with
  | operation o =>
      rw [play, o.run_eq_script]
      exact Timeline.running?_runTo_of_ended ((o.script p).running?_run h) _
  | sleep duration =>
      exact Timeline.running?_runTo_of_ended (Timeline.running?_wait_of_ended h duration) _
  | shutdown =>
      show (w.timeline.stop Provider.reaperName).running? name = none
      rw [Timeline.running?_stop, h, ite_self]

lemma Incident.running?_play (incident : Incident) (h : w.timeline.running? name = none) :
    (incident.play p w).timeline.running? name = none := by
  cases incident with
  | event e => exact e.running?_play h
  | put i => exact h
  | clear => exact (w.timeline.running?_clear name).trans h

/-- **No incident starts a reaper.** -/
theorem Provider.running?_undergo (incidents : List Incident) (h : w.timeline.running? name = none) :
    (p.undergo incidents w).timeline.running? name = none := by
  induction incidents generalizing w with
  | nil => exact h
  | cons incident rest ih => exact ih (incident.running?_play h)

/-- The only reaper of a provider is the one that it starts with. -/
lemma Provider.running?_undergo_start (p : Provider σ) (state : σ) (incidents : List Incident)
    (h : name ≠ reaperName) :
    (p.undergo incidents (p.start state)).timeline.running? name = none := by
  refine p.running?_undergo incidents ?_
  show (Timeline.start.spawn reaperName p.tuning.cacheInterval).running? name = none
  rw [Timeline.running?_spawn, if_neg (Ne.symm h)]
  rfl

end Running

/-! ## No ticks -/

section Still

variable {p : Provider σ} {w : World σ}

lemma Provider.still_undergo (incidents : List Incident) (h : w.timeline.Still) :
    (p.undergo incidents w).timeline.Still :=
  fun name => p.running?_undergo incidents (h name)

/-- After a shutdown none of the reapers of a provider runs. -/
lemma Provider.still_shutdown (p : Provider σ) (state : σ) (incidents : List Incident) :
    (p.undergo incidents (p.start state)).shutdown.timeline.Still := by
  intro name
  show ((p.undergo incidents (p.start state)).timeline.stop reaperName).running? name = none
  rw [Timeline.running?_stop]
  split
  · rfl
  · exact p.running?_undergo_start state incidents (Ne.symm ‹_›)

lemma Event.not_cleared_of_still (e : Event) (h : w.timeline.Still) :
    .cleared ∉ e.chronicle p w := by
  cases e with
  | operation o => exact (o.quiet_run (Timeline.anyDue_of_still h _)).not_cleared
  | sleep duration => exact (World.quiet_sleep (Timeline.anyDue_of_still h _)).not_cleared
  | shutdown => exact List.not_mem_nil

/-- **Where no reaper runs nothing is cleared**, but by another hand. -/
theorem Provider.not_cleared_diary {incidents : List Incident} (h : w.timeline.Still)
    (hclear : .clear ∉ incidents) : .cleared ∉ p.diary incidents w := by
  induction incidents generalizing w with
  | nil => exact List.not_mem_nil
  | cons incident rest ih =>
      rw [List.mem_cons, not_or] at hclear
      rw [diary, List.mem_append, not_or]
      refine ⟨?_, ih (fun name => incident.running?_play (h name)) hclear.2⟩
      cases incident with
      | event e => exact e.not_cleared_of_still h
      | put i => simp [Incident.chronicle]
      | clear => exact absurd rfl hclear.1

end Still

/-! ## The shutdown -/

/-- A provider that was shut down after some incidents.  Others have happened `since`, and more of
them happen `later`.

* `still`: no reaper runs.
* `kept`: unless somebody clears the cache, every instance in it stays there, or another one is put in
  its place. -/
structure Provider.ShutDown (p : Provider σ) (state : σ) (earlier since later : List Incident) :
    Prop where
  still : ∀ name, (p.undergo (earlier ++ .event .shutdown :: since)
    (p.start state)).timeline.isRunning? name ≠ some true
  kept : .clear ∉ later → ∀ key i,
    (p.undergo (earlier ++ .event .shutdown :: since) (p.start state)).timeline.get? key = some i →
      ∃ j, (p.undergo (earlier ++ .event .shutdown :: (since ++ later))
          (p.start state)).timeline.get? key = some j ∧
        ((∀ k, .stored k ∈ p.diary later
            (p.undergo (earlier ++ .event .shutdown :: since) (p.start state)) →
          k.cacheKey ≠ key) → j = i)

lemma Provider.shutDown (p : Provider σ) (state : σ) (earlier since later : List Incident) :
    p.ShutDown state earlier since later := by
  have hstill : (p.undergo (earlier ++ .event .shutdown :: since) (p.start state)).timeline.Still := by
    rw [p.undergo_append]
    exact p.still_undergo since (p.still_shutdown state earlier)
  refine ⟨fun name => Timeline.isRunning?_ne_true.2 (hstill name), fun hclear key i hi => ?_⟩
  rw [← List.cons_append, ← List.append_assoc, p.undergo_append _ later]
  generalize p.undergo (earlier ++ .event .shutdown :: since) (p.start state) = w at hstill hi ⊢
  have hquiet := Provider.not_cleared_diary (p := p) hstill hclear
  have hrecords := p.records_undergo later w
  by_cases hstored : ∀ k, .stored k ∈ p.diary later w → k.cacheKey ≠ key
  · exact ⟨i, (hrecords.get?_eq ⟨hquiet, hstored⟩).trans hi, fun _ => rfl⟩
  · obtain ⟨c, hc, -⟩ := Option.bind_eq_some_iff.1 hi
    have hcache : w.timeline.cache.isSome = true := by rw [hc]; rfl
    rcases untouched_or_lastStored key hquiet with huntouched | ⟨j, hlast⟩
    · exact absurd huntouched.not_stored hstored
    · exact ⟨j, hrecords.get?_of_lastStored hcache hlast, fun hnone => absurd hnone hstored⟩

/-- **How long reapers run**, on every timeline and for every provider.  A reaper runs from when it is
started with an interval until somebody ends it, or up to its first deadline without a cache; its end
is for good, and does nothing to the cache or to other reapers.  A provider has only one, so after a
shutdown nothing that is asked of it takes an instance out of its cache, however long it takes. -/
theorem Provider.life_and_shutdown (p : Provider σ) (state : σ) :
    (∀ steps name, Timeline.Life steps name) ∧
      ∀ earlier since later, p.ShutDown state earlier since later :=
  ⟨Timeline.life_run, p.shutDown state⟩

end ClusterBroker
