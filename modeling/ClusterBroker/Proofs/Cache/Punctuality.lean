import ClusterBroker.Cache.Timeline.Step
import ClusterBroker.Proofs.Cache.Passage

/-!
# Reapers are punctual, also where the clock jumps

**Schedules.**  `Timeline.Scheduled` says that every running reaper waits for a tick ahead, at most
one interval away.  Every step keeps it (`Scheduled.apply`), and so does every run.

**Entries.**  `Timeline.Fleeting` says that an entry is gone already or will be by a given time,
since a reaper will tick by then.  As long as nobody ends that reaper or puts the entry again, every
step keeps it too.

**Ticks.**  `Timeline.ticksOf` lists when a reaper ticks in a run.  By `Timeline.ticks_ticksOf` these
are its ticks one after the other, and by `Timeline.ticksIn_during` each lies in its step.

**Punctuality.**  **`Timeline.reapers_punctual`** puts all of it together: `Timeline.Punctual` is what
can be relied on about a running reaper.
-/

namespace ClusterBroker.Timeline

/-! ## Schedules -/

/-- Every running reaper waits for a tick ahead, at most one interval away. -/
def Scheduled (t : Timeline) : Prop :=
  ∀ (name : String) (r : Reaper), t.reapers.get? name = some (some r) →
    t.now < r.deadline ∧ r.deadline ≤ t.now + r.interval

/-- A way to tick at a time that leaves a reaper with its schedule. -/
structure OnSchedule (time : Nat) (tick : Reaper → Reaper) : Prop where
  interval : ∀ r, (tick r).interval = r.interval
  ahead : ∀ r, time < (tick r).deadline
  near : ∀ {r before}, r.deadline ≤ before + r.interval → before ≤ time →
    (tick r).deadline ≤ time + r.interval

lemma onSchedule_onTime (time : Nat) : OnSchedule time (·.onTime time) where
  interval _ := rfl
  ahead r := r.lt_deadline_onTime time
  near := Reaper.deadline_onTime_le

lemma onSchedule_catchUp (now : Nat) : OnSchedule now (·.catchUp now) where
  interval r := by
    unfold Reaper.catchUp
    split <;> rfl
  ahead r := r.lt_deadline_catchUp now
  near := Reaper.deadline_catchUp_le

namespace Scheduled

variable {t t' : Timeline}

lemma start : Timeline.start.Scheduled := by
  intro name r hr
  simp [Timeline.start] at hr

/-- A step that starts no reaper and takes no time. -/
lemma of_reapers (h : t.Scheduled) (hnow : t'.now = t.now)
    (hold : ∀ name r, t'.reapers.get? name = some (some r) →
      t.reapers.get? name = some (some r)) : t'.Scheduled := by
  intro name r hr
  rw [hnow]
  exact h name r (hold name r hr)

lemma spawn (h : t.Scheduled) (name : String) (interval : Nat) :
    (t.spawn name interval).Scheduled := by
  intro other r hr
  rcases running_spawn hr with ⟨hpos, rfl⟩ | hold
  · show t.now < t.now + interval ∧ t.now + interval ≤ t.now + interval
    omega
  · exact h other r hold

/-- **The passage of time keeps all schedules**, also where reapers wake late. -/
theorem passTo (h : t.Scheduled) {time : Nat} (hle : t.now ≤ time) {tick : Reaper → Reaper}
    (htick : OnSchedule time tick) : (t.passTo time tick).Scheduled := by
  intro name r' hr'
  show time < r'.deadline ∧ r'.deadline ≤ time + r'.interval
  obtain ⟨r, hr, hticked⟩ := running_passTo hr'
  obtain ⟨-, hnear⟩ := h name r hr
  rcases hticked with ⟨-, rfl⟩ | ⟨hdue, rfl⟩
  · rw [htick.interval]
    exact ⟨htick.ahead r, htick.near hnear hle⟩
  · have hahead : time < r'.deadline := by simpa [Reaper.isDue] using hdue
    omega

/-- **Every step keeps all schedules.** -/
theorem apply (h : t.Scheduled) (step : Step) : (t.apply step).Scheduled := by
  cases step with
  | put i => exact h.of_reapers rfl fun _ _ hr => hr
  | clear =>
      refine h.of_reapers t.clear_now fun name r hr => ?_
      rwa [← t.clear_reapers]
  | spawn name interval => exact h.spawn name interval
  | stop name => exact h.of_reapers rfl fun _ _ => running_stop
  | dropReaper name => exact h.of_reapers rfl fun _ _ => running_dropReaper
  | dropCache => exact h.of_reapers rfl fun _ _ hr => hr
  | sleep duration =>
      show (t.sleep duration).Scheduled
      rw [t.sleep_eq]
      exact h.passTo (Nat.le_add_right _ _) (onSchedule_onTime _)
  | jump duration =>
      show (t.jump duration).Scheduled
      rw [t.jump_eq]
      exact h.passTo (Nat.le_add_right _ _) (onSchedule_catchUp _)

theorem run (h : t.Scheduled) (steps : List Step) : (t.run steps).Scheduled := by
  induction steps generalizing t with
  | nil => exact h
  | cons step steps ih => exact ih (h.apply step)

end Scheduled

/-! ## Entries -/

namespace Step

/-- Whether a step leaves a reaper alone.  Starting another one of its name ends it. -/
def spares (name : String) : Step → Bool
  | .spawn other _ | .stop other | .dropReaper other => other ≠ name
  | _ => true

/-- Whether a step puts an instance with a key. -/
def puts (key : CacheKey) : Step → Bool
  | .put i => i.cacheKey = key
  | _ => false

/-- Whether a step lets time pass. -/
def takesTime : Step → Bool
  | .sleep _ | .jump _ => true
  | _ => false

end Step

/-- A reaper that a step spares changes only as time passes. -/
lemma get?_apply_of_spares (t : Timeline) {name : String} {step : Step}
    (hidle : step.takesTime = false) (hspares : step.spares name = true) :
    (t.apply step).reapers.get? name = t.reapers.get? name := by
  cases step with
  | put | dropCache => rfl
  | clear => rw [Timeline.apply, clear_reapers]
  | spawn other interval =>
      have hne : other ≠ name := by simpa [Step.spares] using hspares
      simp [Timeline.apply, Timeline.spawn, Dict.get?_insert, hne]
  | stop other =>
      have hne : other ≠ name := by simpa [Step.spares] using hspares
      simp [Timeline.apply, Timeline.stop, Dict.get?_modify, hne]
  | dropReaper other =>
      have hne : other ≠ name := by simpa [Step.spares] using hspares
      simp [Timeline.apply, Timeline.dropReaper, Dict.get?_erase, hne]
  | sleep | jump => simp [Step.takesTime] at hidle

/-- An entry is gone already, or a reaper will tick by a given time. -/
def Fleeting (key : CacheKey) (name : String) (limit : Nat) (t : Timeline) : Prop :=
  t.get? key = none ∨ ∃ r, t.reapers.get? name = some (some r) ∧ r.deadline ≤ limit

namespace Fleeting

variable {t t' : Timeline} {key : CacheKey} {name : String} {limit : Nat}

/-- A step that puts no such entry and leaves the reaper as it is. -/
lemma of_same (h : t.Fleeting key name limit) (hget : t.get? key = none → t'.get? key = none)
    (hreaper : t'.reapers.get? name = t.reapers.get? name) : t'.Fleeting key name limit := by
  rcases h with hnone | hsome
  · exact .inl (hget hnone)
  · exact .inr (hreaper ▸ hsome)

/-- Once a reaper has ticked, the entry is gone. -/
lemma passTo (h : t.Fleeting key name limit) (time : Nat) (tick : Reaper → Reaper) :
    (t.passTo time tick).Fleeting key name limit := by
  cases hdue : t.anyDue time with
  | true =>
      have hempty := t.passTo_cache time tick
      rw [if_pos hdue] at hempty
      refine .inl ?_
      rw [get?, hempty]
      cases t.cache <;> rfl
  | false =>
      have hcache := t.passTo_cache time tick
      rw [hdue] at hcache
      rcases h with hnone | ⟨r, hr, hlimit⟩
      · refine .inl ?_
        rw [get?, hcache]
        exact hnone
      · refine .inr ⟨r, ?_, hlimit⟩
        rw [get?_passTo, hr]
        simp [afterTick, isDue_of_anyDue_eq_false hdue hr]

/-- **An entry stays fleeting in every step** that does not put it again or end the reaper. -/
theorem apply (h : t.Fleeting key name limit) {step : Step} (hputs : step.puts key = false)
    (hspares : step.spares name = true) : (t.apply step).Fleeting key name limit := by
  cases step with
  | put i =>
      have hne : i.cacheKey ≠ key := by simpa [Step.puts] using hputs
      refine h.of_same (fun hnone => ?_) rfl
      cases hc : t.cache with
      | none => simp [Timeline.apply, Timeline.put, get?, hc]
      | some c =>
          have hold : c.get? key = none := by simpa [get?, hc] using hnone
          simp [Timeline.apply, Timeline.put, get?, hc, Cache.get?_put, hne, hold]
  | clear =>
      refine .inl ?_
      show t.clear.cache.bind _ = none
      rw [clear_cache]
      cases t.cache <;> rfl
  | spawn | stop | dropReaper => exact h.of_same id (t.get?_apply_of_spares rfl hspares)
  | dropCache => exact .inl rfl
  | sleep duration =>
      show (t.sleep duration).Fleeting key name limit
      rw [t.sleep_eq]
      exact h.passTo _ _
  | jump duration =>
      show (t.jump duration).Fleeting key name limit
      rw [t.jump_eq]
      exact h.passTo _ _

theorem run (h : t.Fleeting key name limit) {steps : List Step}
    (hputs : ∀ step ∈ steps, step.puts key = false)
    (hspares : ∀ step ∈ steps, step.spares name = true) :
    (t.run steps).Fleeting key name limit := by
  induction steps generalizing t with
  | nil => exact h
  | cons step steps ih =>
      obtain ⟨hput, hputs⟩ := List.forall_mem_cons.1 hputs
      obtain ⟨hspare, hspares⟩ := List.forall_mem_cons.1 hspares
      exact ih (h.apply hput hspare) hputs hspares

/-- At the limit, a fleeting entry is gone: the reaper would have to tick in the past. -/
lemma get?_eq_none (h : t.Fleeting key name limit) (hscheduled : t.Scheduled)
    (hlimit : limit ≤ t.now) : t.get? key = none := by
  rcases h with hnone | ⟨r, hr, hdeadline⟩
  · exact hnone
  · have hahead := (hscheduled name r hr).1
    omega

end Fleeting

/-! ## Ticks -/

/-- When a reaper would tick in a step. -/
def Step.tickTimes (t : Timeline) (r : Reaper) : Step → List Nat
  | .sleep duration => r.timesUpTo (t.now + min duration longestWait)
  | .jump duration => r.timesOnWaking (t.now + duration)
  | _ => []

/-- When a reaper ticks in a step.  Without a cache the first tick is its last. -/
def ticksIn (t : Timeline) (r : Reaper) (step : Step) : List Nat :=
  if t.cache.isSome then step.tickTimes t r else (step.tickTimes t r).take 1

/-- When a reaper ticks in the course of some steps, until it ends. -/
def ticksOf (name : String) (t : Timeline) : List Step → List Nat
  | [] => []
  | step :: steps =>
    match t.reapers.get? name with
    | some (some r) =>
      t.ticksIn r step ++ if step.spares name then ticksOf name (t.apply step) steps else []
    | _ => []

lemma ticksOf_of_ended {t : Timeline} {name : String}
    (h : ∀ r, t.reapers.get? name ≠ some (some r)) (steps : List Step) :
    t.ticksOf name steps = [] := by
  cases steps with
  | nil => rfl
  | cons step steps =>
      rcases hr : t.reapers.get? name with _ | _ | r
      · simp [ticksOf, hr]
      · simp [ticksOf, hr]
      · exact absurd hr (h r)

/-- The reaper that is left after some time has ticked at the times that have passed. -/
lemma ticks_afterTick {r : Reaper} {times : List Nat} (cacheExists : Bool) (time : Nat)
    (tick : Reaper → Reaper) (hticks : r.Ticks times (tick r))
    (hquiet : r.isDue time = false → times = []) :
    ∃ last, r.Ticks (if cacheExists then times else times.take 1) last ∧
      ∀ r', afterTick cacheExists time tick r = some r' → r' = last := by
  cases hdue : r.isDue time with
  | false =>
      refine ⟨r, ?_, fun r' h => ?_⟩
      · have hnone := hquiet hdue
        subst hnone
        simpa using Reaper.Ticks.nil r
      · simpa [afterTick, hdue, eq_comm] using h
  | true =>
      cases cacheExists with
      | true =>
          refine ⟨tick r, hticks, fun r' h => ?_⟩
          simpa [afterTick, hdue, eq_comm] using h
      | false =>
          obtain ⟨last, hlast⟩ := hticks.take 1
          refine ⟨last, hlast, fun r' h => ?_⟩
          simp [afterTick, hdue] at h

/-- **A step takes a reaper through its ticks**, and what is left of it afterwards has taken them. -/
theorem ticks_apply {t : Timeline} {name : String} {r : Reaper}
    (hr : t.reapers.get? name = some (some r)) (step : Step) :
    ∃ last, r.Ticks (t.ticksIn r step) last ∧ (step.spares name = true →
      ∀ r', (t.apply step).reapers.get? name = some (some r') → r' = last) := by
  cases step with
  | sleep duration =>
      obtain ⟨last, hticks, hlast⟩ := ticks_afterTick t.cache.isSome
        (t.now + min duration longestWait) (·.onTime (t.now + min duration longestWait))
        (r.ticks_onTime _) Reaper.timesUpTo_of_not_due
      refine ⟨last, hticks, fun _ r' hr' => hlast r' ?_⟩
      rw [Timeline.apply, sleep_eq, get?_passTo, hr] at hr'
      simpa using hr'
  | jump duration =>
      obtain ⟨last, hticks, hlast⟩ := ticks_afterTick t.cache.isSome
        (t.now + duration) (·.catchUp (t.now + duration))
        (r.ticks_catchUp _) Reaper.timesOnWaking_of_not_due
      refine ⟨last, hticks, fun _ r' hr' => hlast r' ?_⟩
      rw [Timeline.apply, jump_eq, get?_passTo, hr] at hr'
      simpa using hr'
  | _ =>
      -- No other step takes time.
      refine ⟨r, by simpa [ticksIn, Step.tickTimes] using Reaper.Ticks.nil r,
        fun hspares r' hr' => ?_⟩
      rw [t.get?_apply_of_spares rfl hspares, hr] at hr'
      simpa [eq_comm] using hr'

/-- A reaper that has ended runs again only if it is started again. -/
lemma exists_of_run {t : Timeline} {name : String} {r' : Reaper} {steps : List Step}
    (hspares : ∀ step ∈ steps, step.spares name = true)
    (h : (t.run steps).reapers.get? name = some (some r')) :
    ∃ r, t.reapers.get? name = some (some r) := by
  induction steps generalizing t with
  | nil => exact ⟨r', h⟩
  | cons step steps ih =>
      obtain ⟨hspare, hspares⟩ := List.forall_mem_cons.1 hspares
      obtain ⟨r, hr⟩ := ih hspares h
      cases step with
      | sleep duration =>
          rw [Timeline.apply, sleep_eq] at hr
          exact (running_passTo hr).imp fun _ h => h.1
      | jump duration =>
          rw [Timeline.apply, jump_eq] at hr
          exact (running_passTo hr).imp fun _ h => h.1
      | _ =>
          rw [t.get?_apply_of_spares rfl hspare] at hr
          exact ⟨r, hr⟩

/-- A reaper on schedule ticks in the time a step takes. -/
theorem ticksIn_during {t : Timeline} (h : t.Scheduled) {name : String} {r : Reaper}
    (hr : t.reapers.get? name = some (some r)) {step : Step} {time : Nat}
    (htime : time ∈ t.ticksIn r step) : t.now < time ∧ time ≤ (t.apply step).now := by
  have hahead := (h name r hr).1
  have htick : time ∈ step.tickTimes t r := by
    unfold ticksIn at htime
    split at htime
    · exact htime
    · exact List.mem_of_mem_take htime
  cases step with
  | sleep duration =>
      have hbetween := Reaper.mem_timesUpTo htick
      rw [Timeline.apply, sleep_eq, passTo_now]
      omega
  | jump duration =>
      have hbetween := Reaper.mem_timesOnWaking htick
      rw [Timeline.apply, jump_eq, passTo_now]
      omega
  | _ => simp [Step.tickTimes] at htick

/-- **In the course of any steps, a reaper takes one tick after the other.** -/
theorem ticks_ticksOf {t : Timeline} {name : String} {r : Reaper}
    (hr : t.reapers.get? name = some (some r)) (steps : List Step) :
    ∃ last, r.Ticks (t.ticksOf name steps) last ∧ ((∀ step ∈ steps, step.spares name = true) →
      ∀ r', (t.run steps).reapers.get? name = some (some r') → r' = last) := by
  induction steps generalizing t r with
  | nil =>
      refine ⟨r, .nil r, fun _ r' hr' => ?_⟩
      rw [show t.run [] = t from rfl, hr] at hr'
      simpa [eq_comm] using hr'
  | cons step steps ih =>
      obtain ⟨middle, hticks, hmiddle⟩ := ticks_apply hr step
      simp only [ticksOf, hr]
      cases hspares : step.spares name with
      | false =>
          refine ⟨middle, by simpa using hticks, fun hall => ?_⟩
          simp [hspares] at hall
      | true =>
          by_cases hgoes : ∃ next, (t.apply step).reapers.get? name = some (some next)
          · obtain ⟨next, hnext⟩ := hgoes
            obtain ⟨last, hmore, hlast⟩ := ih hnext
            obtain rfl := hmiddle hspares next hnext
            refine ⟨last, hticks.append hmore, fun hall => hlast ?_⟩
            exact (List.forall_mem_cons.1 hall).2
          · -- It has ended, so there are no ticks, nor will it ever run.
            refine ⟨middle, ?_, fun hall r' hr' => ?_⟩
            · rw [ticksOf_of_ended (by simpa using hgoes)]
              simpa using hticks
            · exact absurd (exists_of_run (List.forall_mem_cons.1 hall).2 hr') hgoes

/-! ## Punctuality -/

/-- What can be relied on from now on about a running reaper.

* `ahead`, `near`: its next tick is to come, at most one interval from now.
* `during`: whatever is done next, the ticks of it fall into the time that this takes.
* `ticks`: whatever happens, it takes tick after tick, each when it is due.
* `spaced`: these are one interval apart, but for a small lateness; none is made up for.
* `clears`: what is put now is gone after one interval, unless it is put again or the reaper ended. -/
structure Punctual (t : Timeline) (name : String) (r : Reaper) : Prop where
  ahead : t.now < r.deadline
  near : r.deadline ≤ t.now + r.interval
  during : ∀ step : Step, ∀ time ∈ t.ticksIn r step, t.now < time ∧ time ≤ (t.apply step).now
  ticks : ∀ later : List Step, ∃ last, r.Ticks (t.ticksOf name later) last ∧
    ((∀ step ∈ later, step.spares name = true) →
      ∀ r', (t.run later).reapers.get? name = some (some r') → r' = last)
  spaced : ∀ later : List Step, (t.ticksOf name later).IsChain fun tick next =>
    tick + r.interval ≤ next + latenessLimit
  clears : ∀ (i : Instance) (later : List Step),
    (∀ step ∈ later, step.puts i.cacheKey = false ∧ step.spares name = true) →
      t.now + r.interval ≤ ((t.put i).run later).now →
        ((t.put i).run later).get? i.cacheKey = none

/-- **A running reaper is punctual**, whatever was done to the cache, its reapers and the clock. -/
theorem reapers_punctual (steps : List Step) (name : String) (r : Reaper)
    (hrun : (start.run steps).reapers.get? name = some (some r)) :
    (start.run steps).Punctual name r := by
  have hscheduled := Scheduled.start.run steps
  obtain ⟨hahead, hnear⟩ := hscheduled name r hrun
  refine ⟨hahead, hnear, fun step time htime => ticksIn_during hscheduled hrun htime,
    ticks_ticksOf hrun, fun later => ?spaced, fun i later hlater hlong => ?clears⟩
  case spaced =>
    obtain ⟨last, hticks, -⟩ := ticks_ticksOf hrun later
    exact hticks.spaced
  case clears =>
    have hput : ((start.run steps).put i).Scheduled := hscheduled.apply (.put i)
    have hfleeting : ((start.run steps).put i).Fleeting i.cacheKey name r.deadline :=
      .inr ⟨r, hrun, Nat.le_refl _⟩
    have hlast := hfleeting.run (fun step hstep => (hlater step hstep).1)
      fun step hstep => (hlater step hstep).2
    exact hlast.get?_eq_none (hput.run later) (Nat.le_trans hnear hlong)

/-! ## A hurried clock -/

/-- A reaper with an interval below the lateness that is let pass, and a slow one. -/
def twoReapers : List Step :=
  [.spawn "quick" 3, .sleep 2, .spawn "slow" 100]

/-- Jumps within the schedule and past several intervals of it, and a sleep. -/
def hurried : List Step :=
  [.jump 2, .sleep 6, .jump 50]

/-- After jumps, a quick reaper has ticked late, on time and once for all the ticks it missed, and
what was put before is gone. -/
theorem quick_reaper_punctual :
    (start.run twoReapers).reapers.get? "quick" = some (some ⟨3, 3, by decide⟩) ∧
    (start.run twoReapers).Punctual "quick" ⟨3, 3, by decide⟩ ∧
    (start.run twoReapers).ticksOf "quick" hurried = [4, 6, 9, 60] ∧
    ∀ i : Instance, (((start.run twoReapers).put i).run hurried).get? i.cacheKey = none := by
  have hrun : (start.run twoReapers).reapers.get? "quick" = some (some ⟨3, 3, by decide⟩) := rfl
  have hpunctual := reapers_punctual twoReapers "quick" ⟨3, 3, by decide⟩ hrun
  refine ⟨hrun, hpunctual, rfl, fun i => hpunctual.clears i hurried ?_ ?_⟩
  · simp [hurried, Step.puts, Step.spares]
  · have hbefore : (start.run twoReapers).now = 2 := rfl
    have hafter : (((start.run twoReapers).put i).run hurried).now = 60 := by
      show (((((start.run twoReapers).put i).jump 2).sleep 6).jump 50).now = 60
      rw [jump_eq, sleep_eq, jump_eq]
      rfl
    rw [hbefore, hafter]
    decide

end ClusterBroker.Timeline
