import ClusterBroker.Proofs.Cache.Punctuality

/-!
# How long a reaper runs

A reaper starts if it has an interval.  It ends when somebody ends it, or at its first deadline
after its cache was dropped, and then for good.

**Steps and running reapers.**  `Timeline.running?` is the reaper that runs under a name.  All that
happens on a timeline depends on the reapers that run, and each of them depends on itself alone: so
timelines that differ in ended reapers only go on alike (`Timeline.Mirrors.apply`), and what other
reapers do is the same with or without one (`Timeline.SameReapers.apply`).

**Life.**  `Timeline.Outlasts` says, without a look at the reapers, that nothing in the steps since a
reaper was started has ended it.  **`Timeline.isRunning_iff`** is that these are the reapers that run.

**Death.**  By `Timeline.running?_run_of_ended` a reaper that has ended does not run again.  By
`Timeline.cache_of_ends` its end does nothing to the cache.

**Without reapers.**  By `Timeline.get?_run_of_still` an entry stays in the cache when no reaper runs,
unless the cache is cleared or dropped.
-/

namespace ClusterBroker.Timeline

/-! ## Steps and running reapers -/

/-- The reaper that runs under a name. -/
def running? (t : Timeline) (name : String) : Option Reaper :=
  (t.reapers.get? name).join

section Steps

variable {t t' : Timeline} {name other : String} {r : Reaper}

lemma running?_eq_some : t.running? name = some r ↔ t.reapers.get? name = some (some r) :=
  Option.join_eq_some_iff

lemma isRunning?_eq_true : t.isRunning? name = some true ↔ ∃ r, t.running? name = some r := by
  unfold isRunning? running?
  rcases t.reapers.get? name with _ | _ | r <;> simp

lemma isRunning?_ne_true : t.isRunning? name ≠ some true ↔ t.running? name = none := by
  rw [Ne, isRunning?_eq_true, ← Option.ne_none_iff_exists']
  exact not_not

lemma running?_spawn (t : Timeline) (name other : String) (interval : Nat) :
    (t.spawn name interval).running? other
      = if name = other then Reaper.spawn? t.now interval else t.running? other := by
  unfold running? spawn
  rw [Dict.get?_insert]
  split <;> rfl

lemma running?_stop (t : Timeline) (name other : String) :
    (t.stop name).running? other = if name = other then none else t.running? other := by
  unfold running? stop
  rw [Dict.get?_modify]
  split
  · cases t.reapers.get? other <;> rfl
  · rfl

lemma running?_dropReaper (t : Timeline) (name other : String) :
    (t.dropReaper name).running? other = if name = other then none else t.running? other := by
  unfold running? dropReaper
  rw [Dict.get?_erase]
  split <;> rfl

lemma running?_clear (t : Timeline) (name : String) : t.clear.running? name = t.running? name := by
  unfold running?
  rw [clear_reapers]

lemma running?_passTo (t : Timeline) (time : Nat) (tick : Reaper → Reaper) (name : String) :
    (t.passTo time tick).running? name
      = (t.running? name).bind (afterTick t.cache.isSome time tick) := by
  unfold running?
  rw [get?_passTo]
  cases t.reapers.get? name <;> rfl

/-- A reaper that a step spares changes only as time passes. -/
lemma running?_apply_of_spares (t : Timeline) {step : Step} (hidle : step.takesTime = false)
    (hspares : step.spares name = true) : (t.apply step).running? name = t.running? name := by
  unfold running?
  rw [t.get?_apply_of_spares hidle hspares]

/-- Some tick is due at a time just when a running reaper waits for it. -/
lemma anyDue_iff {time : Nat} :
    t.anyDue time = true ↔ ∃ name r, t.running? name = some r ∧ r.isDue time = true := by
  constructor
  · intro hdue
    by_contra hnone
    have hfalse : t.anyDue time = false := anyDue_eq_false fun name r hr => by
      by_contra htrue
      exact hnone ⟨name, r, running?_eq_some.2 hr, by simpa using htrue⟩
    simp [hfalse] at hdue
  · rintro ⟨name, r, hr, hdue⟩
    by_contra hfalse
    have hnot := isDue_of_anyDue_eq_false (by simpa using hfalse) (running?_eq_some.1 hr)
    simp [hdue] at hnot

end Steps

/-! ## Ended reapers do not matter -/

/-- Timelines on which it is the same time, and the running reapers of some names are the same. -/
structure SameReapers (among : String → Prop) (t t' : Timeline) : Prop where
  now : t'.now = t.now
  cached : t'.cache.isSome = t.cache.isSome
  running : ∀ name, among name → t'.running? name = t.running? name

/-- Timelines that differ at most in reapers that have ended. -/
structure Mirrors (t t' : Timeline) : Prop extends SameReapers (fun _ => True) t t' where
  cache : t'.cache = t.cache
  notices : t'.notices = t.notices

namespace SameReapers

variable {t t' : Timeline} {among : String → Prop}

lemma passTo (h : SameReapers among t t') (time : Nat) (tick : Reaper → Reaper) :
    SameReapers among (t.passTo time tick) (t'.passTo time tick) where
  now := rfl
  cached := by
    have hsame := h.cached
    rw [passTo_cache, passTo_cache]
    split <;> split <;> simpa using hsame
  running name hname := by rw [running?_passTo, running?_passTo, h.cached, h.running name hname]

/-- **Reapers do not matter to each other**: what those of some names do depends on themselves, the
time and whether there is a cache. -/
theorem apply (h : SameReapers among t t') (step : Step) :
    SameReapers among (t.apply step) (t'.apply step) := by
  cases step with
  | put i =>
      refine ⟨h.now, ?_, h.running⟩
      show (t'.cache.map (·.put i)).isSome = (t.cache.map (·.put i)).isSome
      rw [Option.isSome_map, Option.isSome_map, h.cached]
  | clear =>
      refine ⟨t'.clear_now.trans (h.now.trans t.clear_now.symm), ?_, fun name hname => ?_⟩
      · show t'.clear.cache.isSome = t.clear.cache.isSome
        rw [clear_cache, clear_cache, Option.isSome_map, Option.isSome_map, h.cached]
      · show t'.clear.running? name = t.clear.running? name
        rw [running?_clear, running?_clear, h.running name hname]
  | spawn spawned interval =>
      refine ⟨h.now, h.cached, fun name hname => ?_⟩
      show (t'.spawn spawned interval).running? name = (t.spawn spawned interval).running? name
      rw [running?_spawn, running?_spawn, h.now, h.running name hname]
  | stop stopped =>
      refine ⟨h.now, h.cached, fun name hname => ?_⟩
      show (t'.stop stopped).running? name = (t.stop stopped).running? name
      rw [running?_stop, running?_stop, h.running name hname]
  | dropReaper dropped =>
      refine ⟨h.now, h.cached, fun name hname => ?_⟩
      show (t'.dropReaper dropped).running? name = (t.dropReaper dropped).running? name
      rw [running?_dropReaper, running?_dropReaper, h.running name hname]
  | dropCache => exact ⟨h.now, rfl, h.running⟩
  | sleep duration =>
      show SameReapers among (t.sleep duration) (t'.sleep duration)
      rw [sleep_eq, sleep_eq, h.now]
      exact h.passTo _ _
  | jump duration =>
      show SameReapers among (t.jump duration) (t'.jump duration)
      rw [jump_eq, jump_eq, h.now]
      exact h.passTo _ _

theorem run (h : SameReapers among t t') (steps : List Step) :
    SameReapers among (t.run steps) (t'.run steps) := by
  induction steps generalizing t t' with
  | nil => exact h
  | cons step steps ih => exact ih (h.apply step)

end SameReapers

namespace Mirrors

variable {t t' : Timeline}

lemma anyDue (h : t.Mirrors t') (time : Nat) : t'.anyDue time = t.anyDue time := by
  rw [Bool.eq_iff_iff, anyDue_iff, anyDue_iff]
  simp only [h.running _ trivial]

lemma passTo (h : t.Mirrors t') (time : Nat) (tick : Reaper → Reaper) :
    (t.passTo time tick).Mirrors (t'.passTo time tick) where
  toSameReapers := h.toSameReapers.passTo time tick
  cache := by rw [passTo_cache, passTo_cache, h.anyDue, h.cache]
  notices := by
    show (t'.tickAll time tick).notices = (t.tickAll time tick).notices
    rw [tickAll_notices, tickAll_notices, h.anyDue, h.cache, h.notices]

/-- **Timelines that differ in ended reapers only go on alike.** -/
theorem apply (h : t.Mirrors t') (step : Step) : (t.apply step).Mirrors (t'.apply step) := by
  have hsame := h.toSameReapers.apply step
  cases step with
  | put i =>
      refine ⟨hsame, ?_, h.notices⟩
      show t'.cache.map (·.put i) = t.cache.map (·.put i)
      rw [h.cache]
  | clear =>
      refine ⟨hsame, ?_, ?_⟩
      · show t'.clear.cache = t.clear.cache
        rw [clear_cache, clear_cache, h.cache]
      · show t'.clear.notices = t.clear.notices
        rw [clear_notices, clear_notices, h.cache, h.notices]
  | spawn | stop | dropReaper => exact ⟨hsame, h.cache, h.notices⟩
  | dropCache => exact ⟨hsame, rfl, h.notices⟩
  | sleep duration =>
      show (t.sleep duration).Mirrors (t'.sleep duration)
      rw [sleep_eq, sleep_eq, h.now]
      exact h.passTo _ _
  | jump duration =>
      show (t.jump duration).Mirrors (t'.jump duration)
      rw [jump_eq, jump_eq, h.now]
      exact h.passTo _ _

theorem run (h : t.Mirrors t') (steps : List Step) : (t.run steps).Mirrors (t'.run steps) := by
  induction steps generalizing t t' with
  | nil => exact h
  | cons step steps ih => exact ih (h.apply step)

end Mirrors

section Forgotten

variable {t : Timeline} {name : String}

/-- To the others it does not matter whether a reaper is started, stopped or dropped. -/
lemma sameReapers_of_not_spares (t : Timeline) {step : Step} (h : step.spares name = false) :
    SameReapers (· ≠ name) t (t.apply step) := by
  cases step with
  | spawn spawned | stop spawned | dropReaper spawned =>
      obtain rfl : spawned = name := by simpa [Step.spares] using h
      refine ⟨rfl, rfl, fun other hother => ?_⟩
      simp [Timeline.apply, running?_spawn, running?_stop, running?_dropReaper, Ne.symm hother]
  | _ => simp [Step.spares] at h

/-- Whatever has ended may be dropped. -/
lemma mirrors_dropReaper (h : t.running? name = none) : (t.dropReaper name).Mirrors t := by
  refine ⟨⟨rfl, rfl, fun other _ => ?_⟩, rfl, rfl⟩
  rw [running?_dropReaper]
  split
  case isTrue hname => rw [← hname, h]
  case isFalse => rfl

end Forgotten

/-! ## Life -/

/-- The reaper after a step as its schedule has it, whether or not anything ends it. -/
def Step.carry (t : Timeline) (r : Reaper) : Step → Reaper
  | .sleep duration => r.onTime (t.now + min duration longestWait)
  | .jump duration => r.catchUp (t.now + duration)
  | _ => r

/-- The reaper after some steps as its schedule has it, whether or not anything ends it. -/
def carried (t : Timeline) (r : Reaper) : List Step → Reaper
  | [] => r
  | step :: steps => (t.apply step).carried (step.carry t r) steps

/-- After some steps the cache is there, or none of the deadlines that a reaper has since it was
dropped is reached yet. -/
def Unreached (t : Timeline) (r : Reaper) (steps : List Step) : Prop :=
  (t.run steps).cache.isSome = true ∨
    ∀ earlier since, steps = earlier ++ since → (t.run earlier).cache = none →
      (t.run steps).now < (t.carried r earlier).deadline

/-- Nothing in the steps after a reaper was started has ended it.

* `positive`: it has an interval.
* `spared`: it was neither stopped nor dropped, not even to make room for another of its name.
* `unreached`: its cache is there, or none of its deadlines was reached since that was dropped. -/
structure Outlasts (t : Timeline) (name : String) (interval : Nat) (later : List Step) : Prop where
  positive : 0 < interval
  spared : ∀ step ∈ later, step.spares name = true
  unreached : (t.spawn name interval).Unreached ⟨interval, t.now + interval, positive⟩ later

section Life

variable {t : Timeline} {name : String} {r : Reaper} {step : Step} {steps : List Step}

lemma run_append (t : Timeline) (before after : List Step) :
    t.run (before ++ after) = (t.run before).run after :=
  List.foldl_append

lemma now_le_apply (t : Timeline) (step : Step) : t.now ≤ (t.apply step).now := by
  cases step with
  | clear => exact Nat.le_of_eq t.clear_now.symm
  | sleep duration =>
      rw [Timeline.apply, sleep_eq, passTo_now]
      exact Nat.le_add_right _ _
  | jump duration =>
      rw [Timeline.apply, jump_eq, passTo_now]
      exact Nat.le_add_right _ _
  | _ => exact Nat.le_refl _

lemma now_le_run (t : Timeline) (steps : List Step) : t.now ≤ (t.run steps).now := by
  induction steps generalizing t with
  | nil => exact Nat.le_refl _
  | cons step steps ih => exact Nat.le_trans (t.now_le_apply step) (ih (t.apply step))

lemma cache_apply_of_none (h : t.cache = none) (step : Step) : (t.apply step).cache = none := by
  cases step with
  | put i => exact congrArg (Option.map _) h
  | clear => exact t.clear_cache.trans (congrArg (Option.map _) h)
  | dropCache => rfl
  | sleep duration =>
      rw [Timeline.apply, sleep_eq, passTo_cache, h]
      split <;> rfl
  | jump duration =>
      rw [Timeline.apply, jump_eq, passTo_cache, h]
      split <;> rfl
  | _ => exact h

lemma cache_run_of_none (h : t.cache = none) (steps : List Step) : (t.run steps).cache = none := by
  induction steps generalizing t with
  | nil => exact h
  | cons step steps ih => exact ih (cache_apply_of_none h step)

lemma carry_of_lt (h : (t.apply step).now < r.deadline) : step.carry t r = r := by
  cases step with
  | sleep duration =>
      rw [Timeline.apply, sleep_eq, passTo_now] at h
      exact Reaper.onTime_of_not_due (by simpa [Reaper.isDue] using h)
  | jump duration =>
      rw [Timeline.apply, jump_eq, passTo_now] at h
      have hnot : ¬ r.deadline + latenessLimit < t.now + duration := by omega
      rw [Step.carry, Reaper.catchUp, if_neg hnot]
      exact Reaper.onTime_of_not_due (by simpa [Reaper.isDue] using h)
  | _ => rfl

/-- A reaper whose tick changes nothing before its deadline takes its tick, unless the deadline is
reached without a cache. -/
lemma afterTick_eq (cacheExists : Bool) {time : Nat} {tick : Reaper → Reaper}
    (hidle : time < r.deadline → tick r = r) :
    afterTick cacheExists time tick r
      = if cacheExists = true ∨ time < r.deadline then some (tick r) else none := by
  unfold afterTick Reaper.isDue
  by_cases hlt : time < r.deadline
  · have hdue : decide (r.deadline ≤ time) = false := by simpa using hlt
    simp [hdue, hlt, hidle hlt]
  · have hdue : decide (r.deadline ≤ time) = true := by simpa using hlt
    cases cacheExists <;> simp [hdue, hlt]

/-- **What a step leaves of a reaper that nobody ends**: it goes on with its schedule, unless a
deadline is reached without a cache. -/
lemma running?_apply (hscheduled : t.Scheduled) (hr : t.running? name = some r)
    (hspares : step.spares name = true) :
    (t.apply step).running? name
      = if t.cache.isSome = true ∨ (t.apply step).now < r.deadline then some (step.carry t r)
        else none := by
  have hidle : (t.apply step).now < r.deadline → step.carry t r = r := carry_of_lt
  have hahead := (hscheduled name r (running?_eq_some.1 hr)).1
  cases step with
  | sleep duration =>
      simp only [Timeline.apply, sleep_eq, passTo_now] at hidle ⊢
      rw [running?_passTo, hr, Option.bind_some, afterTick_eq _ hidle]
      rfl
  | jump duration =>
      simp only [Timeline.apply, jump_eq, passTo_now] at hidle ⊢
      rw [running?_passTo, hr, Option.bind_some, afterTick_eq _ hidle]
      rfl
  | clear =>
      rw [t.running?_apply_of_spares rfl hspares, hr, Timeline.apply, clear_now, if_pos (.inr hahead)]
      rfl
  | _ =>
      -- No other step takes time.
      rw [t.running?_apply_of_spares rfl hspares, hr]
      exact (if_pos (.inr hahead)).symm

lemma unreached_cons :
    t.Unreached r (step :: steps) ↔
      (t.cache = none → (t.run (step :: steps)).now < r.deadline) ∧
        (t.apply step).Unreached (step.carry t r) steps := by
  constructor
  · rintro (hcache | hahead)
    · refine ⟨fun hnone => ?_, .inl hcache⟩
      rw [cache_run_of_none hnone] at hcache
      cases hcache
    · refine ⟨fun hnone => hahead [] _ rfl hnone, .inr fun earlier since hsteps hnone => ?_⟩
      exact hahead (step :: earlier) since (congrArg (step :: ·) hsteps) hnone
  · rintro ⟨hfirst, hcache | hahead⟩
    · exact .inl hcache
    · refine .inr fun earlier since hsteps hnone => ?_
      cases earlier with
      | nil => exact hfirst hnone
      | cons first earlier =>
          obtain ⟨rfl, hrest⟩ := List.cons.inj hsteps
          exact hahead earlier since hrest hnone

/-- Where a reaper runs after some steps that spared it, it ran before them. -/
lemma running_of_run (hspared : ∀ step ∈ steps, step.spares name = true)
    (h : ∃ r', (t.run steps).running? name = some r') : ∃ r, t.running? name = some r := by
  obtain ⟨r', hr'⟩ := h
  obtain ⟨r, hr⟩ := exists_of_run hspared (running?_eq_some.1 hr')
  exact ⟨r, running?_eq_some.2 hr⟩

/-- **A reaper that nobody ends runs on** as long as its cache is there, and then up to its next
deadline. -/
theorem running_run_iff (hscheduled : t.Scheduled) (hr : t.running? name = some r)
    (hspared : ∀ step ∈ steps, step.spares name = true) :
    (∃ r', (t.run steps).running? name = some r') ↔ t.Unreached r steps := by
  induction steps generalizing t r with
  | nil =>
      have hahead : t.now < r.deadline := (hscheduled name r (running?_eq_some.1 hr)).1
      refine ⟨fun _ => .inr fun earlier since hsteps _ => ?_, fun _ => ⟨r, hr⟩⟩
      obtain ⟨rfl, rfl⟩ := List.append_eq_nil_iff.1 hsteps.symm
      exact hahead
  | cons step steps ih =>
      obtain ⟨hspare, hrest⟩ := List.forall_mem_cons.1 hspared
      have hstep := running?_apply hscheduled hr hspare
      have hlater : (t.apply step).now ≤ (t.run (step :: steps)).now :=
        (t.apply step).now_le_run steps
      rw [unreached_cons]
      split at hstep
      case isTrue hgoes =>
        rw [show t.run (step :: steps) = (t.apply step).run steps from rfl,
          ih (hscheduled.apply step) hstep hrest]
        refine ⟨fun hunreached => ⟨fun hnone => ?_, hunreached⟩, fun h => h.2⟩
        -- Without a cache the reaper has not ticked in this step, so it still waits for the same.
        have hlt : (t.apply step).now < r.deadline := by
          simpa [hnone] using hgoes
        have hgone := cache_apply_of_none hnone step
        rcases hunreached with hcache | hahead
        · rw [cache_run_of_none hgone] at hcache
          cases hcache
        · have hdeadline := hahead [] steps rfl hgone
          rwa [carried, carry_of_lt hlt] at hdeadline
      case isFalse hends =>
        obtain ⟨hcache, hreached⟩ := not_or.1 hends
        have hnone : t.cache = none := by simpa using hcache
        constructor
        · intro h
          obtain ⟨next, hnext⟩ := running_of_run hrest h
          rw [hstep] at hnext
          cases hnext
        · rintro ⟨hfirst, -⟩
          have hlt := hfirst hnone
          omega

/-- A reaper that runs after some steps ran before them, or one of them started it; nobody has ended
it since. -/
lemma started_of_running {r' : Reaper} (h : (t.run steps).running? name = some r') :
    (∃ r, t.running? name = some r ∧ ∀ step ∈ steps, step.spares name = true) ∨
      ∃ before interval later, steps = before ++ .spawn name interval :: later ∧ 0 < interval ∧
        ∀ step ∈ later, step.spares name = true := by
  induction steps generalizing t with
  | nil => exact .inl ⟨r', h, by simp⟩
  | cons step steps ih =>
      rcases ih h with ⟨r, hr, hspared⟩ | ⟨before, interval, later, rfl, hpos, hspared⟩
      · cases hspares : step.spares name with
        | true =>
            have hall : ∀ s ∈ step :: steps, s.spares name = true :=
              List.forall_mem_cons.2 ⟨hspares, hspared⟩
            obtain ⟨before, hbefore⟩ := running_of_run hall ⟨r', h⟩
            exact .inl ⟨before, hbefore, hall⟩
        | false =>
            cases step with
            | spawn other interval =>
                obtain rfl : other = name := by simpa [Step.spares] using hspares
                simp only [Timeline.apply, running?_spawn, if_true, Reaper.spawn?] at hr
                split at hr
                case isTrue hpos => exact .inr ⟨[], interval, steps, rfl, hpos, hspared⟩
                case isFalse => cases hr
            | stop other =>
                obtain rfl : other = name := by simpa [Step.spares] using hspares
                simp [Timeline.apply, running?_stop] at hr
            | dropReaper other =>
                obtain rfl : other = name := by simpa [Step.spares] using hspares
                simp [Timeline.apply, running?_dropReaper] at hr
            | _ => simp [Step.spares] at hspares
      · exact .inr ⟨step :: before, interval, later, rfl, hpos, hspared⟩

/-- **Which reapers run**: those that were started with an interval and that nothing has ended since,
that is, nobody, and no deadline without a cache. -/
theorem isRunning_iff (steps : List Step) (name : String) :
    (start.run steps).isRunning? name = some true ↔
      ∃ before interval later, steps = before ++ .spawn name interval :: later ∧
        (start.run before).Outlasts name interval later := by
  have hlast : ∀ (before : List Step) (interval : Nat) (later : List Step) (hpos : 0 < interval),
      (∀ step ∈ later, step.spares name = true) →
        ((∃ r', (start.run (before ++ .spawn name interval :: later)).running? name = some r') ↔
          ((start.run before).spawn name interval).Unreached
            ⟨interval, (start.run before).now + interval, hpos⟩ later) := by
    intro before interval later hpos hspared
    rw [run_append]
    refine running_run_iff ((Scheduled.start.run before).spawn name interval) ?_ hspared
    simp [running?_spawn, Reaper.spawn?, hpos]
  rw [isRunning?_eq_true]
  constructor
  · rintro ⟨r', hr'⟩
    rcases started_of_running hr' with ⟨r, hr, -⟩ | ⟨before, interval, later, rfl, hpos, hspared⟩
    · simp [running?, start] at hr
    · refine ⟨before, interval, later, rfl, hpos, hspared, ?_⟩
      exact (hlast before interval later hpos hspared).1 ⟨r', hr'⟩
  · rintro ⟨before, interval, later, rfl, hpos, hspared, hunreached⟩
    exact (hlast before interval later hpos hspared).2 hunreached

end Life

/-! ## Death -/

section Death

variable {t : Timeline} {name : String} {step : Step} {steps : List Step}

/-- A reaper that has ended does not run again; another one of its name would have to be started. -/
lemma running?_run_of_ended (h : t.running? name = none)
    (hnone : ∀ interval, .spawn name interval ∉ steps) : (t.run steps).running? name = none := by
  by_contra hruns
  obtain ⟨r', hr'⟩ := Option.ne_none_iff_exists'.1 hruns
  rcases started_of_running hr' with ⟨r, hr, -⟩ | ⟨before, interval, later, rfl, -⟩
  · rw [h] at hr
    cases hr
  · exact hnone interval (by simp)

lemma running?_apply_of_ended (h : t.running? name = none)
    (hnone : ∀ interval, step ≠ .spawn name interval) : (t.apply step).running? name = none := by
  have hrun : (t.run [step]).running? name = none := running?_run_of_ended h fun interval hmem =>
    hnone interval (List.mem_singleton.1 hmem).symm
  exact hrun

/-- A reaper ends in a step: it ran before, or the step is to start it, and it does not run then. -/
def EndsIn (t : Timeline) (name : String) (step : Step) : Prop :=
  ((∃ r, t.running? name = some r) ∨ ∃ interval, step = .spawn name interval) ∧
    (t.apply step).running? name = none

/-- A reaper that is due in the course of time ends only without a cache. -/
lemma cache_passTo_of_ended {time : Nat} {tick : Reaper → Reaper} {r : Reaper}
    (hr : t.running? name = some r) (hends : (t.passTo time tick).running? name = none) :
    t.cache = none := by
  rw [running?_passTo, hr, Option.bind_some, afterTick] at hends
  split at hends
  · split at hends
    · cases hends
    · rename_i hcache
      simpa using hcache
  · cases hends

/-- **The end of a reaper does nothing to the cache**, in whatever way it comes. -/
theorem cache_of_ends (h : t.EndsIn name step) : (t.apply step).cache = t.cache := by
  obtain ⟨hran, hends⟩ := h
  cases step with
  | stop | dropReaper | spawn => rfl
  | sleep duration =>
      obtain ⟨r, hr⟩ : ∃ r, t.running? name = some r := by simpa using hran
      rw [Timeline.apply, sleep_eq] at hends
      have hnone := cache_passTo_of_ended hr hends
      rw [cache_apply_of_none hnone, hnone]
  | jump duration =>
      obtain ⟨r, hr⟩ : ∃ r, t.running? name = some r := by simpa using hran
      rw [Timeline.apply, jump_eq] at hends
      have hnone := cache_passTo_of_ended hr hends
      rw [cache_apply_of_none hnone, hnone]
  | _ =>
      -- No other step ends a reaper.
      obtain ⟨r, hr⟩ : ∃ r, t.running? name = some r := by simpa using hran
      rw [t.running?_apply_of_spares rfl rfl, hr] at hends
      cases hends

end Death

/-! ## Without reapers -/

/-- No reaper runs. -/
def Still (t : Timeline) : Prop :=
  ∀ name, t.running? name = none

/-- Whether a step starts a reaper that runs. -/
def Step.starts : Step → Bool
  | .spawn _ interval => 0 < interval
  | _ => false

/-- Whether a step takes everything out of the cache, or the cache away. -/
def Step.empties : Step → Bool
  | .clear | .dropCache => true
  | _ => false

section Still

variable {t : Timeline} {key : CacheKey} {i : Instance} {step : Step} {steps : List Step}

lemma anyDue_of_still (h : t.Still) (time : Nat) : t.anyDue time = false := by
  by_contra hdue
  obtain ⟨name, r, hr, -⟩ := anyDue_iff.1 (by simpa using hdue)
  rw [h name] at hr
  cases hr

lemma still_apply (h : t.Still) (hstarts : step.starts = false) : (t.apply step).Still := by
  intro name
  cases step with
  | spawn other interval =>
      have hzero : ¬ 0 < interval := by simpa [Step.starts] using hstarts
      rw [Timeline.apply, running?_spawn, h name, Reaper.spawn?, dif_neg hzero, ite_self]
  | _ => exact running?_apply_of_ended (h name) (by simp)

/-- Where no tick is due, the passage of time takes nothing away. -/
lemma get?_passTo_of_still (h : t.Still) (time : Nat) (tick : Reaper → Reaper) :
    (t.passTo time tick).get? key = t.get? key := by
  rw [get?, passTo_cache, anyDue_of_still h]
  rfl

/-- **Without reapers an entry stays** in every step that leaves the cache alone, but for another
instance in its place. -/
theorem get?_apply_of_still (h : t.Still) (hempties : step.empties = false)
    (hget : t.get? key = some i) :
    ∃ j, (t.apply step).get? key = some j ∧ (step.puts key = false → j = i) := by
  cases step with
  | put new =>
      obtain ⟨c, hc, hfound⟩ := Option.bind_eq_some_iff.1 hget
      have hafter : (t.put new).get? key = (c.put new).get? key := by
        rw [get?, put, hc]
        rfl
      rw [Timeline.apply, hafter, Cache.get?_put]
      by_cases hkey : new.cacheKey = key
      · exact ⟨new, if_pos hkey, fun hputs => absurd hkey (by simpa [Step.puts] using hputs)⟩
      · exact ⟨i, (if_neg hkey).trans hfound, fun _ => rfl⟩
  | clear | dropCache => simp [Step.empties] at hempties
  | sleep duration =>
      refine ⟨i, ?_, fun _ => rfl⟩
      rw [Timeline.apply, sleep_eq, get?_passTo_of_still h, hget]
  | jump duration =>
      refine ⟨i, ?_, fun _ => rfl⟩
      rw [Timeline.apply, jump_eq, get?_passTo_of_still h, hget]
  | spawn | stop | dropReaper => exact ⟨i, hget, fun _ => rfl⟩

theorem get?_run_of_still (h : t.Still)
    (hsteps : ∀ step ∈ steps, step.starts = false ∧ step.empties = false)
    (hget : t.get? key = some i) :
    ∃ j, (t.run steps).get? key = some j ∧ ((∀ step ∈ steps, step.puts key = false) → j = i) := by
  induction steps generalizing t i with
  | nil => exact ⟨i, hget, fun _ => rfl⟩
  | cons step steps ih =>
      obtain ⟨⟨hstarts, hempties⟩, hrest⟩ := List.forall_mem_cons.1 hsteps
      obtain ⟨middle, hmiddle, hsame⟩ := get?_apply_of_still h hempties hget
      obtain ⟨j, hj, hlast⟩ := ih (still_apply h hstarts) hrest hmiddle
      refine ⟨j, hj, fun hputs => ?_⟩
      obtain ⟨hput, hputs⟩ := List.forall_mem_cons.1 hputs
      rw [hlast hputs, hsame hput]

end Still

/-! ## The life of a reaper -/

/-- The life of the reapers of a name, up to some steps and after them.

* `runs_iff`: one runs exactly if it was started with an interval, nobody has ended it since, and its
  cache is there or none of its deadlines was reached since that was dropped.
* `ended`: once none runs, none will run unless another one is started.
* `silent`: once none runs, none ticks, and everything goes on as if there had never been one.
* `harmless`: the end of one does nothing to the cache.
* `apart`: for all others it is the same whether it is started, stopped, dropped or none of it.
* `kept`: where no reaper runs at all, nor is one started, an entry leaves the cache only if that is
  cleared or dropped, and is changed only if another instance is put in its place. -/
structure Life (steps : List Step) (name : String) : Prop where
  runs_iff : (start.run steps).isRunning? name = some true ↔
    ∃ before interval later, steps = before ++ .spawn name interval :: later ∧
      (start.run before).Outlasts name interval later
  ended : (start.run steps).isRunning? name ≠ some true → ∀ later : List Step,
    (∀ interval, .spawn name interval ∉ later) →
      ((start.run steps).run later).isRunning? name ≠ some true
  silent : (start.run steps).isRunning? name ≠ some true → ∀ later : List Step,
    (start.run steps).ticksOf name later = [] ∧
      (((start.run steps).dropReaper name).run later).Mirrors ((start.run steps).run later)
  harmless : ∀ step, (start.run steps).EndsIn name step →
    ((start.run steps).apply step).cache = (start.run steps).cache
  apart : ∀ step : Step, step.spares name = false →
    ∀ (later : List Step) (other : String), other ≠ name →
      (((start.run steps).apply step).run later).running? other
        = ((start.run steps).run later).running? other
  kept : (∀ other, (start.run steps).isRunning? other ≠ some true) → ∀ later : List Step,
    (∀ step ∈ later, step.starts = false ∧ step.empties = false) →
      ∀ key i, (start.run steps).get? key = some i →
        ∃ j, ((start.run steps).run later).get? key = some j ∧
          ((∀ step ∈ later, step.puts key = false) → j = i)

/-- **Every reaper lives this life**, whatever is done to it, to others, to the cache and to the
clock. -/
theorem life_run (steps : List Step) (name : String) : Life steps name where
  runs_iff := isRunning_iff steps name
  ended hended later hnone := by
    rw [isRunning?_ne_true] at hended ⊢
    exact running?_run_of_ended hended hnone
  silent hended later := by
    rw [isRunning?_ne_true] at hended
    refine ⟨ticksOf_of_ended (fun r hr => ?_) later, (mirrors_dropReaper hended).run later⟩
    rw [running?_eq_some.2 hr] at hended
    cases hended
  harmless _ hends := cache_of_ends hends
  apart _ hstep later other hother :=
    ((sameReapers_of_not_spares _ hstep).run later).running other hother
  kept hended later hlater key i hget := by
    have hstill : (start.run steps).Still := fun other => isRunning?_ne_true.1 (hended other)
    exact get?_run_of_still hstill hlater hget

end ClusterBroker.Timeline
