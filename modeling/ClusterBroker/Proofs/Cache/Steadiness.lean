import ClusterBroker.Proofs.Cache.Punctuality
import Mathlib.Tactic.Lemma

/-!
# Sleeping in parts, and the schedule of a reaper

Nothing happens in a sleep but the ticks on the way, and each of them at its own time.  So it does
not matter whether somebody sleeps once or twice, and a reaper stays on the schedule it started with
as long as the clock does not jump.

**Sleeping in parts.**  **`Timeline.sleep_sleep`** is about the whole timeline with its notices.  By
`Timeline.sleep_sleep_iff` the only limit is the longest sleep there is.

**The schedule.**  `Reaper.schedule` lists the times at which a reaper is meant to tick.
`Timeline.schedule_apply` says which of them a step takes a reaper through, and
`Timeline.schedule_run` which of them a whole run does.

**Ticks and the cache.**  By `Timeline.anyDue_eq_false_iff` the cache is cleared in the passage of
time just when some reaper ticks.  `Timeline.Quiet` says that none does in the course of some steps,
and then the cache only grows (`Timeline.kept_run`).

**Steadiness.**  **`Timeline.run_steady`** puts all of it together.
-/

namespace ClusterBroker

namespace Timeline

/-! ## Sleeping in parts -/

/-- Passing to a time and on to a later one is passing to the later one. -/
theorem passTo_passTo (t : Timeline) {time later : Nat} (h : time ≤ later) :
    (t.passTo time (·.onTime time)).passTo later (·.onTime later)
      = t.passTo later (·.onTime later) := by
  have hticks := t.runTo_runTo h
  calc
    _ = (t.runTo time).passTo later (·.onTime later) := passTo_moved _ _ _ _
    _ = t.passTo later (·.onTime later) :=
      congrArg (fun s : Timeline => { s with now := later }) hticks

/-- **Two sleeps are one**, if together they are no longer than a sleep can be. -/
theorem sleep_sleep (t : Timeline) {a b : Nat} (h : a + b ≤ longestWait) :
    (t.sleep a).sleep b = t.sleep (a + b) := by
  have ha : min a longestWait = a := Nat.min_eq_left (by omega)
  have hb : min b longestWait = b := Nat.min_eq_left (by omega)
  simp only [sleep_eq, passTo_now, ha, hb, Nat.min_eq_left h, ← Nat.add_assoc]
  exact t.passTo_passTo (by omega)

/-- Sleeping for no time before or after a sleep does nothing. -/
lemma sleep_zero_sleep (t : Timeline) (b : Nat) : (t.sleep 0).sleep b = t.sleep b := by
  simp only [sleep_eq, passTo_now, Nat.zero_min, Nat.add_zero]
  exact t.passTo_passTo (Nat.le_add_right _ _)

lemma sleep_sleep_zero (t : Timeline) (a : Nat) : (t.sleep a).sleep 0 = t.sleep a := by
  simp only [sleep_eq, passTo_now, Nat.zero_min, Nat.add_zero]
  exact t.passTo_passTo (Nat.le_refl _)

/-- Sleeps that are longer together than a sleep can be end later than one that is cut. -/
theorem sleep_sleep_iff (t : Timeline) (a b : Nat) :
    (t.sleep a).sleep b = t.sleep (a + b) ↔ a = 0 ∨ b = 0 ∨ a + b ≤ longestWait := by
  constructor
  · intro h
    have hnow := congrArg Timeline.now h
    simp only [sleep_eq, passTo_now] at hnow
    have hpos : 0 < longestWait := by decide
    omega
  · rintro (rfl | rfl | h)
    · rw [sleep_zero_sleep, Nat.zero_add]
    · rw [sleep_sleep_zero, Nat.add_zero]
    · exact t.sleep_sleep h

end Timeline

/-! ## The schedule -/

namespace Reaper

/-- The first ticks of a reaper that started at a time, each one interval after the one before. -/
def schedule (since interval count : Nat) : List Nat :=
  (List.range count).map fun k => since + interval * (k + 1)

lemma schedule_add (since interval done more : Nat) :
    schedule since interval (done + more)
      = schedule since interval done
        ++ (List.range more).map fun k => since + interval * (done + k + 1) := by
  rw [schedule, List.range_add, List.map_append, List.map_map]
  rfl

/-- A reaper that started at a time and has ticked so often, always on time. -/
def afterTicks (since interval : Nat) (hpos : 0 < interval) (count : Nat) : Reaper :=
  ⟨interval, since + interval * (count + 1), hpos⟩

variable {since interval : Nat} {hpos : 0 < interval}

/-- More ticks move its deadline as they would have moved the first one. -/
lemma deadline_afterTicks_add (done more : Nat) :
    (afterTicks since interval hpos done).deadline + interval * more
      = since + interval * (done + more + 1) := by
  show since + interval * (done + 1) + interval * more = since + interval * (done + more + 1)
  rw [Nat.add_right_comm done more 1, Nat.mul_add interval (done + 1) more, Nat.add_assoc]

/-- On time, such a reaper takes the next ticks of its schedule. -/
lemma schedule_timesUpTo (done time : Nat) :
    schedule since interval done ++ (afterTicks since interval hpos done).timesUpTo time
      = schedule since interval (done + (afterTicks since interval hpos done).ticksUpTo time) := by
  rw [schedule_add, timesUpTo]
  exact congrArg _ (List.map_congr_left fun k _ => deadline_afterTicks_add done k)

lemma onTime_afterTicks (done time : Nat) :
    (afterTicks since interval hpos done).onTime time
      = afterTicks since interval hpos
        (done + (afterTicks since interval hpos done).ticksUpTo time) :=
  congrArg (fun d => (⟨interval, d, hpos⟩ : Reaper)) (deadline_afterTicks_add done _)

/-- A reaper whose next tick is the first one ahead has ticked once in each interval since. -/
lemma count_eq {now count : Nat} (hahead : now < (afterTicks since interval hpos count).deadline)
    (hnear : (afterTicks since interval hpos count).deadline ≤ now + interval) :
    count = (now - since) / interval := by
  have hlt : now < since + interval * (count + 1) := hahead
  have hle : since + interval * (count + 1) ≤ now + interval := hnear
  rw [Nat.mul_succ] at hlt hle
  refine (Nat.div_eq_of_lt_le ?_ ?_).symm
  · rw [Nat.mul_comm]
    omega
  · rw [Nat.succ_mul, Nat.mul_comm]
    omega

end Reaper

namespace Timeline

section Schedule

variable {t : Timeline} {name : String} {since interval : Nat} {hpos : 0 < interval}

/-- Whether a step moves the clock at once. -/
def Step.jumps : Step → Bool
  | .jump _ => true
  | _ => false

/-- **A step takes a reaper through the next ticks of its schedule.** -/
theorem schedule_apply {done : Nat}
    (hr : t.reapers.get? name = some (some (.afterTicks since interval hpos done)))
    {step : Step} (hspares : step.spares name = true) (hjumps : step.jumps = false) {r' : Reaper}
    (hr' : (t.apply step).reapers.get? name = some (some r')) :
    ∃ total, r' = .afterTicks since interval hpos total ∧
      Reaper.schedule since interval done
          ++ t.ticksIn (.afterTicks since interval hpos done) step
        = Reaper.schedule since interval total := by
  cases step with
  | jump duration => simp [Step.jumps] at hjumps
  | sleep duration =>
      rw [Timeline.apply, sleep_eq, get?_passTo, hr] at hr'
      have hafter := Option.some.inj hr'
      simp only [Option.bind_some] at hafter
      unfold afterTick at hafter
      split at hafter
      case isTrue hdue =>
        split at hafter
        · rename_i hcache
          refine ⟨_, (Option.some.inj hafter).symm.trans (Reaper.onTime_afterTicks _ _), ?_⟩
          rw [ticksIn, if_pos hcache]
          exact Reaper.schedule_timesUpTo _ _
        · cases hafter
      case isFalse hdue =>
        have hnone := Reaper.timesUpTo_of_not_due (by simpa using hdue)
        refine ⟨done, (Option.some.inj hafter).symm, ?_⟩
        simp [ticksIn, Step.tickTimes, hnone]
  | _ =>
      -- No other step takes time.
      rw [t.get?_apply_of_spares rfl hspares, hr] at hr'
      refine ⟨done, (Option.some.inj (Option.some.inj hr')).symm, ?_⟩
      simp [ticksIn, Step.tickTimes]

/-- **A run takes a reaper that is still running through its schedule**, tick after tick. -/
theorem schedule_run {done : Nat}
    (hr : t.reapers.get? name = some (some (.afterTicks since interval hpos done)))
    {steps : List Step}
    (hsteps : ∀ step ∈ steps, step.spares name = true ∧ step.jumps = false) {r' : Reaper}
    (hr' : (t.run steps).reapers.get? name = some (some r')) :
    ∃ total, r' = .afterTicks since interval hpos total ∧
      Reaper.schedule since interval done ++ t.ticksOf name steps
        = Reaper.schedule since interval total := by
  induction steps generalizing t done with
  | nil =>
      have hsame : some (some (Reaper.afterTicks since interval hpos done)) = some (some r') :=
        hr.symm.trans hr'
      exact ⟨done, (Option.some.inj (Option.some.inj hsame)).symm, List.append_nil _⟩
  | cons step steps ih =>
      obtain ⟨⟨hspare, hjump⟩, hsteps⟩ := List.forall_mem_cons.1 hsteps
      obtain ⟨middle, hmiddle⟩ := exists_of_run (fun s hs => (hsteps s hs).1) hr'
      obtain ⟨before, rfl, hbefore⟩ := schedule_apply hr hspare hjump hmiddle
      obtain ⟨total, htotal, hticks⟩ := ih hmiddle hsteps hr'
      refine ⟨total, htotal, ?_⟩
      simp only [ticksOf, hr, hspare, if_true]
      rw [← List.append_assoc, hbefore, hticks]

end Schedule

/-- Sleeps of any length leave out no tick. -/
example : (start.spawn "slow" 3).ticksOf "slow" [.sleep 2, .sleep 8] = [3, 6, 9] := rfl

/-! ## Ticks and the cache -/

/-- Some tick is due at a time just when some reaper would tick by then. -/
lemma anyDue_eq_false_iff {t : Timeline} {time : Nat} :
    t.anyDue time = false
      ↔ ∀ name r, t.reapers.get? name = some (some r) → r.isDue time = false :=
  ⟨fun h _ _ hr => isDue_of_anyDue_eq_false h hr, anyDue_eq_false⟩

lemma isDue_eq_false_of_timesUpTo {r : Reaper} {time : Nat} (h : r.timesUpTo time = []) :
    r.isDue time = false := by
  have hcount : r.ticksUpTo time = 0 := by simpa [Reaper.timesUpTo] using h
  by_contra hdue
  have hle : r.deadline ≤ time := by simpa [Reaper.isDue] using hdue
  simp [Reaper.ticksUpTo, hle] at hcount

lemma isDue_eq_false_of_timesOnWaking {r : Reaper} {now : Nat} (h : r.timesOnWaking now = []) :
    r.isDue now = false := by
  unfold Reaper.timesOnWaking at h
  split at h
  · cases h
  · refine isDue_eq_false_of_timesUpTo ?_
    simpa [Reaper.timesUpTo] using h

/-- No reaper ticks in a step. -/
def QuietIn (t : Timeline) (step : Step) : Prop :=
  ∀ name r, t.reapers.get? name = some (some r) → t.ticksIn r step = []

/-- No reaper ticks in the course of some steps. -/
def Quiet (t : Timeline) : List Step → Prop
  | [] => True
  | step :: steps => t.QuietIn step ∧ (t.apply step).Quiet steps

lemma tickTimes_eq_nil {t : Timeline} {r : Reaper} {step : Step} (h : t.ticksIn r step = []) :
    step.tickTimes t r = [] := by
  unfold ticksIn at h
  split at h
  · exact h
  · simpa using h

/-- What some timeline has in its cache, another one has in its cache, if it has one at all. -/
def Kept (t t' : Timeline) : Prop :=
  ∀ c', t'.cache = some c' →
    ∃ c, t.cache = some c ∧ ∀ key, c.contains key = true → c'.contains key = true

lemma Kept.of_cache {t t' : Timeline} (h : t'.cache = t.cache) : t.Kept t' :=
  fun c' hc' => ⟨c', h ▸ hc', fun _ hkey => hkey⟩

lemma Kept.trans {t t' t'' : Timeline} (h : t.Kept t') (h' : t'.Kept t'') : t.Kept t'' := by
  intro c'' hc''
  obtain ⟨c', hc', hsub'⟩ := h' c'' hc''
  obtain ⟨c, hc, hsub⟩ := h c' hc'
  exact ⟨c, hc, fun key hkey => hsub' key (hsub key hkey)⟩

lemma Kept.put (t : Timeline) (i : Instance) : t.Kept (t.put i) := by
  intro c' hc'
  obtain ⟨c, hc, rfl⟩ := Option.map_eq_some_iff.1 (show t.cache.map (·.put i) = some c' from hc')
  refine ⟨c, hc, fun key hkey => ?_⟩
  rw [Cache.contains, Cache.get?_put]
  split
  · rfl
  · exact hkey

lemma Kept.passTo {t : Timeline} {time : Nat} (h : t.anyDue time = false)
    (tick : Reaper → Reaper) : t.Kept (t.passTo time tick) := by
  have hcache := t.passTo_cache time tick
  rw [h] at hcache
  exact .of_cache hcache

/-- **A step in which no reaper ticks keeps all keys**, unless it clears the cache itself. -/
theorem kept_apply {t : Timeline} {step : Step} (hquiet : t.QuietIn step)
    (hclear : step ≠ .clear) : t.Kept (t.apply step) := by
  cases step with
  | clear => exact absurd rfl hclear
  | put i => exact .put t i
  | spawn | stop | dropReaper => exact .of_cache rfl
  | dropCache => exact fun c' hc' => by cases hc'
  | sleep duration =>
      have hdue : t.anyDue (t.now + min duration longestWait) = false :=
        anyDue_eq_false_iff.2 fun name r hr =>
          isDue_eq_false_of_timesUpTo (tickTimes_eq_nil (hquiet name r hr))
      rw [Timeline.apply, sleep_eq]
      exact .passTo hdue _
  | jump duration =>
      have hdue : t.anyDue (t.now + duration) = false :=
        anyDue_eq_false_iff.2 fun name r hr =>
          isDue_eq_false_of_timesOnWaking (tickTimes_eq_nil (hquiet name r hr))
      rw [Timeline.apply, jump_eq]
      exact .passTo hdue _

theorem kept_run {t : Timeline} {steps : List Step} (hquiet : t.Quiet steps)
    (hclear : ∀ step ∈ steps, step ≠ .clear) : t.Kept (t.run steps) := by
  induction steps generalizing t with
  | nil => exact .of_cache rfl
  | cons step steps ih =>
      obtain ⟨hstep, hrest⟩ := hquiet
      obtain ⟨hclear, hclears⟩ := List.forall_mem_cons.1 hclear
      exact (kept_apply hstep hclear).trans (ih hrest hclears)

/-! ## Steadiness -/

/-- How a timeline goes on.

* `additive`: two sleeps leave all there is as one sleep does, notices included, unless one sleep
  cannot be so long.
* `undrifting`: a reaper that is started now and still runs after some steps, in which the clock
  does not jump, has ticked at the times of its schedule, once in each interval since, and waits for
  the next of them.
* `growing`: while no reaper ticks and the cache is not cleared, no key is lost. -/
structure Steady (t : Timeline) : Prop where
  additive : ∀ a b : Nat,
    (t.sleep a).sleep b = t.sleep (a + b) ↔ a = 0 ∨ b = 0 ∨ a + b ≤ longestWait
  undrifting : ∀ (name : String) (interval : Nat) (hpos : 0 < interval) (later : List Step),
    (∀ step ∈ later, step.spares name = true ∧ step.jumps = false) →
      ∀ r, ((t.spawn name interval).run later).reapers.get? name = some (some r) →
        let count := (((t.spawn name interval).run later).now - t.now) / interval
        (t.spawn name interval).ticksOf name later = Reaper.schedule t.now interval count ∧
          r = .afterTicks t.now interval hpos count
  growing : ∀ later : List Step, t.Quiet later → (∀ step ∈ later, step ≠ .clear) →
    t.Kept (t.run later)

/-- **Every timeline that can be reached is steady**, whatever was done to its cache, its reapers
and the clock. -/
theorem run_steady (steps : List Step) : (start.run steps).Steady where
  additive := (start.run steps).sleep_sleep_iff
  undrifting name interval hpos later hlater r hr := by
    have hscheduled := ((Scheduled.start.run steps).spawn name interval).run later
    have hspawned : ((start.run steps).spawn name interval).reapers.get? name
        = some (some (.afterTicks (start.run steps).now interval hpos 0)) := by
      simp [spawn, Dict.get?_insert, Reaper.spawn?, hpos, Reaper.afterTicks]
    obtain ⟨total, rfl, hticks⟩ := schedule_run hspawned hlater hr
    obtain ⟨hahead, hnear⟩ := hscheduled name _ hr
    obtain rfl := Reaper.count_eq hahead hnear
    exact ⟨hticks, rfl⟩
  growing _ hquiet hclear := kept_run hquiet hclear

/-- The longest sleep and a short one take longer than a sleep for the sum of both, which is cut. -/
theorem longest_sleep_cut :
    (start.run [.sleep longestWait, .sleep 1]).now ≠ (start.run [.sleep (longestWait + 1)]).now := by
  show ((start.sleep longestWait).sleep 1).now ≠ (start.sleep (longestWait + 1)).now
  simp only [sleep_eq, passTo_now]
  decide

end Timeline

end ClusterBroker
