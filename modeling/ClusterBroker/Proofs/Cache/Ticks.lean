import ClusterBroker.Proofs.Cache.Schedule
import Mathlib.Data.List.Chain

/-!
# The ticks of a reaper, one by one

A reaper computes where its schedule is after some time in one go.  Here its ticks are taken one by
one, so that it can be said when each of them happens.

**One tick.**  `Reaper.tick` moves the deadline by one interval, from where it was or, if the tick is
too late, from the time of the tick.  `Reaper.Ticks` is a sequence of ticks each of which was due.

**All ticks up to a time.**  `Reaper.ticks_onTime` and `Reaper.ticks_catchUp` say which ticks
`Reaper.onTime` and `Reaper.catchUp` are made of: the ticks of the schedule, each at its own time or
all of them at the time of waking, or one late tick.

**Distance.**  **`Reaper.Ticks.spaced`** says how close together ticks can be.  No tick is made up for
in a burst, whatever the lateness of the ones before.
-/

namespace ClusterBroker.Reaper

/-! ## One tick -/

/-- The reaper after one tick at a time.  A tick that is too late starts a new schedule. -/
def tick (r : Reaper) (time : Nat) : Reaper :=
  if r.deadline + latenessLimit < time then { r with deadline := time + r.interval }
  else { r with deadline := r.deadline + r.interval }

lemma tick_interval (r : Reaper) (time : Nat) : (r.tick time).interval = r.interval := by
  unfold tick
  split <;> rfl

/-- The next tick is due one interval later, less the lateness of this one if that is small. -/
lemma le_deadline_tick (r : Reaper) (time : Nat) :
    time + r.interval ≤ (r.tick time).deadline + latenessLimit := by
  unfold tick
  split
  · show time + r.interval ≤ time + r.interval + latenessLimit
    omega
  · show time + r.interval ≤ r.deadline + r.interval + latenessLimit
    omega

/-- `r.Ticks times r'`: the reaper `r` ticks at these times, being due at each of them, and is `r'`
afterwards. -/
inductive Ticks : Reaper → List Nat → Reaper → Prop where
  | nil (r : Reaper) : Ticks r [] r
  | cons {r r' : Reaper} {time : Nat} {times : List Nat} :
    r.isDue time = true → Ticks (r.tick time) times r' → Ticks r (time :: times) r'

namespace Ticks

variable {r r' r'' : Reaper} {times more : List Nat}

lemma append (h : r.Ticks times r') (h' : r'.Ticks more r'') : r.Ticks (times ++ more) r'' := by
  induction h with
  | nil r => exact h'
  | cons hdue _ ih => exact .cons hdue (ih h')

/-- A reaper may end after any of its ticks. -/
lemma take (h : r.Ticks times r') (n : Nat) : ∃ last, r.Ticks (times.take n) last := by
  induction h generalizing n with
  | nil r => exact ⟨r, by simpa using Ticks.nil r⟩
  | @cons r r' time times hdue _ ih =>
      cases n with
      | zero => exact ⟨r, .nil r⟩
      | succ n =>
          obtain ⟨last, hlast⟩ := ih n
          exact ⟨last, .cons hdue hlast⟩

/-! ## Distance -/

/-- **Ticks are one interval apart**, but for a lateness too small to start a new schedule. -/
theorem spaced (h : r.Ticks times r') :
    times.IsChain fun a b => a + r.interval ≤ b + latenessLimit := by
  induction h with
  | nil r => exact .nil
  | @cons r r' time times hdue hrest ih =>
      rw [tick_interval] at ih
      cases hrest with
      | nil => exact .singleton time
      | @cons _ _ next times hnext _ =>
          have hahead := r.le_deadline_tick time
          have hlater : (r.tick time).deadline ≤ next := by simpa [isDue] using hnext
          refine .cons_cons ?_ ih
          omega

end Ticks

/-! ## All ticks up to a time -/

/-- Ticks none of which is too late keep to the schedule. -/
lemma ticks_schedule (r : Reaper) (times : List Nat)
    (h : ∀ j (hj : j < times.length), r.deadline + r.interval * j ≤ times[j] ∧
      times[j] ≤ r.deadline + r.interval * j + latenessLimit) :
    r.Ticks times { r with deadline := r.deadline + r.interval * times.length } := by
  induction times generalizing r with
  | nil => exact .nil r
  | cons time times ih =>
      obtain ⟨hdue, hlimit⟩ := h 0 (by simp)
      have htick : r.tick time = { r with deadline := r.deadline + r.interval } := by
        have hnot : ¬ r.deadline + latenessLimit < time := by simpa using hlimit
        rw [tick, if_neg hnot]
      have hrest := ih (r.tick time) fun j hj => by
        have hnext := h (j + 1) (by simpa using hj)
        simp only [List.getElem_cons_succ, Nat.mul_succ] at hnext
        rw [htick]
        show r.deadline + r.interval + r.interval * j ≤ _ ∧
          _ ≤ r.deadline + r.interval + r.interval * j + latenessLimit
        omega
      have hend : (r.tick time).deadline + (r.tick time).interval * times.length
          = r.deadline + r.interval * (times.length + 1) := by
        rw [htick]
        show r.deadline + r.interval + r.interval * times.length = _
        rw [Nat.mul_succ]
        omega
      refine .cons (by simpa [isDue] using hdue) ?_
      rw [hend] at hrest
      rw [htick] at hrest ⊢
      exact hrest

/-- The times of the ticks up to a time, each one on time. -/
def timesUpTo (r : Reaper) (time : Nat) : List Nat :=
  (List.range (r.ticksUpTo time)).map fun j => r.deadline + r.interval * j

/-- The times of the ticks of a reaper that wakes at a time. -/
def timesOnWaking (r : Reaper) (now : Nat) : List Nat :=
  if r.deadline + latenessLimit < now then [now] else List.replicate (r.ticksUpTo now) now

lemma timesUpTo_of_not_due {r : Reaper} {time : Nat} (h : r.isDue time = false) :
    r.timesUpTo time = [] := by
  have hlt : ¬ r.deadline ≤ time := by simpa [isDue] using h
  simp [timesUpTo, ticksUpTo, hlt]

lemma timesOnWaking_of_not_due {r : Reaper} {now : Nat} (h : r.isDue now = false) :
    r.timesOnWaking now = [] := by
  have hlt : ¬ r.deadline ≤ now := by simpa [isDue] using h
  have hlate : ¬ r.deadline + latenessLimit < now := by omega
  simp [timesOnWaking, ticksUpTo, hlt, hlate]

/-- A tick of the schedule up to a time is not after it. -/
lemma schedule_le {r : Reaper} {time j : Nat} (h : j < r.ticksUpTo time) :
    r.deadline + r.interval * j ≤ time := by
  unfold ticksUpTo at h
  split at h
  · have hj : j ≤ (time - r.deadline) / r.interval := Nat.le_of_lt_succ h
    have hmul := Nat.mul_le_mul_left r.interval hj
    have hdiv := Nat.mul_div_le (time - r.deadline) r.interval
    omega
  · omega

/-- Ticks on time happen from the deadline on, up to that time. -/
lemma mem_timesUpTo {r : Reaper} {time x : Nat} (h : x ∈ r.timesUpTo time) :
    r.deadline ≤ x ∧ x ≤ time := by
  obtain ⟨j, hj, rfl⟩ := List.mem_map.1 h
  exact ⟨Nat.le_add_right _ _, schedule_le (List.mem_range.1 hj)⟩

/-- Ticks on waking happen then, and only if the deadline has passed. -/
lemma mem_timesOnWaking {r : Reaper} {now x : Nat} (h : x ∈ r.timesOnWaking now) :
    r.deadline ≤ x ∧ x ≤ now := by
  cases hdue : r.isDue now with
  | false => simp [timesOnWaking_of_not_due hdue] at h
  | true =>
      have hdead : r.deadline ≤ now := by simpa [isDue] using hdue
      have hx : x = now := by
        unfold timesOnWaking at h
        split at h
        · exact List.mem_singleton.1 h
        · exact List.eq_of_mem_replicate h
      omega

/-- **On time, the ticks of the schedule happen each at its own time.** -/
theorem ticks_onTime (r : Reaper) (time : Nat) : r.Ticks (r.timesUpTo time) (r.onTime time) := by
  have h := r.ticks_schedule (r.timesUpTo time) fun j hj => by
    simp [timesUpTo]
  rw [timesUpTo, List.length_map, List.length_range] at h
  exact h

/-- **On waking, all ticks of the schedule happen at once**, or just one that is too late. -/
theorem ticks_catchUp (r : Reaper) (now : Nat) :
    r.Ticks (r.timesOnWaking now) (r.catchUp now) := by
  unfold timesOnWaking catchUp
  split
  · rename_i hlate
    have hdue : r.isDue now = true := by
      have hle : r.deadline ≤ now := by omega
      simpa [isDue] using hle
    have htick : r.tick now = { r with deadline := now + r.interval } := by
      rw [tick, if_pos hlate]
    exact .cons hdue (htick ▸ .nil (r.tick now))
  · rename_i hlate
    have h := r.ticks_schedule (List.replicate (r.ticksUpTo now) now) fun j hj => by
      have hcount : j < r.ticksUpTo now := by simpa using hj
      have hle := schedule_le hcount
      simp only [List.getElem_replicate]
      omega
    rw [List.length_replicate] at h
    exact h

/-! ## Where the schedule stands afterwards -/

/-- A reaper that wakes waits for a later tick. -/
theorem lt_deadline_catchUp (r : Reaper) (now : Nat) : now < (r.catchUp now).deadline := by
  unfold catchUp
  split
  · have hpos := r.interval_pos
    show now < now + r.interval
    omega
  · exact r.lt_deadline_onTime now

/-- A reaper that was on schedule has its next tick within one interval of waking. -/
theorem deadline_catchUp_le {r : Reaper} {before now : Nat} (h : r.deadline ≤ before + r.interval)
    (hle : before ≤ now) : (r.catchUp now).deadline ≤ now + r.interval := by
  unfold catchUp
  split
  · exact Nat.le_refl _
  · exact deadline_onTime_le h hle

/-- The ticks of a schedule up to a time are those that are not after it. -/
lemma ticksUpTo_eq {r : Reaper} {time k : Nat} (hle : ∀ j < k, r.deadline + r.interval * j ≤ time)
    (hlt : time < r.deadline + r.interval * k) : r.ticksUpTo time = k := by
  have hahead : time < r.deadline + r.interval * r.ticksUpTo time := r.lt_deadline_onTime time
  rcases Nat.lt_trichotomy (r.ticksUpTo time) k with hless | heq | hmore
  · have hdone := hle _ hless
    omega
  · exact heq
  · have hdone := schedule_le hmore
    omega

/-- Ticks that happened on time need not be taken again. -/
theorem onTime_onTime (r : Reaper) {time later : Nat} (h : time ≤ later) :
    (r.onTime time).onTime later = r.onTime later := by
  have hcount : r.ticksUpTo later = r.ticksUpTo time + (r.onTime time).ticksUpTo later := by
    refine ticksUpTo_eq (fun j hj => ?_) ?_
    · by_cases hfirst : j < r.ticksUpTo time
      · exact Nat.le_trans (schedule_le hfirst) h
      · obtain ⟨i, rfl⟩ := Nat.exists_eq_add_of_le (Nat.le_of_not_lt hfirst)
        have hnext : r.deadline + r.interval * r.ticksUpTo time + r.interval * i ≤ later :=
          schedule_le (r := r.onTime time) (by omega)
        rw [Nat.mul_add]
        omega
    · have hahead : later < r.deadline + r.interval * r.ticksUpTo time
          + r.interval * (r.onTime time).ticksUpTo later := (r.onTime time).lt_deadline_onTime later
      rw [Nat.mul_add]
      omega
  have hdeadline : r.deadline + r.interval * r.ticksUpTo time
      + r.interval * (r.onTime time).ticksUpTo later
      = r.deadline + r.interval * r.ticksUpTo later := by
    rw [hcount, Nat.mul_add]
    omega
  exact congrArg (fun d => { r with deadline := d }) hdeadline

end ClusterBroker.Reaper
