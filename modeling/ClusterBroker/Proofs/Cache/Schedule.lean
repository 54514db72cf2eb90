import ClusterBroker.Cache.Timeline
import Mathlib.Tactic.Lemma

/-!
# The schedule of a reaper while time passes

As long as time only passes by waiting, a reaper is never late: its next tick lies at most one
interval ahead, and every tick before that has happened.

**One reaper.**  `Reaper.lt_deadline_onTime` and `Reaper.deadline_onTime_le` say where the next
deadline is after all ticks up to a time.

**All ticks up to a time.**  `Timeline.runTo_cache` says what they leave in the cache, and
`Timeline.runTo_wait_cache` that it does not matter whether they happen during a wait or after it.

**A timeline.**  `Timeline.Tended` says that a running reaper is on schedule.  Waiting keeps it
(`Tended.wait`), and settling makes the deadline lie ahead (`Tended.settle`).  The reaper itself
changes only where some tick was due, which is what ties the age of an entry to the ticks.
`Timeline.Agrees` relates timelines that go on alike, since nothing that happens reads a notice.
-/

namespace ClusterBroker

/-! ## One reaper -/

namespace Reaper

lemma onTime_of_not_due {r : Reaper} {time : Nat} (h : r.isDue time = false) :
    r.onTime time = r := by
  have hlt : ¬ r.deadline ≤ time := by simpa [isDue] using h
  simp [onTime, ticksUpTo, hlt]

/-- After its ticks up to a time, a reaper waits for a later one. -/
theorem lt_deadline_onTime (r : Reaper) (time : Nat) : time < (r.onTime time).deadline := by
  by_cases h : r.deadline ≤ time
  · have hdiv := Nat.lt_mul_div_succ (time - r.deadline) r.interval_pos
    simp only [onTime, ticksUpTo, h, if_true]
    omega
  · rw [onTime_of_not_due (by simpa [isDue] using h)]
    omega

/-- A reaper that was on schedule has its next tick within one interval. -/
theorem deadline_onTime_le {r : Reaper} {now time : Nat} (h : r.deadline ≤ now + r.interval)
    (hle : now ≤ time) : (r.onTime time).deadline ≤ time + r.interval := by
  by_cases hd : r.deadline ≤ time
  · have hdiv := Nat.mul_div_le (time - r.deadline) r.interval
    simp only [onTime, ticksUpTo, hd, if_true, Nat.mul_add, Nat.mul_one]
    omega
  · rw [onTime_of_not_due (by simpa [isDue] using hd)]
    omega

end Reaper

namespace Timeline

/-! ## All ticks up to a time -/

lemma isDue_of_anyDue_eq_false {t : Timeline} {time : Nat} (h : t.anyDue time = false)
    {name : String} {r : Reaper} (hr : t.reapers.get? name = some (some r)) :
    r.isDue time = false := by
  have hmem := (t.reapers.mem_entries_iff name (some r)).2 hr
  have hall := List.any_eq_false.1 h _ hmem
  simpa using hall

lemma clear_now (t : Timeline) : t.clear.now = t.now := by
  unfold clear
  cases t.cache with
  | none => rfl
  | some c =>
      show (if c.isEmpty then _ else _ : Timeline).now = t.now
      split <;> rfl

lemma clear_cache (t : Timeline) : t.clear.cache = t.cache.map fun _ => .empty := by
  unfold clear
  cases h : t.cache with
  | none => exact h
  | some c =>
      show (if c.isEmpty then _ else _ : Timeline).cache = some .empty
      split <;> rfl

@[simp] lemma runTo_now (t : Timeline) (time : Nat) : (t.runTo time).now = t.now := by
  show (if t.anyDue time then t.clear else t).now = t.now
  split
  · exact t.clear_now
  · rfl

/-- The ticks up to a time leave nothing in the cache, if there are any. -/
theorem runTo_cache (t : Timeline) (time : Nat) :
    (t.runTo time).cache
      = if t.anyDue time then t.cache.map fun _ => .empty else t.cache := by
  show (if t.anyDue time then t.clear else t).cache = _
  split
  · exact t.clear_cache
  · rfl

@[simp] lemma runTo_cache_isSome (t : Timeline) (time : Nat) :
    (t.runTo time).cache.isSome = t.cache.isSome := by
  rw [runTo_cache]
  split <;> simp

/-- A reaper whose cache exists goes on with its schedule. -/
theorem runTo_reapers {t : Timeline} {name : String} {r : Reaper} (hc : t.cache.isSome)
    (hr : t.reapers.get? name = some (some r)) (time : Nat) :
    (t.runTo time).reapers.get? name = some (some (r.onTime time)) := by
  show (t.reapers.map _).get? name = _
  rw [Dict.get?_map, hr]
  cases hdue : r.isDue time with
  | false => simp [afterTick, hdue, Reaper.onTime_of_not_due hdue]
  | true => simp [afterTick, hdue, hc]

/-- Nothing happens up to a time at which no tick is due. -/
theorem runTo_of_not_due {t : Timeline} {time : Nat} (h : t.anyDue time = false) :
    t.runTo time = t := by
  have hreapers :
      t.reapers.map (fun r => r.bind (afterTick t.cache.isSome time (·.onTime time))) = t.reapers := by
    refine Dict.ext_get? fun name => ?_
    rw [Dict.get?_map]
    rcases hr : t.reapers.get? name with _ | _ | r
    · rfl
    · rfl
    · simp [afterTick, isDue_of_anyDue_eq_false h hr]
  show ({ (if t.anyDue time then t.clear else t) with reapers := _ } : Timeline) = t
  rw [hreapers, h]
  rfl

lemma runTo_noteAll_cache (t : Timeline) (ns : List Notice) (time : Nat) :
    ((t.noteAll ns).runTo time).cache = (t.runTo time).cache := by
  rw [runTo_cache, runTo_cache]
  rfl

/-- What is due once stays due. -/
lemma anyDue_mono {t : Timeline} {time later : Nat} (hle : time ≤ later) (h : t.anyDue time) :
    t.anyDue later := by
  obtain ⟨⟨name, r⟩, hmem, hdue⟩ := List.any_eq_true.1 h
  refine List.any_eq_true.2 ⟨(name, r), hmem, ?_⟩
  cases r with
  | none => simp at hdue
  | some r =>
      have hdead : r.deadline ≤ time := by simpa [Reaper.isDue] using hdue
      simpa [Reaper.isDue] using Nat.le_trans hdead hle

/-! ## A reaper on schedule -/

/-- A running reaper is on schedule: its next tick has not been missed, and is at most one interval
away.  A tick may still be due at this very instant. -/
structure Tended (t : Timeline) (name : String) (r : Reaper) : Prop where
  running : t.reapers.get? name = some (some r)
  cached : t.cache.isSome
  not_missed : t.now ≤ r.deadline
  near : r.deadline ≤ t.now + r.interval

namespace Tended

variable {t : Timeline} {name : String} {r : Reaper}

lemma noteAll (h : t.Tended name r) (ns : List Notice) : (t.noteAll ns).Tended name r :=
  ⟨h.running, h.cached, h.not_missed, h.near⟩

lemma put (h : t.Tended name r) (i : Instance) : (t.put i).Tended name r :=
  ⟨h.running, by simpa [Timeline.put] using h.cached, h.not_missed, h.near⟩

/-- A new reaper is on schedule. -/
lemma spawn {t : Timeline} (hc : t.cache.isSome) (name : String) {interval : Nat}
    (h : 0 < interval) :
    (t.spawn name interval).Tended name ⟨interval, t.now + interval, h⟩ where
  running := by simp [Timeline.spawn, Dict.get?_insert, Reaper.spawn?, h]
  cached := hc
  not_missed := Nat.le_add_right _ _
  near := Nat.le_refl _

end Tended

/-- The instant up to which ticks happen while somebody waits; those at the end of the wait are left
for later. -/
def lastTickTime (t : Timeline) (duration : Nat) : Nat :=
  t.now + min duration longestWait - 1

lemma wait_zero (t : Timeline) : t.wait 0 = t := rfl

lemma wait_of_ne_zero (t : Timeline) {duration : Nat} (h : duration ≠ 0) :
    t.wait duration
      = { t.runTo (t.lastTickTime duration) with now := t.lastTickTime duration + 1 } := by
  have hpos : 0 < min duration longestWait :=
    Nat.lt_min.2 ⟨Nat.pos_of_ne_zero h, by decide⟩
  have hstop : t.now + min duration longestWait = t.lastTickTime duration + 1 := by
    unfold lastTickTime
    omega
  simp only [wait, if_neg h, hstop, Nat.add_sub_cancel]

lemma now_le_lastTickTime (t : Timeline) {duration : Nat} (h : duration ≠ 0) :
    t.now ≤ t.lastTickTime duration := by
  have hpos : 0 < min duration longestWait :=
    Nat.lt_min.2 ⟨Nat.pos_of_ne_zero h, by decide⟩
  unfold lastTickTime
  omega

/-- How long a wait takes. -/
theorem wait_now (t : Timeline) (duration : Nat) :
    (t.wait duration).now = t.now + min duration longestWait := by
  by_cases h : duration = 0
  · simp [h, wait]
  · simp [wait, h]

lemma now_le_wait_now (t : Timeline) (duration : Nat) : t.now ≤ (t.wait duration).now := by
  rw [wait_now]
  exact Nat.le_add_right _ _

@[simp] lemma settle_now (t : Timeline) : t.settle.now = t.now :=
  runTo_now t t.now

/-- Ticks that happen during a wait leave of the cache what the same ticks leave later. -/
theorem runTo_wait_cache (t : Timeline) {duration time : Nat}
    (h : (t.wait duration).now ≤ time) :
    ((t.wait duration).runTo time).cache = (t.runTo time).cache := by
  by_cases hd : duration = 0
  · rw [hd, wait_zero]
  · rw [wait_of_ne_zero t hd] at h ⊢
    have hle : t.lastTickTime duration ≤ time := Nat.le_of_lt h
    cases hdue : t.anyDue (t.lastTickTime duration) with
    | false =>
        rw [runTo_of_not_due hdue]
        simp only [runTo_cache]
        rfl
    | true =>
        simp only [runTo_cache, hdue, anyDue_mono hle hdue, if_true, Option.map_map]
        split <;> rfl

/-- **Waiting keeps a reaper on schedule.** -/
theorem Tended.wait {t : Timeline} {name : String} {r : Reaper} (h : t.Tended name r)
    {duration : Nat} (hd : duration ≠ 0) :
    (t.wait duration).Tended name (r.onTime (t.lastTickTime duration)) := by
  rw [wait_of_ne_zero t hd]
  have hle := t.now_le_lastTickTime hd
  refine ⟨runTo_reapers h.cached h.running _, ?_, r.lt_deadline_onTime _, ?_⟩
  · simpa using h.cached
  · show (r.onTime _).deadline ≤ t.lastTickTime duration + 1 + r.interval
    have := Reaper.deadline_onTime_le h.near hle
    omega

/-- Settling keeps a reaper on schedule. -/
theorem Tended.settle {t : Timeline} {name : String} {r : Reaper} (h : t.Tended name r) :
    t.settle.Tended name (r.onTime t.now) where
  running := runTo_reapers h.cached h.running _
  cached := by simpa [Timeline.settle] using h.cached
  not_missed := by
    rw [settle_now]
    exact Nat.le_of_lt (r.lt_deadline_onTime t.now)
  near := by
    rw [settle_now]
    exact Reaper.deadline_onTime_le h.near (Nat.le_refl _)

/-! ## Timelines that differ in their notices -/

/-- Timelines that differ at most in their notices. -/
structure Agrees (t t' : Timeline) : Prop where
  now : t'.now = t.now
  cache : t'.cache = t.cache
  reapers : t'.reapers = t.reapers

namespace Agrees

variable {t t' t'' : Timeline}

lemma refl (t : Timeline) : t.Agrees t := ⟨rfl, rfl, rfl⟩

lemma trans (h : t.Agrees t') (h' : t'.Agrees t'') : t.Agrees t'' :=
  ⟨h'.now.trans h.now, h'.cache.trans h.cache, h'.reapers.trans h.reapers⟩

lemma put (h : t.Agrees t') (i : Instance) : (t.put i).Agrees (t'.put i) where
  now := h.now
  cache := by rw [Timeline.put, Timeline.put, h.cache]
  reapers := h.reapers

lemma runTo (h : t.Agrees t') (time : Nat) : (t.runTo time).Agrees (t'.runTo time) where
  now := by simpa using h.now
  cache := by
    have hdue : t'.anyDue time = t.anyDue time := by rw [anyDue, h.reapers, anyDue]
    rw [runTo_cache, runTo_cache, hdue, h.cache]
  reapers := by
    show t'.reapers.map (fun r => r.bind (afterTick t'.cache.isSome time (·.onTime time))) = _
    rw [h.reapers, h.cache]
    rfl

lemma settle (h : t.Agrees t') : t.settle.Agrees t'.settle := by
  rw [Timeline.settle, Timeline.settle, h.now]
  exact h.runTo t.now

/-- Waits of timelines that agree do the same to both if they end at the same time. -/
lemma wait (h : t.Agrees t') {duration duration' : Nat}
    (hnow : (t'.wait duration').now = (t.wait duration).now) :
    (t.wait duration).Agrees (t'.wait duration') := by
  have hmin : min duration' longestWait = min duration longestWait := by
    rw [wait_now, wait_now, h.now] at hnow
    omega
  by_cases hd : duration = 0
  · have hd' : duration' = 0 := by
      have hpos : 0 < longestWait := by decide
      omega
    rw [hd, hd', wait_zero, wait_zero]
    exact h
  · have hd' : duration' ≠ 0 := by
      have hpos : 0 < longestWait := by decide
      omega
    have hlast : t'.lastTickTime duration' = t.lastTickTime duration := by
      rw [lastTickTime, lastTickTime, h.now, hmin]
    rw [wait_of_ne_zero t hd, wait_of_ne_zero t' hd', hlast]
    exact ⟨rfl, (h.runTo _).cache, (h.runTo _).reapers⟩

lemma wait_same (h : t.Agrees t') (duration : Nat) :
    (t.wait duration).Agrees (t'.wait duration) := by
  refine h.wait ?_
  rw [wait_now, wait_now, h.now]

end Agrees

end Timeline

end ClusterBroker
