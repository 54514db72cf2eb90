import ClusterBroker.Proofs.Cache.Ticks

/-!
# The passage of time

A timeline moves in two ways: somebody sleeps, and every tick on the way happens on time, or the
clock jumps, and reapers find themselves late.  `Timeline.passTo` is both: the time moves, and
reapers that are due by then tick in one way or the other.

**What it does.**  `Timeline.passTo_cache` and `Timeline.get?_passTo` say what is left in the cache
and of a reaper.

**What it is.**  **`Timeline.sleep_eq`** and **`Timeline.jump_eq`** say that sleeping and jumping are
nothing else.  For a sleep this takes `Timeline.runTo_runTo`, since those ticks come in two portions:
the ones before its end and the ones at its end.

**Which reapers run.**  `Timeline.running_passTo`, `running_spawn`, `running_stop` and
`running_dropReaper` say where a running reaper comes from.  By `Timeline.anyDue_settle` none of them
is due after settling.
-/

namespace ClusterBroker.Timeline

/-! ## What it does -/

/-- The time moves on, and reapers that are due by then tick as `tick` says. -/
def passTo (t : Timeline) (time : Nat) (tick : Reaper → Reaper) : Timeline :=
  { t.tickAll time tick with now := time }

@[simp] lemma passTo_now (t : Timeline) (time : Nat) (tick : Reaper → Reaper) :
    (t.passTo time tick).now = time := rfl

lemma passTo_cache (t : Timeline) (time : Nat) (tick : Reaper → Reaper) :
    (t.passTo time tick).cache
      = if t.anyDue time then t.cache.map fun _ => .empty else t.cache :=
  t.runTo_cache time

lemma get?_passTo (t : Timeline) (time : Nat) (tick : Reaper → Reaper) (name : String) :
    (t.passTo time tick).reapers.get? name
      = (t.reapers.get? name).map (·.bind (afterTick t.cache.isSome time tick)) :=
  Dict.get?_map _ _ _

lemma clear_reapers (t : Timeline) : t.clear.reapers = t.reapers := by
  unfold clear
  cases t.cache with
  | none => rfl
  | some c =>
      show (if c.isEmpty then _ else _ : Timeline).reapers = t.reapers
      split <;> rfl

/-- What is noted when the cache is cleared. -/
def clearNotices : Option Cache → List Notice
  | some c => if c.isEmpty then [] else [.cleared c.size]
  | none => []

lemma clear_notices (t : Timeline) : t.clear.notices = t.notices ++ clearNotices t.cache := by
  unfold clear clearNotices
  cases t.cache with
  | none => simp
  | some c =>
      show (if c.isEmpty then _ else _ : Timeline).notices = t.notices ++ if c.isEmpty then _ else _
      split
      · simp
      · rfl

/-- There is nothing to note about a cache that has been cleared. -/
@[simp] lemma clearNotices_cleared (c : Option Cache) :
    clearNotices (c.map fun _ => .empty) = [] := by
  cases c <;> rfl

lemma tickAll_notices (t : Timeline) (time : Nat) (tick : Reaper → Reaper) :
    (t.tickAll time tick).notices
      = t.notices ++ if t.anyDue time then clearNotices t.cache else [] := by
  show (if t.anyDue time then t.clear else t).notices = _
  split
  · exact t.clear_notices
  · simp

/-- A passage of time leaves cache and notices as they are, or it clears the cache once. -/
lemma passTo_cases (t : Timeline) (time : Nat) (tick : Reaper → Reaper) :
    (t.anyDue time = false ∧ (t.passTo time tick).cache = t.cache ∧
      (t.passTo time tick).notices = t.notices) ∨
    (t.anyDue time = true ∧ (t.passTo time tick).cache = (t.cache.map fun _ => .empty) ∧
      (t.passTo time tick).notices = t.notices ++ clearNotices t.cache) := by
  have hcache := t.passTo_cache time tick
  have hnotices : (t.passTo time tick).notices = _ := t.tickAll_notices time tick
  cases hdue : t.anyDue time with
  | false =>
      rw [hdue] at hcache hnotices
      exact .inl ⟨rfl, hcache, hnotices.trans (List.append_nil _)⟩
  | true =>
      rw [hdue] at hcache hnotices
      exact .inr ⟨rfl, hcache, hnotices⟩

/-! ## What it is -/

/-- Timelines that agree and have the same notices are the same. -/
lemma Agrees.eq {t t' : Timeline} (h : t.Agrees t') (hnotices : t'.notices = t.notices) :
    t' = t := by
  obtain ⟨now, cache, reapers, notices⟩ := t
  obtain ⟨now', cache', reapers', notices'⟩ := t'
  obtain ⟨hnow, hcache, hreapers⟩ := h
  simp_all

/-- Ticks that are due now take no time. -/
lemma tickAll_eq_passTo (t : Timeline) (tick : Reaper → Reaper) :
    t.tickAll t.now tick = t.passTo t.now tick := by
  have hnow : (t.tickAll t.now tick).now = t.now := t.settle_now
  refine Agrees.eq ⟨hnow, rfl, rfl⟩ rfl

/-- Settling is a passage of no time. -/
lemma settle_eq (t : Timeline) : t.settle = t.passTo t.now (·.onTime t.now) :=
  t.tickAll_eq_passTo _

/-- What passes up to a time does not depend on the time before. -/
lemma passTo_moved (t : Timeline) (now time : Nat) (tick : Reaper → Reaper) :
    ({ t with now := now } : Timeline).passTo time tick = t.passTo time tick := by
  refine Agrees.eq ⟨rfl, ?_, rfl⟩ ?_
  · rw [passTo_cache, passTo_cache]
    rfl
  · exact (tickAll_notices { t with now := now } time tick).trans
      (t.tickAll_notices time tick).symm

/-- **A jump is a passage of time** at the end of which reapers wake. -/
theorem jump_eq (t : Timeline) (duration : Nat) :
    t.jump duration = t.passTo (t.now + duration) (·.catchUp (t.now + duration)) := by
  have hmoved := t.passTo_moved (t.now + duration) (t.now + duration)
    (·.catchUp (t.now + duration))
  rw [← hmoved]
  exact tickAll_eq_passTo { t with now := t.now + duration } _

/-- The ticks of a reaper up to a time and those up to a later one are the latter. -/
lemma afterTick_afterTick (cacheExists : Bool) {time later : Nat} (h : time ≤ later) (r : Reaper) :
    (afterTick cacheExists time (·.onTime time) r).bind
        (afterTick cacheExists later (·.onTime later))
      = afterTick cacheExists later (·.onTime later) r := by
  cases hdue : r.isDue time with
  | false => simp [afterTick, hdue]
  | true =>
      have hlater : r.isDue later = true := by
        have hle : r.deadline ≤ time := by simpa [Reaper.isDue] using hdue
        have hle' := Nat.le_trans hle h
        simpa [Reaper.isDue] using hle'
      cases cacheExists with
      | false => simp [afterTick, hdue, hlater]
      | true =>
          have hagain := r.onTime_onTime h
          cases hmore : (r.onTime time).isDue later with
          | true => simp [afterTick, hdue, hlater, hmore, hagain]
          | false =>
              have hsame := Reaper.onTime_of_not_due hmore
              simp [afterTick, hdue, hlater, hmore, ← hagain, hsame]

lemma get?_runTo (t : Timeline) (time : Nat) (name : String) :
    (t.runTo time).reapers.get? name
      = (t.reapers.get? name).map (·.bind (afterTick t.cache.isSome time (·.onTime time))) :=
  t.get?_passTo time _ name

/-- Ticks up to a time and then up to a later one are those up to the later one. -/
lemma runTo_runTo (t : Timeline) {time later : Nat} (h : time ≤ later) :
    (t.runTo time).runTo later = t.runTo later := by
  cases hdue : t.anyDue time with
  | false => rw [runTo_of_not_due hdue]
  | true =>
      have hlater := anyDue_mono h hdue
      have hempty : (t.runTo time).cache = t.cache.map fun _ => .empty := by
        rw [runTo_cache, if_pos hdue]
      have hagrees : (t.runTo later).Agrees ((t.runTo time).runTo later) := by
        refine ⟨?_, ?_, Dict.ext_get? fun name => ?_⟩
        · simp
        · rw [runTo_cache, hempty, runTo_cache, if_pos hlater, Option.map_map]
          split <;> rfl
        · rw [get?_runTo, get?_runTo, get?_runTo, runTo_cache_isSome]
          rcases t.reapers.get? name with _ | _ | r
          · rfl
          · rfl
          · simp [afterTick_afterTick _ h]
      refine hagrees.eq ?_
      show (tickAll _ _ _).notices = (tickAll _ _ _).notices
      rw [tickAll_notices, hempty, clearNotices_cleared, tickAll_notices, if_pos hlater]
      show (tickAll _ _ _).notices ++ _ = _
      rw [tickAll_notices, if_pos hdue]
      simp

/-- **A sleep is a passage of time** in which every tick happens on time. -/
theorem sleep_eq (t : Timeline) (duration : Nat) :
    t.sleep duration
      = t.passTo (t.now + min duration longestWait)
        (·.onTime (t.now + min duration longestWait)) := by
  by_cases hd : duration = 0
  · subst hd
    exact t.settle_eq
  · have hstop : t.now + min duration longestWait = t.lastTickTime duration + 1 := by
      rw [← wait_now, wait_of_ne_zero t hd]
    have hticks := t.runTo_runTo (Nat.le_add_right (t.lastTickTime duration) 1)
    rw [sleep, wait_of_ne_zero t hd, hstop]
    calc
      _ = passTo { t.runTo (t.lastTickTime duration) with now := t.lastTickTime duration + 1 }
            (t.lastTickTime duration + 1) (·.onTime (t.lastTickTime duration + 1)) :=
          tickAll_eq_passTo _ _
      _ = (t.runTo (t.lastTickTime duration)).passTo (t.lastTickTime duration + 1)
            (·.onTime (t.lastTickTime duration + 1)) := passTo_moved _ _ _ _
      _ = t.passTo (t.lastTickTime duration + 1) (·.onTime (t.lastTickTime duration + 1)) :=
          congrArg (fun later : Timeline => { later with now := t.lastTickTime duration + 1 }) hticks

/-! ## Which reapers run -/

section Running

variable {t : Timeline} {name : String} {r' : Reaper}

/-- A reaper that runs after some time ran before, and has ticked if it was due. -/
lemma running_passTo {time : Nat} {tick : Reaper → Reaper}
    (h : (t.passTo time tick).reapers.get? name = some (some r')) :
    ∃ r, t.reapers.get? name = some (some r) ∧
      ((r.isDue time = true ∧ r' = tick r) ∨ (r.isDue time = false ∧ r' = r)) := by
  rw [get?_passTo] at h
  obtain ⟨old, hold, hafter⟩ := Option.map_eq_some_iff.1 h
  obtain ⟨r, rfl, hticked⟩ := Option.bind_eq_some_iff.1 hafter
  refine ⟨r, hold, ?_⟩
  unfold afterTick at hticked
  split at hticked
  case isTrue hdue =>
    split at hticked
    · exact .inl ⟨hdue, (Option.some.inj hticked).symm⟩
    · cases hticked
  case isFalse hdue =>
    exact .inr ⟨by simpa using hdue, (Option.some.inj hticked).symm⟩

/-- A reaper that runs after one was started is the new one or ran before. -/
lemma running_spawn {other : String} {interval : Nat}
    (h : (t.spawn name interval).reapers.get? other = some (some r')) :
    (∃ hpos, r' = ⟨interval, t.now + interval, hpos⟩) ∨
      t.reapers.get? other = some (some r') := by
  simp only [spawn, Dict.get?_insert] at h
  split at h
  · unfold Reaper.spawn? at h
    split at h
    case isTrue hpos => exact .inl ⟨hpos, (Option.some.inj (Option.some.inj h)).symm⟩
    case isFalse => cases h
  · exact .inr h

lemma running_stop {other : String}
    (h : (t.stop name).reapers.get? other = some (some r')) :
    t.reapers.get? other = some (some r') := by
  simp only [stop, Dict.get?_modify] at h
  split at h
  · cases hold : t.reapers.get? other <;> simp [hold] at h
  · exact h

lemma running_dropReaper {other : String}
    (h : (t.dropReaper name).reapers.get? other = some (some r')) :
    t.reapers.get? other = some (some r') := by
  simp only [dropReaper, Dict.get?_erase] at h
  split at h
  · cases h
  · exact h

end Running

/-! ## When nothing is due -/

lemma anyDue_eq_false {t : Timeline} {time : Nat}
    (h : ∀ name r, t.reapers.get? name = some (some r) → r.isDue time = false) :
    t.anyDue time = false := by
  refine List.any_eq_false.2 fun ⟨name, r⟩ hmem => ?_
  have hget := (t.reapers.mem_entries_iff name r).1 hmem
  cases r with
  | none => simp
  | some r => simpa using h name r hget

/-- After the ticks that are due, none is due any more. -/
theorem anyDue_settle (t : Timeline) : t.settle.anyDue t.settle.now = false := by
  rw [t.settle_eq, passTo_now]
  refine anyDue_eq_false fun name r' hr' => ?_
  obtain ⟨r, -, ⟨-, rfl⟩ | ⟨hdue, rfl⟩⟩ := running_passTo hr'
  · simpa [Reaper.isDue] using r.lt_deadline_onTime t.now
  · exact hdue

lemma anyDue_stop {t : Timeline} (name : String) {time : Nat} (h : t.anyDue time = false) :
    (t.stop name).anyDue time = false :=
  anyDue_eq_false fun _ _ hr => isDue_of_anyDue_eq_false h (running_stop hr)

end ClusterBroker.Timeline
