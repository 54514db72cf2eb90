import ClusterBroker.Proofs.Cache.Steadiness
import ClusterBroker.Proofs.Provider.Chronicle
import Mathlib.Data.Finset.Card
import Mathlib.Data.List.DropRight

/-!
# What a cache holds, and what its clears account for

What can be found in a cache, how much there is in it and what was noted about its clears are all
functions of its chronicle: of the instances that were put and of the clears in between, whoever
cleared.

**Keys.**  By `Cache.size_eq_card` a cache has as many instances as keys, and by `Cache.keySet_put`
putting an instance adds its key.

**Reading a chronicle.**  `sinceClear` are the instances put since the last clear, and `clearCounts`
says of each clear how many keys were put since the one before.  **`Cache.get?_replay_eq_find?`** and
**`Cache.size_replay`** read a replayed cache off the former.

**Chronicles of timelines.**  `Timeline.chronicle` has one clear for each tick of each reaper.  By
`Timeline.Accounts.run` cache and notices are what it says.

**Conservation.**  By `Timeline.balance_run` whatever comes into the cache is in it still or was
counted by a notice.
-/

namespace ClusterBroker

/-! ## Keys -/

namespace Cache

/-- The keys of a cache. -/
def keySet (c : Cache) : Finset CacheKey :=
  (c.instances.map Instance.cacheKey).toFinset

lemma mem_keySet {c : Cache} {key : CacheKey} : key ∈ c.keySet ↔ (c.get? key).isSome = true := by
  simp [keySet, get?, List.find?_isSome]

/-- **There are as many instances as keys.** -/
theorem size_eq_card (c : Cache) : c.size = c.keySet.card := by
  rw [keySet, List.toFinset_card_of_nodup c.distinct, List.length_map, size]

lemma keySet_put (c : Cache) (i : Instance) : (c.put i).keySet = insert i.cacheKey c.keySet := by
  ext key
  rw [mem_keySet, get?_put, Finset.mem_insert, mem_keySet]
  split
  case isTrue h => simp [h]
  case isFalse h => simp [Ne.symm h]

/-- There is one instance more after one is put under a key where none was. -/
lemma size_put (c : Cache) (i : Instance) :
    (c.put i).size = c.size + if (c.get? i.cacheKey).isNone then 1 else 0 := by
  rw [size_eq_card, keySet_put, size_eq_card]
  have hmem : i.cacheKey ∈ c.keySet ↔ (c.get? i.cacheKey).isSome = true := mem_keySet
  cases hget : c.get? i.cacheKey with
  | none =>
      have hnew : i.cacheKey ∉ c.keySet := by simp [hmem, hget]
      rw [Finset.card_insert_of_notMem hnew]
      rfl
  | some j =>
      have hold : i.cacheKey ∈ c.keySet := by simp [hmem, hget]
      rw [Finset.insert_eq_of_mem hold]
      rfl

lemma isEmpty_iff_size {c : Cache} : c.isEmpty = true ↔ c.size = 0 := by
  rw [isEmpty, size, List.isEmpty_iff, List.length_eq_zero_iff]

end Cache

/-! ## Reading a chronicle -/

namespace Mark

/-- Whether an entry is a clear. -/
def isCleared : Mark → Bool
  | cleared => true
  | _ => false

/-- The instance that an entry is about. -/
def stored? : Mark → Option Instance
  | stored i => some i
  | _ => none

end Mark

/-- The instances put since the last clear of a chronicle, in their order. -/
def sinceClear (marks : List Mark) : List Instance :=
  (marks.rtakeWhile fun m => !m.isCleared).filterMap Mark.stored?

/-- How many keys some instances have. -/
def keyCount (instances : List Instance) : Nat :=
  (instances.map Instance.cacheKey).toFinset.card

/-- For each clear of a chronicle, how many keys were put since the one before.  The chronicle goes
on from an earlier one. -/
def clearCounts (earlier : List Mark) : List Mark → List Nat
  | [] => []
  | m :: rest =>
    (if m.isCleared then [keyCount (sinceClear earlier)] else []) ++
      clearCounts (earlier ++ [m]) rest

section Reading

variable (marks : List Mark) (i : Instance)

@[simp] lemma sinceClear_cleared : sinceClear (marks ++ [.cleared]) = [] := by
  rw [sinceClear, List.rtakeWhile_concat_neg _ _ _ (by simp [Mark.isCleared])]
  rfl

@[simp] lemma sinceClear_stored : sinceClear (marks ++ [.stored i]) = sinceClear marks ++ [i] := by
  rw [sinceClear, List.rtakeWhile_concat_pos _ _ _ (by simp [Mark.isCleared]),
    List.filterMap_append]
  rfl

@[simp] lemma sinceClear_exchanged (e : Exchange) :
    sinceClear (marks ++ [.exchanged e]) = sinceClear marks := by
  rw [sinceClear, List.rtakeWhile_concat_pos _ _ _ (by simp [Mark.isCleared]),
    List.filterMap_append]
  exact List.append_nil _

lemma clearCounts_append (earlier more : List Mark) :
    clearCounts earlier (marks ++ more)
      = clearCounts earlier marks ++ clearCounts (earlier ++ marks) more := by
  induction marks generalizing earlier with
  | nil => simp [clearCounts]
  | cons m rest ih => simp [clearCounts, ih]

/-- Of clears in a row, only the first one finds anything. -/
lemma clearCounts_replicate (earlier : List Mark) (count : Nat) :
    clearCounts earlier (List.replicate (count + 1) .cleared)
      = keyCount (sinceClear earlier) :: List.replicate count 0 := by
  induction count generalizing earlier with
  | zero => rfl
  | succ count ih =>
      rw [List.replicate_succ, clearCounts, ih, sinceClear_cleared]
      rfl

end Reading

namespace Cache

lemma replay_concat (c : Cache) (marks : List Mark) (m : Mark) :
    c.replay (marks ++ [m]) = (c.replay marks).remember m :=
  c.replay_append marks [m]

/-- **The last instance put under a key since the last clear is found there**, and none if there is
none. -/
theorem get?_replay_eq_find? (marks : List Mark) (key : CacheKey) :
    (empty.replay marks).get? key
      = (sinceClear marks).reverse.find? fun i => i.cacheKey = key := by
  induction marks using List.reverseRecOn with
  | nil => rfl
  | append_singleton marks m ih =>
      rw [replay_concat]
      cases m with
      | exchanged e => rw [sinceClear_exchanged, remember, ih]
      | cleared => rw [sinceClear_cleared, remember, get?_empty, List.reverse_nil, List.find?_nil]
      | stored i =>
          rw [sinceClear_stored, remember, get?_put, ih, List.reverse_concat, List.find?_cons]
          split <;> simp_all

/-- **There are as many instances as keys were put since the last clear.** -/
theorem size_replay (marks : List Mark) :
    (empty.replay marks).size = keyCount (sinceClear marks) := by
  rw [size_eq_card, keyCount]
  congr 1
  ext key
  rw [mem_keySet, get?_replay_eq_find?]
  simp [List.find?_isSome]

end Cache

/-! ## Chronicles of timelines -/

namespace Timeline

/-- The clears by reapers in a step, one for each tick of each of them. -/
def tickClears (t : Timeline) (step : Step) : List Mark :=
  t.reapers.entries.flatMap fun e => e.2.elim [] fun r => (t.ticksIn r step).map fun _ => .cleared

/-- The chronicle of a step.  What a caller clears and what a tick clears is the same to a cache. -/
def Step.chronicle (t : Timeline) : Step → List Mark
  | .put i => [.stored i]
  | .clear => [.cleared]
  | step => t.tickClears step

/-- The chronicle of some steps. -/
def chronicle (t : Timeline) : List Step → List Mark
  | [] => []
  | step :: steps => step.chronicle t ++ (t.apply step).chronicle steps

section Ticks

variable {t : Timeline} {step : Step}

lemma tickClears_eq_replicate (t : Timeline) (step : Step) :
    t.tickClears step = List.replicate (t.tickClears step).length .cleared := by
  refine List.eq_replicate_of_mem fun m hm => ?_
  obtain ⟨⟨name, running⟩, -, hm⟩ := List.mem_flatMap.1 hm
  cases running with
  | none => cases hm
  | some r =>
      obtain ⟨time, -, rfl⟩ := List.mem_map.1 hm
      rfl

lemma tickClears_eq_nil : t.tickClears step = [] ↔ t.QuietIn step := by
  rw [tickClears, List.flatMap_eq_nil_iff]
  constructor
  · intro h name r hr
    exact List.map_eq_nil_iff.1 (h _ ((t.reapers.mem_entries_iff name (some r)).2 hr))
  · rintro h ⟨name, running⟩ hmem
    cases running with
    | none => rfl
    | some r =>
        exact List.map_eq_nil_iff.2 (h name r ((t.reapers.mem_entries_iff name (some r)).1 hmem))

/-- No reaper ticks in a step that takes no time. -/
lemma tickClears_of_idle (h : step.takesTime = false) : t.tickClears step = [] := by
  rw [tickClears_eq_nil]
  intro name r _
  cases step with
  | sleep | jump => simp [Step.takesTime] at h
  | _ => simp [ticksIn, Step.tickTimes]

/-- Reapers tick in a sleep just when one of them is due by its end. -/
lemma tickClears_sleep (duration : Nat) :
    t.tickClears (.sleep duration) = []
      ↔ t.anyDue (t.now + min duration longestWait) = false := by
  rw [tickClears_eq_nil, anyDue_eq_false_iff]
  refine forall₃_congr fun name r _ => ⟨fun h => ?_, fun h => ?_⟩
  · exact isDue_eq_false_of_timesUpTo (tickTimes_eq_nil h)
  · simp [ticksIn, Step.tickTimes, Reaper.timesUpTo_of_not_due h]

lemma tickClears_jump (duration : Nat) :
    t.tickClears (.jump duration) = [] ↔ t.anyDue (t.now + duration) = false := by
  rw [tickClears_eq_nil, anyDue_eq_false_iff]
  refine forall₃_congr fun name r _ => ⟨fun h => ?_, fun h => ?_⟩
  · exact isDue_eq_false_of_timesOnWaking (tickTimes_eq_nil h)
  · simp [ticksIn, Step.tickTimes, Reaper.timesOnWaking_of_not_due h]

end Ticks

/-- A chronicle accounts for a timeline: the cache holds what it says, and each clear was noted that
found something, with the number of keys put since the one before. -/
structure Accounts (marks : List Mark) (t : Timeline) : Prop where
  cache : t.cache = some (Cache.empty.replay marks)
  notices : t.notices = ((clearCounts [] marks).filter (· ≠ 0)).map .cleared

namespace Accounts

variable {marks : List Mark} {t t' : Timeline}

lemma start : Accounts [] Timeline.start :=
  ⟨rfl, rfl⟩

/-- A step that neither puts nor clears anything. -/
lemma of_same (h : Accounts marks t) {more : List Mark} (hmore : more = [])
    (hcache : t'.cache = t.cache) (hnotices : t'.notices = t.notices) :
    Accounts (marks ++ more) t' := by
  rw [hmore, List.append_nil]
  exact ⟨hcache.trans h.cache, hnotices.trans h.notices⟩

lemma put (h : Accounts marks t) (i : Instance) : Accounts (marks ++ [.stored i]) (t.put i) where
  cache := by
    rw [Cache.replay_concat]
    exact congrArg (Option.map (·.put i)) h.cache
  notices := by
    rw [clearCounts_append]
    simpa [clearCounts, Mark.isCleared, Timeline.put] using h.notices

/-- What a clear notes of a cache that a chronicle accounts for. -/
lemma clearNotices_eq (h : Accounts marks t) (more : Nat) :
    clearNotices t.cache
      = ((clearCounts marks (List.replicate (more + 1) .cleared)).filter (· ≠ 0)).map .cleared := by
  rw [h.cache, clearCounts_replicate, ← Cache.size_replay, clearNotices]
  by_cases hempty : (Cache.empty.replay marks).size = 0
  · rw [if_pos (Cache.isEmpty_iff_size.2 hempty)]
    simp [hempty]
  · rw [if_neg (mt Cache.isEmpty_iff_size.1 hempty)]
    simp [hempty]

/-- After some clears in a row nothing is left, and the first of them was noted. -/
lemma clears (h : Accounts marks t) (more : Nat)
    (hcache : t'.cache = t.cache.map fun _ => .empty)
    (hnotices : t'.notices = t.notices ++ clearNotices t.cache) :
    Accounts (marks ++ List.replicate (more + 1) .cleared) t' where
  cache := by
    rw [hcache, h.cache, List.replicate_succ', ← List.append_assoc, Cache.replay_concat]
    rfl
  notices := by
    rw [hnotices, h.notices, h.clearNotices_eq more, clearCounts_append, List.filter_append,
      List.map_append, List.nil_append]

/-- In the passage of time, all ticks together clear the cache once. -/
lemma passTo (h : Accounts marks t) {step : Step} {time : Nat} (tick : Reaper → Reaper)
    (hticks : t.tickClears step = [] ↔ t.anyDue time = false) :
    Accounts (marks ++ t.tickClears step) (t.passTo time tick) := by
  rcases t.passTo_cases time tick with ⟨hdue, hcache, hnotices⟩ | ⟨hdue, hcache, hnotices⟩
  · exact h.of_same (hticks.2 hdue) hcache hnotices
  · have hsome : t.tickClears step ≠ [] := fun hnone => by simp [hticks.1 hnone] at hdue
    obtain ⟨more, hmore⟩ := Nat.exists_eq_succ_of_ne_zero (mt List.length_eq_zero_iff.1 hsome)
    rw [tickClears_eq_replicate, hmore]
    exact h.clears more hcache hnotices

/-- **Every step is accounted for**, but for dropping the cache. -/
theorem apply (h : Accounts marks t) {step : Step} (hkept : step ≠ .dropCache) :
    Accounts (marks ++ step.chronicle t) (t.apply step) := by
  cases step with
  | dropCache => exact absurd rfl hkept
  | put i => exact h.put i
  | clear => exact h.clears 0 t.clear_cache t.clear_notices
  | spawn | stop | dropReaper => exact h.of_same (tickClears_of_idle rfl) rfl rfl
  | sleep duration =>
      rw [Timeline.apply, sleep_eq]
      exact h.passTo _ (tickClears_sleep duration)
  | jump duration =>
      rw [Timeline.apply, jump_eq]
      exact h.passTo _ (tickClears_jump duration)

/-- **Every run is accounted for** in which the cache is not dropped. -/
theorem run (h : Accounts marks t) {steps : List Step} (hkept : ∀ step ∈ steps, step ≠ .dropCache) :
    Accounts (marks ++ t.chronicle steps) (t.run steps) := by
  induction steps generalizing marks t with
  | nil => exact h.of_same rfl rfl rfl
  | cons step steps ih =>
      obtain ⟨hstep, hrest⟩ := List.forall_mem_cons.1 hkept
      rw [chronicle, ← List.append_assoc]
      exact ih (h.apply hstep) hrest

end Accounts

end Timeline

/-! ## Conservation -/

/-- How many instances some notices say were cleared. -/
def Notice.clearedTotal : List Notice → Nat
  | [] => 0
  | .cleared count :: rest => count + clearedTotal rest
  | _ :: rest => clearedTotal rest

lemma Notice.clearedTotal_append (ns more : List Notice) :
    clearedTotal (ns ++ more) = clearedTotal ns + clearedTotal more := by
  fun_induction clearedTotal ns with
  | case1 => simp
  | case2 count rest ih => simp [clearedTotal, ih, Nat.add_assoc]
  | case3 n rest hn ih =>
      rw [List.cons_append, clearedTotal, ih]
      exact hn

namespace Timeline

/-- Whether a step puts an instance under a key where none is. -/
def Step.adds (t : Timeline) : Step → Bool
  | .put i => (t.get? i.cacheKey).isNone
  | _ => false

/-- How many of some steps put an instance under a key where none was at that time. -/
def additions (t : Timeline) : List Step → Nat
  | [] => 0
  | step :: steps => (if step.adds t then 1 else 0) + (t.apply step).additions steps

/-- How many instances have come into the cache by now: those in it, and those that notices say were
cleared. -/
def balance (t : Timeline) : Nat :=
  Notice.clearedTotal t.notices + t.cache.elim 0 Cache.size

section Balance

variable {t t' : Timeline}

/-- A clear notes as many instances as there were. -/
lemma clearedTotal_clearNotices (cache : Option Cache) :
    Notice.clearedTotal (clearNotices cache) = cache.elim 0 Cache.size := by
  cases cache with
  | none => rfl
  | some c =>
      rw [clearNotices]
      split
      case isTrue hempty => exact (Cache.isEmpty_iff_size.1 hempty).symm
      case isFalse => exact Nat.add_zero _

lemma balance_of_cleared (hcache : t'.cache = t.cache.map fun _ => .empty)
    (hnotices : t'.notices = t.notices ++ clearNotices t.cache) : t'.balance = t.balance := by
  have hleft : t'.cache.elim 0 Cache.size = 0 := by
    rw [hcache]
    cases t.cache <;> rfl
  rw [balance, hleft, hnotices, Notice.clearedTotal_append, clearedTotal_clearNotices]
  rfl

lemma balance_passTo (t : Timeline) (time : Nat) (tick : Reaper → Reaper) :
    (t.passTo time tick).balance = t.balance := by
  rcases t.passTo_cases time tick with ⟨-, hcache, hnotices⟩ | ⟨-, hcache, hnotices⟩
  · rw [balance, hcache, hnotices]
    rfl
  · exact balance_of_cleared hcache hnotices

/-- **A step adds to the balance what it puts under a key where nothing is**, and takes nothing away,
unless it drops the cache. -/
theorem balance_apply {c : Cache} (hc : t.cache = some c) {step : Step}
    (hkept : step ≠ .dropCache) :
    (t.apply step).balance = t.balance + if step.adds t then 1 else 0 := by
  cases step with
  | dropCache => exact absurd rfl hkept
  | put i =>
      have hget : t.get? i.cacheKey = c.get? i.cacheKey := by
        rw [get?, hc]
        rfl
      have hcache : (t.put i).cache = some (c.put i) := by
        rw [put, hc]
        rfl
      rw [Timeline.apply, balance, hcache, balance, hc, Step.adds, hget, Option.elim_some,
        Option.elim_some, Cache.size_put]
      exact (Nat.add_assoc _ _ _).symm
  | clear => exact balance_of_cleared t.clear_cache t.clear_notices
  | spawn | stop | dropReaper => rfl
  | sleep duration =>
      rw [Timeline.apply, sleep_eq]
      exact t.balance_passTo _ _
  | jump duration =>
      rw [Timeline.apply, jump_eq]
      exact t.balance_passTo _ _

/-- **Nothing gets lost in a run**, unless the cache is dropped. -/
theorem balance_run {marks : List Mark} (h : Accounts marks t) {steps : List Step}
    (hkept : ∀ step ∈ steps, step ≠ .dropCache) :
    (t.run steps).balance = t.balance + t.additions steps := by
  induction steps generalizing marks t with
  | nil => rfl
  | cons step steps ih =>
      obtain ⟨hstep, hrest⟩ := List.forall_mem_cons.1 hkept
      have hlater : ((t.apply step).run steps).balance = _ := ih (h.apply hstep) hrest
      rw [balance_apply h.cache hstep] at hlater
      rw [additions, ← Nat.add_assoc]
      exact hlater

end Balance

/-! ## Accounts -/

/-- What is in a cache after some steps, and what was noted about its clears.

* `found`: under a name and the identifier of a plan, the last instance that was put with just these
  since the last clear; none if there is none.
* `counted`: as many instances as there are such pairs.
* `empty_iff`: the cache is empty if these are none.
* `noted`: each clear was noted once, with just the number of pairs that were put since the one
  before, unless that is zero.
* `conserved`: the numbers noted and that of the instances left are together the number of times that
  an instance was put under a key where none was. -/
structure Accounted (steps : List Step) (c : Cache) : Prop where
  found : ∀ name planId : String,
    c.get? ⟨name, planId⟩ = (sinceClear (start.chronicle steps)).reverse.find? fun i =>
      i.name = name ∧ i.plan.id = planId
  counted : c.size = keyCount (sinceClear (start.chronicle steps))
  empty_iff : c.isEmpty = true ↔ c.size = 0
  noted : (start.run steps).notices
    = ((clearCounts [] (start.chronicle steps)).filter (· ≠ 0)).map .cleared
  conserved : Notice.clearedTotal (start.run steps).notices + c.size = start.additions steps

/-- **A cache can be accounted for after any steps** in which it is not dropped, whoever cleared it
and whatever names and identifiers the instances had. -/
theorem cache_accounted {steps : List Step} (hkept : .dropCache ∉ steps) :
    ∃ c, (start.run steps).cache = some c ∧ Accounted steps c := by
  have hsteps : ∀ step ∈ steps, step ≠ .dropCache := fun step hstep hdrop => hkept (hdrop ▸ hstep)
  obtain ⟨hcache, hnotices⟩ := Accounts.start.run hsteps
  rw [List.nil_append] at hcache hnotices
  refine ⟨_, hcache, fun name planId => ?found, Cache.size_replay _, Cache.isEmpty_iff_size,
    hnotices, ?conserved⟩
  case found =>
    rw [Cache.get?_replay_eq_find?]
    simp [Instance.cacheKey]
  case conserved =>
    have hbalance := balance_run Accounts.start hsteps
    rw [balance, hcache] at hbalance
    exact hbalance.trans (Nat.zero_add _)

/-- An instance of which only the name and the identifier of the plan matter. -/
def bare (name planId : String) : Instance :=
  .fresh name ⟨planId, .elasticsearch, "https", ⟨""⟩⟩ ⟨.creating, false⟩

/-- Instances whose names and identifiers read the same in a row, ticks of two reapers, an instance put
twice, and a clear. -/
def crowded : List Step :=
  [.spawn "quick" 3, .spawn "slow" 4, .put (bare "db" "-1"), .put (bare "db-" "1"), .sleep 12,
    .put (bare "db" "-1"), .put (bare "db" "-1"), .clear, .put (bare "db-" "1")]

/-- The first of seven ticks is noted, and the clear by hand; one instance is left of four. -/
theorem crowded_accounted :
    .dropCache ∉ crowded ∧
    ∃ c, (start.run crowded).cache = some c ∧ Accounted crowded c ∧
      (start.run crowded).notices = [.cleared 2, .cleared 1] ∧ c.size = 1 ∧
      c.get? ⟨"db", "-1"⟩ = none ∧ c.get? ⟨"db-", "1"⟩ = some (bare "db-" "1") := by
  have hkept : .dropCache ∉ crowded := by decide
  obtain ⟨c, hc, haccounted⟩ := cache_accounted hkept
  have hleft : sinceClear (start.chronicle crowded) = [bare "db-" "1"] := rfl
  refine ⟨hkept, c, hc, haccounted, rfl, ?_, ?_, ?_⟩
  · rw [haccounted.counted, hleft]
    rfl
  · rw [haccounted.found, hleft]
    rfl
  · rw [haccounted.found, hleft]
    rfl

end Timeline

end ClusterBroker
