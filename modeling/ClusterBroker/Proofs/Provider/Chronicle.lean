import ClusterBroker.ControlPlane.Rehearsal
import ClusterBroker.Proofs.Cache.Schedule
import ClusterBroker.Proofs.Provider.Script

/-!
# The chronicle of a run

A world remembers its exchanges and its notices, but not when an instance went into the cache or
when the ticks cleared it.  The chronicle of a run lists all three in the order in which they
happened, also where ticks fall in the middle of an operation.

**Runs.**  `Event` is an operation, a sleep or a shutdown; `Provider.play` plays events in order.

**Chronicles.**  `Mark` is one entry; `Script.chronicle`, `Event.chronicle` and
`Provider.chronicle` are the chronicles of scripts, events and runs.

**Replays.**  `Cache.replay` is a cache after everything that a chronicle says.
`Cache.get?_replay` reads the chronicle instead: an instance is found exactly if it was the last one
put under its key since the last clear.
-/

namespace ClusterBroker

open Domain (Request)

variable {σ : Type}

/-! ## Runs -/

/-- What happens to a provider from outside. -/
inductive Event where
  | operation (o : Operation)
  | sleep (duration : Nat)
  | shutdown
  deriving DecidableEq

/-- The world after an event. -/
def Event.play (p : Provider σ) : Event → World σ → World σ
  | operation o, w => (o.run p w).2
  | sleep duration, w => w.sleep duration
  | shutdown, w => w.shutdown

/-- The world after events, one after the other. -/
def Provider.play (p : Provider σ) (events : List Event) (w : World σ) : World σ :=
  events.foldl (fun w e => e.play p w) w

lemma Provider.play_append (p : Provider σ) (before after : List Event) (w : World σ) :
    p.play (before ++ after) w = p.play after (p.play before w) :=
  List.foldl_append

/-- A provider that rehearses, with the usual tuning. -/
def Rehearsal.provider : Provider Rehearsal where
  environment := .bare "eu-west-1" "123456789012"
  tuning := .standard "db"
  plane := plane
  tokens := UInt32.ofNat

/-- A plan for rehearsals, which leaves all settings to the service. -/
def Rehearsal.plan : Plan :=
  ⟨"small", .elasticsearch, "https", ⟨"\x7b\x7d"⟩⟩

/-- The request for the first cluster of a rehearsal. -/
def Rehearsal.request : Request :=
  .make provider.environment .empty (.generated "db" 0)

/-- The first cluster as the first answer about it says. -/
def Rehearsal.made : Instance :=
  Provider.toInstance "i-1" plan (newReport request)

/-! ## Chronicles -/

/-- An entry of a chronicle: an exchange with the control plane, an instance put into the cache, or a
clear of it, for instance by ticks that were due. -/
inductive Mark where
  | exchanged (e : Exchange)
  | stored (i : Instance)
  | cleared

/-- The exchange of an entry. -/
def Mark.exchange? : Mark → Option Exchange
  | exchanged e => some e
  | _ => none

namespace Timeline

/-- The entry for the ticks up to a time, if there are any. -/
def tickMarks (t : Timeline) (time : Nat) : List Mark :=
  if t.anyDue time then [.cleared] else []

/-- The entry for the ticks during a wait. -/
def waitMarks (t : Timeline) (duration : Nat) : List Mark :=
  if duration = 0 then [] else t.tickMarks (t.lastTickTime duration)

/-- The entry for the ticks that are due now. -/
def settleMarks (t : Timeline) : List Mark :=
  t.tickMarks t.now

lemma eq_cleared_of_mem_tickMarks {t : Timeline} {time : Nat} {m : Mark}
    (h : m ∈ t.tickMarks time) : m = .cleared := by
  unfold tickMarks at h
  split at h
  · exact List.mem_singleton.1 h
  · simp at h

lemma eq_cleared_of_mem_waitMarks {t : Timeline} {duration : Nat} {m : Mark}
    (h : m ∈ t.waitMarks duration) : m = .cleared := by
  unfold waitMarks at h
  split at h
  · simp at h
  · exact eq_cleared_of_mem_tickMarks h

end Timeline

/-- The entries for a call and the wait for its answer. -/
def Provider.callMarks (p : Provider σ) (c : Call) (w : World σ) : List Mark :=
  w.timeline.waitMarks (p.reply c w).latency ++ [.exchanged (p.exchange c w)]

/-- The chronicle of a script. -/
def Script.chronicle (p : Provider σ) : Script → World σ → List Mark
  | finish _, _ => []
  | note ns rest, w => rest.chronicle p (w.noteAll ns)
  | draw rest, w => (rest (p.tokens w.drawn)).chronicle p w.drawOne
  | look key rest, w => (rest (w.timeline.get? key)).chronicle p w
  | call c rest, w =>
    p.callMarks c w ++ (rest (p.reply c w).outcome).chronicle p (p.afterCall c w)
  | store i rest, w => .stored i :: rest.chronicle p (w.store i)
  | wait duration rest, w =>
    w.timeline.waitMarks duration ++ rest.chronicle p (w.wait duration)

/-- The chronicle of an operation and of the ticks that are due at its end. -/
def Operation.chronicle (o : Operation) (p : Provider σ) (w : World σ) : List Mark :=
  (o.script p).chronicle p w ++ (o.perform p w).2.timeline.settleMarks

/-- The chronicle of an event. -/
def Event.chronicle (p : Provider σ) : Event → World σ → List Mark
  | operation o, w => o.chronicle p w
  | sleep duration, w =>
    w.timeline.waitMarks duration ++ (w.timeline.wait duration).settleMarks
  | shutdown, _ => []

/-- The chronicle of a run. -/
def Provider.chronicle (p : Provider σ) : List Event → World σ → List Mark
  | [], _ => []
  | e :: rest, w => e.chronicle p w ++ p.chronicle rest (e.play p w)

lemma Provider.chronicle_append (p : Provider σ) (before after : List Event) (w : World σ) :
    p.chronicle (before ++ after) w
      = p.chronicle before w ++ p.chronicle after (p.play before w) := by
  induction before generalizing w with
  | nil => rfl
  | cons e rest ih => simp [chronicle, ih, play]

/-- An entry of two lists put together is one of either. -/
lemma append_eq_append_cons {α : Type} {front back before since : List α} {entry : α}
    (h : front ++ back = before ++ entry :: since) :
    (∃ rest, front = before ++ entry :: rest ∧ since = rest ++ back) ∨
      ∃ rest, before = front ++ rest ∧ back = rest ++ entry :: since := by
  rcases List.append_eq_append_iff.1 h with hright | ⟨rest, hfront, hrest⟩
  · exact .inr hright
  · cases rest with
    | nil => exact .inr ⟨[], by simpa using hfront.symm, by simpa using hrest.symm⟩
    | cons first rest =>
        obtain ⟨rfl, rfl⟩ := List.cons.inj hrest
        exact .inl ⟨rest, hfront, rfl⟩

/-! ## Replaying a chronicle -/

namespace Cache

/-- What an entry of a chronicle does to a cache. -/
def remember (c : Cache) : Mark → Cache
  | .exchanged _ => c
  | .stored i => c.put i
  | .cleared => .empty

/-- A cache after everything that a chronicle says. -/
def replay (c : Cache) (marks : List Mark) : Cache :=
  marks.foldl remember c

lemma replay_append (c : Cache) (before after : List Mark) :
    c.replay (before ++ after) = (c.replay before).replay after :=
  List.foldl_append

end Cache

/-- Nothing in a chronicle touches a key: neither a clear nor an instance put under it. -/
structure Untouched (key : CacheKey) (marks : List Mark) : Prop where
  not_cleared : .cleared ∉ marks
  not_stored : ∀ i, .stored i ∈ marks → i.cacheKey ≠ key

/-- The last thing that a chronicle says about a key is that an instance was put under it. -/
def LastStored (key : CacheKey) (i : Instance) (marks : List Mark) : Prop :=
  ∃ before after, marks = before ++ .stored i :: after ∧ i.cacheKey = key ∧ Untouched key after

lemma untouched_nil (key : CacheKey) : Untouched key [] :=
  ⟨by simp, by simp⟩

lemma untouched_cons {key : CacheKey} {m : Mark} {marks : List Mark} :
    Untouched key (m :: marks) ↔ Untouched key [m] ∧ Untouched key marks := by
  constructor
  · rintro ⟨hc, hs⟩
    simp only [List.mem_cons, not_or] at hc
    exact ⟨⟨by simpa using hc.1, fun i hi => hs i (by simp_all)⟩,
      ⟨hc.2, fun i hi => hs i (List.mem_cons_of_mem _ hi)⟩⟩
  · rintro ⟨⟨hc, hs⟩, ⟨hc', hs'⟩⟩
    refine ⟨by simp_all, fun i hi => ?_⟩
    rcases List.mem_cons.1 hi with hi | hi
    · exact hs i (by simp [hi])
    · exact hs' i hi

lemma lastStored_cons {key : CacheKey} {i : Instance} {m : Mark} {marks : List Mark} :
    LastStored key i (m :: marks)
      ↔ LastStored key i marks ∨ (m = .stored i ∧ i.cacheKey = key ∧ Untouched key marks) := by
  constructor
  · rintro ⟨before, after, h, hkey, hafter⟩
    cases before with
    | nil =>
        obtain ⟨rfl, rfl⟩ := List.cons.inj h
        exact .inr ⟨rfl, hkey, hafter⟩
    | cons m' before =>
        obtain ⟨rfl, rfl⟩ := List.cons.inj h
        exact .inl ⟨before, after, rfl, hkey, hafter⟩
  · rintro (⟨before, after, rfl, hkey, hafter⟩ | ⟨rfl, hkey, hafter⟩)
    · exact ⟨m :: before, after, rfl, hkey, hafter⟩
    · exact ⟨[], marks, rfl, hkey, hafter⟩

/-- **What a replayed cache holds.**  An instance is found under a key exactly if it was the last
one put there since the last clear, or was there before and nothing touched its key. -/
theorem Cache.get?_replay (key : CacheKey) (i : Instance) (marks : List Mark) (c : Cache) :
    (c.replay marks).get? key = some i
      ↔ LastStored key i marks ∨ (c.get? key = some i ∧ Untouched key marks) := by
  induction marks generalizing c with
  | nil => simp [Cache.replay, LastStored, untouched_nil]
  | cons m rest ih =>
      show ((c.remember m).replay rest).get? key = some i ↔ _
      rw [ih, lastStored_cons, untouched_cons]
      cases m with
      | exchanged e =>
          have h : Untouched key [.exchanged e] := ⟨by simp, by simp⟩
          simp [Cache.remember, h]
      | cleared =>
          have h : ¬ Untouched key [.cleared] := fun h => h.not_cleared (by simp)
          simp [Cache.remember, h]
      | stored j =>
          by_cases hj : j.cacheKey = key
          · have h : ¬ Untouched key [.stored j] := fun h => h.not_stored j (by simp) hj
            simp only [Cache.remember, Cache.get?_put, hj, if_true, Option.some.injEq,
              Mark.stored.injEq, h, false_and, and_false, or_false]
            constructor
            · rintro (hl | ⟨rfl, hu⟩)
              · exact .inl hl
              · exact .inr ⟨rfl, hj, hu⟩
            · rintro (hl | ⟨rfl, -, hu⟩)
              · exact .inl hl
              · exact .inr ⟨rfl, hu⟩
          · have h : Untouched key [.stored j] := by
              refine ⟨by simp, fun k hk => ?_⟩
              obtain rfl : k = j := by simpa using hk
              exact hj
            have hne : ¬ (j = i ∧ i.cacheKey = key ∧ Untouched key rest) := by
              rintro ⟨rfl, hk, -⟩
              exact hj hk
            simp [Cache.remember, Cache.get?_put, hj, h, hne]

end ClusterBroker
