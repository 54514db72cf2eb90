import ClusterBroker.Proofs.Cache.Passage
import ClusterBroker.Proofs.Provider.Annals

/-!
# Reads make few calls

A read is served from the cache if it can be, and what it has to ask for it leaves in the cache.  So
as long as nothing is cleared, a second read of the same key makes no call, provided that the control
plane reports about the domain that it was asked for: the key of a read is the name asked for, that
of what is kept is the name reported.

**What a fetch leaves behind.**  By `Provider.lastStored_of_fetched`, some instance is found under the
key until the next clear, the last one put there.  Hence `Provider.cleared_between_fetches`: a second
fetch comes after a clear.

**What leaves the cache alone.**  `Operation.leavesCache_cases` says what operations that keep
nothing do to the world: they write notices, and make one call at most.

**Economy.**  **`Provider.reads_economical`** puts these together.
-/

namespace ClusterBroker

variable {σ : Type}

/-! ## What a fetch leaves behind -/

/-- Every report about a domain is about the one that was asked for. -/
def Truthful (exchanges : List Exchange) : Prop :=
  ∀ e ∈ exchanges, ∀ name report, e.call = .describe name → e.report? = some report →
    report.name = name

/-- Where nothing is cleared, a key is either left alone or has an instance put under it last. -/
lemma untouched_or_lastStored (key : CacheKey) {marks : List Mark} (h : .cleared ∉ marks) :
    Untouched key marks ∨ ∃ i, LastStored key i marks := by
  induction marks with
  | nil => exact .inl (untouched_nil key)
  | cons m marks ih =>
      simp only [List.mem_cons, not_or] at h
      rcases ih h.2 with hrest | ⟨i, hrest⟩
      · cases m with
        | cleared => exact absurd rfl h.1
        | exchanged e => exact .inl (untouched_cons.2 ⟨⟨by simp, by simp⟩, hrest⟩)
        | stored i =>
            by_cases hkey : i.cacheKey = key
            · exact .inr ⟨i, lastStored_cons.2 (.inr ⟨rfl, hkey, hrest⟩)⟩
            · exact .inl (untouched_cons.2 ⟨⟨by simp, by simp [hkey]⟩, hrest⟩)
      · exact .inr ⟨i, lastStored_cons.2 (.inl hrest)⟩

/-- An instance put under a key is the last one put there, or there is a later one. -/
lemma exists_lastStored {before since : List Mark} (i : Instance) (h : .cleared ∉ since) :
    ∃ j, LastStored i.cacheKey j (before ++ .stored i :: since) := by
  rcases untouched_or_lastStored i.cacheKey h with hrest | ⟨j, before', since', rfl, hrest⟩
  · exact ⟨i, before, since, rfl, rfl, hrest⟩
  · exact ⟨j, before ++ .stored i :: before', since', by simp, hrest⟩

/-- **After a fetch some instance is the last one put under the key**, until the next clear. -/
theorem Provider.lastStored_of_fetched (p : Provider σ) {events : List Event} {w : World σ}
    {key : CacheKey} {before since : List Entry} {entry : Entry}
    (htruthful : Truthful (p.play events w).exchanges)
    (h : p.annals events w = before ++ entry :: since) (hfetches : entry.fetches key = true)
    (hclear : ∀ later ∈ since, later.mark ≠ .cleared) :
    ∃ i, LastStored key i (p.chronicle events w) := by
  obtain ⟨plan, e, report, rfl, hid, hcall, hreport⟩ := Entry.fetches_iff.1 hfetches
  obtain ⟨earlier, later, front, back, rfl, hchronicle, -, rfl⟩ := Provider.annals_split h
  obtain ⟨-, -, -, hkept⟩ := Operation.getInstance_split p hchronicle
  obtain ⟨rest, rfl⟩ := hkept report hreport
  set after := p.play (earlier ++ [.operation (.getInstance key.name plan)]) w
  have hall : p.chronicle (earlier ++ .operation (.getInstance key.name plan) :: later) w
      = (p.chronicle earlier w ++ front ++ [.exchanged e])
        ++ .stored (toInstance "" plan report) :: (rest ++ p.chronicle later after) := by
    have hplay : after
        = Event.play p (.operation (.getInstance key.name plan)) (p.play earlier w) :=
      p.play_append earlier _ w
    rw [p.chronicle_append, chronicle, hchronicle, ← hplay]
    simp
  have hname : report.name = key.name := by
    refine htruthful e ?_ _ _ hcall hreport
    rw [(p.records_play _ w).exchanges, hall]
    simp [Mark.exchange?]
  have hkey : (toInstance "" plan report).cacheKey = key := by
    rw [Instance.cacheKey, toInstance, hname, hid]
  have hquiet : .cleared ∉ rest ++ p.chronicle later after := by
    intro hmem
    rw [← p.marks_annals] at hmem
    rcases List.mem_append.1 hmem with hrest | hlater
    · exact hclear ⟨_, .cleared⟩
        (List.mem_append_left _ (List.mem_map.2 ⟨_, List.mem_cons_of_mem _ hrest, rfl⟩)) rfl
    · obtain ⟨entry, hentry, hmark⟩ := List.mem_map.1 hlater
      exact hclear entry (List.mem_append_right _ hentry) hmark
  rw [hall, ← hkey]
  exact exists_lastStored _ hquiet

/-- The last instance put under a key is found under it. -/
lemma Provider.get?_of_lastStored {p : Provider σ} {events : List Event} {state : σ}
    {key : CacheKey} {i : Instance}
    (h : LastStored key i (p.chronicle events (p.start state))) :
    (p.play events (p.start state)).timeline.get? key = some i := by
  have hcache : (p.play events (p.start state)).timeline.cache
      = some (Cache.empty.replay (p.chronicle events (p.start state))) :=
    (p.records_play events (p.start state)).cache
  rw [Timeline.get?, hcache]
  exact (Cache.get?_replay key i _ _).2 (.inl h)

/-- Truth of a run is truth of every run that it goes on from. -/
lemma Provider.truthful_before {p : Provider σ} {earlier later : List Event} {w : World σ}
    (h : Truthful (p.play (earlier ++ later) w).exchanges) :
    Truthful (p.play earlier w).exchanges := by
  intro e he
  refine h e ?_
  rw [p.play_append, (p.records_play later _).exchanges]
  exact List.mem_append_left _ he

/-- **Between two fetches of a key something is cleared**: the later one found nothing. -/
theorem Provider.cleared_between_fetches {p : Provider σ} {events : List Event} {state : σ}
    {key : CacheKey} (htruthful : Truthful (p.play events (p.start state)).exchanges)
    {before between since : List Entry} {first second : Entry}
    (h : p.annals events (p.start state) = before ++ first :: (between ++ second :: since))
    (hfirst : first.fetches key = true) (hsecond : second.fetches key = true) :
    ∃ entry ∈ between, entry.mark = .cleared := by
  by_contra hnone
  have hnot : ∀ entry ∈ between, entry.mark ≠ .cleared :=
    fun entry hentry hmark => hnone ⟨entry, hentry, hmark⟩
  obtain ⟨plan, e, report, rfl, -⟩ := Entry.fetches_iff.1 hfirst
  obtain ⟨plan', e', report', rfl, hid, -⟩ := Entry.fetches_iff.1 hsecond
  rw [← List.cons_append, ← List.append_assoc] at h
  obtain ⟨earlier, later, front, back, rfl, hchronicle, hbefore, -⟩ := Provider.annals_split h
  obtain ⟨hmiss, halone, -, -⟩ := Operation.getInstance_split p hchronicle
  -- The first call was made before the event of the second one, in which there is no other.
  rcases append_eq_append_cons hbefore.symm with ⟨rest, hearlier, rfl⟩ | ⟨rest, -, hsame⟩
  · obtain ⟨i, hlast⟩ := p.lastStored_of_fetched (truthful_before htruthful) hearlier hfirst
      fun entry hentry => hnot entry (List.mem_append_left _ hentry)
    have hget := Provider.get?_of_lastStored hlast
    rw [show key = ⟨key.name, plan'.id⟩ by rw [hid], hmiss] at hget
    simp at hget
  · have hmem : (⟨.operation (.getInstance key.name plan), .exchanged e⟩ : Entry)
        ∈ front.map (Entry.mk (.operation (.getInstance key.name plan'))) := by
      rw [hsame]
      simp
    obtain ⟨m, hm, heq⟩ := List.mem_map.1 hmem
    obtain ⟨-, rfl⟩ := Entry.mk.inj heq
    exact halone e hm

/-! ## Reads -/

namespace Operation

/-- A read that finds an instance gives it, without a call. -/
lemma getInstance_hit (p : Provider σ) {name : String} {plan : Plan} {w : World σ}
    {found : Instance} (h : w.timeline.get? ⟨name, plan.id⟩ = some found) :
    ((getInstance name plan).run p w).1 = .ok (.found found) ∧
      ((getInstance name plan).run p w).2.exchanges = w.exchanges := by
  rw [run_eq_script]
  simp only [script, Script.getInstance, Script.run, h, true_and]
  rfl

/-- A read that finds nothing makes one call, for the name that is read. -/
lemma getInstance_asks (p : Provider σ) {name : String} {plan : Plan} {w : World σ}
    (h : w.timeline.get? ⟨name, plan.id⟩ = none) :
    ((getInstance name plan).run p w).2.exchanges
      = w.exchanges ++ [p.exchange (.describe name) w] := by
  rw [run_eq_script]
  simp only [script, Script.getInstance, Script.run, h, Script.describe, Script.request]
  cases (p.reply (.describe name) w).outcome <;> rfl

end Operation

/-! ## What leaves the cache alone -/

namespace World

lemma noteAll_nil (w : World σ) : w.noteAll [] = w := by
  simp [noteAll, Timeline.noteAll]

lemma noteAll_cons (w : World σ) (n : Notice) (ns : List Notice) :
    w.noteAll (n :: ns) = (w.noteAll [n]).noteAll ns := by
  simp [noteAll, Timeline.noteAll]

end World

namespace Operation

/-- Whether an operation keeps nothing in the cache: a read that finds what it looks for, and
whatever neither reads nor makes nor changes an instance. -/
def leavesCache (w : World σ) : Operation → Bool
  | getInstance name plan => (w.timeline.get? ⟨name, plan.id⟩).isSome
  | provision _ _ _ | modify _ _ => false
  | _ => true

/-- A script that makes one call and is done with it. -/
lemma request_finish_run (p : Provider σ) (c : Call) (refused : Refusal → Failure)
    (result : Except Failure Outcome) (w : World σ) :
    ((Script.request c refused fun _ => .finish result).run p w).2 = p.afterCall c w := by
  simp only [Script.request, Script.run]
  cases (p.reply c w).outcome <;> rfl

/-- **Operations that keep nothing** write notices, and make one call at most. -/
lemma leavesCache_cases (p : Provider σ) {o : Operation} {w : World σ}
    (h : o.leavesCache w = true) :
    (∃ ns, (o.perform p w).2 = w.noteAll ns) ∨
      ∃ ns c, (o.perform p w).2 = p.afterCall c (w.noteAll ns) := by
  rw [o.perform_eq_script]
  cases o with
  | getInstance name plan =>
      obtain ⟨found, hget⟩ := Option.isSome_iff_exists.1 h
      refine .inl ⟨[.cacheHit name plan.id], ?_⟩
      simp only [script, Script.getInstance, Script.run, hget]
  | provision id plan owner => simp [leavesCache] at h
  | modify target plan => simp [leavesCache] at h
  | deprovision target takeSnapshot =>
      refine .inr ?_
      cases takeSnapshot with
      | false => exact ⟨[.deleting target.name], _, request_finish_run p _ _ _ _⟩
      | true =>
          refine ⟨[.snapshotUnsupported target.name, .deleting target.name], .delete target.name, ?_⟩
          rw [w.noteAll_cons]
          exact request_finish_run p _ _ _ _
  | tag target key value => exact .inr ⟨[], _, by rw [w.noteAll_nil, ← request_finish_run]; rfl⟩
  | untag target key => exact .inr ⟨[], _, by rw [w.noteAll_nil, ← request_finish_run]; rfl⟩
  | _ => exact .inl ⟨[], w.noteAll_nil.symm⟩

/-- **Operations that keep nothing leave of the cache what time alone would leave.** -/
theorem leavesCache_cache (p : Provider σ) {o : Operation} {w : World σ}
    (h : o.leavesCache w = true) :
    (o.run p w).2.timeline.cache = (w.timeline.runTo (o.run p w).2.timeline.now).cache := by
  show (o.perform p w).2.timeline.settle.cache
    = (w.timeline.runTo (o.perform p w).2.timeline.settle.now).cache
  rw [Timeline.settle_now]
  rcases leavesCache_cases p h with ⟨ns, hafter⟩ | ⟨ns, c, hafter⟩
  · rw [hafter]
    exact Timeline.runTo_noteAll_cache _ ns _
  · rw [hafter, Timeline.settle]
    calc
      _ = (((w.noteAll ns).timeline.noteAll (p.reply c (w.noteAll ns)).notices).runTo
            (p.afterCall c (w.noteAll ns)).timeline.now).cache :=
          Timeline.runTo_wait_cache _ (Nat.le_refl _)
      _ = ((w.noteAll ns).timeline.runTo (p.afterCall c (w.noteAll ns)).timeline.now).cache :=
          Timeline.runTo_noteAll_cache _ _ _
      _ = (w.timeline.runTo (p.afterCall c (w.noteAll ns)).timeline.now).cache :=
          Timeline.runTo_noteAll_cache _ ns _

/-- Where no tick is due and no call is made, nothing at all happens to the cache. -/
lemma leavesCache_silent (p : Provider σ) {o : Operation} {w : World σ}
    (h : o.leavesCache w = true) (hdue : w.timeline.anyDue w.timeline.now = false)
    (hsilent : (o.run p w).2.exchanges = w.exchanges) :
    (o.run p w).2.timeline.cache = w.timeline.cache := by
  rcases leavesCache_cases p h with ⟨ns, hafter⟩ | ⟨ns, c, hafter⟩
  · have hnow : (o.run p w).2.timeline.now = w.timeline.now := by
      show (o.perform p w).2.timeline.settle.now = _
      rw [Timeline.settle_now, hafter]
      rfl
    rw [leavesCache_cache p h, hnow, Timeline.runTo_of_not_due hdue]
  · have hcall : (o.run p w).2.exchanges = w.exchanges ++ [p.exchange c (w.noteAll ns)] := by
      show (o.perform p w).2.exchanges = _
      rw [hafter]
      rfl
    rw [hsilent] at hcall
    simp at hcall

end Operation

/-- Between events no tick is due: what was due has happened. -/
lemma Event.not_due_play (p : Provider σ) (e : Event) {w : World σ}
    (h : w.timeline.anyDue w.timeline.now = false) :
    (e.play p w).timeline.anyDue (e.play p w).timeline.now = false := by
  cases e with
  | operation o => exact (o.perform p w).2.timeline.anyDue_settle
  | sleep duration => exact (w.timeline.wait duration).anyDue_settle
  | shutdown => exact Timeline.anyDue_stop Provider.reaperName h

lemma Provider.not_due_play (p : Provider σ) (events : List Event) {w : World σ}
    (h : w.timeline.anyDue w.timeline.now = false) :
    (p.play events w).timeline.anyDue (p.play events w).timeline.now = false := by
  induction events generalizing w with
  | nil => exact h
  | cons e rest ih => exact ih (e.not_due_play p h)

lemma Provider.not_due_start (p : Provider σ) (state : σ) :
    (p.start state).timeline.anyDue (p.start state).timeline.now = false := by
  refine Timeline.anyDue_eq_false fun name r hr => ?_
  rcases Timeline.running_spawn hr with ⟨hpos, rfl⟩ | hold
  · show decide (0 + p.tuning.cacheInterval ≤ 0) = false
    simpa using Nat.ne_of_gt hpos
  · simp [Timeline.start] at hold

/-! ## Economy -/

/-- Two elements that a filter keeps, with what is before, between and after them. -/
lemma split_of_filter_length {α : Type} {keeps : α → Bool} {l : List α}
    (h : 1 < (l.filter keeps).length) :
    ∃ before first between second since, l = before ++ first :: (between ++ second :: since) ∧
      keeps first = true ∧ keeps second = true := by
  match hkept : l.filter keeps with
  | [] | [_] => simp [hkept] at h
  | first :: second :: rest =>
      obtain ⟨before, tail, rfl, -, hfirst, htail⟩ := List.filter_eq_cons_iff.1 hkept
      obtain ⟨between, since, rfl, -, hsecond, -⟩ := List.filter_eq_cons_iff.1 htail
      exact ⟨before, first, between, second, since, rfl, hfirst, hsecond⟩

/-- What a run spends on reads of a key.

* `once`: where nothing is cleared, at most one call that a read makes for the key succeeds.
* `served`: after such a call and until something is cleared, a read of the key makes no call and
  gives the instance that was put there last.
* `asks`: a read that finds nothing makes one call, about the domain that is read.
* `unchanged`: operations that keep nothing leave of the cache what the ticks alone would leave; if
  they make no call, they do not change it at all. -/
structure Economical (p : Provider σ) (state : σ) (events : List Event) (key : CacheKey) : Prop where
  once : ∀ before period after, p.annals events (p.start state) = before ++ period ++ after →
    (∀ entry ∈ period, entry.mark ≠ .cleared) → (period.filter (·.fetches key)).length ≤ 1
  served : ∀ before entry since, p.annals events (p.start state) = before ++ entry :: since →
    entry.fetches key = true → (∀ later ∈ since, later.mark ≠ .cleared) →
      ∀ plan : Plan, plan.id = key.planId →
        let w := p.play events (p.start state)
        let read := (Operation.getInstance key.name plan).run p w
        read.2.exchanges = w.exchanges ∧
          ∃ i, LastStored key i (p.chronicle events (p.start state)) ∧ read.1 = .ok (.found i)
  asks : ∀ plan : Plan, plan.id = key.planId →
    let w := p.play events (p.start state)
    w.timeline.get? key = none → ∃ e, e.call = .describe key.name ∧
      ((Operation.getInstance key.name plan).run p w).2.exchanges = w.exchanges ++ [e]
  unchanged : ∀ o : Operation,
    let w := p.play events (p.start state)
    let after := (o.run p w).2
    o.leavesCache w = true →
      after.timeline.cache = (w.timeline.runTo after.timeline.now).cache ∧
        (after.exchanges = w.exchanges → after.timeline.cache = w.timeline.cache)

/-- **Reads are economical** in every run in which the control plane reports about the domains that
it was asked for, whenever it refuses and however long it takes. -/
theorem Provider.reads_economical (p : Provider σ) (state : σ) (events : List Event)
    (htruthful : Truthful (p.play events (p.start state)).exchanges) (key : CacheKey) :
    Economical p state events key where
  once before period after h hperiod := by
    by_contra hmany
    obtain ⟨front, first, between, second, back, rfl, hfirst, hsecond⟩ :=
      split_of_filter_length (Nat.lt_of_not_le hmany)
    have hsplit : p.annals events (p.start state)
        = (before ++ front) ++ first :: (between ++ second :: (back ++ after)) := by
      rw [h]
      simp
    obtain ⟨entry, hentry, hcleared⟩ := cleared_between_fetches htruthful hsplit hfirst hsecond
    refine hperiod entry ?_ hcleared
    simp [hentry]
  served before entry since h hfetches hclear plan hid := by
    obtain ⟨i, hlast⟩ := p.lastStored_of_fetched htruthful h hfetches hclear
    have hget := get?_of_lastStored hlast
    rw [show key = ⟨key.name, plan.id⟩ by rw [hid]] at hget
    obtain ⟨hfound, hsame⟩ := Operation.getInstance_hit p hget
    exact ⟨hsame, i, hlast, hfound⟩
  asks plan hid := by
    intro w hmiss
    rw [show key = ⟨key.name, plan.id⟩ by rw [hid]] at hmiss
    exact ⟨_, rfl, Operation.getInstance_asks p hmiss⟩
  unchanged o := by
    intro w after hleaves
    have hdue := p.not_due_play events (p.not_due_start state)
    exact ⟨Operation.leavesCache_cache p hleaves, Operation.leavesCache_silent p hleaves hdue⟩

namespace Rehearsal

/-- A cluster is made, read when the cache has been cleared, and left alone for a while. -/
def rereadRun : List Event :=
  [.operation (.provision "i-1" plan "team"), .operation (.getInstance made.name plan), .sleep 1000]

/-- The call of the read. -/
def fetched : Entry :=
  ⟨.operation (.getInstance made.name plan),
    .exchanged ⟨.describe made.name, 10000, 10000, .ok (newReport request)⟩⟩

lemma truthful_rereadRun :
    Truthful (provider.play rereadRun (provider.start start)).exchanges := by
  have hexchanges : (provider.play rereadRun (provider.start start)).exchanges
      = [⟨.create request, 0, 0, .ok (newReport request)⟩,
        ⟨.addTags made.serviceId [⟨Provider.billingTag, "team"⟩], 10000, 10000, .ok ()⟩,
        ⟨.describe made.name, 10000, 10000, .ok (newReport request)⟩] := rfl
  intro e he name report hcall hreport
  rw [hexchanges] at he
  simp only [List.mem_cons, List.not_mem_nil, or_false] at he
  rcases he with rfl | rfl | rfl
  · cases hcall
  · cases hcall
  · obtain rfl := Call.describe.inj hcall
    obtain rfl := Option.some.inj hreport
    rfl

/-- One second after a read, the next read of the same cluster makes no call. -/
theorem reread_without_call :
    Truthful (provider.play rereadRun (provider.start start)).exchanges ∧
    let w := provider.play rereadRun (provider.start start)
    let read := (Operation.getInstance made.name plan).run provider w
    read.2.exchanges = w.exchanges ∧
      ∃ i, LastStored ⟨made.name, plan.id⟩ i (provider.chronicle rereadRun (provider.start start)) ∧
        read.1 = .ok (.found i) := by
  refine ⟨truthful_rereadRun, ?_⟩
  have heconomical := provider.reads_economical start rereadRun truthful_rereadRun
    ⟨made.name, plan.id⟩
  refine heconomical.served ((provider.annals rereadRun (provider.start start)).take 5) fetched
    [⟨.operation (.getInstance made.name plan),
      .stored (Provider.toInstance "" plan (newReport request))⟩] rfl rfl ?_ plan rfl
  simp

end Rehearsal

end ClusterBroker
