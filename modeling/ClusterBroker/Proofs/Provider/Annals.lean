import ClusterBroker.Proofs.Provider.Records

/-!
# Annals

A chronicle does not say which event an entry belongs to.  The annals of a run do, so that calls made
by reads can be told from those made by anything else.

**Places.**  `Provider.annals` are the annals of a run, and `Provider.annals_split` finds the event of
an entry and its place among the entries of that event.

**Fetches.**  `Entry.fetches` picks out the calls that a read of some key made with success.
`Operation.getInstance_split` says what such a read has to do with them: nothing was found before,
there is no other call, and what was reported is kept at once.
-/

namespace ClusterBroker

variable {σ : Type}

/-! ## Places -/

/-- An entry of a chronicle with the event in which it was made. -/
structure Entry where
  event : Event
  mark : Mark

/-- The chronicle of a run, each entry with its event. -/
def Provider.annals (p : Provider σ) : List Event → World σ → List Entry
  | [], _ => []
  | e :: rest, w => (e.chronicle p w).map (Entry.mk e) ++ p.annals rest (e.play p w)

lemma Provider.marks_annals (p : Provider σ) (events : List Event) (w : World σ) :
    (p.annals events w).map Entry.mark = p.chronicle events w := by
  induction events generalizing w with
  | nil => rfl
  | cons e rest ih => simp [annals, chronicle, ih, Function.comp_def]

/-- Every entry was made in the course of its event, at one place of that event's chronicle. -/
lemma Provider.annals_split {p : Provider σ} {events : List Event} {w : World σ}
    {before since : List Entry} {entry : Entry}
    (h : p.annals events w = before ++ entry :: since) :
    ∃ earlier later front back, events = earlier ++ entry.event :: later ∧
      entry.event.chronicle p (p.play earlier w) = front ++ entry.mark :: back ∧
      before = p.annals earlier w ++ front.map (Entry.mk entry.event) ∧
      since = back.map (Entry.mk entry.event)
        ++ p.annals later (p.play (earlier ++ [entry.event]) w) := by
  induction events generalizing w before with
  | nil => simp [annals] at h
  | cons e rest ih =>
      rcases append_eq_append_cons h with ⟨back, hmarks, rfl⟩ | ⟨front, rfl, hrest⟩
      · obtain ⟨front, tail, hchronicle, rfl, htail⟩ := List.map_eq_append_iff.1 hmarks
        obtain ⟨m, back, rfl, rfl, rfl⟩ := List.map_eq_cons_iff.1 htail
        exact ⟨[], rest, front, back, rfl, hchronicle, by simp [annals], rfl⟩
      · obtain ⟨earlier, later, front, back, rfl, hchronicle, rfl, rfl⟩ := ih hrest
        refine ⟨e :: earlier, later, front, back, rfl, hchronicle, ?_, rfl⟩
        rw [annals, List.append_assoc]

/-! ## Fetches -/

/-- Whether an entry is a call about a domain that a read of a key makes with success. -/
def Entry.fetches (key : CacheKey) : Entry → Bool
  | ⟨.operation (.getInstance name plan), .exchanged e⟩ =>
    (⟨name, plan.id⟩ : CacheKey) = key && e.call = .describe name && e.report?.isSome
  | _ => false

lemma Entry.fetches_iff {key : CacheKey} {entry : Entry} :
    entry.fetches key = true ↔ ∃ plan e report,
      entry = ⟨.operation (.getInstance key.name plan), .exchanged e⟩ ∧ plan.id = key.planId ∧
        e.call = .describe key.name ∧ e.report? = some report := by
  constructor
  · intro h
    unfold fetches at h
    split at h
    · rename_i name plan e
      simp only [Bool.and_eq_true, decide_eq_true_eq, Option.isSome_iff_exists] at h
      obtain ⟨⟨rfl, hcall⟩, report, hreport⟩ := h
      exact ⟨plan, e, report, rfl, rfl, hcall, hreport⟩
    · cases h
  · rintro ⟨plan, e, report, rfl, hid, hcall, hreport⟩
    simp [fetches, hid, hcall, hreport]

lemma not_exchanged_tickMarks (t : Timeline) (time : Nat) (e : Exchange) :
    .exchanged e ∉ t.tickMarks time := by
  intro h
  cases Timeline.eq_cleared_of_mem_tickMarks h

lemma not_exchanged_waitMarks (t : Timeline) (duration : Nat) (e : Exchange) :
    .exchanged e ∉ t.waitMarks duration := by
  intro h
  cases Timeline.eq_cleared_of_mem_waitMarks h

/-- The only exchange of a chronicle. -/
lemma exchanged_unique {front back before since : List Mark} {e e' : Exchange}
    (h : front ++ .exchanged e' :: back = before ++ .exchanged e :: since)
    (hfront : ∀ x, .exchanged x ∉ front) (hback : ∀ x, .exchanged x ∉ back) :
    before = front ∧ e = e' ∧ since = back := by
  rcases append_eq_append_cons h with ⟨rest, hearly, -⟩ | ⟨rest, rfl, hlate⟩
  · exact absurd (by simp [hearly]) (hfront e)
  · cases rest with
    | nil =>
        obtain ⟨hmark, rfl⟩ := List.cons.inj hlate
        exact ⟨by simp, (Mark.exchanged.inj hmark).symm, rfl⟩
    | cons first rest =>
        obtain ⟨-, hlater⟩ := List.cons.inj hlate
        exact absurd (by simp [hlater]) (hback e)

/-- **The call of a read** is made only if nothing is found under its key, is the only one, and what
is reported is kept right away. -/
lemma Operation.getInstance_split (p : Provider σ) {name : String} {plan : Plan} {w : World σ}
    {before since : List Mark} {e : Exchange}
    (h : (getInstance name plan).chronicle p w = before ++ .exchanged e :: since) :
    w.timeline.get? ⟨name, plan.id⟩ = none ∧ (∀ e', .exchanged e' ∉ before) ∧
      e = p.exchange (.describe name) w ∧ ∀ report, e.report? = some report →
        ∃ rest, since = .stored (Provider.toInstance "" plan report) :: rest := by
  unfold chronicle at h
  simp only [script, Script.getInstance, Script.chronicle] at h
  cases hget : w.timeline.get? ⟨name, plan.id⟩ with
  | some found =>
      have hmem : .exchanged e ∈ before ++ .exchanged e :: since := by simp
      rw [← h, hget] at hmem
      simp [Script.chronicle, Timeline.settleMarks, not_exchanged_tickMarks] at hmem
  | none =>
      rw [hget] at h
      simp only [Script.describe, Script.request, Script.chronicle, Provider.callMarks,
        List.append_assoc, List.singleton_append] at h
      have hwait := not_exchanged_waitMarks w.timeline (p.reply (.describe name) w).latency
      cases hreply : (p.reply (.describe name) w).outcome with
      | error refusal =>
          rw [hreply] at h
          obtain ⟨rfl, rfl, rfl⟩ := exchanged_unique h hwait
            (by simp [Script.chronicle, Timeline.settleMarks, not_exchanged_tickMarks])
          refine ⟨rfl, hwait, rfl, fun report hreport => ?_⟩
          simp [Exchange.report?, Provider.exchange, hreply, Call.report?] at hreport
      | ok report =>
          rw [hreply] at h
          obtain ⟨rfl, rfl, rfl⟩ := exchanged_unique h hwait
            (by simp [Script.chronicle, Timeline.settleMarks, not_exchanged_tickMarks])
          refine ⟨rfl, hwait, rfl, fun report' hreport => ?_⟩
          obtain rfl : report = report' := by
            simpa [Exchange.report?, Provider.exchange, hreply, Call.report?] using hreport
          exact ⟨_, rfl⟩

end ClusterBroker
