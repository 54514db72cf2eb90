import ClusterBroker.Proofs.Provider.Sightings
import Mathlib.Data.List.Forall2

/-!
# A registry refines its provider

A registry that has its provider adds nothing to it but to refuse the plans of other services.  A
run through the registry is compared with one on the provider itself, turn by turn.

**Earlier notices.**  `World.under` puts notices in front of those of a world.  Nothing that happens
reads a notice, so everything commutes with it (`Script.run_under`, `Errand.run_under`).  This is what
lets a run with warnings go on like one without them.

**Turns.**  `Turn` is everything that one errand is about: its result and the whole worlds before and
after it.  `Gate.turns` lists them for a run.

**Refinement.**  **`Registry.refines_provider`**: without foreign plans the turns are the same; with
some, these are refused and leave nothing but a warning, and the other turns match those of the run
in which the refused errands are left out.
-/

namespace ClusterBroker

variable {σ : Type}

/-! ## Earlier notices -/

/-- The timeline with notices in front of its own. -/
def Timeline.under (t : Timeline) (ns : List Notice) : Timeline :=
  { t with notices := ns ++ t.notices }

namespace Timeline

variable (t : Timeline) (ns : List Notice)

lemma noteAll_under (more : List Notice) :
    (t.under ns).noteAll more = (t.noteAll more).under ns := by
  simp [under, noteAll]

lemma clear_under : (t.under ns).clear = t.clear.under ns := by
  cases hc : t.cache with
  | none => simp [clear, under, hc]
  | some c => by_cases hempty : c.isEmpty <;> simp [clear, under, hc, hempty, note]

lemma runTo_under (time : Nat) : (t.under ns).runTo time = (t.runTo time).under ns := by
  have hcleared : (if t.anyDue time then (t.under ns).clear else t.under ns)
      = (if t.anyDue time then t.clear else t).under ns := by
    split
    · exact t.clear_under ns
    · rfl
  show ({ (if t.anyDue time then (t.under ns).clear else t.under ns) with
    reapers := _ } : Timeline) = _
  rw [hcleared]
  rfl

lemma wait_under (duration : Nat) : (t.under ns).wait duration = (t.wait duration).under ns := by
  by_cases hd : duration = 0
  · subst hd
    rfl
  · have hlast : (t.under ns).lastTickTime duration = t.lastTickTime duration := rfl
    rw [wait_of_ne_zero _ hd, wait_of_ne_zero _ hd, hlast, runTo_under]
    rfl

lemma settle_under : (t.under ns).settle = t.settle.under ns :=
  t.runTo_under ns t.now

end Timeline

/-- The world with notices in front of its own. -/
def World.under (w : World σ) (ns : List Notice) : World σ :=
  { w with timeline := w.timeline.under ns }

namespace World

variable (w : World σ) (ns : List Notice)

lemma noteAll_under (more : List Notice) :
    (w.under ns).noteAll more = (w.noteAll more).under ns := by
  simp [under, noteAll, Timeline.noteAll_under]

lemma wait_under (duration : Nat) : (w.under ns).wait duration = (w.wait duration).under ns := by
  simp [under, wait, Timeline.wait_under]

lemma settle_under : (w.under ns).settle = w.settle.under ns := by
  simp [under, settle, Timeline.settle_under]

lemma afterCall_under (p : Provider σ) (c : Call) :
    p.afterCall c (w.under ns) = (p.afterCall c w).under ns := by
  have htimeline : p.timelineAfter c (w.under ns) = (p.timelineAfter c w).under ns := by
    show ((w.timeline.under ns).noteAll (p.reply c w).notices).wait (p.reply c w).latency = _
    rw [Timeline.noteAll_under, Timeline.wait_under]
    rfl
  have hexchange : p.exchange c (w.under ns) = p.exchange c w := by
    simp only [Provider.exchange, htimeline]
    rfl
  simp only [Provider.afterCall, htimeline, hexchange]
  rfl

end World

/-- **Scripts do not read notices.** -/
theorem Script.run_under (p : Provider σ) (s : Script) (w : World σ) (ns : List Notice) :
    s.run p (w.under ns) = ((s.run p w).1, (s.run p w).2.under ns) := by
  induction s generalizing w with
  | finish result => rfl
  | note more rest ih => rw [run, w.noteAll_under, ih, run]
  | draw rest ih => exact ih _ w.drawOne
  | look key rest ih => exact ih _ w
  | call c rest ih =>
      rw [run, w.afterCall_under]
      exact ih _ (p.afterCall c w)
  | store i rest ih => exact ih (w.store i)
  | wait duration rest ih => rw [run, w.wait_under, ih, run]

lemma Operation.run_under (o : Operation) (p : Provider σ) (w : World σ) (ns : List Notice) :
    o.run p (w.under ns) = ((o.run p w).1, (o.run p w).2.under ns) := by
  rw [o.run_eq_script, o.run_eq_script, Script.run_under, World.settle_under]

/-! ## Errands -/

namespace Errand

/-- The tag for which a registry refuses an errand. -/
def refusedTag? : Errand → Option String
  | operation _ plan _ =>
    match plan.kind with
    | .unknown tag => some tag
    | .elasticsearch => none
  | _ => none

/-- Whether a registry passes an errand on. -/
def isPassed (e : Errand) : Bool :=
  e.refusedTag?.isNone

/-- Any tag is refused but one. -/
lemma refusedTag?_ofTag (vars : Variables) {plan : Plan} (o : Operation) {tag : String}
    (h : plan.kind = .ofTag tag) :
    (operation vars plan o).refusedTag? = if tag = "aws-es" then none else some tag := by
  simp only [refusedTag?, h, ServiceKind.ofTag]
  by_cases htag : tag = "aws-es" <;> simp [htag]

/-- What is asked of a provider itself does not depend on notices. -/
lemma run_under (e : Errand) (p : Provider σ) (w : World σ) (ns : List Notice) :
    e.run (.direct p) (w.under ns)
      = ((e.run (.direct p) w).1, .direct p, (e.run (.direct p) w).2.2.under ns) := by
  cases e with
  | operation vars plan o => simp only [run, Gate.ask, o.run_under]
  | sleep duration =>
      show (none, Gate.direct p, ((w.under ns).wait duration).settle) = _
      rw [w.wait_under, World.settle_under]
      rfl
  | shutdown => rfl

variable (connect : Environment → Tuning → Provider σ) (p : Provider σ)

/-- **What a registry passes on** is what its provider does. -/
lemma run_passed {e : Errand} (h : e.isPassed = true) (w : World σ) :
    e.run (.registry connect (.withProvider p)) w
      = ((e.run (.direct p) w).1, .registry connect (.withProvider p),
        (e.run (.direct p) w).2.2) := by
  have hleads := Gate.leads_withProvider connect p
  cases e with
  | operation vars plan o =>
      cases hkind : plan.kind with
      | unknown tag => simp [isPassed, refusedTag?, hkind] at h
      | elasticsearch =>
          simp only [run, Gate.ask_eq hleads, Gate.foreignTag?, hkind]
          rfl
  | sleep duration => rfl
  | shutdown => rfl

/-- **What a registry refuses** leaves a warning and nothing else. -/
lemma run_refused {e : Errand} {tag : String} (h : e.refusedTag? = some tag) (w : World σ) :
    ∃ vars plan o, e = .operation vars plan o ∧
      e.run (.registry connect (.withProvider p)) w
        = (some (.error (.unsupported tag)), .registry connect (.withProvider p),
          w.noteAll [.noProvider plan.id tag]) := by
  have hleads := Gate.leads_withProvider connect p
  cases e with
  | operation vars plan o =>
      refine ⟨vars, plan, o, rfl, ?_⟩
      cases hkind : plan.kind with
      | unknown other =>
          obtain rfl : other = tag := by simpa [refusedTag?, hkind] using h
          simp [run, Gate.ask_eq hleads, Gate.foreignTag?, hkind]
      | elasticsearch => simp [refusedTag?, hkind] at h
  | sleep duration => simp [refusedTag?] at h
  | shutdown => simp [refusedTag?] at h

end Errand

/-! ## Turns -/

/-- One errand of a run: its result if it has one, and the worlds before and after it. -/
structure Turn (σ : Type) where
  errand : Errand
  result : Option (Except Failure Outcome)
  before : World σ
  after : World σ

/-- The turns of a run, one after the other. -/
def Gate.turns : List Errand → Gate σ → World σ → List (Turn σ)
  | [], _, _ => []
  | e :: rest, g, w =>
    ⟨e, (e.run g w).1, w, (e.run g w).2.2⟩ :: turns rest (e.run g w).2.1 (e.run g w).2.2

/-- The world without its notices. -/
def World.silenced (w : World σ) : World σ :=
  { w with timeline := { w.timeline with notices := [] } }

lemma World.silenced_under (w : World σ) : w.silenced.under w.timeline.notices = w := by
  simp [silenced, under, Timeline.under]

/-- Turns that show the same, in worlds that differ at most in the notices from before.

* `result`: the result is the same.
* `before`, `after`: so is everything in the worlds around the turn: the time, the cache with its
  reapers, the control plane, the exchanges with it and the number of tokens drawn.
* `notices`: the same notices are written in the turn. -/
structure Turn.Matches (turn turn' : Turn σ) : Prop where
  errand : turn.errand = turn'.errand
  result : turn.result = turn'.result
  before : turn.before.silenced = turn'.before.silenced
  after : turn.after.silenced = turn'.after.silenced
  notices : ∃ ns, turn.after.timeline.notices = turn.before.timeline.notices ++ ns ∧
    turn'.after.timeline.notices = turn'.before.timeline.notices ++ ns

/-- In worlds that differ at most in their notices, an errand takes the same turn. -/
lemma Errand.matches_run (e : Errand) (p : Provider σ) {w w' : World σ}
    (h : w.silenced = w'.silenced) :
    Turn.Matches ⟨e, (e.run (.direct p) w).1, w, (e.run (.direct p) w).2.2⟩
      ⟨e, (e.run (.direct p) w').1, w', (e.run (.direct p) w').2.2⟩ := by
  have hw := e.run_under p w.silenced w.timeline.notices
  have hw' := e.run_under p w.silenced w'.timeline.notices
  rw [w.silenced_under] at hw
  rw [show w.silenced.under w'.timeline.notices = w' by rw [h, w'.silenced_under]] at hw'
  refine ⟨rfl, ?_, h, ?_, (e.run (.direct p) w.silenced).2.2.timeline.notices, ?_, ?_⟩
  · rw [hw, hw']
  · rw [hw, hw']
    rfl
  · rw [hw]
    rfl
  · rw [hw']
    rfl

/-! ## Refinement -/

/-- A gate does what a provider does, but for the errands that it refuses.

* `tags`: the tags that are refused are all but one.
* `keeps`: the gate never changes; so it leads to the same provider all the time.
* `same`: if no errand has another tag, all turns are those of the provider.
* `refused`: a refused errand fails with exactly its tag and leaves the world as it was, with one
  warning more.
* `passed`: the turns of all other errands match those of a run on the provider in which the refused
  errands are left out. -/
structure Gate.Refines (g : Gate σ) (p : Provider σ) (errands : List Errand) (w : World σ) :
    Prop where
  tags : ∀ vars plan o tag, plan.kind = .ofTag tag →
    (Errand.operation vars plan o).refusedTag? = if tag = "aws-es" then none else some tag
  keeps : ∀ (e : Errand) (w : World σ), (e.run g w).2.1 = g
  same : (∀ vars plan o, .operation vars plan o ∈ errands → plan.kind = .ofTag "aws-es") →
    g.turns errands w = (Gate.direct p).turns errands w
  refused : ∀ turn ∈ g.turns errands w, ∀ tag, turn.errand.refusedTag? = some tag →
    ∃ vars plan o, turn.errand = .operation vars plan o ∧
      turn.result = some (.error (.unsupported tag)) ∧
      turn.after = turn.before.noteAll [.noProvider plan.id tag]
  passed : List.Forall₂ Turn.Matches ((g.turns errands w).filter (·.errand.isPassed))
    ((Gate.direct p).turns (errands.filter Errand.isPassed) w)

namespace Registry

variable (connect : Environment → Tuning → Provider σ) (p : Provider σ)

/-- Errands that are all passed on take the same turns. -/
lemma turns_passed {errands : List Errand} (h : ∀ e ∈ errands, e.isPassed = true) (w : World σ) :
    (Gate.registry connect (.withProvider p)).turns errands w
      = (Gate.direct p).turns errands w := by
  induction errands generalizing w with
  | nil => rfl
  | cons e rest ih =>
      obtain ⟨hfirst, hrest⟩ := List.forall_mem_cons.1 h
      rw [Gate.turns, Gate.turns, Errand.run_passed connect p hfirst,
        Errand.run_gate (.direct p), ih hrest]

/-- In every turn of a refused errand, a warning is all that is left. -/
lemma turns_refused {errands : List Errand} {w : World σ} {turn : Turn σ}
    (hturn : turn ∈ (Gate.registry connect (.withProvider p)).turns errands w) {tag : String}
    (h : turn.errand.refusedTag? = some tag) :
    ∃ vars plan o, turn.errand = .operation vars plan o ∧
      turn.result = some (.error (.unsupported tag)) ∧
      turn.after = turn.before.noteAll [.noProvider plan.id tag] := by
  induction errands generalizing w with
  | nil => simp [Gate.turns] at hturn
  | cons e rest ih =>
      rw [Gate.turns, Errand.run_gate (Gate.leads_withProvider connect p)] at hturn
      rcases List.mem_cons.1 hturn with rfl | hlater
      · obtain ⟨vars, plan, o, he, hrun⟩ := Errand.run_refused connect p h w
        exact ⟨vars, plan, o, he, by rw [hrun], by rw [hrun]⟩
      · exact ih hlater

/-- **The turns that are passed on match those of a run without the refused errands**, if the runs
start in worlds that differ at most in their notices. -/
lemma turns_match (errands : List Errand) {w w' : World σ} (h : w.silenced = w'.silenced) :
    List.Forall₂ Turn.Matches
      (((Gate.registry connect (.withProvider p)).turns errands w).filter (·.errand.isPassed))
      ((Gate.direct p).turns (errands.filter Errand.isPassed) w') := by
  induction errands generalizing w w' with
  | nil => exact .nil
  | cons e rest ih =>
      cases hpassed : e.isPassed with
      | true =>
          have hfirst := e.matches_run p h
          simp only [List.filter_cons, hpassed, if_true, Gate.turns]
          rw [Errand.run_passed connect p hpassed, Errand.run_gate (.direct p)]
          exact .cons hfirst (ih hfirst.after)
      | false =>
          obtain ⟨tag, htag⟩ : ∃ tag, e.refusedTag? = some tag := by
            simpa [Errand.isPassed, Option.isNone_eq_false_iff, Option.isSome_iff_exists]
              using hpassed
          obtain ⟨vars, plan, o, -, hrun⟩ := Errand.run_refused connect p htag w
          simp only [List.filter_cons, hpassed, Bool.false_eq_true, if_false, Gate.turns]
          rw [hrun]
          exact ih h

/-- **A registry with a provider refines that provider**, in every run from every world, whatever
the control plane answers and however the provider is tuned. -/
theorem refines_provider (errands : List Errand) (w : World σ) :
    (Gate.registry connect (.withProvider p)).Refines p errands w where
  tags vars plan o tag h := Errand.refusedTag?_ofTag vars o h
  keeps e w := e.run_gate (Gate.leads_withProvider connect p) w
  same h := by
    refine turns_passed connect p (fun e he => ?_) w
    cases e with
    | operation vars plan o =>
        rw [Errand.isPassed, Errand.refusedTag?_ofTag vars o (h vars plan o he)]
        rfl
    | sleep duration => rfl
    | shutdown => rfl
  refused turn hturn tag h := turns_refused connect p hturn h
  passed := turns_match connect p errands rfl

end Registry

end ClusterBroker
