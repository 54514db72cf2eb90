import ClusterBroker.Registry
import ClusterBroker.Proofs.Provider.Records

/-!
# What is seen of a run

**Ways in.**  `Gate` is the way to a provider, straight or through a registry, and `Errand` is what
is asked through it.  `Gate.ask_eq` says that a registry that has its provider adds nothing but to
turn away the plans of other services.

**Sightings.**  `Sighting` is everything that one errand shows: its result, the notices written
meanwhile, the calls made, the clock and the size of the cache.  `Gate.sightings` lists them for a
run.

**Growth.**  Notices and exchanges are only ever added (`Errand.grows_run`), so what an errand added
is what is there after those from before.
-/

namespace ClusterBroker

variable {σ : Type}

/-! ## Ways in -/

/-- The way to a provider: straight, or through a registry. -/
inductive Gate (σ : Type) where
  | direct (p : Provider σ)
  | registry (connect : Environment → Tuning → Provider σ) (r : Registry σ)

/-- What is asked through a gate.  An operation comes with the plan that it is resolved by, and with
the variables of that moment. -/
inductive Errand where
  | operation (vars : Variables) (plan : Plan) (o : Operation)
  | sleep (duration : Nat)
  | shutdown

namespace Gate

/-- An operation through a gate: its result, the gate and the world afterwards. -/
def ask (vars : Variables) (plan : Plan) (o : Operation) :
    Gate σ → World σ → Except Failure Outcome × Gate σ × World σ
  | direct p, w => ((o.run p w).1, direct p, (o.run p w).2)
  | registry connect r, w =>
    let (result, after, world) := r.route connect vars plan o w
    (result, registry connect after, world)

/-- The end of the reaper. -/
def shutdown : Gate σ → World σ → World σ
  | direct _, w => w.shutdown
  | registry _ r, w => r.shutdown w

end Gate

/-- An errand: its result if it has one, the gate and the world afterwards. -/
def Errand.run : Errand → Gate σ → World σ → Option (Except Failure Outcome) × Gate σ × World σ
  | operation vars plan o, g, w =>
    let (result, gate, after) := g.ask vars plan o w
    (some result, gate, after)
  | sleep duration, g, w => (none, g, w.sleep duration)
  | shutdown, g, w => (none, g, g.shutdown w)

/-- The world after errands, one after the other. -/
def Gate.play : List Errand → Gate σ → World σ → World σ
  | [], _, w => w
  | e :: rest, g, w => play rest (e.run g w).2.1 (e.run g w).2.2

/-! ### Gates that have their provider -/

/-- A gate leads to a provider. -/
inductive Gate.Leads : Gate σ → Provider σ → Prop where
  | direct (p : Provider σ) : Leads (.direct p) p
  | registry (connect : Environment → Tuning → Provider σ) {r : Registry σ} {serial : Nat}
    {p : Provider σ} (h : r.current = some ⟨serial, p⟩) : Leads (.registry connect r) p

/-- The tag for which a gate turns a plan away. -/
def Gate.foreignTag? : Gate σ → Plan → Option String
  | direct _, _ => none
  | registry _ _, plan =>
    match plan.kind with
    | .unknown tag => some tag
    | .elasticsearch => none

lemma Gate.leads_withProvider (connect : Environment → Tuning → Provider σ) (p : Provider σ) :
    (Gate.registry connect (.withProvider p)).Leads p :=
  .registry connect rfl

/-- **A gate asks its provider**, or turns the operation away with a notice. -/
theorem Gate.ask_eq {g : Gate σ} {p : Provider σ} (h : g.Leads p) (vars : Variables) (plan : Plan)
    (o : Operation) (w : World σ) :
    g.ask vars plan o w = match g.foreignTag? plan with
      | some tag => (.error (.unsupported tag), g, w.noteAll [.noProvider plan.id tag])
      | none => ((o.run p w).1, g, (o.run p w).2) := by
  cases h with
  | direct => rfl
  | @registry connect r serial p hcurrent =>
      have hquiet : ({ w with timeline := w.timeline.noteAll [] } : World σ) = w := by
        simp [Timeline.noteAll]
      unfold foreignTag?
      cases hkind : plan.kind with
      | unknown tag => simp [ask, Registry.route, Registry.resolve, hkind, World.noteAll]
      | elasticsearch =>
          simp only [ask, Registry.route, Registry.resolve, hkind, hcurrent]
          rw [hquiet]

lemma Gate.shutdown_eq {g : Gate σ} {p : Provider σ} (h : g.Leads p) (w : World σ) :
    g.shutdown w = w.shutdown := by
  cases h with
  | direct => rfl
  | registry connect hcurrent => simp [shutdown, Registry.shutdown, hcurrent]

/-- Errands leave a gate that has its provider as it is. -/
lemma Errand.run_gate {g : Gate σ} {p : Provider σ} (h : g.Leads p) (e : Errand) (w : World σ) :
    (e.run g w).2.1 = g := by
  cases e with
  | operation vars plan o =>
      simp only [run, g.ask_eq h]
      split <;> rfl
  | sleep duration => rfl
  | shutdown => rfl

/-! ## Sightings -/

/-- What one errand shows. -/
structure Sighting where
  result : Option (Except Failure Outcome)
  notices : List Notice
  calls : List Call
  now : Nat
  size : Option Nat

/-- What is seen of an errand between two worlds. -/
def Sighting.between (result : Option (Except Failure Outcome)) (w after : World σ) :
    Sighting where
  result := result
  notices := after.timeline.notices.drop w.timeline.notices.length
  calls := (after.exchanges.drop w.exchanges.length).map (·.call)
  now := after.timeline.now
  size := after.timeline.cache.map (·.size)

/-- What is seen of errands, one after the other. -/
def Gate.sightings : List Errand → Gate σ → World σ → List Sighting
  | [], _, _ => []
  | e :: rest, g, w =>
    .between (e.run g w).1 w (e.run g w).2.2 :: sightings rest (e.run g w).2.1 (e.run g w).2.2

/-! ## Growth -/

/-- Notices are only added. -/
def Timeline.Grows (t after : Timeline) : Prop :=
  t.notices <+: after.notices

namespace Timeline

lemma grows_noteAll (t : Timeline) (ns : List Notice) : t.Grows (t.noteAll ns) :=
  List.prefix_append t.notices ns

lemma grows_clear (t : Timeline) : t.Grows t.clear := by
  unfold Grows clear
  split
  · split
    · exact List.prefix_refl _
    · exact List.prefix_append _ _
  · exact List.prefix_refl _

lemma grows_runTo (t : Timeline) (time : Nat) : t.Grows (t.runTo time) := by
  show t.notices <+: (if t.anyDue time then t.clear else t).notices
  split
  · exact t.grows_clear
  · exact List.prefix_refl _

lemma grows_wait (t : Timeline) (duration : Nat) : t.Grows (t.wait duration) := by
  by_cases hd : duration = 0
  · rw [hd, wait_zero]
    exact List.prefix_refl _
  · rw [wait_of_ne_zero t hd]
    exact t.grows_runTo _

end Timeline

/-- Notices and exchanges are only added. -/
structure World.Grows (w after : World σ) : Prop where
  notices : w.timeline.Grows after.timeline
  exchanges : w.exchanges <+: after.exchanges

namespace World.Grows

variable {w after last : World σ}

lemma refl (w : World σ) : w.Grows w := ⟨List.prefix_refl _, List.prefix_refl _⟩

lemma trans (h : w.Grows after) (h' : after.Grows last) : w.Grows last :=
  ⟨h.notices.trans h'.notices, h.exchanges.trans h'.exchanges⟩

lemma of_timeline (h : w.timeline.Grows after.timeline) (hx : after.exchanges = w.exchanges) :
    w.Grows after :=
  ⟨h, hx ▸ List.prefix_refl _⟩

lemma noteAll (w : World σ) (ns : List Notice) : w.Grows (w.noteAll ns) :=
  of_timeline (w.timeline.grows_noteAll ns) rfl

lemma wait (w : World σ) (duration : Nat) : w.Grows (w.wait duration) :=
  of_timeline (w.timeline.grows_wait duration) rfl

lemma settle (w : World σ) : w.Grows w.settle :=
  of_timeline (w.timeline.grows_runTo _) rfl

lemma afterCall (p : Provider σ) (c : Call) (w : World σ) : w.Grows (p.afterCall c w) :=
  ⟨(w.timeline.grows_noteAll _).trans (Timeline.grows_wait _ _), List.prefix_append _ _⟩

end World.Grows

/-- A script only adds notices and exchanges. -/
lemma Script.grows_run (p : Provider σ) (s : Script) (w : World σ) : w.Grows (s.run p w).2 := by
  induction s generalizing w with
  | finish result => exact .refl w
  | note ns rest ih => exact (World.Grows.noteAll w ns).trans (ih (w.noteAll ns))
  | draw rest ih =>
      have h : w.Grows w.drawOne := .of_timeline (List.prefix_refl _) rfl
      exact h.trans (ih _ w.drawOne)
  | look key rest ih => exact ih _ w
  | call c rest ih => exact (World.Grows.afterCall p c w).trans (ih _ (p.afterCall c w))
  | store i rest ih =>
      have h : w.Grows (w.store i) := .of_timeline (List.prefix_refl _) rfl
      exact h.trans (ih (w.store i))
  | wait duration rest ih => exact (World.Grows.wait w duration).trans (ih (w.wait duration))

lemma Operation.grows_run (o : Operation) (p : Provider σ) (w : World σ) :
    w.Grows (o.run p w).2 := by
  rw [o.run_eq_script]
  exact ((o.script p).grows_run p w).trans (.settle _)

/-- **An errand only adds notices and exchanges.** -/
theorem Errand.grows_run {g : Gate σ} {p : Provider σ} (h : g.Leads p) (e : Errand)
    (w : World σ) : w.Grows (e.run g w).2.2 := by
  cases e with
  | operation vars plan o =>
      simp only [run, g.ask_eq h]
      split
      · exact .noteAll w _
      · exact o.grows_run p w
  | sleep duration => exact (World.Grows.wait w duration).trans (.settle _)
  | shutdown =>
      simp only [run, g.shutdown_eq h]
      exact .of_timeline (List.prefix_refl _) rfl

/-- A run only adds notices and exchanges. -/
lemma Gate.grows_play {g : Gate σ} {p : Provider σ} (h : g.Leads p) (errands : List Errand)
    (w : World σ) : w.Grows (g.play errands w) := by
  induction errands generalizing w with
  | nil => exact .refl w
  | cons e rest ih =>
      rw [play, e.run_gate h]
      exact (e.grows_run h w).trans (ih _)

end ClusterBroker
