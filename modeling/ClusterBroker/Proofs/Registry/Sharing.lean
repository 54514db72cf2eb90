import ClusterBroker.Registry
import Mathlib.Tactic.Lemma

/-!
# A registry shares one provider

A registry builds its provider when a plan of its service is first resolved in an environment that
can be read.  From then on it hands out that provider, whatever becomes of the environment.

**Visits.**  `Visit` is what is done with a registry, each time with the variables of that moment.
A `Site` is a registry with the worlds of all providers it has built, so that there is something for
`Registry.shutdown` to act on, and `Site.receive` is one visit.  `Visit.environment?` is the
environment that a visit would have a provider built for, if there were none.

**Phases.**  `Site.Shares` describes a site after the first such environment was found, or before.
One visit takes it from the one to the other or leaves it (`Site.Shares.receive`), and a run of them
goes by the first environment of the run (`Site.Shares.after`).  Once found, it is never replaced.

**Sharing.**  **`Registry.shares_provider`** is about every run of visits.  It rests on nothing but
the registry: `connect` may be any way to build a provider, and need not be the same twice.
-/

namespace ClusterBroker

variable {σ : Type}

/-! ## Visits -/

/-- An environment that cannot be read lacks a variable. -/
lemma Environment.missing_of_read {vars : Variables} {failure : Failure}
    (h : read vars = .error failure) : ∃ name, failure = missing name := by
  unfold read at h
  split at h
  · exact ⟨_, (Except.error.inj h).symm⟩
  · exact ⟨_, (Except.error.inj h).symm⟩
  · cases h

/-- Something done with a registry.  A plan comes with the variables of the moment it is resolved. -/
inductive Visit where
  | resolve (vars : Variables) (plan : Plan)
  | shutdown

/-- The environment for which a visit wants a provider, if it wants one and can read it. -/
def Visit.environment? : Visit → Option Environment
  | resolve vars plan =>
    match plan.kind with
    | .elasticsearch => (Environment.read vars).toOption
    | .unknown _ => none
  | shutdown => none

/-- The first environment for which a provider is wanted in the course of some visits. -/
def Visit.first? (visits : List Visit) : Option Environment :=
  visits.findSome? environment?

lemma Visit.first?_cons (visit : Visit) (visits : List Visit) :
    first? (visit :: visits) = visit.environment?.or (first? visits) := by
  cases henv : visit.environment? <;> simp [first?, henv]

lemma Visit.first?_append (visits more : List Visit) :
    first? (visits ++ more) = (first? visits).or (first? more) :=
  List.findSome?_append

/-- A registry and the worlds of the providers it has built, in the order of their serials. -/
structure Site (σ : Type) where
  registry : Registry σ
  worlds : List (World σ)

/-- What comes of a visit: what was handed out if a plan was resolved, the notices, and the site
afterwards. -/
structure Reception (σ : Type) where
  outcome : Option (Except Failure (Handle σ))
  notices : List Notice
  site : Site σ

/-- What a resolution has built: a provider with a serial that was not taken before. -/
def Registry.Resolution.added (resolution : Resolution σ) (before : Registry σ) :
    List (Handle σ) :=
  resolution.registry.current.toList.filter fun handle => before.built ≤ handle.serial

namespace Site

/-- A registry that has built nothing yet. -/
def fresh (tuning : Tuning) : Site σ :=
  ⟨.withTuning tuning, []⟩

section Receive

variable (connect : Environment → Tuning → Provider σ) (state : σ)

/-- One visit.  A provider that is built starts in a world of its own, on a control plane in the
given state; a shutdown goes to the world of the provider that the registry keeps. -/
def receive (s : Site σ) : Visit → Reception σ
  | .resolve vars plan =>
    let resolution := s.registry.resolve connect vars plan
    let started := (resolution.added s.registry).map fun handle => handle.provider.start state
    ⟨some resolution.outcome, resolution.notices, ⟨resolution.registry, s.worlds ++ started⟩⟩
  | .shutdown =>
    match s.registry.current with
    | some handle =>
      ⟨none, [], { s with worlds := s.worlds.modify handle.serial s.registry.shutdown }⟩
    | none => ⟨none, [], s⟩

/-- The site after some visits. -/
def after (s : Site σ) (visits : List Visit) : Site σ :=
  visits.foldl (fun s visit => (s.receive connect state visit).site) s

end Receive

section Receive

variable {connect : Environment → Tuning → Provider σ} {state : σ} {s : Site σ}

/-- What is handed out is kept. -/
lemma receive_current_of_ok {vars : Variables} {plan : Plan} {handle : Handle σ}
    (h : (s.receive connect state (.resolve vars plan)).outcome = some (.ok handle)) :
    (s.receive connect state (.resolve vars plan)).site.registry.current = some handle := by
  have hok : (s.registry.resolve connect vars plan).outcome = .ok handle := Option.some.inj h
  show (s.registry.resolve connect vars plan).registry.current = some handle
  unfold Registry.resolve at hok ⊢
  cases hkind : plan.kind with
  | unknown tag => simp [hkind] at hok
  | elasticsearch =>
      cases hcurrent : s.registry.current with
      | some kept => simpa [hkind, hcurrent] using hok
      | none =>
          cases hread : Environment.read vars with
          | error failure => simp [hkind, hcurrent, hread] at hok
          | ok e => simpa [hkind, hcurrent, hread] using hok

lemma receive_shutdown_registry :
    (s.receive connect state .shutdown).site.registry = s.registry := by
  simp only [receive]
  cases s.registry.current <;> rfl

end Receive

/-- How many reapers there are at a site, running or ended. -/
def reaperCount (s : Site σ) : Nat :=
  s.worlds.foldr (fun w count => w.timeline.reapers.size + count) 0

end Site

/-! ## Phases -/

section Phases

variable (connect : Environment → Tuning → Provider σ) (state : σ) (tuning : Tuning)

/-- The handle of a provider that was built first. -/
def Handle.only (e : Environment) : Handle σ :=
  ⟨0, connect e tuning⟩

/-- What a plan of the service is to get: the provider for the first environment, or else one for the
environment of the moment. -/
def Handle.shared (first : Option Environment) (vars : Variables) : Except Failure (Handle σ) :=
  match first with
  | some e => .ok (.only connect tuning e)
  | none => (Environment.read vars).map (.only connect tuning)

/-- The world of that provider if nobody but the registry touched it: as it started, or with its
reaper ended. -/
inductive World.Untouched (e : Environment) : World σ → Prop where
  | started : Untouched e ((connect e tuning).start state)
  | ended : Untouched e ((connect e tuning).start state).shutdown

/-- A site where the first environment found is the given one, if one was found yet. -/
inductive Site.Shares : Option Environment → Site σ → Prop where
  | unbuilt : Shares none (.fresh tuning)
  | built {e : Environment} {w : World σ} (h : World.Untouched connect state tuning e w) :
    Shares (some e) ⟨⟨tuning, some (.only connect tuning e), 1⟩, [w]⟩

end Phases

variable {connect : Environment → Tuning → Provider σ} {state : σ} {tuning : Tuning}

namespace World.Untouched

variable {e : Environment} {w : World σ}

/-- Ending a reaper twice is ending it once. -/
lemma shutdown (h : Untouched connect state tuning e w) :
    Untouched connect state tuning e w.shutdown := by
  cases h with
  | started => exact .ended
  | ended =>
      have hstop : ((connect e tuning).start state).shutdown.shutdown
          = ((connect e tuning).start state).shutdown := by
        have htwice : ∀ t : Timeline, (t.stop Provider.reaperName).stop Provider.reaperName
            = t.stop Provider.reaperName := fun t => by
          have hsame : ((t.stop Provider.reaperName).stop Provider.reaperName).reapers
              = (t.stop Provider.reaperName).reapers := by
            refine Dict.ext_get? fun name => ?_
            simp only [Timeline.stop, Dict.get?_modify]
            split <;> simp [Function.comp_def]
          exact congrArg (fun reapers => { t with reapers }) hsame
        exact congrArg (fun t => { (connect e tuning).start state with timeline := t })
          (htwice ((connect e tuning).start state).timeline)
      rw [hstop]
      exact .ended

/-- A provider has one reaper. -/
lemma reapers_size (h : Untouched connect state tuning e w) :
    w.timeline.reapers.size = 1 := by
  cases h with
  | started => rfl
  | ended =>
      simp [World.shutdown, Provider.start, Timeline.stop, Timeline.spawn, Timeline.start,
        Dict.modify, Dict.insert, Dict.put, Dict.get?, Dict.find, Dict.empty, Dict.size]

end World.Untouched

namespace Site.Shares

variable {first : Option Environment} {s : Site σ}

lemma current (h : Shares connect state tuning first s) :
    s.registry.current = first.map (.only connect tuning) := by
  cases h <;> rfl

lemma worlds_length (h : Shares connect state tuning first s) :
    s.worlds.length = s.registry.built ∧ s.registry.built ≤ 1 := by
  cases h with
  | unbuilt => exact ⟨rfl, Nat.zero_le 1⟩
  | built => exact ⟨rfl, Nat.le_refl 1⟩

lemma reaperCount_eq (h : Shares connect state tuning first s) :
    s.reaperCount = s.registry.built := by
  cases h with
  | unbuilt => rfl
  | built hw => simp [reaperCount, hw.reapers_size]

/-- A plan of another service gets nothing, whatever the variables are. -/
lemma receive_unknown (h : Shares connect state tuning first s) {vars : Variables} {plan : Plan}
    {tag : String} (hkind : plan.kind = .unknown tag) :
    s.receive connect state (.resolve vars plan)
      = ⟨some (.error (.unsupported tag)), [.noProvider plan.id tag], s⟩ := by
  cases h <;>
    simp [receive, Registry.resolve, hkind, Registry.Resolution.added, fresh,
      Registry.withTuning, Handle.only]

/-- A plan of the service gets the provider there is, or one for the environment of the moment. -/
lemma outcome_elasticsearch (h : Shares connect state tuning first s) {vars : Variables}
    {plan : Plan} (hkind : plan.kind = .elasticsearch) :
    (s.receive connect state (.resolve vars plan)).outcome
      = some (Handle.shared connect tuning first vars) := by
  cases h with
  | built hw => simp [receive, Registry.resolve, hkind, Handle.shared]
  | unbuilt =>
      simp only [receive, Registry.resolve, hkind, fresh, Registry.withTuning, Handle.shared]
      cases Environment.read vars <;> rfl

/-- Only a plan of the service that comes too early fails otherwise than by its tag. -/
lemma outcome_error_iff (h : Shares connect state tuning first s) {vars : Variables}
    {plan : Plan} (hkind : plan.kind = .elasticsearch) {failure : Failure} :
    (s.receive connect state (.resolve vars plan)).outcome = some (.error failure)
      ↔ first = none ∧ Environment.read vars = .error failure := by
  rw [h.outcome_elasticsearch hkind]
  cases first with
  | some e => simp [Handle.shared]
  | none =>
      cases hread : Environment.read vars with
      | error e => simp [Handle.shared, hread, Except.map]
      | ok e => simp [Handle.shared, hread, Except.map]

/-- **One visit** finds the first environment, or changes nothing about it. -/
theorem receive (h : Shares connect state tuning first s) (visit : Visit) :
    Shares connect state tuning (first.or visit.environment?)
      (s.receive connect state visit).site := by
  cases visit with
  | shutdown =>
      cases h with
      | unbuilt => exact .unbuilt
      | built hw => exact .built hw.shutdown
  | resolve vars plan =>
      cases hkind : plan.kind with
      | unknown tag =>
          rw [h.receive_unknown hkind]
          simpa [Visit.environment?, hkind] using h
      | elasticsearch =>
          cases h with
          | @built e w hw =>
              have hsite : (Site.receive connect state
                  ⟨⟨tuning, some (.only connect tuning e), 1⟩, [w]⟩ (.resolve vars plan)).site
                  = ⟨⟨tuning, some (.only connect tuning e), 1⟩, [w]⟩ := by
                simp [Site.receive, Registry.resolve, hkind, Registry.Resolution.added,
                  Handle.only]
              rw [hsite]
              exact .built hw
          | unbuilt =>
              cases hread : Environment.read vars with
              | error failure =>
                  have hsite : ((Site.fresh tuning).receive connect state
                      (.resolve vars plan)).site = .fresh tuning := by
                    simp [Site.receive, Registry.resolve, hkind, hread, fresh,
                      Registry.withTuning, Registry.Resolution.added]
                  rw [hsite]
                  simpa [Visit.environment?, hkind, hread, Except.toOption] using .unbuilt
              | ok e =>
                  have hsite : ((Site.fresh tuning).receive connect state
                      (.resolve vars plan)).site
                      = ⟨⟨tuning, some (.only connect tuning e), 1⟩,
                        [(connect e tuning).start state]⟩ := by
                    simp [Site.receive, Registry.resolve, hkind, hread, fresh,
                      Registry.withTuning, Registry.Resolution.added, Handle.only]
                  rw [hsite]
                  simpa [Visit.environment?, hkind, hread, Except.toOption] using .built .started

/-- **A run of visits** goes by the first environment that was found before or in it. -/
theorem after (h : Shares connect state tuning first s) (visits : List Visit) :
    Shares connect state tuning (first.or (Visit.first? visits))
      (s.after connect state visits) := by
  induction visits generalizing first s with
  | nil => simpa [Visit.first?, Site.after] using h
  | cons visit visits ih =>
      have hrest := ih (h.receive visit)
      rw [Option.or_assoc] at hrest
      rw [Visit.first?_cons]
      exact hrest

/-- A resolution that fails leaves all as it was. -/
lemma site_of_error (h : Shares connect state tuning first s) {vars : Variables} {plan : Plan}
    {failure : Failure}
    (hfails : (s.receive connect state (.resolve vars plan)).outcome = some (.error failure)) :
    (s.receive connect state (.resolve vars plan)).site = s := by
  cases hkind : plan.kind with
  | unknown tag => rw [h.receive_unknown hkind]
  | elasticsearch =>
      obtain ⟨rfl, hread⟩ := (h.outcome_error_iff hkind).1 hfails
      have hsame := h.receive (.resolve vars plan)
      simp only [Visit.environment?, hkind, hread, Except.toOption, Option.or_none] at hsame
      cases h
      generalize (Site.receive connect state _ _).site = after at hsame
      cases hsame
      rfl

end Site.Shares

/-! ## Sharing -/

/-- What some visits leave of a fresh registry, and what it does next.

* `single`: at most one provider was ever built, and there is one reaper for it.
* `current`: the registry keeps the one for the first environment that was found.
* `handed`: whenever a provider was handed out, it was that one.
* `served`: so is the next one, whatever the variables are now.  Before any environment was found,
  the variables of the moment decide.
* `failed`: a plan of the service fails just when no environment was found yet and none is found now.
  The failure names the variable that is missing.
* `unchanged`: a resolution that fails leaves all as it was, so that the next one starts anew.
* `refused`: a plan of another service is refused with its tag, without a look at the variables.
* `kept`: a shutdown leaves the registry as it is. -/
structure Site.SharesOne (connect : Environment → Tuning → Provider σ) (state : σ)
    (tuning : Tuning) (visits : List Visit) (s : Site σ) : Prop where
  single : s.worlds.length = s.registry.built ∧ s.reaperCount = s.registry.built ∧
    s.registry.built ≤ 1
  current : s.registry.current = (Visit.first? visits).map (.only connect tuning)
  handed : ∀ before vars plan later handle, visits = before ++ .resolve vars plan :: later →
    (((fresh tuning).after connect state before).receive connect state
      (.resolve vars plan)).outcome = some (.ok handle) →
    s.registry.current = some handle
  served : ∀ vars plan, plan.kind = .elasticsearch →
    (s.receive connect state (.resolve vars plan)).outcome
      = some (Handle.shared connect tuning (Visit.first? visits) vars)
  failed : ∀ vars plan failure, plan.kind = .elasticsearch →
    ((s.receive connect state (.resolve vars plan)).outcome = some (.error failure) ↔
      Visit.first? visits = none ∧ Environment.read vars = .error failure ∧
        ∃ name, failure = Environment.missing name)
  unchanged : ∀ vars plan failure,
    (s.receive connect state (.resolve vars plan)).outcome = some (.error failure) →
    (s.receive connect state (.resolve vars plan)).site = s
  refused : ∀ vars plan tag, plan.kind = .unknown tag →
    s.receive connect state (.resolve vars plan)
      = ⟨some (.error (.unsupported tag)), [.noProvider plan.id tag], s⟩
  kept : (s.receive connect state .shutdown).site.registry = s.registry

/-- **A registry shares one provider**, in every run of resolutions and shutdowns, whatever the
variables are at each of them. -/
theorem Registry.shares_provider (connect : Environment → Tuning → Provider σ) (state : σ)
    (tuning : Tuning) (visits : List Visit) :
    ((Site.fresh tuning).after connect state visits).SharesOne connect state tuning visits := by
  have hshares : ∀ visits, Site.Shares connect state tuning (Visit.first? visits)
      ((Site.fresh tuning).after connect state visits) := fun visits => by
    simpa using Site.Shares.unbuilt.after visits
  have hnow := hshares visits
  refine ⟨⟨hnow.worlds_length.1, hnow.reaperCount_eq, hnow.worlds_length.2⟩, hnow.current,
    fun before vars plan later handle hsplit hok => ?handed,
    fun vars plan hkind => hnow.outcome_elasticsearch hkind,
    fun vars plan failure hkind => ?failed, fun vars plan failure => hnow.site_of_error,
    fun vars plan tag => hnow.receive_unknown, Site.receive_shutdown_registry⟩
  case handed =>
    -- Once the handle is kept, the first environment of the run is the one it was built for.
    have hkept := Site.receive_current_of_ok hok
    rw [((hshares before).receive _).current] at hkept
    obtain ⟨e, he, rfl⟩ := Option.map_eq_some_iff.1 hkept
    have hfirst : Visit.first? visits = some e := by
      rw [hsplit, Visit.first?_append, Visit.first?_cons, ← Option.or_assoc, he, Option.some_or]
    rw [hnow.current, hfirst]
    rfl
  case failed =>
    rw [hnow.outcome_error_iff hkind]
    exact ⟨fun h => ⟨h.1, h.2, Environment.missing_of_read h.2⟩, fun h => ⟨h.1, h.2.1⟩⟩

end ClusterBroker
