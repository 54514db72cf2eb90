import ClusterBroker.Proofs.Provider.Records

/-!
# What an operation calls, and how it fails

**Agendas.**  `Operation.agenda` lists the calls that an operation wants to make; the next one may
depend on the answer before it.  `Agenda.Followed` says that calls were made in this order up to
the first refusal, each of them once.

**Failures.**  `Call.failure` is what the refusal of a call is reported as, and
`Operation.FailsWith` adds the one exception: an owner that cannot be written on a new cluster.

**The cache.**  `Script.Commits` holds of a script that can no longer fail once it has stored an
instance.  Such a script, if it fails, leaves of the cache what time alone would leave of it.
-/

namespace ClusterBroker

open Domain (Settings)

variable {σ : Type}

/-! ## Agendas -/

/-- Calls to be made: the next one, and what is to come after its answer. -/
inductive Agenda where
  | done
  | step (c : Call) (rest : c.Answer → Agenda)

/-- Calls were made in the order of an agenda, each of them once, up to the first refusal. -/
inductive Agenda.Followed : Agenda → List Exchange → Option (Call × Refusal) → Prop where
  | done : Followed .done [] none
  | refused {c : Call} {rest : c.Answer → Agenda} {sent answered : Nat} {refusal : Refusal} :
    Followed (.step c rest) [⟨c, sent, answered, .error refusal⟩] (some (c, refusal))
  | answered {c : Call} {rest : c.Answer → Agenda} {sent answered : Nat} {answer : c.Answer}
    {more : List Exchange} {stop : Option (Call × Refusal)} :
    Followed (rest answer) more stop →
      Followed (.step c rest) (⟨c, sent, answered, .ok answer⟩ :: more) stop

namespace Operation

/-- The agenda of an operation.  One with settings that cannot be read makes no call. -/
def agenda (p : Provider σ) (w : World σ) : Operation → Agenda
  | getInstance name plan =>
    match w.timeline.get? ⟨name, plan.id⟩ with
    | some _ => .done
    | none => .step (.describe name) fun _ => .done
  | provision _ plan owner =>
    match Settings.ofDetails plan.details with
    | .error _ => .done
    | .ok (settings, _) =>
      .step
        (.create (.make p.environment settings
          (.generated p.tuning.namePrefix (p.tokens w.drawn)))) fun report =>
      .step (.addTags report.arn [⟨"billingcode", owner⟩]) fun _ => .done
  | modify target plan =>
    match Settings.ofDetails plan.details with
    | .error _ => .done
    | .ok (settings, _) =>
      .step (.update (.make p.environment settings (.given target.name))) fun _ =>
      .step (.describe target.name) fun _ => .done
  | deprovision target _ => .step (.delete target.name) fun _ => .done
  | tag target key value => .step (.addTags target.serviceId [⟨key, value⟩]) fun _ => .done
  | untag target key => .step (.removeTags target.serviceId [key]) fun _ => .done
  | postProvision _ | urls _ | serviceName => .done

/-- The failure of an operation whose settings cannot be read. -/
def unreadable? : Operation → Option Failure
  | provision _ plan _ | modify _ plan =>
    match Settings.ofDetails plan.details with
    | .error failure => some failure
    | .ok _ => none
  | _ => none

end Operation

/-! ## Failures -/

/-- What the refusal of a call is reported as. -/
def Call.failure : Call → Refusal → Failure
  | .describe name, .notFound _ => .notFound name
  | .describe _, refusal => .transient refusal.message
  | .create _, refusal => .provision refusal.message
  | .update _, refusal => .modify refusal.message
  | .delete _, refusal => .deprovision refusal.message
  | .addTags _ _, refusal => .tag refusal.message
  | .removeTags _ _, refusal => .tag refusal.message

/-- What an operation reports when a call of its agenda is refused.  Without its owner a new cluster
is left behind, and the failure carries it. -/
def Operation.FailsWith (o : Operation) (c : Call) (refusal : Refusal) (failure : Failure) : Prop :=
  match o, c with
  | .provision _ _ _, .addTags _ _ =>
    ∃ orphan, failure = .untagged orphan (c.failure refusal).message
  | _, _ => failure = c.failure refusal

/-- The wording of a failed call ends with that of the refusal; a cluster that was not found is
reported by its name alone. -/
lemma Call.failure_message (c : Call) (refusal : Refusal) :
    (∃ name, c = .describe name ∧ c.failure refusal = .notFound name) ∨
      ∃ front, (c.failure refusal).message = front ++ refusal.message := by
  cases c with
  | describe name =>
      cases refusal with
      | notFound message => exact .inl ⟨name, rfl, rfl⟩
      | _ => exact .inr ⟨"Control plane unavailable: ", rfl⟩
  | create request => exact .inr ⟨"Provision failed: ", rfl⟩
  | update request => exact .inr ⟨"Modify failed: ", rfl⟩
  | delete name => exact .inr ⟨"Deprovision failed: ", rfl⟩
  | addTags arn tags => exact .inr ⟨"Tag update failed: ", rfl⟩
  | removeTags arn keys => exact .inr ⟨"Tag update failed: ", rfl⟩

lemma Operation.FailsWith.message {o : Operation} {c : Call} {refusal : Refusal}
    {failure : Failure} (h : o.FailsWith c refusal failure) :
    (∃ name, c = .describe name ∧ failure = .notFound name) ∨
      ∃ front, failure.message = front ++ refusal.message := by
  unfold FailsWith at h
  split at h
  · next arn tags =>
      obtain ⟨orphan, rfl⟩ := h
      refine .inr ⟨"Instance " ++ orphan.name ++ " was created but could not be tagged: " ++
        "Tag update failed: ", ?_⟩
      show "Instance " ++ orphan.name ++ " was created but could not be tagged: " ++
        ("Tag update failed: " ++ refusal.message) = _
      exact String.append_assoc.symm
  · rw [h]
    exact c.failure_message refusal

/-! ## Scripts and agendas -/

/-- A result came about by following an agenda: the operation succeeds if no call was refused, and
fails with the refusal otherwise. -/
def Agenda.Explains (agenda : Agenda) (o : Operation) (w : World σ)
    (r : Except Failure Outcome × World σ) : Prop :=
  ∃ made stop, r.2.exchanges = w.exchanges ++ made ∧ agenda.Followed made stop ∧
    match stop with
    | none => ∃ outcome, r.1 = .ok outcome
    | some (c, refusal) => ∃ failure, r.1 = .error failure ∧ o.FailsWith c refusal failure

namespace Agenda.Explains

variable {o : Operation} {p : Provider σ} {w : World σ}

lemma done {after : World σ} {outcome : Outcome} (h : after.exchanges = w.exchanges) :
    Explains .done o w (.ok outcome, after) :=
  ⟨[], none, by simp [h], .done, outcome, rfl⟩

/-- The first call of a script is the first one of its agenda. -/
lemma call {c : Call} {next : c.Answer → Agenda} {rest : Except Refusal c.Answer → Script}
    (hrefused : ∀ refusal, ∃ failure after,
      (rest (.error refusal)).run p (p.afterCall c w) = (.error failure, after) ∧
        after.exchanges = (p.afterCall c w).exchanges ∧ o.FailsWith c refusal failure)
    (hanswered : ∀ answer, (next answer).Explains o (p.afterCall c w)
      ((rest (.ok answer)).run p (p.afterCall c w))) :
    Explains (.step c next) o w ((Script.call c rest).run p w) := by
  have hx : (p.afterCall c w).exchanges = w.exchanges ++ [p.exchange c w] := rfl
  cases hreply : (p.reply c w).outcome with
  | error refusal =>
      obtain ⟨failure, after, hrun, hafter, hfails⟩ := hrefused refusal
      refine ⟨[p.exchange c w], some (c, refusal), ?_, ?_, failure, ?_, hfails⟩
      · simp only [Script.run, hreply, hrun, hafter, hx]
      · rw [Provider.exchange, hreply]
        exact .refused
      · simp only [Script.run, hreply, hrun]
  | ok answer =>
      obtain ⟨made, stop, hmade, hfollowed, hresult⟩ := hanswered answer
      refine ⟨p.exchange c w :: made, stop, ?_, ?_, ?_⟩
      · simp only [Script.run, hreply, hmade, hx, List.append_assoc, List.cons_append,
          List.nil_append]
      · rw [Provider.exchange, hreply]
        exact .answered hfollowed
      · simpa only [Script.run, hreply] using hresult

lemma request {c : Call} {next : c.Answer → Agenda} {refused : Refusal → Failure}
    {rest : c.Answer → Script} (hrefused : ∀ refusal, o.FailsWith c refusal (refused refusal))
    (hanswered : ∀ answer, (next answer).Explains o (p.afterCall c w)
      ((rest answer).run p (p.afterCall c w))) :
    Explains (.step c next) o w ((Script.request c refused rest).run p w) :=
  call (fun refusal => ⟨refused refusal, _, rfl, rfl, hrefused refusal⟩) hanswered

lemma describe {id name : String} {plan : Plan}
    (h : ∀ refusal, o.FailsWith (.describe name) refusal (Provider.describeFailure name refusal)) :
    Explains (.step (.describe name) fun _ => .done) o w
      ((Script.describe id name plan).run p w) :=
  request h fun _ => done rfl

lemma billing {made : Instance} {owner : String} {id : String} {plan : Plan} :
    Explains (.step (.addTags made.serviceId [⟨"billingcode", owner⟩]) fun _ => .done)
      (.provision id plan owner) w ((Script.billing made owner).run p w) :=
  call (fun _ => ⟨_, _, rfl, rfl, made, rfl⟩) fun _ => done rfl

end Agenda.Explains

lemma Provider.describeFailure_eq (name : String) (refusal : Refusal) :
    describeFailure name refusal = (Call.describe name).failure refusal := by
  cases refusal <;> rfl

open Agenda in
/-- Every operation whose settings can be read follows its agenda. -/
theorem Operation.explains_run (o : Operation) (p : Provider σ) (w : World σ)
    (h : o.unreadable? = none) : (o.agenda p w).Explains o w ((o.script p).run p w) := by
  cases o with
  | getInstance name plan =>
      simp only [agenda, script, Script.getInstance, Script.run]
      cases w.timeline.get? ⟨name, plan.id⟩ with
      | some found => exact Explains.done rfl
      | none => exact Explains.describe (Provider.describeFailure_eq name)
  | provision id plan owner =>
      simp only [unreadable?] at h
      simp only [agenda, script, Script.provision]
      cases hparse : Settings.ofDetails plan.details with
      | error failure => simp [hparse] at h
      | ok parsed => exact Explains.request (fun _ => rfl) fun _ => Explains.billing
  | modify target plan =>
      simp only [unreadable?] at h
      simp only [agenda, script, Script.modify]
      cases hparse : Settings.ofDetails plan.details with
      | error failure => simp [hparse] at h
      | ok parsed =>
          exact Explains.request (fun _ => rfl) fun _ =>
            Explains.describe (Provider.describeFailure_eq target.name)
  | deprovision target takeSnapshot =>
      cases takeSnapshot <;> exact Explains.request (fun _ => rfl) fun _ => Explains.done rfl
  | tag target key value => exact Explains.request (fun _ => rfl) fun _ => Explains.done rfl
  | untag target key => exact Explains.request (fun _ => rfl) fun _ => Explains.done rfl
  | postProvision target => exact Explains.done rfl
  | urls target => exact Explains.done rfl
  | serviceName => exact Explains.done rfl

/-! ## The cache of a failed operation -/

namespace Script

/-- However a script ends, it has succeeded or left something behind. -/
def Delivers : Script → Prop
  | finish result => ∀ failure, result = .error failure → failure.orphan? ≠ none
  | note _ rest => rest.Delivers
  | draw rest => ∀ token, (rest token).Delivers
  | look _ rest => ∀ found, (rest found).Delivers
  | call _ rest => ∀ outcome, (rest outcome).Delivers
  | store _ rest => rest.Delivers
  | wait _ rest => rest.Delivers

/-- Once a script has stored an instance, it delivers. -/
def Commits : Script → Prop
  | finish _ => True
  | note _ rest => rest.Commits
  | draw rest => ∀ token, (rest token).Commits
  | look _ rest => ∀ found, (rest found).Commits
  | call _ rest => ∀ outcome, (rest outcome).Commits
  | store _ rest => rest.Delivers
  | wait _ rest => rest.Commits

lemma Delivers.orphan (p : Provider σ) {s : Script} (h : s.Delivers) (w : World σ)
    {failure : Failure} (hfail : (s.run p w).1 = .error failure) : failure.orphan? ≠ none := by
  induction s generalizing w with
  | finish result => exact h failure hfail
  | note ns rest ih => exact ih h _ hfail
  | draw rest ih => exact ih _ (h _) _ hfail
  | look key rest ih => exact ih _ (h _) _ hfail
  | call c rest ih => exact ih _ (h _) _ hfail
  | store i rest ih => exact ih h _ hfail
  | wait duration rest ih => exact ih h _ hfail

/-- A failed script leaves of the cache what the ticks alone would have left of it. -/
lemma Commits.cache_run (p : Provider σ) {s : Script} (h : s.Commits) (w : World σ)
    {failure : Failure} (hfail : (s.run p w).1 = .error failure) (hlost : failure.orphan? = none) :
    (s.run p w).2.timeline.settle.cache
      = (w.timeline.runTo (s.run p w).2.timeline.now).cache := by
  induction s generalizing w with
  | finish result => rfl
  | note ns rest ih =>
      rw [run, ih h (w.noteAll ns) hfail]
      exact Timeline.runTo_noteAll_cache _ _ _
  | draw rest ih => exact ih _ (h _) w.drawOne hfail
  | look key rest ih => exact ih _ (h _) w hfail
  | call c rest ih =>
      have hlater := ((rest (p.reply c w).outcome).records_run p (p.afterCall c w)).later
      rw [run, ih _ (h _) (p.afterCall c w) hfail]
      exact (Timeline.runTo_wait_cache _ hlater).trans (Timeline.runTo_noteAll_cache _ _ _)
  | store i rest ih => exact absurd hlost (Delivers.orphan p h (w.store i) hfail)
  | wait duration rest ih =>
      have hlater := (rest.records_run p (w.wait duration)).later
      rw [run, ih h (w.wait duration) hfail]
      exact Timeline.runTo_wait_cache _ hlater

lemma commits_describe (id name : String) (plan : Plan) : (describe id name plan).Commits := by
  rintro (refusal | report)
  · trivial
  · rintro failure hfail
    cases hfail

lemma commits_provision (p : Provider σ) (id : String) (plan : Plan) (owner : String) :
    (provision p id plan owner).Commits := by
  unfold provision
  cases Settings.ofDetails plan.details with
  | error failure => trivial
  | ok parsed =>
      rintro token (refusal | report)
      · trivial
      · rintro (refusal | answer) failure hfail
        · cases hfail
          simp [Failure.orphan?]
        · cases hfail

lemma commits_modify (p : Provider σ) (target : Instance) (plan : Plan) :
    (modify p target plan).Commits := by
  unfold modify
  cases Settings.ofDetails plan.details with
  | error failure => trivial
  | ok parsed =>
      rintro (refusal | answer)
      · trivial
      · exact commits_describe target.id target.name plan

end Script

/-- An operation that has stored an instance cannot fail any more, unless it leaves it behind. -/
theorem Operation.commits (o : Operation) (p : Provider σ) : (o.script p).Commits := by
  cases o with
  | getInstance name plan =>
      rintro (_ | found)
      · exact Script.commits_describe "" name plan
      · trivial
  | provision id plan owner => exact Script.commits_provision p id plan owner
  | modify target plan => exact Script.commits_modify p target plan
  | deprovision target takeSnapshot => cases takeSnapshot <;> rintro (refusal | answer) <;> trivial
  | tag target key value => rintro (refusal | answer) <;> trivial
  | untag target key => rintro (refusal | answer) <;> trivial
  | postProvision target => trivial
  | urls target => trivial
  | serviceName => trivial

/-! ## Runs -/

/-- Settings that cannot be read are a failure of the configuration. -/
lemma Domain.Settings.configuration_of_ofDetails {details : Details} {failure : Failure}
    (h : ofDetails details = .error failure) : ∃ reason, failure = .configuration reason := by
  unfold ofDetails at h
  cases htext : ofText details.text.toList with
  | error fault =>
      rw [htext] at h
      cases h
      exact ⟨_, rfl⟩
  | ok parsed =>
      rw [htext] at h
      cases h

/-- An operation whose settings cannot be read fails at once. -/
lemma Operation.run_unreadable {o : Operation} {failure : Failure}
    (h : o.unreadable? = some failure) (p : Provider σ) (w : World σ) :
    (∃ reason, failure = .configuration reason) ∧ o.run p w = (.error failure, w.settle) := by
  rw [run_eq_script]
  cases o with
  | provision id plan owner =>
      simp only [unreadable?] at h
      cases hparse : Settings.ofDetails plan.details with
      | error other =>
          obtain rfl : other = failure := by simpa [hparse] using h
          exact ⟨Settings.configuration_of_ofDetails hparse, by simp [script, Script.provision, hparse, Script.run]⟩
      | ok parsed => simp [hparse] at h
  | modify target plan =>
      simp only [unreadable?] at h
      cases hparse : Settings.ofDetails plan.details with
      | error other =>
          obtain rfl : other = failure := by simpa [hparse] using h
          exact ⟨Settings.configuration_of_ofDetails hparse, by simp [script, Script.modify, hparse, Script.run]⟩
      | ok parsed => simp [hparse] at h
  | _ => cases h

/-- **A failing operation stops at once.**  Whatever the world and the control plane, an operation
whose settings cannot be read fails as a configuration, makes no call and takes no time.  Any other
one makes the calls of its agenda, each of them once, up to the first refusal.  If there is none it
succeeds; otherwise it fails as the refused call wants it, with the wording of the refusal unless
the cluster was not found, and unless it leaves a new cluster behind, the cache holds what the ticks
alone would have left in it. -/
theorem Operation.run_follows_agenda (o : Operation) (p : Provider σ) (w : World σ) :
    let result := (o.run p w).1
    let after := (o.run p w).2
    match o.unreadable? with
    | some failure =>
      (∃ reason, failure = .configuration reason) ∧ result = .error failure ∧ after = w.settle
    | none =>
      ∃ made stop, after.exchanges = w.exchanges ++ made ∧ (o.agenda p w).Followed made stop ∧
        match stop with
        | none => ∃ outcome, result = .ok outcome
        | some (c, refusal) =>
          ∃ failure, result = .error failure ∧ o.FailsWith c refusal failure ∧
            ((∃ name, c = .describe name ∧ failure = .notFound name) ∨
              ∃ front, failure.message = front ++ refusal.message) ∧
            (failure.orphan? = none →
              after.timeline.cache = (w.timeline.runTo after.timeline.now).cache) := by
  intro result after
  cases hread : o.unreadable? with
  | some failure =>
      obtain ⟨hreason, hrun⟩ := run_unreadable hread p w
      exact ⟨hreason, congrArg Prod.fst hrun, congrArg Prod.snd hrun⟩
  | none =>
      obtain ⟨made, stop, hmade, hfollowed, hresult⟩ := o.explains_run p w hread
      have hafter : after = ((o.script p).run p w).2.settle := by
        simp only [after, run_eq_script]
      have hres : result = ((o.script p).run p w).1 := by
        simp only [result, run_eq_script]
      refine ⟨made, stop, ?_, hfollowed, ?_⟩
      · rw [hafter]
        exact hmade
      · cases stop with
        | none => exact hres ▸ hresult
        | some refused =>
            obtain ⟨failure, hfail, hfails⟩ := hresult
            refine ⟨failure, hres.trans hfail, hfails, hfails.message, fun hlost => ?_⟩
            have hcache := (o.commits p).cache_run p w hfail hlost
            rw [hafter]
            show ((o.script p).run p w).2.timeline.settle.cache
              = (w.timeline.runTo ((o.script p).run p w).2.timeline.settle.now).cache
            rw [Timeline.settle_now]
            exact hcache

end ClusterBroker
