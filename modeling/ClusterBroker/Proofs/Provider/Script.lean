import ClusterBroker.Provider.Operation
import Mathlib.Tactic.Lemma

/-!
# Operations as scripts

A script spells out what an operation does, one deed after the other.  Where the next deed depends
on what the world says (an answer, an instance in the cache, a token), the script goes on with a
function of it.  So one induction over scripts serves every operation, whatever the control plane
answers.

* `Script`, `Script.run` — scripts, and what they do to a world.
* `Operation.script` — the script of an operation.
* **`Operation.perform_eq_script`** — performing an operation is running its script.

The scripts are a second view of the operations, not a second implementation: every later statement
is about `Operation.run`, and this equality is the only place where the operations are unfolded.
-/

namespace ClusterBroker

open Domain (Report Request Token)

variable {σ : Type}

/-! ## Single deeds -/

namespace World

/-- The world with more notices. -/
def noteAll (w : World σ) (ns : List Notice) : World σ :=
  { w with timeline := w.timeline.noteAll ns }

/-- The world with one more instance in its cache. -/
def store (w : World σ) (i : Instance) : World σ :=
  { w with timeline := w.timeline.put i }

/-- The world after some time. -/
def wait (w : World σ) (duration : Nat) : World σ :=
  { w with timeline := w.timeline.wait duration }

/-- The world after a token was drawn. -/
def drawOne (w : World σ) : World σ :=
  { w with drawn := w.drawn + 1 }

end World

namespace Provider

/-- What the control plane says to a call. -/
def reply (p : Provider σ) (c : Call) (w : World σ) : Reply c.Answer :=
  (p.plane.answer c w.plane).1

/-- The timeline when the answer to a call arrives. -/
def timelineAfter (p : Provider σ) (c : Call) (w : World σ) : Timeline :=
  (w.timeline.noteAll (p.reply c w).notices).wait (p.reply c w).latency

/-- A call with its answer. -/
def exchange (p : Provider σ) (c : Call) (w : World σ) : Exchange :=
  ⟨c, w.timeline.now, (p.timelineAfter c w).now, (p.reply c w).outcome⟩

/-- The world when the answer to a call arrives. -/
def afterCall (p : Provider σ) (c : Call) (w : World σ) : World σ where
  timeline := p.timelineAfter c w
  plane := (p.plane.answer c w.plane).2
  exchanges := w.exchanges ++ [p.exchange c w]
  drawn := w.drawn

end Provider

/-! ## Scripts -/

/-- What an operation does, one deed after the other, up to its result. -/
inductive Script where
  | finish (result : Except Failure Outcome)
  | note (ns : List Notice) (rest : Script)
  | draw (rest : Token → Script)
  | look (key : CacheKey) (rest : Option Instance → Script)
  | call (c : Call) (rest : Except Refusal c.Answer → Script)
  | store (i : Instance) (rest : Script)
  | wait (duration : Nat) (rest : Script)

namespace Script

/-- Runs a script. -/
def run (p : Provider σ) : Script → World σ → Except Failure Outcome × World σ
  | finish result, w => (result, w)
  | note ns rest, w => rest.run p (w.noteAll ns)
  | draw rest, w => (rest (p.tokens w.drawn)).run p w.drawOne
  | look key rest, w => (rest (w.timeline.get? key)).run p w
  | call c rest, w => (rest (p.reply c w).outcome).run p (p.afterCall c w)
  | store i rest, w => rest.run p (w.store i)
  | wait duration rest, w => rest.run p (w.wait duration)

/-- A call whose refusal ends the script as a failure. -/
def request (c : Call) (refused : Refusal → Failure) (rest : c.Answer → Script) : Script :=
  call c fun
    | .ok answer => rest answer
    | .error refusal => finish (.error (refused refusal))

/-! ## The scripts of the operations -/

/-- Asks for a domain and keeps the instance. -/
def describe (id name : String) (plan : Plan) : Script :=
  request (.describe name) (Provider.describeFailure name) fun report =>
    store (Provider.toInstance id plan report)
      (finish (.ok (.found (Provider.toInstance id plan report))))

/-- Looks an instance up. -/
def getInstance (name : String) (plan : Plan) : Script :=
  look ⟨name, plan.id⟩ fun
    | some found => note [.cacheHit name plan.id] (finish (.ok (.found found)))
    | none => describe "" name plan

/-- Writes the owner on a new instance. -/
def billing (made : Instance) (owner : String) : Script :=
  call (.addTags made.serviceId [⟨Provider.billingTag, owner⟩]) fun
    | .ok _ => finish (.ok (.found made))
    | .error refusal =>
      note [.taggingFailed made.name (Failure.tag refusal.message).message]
        (finish (.error (.untagged made (Failure.tag refusal.message).message)))

/-- Makes a new instance. -/
def provision (p : Provider σ) (id : String) (plan : Plan) (owner : String) : Script :=
  match Domain.Settings.ofDetails plan.details with
  | .error failure => finish (.error failure)
  | .ok (settings, notices) =>
    note notices <| draw fun token =>
    let made := Request.make p.environment settings (.generated p.tuning.namePrefix token)
    note [.creating made.name id plan.id] <|
    request (.create made) (fun refusal => .provision refusal.message) fun report =>
    store (Provider.toInstance id plan report) <|
    wait p.tuning.settleDelay (billing (Provider.toInstance id plan report) owner)

/-- Applies a plan to an instance. -/
def modify (p : Provider σ) (target : Instance) (plan : Plan) : Script :=
  match Domain.Settings.ofDetails plan.details with
  | .error failure => finish (.error failure)
  | .ok (settings, notices) =>
    note notices <|
    note [.updating target.name plan.id] <|
    request (.update (Request.make p.environment settings (.given target.name)))
      (fun refusal => .modify refusal.message) fun _ =>
    describe target.id target.name plan

/-- Deletes an instance. -/
def delete (target : Instance) : Script :=
  note [.deleting target.name] <|
  request (.delete target.name) (fun refusal => .deprovision refusal.message) fun _ =>
  finish (.ok .done)

/-- Changes tags. -/
def retag (c : Call) : Script :=
  request c (fun refusal => .tag refusal.message) fun _ => finish (.ok .done)

end Script

/-- The script of an operation. -/
def Operation.script (p : Provider σ) : Operation → Script
  | getInstance name plan => .getInstance name plan
  | provision id plan owner => .provision p id plan owner
  | modify target plan => .modify p target plan
  | postProvision target => .finish (.ok (.found target))
  | deprovision target takeSnapshot =>
    if takeSnapshot then .note [.snapshotUnsupported target.name] (.delete target)
    else .delete target
  | tag target key value => .retag (.addTags target.serviceId [⟨key, value⟩])
  | untag target key => .retag (.removeTags target.serviceId [key])
  | urls target => .finish (.ok (.urls (Provider.urls target)))
  | serviceName => .finish (.ok (.serviceName Provider.name))

/-! ## Actions, step by step -/

namespace Action

variable {α β : Type}

lemma pure_apply (a : α) (w : World σ) : (pure a : Action σ α) w = (.ok a, w) := rfl

lemma get_apply (w : World σ) : (get : Action σ (World σ)) w = (.ok w, w) := rfl

lemma bind_apply (x : Action σ α) (f : α → Action σ β) (w : World σ) :
    (x >>= f) w = match x w with
      | (.ok a, after) => f a after
      | (.error failure, after) => (.error failure, after) := by
  show (match x w with | (a, after) => (ExceptT.bindCont f a) after) = _
  rcases x w with ⟨a | a, after⟩ <;> rfl

lemma map_apply (f : α → β) (x : Action σ α) (w : World σ) :
    (f <$> x) w = match x w with
      | (.ok a, after) => (.ok (f a), after)
      | (.error failure, after) => (.error failure, after) := by
  have h : f <$> x = x >>= fun a => pure (f a) := map_eq_pure_bind f x
  rw [h, bind_apply]
  rfl

lemma tryCatch_apply (x : Action σ α) (handle : Failure → Action σ α) (w : World σ) :
    (tryCatch x handle) w = match x w with
      | (.ok a, after) => (.ok a, after)
      | (.error failure, after) => handle failure after := by
  show (match x w with | (a, after) => (_ : StateM (World σ) _) after) = _
  rcases x w with ⟨a | a, after⟩ <;> rfl

lemma note_apply (n : Notice) (w : World σ) :
    (Provider.note n : Action σ Unit) w = (.ok (), w.noteAll [n]) := rfl

lemma noteAll_apply (ns : List Notice) (w : World σ) :
    (Provider.onTimeline (·.noteAll ns) : Action σ Unit) w = (.ok (), w.noteAll ns) := rfl

lemma put_apply (i : Instance) (w : World σ) :
    (Provider.onTimeline (·.put i) : Action σ Unit) w = (.ok (), w.store i) := rfl

lemma wait_apply (duration : Nat) (w : World σ) :
    (Provider.onTimeline (·.wait duration) : Action σ Unit) w = (.ok (), w.wait duration) := rfl

lemma draw_apply (p : Provider σ) (w : World σ) :
    p.draw w = (.ok (p.tokens w.drawn), w.drawOne) := rfl

lemma send_apply (p : Provider σ) (c : Call) (w : World σ) :
    p.send c w = (.ok (p.reply c w).outcome, p.afterCall c w) := rfl

lemma request_apply (p : Provider σ) (c : Call) (refused : Refusal → Failure) (w : World σ) :
    p.request c refused w = match (p.reply c w).outcome with
      | .ok answer => (.ok answer, p.afterCall c w)
      | .error refusal => (.error (refused refusal), p.afterCall c w) := by
  rw [Provider.request, bind_apply, send_apply]
  cases (p.reply c w).outcome <;> rfl

end Action

/-! ## Performing is running the script -/

namespace Operation

open ClusterBroker.Action

lemma describe_eq_script (p : Provider σ) (id name : String) (plan : Plan) (w : World σ) :
    (Outcome.found <$> p.describe id name plan) w = (Script.describe id name plan).run p w := by
  simp only [Provider.describe, map_apply, bind_apply, request_apply, Script.describe,
    Script.request, Script.run]
  cases (p.reply (.describe name) w).outcome <;> rfl

lemma getInstance_eq_script (p : Provider σ) (name : String) (plan : Plan) (w : World σ) :
    (getInstance name plan).perform p w = (Script.getInstance name plan).run p w := by
  simp only [perform, Provider.getInstance, Script.getInstance, map_apply, bind_apply, get_apply,
    Script.run]
  cases w.timeline.get? ⟨name, plan.id⟩ with
  | some found => rfl
  | none =>
      have h := describe_eq_script p "" name plan w
      rw [map_apply] at h
      exact h

lemma provision_eq_script (p : Provider σ) (id : String) (plan : Plan) (owner : String)
    (w : World σ) :
    (provision id plan owner).perform p w = (Script.provision p id plan owner).run p w := by
  simp only [perform, Provider.provision, Provider.resolve, Script.provision, map_apply]
  cases Domain.Settings.ofDetails plan.details with
  | error failure => rfl
  | ok parsed =>
      simp only [bind_apply, noteAll_apply, note_apply, draw_apply, pure_apply, request_apply,
        put_apply, wait_apply, Script.run, Script.request]
      cases (p.reply (.create _) _).outcome with
      | error refusal => rfl
      | ok report =>
          simp only [tryCatch_apply, Provider.tag, request_apply, Script.run, Script.billing]
          cases (p.reply (.addTags _ _) _).outcome <;> rfl

lemma modify_eq_script (p : Provider σ) (target : Instance) (plan : Plan) (w : World σ) :
    (modify target plan).perform p w = (Script.modify p target plan).run p w := by
  simp only [perform, Provider.modify, Provider.resolve, Script.modify, map_apply]
  cases Domain.Settings.ofDetails plan.details with
  | error failure => rfl
  | ok parsed =>
      simp only [bind_apply, noteAll_apply, note_apply, pure_apply, request_apply, Script.run,
        Script.request]
      cases (p.reply (.update _) _).outcome with
      | error refusal => rfl
      | ok _ =>
          rw [← describe_eq_script, map_apply]

lemma delete_eq_script (p : Provider σ) (target : Instance) (w : World σ) :
    (deprovision target false).perform p w = (Script.delete target).run p w := by
  simp only [perform, Provider.deprovision, Script.delete, Script.run, Script.request, bind_apply,
    note_apply, request_apply, Bool.false_eq_true, if_false, pure_apply]
  cases (p.reply (.delete _) _).outcome <;> rfl

/-- **Performing an operation is running its script.** -/
theorem perform_eq_script (o : Operation) (p : Provider σ) (w : World σ) :
    o.perform p w = (o.script p).run p w := by
  cases o with
  | getInstance name plan => exact getInstance_eq_script p name plan w
  | provision id plan owner => exact provision_eq_script p id plan owner w
  | modify target plan => exact modify_eq_script p target plan w
  | postProvision target => rfl
  | deprovision target takeSnapshot =>
      cases takeSnapshot with
      | false => exact delete_eq_script p target w
      | true => exact delete_eq_script p target (w.noteAll [.snapshotUnsupported target.name])
  | tag target key value =>
      simp only [perform, Provider.tag, script, Script.retag, Script.request, Script.run,
        bind_apply, request_apply]
      cases (p.reply (.addTags _ _) w).outcome <;> rfl
  | untag target key =>
      simp only [perform, Provider.untag, script, Script.retag, Script.request, Script.run,
        bind_apply, request_apply]
      cases (p.reply (.removeTags _ _) w).outcome <;> rfl
  | urls target => rfl
  | serviceName => rfl

/-- Running an operation is running its script, and then the ticks that are due. -/
theorem run_eq_script (o : Operation) (p : Provider σ) (w : World σ) :
    o.run p w = (((o.script p).run p w).1, ((o.script p).run p w).2.settle) := by
  rw [run, perform_eq_script]

end Operation

end ClusterBroker
