import ClusterBroker.Proofs.Domain.Naming
import ClusterBroker.Proofs.Provider.Troubles

/-!
# What callers learn of an error of the service

Between the service and the caller an error is worded twice, and either wording has its own notion of
a domain that is not there.  This module says what is left of code and message at the end.

**Reports.**  `Operation.Reports` is what an operation says of an error with a code and a message.

**`Operation.errors_kept`**: it says that and nothing else, and it calls an instance not found just if
the service has said so of its domain.  A success without a report on a domain is an error of a
creation, but not of a description.
-/

namespace ClusterBroker

open Domain (Request Settings)
open Wire (Line Trouble)

variable {σ : Type}

/-! ## Reports -/

/-- The wording of an error with a code and a message, where it is not told by name. -/
def errorText (code message : Option String) : String :=
  if code = some "ResourceNotFoundException" then "Domain not found: " ++ message.getD ""
  else "Request rejected: " ++ code.getD "Unknown" ++ ": " ++ message.getD ""

/-- What is reported of an error in answer to a description. -/
def describeError (name : String) (code message : Option String) : Failure :=
  if code = some "ResourceNotFoundException" then .notFound name
  else .transient (errorText code message)

/-- What an operation reports of an error with a code and a message in answer to a call. -/
def Operation.Reports (code message : Option String) (failure : Failure) : Operation → Call → Prop
  | .getInstance name _, .describe asked =>
    asked = name ∧ failure = describeError name code message
  | .modify target _, .describe asked =>
    asked = target.name ∧ failure = describeError target.name code message
  | .modify target _, .update r =>
    r.name = target.name ∧ failure = .modify (errorText code message)
  | .provision _ _ _, .create _ => failure = .provision (errorText code message)
  | .provision _ _ _, .addTags _ _ =>
    ∃ orphan, failure = .untagged orphan ("Tag update failed: " ++ errorText code message)
  | .deprovision target _, .delete asked =>
    asked = target.name ∧ failure = .deprovision (errorText code message)
  | .tag target _ _, .addTags arn _ =>
    arn = target.serviceId ∧ failure = .tag (errorText code message)
  | .untag target _, .removeTags arn _ =>
    arn = target.serviceId ∧ failure = .tag (errorText code message)
  | _, _ => False

lemma Wire.Trouble.refusal_service (code message : Option String) :
    (service code message).refusal
      = if code = some "ResourceNotFoundException" then .notFound (message.getD "")
        else .rejected (code.getD "Unknown" ++ ": " ++ message.getD "") := by
  cases code <;> simp [refusal, Wire.refusalOf]

lemma Wire.Trouble.message_service (code message : Option String) :
    (service code message).refusal.message = errorText code message := by
  have hrejected (text : String) : (Refusal.rejected text).message = "Request rejected: " ++ text :=
    rfl
  rw [refusal_service, errorText]
  by_cases hcode : code = some "ResourceNotFoundException"
  · rw [if_pos hcode, if_pos hcode]
    exact rfl
  · rw [if_neg hcode, if_neg hcode, hrejected]
    simp only [String.append_assoc]

/-- Only the one code means that a domain was not found. -/
lemma Wire.Trouble.eq_service_of_refusal {trouble : Trouble} {message : String}
    (h : trouble.refusal = .notFound message) :
    ∃ told, trouble = .service (some "ResourceNotFoundException") told := by
  cases trouble with
  | service code told =>
      rw [refusal_service] at h
      by_cases hcode : code = some "ResourceNotFoundException"
      · exact ⟨told, by rw [hcode]⟩
      · rw [if_neg hcode] at h
        cases h
  | statusless name => cases h
  | unreached => cases h

lemma Call.describe_failure (name : String) (code message : Option String) :
    (describe name).failure (Trouble.service code message).refusal
      = describeError name code message := by
  have hmessage := Trouble.message_service code message
  rw [Trouble.refusal_service] at hmessage ⊢
  rw [describeError]
  by_cases hcode : code = some "ResourceNotFoundException"
  · rw [if_pos hcode, if_pos hcode]
    exact rfl
  · rw [if_neg hcode] at hmessage ⊢
    rw [if_neg hcode, ← hmessage]
    exact rfl

namespace Operation

variable {o : Operation} {p : Provider Line} {w : World Line} {c : Call}

/-- The calls of an operation fail as it reports. -/
lemma Makes.reports {code message : Option String} {failure : Failure} (h : o.Makes p w c)
    (hfails : o.FailsWith c (Trouble.service code message).refusal failure) :
    o.Reports code message failure c := by
  have hmessage := Trouble.message_service code message
  cases h with
  | get => exact ⟨rfl, hfails.trans (Call.describe_failure _ code message)⟩
  | create => exact hfails.trans (congrArg Failure.provision hmessage)
  | bill =>
      obtain ⟨orphan, rfl⟩ := hfails
      exact ⟨orphan, by rw [← hmessage]; rfl⟩
  | update => exact ⟨rfl, hfails.trans (congrArg Failure.modify hmessage)⟩
  | review => exact ⟨rfl, hfails.trans (Call.describe_failure _ code message)⟩
  | delete => exact ⟨rfl, hfails.trans (congrArg Failure.deprovision hmessage)⟩
  | tag => exact ⟨rfl, hfails.trans (congrArg Failure.tag hmessage)⟩
  | untag => exact ⟨rfl, hfails.trans (congrArg Failure.tag hmessage)⟩

/-- An instance is reported as not found only where a description is refused so. -/
lemma FailsWith.eq_describe {refusal : Refusal} {name : String}
    (h : o.FailsWith c refusal (.notFound name)) :
    c = .describe name ∧ ∃ message, refusal = .notFound message := by
  unfold FailsWith at h
  split at h
  · obtain ⟨orphan, horphan⟩ := h
    cases horphan
  · cases c with
    | describe asked =>
        cases refusal with
        | notFound message =>
            cases h
            exact ⟨rfl, message, rfl⟩
        | _ => cases h
    | _ => cases h

end Operation

/-! ## Replies taken -/

lemma Script.request_refused {p : Provider σ} {w : World σ} {c : Call}
    {refused : Refusal → Failure} {rest : c.Answer → Script} {refusal : Refusal}
    (h : (p.reply c w).outcome = .error refusal) :
    ((request c refused rest).run p w).1 = .error (refused refusal) := by
  simp only [request, run, h]

section Takes

variable {region : String} {p : Provider Line} {w : World Line} {c : Call} {reply : Wire.Reply}
  {more : List Wire.Reply}

/-- What becomes of a call that takes the next reply. -/
lemma Provider.reply_of_takes (hplane : p.plane = Wire.plane region)
    (h : Wire.Takes region c w.plane.replies reply more) :
    (p.reply c w).outcome = (Wire.read c reply).mapError Trouble.refusal ∧
      (p.afterCall c w).plane.replies = more := by
  have hanswer := Wire.answer_eq_ask region c w.plane
  rw [h.ask] at hanswer
  rw [Provider.reply, afterCall, hplane]
  exact hanswer

/-- A call that takes a success is answered, if it is not a creation. -/
lemma Provider.reply_of_success (hplane : p.plane = Wire.plane region)
    (h : Wire.Takes region c w.plane.replies reply more) (hreply : reply.Succeeds c)
    (hcreate : ∀ r, c ≠ .create r) :
    (∃ answer, (p.reply c w).outcome = .ok answer) ∧ (p.afterCall c w).plane.replies = more := by
  obtain ⟨houtcome, hrest⟩ := p.reply_of_takes hplane h
  rcases Wire.read_of_succeeds hreply with ⟨answer, hread⟩ | ⟨r, hr, -⟩
  · rw [hread] at houtcome
    exact ⟨⟨answer, houtcome⟩, hrest⟩
  · exact absurd hr (hcreate r)

/-- Such a call is enough where nothing else is to be done. -/
lemma Script.request_done (hplane : p.plane = Wire.plane region) {refused : Refusal → Failure}
    (h : Wire.Takes region c w.plane.replies reply more) (hreply : reply.Succeeds c)
    (hcreate : ∀ r, c ≠ .create r) :
    ((request c refused fun _ => finish (.ok .done)).run p w).1 = .ok .done := by
  obtain ⟨⟨answer, houtcome⟩, -⟩ := p.reply_of_success hplane h hreply hcreate
  simp only [request, run, houtcome]

/-- A description that is answered without a report gives an instance of which nothing is known. -/
lemma Script.describe_statusless (hplane : p.plane = Wire.plane region) {id name : String}
    (plan : Plan) (h : Wire.Takes region (.describe name) w.plane.replies reply more)
    (hreply : reply.Statusless) :
    ((describe id name plan).run p w).1
      = .ok (.found (Provider.toInstance id plan .blank)) := by
  have houtcome : (p.reply (.describe name) w).outcome = .ok .blank := by
    rw [(p.reply_of_takes hplane h).1, (Wire.read_of_statusless hreply).2]
    rfl
  simp only [describe, request, run, houtcome]

end Takes

/-! ## Every operation -/

/-- The only call of an operation that is done with it. -/
def Operation.soleCall? : Operation → Option Call
  | deprovision target _ => some (.delete target.name)
  | tag target key value => some (.addTags target.serviceId [⟨key, value⟩])
  | untag target key => some (.removeTags target.serviceId [key])
  | _ => none

/-- What callers learn of the replies of the service in a region.

* `reported`: if the first call that is not answered has an error with a code and a message, the
  operation fails with the report of these.
* `notFound`: nothing else is reported as not found, no other error and no reply that never came.
* `created`: a creation without a report on the domain fails, and nothing is stored.
* `found`, `modified`: a description without one is taken for a report that says nothing.
* `answered`: apart from creations every request succeeds on a success.
* `done`: so does an operation that is only one request for which nothing has to be reported. -/
structure Operation.ErrorsKept (o : Operation) (region : String) (p : Provider Line)
    (w : World Line) : Prop where
  reported {c : Call} {code message : Option String} :
    (o.agenda p w).trouble? region w.plane.replies = some (c, .service code message) →
      ∃ failure, (o.run p w).1 = .error failure ∧ o.Reports code message failure c
  notFound (name : String) : (o.run p w).1 = .error (.notFound name) ↔
    ∃ message, (o.agenda p w).trouble? region w.plane.replies
      = some (.describe name, .service (some "ResourceNotFoundException") message)
  created {id owner : String} {plan : Plan} {request : Request} {notices : List Notice}
    {reply : Wire.Reply} {more : List Wire.Reply} :
    o = .provision id plan owner →
      Request.resolve p.environment plan.details
        (.generated p.tuning.namePrefix (p.tokens w.drawn)) = .ok (request, notices) →
      Wire.Takes region (.create request) w.plane.replies reply more → reply.Statusless →
      (o.run p w).1 = .error (.provision ("Malformed response: no status for " ++ request.name)) ∧
        (o.run p w).2.timeline.cache = (w.timeline.runTo (o.run p w).2.timeline.now).cache
  found {name : String} {plan : Plan} {reply : Wire.Reply} {more : List Wire.Reply} :
    o = .getInstance name plan → w.timeline.get? ⟨name, plan.id⟩ = none →
      Wire.Takes region (.describe name) w.plane.replies reply more → reply.Statusless →
      (o.run p w).1 = .ok (.found (Provider.toInstance "" plan .blank))
  modified {target : Instance} {plan : Plan} {request : Request} {notices : List Notice}
    {first reply : Wire.Reply} {rest more : List Wire.Reply} :
    o = .modify target plan →
      Request.resolve p.environment plan.details (.given target.name) = .ok (request, notices) →
      Wire.Takes region (.update request) w.plane.replies first rest →
      first.Succeeds (.update request) →
      Wire.Takes region (.describe target.name) rest reply more → reply.Statusless →
      (o.run p w).1 = .ok (.found (Provider.toInstance target.id plan .blank))
  answered {c : Call} {reply : Wire.Reply} {more : List Wire.Reply} :
    (∀ r, c ≠ .create r) → Wire.Takes region c w.plane.replies reply more → reply.Succeeds c →
      ∃ answer, (p.reply c w).outcome = .ok answer
  done {c : Call} {reply : Wire.Reply} {more : List Wire.Reply} :
    o.soleCall? = some c → Wire.Takes region c w.plane.replies reply more → reply.Succeeds c →
      (o.run p w).1 = .ok .done

/-- **Errors of the service keep their meaning**, in every operation and whatever is replied. -/
theorem Operation.errors_kept (o : Operation) {region : String} {p : Provider Line}
    (hplane : p.plane = Wire.plane region) (w : World Line) : o.ErrorsKept region p w where
  reported h := by
    obtain ⟨failure, hfail, hfails⟩ := fails_of_trouble hplane h
    exact ⟨failure, hfail, (makes_of_wants (Agenda.wants_of_trouble? h)).reports hfails⟩
  notFound name := by
    constructor
    · intro hfail
      cases hread : o.unreadable? with
      | some failure =>
          obtain ⟨⟨reason, rfl⟩, hrun⟩ := run_unreadable hread p w
          rw [hrun] at hfail
          cases hfail
      | none =>
          have hrun := troubles_run (w := w) hplane hread
          rw [hfail] at hrun
          cases htrouble : (o.agenda p w).trouble? region w.plane.replies with
          | none =>
              rw [htrouble] at hrun
              obtain ⟨outcome, houtcome⟩ := hrun
              cases houtcome
          | some found =>
              obtain ⟨c, trouble⟩ := found
              rw [htrouble] at hrun
              obtain ⟨failure, hfailure, hfails⟩ := hrun
              cases hfailure
              obtain ⟨rfl, message, hrefusal⟩ := hfails.eq_describe
              obtain ⟨told, rfl⟩ := Trouble.eq_service_of_refusal hrefusal
              exact ⟨told, rfl⟩
    · rintro ⟨message, htrouble⟩
      obtain ⟨failure, hfail, hfails⟩ := fails_of_trouble hplane htrouble
      have hfailure : failure = (Call.describe name).failure
          (Trouble.service (some "ResourceNotFoundException") message).refusal := by
        cases o <;> exact hfails
      rw [hfail, hfailure, Call.describe_failure]
      rfl
  created {id owner plan request notices reply more} ho hresolve htakes hreply := by
    subst ho
    obtain ⟨settings, hread, rfl⟩ := Request.resolve_eq_ok.1 hresolve
    have houtcome := (p.reply_of_takes hplane htakes).1
    rw [(Wire.read_of_statusless hreply).1] at houtcome
    have hrun := (provision id plan owner).run_eq_script p w
    rw [script, Script.provision, hread] at hrun
    have hfail : ((provision id plan owner).run p w).1 = .error (.provision _) :=
      (congrArg Prod.fst hrun).trans (Script.request_refused houtcome)
    refine ⟨hfail.trans ?_, cache_of_failure hfail rfl⟩
    exact congrArg (fun reason => Except.error (Failure.provision reason))
      String.append_assoc.symm
  found {name plan reply more} ho hmiss htakes hreply := by
    subst ho
    rw [run_eq_script, script, Script.getInstance, Script.run, hmiss]
    exact Script.describe_statusless hplane plan htakes hreply
  modified {target plan request notices first reply rest more} ho hresolve htakes hfirst hnext
      hreply := by
    subst ho
    obtain ⟨settings, hread, rfl⟩ := Request.resolve_eq_ok.1 hresolve
    obtain ⟨⟨answer, houtcome⟩, hrest⟩ := p.reply_of_success hplane
      (w := (w.noteAll notices).noteAll [.updating target.name plan.id]) htakes hfirst
      (fun _ => Call.noConfusion)
    rw [← hrest] at hnext
    simp only [run_eq_script, script, Script.modify, hread, Script.run, Script.request, houtcome]
    exact Script.describe_statusless hplane plan hnext hreply
  answered hcreate htakes hreply := (p.reply_of_success hplane htakes hreply hcreate).1
  done {c reply more} hsole htakes hreply := by
    rw [run_eq_script]
    cases o with
    | deprovision target takeSnapshot =>
        obtain rfl := Option.some.inj hsole
        cases takeSnapshot with
        | false =>
            exact Script.request_done (w := w.noteAll [.deleting target.name]) hplane htakes hreply
              (fun _ => Call.noConfusion)
        | true =>
            exact Script.request_done (w := (w.noteAll [.snapshotUnsupported target.name]).noteAll
              [.deleting target.name]) hplane htakes hreply (fun _ => Call.noConfusion)
    | tag target key value =>
        obtain rfl := Option.some.inj hsole
        exact Script.request_done hplane htakes hreply (fun _ => Call.noConfusion)
    | untag target key =>
        obtain rfl := Option.some.inj hsole
        exact Script.request_done hplane htakes hreply (fun _ => Call.noConfusion)
    | _ => cases hsole

namespace Wire

/-- A provider over the wire. -/
def provider : Provider Line where
  environment := Rehearsal.provider.environment
  tuning := Rehearsal.provider.tuning
  plane := plane "eu-west-1"
  tokens := Rehearsal.provider.tokens

/-- The world in which it starts, with one reply to come. -/
def awaiting (reply : Reply) : World Line :=
  provider.start (Line.start.expect reply)

/-- The service says that a domain is not there, and no more. -/
def gone : Reply :=
  .response 404 [] "\x7b\"code\":\"ResourceNotFoundException\"\x7d"

/-- A success with an empty record. -/
def blank : Reply :=
  .response 200 [] "\x7b\x7d"

/-- A domain that is not there is not found by the name that was asked for. -/
theorem gone_not_found :
    provider.plane = plane "eu-west-1" ∧
      ((Operation.getInstance "db-1" Rehearsal.plan).run provider (awaiting gone)).1
        = .error (.notFound "db-1") :=
  ⟨rfl, ((Operation.errors_kept (.getInstance "db-1" Rehearsal.plan) rfl (awaiting gone)).notFound
    "db-1").2 ⟨none, by decide +kernel⟩⟩

/-- A description that says nothing is no error: what is found has no name, and it is stored. -/
theorem blank_found :
    let run := (Operation.getInstance "db-1" Rehearsal.plan).run provider (awaiting blank)
    run.1 ≠ .error (.transient "Malformed response: no status for db-1") ∧
      run.1 = .ok (.found (Provider.toInstance "" Rehearsal.plan .blank)) ∧
      run.2.timeline.get? ⟨"", "small"⟩
        = some (Provider.toInstance "" Rehearsal.plan .blank) := by
  intro run
  have hrun : run.1 = .ok (.found (Provider.toInstance "" Rehearsal.plan .blank)) := rfl
  refine ⟨?_, hrun, rfl⟩
  rw [hrun]
  exact nofun

end Wire

end ClusterBroker
