import ClusterBroker.ControlPlane.Wire
import Mathlib.Tactic.Lemma

/-!
# What went wrong with a request

A refusal has one wording for many causes.  Here the causes are kept apart: the error that the service
names, by its code and its message, a success without what it should bring, and a reply that never
came.

**Causes.**  `Wire.read` takes a reply apart into an answer or a `Trouble`, and `Trouble.refusal` is
what is made of a trouble.  **`Wire.receive_eq_read`**: this is all that happens to a reply.

**Lines.**  `Wire.ask` is the same for a call on a line of replies, of which it takes the first, and
`Wire.answer_eq_ask` says that the control plane asks in this way.
-/

namespace ClusterBroker.Wire

open Domain (Report)

/-! ## Causes -/

/-- What may be wrong with a request.

* `service`: an error with a code and a message, as far as there are any.  A reply that cannot be
  read is an error with neither.
* `statusless`: a success without the report on the domain that it should be about.
* `unreached`: nothing was sent, or no whole reply came back. -/
inductive Trouble where
  | service (code message : Option String)
  | statusless (name : String)
  | unreached
  deriving DecidableEq

/-- The refusal that is made of a trouble. -/
def Trouble.refusal : Trouble → Refusal
  | service code message => refusalOf (code.getD "Unknown") (message.getD "")
  | statusless name => .malformed ("no status for " ++ name)
  | unreached => unreachable

/-- The error that a body names for a kind of call. -/
def serviceError (method : Method) (errorType : Option String) (body : String) : Trouble :=
  match errorOf? errorType body with
  | some (some code, message) =>
    if (documentedErrors method).contains code && (bodyOf? Catalog.errorReply body).isNone then
      .service none none
    else .service (some code) message
  | _ => .service none none

/-- An answer without content, if a body is of a form. -/
def readDone (form : Form) (body : String) : Except Trouble Unit :=
  match bodyOf? form body with
  | some _ => .ok ()
  | none => .error (.service none none)

/-- What the body of a success holds.  A description without a report holds the blank one. -/
def readSuccess (body : String) : (call : Call) → Except Trouble call.Answer
  | .describe _ =>
    match statusOf? body with
    | some report => .ok (report.getD .blank)
    | none => .error (.service none none)
  | .create r =>
    match statusOf? body with
    | some (some report) => .ok report
    | some none => .error (.statusless r.name)
    | none => .error (.service none none)
  | .update _ => readDone Catalog.configReply body
  | .delete _ => readDone Catalog.statusReply body
  | .addTags _ _ => .ok ()
  | .removeTags _ _ => .ok ()

/-- What a reply holds: the answer to the call, or what is wrong. -/
def read (call : Call) : Reply → Except Trouble call.Answer
  | .broken => .error .unreached
  | .response status headers body =>
    if isCutOff headers body then .error .unreached
    else if 200 ≤ status ∧ status < 300 then readSuccess body call
    else .error (serviceError call.method (header? "x-amzn-errortype" headers) body)

lemma refuse_eq (method : Method) (errorType : Option String) (body : String) :
    refuse method errorType body = (serviceError method errorType body).refusal := by
  unfold refuse serviceError
  rcases errorOf? errorType body with _ | ⟨_ | code, message⟩
  · rfl
  · rfl
  · dsimp only
    split <;> rfl

lemma accept_eq (body : String) (call : Call) :
    accept body call = (readSuccess body call).mapError Trouble.refusal := by
  cases call with
  | describe name =>
      simp only [accept, readSuccess]
      cases statusOf? body <;> rfl
  | create r =>
      simp only [accept, readSuccess]
      rcases statusOf? body with _ | _ | report <;> rfl
  | update r =>
      simp only [accept, readSuccess, readDone]
      cases bodyOf? Catalog.configReply body <;> rfl
  | delete name =>
      simp only [accept, readSuccess, readDone]
      cases bodyOf? Catalog.statusReply body <;> rfl
  | addTags arn tags => rfl
  | removeTags arn keys => rfl

/-- **A reply comes to an answer or to the refusal that is made of its trouble.** -/
theorem receive_eq_read (call : Call) (reply : Reply) :
    receive call reply = (read call reply).mapError Trouble.refusal := by
  cases reply with
  | broken => rfl
  | response status headers body =>
      simp only [receive, read]
      split
      · rfl
      · split
        · exact accept_eq body call
        · exact congrArg Except.error (refuse_eq _ _ body)

/-! ## Successes -/

/-- A reply is a whole success, with a body that can be read for the call it answers.  That of a change
of tags is not read. -/
def Reply.Succeeds (call : Call) : Reply → Prop
  | .broken => False
  | .response status headers body =>
    isCutOff headers body = false ∧ (200 ≤ status ∧ status < 300) ∧
      match call with
      | .describe _ | .create _ | .delete _ => (bodyOf? Catalog.statusReply body).isSome
      | .update _ => (bodyOf? Catalog.configReply body).isSome
      | .addTags _ _ | .removeTags _ _ => True

/-- A success is without a report on a domain. -/
def Reply.Statusless : Reply → Prop
  | .broken => False
  | .response status headers body =>
    isCutOff headers body = false ∧ (200 ≤ status ∧ status < 300) ∧ statusOf? body = some none

/-- **Every success is an answer**, but for one to a creation that reports no domain. -/
theorem read_of_succeeds {call : Call} {reply : Reply} (h : reply.Succeeds call) :
    (∃ answer, read call reply = .ok answer) ∨
      ∃ r, call = .create r ∧ reply.Statusless := by
  cases reply with
  | broken => exact h.elim
  | response status headers body =>
      obtain ⟨hwhole, hstatus, hbody⟩ := h
      have hread : read call (.response status headers body) = readSuccess body call := by
        simp [read, hwhole, hstatus]
      rw [hread]
      cases call with
      | describe name =>
          obtain ⟨tree, htree⟩ := Option.isSome_iff_exists.1 hbody
          exact .inl ⟨((tree.field? "DomainStatus").map reportOf).getD .blank,
            by simp [readSuccess, statusOf?, htree]⟩
      | create r =>
          obtain ⟨tree, htree⟩ := Option.isSome_iff_exists.1 hbody
          cases hfield : (tree.field? "DomainStatus").map reportOf with
          | none => exact .inr ⟨r, rfl, hwhole, hstatus, by simp [statusOf?, htree, hfield]⟩
          | some report => exact .inl ⟨report, by simp [readSuccess, statusOf?, htree, hfield]⟩
      | update r =>
          obtain ⟨tree, htree⟩ := Option.isSome_iff_exists.1 hbody
          exact .inl ⟨(), by simp [readSuccess, readDone, htree]⟩
      | delete name =>
          obtain ⟨tree, htree⟩ := Option.isSome_iff_exists.1 hbody
          exact .inl ⟨(), by simp [readSuccess, readDone, htree]⟩
      | addTags arn tags => exact .inl ⟨(), rfl⟩
      | removeTags arn keys => exact .inl ⟨(), rfl⟩

/-- A creation without a report is a trouble, and a description is not. -/
lemma read_of_statusless {reply : Reply} (h : reply.Statusless) :
    (∀ r, read (.create r) reply = .error (.statusless r.name)) ∧
      ∀ name, read (.describe name) reply = .ok .blank := by
  cases reply with
  | broken => exact h.elim
  | response status headers body =>
      obtain ⟨hwhole, hstatus, hreport⟩ := h
      simp [read, readSuccess, hwhole, hstatus, hreport]

/-! ## Lines -/

/-- Asks for the answer to a call, and takes the first of some replies for it.  Without a host or a
request nothing is sent, and a line without replies is broken. -/
def ask (region : String) (call : Call) (replies : List Reply) :
    Except Trouble call.Answer × List Reply :=
  if (requestOf? call).isSome && hasHost region then
    match replies with
    | reply :: rest => (read call reply, rest)
    | [] => (.error .unreached, [])
  else (.error .unreached, replies)

/-- **The control plane behind the wire asks in this way.** -/
theorem answer_eq_ask (region : String) (call : Call) (l : Line) :
    (answer region call l).1.outcome = (ask region call l.replies).1.mapError Trouble.refusal ∧
      (answer region call l).2.replies = (ask region call l.replies).2 := by
  unfold answer ask
  cases requestOf? call with
  | none => exact ⟨rfl, rfl⟩
  | some request =>
      cases hasHost region with
      | false => exact ⟨rfl, rfl⟩
      | true =>
          rcases l with ⟨_ | ⟨reply, rest⟩, sent⟩
          · exact ⟨rfl, rfl⟩
          · exact ⟨receive_eq_read call reply, rfl⟩

/-- The next reply on a line is the reply to a call. -/
structure Takes (region : String) (call : Call) (replies : List Reply) (reply : Reply)
    (more : List Reply) : Prop where
  host : hasHost region = true
  request : (requestOf? call).isSome = true
  next : replies = reply :: more

lemma Takes.ask {region : String} {call : Call} {replies more : List Reply} {reply : Reply}
    (h : Takes region call replies reply more) : ask region call replies = (read call reply, more) := by
  obtain ⟨hhost, hrequest, rfl⟩ := h
  simp [Wire.ask, hhost, hrequest]

end ClusterBroker.Wire
