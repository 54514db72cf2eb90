import ClusterBroker.ControlPlane
import ClusterBroker.ControlPlane.Wire.Catalog

/-!
# Replies on the wire

* `Wire.Reply` — what may come back.
* `Wire.accept` — what a success means for the call it answers.
* `Wire.errorOf?`, `Wire.refuse` — what an error means.
* `Wire.receive` — what any reply means.
-/

namespace ClusterBroker.Wire

open Domain (Report)

/-- What came back: nothing, or a status, headers and a body. -/
inductive Reply where
  | broken
  | response (status : Nat) (headers : List (String × String)) (body : String)
  deriving DecidableEq

/-- The refusal for a call that did not reach the service or whose reply was cut off. -/
def unreachable : Refusal :=
  .transport "the service could not be reached"

/-- The refusal for a reply that cannot be read or names no error. -/
def unknownError : Refusal :=
  .rejected "Unknown: "

/-- The tree of a body; an empty body is an empty record. -/
def bodyTree? (body : String) : Option Body :=
  if body.isEmpty then some (.record []) else Body.ofText? body

/-- The tree of a body that has to be of a form. -/
def bodyOf? (form : Form) (body : String) : Option Body :=
  (bodyTree? body).filter form.admits

/-! ## Headers -/

/-- The value of a header; the case of its name does not matter. -/
def header? (name : String) (headers : List (String × String)) : Option String :=
  headers.findSome? fun h => if h.1.toLower = name then some h.2 else none

/-- The length that a header announces: a number of at most sixty-four bits in decimal digits, maybe
after a plus sign.  Anything else announces nothing. -/
def announcedLength? (value : String) : Option Nat :=
  let digits := match value.toList with
    | '+' :: cs => cs
    | cs => cs
  if digits ≠ [] ∧ digits.all Char.isDigit ∧ Decimal.natOfDigits digits < Decimal.twoTo 64 then
    some (Decimal.natOfDigits digits)
  else none

/-- Whether a body has another length than its headers announce.  An empty body is not measured. -/
def isCutOff (headers : List (String × String)) (body : String) : Bool :=
  !body.isEmpty &&
    ((header? "content-length" headers).bind announcedLength?).any (· ≠ body.utf8ByteSize)

/-! ## Success -/

/-- What the tree of a domain reports. -/
def reportOf (status : Body) : Report :=
  let text? (key : String) : Option String := (status.field? key).bind Body.text?
  let flag (key : String) : Bool := ((status.field? key).bind Body.flag?).getD false
  { name := (text? "DomainName").getD ""
    arn := (text? "ARN").getD ""
    flags := ⟨flag "Created", flag "Deleted", flag "Processing", flag "UpgradeProcessing"⟩
    endpoint := text? "Endpoint"
    endpoints := ((status.field? "Endpoints").map Body.texts).getD .empty
    version := text? "ElasticsearchVersion" }

/-- The report in a body, if there is one; `none` for a body that cannot be read. -/
def statusOf? (body : String) : Option (Option Report) := do
  let reply ← bodyOf? Catalog.statusReply body
  return (reply.field? "DomainStatus").map reportOf

/-- What a successful reply is for the call it answers. -/
def accept (body : String) : (call : Call) → Except Refusal call.Answer
  | .describe _ =>
    match statusOf? body with
    | some report => .ok (report.getD .blank)
    | none => .error unknownError
  | .create r =>
    match statusOf? body with
    | some (some report) => .ok report
    | some none => .error (.malformed ("no status for " ++ r.name))
    | none => .error unknownError
  | .update _ =>
    match bodyOf? Catalog.configReply body with
    | some _ => .ok ()
    | none => .error unknownError
  | .delete _ =>
    match bodyOf? Catalog.statusReply body with
    | some _ => .ok ()
    | none => .error unknownError
  | .addTags _ _ => .ok ()
  | .removeTags _ _ => .ok ()

/-! ## Errors -/

/-- The code of an error without the address after it and the namespace before it. -/
def errorCode (code : String) : String :=
  let name := code.toList.takeWhile (· ≠ ':')
  if name.contains '#' then String.ofList ((name.dropWhile (· ≠ '#')).drop 1)
  else String.ofList name

/-- The entries of the body of an error, each with a value that can be passed over.  A body that
starts with anything but a brace has none, and what follows its first token is not looked at. -/
def errorEntries? (body : String) : Option (List (Spelling × Body)) :=
  match (tokens body).head? with
  | none => some []
  | some .openBrace =>
    ((Body.ofText? body).map Body.entries).filter fun es => es.all (·.2.canBeSkipped)
  | some token => (Stage.startValue? [] token).map fun _ => []

/-- The last text among the entries whose keys are spelled like one of the given ones; all such
texts have to be well-formed. -/
def lastText? (keys : List String) (entries : List (Spelling × Body)) : Option (Option String) :=
  entries.foldlM
    (fun found e =>
      match e.2 with
      | .text s => if keys.any e.1.spells then some <$> s.decode? else some found
      | _ => some found)
    none

/-- The code and the message of an error; `none` for a body that cannot be read. -/
def errorOf? (errorType : Option String) (body : String) : Option (Option String × Option String) := do
  let entries ← errorEntries? body
  let code ← lastText? ["code"] entries
  let type ← lastText? ["__type"] entries
  let message ← lastText? ["message", "Message", "errorMessage"] entries
  return (((errorType.or code).or type).map errorCode, message)

/-- The errors that the service documents for a kind of call. -/
def documentedErrors : Method → List String
  | .describe | .delete =>
    ["BaseException", "InternalException", "ResourceNotFoundException", "ValidationException"]
  | .create =>
    ["BaseException", "DisabledOperationException", "InternalException", "InvalidTypeException",
      "LimitExceededException", "ResourceAlreadyExistsException", "ValidationException"]
  | .update =>
    ["BaseException", "InternalException", "InvalidTypeException", "LimitExceededException",
      "ResourceNotFoundException", "ValidationException"]
  | .addTags =>
    ["BaseException", "InternalException", "LimitExceededException", "ValidationException"]
  | .removeTags => ["BaseException", "InternalException", "ValidationException"]

/-- The refusal that a code and a message stand for. -/
def refusalOf (code message : String) : Refusal :=
  if code = "ResourceNotFoundException" then .notFound message
  else .rejected (code ++ ": " ++ message)

/-- What an error reply is for the kind of call it answers.  Without a code the message is lost, and
a documented error has to have its documented body. -/
def refuse (method : Method) (errorType : Option String) (body : String) : Refusal :=
  match errorOf? errorType body with
  | some (some code, message) =>
    if (documentedErrors method).contains code && (bodyOf? Catalog.errorReply body).isNone then
      unknownError
    else refusalOf code (message.getD "")
  | _ => unknownError

/-! ## Any reply -/

/-- What a reply is for the call it answers. -/
def receive (call : Call) : Reply → Except Refusal call.Answer
  | .broken => .error unreachable
  | .response status headers body =>
    if isCutOff headers body then .error unreachable
    else if 200 ≤ status ∧ status < 300 then accept body call
    else .error (refuse call.method (header? "x-amzn-errortype" headers) body)

end ClusterBroker.Wire
