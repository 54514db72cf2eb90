import ClusterBroker.Domain.Report
import ClusterBroker.Domain.Request

/-!
# Control planes

A control plane hosts domains.  It takes six calls, answers each after some time, and may refuse.

* `Call`, `Call.Answer` — the calls and what each is answered with.
* `Refusal` — how a call is refused, with the wording in `Refusal.message`.
* `ControlPlane` — a control plane over its own state.
-/

namespace ClusterBroker

open Domain (Report Request)

/-! ## Calls -/

/-- A tag on a domain. -/
structure Tag where
  key : String
  value : String
  deriving DecidableEq, Repr

/-- A call.  An update cannot change the version of a domain. -/
inductive Call where
  | describe (name : String)
  | create (request : Request)
  | update (request : Request)
  | delete (name : String)
  | addTags (arn : String) (tags : List Tag)
  | removeTags (arn : String) (keys : List String)
  deriving DecidableEq

/-- The kind of a call. -/
inductive Method where
  | describe
  | create
  | update
  | delete
  | addTags
  | removeTags
  deriving DecidableEq, Repr

namespace Call

/-- The kind of a call. -/
def method : Call → Method
  | describe _ => .describe
  | create _ => .create
  | update _ => .update
  | delete _ => .delete
  | addTags _ _ => .addTags
  | removeTags _ _ => .removeTags

/-- What a call is answered with: a report, or nothing but its success. -/
@[reducible] def Answer : Call → Type
  | describe _ => Report
  | create _ => Report
  | update _ => Unit
  | delete _ => Unit
  | addTags _ _ => Unit
  | removeTags _ _ => Unit

end Call

/-! ## Refusals -/

/-- Why a call was refused.  `transport` stands for whatever kept it from the service. -/
inductive Refusal where
  | notFound (message : String)
  | rejected (message : String)
  | malformed (message : String)
  | transport (message : String)
  deriving DecidableEq, Repr

/-- The wording of a refusal. -/
def Refusal.message : Refusal → String
  | notFound m => "Domain not found: " ++ m
  | rejected m => "Request rejected: " ++ m
  | malformed m => "Malformed response: " ++ m
  | transport m => m

/-! ## Control planes -/

/-- An answer, the time it took and what was noted on the way. -/
structure Reply (α : Type) where
  outcome : Except Refusal α
  latency : Nat
  notices : List Notice

/-- A control plane whose state is of type `σ`. -/
structure ControlPlane (σ : Type) where
  answer : (call : Call) → σ → Reply call.Answer × σ

end ClusterBroker
