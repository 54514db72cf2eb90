import ClusterBroker.Provider

/-!
# Operations as data

An operation says what is asked of a provider.  Running it gives an outcome or a failure; whatever
tick is due when it ends happens before anything else is asked.

* `Operation` — the operations; `Outcome` — what they give.
* `Operation.perform`, `Operation.run` — an operation, without and with the ticks at its end.
-/

namespace ClusterBroker

/-- What is asked of a provider. -/
inductive Operation where
  | getInstance (name : String) (plan : Plan)
  | provision (id : String) (plan : Plan) (owner : String)
  | modify (target : Instance) (plan : Plan)
  | postProvision (target : Instance)
  | deprovision (target : Instance) (takeSnapshot : Bool)
  | tag (target : Instance) (key value : String)
  | untag (target : Instance) (key : String)
  | urls (target : Instance)
  | serviceName
  deriving DecidableEq

/-- What an operation gives: an instance, URLs, the name of the service, or nothing but its
success. -/
inductive Outcome where
  | found (i : Instance)
  | urls (byName : Dict String)
  | serviceName (text : String)
  | done
  deriving DecidableEq

namespace Operation

variable {σ : Type}

/-- The operation, up to its answer. -/
def perform (p : Provider σ) : Operation → Action σ Outcome
  | getInstance name plan => .found <$> p.getInstance name plan
  | provision id plan owner => .found <$> p.provision id plan owner
  | modify target plan => .found <$> p.modify target plan
  | postProvision target => .found <$> Provider.postProvision target
  | deprovision target takeSnapshot => do
    p.deprovision target takeSnapshot
    return .done
  | tag target key value => do
    p.tag target key value
    return .done
  | untag target key => do
    p.untag target key
    return .done
  | urls target => return .urls (Provider.urls target)
  | serviceName => return .serviceName Provider.name

/-- The operation, and the ticks that are due when it ends. -/
def run (o : Operation) (p : Provider σ) (w : World σ) : Except Failure Outcome × World σ :=
  let (outcome, after) := o.perform p w
  (outcome, after.settle)

end Operation

end ClusterBroker
