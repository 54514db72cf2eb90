/-!
# Notices

What the broker writes to its log, as data: a notice says what happened, and level and wording
follow from that.

* `Notice` — the notices, with `Notice.level` and `Notice.message`.
-/

namespace ClusterBroker

/-- How much a notice matters. -/
inductive Level where
  | debug
  | info
  | warn
  deriving DecidableEq, Repr

/-- The name of a level. -/
def Level.name : Level → String
  | debug => "debug"
  | info => "info"
  | warn => "warn"

/-- Something worth writing down. -/
inductive Notice where
  | derivedField (key : String)
  | ignoredField (key : String)
  | cleared (count : Nat)
  | cacheHit (name planId : String)
  | creating (name id planId : String)
  | taggingFailed (name reason : String)
  | updating (name planId : String)
  | snapshotUnsupported (name : String)
  | deleting (name : String)
  | requesting (action name : String)
  | ready (region namePrefix : String)
  | noProvider (planId tag : String)
  deriving DecidableEq, Repr

namespace Notice

/-- How much a notice matters. -/
def level : Notice → Level
  | derivedField _ | cleared _ | cacheHit _ _ | requesting _ _ => .debug
  | creating _ _ _ | updating _ _ | deleting _ | ready _ _ => .info
  | ignoredField _ | taggingFailed _ _ | snapshotUnsupported _ | noProvider _ _ => .warn

/-- The wording of a notice. -/
def message : Notice → String
  | derivedField key => "Plan field " ++ key ++ " is derived by the provider"
  | ignoredField key => "Plan field " ++ key ++ " is not supported and was ignored"
  | cleared count => "Cleared " ++ toString count ++ " cached instance(s)"
  | cacheHit name planId => "Cache hit for " ++ name ++ " (" ++ planId ++ ")"
  | creating name id planId =>
    "Creating Elasticsearch domain " ++ name ++ " for " ++ id ++ " (plan: " ++ planId ++ ")"
  | taggingFailed name reason =>
    "Domain " ++ name ++ " was created but tagging failed: " ++ reason
  | updating name planId =>
    "Updating Elasticsearch domain " ++ name ++ " (plan: " ++ planId ++ ")"
  | snapshotUnsupported name =>
    "Snapshot before deprovision is not supported; deleting " ++ name ++ " without one"
  | deleting name => "Deleting Elasticsearch domain " ++ name
  | requesting action name => action ++ " " ++ name
  | ready region namePrefix =>
    "AWS Elasticsearch provider ready (region: " ++ region ++ ", prefix: " ++ namePrefix ++ ")"
  | noProvider planId tag => "No provider registered for plan " ++ planId ++ " (" ++ tag ++ ")"

end Notice

end ClusterBroker
