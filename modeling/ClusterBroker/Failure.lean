import ClusterBroker.Instance

/-!
# How an operation of a service fails

Every failure goes to the caller at once; nothing is tried again and nothing is undone.

* `Failure` — the failures, with their wording in `Failure.message`.
* `Failure.shown` — a failure as diagnostics show it.
* `Failure.orphan?` — the instance that a failed operation left behind.
-/

namespace ClusterBroker

/-- Why an operation failed.  `untagged` is the one that leaves something behind: the cluster was
made, but its owner could not be written on it. -/
inductive Failure where
  | configuration (reason : String)
  | notFound (name : String)
  | transient (reason : String)
  | provision (reason : String)
  | untagged (orphan : Instance) (reason : String)
  | modify (reason : String)
  | deprovision (reason : String)
  | tag (reason : String)
  | unsupported (service : String)
  deriving DecidableEq

namespace Failure

/-- The wording of a failure. -/
def message : Failure → String
  | configuration reason => "Invalid configuration: " ++ reason
  | notFound name => "Instance not found: " ++ name
  | transient reason => "Control plane unavailable: " ++ reason
  | provision reason => "Provision failed: " ++ reason
  | untagged orphan reason =>
    "Instance " ++ orphan.name ++ " was created but could not be tagged: " ++ reason
  | modify reason => "Modify failed: " ++ reason
  | deprovision reason => "Deprovision failed: " ++ reason
  | tag reason => "Tag update failed: " ++ reason
  | unsupported service => "Unsupported provider: " ++ service

/-- The name of a failure as diagnostics show it. -/
def variant : Failure → String
  | configuration _ => "Configuration"
  | notFound _ => "NotFound"
  | transient _ => "Transient"
  | provision _ => "Provision"
  | untagged _ _ => "ProvisionedUntagged"
  | modify _ => "Modify"
  | deprovision _ => "Deprovision"
  | tag _ => "Tag"
  | unsupported _ => "UnsupportedProvider"

/-- A failure as diagnostics show it. -/
def shown (f : Failure) : String :=
  match f with
  | untagged orphan reason =>
    Text.shownRecord f.variant [("instance", orphan.shown), ("message", Text.quoted reason)]
  | configuration text | notFound text | transient text | provision text | modify text
  | deprovision text | tag text | unsupported text =>
    f.variant ++ "(" ++ Text.quoted text ++ ")"

/-- The instance that a failed operation left behind. -/
def orphan? : Failure → Option Instance
  | untagged orphan _ => some orphan
  | _ => none

end Failure

end ClusterBroker
