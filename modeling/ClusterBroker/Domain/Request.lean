import ClusterBroker.Domain.Settings
import ClusterBroker.Environment

/-!
# Requests for a domain

The settings of a plan, the environment and a name make a request.  Policy and placement are always
derived, whatever the settings say.

* `Request` — the request; `Request.resolve` — how it is made.
* `Request.settings` — the settings in it.
* `Naming` — whether the name is generated or given.
* `accessPolicy` — who may use a domain.
* `placedSubnets` — which subnets a cluster is placed in.
-/

namespace ClusterBroker.Domain

/-! ## Names -/

/-- The random part of a generated name, shown with eight hexadecimal digits. -/
abbrev Token := UInt32

/-- The digits of a token. -/
def Token.digits (t : Token) : String :=
  String.ofList (Text.hexDigits 8 t.toNat)

/-- A generated name. -/
def generatedName (namePrefix : String) (token : Token) : String :=
  namePrefix ++ "-u" ++ Token.digits token

/-- Where the name of a domain comes from: a new one is generated, an existing one keeps its own. -/
inductive Naming where
  | generated (namePrefix : String) (token : Token)
  | given (name : String)
  deriving DecidableEq

/-- The name. -/
def Naming.name : Naming → String
  | generated namePrefix token => generatedName namePrefix token
  | given name => name

/-! ## Policies -/

/-- The resource that a policy is about: everything in one domain. -/
def policyResource (region accountId name : String) : String :=
  "arn:aws:es:" ++ region ++ ":" ++ accountId ++ ":domain/" ++ name ++ "/*"

/-- The tree of the policy that allows everyone everything in one domain.  Tenants are kept apart by
the network and by credentials, not by this policy. -/
def policyTree (region accountId name : String) : Json :=
  .object
    [("Statement", .array
        [.object
          [("Action", .text "es:*"), ("Effect", .text "Allow"),
            ("Principal", .object [("AWS", .text "*")]),
            ("Resource", .text (policyResource region accountId name))]]),
      ("Version", .text "2012-10-17")]

/-- The text of the policy of a domain. -/
def accessPolicy (region accountId name : String) : String :=
  (policyTree region accountId name).render

/-! ## Placement -/

/-- The private network that a domain is placed in. -/
structure Placement where
  subnets : List String
  groups : List String
  deriving DecidableEq

/-- The subnets for a cluster.  A single node stands in one zone, so it takes one subnet. -/
def placedSubnets (topology : Option Topology) (subnets : List String) : List String :=
  match topology with
  | some t => if t.isSingleNode then subnets.take 1 else subnets
  | none => subnets

/-- The placement of a cluster in an environment, if that has a network. -/
def Placement.derive? (e : Environment) (topology : Option Topology) : Option Placement :=
  e.network?.map fun n => ⟨placedSubnets topology n.2, [n.1]⟩

/-! ## Requests -/

/-- A request to make a domain or to change one: a name, everything that settings can hold, and the
policy and the placement. -/
structure Request where
  name : String
  version : Option String
  topology : Option Topology
  storage : Option Storage
  snapshots : Option Snapshots
  advanced : Option (Dict String)
  restEncryption : Option RestEncryption
  nodeEncryption : Option NodeEncryption
  logTargets : Option (Dict LogTarget)
  cognito : Option Cognito
  endpointPolicy : Option EndpointPolicy
  accessControl : Option AccessControl
  policy : String
  placement : Option Placement
  deriving DecidableEq

namespace Request

/-- The request for given settings. -/
def make (e : Environment) (settings : Settings) (naming : Naming) : Request where
  name := naming.name
  version := settings.version
  topology := settings.topology
  storage := settings.storage
  snapshots := settings.snapshots
  advanced := settings.advanced
  restEncryption := settings.restEncryption
  nodeEncryption := settings.nodeEncryption
  logTargets := settings.logTargets
  cognito := settings.cognito
  endpointPolicy := settings.endpointPolicy
  accessControl := settings.accessControl
  policy := accessPolicy e.region e.accountId naming.name
  placement := Placement.derive? e settings.topology

/-- What a request holds of settings. -/
def settings (r : Request) : Settings where
  version := r.version
  topology := r.topology
  storage := r.storage
  snapshots := r.snapshots
  advanced := r.advanced
  restEncryption := r.restEncryption
  nodeEncryption := r.nodeEncryption
  logTargets := r.logTargets
  cognito := r.cognito
  endpointPolicy := r.endpointPolicy
  accessControl := r.accessControl

/-- **No setting is lost or moved** on the way into a request. -/
@[simp] theorem settings_make (e : Environment) (settings : Settings) (naming : Naming) :
    (make e settings naming).settings = settings := rfl

/-- The request for a plan's private settings, with the notices about them. -/
def resolve (e : Environment) (details : Details) (naming : Naming) :
    Except Failure (Request × List Notice) := do
  let (settings, notices) ← Settings.ofDetails details
  return (make e settings naming, notices)

end Request

end ClusterBroker.Domain
