import ClusterBroker.Dict
import ClusterBroker.Lifecycle
import ClusterBroker.Plan

/-!
# Instances

An instance is a cluster as the broker sees it: the names it goes by, the plan it was made from and
the condition it was last seen in.

* `Instance` — instances; `Instance.fresh` — one about which nothing else is known.
* `Instance.toJson`, `Instance.shown` — the public tree and the text of diagnostics.
* `Instance.urls` — where it can be reached.
-/

namespace ClusterBroker

/-- User name and password of an instance.  Services never fill them in. -/
structure Credentials where
  username : String
  password : String
  deriving DecidableEq

/-- Credentials as diagnostics show them, without the password. -/
def Credentials.shown (c : Credentials) : String :=
  Text.shownRecord "Credentials"
    [("username", Text.quoted c.username), ("password", Text.quoted Text.redacted)]

/-- The tree of credentials. -/
def Credentials.toJson (c : Credentials) : Json :=
  .object [("username", .text c.username), ("password", .text c.password)]

/-- A cluster that a service hosts.

* `id`: given by the caller, empty where the service does not know it.
* `name`: given by the service, unique among its clusters.
* `serviceId`: the identifier that the service itself uses.
* `scheme`: how to connect, empty until the service has said so. -/
structure Instance where
  id : String
  name : String
  serviceId : String
  plan : Plan
  credentials : Option Credentials
  endpoint : String
  scheme : String
  phase : Phase
  ready : Bool
  engine : String
  engineVersion : String
  deriving DecidableEq

namespace Instance

/-- An instance about which only name, plan and condition are known. -/
def fresh (name : String) (plan : Plan) (condition : Condition) : Instance where
  id := ""
  name := name
  serviceId := ""
  plan := plan
  credentials := none
  endpoint := ""
  scheme := ""
  phase := condition.phase
  ready := condition.ready
  engine := ""
  engineVersion := ""

/-! ## How it is shown -/

/-- The public tree of an instance; credentials appear only if there are any. -/
def toJson (i : Instance) : Json :=
  let credentials := match i.credentials with
    | some c => [("credentials", c.toJson)]
    | none => []
  .object
    ([("id", .text i.id), ("name", .text i.name), ("provider_id", .text i.serviceId),
        ("plan", i.plan.toJson)] ++ credentials ++
      [("endpoint", .text i.endpoint), ("scheme", .text i.scheme), ("status", .text i.phase.name),
        ("ready", .bool i.ready), ("engine", .text i.engine),
        ("engine_version", .text i.engineVersion)])

/-- An instance as diagnostics show it, without private settings and passwords. -/
def shown (i : Instance) : String :=
  Text.shownRecord "Instance"
    [("id", Text.quoted i.id), ("name", Text.quoted i.name),
      ("provider_id", Text.quoted i.serviceId), ("plan", i.plan.shown),
      ("credentials", Text.shownOption (i.credentials.map Credentials.shown)),
      ("endpoint", Text.quoted i.endpoint), ("scheme", Text.quoted i.scheme),
      ("status", i.phase.shown), ("ready", toString i.ready), ("engine", Text.quoted i.engine),
      ("engine_version", Text.quoted i.engineVersion)]

/-! ## How it is reached -/

/-- The base of every URL of an instance. -/
def baseUrl (i : Instance) : String :=
  i.scheme ++ "://" ++ i.endpoint

/-- URLs by name, each a path after the base; of paths with one name the last counts. -/
def urls (i : Instance) (paths : List (String × String)) : Dict String :=
  Dict.ofList (paths.map fun p => (p.1, i.baseUrl ++ p.2))

end Instance

end ClusterBroker
