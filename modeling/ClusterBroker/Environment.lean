import ClusterBroker.Failure
import ClusterBroker.Text.Blank

/-!
# The environment of a service

Region, account and network come from four environment variables.  The first two are required; the
network is optional and counts only if both of its parts are there.

* `Variable` — the value of a variable, which need not be text.
* `Environment.read` — the environment from the variables.
* `Environment.network?` — where clusters are placed, if in a private network.
* `Tuning` — what can be set beside the environment.
-/

namespace ClusterBroker

/-! ## Variables -/

/-- The value of an environment variable: text, or bytes that are not UTF-8. -/
inductive Variable where
  | text (value : String)
  | bytes (value : List UInt8)
  deriving DecidableEq

/-- The value that some bytes are. -/
def Variable.ofBytes (bytes : List UInt8) : Variable :=
  match String.fromUTF8? ⟨bytes.toArray⟩ with
  | some value => .text value
  | none => .bytes bytes

/-- The four variables, each possibly unset. -/
structure Variables where
  region : Option Variable
  accountId : Option Variable
  securityGroup : Option Variable
  subnets : Option Variable
  deriving DecidableEq

/-- No variable is set. -/
def Variables.unset : Variables := ⟨none, none, none, none⟩

/-- The stripped text of a variable that is set, is text and is not blank. -/
def Variable.setting? : Option Variable → Option String
  | some (.text value) =>
    let stripped := Text.strip value
    if stripped.isEmpty then none else some stripped
  | _ => none

/-! ## Environments -/

/-- Account and network of a service. -/
structure Environment where
  region : String
  accountId : String
  securityGroup : Option String
  subnets : List String
  deriving DecidableEq

namespace Environment

/-- The failure for a required variable that is missing or blank. -/
def missing (name : String) : Failure :=
  .configuration ("Unable to find " ++ name ++ " environment variable")

/-- An environment without a network. -/
def bare (region accountId : String) : Environment :=
  ⟨region, accountId, none, []⟩

/-- The environment that the variables describe. -/
def read (vars : Variables) : Except Failure Environment :=
  match Variable.setting? vars.region, Variable.setting? vars.accountId with
  | none, _ => .error (missing "AWS_REGION")
  | some _, none => .error (missing "AWS_ACCOUNT_ID")
  | some region, some accountId =>
    .ok
      { region, accountId
        securityGroup := Variable.setting? vars.securityGroup
        subnets := ((Variable.setting? vars.subnets).map Text.splitComma).getD [] }

/-- The security group and the subnets, if there is a group and at least one subnet. -/
def network? (e : Environment) : Option (String × List String) :=
  match e.securityGroup, e.subnets with
  | some group, subnet :: rest => some (group, subnet :: rest)
  | _, _ => none

end Environment

/-! ## Tuning -/

/-- What can be set beside the environment.

* `namePrefix`: how generated names begin.
* `settleDelay`: milliseconds between making a cluster and writing its owner on it.
* `cacheInterval`: milliseconds between clearings of the cache. -/
structure Tuning where
  namePrefix : String
  settleDelay : Nat
  cacheInterval : Nat
  deriving DecidableEq, Repr

/-- The usual tuning: ten seconds to settle, five seconds in the cache. -/
def Tuning.standard (namePrefix : String) : Tuning :=
  ⟨namePrefix, 10000, 5000⟩

end ClusterBroker
