import ClusterBroker.Domain.Options
import ClusterBroker.Failure
import ClusterBroker.Notice

/-!
# Settings of a domain

The private settings of a plan are a JSON object with the field names of the service.  Three of its
fields are derived by the broker and ignored if present; any other field that is not known is
ignored too, with a notice that says so.

* `Settings` — the settings, a `Record`.
* `Settings.ofDetails` — the settings of a plan and the notices about the fields left out.
-/

namespace ClusterBroker.Domain

open Json (Record Shape Fields Node Fault Gathered)

/-- The settings of a domain, each possibly absent. -/
structure Settings where
  version : Option String
  topology : Option Topology
  storage : Option Storage
  snapshots : Option Snapshots
  advanced : Option (Dict String)
  restEncryption : Option RestEncryption
  nodeEncryption : Option NodeEncryption
  logTargets : Option (Dict LogTarget)
  cognito : Option Cognito
  endpointPolicy : Option EndpointPolicy
  accessControl : Option AccessControl
  deriving DecidableEq

instance : Record Settings where
  name := "DomainSettings"
  fields := .ofList
    [("ElasticsearchVersion", .text), ("ElasticsearchClusterConfig", Record.shape Topology),
      ("EBSOptions", Record.shape Storage), ("SnapshotOptions", Record.shape Snapshots),
      ("AdvancedOptions", .table .text),
      ("EncryptionAtRestOptions", Record.shape RestEncryption),
      ("NodeToNodeEncryptionOptions", Record.shape NodeEncryption),
      ("LogPublishingOptions", .table (Record.shape LogTarget)),
      ("CognitoOptions", Record.shape Cognito),
      ("DomainEndpointOptions", Record.shape EndpointPolicy),
      ("AdvancedSecurityOptions", Record.shape AccessControl)]
  ofValues := fun (a, b, c, d, e, f, g, h, i, j, k, ()) =>
    ⟨a, Record.option b, Record.option c, Record.option d, e, Record.option f, Record.option g,
      Record.table h, Record.option i, Record.option j, Record.option k⟩
  toValues a :=
    (a.version, Record.optionValue a.topology, Record.optionValue a.storage,
      Record.optionValue a.snapshots, a.advanced, Record.optionValue a.restEncryption,
      Record.optionValue a.nodeEncryption, Record.tableValue a.logTargets,
      Record.optionValue a.cognito, Record.optionValue a.endpointPolicy,
      Record.optionValue a.accessControl, ())
  ofValues_toValues _ := by simp
  toValues_ofValues _ := by simp

namespace Settings

/-- No setting at all. -/
def empty : Settings :=
  ⟨none, none, none, none, none, none, none, none, none, none, none⟩

/-- The fields that the broker derives itself. -/
def derivedKeys : List String :=
  ["DomainName", "AccessPolicies", "VPCOptions"]

/-! ## Reading -/

/-- The settings in a tree, and the keys that are not known, in order.  Settings have to be an object,
and unlike those of a nested record the values of their unknown fields are read in full. -/
def gather (node : Node) : Except Fault (Settings × List String) :=
  match node with
  | .object _ entries finish => do
    let fields := Record.fields Settings
    let gathered ← Json.gather fields.keys.contains
      (fun key node values => fields.readField key node values)
      (fun node => (fun _ => ()) <$> node.value 1) fields.absent entries finish
    return (Record.ofValues gathered.values, gathered.unknown)
  | _ => .error (node.mismatch (Record.shape Settings).wanted)

/-- The notice about a field that is not known. -/
def noticeOf (key : String) : Notice :=
  if derivedKeys.contains key then .derivedField key else .ignoredField key

/-- The settings of a text, and one notice for each key that is not known. -/
def ofText (text : List Char) : Except Fault (Settings × List Notice) := do
  let (settings, unknown) ← Json.readDocument gather text
  return (settings, unknown.eraseDups.map noticeOf)

/-- The failure for settings that cannot be read. -/
def unreadable (text : List Char) (fault : Fault) : Failure :=
  .configuration ("Unable to parse plan settings: " ++ fault.describe text)

/-- The settings of a plan, and the notices about the fields left out. -/
def ofDetails (details : Details) : Except Failure (Settings × List Notice) :=
  (ofText details.text.toList).mapError (unreadable details.text.toList)

end Settings

end ClusterBroker.Domain
