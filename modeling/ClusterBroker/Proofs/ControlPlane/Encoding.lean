import ClusterBroker.ControlPlane.Wire.Request
import ClusterBroker.Proofs.Json.Writing

/-!
# The service writes options as the broker reads them

Options have two tables of names.  By one the broker reads private settings, by the other the service
writes its records, and between them stand the functions that make those records.  Nothing but these
proofs keeps the three in step.

**Records.**  `Matches` goes through the two tables side by side: there is one member for each field,
of the same name, and it is set to the same value if the field has one.  By `Matches.record` a record
is then written as the fields are read.

**Groups of options.**  `Writes` says that of what is made of some options, and there is one lemma for
each group.

**Bodies.**  **`createBody_eq`** and **`updateBody_eq`** put these together: a body consists of the
settings in the request, as they are read, and of the entries that the broker derives.
-/

namespace ClusterBroker.Wire

open Domain
open Json (Record Shape Fields)

/-! ## Records -/

/-- The entry of a field, if it has a value. -/
def fieldEntry (key : String) (shape : Shape) (value : Option shape.Value) :
    List (String × Json) :=
  (value.map fun v => (key, shape.write false v)).toList

/-- Members that match fields: one for each, with the same name and the same value. -/
inductive Matches : (fields : Fields) → fields.Values → List (List (String × Json)) → Prop where
  | nil : Matches .nil () []
  | cons {key : String} {shape : Shape} {value : Option shape.Value} {entry : List (String × Json)}
    {rest : Fields} {values : rest.Values} {members : List (List (String × Json))}
    (h : entry = fieldEntry key shape value) (hrest : Matches rest values members) :
    Matches (.cons key shape rest) (value, values) (entry :: members)

namespace Matches

variable {fields : Fields} {values : fields.Values} {members : List (List (String × Json))}

lemma flatten (h : Matches fields values members) :
    members.flatten = fields.write false values := by
  induction h with
  | nil => rfl
  | @cons key shape value entry rest values members hentry _ ih =>
      rw [List.flatten_cons, hentry, ih]
      cases value <;> rfl

/-- **A record with matching members is written as the fields are read.** -/
theorem record (h : Matches fields values members) :
    Wire.record members = .object (fields.write false values) :=
  congrArg Json.object h.flatten

end Matches

/-- A word is written as the text that it was made from. -/
lemma member_word (key : String) (s : Option String) :
    member key (s.map Word.ofText) = fieldEntry key .text s := by
  cases s <;> rfl

/-! ## Groups of options

Most members hold what the fields hold, so that they match by `rfl`.  Words, and records in records,
do not.
-/

/-- What is made of some options is written as the options are read. -/
def Writes {α β : Type} [Record α] [Value β] (make : α → β) : Prop :=
  ∀ a, Value.toJson (make a) = Record.toJson false a

lemma Writes.member {α β : Type} [Record α] [Value β] {make : α → β} (h : Writes make)
    (key : String) (a : Option α) :
    Wire.member key (a.map make) = fieldEntry key (Record.shape α) (Record.optionValue a) := by
  cases a with
  | none => rfl
  | some a => exact congrArg (fun j => [(key, j)]) (h a)

lemma writes_zoneAwareness : Writes ZoneAwarenessConfig.ofOptions :=
  fun _ => Matches.record (.cons rfl .nil)

lemma writes_topology : Writes ClusterConfig.ofOptions :=
  fun _ => Matches.record <|
    .cons (member_word _ _) <| .cons rfl <| .cons rfl <| .cons (member_word _ _) <| .cons rfl <|
    .cons rfl <| .cons (writes_zoneAwareness.member _ _) .nil

lemma writes_storage : Writes EbsOptions.ofOptions :=
  fun _ => Matches.record <| .cons rfl <| .cons (member_word _ _) <| .cons rfl <| .cons rfl .nil

lemma writes_snapshots : Writes SnapshotOptions.ofOptions :=
  fun _ => Matches.record (.cons rfl .nil)

lemma writes_restEncryption : Writes EncryptionAtRestOptions.ofOptions :=
  fun _ => Matches.record <| .cons rfl <| .cons rfl .nil

lemma writes_nodeEncryption : Writes NodeToNodeEncryptionOptions.ofOptions :=
  fun _ => Matches.record (.cons rfl .nil)

lemma writes_logTarget : Writes LogPublishingOption.ofOptions :=
  fun _ => Matches.record <| .cons rfl <| .cons rfl .nil

lemma writes_cognito : Writes CognitoOptions.ofOptions :=
  fun _ => Matches.record <| .cons rfl <| .cons rfl <| .cons rfl <| .cons rfl .nil

lemma writes_endpointPolicy : Writes DomainEndpointOptions.ofOptions :=
  fun _ => Matches.record <|
    .cons rfl <| .cons (member_word _ _) <| .cons rfl <| .cons rfl <| .cons rfl .nil

lemma writes_masterUser : Writes MasterUserOptions.ofOptions :=
  fun _ => Matches.record <| .cons rfl <| .cons rfl <| .cons rfl .nil

lemma writes_accessControl : Writes AdvancedSecurityOptions.ofOptions :=
  fun _ => Matches.record <|
    .cons rfl <| .cons rfl <| .cons (writes_masterUser.member _ _) <| .cons rfl .nil

/-- **No two kinds of logs become one.** -/
lemma tableOf_eq (targets : Dict LogTarget) :
    LogPublishingOption.tableOf targets = targets.map .ofOptions :=
  Dict.ofList_perm (.refl _)

lemma member_logs (key : String) (targets : Option (Dict LogTarget)) :
    member key (targets.map LogPublishingOption.tableOf)
      = fieldEntry key (.table (Record.shape LogTarget)) (Record.tableValue targets) := by
  cases targets with
  | none => rfl
  | some targets =>
      have hentries : (targets.map LogPublishingOption.ofOptions).entries.map
          (fun e => (e.1, Value.toJson e.2))
        = (targets.map Record.toValues).entries.map
          fun e => (e.1, (Record.shape LogTarget).write false e.2) := by
        rw [Dict.map, Dict.map, List.map_map, List.map_map]
        exact List.map_congr_left fun e _ => congrArg (Prod.mk e.1) (writes_logTarget e.2)
      rw [Option.map_some, tableOf_eq]
      exact congrArg (fun es => [(key, Json.object es)]) hentries

/-! ## Bodies -/

/-- The entries of a body that the broker derives: the policy, and the placement if there is one. -/
def derivedEntries (r : Domain.Request) : List (String × Json) :=
  ("AccessPolicies", .text r.policy) ::
    member "VPCOptions" (r.placement.map VpcOptions.ofPlacement)

/-- The entries of a body for a request: settings as they are read, and what is derived. -/
def bodyEntries (r : Domain.Request) (settings : Settings) : List (String × Json) :=
  (Record.fields Settings).write false (Record.toValues settings) ++ derivedEntries r

/-- The members for the options of a request, which can all be changed. -/
def optionMembers (r : Domain.Request) : List (List (String × Json)) :=
  [member "ElasticsearchClusterConfig" (r.topology.map ClusterConfig.ofOptions),
    member "EBSOptions" (r.storage.map EbsOptions.ofOptions),
    member "SnapshotOptions" (r.snapshots.map SnapshotOptions.ofOptions),
    member "AdvancedOptions" r.advanced,
    member "EncryptionAtRestOptions" (r.restEncryption.map EncryptionAtRestOptions.ofOptions),
    member "NodeToNodeEncryptionOptions"
      (r.nodeEncryption.map NodeToNodeEncryptionOptions.ofOptions),
    member "LogPublishingOptions" (r.logTargets.map LogPublishingOption.tableOf),
    member "CognitoOptions" (r.cognito.map CognitoOptions.ofOptions),
    member "DomainEndpointOptions" (r.endpointPolicy.map DomainEndpointOptions.ofOptions),
    member "AdvancedSecurityOptions" (r.accessControl.map AdvancedSecurityOptions.ofOptions)]

/-- The members for what is derived. -/
def derivedMembers (r : Domain.Request) : List (List (String × Json)) :=
  [member "AccessPolicies" (some r.policy),
    member "VPCOptions" (r.placement.map VpcOptions.ofPlacement)]

/-- With a version, the members for options match the settings in the request. -/
lemma matches_optionMembers (r : Domain.Request) (version : Option String) :
    Matches (Record.fields Settings) (Record.toValues { r.settings with version })
      (member "ElasticsearchVersion" version :: optionMembers r) :=
  .cons rfl <|
  .cons (writes_topology.member _ _) <|
  .cons (writes_storage.member _ _) <|
  .cons (writes_snapshots.member _ _) <|
  .cons rfl <|
  .cons (writes_restEncryption.member _ _) <|
  .cons (writes_nodeEncryption.member _ _) <|
  .cons (member_logs _ _) <|
  .cons (writes_cognito.member _ _) <|
  .cons (writes_endpointPolicy.member _ _) <|
  .cons (writes_accessControl.member _ _) .nil

lemma flatten_members (r : Domain.Request) (version : Option String) :
    (member "ElasticsearchVersion" version :: optionMembers r ++ derivedMembers r).flatten
      = bodyEntries r { r.settings with version } := by
  have hderived : (derivedMembers r).flatten = derivedEntries r := by
    rw [derivedMembers, List.flatten_cons, List.flatten_singleton]
    rfl
  rw [List.flatten_append, (matches_optionMembers r version).flatten, hderived]
  rfl

/-- **The body to make a domain** has its name, all settings and what is derived. -/
theorem createBody_eq (r : Domain.Request) :
    createBody r = .object (("DomainName", .text r.name) :: bodyEntries r r.settings) := by
  have hmembers : createBody r = Wire.record (member "DomainName" (some r.name) ::
      (member "ElasticsearchVersion" r.version :: optionMembers r ++ derivedMembers r)) := rfl
  rw [hmembers, Wire.record, List.flatten_cons, flatten_members]
  rfl

/-- **The body to change a domain** has all settings but the version, and what is derived. -/
theorem updateBody_eq (r : Domain.Request) :
    updateBody r = .object (bodyEntries r { r.settings with version := none }) := by
  have hmembers : updateBody r = Wire.record (optionMembers r ++ derivedMembers r) := rfl
  rw [hmembers, Wire.record, ← flatten_members]
  rfl

end ClusterBroker.Wire
