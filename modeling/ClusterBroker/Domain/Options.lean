import ClusterBroker.Json.Record
import ClusterBroker.Text.Quoted

/-!
# Options of a domain

The groups of options that a cluster can be made with.  Every field of every group is optional, and
a group that is present but empty differs from one that is absent.

* `Topology`, `ZoneAwareness` — machines and where they stand.
* `Storage`, `Snapshots`, `RestEncryption`, `NodeEncryption` — disks, backups and encryption.
* `LogTarget` — where logs of one kind go.
* `Cognito`, `EndpointPolicy`, `AccessControl`, `MasterUser` — who gets in and how.

Each is a `Record`, with the names that the service gives its fields.
-/

namespace ClusterBroker.Domain

open Json (Record Shape Fields)

/-! ## Machines -/

/-- Over how many zones a cluster spreads. -/
structure ZoneAwareness where
  zones : Option Int32
  deriving DecidableEq

instance : Record ZoneAwareness where
  name := "ZoneAwarenessConfig"
  fields := .ofList [("AvailabilityZoneCount", .whole)]
  ofValues := fun (zones, ()) => ⟨zones⟩
  toValues a := (a.zones, ())
  ofValues_toValues _ := rfl
  toValues_ofValues _ := rfl

/-- The machines of a cluster: data nodes, dedicated masters and zones. -/
structure Topology where
  instanceType : Option String
  instanceCount : Option Int32
  mastersEnabled : Option Bool
  masterType : Option String
  masterCount : Option Int32
  zonesEnabled : Option Bool
  zoneAwareness : Option ZoneAwareness
  deriving DecidableEq

instance : Record Topology where
  name := "ClusterConfig"
  fields := .ofList
    [("InstanceType", .text), ("InstanceCount", .whole), ("DedicatedMasterEnabled", .flag),
      ("DedicatedMasterType", .text), ("DedicatedMasterCount", .whole),
      ("ZoneAwarenessEnabled", .flag), ("ZoneAwarenessConfig", Record.shape ZoneAwareness)]
  ofValues := fun (a, b, c, d, e, f, g, ()) => ⟨a, b, c, d, e, f, Record.option g⟩
  toValues a :=
    (a.instanceType, a.instanceCount, a.mastersEnabled, a.masterType, a.masterCount,
      a.zonesEnabled, Record.optionValue a.zoneAwareness, ())
  ofValues_toValues _ := by simp
  toValues_ofValues _ := by simp

/-- Whether a cluster has one data node and no dedicated masters. -/
def Topology.isSingleNode (t : Topology) : Bool :=
  t.instanceCount = some 1 && t.masterCount.isNone

/-! ## Disks, backups and encryption -/

/-- The disks of the machines. -/
structure Storage where
  enabled : Option Bool
  volumeType : Option String
  volumeSize : Option Int32
  iops : Option Int32
  deriving DecidableEq

instance : Record Storage where
  name := "EbsOptions"
  fields := .ofList
    [("EBSEnabled", .flag), ("VolumeType", .text), ("VolumeSize", .whole), ("Iops", .whole)]
  ofValues := fun (a, b, c, d, ()) => ⟨a, b, c, d⟩
  toValues a := (a.enabled, a.volumeType, a.volumeSize, a.iops, ())
  ofValues_toValues _ := rfl
  toValues_ofValues _ := rfl

/-- When the daily snapshot starts. -/
structure Snapshots where
  startHour : Option Int32
  deriving DecidableEq

instance : Record Snapshots where
  name := "SnapshotOptions"
  fields := .ofList [("AutomatedSnapshotStartHour", .whole)]
  ofValues := fun (a, ()) => ⟨a⟩
  toValues a := (a.startHour, ())
  ofValues_toValues _ := rfl
  toValues_ofValues _ := rfl

/-- Encryption of data at rest. -/
structure RestEncryption where
  enabled : Option Bool
  keyId : Option String
  deriving DecidableEq

instance : Record RestEncryption where
  name := "EncryptionAtRestOptions"
  fields := .ofList [("Enabled", .flag), ("KmsKeyId", .text)]
  ofValues := fun (a, b, ()) => ⟨a, b⟩
  toValues a := (a.enabled, a.keyId, ())
  ofValues_toValues _ := rfl
  toValues_ofValues _ := rfl

/-- Encryption of the traffic between nodes. -/
structure NodeEncryption where
  enabled : Option Bool
  deriving DecidableEq

instance : Record NodeEncryption where
  name := "NodeToNodeEncryptionOptions"
  fields := .ofList [("Enabled", .flag)]
  ofValues := fun (a, ()) => ⟨a⟩
  toValues a := (a.enabled, ())
  ofValues_toValues _ := rfl
  toValues_ofValues _ := rfl

/-! ## Logs -/

/-- Where the logs of one kind go. -/
structure LogTarget where
  groupArn : Option String
  enabled : Option Bool
  deriving DecidableEq

instance : Record LogTarget where
  name := "LogPublishingOption"
  fields := .ofList [("CloudWatchLogsLogGroupArn", .text), ("Enabled", .flag)]
  ofValues := fun (a, b, ()) => ⟨a, b⟩
  toValues a := (a.groupArn, a.enabled, ())
  ofValues_toValues _ := rfl
  toValues_ofValues _ := rfl

/-! ## Access -/

/-- Signing in to the dashboards through a pool of users. -/
structure Cognito where
  enabled : Option Bool
  userPoolId : Option String
  identityPoolId : Option String
  roleArn : Option String
  deriving DecidableEq

instance : Record Cognito where
  name := "CognitoOptions"
  fields := .ofList
    [("Enabled", .flag), ("UserPoolId", .text), ("IdentityPoolId", .text), ("RoleArn", .text)]
  ofValues := fun (a, b, c, d, ()) => ⟨a, b, c, d⟩
  toValues a := (a.enabled, a.userPoolId, a.identityPoolId, a.roleArn, ())
  ofValues_toValues _ := rfl
  toValues_ofValues _ := rfl

/-- How clients connect to the endpoint. -/
structure EndpointPolicy where
  enforceHttps : Option Bool
  tlsPolicy : Option String
  customEnabled : Option Bool
  customEndpoint : Option String
  certificateArn : Option String
  deriving DecidableEq

instance : Record EndpointPolicy where
  name := "DomainEndpointOptions"
  fields := .ofList
    [("EnforceHTTPS", .flag), ("TLSSecurityPolicy", .text), ("CustomEndpointEnabled", .flag),
      ("CustomEndpoint", .text), ("CustomEndpointCertificateArn", .text)]
  ofValues := fun (a, b, c, d, e, ()) => ⟨a, b, c, d, e⟩
  toValues a :=
    (a.enforceHttps, a.tlsPolicy, a.customEnabled, a.customEndpoint, a.certificateArn, ())
  ofValues_toValues _ := rfl
  toValues_ofValues _ := rfl

/-- The user who may do everything. -/
structure MasterUser where
  arn : Option String
  name : Option String
  password : Option String
  deriving DecidableEq

instance : Record MasterUser where
  name := "MasterUserOptions"
  fields := .ofList
    [("MasterUserARN", .text), ("MasterUserName", .text), ("MasterUserPassword", .text)]
  ofValues := fun (a, b, c, ()) => ⟨a, b, c⟩
  toValues a := (a.arn, a.name, a.password, ())
  ofValues_toValues _ := rfl
  toValues_ofValues _ := rfl

/-- A master user as diagnostics show it; the password is hidden whether there is one or not. -/
def MasterUser.shown (m : MasterUser) : String :=
  Text.shownRecord "MasterUserOptions"
    [("master_user_arn", Text.shownOption (m.arn.map Text.quoted)),
      ("master_user_name", Text.shownOption (m.name.map Text.quoted)),
      ("master_user_password", Text.quoted Text.redacted)]

/-- Control of access down to single documents. -/
structure AccessControl where
  enabled : Option Bool
  internalUsers : Option Bool
  masterUser : Option MasterUser
  anonymous : Option Bool
  deriving DecidableEq

instance : Record AccessControl where
  name := "AdvancedSecurityOptions"
  fields := .ofList
    [("Enabled", .flag), ("InternalUserDatabaseEnabled", .flag),
      ("MasterUserOptions", Record.shape MasterUser), ("AnonymousAuthEnabled", .flag)]
  ofValues := fun (a, b, c, d, ()) => ⟨a, b, Record.option c, d⟩
  toValues a :=
    (a.enabled, a.internalUsers, Record.optionValue a.masterUser, a.anonymous, ())
  ofValues_toValues _ := by simp
  toValues_ofValues _ := by simp

/-- Control of access as diagnostics show it. -/
def AccessControl.shown (a : AccessControl) : String :=
  Text.shownRecord "AdvancedSecurityOptions"
    [("enabled", Text.shownOption (a.enabled.map toString)),
      ("internal_user_database_enabled", Text.shownOption (a.internalUsers.map toString)),
      ("master_user_options", Text.shownOption (a.masterUser.map MasterUser.shown)),
      ("anonymous_auth_enabled", Text.shownOption (a.anonymous.map toString))]

end ClusterBroker.Domain
