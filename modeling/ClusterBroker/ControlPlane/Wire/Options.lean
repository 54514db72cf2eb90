import ClusterBroker.Domain.Options

/-!
# Options as the service takes them

The service has a record for each group of options, with names of its own for the members.  A member
that is set is written under its name, one that is not is left out, and a record of which nothing is
set is written as an empty one.

* `Wire.Value`, `Wire.member`, `Wire.record` — what records hold and how they are written.
* `Wire.Word` — a word of a vocabulary of the service.
* `ClusterConfig`, `EbsOptions` and so on — the records, each with the function that makes it from the
  options of the broker and with the names of its members.
-/

namespace ClusterBroker.Wire

open Domain

/-! ## Records -/

/-- What a member of a record may hold. -/
class Value (α : Type) where
  toJson : α → Json

instance : Value Bool := ⟨.bool⟩

instance : Value Int32 := ⟨fun n => .whole n.toInt⟩

instance : Value String := ⟨.text⟩

instance {α : Type} [Value α] : Value (List α) := ⟨fun l => .array (l.map Value.toJson)⟩

instance {α : Type} [Value α] : Value (Dict α) :=
  ⟨fun d => .object (d.entries.map fun e => (e.1, Value.toJson e.2))⟩

/-- The entry of a member, if it is set. -/
def member {α : Type} [Value α] (name : String) (value : Option α) : List (String × Json) :=
  (value.map fun a => (name, Value.toJson a)).toList

/-- A record of some members. -/
def record (members : List (List (String × Json))) : Json :=
  .object members.flatten

/-- A word of a vocabulary of the service.  One that is not in the vocabulary is kept as well, so a
word is told by its spelling. -/
structure Word where ofText ::
  spelling : String

instance : Value Word := ⟨fun w => .text w.spelling⟩

/-! ## Machines -/

/-- Over how many zones a cluster spreads. -/
structure ZoneAwarenessConfig where
  availabilityZoneCount : Option Int32

def ZoneAwarenessConfig.ofOptions (a : ZoneAwareness) : ZoneAwarenessConfig where
  availabilityZoneCount := a.zones

instance : Value ZoneAwarenessConfig where
  toJson c := record [member "AvailabilityZoneCount" c.availabilityZoneCount]

/-- The machines of a cluster. -/
structure ClusterConfig where
  instanceType : Option Word
  instanceCount : Option Int32
  dedicatedMasterEnabled : Option Bool
  dedicatedMasterType : Option Word
  dedicatedMasterCount : Option Int32
  zoneAwarenessEnabled : Option Bool
  zoneAwarenessConfig : Option ZoneAwarenessConfig

def ClusterConfig.ofOptions (t : Topology) : ClusterConfig where
  instanceType := t.instanceType.map .ofText
  instanceCount := t.instanceCount
  dedicatedMasterEnabled := t.mastersEnabled
  dedicatedMasterType := t.masterType.map .ofText
  dedicatedMasterCount := t.masterCount
  zoneAwarenessEnabled := t.zonesEnabled
  zoneAwarenessConfig := t.zoneAwareness.map .ofOptions

instance : Value ClusterConfig where
  toJson c := record
    [member "InstanceType" c.instanceType,
      member "InstanceCount" c.instanceCount,
      member "DedicatedMasterEnabled" c.dedicatedMasterEnabled,
      member "DedicatedMasterType" c.dedicatedMasterType,
      member "DedicatedMasterCount" c.dedicatedMasterCount,
      member "ZoneAwarenessEnabled" c.zoneAwarenessEnabled,
      member "ZoneAwarenessConfig" c.zoneAwarenessConfig]

/-! ## Disks, backups and encryption -/

/-- The disks of the machines. -/
structure EbsOptions where
  ebsEnabled : Option Bool
  volumeType : Option Word
  volumeSize : Option Int32
  iops : Option Int32

def EbsOptions.ofOptions (s : Storage) : EbsOptions where
  ebsEnabled := s.enabled
  volumeType := s.volumeType.map .ofText
  volumeSize := s.volumeSize
  iops := s.iops

instance : Value EbsOptions where
  toJson o := record
    [member "EBSEnabled" o.ebsEnabled,
      member "VolumeType" o.volumeType,
      member "VolumeSize" o.volumeSize,
      member "Iops" o.iops]

/-- When the daily snapshot starts. -/
structure SnapshotOptions where
  automatedSnapshotStartHour : Option Int32

def SnapshotOptions.ofOptions (s : Snapshots) : SnapshotOptions where
  automatedSnapshotStartHour := s.startHour

instance : Value SnapshotOptions where
  toJson o := record [member "AutomatedSnapshotStartHour" o.automatedSnapshotStartHour]

/-- Encryption of data at rest. -/
structure EncryptionAtRestOptions where
  enabled : Option Bool
  kmsKeyId : Option String

def EncryptionAtRestOptions.ofOptions (e : RestEncryption) : EncryptionAtRestOptions where
  enabled := e.enabled
  kmsKeyId := e.keyId

instance : Value EncryptionAtRestOptions where
  toJson o := record [member "Enabled" o.enabled, member "KmsKeyId" o.kmsKeyId]

/-- Encryption of the traffic between nodes. -/
structure NodeToNodeEncryptionOptions where
  enabled : Option Bool

def NodeToNodeEncryptionOptions.ofOptions (e : NodeEncryption) : NodeToNodeEncryptionOptions where
  enabled := e.enabled

instance : Value NodeToNodeEncryptionOptions where
  toJson o := record [member "Enabled" o.enabled]

/-! ## Logs -/

/-- Where the logs of one kind go. -/
structure LogPublishingOption where
  cloudWatchLogsLogGroupArn : Option String
  enabled : Option Bool

def LogPublishingOption.ofOptions (l : LogTarget) : LogPublishingOption where
  cloudWatchLogsLogGroupArn := l.groupArn
  enabled := l.enabled

instance : Value LogPublishingOption where
  toJson o := record
    [member "CloudWatchLogsLogGroupArn" o.cloudWatchLogsLogGroupArn, member "Enabled" o.enabled]

/-- The kinds of logs are words of the service.  Whether it knows them is for the service to judge. -/
def LogPublishingOption.tableOf (targets : Dict LogTarget) : Dict LogPublishingOption :=
  .ofList (targets.entries.map fun e => ((Word.ofText e.1).spelling, .ofOptions e.2))

/-! ## Access -/

/-- Signing in to the dashboards through a pool of users. -/
structure CognitoOptions where
  enabled : Option Bool
  userPoolId : Option String
  identityPoolId : Option String
  roleArn : Option String

def CognitoOptions.ofOptions (c : Cognito) : CognitoOptions where
  enabled := c.enabled
  userPoolId := c.userPoolId
  identityPoolId := c.identityPoolId
  roleArn := c.roleArn

instance : Value CognitoOptions where
  toJson o := record
    [member "Enabled" o.enabled,
      member "UserPoolId" o.userPoolId,
      member "IdentityPoolId" o.identityPoolId,
      member "RoleArn" o.roleArn]

/-- How clients connect to the endpoint. -/
structure DomainEndpointOptions where
  enforceHttps : Option Bool
  tlsSecurityPolicy : Option Word
  customEndpointEnabled : Option Bool
  customEndpoint : Option String
  customEndpointCertificateArn : Option String

def DomainEndpointOptions.ofOptions (p : EndpointPolicy) : DomainEndpointOptions where
  enforceHttps := p.enforceHttps
  tlsSecurityPolicy := p.tlsPolicy.map .ofText
  customEndpointEnabled := p.customEnabled
  customEndpoint := p.customEndpoint
  customEndpointCertificateArn := p.certificateArn

instance : Value DomainEndpointOptions where
  toJson o := record
    [member "EnforceHTTPS" o.enforceHttps,
      member "TLSSecurityPolicy" o.tlsSecurityPolicy,
      member "CustomEndpointEnabled" o.customEndpointEnabled,
      member "CustomEndpoint" o.customEndpoint,
      member "CustomEndpointCertificateArn" o.customEndpointCertificateArn]

/-- The user who may do everything. -/
structure MasterUserOptions where
  masterUserArn : Option String
  masterUserName : Option String
  masterUserPassword : Option String

def MasterUserOptions.ofOptions (m : MasterUser) : MasterUserOptions where
  masterUserArn := m.arn
  masterUserName := m.name
  masterUserPassword := m.password

instance : Value MasterUserOptions where
  toJson o := record
    [member "MasterUserARN" o.masterUserArn,
      member "MasterUserName" o.masterUserName,
      member "MasterUserPassword" o.masterUserPassword]

/-- Control of access down to single documents. -/
structure AdvancedSecurityOptions where
  enabled : Option Bool
  internalUserDatabaseEnabled : Option Bool
  masterUserOptions : Option MasterUserOptions
  anonymousAuthEnabled : Option Bool

def AdvancedSecurityOptions.ofOptions (a : AccessControl) : AdvancedSecurityOptions where
  enabled := a.enabled
  internalUserDatabaseEnabled := a.internalUsers
  masterUserOptions := a.masterUser.map .ofOptions
  anonymousAuthEnabled := a.anonymous

instance : Value AdvancedSecurityOptions where
  toJson o := record
    [member "Enabled" o.enabled,
      member "InternalUserDatabaseEnabled" o.internalUserDatabaseEnabled,
      member "MasterUserOptions" o.masterUserOptions,
      member "AnonymousAuthEnabled" o.anonymousAuthEnabled]

end ClusterBroker.Wire
