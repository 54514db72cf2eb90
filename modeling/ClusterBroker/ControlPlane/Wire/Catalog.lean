import ClusterBroker.ControlPlane.Wire.Form

/-!
# The forms of the service's replies

The service answers with far more than is reported, and a reply is taken only if all of it that has
a known name has the known form.

* `Catalog.status` — a domain; `Catalog.config` — its configuration with the state of each part.
* `Catalog.statusReply`, `Catalog.configReply`, `Catalog.errorReply` — whole bodies.
-/

namespace ClusterBroker.Wire.Catalog

open Form

/-! ## Parts of a domain -/

/-- An integer of thirty-two bits. -/
def int : Form := whole 32

/-- A part that can only be on or off. -/
def switch : Form :=
  record [("Enabled", flag)]

/-- The nodes of a cluster. -/
def cluster : Form :=
  record
    [("InstanceType", text), ("InstanceCount", int), ("DedicatedMasterEnabled", flag),
      ("ZoneAwarenessEnabled", flag),
      ("ZoneAwarenessConfig", record [("AvailabilityZoneCount", int)]),
      ("DedicatedMasterType", text), ("DedicatedMasterCount", int), ("WarmEnabled", flag),
      ("WarmType", text), ("WarmCount", int), ("ColdStorageOptions", switch)]

/-- The disks of a cluster. -/
def disks : Form :=
  record
    [("EBSEnabled", flag), ("VolumeType", text), ("VolumeSize", int), ("Iops", int),
      ("Throughput", int)]

/-- When snapshots are taken. -/
def snapshots : Form :=
  record [("AutomatedSnapshotStartHour", int)]

/-- The place of a domain in a network. -/
def network : Form :=
  record
    [("VPCId", text), ("SubnetIds", list text), ("AvailabilityZones", list text),
      ("SecurityGroupIds", list text)]

/-- The pools of users that may sign in. -/
def signIn : Form :=
  record [("Enabled", flag), ("UserPoolId", text), ("IdentityPoolId", text), ("RoleArn", text)]

/-- The encryption of stored data. -/
def storedEncryption : Form :=
  record [("Enabled", flag), ("KmsKeyId", text)]

/-- Where logs are published, by kind of log. -/
def logs : Form :=
  table (record [("CloudWatchLogsLogGroupArn", text), ("Enabled", flag)])

/-- The version of the service software. -/
def serviceSoftware : Form :=
  record
    [("CurrentVersion", text), ("NewVersion", text), ("UpdateAvailable", flag),
      ("Cancellable", flag), ("UpdateStatus", text), ("Description", text),
      ("AutomatedUpdateDate", moment), ("OptionalDeployment", flag)]

/-- The address of a domain. -/
def address : Form :=
  record
    [("EnforceHTTPS", flag), ("TLSSecurityPolicy", text), ("CustomEndpointEnabled", flag),
      ("CustomEndpoint", text), ("CustomEndpointCertificateArn", text)]

/-- Sign-in by an outside identity provider. -/
def federation : Form :=
  record
    [("Enabled", flag), ("Idp", record [("MetadataContent", text), ("EntityId", text)]),
      ("SubjectKey", text), ("RolesKey", text), ("SessionTimeoutMinutes", int)]

/-- Access control inside a domain. -/
def accessControl : Form :=
  record
    [("Enabled", flag), ("InternalUserDatabaseEnabled", flag), ("SAMLOptions", federation),
      ("AnonymousAuthDisableDate", moment), ("AnonymousAuthEnabled", flag)]

/-- How far a change has come. -/
def progress : Form :=
  record
    [("ChangeId", text), ("Message", text), ("ConfigChangeStatus", text), ("StartTime", moment),
      ("LastUpdatedTime", moment), ("InitiatedBy", text)]

/-- The properties that a change is about. -/
def modifications : Form :=
  list (record
    [("Name", text), ("ActiveValue", text), ("PendingValue", text), ("ValueType", text)])

/-- How a change is rolled out. -/
def rollout : Form :=
  record [("DeploymentStrategy", text)]

/-! ## Domains -/

/-- A domain. -/
def status : Form :=
  record
    [("DomainId", text), ("DomainName", text), ("ARN", text), ("Created", flag),
      ("Deleted", flag), ("Endpoint", text), ("Endpoints", table text), ("Processing", flag),
      ("UpgradeProcessing", flag), ("ElasticsearchVersion", text),
      ("ElasticsearchClusterConfig", cluster), ("EBSOptions", disks), ("AccessPolicies", text),
      ("SnapshotOptions", snapshots), ("VPCOptions", network), ("CognitoOptions", signIn),
      ("EncryptionAtRestOptions", storedEncryption), ("NodeToNodeEncryptionOptions", switch),
      ("AdvancedOptions", table text), ("LogPublishingOptions", logs),
      ("ServiceSoftwareOptions", serviceSoftware), ("DomainEndpointOptions", address),
      ("AdvancedSecurityOptions", accessControl),
      ("AutoTuneOptions", record [("State", text), ("ErrorMessage", text)]),
      ("ChangeProgressDetails", progress), ("DomainProcessingStatus", text),
      ("ModifyingProperties", modifications), ("DeploymentStrategyOptions", rollout),
      ("AutomatedSnapshotPauseOptions", record []), ("UseCase", text)]

/-! ## Configurations -/

/-- The state of a part of a configuration. -/
def partState : Form :=
  record
    [("CreationDate", moment), ("UpdateDate", moment), ("UpdateVersion", int), ("State", text),
      ("PendingDeletion", flag)]

/-- A part of a configuration and its state. -/
def part (options : Form) : Form :=
  record [("Options", options), ("Status", partState)]

/-- When a domain is tuned. -/
def tuning : Form :=
  record
    [("DesiredState", text), ("RollbackOnDisable", text),
      ("MaintenanceSchedules", list (record
        [("StartAt", moment), ("Duration", record [("Value", whole 64), ("Unit", text)]),
          ("CronExpressionForRecurrence", text)]))]

/-- The state of the tuning of a domain. -/
def tuningState : Form :=
  record
    [("CreationDate", moment), ("UpdateDate", moment), ("UpdateVersion", int), ("State", text),
      ("ErrorMessage", text), ("PendingDeletion", flag)]

/-- The configuration of a domain. -/
def config : Form :=
  record
    [("ElasticsearchVersion", part text), ("ElasticsearchClusterConfig", part cluster),
      ("EBSOptions", part disks), ("AccessPolicies", part text),
      ("SnapshotOptions", part snapshots), ("VPCOptions", part network),
      ("CognitoOptions", part signIn), ("EncryptionAtRestOptions", part storedEncryption),
      ("NodeToNodeEncryptionOptions", part switch), ("AdvancedOptions", part (table text)),
      ("LogPublishingOptions", part logs), ("DomainEndpointOptions", part address),
      ("AdvancedSecurityOptions", part accessControl),
      ("AutoTuneOptions", record [("Options", tuning), ("Status", tuningState)]),
      ("ChangeProgressDetails", progress), ("ModifyingProperties", modifications),
      ("DeploymentStrategyOptions", part rollout),
      ("AutomatedSnapshotPauseOptions", part (record [])), ("UseCase", part text)]

/-! ## Bodies -/

/-- The body of a reply with a domain. -/
def statusReply : Form :=
  record [("DomainStatus", status)]

/-- The body of a reply with a configuration. -/
def configReply : Form :=
  record
    [("DomainConfig", config),
      ("DryRunResults", record [("DeploymentType", text), ("Message", text)])]

/-- The body of a documented error. -/
def errorReply : Form :=
  record [("message", text)]

end ClusterBroker.Wire.Catalog
