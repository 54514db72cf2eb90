import ClusterBroker.ControlPlane.Wire.Options
import ClusterBroker.Domain.Request

/-!
# The configuration of a domain as the service takes it

A request is put into the records of the service once, and making a domain and changing it each pick
their members from there.

* `VpcOptions`, `Config` — what the two have in common.
* `Creation`, `Update` — the members of each.  A change has no version.  The name of the domain is in
  its path.
-/

namespace ClusterBroker.Wire

open Domain (Placement)

/-! ## What both have in common -/

/-- The private network of a domain. -/
structure VpcOptions where
  subnetIds : Option (List String)
  securityGroupIds : Option (List String)

def VpcOptions.ofPlacement (p : Placement) : VpcOptions where
  subnetIds := some p.subnets
  securityGroupIds := some p.groups

instance : Value VpcOptions where
  toJson o := record
    [member "SubnetIds" o.subnetIds, member "SecurityGroupIds" o.securityGroupIds]

/-- The parts of a request that have records of the service. -/
structure Config where
  cluster : Option ClusterConfig
  ebs : Option EbsOptions
  snapshot : Option SnapshotOptions
  encryptionAtRest : Option EncryptionAtRestOptions
  nodeToNode : Option NodeToNodeEncryptionOptions
  logPublishing : Option (Dict LogPublishingOption)
  cognito : Option CognitoOptions
  endpoint : Option DomainEndpointOptions
  security : Option AdvancedSecurityOptions
  vpc : Option VpcOptions

def Config.ofRequest (r : Domain.Request) : Config where
  cluster := r.topology.map .ofOptions
  ebs := r.storage.map .ofOptions
  snapshot := r.snapshots.map .ofOptions
  encryptionAtRest := r.restEncryption.map .ofOptions
  nodeToNode := r.nodeEncryption.map .ofOptions
  logPublishing := r.logTargets.map LogPublishingOption.tableOf
  cognito := r.cognito.map .ofOptions
  endpoint := r.endpointPolicy.map .ofOptions
  security := r.accessControl.map .ofOptions
  vpc := r.placement.map .ofPlacement

/-! ## Making a domain -/

/-- What the service takes to make a domain. -/
structure Creation where
  domainName : Option String
  elasticsearchVersion : Option String
  elasticsearchClusterConfig : Option ClusterConfig
  ebsOptions : Option EbsOptions
  snapshotOptions : Option SnapshotOptions
  advancedOptions : Option (Dict String)
  encryptionAtRestOptions : Option EncryptionAtRestOptions
  nodeToNodeEncryptionOptions : Option NodeToNodeEncryptionOptions
  logPublishingOptions : Option (Dict LogPublishingOption)
  cognitoOptions : Option CognitoOptions
  domainEndpointOptions : Option DomainEndpointOptions
  advancedSecurityOptions : Option AdvancedSecurityOptions
  accessPolicies : Option String
  vpcOptions : Option VpcOptions

def Creation.ofRequest (r : Domain.Request) : Creation :=
  let config := Config.ofRequest r
  { domainName := some r.name
    elasticsearchVersion := r.version
    elasticsearchClusterConfig := config.cluster
    ebsOptions := config.ebs
    snapshotOptions := config.snapshot
    advancedOptions := r.advanced
    encryptionAtRestOptions := config.encryptionAtRest
    nodeToNodeEncryptionOptions := config.nodeToNode
    logPublishingOptions := config.logPublishing
    cognitoOptions := config.cognito
    domainEndpointOptions := config.endpoint
    advancedSecurityOptions := config.security
    accessPolicies := some r.policy
    vpcOptions := config.vpc }

instance : Value Creation where
  toJson c := record
    [member "DomainName" c.domainName,
      member "ElasticsearchVersion" c.elasticsearchVersion,
      member "ElasticsearchClusterConfig" c.elasticsearchClusterConfig,
      member "EBSOptions" c.ebsOptions,
      member "SnapshotOptions" c.snapshotOptions,
      member "AdvancedOptions" c.advancedOptions,
      member "EncryptionAtRestOptions" c.encryptionAtRestOptions,
      member "NodeToNodeEncryptionOptions" c.nodeToNodeEncryptionOptions,
      member "LogPublishingOptions" c.logPublishingOptions,
      member "CognitoOptions" c.cognitoOptions,
      member "DomainEndpointOptions" c.domainEndpointOptions,
      member "AdvancedSecurityOptions" c.advancedSecurityOptions,
      member "AccessPolicies" c.accessPolicies,
      member "VPCOptions" c.vpcOptions]

/-! ## Changing a domain -/

/-- What the service takes to change a domain. -/
structure Update where
  elasticsearchClusterConfig : Option ClusterConfig
  ebsOptions : Option EbsOptions
  snapshotOptions : Option SnapshotOptions
  advancedOptions : Option (Dict String)
  encryptionAtRestOptions : Option EncryptionAtRestOptions
  nodeToNodeEncryptionOptions : Option NodeToNodeEncryptionOptions
  logPublishingOptions : Option (Dict LogPublishingOption)
  cognitoOptions : Option CognitoOptions
  domainEndpointOptions : Option DomainEndpointOptions
  advancedSecurityOptions : Option AdvancedSecurityOptions
  accessPolicies : Option String
  vpcOptions : Option VpcOptions

def Update.ofRequest (r : Domain.Request) : Update :=
  let config := Config.ofRequest r
  { elasticsearchClusterConfig := config.cluster
    ebsOptions := config.ebs
    snapshotOptions := config.snapshot
    advancedOptions := r.advanced
    encryptionAtRestOptions := config.encryptionAtRest
    nodeToNodeEncryptionOptions := config.nodeToNode
    logPublishingOptions := config.logPublishing
    cognitoOptions := config.cognito
    domainEndpointOptions := config.endpoint
    advancedSecurityOptions := config.security
    accessPolicies := some r.policy
    vpcOptions := config.vpc }

instance : Value Update where
  toJson u := record
    [member "ElasticsearchClusterConfig" u.elasticsearchClusterConfig,
      member "EBSOptions" u.ebsOptions,
      member "SnapshotOptions" u.snapshotOptions,
      member "AdvancedOptions" u.advancedOptions,
      member "EncryptionAtRestOptions" u.encryptionAtRestOptions,
      member "NodeToNodeEncryptionOptions" u.nodeToNodeEncryptionOptions,
      member "LogPublishingOptions" u.logPublishingOptions,
      member "CognitoOptions" u.cognitoOptions,
      member "DomainEndpointOptions" u.domainEndpointOptions,
      member "AdvancedSecurityOptions" u.advancedSecurityOptions,
      member "AccessPolicies" u.accessPolicies,
      member "VPCOptions" u.vpcOptions]

end ClusterBroker.Wire
