import ClusterBroker.Cache
import ClusterBroker.Cache.Reaper
import ClusterBroker.Cache.Timeline
import ClusterBroker.Cache.Timeline.Step
import ClusterBroker.ControlPlane
import ClusterBroker.ControlPlane.Rehearsal
import ClusterBroker.ControlPlane.Wire
import ClusterBroker.ControlPlane.Wire.Body
import ClusterBroker.ControlPlane.Wire.Catalog
import ClusterBroker.ControlPlane.Wire.Config
import ClusterBroker.ControlPlane.Wire.Form
import ClusterBroker.ControlPlane.Wire.Options
import ClusterBroker.ControlPlane.Wire.Reply
import ClusterBroker.ControlPlane.Wire.Request
import ClusterBroker.ControlPlane.Wire.Token
import ClusterBroker.Decimal.Binary64
import ClusterBroker.Decimal.Numeral
import ClusterBroker.Decimal.Shortest
import ClusterBroker.Dict
import ClusterBroker.Domain.Options
import ClusterBroker.Domain.Report
import ClusterBroker.Domain.Request
import ClusterBroker.Domain.Settings
import ClusterBroker.Environment
import ClusterBroker.Failure
import ClusterBroker.Instance
import ClusterBroker.Json.Basic
import ClusterBroker.Json.Fault
import ClusterBroker.Json.Lexeme
import ClusterBroker.Json.Lexeme.Number
import ClusterBroker.Json.Lexeme.Text
import ClusterBroker.Json.Node
import ClusterBroker.Json.Node.Walk
import ClusterBroker.Json.Printer
import ClusterBroker.Json.Record
import ClusterBroker.Json.Shape
import ClusterBroker.Json.Variant
import ClusterBroker.Lifecycle
import ClusterBroker.Notice
import ClusterBroker.Plan
import ClusterBroker.Provider
import ClusterBroker.Provider.Operation
import ClusterBroker.Registry
import ClusterBroker.Text.Address
import ClusterBroker.Text.Blank
import ClusterBroker.Text.Hex
import ClusterBroker.Text.Quoted
import ClusterBroker.Text.Unprintable
import ClusterBroker.Proofs.Cache.Schedule
import ClusterBroker.Proofs.Provider.Chronicle
import ClusterBroker.Proofs.Provider.Records
import ClusterBroker.Proofs.Provider.Freshness
import ClusterBroker.Proofs.Provider.Refusals
import ClusterBroker.Proofs.Provider.Provision
import ClusterBroker.Proofs.Json.Meaning
import ClusterBroker.Proofs.Json.Reading
import ClusterBroker.Proofs.Json.Writing
import ClusterBroker.Proofs.Json.Printing
import ClusterBroker.Proofs.ControlPlane.Encoding
import ClusterBroker.Proofs.Domain.Bodies
import ClusterBroker.Proofs.Provider.Custody
import ClusterBroker.Proofs.Provider.Hosted
import ClusterBroker.Proofs.Provider.CachedReads
import ClusterBroker.Proofs.Provider.Annals
import ClusterBroker.Proofs.Provider.Economy
import ClusterBroker.Proofs.Provider.Redaction
import ClusterBroker.Proofs.Provider.Sightings
import ClusterBroker.Proofs.Provider.Discretion
import ClusterBroker.Proofs.Json.Grammar
import ClusterBroker.Proofs.Json.Machine
import ClusterBroker.Proofs.Json.Accepting
import ClusterBroker.Proofs.Domain.Blob
import ClusterBroker.Proofs.Cache.Ticks
import ClusterBroker.Proofs.Cache.Passage
import ClusterBroker.Proofs.Cache.Punctuality
import ClusterBroker.Proofs.Cache.Steadiness
import ClusterBroker.Proofs.Domain.Extras
import ClusterBroker.Proofs.Registry.Refinement
import ClusterBroker.Proofs.Registry.Sharing
import ClusterBroker.Proofs.Domain.Omissions
import ClusterBroker.Proofs.Json.Alike.Texts
import ClusterBroker.Proofs.Json.Alike.Trees
import ClusterBroker.Proofs.Json.Alike.Faults
import ClusterBroker.Proofs.Json.Alike.Readers
import ClusterBroker.Proofs.Domain.Quoting
import ClusterBroker.Proofs.Cache.Lifetime
import ClusterBroker.Proofs.Provider.Incidents
import ClusterBroker.Proofs.Provider.Shutdown
import ClusterBroker.Proofs.Provider.Modification
import ClusterBroker.Proofs.Domain.Naming
import ClusterBroker.Proofs.Text.Stripping
import ClusterBroker.Proofs.Domain.SingleNode
import ClusterBroker.Proofs.Domain.Placement
import ClusterBroker.Proofs.Domain.Policy
import ClusterBroker.Proofs.Text.Padding
import ClusterBroker.Proofs.Environment.Reading
import ClusterBroker.Proofs.Text.Digits
import ClusterBroker.Proofs.Text.Apart
import ClusterBroker.Proofs.Provider.Disclosure
import ClusterBroker.Proofs.ControlPlane.Answers
import ClusterBroker.Proofs.Provider.Troubles
import ClusterBroker.Proofs.Provider.ServiceErrors
import ClusterBroker.Proofs.Cache.Accounts
import ClusterBroker.Proofs.Json.Reordering
import ClusterBroker.Proofs.Domain.Serialization
