import ClusterBroker.Json.Variant

/-!
# The life of a cluster

A control plane reports four flags for a cluster.  The broker knows five phases, and whether the
cluster takes traffic.

* `Flags` — what is reported; `Phase` — what is made of it, with `Phase.name` and `Phase.ofText`.
* `Flags.condition` — phase and readiness of a report.
-/

namespace ClusterBroker

/-- Where a cluster is in its life.

* `creating`: accepted but not there yet.
* `available`: there and serving.
* `processing`: serving while a change of its configuration is applied.
* `upgrading`: busy with a change of version.
* `deleted`: deleted or being deleted. -/
inductive Phase where
  | creating
  | available
  | processing
  | upgrading
  | deleted
  deriving DecidableEq, Repr

namespace Phase

/-- Every phase. -/
def all : List Phase :=
  [creating, available, processing, upgrading, deleted]

/-- The name of a phase. -/
def name : Phase → String
  | creating => "creating"
  | available => "available"
  | processing => "processing"
  | upgrading => "upgrading"
  | deleted => "deleted"

/-- The name of a phase as diagnostics show it. -/
def shown : Phase → String
  | creating => "Creating"
  | available => "Available"
  | processing => "Processing"
  | upgrading => "Upgrading"
  | deleted => "Deleted"

/-- The phase that a JSON text names. -/
def ofText (text : List Char) : Except Json.Fault Phase :=
  Json.readVariant (all.map fun p => (p.name, p)) text

end Phase

/-- What a control plane reports about the life of a cluster. -/
structure Flags where
  created : Bool
  deleted : Bool
  processing : Bool
  upgrading : Bool
  deriving DecidableEq, Repr

/-- Phase and readiness of a cluster. -/
structure Condition where
  phase : Phase
  ready : Bool
  deriving DecidableEq, Repr

namespace Flags

/-- No flag is set. -/
def none : Flags := ⟨false, false, false, false⟩

/-- The phase.  Of a cluster that is there, a change of version counts before any other change. -/
def phase (f : Flags) : Phase :=
  let live := f.created && !f.deleted
  if live && f.upgrading then .upgrading
  else if live && f.processing then .processing
  else if f.deleted then .deleted
  else if !f.created then .creating
  else .available

/-- Whether the cluster takes traffic.  Only a change of version takes it out. -/
def ready (f : Flags) : Bool :=
  f.created && !f.deleted && !f.upgrading

/-- Phase and readiness. -/
def condition (f : Flags) : Condition :=
  ⟨f.phase, f.ready⟩

end Flags

end ClusterBroker
