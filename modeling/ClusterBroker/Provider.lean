import ClusterBroker.Cache.Timeline
import ClusterBroker.ControlPlane

/-!
# Providers

A provider hosts instances on a control plane.  Reads go through a cache that a reaper clears; an
instance that is being made is put there too.  Every failure ends an operation at once.

* `Provider` — a provider, which does not change; `World` — everything that does.
* `Action` — an operation: what it does to the world, and its result.
* `Provider.getInstance`, `provision`, `modify`, `deprovision`, `tag`, `untag`, `postProvision`,
  `urls` — the operations.
* `World.settle`, `World.sleep`, `World.shutdown` — what happens between them.
-/

namespace ClusterBroker

open Domain (Report Request Token Naming)

/-! ## Worlds -/

/-- A call, when it was sent, when it was answered, and the answer. -/
structure Exchange where
  call : Call
  sent : Nat
  answered : Nat
  outcome : Except Refusal call.Answer

/-- What operations change: time, cache and notices; the state of the control plane; the exchanges
with it; and how many random tokens were drawn. -/
structure World (σ : Type) where
  timeline : Timeline
  plane : σ
  exchanges : List Exchange
  drawn : Nat

/-- A provider: its environment and tuning, the control plane, and the tokens it will draw. -/
structure Provider (σ : Type) where
  environment : Environment
  tuning : Tuning
  plane : ControlPlane σ
  tokens : Nat → Token

/-- An operation on a world that may fail.  What it did before it failed stays done. -/
abbrev Action (σ α : Type) : Type :=
  ExceptT Failure (StateM (World σ)) α

namespace Provider

variable {σ : Type}

/-- The tag of the service that providers stand for. -/
def name : String := ServiceKind.elasticsearch.tag

/-- The name of the reaper of a provider's cache. -/
def reaperName : String := "cache"

/-- The world in which a provider starts: an empty cache with a reaper. -/
def start (p : Provider σ) (state : σ) : World σ where
  timeline := Timeline.start.spawn reaperName p.tuning.cacheInterval
  plane := state
  exchanges := []
  drawn := 0

/-! ## Steps -/

/-- Changes the timeline. -/
def onTimeline (f : Timeline → Timeline) : Action σ Unit :=
  modify fun w => { w with timeline := f w.timeline }

/-- Writes a notice. -/
def note (n : Notice) : Action σ Unit :=
  onTimeline (·.note n)

/-- Sends a call and waits for the answer. -/
def send (p : Provider σ) (call : Call) : Action σ (Except Refusal call.Answer) := do
  let w ← get
  let (reply, plane) := p.plane.answer call w.plane
  let timeline := (w.timeline.noteAll reply.notices).wait reply.latency
  let exchange : Exchange := ⟨call, w.timeline.now, timeline.now, reply.outcome⟩
  set { w with timeline, plane, exchanges := w.exchanges ++ [exchange] }
  return reply.outcome

/-- Sends a call; a refusal is the failure that `refused` makes of it. -/
def request (p : Provider σ) (call : Call) (refused : Refusal → Failure) :
    Action σ call.Answer := do
  match ← p.send call with
  | .ok answer => return answer
  | .error refusal => throw (refused refusal)

/-- Draws the next token. -/
def draw (p : Provider σ) : Action σ Token := do
  let w ← get
  set { w with drawn := w.drawn + 1 }
  return p.tokens w.drawn

/-- The request for a plan's private settings; what the settings leave out is noted. -/
def resolve (p : Provider σ) (details : Details) (naming : Action σ Naming) :
    Action σ Request := do
  match Domain.Settings.ofDetails details with
  | .error failure => throw failure
  | .ok (settings, notices) =>
    onTimeline (·.noteAll notices)
    return Request.make p.environment settings (← naming)

/-! ## Instances -/

/-- The tag that names who pays for a domain. -/
def billingTag : String := "billingcode"

/-- The instance that a report describes.  Its scheme does not depend on the plan. -/
def toInstance (id : String) (plan : Plan) (report : Report) : Instance where
  id := id
  name := report.name
  serviceId := report.arn
  plan := plan
  credentials := none
  endpoint := report.connection
  scheme := "https"
  phase := report.flags.phase
  ready := report.flags.ready
  engine := "elasticsearch"
  engineVersion := report.version.getD ""

/-- The failure of a description that was refused. -/
def describeFailure (name : String) : Refusal → Failure
  | .notFound _ => .notFound name
  | refusal => .transient refusal.message

/-- Asks for a domain and puts the instance into the cache. -/
def describe (p : Provider σ) (id name : String) (plan : Plan) : Action σ Instance := do
  let report ← p.request (.describe name) (describeFailure name)
  let found := toInstance id plan report
  onTimeline (·.put found)
  return found

/-! ## Operations -/

/-- Looks an instance up, in the cache first.  The identifier given by the caller is not known to
the service, so what is found there has none. -/
def getInstance (p : Provider σ) (name : String) (plan : Plan) : Action σ Instance := do
  match (← get).timeline.get? ⟨name, plan.id⟩ with
  | some found =>
    note (.cacheHit name plan.id)
    return found
  | none => p.describe "" name plan

/-- Writes a tag on an instance. -/
def tag (p : Provider σ) (target : Instance) (key value : String) : Action σ Unit :=
  p.request (.addTags target.serviceId [⟨key, value⟩]) fun refusal => .tag refusal.message

/-- Removes a tag from an instance. -/
def untag (p : Provider σ) (target : Instance) (key : String) : Action σ Unit :=
  p.request (.removeTags target.serviceId [key]) fun refusal => .tag refusal.message

/-- Makes a new instance, lets it settle and writes its owner on it.  If the last step fails the
instance is there all the same, and the failure carries it. -/
def provision (p : Provider σ) (id : String) (plan : Plan) (owner : String) :
    Action σ Instance := do
  let request ← p.resolve plan.details do
    return .generated p.tuning.namePrefix (← p.draw)
  note (.creating request.name id plan.id)
  let report ← p.request (.create request) fun refusal => .provision refusal.message
  let made := toInstance id plan report
  onTimeline (·.put made)
  onTimeline (·.wait p.tuning.settleDelay)
  tryCatch (p.tag made billingTag owner) fun failure => do
    note (.taggingFailed made.name failure.message)
    throw (.untagged made failure.message)
  return made

/-- Applies a plan, which may be another one, to an instance. -/
def modify (p : Provider σ) (target : Instance) (plan : Plan) : Action σ Instance := do
  let request ← p.resolve plan.details (return .given target.name)
  note (.updating target.name plan.id)
  p.request (.update request) fun refusal => .modify refusal.message
  p.describe target.id target.name plan

/-- Deletes an instance.  A last snapshot cannot be taken. -/
def deprovision (p : Provider σ) (target : Instance) (takeSnapshot : Bool) : Action σ Unit := do
  if takeSnapshot then
    note (.snapshotUnsupported target.name)
  note (.deleting target.name)
  p.request (.delete target.name) fun refusal => .deprovision refusal.message

/-- What is done after an instance was made: nothing here. -/
def postProvision (target : Instance) : Action σ Instance :=
  return target

/-- Where an instance and its dashboards are reached. -/
def urls (target : Instance) : Dict String :=
  target.urls [("ES_URL", ""), ("KIBANA_URL", "/_plugin/kibana")]

end Provider

/-! ## Between operations -/

namespace World

variable {σ : Type}

/-- The ticks that are due happen. -/
def settle (w : World σ) : World σ :=
  { w with timeline := w.timeline.settle }

/-- Nothing is asked for a while. -/
def sleep (w : World σ) (duration : Nat) : World σ :=
  { w with timeline := w.timeline.sleep duration }

/-- The reaper ends.  The cache keeps what it has. -/
def shutdown (w : World σ) : World σ :=
  { w with timeline := w.timeline.stop Provider.reaperName }

end World

end ClusterBroker
