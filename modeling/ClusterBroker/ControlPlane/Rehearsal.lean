import ClusterBroker.ControlPlane

/-!
# A control plane in memory

For rehearsals: domains and tags are kept in memory, and it can be told beforehand how long a kind
of call takes, which calls to refuse and what to report about new domains.

* `Rehearsal` — its state; `Rehearsal.plane` — the control plane.
-/

namespace ClusterBroker

open Domain (Report Request)

/-- Domains, tags, and what was arranged beforehand: refusals by kind of call, each used once in
their order, how long each kind takes, and reports about new domains. -/
structure Rehearsal where
  domains : Dict Report
  tags : Dict (Dict String)
  refusals : List (Method × Refusal)
  latencies : List (Method × Nat)
  creations : List Report

namespace Rehearsal

/-- Nothing there and nothing arranged. -/
def start : Rehearsal := ⟨.empty, .empty, [], [], []⟩

/-! ## Arrangements -/

/-- Calls of a kind will be refused a number of times. -/
def refuse (r : Rehearsal) (method : Method) (refusal : Refusal) (times : Nat) : Rehearsal :=
  { r with refusals := r.refusals ++ List.replicate times (method, refusal) }

/-- Calls of a kind will take a time. -/
def delay (r : Rehearsal) (method : Method) (duration : Nat) : Rehearsal :=
  { r with latencies := (method, duration) :: r.latencies }

/-- The next new domain without a report will have this one. -/
def expect (r : Rehearsal) (report : Report) : Rehearsal :=
  { r with creations := r.creations ++ [report] }

/-- How long a kind of call takes. -/
def latency (r : Rehearsal) (method : Method) : Nat :=
  ((r.latencies.find? (·.1 = method)).map (·.2)).getD 0

/-- The next refusal for a kind of call, and the state without it. -/
def takeRefusal (r : Rehearsal) (method : Method) : Option Refusal × Rehearsal :=
  match r.refusals.find? (·.1 = method) with
  | some (_, refusal) =>
    (some refusal, { r with refusals := r.refusals.eraseP (·.1 = method) })
  | none => (none, r)

/-! ## Calls -/

/-- The report about a new domain for which none was arranged. -/
def newReport (request : Request) : Report :=
  { Report.bare request.name ("arn:aws:es:us-east-1:123456789012:domain/" ++ request.name) with
    version := request.version }

/-- A change of one domain, if it is there. -/
def changeDomain (r : Rehearsal) (name : String) (f : Flags → Flags) :
    Except Refusal Unit × Rehearsal :=
  match r.domains.get? name with
  | some report =>
    (.ok (), { r with domains := r.domains.insert name { report with flags := f report.flags } })
  | none => (.error (.notFound name), r)

/-- What a call does that is not refused. -/
def perform (r : Rehearsal) : (call : Call) → Except Refusal call.Answer × Rehearsal
  | .describe name =>
    match r.domains.get? name with
    | some report => (.ok report, r)
    | none => (.error (.notFound name), r)
  | .create request =>
    match r.creations with
    | report :: rest =>
      (.ok report, { r with domains := r.domains.insert request.name report, creations := rest })
    | [] =>
      let report := newReport request
      (.ok report, { r with domains := r.domains.insert request.name report })
  | .update request => r.changeDomain request.name fun f => { f with processing := true }
  | .delete name => r.changeDomain name fun f => { f with deleted := true }
  | .addTags arn tags =>
    let before := (r.tags.get? arn).getD .empty
    let after := tags.foldl (fun d t => d.insert t.key t.value) before
    (.ok (), { r with tags := r.tags.insert arn after })
  | .removeTags arn keys =>
    (.ok (), { r with tags := r.tags.modify arn fun d => keys.foldl Dict.erase d })

/-- Answers a call: with the next refusal for its kind, or by performing it. -/
def answer (call : Call) (r : Rehearsal) : Reply call.Answer × Rehearsal :=
  let latency := r.latency call.method
  match r.takeRefusal call.method with
  | (some refusal, rest) => (⟨.error refusal, latency, []⟩, rest)
  | (none, rest) =>
    let (outcome, after) := rest.perform call
    (⟨outcome, latency, []⟩, after)

/-- The control plane in memory. -/
def plane : ControlPlane Rehearsal := ⟨answer⟩

end Rehearsal

end ClusterBroker
