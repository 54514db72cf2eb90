import ClusterBroker.ControlPlane.Wire.Reply
import ClusterBroker.ControlPlane.Wire.Request

/-!
# The control plane behind the wire

Calls become requests to the host of a region and replies become answers.  Without a host nothing
is sent.

* `Wire.Line` — the replies to come and the requests sent.
* `Wire.plane` — the control plane of a region.
-/

namespace ClusterBroker.Wire

/-! ## The line -/

/-- The replies to come and the requests sent so far. -/
structure Line where
  replies : List Reply
  sent : List Request

/-- Nothing to come and nothing sent. -/
def Line.start : Line := ⟨[], []⟩

/-- A line on which one more reply is to come. -/
def Line.expect (l : Line) (reply : Reply) : Line :=
  { l with replies := l.replies ++ [reply] }

/-- Sends a request and takes the next reply; when there is none the line is broken. -/
def Line.exchange (l : Line) (request : Request) : Reply × Line :=
  let sent := l.sent ++ [request]
  match l.replies with
  | reply :: rest => (reply, ⟨rest, sent⟩)
  | [] => (.broken, ⟨[], sent⟩)

/-! ## The control plane -/

/-- The notice about a call. -/
def noticeOf : Call → List Notice
  | .describe name => [.requesting "DescribeElasticsearchDomain" name]
  | .create r => [.requesting "CreateElasticsearchDomain" r.name]
  | .update r => [.requesting "UpdateElasticsearchDomainConfig" r.name]
  | .delete name => [.requesting "DeleteElasticsearchDomain" name]
  | .addTags _ _ => []
  | .removeTags _ _ => []

/-- Whether the service has a host in a region, whose name then holds that of the region. -/
def hasHost (region : String) : Bool :=
  Text.isHostName region

/-- Answers a call over the line.  A call without a host or a request never reaches the service. -/
def answer (region : String) (call : Call) (l : Line) : ClusterBroker.Reply call.Answer × Line :=
  match (requestOf? call).filter fun _ => hasHost region with
  | none => (⟨.error unreachable, 0, noticeOf call⟩, l)
  | some request =>
    let (reply, rest) := l.exchange request
    (⟨receive call reply, 0, noticeOf call⟩, rest)

/-- The control plane behind the wire in a region. -/
def plane (region : String) : ControlPlane Line := ⟨answer region⟩

end ClusterBroker.Wire
