import ClusterBroker.Json.Printer
import ClusterBroker.Json.Shape
import ClusterBroker.Text.Quoted

/-!
# Plans

A plan chooses the service that hosts a cluster and carries settings that are private to that
service.  The settings leave the broker towards the service only: the public tree of a plan leaves
them out, and diagnostics show a placeholder.

* `ServiceKind` — the services a plan can name.
* `Plan` — plans, with `Plan.toJson` and `Plan.shown`.
-/

namespace ClusterBroker

/-- The service that a plan names: the one this broker knows, or any other tag. -/
inductive ServiceKind where
  | elasticsearch
  | unknown (tag : String)
  deriving DecidableEq, Repr

namespace ServiceKind

/-- The tag of a service. -/
def tag : ServiceKind → String
  | elasticsearch => "aws-es"
  | unknown other => other

/-- The service of a tag. -/
def ofTag (tag : String) : ServiceKind :=
  if tag = "aws-es" then elasticsearch else unknown tag

/-- The service whose tag a JSON text holds. -/
def ofText (text : List Char) : Except Json.Fault ServiceKind :=
  ofTag <$> Json.Shape.text.ofText text

/-- The service as diagnostics show it. -/
def shown : ServiceKind → String
  | elasticsearch => "AwsEs"
  | unknown other => "Unknown(" ++ Text.quoted other ++ ")"

end ServiceKind

/-- Settings that only the service of a plan reads. -/
structure Details where
  text : String
  deriving DecidableEq

/-- Whether there are no settings at all. -/
def Details.isEmpty (d : Details) : Bool :=
  d.text.isEmpty

/-- Settings as diagnostics show them. -/
def Details.shown (_ : Details) : String :=
  "PrivateDetails(" ++ Text.redacted ++ ")"

/-- A plan: its own identifier, the service, the scheme it advertises and the private settings. -/
structure Plan where
  id : String
  kind : ServiceKind
  scheme : String
  details : Details
  deriving DecidableEq

namespace Plan

/-- The public tree of a plan. -/
def toJson (p : Plan) : Json :=
  .object [("id", .text p.id), ("provider", .text p.kind.tag), ("scheme", .text p.scheme)]

/-- A plan as diagnostics show it. -/
def shown (p : Plan) : String :=
  Text.shownRecord "ProviderPlan"
    [("id", Text.quoted p.id), ("provider", p.kind.shown), ("scheme", Text.quoted p.scheme),
      ("details", p.details.shown)]

end Plan

end ClusterBroker
