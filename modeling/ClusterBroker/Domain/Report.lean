import ClusterBroker.Dict
import ClusterBroker.Lifecycle

/-!
# What a control plane reports about a domain

* `Report` — the report: names, flags, endpoints and version.
* `Report.connection` — the endpoint to connect to.
-/

namespace ClusterBroker.Domain

/-- The state of a domain.  Endpoints inside private networks are keyed by the type of network. -/
structure Report where
  name : String
  arn : String
  flags : Flags
  endpoint : Option String
  endpoints : Dict String
  version : Option String
  deriving DecidableEq

namespace Report

/-- The report about a domain of which only the names are known. -/
def bare (name arn : String) : Report :=
  ⟨name, arn, .none, none, .empty, none⟩

/-- The report that says nothing. -/
def blank : Report := bare "" ""

/-- The endpoint to connect to: the one in the private network, else the public one, and nothing
while there is neither. -/
def connection (r : Report) : String :=
  ((r.endpoints.get? "vpc").or r.endpoint).getD ""

end Report

end ClusterBroker.Domain
