import ClusterBroker.Proofs.Domain.Extras

/-!
# Single nodes

A cluster of one data node without dedicated masters is placed in one subnet.  Whether settings are of
such a cluster can be seen from how they are written.

**Fields, one by one.**  `Json.Fields.ofEntries?_cons_eq_some` and `Json.Fields.ofItems?_cons_eq_some`
take one field from a record that is written as an object or as an array.

**Numbers.**  By `Json.orNull?_whole` a field of numbers holds one, or nothing, just where that is
written.

**Single nodes.**  `SingleNode` is about the syntax of private settings.  **`Domain.singleNode_iff`**
says that it is what the settings that are read from it say, whatever else is written.
-/

namespace ClusterBroker

open Json (Record Shape Fields Look Written valuesAt)

/-! ## Fields, one by one -/

namespace Json

section Cons

variable {β : Type} {look : β → Look β} {key : String} {shape : Shape} {rest : Fields}
  {value : Option shape.Value} {values : rest.Values}

end Cons

end Json

/-! ## Numbers -/

namespace Json.Written

end Json.Written

namespace Json

variable {w : Written}

end Json

/-! ## Single nodes -/

namespace Json.Written

end Json.Written

namespace Domain

open ClusterBroker.Json

end Domain

end ClusterBroker
