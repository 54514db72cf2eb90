import ClusterBroker.ControlPlane
import ClusterBroker.ControlPlane.Wire.Config
import ClusterBroker.Text.Address

/-!
# Requests on the wire

* `Wire.Request` — a method, a path and a JSON body.
* `Wire.requestOf?` — the request of a call.
-/

namespace ClusterBroker.Wire

/-- A request; without a body it is `none`. -/
structure Request where
  method : String
  path : String
  body : Option Json

/-! ## Paths -/

/-- The path of one domain, or of something about it. -/
def domainPath (name : String) : String :=
  "/2015-01-01/es/domain/" ++ Text.percentEncoded name

/-! ## Bodies -/

/-- The body of a request to make a domain. -/
def createBody (r : Domain.Request) : Json :=
  Value.toJson (Creation.ofRequest r)

/-- The body of a request to change a domain. -/
def updateBody (r : Domain.Request) : Json :=
  Value.toJson (Update.ofRequest r)

/-- A tag. -/
def tagTree (t : Tag) : Json :=
  .object [("Key", .text t.key), ("Value", .text t.value)]

/-! ## Calls -/

/-- The request of a call; a path cannot have an empty name. -/
def requestOf? : Call → Option Request
  | .describe name => if name.isEmpty then none else some ⟨"GET", domainPath name, none⟩
  | .create r => some ⟨"POST", "/2015-01-01/es/domain", some (createBody r)⟩
  | .update r =>
    if r.name.isEmpty then none
    else some ⟨"POST", domainPath r.name ++ "/config", some (updateBody r)⟩
  | .delete name => if name.isEmpty then none else some ⟨"DELETE", domainPath name, none⟩
  | .addTags arn tags =>
    some ⟨"POST", "/2015-01-01/tags",
      some (.object [("ARN", .text arn), ("TagList", .array (tags.map tagTree))])⟩
  | .removeTags arn keys =>
    some ⟨"POST", "/2015-01-01/tags-removal",
      some (.object [("ARN", .text arn), ("TagKeys", .array (keys.map .text))])⟩

end ClusterBroker.Wire
