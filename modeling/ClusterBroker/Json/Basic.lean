import ClusterBroker.Decimal.Binary64

/-!
# JSON values

The values that a JSON text denotes.  The entries of an object keep their order and may repeat a
key; what a repeated key means is decided by whoever reads the object.

* `Json` — the values, with `Json.Number` for their numbers.
-/

namespace ClusterBroker

open Decimal (Binary64)

/-- A number: an integer of at most sixty-four bits, or a sign and a finite binary64 number. -/
inductive Json.Number where
  | whole (value : Int)
  | real (negative : Bool) (magnitude : Binary64)
  deriving DecidableEq, Repr

/-- A JSON value. -/
inductive Json where
  | null
  | bool (value : Bool)
  | number (value : Json.Number)
  | text (value : String)
  | array (items : List Json)
  | object (entries : List (String × Json))
  deriving Inhabited, Repr

/-- A whole number as a JSON value. -/
def Json.whole (n : Int) : Json :=
  .number (.whole n)

end ClusterBroker
