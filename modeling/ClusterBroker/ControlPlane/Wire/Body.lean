import ClusterBroker.ControlPlane.Wire.Token
import ClusterBroker.Dict

/-!
# The body of a reply as a tree

* `Body` — the trees.  Records keep their entries in order, with the keys as they are spelled.
* `Body.ofText?` — the tree of a text, built token by token by a machine that holds the open lists
  and records on a stack.
* `Body.field?` — what a record holds under a key.
* `Body.canBeSkipped` — whether a value that nobody wants can be passed over, which only its depth may
  prevent.
-/

namespace ClusterBroker.Wire

open Decimal (Numeral)

/-- The tree of a body. -/
inductive Body where
  | null
  | flag (value : Bool)
  | number (value : Numeral)
  | text (spelling : Spelling)
  | list (items : List Body)
  | record (entries : List (Spelling × Body))
  deriving Inhabited

/-! ## The machine -/

/-- An open list or record that waits for a value; what came before is in reverse order. -/
inductive Frame where
  | list (before : List Body)
  | record (before : List (Spelling × Body)) (key : Spelling)

/-- What has to come next. -/
inductive Stage where
  | nextValue (stack : List Frame)
  | firstItem (stack : List Frame)
  | firstKey (stack : List Frame)
  | nextKey (before : List (Spelling × Body)) (stack : List Frame)
  | colon (before : List (Spelling × Body)) (key : Spelling) (stack : List Frame)
  | after (value : Body) (stack : List Frame)

/-- A token where a value has to start. -/
def Stage.startValue? (stack : List Frame) : Token → Option Stage
  | .null => some (.after .null stack)
  | .flag b => some (.after (.flag b) stack)
  | .number n => some (.after (.number n) stack)
  | .text s => some (.after (.text s) stack)
  | .openBracket => some (.firstItem stack)
  | .openBrace => some (.firstKey stack)
  | _ => none

/-- A token where a key has to be. -/
def Stage.startEntry? (before : List (Spelling × Body)) (stack : List Frame) :
    Token → Option Stage
  | .text key => some (.colon before key stack)
  | _ => none

/-- A token after a value, which goes to the innermost open list or record.  Nothing may follow a
value that is in none. -/
def Stage.continue? (value : Body) (stack : List Frame) (token : Token) : Option Stage :=
  match stack, token with
  | .list before :: stack, .comma => some (.nextValue (.list (value :: before) :: stack))
  | .list before :: stack, .closeBracket => some (.after (.list (value :: before).reverse) stack)
  | .record before key :: stack, .comma => some (.nextKey ((key, value) :: before) stack)
  | .record before key :: stack, .closeBrace =>
    some (.after (.record ((key, value) :: before).reverse) stack)
  | _, _ => none

/-- The machine takes one token. -/
def Stage.step? (stage : Stage) (token : Token) : Option Stage :=
  match stage with
  | .nextValue stack => startValue? stack token
  | .firstItem stack =>
    if token = .closeBracket then some (.after (.list []) stack)
    else startValue? (.list [] :: stack) token
  | .firstKey stack =>
    if token = .closeBrace then some (.after (.record []) stack) else startEntry? [] stack token
  | .nextKey before stack => startEntry? before stack token
  | .colon before key stack =>
    if token = .colon then some (.nextValue (.record before key :: stack)) else none
  | .after value stack => continue? value stack token

namespace Body

/-- The tree of some tokens, if they are those of one value. -/
def ofTokens? (ts : List Token) : Option Body := do
  match ← ts.foldlM Stage.step? (.nextValue []) with
  | .after value [] => some value
  | _ => none

/-- The tree of a text. -/
def ofText? (text : String) : Option Body :=
  ofTokens? (tokens text)

/-! ## What is in it -/

/-- The entries of a record, and none of anything else. -/
def entries : Body → List (Spelling × Body)
  | record entries => entries
  | _ => []

/-- A value for which null stands for its absence. -/
def orAbsent : Body → Option Body
  | null => none
  | b => some b

/-- What the last entry with a key holds. -/
def field? (b : Body) (key : String) : Option Body :=
  b.entries.foldl (fun found e => if e.1.decode? = some key then e.2.orAbsent else found) none

/-- The text that a tree holds. -/
def text? : Body → Option String
  | text s => s.decode?
  | _ => none

/-- The flag that a tree holds. -/
def flag? : Body → Option Bool
  | flag b => some b
  | _ => none

/-- The texts that a record holds, by their keys. -/
def texts (b : Body) : Dict String :=
  .ofList (b.entries.filterMap fun e => do return (← e.1.decode?, ← e.2.text?))

/-! ## What is passed over -/

mutual

/-- How deep lists and records nest in a tree. -/
def depth : Body → Nat
  | list items => depthOfItems items + 1
  | record entries => depthOfEntries entries + 1
  | _ => 0

/-- How deep lists and records nest in some items. -/
def depthOfItems : List Body → Nat
  | [] => 0
  | item :: rest => max item.depth (depthOfItems rest)

/-- How deep lists and records nest in some entries. -/
def depthOfEntries : List (Spelling × Body) → Nat
  | [] => 0
  | (_, value) :: rest => max value.depth (depthOfEntries rest)

end

/-- The deepest nesting that can be passed over. -/
def depthLimit : Nat := 512

/-- Whether a value that nobody wants can be passed over. -/
def canBeSkipped (b : Body) : Bool :=
  b.depth ≤ depthLimit

end Body

end ClusterBroker.Wire
