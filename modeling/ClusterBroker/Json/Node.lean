import ClusterBroker.Json.Lexeme

/-!
# The tree of a JSON text, with its places

A text that is not quite JSON still has a tree up to its first flaw, and the tree says what was found
there.  So what a flaw is called is left to whoever walks the tree: a walk that wants the values
and a walk that skips them differ in it, and a walk may well end for another reason before it
reaches the flaw.

* `Node` — the tree; `Finish` says how an array or an object ended.
* `Document.ofLexemes` — the tree of a text, built by a machine that holds the open arrays and
  objects on a stack.
-/

namespace ClusterBroker.Json

/-! ## Trees -/

/-- How the items of an array or the entries of an object ended.

* `closed`: the closing bracket, which ends at `stop`.
* `stuck`: after an item, neither a comma nor the closing bracket.
* `dangling`: after a comma, nothing that starts an item.
* `keyless`: after the opening brace, neither a key nor the closing brace.
* `cut`: the flaw is in the last item. -/
inductive Finish where
  | closed (stop : Nat)
  | stuck (found : Lexeme)
  | dangling (found : Lexeme)
  | keyless (found : Lexeme)
  | cut

/-- The key of an entry and the lexeme found where the colon belongs. -/
structure Key where
  name : Lexeme
  colon : Lexeme

/-- A value and its place.  A `leaf` is whatever was found where a value belongs, if it is no opening
bracket; it need not be a value. -/
inductive Node where
  | leaf (found : Lexeme)
  | array (start : Nat) (items : List Node) (finish : Finish)
  | object (start : Nat) (entries : List (Key × Node)) (finish : Finish)

/-- The offset where a fault is noticed by looking at the first byte without taking it. -/
def Node.peek : Node → Nat
  | .leaf found => found.peek
  | .array start _ _ => start + 1
  | .object start _ _ => start + 1

/-! ## The machine -/

/-- An array or object that waits for a value; its earlier items or entries come last first. -/
inductive Frame where
  | item (start : Nat) (before : List Node)
  | entry (start : Nat) (before : List (Key × Node)) (key : Key)

/-- What may come next.  Items and entries come last first. -/
inductive State where
  | value (stack : List Frame)
  | arrayStart (start : Nat) (stack : List Frame)
  | itemEnd (start : Nat) (items : List Node) (stack : List Frame)
  | itemStart (start : Nat) (items : List Node) (stack : List Frame)
  | objectStart (start : Nat) (stack : List Frame)
  | colon (start : Nat) (entries : List (Key × Node)) (name : Lexeme) (stack : List Frame)
  | entryEnd (start : Nat) (entries : List (Key × Node)) (stack : List Frame)
  | entryStart (start : Nat) (entries : List (Key × Node)) (stack : List Frame)
  | complete (root : Node)
  | flawed (root : Node)

/-- A finished value goes to the innermost open array or object. -/
def State.give (node : Node) : List Frame → State
  | [] => .complete node
  | .item start before :: stack => .itemEnd start (node :: before) stack
  | .entry start before key :: stack => .entryEnd start ((key, node) :: before) stack

/-- The tree of a text that has a flaw in the given node. -/
def enclose (node : Node) : List Frame → Node
  | [] => node
  | .item start before :: stack => enclose (.array start (node :: before).reverse .cut) stack
  | .entry start before key :: stack =>
    enclose (.object start ((key, node) :: before).reverse .cut) stack

/-- A flaw in the given node ends the machine. -/
def State.flaw (node : Node) (stack : List Frame) : State :=
  .flawed (enclose node stack)

/-- A lexeme where a value may start. -/
def State.startValue (l : Lexeme) (stack : List Frame) : State :=
  match l.token with
  | .openBracket => .arrayStart l.start stack
  | .openBrace => .objectStart l.start stack
  | .null | .bool _ | .number _ | .text _ => .give (.leaf l) stack
  | _ => .flaw (.leaf l) stack

/-- A lexeme where a key may start; `finish` is how the object ends if there is none. -/
def State.startKey (l : Lexeme) (start : Nat) (entries : List (Key × Node)) (finish : Finish)
    (stack : List Frame) : State :=
  match l.token with
  | .text _ => .colon start entries l stack
  | .brokenText _ _ =>
    .flaw (.object start ((⟨l, l⟩, .leaf l) :: entries).reverse .cut) stack
  | _ => .flaw (.object start entries.reverse finish) stack

/-- The machine takes one lexeme. -/
def State.step (s : State) (l : Lexeme) : State :=
  match s with
  | .value stack => .startValue l stack
  | .arrayStart start stack =>
    match l.token with
    | .closeBracket => .give (.array start [] (.closed l.stop)) stack
    | .endOfText => .flaw (.array start [] (.stuck l)) stack
    | _ => .startValue l (.item start [] :: stack)
  | .itemEnd start items stack =>
    match l.token with
    | .comma => .itemStart start items stack
    | .closeBracket => .give (.array start items.reverse (.closed l.stop)) stack
    | _ => .flaw (.array start items.reverse (.stuck l)) stack
  | .itemStart start items stack =>
    match l.token with
    | .closeBracket | .endOfText => .flaw (.array start items.reverse (.dangling l)) stack
    | _ => .startValue l (.item start items :: stack)
  | .objectStart start stack =>
    match l.token with
    | .closeBrace => .give (.object start [] (.closed l.stop)) stack
    | _ => .startKey l start [] (.keyless l) stack
  | .colon start entries name stack =>
    match l.token with
    | .colon => .value (.entry start entries ⟨name, l⟩ :: stack)
    | _ => .flaw (.object start ((⟨name, l⟩, .leaf l) :: entries).reverse .cut) stack
  | .entryEnd start entries stack =>
    match l.token with
    | .comma => .entryStart start entries stack
    | .closeBrace => .give (.object start entries.reverse (.closed l.stop)) stack
    | _ => .flaw (.object start entries.reverse (.stuck l)) stack
  | .entryStart start entries stack => .startKey l start entries (.dangling l) stack
  | .complete root => .complete root
  | .flawed root => .flawed root

/-! ## Documents -/

/-- A tree, and the lexeme found after it. -/
structure Document where
  root : Node
  next : Lexeme

/-- The tree that the machine has when its text ends. -/
def State.close (s : State) (endOfText : Lexeme) : Document :=
  match s.step endOfText with
  | .complete root | .flawed root => ⟨root, endOfText⟩
  | _ => ⟨.leaf endOfText, endOfText⟩

/-- Runs the machine; the text ends with the given lexeme. -/
def State.run (endOfText : Lexeme) : State → List Lexeme → Document
  | .complete root, [] => ⟨root, endOfText⟩
  | .complete root, l :: _ => ⟨root, l⟩
  | .flawed root, _ => ⟨root, endOfText⟩
  | s, [] => s.close endOfText
  | s, l :: ls => (s.step l).run endOfText ls

/-- The tree of the lexemes of a text of the given size. -/
def Document.ofLexemes (size : Nat) (ls : List Lexeme) : Document :=
  State.run (.atEnd size) (.value []) ls

/-- The tree of a text. -/
def Document.ofText (text : List Char) : Document :=
  .ofLexemes (byteCount text) (lexemes text)

end ClusterBroker.Json
