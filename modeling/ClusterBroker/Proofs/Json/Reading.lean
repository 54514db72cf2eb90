import ClusterBroker.Json.Record
import ClusterBroker.Proofs.Json.Meaning
import Mathlib.Data.List.Forall2

/-!
# Readers read what the text means

A tree may stand for a JSON value, or for the syntax that it was made from.  Whatever it stands for,
reading it under a shape gives what that means under the shape, and fails exactly if it means
nothing.  So places, lexemes and the order of entries do not come into what a reader accepts.

**Standing for something.**  `Node.Looks` says what a tree shows of what it stands for, and
`Faithful` that a relation of trees to what they stand for shows all that a shape looks at.  Having a
value is such a relation (`faithful_value`).

**Readers.**  `gather_meaning` is about the entries of an object, taken one after the other, and
`Shape.read_meaning` about a whole tree.

**Skipping.**  A tree that can be read can be skipped too: `Node.skim_of_value` for values and
`Shape.skim_of_read` for shapes.
-/

namespace ClusterBroker.Json

/-! ## Results without their faults -/

variable {ε α β : Type}

lemma toOption_bind (x : Except ε α) (f : α → Except ε β) :
    (x >>= f).toOption = x.toOption.bind fun a => (f a).toOption := by
  cases x <;> rfl

lemma toOption_map (f : α → β) (x : Except ε α) : (f <$> x).toOption = x.toOption.map f := by
  cases x <;> rfl

lemma bind_eq_ok {x : Except ε α} {f : α → Except ε β} {b : β} (h : (x >>= f) = .ok b) :
    ∃ a, x = .ok a ∧ f a = .ok b := by
  cases x with
  | error e => cases h
  | ok a => exact ⟨a, rfl, h⟩

lemma map_eq_ok {f : α → β} {x : Except ε α} {b : β} (h : f <$> x = .ok b) :
    ∃ a, x = .ok a ∧ f a = b := by
  cases x with
  | error e => cases h
  | ok a => exact ⟨a, rfl, Except.ok.inj h⟩

lemma map_eq_error {f : α → β} {x : Except ε α} {e : ε} (h : f <$> x = .error e) :
    x = .error e := by
  cases x with
  | error e' => exact congrArg Except.error (Except.error.inj h)
  | ok a => cases h

/-! ## Trees that have a value -/

/-- The trees that have a value inside `d` brackets, sorted by its kind. -/
inductive Node.Spells (d : Nat) : Node → Json → Prop where
  | null (start stop : Nat) : Spells d (.leaf ⟨start, stop, .null⟩) .null
  | bool (start stop : Nat) (b : Bool) : Spells d (.leaf ⟨start, stop, .bool b⟩) (.bool b)
  | number (start stop : Nat) (n : Number) :
    Spells d (.leaf ⟨start, stop, .number (.ok n)⟩) (.number n)
  | text (start stop : Nat) (s : String) : Spells d (.leaf ⟨start, stop, .text (.ok s)⟩) (.text s)
  | array {start stop : Nat} {items : List Node} {js : List Json} :
    itemValues (d + 1) items = .ok js → Spells d (.array start items (.closed stop)) (.array js)
  | object {start stop : Nat} {entries : List (Key × Node)} {es : List (String × Json)} :
    entryValues (d + 1) entries = .ok es →
      Spells d (.object start entries (.closed stop)) (.object es)

lemma Lexeme.spells_of_value {d : Nat} {l : Lexeme} {j : Json} (h : l.value = .ok j) :
    (Node.leaf l).Spells d j := by
  obtain ⟨start, stop, token⟩ := l
  unfold value at h
  cases token with
  | null => cases h; exact .null start stop
  | bool b => cases h; exact .bool start stop b
  | number n =>
      cases n with
      | error fault => cases h
      | ok n => cases h; exact .number start stop n
  | text s =>
      cases s with
      | error fault => cases h
      | ok s => cases h; exact .text start stop s
  | _ => cases h

lemma Finish.closed_of_checkArray {finish : Finish} (h : finish.checkArray = .ok ()) :
    ∃ stop, finish = .closed stop := by
  cases finish with
  | closed stop => exact ⟨stop, rfl⟩
  | _ => cases h

lemma Finish.closed_of_checkObject {finish : Finish} (h : finish.checkObject = .ok ()) :
    ∃ stop, finish = .closed stop := by
  cases finish with
  | closed stop => exact ⟨stop, rfl⟩
  | dangling found =>
      obtain ⟨start, stop, token⟩ := found
      cases token <;> cases h
  | _ => cases h

lemma Node.spells_of_value {d : Nat} {node : Node} {j : Json} (h : node.value d = .ok j) :
    node.Spells d j := by
  cases node with
  | leaf l => exact Lexeme.spells_of_value (by simpa only [value] using h)
  | array start items finish =>
      rw [value] at h
      split at h
      · obtain ⟨js, hjs, h⟩ := bind_eq_ok h
        obtain ⟨⟨⟩, hfinish, h⟩ := bind_eq_ok h
        cases h
        obtain ⟨stop, rfl⟩ := Finish.closed_of_checkArray hfinish
        exact .array hjs
      · cases h
  | object start entries finish =>
      rw [value] at h
      split at h
      · obtain ⟨es, hes, h⟩ := bind_eq_ok h
        obtain ⟨⟨⟩, hfinish, h⟩ := bind_eq_ok h
        cases h
        obtain ⟨stop, rfl⟩ := Finish.closed_of_checkObject hfinish
        exact .object hes
      · cases h

lemma itemValues_cons {d : Nat} {node : Node} {rest : List Node} {js : List Json}
    (h : itemValues d (node :: rest) = .ok js) :
    ∃ j js', node.value d = .ok j ∧ itemValues d rest = .ok js' ∧ js = j :: js' := by
  rw [itemValues] at h
  obtain ⟨j, hj, h⟩ := bind_eq_ok h
  obtain ⟨js', hjs', h⟩ := bind_eq_ok h
  cases h
  exact ⟨j, js', hj, hjs', rfl⟩

lemma entryValues_cons {d : Nat} {key : Key} {node : Node} {rest : List (Key × Node)}
    {es : List (String × Json)} (h : entryValues d ((key, node) :: rest) = .ok es) :
    ∃ name j es', key.read = .ok name ∧ key.checkColon = .ok () ∧ node.value d = .ok j ∧
      entryValues d rest = .ok es' ∧ es = (name, j) :: es' := by
  rw [entryValues] at h
  obtain ⟨name, hname, h⟩ := bind_eq_ok h
  obtain ⟨⟨⟩, hcolon, h⟩ := bind_eq_ok h
  obtain ⟨j, hj, h⟩ := bind_eq_ok h
  obtain ⟨es', hes', h⟩ := bind_eq_ok h
  cases h
  exact ⟨name, j, es', hname, hcolon, hj, hes', rfl⟩

/-- A key that can be read can be skipped. -/
lemma Key.skim_of_read {key : Key} {name : String} (h : key.read = .ok name) :
    key.skim = key.checkColon := by
  obtain ⟨⟨start, stop, token⟩, colon⟩ := key
  cases token <;> first | rfl | cases h

mutual

/-- **What has a value can be skipped.** -/
theorem Node.skim_of_value {d : Nat} : ∀ {node : Node} {j : Json}, node.value d = .ok j →
    node.skim = .ok ()
  | .leaf l, j, h => by
      cases Node.spells_of_value h <;> rfl
  | .array start items finish, j, h => by
      cases Node.spells_of_value h with
      | array hjs =>
          rw [Node.skim, skimItems_of_value hjs]
          rfl
  | .object start entries finish, j, h => by
      cases Node.spells_of_value h with
      | object hes =>
          rw [Node.skim, skimEntries_of_value hes]
          rfl

theorem skimItems_of_value {d : Nat} : ∀ {items : List Node} {js : List Json},
    itemValues d items = .ok js → skimItems items = .ok ()
  | [], _, _ => rfl
  | node :: rest, js, h => by
      obtain ⟨j, js', hj, hjs', -⟩ := itemValues_cons h
      rw [skimItems, Node.skim_of_value hj]
      exact skimItems_of_value hjs'

theorem skimEntries_of_value {d : Nat} : ∀ {entries : List (Key × Node)}
    {es : List (String × Json)}, entryValues d entries = .ok es → skimEntries entries = .ok ()
  | [], _, _ => rfl
  | (key, node) :: rest, es, h => by
      obtain ⟨name, j, es', hname, hcolon, hj, hes', -⟩ := entryValues_cons h
      rw [skimEntries, Key.skim_of_read hname, hcolon, Node.skim_of_value hj]
      exact skimEntries_of_value hes'

end

/-! ## Standing for something -/

section Looks

variable {look : β → Look β} {Rel : Node → β → Prop}

/-- The key of an entry can be read, a colon follows it, and its value stands for something. -/
def EntryStands (Rel : Node → β → Prop) (entry : Key × Node) (named : String × β) : Prop :=
  entry.1.read = .ok named.1 ∧ entry.1.checkColon = .ok () ∧ Rel entry.2 named.2

lemma EntryStands.imp {Rel' : Node → β → Prop} {entry : Key × Node} {named : String × β}
    (himp : Rel entry.2 named.2 → Rel' entry.2 named.2) (h : EntryStands Rel entry named) :
    EntryStands Rel' entry named :=
  ⟨h.1, h.2.1, himp h.2.2⟩

/-- What a tree shows of what it stands for. -/
inductive Node.Looks (Rel : Node → β → Prop) : Node → Look β → Prop where
  | null (start stop : Nat) : Looks Rel (.leaf ⟨start, stop, .null⟩) .null
  | bool (start stop : Nat) (b : Bool) : Looks Rel (.leaf ⟨start, stop, .bool b⟩) (.bool b)
  | whole (start stop : Nat) {n : Int} :
    Int32.minValue.toInt ≤ n ∧ n ≤ Int32.maxValue.toInt →
      Looks Rel (.leaf ⟨start, stop, .number (.ok (.whole n))⟩) (.whole (Int32.ofInt n))
  | number (start stop : Nat) {v : Except Fault Number} :
    Look.ofNumber? v.toOption = (.other : Look β) →
      Looks Rel (.leaf ⟨start, stop, .number v⟩) .other
  | text (start stop : Nat) (s : String) :
    Looks Rel (.leaf ⟨start, stop, .text (.ok s)⟩) (.text s)
  | halved (start stop : Nat) (fault : Fault) :
    Looks Rel (.leaf ⟨start, stop, .text (.error fault)⟩) .other
  | array (start stop : Nat) {items : List Node} {bs : List β} :
    List.Forall₂ Rel items bs → Looks Rel (.array start items (.closed stop)) (.array bs)
  | object (start stop : Nat) {entries : List (Key × Node)} {es : List (String × β)} :
    List.Forall₂ (EntryStands Rel) entries es →
      Looks Rel (.object start entries (.closed stop)) (.object es)
  | unnamed (start : Nat) {entries : List (Key × Node)} (finish : Finish) {entry : Key × Node} :
    entry ∈ entries → entry.1.read.toOption = none →
      Looks Rel (.object start entries finish) .other

lemma Node.looks_number (start stop : Nat) (v : Except Fault Number) :
    (Node.leaf ⟨start, stop, .number v⟩).Looks Rel (Look.ofNumber? v.toOption) := by
  rcases v with fault | ⟨n⟩ | ⟨negative, x⟩
  · exact .number start stop rfl
  · by_cases h : Int32.minValue.toInt ≤ n ∧ n ≤ Int32.maxValue.toInt
    · have hlook : Look.ofNumber? (some (.whole n)) = (.whole (Int32.ofInt n) : Look β) := if_pos h
      exact hlook ▸ .whole start stop h
    · have hlook : Look.ofNumber? (some (.whole n)) = (.other : Look β) := if_neg h
      exact hlook ▸ .number start stop hlook
  · exact .number start stop rfl

lemma Node.looks_text (start stop : Nat) (v : Except Fault String) :
    (Node.leaf ⟨start, stop, .text v⟩).Looks Rel (Look.ofText? v.toOption) := by
  cases v with
  | error fault => exact .halved start stop fault
  | ok s => exact .text start stop s

/-- A relation of trees to what they stand for shows all that a shape looks at. -/
structure Faithful (look : β → Look β) (Rel : Node → β → Prop) : Prop where
  looks : ∀ {node b}, Rel node b → node.Looks Rel (look b)
  skims : ∀ {node b}, Rel node b → node.skim = .ok ()

lemma forall₂_itemValues {d : Nat} {items : List Node} {js : List Json}
    (h : itemValues d items = .ok js) :
    List.Forall₂ (fun node j => node.value d = .ok j) items js := by
  induction items generalizing js with
  | nil =>
      cases h
      exact .nil
  | cons node rest ih =>
      obtain ⟨j, js', hj, hjs', rfl⟩ := itemValues_cons h
      exact .cons hj (ih hjs')

lemma forall₂_entryValues {d : Nat} {entries : List (Key × Node)} {es : List (String × Json)}
    (h : entryValues d entries = .ok es) :
    List.Forall₂ (EntryStands fun node j => node.value d = .ok j) entries es := by
  induction entries generalizing es with
  | nil =>
      cases h
      exact .nil
  | cons entry rest ih =>
      obtain ⟨key, node⟩ := entry
      obtain ⟨name, j, es', hname, hcolon, hj, hes', rfl⟩ := entryValues_cons h
      exact .cons ⟨hname, hcolon, hj⟩ (ih hes')

/-- **A tree stands for the value it has.** -/
theorem faithful_value : Faithful Json.look fun node j => ∃ d, node.value d = .ok j where
  looks := by
    rintro node j ⟨d, h⟩
    cases Node.spells_of_value h with
    | null start stop => exact .null start stop
    | bool start stop b => exact .bool start stop b
    | number start stop n => exact Node.looks_number start stop (.ok n)
    | text start stop s => exact .text start stop s
    | array hjs => exact .array _ _ ((forall₂_itemValues hjs).imp fun _ _ hj => ⟨_, hj⟩)
    | object hes =>
        exact .object _ _ ((forall₂_entryValues hes).imp fun _ _ => EntryStands.imp fun hj => ⟨_, hj⟩)
  skims := fun ⟨_, h⟩ => Node.skim_of_value h

end Looks

/-! ## Readers -/

/-- What is folded without a fault takes each of its parts without one. -/
lemma step_of_foldlM {γ : Type} {f : α → γ → Except ε α} {l : List γ} {a b : α}
    (h : l.foldlM f a = .ok b) : ∀ c ∈ l, ∃ a' b', f a' c = .ok b' := by
  induction l generalizing a with
  | nil => simp
  | cons c rest ih =>
      rw [List.foldlM_cons] at h
      obtain ⟨b', hfirst, hrest⟩ := bind_eq_ok h
      rintro c' hc
      rcases List.mem_cons.1 hc with rfl | hc
      · exact ⟨a, b', hfirst⟩
      · exact ih hrest c' hc

lemma toOption_eq_none {x : Except ε α} (h : ∀ a, x ≠ .ok a) : x.toOption = none := by
  cases x with
  | error e => rfl
  | ok a => exact absurd rfl (h a)

section Gather

variable {isKnown : String → Bool} {readField : String → Node → α → Except Fault α}
  {past : Node → Except Fault Unit} {acc : Gathered α} {key : Key} {node : Node} {name : String}

/-- Taking one entry, without the fault if it cannot be taken. -/
lemma gatherEntry_toOption (hname : key.read = .ok name) (hcolon : key.checkColon = .ok ()) :
    (gatherEntry isKnown readField past acc (key, node)).toOption
      = if isKnown name then
          if name ∈ acc.known then none
          else (readField name node acc.values).toOption.map fun values =>
            { acc with values, known := acc.known ++ [name] }
        else (past node).toOption.map fun _ => { acc with unknown := acc.unknown ++ [name] } := by
  have hgo (f : String → Except Fault (Gathered α)) : (key.read >>= f) = f name := by
    rw [hname]
    rfl
  rw [gatherEntry, hgo]
  by_cases hknown : isKnown name = true
  · by_cases hmem : name ∈ acc.known
    · simp only [hknown, hmem, if_true]
      rfl
    · simp only [hknown, hmem, if_true, if_false, hcolon]
      cases readField name node acc.values <;> rfl
  · simp only [hknown, hcolon]
    cases past node <;> rfl

/-- An entry that was taken has a key with a colon, and its value was read or passed over. -/
lemma gatherEntry_eq_ok {acc' : Gathered α}
    (h : gatherEntry isKnown readField past acc (key, node) = .ok acc') :
    ∃ name, key.read = .ok name ∧ key.checkColon = .ok () ∧
      (isKnown name = true ∧ (∃ values, readField name node acc.values = .ok values) ∨
        past node = .ok ()) := by
  obtain ⟨name, hname, h⟩ := bind_eq_ok h
  refine ⟨name, hname, ?_⟩
  split at h
  next hknown =>
    split at h
    · cases h
    · obtain ⟨⟨⟩, hcolon, h⟩ := bind_eq_ok h
      obtain ⟨values, hvalues, -⟩ := bind_eq_ok h
      exact ⟨hcolon, .inl ⟨hknown, values, hvalues⟩⟩
  next =>
    obtain ⟨⟨⟩, hcolon, h⟩ := bind_eq_ok h
    obtain ⟨⟨⟩, hpast, -⟩ := bind_eq_ok h
    exact ⟨hcolon, .inr hpast⟩

lemma gather_closed (start : α) (entries : List (Key × Node)) (stop : Nat) :
    gather isKnown readField past start entries (.closed stop)
      = entries.foldlM (gatherEntry isKnown readField past) ⟨start, [], []⟩ := by
  unfold gather
  cases entries.foldlM (gatherEntry isKnown readField past) ⟨start, [], []⟩ <;> rfl

/-- Entries of which one has no key that can be read are not gathered. -/
lemma gather_unnamed {entry : Key × Node} {entries : List (Key × Node)} (hmem : entry ∈ entries)
    (hname : entry.1.read.toOption = none) (start : α) (finish : Finish) :
    (gather isKnown readField past start entries finish).toOption = none := by
  refine toOption_eq_none fun gathered h => ?_
  obtain ⟨folded, hfold, -⟩ := bind_eq_ok h
  obtain ⟨a, b, hentry⟩ := step_of_foldlM hfold entry hmem
  obtain ⟨name, hread, -⟩ := gatherEntry_eq_ok hentry
  rw [hread] at hname
  cases hname

end Gather

section Meaning

variable {look : β → Look β} {Rel : Node → β → Prop}

/-- **The entries of an object, one after the other**, mean what they mean together.  The values of
unknown keys have to pass. -/
theorem gather_meaning {fields : Fields} (hkeys : fields.keys.Nodup)
    {past : Node → Except Fault Unit} (passes : β → Bool)
    (hread : ∀ key {node b} values, Rel node b →
      (fields.readField key node values).toOption = fields.ofField? look key b values)
    (hpast : ∀ {node b}, Rel node b → (past node).toOption = if passes b then some () else none)
    {entries : List (Key × Node)} {es : List (String × β)} (acc : Gathered fields.Values)
    (h : List.Forall₂ (EntryStands Rel) entries es) :
    (entries.foldlM (gatherEntry fields.keys.contains
        (fun key node values => fields.readField key node values) past) acc).toOption
      = if es.all fun e => fields.keys.contains e.1 || passes e.2 then
          (fields.resume? look acc.known acc.values es).map fun values =>
            ⟨values, acc.known ++ (es.map (·.1)).filter fields.keys.contains,
              acc.unknown ++ (es.map (·.1)).filter fun key => !fields.keys.contains key⟩
        else none := by
  induction h generalizing acc with
  | nil =>
      simp [Fields.resume?_nil]
      rfl
  | @cons entry e entries es hentry hrest ih =>
      obtain ⟨key, node⟩ := entry
      obtain ⟨name, b⟩ := e
      obtain ⟨hname, hcolon, hb⟩ := hentry
      rw [List.foldlM_cons, toOption_bind, gatherEntry_toOption hname hcolon, hread name _ hb,
        hpast hb, Fields.resume?_cons hkeys, List.all_cons]
      by_cases hin : name ∈ fields.keys
      · have hcontains : fields.keys.contains name = true := by simpa using hin
        by_cases htaken : name ∈ acc.known
        · simp [hin, htaken]
        · simp only [hcontains, hin, htaken, if_true, if_false, Bool.true_or, Bool.true_and]
          cases fields.ofField? look name b acc.values with
          | none => simp
          | some vs =>
              simp only [Option.map_some, Option.bind_some, ih, List.map_cons]
              rw [List.filter_cons_of_pos hcontains, List.filter_cons_of_neg (by simp [hin]),
                List.append_assoc]
              rfl
      · have hcontains : fields.keys.contains name = false := by simpa using hin
        simp only [hcontains, hin, Bool.false_eq_true, if_false, Bool.false_or]
        cases passes b with
        | false => simp
        | true =>
            simp only [if_true, Option.map_some, Option.bind_some, ih, List.map_cons, Bool.true_and]
            rw [List.filter_cons_of_neg (by simp [hin]), List.filter_cons_of_pos (by simp [hin]),
              List.append_assoc]
            rfl

/-- The fold by which the entries of a table are read. -/
def readTable (read : Node → Except Fault α) (acc : Dict α) (entry : Key × Node) :
    Except Fault (Dict α) := do
  let name ← entry.1.read
  entry.1.checkColon
  let value ← read entry.2
  return acc.insert name value

lemma readTable_eq_ok {read : Node → Except Fault α} {acc acc' : Dict α} {entry : Key × Node}
    (h : readTable read acc entry = .ok acc') :
    ∃ name value, entry.1.read = .ok name ∧ entry.1.checkColon = .ok () ∧
      read entry.2 = .ok value := by
  obtain ⟨name, hname, h⟩ := bind_eq_ok h
  obtain ⟨⟨⟩, hcolon, h⟩ := bind_eq_ok h
  obtain ⟨value, hvalue, -⟩ := bind_eq_ok h
  exact ⟨name, value, hname, hcolon, hvalue⟩

/-- The entries of a table, one after the other, mean what they mean together. -/
lemma table_meaning {read : Node → Except Fault α} {meaning : β → Option α}
    (hread : ∀ {node b}, Rel node b → (read node).toOption = meaning b)
    {entries : List (Key × Node)} {es : List (String × β)} (acc : Dict α)
    (h : List.Forall₂ (EntryStands Rel) entries es) :
    (entries.foldlM (readTable read) acc).toOption
      = (es.mapM fun e => (fun v => (e.1, v)) <$> meaning e.2).map fun pairs =>
          pairs.foldl (fun acc pair => acc.insert pair.1 pair.2) acc := by
  induction h generalizing acc with
  | nil => rfl
  | @cons entry e entries es hentry hrest ih =>
      obtain ⟨hname, hcolon, hb⟩ := hentry
      have hfirst : (readTable read acc entry).toOption
          = (meaning e.2).map fun v => acc.insert e.1 v := by
        rw [readTable, hname, hcolon, ← hread hb]
        cases read entry.2 <;> rfl
      rw [List.foldlM_cons, toOption_bind, hfirst, List.mapM_cons]
      cases meaning e.2 with
      | none => rfl
      | some v =>
          simp only [Option.map_some, Option.bind_some, ih]
          cases es.mapM fun e => (fun v => (e.1, v)) <$> meaning e.2 <;> rfl

/-- A reader that null stands for the absence of. -/
lemma orNull_meaning (hlook : Faithful look Rel) {read : Node → Except Fault α}
    {meaning : β → Option α} {node : Node} {b : β} (h : Rel node b)
    (hread : (read node).toOption = meaning b) :
    (orNull read node).toOption = orNull? look meaning b := by
  have hlooks := hlook.looks h
  unfold orNull?
  rw [← hread]
  generalize look b = seen at hlooks
  cases hlooks with
  | null start stop => rfl
  | _ => exact toOption_map _ _

/-- Entries of which one has no key that can be read are no table. -/
lemma readTable_unnamed {read : Node → Except Fault α} {entries : List (Key × Node)}
    {entry : Key × Node} (hmem : entry ∈ entries) (hname : entry.1.read.toOption = none)
    (acc : Dict α) : (entries.foldlM (readTable read) acc).toOption = none := by
  refine toOption_eq_none fun table hfold => ?_
  obtain ⟨before, after, hentry⟩ := step_of_foldlM hfold entry hmem
  obtain ⟨key, value, hkey, -⟩ := readTable_eq_ok hentry
  rw [hkey] at hname
  cases hname

/-- Only a number in range is read as an integer. -/
lemma readWhole_toOption {node : Node} {seen : Look β} : node.Looks Rel seen →
    (readWhole node).toOption = match seen with
      | .whole value => some value
      | _ => none := by
  intro h
  cases h with
  | whole start stop hrange =>
      rw [readWhole, if_pos hrange]
      rfl
  | @number start stop v hother =>
      rcases v with fault | ⟨n⟩ | ⟨negative, x⟩
      · rfl
      · have hrange : ¬(Int32.minValue.toInt ≤ n ∧ n ≤ Int32.maxValue.toInt) := by
          intro hrange
          change (if _ then _ else _) = _ at hother
          rw [if_pos hrange] at hother
          cases hother
        rw [readWhole, if_neg hrange]
        rfl
      · rfl
  | _ => rfl

mutual

/-- **Reading a tree gives what it stands for means.** -/
theorem Shape.read_meaning (hlook : Faithful look Rel) : ∀ {shape : Shape}, shape.distinct = true →
    ∀ {node : Node} {b : β}, Rel node b → (shape.read node).toOption = shape.meaning? look b
  | .flag, _, node, b, h => by
      have hlooks := hlook.looks h
      simp only [Shape.meaning?]
      generalize look b = seen at hlooks
      cases hlooks <;> rfl
  | .whole, _, node, b, h => readWhole_toOption (hlook.looks h)
  | .text, _, node, b, h => by
      have hlooks := hlook.looks h
      simp only [Shape.meaning?]
      generalize look b = seen at hlooks
      cases hlooks <;> rfl
  | .record name fields, hd, node, b, h => by
      have hlooks := hlook.looks h
      simp only [Shape.meaning?]
      generalize look b = seen at hlooks
      cases hlooks with
      | array start stop hitems => exact fields.readItems_meaning hlook hd hitems name fields.count 0 _
      | @object start stop entries es hentries =>
          have hskip {node : Node} {b : β} (hb : Rel node b) : node.skim.toOption = some () :=
            congrArg Except.toOption (hlook.skims hb)
          have hgather := gather_meaning (Fields.nodup_keys hd) (fun _ => true)
            (fun key _ _ values hb => fields.readField_meaning hlook hd hb key values)
            hskip ⟨fields.absent, [], []⟩ hentries
          simp only [Bool.or_true, List.all_eq_true, implies_true, if_true] at hgather
          simp only [Shape.read]
          rw [toOption_map, gather_closed, hgather, Fields.resume?_absent, Option.map_map]
          exact Option.map_id'
      | unnamed start finish hmem hname =>
          simp only [Shape.read]
          rw [toOption_map, gather_unnamed hmem hname]
          rfl
      | _ => rfl
  | .table values, hd, node, b, h => by
      have hlooks := hlook.looks h
      simp only [Shape.meaning?]
      generalize look b = seen at hlooks
      cases hlooks with
      | @object start stop entries es hentries =>
          have hread := table_meaning (fun hb => values.read_meaning hlook hd hb) Dict.empty hentries
          dsimp only
          change (entries.foldlM (readTable values.read) Dict.empty >>= _).toOption = _
          rw [toOption_bind, hread]
          cases es.mapM fun e => (fun v => (e.1, v)) <$> values.meaning? look e.2 <;> rfl
      | unnamed start finish hmem hname =>
          change (List.foldlM (readTable values.read) Dict.empty _ >>= _).toOption = none
          rw [toOption_bind, readTable_unnamed hmem hname]
          rfl
      | _ => rfl

theorem Fields.readField_meaning (hlook : Faithful look Rel) : ∀ {fields : Fields},
    fields.distinct = true → ∀ {node : Node} {b : β}, Rel node b → ∀ (key : String)
      (values : fields.Values),
      (fields.readField key node values).toOption = fields.ofField? look key b values
  | .nil, _, node, b, h, key, values => rfl
  | .cons k shape rest, hd, node, b, h, key, values => by
      obtain ⟨-, hshape, hrest⟩ := Fields.distinct_cons.1 hd
      unfold Fields.readField Fields.ofField?
      split
      · rw [toOption_map, orNull_meaning hlook h (shape.read_meaning hlook hshape h)]
        rfl
      · rw [toOption_map, rest.readField_meaning hlook hrest h]
        rfl

theorem Fields.readItems_meaning (hlook : Faithful look Rel) : ∀ {fields : Fields},
    fields.distinct = true → ∀ {items : List Node} {bs : List β}, List.Forall₂ Rel items bs →
      ∀ (record : String) (total index stop : Nat),
        (fields.readItems record total index items (.closed stop)).toOption
          = fields.ofItems? look bs
  | .nil, _, items, bs, h, record, total, index, stop => by
      cases h <;> rfl
  | .cons key shape rest, hd, items, bs, h, record, total, index, stop => by
      obtain ⟨-, hshape, hrest⟩ := Fields.distinct_cons.1 hd
      cases h with
      | nil => rfl
      | cons hb hitems =>
          have hrec := rest.readItems_meaning hlook hrest hitems record total (index + 1) stop
          unfold Fields.readItems Fields.ofItems?
          rw [toOption_bind, orNull_meaning hlook hb (shape.read_meaning hlook hshape hb)]
          simp only [toOption_bind, hrec]
          rfl

end

end Meaning

/-! ## Skipping what can be read -/

lemma skimItems_eq_ok {items : List Node} :
    skimItems items = .ok () ↔ ∀ node ∈ items, node.skim = .ok () := by
  induction items with
  | nil => simp [skimItems]
  | cons node rest ih =>
      rw [List.forall_mem_cons, ← ih, skimItems]
      cases node.skim <;> simp [bind, Except.bind]

lemma skimEntries_eq_ok {entries : List (Key × Node)} :
    skimEntries entries = .ok () ↔ ∀ e ∈ entries, e.1.skim = .ok () ∧ e.2.skim = .ok () := by
  induction entries with
  | nil => simp [skimEntries]
  | cons entry rest ih =>
      obtain ⟨key, node⟩ := entry
      rw [List.forall_mem_cons, ← ih, skimEntries]
      cases key.skim <;> cases node.skim <;> simp [bind, Except.bind]

lemma Node.skim_array {items : List Node} (h : ∀ node ∈ items, node.skim = .ok ())
    (start stop : Nat) : (Node.array start items (.closed stop)).skim = .ok () := by
  rw [Node.skim, skimItems_eq_ok.2 h]
  rfl

lemma Node.skim_object {entries : List (Key × Node)}
    (h : ∀ e ∈ entries, e.1.skim = .ok () ∧ e.2.skim = .ok ()) (start stop : Nat) :
    (Node.object start entries (.closed stop)).skim = .ok () := by
  rw [Node.skim, skimEntries_eq_ok.2 h]
  rfl

lemma skim_of_orNull {read : Node → Except Fault α} {node : Node} {v : Option α}
    (hread : ∀ {a}, read node = .ok a → node.skim = .ok ()) (h : orNull read node = .ok v) :
    node.skim = .ok () := by
  unfold orNull at h
  split at h
  · rfl
  · obtain ⟨a, ha, -⟩ := map_eq_ok h
    exact hread ha

/-- **An object whose entries were gathered can be skipped**, if what is read and what is passed over
can. -/
lemma skim_of_gather {isKnown : String → Bool} {readField : String → Node → α → Except Fault α}
    {past : Node → Except Fault Unit}
    (hread : ∀ {name node a b}, isKnown name = true → readField name node a = .ok b →
      node.skim = .ok ())
    (hpast : ∀ {node}, past node = .ok () → node.skim = .ok ())
    {init : α} {entries : List (Key × Node)} {finish : Finish} {gathered : Gathered α}
    (h : gather isKnown readField past init entries finish = .ok gathered) (start : Nat) :
    (Node.object start entries finish).skim = .ok () := by
  obtain ⟨folded, hfold, h⟩ := bind_eq_ok h
  obtain ⟨⟨⟩, hfinish, -⟩ := bind_eq_ok h
  obtain ⟨stop, rfl⟩ := Finish.closed_of_checkObject hfinish
  refine Node.skim_object (fun entry hmem => ?_) start stop
  obtain ⟨acc, acc', hentry⟩ := step_of_foldlM hfold entry hmem
  obtain ⟨name, hname, hcolon, htaken⟩ := gatherEntry_eq_ok hentry
  refine ⟨(Key.skim_of_read hname).trans hcolon, ?_⟩
  rcases htaken with ⟨hknown, values, hvalues⟩ | hskip
  · exact hread hknown hvalues
  · exact hpast hskip

lemma overlong_eq_ok {items : List Node} {finish : Finish} (h : overlong items finish = .ok ()) :
    items = [] ∧ ∃ stop, finish = .closed stop := by
  cases items with
  | cons node rest => cases h
  | nil =>
      cases finish with
      | closed stop => exact ⟨rfl, stop, rfl⟩
      | _ => cases h

mutual

/-- **What can be read can be skipped.** -/
theorem Shape.skim_of_read : ∀ {shape : Shape} {node : Node} {v : shape.Value},
    shape.read node = .ok v → node.skim = .ok ()
  | .flag, node, v, h => by
      simp only [Shape.read, readFlag] at h
      split at h
      · rfl
      · cases h
  | .whole, node, v, h => by
      simp only [Shape.read, readWhole] at h
      split at h
      · rfl
      · cases h
  | .text, node, v, h => by
      simp only [Shape.read, readText] at h
      split at h
      · rfl
      · cases h
  | .record name fields, node, v, h => by
      cases node with
      | leaf l => cases h
      | array start items finish =>
          obtain ⟨hitems, stop, rfl⟩ := fields.skim_of_readItems h
          exact Node.skim_array hitems start stop
      | object start entries finish =>
          obtain ⟨gathered, hgathered, -⟩ := map_eq_ok h
          refine skim_of_gather (fun hknown hread => ?_) id hgathered start
          exact fields.skim_of_readField (by simpa using hknown) hread
  | .table values, node, v, h => by
      cases node with
      | leaf l => cases h
      | array start items finish => cases h
      | object start entries finish =>
          obtain ⟨folded, hfold, h⟩ := bind_eq_ok h
          obtain ⟨⟨⟩, hfinish, -⟩ := bind_eq_ok h
          obtain ⟨stop, rfl⟩ := Finish.closed_of_checkObject hfinish
          refine Node.skim_object (fun entry hmem => ?_) start stop
          obtain ⟨acc, acc', hentry⟩ := step_of_foldlM hfold entry hmem
          obtain ⟨name, value, hname, hcolon, hvalue⟩ := readTable_eq_ok hentry
          exact ⟨(Key.skim_of_read hname).trans hcolon, values.skim_of_read hvalue⟩

theorem Fields.skim_of_readField : ∀ {fields : Fields} {key : String} {node : Node}
    {values values' : fields.Values}, key ∈ fields.keys →
      fields.readField key node values = .ok values' → node.skim = .ok ()
  | .nil, key, node, values, values', hkey, h => by cases hkey
  | .cons k shape rest, key, node, (value, values), values', hkey, h => by
      unfold Fields.readField at h
      split at h
      next heq =>
        obtain ⟨v, hv, -⟩ := map_eq_ok h
        exact skim_of_orNull (fun hread => shape.skim_of_read hread) hv
      next hne =>
        obtain ⟨vs, hvs, -⟩ := map_eq_ok h
        have hrest : key ∈ rest.keys := by simpa [Fields.keys, Ne.symm hne] using hkey
        exact rest.skim_of_readField hrest hvs

theorem Fields.skim_of_readItems : ∀ {fields : Fields} {record : String} {total index : Nat}
    {items : List Node} {finish : Finish} {values : fields.Values},
      fields.readItems record total index items finish = .ok values →
        (∀ node ∈ items, node.skim = .ok ()) ∧ ∃ stop, finish = .closed stop
  | .nil, record, total, index, items, finish, values, h => by
      obtain ⟨⟨⟩, hover, -⟩ := map_eq_ok h
      obtain ⟨rfl, hclosed⟩ := overlong_eq_ok hover
      exact ⟨by simp, hclosed⟩
  | .cons key shape rest, record, total, index, [], finish, values, h => by
      unfold Fields.readItems at h
      cases finish <;> cases h
  | .cons key shape rest, record, total, index, node :: items, finish, values, h => by
      unfold Fields.readItems at h
      obtain ⟨v, hv, h⟩ := bind_eq_ok h
      obtain ⟨vs, hvs, -⟩ := bind_eq_ok h
      obtain ⟨hrest, hclosed⟩ := rest.skim_of_readItems hvs
      exact ⟨List.forall_mem_cons.2
        ⟨skim_of_orNull (fun hread => shape.skim_of_read hread) hv, hrest⟩, hclosed⟩

end

/-! ## Whole texts -/

lemma root_value_of_ofText {text : List Char} {j : Json} (h : ofText text = .ok j) :
    (Document.ofText text).root.value 0 = .ok j := by
  obtain ⟨value, hvalue, h⟩ := bind_eq_ok h
  obtain ⟨⟨⟩, -, h⟩ := bind_eq_ok h
  cases h
  exact hvalue

/-- A reader of a text that has a value fails at its root or nowhere. -/
lemma readDocument_of_ofText {text : List Char} {j : Json} (h : ofText text = .ok j)
    (read : Node → Except Fault α) : readDocument read text = read (Document.ofText text).root := by
  obtain ⟨value, -, h⟩ := bind_eq_ok h
  obtain ⟨⟨⟩, hend, -⟩ := bind_eq_ok h
  simp only [readDocument, hend]
  cases read (Document.ofText text).root <;> rfl

end ClusterBroker.Json
