import ClusterBroker.Proofs.Json.Alike.Faults

/-!
# Texts that are alike are read alike

Readers look at scalars only to take them, and what they do next does not depend on what they took.
So two texts that differ in some scalars have the same faults, but for those that are about one of
these scalars.

**Trees.**  `Shape.read_alike` reads alike trees under a shape, `gather_alike` the entries of an
object, `Node.Alike.value` reads values, and `Node.Alike.skim` passes over them.

**Whole texts.**  `readDocument_alike` is about any reader that reads alike trees alike.
-/

namespace ClusterBroker.Json

open Node (ItemsAlike EntriesAlike)

variable {swap : Symbol → Symbol → Prop} {α : Type}

/-! ## Leaves -/

lemma Symbol.Swapped.isScalar {s s' : Symbol} (h : s.Swapped swap s') :
    s.isScalar = true ∧ s'.isScalar = true := by
  cases h <;> exact ⟨rfl, rfl⟩

lemma Node.Alike.peek {node node' : Node} (h : node.Alike swap node') : node.peek = node'.peek := by
  cases h with
  | leaf start hs => cases hs <;> rfl
  | _ => rfl

/-- Null is not swapped. -/
lemma orNull_alike {read : Node → Except Fault α} {node node' : Node} (h : node.Alike swap node')
    (hread : FaultsAgree swap (read node) (read node')) :
    FaultsAgree swap (orNull read node) (orNull read node') := by
  cases h with
  | same => exact .refl (fun _ => trivial) _
  | leaf start hs => cases hs <;> exact hread.map fun _ => trivial
  | array => exact hread.map fun _ => trivial
  | object => exact hread.map fun _ => trivial

/-! ## Skipping -/

mutual

/-- **Alike trees are passed over alike.** -/
theorem Node.Alike.skim : ∀ {node node' : Node}, node.Alike swap node' → node.skim = node'.skim
  | _, _, .same _ => rfl
  | _, _, .leaf _ hs => by cases hs <;> rfl
  | _, _, .array _ _ h => by rw [Node.skim, Node.skim, h.skim]
  | _, _, .object _ _ h => by rw [Node.skim, Node.skim, h.skim]

theorem Node.ItemsAlike.skim : ∀ {items items' : List Node}, ItemsAlike swap items items' →
    skimItems items = skimItems items'
  | _, _, .nil => rfl
  | _, _, .cons hnode hrest => by
      rw [skimItems, skimItems, hnode.skim, hrest.skim]

theorem Node.EntriesAlike.skim : ∀ {entries entries' : List (Key × Node)},
    EntriesAlike swap entries entries' → skimEntries entries = skimEntries entries'
  | _, _, .nil => rfl
  | _, _, .cons _ hnode hrest => by
      rw [skimEntries, skimEntries, hnode.skim, hrest.skim]

end

/-! ## Values -/

mutual

/-- **The values of alike trees have the same faults**, but for the swapped scalars. -/
theorem Node.Alike.value : ∀ {node node' : Node}, node.Alike swap node' → ∀ depth : Nat,
    FaultsAgree swap (node.value depth) (node'.value depth)
  | _, _, .same _, _ => .refl (fun _ => trivial) _
  | _, _, .leaf start hs, depth =>
    .of_answers hs.related (Symbol.answers_value hs.isScalar.1 start depth)
      (Symbol.answers_value hs.isScalar.2 start depth)
  | _, _, .array start finish h, depth => by
      rw [Node.value, Node.value]
      split
      · exact (h.values (depth + 1)).bind fun _ => .after _ fun _ => .ok trivial
      · exact .fault _
  | _, _, .object start finish h, depth => by
      rw [Node.value, Node.value]
      split
      · exact (h.values (depth + 1)).bind fun _ => .after _ fun _ => .ok trivial
      · exact .fault _

theorem Node.ItemsAlike.values : ∀ {items items' : List Node}, ItemsAlike swap items items' →
    ∀ depth : Nat, FaultsAgree swap (itemValues depth items) (itemValues depth items')
  | _, _, .nil, _ => .ok trivial
  | _, _, .cons hnode hrest, depth => by
      rw [itemValues, itemValues]
      exact (hnode.value depth).bind fun _ =>
        (hrest.values depth).bind fun _ => .ok trivial

theorem Node.EntriesAlike.values : ∀ {entries entries' : List (Key × Node)},
    EntriesAlike swap entries entries' → ∀ depth : Nat,
      FaultsAgree swap (entryValues depth entries) (entryValues depth entries')
  | _, _, .nil, _ => .ok trivial
  | _, _, .cons k hnode hrest, depth => by
      rw [entryValues, entryValues]
      exact .after k.read fun _ => .after k.checkColon fun _ => (hnode.value depth).bind fun _ =>
        (hrest.values depth).bind fun _ => .ok trivial

end

/-! ## Entries of an object -/

/-- Alike entries are taken one by one. -/
lemma foldlM_alike {V : α → α → Prop} {take : α → Key × Node → Except Fault α}
    (htake : ∀ {a a'} (k : Key) {node node'}, V a a' → node.Alike swap node' →
      Agree swap V (take a (k, node)) (take a' (k, node')))
    {entries entries' : List (Key × Node)} (h : EntriesAlike swap entries entries') {a a' : α}
    (ha : V a a') : Agree swap V (entries.foldlM take a) (entries'.foldlM take a') := by
  induction entries generalizing entries' a a' with
  | nil =>
      cases h
      exact .ok ha
  | cons entry entries ih =>
      cases h with
      | cons k hnode hrest =>
          rw [List.foldlM_cons, List.foldlM_cons]
          exact (htake k ha hnode).bind (ih hrest)

/-- The same keys so far. -/
def Gathered.SameKeys (g g' : Gathered α) : Prop :=
  g.known = g'.known ∧ g.unknown = g'.unknown

section Gather

variable (isKnown : String → Bool) {readField : String → Node → α → Except Fault α}
  {past : Node → Except Fault Unit}

lemma gatherEntry_alike
    (hread : ∀ (name : String) {node node' : Node} (a a' : α), node.Alike swap node' →
      FaultsAgree swap (readField name node a) (readField name node' a'))
    (hpast : ∀ {node node' : Node}, node.Alike swap node' →
      FaultsAgree swap (past node) (past node'))
    {acc acc' : Gathered α} (hacc : acc.SameKeys acc') (k : Key) {node node' : Node}
    (h : node.Alike swap node') :
    Agree swap Gathered.SameKeys (gatherEntry isKnown readField past acc (k, node))
      (gatherEntry isKnown readField past acc' (k, node')) := by
  obtain ⟨values, known, unknown⟩ := acc
  obtain ⟨values', known', unknown'⟩ := acc'
  obtain ⟨rfl, rfl⟩ := hacc
  refine .after k.read fun name => ?_
  dsimp only
  split
  · split
    · exact .fault _
    · exact .after k.checkColon fun _ =>
        (hread name values values' h).bind fun _ => .ok ⟨rfl, rfl⟩
  · exact .after k.checkColon fun _ => (hpast h).bind fun _ => .ok ⟨rfl, rfl⟩

/-- **The entries of alike objects have the same keys and the same faults**, but for the swapped
scalars. -/
theorem gather_alike
    (hread : ∀ (name : String) {node node' : Node} (a a' : α), node.Alike swap node' →
      FaultsAgree swap (readField name node a) (readField name node' a'))
    (hpast : ∀ {node node' : Node}, node.Alike swap node' →
      FaultsAgree swap (past node) (past node'))
    (start : α) {entries entries' : List (Key × Node)} (h : EntriesAlike swap entries entries')
    (finish : Finish) :
    Agree swap Gathered.SameKeys (gather isKnown readField past start entries finish)
      (gather isKnown readField past start entries' finish) := by
  have htake {acc acc' : Gathered α} (k : Key) {node node' : Node} (hacc : acc.SameKeys acc')
      (hnode : node.Alike swap node') :
      Agree swap Gathered.SameKeys (gatherEntry isKnown readField past acc (k, node))
        (gatherEntry isKnown readField past acc' (k, node')) :=
    gatherEntry_alike isKnown hread hpast hacc k hnode
  exact (foldlM_alike htake h ⟨rfl, rfl⟩).bind fun hkeys => .after _ fun _ => .ok hkeys

end Gather

/-! ## Shapes -/

lemma overlong_alike {items items' : List Node} (h : ItemsAlike swap items items')
    (finish : Finish) : overlong items finish = overlong items' finish := by
  cases h with
  | nil => rfl
  | cons hnode hrest => rw [overlong, overlong, hnode.peek]

mutual

/-- **Alike trees are read under a shape with the same faults**, but for the swapped scalars. -/
theorem Shape.read_alike : ∀ (shape : Shape) {node node' : Node}, node.Alike swap node' →
    FaultsAgree swap (shape.read node) (shape.read node')
  | shape, _, _, .same _ => .refl (fun _ => trivial) _
  | shape, _, _, .leaf start hs =>
    .of_answers hs.related (Symbol.answers_read hs.isScalar.1 start shape)
      (Symbol.answers_read hs.isScalar.2 start shape)
  | .flag, _, _, .array start finish h | .whole, _, _, .array start finish h
  | .text, _, _, .array start finish h | .table _, _, _, .array start finish h => .fault _
  | .record name fields, _, _, .array start finish h =>
    fields.readItems_alike name fields.count 0 h finish
  | .flag, _, _, .object start finish h | .whole, _, _, .object start finish h
  | .text, _, _, .object start finish h => .fault _
  | .table values, _, _, .object start finish h => by
      have htake {acc acc' : Dict values.Value} (k : Key) {node node' : Node} (_ : True)
          (hnode : node.Alike swap node') :
          FaultsAgree swap (readTable values.read acc (k, node))
            (readTable values.read acc' (k, node')) :=
        .after k.read fun _ => .after k.checkColon fun _ =>
          (values.read_alike hnode).bind fun _ => .ok trivial
      exact (foldlM_alike htake h trivial).bind fun _ => .after _ fun _ => .ok trivial
  | .record name fields, _, _, .object start finish h => by
      have hpast {node node' : Node} (hnode : node.Alike swap node') :
          FaultsAgree swap node.skim node'.skim := by
        rw [hnode.skim]
        exact .refl (fun _ => trivial) _
      have hgather := gather_alike fields.keys.contains
        (fun key _ _ values values' hnode => fields.readField_alike key hnode values values')
        hpast fields.absent h finish
      exact hgather.map fun _ => trivial

theorem Fields.readField_alike : ∀ (fields : Fields) (key : String) {node node' : Node},
    node.Alike swap node' → ∀ values values' : fields.Values,
      FaultsAgree swap (fields.readField key node values) (fields.readField key node' values')
  | .nil, _, _, _, _, _, _ => .ok trivial
  | .cons k shape rest, key, _, _, h, (value, values), (value', values') => by
      unfold Fields.readField
      split
      · exact (orNull_alike h (shape.read_alike h)).map fun _ => trivial
      · exact (rest.readField_alike key h values values').map fun _ => trivial

theorem Fields.readItems_alike : ∀ (fields : Fields) (record : String) (total index : Nat)
    {items items' : List Node}, ItemsAlike swap items items' → ∀ finish : Finish,
      FaultsAgree swap (fields.readItems record total index items finish)
        (fields.readItems record total index items' finish)
  | .nil, record, total, index, _, _, h, finish => by
      unfold Fields.readItems
      rw [overlong_alike h finish]
      exact .refl (fun _ => trivial) _
  | .cons key shape rest, record, total, index, _, _, .nil, finish => .refl (fun _ => trivial) _
  | .cons key shape rest, record, total, index, _, _, .cons hnode hrest, finish => by
      unfold Fields.readItems
      exact (orNull_alike hnode (shape.read_alike hnode)).bind fun _ =>
        (rest.readItems_alike record total (index + 1) hrest finish).bind fun _ => .ok trivial

end

/-! ## Whole texts -/

/-- **A reader that reads alike trees alike reads alike texts alike.** -/
theorem readDocument_alike {read : Node → Except Fault α} {V : α → α → Prop}
    (hread : ∀ {node node' : Node}, node.Alike swap node' → Agree swap V (read node) (read node'))
    {w w' : Written} (hw : w.Alike swap w') {text text' : List Char}
    (h : SpacedAlike w.symbols w'.symbols text text') :
    Agree swap V (readDocument read text) (readDocument read text') := by
  obtain ⟨hroot, hnext, hnext'⟩ := Document.alike_ofText hw h
  unfold readDocument Document.checkEnd
  simp only [hnext, hnext', if_true]
  exact (hread hroot).bind fun hv => .ok hv

end ClusterBroker.Json
