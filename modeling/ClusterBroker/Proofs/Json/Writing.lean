import ClusterBroker.Proofs.Json.Meaning
import ClusterBroker.Proofs.Json.Printing

/-!
# What is written means what was written

The tree that a shape writes for a value means that value again, with null for absent fields or
without them.  A writer that does not keep the order of entries does no harm: `Same` relates values
that differ in that order only.

**Round trip.**  `Shape.meaning?_same` is the round trip of a whole shape.
`Fields.ofEntries?_same` is that of a record among whose entries there are others.

**Size.**  `Shape.depth` bounds how deep the brackets of a written tree nest, so that its printed text
can be read.
-/

namespace ClusterBroker.Json

/-! ## Values up to the order of entries -/

mutual

/-- Values that differ at most in the order of the entries of their objects. -/
inductive Same : Json → Json → Prop where
  | null : Same .null .null
  | bool (b : Bool) : Same (.bool b) (.bool b)
  | number (n : Number) : Same (.number n) (.number n)
  | text (s : String) : Same (.text s) (.text s)
  | array {js ks : List Json} : SameItems js ks → Same (.array js) (.array ks)
  | object {as bs : List (String × Json)} : SameEntries as bs → Same (.object as) (.object bs)

/-- Items that are the same one by one. -/
inductive SameItems : List Json → List Json → Prop where
  | nil : SameItems [] []
  | cons {j k : Json} {js ks : List Json} :
    Same j k → SameItems js ks → SameItems (j :: js) (k :: ks)

/-- Entries that are the same one by one, in any order. -/
inductive SameEntries : List (String × Json) → List (String × Json) → Prop where
  | nil : SameEntries [] []
  | cons {key : String} {j k : Json} {as before after : List (String × Json)} :
    Same j k → SameEntries as (before ++ after) →
      SameEntries ((key, j) :: as) (before ++ (key, k) :: after)

end

mutual

theorem Same.refl : ∀ j : Json, Same j j
  | .null => .null
  | .bool b => .bool b
  | .number n => .number n
  | .text s => .text s
  | .array js => .array (SameItems.refl js)
  | .object es => .object (SameEntries.refl es)

theorem SameItems.refl : ∀ js : List Json, SameItems js js
  | [] => .nil
  | j :: rest => .cons (Same.refl j) (SameItems.refl rest)

theorem SameEntries.refl : ∀ es : List (String × Json), SameEntries es es
  | [] => .nil
  | (key, j) :: rest =>
    @SameEntries.cons key j j rest [] rest (Same.refl j) (SameEntries.refl rest)

end

/-- What stands under a key differs at most in its order. -/
lemma SameEntries.valuesAt {as bs : List (String × Json)} (h : SameEntries as bs) (key : String) :
    ∃ ks, ks.Perm (Json.valuesAt key bs) ∧ SameItems (Json.valuesAt key as) ks := by
  induction as generalizing bs with
  | nil =>
      cases h
      exact ⟨[], .nil, .nil⟩
  | cons a as ih =>
      cases h with
      | @cons name j k _ before after hj hrest =>
          obtain ⟨ks, hperm, hitems⟩ := ih hrest
          simp only [valuesAt_append] at hperm
          simp only [valuesAt_append, valuesAt_cons]
          split
          · exact ⟨k :: ks, (hperm.cons k).trans List.perm_middle.symm, .cons hj hitems⟩
          · exact ⟨ks, hperm, hitems⟩

/-- Entries keep their keys. -/
lemma SameEntries.keys_perm {as bs : List (String × Json)} (h : SameEntries as bs) :
    (as.map (·.1)).Perm (bs.map (·.1)) := by
  induction as generalizing bs with
  | nil =>
      cases h
      exact .nil
  | cons a as ih =>
      cases h with
      | @cons key j k _ before after hj hrest =>
          have hkeys := ih hrest
          rw [List.map_append] at hkeys
          rw [List.map_append]
          exact (hkeys.cons key).trans List.perm_middle.symm

lemma SameEntries.valuesAt_of_nil {as bs : List (String × Json)} (h : SameEntries as bs)
    {key : String} (hb : Json.valuesAt key bs = []) : Json.valuesAt key as = [] := by
  obtain ⟨ks, hperm, hitems⟩ := h.valuesAt key
  rw [hb, List.perm_nil] at hperm
  subst hperm
  generalize Json.valuesAt key as = js at hitems
  cases hitems
  rfl

lemma SameEntries.valuesAt_of_single {as bs : List (String × Json)} (h : SameEntries as bs)
    {key : String} {k : Json} (hb : Json.valuesAt key bs = [k]) :
    ∃ j, Json.valuesAt key as = [j] ∧ Same j k := by
  obtain ⟨ks, hperm, hitems⟩ := h.valuesAt key
  rw [hb, List.perm_singleton] at hperm
  subst hperm
  generalize Json.valuesAt key as = js at hitems
  cases hitems with
  | cons hj hrest =>
      cases hrest
      exact ⟨_, rfl, hj⟩

/-! ## Round trip -/

/-- Nothing that a shape writes is null. -/
lemma Shape.write_ne_null (shape : Shape) (full : Bool) (v : shape.Value) :
    shape.write full v ≠ .null := by
  cases shape <;> simp [Shape.write, Json.whole]

/-- Nothing but null looks like null. -/
lemma ofNumber?_ne_null {β : Type} (n : Option Number) : Look.ofNumber? n ≠ (.null : Look β) := by
  unfold Look.ofNumber?
  split
  · split <;> simp
  · simp

lemma orNull?_of_ne_null {α : Type} {meaning : Json → Option α} {j : Json} (h : j ≠ .null) :
    orNull? look meaning j = some <$> meaning j := by
  unfold orNull?
  split
  next hnull =>
    cases j with
    | null => exact absurd rfl h
    | number n => exact absurd hnull (ofNumber?_ne_null _)
    | _ => cases hnull
  next => rfl

/-- A record writes its own keys only. -/
lemma Fields.mem_keys_of_write {full : Bool} {fields : Fields} {values : fields.Values}
    {key : String} (h : key ∈ (fields.write full values).map (·.1)) : key ∈ fields.keys := by
  induction fields with
  | nil => simp [write] at h
  | cons k shape rest ih =>
      obtain ⟨value, values⟩ := values
      cases value with
      | some v =>
          simp only [write, List.map_cons, List.mem_cons] at h
          simp only [keys, List.mem_cons]
          exact h.imp_right ih
      | none =>
          cases full with
          | true =>
              simp only [write, if_true, List.map_cons, List.mem_cons] at h
              simp only [keys, List.mem_cons]
              exact h.imp_right ih
          | false => exact List.mem_cons_of_mem _ (ih h)

/-- What a record writes under its first key. -/
def writtenFirst (full : Bool) (shape : Shape) : Option shape.Value → List Json
  | some v => [shape.write full v]
  | none => if full then [.null] else []

lemma Fields.valuesAt_write_cons {full : Bool} {key : String} {shape : Shape} {rest : Fields}
    (hkey : key ∉ rest.keys) (value : Option shape.Value) (values : rest.Values) (k : String) :
    valuesAt k ((Fields.cons key shape rest).write full (value, values))
      = if k = key then writtenFirst full shape value
        else valuesAt k (rest.write full values) := by
  have hrest : valuesAt key (rest.write full values) = [] :=
    valuesAt_eq_nil fun h => hkey (mem_keys_of_write h)
  by_cases hk : k = key
  · subst hk
    cases value <;> cases full <;> simp [write, valuesAt_cons, hrest, writtenFirst]
  · have hne : key ≠ k := Ne.symm hk
    cases value <;> cases full <;> simp [write, valuesAt_cons, hk, hne]

/-- Without its first key, a record is written as the rest of it. -/
lemma Fields.filter_write_cons {key : String} {shape : Shape} {rest : Fields}
    (hkey : key ∉ rest.keys) (value : Option shape.Value) (values : rest.Values) :
    ((Fields.cons key shape rest).write false (value, values)).filter (fun e => e.1 ≠ key)
      = rest.write false values := by
  have hrest : (rest.write false values).filter (fun e => e.1 ≠ key) = rest.write false values := by
    rw [List.filter_eq_self]
    intro e he
    have hne : e.1 ≠ key := fun h => hkey (h ▸ mem_keys_of_write (List.mem_map_of_mem he))
    simpa using hne
  cases value with
  | none => exact hrest
  | some v => simpa [write] using hrest

/-- A table is read back from its entries in any order. -/
lemma mapM_of_same {α : Type} {meaning : Json → Option α} {written : α → Json}
    (hback : ∀ {j v}, Same j (written v) → meaning j = some v) {es : List (String × Json)}
    {l : List (String × α)} (h : SameEntries es (l.map fun e => (e.1, written e.2))) :
    ∃ pairs, es.mapM (fun e => (fun v => (e.1, v)) <$> meaning e.2) = some pairs ∧
      pairs.Perm l := by
  induction es generalizing l with
  | nil =>
      generalize hl : l.map (fun e => (e.1, written e.2)) = bs at h
      cases h
      obtain rfl := List.map_eq_nil_iff.1 hl
      exact ⟨[], rfl, .nil⟩
  | cons e rest ih =>
      generalize hl : l.map (fun e => (e.1, written e.2)) = bs at h
      cases h with
      | @cons key j k _ before after hj hrest =>
          obtain ⟨front, back, rfl, rfl, hback'⟩ := List.map_eq_append_iff.1 hl
          obtain ⟨⟨name, v⟩, back, rfl, hv, rfl⟩ := List.map_eq_cons_iff.1 hback'
          obtain ⟨rfl, rfl⟩ := Prod.mk.inj hv
          rw [← List.map_append] at hrest
          obtain ⟨pairs, hpairs, hperm⟩ := ih hrest
          refine ⟨(name, v) :: pairs, ?_, (hperm.cons _).trans List.perm_middle.symm⟩
          rw [List.mapM_cons, hback hj, hpairs]
          rfl

mutual

/-- **What a shape writes means what was written**, in whatever order the entries stand. -/
theorem Shape.meaning?_same {full : Bool} : ∀ {shape : Shape}, shape.distinct = true →
    ∀ {v : shape.Value} {j : Json}, Same j (shape.write full v) → shape.meaning? look j = some v
  | .flag, _, v, j, h => by
      cases h
      rfl
  | .whole, _, v, j, h => by
      cases h
      have hlook : look (.number (.whole v.toInt)) = .whole v := by
        rw [look, Look.ofNumber?, if_pos ⟨v.minValue_le_toInt, v.toInt_le⟩, v.ofInt_toInt]
      simp only [Shape.meaning?, hlook]
  | .text, _, v, j, h => by
      cases h
      rfl
  | .record name fields, hd, v, j, h => by
      cases h with
      | object h => exact fields.ofEntries?_same full hd h fun _ _ => rfl
  | .table values, hd, v, j, h => by
      cases h with
      | object h =>
          obtain ⟨pairs, hpairs, hperm⟩ := mapM_of_same (values.meaning?_same hd) h
          simp only [Shape.meaning?, look, hpairs]
          exact congrArg some (Dict.ofList_perm hperm)

/-- **A record is read back from its entries**, in any order and among others. -/
theorem Fields.ofEntries?_same (full : Bool) : ∀ {fields : Fields}, fields.distinct = true →
    ∀ {values : fields.Values} {es bs : List (String × Json)}, SameEntries es bs →
      (∀ key ∈ fields.keys, valuesAt key bs = valuesAt key (fields.write full values)) →
      fields.ofEntries? look es = some values
  | .nil, _, values, es, bs, _, _ => rfl
  | .cons key shape rest, hd, (value, values), es, bs, h, hb => by
      obtain ⟨hkey, hshape, hrest⟩ := Fields.distinct_cons.1 hd
      have hfirst : valuesAt key bs = writtenFirst full shape value := by
        rw [hb key (by simp [Fields.keys]), Fields.valuesAt_write_cons hkey, if_pos rfl]
      have hothers : rest.ofEntries? look es = some values := by
        refine rest.ofEntries?_same full hrest h fun k hk => ?_
        have hne : k ≠ key := fun e => hkey (e ▸ hk)
        rw [hb k (by simp [Fields.keys, hk]), Fields.valuesAt_write_cons hkey, if_neg hne]
      have hvalue : atMostOne? none (orNull? look (shape.meaning? look)) (valuesAt key es)
          = some value := by
        cases value with
        | some v =>
            obtain ⟨j, hj, hsame⟩ := h.valuesAt_of_single hfirst
            have hnull : j ≠ .null := by
              rintro rfl
              generalize hk : shape.write full v = k at hsame
              cases hsame
              exact shape.write_ne_null full v hk
            rw [hj, atMostOne?, orNull?_of_ne_null hnull, shape.meaning?_same hshape hsame]
            rfl
        | none =>
            cases full with
            | true =>
                obtain ⟨j, hj, hsame⟩ := h.valuesAt_of_single hfirst
                cases hsame
                rw [hj]
                rfl
            | false =>
                rw [h.valuesAt_of_nil hfirst]
                rfl
      simp only [Fields.ofEntries?, hvalue, hothers]
      rfl

end

/-! ## Size -/

mutual

/-- How deep the brackets of a written value may nest. -/
def Shape.depth : Shape → Nat
  | .record _ fields => fields.depth + 1
  | .table values => values.depth + 1
  | _ => 0

/-- How deep the brackets of the fields of a written record may nest. -/
def Fields.depth : Fields → Nat
  | .nil => 0
  | .cons _ shape rest => max shape.depth rest.depth

end

lemma EntriesHaveWords.append {as bs : List (String × Json)} (ha : EntriesHaveWords as)
    (hb : EntriesHaveWords bs) : EntriesHaveWords (as ++ bs) := by
  induction as with
  | nil => exact hb
  | cons a rest ih => exact ⟨ha.1, ih ha.2⟩

lemma depthOfEntries_append (as bs : List (String × Json)) :
    depthOfEntries (as ++ bs) = max (depthOfEntries as) (depthOfEntries bs) := by
  induction as with
  | nil => simp [depthOfEntries]
  | cons a rest ih => simp only [List.cons_append, depthOfEntries, ih, Nat.max_assoc]

lemma ItemsHaveWords.texts (l : List String) : ItemsHaveWords (l.map .text) := by
  induction l with
  | nil => trivial
  | cons s rest ih => exact ⟨trivial, ih⟩

lemma depthOfItems_texts (l : List String) : depthOfItems (l.map .text) = 0 := by
  induction l with
  | nil => rfl
  | cons s rest ih => simpa [depthOfItems, depth] using ih

lemma EntriesHaveWords.map {α : Type} {written : α → Json} (h : ∀ v, (written v).HasWords)
    (l : List (String × α)) : EntriesHaveWords (l.map fun e => (e.1, written e.2)) := by
  induction l with
  | nil => trivial
  | cons e rest ih => exact ⟨h e.2, ih⟩

lemma depthOfEntries_map_le {α : Type} {written : α → Json} {bound : Nat}
    (h : ∀ v, (written v).depth ≤ bound) (l : List (String × α)) :
    depthOfEntries (l.map fun e => (e.1, written e.2)) ≤ bound := by
  induction l with
  | nil => exact Nat.zero_le _
  | cons e rest ih =>
      have hv := h e.2
      simp only [List.map_cons, depthOfEntries]
      omega

mutual

theorem Shape.write_hasWords (full : Bool) :
    ∀ (shape : Shape) (v : shape.Value), (shape.write full v).HasWords
  | .flag, _ => trivial
  | .whole, v => by
      have hlow : -2 ^ 31 ≤ v.toInt := v.le_toInt
      have hhigh : v.toInt < 2 ^ 31 := v.toInt_lt
      have hhalf : 2 ^ 31 ≤ Decimal.twoTo 63 := by decide
      have hwhole : 2 ^ 31 ≤ Decimal.twoTo 64 := by decide
      simp only [Shape.write, Json.whole, HasWords, IsWord]
      omega
  | .text, _ => trivial
  | .record _ fields, values => fields.write_haveWords full values
  | .table values, table => EntriesHaveWords.map (values.write_hasWords full) table.entries

theorem Fields.write_haveWords (full : Bool) :
    ∀ (fields : Fields) (values : fields.Values), EntriesHaveWords (fields.write full values)
  | .nil, _ => trivial
  | .cons key shape rest, (value, values) => by
      have hrest := rest.write_haveWords full values
      cases value with
      | some v => exact ⟨shape.write_hasWords full v, hrest⟩
      | none =>
          cases full with
          | true => exact ⟨trivial, hrest⟩
          | false => exact hrest

end

mutual

/-- **The brackets of a written value** nest as deep as its shape says at most. -/
theorem Shape.depth_write_le (full : Bool) :
    ∀ (shape : Shape) (v : shape.Value), (shape.write full v).depth ≤ shape.depth
  | .flag, _ => Nat.zero_le _
  | .whole, _ => Nat.zero_le _
  | .text, _ => Nat.zero_le _
  | .record _ fields, values => Nat.succ_le_succ (fields.depth_write_le full values)
  | .table values, table =>
    Nat.succ_le_succ (depthOfEntries_map_le (values.depth_write_le full) table.entries)

theorem Fields.depth_write_le (full : Bool) :
    ∀ (fields : Fields) (values : fields.Values),
      depthOfEntries (fields.write full values) ≤ fields.depth
  | .nil, _ => Nat.zero_le _
  | .cons key shape rest, (value, values) => by
      have hrest := rest.depth_write_le full values
      cases value with
      | some v =>
          have hfirst := shape.depth_write_le full v
          simp only [Fields.write, depthOfEntries, Fields.depth]
          omega
      | none =>
          cases full with
          | true =>
              simp only [Fields.write, if_true, depthOfEntries, depth, Fields.depth]
              omega
          | false =>
              simp only [Fields.write, Bool.false_eq_true, if_false, Fields.depth]
              omega

end

end ClusterBroker.Json
