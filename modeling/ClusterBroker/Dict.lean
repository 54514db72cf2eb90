/-!
# Dictionaries: finite maps from text

A dictionary is a list of entries whose keys ascend strictly, so it has one representation per map
and equality of dictionaries is equality of maps.

* `Dict.get?`, `Dict.insert`, `Dict.erase`, `Dict.modify` — the operations.
* `Dict.ofList` — the map in which the last entry of a key counts.
* **`Dict.get?_insert`**, **`Dict.get?_erase`**, **`Dict.get?_modify`**, **`Dict.get?_map`** — what
  a look-up finds afterwards.
* **`Dict.ext_get?`** — dictionaries that answer every look-up alike are equal.
* **`Dict.get?_ofList`** — a look-up in a map of entries finds the last one of its key.
* `Dict.ofList_perm` — the entries of a dictionary make it again, in any order.
-/

namespace ClusterBroker

/-- A finite map from text, its entries in ascending order of their keys. -/
structure Dict (α : Type) where
  entries : List (String × α)
  ascending : entries.Pairwise fun a b => a.1 < b.1

namespace Dict

variable {α β : Type}

instance [DecidableEq α] : DecidableEq (Dict α) := fun a b =>
  if h : a.entries = b.entries then
    isTrue (by cases a; cases b; simp_all)
  else isFalse fun e => h (by rw [e])

/-! ## Operations -/

/-- The dictionary without entries. -/
def empty : Dict α := ⟨[], .nil⟩

instance : Inhabited (Dict α) := ⟨empty⟩

/-- The value of a key in a list of entries, the first one counting. -/
def find (key : String) : List (String × α) → Option α
  | [] => none
  | e :: rest => if e.1 = key then some e.2 else find key rest

/-- Entries with the value of one key set, in the place where the order wants it. -/
def put (key : String) (value : α) : List (String × α) → List (String × α)
  | [] => [(key, value)]
  | e :: rest =>
    if key < e.1 then (key, value) :: e :: rest
    else if key = e.1 then (key, value) :: rest
    else e :: put key value rest

theorem mem_put {key : String} {value : α} {e : String × α} :
    ∀ {l : List (String × α)}, e ∈ put key value l → e = (key, value) ∨ e ∈ l
  | [], h => by simpa [put] using h
  | a :: rest, h => by
      unfold put at h
      split at h
      · simpa using h
      · split at h
        · rcases List.mem_cons.1 h with h | h
          · exact .inl h
          · exact .inr (List.mem_cons_of_mem _ h)
        · rcases List.mem_cons.1 h with h | h
          · exact .inr (by simp [h])
          · exact (mem_put h).imp_right (List.mem_cons_of_mem _)

theorem ascending_put (key : String) (value : α) :
    ∀ {l : List (String × α)}, l.Pairwise (fun a b => a.1 < b.1) →
      (put key value l).Pairwise fun a b => a.1 < b.1
  | [], _ => by simp [put]
  | a :: rest, h => by
      obtain ⟨ha, hr⟩ := List.pairwise_cons.1 h
      unfold put
      split
      next hlt =>
        refine List.pairwise_cons.2 ⟨fun b hb => ?_, h⟩
        rcases List.mem_cons.1 hb with rfl | hb
        · exact hlt
        · exact String.lt_trans hlt (ha b hb)
      next hlt =>
        split
        next heq => exact List.pairwise_cons.2 ⟨fun b hb => heq ▸ ha b hb, hr⟩
        next hne =>
          have hgt : a.1 < key := Std.lt_of_le_of_ne (String.not_lt.1 hlt) (Ne.symm hne)
          refine List.pairwise_cons.2 ⟨fun b hb => ?_, ascending_put key value hr⟩
          rcases mem_put hb with rfl | hb
          · exact hgt
          · exact ha b hb

/-- The value of a key. -/
def get? (d : Dict α) (key : String) : Option α :=
  find key d.entries

/-- The dictionary with the value of one key set. -/
def insert (d : Dict α) (key : String) (value : α) : Dict α :=
  ⟨put key value d.entries, ascending_put key value d.ascending⟩

/-- The dictionary without one key. -/
def erase (d : Dict α) (key : String) : Dict α :=
  ⟨d.entries.filter (fun e => e.1 ≠ key), d.ascending.filter _⟩

/-- The dictionary with the value of one key changed, if it has one. -/
def modify (d : Dict α) (key : String) (f : α → α) : Dict α :=
  match d.get? key with
  | some value => d.insert key (f value)
  | none => d

/-- The dictionary with every value changed. -/
def map (f : α → β) (d : Dict α) : Dict β :=
  ⟨d.entries.map fun e => (e.1, f e.2), List.pairwise_map.2 d.ascending⟩

/-- The map of a list of entries, the last one of a key counting. -/
def ofList (l : List (String × α)) : Dict α :=
  l.foldl (fun d e => d.insert e.1 e.2) empty

/-- How many keys a dictionary has. -/
def size (d : Dict α) : Nat :=
  d.entries.length

/-! ## Look-ups -/

@[simp] theorem get?_empty (key : String) : (empty : Dict α).get? key = none := rfl

theorem map_map {γ : Type} (f : α → β) (g : β → γ) (d : Dict α) :
    (d.map f).map g = d.map fun a => g (f a) := by
  simp [map, Function.comp_def]

theorem map_id (d : Dict α) : d.map (fun a => a) = d := by
  simp [map]

theorem find_put (key k : String) (value : α) :
    ∀ {l : List (String × α)}, l.Pairwise (fun a b => a.1 < b.1) →
      find k (put key value l) = if key = k then some value else find k l
  | [], _ => by simp [put, find]
  | a :: rest, h => by
      have ih := find_put key k value (List.pairwise_cons.1 h).2
      unfold put
      split
      · simp [find]
      · split
        next heq => by_cases hk : key = k <;> simp [find, hk, ← heq]
        next hne =>
          by_cases hk : key = k
          · subst hk; simp [find, Ne.symm hne, ih]
          · by_cases ha : a.1 = k <;> simp [find, ha, hk, ih]

theorem get?_insert (d : Dict α) (key k : String) (value : α) :
    (d.insert key value).get? k = if key = k then some value else d.get? k :=
  find_put key k value d.ascending

theorem find_filter_ne (key k : String) (l : List (String × α)) :
    find k (l.filter fun e => e.1 ≠ key) = if key = k then none else find k l := by
  induction l with
  | nil => simp [find]
  | cons a rest ih =>
      by_cases ha : a.1 = key
      · by_cases hk : key = k <;> simp_all [find]
      · by_cases hk : key = k
        · subst hk; simp_all [find]
        · by_cases hak : a.1 = k <;> simp_all [find]

theorem get?_erase (d : Dict α) (key k : String) :
    (d.erase key).get? k = if key = k then none else d.get? k :=
  find_filter_ne key k d.entries

theorem get?_modify (d : Dict α) (key k : String) (f : α → α) :
    (d.modify key f).get? k = if key = k then (d.get? k).map f else d.get? k := by
  unfold modify
  by_cases hk : key = k
  · subst hk
    cases h : d.get? key with
    | none => simp [h]
    | some value => simp [get?_insert]
  · cases d.get? key with
    | none => simp [hk]
    | some value => simp [get?_insert, hk]

theorem find_map (f : α → β) (k : String) (l : List (String × α)) :
    find k (l.map fun e => (e.1, f e.2)) = (find k l).map f := by
  induction l with
  | nil => rfl
  | cons a rest ih => by_cases ha : a.1 = k <;> simp [find, ha, ih]

theorem get?_map (f : α → β) (d : Dict α) (k : String) : (d.map f).get? k = (d.get? k).map f :=
  find_map f k d.entries

theorem find_eq_some_of_mem {k : String} {v : α} :
    ∀ {l : List (String × α)}, l.Pairwise (fun a b => a.1 < b.1) → (k, v) ∈ l →
      find k l = some v
  | a :: rest, h, hm => by
      obtain ⟨ha, hr⟩ := List.pairwise_cons.1 h
      rcases List.mem_cons.1 hm with rfl | hm
      · simp [find]
      · have hlt : a.1 < k := ha _ hm
        have hne : a.1 ≠ k := fun e => String.lt_irrefl k (e ▸ hlt)
        simp [find, hne, find_eq_some_of_mem hr hm]

theorem mem_of_find_eq_some {k : String} {v : α} :
    ∀ {l : List (String × α)}, find k l = some v → (k, v) ∈ l
  | a :: rest, h => by
      by_cases ha : a.1 = k
      · simp [find, ha] at h
        exact List.mem_cons.2 (.inl (by rw [← ha, ← h]))
      · simp [find, ha] at h
        exact List.mem_cons_of_mem _ (mem_of_find_eq_some h)

theorem mem_entries_iff (d : Dict α) (k : String) (v : α) :
    (k, v) ∈ d.entries ↔ d.get? k = some v :=
  ⟨find_eq_some_of_mem d.ascending, mem_of_find_eq_some⟩

/-! ## Equality -/

theorem eq_of_ascending :
    ∀ {l m : List (String × α)}, l.Pairwise (fun a b => a.1 < b.1) →
      m.Pairwise (fun a b => a.1 < b.1) → (∀ e, e ∈ l ↔ e ∈ m) → l = m
  | [], [], _, _, _ => rfl
  | [], b :: _, _, _, h => absurd ((h b).2 (by simp)) (by simp)
  | a :: _, [], _, _, h => absurd ((h a).1 (by simp)) (by simp)
  | a :: l, b :: m, hl, hm, h => by
      have ⟨hal, hl'⟩ := List.pairwise_cons.1 hl
      have ⟨hbm, hm'⟩ := List.pairwise_cons.1 hm
      have hab : a = b := by
        rcases List.mem_cons.1 ((h a).1 (by simp)) with e | ham
        · exact e
        · rcases List.mem_cons.1 ((h b).2 (by simp)) with e | hbl
          · exact e.symm
          · exact absurd (String.lt_trans (hal b hbl) (hbm a ham)) (String.lt_irrefl _)
      subst hab
      refine congrArg (a :: ·) (eq_of_ascending hl' hm' fun e => ?_)
      have he := h e
      simp only [List.mem_cons] at he
      constructor
      · intro hel
        rcases he.1 (.inr hel) with rfl | hem
        · exact absurd (hal _ hel) (String.lt_irrefl _)
        · exact hem
      · intro hem
        rcases he.2 (.inr hem) with rfl | hel
        · exact absurd (hbm _ hem) (String.lt_irrefl _)
        · exact hel

/-- **Dictionaries that answer every look-up alike are equal.** -/
theorem ext_get? {d e : Dict α} (h : ∀ k, d.get? k = e.get? k) : d = e := by
  have hl : d.entries = e.entries :=
    eq_of_ascending d.ascending e.ascending fun p => by
      rw [← Prod.eta p, mem_entries_iff, mem_entries_iff, h]
  cases d; cases e; simp_all

/-! ## Lists of entries -/

theorem find_eq_some_iff {k : String} {v : α} :
    ∀ {l : List (String × α)}, (l.map (·.1)).Nodup → (find k l = some v ↔ (k, v) ∈ l)
  | [], _ => by simp [find]
  | a :: rest, h => by
      obtain ⟨ha, hr⟩ := List.nodup_cons.1 h
      by_cases hk : a.1 = k
      · have hne : (k, v) ∉ rest := fun hm => ha (List.mem_map.2 ⟨_, hm, hk.symm⟩)
        simp [find, hk, hne, Prod.ext_iff, eq_comm]
      · have hne : (k, v) ≠ a := fun e => hk (by rw [← e])
        simp [find, hk, hne, find_eq_some_iff hr]

theorem find_append (k : String) (l m : List (String × α)) :
    find k (l ++ m) = (find k l).or (find k m) := by
  induction l with
  | nil => rfl
  | cons a rest ih => by_cases ha : a.1 = k <;> simp [find, ha, ih]

theorem get?_foldl_insert (k : String) (l : List (String × α)) (d : Dict α) :
    (l.foldl (fun d e => d.insert e.1 e.2) d).get? k = (find k l.reverse).or (d.get? k) := by
  induction l generalizing d with
  | nil => rfl
  | cons a rest ih =>
      have hlast : find k [a] = if a.1 = k then some a.2 else none := rfl
      rw [List.foldl_cons, ih, get?_insert, List.reverse_cons, find_append, Option.or_assoc, hlast]
      split <;> rfl

/-- **The last entry of a key counts.** -/
theorem get?_ofList (l : List (String × α)) (k : String) :
    (ofList l).get? k = find k l.reverse := by
  rw [ofList, get?_foldl_insert, get?_empty, Option.or_none]

/-- The entries of a dictionary make that dictionary again, in any order. -/
theorem ofList_perm {l : List (String × α)} {d : Dict α} (h : l.Perm d.entries) :
    ofList l = d := by
  have hd : (d.entries.map (·.1)).Nodup := by
    refine List.pairwise_map.2 (d.ascending.imp ?_)
    intro a b hlt heq
    exact String.lt_irrefl b.1 (heq ▸ hlt)
  have hperm : l.reverse.Perm d.entries := l.reverse_perm.trans h
  have hl : (l.reverse.map (·.1)).Nodup := (hperm.map _).nodup_iff.2 hd
  refine ext_get? fun k => Option.ext fun v => ?_
  rw [get?_ofList, find_eq_some_iff hl, hperm.mem_iff, mem_entries_iff]

end Dict

end ClusterBroker
