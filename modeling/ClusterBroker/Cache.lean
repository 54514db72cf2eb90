import ClusterBroker.Instance

/-!
# The cache of instances

Instances are kept by their name and the identifier of their plan.  None expires on its own; the
whole cache is cleared at once.

* `Cache` — the cache, at most one instance for each key.
* `Cache.get?`, `Cache.put`, `Cache.empty`, `Cache.size` — the operations.
* **`Cache.get?_put`** — what is found after an instance is put.
-/

namespace ClusterBroker

/-- What an instance is kept by. -/
structure CacheKey where
  name : String
  planId : String
  deriving DecidableEq

/-- The key of an instance. -/
def Instance.cacheKey (i : Instance) : CacheKey :=
  ⟨i.name, i.plan.id⟩

/-- Instances with distinct keys, the last one put first. -/
structure Cache where
  instances : List Instance
  distinct : (instances.map Instance.cacheKey).Nodup

namespace Cache

/-- The cache without instances. -/
def empty : Cache := ⟨[], .nil⟩

/-- The instance with a key. -/
def get? (c : Cache) (key : CacheKey) : Option Instance :=
  c.instances.find? fun i => i.cacheKey = key

/-- Whether some instance has a key. -/
def contains (c : Cache) (key : CacheKey) : Bool :=
  (c.get? key).isSome

/-- The instances with another key. -/
def others (c : Cache) (key : CacheKey) : List Instance :=
  c.instances.filter fun i => i.cacheKey ≠ key

theorem nodup_cons_others (c : Cache) (i : Instance) :
    ((i :: c.others i.cacheKey).map Instance.cacheKey).Nodup := by
  refine List.nodup_cons.2 ⟨fun h => ?_, ?_⟩
  · obtain ⟨j, hj, hk⟩ := List.mem_map.1 h
    have := (List.mem_filter.1 hj).2
    simp [hk] at this
  · exact (List.filter_sublist.map _).nodup c.distinct

/-- The cache with one more instance, in place of any other with the same key. -/
def put (c : Cache) (i : Instance) : Cache :=
  ⟨i :: c.others i.cacheKey, c.nodup_cons_others i⟩

/-- How many instances there are. -/
def size (c : Cache) : Nat :=
  c.instances.length

/-- Whether there are none. -/
def isEmpty (c : Cache) : Bool :=
  c.instances.isEmpty

/-! ## Look-ups -/

@[simp] theorem get?_empty (key : CacheKey) : empty.get? key = none := rfl

theorem get?_put (c : Cache) (i : Instance) (key : CacheKey) :
    (c.put i).get? key = if i.cacheKey = key then some i else c.get? key := by
  by_cases h : i.cacheKey = key
  · simp [put, get?, h]
  · have hf : ∀ l : List Instance,
        (l.filter fun j => j.cacheKey ≠ i.cacheKey).find? (fun j => j.cacheKey = key)
          = l.find? fun j => j.cacheKey = key := by
      intro l
      induction l with
      | nil => rfl
      | cons j rest ih =>
          by_cases hj : j.cacheKey = i.cacheKey
          · have : j.cacheKey ≠ key := fun e => h (hj ▸ e)
            simp_all
          · by_cases hk : j.cacheKey = key <;> simp_all
    have := hf c.instances
    simp only [put, get?, others, List.find?_cons, decide_eq_false h, if_neg h, this]

end Cache

end ClusterBroker
