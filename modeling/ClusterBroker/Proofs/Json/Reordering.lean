import ClusterBroker.Proofs.Json.Writing

/-!
# Values that are equal but for the order of entries

A writer that takes the entries of an object from an unordered map writes them in any order.  Whoever
compares values must not see that, so what `Same` relates has to be an equivalence, and a value has
to be as easy to read back in one order as in another.

**Moving an entry.**  By `SameEntries.insert` an entry may be put in the midst of others, and by
`SameEntries.remove` it may be taken away from there.

**Equivalence.**  `Same.refl`, **`Same.symm`** and **`Same.trans`**.

**Texts.**  By `Same.hasWords` and `Same.depth_eq` values have the same kind of numbers and nest as
deep, so by **`Same.ofText_print`** they are read back in whatever order they are printed.
-/

namespace ClusterBroker.Json

/-! ## Moving an entry -/

namespace SameEntries

variable {key : String} {j k : Json} {bs before after : List (String × Json)}

/-- An entry may be put in the midst of others. -/
lemma insert (hj : Same j k) (h : SameEntries (before ++ after) bs) :
    SameEntries (before ++ (key, j) :: after) ((key, k) :: bs) := by
  induction before generalizing bs with
  | nil => exact @SameEntries.cons key j k after [] bs hj h
  | cons a before ih =>
      cases h with
      | @cons name i l _ front back hi hrest =>
          exact @SameEntries.cons name i l _ ((key, k) :: front) back hi (ih hrest)

/-- An entry may be taken away from the midst of others. -/
lemma remove (h : SameEntries (before ++ (key, j) :: after) bs) :
    ∃ k front back, bs = front ++ (key, k) :: back ∧ Same j k ∧
      SameEntries (before ++ after) (front ++ back) := by
  induction before generalizing bs with
  | nil =>
      cases h with
      | @cons _ _ k _ front back hj hrest => exact ⟨k, front, back, rfl, hj, hrest⟩
  | cons a before ih =>
      cases h with
      | @cons name i l _ front back hi hrest =>
          obtain ⟨k, front', back', hsplit, hj, hothers⟩ := ih hrest
          -- The first entry stands in `bs` before the one in question, or after it.
          rcases List.append_eq_append_iff.1 hsplit with ⟨middle, rfl, rfl⟩ | ⟨middle, rfl, hback⟩
          · refine ⟨k, front ++ (name, l) :: middle, back', by simp, hj, ?_⟩
            rw [List.append_assoc] at hothers ⊢
            exact .cons hi hothers
          · cases middle with
            | nil =>
                obtain rfl : back = (key, k) :: back' := hback.symm
                refine ⟨k, front' ++ [(name, l)], back', by simp, hj, ?_⟩
                rw [List.append_assoc]
                exact .cons hi hothers
            | cons first middle =>
                obtain ⟨rfl, rfl⟩ := List.cons.inj hback
                have hrest : SameEntries (before ++ after) ((front' ++ middle) ++ back) := by
                  rwa [List.append_assoc]
                refine ⟨k, front', middle ++ (name, l) :: back, by simp, hj, ?_⟩
                rw [← List.append_assoc]
                exact .cons hi hrest

end SameEntries

/-! ## Equivalence -/

mutual

theorem Same.symm : ∀ {j k : Json}, Same j k → Same k j
  | .null, _, .null => .null
  | .bool b, _, .bool _ => .bool b
  | .number n, _, .number _ => .number n
  | .text s, _, .text _ => .text s
  | .array _, _, .array h => .array h.symm
  | .object _, _, .object h => .object h.symm

theorem SameItems.symm : ∀ {js ks : List Json}, SameItems js ks → SameItems ks js
  | [], _, .nil => .nil
  | _ :: _, _, .cons h hrest => .cons h.symm hrest.symm

theorem SameEntries.symm : ∀ {as bs : List (String × Json)}, SameEntries as bs → SameEntries bs as
  | [], _, .nil => .nil
  | _ :: _, _, .cons h hrest => .insert h.symm hrest.symm

end

mutual

theorem Same.trans : ∀ {j k l : Json}, Same j k → Same k l → Same j l
  | .null, _, _, .null, h => h
  | .bool _, _, _, .bool _, h => h
  | .number _, _, _, .number _, h => h
  | .text _, _, _, .text _, h => h
  | .array _, _, _, .array h, .array h' => .array (h.trans h')
  | .object _, _, _, .object h, .object h' => .object (h.trans h')

theorem SameItems.trans : ∀ {js ks ls : List Json},
    SameItems js ks → SameItems ks ls → SameItems js ls
  | [], _, _, .nil, h => h
  | _ :: _, _, _, .cons h hrest, .cons h' hrest' => .cons (h.trans h') (hrest.trans hrest')

theorem SameEntries.trans : ∀ {as bs cs : List (String × Json)},
    SameEntries as bs → SameEntries bs cs → SameEntries as cs
  | [], _, _, .nil, h => h
  | _ :: _, _, _, .cons h hrest, h' => by
      obtain ⟨l, front, back, rfl, hl, hothers⟩ := h'.remove
      exact .cons (h.trans hl) (hrest.trans hothers)

end

/-! ## Texts -/

lemma entriesHaveWords_middle {key : String} {j : Json} {before after : List (String × Json)} :
    EntriesHaveWords (before ++ (key, j) :: after)
      ↔ j.HasWords ∧ EntriesHaveWords (before ++ after) := by
  induction before with
  | nil => rfl
  | cons a before ih =>
      show a.2.HasWords ∧ EntriesHaveWords (before ++ (key, j) :: after)
        ↔ j.HasWords ∧ a.2.HasWords ∧ EntriesHaveWords (before ++ after)
      rw [ih]
      exact and_left_comm

mutual

/-- Whether the numbers of a value are words does not depend on the order of its entries. -/
theorem Same.hasWords : ∀ {j k : Json}, Same j k → k.HasWords → j.HasWords
  | .null, _, .null, h => h
  | .bool _, _, .bool _, h => h
  | .number _, _, .number _, h => h
  | .text _, _, .text _, h => h
  | .array _, _, .array hsame, h => hsame.haveWords h
  | .object _, _, .object hsame, h => hsame.haveWords h

theorem SameItems.haveWords : ∀ {js ks : List Json},
    SameItems js ks → ItemsHaveWords ks → ItemsHaveWords js
  | [], _, .nil, h => h
  | _ :: _, _, .cons hsame hrest, h => ⟨hsame.hasWords h.1, hrest.haveWords h.2⟩

theorem SameEntries.haveWords : ∀ {as bs : List (String × Json)},
    SameEntries as bs → EntriesHaveWords bs → EntriesHaveWords as
  | [], _, .nil, h => h
  | _ :: _, _, .cons hsame hrest, h =>
    ⟨hsame.hasWords (entriesHaveWords_middle.1 h).1,
      hrest.haveWords (entriesHaveWords_middle.1 h).2⟩

end

mutual

/-- Nor does it matter for the depth of a value. -/
theorem Same.depth_eq : ∀ {j k : Json}, Same j k → j.depth = k.depth
  | .null, _, .null => rfl
  | .bool _, _, .bool _ => rfl
  | .number _, _, .number _ => rfl
  | .text _, _, .text _ => rfl
  | .array _, _, .array h => congrArg (· + 1) h.depth_eq
  | .object _, _, .object h => congrArg (· + 1) h.depth_eq

theorem SameItems.depth_eq : ∀ {js ks : List Json},
    SameItems js ks → depthOfItems js = depthOfItems ks
  | [], _, .nil => rfl
  | _ :: _, _, .cons h hrest => by rw [depthOfItems, depthOfItems, h.depth_eq, hrest.depth_eq]

theorem SameEntries.depth_eq : ∀ {as bs : List (String × Json)},
    SameEntries as bs → depthOfEntries as = depthOfEntries bs
  | [], _, .nil => rfl
  | _ :: _, _, .cons h hrest => by
      rw [depthOfEntries, h.depth_eq, hrest.depth_eq, depthOfEntries_append, depthOfEntries_append,
        depthOfEntries, Nat.max_left_comm]

end

/-- **In whatever order a value is printed, it is read back**, if its numbers are words and it does
not nest too deep. -/
theorem Same.ofText_print {j k : Json} (h : Same j k) (hw : k.HasWords)
    (hd : k.depth < depthLimit) : ofText j.print = .ok j := by
  refine Json.ofText_print (h.hasWords hw) ?_
  rwa [h.depth_eq]

end ClusterBroker.Json
