import ClusterBroker.Proofs.Text.Digits
import ClusterBroker.Text.Quoted
import Mathlib.Data.List.Forall2

/-!
# Texts that can be told apart

The parts of a longer text can be found again if it is clear where each of them ends.

**Ends.**  Two texts are `Apart` if they are the same as soon as something can follow them that makes
the same text of both.  This is so for texts that start differently, and for what is put together from
texts that are apart.

**Telling.**  What is shown of a value `Tells` something about it if that is all that the shown text
depends on, and can be found from it whatever follows.  Quoted text tells what was quoted
(`tells_quoted`).  **`tells_record`**: a record tells what its fields tell.
-/

namespace ClusterBroker.Text

/-! ## Ends -/

/-- The texts are the same if they can be continued to the same text. -/
def Apart (x y : String) : Prop :=
  ∀ s t : String, x ++ s = y ++ t → x = y

/-- Texts that start differently cannot be continued to the same text. -/
lemma append_ne_append {x y : String} {a b : Char} (hx : x.toList.head? = some a)
    (hy : y.toList.head? = some b) (h : a ≠ b) (s t : String) : x ++ s ≠ y ++ t := by
  intro heq
  have hfirst := congrArg (fun text => text.toList.head?) heq
  simp only [String.toList_append, List.head?_append, hx, hy, Option.some_or, Option.some.injEq]
    at hfirst
  exact h hfirst

namespace Apart

lemma refl (x : String) : Apart x x :=
  fun _ _ _ => rfl

variable {x y u v : String}

/-- What follows is then the same too. -/
lemma append_eq_iff (h : Apart x y) : x ++ u = y ++ v ↔ x = y ∧ u = v := by
  constructor
  · intro heq
    obtain rfl := h u v heq
    exact ⟨rfl, String.append_right_inj x |>.1 heq⟩
  · rintro ⟨rfl, rfl⟩
    rfl

lemma append (h : Apart x y) (h' : Apart u v) : Apart (x ++ u) (y ++ v) := by
  intro s t heq
  rw [String.append_assoc, String.append_assoc] at heq
  obtain ⟨rfl, hrest⟩ := h.append_eq_iff.1 heq
  rw [h' s t hrest]

end Apart

/-! ## Telling -/

section Tells

variable {α β : Type} {shown : α → String} {key : α → β}

/-- What is shown of a value depends on some part of the value, and tells that part whatever follows. -/
structure Tells (shown : α → String) (key : α → β) : Prop where
  shown_eq {a b : α} : key a = key b → shown a = shown b
  key_eq {a b : α} {s t : String} : shown a ++ s = shown b ++ t → key a = key b

namespace Tells

lemma apart (h : Tells shown key) (a b : α) : Apart (shown a) (shown b) :=
  fun _ _ heq => h.shown_eq (h.key_eq heq)

/-- What is shown of two values is the same exactly if the part that it tells is the same. -/
lemma eq_iff (h : Tells shown key) {a b : α} : shown a = shown b ↔ key a = key b :=
  ⟨fun heq => h.key_eq (congrArg (fun text => text ++ "") heq), h.shown_eq⟩

lemma of_apart (happart : ∀ a b, Apart (shown a) (shown b))
    (hkey : ∀ {a b}, shown a = shown b ↔ key a = key b) : Tells shown key where
  shown_eq := hkey.2
  key_eq heq := hkey.1 (happart _ _ _ _ heq)

/-- Text around what is shown makes no difference. -/
lemma between (h : Tells shown key) (before after : String) :
    Tells (fun a => before ++ shown a ++ after) key := by
  refine .of_apart (fun a b => ((Apart.refl before).append (h.apart a b)).append (.refl after)) ?_
  intro a b
  rw [String.append_left_inj, String.append_right_inj, h.eq_iff]

/-- Words that all start differently tell everything. -/
lemma of_first {word : α → String} (hne : ∀ a, word a ≠ "")
    (hfirst : ∀ a b, (word a).toList.head? = (word b).toList.head? → a = b) : Tells word id where
  shown_eq := congrArg word
  key_eq {a b s t} heq := by
    have hstart (c : α) : ∃ first, (word c).toList.head? = some first :=
      Option.isSome_iff_exists.1 (by simpa using hne c)
    obtain ⟨first, ha⟩ := hstart a
    obtain ⟨first', hb⟩ := hstart b
    by_contra hab
    refine append_ne_append ha hb (fun h => hab (hfirst a b ?_)) s t heq
    rw [ha, hb, h]

end Tells

end Tells

/-! ## Quoted text -/

lemma eq_of_shortEscape? {c d e : Char} (hc : shortEscape? c = some e)
    (hd : shortEscape? d = some e) : c = d := by
  unfold shortEscape? at hc hd
  grind

lemma ne_u_of_shortEscape? {c e : Char} (h : shortEscape? c = some e) : e ≠ 'u' := by
  unfold shortEscape? at h
  grind

lemma plain_of_shortEscape? {c : Char} (h : shortEscape? c = none) : c ≠ '"' ∧ c ≠ '\\' := by
  unfold shortEscape? at h
  grind

/-- What stands for a character in quoted text. -/
inductive Stands (c : Char) : List Char → Prop where
  | short {e : Char} : shortEscape? c = some e → Stands c ['\\', e]
  | number : Stands c ('\\' :: 'u' :: '\x7b' :: (hex c.toNat ++ ['\x7d']))
  | plain : c ≠ '"' → c ≠ '\\' → Stands c [c]

lemma stands_quotedChar (c : Char) : Stands c (quotedChar c) := by
  rw [quotedChar]
  split
  · next e he => exact .short he
  · next hnone =>
      obtain ⟨hquote, hbackslash⟩ := plain_of_shortEscape? hnone
      split
      · exact .number
      · exact .plain hquote hbackslash

/-- A character that is in neither of two texts shows where they end. -/
lemma eq_of_append_mark {mark : Char} {xs ys s t : List Char} (hxs : mark ∉ xs) (hys : mark ∉ ys)
    (h : xs ++ mark :: s = ys ++ mark :: t) : xs = ys ∧ s = t := by
  induction xs generalizing ys with
  | nil =>
      cases ys with
      | nil => exact ⟨rfl, (List.cons.inj h).2⟩
      | cons y ys => exact absurd ((List.cons.inj h).1 ▸ List.mem_cons_self) hys
  | cons x xs ih =>
      cases ys with
      | nil => exact absurd ((List.cons.inj h).1 ▸ List.mem_cons_self) hxs
      | cons y ys =>
          obtain ⟨rfl, hrest⟩ := List.cons.inj h
          obtain ⟨rfl, hst⟩ := ih (List.not_mem_of_not_mem_cons hxs)
            (List.not_mem_of_not_mem_cons hys) hrest
          exact ⟨rfl, hst⟩

lemma brace_not_mem_hex (n : Nat) : '\x7d' ∉ hex n := by
  intro h
  exact absurd (mem_of_mem_hexDigits h) (by decide)

/-- A character is told by what stands for it, whatever follows. -/
lemma Stands.eq {c d : Char} {cs ds s t : List Char} (hc : Stands c cs) (hd : Stands d ds)
    (h : cs ++ s = ds ++ t) : c = d ∧ s = t := by
  cases hc with
  | short he =>
      cases hd with
      | short he' =>
          obtain ⟨rfl, hrest⟩ := List.cons.inj (List.cons.inj h).2
          exact ⟨eq_of_shortEscape? he he', hrest⟩
      | number => exact absurd (List.cons.inj (List.cons.inj h).2).1 (ne_u_of_shortEscape? he)
      | plain _ hbackslash => exact absurd (List.cons.inj h).1.symm hbackslash
  | number =>
      cases hd with
      | short he =>
          exact absurd (List.cons.inj (List.cons.inj h).2).1.symm (ne_u_of_shortEscape? he)
      | number =>
          simp only [List.cons_append, List.cons.injEq, true_and, List.append_assoc,
            List.nil_append] at h
          obtain ⟨hhex, hrest⟩ :=
            eq_of_append_mark (brace_not_mem_hex _) (brace_not_mem_hex _) h
          exact ⟨Char.toNat_inj.1 (hex_injective hhex), hrest⟩
      | plain _ hbackslash => exact absurd (List.cons.inj h).1.symm hbackslash
  | plain _ hbackslash =>
      cases hd with
      | short he => exact absurd (List.cons.inj h).1 hbackslash
      | number => exact absurd (List.cons.inj h).1 hbackslash
      | plain => exact List.cons.inj h

/-- What stands for a character does not look like the end of the text. -/
lemma Stands.ne_quote {c : Char} {cs s t : List Char} (h : Stands c cs) : cs ++ s ≠ '"' :: t := by
  cases h with
  | short | number => simp
  | plain hquote => exact fun heq => hquote (List.cons.inj heq).1

lemma quotedChars_eq : ∀ {cs ds s t : List Char},
    cs.flatMap quotedChar ++ '"' :: s = ds.flatMap quotedChar ++ '"' :: t → cs = ds
  | [], [], _, _, _ => rfl
  | [], d :: ds, s, t, h => by
      rw [List.flatMap_cons, List.append_assoc] at h
      exact absurd h.symm (stands_quotedChar d).ne_quote
  | c :: cs, [], s, t, h => by
      rw [List.flatMap_cons, List.append_assoc] at h
      exact absurd h (stands_quotedChar c).ne_quote
  | c :: cs, d :: ds, s, t, h => by
      rw [List.flatMap_cons, List.append_assoc, List.flatMap_cons, List.append_assoc] at h
      obtain ⟨rfl, hrest⟩ := (stands_quotedChar c).eq (stands_quotedChar d) h
      rw [quotedChars_eq hrest]

/-- **Quoted text tells what was quoted.** -/
theorem tells_quoted : Tells quoted id where
  shown_eq := congrArg quoted
  key_eq h := by
    have hlist := congrArg String.toList h
    simp only [quoted, String.toList_append, String.toList_ofList, List.cons_append,
      List.append_assoc, List.cons.injEq, true_and, List.nil_append] at hlist
    exact String.toList_inj.1 (quotedChars_eq hlist)

lemma quoted_inj {a b : String} : quoted a = quoted b ↔ a = b :=
  tells_quoted.eq_iff

/-! ## Larger values -/

section Larger

variable {α β : Type} {shown : α → String} {key : α → β}

lemma head?_shownOption_none : (shownOption none).toList.head? = some 'N' := rfl

lemma head?_shownOption_some (x : String) : (shownOption (some x)).toList.head? = some 'S' := by
  simp [shownOption]

/-- An optional value tells whether it is there, and then what the value tells. -/
lemma Tells.option (h : Tells shown key) :
    Tells (fun o : Option α => shownOption (o.map shown)) (Option.map key) where
  shown_eq {o p} heq := by
    cases o with
    | none =>
        obtain rfl := Option.map_eq_none_iff.1 heq.symm
        rfl
    | some a =>
        obtain ⟨b, rfl, hab⟩ := Option.map_eq_some_iff.1 heq.symm
        exact congrArg (fun x => shownOption (some x)) (h.shown_eq hab.symm)
  key_eq {o p s t} heq := by
    cases o with
    | none =>
        cases p with
        | none => rfl
        | some b =>
            exact absurd heq (append_ne_append head?_shownOption_none (head?_shownOption_some _)
              (by decide) s t)
    | some a =>
        cases p with
        | none =>
            exact absurd heq (append_ne_append (head?_shownOption_some _) head?_shownOption_none
              (by decide) s t)
        | some b => exact congrArg some ((h.between "Some(" ")").key_eq heq)

/-- The fields of two records that can be told apart: the same names, and texts that are apart. -/
abbrev FieldsApart : List (String × String) → List (String × String) → Prop :=
  List.Forall₂ fun f g => f.1 = g.1 ∧ Apart f.2 g.2

/-- The text of the fields of a record tells the fields, whatever follows. -/
lemma fields_eq {fs gs : List (String × String)} (h : FieldsApart fs gs) {s t : String}
    (heq : String.intercalate ", " (fs.map fun f => f.1 ++ ": " ++ f.2) ++ s =
      String.intercalate ", " (gs.map fun f => f.1 ++ ": " ++ f.2) ++ t) : fs = gs := by
  induction h with
  | nil => rfl
  | @cons f g fs gs hfg h ih =>
      obtain ⟨name, shown⟩ := f
      obtain ⟨name', shown'⟩ := g
      obtain ⟨rfl, happart⟩ : name = name' ∧ Apart shown shown' := hfg
      cases h with
      | nil =>
          simp only [List.map_cons, List.map_nil, String.intercalate_singleton,
            String.append_assoc, String.append_right_inj] at heq
          rw [happart s t heq]
      | cons hfg' h =>
          simp only [List.map_cons, String.intercalate_cons_cons, String.append_assoc,
            String.append_right_inj] at heq ih
          obtain ⟨rfl, hrest⟩ := happart.append_eq_iff.1 heq
          rw [ih ((String.append_right_inj ", ").1 hrest)]

/-- **A record tells what its fields tell.** -/
theorem tells_record (name : String) {fields : α → List (String × String)}
    (happart : ∀ a b, FieldsApart (fields a) (fields b))
    (hkey : ∀ {a b}, fields a = fields b ↔ key a = key b) :
    Tells (fun a => shownRecord name (fields a)) key where
  shown_eq h := congrArg (shownRecord name) (hkey.2 h)
  key_eq {a b s t} h := by
    refine hkey.1 (fields_eq (happart a b) (s := " \x7d" ++ s) (t := " \x7d" ++ t) ?_)
    simpa only [shownRecord, String.append_assoc, String.append_right_inj] using h

end Larger

end ClusterBroker.Text
