import ClusterBroker.Proofs.Json.Alike.Trees

/-!
# Faults that are about a scalar

A fault may say of a scalar what it is, where something else is wanted, or that it has no value.  No
other fault depends on a scalar.

**Blame.**  `Symbol.Blames` lists the causes that are about a scalar, and `Symbol.Answers` is about
readers that look at nothing else (`Symbol.answers_read`, `Symbol.answers_value`).  A text is not
blamed where a text is wanted.

**Agreement.**  `Agree` relates the results of reading two texts that differ in some scalars: they
are the same but for faults that are about one of these, and for values.  It goes through a reader
one step at a time (`Agree.bind`).
-/

namespace ClusterBroker.Json

open Node (ItemsAlike EntriesAlike)

/-! ## Blame -/

/-- The causes that are about a scalar: that it stands where something else is wanted, and that it
has no value. -/
inductive Symbol.Blames : Symbol → Cause → Prop where
  | number {f : Figure} {n : Number} (wanted : String) : f.value? = some n →
    Blames (.number f) (.mismatch (.number n) wanted)
  | outOfRange {f : Figure} {n : Int} : f.value? = some (.whole n) →
    ¬(Int32.minValue.toInt ≤ n ∧ n ≤ Int32.maxValue.toInt) →
      Blames (.number f) (.outOfRange n Shape.whole.wanted)
  | numberOutOfRange {f : Figure} : f.value? = none → Blames (.number f) .numberOutOfRange
  | text {gs : List Glyph} {t wanted : String} : textValue? gs = some t →
    wanted ≠ Shape.text.wanted → Blames (.text gs) (.mismatch (.text t) wanted)
  | loneSurrogate {gs : List Glyph} : textValue? gs = none → Blames (.text gs) .loneSurrogate
  | halfSurrogatePair {gs : List Glyph} : textValue? gs = none →
    Blames (.text gs) .halfSurrogatePair

/-- All that is wrong is about one symbol. -/
def Symbol.Answers {α : Type} (s : Symbol) (x : Except Fault α) : Prop :=
  ∀ fault, x = .error fault → s.Blames fault.cause

section Blame

variable {α : Type}

lemma Symbol.answers_ok (s : Symbol) (a : α) : s.Answers (.ok a : Except Fault α) := by
  intro fault h
  cases h

lemma Symbol.answers_error {s : Symbol} {fault : Fault} (h : s.Blames fault.cause) :
    s.Answers (.error fault : Except Fault α) := by
  intro fault' h'
  rwa [← Except.error.inj h']

lemma Symbol.Answers.map {β : Type} {s : Symbol} {x : Except Fault α} (h : s.Answers x)
    (f : α → β) : s.Answers (f <$> x) :=
  fun fault hmap => h fault (map_eq_error hmap)

/-- The value of a number answers for itself. -/
lemma Figure.answers_value (f : Figure) (start : Nat) :
    (Symbol.number f).Answers (f.form start).value := by
  intro fault h
  have hnone := f.value_form start
  rw [h] at hnone
  rw [NumberForm.cause_of_value h]
  exact .numberOutOfRange hnone.symm

/-- The value of a text answers for itself. -/
lemma answers_decodeAt (gs : List Glyph) (offset : Nat) :
    (Symbol.text gs).Answers (String.ofList <$> decodeAt offset gs) := by
  intro fault h
  have hfault := map_eq_error h
  have hdecode := toOption_decodeAt offset gs
  rw [hfault] at hdecode
  have hnone : textValue? gs = none := by
    rw [textValue?, ← hdecode]
    rfl
  rcases cause_of_decodeAt hfault with hcause | hcause <;> rw [hcause]
  · exact .loneSurrogate hnone
  · exact .halfSurrogatePair hnone

lemma Figure.value?_eq_some {f : Figure} {start : Nat} {n : Number}
    (h : (f.form start).value = .ok n) : f.value? = some n := by
  rw [← f.value_form start, h]
  rfl

/-- A number answers for itself wherever something else is wanted. -/
lemma Figure.blames_mismatch (f : Figure) (start : Nat) (wanted : String) :
    (Symbol.number f).Blames
      ((Node.leaf ((Symbol.number f).lexeme start)).mismatch wanted).cause := by
  cases h : (f.form start).value with
  | ok n =>
      simp only [Node.mismatch, Symbol.lexeme, Symbol.token, h]
      exact .number wanted (Figure.value?_eq_some h)
  | error fault =>
      simp only [Node.mismatch, Symbol.lexeme, Symbol.token, h]
      exact f.answers_value start fault h

/-- A text answers for itself wherever something else is wanted. -/
lemma blames_text_mismatch (gs : List Glyph) (start : Nat) {wanted : String}
    (hwanted : wanted ≠ Shape.text.wanted) :
    (Symbol.text gs).Blames
      ((Node.leaf ((Symbol.text gs).lexeme start)).mismatch wanted).cause := by
  have hvalue := answers_decodeAt gs (start + 1)
  cases h : String.ofList <$> decodeAt (start + 1) gs with
  | ok t =>
      have hsome : textValue? gs = some t := by
        rw [textValue?, ← toOption_decodeAt (start + 1)]
        exact (toOption_map String.ofList _).symm.trans (congrArg Except.toOption h)
      simp only [Node.mismatch, Symbol.lexeme, Symbol.token, h]
      exact .text hsome hwanted
  | error fault =>
      simp only [Node.mismatch, Symbol.lexeme, Symbol.token, h]
      exact hvalue fault h

/-- Whether a symbol is a scalar that may be swapped. -/
def Symbol.isScalar : Symbol → Bool
  | .number _ | .text _ => true
  | _ => false

lemma Symbol.blames_mismatch {s : Symbol} (hs : s.isScalar = true) (start : Nat) {wanted : String}
    (hwanted : wanted ≠ Shape.text.wanted) :
    s.Blames ((Node.leaf (s.lexeme start)).mismatch wanted).cause := by
  cases s with
  | number f => exact f.blames_mismatch start wanted
  | text gs => exact blames_text_mismatch gs start hwanted
  | _ => cases hs

lemma wanted_struct_ne (name : String) : "struct " ++ name ≠ Shape.text.wanted := by
  intro h
  have hchars := congrArg String.toList h
  rw [String.toList_append] at hchars
  exact absurd (List.cons.inj hchars).1 (by decide)

lemma Figure.answers_readWhole (f : Figure) (start : Nat) :
    (Symbol.number f).Answers (readWhole (.leaf ((Symbol.number f).lexeme start))) := by
  have hmismatch := f.blames_mismatch start Shape.whole.wanted
  cases h : (f.form start).value with
  | error fault =>
      simp only [Symbol.lexeme, Symbol.token, h] at hmismatch ⊢
      exact Symbol.answers_error hmismatch
  | ok n =>
      cases n with
      | real negative x =>
          simp only [Symbol.lexeme, Symbol.token, h] at hmismatch ⊢
          exact Symbol.answers_error hmismatch
      | whole n =>
          simp only [Symbol.lexeme, Symbol.token, h, readWhole]
          split
          · exact Symbol.answers_ok _ _
          · exact Symbol.answers_error (.outOfRange (Figure.value?_eq_some h) ‹_›)

/-- **A scalar answers for itself under every shape.** -/
theorem Symbol.answers_read {s : Symbol} (hs : s.isScalar = true) (start : Nat) (shape : Shape) :
    s.Answers (shape.read (.leaf (s.lexeme start))) := by
  cases s with
  | number f =>
      cases shape with
      | whole => exact f.answers_readWhole start
      | _ => exact answers_error (f.blames_mismatch start _)
  | text gs =>
      cases shape with
      | flag | whole | table => exact answers_error (blames_text_mismatch gs start (by decide))
      | text => exact answers_decodeAt gs (start + 1)
      | record name fields =>
          exact answers_error (blames_text_mismatch gs start (wanted_struct_ne name))
  | _ => cases hs

/-- **A scalar answers for its value.** -/
theorem Symbol.answers_value {s : Symbol} (hs : s.isScalar = true) (start depth : Nat) :
    s.Answers ((Node.leaf (s.lexeme start)).value depth) := by
  cases s with
  | number f => exact (f.answers_value start).map Json.number
  | text gs => exact (answers_decodeAt gs (start + 1)).map Json.text
  | _ => cases hs

end Blame

/-! ## Agreement -/

/-- Results of reading two texts that agree: related values, the same fault, or one fault that is
about a swapped scalar. -/
inductive Agree (swap : Symbol → Symbol → Prop) {α : Type} (V : α → α → Prop) :
    Except Fault α → Except Fault α → Prop where
  | ok {a a' : α} : V a a' → Agree swap V (.ok a) (.ok a')
  | fault (fault : Fault) : Agree swap V (.error fault) (.error fault)
  | left {s s' : Symbol} {fault : Fault} (x' : Except Fault α) : swap s s' → s.Blames fault.cause →
    Agree swap V (.error fault) x'
  | right {s s' : Symbol} {fault : Fault} (x : Except Fault α) : swap s s' → s'.Blames fault.cause →
    Agree swap V x (.error fault)

/-- Results that agree on what is wrong, whatever the values are. -/
abbrev FaultsAgree (swap : Symbol → Symbol → Prop) {α : Type} (x x' : Except Fault α) : Prop :=
  Agree swap (fun _ _ => True) x x'

section Agree

variable {swap : Symbol → Symbol → Prop} {α β : Type} {V : α → α → Prop} {W : β → β → Prop}

lemma Agree.refl (hV : ∀ a, V a a) (x : Except Fault α) : Agree swap V x x := by
  cases x with
  | error fault => exact .fault fault
  | ok a => exact .ok (hV a)

/-- One step after another. -/
theorem Agree.bind {x x' : Except Fault α} (h : Agree swap V x x') {f f' : α → Except Fault β}
    (hf : ∀ {a a'}, V a a' → Agree swap W (f a) (f' a')) :
    Agree swap W (x >>= f) (x' >>= f') := by
  cases h with
  | ok hv => exact hf hv
  | fault fault => exact .fault fault
  | left x' hs hblames => exact .left _ hs hblames
  | right x hs hblames => exact .right _ hs hblames

lemma Agree.map {x x' : Except Fault α} (h : Agree swap V x x') {g g' : α → β}
    (hg : ∀ {a a'}, V a a' → W (g a) (g' a')) : Agree swap W (g <$> x) (g' <$> x') := by
  cases h with
  | ok hv => exact .ok (hg hv)
  | fault fault => exact .fault fault
  | left x' hs hblames => exact .left _ hs hblames
  | right x hs hblames => exact .right _ hs hblames

/-- The same step before both. -/
lemma Agree.after (x : Except Fault α) {f f' : α → Except Fault β}
    (h : ∀ a, Agree swap W (f a) (f' a)) : Agree swap W (x >>= f) (x >>= f') := by
  have hsame : Agree swap Eq x x := .refl (fun _ => rfl) x
  refine hsame.bind ?_
  rintro a _ rfl
  exact h a

/-- Readers that answer for swapped scalars agree. -/
lemma Agree.of_answers {s s' : Symbol} (hs : swap s s') {x x' : Except Fault α} (hx : s.Answers x)
    (hx' : s'.Answers x') : FaultsAgree swap x x' := by
  cases x with
  | error fault => exact .left x' hs (hx fault rfl)
  | ok a =>
      cases x' with
      | error fault => exact .right _ hs (hx' fault rfl)
      | ok a' => exact .ok trivial

end Agree

end ClusterBroker.Json
