import ClusterBroker.Proofs.Json.Grammar

/-!
# How many bytes symbols take

A fault is placed by the bytes before it, and a line is ended by a character of its own.  No symbol
holds such a character, so to a place a symbol is nothing but the bytes it takes.

**Narrow characters.**  All characters of a number take one byte (`Figure.narrow_chars`), and so do
those of an escape (`Glyph.narrow_letter`, `Glyph.narrow_unit`).

**Places.**  `Symbol.no_newline` is about every symbol, and `Place.advance_append` passes any
characters on one line.
-/

namespace ClusterBroker.Json

/-! ## Narrow characters -/

@[simp] lemma byteCount_append (cs ds : List Char) :
    byteCount (cs ++ ds) = byteCount cs + byteCount ds := by
  induction cs with
  | nil => simp [byteCount]
  | cons c cs ih => rw [List.cons_append, byteCount, ih, byteCount, Nat.add_assoc]

/-- Characters that take one byte each, none of which ends a line. -/
def Narrow (cs : List Char) : Prop :=
  ∀ c ∈ cs, c.utf8Size = 1 ∧ c ≠ '\n'

lemma Narrow.byteCount {cs : List Char} (h : Narrow cs) : byteCount cs = cs.length := by
  induction cs with
  | nil => rfl
  | cons c cs ih =>
      obtain ⟨⟨hc, -⟩, hcs⟩ := List.forall_mem_cons.1 h
      rw [Json.byteCount, hc, ih hcs, List.length_cons, Nat.add_comm]

lemma Narrow.append {cs ds : List Char} (h : Narrow cs) (h' : Narrow ds) : Narrow (cs ++ ds) :=
  List.forall_mem_append.2 ⟨h, h'⟩

lemma Narrow.cons {c : Char} {cs : List Char} (hc : c.utf8Size = 1 ∧ c ≠ '\n') (h : Narrow cs) :
    Narrow (c :: cs) :=
  List.forall_mem_cons.2 ⟨hc, h⟩

lemma Narrow.nil : Narrow [] := by simp [Narrow]

/-- Printable characters below the first of two bytes. -/
lemma narrow_of_toNat {c : Char} (hlow : 32 ≤ c.toNat) (hhigh : c.toNat < 128) :
    c.utf8Size = 1 ∧ c ≠ '\n' := by
  constructor
  · rw [Char.utf8Size_eq_one_iff, UInt32.le_iff_toNat_le]
    exact Nat.le_of_lt_succ hhigh
  · rintro rfl
    exact absurd hlow (by decide)

lemma narrow_digit {c : Char} (h : c.isDigit = true) : c.utf8Size = 1 ∧ c ≠ '\n' := by
  have hrange : 48 ≤ c.toNat ∧ c.toNat ≤ 57 := by
    simpa [Char.isDigit, UInt32.le_iff_toNat_le] using h
  exact narrow_of_toNat (by omega) (by omega)

lemma narrow_hexDigit {c : Char} {n : Nat} (h : Text.hexValue? c = some n) :
    c.utf8Size = 1 ∧ c ≠ '\n' := by
  have hrange : ∀ {low high : Char}, low ≤ c ∧ c ≤ high → 32 ≤ low.toNat → high.toNat < 128 →
      c.utf8Size = 1 ∧ c ≠ '\n' := by
    intro low high hc hlow hhigh
    have hle : low.toNat ≤ c.toNat ∧ c.toNat ≤ high.toNat := by
      simpa [Char.le_def, UInt32.le_iff_toNat_le] using hc
    exact narrow_of_toNat (by omega) (by omega)
  unfold Text.hexValue? at h
  split at h
  · exact hrange ‹_› (by decide) (by decide)
  · split at h
    · exact hrange ‹_› (by decide) (by decide)
    · split at h
      · exact hrange ‹_› (by decide) (by decide)
      · cases h

lemma narrow_escape {e c : Char} (h : unescape? e = some c) : e.utf8Size = 1 ∧ e ≠ '\n' := by
  unfold unescape? at h
  split at h
  next hsame => rcases hsame with rfl | rfl | rfl <;> decide
  next =>
    iterate 5
      split at h
      next heq => rw [heq]; decide
    cases h

lemma Glyph.narrow_letter {e c : Char} (stands : unescape? e = some c) :
    Narrow (Glyph.letter e c stands).chars :=
  .cons (by decide) (.cons (narrow_escape stands) .nil)

lemma Glyph.narrow_unit {a b c d : Char} {n : Nat} (stands : hexUnit? a b c d = some n) :
    Narrow (Glyph.unit a b c d n stands).chars := by
  obtain ⟨_, ha, h⟩ := Option.bind_eq_some_iff.1 stands
  obtain ⟨_, hb, h⟩ := Option.bind_eq_some_iff.1 h
  obtain ⟨_, hc, h⟩ := Option.bind_eq_some_iff.1 h
  obtain ⟨_, hd, -⟩ := Option.bind_eq_some_iff.1 h
  exact .cons (by decide) (.cons (by decide) (.cons (narrow_hexDigit ha)
    (.cons (narrow_hexDigit hb) (.cons (narrow_hexDigit hc) (.cons (narrow_hexDigit hd) .nil)))))

lemma narrow_signChars (negative : Bool) : Narrow (signChars negative) := by
  cases negative with
  | true => exact .cons (by decide) .nil
  | false => exact .nil

lemma narrow_digits {ds : List Char} (h : ∀ c ∈ ds, c.isDigit = true) : Narrow ds :=
  fun c hc => narrow_digit (h c hc)

lemma narrow_exponentChars (e : Option Exponent) : Narrow (exponentChars e) := by
  cases e with
  | none => exact .nil
  | some e =>
      have hmark : e.mark.utf8Size = 1 ∧ e.mark ≠ '\n' := by
        rcases e.isMark with h | h <;> rw [h] <;> decide
      have hsign : Narrow e.signChars := by
        unfold Exponent.signChars
        split
        · exact .nil
        · exact .cons (by decide) .nil
        · exact .cons (by decide) .nil
      exact .cons hmark (hsign.append (narrow_digits e.isDigits.isDigit))

/-- **A number takes as many bytes as characters.** -/
theorem Figure.narrow_chars (f : Figure) : Narrow f.chars := by
  have hfraction : Narrow (fractionChars f.fraction) := by
    unfold fractionChars
    split
    · exact .nil
    · exact .cons (by decide) (narrow_digits f.fractionIsDigits)
  exact (narrow_signChars _).append ((narrow_digits f.wholeIsDigits.isDigit).append
    (hfraction.append (narrow_exponentChars _)))

/-! ## Places -/

/-- No symbol goes on in the next line. -/
theorem Symbol.no_newline (s : Symbol) : ∀ c ∈ s.chars, c ≠ '\n' := by
  cases s with
  | number f => exact fun c hc => (f.narrow_chars c hc).2
  | text gs =>
      have hglyph : ∀ g ∈ gs, ∀ c ∈ g.chars, c ≠ '\n' := by
        intro g _
        cases g with
        | plain d proper =>
            intro c hc
            obtain rfl : c = d := by simpa [Glyph.chars] using hc
            rintro rfl
            exact absurd proper.2.2 (by decide)
        | letter e d stands => exact fun c hc => (Glyph.narrow_letter stands c hc).2
        | unit a b c d n stands => exact fun x hx => (Glyph.narrow_unit stands x hx).2
      intro c hc
      rcases List.mem_cons.1 hc with rfl | hc
      · decide
      rcases List.mem_append.1 hc with hc | hc
      · obtain ⟨g, hg, hcg⟩ := List.mem_flatMap.1 hc
        exact hglyph g hg c hcg
      · obtain rfl : c = '"' := by simpa using hc
        decide
  | bool b => cases b <;> simp [chars]
  | _ => simp [chars]

lemma Place.advance_zero (p : Place) (cs : List Char) : p.advance 0 cs = p := by
  cases cs <;> rfl

/-- On one line, a place is moved by as many bytes as there are, at most to where it is to be. -/
theorem Place.advance_append (p : Place) (offset : Nat) {cs : List Char}
    (h : ∀ c ∈ cs, c ≠ '\n') (rest : List Char) :
    p.advance offset (cs ++ rest)
      = (Place.mk p.line (p.column + min offset (byteCount cs))).advance
        (offset - byteCount cs) rest := by
  induction cs generalizing p offset with
  | nil => simp [byteCount]
  | cons c cs ih =>
      obtain ⟨hc, hcs⟩ := List.forall_mem_cons.1 h
      rw [List.cons_append, advance]
      split
      case isTrue hzero =>
        subst hzero
        simp [advance_zero]
      case isFalse hpos =>
        have hcolumn : p.column + min offset c.utf8Size
            + min (offset - c.utf8Size) (byteCount cs)
            = p.column + min offset (c.utf8Size + byteCount cs) := by omega
        rw [ih _ _ hcs, byteCount, hcolumn, Nat.sub_sub]

end ClusterBroker.Json
