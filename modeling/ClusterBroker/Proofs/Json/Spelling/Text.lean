import ClusterBroker.Proofs.Json.Reading
import ClusterBroker.Proofs.Json.Spelling.Size

/-!
# Texts are taken as they are spelled

The reader takes a text twice: once to find its end, and once for the characters it stands for.

**Ends.**  `skimText_glyphs` finds the end of a text that is spelled with glyphs, and
`endsText_of_skimText` finds glyphs for whatever ends.

**Characters.**  `decodeAt` is what glyphs at a byte offset are decoded as (`decodeText_glyphs`):
what they stand for, or a fault if that is nothing (`toOption_decodeAt`).
-/

namespace ClusterBroker.Json

/-! ## Texts -/

lemma ne_u_of_unescape {e c : Char} (stands : unescape? e = some c) : e ≠ 'u' := by
  rintro rfl
  cases stands

/-- A glyph is skimmed over. -/
lemma skimText_glyph (offset : Nat) (g : Glyph) (rest : List Char) :
    skimText offset (g.chars ++ rest)
      = TextEnd.after g.chars.length <$> skimText (offset + byteCount g.chars) rest := by
  cases g with
  | plain c proper =>
      obtain ⟨hquote, hslash, hlow⟩ := proper
      simp only [Glyph.chars, List.cons_append, List.nil_append]
      rw [skimText, if_neg (by omega)] <;> simp [hquote, hslash, byteCount]
  | letter e c stands =>
      rw [(Glyph.narrow_letter stands).byteCount]
      simp only [Glyph.chars, List.cons_append, List.nil_append]
      have hu := ne_u_of_unescape stands
      rw [skimText, stands]
      · rfl
      · rintro a b c d more rfl
        exact absurd rfl hu
      · exact hu
  | unit a b c d n stands =>
      rw [(Glyph.narrow_unit stands).byteCount]
      simp only [Glyph.chars, List.cons_append, List.nil_append]
      rw [skimText, stands]
      rfl

/-- **Glyphs are skimmed up to the quote after them.** -/
theorem skimText_glyphs (gs : List Glyph) (rest : List Char) (offset : Nat) :
    skimText offset (gs.flatMap Glyph.chars ++ '"' :: rest)
      = .ok ⟨(gs.flatMap Glyph.chars).length + 1,
          offset + byteCount (gs.flatMap Glyph.chars) + 1⟩ := by
  induction gs generalizing offset with
  | nil => rfl
  | cons g gs ih =>
      have hcharacters : (gs.flatMap Glyph.chars).length + 1 + g.chars.length
          = g.chars.length + (gs.flatMap Glyph.chars).length + 1 := by omega
      rw [List.flatMap_cons, List.append_assoc, skimText_glyph, ih, List.length_append,
        byteCount_append, ← hcharacters, ← Nat.add_assoc]
      rfl

/-- Characters that are glyphs and a quote, which ends the text at `e`. -/
def EndsText (cs : List Char) (e : TextEnd) : Prop :=
  ∃ (gs : List Glyph) (rest : List Char), cs = gs.flatMap Glyph.chars ++ '"' :: rest ∧
    e.characters = (gs.flatMap Glyph.chars).length + 1

lemma EndsText.cons {g : Glyph} {cs : List Char} {x : Except Fault TextEnd} {e : TextEnd}
    (h : TextEnd.after g.chars.length <$> x = .ok e)
    (hrest : ∀ {e'}, x = .ok e' → EndsText cs e') : EndsText (g.chars ++ cs) e := by
  cases x with
  | error fault => cases h
  | ok e' =>
      cases h
      obtain ⟨gs, rest, rfl, hlength⟩ := hrest rfl
      refine ⟨g :: gs, rest, by simp, ?_⟩
      simp only [TextEnd.after, List.flatMap_cons, List.length_append]
      omega

/-- **What can be skimmed is glyphs and a quote.** -/
theorem endsText_of_skimText {offset : Nat} {cs : List Char} {e : TextEnd}
    (h : skimText offset cs = .ok e) : EndsText cs e := by
  fun_induction skimText offset cs generalizing e with
  | case2 offset rest =>
      cases h
      exact ⟨[], rest, rfl, rfl⟩
  | case5 offset a b c d rest n hunit ih => exact EndsText.cons (g := .unit a b c d n hunit) h ih
  | case7 offset letter rest _ _ c hletter ih =>
      exact EndsText.cons (g := .letter letter c hletter) h ih
  | case10 offset c rest hquote hend _ _ hslash hlow ih =>
      have hbackslash : c ≠ '\\' := by
        rintro rfl
        cases rest with
        | nil => exact hend rfl rfl
        | cons d rest => exact hslash d rest rfl rfl
      exact EndsText.cons (g := .plain c ⟨hquote, hbackslash, by omega⟩) h ih
  | _ => cases h

/-- A glyph that is no unit is decoded as its character. -/
lemma decodeText_plain (offset : Nat) {c : Char} (proper : c ≠ '"' ∧ c ≠ '\\' ∧ 32 ≤ c.toNat)
    (rest : List Char) :
    decodeText offset (c :: rest) = (c :: ·) <$> decodeText (offset + c.utf8Size) rest := by
  obtain ⟨hquote, hslash, hlow⟩ := proper
  rw [decodeText, if_neg (by omega)] <;> simp [hquote, hslash]

lemma decodeText_letter (offset : Nat) {e c : Char} (stands : unescape? e = some c)
    (rest : List Char) :
    decodeText offset ('\\' :: e :: rest) = (c :: ·) <$> decodeText (offset + 2) rest := by
  have hu := ne_u_of_unescape stands
  rw [decodeText, stands]
  · rintro a b c d more rfl
    exact absurd rfl hu
  · exact hu

/-- Where a unit is spelled there is a unit. -/
lemma unit_of_chars {gs : List Glyph} {rest more : List Char} {a b c d : Char}
    (h : gs.flatMap Glyph.chars ++ '"' :: rest = '\\' :: 'u' :: a :: b :: c :: d :: more) :
    ∃ n stands gs', gs = .unit a b c d n stands :: gs' := by
  cases gs with
  | nil => simp at h
  | cons g gs =>
      cases g with
      | plain x proper => exact absurd (List.cons.inj h).1 proper.2.1
      | letter e x stands =>
          obtain rfl : e = 'u' := (List.cons.inj (List.cons.inj h).2).1
          cases stands
      | unit a' b' c' d' n stands =>
          simp only [List.flatMap_cons, Glyph.chars, List.cons_append, List.nil_append,
            List.cons.injEq, true_and] at h
          obtain ⟨rfl, rfl, rfl, rfl, -⟩ := h
          exact ⟨n, stands, gs, rfl⟩

/-- What decoding makes of glyphs at a byte offset: the characters they stand for, or where a
surrogate was seen to lack its other half. -/
def decodeAt (offset : Nat) : List Glyph → Except Fault (List Char)
  | [] => .ok []
  | .plain c _ :: rest => (c :: ·) <$> decodeAt (offset + c.utf8Size) rest
  | .letter _ c _ :: rest => (c :: ·) <$> decodeAt (offset + 2) rest
  | .unit _ _ _ _ n _ :: rest =>
    if isLowSurrogate n then .error ⟨.loneSurrogate, offset + 6⟩
    else if isHighSurrogate n then
      match rest with
      | .unit _ _ _ _ m _ :: rest' =>
        if isLowSurrogate m then (pairChar n m :: ·) <$> decodeAt (offset + 12) rest'
        else .error ⟨.loneSurrogate, offset + 12⟩
      | .letter _ _ _ :: _ => .error ⟨.halfSurrogatePair, offset + 8⟩
      | _ => .error ⟨.halfSurrogatePair, offset + 7⟩
    else (Char.ofNat n :: ·) <$> decodeAt (offset + 6) rest

/-- **Glyphs are decoded up to the quote after them.** -/
theorem decodeText_glyphs (gs : List Glyph) (rest : List Char) (offset : Nat) :
    decodeText offset (gs.flatMap Glyph.chars ++ '"' :: rest) = decodeAt offset gs := by
  fun_induction decodeAt offset gs with
  | case1 => rw [List.flatMap_nil, List.nil_append, decodeText]
  | case2 offset c proper gs ih =>
      simp only [List.flatMap_cons, Glyph.chars, List.cons_append, List.nil_append]
      rw [decodeText_plain offset proper, ih]
  | case3 offset e c stands gs ih =>
      simp only [List.flatMap_cons, Glyph.chars, List.cons_append, List.nil_append]
      rw [decodeText_letter offset stands, ih]
  | case4 offset a b c d n stands gs hlow =>
      simp only [List.flatMap_cons, Glyph.chars, List.cons_append, List.nil_append]
      rw [decodeText, stands]
      dsimp only
      rw [if_pos hlow]
  | case5 offset a b c d n stands hlow hhigh a' b' c' d' m stands' gs hm ih =>
      simp only [List.flatMap_cons, Glyph.chars, List.cons_append, List.nil_append]
      rw [decodeText, stands]
      simp only [hlow, hhigh, stands', hm, Option.filter_some, Bool.false_eq_true, if_true,
        if_false]
      rw [ih]
  | case6 offset a b c d n stands hlow hhigh a' b' c' d' m stands' gs hm =>
      simp only [List.flatMap_cons, Glyph.chars, List.cons_append, List.nil_append]
      rw [decodeText, stands]
      simp only [hlow, hhigh, stands', hm, Option.filter_some, Bool.false_eq_true, if_true,
        if_false]
      rw [pairFault, stands']
  | case7 offset a b c d n stands hlow hhigh e x stands' gs =>
      simp only [List.flatMap_cons, Glyph.chars, List.cons_append, List.nil_append]
      have hu := ne_u_of_unescape stands'
      rw [decodeText, stands]
      simp only [hlow, hhigh, Bool.false_eq_true, if_true, if_false]
      split
      next heq => exact absurd (List.cons.inj (List.cons.inj heq).2).1 hu
      next => rw [pairFault] <;> simp [hu]
  | case8 offset a b c d n stands gs hlow hhigh hunit hletter =>
      simp only [List.flatMap_cons, Glyph.chars, List.cons_append, List.nil_append]
      rw [decodeText, stands]
      simp only [hlow, hhigh, Bool.false_eq_true, if_true, if_false]
      split
      next heq =>
        obtain ⟨m, stands', gs', rfl⟩ := unit_of_chars heq
        exact absurd rfl (hunit _ _ _ _ m stands' gs')
      next =>
        cases gs with
        | nil => rw [List.flatMap_nil, List.nil_append, pairFault] <;> simp
        | cons g gs =>
            cases g with
            | plain x proper =>
                rw [List.flatMap_cons, Glyph.chars, List.singleton_append, List.cons_append,
                  pairFault] <;> simp [proper.2.1]
            | letter e x stands' => exact absurd rfl (hletter e x stands' gs)
            | unit a b c d m stands' => exact absurd rfl (hunit a b c d m stands' gs)
  | case9 offset a b c d n stands gs hlow hhigh ih =>
      simp only [List.flatMap_cons, Glyph.chars, List.cons_append, List.nil_append]
      rw [decodeText, stands]
      dsimp only
      rw [if_neg hlow, if_neg hhigh, ih]

/-- **What glyphs are decoded as is what they stand for**, if they stand for anything. -/
theorem toOption_decodeAt (offset : Nat) (gs : List Glyph) :
    (decodeAt offset gs).toOption = decode? gs := by
  fun_induction decodeAt offset gs with
  | case1 => rfl
  | case2 offset c proper gs ih =>
      rw [toOption_map, ih]
      rfl
  | case3 offset e c stands gs ih =>
      rw [toOption_map, ih]
      rfl
  | case4 offset a b c d n stands gs hlow =>
      rw [decode?.eq_def]
      simp only [hlow, if_true]
      rfl
  | case5 offset a b c d n stands hlow hhigh a' b' c' d' m stands' gs hm ih =>
      rw [decode?.eq_def, toOption_map, ih]
      simp only [hlow, hhigh, hm, Bool.false_eq_true, if_true, if_false]
      rfl
  | case6 offset a b c d n stands hlow hhigh a' b' c' d' m stands' gs hm =>
      rw [decode?.eq_def]
      simp only [hlow, hhigh, hm, Bool.false_eq_true, if_true, if_false]
      rfl
  | case7 offset a b c d n stands hlow hhigh e x stands' gs =>
      rw [decode?.eq_def]
      simp only [hlow, hhigh, Bool.false_eq_true, if_true, if_false]
      rfl
  | case8 offset a b c d n stands gs hlow hhigh hunit hletter =>
      rw [decode?, if_neg hlow, if_pos hhigh]
      · rfl
      · exact hunit
  | case9 offset a b c d n stands gs hlow hhigh ih =>
      rw [decode?.eq_def, toOption_map, ih]
      simp only [hlow, hhigh, Bool.false_eq_true, if_false]
      rfl

/-- All that can be wrong with glyphs is half a surrogate pair. -/
lemma cause_of_decodeAt {offset : Nat} {gs : List Glyph} {fault : Fault}
    (h : decodeAt offset gs = .error fault) :
    fault.cause = .loneSurrogate ∨ fault.cause = .halfSurrogatePair := by
  fun_induction decodeAt offset gs with
  | case1 => cases h
  | case2 offset c proper gs ih => exact ih (map_eq_error h)
  | case3 offset e c stands gs ih => exact ih (map_eq_error h)
  | case5 offset a b c d n stands hlow hhigh a' b' c' d' m stands' gs hm ih =>
      exact ih (map_eq_error h)
  | case9 offset a b c d n stands gs hlow hhigh ih => exact ih (map_eq_error h)
  | case4 | case6 =>
      cases h
      exact .inl rfl
  | case7 | case8 =>
      cases h
      exact .inr rfl

end ClusterBroker.Json
