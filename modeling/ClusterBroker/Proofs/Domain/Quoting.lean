import ClusterBroker.Proofs.Domain.Extras
import ClusterBroker.Proofs.Json.Alike.Readers
import ClusterBroker.Proofs.Provider.Refusals

/-!
# What a rejection tells of private settings

Private settings that are rejected are not shown, but what is wrong with them is said.  Whether that
tells anything of them is a question about two texts: `Details.Alike` relates private settings that
are the same text but for some numbers and texts, of the same kinds and sizes.

**What is not told.**  If both are rejected, they are rejected with the same words, unless these are
about one of the scalars that differ (`Settings.rejections_agree`).  A text that stands where a text
is wanted, as a password does, is never told.

**What is told.**  A scalar that stands where something else is wanted is quoted, as is a password
that is written as a number (`Settings.numeric_password_quoted`).
-/

namespace ClusterBroker

open Json (Symbol Written Figure Fault Node Gathered Record Agree FaultsAgree SpacedAlike)

/-- Private settings that are the same text but for swapped scalars. -/
def Details.Alike (swap : Symbol → Symbol → Prop) (d d' : Details) : Prop :=
  ∃ w w' : Written, w.Alike swap w' ∧
    SpacedAlike w.symbols w'.symbols d.text.toList d'.text.toList

/-- Whatever reads private settings fails in the same way: a request that is made of them, and a
cluster that is to be made or changed with them. -/
structure Details.FailsWith (d : Details) (failure : Failure) : Prop where
  resolve : ∀ (e : Environment) (naming : Domain.Naming),
    Domain.Request.resolve e d naming = .error failure
  provision : ∀ {σ : Type} (p : Provider σ) (w : World σ) (id : String) (plan : Plan)
    (owner : String), plan.details = d →
      ((Operation.provision id plan owner).run p w).1 = .error failure
  modify : ∀ {σ : Type} (p : Provider σ) (w : World σ) (target : Instance) (plan : Plan),
    plan.details = d → ((Operation.modify target plan).run p w).1 = .error failure

namespace Domain.Settings

variable {swap : Symbol → Symbol → Prop}

/-! ## Reading -/

/-- **Settings are read from alike trees with the same unknown keys and the same faults**, but for
the swapped scalars. -/
theorem gather_alike {node node' : Node} (h : node.Alike swap node') :
    Agree swap (fun found found' => found.2 = found'.2) (gather node) (gather node') := by
  cases h with
  | same =>
      refine .refl ?_ _
      exact fun _ => rfl
  | array => exact .fault _
  | leaf start hs =>
      have hwanted : (Record.shape Settings).wanted ≠ Json.Shape.text.wanted :=
        Json.wanted_struct_ne "DomainSettings"
      exact .left _ hs.related (Symbol.blames_mismatch hs.isScalar.1 start hwanted)
  | object start finish hentries =>
      have hpast {node node' : Node} (hnode : node.Alike swap node') :
          FaultsAgree swap ((fun _ => ()) <$> node.value 1) ((fun _ => ()) <$> node'.value 1) :=
        (hnode.value 1).map fun _ => trivial
      have hgather := Json.gather_alike (Record.fields Settings).keys.contains
        (fun key _ _ values values' hnode => Json.Fields.readField_alike _ key hnode values values')
        hpast (Record.fields Settings).absent hentries finish
      exact hgather.bind fun hkeys => .ok hkeys.2

/-- **Texts that are alike leave the same notices or have the same fault**, but for the swapped
scalars. -/
theorem ofText_alike {d d' : Details} (h : d.Alike swap d') :
    Agree swap (fun found found' => found.2 = found'.2) (ofText d.text.toList)
      (ofText d'.text.toList) := by
  obtain ⟨w, w', hw, hspaced⟩ := h
  have hread := Json.readDocument_alike gather_alike hw hspaced
  refine hread.bind fun {found found'} hunknown => .ok ?_
  rw [hunknown]

/-- A fault is described in the same words where a text is alike. -/
lemma describe_alike {d d' : Details} (h : d.Alike swap d') (fault : Fault) :
    fault.describe d.text.toList = fault.describe d'.text.toList := by
  obtain ⟨w, w', hw, hspaced⟩ := h
  have hplace : Json.Place.ofOffset d.text.toList fault.offset
      = Json.Place.ofOffset d'.text.toList fault.offset :=
    hspaced.advance hw.symbols ⟨1, 0⟩ fault.offset
  rw [Fault.describe, Fault.describe, hplace]

lemma ofDetails_eq_error {d : Details} {failure : Failure} (h : ofDetails d = .error failure) :
    ∃ fault, ofText d.text.toList = .error fault ∧ failure = unreadable d.text.toList fault := by
  unfold ofDetails at h
  cases htext : ofText d.text.toList with
  | ok found =>
      rw [htext] at h
      cases h
  | error fault =>
      rw [htext] at h
      exact ⟨fault, rfl, (Except.error.inj h).symm⟩

lemma ofDetails_of_fault {d : Details} {fault : Fault} (h : ofText d.text.toList = .error fault) :
    ofDetails d = .error (unreadable d.text.toList fault) := by
  rw [ofDetails, h]
  rfl

lemma failsWith_of_ofDetails {d : Details} {failure : Failure} (h : ofDetails d = .error failure) :
    d.FailsWith failure where
  resolve e naming := by
    rw [Request.resolve, h]
    rfl
  provision p w id plan owner hplan := by
    have hunreadable : (Operation.provision id plan owner).unreadable? = some failure := by
      rw [Operation.unreadable?, hplan, h]
    exact congrArg Prod.fst (Operation.run_unreadable hunreadable p w).2
  modify p w target plan hplan := by
    have hunreadable : (Operation.modify target plan).unreadable? = some failure := by
      rw [Operation.unreadable?, hplan, h]
    exact congrArg Prod.fst (Operation.run_unreadable hunreadable p w).2

/-! ## Rejections -/

/-- Private settings are rejected for what a scalar is. -/
def Quotes (d : Details) (s : Symbol) : Prop :=
  ∃ fault, ofText d.text.toList = .error fault ∧ s.Blames fault.cause

/-- **A rejection tells nothing of the scalars that it is not about.**  Two private settings that
are the same text but for swapped scalars, and that are both rejected, are rejected with the same
words, whoever reads them, unless one of the two rejections is about a swapped scalar: that it stands
where something else is wanted, or that it has no value. -/
theorem rejections_agree {d d' : Details} (h : d.Alike swap d') {failure failure' : Failure}
    (hrejected : ofDetails d = .error failure) (hrejected' : ofDetails d' = .error failure') :
    (failure = failure' ∨ ∃ s s', swap s s' ∧ (Quotes d s ∨ Quotes d' s')) ∧
      d.FailsWith failure ∧ d'.FailsWith failure' := by
  refine ⟨?_, failsWith_of_ofDetails hrejected, failsWith_of_ofDetails hrejected'⟩
  obtain ⟨fault, htext, rfl⟩ := ofDetails_eq_error hrejected
  obtain ⟨fault', htext', rfl⟩ := ofDetails_eq_error hrejected'
  have hagree := ofText_alike h
  rw [htext, htext'] at hagree
  cases hagree with
  | fault => exact .inl (by rw [unreadable, unreadable, describe_alike h])
  | left _ hs hblames => exact .inr ⟨_, _, hs, .inl ⟨fault, htext, hblames⟩⟩
  | right _ hs hblames => exact .inr ⟨_, _, hs, .inr ⟨fault', htext', hblames⟩⟩

/-! ## Two passwords -/

lemma alike_writtenDetails {w w' : Written} (h : w.Alike swap w') :
    (writtenDetails w).Alike swap (writtenDetails w') := by
  refine ⟨w, w', h, ?_⟩
  rw [writtenDetails, writtenDetails, String.toList_ofList, String.toList_ofList]
  exact h.symbols.spaced

/-- Settings with the password of a master user, and some more. -/
def passwordSettings (password : Written) (more : List (List Json.Glyph × Written)) : Written :=
  .object
    ((plainGlyphs "AdvancedSecurityOptions" rfl,
      .object [(plainGlyphs "MasterUserOptions" rfl,
        .object [(plainGlyphs "MasterUserPassword" rfl, password)])]) :: more)

lemma alike_passwordSettings {password password' : Written} (h : password.Alike swap password')
    (more : List (List Json.Glyph × Written)) :
    (passwordSettings password more).Alike swap (passwordSettings password' more) := by
  have hmore : Written.EntriesAlike swap more more := by
    induction more with
    | nil => exact .nil
    | cons e more ih => exact .cons e.1 (.same e.2) ih
  exact .object (.cons _ (.object (.cons _ (.object (.cons _ h .nil)) .nil)) hmore)

/-- A password, and a flag where options belong. -/
def flaggedPassword (password : String) (h : password.toList.all isPlain = true) : Details :=
  writtenDetails (passwordSettings (.text (plainGlyphs password h))
    [(plainGlyphs "CognitoOptions" rfl, .bool true)])

/-- The flag is reported without the password before it. -/
theorem flagged_password_not_told :
    (flaggedPassword "hunter22" rfl).Alike (fun _ _ => True) (flaggedPassword "opensesa" rfl) ∧
      ∃ failure, ofDetails (flaggedPassword "hunter22" rfl) = .error failure ∧
        ofDetails (flaggedPassword "opensesa" rfl) = .error failure ∧
        (flaggedPassword "hunter22" rfl).FailsWith failure ∧
        (flaggedPassword "opensesa" rfl).FailsWith failure := by
  have halike : (flaggedPassword "hunter22" rfl).Alike (fun _ _ => True)
      (flaggedPassword "opensesa" rfl) :=
    alike_writtenDetails (alike_passwordSettings (.text (.text trivial (by decide))) _)
  have hfault : ofText (flaggedPassword "hunter22" rfl).text.toList
      = .error ⟨.mismatch (.bool true) "struct CognitoOptions", 104⟩ := by decide +kernel
  have hfault' : ofText (flaggedPassword "opensesa" rfl).text.toList
      = .error ⟨.mismatch (.bool true) "struct CognitoOptions", 104⟩ := by decide +kernel
  have hrejected := ofDetails_of_fault hfault
  have hrejected' := ofDetails_of_fault hfault'
  obtain ⟨hsame | ⟨s, s', -, hquotes⟩, hfails, hfails'⟩ :=
    rejections_agree halike hrejected hrejected'
  · rw [← hsame] at hrejected' hfails'
    exact ⟨halike, _, hrejected, hrejected', hfails, hfails'⟩
  · -- no scalar is blamed for a flag
    rcases hquotes with ⟨fault, htext, hblames⟩ | ⟨fault, htext, hblames⟩
    · cases hfault.symm.trans htext
      cases hblames
    · cases hfault'.symm.trans htext
      cases hblames

lemma no_digits : ∀ c ∈ ([] : List Char), c.isDigit = true := by simp

/-- A number without sign, fraction or exponent as it is written. -/
def plainFigure (digits : String)
    (h : digits.toList ≠ [] ∧ digits.toList.head? ≠ some '0' ∧
      digits.toList.all Char.isDigit = true) : Figure where
  negative := false
  whole := digits.toList
  fraction := []
  exponent := none
  wholeIsDigits := ⟨h.1, List.all_eq_true.1 h.2.2⟩
  noLeadingZero := fun hzero => absurd hzero h.2.1
  fractionIsDigits := no_digits

/-- **A password that is written as a number is quoted.**  The two rejections differ in it. -/
theorem numeric_password_quoted :
    let d := writtenDetails (passwordSettings (.number (plainFigure "12345678" (by decide))) [])
    let d' := writtenDetails (passwordSettings (.number (plainFigure "87654321" (by decide))) [])
    d.Alike (fun _ _ => True) d' ∧
      ofDetails d = .error (.configuration ("Unable to parse plan settings: " ++
        "invalid type: integer `12345678`, expected a string at line 1 column 78")) ∧
      ofDetails d' = .error (.configuration ("Unable to parse plan settings: " ++
        "invalid type: integer `87654321`, expected a string at line 1 column 78")) := by
  refine ⟨?_, by decide +kernel, by decide +kernel⟩
  exact alike_writtenDetails (alike_passwordSettings (.number (.number trivial (by decide))) _)

end Domain.Settings

end ClusterBroker
