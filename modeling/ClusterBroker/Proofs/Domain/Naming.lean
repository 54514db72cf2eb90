import ClusterBroker.Proofs.Provider.Refusals
import ClusterBroker.Proofs.Text.Digits

/-!
# Generated and given names

A request is made for a new domain, whose name is generated, or for one that is there, which keeps its
name.  Nothing else about the request depends on that, but for the policy, which is always about the
domain of the request itself.

**Names.**  A token is the first part of a random `Uuid`.  By `Domain.generatedName_injective` a
generated name tells its prefix and its token.

**`Domain.Request.resolve_named`** compares the two ways to make a request.
-/

namespace ClusterBroker

namespace Domain

/-! ## Names -/

/-- A universally unique identifier, as a number. -/
abbrev Uuid := BitVec 128

/-- The identifier as 32 digits without hyphens. -/
def Uuid.simple (uuid : Uuid) : List Char :=
  Text.hexDigits 32 uuid.toNat

/-- The first part of the identifier. -/
def Uuid.token (uuid : Uuid) : Token :=
  ⟨uuid.extractLsb' 96 32⟩

/-- The digits of the first part are the first eight. -/
theorem Uuid.digits_token (uuid : Uuid) :
    (Uuid.token uuid).digits = String.ofList ((Uuid.simple uuid).take 8) := by
  have htoken : (Uuid.token uuid).toNat = uuid.toNat / 16 ^ 24 := by
    have hextract : (Uuid.token uuid).toNat = (uuid.toNat >>> 96) % 2 ^ 32 :=
      BitVec.extractLsb'_toNat 96 32 uuid
    rw [hextract, Nat.shiftRight_eq_div_pow]
    have hlt := uuid.isLt
    omega
  have htake : (Uuid.simple uuid).take 8 = Text.hexDigits 8 (uuid.toNat / 16 ^ 24) := by
    rw [simple, Text.hexDigits_add 8 24]
    exact List.take_left' (Text.length_hexDigits _ _)
  rw [Token.digits, htoken, htake]

/-- **A generated name tells its prefix and its token**, also if the prefix looks like a name. -/
theorem generatedName_injective {namePrefix namePrefix' : String} {token token' : Token}
    (h : generatedName namePrefix token = generatedName namePrefix' token') :
    namePrefix = namePrefix' ∧ token = token' := by
  have hlist := congrArg String.toList h
  simp only [generatedName, String.toList_append, Token.digits, String.toList_ofList] at hlist
  obtain ⟨hfront, hdigits⟩ := List.append_inj' hlist (by simp [Text.length_hexDigits])
  have htoken : token.toNat = token'.toNat :=
    Text.hexDigits_injective token.toNat_lt token'.toNat_lt hdigits
  exact ⟨String.toList_inj.1 (List.append_inj_left' hfront rfl), UInt32.toNat_inj.1 htoken⟩

/-! ## Requests -/

/-- The requests of some settings for a new domain and for one that is there.

* `compared`: both are refused for the same reason, or both are made, with the same notices.  They are
  the same but for name and policy, and the policy of each is about its own name.
* `named`: the new name is the prefix and the digits of the token, eight lower-case ones.
* `apart`: no other prefix and no other token gives it, in whatever environment and for whatever
  settings.
* `again`: a domain that keeps that name gets that request. -/
structure Request.Named (e : Environment) (details : Details) (namePrefix : String) (token : Token)
    (name : String) : Prop where
  compared :
    (∃ reason, resolve e details (.generated namePrefix token) = .error (.configuration reason) ∧
      resolve e details (.given name) = .error (.configuration reason)) ∨
    ∃ made kept notices, resolve e details (.generated namePrefix token) = .ok (made, notices) ∧
      resolve e details (.given name) = .ok (kept, notices) ∧
      made.policy = accessPolicy e.region e.accountId made.name ∧
      kept.policy = accessPolicy e.region e.accountId kept.name ∧
      kept.name = name ∧ kept = { made with name := kept.name, policy := kept.policy }
  named : ∀ made notices, resolve e details (.generated namePrefix token) = .ok (made, notices) →
    made.name = namePrefix ++ "-u" ++ token.digits ∧ token.digits.toList.length = 8 ∧
      ∀ c ∈ token.digits.toList, c ∈ "0123456789abcdef".toList
  apart : ∀ made notices, resolve e details (.generated namePrefix token) = .ok (made, notices) →
    ∀ e' details' namePrefix' token' made' notices',
      resolve e' details' (.generated namePrefix' token') = .ok (made', notices') →
        made'.name = made.name → namePrefix' = namePrefix ∧ token' = token
  again : ∀ made notices, resolve e details (.generated namePrefix token) = .ok (made, notices) →
    resolve e details (.given made.name) = .ok (made, notices)

/-- A request that is made is made of the settings that were read. -/
lemma Request.resolve_eq_ok {e : Environment} {details : Details} {naming : Naming} {made : Request}
    {notices : List Notice} :
    resolve e details naming = .ok (made, notices) ↔
      ∃ settings, Settings.ofDetails details = .ok (settings, notices) ∧
        make e settings naming = made := by
  unfold resolve
  cases Settings.ofDetails details with
  | error failure => simp [bind, Except.bind]
  | ok parsed =>
      obtain ⟨settings, found⟩ := parsed
      show Except.ok (make e settings naming, found) = .ok (made, notices) ↔ _
      simp only [Except.ok.injEq, Prod.mk.injEq]
      constructor
      · rintro ⟨hmade, rfl⟩
        exact ⟨settings, ⟨rfl, rfl⟩, hmade⟩
      · rintro ⟨_, ⟨rfl, rfl⟩, hmade⟩
        exact ⟨hmade, rfl⟩

/-- **Generated and given names make the same requests** but for the name itself.  Two domains share a
generated name only if prefix and token are the same, the latter being the first eight digits of a
random identifier. -/
theorem Request.resolve_named (e : Environment) (details : Details) (namePrefix : String)
    (token : Token) (name : String) :
    Named e details namePrefix token name ∧
      ∀ uuid : Uuid, (Uuid.token uuid).digits = String.ofList ((Uuid.simple uuid).take 8) := by
  have hname : ∀ {e' : Environment} {details' : Details} {namePrefix' : String} {token' : Token}
      {made : Request} {notices : List Notice},
      resolve e' details' (.generated namePrefix' token') = .ok (made, notices) →
        made.name = generatedName namePrefix' token' := by
    intro e' details' namePrefix' token' made notices h
    obtain ⟨settings, -, rfl⟩ := resolve_eq_ok.1 h
    rfl
  refine ⟨⟨?compared, ?named, ?apart, ?again⟩, Uuid.digits_token⟩
  case compared =>
    cases hparse : Settings.ofDetails details with
    | error failure =>
        obtain ⟨reason, rfl⟩ := Settings.configuration_of_ofDetails hparse
        refine .inl ⟨reason, ?_, ?_⟩ <;> rw [resolve, hparse] <;> rfl
    | ok parsed =>
        obtain ⟨settings, notices⟩ := parsed
        refine .inr ⟨make e settings (.generated namePrefix token), make e settings (.given name),
          notices, resolve_eq_ok.2 ⟨settings, hparse, rfl⟩, resolve_eq_ok.2 ⟨settings, hparse, rfl⟩,
          rfl, rfl, rfl, rfl⟩
  case named =>
    intro made notices h
    rw [Token.digits, String.toList_ofList]
    exact ⟨hname h, Text.length_hexDigits _ _, fun c hc => Text.mem_of_mem_hexDigits hc⟩
  case apart =>
    intro made notices h e' details' namePrefix' token' made' notices' h' hsame
    rw [hname h, hname h'] at hsame
    exact generatedName_injective hsame
  case again =>
    intro made notices h
    obtain ⟨settings, hparse, rfl⟩ := resolve_eq_ok.1 h
    exact resolve_eq_ok.2 ⟨settings, hparse, rfl⟩

end Domain

end ClusterBroker
