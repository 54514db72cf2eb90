import ClusterBroker.Proofs.Domain.Bodies
import ClusterBroker.Proofs.Domain.Naming

/-!
# What the policy of a domain says

The policy names region, account and domain, and each of these may be any text, quotes and control
characters included.  None of them gets out of the one text of the policy that it belongs to.

**Policies.**  `openPolicy` is the policy that is meant for a resource, and `Opens` says that a text is
JSON for just this policy.  By `accessPolicy_eq_iff` two domains of an account never share a policy.

**Bodies.**  In a body the policy is a text inside of JSON, so that it is escaped once more.
`HandsOn` says that it is found there as it was.

**`Domain.accessPolicy_sealed`** puts these together.
-/

namespace ClusterBroker.Domain

open Json (Same SameItems SameEntries valuesAt Record)

/-! ## Policies -/

/-- The policy with one statement, by which everyone may do everything to a resource. -/
def openPolicy (resource : String) : Json :=
  .object
    [("Version", .text "2012-10-17"),
      ("Statement", .array
        [.object
          [("Effect", .text "Allow"), ("Principal", .object [("AWS", .text "*")]),
            ("Action", .text "es:*"), ("Resource", .text resource)]])]

/-- A text is JSON, and its value is the open policy for a resource and nothing else, but for the
order of its entries. -/
def Opens (text resource : String) : Prop :=
  ∃ j, Json.ofText text.toList = .ok j ∧ Same j (openPolicy resource)

/-- The entries of a policy are sorted by their keys. -/
lemma same_policyTree (region accountId name : String) :
    Same (policyTree region accountId name) (openPolicy (policyResource region accountId name)) := by
  have hstatement : SameEntries
      [("Action", .text "es:*"), ("Effect", .text "Allow"),
        ("Principal", .object [("AWS", .text "*")]),
        ("Resource", .text (policyResource region accountId name))]
      [("Effect", .text "Allow"), ("Principal", .object [("AWS", .text "*")]),
        ("Action", .text "es:*"), ("Resource", .text (policyResource region accountId name))] :=
    @SameEntries.cons _ _ _ _ [_, _] [_] (.text _) (SameEntries.refl _)
  have hstatements : SameItems [.object _] [.object _] := .cons (.object hstatement) .nil
  exact .object (@SameEntries.cons _ _ _ _ [_] [] (.array hstatements) (SameEntries.refl _))

lemma policyTree_readable (region accountId name : String) :
    (policyTree region accountId name).HasWords ∧
      (policyTree region accountId name).depth < Json.depthLimit := by
  simp [policyTree, Json.HasWords, Json.EntriesHaveWords, Json.ItemsHaveWords, Json.depth,
    Json.depthOfEntries, Json.depthOfItems, Json.depthLimit]

/-- The text of a policy has the value that it was printed from. -/
lemma ofText_accessPolicy (region accountId name : String) :
    Json.ofText (accessPolicy region accountId name).toList
      = .ok (policyTree region accountId name) := by
  obtain ⟨hwords, hdepth⟩ := policyTree_readable region accountId name
  rw [accessPolicy, Json.render, String.toList_ofList, Json.ofText_print hwords hdepth]

theorem opens_accessPolicy (region accountId name : String) :
    Opens (accessPolicy region accountId name) (policyResource region accountId name) :=
  ⟨_, ofText_accessPolicy region accountId name, same_policyTree region accountId name⟩

/-- **A policy tells its domain** among those of one account. -/
theorem accessPolicy_eq_iff {region accountId name name' : String} :
    accessPolicy region accountId name' = accessPolicy region accountId name ↔ name' = name := by
  rw [accessPolicy, accessPolicy,
    Json.render_inj (policyTree_readable _ _ _) (policyTree_readable _ _ _)]
  constructor
  · intro htree
    have hresource : policyResource region accountId name'
        = policyResource region accountId name := by
      simpa [policyTree] using htree
    exact (String.append_right_inj _).1 ((String.append_left_inj _).1 hresource)
  · rintro rfl
    rfl

/-! ## Bodies -/

/-- A body hands a policy on: whatever text it is sent as, and in whatever order its entries, there is
one text under the key for policies, and that is the policy. -/
structure HandsOn (body : Json) (policy : String) : Prop where
  printed : Json.ofText body.render.toList = .ok body
  found : ∀ {text : List Char} {j : Json}, Json.ofText text = .ok j → Same j body →
    ∃ entries, j = .object entries ∧ valuesAt "AccessPolicies" entries = [.text policy]

namespace Request

/-- The policy is found among the entries of a body, whatever the settings are. -/
lemma valuesAt_bodyEntries (r : Request) (settings : Settings) :
    valuesAt "AccessPolicies" (Wire.bodyEntries r settings) = [.text r.policy] := by
  have hsettings : valuesAt "AccessPolicies"
      ((Record.fields Settings).write false (Record.toValues settings)) = [] :=
    Json.valuesAt_eq_nil fun h =>
      Settings.not_mem_keys_of_derived (by decide) (Json.Fields.mem_keys_of_write h)
  have hplacement : valuesAt "AccessPolicies"
      (Wire.member "VPCOptions" (r.placement.map Wire.VpcOptions.ofPlacement)) = [] := by
    cases r.placement <;> rfl
  rw [Wire.bodyEntries, Wire.derivedEntries, Json.valuesAt_append, hsettings, List.nil_append,
    Json.valuesAt_cons, if_pos rfl, hplacement]

/-- A body with these entries, and maybe others in front, hands the policy on. -/
lemma handsOn_bodyEntries {r : Request} {settings : Settings} (front : List (String × Json))
    (hprinted : Json.ofText (Json.object (front ++ Wire.bodyEntries r settings)).render.toList
      = .ok (.object (front ++ Wire.bodyEntries r settings)))
    (hfront : valuesAt "AccessPolicies" front = []) :
    HandsOn (.object (front ++ Wire.bodyEntries r settings)) r.policy := by
  refine ⟨hprinted, fun {text j} _ hsame => ?_⟩
  have hbody : valuesAt "AccessPolicies" (front ++ Wire.bodyEntries r settings)
      = [.text r.policy] := by
    rw [Json.valuesAt_append, hfront, List.nil_append, valuesAt_bodyEntries]
  generalize front ++ Wire.bodyEntries r settings = entries at hsame hbody
  cases hsame with
  | @object es _ hentries =>
      obtain ⟨value, hvalue, htext⟩ := hentries.valuesAt_of_single hbody
      cases htext
      exact ⟨es, rfl, hvalue⟩

lemma handsOn_createBody (r : Request) : HandsOn (Wire.createBody r) r.policy := by
  have hprinted := r.carries_createBody.printed
  rw [Wire.createBody_eq] at hprinted ⊢
  exact handsOn_bodyEntries [("DomainName", .text r.name)] hprinted rfl

lemma handsOn_updateBody (r : Request) : HandsOn (Wire.updateBody r) r.policy := by
  have hprinted := r.carries_updateBody.printed
  rw [Wire.updateBody_eq] at hprinted ⊢
  exact handsOn_bodyEntries [] hprinted rfl

end Request

/-! ## Both together -/

/-- The policy of a domain in a region and an account says what it should, whatever these are called.

* `opens`: it is JSON for the open policy of everything in this domain.
* `apart`: no other domain in the account has the same policy.
* `sent`: every request for this domain hands this very policy on to the service, be it to make the
  domain or to change it.  Only a change of a domain without a name cannot be sent. -/
structure SealedPolicy (region accountId name : String) : Prop where
  opens : Opens (accessPolicy region accountId name)
    ("arn:aws:es:" ++ region ++ ":" ++ accountId ++ ":domain/" ++ name ++ "/*")
  apart : ∀ name', accessPolicy region accountId name' = accessPolicy region accountId name ↔
    name' = name
  sent : ∀ (e : Environment) (details : Details) (naming : Naming) (r : Request)
    (notices : List Notice), e.region = region → e.accountId = accountId → naming.name = name →
      Request.resolve e details naming = .ok (r, notices) →
        Posts (.create r) "/2015-01-01/es/domain" (Wire.createBody r) ∧
        HandsOn (Wire.createBody r) (accessPolicy region accountId name) ∧
        (name ≠ "" → Posts (.update r) (Wire.domainPath name ++ "/config") (Wire.updateBody r)) ∧
        HandsOn (Wire.updateBody r) (accessPolicy region accountId name)

/-- **No name gets out of a policy**, neither in its own text nor in the body that it is sent in. -/
theorem accessPolicy_sealed (region accountId name : String) :
    SealedPolicy region accountId name := by
  refine ⟨opens_accessPolicy region accountId name, fun _ => accessPolicy_eq_iff, ?_⟩
  rintro e details naming r notices rfl rfl rfl h
  obtain ⟨settings, -, rfl⟩ := Request.resolve_eq_ok.1 h
  refine ⟨Posts.of_requestOf? rfl, Request.handsOn_createBody _, fun hname => ?_,
    Request.handsOn_updateBody _⟩
  exact Posts.of_requestOf? (by simp [Wire.requestOf?, Request.make, hname])

/-- A name that ends the text it stands in and begins another statement. -/
def forgedName : String := "db-1/*\"\x7d,\x7b\"Action\":\"*"

/-- A domain of that name can be changed, and its policy is still about this domain only. -/
theorem forged_name_handed_on :
    ∃ r, Request.resolve (.bare "eu-west-1" "123456789012") ⟨(Json.object []).render⟩
        (.given forgedName) = .ok (r, []) ∧
      HandsOn (Wire.updateBody r) r.policy ∧
      Opens r.policy ("arn:aws:es:eu-west-1:123456789012:domain/" ++ forgedName ++ "/*") := by
  have htext : Json.ofText (Json.object []).render.toList = .ok (.object []) := by
    rw [Json.render, String.toList_ofList]
    exact Json.ofText_print trivial (by decide)
  have hread : Settings.ofDetails ⟨(Json.object []).render⟩ = .ok (.empty, []) :=
    Settings.ofDetails_of_ofJson? htext rfl
  have hresolve {e : Environment} {naming : Naming} :
      Request.resolve e ⟨(Json.object []).render⟩ naming = .ok (.make e .empty naming, []) :=
    Request.resolve_eq_ok.2 ⟨_, hread, rfl⟩
  obtain ⟨hopens, -, hsent⟩ := accessPolicy_sealed "eu-west-1" "123456789012" forgedName
  obtain ⟨-, -, -, hupdate⟩ := hsent (.bare "eu-west-1" "123456789012") _ (.given forgedName) _ _
    rfl rfl rfl hresolve
  exact ⟨_, hresolve, hupdate, hopens⟩

end ClusterBroker.Domain
