import ClusterBroker.ControlPlane.Wire
import ClusterBroker.Proofs.ControlPlane.Encoding
import ClusterBroker.Proofs.Json.Reading

/-!
# Requests carry the settings they were made from

The settings of a plan become a request and the request becomes a body.  A body is JSON with the
field names of the service, so it could be the private settings of a plan itself.  Reading it that
way gives the settings back, and the only fields left out are those that the broker derives.

**Settings of a value.**  `Settings.ofEntries?` is what entries mean as settings, and
`Settings.gather_meaning` says that reading settings comes to that.  `Settings.ofJson?` is the case of
a JSON value.

**Bodies.**  `Carries` relates a body to settings, whatever text the body is written as.
`Settings.ofJson?_same` is about entries among which settings are written.  By `Wire.createBody_eq`
and `Wire.updateBody_eq` the two bodies of a request are such entries
(`Request.carries_bodyEntries`).
-/

namespace ClusterBroker.Domain

open Json (Record Key Node Same SameEntries valuesAt HasWords EntriesHaveWords depthOfItems
  depthOfEntries)

/-! ## Settings of a value -/

namespace Settings

lemma distinct_fields : (Record.fields Settings).distinct = true := by decide

section Meaning

variable {β : Type} (look : β → Json.Look β) (passes : β → Bool)

/-- The keys among some entries that settings do not have, in order. -/
def unknownKeys (entries : List (String × β)) : List String :=
  (entries.map (·.1)).filter fun key => !(Record.fields Settings).keys.contains key

/-- The settings that entries mean, with one notice for each key that is not known.  What stands
under such a key has to pass. -/
def ofEntries? (entries : List (String × β)) : Option (Settings × List Notice) :=
  if entries.all fun e => (Record.fields Settings).keys.contains e.1 || passes e.2 then
    ((Record.fields Settings).ofEntries? look entries).map fun values =>
      (Record.ofValues values, (unknownKeys entries).eraseDups.map noticeOf)
  else none

variable {look} {Rel : Node → β → Prop}

/-- **Gathering settings from entries gives what they stand for means**, where values of unknown keys
can be read exactly if they pass. -/
lemma gather_meaning (hlook : Json.Faithful look Rel) {entries : List (Key × Node)}
    {es : List (String × β)} (start stop : Nat)
    (h : List.Forall₂ (Json.EntryStands fun node b =>
      Rel node b ∧ (node.value 1).toOption.isSome = passes b) entries es) :
    (gather (.object start entries (.closed stop))).toOption.map
        (fun x => (x.1, x.2.eraseDups.map noticeOf))
      = ofEntries? look passes es := by
  have hskip {node : Node} {b : β} (hb : (node.value 1).toOption.isSome = passes b) :
      ((fun _ => ()) <$> node.value 1).toOption = if passes b then some () else none := by
    rw [← hb]
    cases node.value 1 <;> rfl
  have hgather := Json.gather_meaning (Json.Fields.nodup_keys distinct_fields) passes
    (fun key _ _ values hb =>
      Json.Fields.readField_meaning hlook distinct_fields hb.1 key values)
    (fun hb => hskip hb.2) ⟨(Record.fields Settings).absent, [], []⟩ h
  simp only [gather, ofEntries?]
  rw [Json.toOption_bind, Json.gather_closed, hgather, Json.Fields.resume?_absent]
  split
  · cases (Record.fields Settings).ofEntries? look es <;> rfl
  · rfl

end Meaning

/-- The settings that a JSON value means. -/
def ofJson? : Json → Option (Settings × List Notice)
  | .object entries => ofEntries? Json.look (fun _ => true) entries
  | _ => none

/-- **Reading settings from a text gives what its value means.** -/
theorem ofText_value {text : List Char} {j : Json} (h : Json.ofText text = .ok j) :
    (ofText text).toOption = ofJson? j := by
  have hroot := Json.root_value_of_ofText h
  have hgather : (gather (Json.Document.ofText text).root).toOption.map
      (fun x => (x.1, x.2.eraseDups.map noticeOf)) = ofJson? j := by
    generalize (Json.Document.ofText text).root = root at hroot
    cases Node.spells_of_value hroot with
    | object hes =>
        refine gather_meaning (fun _ => true) Json.faithful_value _ _
          ((Json.forall₂_entryValues hes).imp ?_)
        exact fun _ _ => Json.EntryStands.imp fun hj => ⟨⟨1, hj⟩, by rw [hj]; rfl⟩
    | _ => rfl
  rw [ofText, Json.toOption_bind, Json.readDocument_of_ofText h, ← hgather]
  cases gather (Json.Document.ofText text).root <;> rfl

/-- Private settings whose value means settings are read as these. -/
lemma ofDetails_of_ofJson? {details : Details} {j : Json} {result : Settings × List Notice}
    (htext : Json.ofText details.text.toList = .ok j) (hmeans : ofJson? j = some result) :
    ofDetails details = .ok result := by
  have hread := ofText_value htext
  rw [hmeans] at hread
  rw [ofDetails]
  cases hresult : ofText details.text.toList with
  | error fault =>
      rw [hresult] at hread
      cases hread
  | ok found =>
      rw [hresult] at hread
      cases hread
      rfl

/-! ## Settings among other entries -/

lemma not_mem_keys_of_derived {key : String} (h : key ∈ derivedKeys) :
    key ∉ (Record.fields Settings).keys := by
  revert key
  decide

lemma noticeOf_derived {key : String} (h : key ∈ derivedKeys) :
    noticeOf key = .derivedField key := by
  simp [noticeOf, h]

lemma eraseDups_of_nodup {l : List String} (h : l.Nodup) : l.eraseDups = l := by
  induction l with
  | nil => rfl
  | cons key rest ih =>
      obtain ⟨hkey, hrest⟩ := List.nodup_cons.1 h
      have hfilter : (rest.filter fun k => !k == key) = rest := by
        rw [List.filter_eq_self]
        intro k hk
        have hne : k ≠ key := fun e => hkey (e ▸ hk)
        simpa using hne
      rw [List.eraseDups_cons, hfilter, ih hrest]

/-- The keys that are not known among written settings are the others. -/
lemma unknownKeys_written (full : Bool) (settings : Settings) {before after : List (String × Json)}
    (h : ∀ key ∈ (before ++ after).map (·.1), key ∈ derivedKeys) :
    unknownKeys
        (before ++ (Record.fields Settings).write full (Record.toValues settings) ++ after)
      = (before ++ after).map (·.1) := by
  have hothers {l : List (String × Json)} (hl : ∀ key ∈ l.map (·.1), key ∈ derivedKeys) :
      unknownKeys l = l.map (·.1) := by
    rw [unknownKeys, List.filter_eq_self]
    intro key hkey
    simpa using not_mem_keys_of_derived (hl key hkey)
  have hown : unknownKeys ((Record.fields Settings).write full (Record.toValues settings)) = [] := by
    rw [unknownKeys, List.filter_eq_nil_iff]
    intro key hkey
    simpa using Json.Fields.mem_keys_of_write hkey
  have happend (l m : List (String × Json)) :
      unknownKeys (l ++ m) = unknownKeys l ++ unknownKeys m := by
    simp [unknownKeys]
  rw [List.map_append] at h ⊢
  rw [happend, happend, hown, hothers fun key hk => h key (List.mem_append_left _ hk),
    hothers fun key hk => h key (List.mem_append_right _ hk), List.append_nil]

/-- **Settings are read back from among entries that the broker derives**, in any order; there is
one notice for each of these entries. -/
theorem ofJson?_same {full : Bool} {settings : Settings} {before after es : List (String × Json)}
    (hderived : ∀ key ∈ (before ++ after).map (·.1), key ∈ derivedKeys)
    (hnodup : ((before ++ after).map (·.1)).Nodup)
    (h : SameEntries es
      (before ++ (Record.fields Settings).write full (Record.toValues settings) ++ after)) :
    ∃ notices, ofJson? (.object es) = some (settings, notices) ∧
      notices.Perm (((before ++ after).map (·.1)).map .derivedField) := by
  have hvalues : (Record.fields Settings).ofEntries? Json.look es = some (Record.toValues settings) := by
    refine Json.Fields.ofEntries?_same full distinct_fields h fun key hkey => ?_
    have hnone {l : List (String × Json)} (hl : ∀ k ∈ l.map (·.1), k ∈ derivedKeys) :
        valuesAt key l = [] :=
      Json.valuesAt_eq_nil fun hk => not_mem_keys_of_derived (hl key hk) hkey
    rw [List.map_append] at hderived
    rw [Json.valuesAt_append, Json.valuesAt_append,
      hnone fun k hk => hderived k (List.mem_append_left _ hk),
      hnone fun k hk => hderived k (List.mem_append_right _ hk), List.nil_append, List.append_nil]
  have hunknown : (unknownKeys es).Perm ((before ++ after).map (·.1)) := by
    rw [← unknownKeys_written full settings hderived]
    exact h.keys_perm.filter _
  refine ⟨(unknownKeys es).eraseDups.map noticeOf, ?_, ?_⟩
  · simp only [ofJson?, ofEntries?, hvalues, Bool.or_true, List.all_eq_true, implies_true, if_true,
      Option.map_some, Record.ofValues_toValues]
  · rw [eraseDups_of_nodup (hunknown.nodup_iff.2 hnodup)]
    refine (hunknown.map noticeOf).trans (.of_eq ?_)
    exact List.map_congr_left fun key hkey => noticeOf_derived (hderived key hkey)

end Settings

/-! ## Bodies -/

/-- A body carries settings: whatever its text and the order of entries in it, it is read as these
settings, and the fields left out are derived ones with the given keys. -/
structure Carries (body : Json) (settings : Settings) (derived : List String) : Prop where
  printed : Json.ofText body.render.toList = .ok body
  reread : ∀ {details : Details} {j : Json}, Json.ofText details.text.toList = .ok j →
    Same j body → ∃ notices, Settings.ofDetails details = .ok (settings, notices) ∧
      notices.Perm (derived.map .derivedField)

/-- A call becomes one request with the given path and body, on any line to a host. -/
def Posts (call : Call) (path : String) (body : Json) : Prop :=
  ∀ region (l : Wire.Line), Wire.hasHost region = true →
    (Wire.answer region call l).2.sent = l.sent ++ [⟨"POST", path, some body⟩]

lemma Posts.of_requestOf? {call : Call} {path : String} {body : Json}
    (h : Wire.requestOf? call = some ⟨"POST", path, some body⟩) : Posts call path body := by
  intro region l hhost
  have hrequest : (Wire.requestOf? call).filter (fun _ => Wire.hasHost region)
      = some ⟨"POST", path, some body⟩ := by
    simp [h, hhost]
  obtain ⟨replies, sent⟩ := l
  rw [Wire.answer, hrequest]
  cases replies <;> rfl

lemma Naming.name_ne_empty {naming : Naming} (h : naming ≠ .given "") : naming.name ≠ "" := by
  cases naming with
  | generated namePrefix token => simp [name, generatedName]
  | given name =>
      rintro rfl
      exact h rfl

namespace Request

/-- The keys that every body of a request has beside those of settings. -/
def derivedKeys (r : Request) : List String :=
  "AccessPolicies" :: if r.placement.isSome then ["VPCOptions"] else []

lemma keys_derivedEntries (r : Request) : (Wire.derivedEntries r).map (·.1) = r.derivedKeys := by
  rw [Wire.derivedEntries, derivedKeys]
  cases r.placement <;> rfl

lemma derivedEntries_haveWords (r : Request) : EntriesHaveWords (Wire.derivedEntries r) := by
  rw [Wire.derivedEntries]
  cases r.placement with
  | none => exact ⟨trivial, trivial⟩
  | some p => exact ⟨trivial, ⟨.texts p.subnets, .texts p.groups, trivial⟩, trivial⟩

lemma depth_derivedEntries_le (r : Request) : depthOfEntries (Wire.derivedEntries r) ≤ 2 := by
  rw [Wire.derivedEntries]
  cases r.placement with
  | none => exact Nat.zero_le _
  | some p =>
      show max 0 (max (max (depthOfItems (p.subnets.map .text) + 1)
        (max (depthOfItems (p.groups.map .text) + 1) 0) + 1) 0) ≤ 2
      simp [Json.depthOfItems_texts]

/-- A body of a request carries the settings in it. -/
lemma carries_bodyEntries (r : Request) (settings : Settings) (front : List (String × Json))
    (hwords : EntriesHaveWords front) (hdepth : depthOfEntries front ≤ 2)
    (hkeys : ∀ key ∈ front.map (·.1) ++ r.derivedKeys, key ∈ Settings.derivedKeys)
    (hnodup : (front.map (·.1) ++ r.derivedKeys).Nodup) :
    Carries (.object (front ++ Wire.bodyEntries r settings)) settings
      (front.map (·.1) ++ r.derivedKeys) := by
  have hall : (front ++ Wire.derivedEntries r).map (·.1) = front.map (·.1) ++ r.derivedKeys := by
    rw [List.map_append, keys_derivedEntries]
  constructor
  case printed =>
    have hshape := (Record.fields Settings).depth_write_le false (Record.toValues settings)
    have hsettings : (Record.fields Settings).depth = 2 := by decide
    have hplaced := r.depth_derivedEntries_le
    rw [Json.render, String.toList_ofList]
    refine Json.ofText_print (hwords.append ?_) ?_
    · exact ((Record.fields Settings).write_haveWords false _).append r.derivedEntries_haveWords
    · change depthOfEntries (front ++ (_ ++ Wire.derivedEntries r)) + 1 < 128
      rw [Json.depthOfEntries_append, Json.depthOfEntries_append]
      omega
  case reread =>
    intro details j htext hsame
    generalize hbody : front ++ Wire.bodyEntries r settings = entries at hsame
    cases hsame with
    | @object es _ hsame =>
        subst hbody
        rw [Wire.bodyEntries, ← List.append_assoc] at hsame
        obtain ⟨notices, hmeans, hperm⟩ := Settings.ofJson?_same (hall ▸ hkeys) (hall ▸ hnodup) hsame
        exact ⟨notices, Settings.ofDetails_of_ofJson? htext hmeans, hall ▸ hperm⟩

lemma carries_createBody (r : Request) :
    Carries (Wire.createBody r) r.settings ("DomainName" :: r.derivedKeys) := by
  rw [Wire.createBody_eq]
  refine r.carries_bodyEntries r.settings [("DomainName", .text r.name)]
    ⟨trivial, trivial⟩ (by simp [depthOfEntries, Json.depth]) ?_ ?_
  · cases h : r.placement.isSome <;> simp [derivedKeys, h, Settings.derivedKeys]
  · cases h : r.placement.isSome <;> simp [derivedKeys, h]

lemma carries_updateBody (r : Request) :
    Carries (Wire.updateBody r) { r.settings with version := none } r.derivedKeys := by
  rw [Wire.updateBody_eq]
  refine r.carries_bodyEntries { r.settings with version := none } [] trivial (Nat.zero_le _)
    ?_ ?_
  · cases h : r.placement.isSome <;> simp [derivedKeys, h, Settings.derivedKeys]
  · cases h : r.placement.isSome <;> simp [derivedKeys, h]

/-- The settings that are written to make a domain and to change it differ in the version only. -/
lemma filter_written (settings : Settings) :
    ((Record.fields Settings).write false (Record.toValues settings)).filter
        (fun entry => entry.1 ∉ ["DomainName", "ElasticsearchVersion"])
      = (Record.fields Settings).write false
        (Record.toValues { settings with version := none }) := by
  have hversion : ((Record.fields Settings).write false (Record.toValues settings)).filter
        (fun entry => entry.1 ≠ "ElasticsearchVersion")
      = (Record.fields Settings).write false
        (Record.toValues { settings with version := none }) := by
    refine @Json.Fields.filter_write_cons "ElasticsearchVersion" .text _ ?_ settings.version _
    decide
  rw [← hversion]
  refine List.filter_congr fun entry hentry => ?_
  have hname : entry.1 ≠ "DomainName" := by
    intro heq
    have hkey := Json.Fields.mem_keys_of_write (List.mem_map_of_mem (f := (·.1)) hentry)
    exact Settings.not_mem_keys_of_derived (by decide) (heq ▸ hkey)
  simp [hname]

lemma filter_derivedEntries (r : Request) :
    (Wire.derivedEntries r).filter (fun entry => entry.1 ∉ ["DomainName", "ElasticsearchVersion"])
      = Wire.derivedEntries r := by
  rw [Wire.derivedEntries]
  cases r.placement <;> rfl

/-- **What is sent for a request carries the settings of its plan.**  Under a name that is not empty
the request is posted, to make a domain and to change one.  The first body is read back as the
settings, the second as the settings without the version, which it cannot change.  Of the fields that
are left out none is unknown: they are the name in the first, the policy in both, and the placement
if there is one.  Name and version are all in which the two bodies differ. -/
theorem bodies_carry_settings (e : Environment) {details : Details} {naming : Naming}
    {settings : Settings} {notices : List Notice} (hname : naming ≠ .given "")
    (h : Settings.ofDetails details = .ok (settings, notices)) :
    ∃ r : Request, resolve e details naming = .ok (r, notices) ∧
      Posts (.create r) "/2015-01-01/es/domain" (Wire.createBody r) ∧
      Carries (Wire.createBody r) settings
        ("DomainName" :: "AccessPolicies" :: if r.placement.isSome then ["VPCOptions"] else []) ∧
      Posts (.update r) (Wire.domainPath r.name ++ "/config") (Wire.updateBody r) ∧
      Carries (Wire.updateBody r) { settings with version := none }
        ("AccessPolicies" :: if r.placement.isSome then ["VPCOptions"] else []) ∧
      ∃ created updated, Wire.createBody r = .object created ∧ Wire.updateBody r = .object updated ∧
        created.filter (fun entry => entry.1 ∉ ["DomainName", "ElasticsearchVersion"]) = updated := by
  have hcreated : Carries (Wire.createBody (make e settings naming)) settings _ :=
    settings_make e settings naming ▸ carries_createBody (make e settings naming)
  have hupdated : Carries (Wire.updateBody (make e settings naming)) { settings with version := none }
      _ := settings_make e settings naming ▸ carries_updateBody (make e settings naming)
  refine ⟨make e settings naming, ?resolved, Posts.of_requestOf? rfl, hcreated,
    Posts.of_requestOf? ?posted, hupdated, _, _, Wire.createBody_eq _, Wire.updateBody_eq _, ?same⟩
  case resolved =>
    rw [resolve, h]
    rfl
  case posted =>
    have hempty : naming.name.isEmpty = false := by simpa using Naming.name_ne_empty hname
    simp [Wire.requestOf?, make, hempty]
  case same =>
    rw [List.filter_cons_of_neg (by simp), Wire.bodyEntries, List.filter_append, filter_written]
    exact congrArg _ (filter_derivedEntries _)

end Request

/-- Private settings with a log, a group of options that is empty and an unknown field. -/
def loggedTree : Json :=
  .object
    [("SnapshotOptions", .object []),
      ("LogPublishingOptions", .object [("AUDIT_LOGS", .object [("Enabled", .bool true)])]),
      ("Color", .text "red")]

/-- The settings that these are read as. -/
def loggedSettings : Settings :=
  { Settings.empty with
    snapshots := some ⟨none⟩
    logTargets := some (.ofList [("AUDIT_LOGS", ⟨none, some true⟩)]) }

/-- In a private network, the bodies for these settings carry them. -/
theorem logged_bodies_carry :
    ∃ r, Request.resolve ⟨"eu-west-1", "123456789012", some "sg-1", ["subnet-1"]⟩
          ⟨loggedTree.render⟩ (.given "db-1") = .ok (r, [.ignoredField "Color"]) ∧
      Carries (Wire.createBody r) loggedSettings ["DomainName", "AccessPolicies", "VPCOptions"] ∧
      Carries (Wire.updateBody r) loggedSettings ["AccessPolicies", "VPCOptions"] := by
  have htext : Json.ofText loggedTree.render.toList = .ok loggedTree := by
    rw [Json.render, String.toList_ofList]
    exact Json.ofText_print (by simp [loggedTree, HasWords, EntriesHaveWords]) (by decide)
  have hread : Settings.ofDetails ⟨loggedTree.render⟩
      = .ok (loggedSettings, [.ignoredField "Color"]) :=
    Settings.ofDetails_of_ofJson? htext rfl
  have hname : Naming.given "db-1" ≠ .given "" := by decide
  obtain ⟨r, hr, -, hcreate, -, hupdate, -⟩ := Request.bodies_carry_settings
    ⟨"eu-west-1", "123456789012", some "sg-1", ["subnet-1"]⟩ hname hread
  refine ⟨r, hr, ?_⟩
  rw [Request.resolve, hread] at hr
  cases hr
  exact ⟨hcreate, hupdate⟩

end ClusterBroker.Domain
