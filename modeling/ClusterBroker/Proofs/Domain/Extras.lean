import ClusterBroker.Proofs.Domain.Blob
import ClusterBroker.Proofs.Provider.Redaction

/-!
# Private settings cannot override what is derived

The object that private settings are written as may have entries that are no settings: name, policy
and placement, which the broker derives itself, and anything else.  They are left out, each of their
keys is reported once, and nothing depends on what stands under them.

**Own entries.**  `Settings.ownEntries` are the entries that settings are read from, and
`Settings.ofEntries?_eq_some` says that the others only have to keep to the limits.

**Reports.**  `Settings.leftOut` is what is logged about a key that is not known, and
`Settings.Reports` that it is logged once for each such key and nothing else is.

**Whole texts.**  `Details.Writes` relates private settings to the entries that they are written
with; whatever is accepted is written with some (`Settings.writes_of_ofDetails`).
**`Request.resolve_ignores_extras`** compares two such texts that differ in entries which are no
settings.
-/

namespace ClusterBroker

open Json (Record Glyph Written valuesAt)

/-- Private settings are written as an object with these entries, whose keys have values. -/
def Details.Writes (details : Details) (named : List (String × Written)) : Prop :=
  ∃ entries : List (List Glyph × Written),
    (Written.object entries).SpelledBy details.text.toList ∧ Written.named? entries = some named

namespace Json

variable {β : Type} {look : β → Look β}

/-- A record means the same wherever the same stands under its keys. -/
lemma Fields.ofEntries?_congr {fields : Fields} {entries entries' : List (String × β)}
    (h : ∀ key ∈ fields.keys, valuesAt key entries' = valuesAt key entries) :
    fields.ofEntries? look entries' = fields.ofEntries? look entries := by
  rw [← resume?_absent, ← resume?_absent]
  exact resume?_congr (fun _ _ => Iff.rfl) h

end Json

namespace Domain

namespace Settings

/-! ## Own entries -/

section Entries

variable {β : Type}

/-- The entries whose keys are those of settings. -/
def ownEntries (entries : List (String × β)) : List (String × β) :=
  entries.filter fun e => e.1 ∈ (Record.fields Settings).keys

/-- The fields of settings are found among their own entries. -/
lemma valuesAt_ownEntries {key : String} (h : key ∈ (Record.fields Settings).keys)
    (entries : List (String × β)) : valuesAt key (ownEntries entries) = valuesAt key entries := by
  induction entries with
  | nil => rfl
  | cons e rest ih =>
      by_cases hkey : e.1 = key
      · have hown : e.1 ∈ (Record.fields Settings).keys := hkey ▸ h
        simp only [ownEntries, List.filter_cons, hown, decide_true, if_true]
        rw [Json.valuesAt_cons, Json.valuesAt_cons, if_pos hkey, if_pos hkey]
        exact congrArg _ ih
      · rw [Json.valuesAt_cons, if_neg hkey, ← ih, ownEntries, List.filter_cons]
        split
        · rw [Json.valuesAt_cons, if_neg hkey]
          rfl
        · rfl

variable {look : β → Json.Look β} {passes : β → Bool}

/-- **Settings are what the own entries mean**; the other entries only have to pass, and leave
notices. -/
theorem ofEntries?_eq_some {entries : List (String × β)} {settings : Settings}
    {notices : List Notice} :
    ofEntries? look passes entries = some (settings, notices) ↔
      (∀ e ∈ entries, e.1 ∉ (Record.fields Settings).keys → passes e.2 = true) ∧
      ((Record.fields Settings).ofEntries? look (ownEntries entries)).map Record.ofValues
        = some settings ∧
      notices = (unknownKeys entries).eraseDups.map noticeOf := by
  have hown : (Record.fields Settings).ofEntries? look (ownEntries entries)
      = (Record.fields Settings).ofEntries? look entries := by
    refine Json.Fields.ofEntries?_congr fun key hkey => ?_
    exact valuesAt_ownEntries hkey entries
  have hpass : (entries.all fun e => (Record.fields Settings).keys.contains e.1 || passes e.2) = true
      ↔ ∀ e ∈ entries, e.1 ∉ (Record.fields Settings).keys → passes e.2 = true := by
    simp [Classical.or_iff_not_imp_left]
  rw [hown, ofEntries?]
  split
  case isTrue hall =>
    constructor
    · intro h
      obtain ⟨values, hvalues, hpair⟩ := Option.map_eq_some_iff.1 h
      obtain ⟨hsettings, hnotices⟩ := Prod.mk.inj hpair
      exact ⟨hpass.1 hall, by rw [hvalues, Option.map_some, hsettings], hnotices.symm⟩
    · rintro ⟨-, hsettings, rfl⟩
      obtain ⟨values, hvalues, rfl⟩ := Option.map_eq_some_iff.1 hsettings
      rw [hvalues]
      rfl
  case isFalse hall =>
    constructor
    · intro h
      cases h
    · rintro ⟨hothers, -⟩
      exact absurd (hpass.2 hothers) hall

end Entries

/-! ## Reports -/

/-- What is logged about a field that is left out. -/
def leftOut (key : String) : Level × String :=
  if key ∈ ["DomainName", "AccessPolicies", "VPCOptions"] then
    (.debug, "Plan field " ++ key ++ " is derived by the provider")
  else (.warn, "Plan field " ++ key ++ " is not supported and was ignored")

/-- Each key that settings do not have is reported once, and nothing else is. -/
def Reports (notices : List Notice) (keys : List String) : Prop :=
  ∃ unknown : List String, unknown.Nodup ∧
    (∀ key, key ∈ unknown ↔ key ∈ keys ∧ key ∉ (Record.fields Settings).keys) ∧
    notices.map (fun n => (n.level, n.message)) = unknown.map leftOut

lemma logged_noticeOf (key : String) :
    ((noticeOf key).level, (noticeOf key).message) = leftOut key := by
  have hkeys : derivedKeys = ["DomainName", "AccessPolicies", "VPCOptions"] := rfl
  simp only [noticeOf, leftOut, ← hkeys, List.contains_iff_mem]
  split <;> rfl

/-- Reading settings reports the keys among their entries. -/
lemma reports_unknownKeys {β : Type} (entries : List (String × β)) :
    Reports ((unknownKeys entries).eraseDups.map noticeOf) (entries.map (·.1)) := by
  refine ⟨(unknownKeys entries).eraseDups, nodup_eraseDups _, fun key => ?_, ?_⟩
  · simp [unknownKeys]
  · rw [List.map_map]
    exact List.map_congr_left fun key _ => logged_noticeOf key

/-- Where there is nothing to report there are no notices. -/
lemma Reports.eq_nil {notices : List Notice} {keys : List String} (h : Reports notices keys)
    (hown : ∀ key ∈ keys, key ∈ (Record.fields Settings).keys) : notices = [] := by
  obtain ⟨unknown, -, hmem, hlogged⟩ := h
  have hnone : unknown = [] := by
    refine List.eq_nil_iff_forall_not_mem.2 fun key hkey => ?_
    obtain ⟨hin, hout⟩ := (hmem key).1 hkey
    exact hout (hown key hin)
  rw [hnone] at hlogged
  simpa using hlogged

/-! ## Whole texts -/

/-- Private settings are read as what they are written with. -/
lemma ofDetails_written {details : Details} {named : List (String × Written)}
    (h : details.Writes named) (settings : Settings) (notices : List Notice) :
    ofDetails details = .ok (settings, notices) ↔
      ofEntries? Written.look (fun w => (w.value? 1).isSome) named = some (settings, notices) := by
  obtain ⟨entries, hspelled, hnamed⟩ := h
  have hmeans : ofWritten? (.object entries)
      = ofEntries? Written.look (fun w => (w.value? 1).isSome) named := by
    rw [ofWritten?, hnamed]
    rfl
  rw [← hmeans, ← toOption_ofDetails hspelled]
  constructor
  · intro h
    rw [h]
    rfl
  · exact Json.toOption_eq_some

end Settings

namespace Request

/-- **Entries that are no settings change nothing**, in whatever number, order and place they are
written and whatever stands under them.  `details` are accepted, and `details'` are written with the
same entries as far as these are settings; the other entries only have to keep to the limits.  Then
both are read as the same settings and become the same request, whatever the environment and the
name.  So do the settings alone, without anything else.  Each key that is not known is reported
once, and no key of settings is. -/
theorem resolve_ignores_extras (e : Environment) (naming : Naming) {details details' : Details}
    {named named' : List (String × Written)} (hwrites : details.Writes named)
    (hwrites' : details'.Writes named')
    (hown : Settings.ownEntries named' = Settings.ownEntries named)
    (hlimits : ∀ entry ∈ named', entry.1 ∉ (Record.fields Settings).keys →
      (entry.2.value? 1).isSome = true)
    {settings : Settings} {notices : List Notice}
    (haccepted : Settings.ofDetails details = .ok (settings, notices)) :
    ∃ r notices', resolve e details naming = .ok (r, notices) ∧
      resolve e details' naming = .ok (r, notices') ∧
      Settings.ofDetails details' = .ok (settings, notices') ∧
      (∀ plain : Details, plain.Writes (Settings.ownEntries named) →
        Settings.ofDetails plain = .ok (settings, []) ∧ resolve e plain naming = .ok (r, [])) ∧
      Settings.Reports notices (named.map (·.1)) ∧
      Settings.Reports notices' (named'.map (·.1)) := by
  have hmeans := (Settings.ofDetails_written hwrites settings notices).1 haccepted
  obtain ⟨-, hsettings, hnotices⟩ := Settings.ofEntries?_eq_some.1 hmeans
  have haccepted' : Settings.ofDetails details'
      = .ok (settings, (Settings.unknownKeys named').eraseDups.map Settings.noticeOf) := by
    refine (Settings.ofDetails_written hwrites' _ _).2 (Settings.ofEntries?_eq_some.2 ?_)
    exact ⟨hlimits, hown ▸ hsettings, rfl⟩
  have hplain : ∀ plain : Details, plain.Writes (Settings.ownEntries named) →
      Settings.ofDetails plain = .ok (settings, []) := by
    intro plain hwritten
    have honly : ∀ entry ∈ Settings.ownEntries named,
        entry.1 ∈ (Record.fields Settings).keys := by
      intro entry hentry
      simpa using (List.mem_filter.1 hentry).2
    have hagain : Settings.ownEntries (Settings.ownEntries named) = Settings.ownEntries named :=
      List.filter_eq_self.2 (by simpa using honly)
    have hnone : [] = (Settings.unknownKeys (Settings.ownEntries named)).eraseDups.map
        Settings.noticeOf := by
      refine ((Settings.reports_unknownKeys _).eq_nil fun key hkey => ?_).symm
      obtain ⟨entry, hentry, rfl⟩ := List.mem_map.1 hkey
      exact honly entry hentry
    refine (Settings.ofDetails_written hwritten _ _).2 (Settings.ofEntries?_eq_some.2 ?_)
    refine ⟨fun entry hentry hout => ?_, hagain.symm ▸ hsettings, hnone⟩
    exact absurd (honly entry hentry) hout
  have hresolve : ∀ {d : Details} {ns : List Notice}, Settings.ofDetails d = .ok (settings, ns) →
      resolve e d naming = .ok (make e settings naming, ns) := by
    intro d ns hd
    rw [resolve, hd]
    rfl
  refine ⟨make e settings naming, _, hresolve haccepted, hresolve haccepted', haccepted', ?_, ?_, ?_⟩
  · intro plain hwritten
    exact ⟨hplain plain hwritten, hresolve (hplain plain hwritten)⟩
  · rw [hnotices]
    exact Settings.reports_unknownKeys named
  · exact Settings.reports_unknownKeys named'

end Request

/-! ## A plan that tries -/

/-- Whether a character stands for itself in a text. -/
def isPlain (c : Char) : Bool :=
  c ≠ '"' ∧ c ≠ '\\' ∧ 32 ≤ c.toNat

/-- A text without escapes as it is written. -/
def plainGlyphs (text : String) (h : text.toList.all isPlain = true) : List Glyph :=
  text.toList.pmap Glyph.plain fun c hc => by
    simpa [isPlain] using List.all_eq_true.1 h c hc

/-- Private settings written without blanks. -/
def writtenDetails (w : Written) : Details :=
  ⟨String.ofList (w.symbols.flatMap Json.Symbol.chars)⟩

lemma spelled_writtenDetails (w : Written) : w.SpelledBy (writtenDetails w).text.toList := by
  rw [Written.SpelledBy, writtenDetails, String.toList_ofList]
  exact Json.spaced_chars _

lemma writes_writtenDetails {entries : List (List Glyph × Written)}
    {named : List (String × Written)} (h : Written.named? entries = some named) :
    (writtenDetails (.object entries)).Writes named :=
  ⟨entries, spelled_writtenDetails _, h⟩

/-- A version, and nothing else. -/
def versionEntries : List (List Glyph × Written) :=
  [(plainGlyphs "ElasticsearchVersion" rfl, .text (plainGlyphs "7.10" rfl))]

/-- A version among two names, a policy and a colour. -/
def overridingEntries : List (List Glyph × Written) :=
  (plainGlyphs "DomainName" rfl, .text (plainGlyphs "mine" rfl)) ::
    versionEntries ++
    [(plainGlyphs "AccessPolicies" rfl, .array [.null, .object []]),
      (plainGlyphs "Color" rfl, .bool true),
      (plainGlyphs "DomainName" rfl, .null)]

/-- A plan that names a domain and its policy gets the request of the plan without them. -/
theorem named_plan_ignored :
    ∃ r notices, Request.resolve (.bare "eu-west-1" "123456789012")
        (writtenDetails (.object versionEntries)) (.generated "db" 7) = .ok (r, []) ∧
      Request.resolve (.bare "eu-west-1" "123456789012")
        (writtenDetails (.object overridingEntries)) (.generated "db" 7) = .ok (r, notices) ∧
      Settings.Reports notices
        ["DomainName", "ElasticsearchVersion", "AccessPolicies", "Color", "DomainName"] := by
  have hwrites : (writtenDetails (.object versionEntries)).Writes
      [("ElasticsearchVersion", .text (plainGlyphs "7.10" rfl))] :=
    writes_writtenDetails rfl
  have hwrites' : (writtenDetails (.object overridingEntries)).Writes
      [("DomainName", .text (plainGlyphs "mine" rfl)),
        ("ElasticsearchVersion", .text (plainGlyphs "7.10" rfl)),
        ("AccessPolicies", .array [.null, .object []]), ("Color", .bool true),
        ("DomainName", .null)] :=
    writes_writtenDetails rfl
  have haccepted : Settings.ofDetails (writtenDetails (.object versionEntries))
      = .ok ({ Settings.empty with version := some "7.10" }, []) :=
    (Settings.ofDetails_written hwrites _ _).2 rfl
  obtain ⟨r, notices, hplain, hextra, -, -, -, hreports⟩ := Request.resolve_ignores_extras
    (.bare "eu-west-1" "123456789012") (.generated "db" 7) hwrites hwrites' rfl (by decide)
    haccepted
  exact ⟨r, notices, hplain, hextra, hreports⟩

end Domain

end ClusterBroker
