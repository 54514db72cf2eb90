import ClusterBroker.Environment
import ClusterBroker.Proofs.Text.Padding

/-!
# Reading an environment

The variables of an environment may have white space in many places, and not all of them need be
there.  An environment that is read has none of that left.

**Variables.**  `Variable.setting?_eq_some` says which variables count.  `Variable.Tells` and
`Variable.Enumerates` are how a value and a list of values may be written in a variable.

**Environments.**  `Environment.Normal` is what every environment that is read has in common.
**`Environment.read_eq_ok`** says which variables are read as which environment, and
`Environment.read_of_written` that every normal one can be written down and read again.

**`Environment.read_normalises`** adds how reading fails.
-/

namespace ClusterBroker

/-! ## Variables -/

namespace Variable

/-- A variable counts if it is text and not blank, and then without the white space at its ends. -/
lemma setting?_eq_some {v : Option Variable} {value : String} :
    setting? v = some value ↔
      ∃ text, v = some (.text text) ∧ ¬ Text.Blank text.toList ∧ value = Text.strip text := by
  have hempty : ∀ text, (Text.strip text).isEmpty = true ↔ Text.Blank text.toList := by
    intro text
    rw [← Text.stripList_eq_nil, Text.strip, String.isEmpty_iff, String.ofList_eq_empty_iff]
  unfold setting?
  split
  case _ text =>
    by_cases hblank : Text.Blank text.toList
    · simp [(hempty text).2 hblank, hblank]
    · have hne : ¬ (Text.strip text).isEmpty = true := fun h => hblank ((hempty text).1 h)
      simp [hne, hblank, eq_comm]
  case _ hnone =>
    constructor
    · intro h
      cases h
    · rintro ⟨text, rfl, -⟩
      exact absurd rfl (hnone text)

/-- Segments are cut from the text of a variable, whether or not that was stripped before. -/
lemma splitComma_setting? (text : String) :
    ((setting? (some (.text text))).map Text.splitComma).getD [] = Text.parts text := by
  rw [← Text.splitComma_eq_parts, ← Text.splitComma_strip]
  cases hsetting : setting? (some (.text text)) with
  | none =>
      have hblank : Text.Blank text.toList := by
        by_contra hnot
        rw [setting?_eq_some.2 ⟨text, rfl, hnot, rfl⟩] at hsetting
        cases hsetting
      rw [Text.strip, Text.stripList_eq_nil.2 hblank]
      rfl
  | some value =>
      obtain ⟨text', htext, -, rfl⟩ := setting?_eq_some.1 hsetting
      obtain rfl : text = text' := by simpa using htext
      rw [Option.map_some, Option.getD_some]

/-- A variable is text, and not just white space. -/
def Present (v : Option Variable) : Prop :=
  ∃ text, v = some (.text text) ∧ ¬ Text.Blank text.toList

/-- A variable is a value with white space around it. -/
def Tells (v : Option Variable) (value : String) : Prop :=
  ∃ text, v = some (.text text) ∧ Text.Pads text.toList value

/-- A variable is a list of values between commas, with blanks among them and white space around
them.  One that is no text is the empty list. -/
def Enumerates (v : Option Variable) (values : List String) : Prop :=
  ((∀ text, v ≠ some (.text text)) ∧ values = []) ∨
    ∃ text segments, v = some (.text text) ∧ text.toList = [','].intercalate segments ∧
      Text.Lists segments values

section

variable {v : Option Variable}

lemma setting?_eq_some_iff {value : String} :
    setting? v = some value ↔ Text.Trimmed value ∧ Tells v value := by
  rw [setting?_eq_some]
  constructor
  · rintro ⟨text, hv, hblank, rfl⟩
    obtain ⟨htrimmed, hpads⟩ := Text.stripList_eq_iff.1 ⟨hblank, rfl⟩
    exact ⟨htrimmed, text, hv, hpads⟩
  · rintro ⟨htrimmed, text, hv, hpads⟩
    obtain ⟨hblank, hvalue⟩ := Text.stripList_eq_iff.2 ⟨htrimmed, hpads⟩
    exact ⟨text, hv, hblank, hvalue.symm⟩

lemma exists_setting? : (∃ value, setting? v = some value) ↔ Present v := by
  simp only [setting?_eq_some]
  constructor
  · rintro ⟨value, text, hv, hblank, -⟩
    exact ⟨text, hv, hblank⟩
  · rintro ⟨text, hv, hblank⟩
    exact ⟨_, text, hv, hblank, rfl⟩

lemma setting?_eq_none : setting? v = none ↔ ¬ Present v := by
  rw [← exists_setting?, ← Option.isSome_iff_exists, Bool.not_eq_true, Option.isSome_eq_false_iff,
    Option.isNone_iff_eq_none]

/-- **The list that is read from a variable** is the one that is enumerated in it. -/
theorem splitComma_eq_iff {values : List String} :
    ((setting? v).map Text.splitComma).getD [] = values ↔
      (∀ value ∈ values, Text.Item value) ∧ Enumerates v values := by
  have hnone (hv : ∀ text, v ≠ some (.text text)) (hread : setting? v = none) :
      ((setting? v).map Text.splitComma).getD [] = values ↔
        (∀ value ∈ values, Text.Item value) ∧ Enumerates v values := by
    rw [hread]
    constructor
    · rintro rfl
      exact ⟨by simp, .inl ⟨hv, rfl⟩⟩
    · rintro ⟨-, ⟨-, rfl⟩ | ⟨text, segments, rfl, -⟩⟩
      · rfl
      · exact absurd rfl (hv text)
  rcases v with _ | text | bytes
  · exact hnone nofun rfl
  · rw [splitComma_setting?, Text.parts_eq_iff]
    refine and_congr_right fun _ => ?_
    constructor
    · rintro ⟨segments, htext, hlists⟩
      exact .inr ⟨text, segments, rfl, htext, hlists⟩
    · rintro (⟨hv, -⟩ | ⟨_, segments, hv, htext, hlists⟩)
      · exact absurd rfl (hv text)
      · obtain rfl := Variable.text.inj (Option.some.inj hv)
        exact ⟨segments, htext, hlists⟩
  · exact hnone nofun rfl

end

end Variable

/-! ## Environments -/

/-- Variables tell an environment, with white space anywhere. -/
structure Variables.Tell (vars : Variables) (e : Environment) : Prop where
  region : Variable.Tells vars.region e.region
  accountId : Variable.Tells vars.accountId e.accountId
  group : ∀ group, e.securityGroup = some group → Variable.Tells vars.securityGroup group
  noGroup : e.securityGroup = none → ¬ Variable.Present vars.securityGroup
  subnets : Variable.Enumerates vars.subnets e.subnets

namespace Environment

/-- Every part of an environment is there and has no white space at its ends; a subnet has no comma
in it either. -/
structure Normal (e : Environment) : Prop where
  region : Text.Trimmed e.region
  accountId : Text.Trimmed e.accountId
  group : ∀ group, e.securityGroup = some group → Text.Trimmed group
  subnets : ∀ subnet ∈ e.subnets, Text.Item subnet

/-- An environment written down: subnets between commas, and what is not there left unset. -/
def written (e : Environment) : Variables where
  region := some (.text e.region)
  accountId := some (.text e.accountId)
  securityGroup := e.securityGroup.map .text
  subnets := if e.subnets = [] then none else some (.text (String.intercalate "," e.subnets))

variable {vars : Variables} {e : Environment}

lemma read_eq_ok_iff :
    read vars = .ok e ↔
      Variable.setting? vars.region = some e.region ∧
      Variable.setting? vars.accountId = some e.accountId ∧
      Variable.setting? vars.securityGroup = e.securityGroup ∧
      ((Variable.setting? vars.subnets).map Text.splitComma).getD [] = e.subnets := by
  obtain ⟨region, accountId, securityGroup, subnets⟩ := e
  unfold read
  split
  case _ hregion => simp [hregion]
  case _ region haccount => simp [haccount]
  case _ region' accountId' hregion haccount => simp [hregion, haccount]

/-- **Which environment is read**: the normal one that the variables tell. -/
theorem read_eq_ok : read vars = .ok e ↔ e.Normal ∧ vars.Tell e := by
  have hgroup : Variable.setting? vars.securityGroup = e.securityGroup ↔
      (∀ group, e.securityGroup = some group →
        Text.Trimmed group ∧ Variable.Tells vars.securityGroup group) ∧
      (e.securityGroup = none → ¬ Variable.Present vars.securityGroup) := by
    cases e.securityGroup with
    | none => simp [Variable.setting?_eq_none]
    | some group => simp [Variable.setting?_eq_some_iff]
  rw [read_eq_ok_iff, Variable.setting?_eq_some_iff, Variable.setting?_eq_some_iff, hgroup,
    Variable.splitComma_eq_iff]
  constructor
  · rintro ⟨⟨hregion, hregion'⟩, ⟨haccount, haccount'⟩, ⟨hsome, hnone⟩, hsubnets, hsubnets'⟩
    exact ⟨⟨hregion, haccount, fun group h => (hsome group h).1, hsubnets⟩,
      hregion', haccount', fun group h => (hsome group h).2, hnone, hsubnets'⟩
  · rintro ⟨hnormal, htell⟩
    exact ⟨⟨hnormal.region, htell.region⟩, ⟨hnormal.accountId, htell.accountId⟩,
      ⟨fun group h => ⟨hnormal.group group h, htell.group group h⟩, htell.noGroup⟩,
      hnormal.subnets, htell.subnets⟩

/-- A text alone is padded with nothing. -/
lemma tells_text (s : String) : Variable.Tells (some (.text s)) s :=
  ⟨s, rfl, [], [], by simp [Text.Blank], by simp [Text.Blank], by simp⟩

lemma lists_texts (texts : List String) : Text.Lists (texts.map String.toList) texts := by
  induction texts with
  | nil => exact .nil
  | cons s rest ih =>
      exact .text ⟨[], [], by simp [Text.Blank], by simp [Text.Blank], by simp⟩ ih

/-- What is written down for an environment tells it. -/
lemma tell_written (e : Environment) : e.written.Tell e := by
  refine ⟨tells_text _, tells_text _, fun group h => ?_, fun h => ?_, ?_⟩
  · rw [written, h]
    exact tells_text group
  · rw [written, h]
    rintro ⟨text, hnone, -⟩
    cases hnone
  · by_cases hnil : e.subnets = []
    · refine .inl ⟨fun text h => ?_, hnil⟩
      simp [written, hnil] at h
    · refine .inr ⟨_, e.subnets.map String.toList, if_neg hnil, ?_, lists_texts _⟩
      exact String.toList_intercalate

/-- **A normal environment that is written down is read again.** -/
theorem read_of_written (h : e.Normal) : read e.written = .ok e :=
  read_eq_ok.2 ⟨h, tell_written e⟩

/-! ## How reading ends -/

/-- How the reading of some variables ends, whatever they are.

* `exists_iff`: it succeeds if region and account are text and not blank.
* `noRegion`, `noAccountId`: else it fails for the first of these that is not.
* `ok_iff`: what is read has no white space at any end and no comma in a subnet, and is what the
  variables tell.
* `again`: written down, it is read again.
* `relisted`: whatever lists other subnets, with blanks among them and white space around them, is
  read as just these subnets. -/
structure Reads (vars : Variables) : Prop where
  exists_iff : (∃ e, read vars = .ok e) ↔
    Variable.Present vars.region ∧ Variable.Present vars.accountId
  noRegion : ¬ Variable.Present vars.region →
    read vars = .error (.configuration "Unable to find AWS_REGION environment variable")
  noAccountId : Variable.Present vars.region → ¬ Variable.Present vars.accountId →
    read vars = .error (.configuration "Unable to find AWS_ACCOUNT_ID environment variable")
  ok_iff : ∀ e, read vars = .ok e ↔ e.Normal ∧ vars.Tell e
  again : ∀ e, read vars = .ok e → read e.written = .ok e
  relisted : ∀ e segments subnets, read vars = .ok e → (∀ subnet ∈ subnets, Text.Item subnet) →
    Text.Lists segments subnets →
      read { vars with subnets := some (.text (String.ofList ([','].intercalate segments))) }
        = .ok { e with subnets }

/-- **Reading normalises, and is stable.** -/
theorem read_normalises (vars : Variables) : Reads vars := by
  have hregion (h : ¬ Variable.Present vars.region) : read vars = .error (missing "AWS_REGION") := by
    rw [read, Variable.setting?_eq_none.2 h]
  have haccount (h : Variable.Present vars.region) (h' : ¬ Variable.Present vars.accountId) :
      read vars = .error (missing "AWS_ACCOUNT_ID") := by
    obtain ⟨region, hread⟩ := Variable.exists_setting?.2 h
    rw [read, hread, Variable.setting?_eq_none.2 h']
  refine ⟨?_, hregion, haccount, fun _ => read_eq_ok,
    fun e h => read_of_written (read_eq_ok.1 h).1, fun e segments subnets h hitems hlists => ?_⟩
  · constructor
    · rintro ⟨e, h⟩
      obtain ⟨hr, ha, -⟩ := read_eq_ok_iff.1 h
      exact ⟨Variable.exists_setting?.1 ⟨_, hr⟩, Variable.exists_setting?.1 ⟨_, ha⟩⟩
    · rintro ⟨hr, ha⟩
      obtain ⟨region, hr⟩ := Variable.exists_setting?.2 hr
      obtain ⟨accountId, ha⟩ := Variable.exists_setting?.2 ha
      exact ⟨⟨region, accountId, _, _⟩, read_eq_ok_iff.2 ⟨hr, ha, rfl, rfl⟩⟩
  · obtain ⟨hnormal, htell⟩ := read_eq_ok.1 h
    have hsubnets : Variable.Enumerates
        (some (.text (String.ofList ([','].intercalate segments)))) subnets :=
      .inr ⟨_, segments, rfl, String.toList_ofList, hlists⟩
    exact read_eq_ok.2 ⟨{ hnormal with subnets := hitems }, { htell with subnets := hsubnets }⟩

example : read ⟨some (.text " eu-west-1\n"), some (.text "1"), some (.text "\t"),
    some (.text ",subnet-a , ,subnet-b")⟩
      = .ok ⟨"eu-west-1", "1", none, ["subnet-a", "subnet-b"]⟩ := by
  decide

end Environment

end ClusterBroker
