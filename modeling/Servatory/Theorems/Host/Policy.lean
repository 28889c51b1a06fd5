import Mathlib.Data.List.Nodup
import Servatory.Host.Policy
import Servatory.Lib.FirstMax
import Servatory.Theorems.Host.Conditions
import Servatory.Theorems.Storage

/-! What the health policy reports: the rules whose conditions hold, and the most severe of them. What a condition
    means is said by relations; the code decides them for every condition that the check has accepted. -/

namespace Servatory

/-! ### What a condition means -/

/-- A metric has the value that is written. -/
inductive Metric.Is : Metric → Value → Prop
  | bool (value : Bool) : Is (.bool value) (.bool value)
  | number (value : Nat) : Is (.number value) (.number (.finite value))
  | text (value : String) : Is (.text value) (.string value)
  | missing : Is .missing .null
  | tagged {metric : Metric} {value : Value} (tag : String) (h : Is metric value) : Is metric (.tagged tag value)

inductive Comparison
  | equals (expected : Value)
  | isIn (expected : List Value)
  | atLeast (limit : F64)
  | greaterThan (limit : F64)
  | missingOrGreaterThan (limit : Nat)

/-- The one comparison that a predicate gives. -/
inductive Predicate.Gives : Predicate → Comparison → Prop
  | equals (measurement : MetricSelector) (expected : Value) :
      Gives ⟨measurement, some expected, none, none, none, none⟩ (.equals expected)
  | isIn (measurement : MetricSelector) (expected : List Value) :
      Gives ⟨measurement, none, some expected, none, none, none⟩ (.isIn expected)
  | atLeast (measurement : MetricSelector) (limit : F64) :
      Gives ⟨measurement, none, none, some limit, none, none⟩ (.atLeast limit)
  | greaterThan (measurement : MetricSelector) (limit : F64) :
      Gives ⟨measurement, none, none, none, some limit, none⟩ (.greaterThan limit)
  | missingOrGreaterThan (measurement : MetricSelector) (limit : Nat) :
      Gives ⟨measurement, none, none, none, none, some limit⟩ (.missingOrGreaterThan limit)

/-- A metric satisfies a comparison. -/
inductive Satisfies : Metric → Comparison → Prop
  | equals {metric : Metric} {expected : Value} (h : metric.Is expected) : Satisfies metric (.equals expected)
  | isIn {metric : Metric} {expected : List Value} {value : Value} (hmem : value ∈ expected) (h : metric.Is value) :
      Satisfies metric (.isIn expected)
  | atLeast {limit : F64} {value : Nat} (h : limit.isAtMost value = true) : Satisfies (.number value) (.atLeast limit)
  | greaterThan {limit : F64} {value : Nat} (h : limit.isBelow value = true) :
      Satisfies (.number value) (.greaterThan limit)
  | missing (limit : Nat) : Satisfies .missing (.missingOrGreaterThan limit)
  | older {limit value : Nat} (h : limit < value * 1000) : Satisfies (.number value) (.missingOrGreaterThan limit)

section
variable (config : Config) (snapshot : HealthSnapshot)

/-- A metric of a snapshot that a selector names. Every disk has a status of its own. -/
inductive Measures : MetricSelector → Metric → Prop
  | upsStatus : Measures .upsStatus (.text (Servatory.upsStatus snapshot.ups.status))
  | upsStale : Measures .upsStale (.bool snapshot.ups.stale)
  | smartStatus {device : SmartDeviceSummary} (h : device ∈ snapshot.smart.devices) :
      Measures .smartStatus (.text (Servatory.smartStatus device.status))
  | networkUp : Measures .networkUp (.bool snapshot.networkUp)
  | internetStatus : Measures .internetStatus (.text (Servatory.internetStatus snapshot.internetStatus))
  | backupStatus : Measures .backupStatus (.text (Servatory.backupStatus snapshot.backupJobStatus))
  | backupAge {age : UInt32} (h : snapshot.lastSuccessfulBackupAgeSeconds = some age) :
      Measures .backupAge (.number age.toNat)
  | backupUnknown (h : snapshot.lastSuccessfulBackupAgeSeconds = none) : Measures .backupAge .missing
  | cpuPercent : Measures .cpuPercent (.number snapshot.cpuPercent.toNat)
  | memoryPercent : Measures .memoryPercent (.number (Config.memoryPercent snapshot))
  | ioPressurePercent : Measures .ioPressurePercent (.number snapshot.ioPressurePercent.toNat)
  | mounted {index : Nat} {fs : FilesystemConfig} {usage : FilesystemUsage}
      (hfs : config.sources.filesystems[index]? = some fs) (husage : snapshot.filesystems[index]? = some usage) :
      Measures (.filesystem fs.id .mounted) (.bool usage.mounted)
  | usedPercent {index : Nat} {fs : FilesystemConfig} {usage : FilesystemUsage}
      (hfs : config.sources.filesystems[index]? = some fs) (husage : snapshot.filesystems[index]? = some usage) :
      Measures (.filesystem fs.id .usedPercent) (.number usage.usedPercent.toNat)
  | notMeasured {index : Nat} {fs : FilesystemConfig} (hfs : config.sources.filesystems[index]? = some fs)
      (husage : snapshot.filesystems[index]? = none) (field : FilesystemField) :
      Measures (.filesystem fs.id field) .missing

/-- A snapshot meets a condition. -/
inductive Holds : Condition → Prop
  | all {children : List Condition} (h : ∀ child ∈ children, Holds child) : Holds (.all children)
  | any {children : List Condition} {child : Condition} (hmem : child ∈ children) (h : Holds child) :
      Holds (.any children)
  | predicate {p : Predicate} {comparison : Comparison} {metric : Metric} (hgives : p.Gives comparison)
      (hmeasures : Measures config snapshot p.measurement metric) (h : Satisfies metric comparison) :
      Holds (.predicate p)

end

/-- What the rules of a configuration report for a snapshot. -/
structure Evaluated (config : Config) (snapshot : HealthSnapshot) (report : HealthReport) (incidents : List Incident) :
    Prop where
  matching : ∃ matching : List HealthRule, matching.Sublist config.health.rules ∧
    (∀ rule ∈ config.health.rules, rule ∈ matching ↔ Holds config snapshot rule.condition) ∧
    incidents = matching.map fun rule => ⟨.rule ⟨rule.id⟩, rule.severity.level, config.renderMessage rule snapshot⟩
  nodup : (incidents.map (·.id)).Nodup
  primary : incidents = [] ∧ report = ⟨config.health.default.severity.level, config.health.default.message⟩ ∨
    ∃ incident, FirstMax (fun incident : Incident => incident.level.priority.toNat) incidents incident ∧
      report = ⟨incident.level, incident.message⟩

/-! ### Comparisons -/

namespace Metric

theorem is_tagged {metric : Metric} {tag : String} {value : Value} : metric.Is (.tagged tag value) ↔ metric.Is value := by
  constructor
  · intro h
    cases h with
    | tagged _ h => exact h
  · exact .tagged tag

theorem equals_tagged {metric : Metric} {tag : String} {value : Value} :
    metric.equals (.tagged tag value) = metric.equals value := by
  cases metric <;> rfl

theorem equals_iff {metric : Metric} {value : Value} : metric.equals value = true ↔ metric.Is value := by
  induction value using Value.untag.induct with
  | case1 tag value ih => rw [equals_tagged, ih, is_tagged]
  | case2 value hvalue =>
    constructor
    · intro h
      cases metric with
      | bool b =>
        cases value with
        | bool expected =>
          obtain rfl : expected = b := beq_iff_eq.mp h
          exact .bool expected
        | tagged tag value => exact absurd rfl (hvalue tag value)
        | _ => cases h
      | number n =>
        cases value with
        | number expected =>
          obtain rfl : expected = .finite n := beq_iff_eq.mp h
          exact .number n
        | tagged tag value => exact absurd rfl (hvalue tag value)
        | _ => cases h
      | text s =>
        cases value with
        | string expected =>
          obtain rfl : expected = s := beq_iff_eq.mp h
          exact .text expected
        | tagged tag value => exact absurd rfl (hvalue tag value)
        | _ => cases h
      | missing =>
        cases value with
        | null => exact .missing
        | tagged tag value => exact absurd rfl (hvalue tag value)
        | _ => cases h
    · intro h
      cases h with
      | tagged tag h => exact absurd rfl (hvalue tag _)
      | missing => rfl
      | _ => exact beq_self_eq_true _

end Metric

namespace Predicate
variable {p : Predicate} {comparison : Comparison} {metric : Metric}

/-- A predicate with one comparison gives it. -/
theorem gives_of_operators
    (h : p.equals.isSome.toNat + p.isIn.isSome.toNat + p.atLeast.isSome.toNat + p.greaterThan.isSome.toNat +
      p.missingOrGreaterThan.isSome.toNat = 1) : ∃ comparison, p.Gives comparison := by
  obtain ⟨measurement, equals, isIn, atLeast, greaterThan, missing⟩ := p
  cases equals with
  | some expected =>
    cases isIn <;> cases atLeast <;> cases greaterThan <;> cases missing <;> simp at h
    exact ⟨_, .equals measurement expected⟩
  | none =>
    cases isIn with
    | some expected =>
      cases atLeast <;> cases greaterThan <;> cases missing <;> simp at h
      exact ⟨_, .isIn measurement expected⟩
    | none =>
      cases atLeast with
      | some limit =>
        cases greaterThan <;> cases missing <;> simp at h
        exact ⟨_, .atLeast measurement limit⟩
      | none =>
        cases greaterThan with
        | some limit =>
          cases missing <;> simp at h
          exact ⟨_, .greaterThan measurement limit⟩
        | none =>
          cases missing <;> simp at h
          exact ⟨_, .missingOrGreaterThan measurement _⟩

theorem matches_iff (h : p.Gives comparison) : matchesPredicate metric p = true ↔ Satisfies metric comparison := by
  cases h with
  | equals measurement expected =>
    rw [matchesPredicate, Metric.equals_iff]
    exact ⟨.equals, fun h => by cases h with | equals h => exact h⟩
  | isIn measurement expected =>
    rw [matchesPredicate, List.any_eq_true]
    constructor
    · rintro ⟨value, hmem, hvalue⟩
      exact .isIn hmem (Metric.equals_iff.mp hvalue)
    · intro h
      cases h with
      | isIn hmem hvalue => exact ⟨_, hmem, Metric.equals_iff.mpr hvalue⟩
  | atLeast measurement limit =>
    cases metric with
    | number value => exact ⟨.atLeast, fun h => by cases h with | atLeast h => exact h⟩
    | _ => exact ⟨nofun, nofun⟩
  | greaterThan measurement limit =>
    cases metric with
    | number value => exact ⟨.greaterThan, fun h => by cases h with | greaterThan h => exact h⟩
    | _ => exact ⟨nofun, nofun⟩
  | missingOrGreaterThan measurement limit =>
    cases metric with
    | missing => exact ⟨fun _ => .missing limit, fun _ => rfl⟩
    | number value =>
      constructor
      · exact fun h => .older (of_decide_eq_true h)
      · intro h
        cases h with
        | older h => exact decide_eq_true h
    | _ => exact ⟨nofun, nofun⟩

end Predicate

/-! ### Measurements -/

namespace Config
variable {config : Config} {build : SoftwareVersion} {snapshot : HealthSnapshot} {selector : MetricSelector}
  {metric : Metric}

/-- A filesystem that is measured is in the configuration. -/
def Measurable (config : Config) (selector : MetricSelector) : Prop :=
  ∀ id field, selector = .filesystem id field → ∃ fs ∈ config.sources.filesystems, fs.id = id

theorem position_of_mem {id : String} (h : ∃ fs ∈ config.sources.filesystems, fs.id = id) :
    ∃ index fs, config.filesystemPosition id = some index ∧ config.sources.filesystems[index]? = some fs ∧ fs.id = id := by
  obtain ⟨fs, hmem, hid⟩ := h
  have hposition := List.findIdx?_eq_some_of_exists (p := (·.id == id)) ⟨fs, hmem, beq_iff_eq.mpr hid⟩
  obtain ⟨hlt, hfound, -⟩ := List.findIdx?_eq_some_iff_getElem.mp hposition
  exact ⟨_, _, hposition, List.getElem?_eq_getElem hlt, beq_iff_eq.mp hfound⟩

/-- An id is found at its own position. -/
theorem position_of_getElem? (hnodup : (config.sources.filesystems.map (·.id)).Nodup) {index : Nat}
    {fs : FilesystemConfig} (h : config.sources.filesystems[index]? = some fs) :
    config.filesystemPosition fs.id = some index := by
  obtain ⟨first, other, hposition, hother, hid⟩ := position_of_mem ⟨fs, List.mem_of_getElem? h, rfl⟩
  have hsame : (config.sources.filesystems.map (·.id))[first]? = (config.sources.filesystems.map (·.id))[index]? := by
    rw [List.getElem?_map, List.getElem?_map, hother, h, Option.map_some, Option.map_some, hid]
  have hlt : first < (config.sources.filesystems.map (·.id)).length := by
    rw [List.length_map]
    exact (List.getElem?_eq_some_iff.mp hother).1
  rw [hposition, (List.getElem?_inj hlt hnodup).mp hsame]

theorem metric_unmeasured {id : String} {field : FilesystemField} {index : Nat}
    (hposition : config.filesystemPosition id = some index) (h : snapshot.filesystems[index]? = none) :
    config.metric snapshot (.filesystem id field) = .missing := by
  rw [filesystemPosition] at hposition
  rw [Config.metric, hposition, Option.bind_some, h]

theorem metric_mounted {id : String} {index : Nat} {usage : FilesystemUsage}
    (hposition : config.filesystemPosition id = some index) (h : snapshot.filesystems[index]? = some usage) :
    config.metric snapshot (.filesystem id .mounted) = .bool usage.mounted := by
  rw [filesystemPosition] at hposition
  rw [Config.metric, hposition, Option.bind_some, h]

theorem metric_usedPercent {id : String} {index : Nat} {usage : FilesystemUsage}
    (hposition : config.filesystemPosition id = some index) (h : snapshot.filesystems[index]? = some usage) :
    config.metric snapshot (.filesystem id .usedPercent) = .number usage.usedPercent.toNat := by
  rw [filesystemPosition] at hposition
  rw [Config.metric, hposition, Option.bind_some, h]

theorem measures_metric (hsmart : selector ≠ .smartStatus) (h : config.Measurable selector) :
    Measures config snapshot selector (config.metric snapshot selector) := by
  cases selector with
  | smartStatus => exact absurd rfl hsmart
  | backupAge =>
    rw [Config.metric]
    cases hage : snapshot.lastSuccessfulBackupAgeSeconds with
    | none => exact .backupUnknown hage
    | some age => exact .backupAge hage
  | filesystem id field =>
    obtain ⟨index, fs, hposition, hfs, rfl⟩ := position_of_mem (h id field rfl)
    cases husage : snapshot.filesystems[index]? with
    | none =>
      rw [metric_unmeasured hposition husage]
      exact .notMeasured hfs husage field
    | some usage =>
      cases field with
      | mounted =>
        rw [metric_mounted hposition husage]
        exact .mounted hfs husage
      | usedPercent =>
        rw [metric_usedPercent hposition husage]
        exact .usedPercent hfs husage
  | _ => constructor

/-- All but the status of the disks is measured once. -/
theorem eq_metric_of_measures (hnodup : (config.sources.filesystems.map (·.id)).Nodup)
    (hsmart : selector ≠ .smartStatus) (h : Measures config snapshot selector metric) :
    metric = config.metric snapshot selector := by
  cases h with
  | smartStatus => exact absurd rfl hsmart
  | backupAge h =>
    rw [Config.metric, h]
    rfl
  | backupUnknown h =>
    rw [Config.metric, h]
    rfl
  | mounted hfs husage => rw [metric_mounted (position_of_getElem? hnodup hfs) husage]
  | usedPercent hfs husage => rw [metric_usedPercent (position_of_getElem? hnodup hfs) husage]
  | notMeasured hfs husage => rw [metric_unmeasured (position_of_getElem? hnodup hfs) husage]
  | _ => rfl

/-! ### Conditions -/

theorem valid_predicate {p : Predicate} {u : Unit} (h : config.validatePredicate p = .ok u) :
    (∃ comparison, p.Gives comparison) ∧ config.Measurable p.measurement := by
  obtain ⟨_, hoperators, h⟩ := Except.bind_eq_ok.mp h
  refine ⟨Predicate.gives_of_operators ?_, fun id field hfield => ?_⟩
  · by_contra hne
    cases (bne_iff_ne.mpr hne).symm.trans (bailIf_eq_ok.mp hoperators)
  · rw [hfield] at h
    have hany := bailIf_eq_ok.mp h
    rw [Bool.not_eq_false', List.any_eq_true] at hany
    obtain ⟨fs, hfs, hid⟩ := hany
    exact ⟨fs, hfs, beq_iff_eq.mp hid⟩

theorem matchesSelector_iff (hnodup : (config.sources.filesystems.map (·.id)).Nodup) {p : Predicate} {u : Unit}
    (h : config.validatePredicate p = .ok u) :
    config.matchesSelector snapshot p = true ↔ Holds config snapshot (.predicate p) := by
  obtain ⟨⟨comparison, hgives⟩, hmeasurable⟩ := valid_predicate h
  have hholds : Holds config snapshot (.predicate p) ↔
      ∃ metric, Measures config snapshot p.measurement metric ∧ matchesPredicate metric p = true := by
    constructor
    · intro h
      cases h with
      | predicate hgives' hmeasures h => exact ⟨_, hmeasures, (Predicate.matches_iff hgives').mpr h⟩
    · rintro ⟨metric, hmeasures, h⟩
      exact .predicate hgives hmeasures ((Predicate.matches_iff hgives).mp h)
  rw [hholds]
  by_cases hsmart : p.measurement = .smartStatus
  · have hsmart' : config.matchesSelector snapshot p =
        snapshot.smart.devices.any fun device => matchesPredicate (.text (smartStatus device.status)) p := by
      rw [matchesSelector, hsmart]
    rw [hsmart', hsmart, List.any_eq_true]
    constructor
    · rintro ⟨device, hdevice, h⟩
      exact ⟨_, .smartStatus hdevice, h⟩
    · rintro ⟨metric, hmeasures, h⟩
      cases hmeasures with
      | smartStatus hdevice => exact ⟨_, hdevice, h⟩
  · have hother : config.matchesSelector snapshot p =
        matchesPredicate (config.metric snapshot p.measurement) p := by
      rw [matchesSelector]
      split
      · exact absurd ‹_› hsmart
      · rfl
    rw [hother]
    constructor
    · exact fun h => ⟨_, measures_metric hsmart hmeasurable, h⟩
    · rintro ⟨metric, hmeasures, h⟩
      rwa [← eq_metric_of_measures hnodup hsmart hmeasures]

theorem validateConditions_ok {children : List Condition} {u : Unit} (h : config.validateConditions children = .ok u) :
    ∀ child ∈ children, config.validateCondition child = .ok () := by
  induction children with
  | nil => exact fun _ => nofun
  | cons child rest ih =>
    rw [validateConditions] at h
    obtain ⟨_, hchild, hrest⟩ := Except.bind_eq_ok.mp h
    rw [List.forall_mem_cons]
    exact ⟨hchild, ih hrest⟩

theorem matchesAll_iff {children : List Condition} :
    config.matchesAll snapshot children = true ↔ ∀ child ∈ children, config.matchesCondition snapshot child = true := by
  induction children with
  | nil => exact ⟨fun _ _ => nofun, fun _ => by rw [matchesAll]⟩
  | cons child rest ih => rw [matchesAll, Bool.and_eq_true, ih, List.forall_mem_cons]

theorem matchesAny_iff {children : List Condition} :
    config.matchesAny snapshot children = true ↔ ∃ child ∈ children, config.matchesCondition snapshot child = true := by
  induction children with
  | nil =>
    rw [matchesAny]
    exact ⟨nofun, fun ⟨_, h, _⟩ => nomatch h⟩
  | cons child rest ih => rw [matchesAny, Bool.or_eq_true, ih, List.exists_mem_cons_iff]

end Config

/-- What holds of a condition when it holds of those in its list holds of every condition. -/
@[elab_as_elim]
theorem Condition.induction {P : Condition → Prop} (all : ∀ children, (∀ child ∈ children, P child) → P (.all children))
    (any : ∀ children, (∀ child ∈ children, P child) → P (.any children)) (predicate : ∀ p, P (.predicate p)) :
    ∀ condition, P condition
  | .all children => all children fun child _ => Condition.induction all any predicate child
  | .any children => any children fun child _ => Condition.induction all any predicate child
  | .predicate p => predicate p

namespace Config
variable {config : Config} {build : SoftwareVersion} {snapshot : HealthSnapshot}

/-- The code decides the meaning of a condition that it accepts. -/
theorem matchesCondition_iff (hnodup : (config.sources.filesystems.map (·.id)).Nodup) (condition : Condition) {u : Unit}
    (h : config.validateCondition condition = .ok u) :
    config.matchesCondition snapshot condition = true ↔ Holds config snapshot condition := by
  induction condition using Condition.induction with
  | all children ih =>
    rw [validateCondition] at h
    have hvalid := validateConditions_ok (Except.ok_of_seq h)
    rw [matchesCondition, matchesAll_iff]
    constructor
    · exact fun h => .all fun child hchild => (ih child hchild (hvalid child hchild)).mp (h child hchild)
    · intro h child hchild
      cases h with
      | all h => exact (ih child hchild (hvalid child hchild)).mpr (h child hchild)
  | any children ih =>
    rw [validateCondition] at h
    have hvalid := validateConditions_ok (Except.ok_of_seq h)
    rw [matchesCondition, matchesAny_iff]
    constructor
    · rintro ⟨child, hchild, h⟩
      exact .any hchild ((ih child hchild (hvalid child hchild)).mp h)
    · intro h
      cases h with
      | any hchild h => exact ⟨_, hchild, (ih _ hchild (hvalid _ hchild)).mpr h⟩
  | predicate p =>
    rw [validateCondition] at h
    rw [matchesCondition]
    exact matchesSelector_iff hnodup h

end Config

/-! ### The ids of the rules -/

theorem isIdChar_range {c : Char} (h : isIdChar c = true) :
    48 ≤ c.toNat ∧ c.toNat ≤ 57 ∨ 65 ≤ c.toNat ∧ c.toNat ≤ 90 ∨ 97 ≤ c.toNat ∧ c.toNat ≤ 122 ∨
      c.toNat = 95 ∨ c.toNat = 45 := by
  have hranges : (decide (65 ≤ c.val ∧ c.val ≤ 90) || (decide (97 ≤ c.val) && decide (c.val ≤ 122)) ||
      (decide (48 ≤ c.val) && decide (c.val ≤ 57)) || c == '_' || c == '-') = true := h
  simp only [Bool.or_eq_true, Bool.and_eq_true, decide_eq_true_eq, beq_iff_eq, UInt32.le_iff_toNat_le] at hranges
  rcases hranges with (((hupper | hlower) | hdigit) | rfl) | rfl
  · exact .inr (.inl hupper)
  · exact .inr (.inr (.inl hlower))
  · exact .inl hdigit
  · exact .inr (.inr (.inr (.inl rfl)))
  · exact .inr (.inr (.inr (.inr rfl)))

/-- A character of an id is one byte, and the byte is one of an id. -/
theorem utf8EncodeChar_idChar {c : Char} (h : isIdChar c = true) :
    ∃ byte, String.utf8EncodeChar c = [byte] ∧ isIdByte byte = true := by
  have hrange := isIdChar_range h
  have hle : c.toNat ≤ 127 := by omega
  refine ⟨c.val.toUInt8, String.utf8EncodeChar_eq_singleton ?_, ?_⟩
  · rw [Char.utf8Size, if_pos]
    rw [UInt32.le_iff_toNat_le]
    exact hle
  · simp only [isIdByte, Bool.or_eq_true, Bool.and_eq_true, decide_eq_true_eq, beq_iff_eq, UInt8.le_iff_toNat_le,
      ← UInt8.toNat_inj, UInt32.toNat_toUInt8]
    simp
    omega

/-- The protocol takes every id that the check accepts, which looks at characters and not at bytes. -/
theorem RuleId.new_of_valid {id : String} (hempty : id.isEmpty = false) (hlength : id.utf8ByteSize ≤ maxRuleIdLen)
    (hchars : id.toList.all isIdChar = true) : RuleId.new id = some ⟨id⟩ := by
  have hbytes : id.toByteArray.data.toList.all isIdByte = true := by
    have hutf8 : id.toByteArray.data.toList = id.toList.flatMap String.utf8EncodeChar := by
      rw [← String.utf8Encode_toList]
      simp [List.utf8Encode]
    rw [hutf8, List.all_flatMap, List.all_eq_true]
    intro c hc
    obtain ⟨byte, hbyte, hid⟩ := utf8EncodeChar_idChar (List.all_eq_true.mp hchars c hc)
    rw [hbyte, List.all_cons, hid]
    rfl
  rw [RuleId.new, if_neg]
  rw [hempty, hbytes, Bool.false_or, Bool.not_true, Bool.or_false, decide_eq_true_eq]
  exact Nat.not_lt.mpr hlength

/-! ### Predicates that are read -/

namespace Predicate
variable {p : Predicate}

/-- A predicate stands in a condition. -/
inductive Occurs (p : Predicate) : Condition → Prop
  | all {children : List Condition} {child : Condition} (hmem : child ∈ children) (h : Occurs p child) :
      Occurs p (.all children)
  | any {children : List Condition} {child : Condition} (hmem : child ∈ children) (h : Occurs p child) :
      Occurs p (.any children)
  | predicate : Occurs p (.predicate p)

/-- What a missing value equals: nothing under `equals`, and in a list only null. -/
structure Plain (p : Predicate) : Prop where
  equals : ∀ value, p.equals = some value → ¬Metric.missing.Is value
  isIn : ∀ values, p.isIn = some values → ∀ value ∈ values, Metric.missing.Is value → value = .null

theorem valid_of_occurs {config : Config} {condition : Condition} {u : Unit}
    (hvalid : config.validateCondition condition = .ok u) (h : p.Occurs condition) :
    config.validatePredicate p = .ok () := by
  induction h with
  | all hmem _ ih =>
    rw [Config.validateCondition] at hvalid
    exact ih (Config.validateConditions_ok (Except.ok_of_seq hvalid) _ hmem)
  | any hmem _ ih =>
    rw [Config.validateCondition] at hvalid
    exact ih (Config.validateConditions_ok (Except.ok_of_seq hvalid) _ hmem)
  | predicate =>
    rw [Config.validateCondition] at hvalid
    exact hvalid

theorem readOption_eq_some {α : Type} {read : Content → Option α} {field : Option Content} {a : α}
    (h : readOption read field = some (some a)) : ∃ content, content ≠ .unit ∧ read content = some a := by
  cases field with
  | none => cases h
  | some content =>
    cases content with
    | unit => cases h
    | _ =>
      obtain ⟨b, hb, hba⟩ := Option.map_eq_some_iff.mp h
      refine ⟨_, ?_, hb.trans hba⟩
      nofun

/-- Only null is read as a value that is missing. -/
theorem eq_unit_of_missing {content : Content} {value : Value} (h : content.value = some value)
    (hmissing : Metric.missing.Is value) : content = .unit ∧ value = .null := by
  cases content with
  | unit =>
    rw [Content.value] at h
    exact ⟨rfl, (Option.some.inj h).symm⟩
  | seq items =>
    rw [Content.value] at h
    obtain ⟨values, -, rfl⟩ := Option.map_eq_some_iff.mp h
    cases hmissing
  | map entries =>
    rw [Content.value] at h
    obtain ⟨values, -, rfl⟩ := Option.map_eq_some_iff.mp h
    cases hmissing
  | _ =>
    rw [Content.value] at h
    cases h
    cases hmissing

theorem mem_values {items : List Content} {values : List Value} (h : Content.values items = some values) :
    ∀ value ∈ values, ∃ content : Content, content.value = some value := by
  induction items generalizing values with
  | nil =>
    rw [Content.values] at h
    obtain rfl := Option.some.inj h
    exact fun _ => nofun
  | cons item rest ih =>
    rw [Content.values] at h
    obtain ⟨value, hvalue, h⟩ := Option.bind_eq_some_iff.mp h
    obtain ⟨others, hothers, h⟩ := Option.bind_eq_some_iff.mp h
    obtain rfl := Option.some.inj h
    rw [List.forall_mem_cons]
    exact ⟨⟨item, hvalue⟩, ih hothers⟩

theorem plain_ofFields {measurement : Content} {equals isIn atLeast greaterThan missing : Option Content}
    (h : Predicate.ofFields measurement equals isIn atLeast greaterThan missing = some p) : p.Plain := by
  obtain ⟨selector, -, h⟩ := Option.bind_eq_some_iff.mp h
  obtain ⟨equals', hequals, h⟩ := Option.bind_eq_some_iff.mp h
  obtain ⟨isIn', hisIn, h⟩ := Option.bind_eq_some_iff.mp h
  obtain ⟨atLeast', -, h⟩ := Option.bind_eq_some_iff.mp h
  obtain ⟨greaterThan', -, h⟩ := Option.bind_eq_some_iff.mp h
  obtain ⟨missing', -, h⟩ := Option.bind_eq_some_iff.mp h
  obtain rfl := Option.some.inj h
  constructor
  · rintro value rfl hmissing
    obtain ⟨content, hunit, hcontent⟩ := readOption_eq_some hequals
    exact hunit (eq_unit_of_missing hcontent hmissing).1
  · rintro values rfl value hmem hmissing
    obtain ⟨content, -, hcontent⟩ := readOption_eq_some hisIn
    cases content with
    | seq items =>
      obtain ⟨item, hitem⟩ := mem_values hcontent value hmem
      exact (eq_unit_of_missing hitem hmissing).2
    | _ => cases hcontent

theorem plain_ofMap {entries : List (Content × Content)} (h : Predicate.ofMap entries = some p) : p.Plain := by
  rw [Predicate.ofMap] at h
  split at h
  · cases h
  · obtain ⟨measurement, -, h⟩ := Option.bind_eq_some_iff.mp h
    exact plain_ofFields h

theorem plain_ofSeq {items : List Content} (h : Predicate.ofSeq items = some p) : p.Plain := by
  rw [Predicate.ofSeq.eq_def] at h
  split at h
  · exact plain_ofFields h
  · exact plain_ofFields h
  · cases h

end Predicate

theorem Content.mem_conditions {items : List Content} {children : List Condition}
    (h : Content.conditions items = some children) : ∀ child ∈ children, ∃ item ∈ items, item.condition = some child := by
  induction items generalizing children with
  | nil =>
    rw [Content.conditions] at h
    obtain rfl := Option.some.inj h
    exact fun _ => nofun
  | cons item rest ih =>
    rw [Content.conditions] at h
    obtain ⟨child, hchild, h⟩ := Option.bind_eq_some_iff.mp h
    obtain ⟨others, hothers, h⟩ := Option.bind_eq_some_iff.mp h
    obtain rfl := Option.some.inj h
    rw [List.forall_mem_cons]
    refine ⟨⟨item, List.mem_cons_self .., hchild⟩, fun other hother => ?_⟩
    obtain ⟨item', hitem', hread⟩ := ih hothers other hother
    exact ⟨item', List.mem_cons_of_mem _ hitem', hread⟩

/-- No predicate of a condition that is read compares with a missing value under `equals`. -/
theorem Predicate.plain_of_read {p : Predicate} {content : Content} {condition : Condition}
    (hread : content.condition = some condition) (h : p.Occurs condition) : p.Plain := by
  induction content using Content.induction_items generalizing condition with
  | h content ih =>
    cases content with
    | map entries =>
      have hchildren : ∀ {field : String} {children : List Condition},
          Content.childrenUnder field entries = some (some children) → ∀ child ∈ children, p.Occurs child → p.Plain := by
        intro field children hunder child hchild hoccurs
        obtain ⟨before, key, items, after, rfl, -, hitems, -⟩ := Content.childrenUnder_eq_some hunder
        obtain ⟨item, hitem, hread⟩ := Content.mem_conditions hitems child hchild
        exact ih _ key items rfl (List.mem_append_right _ (List.mem_cons_self ..)) item hitem hread hoccurs
      rw [Content.condition] at hread
      split at hread
      · rename_i children hall
        obtain rfl := Option.some.inj hread
        cases h with
        | all hmem h => exact hchildren hall _ hmem h
      · split at hread
        · rename_i children hany
          obtain rfl := Option.some.inj hread
          cases h with
          | any hmem h => exact hchildren hany _ hmem h
        · obtain ⟨q, hq, rfl⟩ := Option.map_eq_some_iff.mp hread
          cases h with
          | predicate => exact plain_ofMap hq
    | seq items =>
      rw [Content.condition] at hread
      obtain ⟨q, hq, rfl⟩ := Option.map_eq_some_iff.mp hread
      cases h with
      | predicate => exact plain_ofSeq hq
    | _ => cases hread

namespace Config
variable {config : Config} {build : SoftwareVersion} {snapshot : HealthSnapshot}

/-- Only two comparisons are satisfied by a backup whose age is not known. -/
theorem holds_unknownAge {p : Predicate} {u : Unit} (hvalid : config.validatePredicate p = .ok u) (hplain : p.Plain)
    (hage : snapshot.lastSuccessfulBackupAgeSeconds = none) (hp : p.measurement = .backupAge) :
    Holds config snapshot (.predicate p) ↔
      p.missingOrGreaterThan.isSome ∨ ∃ values, p.isIn = some values ∧ .null ∈ values := by
  have hmissing : ∀ {metric : Metric}, Measures config snapshot p.measurement metric → metric = .missing := by
    intro metric hmeasures
    rw [hp] at hmeasures
    cases hmeasures with
    | backupAge hknown => cases hage.symm.trans hknown
    | backupUnknown => rfl
  have hmeasures : Measures config snapshot p.measurement .missing := by
    rw [hp]
    exact .backupUnknown hage
  constructor
  · intro h
    cases h with
    | predicate hgives hmeasures h =>
      obtain rfl := hmissing hmeasures
      cases hgives with
      | equals measurement expected =>
        cases h with
        | equals h => exact absurd h (hplain.equals expected rfl)
      | isIn measurement expected =>
        cases h with
        | isIn hmem h =>
          rw [hplain.isIn expected rfl _ hmem h] at hmem
          exact .inr ⟨expected, rfl, hmem⟩
      | missingOrGreaterThan measurement limit => exact .inl rfl
      | _ => cases h
  · obtain ⟨⟨comparison, hgives⟩, -⟩ := valid_predicate hvalid
    rintro (h | ⟨values, hvalues, hnull⟩)
    · cases hgives with
      | missingOrGreaterThan measurement limit =>
        exact .predicate (.missingOrGreaterThan measurement limit) hmeasures (.missing limit)
      | _ => cases h
    · cases hgives with
      | isIn measurement expected =>
        obtain rfl := Option.some.inj hvalues
        exact .predicate (.isIn measurement expected) hmeasures (.isIn hnull .missing)
      | _ => cases hvalues

/-! ### The report -/

theorem moreSevere_eq : moreSevere = FirstMax.better fun incident : Incident => incident.level.priority.toNat := by
  funext primary incident
  simp only [moreSevere, FirstMax.better, UInt8.lt_iff_toNat_lt]

/-- What the check has found of the rules. -/
theorem rules_of_validate {u : Unit} (h : config.validate build = .ok u) :
    (config.health.rules.map (·.id)).Nodup ∧
      ∀ rule ∈ config.health.rules, RuleId.new rule.id = some ⟨rule.id⟩ ∧ config.validateCondition rule.condition = .ok () := by
  have hvalid := validated h
  refine ⟨(nodup_of_validateIds hvalid.ruleIds).1, fun rule hrule => ?_⟩
  obtain ⟨hempty, hlength, hchars⟩ := validIds hvalid.ruleIds rule.id (List.mem_map_of_mem hrule)
  refine ⟨RuleId.new_of_valid hempty hlength hchars, ?_⟩
  obtain ⟨_, hcondition, -⟩ := Except.bind_eq_ok.mp (hvalid.rules rule hrule)
  cases hresult : config.validateCondition rule.condition with
  | ok u => rfl
  | error e =>
    rw [hresult] at hcondition
    cases hcondition

/-- Every accepted rule that a snapshot meets gives its incident. -/
theorem evaluateHealth_eq {u : Unit} (h : config.validate build = .ok u) :
    ∃ report incidents, config.evaluateHealth snapshot = some (report, incidents) ∧
      Evaluated config snapshot report incidents := by
  obtain ⟨hnodup, hrules⟩ := rules_of_validate h
  let matching := config.health.rules.filter fun rule => config.matchesCondition snapshot rule.condition
  let incident (rule : HealthRule) : Incident :=
    ⟨.rule ⟨rule.id⟩, rule.severity.level, config.renderMessage rule snapshot⟩
  have hsublist : matching.Sublist config.health.rules := List.filter_sublist
  have hincidents : matching.mapM (config.ruleIncident snapshot) = some (matching.map incident) := by
    refine Option.mapM_eq_some_map fun rule hrule => ?_
    rw [ruleIncident, (hrules rule (hsublist.subset hrule)).1]
    rfl
  have hids : (matching.map incident).map (·.id) = (matching.map (·.id)).map fun id => .rule ⟨id⟩ := by
    rw [List.map_map, List.map_map]
    rfl
  have hmatching : ∀ rule ∈ config.health.rules, rule ∈ matching ↔ Holds config snapshot rule.condition := by
    intro rule hrule
    rw [List.mem_filter, and_iff_right hrule]
    exact matchesCondition_iff (nodup_of_validate h).1 rule.condition (hrules rule hrule).2
  have hdistinct : ((matching.map incident).map (·.id)).Nodup := by
    rw [hids]
    exact (hnodup.sublist (hsublist.map _)).map fun a b hab => RuleId.mk.inj (IncidentId.rule.inj hab)
  have hprimary := FirstMax.foldl_better (fun incident : Incident => incident.level.priority.toNat)
    (matching.map incident)
  rw [← moreSevere_eq] at hprimary
  rw [evaluateHealth, hincidents]
  refine ⟨_, _, rfl, ⟨matching, hsublist, hmatching, rfl⟩, hdistinct, ?_⟩
  rcases hprimary with ⟨hnil, hnone⟩ | ⟨first, hfirst, hmax⟩
  · rw [hnone]
    exact .inl ⟨hnil, rfl⟩
  · rw [hfirst]
    exact .inr ⟨first, hmax, rfl⟩

end Config

/-- An accepted configuration is evaluated for every snapshot, and reports exactly the rules that hold. In a condition
    that was read, a backup of unknown age satisfies no other comparison than the two that allow it. -/
theorem health_evaluated {config : Config} {build : SoftwareVersion} {u : Unit} (h : config.validate build = .ok u)
    (snapshot : HealthSnapshot) :
    (∃ report incidents, config.evaluateHealth snapshot = some (report, incidents) ∧
      Evaluated config snapshot report incidents) ∧
    ∀ rule ∈ config.health.rules, ∀ content : Content, content.condition = some rule.condition →
      snapshot.lastSuccessfulBackupAgeSeconds = none →
      ∀ p : Predicate, p.Occurs rule.condition → p.measurement = .backupAge →
        (Holds config snapshot (.predicate p) ↔
          p.missingOrGreaterThan.isSome ∨ ∃ values, p.isIn = some values ∧ .null ∈ values) := by
  refine ⟨Config.evaluateHealth_eq h, fun rule hrule content hread hage p hoccurs hp => ?_⟩
  have hvalid := (Config.rules_of_validate h).2 rule hrule
  exact Config.holds_unknownAge (Predicate.valid_of_occurs hvalid.2 hoccurs) (Predicate.plain_of_read hread hoccurs)
    hage hp

/-- A rule on the age of a backup, and a rule on the processor. -/
def Config.watched : Config :=
  { guestsOnly with
    health :=
      { default := ⟨.healthy, "HEALTHY"⟩
        rules :=
          [⟨"backup_old", .warning, .predicate ⟨.backupAge, none, none, none, none, some 86400000⟩, "BACKUP OLD"⟩,
            ⟨"cpu_high", .critical, .predicate ⟨.cpuPercent, none, none, some (.finite 85), none, none⟩, "CPU {value}%"⟩] } }

theorem Config.watched_valid : Config.watched.validate ⟨"1.0"⟩ = .ok () := by rfl

theorem health_evaluated_watched :
    (∃ report incidents, Config.watched.evaluateHealth (.ofGuests "pve" []) = some (report, incidents) ∧
      Evaluated Config.watched (.ofGuests "pve" []) report incidents) ∧
    ∀ rule ∈ Config.watched.health.rules, ∀ content : Content, content.condition = some rule.condition →
      (HealthSnapshot.ofGuests "pve" []).lastSuccessfulBackupAgeSeconds = none →
      ∀ p : Predicate, p.Occurs rule.condition → p.measurement = .backupAge →
        (Holds Config.watched (.ofGuests "pve" []) (.predicate p) ↔
          p.missingOrGreaterThan.isSome ∨ ∃ values, p.isIn = some values ∧ .null ∈ values) :=
  health_evaluated Config.watched_valid (.ofGuests "pve" [])

/-- The host above is idle and has no backup. -/
example : Config.watched.evaluateHealth (.ofGuests "pve" []) =
    some (⟨.warning, "BACKUP OLD"⟩, [⟨.rule ⟨"backup_old"⟩, .warning, "BACKUP OLD"⟩]) := by rfl

end Servatory
