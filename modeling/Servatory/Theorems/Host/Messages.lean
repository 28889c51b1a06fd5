import Servatory.Lib.Template
import Servatory.Theorems.Host.Policy

/-! The messages of the rules. The documentation puts labels and values in place of all placeholders at once; the code
    looks for the first filesystem that a template names, replaces its placeholders, and then those of the value. -/

namespace Servatory
open Template

/-! ### What the documentation says -/

mutual
/-- The predicates of a condition, in the order of the file. -/
def Condition.predicates : Condition → List Predicate
  | .all children => Condition.predicatesOf children
  | .any children => Condition.predicatesOf children
  | .predicate p => [p]

def Condition.predicatesOf : List Condition → List Predicate
  | [] => []
  | child :: rest => child.predicates ++ Condition.predicatesOf rest
end

def FilesystemConfig.slot (fs : FilesystemConfig) : Slot Char where
  placeholder := ("\x7bfilesystem." ++ fs.id ++ ".label\x7d").toList
  text := fs.label.toList

def valueSlot (value : Nat) : Slot Char where
  placeholder := "\x7bvalue\x7d".toList
  text := (toString value).toList

namespace Config

/-- The number that a predicate measures. -/
def number (config : Config) (snapshot : HealthSnapshot) (p : Predicate) : Option Nat :=
  match config.metric snapshot p.measurement with
  | .number value => some value
  | _ => none

/-- The first number that a rule measures; where none is known, the message says 0. -/
def value (config : Config) (rule : HealthRule) (snapshot : HealthSnapshot) : Nat :=
  (rule.condition.predicates.filterMap (config.number snapshot)).head?.getD 0

def labelSlots (config : Config) : List (Slot Char) := config.sources.filesystems.map (·.slot)

/-- The message of a rule with everything in place. -/
def substituted (config : Config) (rule : HealthRule) (snapshot : HealthSnapshot) : String :=
  String.ofList (substitute (valueSlot (config.value rule snapshot) :: config.labelSlots) rule.message.toList)

/-- The filesystem that the code finds in a template, between the first `filesystem.` and the next `.label`. -/
def namedFilesystem (config : Config) (template : String) : Option FilesystemConfig :=
  ((Text.splitAtFirst "filesystem.".toList template.toList).bind fun parts =>
    Text.splitAtFirst ".label\x7d".toList parts.2).bind fun parts =>
      config.sources.filesystems.find? (·.id == String.ofList parts.1)

/-- All placeholders for labels are of the filesystem that is found, and the labels complete no placeholder for the
    value. -/
structure Renders (config : Config) (template : String) : Prop where
  named : ∀ fs ∈ config.sources.filesystems, fs.slot.placeholder <:+: template.toList →
    config.namedFilesystem template = some fs
  value : occurrences "\x7bvalue\x7d".toList (substitute config.labelSlots template.toList) =
    occurrences "\x7bvalue\x7d".toList template.toList

end Config

/-! ### One replacement -/

theorem slotAt_single {slot : Slot Char} {text : List Char} :
    slotAt [slot] text = if slot.placeholder.isPrefixOf text then some slot else none := by
  rw [slotAt, List.find?_cons, List.find?_nil]
  cases slot.placeholder.isPrefixOf text <;> rfl

/-- Replacing one placeholder is substitution with one slot. -/
theorem replaceFrom_eq {slot : Slot Char} (skip : Nat) (text : List Char) :
    replaceFrom slot.placeholder slot.text skip text = substituteFrom [slot] skip text := by
  induction text generalizing skip with
  | nil => cases skip <;> rfl
  | cons c rest ih =>
    cases skip with
    | succ skip => exact ih skip
    | zero =>
      rw [replaceFrom, substituteFrom, slotAt_single]
      by_cases hstart : slot.placeholder.isPrefixOf (c :: rest) = true
      · rw [if_pos hstart, if_pos hstart, ih]
      · rw [if_neg hstart, if_neg hstart, ih]

theorem substitute_of_splitAtFirst (slot : Slot Char) {text : List Char}
    (h : Text.splitAtFirst slot.placeholder text = none) : substitute [slot] text = text := by
  induction text with
  | nil => rfl
  | cons c rest ih =>
    rw [Text.splitAtFirst] at h
    by_cases hstart : slot.placeholder.isPrefixOf (c :: rest) = true
    · rw [if_pos hstart] at h
      cases h
    · rw [if_neg hstart, Option.map_eq_none_iff] at h
      rw [substitute_cons (by rw [slotAt_single, if_neg hstart]), ih h]

namespace Config
variable {config : Config} {build : SoftwareVersion} {rule : HealthRule} {snapshot : HealthSnapshot} {template : String}

theorem replaceAll_eq {needle new : String} (slot : Slot Char) (hplaceholder : needle.toList = slot.placeholder)
    (htext : new.toList = slot.text) : replaceAll template needle new = String.ofList (substitute [slot] template.toList) := by
  rw [replaceAll, hplaceholder, htext, replaceFrom_eq, substitute]

theorem substitute_nil_table (text : List Char) : substitute [] text = text := by
  induction text with
  | nil => rfl
  | cons c rest ih => rw [substitute_cons rfl, ih]

theorem renderLabel_eq :
    config.renderLabel template =
      String.ofList (substitute ((config.namedFilesystem template).toList.map (·.slot)) template.toList) := by
  rw [renderLabel, namedFilesystem]
  cases (Text.splitAtFirst "filesystem.".toList template.toList).bind fun parts =>
      Text.splitAtFirst ".label\x7d".toList parts.2 with
  | none => rw [Option.bind_none, Option.toList_none, List.map_nil, substitute_nil_table, String.ofList_toList]
  | some parts =>
    obtain ⟨id, behind⟩ := parts
    rw [Option.bind_some]
    cases hfs : config.sources.filesystems.find? (·.id == String.ofList id) with
    | none =>
      simp only [hfs]
      rw [Option.toList_none, List.map_nil, substitute_nil_table, String.ofList_toList]
    | some fs =>
      have hid : fs.id = String.ofList id :=
        beq_iff_eq.mp (List.find?_some (p := fun fs : FilesystemConfig => fs.id == String.ofList id) hfs)
      simp only [hfs]
      rw [Option.toList_some, List.map_singleton]
      refine replaceAll_eq fs.slot ?_ rfl
      rw [← hid]
      rfl

theorem metricsForValue_eq (condition : Condition) :
    config.metricsForValue snapshot condition = (condition.predicates.filterMap (config.number snapshot)).head? := by
  have hlist : ∀ children : List Condition, (∀ child ∈ children, config.metricsForValue snapshot child =
      (child.predicates.filterMap (config.number snapshot)).head?) →
      config.firstMetric snapshot children =
        ((Condition.predicatesOf children).filterMap (config.number snapshot)).head? := by
    intro children
    induction children with
    | nil =>
      intro _
      rw [firstMetric, Condition.predicatesOf]
      rfl
    | cons child rest ih =>
      intro h
      rw [List.forall_mem_cons] at h
      rw [firstMetric, Condition.predicatesOf, h.1, ih h.2, List.filterMap_append, List.head?_append]
  induction condition using Condition.induction with
  | all children ih =>
    rw [metricsForValue, Condition.predicates]
    exact hlist children ih
  | any children ih =>
    rw [metricsForValue, Condition.predicates]
    exact hlist children ih
  | predicate p =>
    rw [metricsForValue, Condition.predicates]
    show config.number snapshot p = _
    cases hnumber : config.number snapshot p with
    | none => rw [List.filterMap_cons_none hnumber, List.filterMap_nil, List.head?_nil]
    | some value => rw [List.filterMap_cons_some hnumber, List.filterMap_nil, List.head?_cons]

/-- The code replaces the placeholders for the label that it finds, and then those for the value. -/
theorem renderMessage_eq :
    config.renderMessage rule snapshot =
      String.ofList (substitute [valueSlot (config.value rule snapshot)]
        (substitute ((config.namedFilesystem rule.message).toList.map (·.slot)) rule.message.toList)) := by
  rw [renderMessage, renderLabel_eq]
  generalize substitute ((config.namedFilesystem rule.message).toList.map (·.slot)) rule.message.toList = labelled
  have hvalue : (config.metricsForValue snapshot rule.condition).getD 0 = config.value rule snapshot := by
    rw [metricsForValue_eq, value]
  simp only [String.toList_ofList, hvalue]
  by_cases hcontains : (Text.splitAtFirst "\x7bvalue\x7d".toList labelled).isSome = true
  · rw [if_pos hcontains, replaceAll_eq (valueSlot (config.value rule snapshot)) rfl rfl, String.toList_ofList]
  · rw [if_neg hcontains]
    rw [Bool.not_eq_true, Option.isSome_eq_false_iff, Option.isNone_iff_eq_none] at hcontains
    rw [substitute_of_splitAtFirst (valueSlot (config.value rule snapshot)) hcontains]

/-! ### The placeholders -/

theorem placeholder_eq (fs : FilesystemConfig) :
    fs.slot.placeholder = '\x7b' :: ("filesystem.".toList ++ fs.id.toList ++ ".label".toList ++ ['\x7d']) := by
  rw [FilesystemConfig.slot, String.toList_append, String.toList_append]
  show '\x7b' :: ("filesystem.".toList ++ fs.id.toList ++ (".label".toList ++ ['\x7d'])) = _
  rw [List.append_assoc, List.append_assoc, List.append_assoc]

theorem marked_of_validId {fs : FilesystemConfig} (h : fs.id.toList.all isIdChar = true) :
    Marked '\x7b' '\x7d' fs.slot.placeholder := by
  have hid : ∀ c ∈ fs.id.toList, c ≠ '\x7b' ∧ c ≠ '\x7d' := by
    intro c hc
    have hchar := List.all_eq_true.mp h c hc
    constructor
    · rintro rfl
      cases hchar
    · rintro rfl
      cases hchar
  refine ⟨_, placeholder_eq fs, ?_, ?_⟩
  · rw [List.mem_append, List.mem_append, not_or, not_or]
    exact ⟨⟨by decide, fun hc => (hid _ hc).1 rfl⟩, by decide⟩
  · rw [List.mem_append, List.mem_append, not_or, not_or]
    exact ⟨⟨by decide, fun hc => (hid _ hc).2 rfl⟩, by decide⟩

/-- What the check has found of the filesystems. -/
theorem filesystems_of_validate {u : Unit} (h : config.validate build = .ok u) :
    ∀ fs ∈ config.sources.filesystems, fs.id.toList.all isIdChar = true ∧ fs.label.toList ≠ [] := by
  intro fs hfs
  obtain ⟨-, -, hchars⟩ := validIds (validated h).filesystemIds fs.id (List.mem_map_of_mem hfs)
  obtain ⟨_, hlabel, -⟩ := Except.bind_eq_ok.mp ((validated h).filesystems fs hfs)
  refine ⟨hchars, fun hempty => ?_⟩
  have hlabel := bailIf_eq_ok.mp hlabel
  rw [String.toList_eq_nil_iff.mp hempty] at hlabel
  cases hlabel

theorem slot_inj {u : Unit} (h : config.validate build = .ok u) {fs other : FilesystemConfig}
    (hfs : fs ∈ config.sources.filesystems) (hother : other ∈ config.sources.filesystems)
    (hsame : fs.slot.placeholder = other.slot.placeholder) : fs = other := by
  refine List.inj_on_of_nodup_map (nodup_of_validate h).1 hfs hother ?_
  rw [placeholder_eq, placeholder_eq, List.cons.injEq, List.append_assoc, List.append_assoc, List.append_assoc,
    List.append_assoc, List.append_cancel_left_eq, List.append_cancel_right_eq] at hsame
  exact String.toList_inj.mp hsame.2

theorem valueSlot_ne (fs : FilesystemConfig) (value : Nat) : (valueSlot value).placeholder ≠ fs.slot.placeholder := by
  rw [placeholder_eq]
  intro hsame
  cases (List.cons.inj (List.cons.inj hsame).2).1

theorem wellMarked_slots {u : Unit} (h : config.validate build = .ok u) (value : Nat) :
    WellMarked '\x7b' '\x7d' (valueSlot value :: config.labelSlots) := by
  have hlabel : ∀ {slot : Slot Char}, slot ∈ config.labelSlots → ∃ fs ∈ config.sources.filesystems, fs.slot = slot :=
    fun hslot => List.mem_map.mp hslot
  refine ⟨by decide, ?_, ?_⟩
  · rw [List.forall_mem_cons]
    refine ⟨⟨"value".toList, rfl, by decide, by decide⟩, fun slot hslot => ?_⟩
    obtain ⟨fs, hfs, rfl⟩ := hlabel hslot
    exact marked_of_validId (filesystems_of_validate h fs hfs).1
  · intro a ha b hb hsame
    rcases List.mem_cons.mp ha with rfl | ha
    · rcases List.mem_cons.mp hb with rfl | hb
      · rfl
      · obtain ⟨fs, -, rfl⟩ := hlabel hb
        exact absurd hsame (valueSlot_ne fs value)
    · obtain ⟨fs, hfs, rfl⟩ := hlabel ha
      rcases List.mem_cons.mp hb with rfl | hb
      · exact absurd hsame.symm (valueSlot_ne fs value)
      · obtain ⟨other, hother, rfl⟩ := hlabel hb
        rw [slot_inj h hfs hother hsame]

theorem text_valueSlot (value : Nat) : ∃ c text, (valueSlot value).text = c :: text ∧ c ≠ '\x7b' := by
  have hdigits : (valueSlot value).text = Nat.toDigits 10 value := Nat.toList_repr
  obtain ⟨c, text, htext⟩ := List.exists_cons_of_ne_nil (@Nat.toDigits_ne_nil value 10)
  refine ⟨c, text, hdigits.trans htext, ?_⟩
  have hdigit : c.isDigit := Nat.isDigit_of_mem_toDigits (by decide) (by decide) (htext ▸ List.mem_cons_self ..)
  rintro rfl
  cases hdigit

theorem namedFilesystem_mem {fs : FilesystemConfig} (h : config.namedFilesystem template = some fs) :
    fs ∈ config.sources.filesystems := by
  obtain ⟨parts, -, hfs⟩ := Option.bind_eq_some_iff.mp h
  exact List.mem_of_find?_eq_some hfs

theorem sequential {u : Unit} (h : config.validate build = .ok u) (value : Nat) (template : String) :
    Sequential '\x7b' '\x7d' (valueSlot value :: config.labelSlots)
      ((config.namedFilesystem template).toList.map (·.slot)) (valueSlot value) where
  wellMarked := wellMarked_slots h value
  mem := List.mem_cons_self ..
  first := by
    intro slot hslot
    obtain ⟨fs, hfs, rfl⟩ := List.mem_map.mp hslot
    have hmem := namedFilesystem_mem (Option.mem_toList.mp hfs)
    exact ⟨List.mem_cons_of_mem _ (List.mem_map_of_mem hmem), fun hsame => valueSlot_ne fs value (by rw [hsame])⟩
  text := text_valueSlot value

/-- The first replacement leaves no label when every filesystem that stands in the template is the one that is found. -/
theorem named_iff {u : Unit} (h : config.validate build = .ok u) {value : Nat} :
    (∀ fs ∈ config.sources.filesystems, fs.slot.placeholder <:+: template.toList →
      config.namedFilesystem template = some fs) ↔
    ∀ slot ∈ valueSlot value :: config.labelSlots, slot ≠ valueSlot value → slot.placeholder <:+: template.toList →
      slot ∈ (config.namedFilesystem template).toList.map (·.slot) := by
  constructor
  · intro hnamed slot hslot hne hwithin
    obtain ⟨fs, hfs, rfl⟩ := List.mem_map.mp (List.mem_of_ne_of_mem hne hslot)
    exact List.mem_map_of_mem (Option.mem_toList.mpr (hnamed fs hfs hwithin))
  · intro hall fs hfs hwithin
    have hmem := hall fs.slot (List.mem_cons_of_mem _ (List.mem_map_of_mem hfs))
      (fun hsame => valueSlot_ne fs value (by rw [hsame])) hwithin
    obtain ⟨found, hfound, hsame⟩ := List.mem_map.mp hmem
    have hfound := Option.mem_toList.mp hfound
    rw [hfound, slot_inj h (namedFilesystem_mem hfound) hfs (by rw [hsame])]

/-- The labels put in place, when all are of the filesystem that is found. -/
theorem substitute_labels {u : Unit} (h : config.validate build = .ok u)
    (hnamed : ∀ fs ∈ config.sources.filesystems, fs.slot.placeholder <:+: template.toList →
      config.namedFilesystem template = some fs) :
    substitute config.labelSlots template.toList =
      substitute ((config.namedFilesystem template).toList.map (·.slot)) template.toList := by
  have hlabels := (wellMarked_slots h 0).sublist fun slot (hslot : slot ∈ config.labelSlots) => List.mem_cons_of_mem _ hslot
  refine hlabels.substitute_congr (fun slot hslot => ?_) template.toList fun slot hslot hwithin => ?_
  · obtain ⟨fs, hfs, rfl⟩ := List.mem_map.mp hslot
    exact List.mem_map_of_mem (namedFilesystem_mem (Option.mem_toList.mp hfs))
  · obtain ⟨fs, hfs, rfl⟩ := List.mem_map.mp hslot
    exact List.mem_map_of_mem (Option.mem_toList.mpr (hnamed fs hfs hwithin))

end Config

/-- A message is the documented one when its template meets the condition above, and only then as long as no label that
    the code leaves out begins with a brace. -/
theorem message_substituted_iff {config : Config} {build : SoftwareVersion} {u : Unit}
    (h : config.validate build = .ok u) (rule : HealthRule) (snapshot : HealthSnapshot) :
    (config.Renders rule.message → config.renderMessage rule snapshot = config.substituted rule snapshot) ∧
    ((∀ fs ∈ config.sources.filesystems, fs.slot.placeholder <:+: rule.message.toList →
        config.namedFilesystem rule.message = some fs ∨ fs.label.toList.head? ≠ some '\x7b') →
      config.renderMessage rule snapshot = config.substituted rule snapshot → config.Renders rule.message) := by
  have hseq := Config.sequential h (config.value rule snapshot) rule.message
  rw [Config.renderMessage_eq, Config.substituted, String.ofList_inj]
  constructor
  · rintro ⟨hnamed, hvalue⟩
    rw [Config.substitute_labels h hnamed] at hvalue
    exact (hseq.substitute_iff _ ((Config.named_iff h).mp hnamed)).mpr hvalue
  · intro hplain heq
    have hall := hseq.mem_first_of_substitute _ (fun slot hslot hne hwithin hnot => ?_) heq
    · have hnamed := (Config.named_iff h).mpr hall
      refine ⟨hnamed, ?_⟩
      rw [Config.substitute_labels h hnamed]
      exact (hseq.substitute_iff _ hall).mp heq
    · obtain ⟨fs, hfs, rfl⟩ := List.mem_map.mp (List.mem_of_ne_of_mem hne hslot)
      obtain ⟨c, text, htext⟩ := List.exists_cons_of_ne_nil (Config.filesystems_of_validate h fs hfs).2
      rcases hplain fs hfs hwithin with hfound | hhead
      · exact absurd (List.mem_map_of_mem (Option.mem_toList.mpr hfound)) hnot
      · refine ⟨c, text, htext, fun hc => hhead ?_⟩
        rw [htext, hc, List.head?_cons]

/-- A rule on the use of the root filesystem. -/
def rootFull (id message : String) : HealthRule where
  id := id
  severity := .critical
  condition := .predicate ⟨.filesystem "root" .usedPercent, none, none, none, some (.finite 90), none⟩
  message := message

/-- The rule of the documentation. -/
def fullRule : HealthRule := rootFull "full" "\x7bfilesystem.root.label\x7d \x7bvalue\x7d% FULL"

/-- Two labels in one template. -/
def twoRule : HealthRule := rootFull "two" "\x7bfilesystem.root.label\x7d OR \x7bfilesystem.data.label\x7d"

/-- Text that looks like a placeholder before one. -/
def alikeRule : HealthRule := rootFull "alike" "filesystem. \x7bfilesystem.root.label\x7d"

/-- A label that looks like a placeholder. -/
def insertedRule : HealthRule := rootFull "inserted" "\x7bfilesystem.data.label\x7d"

def Config.twoDisks : Config :=
  { guestsOnly with
    sources :=
      { guestsOnly.sources with filesystems := [⟨"root", "/", "ROOT"⟩, ⟨"data", "/data", "\x7bvalue\x7d"⟩] }
    health := ⟨⟨.healthy, "HEALTHY"⟩, [fullRule, twoRule, alikeRule, insertedRule]⟩ }

theorem Config.twoDisks_valid : Config.twoDisks.validate ⟨"1.0"⟩ = .ok () := by rfl

theorem message_substituted_full :
    Config.twoDisks.renderMessage fullRule (.ofGuests "pve" []) =
      Config.twoDisks.substituted fullRule (.ofGuests "pve" []) := by
  refine (message_substituted_iff Config.twoDisks_valid fullRule (.ofGuests "pve" [])).1 ⟨fun fs hfs hwithin => ?_, by rfl⟩
  rcases List.mem_cons.mp hfs with rfl | hfs
  · rfl
  · obtain rfl := List.mem_singleton.mp hfs
    exact absurd hwithin (by decide)

/-- The second placeholder is left, the text before a placeholder disables it, and a label is replaced again. -/
theorem messages_not_substituted :
    Config.twoDisks.validate ⟨"1.0"⟩ = .ok () ∧
      ∀ rule ∈ [twoRule, alikeRule, insertedRule], rule ∈ Config.twoDisks.health.rules ∧
        Config.twoDisks.renderMessage rule (.ofGuests "pve" []) ≠
          Config.twoDisks.substituted rule (.ofGuests "pve" []) := by
  refine ⟨Config.twoDisks_valid, ?_⟩
  rw [List.forall_mem_cons, List.forall_mem_cons, List.forall_mem_singleton]
  refine ⟨⟨.tail _ (.head _), fun heq => ?_⟩, ⟨.tail _ (.tail _ (.head _)), fun heq => ?_⟩,
    ⟨.tail _ (.tail _ (.tail _ (.head _))), fun heq => ?_⟩⟩
  · have heq : "ROOT OR \x7bfilesystem.data.label\x7d" = "ROOT OR \x7bvalue\x7d" := heq
    exact absurd heq (by decide)
  · have heq : "filesystem. \x7bfilesystem.root.label\x7d" = "filesystem. ROOT" := heq
    exact absurd heq (by decide)
  · have heq : "0" = "\x7bvalue\x7d" := heq
    exact absurd heq (by decide)

end Servatory
