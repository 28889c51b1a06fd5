import Servatory.Theorems.Host.Messages
import Servatory.Theorems.Host.Policy
import Servatory.Theorems.Stick.Drawing

/-! The cause that the overview names: the message of the report goes into a string of 16 bytes, which refuses a longer
    message as a whole. Nothing is drawn at all under a host name that does not fit the title bar. -/

namespace Servatory

/-! ### A message is never empty -/

theorem replaceFrom_ne_nil {needle new : List Char} {text : List Char} (hnew : new ≠ []) (htext : text ≠ []) :
    replaceFrom needle new 0 text ≠ [] := by
  obtain ⟨c, rest, rfl⟩ := List.exists_cons_of_ne_nil htext
  rw [replaceFrom]
  split
  · exact List.append_ne_nil_of_left_ne_nil hnew _
  · exact List.cons_ne_nil _ _

theorem replaceAll_ne_nil {text needle new : String} (hnew : new.toList ≠ []) (htext : text.toList ≠ []) :
    (replaceAll text needle new).toList ≠ [] := by
  rw [replaceAll, String.toList_ofList]
  exact replaceFrom_ne_nil hnew htext

namespace Config
variable {config : Config} {build : SoftwareVersion} {snapshot : HealthSnapshot}

theorem renderLabel_ne_nil {u : Unit} (h : config.validate build = .ok u) {template : String}
    (htemplate : template.toList ≠ []) : (config.renderLabel template).toList ≠ [] := by
  rw [renderLabel]
  split
  · exact htemplate
  · split
    · rename_i fs hfs
      exact replaceAll_ne_nil (filesystems_of_validate h fs (List.mem_of_find?_eq_some hfs)).2 htemplate
    · exact htemplate

theorem renderMessage_ne_nil {u : Unit} (h : config.validate build = .ok u) {rule : HealthRule}
    (hrule : rule ∈ config.health.rules) : (config.renderMessage rule snapshot).toList ≠ [] := by
  have htemplate : rule.message.toList ≠ [] := by
    intro hempty
    obtain ⟨_, -, hmessage⟩ := Except.bind_eq_ok.mp ((validated h).rules rule hrule)
    have hmessage := bailIf_eq_ok.mp hmessage
    rw [String.toList_eq_nil_iff.mp hempty] at hmessage
    cases hmessage
  have hlabel := renderLabel_ne_nil h htemplate
  rw [renderMessage]
  split
  · refine replaceAll_ne_nil ?_ hlabel
    rw [show toString ((config.metricsForValue snapshot rule.condition).getD 0) = String.ofList (Nat.toDigits 10 _) from rfl,
      String.toList_ofList]
    exact Nat.toDigits_ne_nil
  · exact hlabel

/-- The report of an accepted configuration has a message. -/
theorem report_ne_nil {u : Unit} {report : HealthReport} {incidents : List Incident}
    (h : config.validate build = .ok u) (he : config.evaluateHealth snapshot = some (report, incidents)) :
    report.message.toList ≠ [] := by
  obtain ⟨_, _, heq, hevaluated⟩ := @evaluateHealth_eq _ _ snapshot _ h
  obtain ⟨rfl, rfl⟩ := Prod.mk.inj (Option.some.inj (he.symm.trans heq))
  obtain ⟨matching, hsublist, -, hincidents⟩ := hevaluated.matching
  rcases hevaluated.primary with ⟨-, rfl⟩ | ⟨incident, hfirst, rfl⟩
  · intro hempty
    have hmessage : config.health.default.message = "" := String.toList_eq_nil_iff.mp hempty
    cases hmessage ▸ (validated h).defaultMessage
  · obtain ⟨before, after, hsplit, -, -⟩ := hfirst
    have hmem : incident ∈ incidents := by
      rw [hsplit]
      exact List.mem_append_right _ (List.mem_cons_self ..)
    rw [hincidents] at hmem
    obtain ⟨rule, hrule, rfl⟩ := List.mem_map.mp hmem
    exact renderMessage_ne_nil h (hsublist.subset hrule)

end Config

/-! ### What is drawn -/

/-- The texts that start at a point of the screen. -/
def textsAt (x y : Int) (texts : List Text) : List String := (texts.filter fun t => t.x = x && t.y = y).map (·.text)

theorem write_singleton {N : Nat} (piece : String) :
    (FixedString.empty.write [piece] : FixedString N).value = if piece.utf8ByteSize ≤ N then piece else "" := by
  have hempty : ((FixedString.empty : FixedString N).value ++ piece) = piece := String.empty_append
  rw [FixedString.write, FixedString.push?]
  simp only [hempty]
  split
  · rename_i hpush
    split at hpush
    · rw [if_pos ‹_›, ← Option.some.inj hpush]
      rfl
    · cases hpush
  · rename_i hpush
    split at hpush
    · cases hpush
    · rw [if_neg ‹_›]
      rfl

/-- Below the word CAUSE stands the message, when it fits. -/
theorem textsAt_drawOverview {snapshot : HealthSnapshot} {page pageCount : Nat} {title : String} {texts : List Text}
    (h : drawOverview snapshot page title pageCount = .ok texts) (hlevel : snapshot.health.level ≠ .healthy) :
    textsAt 12 91 texts = ["CAUSE"] ∧
      textsAt 12 108 texts =
        [if snapshot.health.message.utf8ByteSize ≤ 16 then snapshot.health.message else ""] := by
  obtain ⟨header, hheader, h⟩ := Except.bind_eq_ok.mp h
  obtain ⟨hostName, -, hheader⟩ := Except.bind_eq_ok.mp hheader
  cases hheader
  cases h
  rw [← write_singleton, if_pos hlevel]
  exact ⟨rfl, rfl⟩

/-- The overview shows a beginning of the message below the word CAUSE. -/
def NamesCause (snapshot : HealthSnapshot) (page pageCount : Nat) (title : String) : Prop :=
  ∃ texts cause, drawOverview snapshot page title pageCount = .ok texts ∧ textsAt 12 91 texts = ["CAUSE"] ∧
    textsAt 12 108 texts = [cause] ∧ cause ≠ "" ∧ cause.toList <+: snapshot.health.message.toList

/-- The overview is drawn and names the cause exactly when the host name fits its column and the message of the primary
    incident has at most 16 bytes. -/
theorem cause_named_iff {config : Config} {build : SoftwareVersion} {u : Unit} {snapshot : HealthSnapshot}
    {report : HealthReport} {incidents : List Incident} (h : config.validate build = .ok u)
    (he : config.evaluateHealth snapshot = some (report, incidents)) (hlevel : report.level ≠ .healthy)
    (page pageCount : Nat) (title : String) :
    NamesCause { snapshot with health := report, activeIncidents := incidents } page pageCount title ↔
      HostNameFits snapshot ∧ report.message.utf8ByteSize ≤ 16 := by
  have hdraws : Except.Succeeds
      (drawOverview { snapshot with health := report, activeIncidents := incidents } page title pageCount) ↔
        HostNameFits snapshot := by
    rw [drawOverview, Except.succeeds_bind_of_forall fun _ => Except.succeeds_pure _]
    exact drawHeader_succeeds _ title page pageCount
  constructor
  · rintro ⟨texts, cause, htexts, -, hcause, hne, -⟩
    refine ⟨hdraws.mp ⟨texts, htexts⟩, ?_⟩
    rw [(textsAt_drawOverview htexts hlevel).2] at hcause
    by_contra hlong
    rw [if_neg hlong] at hcause
    exact hne (List.singleton_inj.mp hcause).symm
  · rintro ⟨hhost, hfits⟩
    obtain ⟨texts, htexts⟩ := hdraws.mpr hhost
    obtain ⟨hword, hcause⟩ := textsAt_drawOverview htexts hlevel
    rw [if_pos hfits] at hcause
    refine ⟨texts, _, htexts, hword, hcause, fun hempty => Config.report_ne_nil h he ?_, List.prefix_refl _⟩
    rw [show report.message = "" from hempty]
    rfl

/-- A rule that always holds, on the load of the processors. -/
def alwaysWarned (message : String) : Config :=
  { Config.guestsOnly with
    health :=
      { default := ⟨.healthy, "HEALTHY"⟩
        rules := [⟨"cpu", .warning, .predicate ⟨.cpuPercent, none, none, some (.finite 0), none, none⟩, message⟩] } }

theorem alwaysWarned_valid : (alwaysWarned "CPU \x7bvalue\x7d%").validate ⟨"1.0"⟩ = .ok () ∧
    (alwaysWarned "PROCESSOR USE IS \x7bvalue\x7d%").validate ⟨"1.0"⟩ = .ok () := ⟨by rfl, by rfl⟩

/-- An idle host with this report. -/
def warnedSnapshot (message : String) : HealthSnapshot :=
  { HealthSnapshot.ofGuests "pve" [] with
    health := ⟨.warning, message⟩, activeIncidents := [⟨.rule ⟨"cpu"⟩, .warning, message⟩] }

theorem cause_named_cpu : NamesCause (warnedSnapshot "CPU 0%") 0 1 "OVERVIEW" := by
  have he : (alwaysWarned "CPU \x7bvalue\x7d%").evaluateHealth (.ofGuests "pve" []) =
      some (⟨.warning, "CPU 0%"⟩, [⟨.rule ⟨"cpu"⟩, .warning, "CPU 0%"⟩]) := by rfl
  have hhost : HostNameFits (.ofGuests "pve" []) := show (String.ofList _).utf8ByteSize ≤ 11 by decide
  exact (cause_named_iff alwaysWarned_valid.1 he (by decide) 0 1 "OVERVIEW").mpr ⟨hhost, by decide⟩

/-- A message that has grown beyond 16 bytes with its value is not shown at all. -/
theorem cause_not_named :
    ¬∀ (config : Config) (build : SoftwareVersion) (snapshot : HealthSnapshot) (report : HealthReport)
      (incidents : List Incident), config.validate build = .ok () →
        config.evaluateHealth snapshot = some (report, incidents) → report.level ≠ .healthy →
          NamesCause { snapshot with health := report, activeIncidents := incidents } 0 1 "OVERVIEW" := by
  intro hall
  have he : (alwaysWarned "PROCESSOR USE IS \x7bvalue\x7d%").evaluateHealth (.ofGuests "pve" []) =
      some (⟨.warning, "PROCESSOR USE IS 0%"⟩, [⟨.rule ⟨"cpu"⟩, .warning, "PROCESSOR USE IS 0%"⟩]) := by rfl
  obtain ⟨texts, cause, htexts, -, hcause, hne, -⟩ := hall _ ⟨"1.0"⟩ _ _ _ alwaysWarned_valid.2 he (by decide)
  rw [(textsAt_drawOverview htexts (by decide)).2] at hcause
  exact hne (List.singleton_inj.mp hcause).symm

end Servatory
