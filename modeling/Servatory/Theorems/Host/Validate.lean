import Servatory.Host.Config
import Servatory.Lib.Except

/-! What the check of a configuration has found when it accepts it. -/

namespace Servatory

theorem bailIf_eq_ok {check : Bool} {error : ConfigError} {u : Unit} : bailIf check error = .ok u ↔ check = false := by
  cases check with
  | true => exact ⟨nofun, nofun⟩
  | false => exact ⟨fun _ => rfl, fun _ => rfl⟩

/-! ### Ids -/

theorem nodup_of_validateIds {kind : String} {ids seen : List String} {u : Unit}
    (h : validateIds kind seen ids = .ok u) : ids.Nodup ∧ ∀ id ∈ ids, id ∉ seen := by
  induction ids generalizing seen with
  | nil => exact ⟨List.nodup_nil, by simp⟩
  | cons id ids ih =>
    rw [validateIds] at h
    obtain ⟨-, -, h⟩ := Except.bind_eq_ok.mp h
    obtain ⟨_, hnew, h⟩ := Except.bind_eq_ok.mp h
    obtain ⟨hnodup, hunseen⟩ := ih h
    have hid : id ∉ seen := by
      intro hmem
      cases (List.contains_iff_mem.mpr hmem).symm.trans (bailIf_eq_ok.mp hnew)
    refine ⟨List.nodup_cons.mpr ⟨fun hmem => hunseen id hmem (List.mem_cons_self ..), hnodup⟩, ?_⟩
    intro other hother hseen
    rcases List.mem_cons.mp hother with rfl | hother
    · exact hid hseen
    · exact hunseen other hother (List.mem_cons_of_mem _ hseen)

theorem validIds {kind : String} {ids seen : List String} {u : Unit} (h : validateIds kind seen ids = .ok u) :
    ∀ id ∈ ids, id.isEmpty = false ∧ id.utf8ByteSize ≤ maxRuleIdLen ∧ id.toList.all isIdChar = true := by
  induction ids generalizing seen with
  | nil => exact fun _ => nofun
  | cons id ids ih =>
    rw [validateIds] at h
    obtain ⟨_, hvalid, h⟩ := Except.bind_eq_ok.mp h
    have hvalid := bailIf_eq_ok.mp hvalid
    rw [Bool.or_eq_false_iff, Bool.or_eq_false_iff, decide_eq_false_iff_not, Bool.not_eq_false'] at hvalid
    rw [List.forall_mem_cons]
    exact ⟨⟨hvalid.1.1, Nat.not_lt.mp hvalid.1.2, hvalid.2⟩, ih (Except.ok_of_seq h)⟩

/-! ### The steps of the check -/

namespace Config
variable {config : Config} {build : SoftwareVersion}

/-- Every step of the check has passed. -/
structure Validated (config : Config) (build : SoftwareVersion) : Prop where
  version : config.version = 2
  updateInterval : config.host.updateInterval ≠ 0
  reconnectInterval : config.connection.usbSerial.reconnectInterval ≠ 0
  holdTime : config.actions.shutdown.holdTime ≠ 0
  animationDelay : config.actions.shutdown.animationDelay < config.actions.shutdown.holdTime
  nonempty : config.sources.filesystems ≠ []
  filesystemIds : validateIds "filesystem" [] (config.sources.filesystems.map (·.id)) = .ok ()
  smartIds : validateIds "SMART device" [] (config.sources.smart.devices.map (·.id)) = .ok ()
  filesystems : ∀ fs ∈ config.sources.filesystems, validateFilesystem fs = .ok ()
  devices : ∀ disk ∈ config.sources.smart.devices, validateSmartDevice disk = .ok ()
  upsFailures : config.sources.ups.failuresBeforeUnavailable ≠ 0
  historyLimit : config.sources.proxmox.backup.taskHistoryLimit ≠ 0
  internet : config.sources.internet.target.isEmpty = false ∧ config.sources.internet.interval ≠ 0 ∧
    config.sources.internet.timeout ≠ 0 ∧ config.sources.internet.failuresBeforeFailed ≠ 0
  defaultMessage : config.health.default.message.isEmpty = false
  ruleIds : validateIds "health rule" [] (config.health.rules.map (·.id)) = .ok ()
  rules : ∀ rule ∈ config.health.rules, config.validateRule rule = .ok ()
  outputs : config.validateOutputs = .ok ()
  sizes : config.validateManifestSizes build = .ok ()

theorem validated {u : Unit} (h : config.validate build = .ok u) : Validated config build := by
  rw [validate] at h
  obtain ⟨_, hversion, h⟩ := Except.bind_eq_ok.mp h
  obtain ⟨_, hupdate, h⟩ := Except.bind_eq_ok.mp h
  obtain ⟨_, hreconnect, h⟩ := Except.bind_eq_ok.mp h
  obtain ⟨_, hhold, h⟩ := Except.bind_eq_ok.mp h
  obtain ⟨_, hdelay, h⟩ := Except.bind_eq_ok.mp h
  obtain ⟨_, hnonempty, h⟩ := Except.bind_eq_ok.mp h
  obtain ⟨_, hfilesystemIds, h⟩ := Except.bind_eq_ok.mp h
  obtain ⟨_, hsmartIds, h⟩ := Except.bind_eq_ok.mp h
  obtain ⟨_, hfilesystems, h⟩ := Except.bind_eq_ok.mp h
  obtain ⟨_, hdevices, h⟩ := Except.bind_eq_ok.mp h
  obtain ⟨_, hups, h⟩ := Except.bind_eq_ok.mp h
  obtain ⟨_, hhistory, h⟩ := Except.bind_eq_ok.mp h
  obtain ⟨_, hinternet, h⟩ := Except.bind_eq_ok.mp h
  obtain ⟨_, hmessage, h⟩ := Except.bind_eq_ok.mp h
  obtain ⟨_, hruleIds, h⟩ := Except.bind_eq_ok.mp h
  obtain ⟨_, hrules, h⟩ := Except.bind_eq_ok.mp h
  obtain ⟨_, houtputs, hsizes⟩ := Except.bind_eq_ok.mp h
  have hinternet := bailIf_eq_ok.mp hinternet
  simp only [Bool.or_eq_false_iff, beq_eq_false_iff_ne] at hinternet
  obtain ⟨⟨⟨htarget, hinterval⟩, htimeout⟩, hfailures⟩ := hinternet
  exact {
    version := by
      have hversion := bailIf_eq_ok.mp hversion
      rwa [bne_eq_false_iff_eq] at hversion
    updateInterval := beq_eq_false_iff_ne.mp (bailIf_eq_ok.mp hupdate)
    reconnectInterval := beq_eq_false_iff_ne.mp (bailIf_eq_ok.mp hreconnect)
    holdTime := beq_eq_false_iff_ne.mp (bailIf_eq_ok.mp hhold)
    animationDelay := Nat.not_le.mp (of_decide_eq_false (bailIf_eq_ok.mp hdelay))
    nonempty := List.isEmpty_eq_false_iff.mp (bailIf_eq_ok.mp hnonempty)
    filesystemIds := hfilesystemIds
    smartIds := hsmartIds
    filesystems := Except.ok_of_forM hfilesystems
    devices := Except.ok_of_forM hdevices
    upsFailures := beq_eq_false_iff_ne.mp (bailIf_eq_ok.mp hups)
    historyLimit := beq_eq_false_iff_ne.mp (bailIf_eq_ok.mp hhistory)
    internet := ⟨htarget, hinterval, htimeout, hfailures⟩
    defaultMessage := bailIf_eq_ok.mp hmessage
    ruleIds := hruleIds
    rules := Except.ok_of_forM hrules
    outputs := houtputs
    sizes := hsizes }

end Config
end Servatory
