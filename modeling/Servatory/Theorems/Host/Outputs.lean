import Servatory.Theorems.Guests
import Servatory.Theorems.Host.Phases
import Servatory.Theorems.Host.Policy

/-! What the daemon compiles for its outputs while it runs: the manifests of an accepted configuration for as many
    guests as the protocol can count, and when the manifest for the network compiles behind the checks before it. -/

namespace Servatory

namespace Host
variable {config : Config} {build : SoftwareVersion} {h : Host} {w : World}

theorem phase_updateDisplay (next : DisplayConfig) : (h.updateDisplay next w).1.phase = h.phase := by
  rcases updateDisplay_cases next h w with ⟨-, h1⟩ | ⟨outcomes, h1⟩ | ⟨text, outcomes, went, h1⟩
  all_goals rw [h1]
  rfl

theorem phase_updateNetwork (next : NetworkConfig) : (h.updateNetwork next w).1.phase = h.phase := by
  rcases updateNetwork_cases next h w with ⟨-, h1⟩ | ⟨-, outcomes, h1⟩ | ⟨text, outcomes, went, h1⟩
  all_goals rw [h1]
  rfl

theorem phase_updateManifests {guestCount : Nat} {r : Host × World}
    (hr : h.updateManifests config build guestCount w = .ok r) : r.1.phase = h.phase := by
  rcases updateManifests_eq_ok hr with ⟨-, rfl⟩ | ⟨display, network, -, -, rfl⟩
  · rfl
  · exact (phase_updateNetwork network).trans (phase_updateDisplay display)

theorem phase_sendSnapshot (updateInterval sentAt : Nat) (snapshot : HealthSnapshot) :
    (h.sendSnapshot updateInterval sentAt snapshot w).1.phase = h.phase := by
  rcases sendSnapshot_cases updateInterval sentAt snapshot h w with
    ⟨-, h1⟩ | ⟨-, ⟨outcomes, h1⟩ | ⟨text, outcomes, went, h1⟩⟩
  all_goals rw [h1]
  rfl

end Host

namespace Config
variable {config : Config} {build : SoftwareVersion} {g : Nat}

/-! ### The manifests of an accepted configuration -/

theorem displayConfig_pages {display : DisplayConfig} (h : config.displayConfig build g = .ok display) :
    display.pages ≠ [] := by
  obtain ⟨_, _, pages, -, -, -, hne, -, -, rfl⟩ := displayConfig_eq_ok.mp h
  exact hne

theorem compiles_of_le {u : Unit} (hv : config.validate build = .ok u) (hg : g ≤ UInt32.size) :
    Except.Succeeds (config.displayConfig build g) ∧ Except.Succeeds (config.networkConfig g) := by
  obtain ⟨hd0, hn0⟩ := compiles_of_validate hv
  exact ⟨⟨_, displayConfig_succeeds hd0 fun _ => offsetsFit_of_le hg⟩,
    ⟨_, networkConfig_succeeds hn0 fun _ _ _ => offsetsFit_of_le hg⟩⟩

theorem updateManifests_succeeds {u : Unit} (hv : config.validate build = .ok u) (hg : g ≤ UInt32.size) (h : Host)
    (w : World) : Except.Succeeds (h.updateManifests config build g w) := by
  obtain ⟨⟨display, hdisplay⟩, ⟨network, hnetwork⟩⟩ := compiles_of_le hv hg
  rw [Host.updateManifests]
  split
  · rw [hdisplay, hnetwork]
    exact Except.succeeds_ok _
  · exact Except.succeeds_pure _

/-- An update does not end the process. -/
theorem phase_sendUpdate {u : Unit} (hv : config.validate build = .ok u) {h : Host}
    (hg : ∀ snapshot, h.latestHealth = some snapshot → snapshot.guests.guests.length ≤ UInt32.size) (now sentAt : Nat)
    (w : World) : (h.sendUpdate config build now sentAt w).1.phase = h.phase := by
  rw [Host.sendUpdate]
  split
  · split
    · rfl
    · rename_i snapshot hlatest
      obtain ⟨⟨h₁, w₁⟩, hr⟩ := updateManifests_succeeds hv (hg snapshot hlatest) { h with latestHealth := none } w
      obtain ⟨report, incidents, hreport, -⟩ := @evaluateHealth_eq config build snapshot u hv
      have hphase : h₁.phase = h.phase := Host.phase_updateManifests hr
      rw [hr, hreport]
      exact (Host.phase_sendSnapshot ..).trans hphase
  · rfl

/-- An accepted configuration has both manifests, with a page for the LCD, for as many guests as the protocol can count.
    So compiling them anew does not end the process, in whatever state it is. -/
theorem manifests_compile {u : Unit} (hv : config.validate build = .ok u) (hg : g ≤ UInt32.size) :
    (∃ display network, config.displayConfig build g = .ok display ∧ config.networkConfig g = .ok network ∧
      display.pages ≠ []) ∧
    (∀ (h : Host) (w : World), ∃ r, h.updateManifests config build g w = .ok r) ∧
    ∀ (h : Host) (w : World) (now sentAt : Nat), h.phase ≠ .stopped →
      (∀ snapshot, h.latestHealth = some snapshot → snapshot.guests.guests.length ≤ UInt32.size) →
      (h.step config build (.update now sentAt) w).1.phase ≠ .stopped := by
  obtain ⟨⟨display, hdisplay⟩, ⟨network, hnetwork⟩⟩ := compiles_of_le hv hg
  refine ⟨⟨display, network, hdisplay, hnetwork, displayConfig_pages hdisplay⟩, updateManifests_succeeds hv hg, ?_⟩
  intro h w now sentAt hrunning hcounts
  have hphase := phase_sendUpdate hv hcounts now sentAt w
  rw [Host.step]
  split
  · exact hrunning
  · rename_i hupdate
    dsimp only [Host.proceed]
    rw [hphase, if_neg hrunning]
    split
    all_goals
      intro hstopped
      cases hstopped

theorem manifests_compile_guestsOnly :
    ∃ display network, guestsOnly.displayConfig ⟨"1.0"⟩ UInt32.size = .ok display ∧
      guestsOnly.networkConfig UInt32.size = .ok network ∧ display.pages ≠ [] :=
  (manifests_compile guestsOnly_valid (Nat.le_refl _)).1

/-! ### The network manifest behind the checks of the outputs -/

/-- The checks of `validate` before the manifests are compiled. -/
def checks (config : Config) : Except ConfigError Unit := do
  bailIf (config.version != 2) (.unsupportedVersion config.version)
  bailIf (config.host.updateInterval == 0) .updateIntervalZero
  bailIf (config.connection.usbSerial.reconnectInterval == 0) .reconnectIntervalZero
  bailIf (config.actions.shutdown.holdTime == 0) .holdTimeZero
  bailIf (config.actions.shutdown.animationDelay ≥ config.actions.shutdown.holdTime) .animationDelayTooLong
  bailIf config.sources.filesystems.isEmpty .noFilesystem
  validateIds "filesystem" [] (config.sources.filesystems.map (·.id))
  validateIds "SMART device" [] (config.sources.smart.devices.map (·.id))
  config.sources.filesystems.forM validateFilesystem
  config.sources.smart.devices.forM validateSmartDevice
  bailIf (config.sources.ups.failuresBeforeUnavailable == 0) .upsFailuresZero
  bailIf (config.sources.proxmox.backup.taskHistoryLimit == 0) .historyLimitZero
  bailIf
    (config.sources.internet.target.isEmpty || config.sources.internet.interval == 0 ||
      config.sources.internet.timeout == 0 || config.sources.internet.failuresBeforeFailed == 0)
    .internetInvalid
  validateMessage config.health.default.message "health.default.message"
  validateIds "health rule" [] (config.health.rules.map (·.id))
  config.health.rules.forM config.validateRule
  config.validateOutputs

theorem validate_eq (config : Config) (build : SoftwareVersion) :
    config.validate build = config.checks >>= fun _ => config.validateManifestSizes build := by
  simp only [validate, checks, bind_assoc]

/-- The view is configured, and so are all filesystems and disks that it lists. -/
def ViewResolves (config : Config) (id : String) : Prop :=
  ∃ view, config.views.lookup id = some view ∧ ∀ filesystemIds smartIds filesystemsLeft,
    view.layout = .storage filesystemIds smartIds filesystemsLeft → config.Resolves filesystemIds smartIds

theorem resolveIndices_succeeds {kind : String} {position : String → Option Nat} {ids : List String}
    (h : ∀ id ∈ ids, ∃ index, position id = some index ∧ index < UInt32.size) :
    Except.Succeeds (resolveIndices kind position ids) := by
  refine Except.succeeds_mapM.mpr fun id hid => ?_
  obtain ⟨index, hindex, hlt⟩ := h id hid
  rw [hindex]
  dsimp only
  rw [if_pos hlt]
  exact Except.succeeds_ok _

/-- The offset of the last page fits the protocol exactly when it can count the guests. -/
theorem offsetsFit_iff : OffsetsFit g ↔ g ≤ UInt32.size := by
  rw [OffsetsFit, guestPages]
  simp only [UInt32.size]
  omega

theorem offsetsFit_of_compileView {view : ViewConfig} (hp : ViewConfig.Paginated view)
    (h : Except.Succeeds (config.compileView view g)) : OffsetsFit g := by
  obtain ⟨offset, limit, hlayout⟩ := hp
  rw [compileView] at h
  simp only [hlayout] at h
  have hlast : guestPages g - 1 ∈ List.range (guestPages g) := by
    rw [List.mem_range, guestPages]
    omega
  obtain ⟨page, hpage⟩ := Except.succeeds_mapM.mp h _ hlast
  rw [guestPage] at hpage
  split at hpage
  · assumption
  · cases hpage

theorem compileView_succeeds_iff {view : ViewConfig} (hr : ∀ filesystemIds smartIds filesystemsLeft,
      view.layout = .storage filesystemIds smartIds filesystemsLeft → config.Resolves filesystemIds smartIds) :
    Except.Succeeds (config.compileView view g) ↔ (ViewConfig.Paginated view → g ≤ UInt32.size) := by
  constructor
  · exact fun h hp => offsetsFit_iff.mp (offsetsFit_of_compileView hp h)
  · intro hg
    refine compileView_succeeds ?_ fun hp => offsetsFit_iff.mpr (hg hp)
    rw [compileView]
    cases hlayout : view.layout with
    | guests paginate offset limit =>
      cases paginate with
      | true =>
        refine Except.succeeds_mapM.mpr fun index hindex => guestPage_succeeds (offsetsFit_iff.mpr (Nat.zero_le _)) _ ?_
        exact List.mem_range.mp hindex
      | false => exact Except.succeeds_ok _
    | storage filesystemIds smartIds filesystemsLeft =>
      obtain ⟨hfilesystems, hdevices⟩ := hr _ _ _ hlayout
      obtain ⟨_, hf⟩ := @resolveIndices_succeeds "filesystem" _ _ hfilesystems
      obtain ⟨_, hs⟩ := @resolveIndices_succeeds "SMART device" _ _ hdevices
      exact Except.succeeds_bind.mpr ⟨_, hf, Except.succeeds_bind.mpr ⟨_, hs, Except.succeeds_pure _⟩⟩
    | _ => exact Except.succeeds_ok _

/-- Views that resolve compile exactly when there is one, and the guests of a paginated one can be counted. -/
theorem compilePagesFor_succeeds_iff {viewIds : List String} {output : String}
    (hr : ∀ id ∈ viewIds, config.ViewResolves id) :
    Except.Succeeds (config.compilePagesFor viewIds g output) ↔
      viewIds ≠ [] ∧ (config.HasPaginated viewIds → g ≤ UInt32.size) := by
  rw [succeeds_compilePagesFor]
  refine and_congr_right fun _ => ⟨?_, fun hg id hid => ?_⟩
  · rintro h ⟨id, hid, view, hview, hp⟩
    obtain ⟨other, hother, hcompiles⟩ := h id hid
    obtain rfl := Option.some.inj (hview.symm.trans hother)
    exact offsetsFit_iff.mp (offsetsFit_of_compileView hp hcompiles)
  · obtain ⟨view, hview, hresolves⟩ := hr id hid
    exact ⟨view, hview, (compileView_succeeds_iff hresolves).mpr fun hp => hg ⟨id, hid, view, hview, hp⟩⟩

theorem networkConfig_succeeds_iff : Except.Succeeds (config.networkConfig g) ↔
    ∀ http, config.outputs.http = some http → Except.Succeeds (config.compilePagesFor http.views g "HTTP") := by
  rw [networkConfig, Except.succeeds_bind_of_forall fun _ => Except.succeeds_pure _, httpConfig]
  cases config.outputs.http with
  | none => exact ⟨fun _ http h => absurd h.symm (Option.some_ne_none http), fun _ => Except.succeeds_ok _⟩
  | some http =>
    dsimp only
    rw [Except.succeeds_bind_of_forall fun _ => Except.succeeds_pure _]
    exact ⟨fun h _ heq => Option.some.inj heq ▸ h, fun h => h http rfl⟩

/-- Where the views of the HTTP output resolve, the manifest for the network compiles exactly when there is no such
    output, or one with a view, and no more guests than a paginated view can count. The check of the outputs allows a
    disabled output without views; no configuration with one is accepted. -/
theorem outputs_agree_iff (hhttp : ∀ http, config.outputs.http = some http → ∀ id ∈ http.views, config.ViewResolves id)
    (g : Nat) :
    (Except.Succeeds (config.networkConfig g) ↔ ∀ http, config.outputs.http = some http →
      http.views ≠ [] ∧ (config.HasPaginated http.views → g ≤ UInt32.size)) ∧
    ∀ http, config.outputs.http = some http → http.views = [] → ∀ u, config.validate build ≠ .ok u := by
  have hiff : ∀ g, Except.Succeeds (config.networkConfig g) ↔ ∀ http, config.outputs.http = some http →
      http.views ≠ [] ∧ (config.HasPaginated http.views → g ≤ UInt32.size) := by
    intro g
    rw [networkConfig_succeeds_iff]
    exact forall₂_congr fun http heq => compilePagesFor_succeeds_iff (hhttp http heq)
  refine ⟨hiff g, fun http heq hnil u hv => ?_⟩
  exact ((hiff 0).mp (compiles_of_validate hv).2 http heq).1 hnil

/-- The guests on the LCD, and a disabled HTTP output. -/
def guestsAndHttp (viewIds : List String) : Config :=
  { guestsOnly with outputs := ⟨⟨⟨["guests"]⟩⟩, some ⟨false, "servatory", 80, viewIds⟩, none⟩ }

theorem guestsAndHttp_resolves (viewIds : List String) : (guestsAndHttp viewIds).ViewResolves "guests" :=
  ⟨⟨"GUESTS", .guests true 0 4⟩, rfl, fun _ _ _ => nofun⟩

theorem outputs_agree_guests : Except.Succeeds ((guestsAndHttp ["guests"]).networkConfig 7) := by
  have hhttp : ∀ http, (guestsAndHttp ["guests"]).outputs.http = some http →
      ∀ id ∈ http.views, (guestsAndHttp ["guests"]).ViewResolves id := by
    rintro http ⟨⟩ id hid
    rw [List.mem_singleton.mp hid]
    exact guestsAndHttp_resolves _
  refine (@outputs_agree_iff (guestsAndHttp ["guests"]) ⟨"1.0"⟩ hhttp 7).1.mpr ?_
  rintro http ⟨⟩
  exact ⟨by decide, fun _ => by decide⟩

/-- A disabled HTTP output without views passes the check of the outputs, and does not compile. -/
theorem outputs_disagree :
    (guestsAndHttp []).checks = .ok () ∧ (guestsAndHttp []).outputs.stick.lcd.views ≠ [] ∧
      (∀ id ∈ (guestsAndHttp []).outputs.stick.lcd.views, (guestsAndHttp []).ViewResolves id) ∧
      (∀ http, (guestsAndHttp []).outputs.http = some http →
        http.enabled = false ∧ ∀ id ∈ http.views, (guestsAndHttp []).ViewResolves id) ∧
      (guestsAndHttp []).networkConfig 0 = .error (.viewsEmpty "HTTP") ∧
      (guestsAndHttp []).validate ⟨"1.0"⟩ = .error (.viewsEmpty "HTTP") := by
  have hchecks : (guestsAndHttp []).checks = .ok () := rfl
  refine ⟨hchecks, by decide, ?_, ?_, by rfl, ?_⟩
  · intro id hid
    rw [List.mem_singleton.mp hid]
    exact guestsAndHttp_resolves _
  · rintro http ⟨⟩
    exact ⟨rfl, fun _ => nofun⟩
  · rw [validate_eq, hchecks]
    rfl

end Config
end Servatory
