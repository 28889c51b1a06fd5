import Servatory.Firmware.Dashboard

/-! What a browser reads of the dashboard: the same tags whatever the strings in the shared state say, and the strings
    as they are. -/

namespace Servatory

/-! ### Free text -/

/-- A label without its text, as the values below are without theirs. -/
def DisplayLabel.blank (_ : DisplayLabel) : DisplayLabel := ⟨""⟩

def Incident.blank (incident : Incident) : Incident := { incident with message := "" }

def GuestSummary.blank (guest : GuestSummary) : GuestSummary := { guest with name := "" }

def SmartDeviceSummary.blank (device : SmartDeviceSummary) : SmartDeviceSummary := { device with label := "" }

def DisplayView.blank (view : DisplayView) : DisplayView := { view with title := ⟨""⟩ }

/-- Whether there is a network interface is not free text. -/
def HealthSnapshot.blank (snapshot : HealthSnapshot) : HealthSnapshot :=
  { snapshot with
    health := { snapshot.health with message := "" }
    activeIncidents := snapshot.activeIncidents.map .blank
    guests := ⟨snapshot.guests.guests.map .blank⟩
    smart := ⟨snapshot.smart.devices.map .blank⟩
    hostName := ""
    networkInterface := if snapshot.networkInterface.isEmpty then "" else "-" }

def NetworkConfig.blank (config : NetworkConfig) : NetworkConfig where
  http := { config.http with hostname := "", pages := config.http.pages.map .blank }
  ntfy := { config.ntfy with server := "" }

/-- What the web server does not read of the state is left out as well: its port, and what is to be stored. -/
def SharedState.blank (state : SharedState) : SharedState where
  snapshot := state.snapshot.map .blank
  manifest := state.manifest.map .blank
  filesystemLabels := state.filesystemLabels.map .blank
  lastUpdate := state.lastUpdate
  stationIpv4 := state.stationIpv4
  ntfyTopic := state.ntfyTopic.map fun _ => ""
  daemonVersion := state.daemonVersion.map fun _ => ⟨""⟩
  webServerPort := none
  manifests := none
  topicUpdates := none

namespace Dashboard
open Html (Write Parses Closed Leads leads)
open Html.Write

/-! ### The buffer -/

/-- How a character is pushed by `push_html`. -/
def escape : Char → String
  | '&' => "&amp;"
  | '<' => "&lt;"
  | '>' => "&gt;"
  | '"' => "&quot;"
  | c => String.singleton c

theorem escape_of_plain {c : Char} (hamp : c ≠ '&') (hlt : c ≠ '<') (hgt : c ≠ '>') (hquot : c ≠ '"') :
    escape c = String.singleton c := by
  unfold escape
  split
  · exact absurd rfl hamp
  · exact absurd rfl hlt
  · exact absurd rfl hgt
  · exact absurd rfl hquot
  · rfl

theorem pushHtml_eq (output : DashboardBuffer) (value : String) :
    pushHtml output value = value.toList.foldl (fun output c => output.pushStr (escape c)) output := by
  unfold pushHtml
  congr 1
  funext output c
  split
  · rfl
  · rfl
  · rfl
  · rfl
  · rename_i hamp hlt hgt hquot
    rw [escape_of_plain hamp hlt hgt hquot]
    rfl

/-- What has been pushed when nothing has overflowed. -/
theorem pushStr_fits {b : DashboardBuffer} {s : String} (h : (b.pushStr s).overflowed = false) :
    b.overflowed = false ∧ (b.pushStr s).inner.toList = b.inner.toList ++ s.toList := by
  unfold DashboardBuffer.pushStr at h ⊢
  split
  · rename_i hfits
    rw [if_pos hfits] at h
    exact ⟨h, String.toList_append⟩
  · rename_i hlong
    rw [if_neg hlong] at h
    cases h

theorem pushHtml_fits {b : DashboardBuffer} {s : String} (h : (pushHtml b s).overflowed = false) :
    b.overflowed = false ∧
      (pushHtml b s).inner.toList = b.inner.toList ++ s.toList.flatMap fun c => (escape c).toList := by
  rw [pushHtml_eq] at h ⊢
  generalize s.toList = cs at h ⊢
  induction cs generalizing b with
  | nil => exact ⟨h, (List.append_nil _).symm⟩
  | cons c cs ih =>
    obtain ⟨hpushed, hrest⟩ := ih h
    obtain ⟨hb, hc⟩ := pushStr_fits hpushed
    refine ⟨hb, ?_⟩
    rw [List.foldl_cons, hrest, hc, List.flatMap_cons, List.append_assoc]

theorem put_fits {b : DashboardBuffer} {w : Write} (h : (b.put w).overflowed = false) :
    b.overflowed = false ∧ (b.put w).inner.toList = b.inner.toList ++ w.chars escape := by
  cases w with
  | markup s => exact pushStr_fits h
  | number n => exact pushStr_fits h
  | text s => exact pushHtml_fits h

theorem foldl_put_fits {b : DashboardBuffer} {ws : List Write} (h : (ws.foldl .put b).overflowed = false) :
    b.overflowed = false ∧ (ws.foldl .put b).inner.toList = b.inner.toList ++ ws.flatMap (Write.chars escape) := by
  induction ws generalizing b with
  | nil => exact ⟨h, (List.append_nil _).symm⟩
  | cons w ws ih =>
    obtain ⟨hput, hrest⟩ := ih h
    obtain ⟨hb, hw⟩ := put_fits hput
    refine ⟨hb, ?_⟩
    rw [List.foldl_cons, hrest, hw, List.flatMap_cons, List.append_assoc]

variable {build : SoftwareVersion} {now later : Nat} {state : SharedState} {document : Bool}

/-- A markup that fits the buffer is what has been written. -/
theorem dashboardMarkup_eq (h : (dashboardBuffer build now later state document).overflowed = false) :
    (dashboardMarkup build now later state document).toList =
      (dashboardWrites build now later state document).flatMap (Write.chars escape) := by
  rw [dashboardMarkup, DashboardBuffer.finish, h, Bool.not_false, if_pos rfl]
  exact (foldl_put_fits h).2

/-! ### Every text stands between tags -/

theorem escapes : Html.Escapes escape := by
  intro c
  have hliteral : ∀ {l : List Char} {d : Char}, Html.Reader.data.run l = (.data, [.char d]) →
      Html.Reader.data.run (String.ofList l).toList = (.data, [.char d]) := by
    intro l d h
    rw [String.toList_ofList, h]
  unfold escape
  split
  · exact hliteral rfl
  · exact hliteral rfl
  · exact hliteral rfl
  · exact hliteral rfl
  · rename_i hamp hlt _ _
    rw [String.toList_singleton]
    simp only [Html.Reader.run, Html.Reader.step, Html.Reader.stepData, if_neg hamp, if_neg hlt, List.append_nil]

theorem leads_levelClass (level : HealthLevel) : Leads (.tag .value) (levelClass level) (.tag .unquoted) := by
  cases level <;> exact leads rfl

theorem leads_levelText (level : HealthLevel) : Leads .data (levelText level) .data := by
  cases level <;> exact leads rfl

theorem leads_backupStatusClass (status : BackupJobStatus) :
    Leads (.tag .value) (backupStatusClass status) (.tag .unquoted) := by
  cases status <;> exact leads rfl

theorem leads_smartStatusText (status : SmartStatus) : Leads .data (smartStatusText status) .data := by
  cases status <;> exact leads rfl

theorem leads_internetStatusClass (status : InternetStatus) :
    Leads (.tag .value) (internetStatusClass status) (.tag .unquoted) := by
  cases status <;> exact leads rfl

theorem leads_internetStatusText (status : InternetStatus) : Leads .data (internetStatusText status) .data := by
  cases status <;> exact leads rfl

theorem leads_pageClass (kind : Nat) : Leads (.tag .single) (pageClass kind) (.tag .single) := by
  unfold pageClass
  split <;> exact leads rfl

set_option maxRecDepth 20000 in
theorem leads_dashboardIcon (kind : Nat) : Leads .data (dashboardIcon kind) .data := by
  unfold dashboardIcon
  split <;> exact leads rfl

theorem leads_smartStatusClass (status : SmartStatus) :
    Leads (.tag .value) (smartStatusClass status) (.tag .value) ∨
      Leads (.tag .value) (smartStatusClass status) (.tag .unquoted) := by
  cases status with
  | sleeping => exact .inl (leads rfl)
  | _ => exact .inr (leads rfl)

theorem leads_upsStatusClass (status : UpsStatus) :
    Leads (.tag .value) (upsStatusClass status) (.tag .value) ∨
      Leads (.tag .value) (upsStatusClass status) (.tag .unquoted) := by
  cases status with
  | notConfigured => exact .inl (leads rfl)
  | _ => exact .inr (leads rfl)

/-- A class that may be empty. -/
theorem parses_class {s : String} {ws : List Write}
    (h : Leads (.tag .value) s (.tag .value) ∨ Leads (.tag .value) s (.tag .unquoted)) (rest : Closed ws) :
    Parses (.tag .value) (markup s :: markup ">" :: ws) .data := by
  rcases h with h | h
  · exact .markup (.tag .value) h (.markup .data (leads rfl) rest)
  · exact .markup (.tag .unquoted) h (.markup .data (leads rfl) rest)

theorem leads_formatDurationCompact (seconds : UInt32) : Leads .data (formatDurationCompact seconds) .data := by
  have hnumber : ∀ n : Nat, Leads .data (toString n) .data := fun n => Html.leads_number rfl n
  have hday : Leads .data "d " .data := leads rfl
  have hhour : Leads .data "h" .data := leads rfl
  have hhourBlank : Leads .data "h " .data := leads rfl
  have hminute : Leads .data "m" .data := leads rfl
  unfold formatDurationCompact
  refine Leads.ite ?_ (Leads.ite ?_ ?_)
  · exact (((hnumber _).append hday).append (hnumber _)).append hhour
  · exact (((hnumber _).append hhourBlank).append (hnumber _)).append hminute
  · exact (hnumber _).append hminute

theorem closed_renderMetric (label : String) (percent : UInt8) (detail : String) :
    Closed (renderMetric label percent detail) :=
  .markup .data (leads rfl) <| .text <| .markup .data (leads rfl) <| .number rfl <| .markup .data (leads rfl) <|
    .text <| .markup (.tag .single) (leads rfl) <| .number rfl <| .markup .data (leads rfl) .nil

theorem closed_renderOverview (snapshot : HealthSnapshot) : Closed (renderOverview snapshot) := by
  refine Closed.append (Closed.append ?_ (Closed.ite ?_ ?_)) ?_
  · exact .markup (.tag .value) (leads rfl) <| .markup (.tag .unquoted) (leads_levelClass _) <|
      .markup .data (leads rfl) <| .text <| .markup .data (leads rfl) <| .text <| .markup .data (leads rfl) <|
      .number rfl <| .markup .data (leads rfl) <| .number rfl <| .markup .data (leads rfl) .nil
  · exact .markup .data (leads rfl) .nil
  · exact .text .nil
  · exact .markup .data (leads rfl) <| .number rfl <| .markup .data (leads rfl) <| .number rfl <|
      .markup .data (leads rfl) <| .number rfl <| .markup .data (leads rfl) .nil

theorem closed_renderResources (snapshot : HealthSnapshot) : Closed (renderResources snapshot) := by
  refine Closed.append (Closed.append (Closed.append (Closed.append (Closed.append ?_ ?_) ?_) ?_) (Closed.ite ?_ ?_)) ?_
  · exact closed_renderMetric _ _ _
  · exact closed_renderMetric _ _ _
  · exact closed_renderMetric _ _ _
  · exact .markup .data (leads rfl) <| .number rfl <| .markup .data (leads rfl) .nil
  · exact .number rfl .nil
  · exact .nil
  · exact .number rfl <| .markup .data (leads rfl) .nil

theorem closed_renderDevice (device : SmartDeviceSummary) : Closed (renderDevice device) := by
  refine Closed.append (Closed.append ?_ ?_) ?_
  · exact .markup .data (leads rfl) <| .text <| .markup (.tag .value) (leads rfl) <|
      parses_class (leads_smartStatusClass _) <| .markup .data (leads_smartStatusText _) .nil
  · exact .elim .nil (fun _ => .markup .data (leads rfl) <| .number rfl <| .markup .data (leads rfl) .nil) _
  · exact .markup .data (leads rfl) .nil

theorem closed_renderStorage (snapshot : HealthSnapshot) (labels : List DisplayLabel) :
    Closed (renderStorage snapshot labels) := by
  refine Closed.append (Closed.append (Closed.append (Closed.append (Closed.append ?_ ?_) ?_) (Closed.ite ?_ ?_)) ?_) ?_
  · exact .markup .data (leads rfl) .nil
  · exact .flatMap fun p _ => closed_renderMetric _ _ _
  · exact .markup .data (leads rfl) .nil
  · exact .markup .data (leads rfl) .nil
  · exact .nil
  · exact .flatMap fun device _ => closed_renderDevice device
  · exact .markup (.tag .value) (leads rfl) <| .markup (.tag .unquoted) (leads_backupStatusClass _) <|
      .markup .data (leads rfl) <| .text <| .markup .data (leads rfl) .nil

set_option maxRecDepth 20000 in
theorem closed_renderPowerNetwork (snapshot : HealthSnapshot) : Closed (renderPowerNetwork snapshot) := by
  have hup : Leads (.tag .value) (if snapshot.networkUp then "ok" else "crit") (.tag .unquoted) :=
    .ite (leads rfl) (leads rfl)
  have hlink : Leads .data (if snapshot.networkUp then "UP" else "DOWN") .data := .ite (leads rfl) (leads rfl)
  have hdash : Closed [markup "—"] := .markup .data (leads rfl) .nil
  refine Closed.append (Closed.append (Closed.append (Closed.append (Closed.append (Closed.append (Closed.append
    (Closed.append (Closed.append (Closed.append ?_ ?_) ?_) ?_) ?_) ?_) ?_) (Closed.ite ?_ ?_)) ?_) (Closed.ite ?_ ?_)) ?_
  · exact .markup (.tag .value) (leads rfl) <| parses_class (leads_upsStatusClass _) <| .text <|
      .markup .data (leads rfl) .nil
  · exact .elim hdash (fun _ => .number rfl <| .markup .data (leads rfl) .nil) _
  · exact .markup .data (leads rfl) .nil
  · refine .elim hdash (fun _ => .elim ?_ (fun _ => ?_) _) _
    · exact .number rfl <| .markup .data (leads rfl) .nil
    · exact .number rfl <| .markup .data (leads rfl) <| .number rfl <| .markup .data (leads rfl) .nil
  · exact .markup .data (leads rfl) .nil
  · exact .elim hdash (fun _ => .text .nil) _
  · exact .markup .data (leads rfl) .nil
  · exact .markup .data (leads rfl) .nil
  · exact .text .nil
  · exact .markup (.tag .value) (leads rfl) <| .markup (.tag .unquoted) hup <| .markup .data (leads rfl) <|
      .markup .data hlink <| .markup .data (leads rfl) <| .number rfl <| .markup (.tag .value) (leads rfl) <|
      .markup (.tag .unquoted) (leads_internetStatusClass _) <| .markup .data (leads rfl) <|
      .markup .data (leads_internetStatusText _) <| .markup .data (leads rfl) <| .number rfl <|
      .markup .data (leads rfl) <| .number rfl <| .markup .data (leads rfl) <| .number rfl <|
      .markup .data (leads rfl) <| .number rfl <| .markup .data (leads rfl) .nil
  · refine Closed.append (Closed.append ?_ ?_) ?_
    · exact .markup .data (leads rfl) .nil
    · exact .elim (.markup .data (leads rfl) .nil)
        (fun _ => .markup .data (leads_formatDurationCompact _) <| .markup .data (leads rfl) .nil) _
    · exact .markup .data (leads rfl) .nil
  · exact .nil
  · exact .markup .data (leads rfl) .nil

theorem closed_renderGuest (guest : GuestSummary) : Closed (renderGuest guest) := by
  have hclass : Leads (.tag .single) (if guest.status = .running then "ok" else "crit") (.tag .single) :=
    .ite (leads rfl) (leads rfl)
  have hstatus : Leads .data (if guest.status = .running then "RUNNING" else "STOPPED") .data :=
    .ite (leads rfl) (leads rfl)
  exact .markup .data (leads rfl) <| .number rfl <| .markup .data (leads rfl) <| .text <| .markup .data (leads rfl) <|
    .markup .data (by cases guest.kind <;> exact leads rfl) <| .markup (.tag .single) (leads rfl) <| .markup (.tag .single) hclass <|
    .markup .data (leads rfl) <| .markup .data hstatus <| .markup .data (leads rfl) <| .number rfl <|
    .markup (.tag .single) (leads rfl) <| .number rfl <| .markup .data (leads rfl) <| .number rfl <|
    .markup .data (leads rfl) <| .number rfl <| .markup (.tag .single) (leads rfl) <| .number rfl <|
    .markup .data (leads rfl) .nil

theorem closed_renderGuests (snapshot : HealthSnapshot) : Closed (renderGuests snapshot) := by
  refine Closed.append (Closed.append (Closed.append ?_ (Closed.ite ?_ ?_)) ?_) ?_
  · exact .markup .data (leads rfl) .nil
  · exact .markup .data (leads rfl) .nil
  · exact .nil
  · exact .flatMap fun guest _ => closed_renderGuest guest
  · exact .markup .data (leads rfl) .nil

theorem closed_renderPage (page : DisplayPage) (snapshot : HealthSnapshot) (labels : List DisplayLabel) :
    Closed (renderPage page snapshot labels) := by
  cases page with
  | overview => exact closed_renderOverview snapshot
  | resources => exact closed_renderResources snapshot
  | storage => exact closed_renderStorage snapshot labels
  | powerNetwork => exact closed_renderPowerNetwork snapshot
  | guests => exact closed_renderGuests snapshot

theorem closed_renderFact (label value : String) : Closed (renderFact label value) :=
  .markup .data (leads rfl) <| .text <| .markup .data (leads rfl) <| .text <| .markup .data (leads rfl) .nil

set_option maxRecDepth 20000 in
theorem closed_renderDevicePanels (build : SoftwareVersion) (state : SharedState) :
    Closed (renderDevicePanels build state) := by
  refine Closed.append (Closed.append (Closed.append (Closed.append ?_ ?_) ?_) ?_) ?_
  · exact .markup .data (leads rfl) <| .markup .data (leads_dashboardIcon 5) <| .markup .data (leads rfl) .nil
  · exact .elim .nil (fun _ => .markup .data (leads rfl) <| .text <| .markup .data (leads rfl) .nil) _
  · exact .markup (.tag .value) (leads rfl) <| .markup (.tag .unquoted) (.ite (leads rfl) (leads rfl)) <|
      .markup .data (leads rfl) <| .markup .data (.ite (leads rfl) (leads rfl)) <| .markup .data (leads rfl) <|
      .markup .data (leads rfl) <| .text <| .markup .data (leads rfl) <| .markup .data (leads rfl) <|
      .markup .data (leads_dashboardIcon 6) <| .markup .data (leads rfl) .nil
  · exact .flatMap fun fact _ => closed_renderFact fact.1 fact.2
  · exact .markup .data (leads rfl) .nil

theorem closed_renderView (snapshot : HealthSnapshot) (labels : List DisplayLabel) (view : DisplayView) :
    Closed (renderView snapshot labels view) := by
  refine Closed.append (Closed.append ?_ (closed_renderPage _ _ _)) ?_
  · exact .markup (.tag .single) (leads rfl) <| .markup (.tag .single) (leads_pageClass _) <|
      .markup .data (leads rfl) <| .markup .data (leads_dashboardIcon _) <| .markup .data (leads rfl) <| .text <|
      .markup .data (leads rfl) .nil
  · exact .markup .data (leads rfl) .nil

theorem closed_renderIncident (incident : Incident) : Closed (renderIncident incident) :=
  .markup (.tag .value) (leads rfl) <| .markup (.tag .unquoted) (leads_levelClass _) <| .markup .data (leads rfl) <|
    .text <| .markup .data (leads rfl) .nil

set_option maxRecDepth 20000 in
theorem closed_renderHead (level : HealthLevel) : Closed (renderHead level) :=
  .markup .data (leads rfl) <| .markup (.tag .value) (leads rfl) <|
    .markup (.tag .unquoted) (leads_levelClass _) <| .markup .data (leads rfl) .nil

theorem closed_ageText (age : Option Nat) : Closed (ageText age) := by
  unfold ageText
  split
  · exact .markup .data (leads rfl) .nil
  · exact .markup .data (leads rfl) .nil
  · exact .markup .data (leads rfl) .nil
  · exact .markup .data (leads rfl) <| .number rfl <| .markup .data (leads rfl) .nil

theorem closed_renderShell (level : HealthLevel) (age : Option Nat) : Closed (renderShell level age) := by
  refine Closed.append (Closed.append ?_ (closed_ageText age)) ?_
  · exact .markup (.tag .value) (leads rfl) <| .markup (.tag .unquoted) (leads_levelClass _) <|
      .markup (.tag .value) (leads rfl) <| .number rfl <| .markup (.tag .value) (leads rfl) <| .number rfl <|
      .markup .data (leads rfl) <| .markup .data (leads_dashboardIcon 0) <| .markup .data (leads rfl) <|
      .markup .data (.ite (leads rfl) (leads rfl)) <| .markup .data (leads rfl) <|
      .markup .data (leads_levelText _) <| .markup .data (leads rfl) .nil
  · exact .markup .data (leads rfl) .nil

theorem closed_renderIncidents (incidents : List Incident) : Closed (renderIncidents incidents) := by
  refine Closed.ite .nil (Closed.append (Closed.append ?_ ?_) ?_)
  · exact .markup .data (leads rfl) <| .markup .data (leads_dashboardIcon 7) <| .markup .data (leads rfl) .nil
  · exact .flatMap fun incident _ => closed_renderIncident incident
  · exact .markup .data (leads rfl) .nil

/-- Whatever the state, all tags are closed where a text stands and at the end. -/
theorem closed_dashboardWrites : Closed (dashboardWrites build now later state document) := by
  refine Closed.append (Closed.append (Closed.append (Closed.append (Closed.append (Closed.append (Closed.append
    (Closed.ite ?_ ?_) ?_) ?_) ?_) ?_) ?_) ?_) (Closed.ite ?_ ?_)
  · exact closed_renderHead _
  · exact .nil
  · exact closed_renderShell _ _
  · exact closed_renderIncidents _
  · exact .markup .data (leads rfl) .nil
  · exact .elim .nil (fun _ => .flatMap fun view _ => closed_renderView _ _ view) _
  · exact closed_renderDevicePanels build state
  · exact .markup .data (leads rfl) .nil
  · exact .markup .data (leads rfl) .nil
  · exact .nil

/-! ### The strings that are shown -/

def interfaceTexts (snapshot : HealthSnapshot) : List String :=
  if snapshot.networkInterface.isEmpty then [] else [snapshot.networkInterface]

def filesystemTexts (filesystemLabels : List DisplayLabel) (usage : FilesystemUsage) (index : Nat) : List String :=
  [((filesystemLabels[index]?).map (·.value)).getD "Filesystem",
    if usage.mounted then formatCapacityMib usage.availableMib ++ " available" else "MISSING"]

/-- The strings on a page, in order. -/
def pageTexts (snapshot : HealthSnapshot) (filesystemLabels : List DisplayLabel) : DisplayPage → List String
  | .overview => [snapshot.health.message, snapshot.hostName] ++ interfaceTexts snapshot
  | .resources =>
    ["CPU", "processor usage", "Memory",
      toString snapshot.memoryUsedMib.toNat ++ " / " ++ toString snapshot.memoryTotalMib.toNat ++ " MiB",
      "I/O pressure", "recent pressure"]
  | .storage _ _ _ =>
    (snapshot.filesystems.zipIdx.flatMap fun (usage, index) => filesystemTexts filesystemLabels usage index) ++
      snapshot.smart.devices.map (·.label) ++ [backupStatusText snapshot]
  | .powerNetwork _ =>
    [upsStatusText snapshot.ups.status snapshot.ups.stale] ++
      (snapshot.ups.runtimeSeconds.map formatDurationCompact).toList ++ interfaceTexts snapshot
  | .guests _ _ => snapshot.guests.guests.map (·.name)

def deviceTexts (build : SoftwareVersion) (state : SharedState) : List String :=
  state.ntfyTopic.toList ++ [(state.manifest.map (·.ntfy.server)).getD "—"] ++
    ["Firmware", build.value, "Daemon", (state.daemonVersion.map (·.value)).getD "WAITING", "Protocol",
      toString protocolVersion.toNat, "IP address",
      (state.stationIpv4.map fun address => String.join (ipv4Pieces address)).getD "WAITING", "Hostname",
      (state.manifest.map (·.http.hostname)).getD "servatory"]

/-- The strings on the dashboard, in order. -/
def shownTexts (build : SoftwareVersion) (now : Nat) (state : SharedState) : List String :=
  (activeIncidents now state).map (·.message) ++
    state.snapshot.elim [] (fun snapshot =>
      (shownViews [] ((state.manifest.map (·.http.pages)).getD [])).flatMap fun view =>
        view.title.value :: pageTexts snapshot state.filesystemLabels view.page) ++
    deviceTexts build state

def texts (ws : List Write) : List String := ws.filterMap Write.text?

section
variable {ws ws' : List Write}

@[simp] theorem texts_nil : texts [] = [] := rfl

@[simp] theorem texts_markup (s : String) : texts (markup s :: ws) = texts ws := rfl

@[simp] theorem texts_number (n : Int) : texts (number n :: ws) = texts ws := rfl

@[simp] theorem texts_text (s : String) : texts (text s :: ws) = s :: texts ws := rfl

@[simp] theorem texts_append : texts (ws ++ ws') = texts ws ++ texts ws' := List.filterMap_append

@[simp] theorem texts_ite {p : Prop} [Decidable p] :
    texts (if p then ws else ws') = if p then texts ws else texts ws' := by
  split <;> rfl

@[simp] theorem texts_elim {α : Type} (f : α → List Write) (o : Option α) :
    texts (o.elim ws f) = o.elim (texts ws) fun a => texts (f a) := by
  cases o <;> rfl

@[simp] theorem texts_flatMap {α : Type} (f : α → List Write) (l : List α) :
    texts (l.flatMap f) = l.flatMap fun a => texts (f a) := by
  induction l with
  | nil => rfl
  | cons a l ih => rw [List.flatMap_cons, texts_append, ih, List.flatMap_cons]

end

@[simp] theorem texts_renderMetric (label : String) (percent : UInt8) (detail : String) :
    texts (renderMetric label percent detail) = [label, detail] := rfl

@[simp] theorem texts_renderFilesystem (labels : List DisplayLabel) (usage : FilesystemUsage) (index : Nat) :
    texts (renderFilesystem labels usage index) = filesystemTexts labels usage index := rfl

@[simp] theorem texts_renderDevice (device : SmartDeviceSummary) : texts (renderDevice device) = [device.label] := by
  unfold renderDevice
  cases device.temperatureCelsius <;> rfl

@[simp] theorem texts_renderGuest (guest : GuestSummary) : texts (renderGuest guest) = [guest.name] := rfl

@[simp] theorem texts_renderPage (page : DisplayPage) (snapshot : HealthSnapshot) (labels : List DisplayLabel) :
    texts (renderPage page snapshot labels) = pageTexts snapshot labels page := by
  cases page with
  | overview => simp [renderPage, renderOverview, pageTexts, interfaceTexts]
  | resources => simp [renderPage, renderResources, pageTexts]
  | storage left filesystems devices => simp [renderPage, renderStorage, pageTexts, List.map_eq_flatMap]
  | powerNetwork left =>
    have hnone : ∀ {α : Type} (o : Option α), (o.elim [] fun _ => ([] : List String)) = [] := by
      intro α o
      cases o <;> rfl
    rw [renderPage, renderPowerNetwork, pageTexts, interfaceTexts]
    cases snapshot.ups.runtimeSeconds <;> simp [hnone]
  | guests offset limit => simp [renderPage, renderGuests, pageTexts, List.map_eq_flatMap]

@[simp] theorem texts_renderView (snapshot : HealthSnapshot) (labels : List DisplayLabel) (view : DisplayView) :
    texts (renderView snapshot labels view) = view.title.value :: pageTexts snapshot labels view.page := by
  simp [renderView]

@[simp] theorem texts_renderIncidents (incidents : List Incident) :
    texts (renderIncidents incidents) = incidents.map (·.message) := by
  cases incidents <;> simp [renderIncidents, renderIncident, List.map_eq_flatMap]

@[simp] theorem texts_ageText (age : Option Nat) : texts (ageText age) = [] := by
  unfold ageText
  split <;> rfl

@[simp] theorem texts_renderDevicePanels (build : SoftwareVersion) (state : SharedState) :
    texts (renderDevicePanels build state) = deviceTexts build state := by
  cases htopic : state.ntfyTopic <;> simp [renderDevicePanels, deviceTexts, renderFact, htopic]

/-- The texts that are written are the strings to be shown. -/
theorem texts_dashboardWrites :
    texts (dashboardWrites build now later state document) = shownTexts build now state := by
  simp [dashboardWrites, shownTexts, renderHead, renderShell]

/-! ### The shape of what is written -/

/-- The writes without the texts. -/
def shape (ws : List Write) : List Write := ws.map Write.blank

section
variable {ws ws' : List Write}

@[simp] theorem shape_nil : shape [] = [] := rfl

@[simp] theorem shape_markup (s : String) : shape (markup s :: ws) = markup s :: shape ws := rfl

@[simp] theorem shape_number (n : Int) : shape (number n :: ws) = number n :: shape ws := rfl

@[simp] theorem shape_text (s : String) : shape (text s :: ws) = text "" :: shape ws := rfl

@[simp] theorem shape_append : shape (ws ++ ws') = shape ws ++ shape ws' := List.map_append

@[simp] theorem shape_ite {p : Prop} [Decidable p] :
    shape (if p then ws else ws') = if p then shape ws else shape ws' := by
  split <;> rfl

@[simp] theorem shape_elim {α : Type} (f : α → List Write) (o : Option α) :
    shape (o.elim ws f) = o.elim (shape ws) fun a => shape (f a) := by
  cases o <;> rfl

@[simp] theorem shape_flatMap {α : Type} (f : α → List Write) (l : List α) :
    shape (l.flatMap f) = l.flatMap fun a => shape (f a) := List.map_flatMap ..

end

theorem isEmpty_networkInterface_blank (snapshot : HealthSnapshot) :
    snapshot.blank.networkInterface.isEmpty = snapshot.networkInterface.isEmpty := by
  unfold HealthSnapshot.blank
  cases snapshot.networkInterface.isEmpty <;> rfl

theorem running_blank (snapshot : HealthSnapshot) :
    (snapshot.blank.guests.guests.filter (·.status == .running)).length =
      (snapshot.guests.guests.filter (·.status == .running)).length := by
  show ((snapshot.guests.guests.map GuestSummary.blank).filter (·.status == .running)).length = _
  rw [List.filter_map, List.length_map]
  rfl

theorem length_guests_blank (snapshot : HealthSnapshot) :
    snapshot.blank.guests.guests.length = snapshot.guests.guests.length := List.length_map ..

theorem shape_renderFilesystem (labels : List DisplayLabel) (usage : FilesystemUsage) (index : Nat) :
    shape (renderFilesystem (labels.map .blank) usage index) = shape (renderFilesystem labels usage index) := rfl

theorem shape_renderPage (page : DisplayPage) (snapshot : HealthSnapshot) (labels : List DisplayLabel) :
    shape (renderPage page snapshot.blank (labels.map .blank)) = shape (renderPage page snapshot labels) := by
  cases page with
  | overview =>
    simp only [renderPage, renderOverview, shape_append, shape_ite, shape_markup, shape_number, shape_text, shape_nil,
      isEmpty_networkInterface_blank, running_blank, length_guests_blank]
    rfl
  | resources => rfl
  | storage left filesystems devices =>
    have hdevices : snapshot.blank.smart.devices.flatMap (fun device => shape (renderDevice device)) =
        snapshot.smart.devices.flatMap fun device => shape (renderDevice device) := List.flatMap_map ..
    have hempty : snapshot.blank.smart.devices.isEmpty = snapshot.smart.devices.isEmpty := List.isEmpty_map
    simp only [renderPage, renderStorage, shape_append, shape_ite, shape_markup, shape_text, shape_nil, shape_flatMap,
      shape_renderFilesystem, hdevices, hempty]
    rfl
  | powerNetwork left =>
    simp only [renderPage, renderPowerNetwork, shape_append, shape_ite, shape_elim, shape_markup, shape_number,
      shape_text, shape_nil, isEmpty_networkInterface_blank]
    rfl
  | guests offset limit =>
    have hguests : snapshot.blank.guests.guests.flatMap (fun guest => shape (renderGuest guest)) =
        snapshot.guests.guests.flatMap fun guest => shape (renderGuest guest) := List.flatMap_map ..
    have hempty : snapshot.blank.guests.guests.isEmpty = snapshot.guests.guests.isEmpty := List.isEmpty_map
    simp only [renderPage, renderGuests, shape_append, shape_ite, shape_markup, shape_nil, shape_flatMap, hguests, hempty]

theorem shownViews_blank (shown : List Nat) (views : List DisplayView) :
    shownViews shown (views.map .blank) = (shownViews shown views).map .blank := by
  induction views generalizing shown with
  | nil => rfl
  | cons view views ih =>
    rw [List.map_cons, shownViews, shownViews]
    show (if shown.contains (pageKind view.page) then _ else _) = _
    split
    · exact ih shown
    · rw [List.map_cons, ih]
      rfl

theorem shape_renderView (snapshot : HealthSnapshot) (labels : List DisplayLabel) (view : DisplayView) :
    shape (renderView snapshot.blank (labels.map .blank) view.blank) = shape (renderView snapshot labels view) := by
  simp only [renderView, shape_append, shape_markup, shape_text, shape_nil]
  rw [show view.blank.page = view.page from rfl, shape_renderPage]

theorem shape_renderIncidents (incidents : List Incident) :
    shape (renderIncidents (incidents.map .blank)) = shape (renderIncidents incidents) := by
  have hincidents : (incidents.map Incident.blank).flatMap (fun incident => shape (renderIncident incident)) =
      incidents.flatMap fun incident => shape (renderIncident incident) := List.flatMap_map ..
  simp only [renderIncidents, shape_append, shape_ite, shape_markup, shape_nil, shape_flatMap, hincidents,
    List.isEmpty_map]

theorem activeIncidents_blank (now : Nat) (state : SharedState) :
    (activeIncidents now state.blank).map Incident.blank = (activeIncidents now state).map Incident.blank := by
  have hreported : ((state.blank.snapshot.map (·.activeIncidents)).getD []).map Incident.blank =
      ((state.snapshot.map (·.activeIncidents)).getD []).map .blank := by
    unfold SharedState.blank
    cases state.snapshot with
    | none => rfl
    | some snapshot => exact List.map_map ..
  unfold activeIncidents
  show (if (snapshotAge now state).all (fun age => age ≥ hostStaleAfter) = true then _ else _ : List Incident).map _ = _
  split
  · rw [List.map_cons, List.map_cons, hreported]
  · exact hreported

theorem shape_renderDevicePanels (build : SoftwareVersion) (state : SharedState) :
    shape (renderDevicePanels build state.blank) = shape (renderDevicePanels build state) := by
  have henabled : (state.blank.manifest.map (·.ntfy.enabled)).getD false =
      (state.manifest.map (·.ntfy.enabled)).getD false := by
    unfold SharedState.blank
    cases state.manifest <;> rfl
  have htopic : ∀ ws ws' : List Write, state.blank.ntfyTopic.elim ws (fun _ => ws') = state.ntfyTopic.elim ws fun _ => ws' := by
    intro ws ws'
    unfold SharedState.blank
    cases state.ntfyTopic <;> rfl
  simp only [renderDevicePanels, shape_append, shape_elim, shape_markup, shape_text, shape_nil, shape_flatMap, htopic,
    henabled]
  rfl

/-- The texts aside, what is written for a state does not depend on its free text. -/
theorem shape_dashboardWrites :
    shape (dashboardWrites build now later state.blank document) =
      shape (dashboardWrites build now later state document) := by
  have hlevel : (state.blank.snapshot.map (·.health.level)).getD .critical =
      (state.snapshot.map (·.health.level)).getD .critical := by
    unfold SharedState.blank
    cases state.snapshot <;> rfl
  have hincidents : shape (renderIncidents (activeIncidents now state.blank)) =
      shape (renderIncidents (activeIncidents now state)) := by
    rw [← shape_renderIncidents, activeIncidents_blank, shape_renderIncidents]
  have hpages : (state.blank.manifest.map (·.http.pages)).getD [] =
      ((state.manifest.map (·.http.pages)).getD []).map .blank := by
    unfold SharedState.blank
    cases state.manifest <;> rfl
  have hviews : (state.blank.snapshot.elim [] fun snapshot =>
        (shownViews [] ((state.blank.manifest.map (·.http.pages)).getD [])).flatMap fun view =>
          shape (renderView snapshot state.blank.filesystemLabels view)) =
      state.snapshot.elim [] fun snapshot => (shownViews [] ((state.manifest.map (·.http.pages)).getD [])).flatMap
        fun view => shape (renderView snapshot state.filesystemLabels view) := by
    rw [hpages, shownViews_blank]
    show (state.snapshot.map HealthSnapshot.blank).elim [] _ = _
    cases state.snapshot with
    | none => rfl
    | some snapshot =>
      show List.flatMap _ (List.map DisplayView.blank _) = _
      rw [List.flatMap_map]
      exact List.flatMap_congr fun view _ => shape_renderView snapshot state.filesystemLabels view
  simp only [dashboardWrites, shape_append, shape_ite, shape_elim, shape_markup, shape_nil, shape_flatMap, hlevel,
    hincidents, hviews, shape_renderDevicePanels]
  rfl

/-! ### What is read of the dashboard -/

/-- The dashboard reads as its blanks with the strings between them, character by character. -/
theorem tokenize_dashboardMarkup (h : (dashboardBuffer build now later state document).overflowed = false) :
    Html.tokenize (dashboardMarkup build now later state document).toList =
      Html.fill (Html.blanks .data (dashboardWrites build now later state document))
        ((shownTexts build now state).map fun text => text.toList.map .char) := by
  rw [dashboardMarkup_eq h, Html.tokenize_writes escapes closed_dashboardWrites, ← texts_dashboardWrites]
  rfl

theorem length_blanks : (Html.blanks .data (dashboardWrites build now later state document)).length =
    (shownTexts build now state).length + 1 := by
  rw [Html.length_blanks, ← texts_dashboardWrites]
  rfl

/-- States that differ in their free text alone have the same blanks. -/
theorem blanks_eq {state' : SharedState} (h : state.blank = state'.blank) :
    Html.blanks .data (dashboardWrites build now later state document) =
      Html.blanks .data (dashboardWrites build now later state' document) := by
  rw [← Html.blanks_blank, ← Html.blanks_blank _ (dashboardWrites build now later state' document)]
  show Html.blanks .data (shape _) = Html.blanks .data (shape _)
  rw [← shape_dashboardWrites, h, shape_dashboardWrites]

/-- Free text cannot inject markup. Where two states differ in nothing else, and both fit the buffer, a browser reads
    the same tags with the same attributes for both, and between them the strings of each state as they are. -/
theorem dashboard_not_injected (build : SoftwareVersion) (now later : Nat) {state state' : SharedState}
    (document : Bool) (h : state.blank = state'.blank)
    (hfits : (dashboardBuffer build now later state document).overflowed = false)
    (hfits' : (dashboardBuffer build now later state' document).overflowed = false) :
    Html.tags (Html.tokenize (dashboardMarkup build now later state document).toList) =
        Html.tags (Html.tokenize (dashboardMarkup build now later state' document).toList) ∧
      ∃ blanks : List (List Html.Item),
        blanks.length = (shownTexts build now state).length + 1 ∧
        blanks.length = (shownTexts build now state').length + 1 ∧
        Html.tokenize (dashboardMarkup build now later state document).toList =
          Html.fill blanks ((shownTexts build now state).map fun text => text.toList.map .char) ∧
        Html.tokenize (dashboardMarkup build now later state' document).toList =
          Html.fill blanks ((shownTexts build now state').map fun text => text.toList.map .char) := by
  have hblanks : Html.blanks .data (dashboardWrites build now later state document) =
      Html.blanks .data (dashboardWrites build now later state' document) := blanks_eq h
  have htags : ∀ s : SharedState, (dashboardBuffer build now later s document).overflowed = false →
      Html.tags (Html.tokenize (dashboardMarkup build now later s document).toList) =
        Html.tags (Html.blanks .data (dashboardWrites build now later s document)).flatten := by
    intro s hs
    have hlength : ((shownTexts build now s).map String.toList).length <
        (Html.blanks .data (dashboardWrites build now later s document)).length := by
      rw [length_blanks, List.length_map]
      exact Nat.lt_succ_self _
    rw [tokenize_dashboardMarkup hs, ← Html.tags_fill hlength, List.map_map]
    rfl
  refine ⟨?_, _, length_blanks, ?_, tokenize_dashboardMarkup hfits, ?_⟩
  · rw [htags state hfits, htags state' hfits', hblanks]
  · rw [hblanks]
    exact length_blanks
  · rw [hblanks]
    exact tokenize_dashboardMarkup hfits'

/-! ### A dashboard that fits -/

/-- The bytes of some characters. -/
def utf8Sizes : List Char → Nat
  | [] => 0
  | c :: cs => c.utf8Size + utf8Sizes cs

theorem utf8ByteSize_ofList (l : List Char) : (String.ofList l).utf8ByteSize = utf8Sizes l := by
  induction l with
  | nil => rfl
  | cons c l ih =>
    have hone : (String.ofList [c]).utf8ByteSize = c.utf8Size := by simp
    rw [← List.singleton_append, String.ofList_append, String.utf8ByteSize_append, ih, hone]
    rfl

/-- Nothing has overflowed, and the buffer has room for as many bytes. -/
structure Room (b : DashboardBuffer) (n : Nat) : Prop where
  fits : b.overflowed = false
  room : b.inner.utf8ByteSize + n ≤ dashboardBodyCapacity

theorem Room.pushStr {b : DashboardBuffer} {s : String} {n : Nat} (h : Room b (s.utf8ByteSize + n)) :
    Room (b.pushStr s) n := by
  have hroom := h.room
  have hfits : b.inner.utf8ByteSize + s.utf8ByteSize ≤ dashboardBodyCapacity := by omega
  rw [DashboardBuffer.pushStr, if_pos hfits]
  refine ⟨h.fits, ?_⟩
  rw [String.utf8ByteSize_append]
  omega

/-- The bytes of some characters behind escaping. -/
def escapedSizes : List Char → Nat
  | [] => 0
  | c :: cs => (escape c).utf8ByteSize + escapedSizes cs

theorem Room.pushHtml {b : DashboardBuffer} {s : String} {n : Nat} (h : Room b (escapedSizes s.toList + n)) :
    Room (pushHtml b s) n := by
  rw [pushHtml_eq]
  generalize s.toList = cs at h ⊢
  induction cs generalizing b with
  | nil =>
    rw [escapedSizes, Nat.zero_add] at h
    exact h
  | cons c cs ih =>
    rw [escapedSizes, Nat.add_assoc] at h
    exact ih h.pushStr

/-- The length of what is written. -/
inductive Sized : List Write → Nat → Prop
  | nil : Sized [] 0
  | markup {l : List Char} {ws : List Write} {n : Nat} (rest : Sized ws n) :
      Sized (markup (String.ofList l) :: ws) (utf8Sizes l + n)
  | number {i : Int} {ws : List Write} {n : Nat} (rest : Sized ws n) :
      Sized (number i :: ws) ((toString i).utf8ByteSize + n)
  | text {s : String} {ws : List Write} {n : Nat} (rest : Sized ws n) :
      Sized (text s :: ws) (escapedSizes s.toList + n)

theorem Sized.foldl_put_fits {ws : List Write} {n : Nat} (h : Sized ws n) {b : DashboardBuffer} (hb : Room b n) :
    (ws.foldl .put b).overflowed = false := by
  induction h generalizing b with
  | nil => exact hb.fits
  | markup _ ih =>
    rw [← utf8ByteSize_ofList] at hb
    exact ih hb.pushStr
  | number _ ih => exact ih hb.pushStr
  | text _ ih => exact ih hb.pushHtml

theorem Sized.dashboard_fits {n : Nat} (h : Sized (dashboardWrites build now later state document) n)
    (hle : n ≤ dashboardBodyCapacity) : (dashboardBuffer build now later state document).overflowed = false :=
  h.foldl_put_fits ⟨rfl, by rwa [DashboardBuffer.new, String.utf8ByteSize_empty, Nat.zero_add]⟩

/-- The state of a host with an incident and a guest. -/
def exampleState (message guest title topic : String) : SharedState :=
  { SharedState.new with
    snapshot := some { HealthSnapshot.ofGuests "pve" [⟨100, .container, .running, 5, 512, 1024, guest⟩] with
      activeIncidents := [⟨.rule ⟨"disk"⟩, .warning, message⟩] }
    manifest := some ⟨⟨true, 80, "servatory", [⟨⟨title⟩, .guests 0 4⟩]⟩,
      ⟨true, ⟨true, true⟩, false, .high, .urgent, .default, none, "https://ntfy.sh", none⟩⟩
    lastUpdate := some 0
    ntfyTopic := some topic }

/-- Strings that look like markup. -/
def marked : SharedState := exampleState "<script>alert(1)</script>" "a&amp;b" "\"quoted\"" "</code>"

def plain : SharedState := exampleState "disk full" "web" "GUESTS" "topic"

set_option maxRecDepth 20000 in
theorem marked_fits : (dashboardBuffer ⟨"1.0"⟩ 0 0 marked true).overflowed = false := by
  have h : ∃ n, Sized (dashboardWrites ⟨"1.0"⟩ 0 0 marked true) n ∧ n ≤ dashboardBodyCapacity := by
    apply Exists.intro
    apply And.intro
    · apply Sized.markup
      repeat constructor
    · decide
  obtain ⟨n, hn, hle⟩ := h
  exact hn.dashboard_fits hle

set_option maxRecDepth 20000 in
theorem plain_fits : (dashboardBuffer ⟨"1.0"⟩ 0 0 plain true).overflowed = false := by
  have h : ∃ n, Sized (dashboardWrites ⟨"1.0"⟩ 0 0 plain true) n ∧ n ≤ dashboardBodyCapacity := by
    apply Exists.intro
    apply And.intro
    · apply Sized.markup
      repeat constructor
    · decide
  obtain ⟨n, hn, hle⟩ := h
  exact hn.dashboard_fits hle

theorem dashboard_not_injected_marked :
    Html.tags (Html.tokenize (dashboardMarkup ⟨"1.0"⟩ 0 0 marked true).toList) =
      Html.tags (Html.tokenize (dashboardMarkup ⟨"1.0"⟩ 0 0 plain true).toList) :=
  (dashboard_not_injected ⟨"1.0"⟩ 0 0 true (by rfl) marked_fits plain_fits).1

end Dashboard
end Servatory
