import Servatory.Protocol.Frame

/-! How many bytes the messages take on the wire: each record the sum of its fields, each text its length
    and its bytes, each enumeration one byte. -/

namespace Servatory
open Postcard

/-- A text and its length. -/
def textLength (s : String) : Nat := varintLen s.utf8ByteSize + s.utf8ByteSize

/-- A list whose items take `length` bytes each. -/
def listLength {α : Type} (length : α → Nat) (items : List α) : Nat := varintLen items.length + (items.map length).sum

/-- A value that may be missing. -/
def optionLength {α : Type} (length : α → Nat) (o : Option α) : Nat := 1 + o.elim 0 length

theorem size_text (s : String) : size s = textLength s := size_string s

theorem size_eq_listLength {α : Type} [Postcard α] {length : α → Nat} (h : ∀ a, size a = length a) (items : List α) :
    size items = listLength length items := by
  rw [size_list, listLength, funext h]

theorem size_eq_optionLength {α : Type} [Postcard α] {length : α → Nat} (h : ∀ a, size a = length a) (o : Option α) :
    size o = optionLength length o := by
  cases o with
  | none => rfl
  | some a =>
    rw [size_some, h]
    exact Nat.add_comm _ _

/-! ### Manifests -/

def DisplayPage.wireLength : DisplayPage → Nat
  | overview => 1
  | resources => 1
  | storage _ filesystemIndices smartIndices =>
    2 + listLength (varintLen ·.toNat) filesystemIndices + listLength (varintLen ·.toNat) smartIndices
  | powerNetwork _ => 2
  | guests offset limit => 1 + varintLen offset.toNat + varintLen limit.toNat

theorem size_displayPage (page : DisplayPage) : size page = page.wireLength := by
  cases page with
  | overview => rfl
  | resources => rfl
  | storage left filesystemIndices smartIndices =>
    show (varint 2 ++ Postcard.encode (left, filesystemIndices, smartIndices)).length = _
    have hpair : (Postcard.encode (left, filesystemIndices, smartIndices)).length =
        size left + (size filesystemIndices + size smartIndices) := by
      rw [← size_prod, ← size_prod]
      rfl
    rw [List.length_append, hpair, size_eq_listLength fun i => size_uint32 i, size_eq_listLength fun i => size_uint32 i]
    show 1 + (1 + _) = 2 + _ + _
    omega
  | powerNetwork left => rfl
  | guests offset limit =>
    show (varint 4 ++ Postcard.encode (offset, limit)).length = _
    rw [List.length_append]
    show 1 + size (offset, limit) = 1 + _ + _
    rw [size_prod, size_uint32, size_uint32]
    omega

theorem size_displayLabel (label : DisplayLabel) : size label = textLength label.value := size_text label.value

def DisplayView.wireLength (view : DisplayView) : Nat := textLength view.title.value + view.page.wireLength

theorem size_displayView (view : DisplayView) : size view = view.wireLength := by
  show size (view.title, view.page) = _
  rw [size_prod, size_displayPage, size_displayLabel, DisplayView.wireLength]

def DisplayConfig.wireLength (c : DisplayConfig) : Nat :=
  varintLen c.shutdownHoldMs.toNat + varintLen c.shutdownAnimationDelayMs.toNat + textLength c.daemonVersion.value +
    listLength (textLength ·.value) c.filesystemLabels + listLength DisplayView.wireLength c.pages

theorem size_displayConfig (c : DisplayConfig) : size c = c.wireLength := by
  show size (c.shutdownHoldMs, c.shutdownAnimationDelayMs, c.daemonVersion, c.filesystemLabels, c.pages) = _
  rw [size_prod, size_prod, size_prod, size_prod, size_eq_listLength size_displayLabel,
    size_eq_listLength size_displayView]
  show varintLen _ + (varintLen _ + (size c.daemonVersion.value + _)) = _
  rw [size_text, DisplayConfig.wireLength]
  omega

def HttpConfig.wireLength (c : HttpConfig) : Nat :=
  1 + varintLen c.port.toNat + textLength c.hostname + listLength DisplayView.wireLength c.pages

theorem size_httpConfig (c : HttpConfig) : size c = c.wireLength := by
  show size (c.enabled, c.port, c.hostname, c.pages) = _
  rw [size_prod, size_prod, size_prod, size_bool, size_uint16, size_text, size_eq_listLength size_displayView,
    HttpConfig.wireLength]
  omega

/-- Of the fixed part, two bytes say which severities are sent and three the priorities. -/
def NtfyConfig.wireLength (c : NtfyConfig) : Nat :=
  7 + optionLength (varintLen ·.toNat) c.repeatCriticalSeconds + textLength c.server + optionLength textLength c.clickUrl

theorem size_ntfyConfig (c : NtfyConfig) : size c = c.wireLength := by
  have hpriority : ∀ p : NotificationPriority, size p = 1 := by
    intro p
    cases p <;> rfl
  have hseverities : size c.severities = 2 := rfl
  show size (c.enabled, c.severities, c.notifyRecovery, c.warningPriority, c.criticalPriority, c.recoveryPriority,
    c.repeatCriticalSeconds, c.server, c.clickUrl) = _
  simp only [size_prod, size_bool, hseverities, hpriority, size_text, size_eq_optionLength (fun i => size_uint32 i),
    size_eq_optionLength size_text, NtfyConfig.wireLength]
  omega

def NetworkConfig.wireLength (c : NetworkConfig) : Nat := c.http.wireLength + c.ntfy.wireLength

theorem size_networkConfig (c : NetworkConfig) : size c = c.wireLength := by
  show size (c.http, c.ntfy) = _
  rw [size_prod, size_httpConfig, size_ntfyConfig]
  rfl

/-! ### Snapshots -/

def IncidentId.wireLength : IncidentId → Nat
  | rule id => 1 + textLength id.value
  | stick _ => 2

theorem size_incidentId (id : IncidentId) : size id = id.wireLength := by
  cases id with
  | rule id =>
    show (varint 0 ++ Postcard.encode id).length = _
    rw [List.length_append]
    show 1 + size id.value = _
    rw [size_text]
    rfl
  | stick incident =>
    cases incident
    rfl

theorem size_healthLevel (level : HealthLevel) : size level = 1 := by
  cases level <;> rfl

def Incident.wireLength (i : Incident) : Nat := i.id.wireLength + 1 + textLength i.message

theorem size_incident (i : Incident) : size i = i.wireLength := by
  show size (i.id, i.level, i.message) = _
  rw [size_prod, size_prod, size_incidentId, size_healthLevel, size_text, Incident.wireLength]
  omega

def HealthReport.wireLength (r : HealthReport) : Nat := 1 + textLength r.message

theorem size_healthReport (r : HealthReport) : size r = r.wireLength := by
  show size (r.level, r.message) = _
  rw [size_prod, size_healthLevel, size_text]
  rfl

def FilesystemUsage.wireLength (u : FilesystemUsage) : Nat := 2 + varintLen u.availableMib.toNat

theorem size_filesystemUsage (u : FilesystemUsage) : size u = u.wireLength := by
  show size (u.usedPercent, u.availableMib, u.mounted) = _
  rw [size_prod, size_prod, size_uint8, size_uint32, size_bool, FilesystemUsage.wireLength]
  omega

/-- Of the fixed part, one byte each tells the kind, the status and the load. -/
def GuestSummary.wireLength (g : GuestSummary) : Nat :=
  3 + varintLen g.vmid.toNat + varintLen g.memoryUsedMib.toNat + varintLen g.memoryTotalMib.toNat + textLength g.name

theorem size_guestSummary (g : GuestSummary) : size g = g.wireLength := by
  have hkind : size g.kind = 1 := by cases g.kind <;> rfl
  have hstatus : size g.status = 1 := by cases g.status <;> rfl
  show size (g.vmid, g.kind, g.status, g.cpuPercent, g.memoryUsedMib, g.memoryTotalMib, g.name) = _
  simp only [size_prod, size_uint32, hkind, hstatus, size_uint8, size_text, GuestSummary.wireLength]
  omega

def UpsSnapshot.wireLength (u : UpsSnapshot) : Nat :=
  2 + optionLength (fun _ => 1) u.batteryPercent + optionLength (fun _ => 1) u.loadPercent +
    optionLength (varintLen ·.toNat) u.runtimeSeconds + optionLength (varintLen ·.toNat) u.estimatedWatts

theorem size_upsSnapshot (u : UpsSnapshot) : size u = u.wireLength := by
  have hstatus : size u.status = 1 := by cases u.status <;> rfl
  show size (u.status, u.batteryPercent, u.loadPercent, u.runtimeSeconds, u.estimatedWatts, u.stale) = _
  simp only [size_prod, hstatus, size_bool, size_eq_optionLength (fun i => size_uint8 i),
    size_eq_optionLength (fun i => size_uint32 i), size_eq_optionLength (fun i => size_uint16 i), UpsSnapshot.wireLength]
  omega

def SmartDeviceSummary.wireLength (d : SmartDeviceSummary) : Nat :=
  1 + optionLength (fun _ => 1) d.temperatureCelsius + textLength d.label

theorem size_smartDeviceSummary (d : SmartDeviceSummary) : size d = d.wireLength := by
  have hstatus : size d.status = 1 := by cases d.status <;> rfl
  show size (d.status, d.temperatureCelsius, d.label) = _
  rw [size_prod, size_prod, hstatus, size_eq_optionLength (fun i => size_int8 i), size_text,
    SmartDeviceSummary.wireLength]
  omega

/-- In the order of the fields: those of one byte are the percentages, the flag and the states, and the
    address takes four. -/
def HealthSnapshot.wireLength (s : HealthSnapshot) : Nat :=
  s.health.wireLength + listLength Incident.wireLength s.activeIncidents + varintLen s.uptimeSeconds.toNat + 1 +
    varintLen s.memoryUsedMib.toNat + varintLen s.memoryTotalMib.toNat + 1 + varintLen s.loadAverageX100.toNat +
    listLength FilesystemUsage.wireLength s.filesystems + 1 +
    optionLength (varintLen ·.toNat) s.lastSuccessfulBackupAgeSeconds + 1 + varintLen s.networkMbps.toNat + 1 +
    optionLength (varintLen ·.toNat) s.lastInternetSuccessAgeSeconds + 4 +
    listLength GuestSummary.wireLength s.guests.guests + s.ups.wireLength +
    listLength SmartDeviceSummary.wireLength s.smart.devices + textLength s.hostName + textLength s.networkInterface

theorem size_healthSnapshot (s : HealthSnapshot) : size s = s.wireLength := by
  have hbackup : size s.backupJobStatus = 1 := by cases s.backupJobStatus <;> rfl
  have hinternet : size s.internetStatus = 1 := by cases s.internetStatus <;> rfl
  have hipv4 : size s.ipv4 = 4 := rfl
  have hguests : size s.guests = listLength GuestSummary.wireLength s.guests.guests :=
    size_eq_listLength size_guestSummary s.guests.guests
  have hsmart : size s.smart = listLength SmartDeviceSummary.wireLength s.smart.devices :=
    size_eq_listLength size_smartDeviceSummary s.smart.devices
  show size (s.health, s.activeIncidents, s.uptimeSeconds, s.cpuPercent, s.memoryUsedMib, s.memoryTotalMib,
    s.ioPressurePercent, s.loadAverageX100, s.filesystems, s.backupJobStatus, s.lastSuccessfulBackupAgeSeconds,
    s.networkUp, s.networkMbps, s.internetStatus, s.lastInternetSuccessAgeSeconds, s.ipv4, s.guests, s.ups, s.smart,
    s.hostName, s.networkInterface) = _
  simp only [size_prod, size_healthReport, size_eq_listLength size_incident, size_uint64, size_uint8, size_uint32,
    size_uint16, size_eq_listLength size_filesystemUsage, hbackup, size_eq_optionLength (fun i => size_uint32 i),
    size_bool, hinternet, hipv4, hguests, size_upsSnapshot, hsmart, size_text, HealthSnapshot.wireLength,
    Nat.add_assoc]

/-! ### Frames -/

/-- The bytes that framing adds: the header, a code byte for each block, and the delimiter. -/
def frameOverhead (message : HostMessage) : Nat := 5 + Cobs.fullBlocks 0 (Postcard.encode message)

/-- A frame grows by at most a byte for every 254. -/
theorem frameOverhead_le (message : HostMessage) : frameOverhead message ≤ 5 + size message / 254 :=
  Nat.add_le_add_left (Cobs.fullBlocks_le_div _) 5

theorem encodeHost_isOk_iff (message : HostMessage) (capacity : Nat) :
    (encodeHost message capacity).isOk ↔ size message + frameOverhead message ≤ capacity := by
  rw [encodeHost, encode_isOk_iff, frameOverhead]
  omega

theorem size_displayMessage (c : DisplayConfig) : size (HostMessage.displayConfig c) = 1 + c.wireLength := by
  rw [← size_displayConfig]
  show (varint 4 ++ Postcard.encode c).length = _
  rw [List.length_append]
  rfl

theorem size_networkMessage (c : NetworkConfig) : size (HostMessage.networkConfig c) = 1 + c.wireLength := by
  rw [← size_networkConfig]
  show (varint 6 ++ Postcard.encode c).length = _
  rw [List.length_append]
  rfl

theorem size_snapshotMessage (s : HealthSnapshot) : size (HostMessage.healthSnapshot s) = 1 + s.wireLength := by
  rw [← size_healthSnapshot]
  show (varint 1 ++ Postcard.encode s).length = _
  rw [List.length_append]
  rfl

end Servatory
