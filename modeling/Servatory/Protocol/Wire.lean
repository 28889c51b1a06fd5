import Servatory.Lib.Postcard
import Servatory.Protocol.Message

/-! The wire form of the messages: the fields of each record in the order of its declaration, and
    each enumeration by the number of its variant. -/

namespace Servatory
open Postcard

instance : Postcard HealthLevel := enum
  (fun | .healthy => 0 | .warning => 1 | .critical => 2)
  (fun | 0 => some .healthy | 1 => some .warning | 2 => some .critical | _ => none)
  (fun a => by cases a <;> rfl)

instance : Postcard RuleId := iso RuleId.value RuleId.mk fun _ => rfl

instance : Postcard StickIncident := enum
  (fun | .hostOffline => 0) (fun | 0 => some .hostOffline | _ => none) (fun a => by cases a; rfl)

instance : Postcard IncidentId where
  encode
    | .rule id => varint 0 ++ encode id
    | .stick incident => varint 1 ++ encode incident
  decode bytes := do
    let (tag, rest) ← readVarint bytes
    match tag with
    | 0 => (decode rest).map fun (id, rest) => (.rule id, rest)
    | 1 => (decode rest).map fun (incident, rest) => (.stick incident, rest)
    | _ => none
  decode_encode a rest := by cases a <;> simp [List.append_assoc]

instance : Postcard Incident := iso (fun i => (i.id, i.level, i.message)) (fun (a, b, c) => ⟨a, b, c⟩) fun _ => rfl

instance : Postcard SoftwareVersion := iso SoftwareVersion.value SoftwareVersion.mk fun _ => rfl

instance : Postcard HealthReport := iso (fun r => (r.level, r.message)) (fun (a, b) => ⟨a, b⟩) fun _ => rfl

instance : Postcard DisplayPage where
  encode
    | .overview => varint 0
    | .resources => varint 1
    | .storage left filesystems smart => varint 2 ++ encode (left, filesystems, smart)
    | .powerNetwork left => varint 3 ++ encode left
    | .guests offset limit => varint 4 ++ encode (offset, limit)
  decode bytes := do
    let (tag, rest) ← readVarint bytes
    match tag with
    | 0 => some (.overview, rest)
    | 1 => some (.resources, rest)
    | 2 => (decode rest).map fun ((left, filesystems, smart), rest) => (.storage left filesystems smart, rest)
    | 3 => (decode rest).map fun (left, rest) => (.powerNetwork left, rest)
    | 4 => (decode rest).map fun ((offset, limit), rest) => (.guests offset limit, rest)
    | _ => none
  decode_encode a rest := by cases a <;> simp [List.append_assoc]

instance : Postcard DisplayLabel := iso DisplayLabel.value DisplayLabel.mk fun _ => rfl

instance : Postcard DisplayView := iso (fun v => (v.title, v.page)) (fun (a, b) => ⟨a, b⟩) fun _ => rfl

instance : Postcard DisplayConfig := iso
  (fun c => (c.shutdownHoldMs, c.shutdownAnimationDelayMs, c.daemonVersion, c.filesystemLabels, c.pages))
  (fun (a, b, c, d, e) => ⟨a, b, c, d, e⟩) fun _ => rfl

instance : Postcard HttpConfig := iso (fun c => (c.enabled, c.port, c.hostname, c.pages))
  (fun (a, b, c, d) => ⟨a, b, c, d⟩) fun _ => rfl

instance : Postcard NotificationPriority := enum
  (fun | .default => 0 | .high => 1 | .urgent => 2)
  (fun | 0 => some .default | 1 => some .high | 2 => some .urgent | _ => none)
  (fun a => by cases a <;> rfl)

instance : Postcard NotificationSeverities := iso (fun s => (s.warning, s.critical)) (fun (a, b) => ⟨a, b⟩) fun _ => rfl

instance : Postcard NtfyConfig := iso
  (fun c => (c.enabled, c.severities, c.notifyRecovery, c.warningPriority, c.criticalPriority, c.recoveryPriority,
    c.repeatCriticalSeconds, c.server, c.clickUrl))
  (fun (a, b, c, d, e, f, g, h, i) => ⟨a, b, c, d, e, f, g, h, i⟩) fun _ => rfl

instance : Postcard NetworkConfig := iso (fun c => (c.http, c.ntfy)) (fun (a, b) => ⟨a, b⟩) fun _ => rfl

instance : Postcard HandshakeNonce := iso HandshakeNonce.value HandshakeNonce.mk fun _ => rfl

instance : Postcard GuestKind := enum
  (fun | .virtualMachine => 0 | .container => 1)
  (fun | 0 => some .virtualMachine | 1 => some .container | _ => none)
  (fun a => by cases a <;> rfl)

instance : Postcard GuestStatus := enum
  (fun | .running => 0 | .stopped => 1)
  (fun | 0 => some .running | 1 => some .stopped | _ => none)
  (fun a => by cases a <;> rfl)

instance : Postcard InternetStatus := enum
  (fun | .checking => 0 | .reachable => 1 | .missed => 2 | .failed => 3)
  (fun | 0 => some .checking | 1 => some .reachable | 2 => some .missed | 3 => some .failed | _ => none)
  (fun a => by cases a <;> rfl)

instance : Postcard BackupJobStatus := enum
  (fun | .unknown => 0 | .noJob => 1 | .healthy => 2 | .running => 3 | .failed => 4 | .stale => 5)
  (fun | 0 => some .unknown | 1 => some .noJob | 2 => some .healthy | 3 => some .running | 4 => some .failed
       | 5 => some .stale | _ => none)
  (fun a => by cases a <;> rfl)

instance : Postcard UpsStatus := enum
  (fun | .notConfigured => 0 | .unknown => 1 | .online => 2 | .onBattery => 3 | .lowBattery => 4 | .charging => 5
       | .bypass => 6 | .outputOff => 7 | .replaceBattery => 8 | .unavailable => 9)
  (fun | 0 => some .notConfigured | 1 => some .unknown | 2 => some .online | 3 => some .onBattery
       | 4 => some .lowBattery | 5 => some .charging | 6 => some .bypass | 7 => some .outputOff
       | 8 => some .replaceBattery | 9 => some .unavailable | _ => none)
  (fun a => by cases a <;> rfl)

instance : Postcard UpsSnapshot := iso
  (fun s => (s.status, s.batteryPercent, s.loadPercent, s.runtimeSeconds, s.estimatedWatts, s.stale))
  (fun (a, b, c, d, e, f) => ⟨a, b, c, d, e, f⟩) fun _ => rfl

instance : Postcard SmartStatus := enum
  (fun | .healthy => 0 | .warning => 1 | .failed => 2 | .sleeping => 3 | .unknown => 4)
  (fun | 0 => some .healthy | 1 => some .warning | 2 => some .failed | 3 => some .sleeping | 4 => some .unknown
       | _ => none)
  (fun a => by cases a <;> rfl)

instance : Postcard SmartDeviceSummary := iso (fun d => (d.status, d.temperatureCelsius, d.label))
  (fun (a, b, c) => ⟨a, b, c⟩) fun _ => rfl

instance : Postcard SmartSnapshot := iso SmartSnapshot.devices SmartSnapshot.mk fun _ => rfl

instance : Postcard ShutdownPhase := enum
  (fun | .preparingGuests => 0 | .stoppingGuests => 1 | .guestsStopped => 2 | .poweringOff => 3)
  (fun | 0 => some .preparingGuests | 1 => some .stoppingGuests | 2 => some .guestsStopped
       | 3 => some .poweringOff | _ => none)
  (fun a => by cases a <;> rfl)

instance : Postcard ShutdownFailure := enum
  (fun | .hostPoweroff => 0) (fun | 0 => some .hostPoweroff | _ => none) (fun a => by cases a; rfl)

instance : Postcard FilesystemUsage := iso (fun u => (u.usedPercent, u.availableMib, u.mounted))
  (fun (a, b, c) => ⟨a, b, c⟩) fun _ => rfl

instance : Postcard GuestSummary := iso
  (fun g => (g.vmid, g.kind, g.status, g.cpuPercent, g.memoryUsedMib, g.memoryTotalMib, g.name))
  (fun (a, b, c, d, e, f, g) => ⟨a, b, c, d, e, f, g⟩) fun _ => rfl

instance : Postcard GuestSnapshot := iso GuestSnapshot.guests GuestSnapshot.mk fun _ => rfl

instance : Postcard HealthSnapshot := iso
  (fun s => (s.health, s.activeIncidents, s.uptimeSeconds, s.cpuPercent, s.memoryUsedMib, s.memoryTotalMib,
    s.ioPressurePercent, s.loadAverageX100, s.filesystems, s.backupJobStatus, s.lastSuccessfulBackupAgeSeconds,
    s.networkUp, s.networkMbps, s.internetStatus, s.lastInternetSuccessAgeSeconds, s.ipv4, s.guests, s.ups, s.smart,
    s.hostName, s.networkInterface))
  (fun (a, b, c, d, e, f, g, h, i, j, k, l, m, n, o, p, q, r, s, t, u) =>
    ⟨a, b, c, d, e, f, g, h, i, j, k, l, m, n, o, p, q, r, s, t, u⟩) fun _ => rfl

instance : Postcard HostMessage where
  encode
    | .shutdownAccepted => varint 0
    | .healthSnapshot snapshot => varint 1 ++ encode snapshot
    | .shutdownProgress phase total remaining => varint 2 ++ encode (phase, total, remaining)
    | .shutdownFailed reason remaining => varint 3 ++ encode (reason, remaining)
    | .displayConfig config => varint 4 ++ encode config
    | .hello version session => varint 5 ++ encode (version, session)
    | .networkConfig config => varint 6 ++ encode config
  decode bytes := do
    let (tag, rest) ← readVarint bytes
    match tag with
    | 0 => some (.shutdownAccepted, rest)
    | 1 => (decode rest).map fun (snapshot, rest) => (.healthSnapshot snapshot, rest)
    | 2 => (decode rest).map fun ((phase, total, remaining), rest) => (.shutdownProgress phase total remaining, rest)
    | 3 => (decode rest).map fun ((reason, remaining), rest) => (.shutdownFailed reason remaining, rest)
    | 4 => (decode rest).map fun (config, rest) => (.displayConfig config, rest)
    | 5 => (decode rest).map fun ((version, session), rest) => (.hello version session, rest)
    | 6 => (decode rest).map fun (config, rest) => (.networkConfig config, rest)
    | _ => none
  decode_encode a rest := by cases a <;> simp [List.append_assoc]

instance : Postcard DeviceMessage where
  encode
    | .shutdownRequested => varint 0
    | .hello version session => varint 1 ++ encode (version, session)
  decode bytes := do
    let (tag, rest) ← readVarint bytes
    match tag with
    | 0 => some (.shutdownRequested, rest)
    | 1 => (decode rest).map fun ((version, session), rest) => (.hello version session, rest)
    | _ => none
  decode_encode a rest := by cases a <;> simp [List.append_assoc]

/-- A message starts with the number of its variant. -/
theorem HostMessage.encode_eq_cons (m : HostMessage) : ∃ tag rest, encode m = tag :: rest ∧ tag < 7 := by
  cases m <;> exact ⟨_, _, rfl, by decide⟩

end Servatory
