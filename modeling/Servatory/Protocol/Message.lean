/-! The messages of the wire protocol and the values they carry. Strings are unbounded, integers have
    the width they have on the wire, and a value need not have come from its constructor function:
    reading a message builds it field by field. -/

namespace Servatory

def protocolVersion : UInt8 := 10
def frameMagic : List UInt8 := [0xa5, 0x5a]

/-- The longest host-to-device frame, with its trailing zero delimiter. -/
def maxHostFrameLen : Nat := 4 * 1024

/-- The longest device-to-host frame, with its trailing zero delimiter. -/
def maxDeviceFrameLen : Nat := 128

inductive HealthLevel
  | healthy
  | warning
  | critical
  deriving DecidableEq, Repr

def HealthLevel.priority : HealthLevel → UInt8
  | healthy => 0
  | warning => 1
  | critical => 2

def maxRuleIdLen : Nat := 48

structure RuleId where
  value : String
  deriving DecidableEq, Repr

/-- The bytes of rule and resource identifiers: ASCII letters, digits, `_` and `-`. -/
def isIdByte (byte : UInt8) : Bool :=
  (0x30 ≤ byte && byte ≤ 0x39) || (0x41 ≤ byte && byte ≤ 0x5a) || (0x61 ≤ byte && byte ≤ 0x7a) ||
    byte == 0x5f || byte == 0x2d

def RuleId.new (value : String) : Option RuleId :=
  if value.isEmpty || value.utf8ByteSize > maxRuleIdLen || !value.toByteArray.data.toList.all isIdByte then none
  else some ⟨value⟩

inductive StickIncident
  | hostOffline
  deriving DecidableEq, Repr

inductive IncidentId
  | rule (id : RuleId)
  | stick (incident : StickIncident)
  deriving DecidableEq, Repr

structure Incident where
  id : IncidentId
  level : HealthLevel
  message : String
  deriving DecidableEq, Repr

structure SoftwareVersion where
  value : String
  deriving DecidableEq, Repr

structure HealthReport where
  level : HealthLevel
  message : String
  deriving DecidableEq, Repr

def HealthReport.healthy : HealthReport := ⟨.healthy, "HEALTHY"⟩

inductive DisplayPage
  | overview
  | resources
  | storage (filesystemsLeft : Bool) (filesystemIndices smartIndices : List UInt32)
  | powerNetwork (upsLeft : Bool)
  | guests (offset limit : UInt32)
  deriving DecidableEq, Repr

structure DisplayLabel where
  value : String
  deriving DecidableEq, Repr

structure DisplayView where
  title : DisplayLabel
  page : DisplayPage
  deriving DecidableEq, Repr

structure DisplayConfig where
  shutdownHoldMs : UInt16
  shutdownAnimationDelayMs : UInt16
  daemonVersion : SoftwareVersion
  filesystemLabels : List DisplayLabel
  pages : List DisplayView
  deriving DecidableEq, Repr

structure HttpConfig where
  enabled : Bool
  port : UInt16
  hostname : String
  pages : List DisplayView
  deriving DecidableEq, Repr

inductive NotificationPriority
  | default
  | high
  | urgent
  deriving DecidableEq, Repr

structure NotificationSeverities where
  warning : Bool
  critical : Bool
  deriving DecidableEq, Repr

structure NtfyConfig where
  enabled : Bool
  severities : NotificationSeverities
  notifyRecovery : Bool
  warningPriority : NotificationPriority
  criticalPriority : NotificationPriority
  recoveryPriority : NotificationPriority
  repeatCriticalSeconds : Option UInt32
  server : String
  clickUrl : Option String
  deriving DecidableEq, Repr

structure NetworkConfig where
  http : HttpConfig
  ntfy : NtfyConfig
  deriving DecidableEq, Repr

namespace DisplayConfig

/-- The manifest of a Stick that has not received one. -/
def default : DisplayConfig where
  shutdownHoldMs := 3000
  shutdownAnimationDelayMs := 200
  daemonVersion := ⟨"unknown"⟩
  filesystemLabels := []
  pages := [⟨⟨"OVERVIEW"⟩, .overview⟩]

/-- A validated manifest; `none` is the source's `DisplayConfigError`. -/
def new (shutdownHoldMs shutdownAnimationDelayMs : UInt16) (filesystemLabels : List DisplayLabel)
    (pages : List DisplayView) : Option DisplayConfig :=
  if pages.isEmpty || shutdownHoldMs == 0 || shutdownAnimationDelayMs ≥ shutdownHoldMs then none
  else some ⟨shutdownHoldMs, shutdownAnimationDelayMs, ⟨"unknown"⟩, filesystemLabels, pages⟩

/-- The text of `DisplayConfigError`. -/
def errorText : String := "display must have pages and animation delay must precede hold time"

end DisplayConfig

structure HandshakeNonce where
  value : UInt64
  deriving DecidableEq, Repr

inductive GuestKind
  | virtualMachine
  | container
  deriving DecidableEq, Repr

inductive GuestStatus
  | running
  | stopped
  deriving DecidableEq, Repr

inductive InternetStatus
  | checking
  | reachable
  | missed
  | failed
  deriving DecidableEq, Repr

inductive BackupJobStatus
  | unknown
  | noJob
  | healthy
  | running
  | failed
  | stale
  deriving DecidableEq, Repr

inductive UpsStatus
  | notConfigured
  | unknown
  | online
  | onBattery
  | lowBattery
  | charging
  | bypass
  | outputOff
  | replaceBattery
  | unavailable
  deriving DecidableEq, Repr

structure UpsSnapshot where
  status : UpsStatus
  batteryPercent : Option UInt8
  loadPercent : Option UInt8
  runtimeSeconds : Option UInt32
  estimatedWatts : Option UInt16
  stale : Bool
  deriving DecidableEq, Repr

def UpsSnapshot.notConfigured : UpsSnapshot := ⟨.notConfigured, none, none, none, none, false⟩

inductive SmartStatus
  | healthy
  | warning
  | failed
  | sleeping
  | unknown
  deriving DecidableEq, Repr

structure SmartDeviceSummary where
  status : SmartStatus
  temperatureCelsius : Option Int8
  label : String
  deriving DecidableEq, Repr

structure SmartSnapshot where
  devices : List SmartDeviceSummary
  deriving DecidableEq, Repr

inductive ShutdownPhase
  | preparingGuests
  | stoppingGuests
  | guestsStopped
  | poweringOff
  deriving DecidableEq, Repr

inductive ShutdownFailure
  | hostPoweroff
  deriving DecidableEq, Repr

structure FilesystemUsage where
  usedPercent : UInt8
  availableMib : UInt32
  mounted : Bool
  deriving DecidableEq, Repr

structure GuestSummary where
  vmid : UInt32
  kind : GuestKind
  status : GuestStatus
  cpuPercent : UInt8
  memoryUsedMib : UInt32
  memoryTotalMib : UInt32
  name : String
  deriving DecidableEq, Repr

structure GuestSnapshot where
  guests : List GuestSummary
  deriving DecidableEq, Repr

structure HealthSnapshot where
  health : HealthReport
  activeIncidents : List Incident
  uptimeSeconds : UInt64
  cpuPercent : UInt8
  memoryUsedMib : UInt32
  memoryTotalMib : UInt32
  ioPressurePercent : UInt8
  loadAverageX100 : UInt16
  filesystems : List FilesystemUsage
  backupJobStatus : BackupJobStatus
  lastSuccessfulBackupAgeSeconds : Option UInt32
  networkUp : Bool
  networkMbps : UInt16
  internetStatus : InternetStatus
  lastInternetSuccessAgeSeconds : Option UInt32
  ipv4 : UInt8 × UInt8 × UInt8 × UInt8
  guests : GuestSnapshot
  ups : UpsSnapshot
  smart : SmartSnapshot
  hostName : String
  networkInterface : String
  deriving DecidableEq, Repr

def HealthSnapshot.setIncidents (s : HealthSnapshot) (health : HealthReport) (activeIncidents : List Incident) :
    HealthSnapshot := { s with health, activeIncidents }

/-- A healthy host that reports its guests and nothing else. -/
def HealthSnapshot.ofGuests (hostName : String) (guests : List GuestSummary) : HealthSnapshot where
  health := .healthy
  activeIncidents := []
  uptimeSeconds := 0
  cpuPercent := 0
  memoryUsedMib := 0
  memoryTotalMib := 0
  ioPressurePercent := 0
  loadAverageX100 := 0
  filesystems := []
  backupJobStatus := .unknown
  lastSuccessfulBackupAgeSeconds := none
  networkUp := false
  networkMbps := 0
  internetStatus := .checking
  lastInternetSuccessAgeSeconds := none
  ipv4 := (0, 0, 0, 0)
  guests := ⟨guests⟩
  ups := .notConfigured
  smart := ⟨[]⟩
  hostName := hostName
  networkInterface := ""

/-- Host-to-device messages, in the order of their variant numbers. -/
inductive HostMessage
  | shutdownAccepted
  | healthSnapshot (snapshot : HealthSnapshot)
  | shutdownProgress (phase : ShutdownPhase) (guestsTotal guestsRemaining : UInt16)
  | shutdownFailed (reason : ShutdownFailure) (guestsRemaining : UInt16)
  | displayConfig (config : DisplayConfig)
  | hello (daemonVersion : SoftwareVersion) (session : HandshakeNonce)
  | networkConfig (config : NetworkConfig)
  deriving DecidableEq, Repr

/-- Device-to-host messages, in the order of their variant numbers. -/
inductive DeviceMessage
  | shutdownRequested
  | hello (firmwareVersion : SoftwareVersion) (acknowledgedSession : Option HandshakeNonce)
  deriving DecidableEq, Repr

inductive ProtocolError
  | emptyFrame
  | frameTooLong
  | serialize
  | deserialize
  | unsupportedVersion (received : UInt8)
  deriving DecidableEq, Repr

end Servatory
