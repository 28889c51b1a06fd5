import Servatory.Protocol.Frame

/-! The daemon's configuration: its types, the checks a loaded file must pass, and the two manifests compiled
    from it. Durations are milliseconds, the only precision the file has. The version that was built in is a
    parameter. -/

namespace Servatory

/-- A number of the configuration or of a measurement, as far as comparisons see it. -/
inductive F64
  | nan
  | negInf
  | finite (value : Rat)
  | posInf
  deriving DecidableEq, Repr

/-- A number as the readers of YAML and of JSON keep it. -/
inductive Number
  | posInt (value : UInt64)
  | negInt (value : Int64)
  | float (value : F64)
  deriving DecidableEq, Repr

def Number.asU64 : Number → Option UInt64
  | posInt value => some value
  | _ => none

/-- A value of the configuration file that the code looks into by itself. -/
inductive Value
  | null
  | bool (value : Bool)
  | number (value : F64)
  | string (value : String)
  | sequence (items : List Value)
  | mapping (entries : List (Value × Value))
  | tagged (tag : String) (value : Value)

structure HostConfig where
  updateInterval : Nat

structure UsbSerialConfig where
  reconnectInterval : Nat

structure ConnectionConfig where
  usbSerial : UsbSerialConfig

structure ShutdownConfig where
  enabled : Bool
  holdTime : Nat
  animationDelay : Nat

structure ActionsConfig where
  shutdown : ShutdownConfig

structure FilesystemConfig where
  id : String
  path : String
  label : String

structure SmartDeviceConfig where
  id : String
  path : String
  label : String

structure SmartConfig where
  devices : List SmartDeviceConfig

structure UpsConfig where
  endpoint : Option String
  failuresBeforeUnavailable : UInt8

structure BackupConfig where
  taskHistoryLimit : UInt16

structure ProxmoxConfig where
  backup : BackupConfig

structure InternetConfig where
  target : String
  interval : Nat
  timeout : Nat
  linkUpSettleDelay : Nat
  firstFailureRetryDelay : Nat
  failuresBeforeFailed : UInt8

structure SourcesConfig where
  filesystems : List FilesystemConfig
  smart : SmartConfig
  ups : UpsConfig
  internet : InternetConfig
  proxmox : ProxmoxConfig

inductive Severity
  | healthy
  | warning
  | critical
  deriving DecidableEq, Repr

def Severity.level : Severity → HealthLevel
  | healthy => .healthy
  | warning => .warning
  | critical => .critical

inductive FilesystemField
  | mounted
  | usedPercent
  deriving DecidableEq, Repr

inductive MetricSelector
  | upsStatus
  | upsStale
  | smartStatus
  | networkUp
  | internetStatus
  | backupStatus
  | backupAge
  | cpuPercent
  | memoryPercent
  | ioPressurePercent
  | filesystem (id : String) (field : FilesystemField)
  deriving DecidableEq, Repr

structure Predicate where
  measurement : MetricSelector
  equals : Option Value
  isIn : Option (List Value)
  atLeast : Option F64
  greaterThan : Option F64
  missingOrGreaterThan : Option Nat

inductive Condition
  | all (all : List Condition)
  | any (any : List Condition)
  | predicate (predicate : Predicate)

structure HealthDefault where
  severity : Severity
  message : String

structure HealthRule where
  id : String
  severity : Severity
  condition : Condition
  message : String

structure HealthConfig where
  default : HealthDefault
  rules : List HealthRule

inductive ViewLayout
  | overview
  | resources
  | storage (filesystemIds smartIds : List String) (filesystemsLeft : Bool)
  | powerNetwork (upsLeft : Bool)
  | guests (paginate : Bool) (offset limit : UInt32)
  deriving DecidableEq, Repr

structure ViewConfig where
  title : String
  layout : ViewLayout
  deriving DecidableEq, Repr

structure HttpOutput where
  enabled : Bool
  hostname : String
  port : UInt16
  views : List String

inductive Priority
  | default
  | high
  | urgent
  deriving DecidableEq, Repr

def Priority.notification : Priority → NotificationPriority
  | default => .default
  | high => .high
  | urgent => .urgent

structure NtfyPriorities where
  warning : Priority
  critical : Priority
  recovery : Priority

structure NtfyOutput where
  enabled : Bool
  server : String
  severities : List Severity
  priorities : NtfyPriorities
  notifyRecovery : Bool
  repeatCritical : Option Nat
  clickUrl : Option String

structure LcdOutput where
  views : List String

structure StickOutput where
  lcd : LcdOutput

structure OutputsConfig where
  stick : StickOutput
  http : Option HttpOutput
  ntfy : Option NtfyOutput

structure Config where
  version : UInt8
  host : HostConfig
  connection : ConnectionConfig
  actions : ActionsConfig
  sources : SourcesConfig
  health : HealthConfig
  views : List (String × ViewConfig)
  outputs : OutputsConfig

/-- What a check refuses, with the names it reports. -/
inductive ConfigError
  | unsupportedVersion (version : UInt8)
  | updateIntervalZero
  | reconnectIntervalZero
  | holdTimeZero
  | animationDelayTooLong
  | noFilesystem
  | invalidId (kind id : String)
  | duplicateId (kind id : String)
  | filesystemLabelEmpty (id : String)
  | filesystemPathRelative (id : String)
  | smartLabelEmpty (id : String)
  | smartPathInvalid (id : String)
  | upsFailuresZero
  | historyLimitZero
  | internetInvalid
  | messageEmpty (field : String)
  | healthRule (id : String) (cause : ConfigError)
  | allEmpty
  | anyEmpty
  | notOneComparison
  | unknownMeasurement (id : String)
  | httpViewsEmpty
  | unknownHttpView (id : String)
  | httpInvalid
  | ntfyServerInvalid
  | ntfySeveritiesEmpty
  | ntfySeverityHealthy
  | repeatCriticalZero
  | viewsEmpty (output : String)
  | unknownLcdView (id : String)
  | unknownResource (kind id : String)
  | indexOutOfRange
  | offsetOutOfRange
  | holdTimeTooLong
  | animationDelayExceedsLimit
  | displayInvalid
  | displayTooLarge
  | networkTooLarge
  deriving DecidableEq, Repr

/-- The text of an error; `debug` is the quoted form of a string. -/
def ConfigError.text (debug : String → String) : ConfigError → String
  | unsupportedVersion version => "unsupported configuration version " ++ toString version.toNat
  | updateIntervalZero => "host.update_interval must be positive"
  | reconnectIntervalZero => "connection.usb_serial.reconnect_interval must be positive"
  | holdTimeZero => "actions.shutdown.hold_time must be positive"
  | animationDelayTooLong => "actions.shutdown.animation_delay must be shorter than hold_time"
  | noFilesystem => "at least one filesystem must be configured"
  | invalidId kind id => "invalid " ++ kind ++ " id " ++ debug id
  | duplicateId kind id => "duplicate " ++ kind ++ " id " ++ debug id
  | filesystemLabelEmpty id => "filesystem " ++ id ++ " label must not be empty"
  | filesystemPathRelative id => "filesystem " ++ id ++ " path must be absolute"
  | smartLabelEmpty id => "SMART device " ++ id ++ " label must not be empty"
  | smartPathInvalid id => "SMART device " ++ id ++ " path must start with /dev/"
  | upsFailuresZero => "UPS failures_before_unavailable must be positive"
  | historyLimitZero => "Proxmox backup history limit must be positive"
  | internetInvalid => "internet probe target, durations, and failure count must be positive"
  | messageEmpty field => field ++ " must not be empty"
  | healthRule id _ => "health rule " ++ debug id
  | allEmpty => "all condition must not be empty"
  | anyEmpty => "any condition must not be empty"
  | notOneComparison => "predicate must specify exactly one comparison"
  | unknownMeasurement id => "unknown filesystem measurement ID " ++ debug id
  | httpViewsEmpty => "outputs.http.views must not be empty when HTTP output is enabled"
  | unknownHttpView id => "unknown HTTP view " ++ debug id
  | httpInvalid => "outputs.http hostname and port are invalid"
  | ntfyServerInvalid => "outputs.ntfy.server must be an HTTP or HTTPS URL"
  | ntfySeveritiesEmpty => "outputs.ntfy.severities must not be empty when ntfy is enabled"
  | ntfySeverityHealthy => "outputs.ntfy.severities cannot contain healthy"
  | repeatCriticalZero => "outputs.ntfy.repeat-critical must be greater than zero"
  | viewsEmpty output => output ++ " views must not be empty"
  | unknownLcdView id => "unknown LCD view " ++ debug id
  | unknownResource kind id => "unknown " ++ kind ++ " ID " ++ debug id
  | indexOutOfRange => "resource index exceeds protocol range"
  | offsetOutOfRange => "out of range integral type conversion attempted"
  | holdTimeTooLong => "shutdown hold_time exceeds device limit"
  | animationDelayExceedsLimit => "shutdown animation_delay exceeds device limit"
  | displayInvalid => "invalid display configuration: " ++ DisplayConfig.errorText
  | displayTooLarge =>
    "configured display manifest does not fit the " ++ toString maxHostFrameLen ++ "-byte device frame budget"
  | networkTooLarge =>
    "configured network manifest does not fit the " ++ toString maxHostFrameLen ++ "-byte device frame budget"

/-- Fails with `error` when the check holds. -/
def bailIf (check : Bool) (error : ConfigError) : Except ConfigError Unit := if check then .error error else .ok ()

/-- Whether `text` starts with `start`. -/
def startsWith (text start : String) : Bool := start.toList.isPrefixOf text.toList

def isIdChar (c : Char) : Bool := c.isAlphanum || c == '_' || c == '-'

def validateIds (kind : String) : List String → List String → Except ConfigError Unit
  | _, [] => .ok ()
  | seen, id :: ids => do
    bailIf (id.isEmpty || id.utf8ByteSize > maxRuleIdLen || !id.toList.all isIdChar) (.invalidId kind id)
    bailIf (seen.contains id) (.duplicateId kind id)
    validateIds kind (id :: seen) ids

def validateMessage (message field : String) : Except ConfigError Unit := bailIf message.isEmpty (.messageEmpty field)

namespace Config

def validatePredicate (config : Config) (p : Predicate) : Except ConfigError Unit := do
  let operators := p.equals.isSome.toNat + p.isIn.isSome.toNat + p.atLeast.isSome.toNat + p.greaterThan.isSome.toNat +
    p.missingOrGreaterThan.isSome.toNat
  bailIf (operators != 1) .notOneComparison
  match p.measurement with
  | .filesystem id _ => bailIf (!config.sources.filesystems.any (·.id == id)) (.unknownMeasurement id)
  | _ => .ok ()

mutual
def validateCondition (config : Config) : Condition → Except ConfigError Unit
  | .all children => do
    bailIf children.isEmpty .allEmpty
    config.validateConditions children
  | .any children => do
    bailIf children.isEmpty .anyEmpty
    config.validateConditions children
  | .predicate p => config.validatePredicate p

def validateConditions (config : Config) : List Condition → Except ConfigError Unit
  | [] => .ok ()
  | child :: rest => do
    config.validateCondition child
    config.validateConditions rest
end

def validateFilesystem (fs : FilesystemConfig) : Except ConfigError Unit := do
  bailIf fs.label.isEmpty (.filesystemLabelEmpty fs.id)
  bailIf (!startsWith fs.path "/") (.filesystemPathRelative fs.id)

def validateSmartDevice (disk : SmartDeviceConfig) : Except ConfigError Unit := do
  bailIf disk.label.isEmpty (.smartLabelEmpty disk.id)
  bailIf (!startsWith disk.path "/dev/") (.smartPathInvalid disk.id)

def validateRule (config : Config) (rule : HealthRule) : Except ConfigError Unit := do
  (config.validateCondition rule.condition).mapError (.healthRule rule.id)
  validateMessage rule.message ("health rule " ++ rule.id ++ " message")

def validateHttp (config : Config) (http : HttpOutput) : Except ConfigError Unit := do
  bailIf (http.enabled && http.views.isEmpty) .httpViewsEmpty
  http.views.forM fun id => bailIf (config.views.lookup id).isNone (.unknownHttpView id)
  bailIf
    (http.hostname.isEmpty || !http.hostname.toList.all (fun c => c.isAlphanum || c == '-') || http.port == 0)
    .httpInvalid

def validateNtfy (ntfy : NtfyOutput) : Except ConfigError Unit := do
  bailIf (ntfy.enabled && !startsWith ntfy.server "https://" && !startsWith ntfy.server "http://") .ntfyServerInvalid
  bailIf (ntfy.enabled && ntfy.severities.isEmpty) .ntfySeveritiesEmpty
  bailIf (ntfy.severities.contains .healthy) .ntfySeverityHealthy
  bailIf (ntfy.enabled && ntfy.repeatCritical == some 0) .repeatCriticalZero

def validateOutputs (config : Config) : Except ConfigError Unit := do
  config.outputs.http.forM config.validateHttp
  config.outputs.ntfy.forM validateNtfy

/-! ### The manifests -/

/-- The pages a paginated guest view takes. -/
def guestPages (guestCount : Nat) : Nat := (max guestCount 1 + 3) / 4

def resolveIndices (kind : String) (position : String → Option Nat) (ids : List String) :
    Except ConfigError (List UInt32) :=
  ids.mapM fun id =>
    match position id with
    | none => .error (.unknownResource kind id)
    | some index => if index < UInt32.size then .ok (UInt32.ofNat index) else .error .indexOutOfRange

def guestPage (title : DisplayLabel) (index : Nat) : Except ConfigError DisplayView :=
  if index * 4 < UInt32.size then .ok ⟨title, .guests (UInt32.ofNat (index * 4)) 4⟩ else .error .offsetOutOfRange

/-- The pages of one view. Storage pages show three filesystems and five disks each. -/
def compileView (config : Config) (view : ViewConfig) (guestCount : Nat) : Except ConfigError (List DisplayView) :=
  let title : DisplayLabel := ⟨view.title⟩
  match view.layout with
  | .guests true _ _ => (List.range (guestPages guestCount)).mapM (guestPage title)
  | .storage filesystemIds smartIds filesystemsLeft => do
    let filesystemIndices ← resolveIndices "filesystem"
      (fun id => config.sources.filesystems.findIdx? (·.id == id)) filesystemIds
    let smartIndices ← resolveIndices "SMART device"
      (fun id => config.sources.smart.devices.findIdx? (·.id == id)) smartIds
    let pageCount := max (max ((filesystemIndices.length + 2) / 3) ((smartIndices.length + 4) / 5)) 1
    return (List.range pageCount).map fun index =>
      ⟨title, .storage filesystemsLeft ((filesystemIndices.drop (index * 3)).take 3)
        ((smartIndices.drop (index * 5)).take 5)⟩
  | .overview => .ok [⟨title, .overview⟩]
  | .resources => .ok [⟨title, .resources⟩]
  | .powerNetwork upsLeft => .ok [⟨title, .powerNetwork upsLeft⟩]
  | .guests false offset limit => .ok [⟨title, .guests offset limit⟩]

def compilePage (config : Config) (guestCount : Nat) (id : String) : Except ConfigError (List DisplayView) :=
  match config.views.lookup id with
  | some view => config.compileView view guestCount
  | none => .error (.unknownLcdView id)

def compilePagesFor (config : Config) (viewIds : List String) (guestCount : Nat) (outputName : String) :
    Except ConfigError (List DisplayView) := do
  bailIf viewIds.isEmpty (.viewsEmpty outputName)
  let pages ← viewIds.mapM (config.compilePage guestCount)
  return pages.flatten

def compilePages (config : Config) (guestCount : Nat) : Except ConfigError (List DisplayView) :=
  config.compilePagesFor config.outputs.stick.lcd.views guestCount "LCD"

def toU16 (millis : Nat) (error : ConfigError) : Except ConfigError UInt16 :=
  if millis < UInt16.size then .ok (UInt16.ofNat millis) else .error error

def displayConfig (config : Config) (build : SoftwareVersion) (guestCount : Nat) : Except ConfigError DisplayConfig := do
  let labels := config.sources.filesystems.map fun fs => (⟨fs.label⟩ : DisplayLabel)
  let hold ← toU16 config.actions.shutdown.holdTime .holdTimeTooLong
  let delay ← toU16 config.actions.shutdown.animationDelay .animationDelayExceedsLimit
  let pages ← config.compilePages guestCount
  match DisplayConfig.new hold delay labels pages with
  | some display => return { display with daemonVersion := build }
  | none => .error .displayInvalid

/-- The HTTP part of the network manifest; without an output it is disabled, under the default name and port. -/
def httpConfig (config : Config) (guestCount : Nat) : Except ConfigError HttpConfig :=
  match config.outputs.http with
  | some http => do
    let pages ← config.compilePagesFor http.views guestCount "HTTP"
    return ⟨http.enabled, http.port, http.hostname, pages⟩
  | none => .ok ⟨false, 80, "servatory", []⟩

def ntfyConfig (config : Config) : NtfyConfig :=
  match config.outputs.ntfy with
  | some ntfy =>
    { enabled := ntfy.enabled
      severities := ⟨ntfy.severities.contains .warning, ntfy.severities.contains .critical⟩
      notifyRecovery := ntfy.notifyRecovery
      warningPriority := ntfy.priorities.warning.notification
      criticalPriority := ntfy.priorities.critical.notification
      recoveryPriority := ntfy.priorities.recovery.notification
      repeatCriticalSeconds := ntfy.repeatCritical.map fun millis =>
        if millis / 1000 < UInt32.size then UInt32.ofNat (millis / 1000) else UInt32.ofNat (UInt32.size - 1)
      server := ntfy.server
      clickUrl := ntfy.clickUrl }
  | none => ⟨false, ⟨false, false⟩, false, .high, .urgent, .default, none, "https://ntfy.sh", none⟩

def networkConfig (config : Config) (guestCount : Nat) : Except ConfigError NetworkConfig := do
  let http ← config.httpConfig guestCount
  return ⟨http, config.ntfyConfig⟩

/-- Both manifests are encoded once, as they are for a host without guests. -/
def validateManifestSizes (config : Config) (build : SoftwareVersion) : Except ConfigError Unit := do
  let display ← config.displayConfig build 0
  bailIf (!(encodeHost (.displayConfig display) maxHostFrameLen).isOk) .displayTooLarge
  let network ← config.networkConfig 0
  bailIf (!(encodeHost (.networkConfig network) maxHostFrameLen).isOk) .networkTooLarge

def validate (config : Config) (build : SoftwareVersion) : Except ConfigError Unit := do
  bailIf (config.version != 2) (.unsupportedVersion config.version)
  bailIf (config.host.updateInterval == 0) .updateIntervalZero
  bailIf (config.connection.usbSerial.reconnectInterval == 0) .reconnectIntervalZero
  bailIf (config.actions.shutdown.holdTime == 0) .holdTimeZero
  bailIf (config.actions.shutdown.animationDelay ≥ config.actions.shutdown.holdTime) .animationDelayTooLong
  bailIf config.sources.filesystems.isEmpty .noFilesystem
  validateIds "filesystem" [] (config.sources.filesystems.map (·.id))
  validateIds "SMART device" [] (config.sources.smart.devices.map (·.id))
  config.sources.filesystems.forM validateFilesystem
  config.sources.smart.devices.forM validateSmartDevice
  bailIf (config.sources.ups.failuresBeforeUnavailable == 0) .upsFailuresZero
  bailIf (config.sources.proxmox.backup.taskHistoryLimit == 0) .historyLimitZero
  bailIf
    (config.sources.internet.target.isEmpty || config.sources.internet.interval == 0 ||
      config.sources.internet.timeout == 0 || config.sources.internet.failuresBeforeFailed == 0)
    .internetInvalid
  validateMessage config.health.default.message "health.default.message"
  validateIds "health rule" [] (config.health.rules.map (·.id))
  config.health.rules.forM config.validateRule
  config.validateOutputs
  config.validateManifestSizes build

end Config
end Servatory
