import Servatory.Host.Config
import Servatory.Lib.Text

/-! The health policy: which rules of the configuration a snapshot meets, and the messages they give. Every
    measurement is a natural number, which `f64` holds exactly. -/

namespace Servatory

/-- The value of a tagged node. -/
def Value.untag : Value → Value
  | .tagged _ value => value.untag
  | value => value

inductive Metric
  | bool (value : Bool)
  | number (value : Nat)
  | text (value : String)
  | missing
  deriving DecidableEq, Repr

def upsStatus : UpsStatus → String
  | .notConfigured => "not_configured"
  | .unknown => "unknown"
  | .online => "online"
  | .onBattery => "on_battery"
  | .lowBattery => "low_battery"
  | .charging => "charging"
  | .bypass => "bypass"
  | .outputOff => "output_off"
  | .replaceBattery => "replace_battery"
  | .unavailable => "unavailable"

def smartStatus : SmartStatus → String
  | .healthy => "healthy"
  | .warning => "warning"
  | .failed => "failed"
  | .sleeping => "sleeping"
  | .unknown => "unknown"

def internetStatus : InternetStatus → String
  | .checking => "checking"
  | .reachable => "reachable"
  | .missed => "missed"
  | .failed => "failed"

def backupStatus : BackupJobStatus → String
  | .unknown => "unknown"
  | .noJob => "no_job"
  | .healthy => "healthy"
  | .running => "running"
  | .failed => "failed"
  | .stale => "stale"

namespace F64

/-- The number is not above `value`. -/
def isAtMost (limit : F64) (value : Nat) : Bool :=
  match limit with
  | nan => false
  | negInf => true
  | finite limit => limit ≤ value
  | posInf => false

/-- The number is below `value`. -/
def isBelow (limit : F64) (value : Nat) : Bool :=
  match limit with
  | nan => false
  | negInf => true
  | finite limit => limit < value
  | posInf => false

end F64

namespace Metric

def equals : Metric → Value → Bool
  | bool value, expected => match expected.untag with
    | .bool b => b == value
    | _ => false
  | number value, expected => match expected.untag with
    | .number n => n == .finite value
    | _ => false
  | text value, expected => match expected.untag with
    | .string s => s == value
    | _ => false
  | missing, expected => match expected.untag with
    | .null => true
    | _ => false

def isAtLeast (limit : F64) : Metric → Bool
  | number value => limit.isAtMost value
  | _ => false

def isGreaterThan (limit : F64) : Metric → Bool
  | number value => limit.isBelow value
  | _ => false

/-- The number of seconds is greater than a duration. -/
def exceeds (limit : Nat) : Metric → Bool
  | number value => value * 1000 > limit
  | _ => false

end Metric

/-- The first comparison that a predicate gives decides. -/
def matchesPredicate (value : Metric) (p : Predicate) : Bool :=
  match p.equals, p.isIn, p.atLeast, p.greaterThan, p.missingOrGreaterThan with
  | some expected, _, _, _, _ => value.equals expected
  | none, some expected, _, _, _ => expected.any value.equals
  | none, none, some limit, _, _ => value.isAtLeast limit
  | none, none, none, some limit, _ => value.isGreaterThan limit
  | none, none, none, none, some limit => value == .missing || value.exceeds limit
  | none, none, none, none, none => false

/-! ### Text -/

/-- Replaces the occurrences of a `needle` that is not empty, from the left; the next `skip` characters belong
    to one that has been replaced. -/
def replaceFrom (needle new : List Char) : Nat → List Char → List Char
  | _, [] => []
  | skip + 1, _ :: rest => replaceFrom needle new skip rest
  | 0, c :: rest =>
    if needle.isPrefixOf (c :: rest) then new ++ replaceFrom needle new (needle.length - 1) rest
    else c :: replaceFrom needle new 0 rest

def replaceAll (text needle new : String) : String :=
  String.ofList (replaceFrom needle.toList new.toList 0 text.toList)

/-! ### The rules -/

namespace Config

def memoryPercent (snapshot : HealthSnapshot) : Nat :=
  if snapshot.memoryTotalMib = 0 then 0
  else
    let percent := snapshot.memoryUsedMib.toNat * 100 / snapshot.memoryTotalMib.toNat
    if percent < UInt8.size then percent else 100

def metric (config : Config) (snapshot : HealthSnapshot) : MetricSelector → Metric
  | .upsStatus => .text (Servatory.upsStatus snapshot.ups.status)
  | .upsStale => .bool snapshot.ups.stale
  | .smartStatus => .missing
  | .networkUp => .bool snapshot.networkUp
  | .internetStatus => .text (Servatory.internetStatus snapshot.internetStatus)
  | .backupStatus => .text (Servatory.backupStatus snapshot.backupJobStatus)
  | .backupAge => snapshot.lastSuccessfulBackupAgeSeconds.elim .missing fun age => .number age.toNat
  | .cpuPercent => .number snapshot.cpuPercent.toNat
  | .memoryPercent => .number (Config.memoryPercent snapshot)
  | .ioPressurePercent => .number snapshot.ioPressurePercent.toNat
  | .filesystem id field =>
    match (config.sources.filesystems.findIdx? (·.id == id)).bind (snapshot.filesystems[·]?) with
    | none => .missing
    | some usage =>
      match field with
      | .mounted => .bool usage.mounted
      | .usedPercent => .number usage.usedPercent.toNat

def matchesSelector (config : Config) (snapshot : HealthSnapshot) (p : Predicate) : Bool :=
  match p.measurement with
  | .smartStatus => snapshot.smart.devices.any fun device => matchesPredicate (.text (smartStatus device.status)) p
  | measurement => matchesPredicate (config.metric snapshot measurement) p

mutual
def matchesCondition (config : Config) (snapshot : HealthSnapshot) : Condition → Bool
  | .all children => config.matchesAll snapshot children
  | .any children => config.matchesAny snapshot children
  | .predicate p => config.matchesSelector snapshot p

def matchesAll (config : Config) (snapshot : HealthSnapshot) : List Condition → Bool
  | [] => true
  | child :: rest => config.matchesCondition snapshot child && config.matchesAll snapshot rest

def matchesAny (config : Config) (snapshot : HealthSnapshot) : List Condition → Bool
  | [] => false
  | child :: rest => config.matchesCondition snapshot child || config.matchesAny snapshot rest
end

mutual
/-- The first number that a condition measures. -/
def metricsForValue (config : Config) (snapshot : HealthSnapshot) : Condition → Option Nat
  | .predicate p =>
    match config.metric snapshot p.measurement with
    | .number value => some value
    | _ => none
  | .all children => config.firstMetric snapshot children
  | .any children => config.firstMetric snapshot children

def firstMetric (config : Config) (snapshot : HealthSnapshot) : List Condition → Option Nat
  | [] => none
  | child :: rest => (config.metricsForValue snapshot child).or (config.firstMetric snapshot rest)
end

/-- Puts the label of the first filesystem that a template names in place of its placeholders. -/
def renderLabel (config : Config) (template : String) : String :=
  match (Text.splitAtFirst "filesystem.".toList template.toList).bind fun parts =>
      Text.splitAtFirst ".label\x7d".toList parts.2 with
  | none => template
  | some (id, _) =>
    match config.sources.filesystems.find? (·.id == String.ofList id) with
    | some fs => replaceAll template ("\x7bfilesystem." ++ String.ofList id ++ ".label\x7d") fs.label
    | none => template

def renderMessage (config : Config) (rule : HealthRule) (snapshot : HealthSnapshot) : String :=
  let message := config.renderLabel rule.message
  if (Text.splitAtFirst "\x7bvalue\x7d".toList message.toList).isSome then
    replaceAll message "\x7bvalue\x7d" (toString ((config.metricsForValue snapshot rule.condition).getD 0))
  else message

/-- The incident of a rule that a snapshot meets; `none` is the panic on the identifier of a rule that was not
    validated. -/
def ruleIncident (config : Config) (snapshot : HealthSnapshot) (rule : HealthRule) : Option Incident :=
  (RuleId.new rule.id).map fun id => ⟨.rule id, rule.severity.level, config.renderMessage rule snapshot⟩

/-- The more severe of two incidents, and of two alike the earlier one. -/
def moreSevere (primary : Option Incident) (incident : Incident) : Option Incident :=
  if primary.all (fun current => current.level.priority < incident.level.priority) then some incident else primary

/-- The report for a snapshot, and the incidents of all rules that it meets. -/
def evaluateHealth (config : Config) (snapshot : HealthSnapshot) : Option (HealthReport × List Incident) := do
  let incidents ← (config.health.rules.filter fun rule => config.matchesCondition snapshot rule.condition).mapM
    (config.ruleIncident snapshot)
  let primary :=
    match incidents.foldl moreSevere none with
    | some incident => ⟨incident.level, incident.message⟩
    | none => ⟨config.health.default.severity.level, config.health.default.message⟩
  return (primary, incidents)

end Config
end Servatory
