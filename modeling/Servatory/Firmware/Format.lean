import Servatory.Lib.FixedString
import Servatory.Protocol.Message

/-! The texts of the screens, in strings of the capacities they have on the Stick. A formatted text is the
    list of its pieces, in the order in which they are written. -/

namespace Servatory

def healthLevelLabel : HealthLevel → String
  | .healthy => "HEALTHY"
  | .warning => "WARNING"
  | .critical => "CRITICAL"

def memoryPercent (snapshot : HealthSnapshot) : Nat :=
  if snapshot.memoryTotalMib = 0 then 0
  else
    let percent := snapshot.memoryUsedMib.toNat * 100 / snapshot.memoryTotalMib.toNat
    if percent < 256 then percent else 100

def guestCounts (snapshot : HealthSnapshot) : Nat × Nat :=
  let guests := snapshot.guests.guests
  ((guests.filter (·.status == .running)).length, guests.length)

def formatHostMetrics (snapshot : HealthSnapshot) : FixedString 48 :=
  FixedString.empty.write
    ["CPU ", toString snapshot.cpuPercent.toNat, "% MEM ", toString (memoryPercent snapshot), "%"]

def formatLink (snapshot : HealthSnapshot) : FixedString 24 :=
  let mbps := snapshot.networkMbps.toNat
  if !snapshot.networkUp then FixedString.empty.push "DOWN"
  else if mbps ≥ 1000 then
    if mbps % 1000 = 0 then FixedString.empty.write [toString (mbps / 1000), "G UP"]
    else FixedString.empty.write [toString (mbps / 1000), ".", toString (mbps % 1000 / 100), "G UP"]
  else if mbps > 0 then FixedString.empty.write [toString mbps, "M UP"]
  else FixedString.empty.push "UP"

def networkHasError (snapshot : HealthSnapshot) : Bool :=
  !snapshot.networkUp || snapshot.internetStatus == .missed || snapshot.internetStatus == .failed

def internetStatusText : InternetStatus → String
  | .checking => "CHECKING"
  | .reachable => "ONLINE"
  | .missed => "PING MISSED"
  | .failed => "PING FAILED"

def networkStatusText (snapshot : HealthSnapshot) : String :=
  if !snapshot.networkUp then "LINK DOWN" else internetStatusText snapshot.internetStatus

def ipv4Pieces (address : UInt8 × UInt8 × UInt8 × UInt8) : List String :=
  [toString address.1.toNat, ".", toString address.2.1.toNat, ".", toString address.2.2.1.toNat, ".",
    toString address.2.2.2.toNat]

def formatIpv4 (address : UInt8 × UInt8 × UInt8 × UInt8) : FixedString 16 :=
  if address = (0, 0, 0, 0) then FixedString.empty.push "NO ADDRESS" else FixedString.empty.write (ipv4Pieces address)

def formatNetworkSummary (snapshot : HealthSnapshot) : FixedString 16 :=
  if !snapshot.networkUp then FixedString.empty.push "LINK DOWN"
  else if snapshot.internetStatus = .reachable then formatIpv4 snapshot.ipv4
  else FixedString.empty.push (internetStatusText snapshot.internetStatus)

def formatLastInternetSuccess (ageSeconds : Option UInt32) : FixedString 20 :=
  match ageSeconds with
  | none => FixedString.empty.push "LAST OK NEVER"
  | some age =>
    let seconds := age.toNat
    if seconds < 60 then FixedString.empty.write ["LAST OK ", toString seconds, "s AGO"]
    else if seconds < 3600 then FixedString.empty.write ["LAST OK ", toString (seconds / 60), "m AGO"]
    else if seconds < 86400 then
      FixedString.empty.write
        ["LAST OK ", toString (seconds / 3600), "h", toString (seconds % 3600 / 60), "m AGO"]
    else FixedString.empty.write ["LAST OK ", toString (seconds / 86400), "d AGO"]

def smartStatusText : SmartStatus → String
  | .healthy => "OK"
  | .warning => "WARN"
  | .failed => "FAIL"
  | .sleeping => "SLEEP"
  | .unknown => "UNK"

/-- The pieces of a signed number. -/
def intPieces (i : Int) : List String := if i < 0 then ["-", toString i.natAbs] else [toString i.natAbs]

def formatSmartDetail (device : SmartDeviceSummary) : FixedString 12 :=
  let text : FixedString 12 := FixedString.empty.push (smartStatusText device.status)
  match device.temperatureCelsius with
  | some temperature => text.write (" " :: intPieces temperature.toInt ++ ["C"])
  | none => if device.status = .sleeping then text.push " --" else text

def upsStatusText (snapshot : HealthSnapshot) : String :=
  if snapshot.ups.stale && snapshot.ups.status != .unavailable then "STALE"
  else
    match snapshot.ups.status with
    | .notConfigured => "NO UPS"
    | .unknown => "NO DATA"
    | .unavailable => "NO DATA"
    | .online => "ONLINE"
    | .onBattery => "ON BATTERY"
    | .lowBattery => "LOW BATTERY"
    | .charging => "CHARGING"
    | .bypass => "BYPASS"
    | .outputOff => "OUTPUT OFF"
    | .replaceBattery => "REPLACE BAT"

def formatUpsBattery (snapshot : HealthSnapshot) : FixedString 16 :=
  match snapshot.ups.batteryPercent with
  | some percent => FixedString.empty.write ["BAT       ", toString percent.toNat, "%"]
  | none => FixedString.empty.push "BAT        --"

def formatUpsLoad (snapshot : HealthSnapshot) : FixedString 20 :=
  match snapshot.ups.loadPercent, snapshot.ups.estimatedWatts with
  | some load, some watts =>
    FixedString.empty.write ["LOAD ", toString load.toNat, "% ~", toString watts.toNat, "W"]
  | some load, none => FixedString.empty.write ["LOAD      ", toString load.toNat, "%"]
  | none, _ => FixedString.empty.push "LOAD       --"

def formatUpsRuntime (snapshot : HealthSnapshot) : FixedString 20 :=
  match snapshot.ups.runtimeSeconds with
  | some runtime =>
    let seconds := runtime.toNat
    if seconds ≥ 3600 then
      FixedString.empty.write ["RUNTIME ", toString (seconds / 3600), "h", toString (seconds % 3600 / 60), "m"]
    else FixedString.empty.write ["RUNTIME    ", toString (seconds / 60), "m"]
  | none => FixedString.empty.push "RUNTIME    --"

def formatAvailableStorage (availableMib : UInt32) : FixedString 8 :=
  let mib := availableMib.toNat
  if mib ≥ 1048576 then
    let tenths := mib * 10 / 1048576
    FixedString.empty.write [toString (tenths / 10), ".", toString (tenths % 10), "T"]
  else if mib ≥ 1024 then FixedString.empty.write [toString ((mib + 512) / 1024), "G"]
  else FixedString.empty.write [toString mib, "M"]

def writeBackupAge (text : FixedString 24) (age : Option UInt32) (suffix : String) : FixedString 24 :=
  let seconds := (age.getD 0).toNat
  if seconds ≥ 2 * 86400 then text.write [toString (seconds / 86400), "d", suffix]
  else if seconds ≥ 3600 then text.write [toString (seconds / 3600), "h", suffix]
  else text.write [toString (seconds / 60), "m", suffix]

def formatBackupJob (snapshot : HealthSnapshot) : FixedString 24 :=
  let text : FixedString 24 := FixedString.empty
  let age := snapshot.lastSuccessfulBackupAgeSeconds
  match snapshot.backupJobStatus with
  | .healthy => writeBackupAge (text.push "BACKUP OK ") age " AGO"
  | .running => text.push "BACKUP RUNNING"
  | .failed => text.push "BACKUP FAILED"
  | .stale =>
    if age.isSome then writeBackupAge (text.push "BACKUP ") age " OLD" else (text.push "BACKUP ").push "OVERDUE"
  | .noJob => text.push "BACKUP NO JOB"
  | .unknown => text.push "BACKUP UNKNOWN"

/-- A guest's name, cut to the characters its column has room for. -/
def shortName (name : String) : Option (FixedString 17) := FixedString.collect 17 (name.toList.take 16)

def shortHostName (name : String) : Option (FixedString 11) := FixedString.collect 11 (name.toList.take 10)

/-- A version without its build metadata. -/
def shortVersion (version : String) : String := String.ofList (version.toList.takeWhile (· != '+'))

end Servatory
