import Servatory.Host.Guests
import Servatory.Host.Health
import Servatory.Host.Probe
import Servatory.Host.Route
import Servatory.Host.Smart
import Servatory.Host.Ups
import Servatory.Host.Usage

/-! The whole health collector. Every collection reads the times of the processors, the memory and the guests; the
    network, the filesystems, the backups, the power supply and the disks are read in intervals of their own. -/

namespace Servatory

def networkRefreshInterval : Nat := 10 * 1000000
def upsRefreshInterval : Nat := 10 * 1000000
def backupRefreshInterval : Nat := 60 * 1000000

/-! ### Texts of the kernel -/

def readHostName (text : Option String) : String := trim (text.getD "proxmox")

def readUptime (text : Option String) : UInt64 :=
  ((do
    let word ← (Text.words (← text).toList).head?
    Text.parseUnsigned UInt64.size (word.takeWhile (· != '.'))).getD 0).toUInt64

/-- The number behind the first line that starts with a key. -/
def meminfoValue (text key : String) : Nat :=
  (do
    let line ← (Text.lines text.toList).find? (key.toList.isPrefixOf ·)
    Text.parseUnsigned UInt64.size (← (Text.words line)[1]?)).getD 0

def mib (kib : Nat) : UInt32 := (min (kib / 1024) (UInt32.size - 1)).toUInt32

/-- What is used of the memory, and all of it. -/
def readMemory (text : Option String) : UInt32 × UInt32 :=
  let total := meminfoValue (text.getD "") "MemTotal:"
  (mib (total - meminfoValue (text.getD "") "MemAvailable:"), mib total)

def readIoPressure (text : Option String) : UInt8 :=
  ((do
    let line ← (Text.lines (text.getD "").toList).find? ("some ".toList.isPrefixOf ·)
    let part ← (Text.words line).find? ("avg10=".toList.isPrefixOf ·)
    parseF64 (part.drop "avg10=".length)).map percent).getD 0

/-! ### The output of programs -/

def readFilesystemUsage (path : String) (run : Commands) : FilesystemUsage :=
  (do
    let output ← run "/usr/bin/df" ["-P", "-k", path]
    if output.success then parseFilesystemUsage output.stdout path else none).getD .missing

def backupTasksQuery (hostName : String) (limit : UInt16) : List String :=
  ["get", "/nodes/" ++ hostName ++ "/tasks", "--typefilter", "vzdump", "--source", "all", "--limit", toString limit.toNat,
    "--output-format", "json"]

def readBackupJobStatus (hostName : String) (nowSeconds : Option Nat) (limit : UInt16) (run : Commands) :
    BackupJobStatus × Option UInt32 :=
  (do
    let nowSeconds ← nowSeconds
    let jobs ← run "/usr/bin/pvesh" ["get", "/cluster/backup", "--output-format", "json"]
    let tasks ← run "/usr/bin/pvesh" (backupTasksQuery hostName limit)
    if !jobs.success || !tasks.success then none
    else some (parseBackupJobStatus jobs.json tasks.json hostName nowSeconds)).getD (.unknown, none)

/-! ### The collector -/

/-- What a collection takes from outside: the clock at its start, the programs, of which those for several paths are told
    apart by a number, the files, the time since 1970, and when the probe is prepared, cannot be sent and is reported. -/
structure Collection where
  now : Nat
  run : Nat → Commands
  file : String → Option String
  sysfs : Sysfs
  epochSeconds : Option Nat
  preparedAt : Nat
  notSentAt : Option Nat
  reportedAt : Nat

namespace Collection

def readings (s : Collection) : Readings where
  filesystemUsage index path := readFilesystemUsage path (s.run index)
  smartDevice index path := readSmartDevice path (s.run index)

end Collection

/-- A probe is prepared, and has failed when it cannot be sent. -/
def ProbeState.send (p : ProbeState) (s : Collection) (linkUp : Bool) : ProbeState :=
  match p.prepareProbe s.preparedAt linkUp, s.notSentAt with
  | (p, some generation), some now => p.recordResult generation false now
  | (p, _), _ => p

structure Collector extends HealthCollector where
  previousCpu : Option CpuTimes
  connectivity : ProbeState
  ups : UpsCollector
  backupTaskHistoryLimit : UInt16
  hostName : String
  network : NetworkSnapshot
  backup : BackupJobStatus × Option UInt32
  upsSnapshot : UpsSnapshot
  nextNetworkRefresh : Nat
  nextBackupRefresh : Nat
  nextUpsRefresh : Nat

namespace Collector

def new (upsTarget : Option String) (upsFailuresBeforeUnavailable : UInt8) (smartDevices : List SmartDeviceConfig)
    (filesystems : List String) (internet : Option InternetConfig) (backupTaskHistoryLimit : UInt16)
    (hostName : Option String) (now probeStart : Nat) : Collector where
  toHealthCollector := .new smartDevices filesystems now
  previousCpu := none
  connectivity := ConnectivityProbe.new internet probeStart
  ups := .new upsTarget upsFailuresBeforeUnavailable
  backupTaskHistoryLimit := backupTaskHistoryLimit
  hostName := readHostName hostName
  network := .default
  backup := (.unknown, none)
  upsSnapshot := .notConfigured
  nextNetworkRefresh := now
  nextBackupRefresh := now
  nextUpsRefresh := now

/-- The collector of the daemon. -/
def ofConfig (config : Config) (hostName : Option String) (now probeStart : Nat) : Collector :=
  new config.sources.ups.endpoint config.sources.ups.failuresBeforeUnavailable config.sources.smart.devices
    (config.sources.filesystems.map (·.path)) (some config.sources.internet) config.sources.proxmox.backup.taskHistoryLimit
    hostName now probeStart

/-- The collector after a collection. -/
def collect (c : Collector) (s : Collection) : Collector :=
  let (networkDue, nextNetworkRefresh) := refreshDue s.now c.nextNetworkRefresh networkRefreshInterval
  let network := if networkDue then readNetwork (s.run 0) s.file s.sysfs else c.network
  let (backupDue, nextBackupRefresh) := refreshDue s.now c.nextBackupRefresh backupRefreshInterval
  let (upsDue, nextUpsRefresh) := refreshDue s.now c.nextUpsRefresh upsRefreshInterval
  let (ups, upsSnapshot) := if upsDue then c.ups.collect (s.run 0) else (c.ups, c.upsSnapshot)
  { c with
    toHealthCollector := c.toHealthCollector.collect s.now s.readings
    previousCpu := readCpuTimes (s.file "/proc/stat")
    connectivity := c.connectivity.send s network.up
    ups
    network
    backup :=
      if backupDue then readBackupJobStatus c.hostName s.epochSeconds c.backupTaskHistoryLimit (s.run 0) else c.backup
    upsSnapshot
    nextNetworkRefresh
    nextBackupRefresh
    nextUpsRefresh }

/-- The snapshot that a collection returns. -/
def snapshot (c : Collector) (s : Collection) : HealthSnapshot :=
  let c' := c.collect s
  let (memoryUsedMib, memoryTotalMib) := readMemory (s.file "/proc/meminfo")
  let (internetStatus, lastInternetSuccessAgeSeconds) := c'.connectivity.report s.reportedAt
  { health := .healthy
    activeIncidents := []
    uptimeSeconds := readUptime (s.file "/proc/uptime")
    cpuPercent := cpuPercent c.previousCpu (readCpuTimes (s.file "/proc/stat"))
    memoryUsedMib
    memoryTotalMib
    ioPressurePercent := readIoPressure (s.file "/proc/pressure/io")
    loadAverageX100 := readLoadAverage (s.file "/proc/loadavg")
    filesystems := c'.filesystemUsage
    backupJobStatus := c'.backup.1
    lastSuccessfulBackupAgeSeconds := c'.backup.2
    networkUp := c'.network.up
    networkMbps := c'.network.mbps
    internetStatus
    lastInternetSuccessAgeSeconds
    ipv4 := c'.network.ipv4
    guests := readGuests c.hostName (s.run 0)
    ups := c'.upsSnapshot
    smart := c'.smart
    hostName := c.hostName
    networkInterface := c'.network.interface }

/-- A collection, or the result of a probe that was sent. -/
inductive Event
  | collect (s : Collection)
  | probed (generation : UInt32) (reachable : Bool) (now : Nat)

def next (c : Collector) : Event → Collector
  | .collect s => c.collect s
  | .probed generation reachable now => { c with connectivity := c.connectivity.recordResult generation reachable now }

def run (c : Collector) (events : List Event) : Collector := events.foldl next c

end Collector

/-! ### The thread of the collector -/

/-- The collector and the slot in which its thread leaves a snapshot for the main loop. -/
structure HealthThread where
  collector : Collector
  latest : Option HealthSnapshot

namespace HealthThread

/-- What the collector does, or the main loop taking the snapshot. -/
inductive Event
  | collector (event : Collector.Event)
  | take

def spawn (collector : Collector) : HealthThread := ⟨collector, none⟩

def takeLatestHealth (t : HealthThread) : Option HealthSnapshot × HealthThread := (t.latest, { t with latest := none })

/-- A snapshot takes the place of one that has not been taken. -/
def next (t : HealthThread) : Event → HealthThread
  | .collector (.collect s) => ⟨t.collector.collect s, some (t.collector.snapshot s)⟩
  | .collector event => { t with collector := t.collector.next event }
  | .take => t.takeLatestHealth.2

def run (t : HealthThread) (events : List Event) : HealthThread := events.foldl next t

end HealthThread
end Servatory
