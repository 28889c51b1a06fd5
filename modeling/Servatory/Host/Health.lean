import Servatory.Host.Config

/-! The filesystems and disks of the health collector. Both are read anew in intervals of their own, each in the order
    of the configuration; what a read returns comes from outside, as does the rest of the snapshot. Times are
    microseconds. -/

namespace Servatory

def filesystemRefreshInterval : Nat := 30 * 1000000
def smartRefreshInterval : Nat := 60 * 1000000

def FilesystemUsage.missing : FilesystemUsage := ⟨0, 0, false⟩

structure HealthCollector where
  smartDevices : List SmartDeviceConfig
  filesystems : List String
  filesystemUsage : List FilesystemUsage
  smart : SmartSnapshot
  nextFilesystemRefresh : Nat
  nextSmartRefresh : Nat

/-- What reading a path returns; the same path may read differently at another position. -/
structure Readings where
  filesystemUsage : Nat → String → FilesystemUsage
  smartDevice : Nat → String → SmartStatus × Option Int8

/-- Whether a refresh is due, and when the next one is. -/
def refreshDue (now nextRefresh interval : Nat) : Bool × Nat :=
  if now < nextRefresh then (false, nextRefresh) else (true, now + interval)

def readSmart (reads : Readings) (devices : List SmartDeviceConfig) : SmartSnapshot where
  devices := devices.mapIdx fun index device =>
    let (status, temperature) := reads.smartDevice index device.path
    ⟨status, temperature, device.label⟩

namespace HealthCollector

def new (smartDevices : List SmartDeviceConfig) (filesystems : List String) (now : Nat) : HealthCollector where
  smartDevices := smartDevices
  filesystems := filesystems
  filesystemUsage := List.replicate filesystems.length .missing
  smart := ⟨[]⟩
  nextFilesystemRefresh := now
  nextSmartRefresh := now

/-- The collector of a configuration. -/
def ofConfig (config : Config) (now : Nat) : HealthCollector :=
  new config.sources.smart.devices (config.sources.filesystems.map (·.path)) now

def collect (now : Nat) (reads : Readings) (c : HealthCollector) : HealthCollector :=
  let (filesystemsDue, nextFilesystemRefresh) := refreshDue now c.nextFilesystemRefresh filesystemRefreshInterval
  let (smartDue, nextSmartRefresh) := refreshDue now c.nextSmartRefresh smartRefreshInterval
  { c with
    filesystemUsage := if filesystemsDue then c.filesystems.mapIdx reads.filesystemUsage else c.filesystemUsage
    smart := if smartDue then readSmart reads c.smartDevices else c.smart
    nextFilesystemRefresh
    nextSmartRefresh }

/-- The collector after some collections. -/
def run (c : HealthCollector) (collections : List (Nat × Readings)) : HealthCollector :=
  collections.foldl (fun c (now, reads) => c.collect now reads) c

/-- The snapshot it returns. -/
def snapshot (c : HealthCollector) (rest : HealthSnapshot) : HealthSnapshot :=
  { rest with filesystems := c.filesystemUsage, smart := c.smart }

end HealthCollector
end Servatory
