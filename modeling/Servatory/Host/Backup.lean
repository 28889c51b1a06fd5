import Servatory.Host.Config
import Servatory.Lib.SortByKey

/-! The status of the backups, from the lists of backup jobs and of their tasks that Proxmox returns as JSON. -/

namespace Servatory

inductive Json
  | null
  | bool (value : Bool)
  | number (value : Number)
  | string (value : String)
  | array (items : List Json)
  | object (entries : List (String × Json))

namespace Json

/-- The field of an object. -/
def get (key : String) : Json → Option Json
  | object entries => (entries.find? (·.1 == key)).map (·.2)
  | _ => none

def asStr : Json → Option String
  | string value => some value
  | _ => none

def asU64 : Json → Option UInt64
  | number value => value.asU64
  | _ => none

end Json

def backupJobEnabled (job : Json) : Bool :=
  match job.get "enabled" with
  | none => true
  | some (.bool enabled) => enabled
  | some (.number enabled) => enabled.asU64 != some 0
  | some (.string enabled) => enabled != "0"
  | some _ => false

/-- A job without a node runs on all of them. -/
def backupJobLocal (hostName : String) (job : Json) : Bool :=
  (job.get "node" >>= Json.asStr).all fun node => node.isEmpty || node == "all" || node == hostName

def backupTaskLocal (hostName : String) (task : Json) : Bool :=
  (task.get "node" >>= Json.asStr).all (· == hostName)

def enabledJobs (hostName : String) (jobs : List Json) : List Json :=
  (jobs.filter backupJobEnabled).filter (backupJobLocal hostName)

def localTasks (hostName : String) (tasks : List Json) : List Json := tasks.filter (backupTaskLocal hostName)

def startTime (task : Json) : Nat := ((task.get "starttime" >>= Json.asU64).getD 0).toNat

def endTime (task : Json) : Option Nat := (task.get "endtime" >>= Json.asU64).map (·.toNat)

def taskSucceeded (task : Json) : Bool := task.get "status" >>= Json.asStr == some "OK"

/-- What the latest task says about the backups. -/
def latestTaskStatus (latest : Json) : BackupJobStatus :=
  if (endTime latest).isNone then .running else if !taskSucceeded latest then .failed else .healthy

def parseBackupJobStatus (jobs tasks : Option Json) (hostName : String) (nowSeconds : Nat) :
    BackupJobStatus × Option UInt32 :=
  match jobs with
  | some (.array jobs) =>
    if (enabledJobs hostName jobs).length = 0 then (.noJob, none)
    else
      match tasks with
      | some (.array tasks) =>
        let sorted := sortByKey startTime (localTasks hostName tasks)
        let lastSuccessEnd := ((sorted.filter taskSucceeded).filterMap endTime).max?
        let successAge := lastSuccessEnd.map fun finished => (min (nowSeconds - finished) (UInt32.size - 1)).toUInt32
        match sorted.getLast? with
        | none => (.stale, none)
        | some latest => (latestTaskStatus latest, successAge)
      | _ => (.unknown, none)
  | _ => (.unknown, none)

end Servatory
