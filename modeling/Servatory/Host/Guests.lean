import Servatory.Host.Command
import Servatory.Host.Float

/-! The guests of the host, from the list of resources that Proxmox returns as JSON. A snapshot lists them all; a shutdown
    counts those that run. -/

namespace Servatory

namespace Json

def asF64 : Json → Option F64
  | number (.posInt value) => some (.ofRat value.toNat)
  | number (.negInt value) => some (.ofRat value.toInt)
  | number (.float value) => some value
  | _ => none

end Json

def guestLocal (hostName : String) (guest : Json) : Bool := (guest.get "node" >>= Json.asStr).all (· == hostName)

def guestRunning (guest : Json) : Bool := guest.get "status" >>= Json.asStr == some "running"

def bytesToMib (bytes : UInt64) : UInt32 := (min (bytes.toNat / 1048576) (UInt32.size - 1)).toUInt32

/-- The load of a guest in percent. -/
def guestPercent (usage : F64) : UInt8 := percent (usage.scale 100)

/-- A guest with a number; all but the number has a default. -/
def parseGuest (guest : Json) : Option GuestSummary := do
  let vmid ← guest.get "vmid" >>= Json.asU64
  if vmid.toNat < UInt32.size then
    some {
      vmid := vmid.toUInt32
      kind := if guest.get "type" >>= Json.asStr == some "lxc" then .container else .virtualMachine
      status := if guestRunning guest then .running else .stopped
      cpuPercent := ((guest.get "cpu" >>= Json.asF64).map guestPercent).getD 0
      memoryUsedMib := bytesToMib ((guest.get "mem" >>= Json.asU64).getD 0)
      memoryTotalMib := bytesToMib ((guest.get "maxmem" >>= Json.asU64).getD 0)
      name := (guest.get "name" >>= Json.asStr).getD (toString vmid.toNat) }
  else none

def parseGuests (resources : Option Json) (hostName : String) : GuestSnapshot :=
  match resources with
  | some (.array guests) => ⟨(guests.filter (guestLocal hostName)).filterMap parseGuest⟩
  | _ => ⟨[]⟩

def guestQuery : List String := ["get", "/cluster/resources", "--type", "vm", "--output-format", "json"]

def readGuests (hostName : String) (run : Commands) : GuestSnapshot :=
  match (run "/usr/bin/pvesh" guestQuery).filter (·.success) with
  | some output => parseGuests output.json hostName
  | none => ⟨[]⟩

/-- How many guests run; `none` where that cannot be told. -/
def runningGuestCountFromJson (resources : Option Json) (hostName : String) : Option UInt16 :=
  match resources with
  | some (.array guests) =>
    some (min ((guests.filter (guestLocal hostName)).countP guestRunning) (UInt16.size - 1)).toUInt16
  | _ => none

def runningGuestCount (hostName : String) (run : Commands) : Option UInt16 :=
  ((run "/usr/bin/pvesh" guestQuery).filter (·.success)).bind fun output => runningGuestCountFromJson output.json hostName

end Servatory
