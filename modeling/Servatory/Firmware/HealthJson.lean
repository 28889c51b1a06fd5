import Servatory.Firmware.Dashboard
import Servatory.Firmware.Notifications

/-! The health of the host as JSON, as the web server of the stick returns it. The clock is read once for the age of the
    snapshot and once more for the incidents. -/

namespace Servatory

/-- The control characters of Unicode. -/
def isControl (c : Char) : Bool := c.toNat < 0x20 || (0x7f ≤ c.toNat && c.toNat < 0xa0)

def jsonCharacter (c : Char) : List Char :=
  if c = '"' then "\\\"".toList
  else if c = '\\' then "\\\\".toList
  else if c = '\n' then "\\n".toList
  else if c = '\r' then "\\r".toList
  else if c = '\t' then "\\t".toList
  else if isControl c then []
  else [c]

def pushJson (output value : String) : String := output ++ String.ofList (value.toList.flatMap jsonCharacter)

def toAsciiLowercase (text : String) : String := String.ofList (text.toList.map Char.toLower)

def pushIncident (json : String) (indexed : Incident × Nat) : String :=
  let (incident, index) := indexed
  let json := if index > 0 then json ++ "," else json
  let json := json ++ "\x7b\"level\":\"" ++ toAsciiLowercase (Dashboard.levelText incident.level) ++ "\",\"message\":\""
  pushJson json incident.message ++ "\"\x7d"

def pushSnapshot (json : String) (snapshot : HealthSnapshot) : String :=
  pushJson (json ++ ",\"host\":\"") snapshot.hostName ++ String.join
    ["\",\"cpu_percent\":", toString snapshot.cpuPercent, ",\"memory_used_mib\":", toString snapshot.memoryUsedMib,
      ",\"memory_total_mib\":", toString snapshot.memoryTotalMib, ",\"io_pressure_percent\":",
      toString snapshot.ioPressurePercent, ",\"load_average_x100\":", toString snapshot.loadAverageX100,
      ",\"network_up\":", toString snapshot.networkUp, ",\"network_mbps\":", toString snapshot.networkMbps,
      ",\"ipv4\":[", toString snapshot.ipv4.1, ",", toString snapshot.ipv4.2.1, ",", toString snapshot.ipv4.2.2.1, ",",
      toString snapshot.ipv4.2.2.2, "],\"guest_count\":", toString snapshot.guests.guests.length]

def healthJson (now later : Nat) (state : SharedState) : String :=
  let stale := (snapshotAge now state).all fun age => age ≥ hostStaleAfter
  let incidents := activeIncidents later state
  let json := "\x7b\"stale\":" ++ toString stale ++ ",\"incidents\":["
  let json := incidents.zipIdx.foldl pushIncident json ++ "]"
  let json := state.snapshot.elim json (pushSnapshot json)
  json ++ "\x7d"

end Servatory
