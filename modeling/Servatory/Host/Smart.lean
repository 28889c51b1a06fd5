import Servatory.Host.Command
import Servatory.Lib.Text

/-! The state of a disk, from what `smartctl` prints as JSON and the bits of its exit code. -/

namespace Servatory

namespace Json

/-- The value behind some keys. -/
def pointer (json : Json) (keys : List String) : Option Json := keys.foldlM (fun json key => json.get key) json

def asBool : Json → Option Bool
  | bool value => some value
  | _ => none

def asI64 : Json → Option Int
  | number (.posInt value) => if value.toNat < 2 ^ 63 then some value.toNat else none
  | number (.negInt value) => some value.toInt
  | _ => none

def asArray : Json → Option (List Json)
  | array items => some items
  | _ => none

end Json

def isTemperature (entry : Json) : Bool :=
  let name := entry.get "name" >>= Json.asStr
  name == some "Temperature_Celsius" || name == some "Airflow_Temperature_Cel"

/-- The temperature of the report, or else of the first attribute that is one, if it is a byte. -/
def smartTemperature (json : Json) : Option Int8 :=
  let listed := do
    let table ← json.pointer ["ata_smart_attributes", "table"] >>= Json.asArray
    let entry ← table.find? isTemperature
    entry.pointer ["raw", "value"] >>= Json.asI64
  let temperature := (json.pointer ["temperature", "current"] >>= Json.asI64).or listed
  temperature.bind fun value => if -128 ≤ value ∧ value < 128 then some (.ofInt value) else none

def smartctlArguments (path : String) : List String := ["-j", "-n", "standby", "-H", "-A", "-d", "sat", path]

def readSmartDevice (path : String) (run : Commands) : SmartStatus × Option Int8 :=
  match ["/usr/sbin/smartctl", "/usr/bin/smartctl"].findSome? fun executable => run executable (smartctlArguments path) with
  | none => (.unknown, none)
  | some output =>
    let combined := (output.stdout ++ "\n" ++ output.stderr).toList.map Char.toUpper
    if output.code = some 2 ∧ (Text.splitAtFirst "STANDBY".toList combined).isSome then (.sleeping, none)
    else
      let json := output.json.getD .null
      let temperature := smartTemperature json
      let exit := output.code.getD 1
      let passed := json.pointer ["smart_status", "passed"] >>= Json.asBool
      let status :=
        if passed = some false ∨ exit.testBit 3 then .failed
        else if exit.testBit 4 ∨ exit.testBit 5 ∨ temperature.any (55 ≤ ·) then .warning
        else if passed = some true ∨ output.success then .healthy
        else .unknown
      (status, temperature)

end Servatory
