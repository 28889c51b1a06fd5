import Servatory.Host.Config

/-! Reading the conditions of the health rules. The three forms of a condition are tried one after the other on what
    the YAML reader has buffered, and the first that can be read is taken. The forms `all` and `any` ignore the keys
    they do not know; a predicate refuses them. -/

namespace Servatory

/-- What the YAML reader buffers. A tagged node is not buffered: it is an error here. -/
inductive Content
  | unit
  | bool (value : Bool)
  | int (value : Int)
  | float (value : F64)
  | str (value : String)
  | seq (items : List Content)
  | map (entries : List (Content × Content))
  deriving BEq

/-- What a key names among the fields of a struct, which are known by name and by position. -/
inductive FieldKey
  | field (index : Nat)
  | unknown
  | invalid
  deriving DecidableEq, Repr

def identify (fields : List String) : Content → FieldKey
  | .str name => (fields.findIdx? (· == name)).elim .unknown .field
  | .int position =>
    if position < 0 then .invalid else if position.toNat < fields.length then .field position.toNat else .unknown
  | _ => .invalid

namespace Content

def string : Content → Option String
  | str value => some value
  | _ => none

def f64 : Content → Option F64
  | int value => some (.finite value)
  | float value => some value
  | _ => none

mutual
/-- The value of a content. A mapping does not have the same key twice. -/
def value : Content → Option Value
  | unit => some .null
  | bool value => some (.bool value)
  | int value => some (.number (.finite value))
  | float value => some (.number value)
  | str value => some (.string value)
  | seq items => (values items).map .sequence
  | map entries => (mapping [] entries).map .mapping

def values : List Content → Option (List Value)
  | [] => some []
  | item :: rest => do
    let value ← item.value
    let values ← values rest
    return value :: values

def mapping (seen : List Content) : List (Content × Content) → Option (List (Value × Value))
  | [] => some []
  | (key, value) :: rest => do
    if seen.contains key then failure
    let key' ← key.value
    let value' ← value.value
    let entries ← mapping (key :: seen) rest
    return (key', value') :: entries
end

def valueList : Content → Option (List Value)
  | seq items => values items
  | _ => none

end Content

/-- The text behind a prefix. -/
def stripPrefix (start : List Char) (text : List Char) : Option (List Char) :=
  if start.isPrefixOf text then some (text.drop start.length) else none

/-- The text before the last dot, and the text behind it. -/
def rsplitOnce (separator : Char) (text : List Char) : Option (List Char × List Char) :=
  if text.contains separator then
    let field := (text.reverse.takeWhile (· != separator)).reverse
    some (text.take (text.length - field.length - 1), field)
  else none

def FilesystemField.ofString : String → Option FilesystemField
  | "mounted" => some .mounted
  | "used_percent" => some .usedPercent
  | _ => none

def MetricSelector.ofString (value : String) : Option MetricSelector :=
  match value with
  | "ups.main.status" => some .upsStatus
  | "ups.main.stale" => some .upsStale
  | "smart.*.status" => some .smartStatus
  | "network.uplink.up" => some .networkUp
  | "network.internet.status" => some .internetStatus
  | "proxmox.backup.status" => some .backupStatus
  | "proxmox.backup.last_success_age" => some .backupAge
  | "system.cpu.percent" => some .cpuPercent
  | "system.memory.used_percent" => some .memoryPercent
  | "system.io_pressure.percent" => some .ioPressurePercent
  | _ => do
    let rest ← stripPrefix "filesystem.".toList value.toList
    let (id, field) ← rsplitOnce '.' rest
    let field ← FilesystemField.ofString (String.ofList field)
    return .filesystem (String.ofList id) field

/-- The milliseconds of a duration; the seconds are counted in 64 bits. -/
def parseDuration (value : String) : Option Nat :=
  let digits := value.toList.takeWhile (·.isDigit)
  let unit := value.toList.drop digits.length
  let number := digits.foldl (fun n c => 10 * n + (c.toNat - '0'.toNat)) 0
  if digits.isEmpty ∨ UInt64.size ≤ number then none
  else if unit.isEmpty ∨ unit = ['m', 's'] then some number
  else if unit = ['s'] then some (number * 1000)
  else if unit = ['m'] then some (number * 60 % UInt64.size * 1000)
  else if unit = ['h'] then some (number * 3600 % UInt64.size * 1000)
  else none

/-- An option is absent, null, or a value that can be read. -/
def readOption {α : Type} (read : Content → Option α) : Option Content → Option (Option α)
  | none => some none
  | some .unit => some none
  | some content => (read content).map some

def predicateFields : List String :=
  ["measurement", "equals", "in", "at_least", "greater_than", "missing_or_greater_than"]

/-- A predicate from the contents of its fields, in their order. -/
def Predicate.ofFields (measurement : Content) (equals isIn atLeast greaterThan missing : Option Content) :
    Option Predicate := do
  let measurement ← measurement.string.bind MetricSelector.ofString
  let equals ← readOption Content.value equals
  let isIn ← readOption Content.valueList isIn
  let atLeast ← readOption Content.f64 atLeast
  let greaterThan ← readOption Content.f64 greaterThan
  let missing ← readOption (fun content => content.string.bind parseDuration) missing
  return ⟨measurement, equals, isIn, atLeast, greaterThan, missing⟩

/-- A predicate from a mapping: every key is a field, and no field is given twice. -/
def Predicate.ofMap (entries : List (Content × Content)) : Option Predicate :=
  let keys := entries.map fun entry => identify predicateFields entry.1
  let field (index : Nat) : Option Content :=
    (entries.find? fun entry => identify predicateFields entry.1 == .field index).map (·.2)
  if keys.contains .unknown ∨ keys.contains .invalid ∨ ¬keys.Nodup then none
  else do Predicate.ofFields (← field 0) (field 1) (field 2) (field 3) (field 4) (field 5)

/-- A predicate from a sequence of its fields; only the last may be left out. -/
def Predicate.ofSeq : List Content → Option Predicate
  | [measurement, equals, isIn, atLeast, greaterThan] =>
    Predicate.ofFields measurement (some equals) (some isIn) (some atLeast) (some greaterThan) none
  | [measurement, equals, isIn, atLeast, greaterThan, missing] =>
    Predicate.ofFields measurement (some equals) (some isIn) (some atLeast) (some greaterThan) (some missing)
  | _ => none

namespace Content

mutual
/-- The first form that can be read. -/
def condition : Content → Option Condition
  | map entries =>
    match childrenUnder "all" entries with
    | some (some children) => some (.all children)
    | _ =>
      match childrenUnder "any" entries with
      | some (some children) => some (.any children)
      | _ => (Predicate.ofMap entries).map .predicate
  | seq items => (Predicate.ofSeq items).map .predicate
  | _ => none

def conditions : List Content → Option (List Condition)
  | [] => some []
  | item :: rest => do
    let child ← item.condition
    let children ← conditions rest
    return child :: children

def conditionList : Content → Option (List Condition)
  | seq items => conditions items
  | _ => none

/-- The conditions under a field, which is not given twice; keys that name nothing are ignored. -/
def childrenUnder (field : String) : List (Content × Content) → Option (Option (List Condition))
  | [] => some none
  | (key, value) :: rest =>
    match identify [field] key with
    | .invalid => none
    | .unknown => childrenUnder field rest
    | .field _ =>
      match childrenUnder field rest with
      | some none => value.conditionList.map some
      | _ => none
end

end Content
end Servatory
