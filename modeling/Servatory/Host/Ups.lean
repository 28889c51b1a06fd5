import Servatory.Host.Command
import Servatory.Host.Float
import Servatory.Host.Probe

/-! The uninterruptible power supply: what `upsc` prints of it, and what is reported while it does not answer. -/

namespace Servatory

/-- The variable of a line. -/
def upscVariable (line : List Char) : Option (List Char × List Char) :=
  (Text.splitOnce ':' line).map fun (name, value) => (Text.trim name, Text.trim value)

/-- The value of the first line with a name. -/
def upscValue (output name : String) : Option (List Char) :=
  (Text.lines output.toList).findSome? fun line =>
    (upscVariable line).bind fun (candidate, value) => if candidate = name.toList then some value else none

/-- The flags of a status, from the most urgent on. -/
def upsFlags : List (String × UpsStatus) :=
  [("LB", .lowBattery), ("RB", .replaceBattery), ("OFF", .outputOff), ("OB", .onBattery), ("BYPASS", .bypass),
    ("CHRG", .charging), ("OL", .online)]

def upsStatusOf (flags : List Char) : UpsStatus :=
  ((upsFlags.find? fun flag => Text.words flags |>.contains flag.1.toList).map (·.2)).getD .unknown

def parseUpsc (output : String) : Option UpsSnapshot := do
  let flags ← upscValue output "ups.status"
  return {
    status := upsStatusOf flags
    batteryPercent := upscValue output "battery.charge" >>= parsePercentU8
    loadPercent := upscValue output "ups.load" >>= parsePercentU8
    runtimeSeconds := (upscValue output "battery.runtime" >>= Text.parseUnsigned UInt32.size).map (·.toUInt32)
    estimatedWatts := (upscValue output "ups.realpower" >>= parseF64).map boundedU16
    stale := false }

structure UpsCollector where
  target : Option String
  lastGood : Option UpsSnapshot
  consecutiveFailures : UInt8
  failuresBeforeUnavailable : UInt8
  deriving DecidableEq, Repr

namespace UpsCollector

def new (target : Option String) (failuresBeforeUnavailable : UInt8) : UpsCollector :=
  ⟨target, none, 0, failuresBeforeUnavailable⟩

/-- What the first program that can be made sense of prints. -/
def query (target : String) (run : Commands) : Option UpsSnapshot :=
  ["/usr/bin/upsc", "/usr/sbin/upsc"].findSome? fun executable => do
    let output ← run executable [target]
    if output.success then parseUpsc output.stdout else none

/-- Nothing is known of a supply that has never answered. -/
def unknown : UpsSnapshot := ⟨.unknown, none, none, none, none, true⟩

def collect (c : UpsCollector) (run : Commands) : UpsCollector × UpsSnapshot :=
  match c.target with
  | none => (c, .notConfigured)
  | some target =>
    match query target run with
    | some snapshot => ({ c with consecutiveFailures := 0, lastGood := some snapshot }, snapshot)
    | none =>
      let c := { c with consecutiveFailures := ProbeState.saturatingSucc c.consecutiveFailures }
      let stale := { c.lastGood.getD unknown with stale := true }
      (c, if c.consecutiveFailures ≥ c.failuresBeforeUnavailable then { stale with status := .unavailable } else stale)

/-- The collector after some queries. -/
def runs (c : UpsCollector) (queries : List Commands) : UpsCollector :=
  queries.foldl (fun c run => (c.collect run).1) c

end UpsCollector
end Servatory
