import Servatory.Host.Command
import Servatory.Host.Interfaces

/-! The interface that the traffic of the host takes, and its address: from the route to some host outside, or else from
    the kernel's table of routes. -/

namespace Servatory

abbrev Ipv4 := UInt8 × UInt8 × UInt8 × UInt8

structure NetworkSnapshot where
  interface : String
  up : Bool
  mbps : UInt16
  ipv4 : Ipv4
  deriving DecidableEq, Repr

def NetworkSnapshot.default : NetworkSnapshot := ⟨"", false, 0, (0, 0, 0, 0)⟩

/-- A byte in decimal digits, without zeros in front. -/
def parseOctet (text : List Char) : Option UInt8 :=
  if text.length ≤ 3 ∧ text.all (·.isDigit) ∧ (text.head? = some '0' → text.length = 1) then
    (Text.parseUnsigned UInt8.size text).map (·.toUInt8)
  else none

def parseIpv4 (text : List Char) : Option Ipv4 :=
  match text.splitOn '.' with
  | [a, b, c, d] => do return (← parseOctet a, ← parseOctet b, ← parseOctet c, ← parseOctet d)
  | _ => none

/-- The word behind the first occurrence of another that is not the last. -/
def wordBehind (key : String) : List (List Char) → Option (List Char)
  | first :: second :: rest => if first = key.toList then some second else wordBehind key (second :: rest)
  | _ => none

def parseIpRoute (output : String) : Option (String × Ipv4) := do
  let words := Text.words output.toList
  let interface ← wordBehind "dev" words
  return (String.ofList interface, (wordBehind "src" words >>= parseIpv4).getD (0, 0, 0, 0))

/-- A hexadecimal number below a bound, with a sign or without. -/
def parseHex (bound : Nat) (text : List Char) : Option Nat := do
  let digits := if text.head? = some '+' then text.tail else text
  let values ← digits.mapM fun c =>
    if c.isDigit then some (c.toNat - 48)
    else if 'a' ≤ c ∧ c ≤ 'f' then some (c.toNat - 87)
    else if 'A' ≤ c ∧ c ≤ 'F' then some (c.toNat - 55)
    else none
  let value := values.foldl (fun value digit => value * 16 + digit) 0
  if values.isEmpty ∨ bound ≤ value then none else some value

/-- The metric and the interface of a line that is a default route and is up. -/
def parseRouteLine (line : List Char) : Option (Nat × List Char) :=
  match Text.words line with
  | interface :: destination :: _ :: flags :: _ :: _ :: metric :: mask :: _ =>
    if destination ≠ "00000000".toList ∨ mask ≠ "00000000".toList then none
    else do
      let flags ← parseHex UInt16.size flags
      if flags.testBit 0 then
        let metric ← Text.parseUnsigned UInt32.size metric
        return (metric, interface)
      else none
  | _ => none

/-- The earliest of the routes with the least metric. -/
def leastRoute (best : Option (Nat × List Char)) (route : Nat × List Char) : Option (Nat × List Char) :=
  if best.all fun current => route.1 < current.1 then some route else best

def parseDefaultRoute (routes : String) : Option String :=
  ((((Text.lines routes.toList).drop 1).filterMap parseRouteLine).foldl leastRoute none).map fun route =>
    String.ofList route.2

def ipExecutables : List String := ["/usr/sbin/ip", "/usr/bin/ip"]

def readInterfaceIpv4 (interface : String) (run : Commands) : Ipv4 :=
  (ipExecutables.findSome? fun executable => do
    let output ← run executable ["-4", "-o", "address", "show", "dev", interface, "scope", "global"]
    if output.success then
      (Text.words output.stdout.toList).findSome? fun word => parseIpv4 (word.takeWhile (· != '/'))
    else none).getD (0, 0, 0, 0)

def readRoute (run : Commands) (file : String → Option String) : Option (String × Ipv4) :=
  (ipExecutables.findSome? fun executable => do
    let output ← run executable ["-4", "route", "get", "8.8.8.8"]
    if output.success then parseIpRoute output.stdout else none).or do
    let interface ← parseDefaultRoute (← file "/proc/net/route")
    return (interface, readInterfaceIpv4 interface run)

/-- The interfaces of a host are as many calls as the search can make. -/
def readNetwork (run : Commands) (file : String → Option String) (sysfs : Sysfs) : NetworkSnapshot :=
  match readRoute run file with
  | none => .default
  | some (routed, ipv4) =>
    let interface := ((resolvePhysicalInterface sysfs (sysfs.length + 1) routed).join).getD routed
    let (up, mbps) := readLink sysfs interface
    ⟨interface, up, mbps.toUInt16, ipv4⟩

end Servatory
