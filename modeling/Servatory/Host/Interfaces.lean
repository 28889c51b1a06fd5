import Servatory.Host.Config
import Servatory.Lib.Text

/-! Which network interface carries the traffic of a routed one: the active slave of a bond, the best port of a bridge,
    or the lower device of anything else, as far as these links lead. Where the code recurses, the model has fuel. -/

namespace Servatory

/-- The directory of an interface: the texts of its files, the names in its `brif`, and all names in it. -/
structure Interface where
  activeSlave : Option String
  ports : Option (List String)
  entries : List String
  carrier : Option String
  operstate : Option String
  speed : Option String
  device : Bool

/-- The directories by name. -/
abbrev Sysfs := List (String × Interface)

def trim (text : String) : String := String.ofList (Text.trim text.toList)

/-- Whether the link is up, and its speed. -/
def readLink (sysfs : Sysfs) (name : String) : Bool × Nat :=
  let file (read : Interface → Option String) := (sysfs.lookup name).bind read
  let up := (file (·.carrier)).elim ((file (·.operstate)).any (trim · == "up")) (trim · == "1")
  let speed := (file (·.speed)).bind fun value => Text.parseUnsigned UInt32.size (Text.trim value.toList)
  (up, (speed.filter (· < UInt16.size)).getD 0)

/-- What a port of a bridge is preferred by. -/
def portKey (sysfs : Sysfs) (name : String) : Bool × Bool × Nat :=
  ((sysfs.lookup name).any (·.device), readLink sysfs name)

def portKeyLe (a b : Bool × Bool × Nat) : Bool :=
  (!a.1 && b.1) || (a.1 == b.1 && ((!a.2.1 && b.2.1) || (a.2.1 == b.2.1 && decide (a.2.2 ≤ b.2.2))))

/-- The last of the best candidates in the order of their names. -/
def bestPort (sysfs : Sysfs) (candidates : List String) : Option String :=
  (candidates.mergeSort fun a b => decide (a ≤ b)).foldl
    (fun best candidate =>
      if best.all fun current => portKeyLe (portKey sysfs current) (portKey sysfs candidate) then some candidate
      else best)
    none

/-- The device that the first entry `lower_…` names. -/
def lowerDevice (entries : List String) : Option String :=
  (entries.find? (startsWith · "lower_")).map fun entry => String.ofList (entry.toList.drop "lower_".length)

/-- How an interface is resolved, with the visited ones passed on; `none` where the fuel has run out. -/
abbrev Resolve := String → List String → Option (Option String × List String)

/-- Follows a link, if there is one. -/
def Resolve.follow (resolve : Resolve) (link : Option String) (visited : List String) :
    Option (Option String × List String) :=
  link.elim (some (none, visited)) (resolve · visited)

/-- Resolves the ports of a bridge, each with a copy of `visited`, and takes the best of what they lead to. -/
def Resolve.pick (resolve : Resolve) (sysfs : Sysfs) (ports : List String) (visited : List String) :
    Option (Option String × List String) := do
  let candidates ← ports.mapM fun port => (resolve port visited).map (·.1)
  return (bestPort sysfs candidates.reduceOption, visited)

/-- One call, where `resolve` are the calls that it makes. -/
def resolveStep (sysfs : Sysfs) (resolve : Resolve) : Resolve := fun interface visited =>
  if visited.contains interface then some (none, visited)
  else
    let visited := visited ++ [interface]
    match sysfs.lookup interface with
    | none => some (none, visited)
    | some directory => do
      let activeSlave := (directory.activeSlave.map trim).filter (!·.isEmpty)
      let (resolved, visited) ← resolve.follow activeSlave visited
      if resolved.isSome then return (resolved, visited)
      match directory.ports with
      | some ports => resolve.pick sysfs ports visited
      | none =>
        let (resolved, visited) ← resolve.follow (lowerDevice directory.entries) visited
        return (resolved.or (some interface), visited)

def resolveInterface (sysfs : Sysfs) : Nat → Resolve
  | 0 => fun _ _ => none
  | fuel + 1 => resolveStep sysfs (resolveInterface sysfs fuel)

def resolvePhysicalInterface (sysfs : Sysfs) (fuel : Nat) (routed : String) : Option (Option String) :=
  (resolveInterface sysfs fuel routed []).map (·.1)

/-! ### The order of directories -/

/-- The same directory with its ports and its names in another order. -/
inductive Interface.Reordered (directory : Interface) : Interface → Prop
  | mk {ports : Option (List String)} {entries : List String} (hports : Option.Rel List.Perm directory.ports ports)
      (hentries : directory.entries.Perm entries) :
      Reordered directory { directory with ports := ports, entries := entries }

def Sysfs.Reordered (sysfs sysfs' : Sysfs) : Prop :=
  ∀ name, Option.Rel Interface.Reordered (sysfs.lookup name) (sysfs'.lookup name)

/-- What a call can return when directories are in any order whenever they are read. `resolve` are the calls that it
    makes. -/
inductive Sysfs.Returns (sysfs : Sysfs) : String → List String → Option String × List String → Prop
  | call {sysfs' : Sysfs} {resolve : Resolve} {interface : String} {visited : List String}
      {r : Option String × List String} (hread : sysfs.Reordered sysfs')
      (hcalls : ∀ name visited r, resolve name visited = some r → Returns sysfs name visited r)
      (h : resolveStep sysfs' resolve interface visited = some r) : Returns sysfs interface visited r

/-- What an interface can resolve to. -/
def Sysfs.Resolves (sysfs : Sysfs) (routed : String) (resolved : Option String) : Prop :=
  ∃ visited, sysfs.Returns routed [] (resolved, visited)

end Servatory
