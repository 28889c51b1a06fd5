import Servatory.Host.Config

/-! Reading the layout of a view. A layout is recognised by the words that occur anywhere in it, as keys or as
    values. -/

namespace Servatory

/-- A node of the YAML tree. A tag is kept with the node behind it. -/
inductive Node
  | null
  | bool (value : Bool)
  | number (value : Number)
  | string (value : String)
  | sequence (items : List Node)
  | mapping (entries : List (Node × Node))
  | tagged (tag : String) (value : Node)

namespace Node

def untag : Node → Node
  | tagged _ value => value.untag
  | node => node

def asStr (node : Node) : Option String :=
  match node.untag with
  | string value => some value
  | _ => none

def asBool (node : Node) : Option Bool :=
  match node.untag with
  | bool value => some value
  | _ => none

def asU64 (node : Node) : Option UInt64 :=
  match node.untag with
  | number value => value.asU64
  | _ => none

def asSequence (node : Node) : Option (List Node) :=
  match node.untag with
  | sequence items => some items
  | _ => none

def asMapping (node : Node) : Option (List (Node × Node)) :=
  match node.untag with
  | mapping entries => some entries
  | _ => none

/-- Whether the node is a text by itself, without a tag. -/
def isString (value : String) : Node → Bool
  | string value' => value' == value
  | _ => false

/-- The value under a key. -/
def get (entries : List (Node × Node)) (key : String) : Option Node :=
  (entries.find? (·.1.isString key)).map (·.2)

mutual
def contains (needle : String) : Node → Bool
  | string value => value == needle
  | sequence items => containsItems needle items
  | mapping entries => containsEntries needle entries
  | _ => false

def containsItems (needle : String) : List Node → Bool
  | [] => false
  | item :: rest => item.contains needle || containsItems needle rest

def containsEntries (needle : String) : List (Node × Node) → Bool
  | [] => false
  | (key, value) :: rest => key.contains needle || value.contains needle || containsEntries needle rest
end

mutual
/-- The first entry of which something is taken. The search of its value comes along. -/
def search {α : Type} (take : Node → Node → Option α → Option α) : Node → Option α
  | mapping entries => searchEntries take entries
  | sequence items => searchItems take items
  | _ => none

def searchItems {α : Type} (take : Node → Node → Option α → Option α) : List Node → Option α
  | [] => none
  | item :: rest => (item.search take).or (searchItems take rest)

def searchEntries {α : Type} (take : Node → Node → Option α → Option α) : List (Node × Node) → Option α
  | [] => none
  | (key, value) :: rest => (take key value (value.search take)).or (searchEntries take rest)
end

/-- What is not a text is left out. What is under the key is not searched. -/
def takeStringList (needle : String) (key value : Node) (inner : Option (List String)) : Option (List String) :=
  if key.asStr = some needle then value.asSequence.map (·.filterMap asStr) else inner

def findStringList (needle : String) (value : Node) : Option (List String) := value.search (takeStringList needle)

/-- What the key has, or else what is under it. -/
def takeUnder {α : Type} (needle : String) (read : Node → Option α) (key value : Node) (inner : Option α) :
    Option α :=
  (if key.asStr = some needle then read value else none).or inner

def findBool (needle : String) (value : Node) : Option Bool := value.search (takeUnder needle asBool)

def findNumber (needle : String) (value : Node) : Option UInt64 := value.search (takeUnder needle asU64)

def columnContains (layout : Node) (side needle : String) : Bool :=
  (do get (← (← get (← layout.asMapping) "columns").asMapping) side).any (contains needle)

end Node

inductive LayoutError
  | outOfRange
  | filesystemList
  | smartList
  | notRendered
  deriving DecidableEq, Repr

def LayoutError.message : LayoutError → String
  | outOfRange => "out of range integral type conversion attempted"
  | filesystemList => "storage view requires a filesystem ID list"
  | smartList => "storage view requires a SMART device ID list"
  | notRendered => "layout cannot be rendered by the current firmware"

def tryU32 (value : UInt64) : Except LayoutError UInt32 :=
  if value.toNat < UInt32.size then .ok value.toUInt32 else .error .outOfRange

def parseViewLayout (layout : Node) : Except LayoutError ViewLayout :=
  if layout.contains "guest_list" then do
    let offset ← tryU32 ((layout.findNumber "offset").getD 0)
    let limit ← tryU32 ((layout.findNumber "limit").getD 4)
    return .guests ((layout.findBool "paginate").getD false) offset limit
  else if layout.contains "filesystems" && layout.contains "smart" then do
    let filesystemIds ← (layout.findStringList "filesystems").elim (.error .filesystemList) .ok
    let smartIds ← (layout.findStringList "smart").elim (.error .smartList) .ok
    return .storage filesystemIds smartIds (layout.columnContains "left" "filesystems")
  else if layout.columnContains "left" "health" && layout.columnContains "right" "host_summary" then .ok .overview
  else if layout.contains "cpu" && layout.contains "memory" then .ok .resources
  else if layout.columnContains "left" "ups" && layout.columnContains "right" "network" then .ok (.powerNetwork true)
  else if layout.columnContains "right" "ups" && layout.columnContains "left" "network" then .ok (.powerNetwork false)
  else .error .notRendered

end Servatory
