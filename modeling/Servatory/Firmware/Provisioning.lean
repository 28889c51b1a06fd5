import Servatory.Protocol.Wire

/-! The settings in the last sector of flash: a header of twelve bytes, with the length and a checksum of the
    record behind it, and the record, padded to four bytes. `fromBytes` is the library's reading of a record. -/

namespace Servatory

def storeMagic : List UInt8 := [0x53, 0x56, 0x54, 0x59]
def storageVersion : UInt8 := 1
def maxRecordLen : Nat := 2048
def sectorSize : Nat := 4096

structure Provisioning where
  ssid : String
  password : String
  hostname : String
  ntfyTopic : String
  deriving DecidableEq, Repr

structure StoredSettings where
  provisioning : Provisioning
  network : Option NetworkConfig
  deriving DecidableEq, Repr

instance : Postcard Provisioning := Postcard.iso (fun p => (p.ssid, p.password, p.hostname, p.ntfyTopic))
  (fun (a, b, c, d) => ⟨a, b, c, d⟩) fun _ => rfl

instance : Postcard StoredSettings := Postcard.iso (fun s => (s.provisioning, s.network)) (fun (a, b) => ⟨a, b⟩)
  fun _ => rfl

def Provisioning.isValid (p : Provisioning) : Bool :=
  !p.ssid.isEmpty && p.ssid.utf8ByteSize ≤ 32 && p.password.utf8ByteSize ≤ 63 && !p.hostname.isEmpty &&
    p.hostname.utf8ByteSize ≤ 32 && p.hostname.toList.all (fun c => c.isAlphanum || c == '-') &&
    !p.ntfyTopic.isEmpty && p.ntfyTopic.utf8ByteSize ≤ 128 &&
    p.ntfyTopic.toList.all (fun c => c.isAlphanum || c == '-' || c == '_')

/-- The hash of a record: each byte is folded in and the hash multiplied by a prime. -/
def checksum (bytes : List UInt8) : UInt32 := bytes.foldl (fun hash byte => (hash ^^^ byte.toUInt32) * 16777619) 2166136261

def le16 (n : UInt16) : List UInt8 := [n.toUInt8, (n >>> 8).toUInt8]

def le32 (n : UInt32) : List UInt8 := [n.toUInt8, (n >>> 8).toUInt8, (n >>> 16).toUInt8, (n >>> 24).toUInt8]

/-- The bytes written for a record: the header, the record, and `0xff` up to the next multiple of four. -/
def storeRecord (payload : List UInt8) : List UInt8 :=
  storeMagic ++ [storageVersion, 0xff] ++ le16 (UInt16.ofNat payload.length) ++ le32 (checksum payload) ++ payload ++
    List.replicate ((payload.length + 3) / 4 * 4 - payload.length) 0xff

/-- Whether the flash does what it is told: an erasure that fails changes nothing, and a write may fail after
    some bytes. -/
structure FlashOutcome where
  erased : Bool
  failedAfter : Option Nat

def FlashOutcome.success : FlashOutcome := ⟨true, none⟩

/-- The sector that holds the settings. -/
@[ext] structure Store where
  sector : List UInt8
  length_sector : sector.length = sectorSize

namespace Store

/-- An erased sector. -/
def blank : Store := ⟨List.replicate sectorSize 0xff, by simp⟩

/-- The sector with `record` at its start. -/
def write (store : Store) (record : List UInt8) : Store :=
  ⟨(record ++ store.sector.drop record.length).take sectorSize, by
    have := store.length_sector
    simp only [List.length_take, List.length_append, List.length_drop]
    omega⟩

def save (store : Store) (outcome : FlashOutcome) (value : StoredSettings) : Store × Except Unit Unit :=
  if !value.provisioning.isValid then (store, .error ())
  else
    let payload := Postcard.encode value
    if payload.length > maxRecordLen then (store, .error ())
    else if !outcome.erased then (store, .error ())
    else
      match outcome.failedAfter with
      | some count => (blank.write ((storeRecord payload).take count), .error ())
      | none => (blank.write (storeRecord payload), .ok ())

def saveProvisioning (store : Store) (outcome : FlashOutcome) (value : Provisioning) : Store × Except Unit Unit :=
  store.save outcome ⟨value, none⟩

def saveNetwork (store : Store) (outcome : FlashOutcome) (provisioning : Provisioning) (network : NetworkConfig) :
    Store × Except Unit Unit := store.save outcome ⟨provisioning, some network⟩

def load (fromBytes : List UInt8 → Option StoredSettings) (store : Store) : Option StoredSettings :=
  if store.sector.take 4 ≠ storeMagic ∨ store.sector[4]? ≠ some storageVersion then none
  else
    let len := (store.sector.getD 6 0).toNat + 256 * (store.sector.getD 7 0).toNat
    if len = 0 ∨ len > maxRecordLen then none
    else
      let payload := (store.sector.drop 12).take len
      if le32 (checksum payload) ≠ (store.sector.drop 8).take 4 then none
      else
        match fromBytes payload with
        | some value => if value.provisioning.isValid then some value else none
        | none => none

end Store

/-! ### The task that stores -/

/-- What the task holds beside the flash. -/
structure ManifestStore where
  store : Store
  provisioning : Provisioning
  network : Option NetworkConfig

/-- What one of the two channels delivers. -/
inductive StoreUpdate
  | manifest (manifest : NetworkConfig)
  | topic (topic : String)

namespace ManifestStore

def receive (m : ManifestStore) : StoreUpdate → ManifestStore
  | .manifest manifest => { m with network := some manifest }
  | .topic topic => { m with provisioning := { m.provisioning with ntfyTopic := topic } }

/-- One turn of the loop. The result of saving is returned beside the state, where the source drops it. -/
def turn (m : ManifestStore) (update : StoreUpdate) (outcome : FlashOutcome) : ManifestStore × Except Unit Unit :=
  let m := m.receive update
  let (store, result) :=
    match m.network with
    | some manifest => m.store.saveNetwork outcome m.provisioning manifest
    | none => m.store.saveProvisioning outcome m.provisioning
  ({ m with store }, result)

end ManifestStore

/-- A new topic of four random numbers, in hexadecimal digits. -/
def randomNtfyTopic (a b c d : UInt32) : String :=
  "servatory-" ++ String.ofList (hex8 a ++ hex8 b ++ hex8 c ++ hex8 d)
where
  hex8 (n : UInt32) : List Char := (List.range 8).map fun i => (n.toNat / 16 ^ (7 - i) % 16).digitChar

end Servatory
