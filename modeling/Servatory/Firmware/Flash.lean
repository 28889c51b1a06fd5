import Servatory.Firmware.Provisioning
import Servatory.Lib.NorFlash

/-! The settings on the flash device itself, with every access that reading and saving them makes. -/

namespace Servatory

def wordSize : Nat := 4

/-- The flash, and the offset of the sector that holds the settings. -/
structure FlashStore where
  flash : NorFlash.Device
  sector : Nat

namespace FlashStore

/-- The settings are in the last sector. -/
def new (flash : NorFlash.Device) : FlashStore := ⟨flash, flash.capacity - sectorSize⟩

def load (fromBytes : List UInt8 → Option StoredSettings) (s : FlashStore) : FlashStore × Option StoredSettings :=
  match s.flash.read wordSize s.sector 12 with
  | (flash, .error _) => ({ s with flash }, none)
  | (flash, .ok header) =>
    if header.take 4 ≠ storeMagic ∨ header[4]? ≠ some storageVersion then ({ s with flash }, none)
    else
      let len := (header.getD 6 0).toNat + 256 * (header.getD 7 0).toNat
      if len = 0 ∨ len > maxRecordLen then ({ s with flash }, none)
      else
        let padded := (len + 3) / 4 * 4
        match flash.read wordSize (s.sector + 12) padded with
        | (flash, .error _) => ({ s with flash }, none)
        | (flash, .ok payload) =>
          let payload := payload.take len
          if le32 (checksum payload) ≠ (header.drop 8).take 4 then ({ s with flash }, none)
          else
            match fromBytes payload with
            | some value => ({ s with flash }, if value.provisioning.isValid then some value else none)
            | none => ({ s with flash }, none)

def save (value : StoredSettings) (s : FlashStore) : FlashStore × Except Unit Unit :=
  if !value.provisioning.isValid then (s, .error ())
  else
    let payload := Postcard.encode value
    if payload.length > maxRecordLen then (s, .error ())
    else
      match s.flash.erase sectorSize s.sector (s.sector + sectorSize) with
      | (flash, .error _) => ({ s with flash }, .error ())
      | (flash, .ok _) =>
        match flash.write wordSize s.sector (storeRecord payload) with
        | (flash, .error _) => ({ s with flash }, .error ())
        | (flash, .ok _) => ({ s with flash }, .ok ())

end FlashStore
end Servatory
