import Mathlib.Data.List.GetD
import Servatory.Firmware.Provisioning
import Servatory.Lib.Reading

/-! What a record in flash is read back as, whole or cut short. -/

namespace Servatory
open Postcard

/-! ### The settings end in no `0xff` -/

/-- A page behind the number of its variant. -/
def readPage : Nat → List UInt8 → Option (DisplayPage × List UInt8)
  | 0, rest => some (.overview, rest)
  | 1, rest => some (.resources, rest)
  | 2, rest =>
    (Postcard.decode rest).map fun (p : (Bool × List UInt32 × List UInt32) × _) =>
      (.storage p.1.1 p.1.2.1 p.1.2.2, p.2)
  | 3, rest => (Postcard.decode rest).map fun p => (.powerNetwork p.1, p.2)
  | 4, rest => (Postcard.decode rest).map fun (p : (UInt32 × UInt32) × _) => (.guests p.1.1 p.1.2, p.2)
  | _ + 5, _ => none

theorem reads_readPage (tag : Nat) : Reads (readPage tag) := by
  rcases tag with _ | _ | _ | _ | _ | tag
  · exact .pure _
  · exact .pure _
  · exact Local.reads.map fun (p : Bool × List UInt32 × List UInt32) => DisplayPage.storage p.1 p.2.1 p.2.2
  · exact Local.reads.map DisplayPage.powerNetwork
  · exact Local.reads.map fun (p : UInt32 × UInt32) => DisplayPage.guests p.1 p.2
  · exact .none

instance : Local DisplayPage where
  reads := by
    have hdecode : ∀ bytes, Postcard.decode bytes = (readVarint bytes).bind fun p => readPage p.1 p.2 := by
      intro bytes
      show (readVarint bytes).bind _ = _
      congr 1
      funext p
      obtain ⟨tag, rest⟩ := p
      rcases tag with _ | _ | _ | _ | _ | tag <;> rfl
    rw [funext hdecode]
    exact reads_readVarint.bind reads_readPage

instance : Local DisplayLabel := by
  delta instPostcardDisplayLabel
  exact local_iso ..

instance : Local DisplayView := by
  delta instPostcardDisplayView
  exact local_iso ..

instance : Local HttpConfig := by
  delta instPostcardHttpConfig
  exact local_iso ..

instance : Local NotificationPriority := by
  delta instPostcardNotificationPriority
  exact local_enum ..

instance : Local NotificationSeverities := by
  delta instPostcardNotificationSeverities
  exact local_iso ..

instance : Local NtfyConfig := by
  delta instPostcardNtfyConfig
  exact local_iso ..

instance : Closed NtfyConfig := by
  delta instPostcardNtfyConfig
  exact closed_iso ..

instance : Local NetworkConfig := by
  delta instPostcardNetworkConfig
  exact local_iso ..

instance : Closed NetworkConfig := by
  delta instPostcardNetworkConfig
  exact closed_iso ..

instance : Local Provisioning := by
  delta instPostcardProvisioning
  exact local_iso ..

instance : Local StoredSettings := by
  delta instPostcardStoredSettings
  exact local_iso ..

instance : Closed StoredSettings := by
  delta instPostcardStoredSettings
  exact closed_iso ..

/-! ### The bytes of a record -/

variable {payload : List UInt8}

/-- The header of a record. -/
def storeHeader (payload : List UInt8) : List UInt8 :=
  storeMagic ++ [storageVersion, 0xff] ++ le16 (UInt16.ofNat payload.length) ++ le32 (checksum payload)

theorem storeRecord_eq (payload : List UInt8) :
    storeRecord payload =
      storeHeader payload ++ (payload ++ List.replicate ((payload.length + 3) / 4 * 4 - payload.length) 0xff) := by
  rw [storeRecord, storeHeader, List.append_assoc]

theorem length_storeHeader (payload : List UInt8) : (storeHeader payload).length = 12 := rfl

theorem length_storeRecord (payload : List UInt8) :
    (storeRecord payload).length = 12 + (payload.length + 3) / 4 * 4 := by
  rw [storeRecord_eq, List.length_append, List.length_append, length_storeHeader, List.length_replicate]
  omega

theorem le16_toNat {n : Nat} (h : n < 65536) :
    ((le16 (UInt16.ofNat n)).getD 0 0).toNat + 256 * ((le16 (UInt16.ofNat n)).getD 1 0).toNat = n := by
  simp [le16]
  omega

namespace Store
variable {fromBytes : List UInt8 → Option StoredSettings} {store : Store} {value : StoredSettings}

/-- The length that the header gives. -/
def recordLen (store : Store) : Nat := (store.sector.getD 6 0).toNat + 256 * (store.sector.getD 7 0).toNat

/-- The record behind the header. -/
def record (store : Store) : List UInt8 := (store.sector.drop 12).take store.recordLen

theorem load_eq :
    store.load fromBytes =
      if store.sector.take 4 ≠ storeMagic ∨ store.sector[4]? ≠ some storageVersion then none
      else if store.recordLen = 0 ∨ store.recordLen > maxRecordLen then none
      else if le32 (checksum store.record) ≠ (store.sector.drop 8).take 4 then none
      else (fromBytes store.record).bind fun value => if value.provisioning.isValid then some value else none := by
  rw [load, record, recordLen]
  dsimp only
  generalize fromBytes _ = result
  cases result with
  | none => rfl
  | some value => rfl

/-- When a sector holds settings. -/
theorem load_eq_some :
    store.load fromBytes = some value ↔
      store.sector.take 4 = storeMagic ∧ store.sector[4]? = some storageVersion ∧ store.recordLen ≠ 0 ∧
        store.recordLen ≤ maxRecordLen ∧ le32 (checksum store.record) = (store.sector.drop 8).take 4 ∧
        fromBytes store.record = some value ∧ value.provisioning.isValid = true := by
  constructor
  · intro h
    rw [load_eq] at h
    split at h
    · cases h
    · rename_i hmagic
      obtain ⟨hmagic, hversion⟩ := not_or.mp hmagic
      split at h
      · cases h
      · rename_i hlen
        obtain ⟨hpos, hlen⟩ := not_or.mp hlen
        split at h
        · cases h
        · rename_i hsum
          obtain ⟨value', hvalue, h⟩ := Option.bind_eq_some_iff.mp h
          split at h
          · rename_i hvalid
            obtain rfl := Option.some.inj h
            exact ⟨not_not.mp hmagic, not_not.mp hversion, hpos, Nat.not_lt.mp hlen, not_not.mp hsum, hvalue, hvalid⟩
          · cases h
  · rintro ⟨hmagic, hversion, hpos, hlen, hsum, hvalue, hvalid⟩
    have hlen' : ¬(store.recordLen = 0 ∨ store.recordLen > maxRecordLen) := by
      rintro (h | h)
      · exact hpos h
      · exact Nat.not_le.mpr h hlen
    rw [load_eq, if_neg (by rw [hmagic, hversion]; simp), if_neg hlen', if_neg (not_not.mpr hsum), hvalue]
    exact if_pos hvalid

/-! ### A record cut short -/

/-- The sector after the first `count` bytes of a record are written to it. -/
def cut (payload : List UInt8) (count : Nat) : Store := blank.write ((storeRecord payload).take count)

variable {count : Nat}

theorem getElem?_cut (hlen : payload.length ≤ maxRecordLen) {i : Nat} (hi : i < sectorSize) :
    (cut payload count).sector[i]? = some (if i < count then (storeRecord payload).getD i 0xff else 0xff) := by
  have hrecord := length_storeRecord payload
  have hwritten : ((storeRecord payload).take count).length ≤ sectorSize := by
    rw [List.length_take, hrecord]
    simp only [maxRecordLen, sectorSize] at *
    omega
  have hsector : (cut payload count).sector =
      ((storeRecord payload).take count ++
        (List.replicate sectorSize 0xff).drop ((storeRecord payload).take count).length).take sectorSize := rfl
  rw [hsector, List.drop_replicate, List.getElem?_take_of_lt hi, List.getElem?_append]
  split
  · rename_i hlt
    rw [List.length_take] at hlt
    rw [List.getElem?_take_of_lt (by omega), if_pos (by omega), List.getD_eq_getElem?_getD,
      List.getElem?_eq_getElem (by omega), Option.getD_some]
  · rename_i hge
    rw [List.length_take] at hge
    rw [List.getElem?_replicate, if_pos (by rw [List.length_take]; omega)]
    split
    · rw [List.getD_eq_default _ _ (by omega)]
    · rfl

/-- A header that is cut short is not one. -/
theorem header_cut (hlen : payload.length ≤ maxRecordLen)
    (hversion : (cut payload count).sector[4]? = some storageVersion)
    (hle : (cut payload count).recordLen ≤ maxRecordLen) : 8 ≤ count := by
  rw [getElem?_cut hlen (by decide)] at hversion
  rw [recordLen, List.getD_eq_getElem?_getD, List.getD_eq_getElem?_getD, getElem?_cut hlen (by decide),
    getElem?_cut hlen (by decide)] at hle
  by_contra hcount
  rcases Nat.lt_or_ge 4 count with h4 | h4
  · rw [if_neg (show ¬7 < count by omega)] at hle
    simp only [Option.getD_some, maxRecordLen] at hle
    have : (0xff : UInt8).toNat = 255 := rfl
    omega
  · rw [if_neg (Nat.not_lt.mpr h4)] at hversion
    exact absurd hversion (by decide)

theorem recordLen_cut (hlen : payload.length ≤ maxRecordLen) (hcount : 8 ≤ count) :
    (cut payload count).recordLen = payload.length := by
  rw [recordLen, List.getD_eq_getElem?_getD, List.getD_eq_getElem?_getD, getElem?_cut hlen (by decide),
    getElem?_cut hlen (by decide), if_pos (by omega), if_pos (by omega)]
  simp only [maxRecordLen] at hlen
  exact le16_toNat (by omega)

theorem record_cut (hlen : payload.length ≤ maxRecordLen) (hcount : 8 ≤ count) :
    (cut payload count).record =
      payload.take (count - 12) ++ List.replicate (payload.length - (count - 12)) 0xff := by
  rw [record, recordLen_cut hlen hcount]
  simp only [maxRecordLen] at hlen
  apply List.ext_getElem?
  intro i
  rcases Nat.lt_or_ge i payload.length with hi | hi
  · have hbyte : (storeRecord payload).getD (12 + i) 0xff = payload[i] := by
      rw [storeRecord_eq, List.getD_append_right _ _ _ _ (by rw [length_storeHeader]; omega), length_storeHeader,
        Nat.add_sub_cancel_left, List.getD_append _ _ _ _ hi, List.getD_eq_getElem _ _ hi]
    rw [List.getElem?_take_of_lt hi, List.getElem?_drop, getElem?_cut hlen (by simp only [sectorSize]; omega), hbyte,
      List.getElem?_append]
    split
    · rename_i hlt
      rw [if_pos (by rw [List.length_take]; omega), List.getElem?_take_of_lt (by omega), List.getElem?_eq_getElem hi]
    · rename_i hge
      rw [if_neg (by rw [List.length_take]; omega), List.getElem?_replicate, if_pos (by rw [List.length_take]; omega)]
  · rw [List.getElem?_eq_none (by rw [List.length_take]; omega), List.getElem?_eq_none]
    rw [List.length_append, List.length_take, List.length_replicate]
    omega

/-- A header that is written whole is at the start of the sector. -/
theorem prefix_cut (hcount : 12 ≤ count) : storeHeader payload <+: (cut payload count).sector := by
  have hheader := length_storeHeader payload
  have hrecord : storeHeader payload <+: (storeRecord payload).take count := by
    rw [storeRecord_eq, List.take_append, List.take_of_length_le (by omega)]
    exact List.prefix_append ..
  have hsector : storeHeader payload <+:
      (storeRecord payload).take count ++ (List.replicate sectorSize 0xff).drop ((storeRecord payload).take count).length :=
    hrecord.trans (List.prefix_append ..)
  exact List.prefix_take_iff.mpr ⟨hsector, by rw [hheader]; decide⟩

/-- A record that is written up to its padding is read back. -/
theorem load_cut (hlen : payload.length ≤ maxRecordLen) (hpos : payload ≠ []) (hcount : 12 + payload.length ≤ count)
    (hvalue : fromBytes payload = some value) (hvalid : value.provisioning.isValid = true) :
    (cut payload count).load fromBytes = some value := by
  have hrecordLen : (cut payload count).recordLen = payload.length := recordLen_cut hlen (by omega)
  have hrecord : (cut payload count).record = payload := by
    rw [record_cut hlen (by omega), List.take_of_length_le (by omega), Nat.sub_eq_zero_of_le (by omega),
      List.replicate_zero, List.append_nil]
  obtain ⟨more, hmore⟩ := @prefix_cut payload count (by omega)
  rw [load_eq_some, hrecordLen, hrecord, ← hmore]
  exact ⟨rfl, rfl, fun h => hpos (List.eq_nil_of_length_eq_zero h), hlen, rfl, hvalue, hvalid⟩

end Store

theorem encode_storedSettings_ne_nil (value : StoredSettings) : Postcard.encode value ≠ [] := by
  intro hnil
  have h := Postcard.decode_encode value []
  rw [hnil] at h
  obtain ⟨init, last, -, hend⟩ := Closed.ends _ _ _ h
  exact List.append_ne_nil_of_right_ne_nil init (List.cons_ne_nil last []) hend.symm

namespace Store
variable {old value : StoredSettings} {store : Store} {count : Nat}

/-- A record that is not written up to its padding is not read back, nor is any other. -/
theorem load_cut_eq_some (hlen : (Postcard.encode value).length ≤ maxRecordLen) {found : StoredSettings}
    (h : (cut (Postcard.encode value) count).load (fromBytes StoredSettings) = some found) :
    found = value ∧ 12 + (Postcard.encode value).length ≤ count := by
  obtain ⟨-, hversion, -, hle, -, hfound, -⟩ := load_eq_some.mp h
  have hcount : 8 ≤ count := header_cut hlen hversion hle
  rw [record_cut hlen hcount] at hfound
  rcases Nat.lt_or_ge (count - 12) (Postcard.encode value).length with hlt | hge
  · rw [fromBytes_cut value hlt] at hfound
    cases hfound
  · rw [List.take_of_length_le hge, Nat.sub_eq_zero_of_le hge, List.replicate_zero, List.append_nil,
      fromBytes_encode] at hfound
    have hpos := List.length_pos_iff.mpr (encode_storedSettings_ne_nil value)
    exact ⟨(Option.some.inj hfound).symm, by omega⟩

/-- What saving does, by the first thing that goes wrong. -/
theorem save_cases (store : Store) (outcome : FlashOutcome) (value : StoredSettings) :
    (value.provisioning.isValid = false ∧ store.save outcome value = (store, .error ())) ∨
      value.provisioning.isValid = true ∧
        ((maxRecordLen < (Postcard.encode value).length ∧ store.save outcome value = (store, .error ())) ∨
          (Postcard.encode value).length ≤ maxRecordLen ∧
            ((outcome.erased = false ∧ store.save outcome value = (store, .error ())) ∨
              outcome.erased = true ∧
                ((∃ count, outcome.failedAfter = some count ∧
                    store.save outcome value = (cut (Postcard.encode value) count, .error ())) ∨
                  outcome.failedAfter = none ∧
                    store.save outcome value = (blank.write (storeRecord (Postcard.encode value)), .ok ())))) := by
  rw [save]
  cases hvalid : value.provisioning.isValid with
  | false => exact .inl ⟨rfl, rfl⟩
  | true =>
    refine .inr ⟨rfl, ?_⟩
    rw [if_neg (by decide)]
    rcases Nat.lt_or_ge maxRecordLen ((Postcard.encode value).length) with hlong | hlen
    · exact .inl ⟨hlong, if_pos hlong⟩
    · refine .inr ⟨hlen, ?_⟩
      dsimp only
      rw [if_neg (Nat.not_lt.mpr hlen)]
      cases outcome.erased with
      | false => exact .inl ⟨rfl, rfl⟩
      | true =>
        refine .inr ⟨rfl, ?_⟩
        rw [if_neg (by decide)]
        cases outcome.failedAfter with
        | some count => exact .inl ⟨count, rfl, rfl⟩
        | none => exact .inr ⟨rfl, rfl⟩

/-- Saving succeeds when the whole record is written. -/
theorem save_of_ok {outcome : FlashOutcome} (h : (store.save outcome value).2 = .ok ()) :
    value.provisioning.isValid = true ∧ (Postcard.encode value).length ≤ maxRecordLen ∧
      (store.save outcome value).1 =
        cut (Postcard.encode value) (storeRecord (Postcard.encode value)).length := by
  have hworks : ∀ store', store.save outcome value ≠ (store', .error ()) := by
    intro store' hsave
    rw [hsave] at h
    cases h
  rcases save_cases store outcome value with
    ⟨-, hsave⟩ | ⟨hvalid, ⟨-, hsave⟩ | ⟨hlen, ⟨-, hsave⟩ | ⟨-, ⟨count, -, hsave⟩ | ⟨-, hsave⟩⟩⟩⟩
  · exact absurd hsave (hworks _)
  · exact absurd hsave (hworks _)
  · exact absurd hsave (hworks _)
  · exact absurd hsave (hworks _)
  · refine ⟨hvalid, hlen, ?_⟩
    rw [hsave, cut, List.take_length]

/-- Settings that were saved are read back. -/
theorem load_save {fromBytes : List UInt8 → Option StoredSettings}
    (hpostcard : ∀ v, fromBytes (Postcard.encode v) = some v) {outcome : FlashOutcome}
    (hok : (store.save outcome value).2 = .ok ()) :
    (store.save outcome value).1.load fromBytes = some value := by
  obtain ⟨hvalid, hlen, hsave⟩ := save_of_ok hok
  rw [hsave]
  refine load_cut hlen (encode_storedSettings_ne_nil value) ?_ (hpostcard value) hvalid
  rw [length_storeRecord]
  omega

/-- However saving ends, what is read back is what was in flash before or what was to be saved. -/
theorem load_of_save {outcome : FlashOutcome} {found : StoredSettings}
    (h : (store.save outcome value).1.load (fromBytes StoredSettings) = some found) :
    store.load (fromBytes StoredSettings) = some found ∨ found = value := by
  cases hresult : (store.save outcome value).2 with
  | ok u =>
    rw [load_save fromBytes_encode hresult] at h
    exact .inr (Option.some.inj h).symm
  | error e =>
    rcases save_cases store outcome value with
      ⟨-, hsave⟩ | ⟨-, ⟨-, hsave⟩ | ⟨hlen, ⟨-, hsave⟩ | ⟨-, ⟨count, -, hsave⟩ | ⟨-, hsave⟩⟩⟩⟩
    · rw [hsave] at h
      exact .inl h
    · rw [hsave] at h
      exact .inl h
    · rw [hsave] at h
      exact .inl h
    · rw [hsave] at h
      exact .inr (load_cut_eq_some hlen h).1
    · rw [hsave] at hresult
      cases hresult

/-- Settings that could not be saved leave the previous ones in flash exactly when the failure came before the sector was
    erased, or when they are the same and only the padding behind the record is missing. -/
theorem save_failed_iff (hold : store.load (fromBytes StoredSettings) = some old) {outcome : FlashOutcome}
    (hfail : (store.save outcome value).2 = .error ()) :
    (store.save outcome value).1.load (fromBytes StoredSettings) = some old ↔
      value.provisioning.isValid = false ∨ maxRecordLen < (Postcard.encode value).length ∨ outcome.erased = false ∨
        value = old ∧ ∃ count, outcome.failedAfter = some count ∧ 12 + (Postcard.encode value).length ≤ count := by
  rcases save_cases store outcome value with
    ⟨hinvalid, h⟩ | ⟨hvalid, ⟨hlong, h⟩ | ⟨hlen, ⟨hkept, h⟩ | ⟨herased, ⟨count, hcount, h⟩ | ⟨-, h⟩⟩⟩⟩
  · rw [h]
    exact ⟨fun _ => .inl hinvalid, fun _ => hold⟩
  · rw [h]
    exact ⟨fun _ => .inr (.inl hlong), fun _ => hold⟩
  · rw [h]
    exact ⟨fun _ => .inr (.inr (.inl hkept)), fun _ => hold⟩
  · rw [h]
    constructor
    · intro hload
      obtain ⟨hsame, hall⟩ := load_cut_eq_some hlen hload
      exact .inr (.inr (.inr ⟨hsame.symm, count, hcount, hall⟩))
    · rintro (hinvalid | hlong | hkept | ⟨rfl, count', hcount', hall⟩)
      · exact absurd (hinvalid.symm.trans hvalid) (by decide)
      · exact absurd hlong (Nat.not_lt.mpr hlen)
      · exact absurd (hkept.symm.trans herased) (by decide)
      · obtain rfl := Option.some.inj (hcount.symm.trans hcount')
        exact load_cut hlen (encode_storedSettings_ne_nil value) hall (fromBytes_encode value) hvalid
  · rw [h] at hfail
    cases hfail

def homeSettings : StoredSettings := ⟨⟨"home", "secret", "servatory", "servatory-topic"⟩, none⟩

/-- The same with another topic. -/
def newTopic : StoredSettings := ⟨⟨"home", "secret", "servatory", "servatory-other"⟩, none⟩

/-- A Stick that has been set up. -/
def setUp : Store := (blank.save .success homeSettings).1

theorem load_setUp : setUp.load (fromBytes StoredSettings) = some homeSettings :=
  load_save fromBytes_encode (by decide)

theorem save_failed_iff_kept :
    (setUp.save ⟨false, none⟩ newTopic).1.load (fromBytes StoredSettings) = some homeSettings :=
  (save_failed_iff load_setUp (by decide)).mpr (.inr (.inr (.inl rfl)))

/-- The sector is erased and nothing is written: the settings are gone. -/
theorem save_loses :
    setUp.load (fromBytes StoredSettings) = some homeSettings ∧
      (setUp.save ⟨true, some 0⟩ newTopic).2 = .error () ∧
      (setUp.save ⟨true, some 0⟩ newTopic).1.load (fromBytes StoredSettings) = none := by
  refine ⟨load_setUp, by decide, ?_⟩
  rw [Option.eq_none_iff_forall_ne_some]
  intro found hfound
  obtain ⟨-, hall⟩ := @load_cut_eq_some newTopic 0 (by decide) _ hfound
  exact absurd hall (by decide)

end Store
end Servatory
