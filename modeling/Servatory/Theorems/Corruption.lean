import Servatory.Lib.Digest
import Servatory.Theorems.Flash

/-! A wrong byte in flash: where the magic, the version, the checksum or the record of settings has one, nothing is
    loaded. -/

namespace Servatory

/-! ### The checksum -/

/-- Neither an exclusive or nor a product with an odd number loses anything. -/
theorem lossless_checksum :
    Digest.Lossless fun (hash : UInt32) (byte : UInt8) => (hash ^^^ byte.toUInt32) * 16777619 := by
  have hinverse : (16777619 : UInt32) * 899433627 = 1 := rfl
  have hproduct : Function.Injective fun n : UInt32 => n * 16777619 := by
    refine Function.LeftInverse.injective (g := fun n => n * 899433627) fun n => ?_
    dsimp only
    rw [UInt32.mul_assoc, hinverse, UInt32.mul_one]
  refine ⟨fun byte => ?_, fun hash => ?_⟩
  · exact hproduct.comp fun _ _ h => (UInt32.xor_left_inj _).mp h
  · exact hproduct.comp fun _ _ h => UInt8.toUInt32_inj.mp ((UInt32.xor_right_inj _).mp h)

/-- One wrong byte in a record of any length changes its checksum. -/
theorem checksum_set_ne {payload : List UInt8} {i : Nat} {byte : UInt8} (hi : i < payload.length)
    (hbyte : payload[i]? ≠ some byte) : checksum (payload.set i byte) ≠ checksum payload :=
  lossless_checksum.foldl_set_ne hi hbyte _

theorem le32_injective : Function.Injective le32 := by
  have hdigits : ∀ n : UInt32, n.toNat = n.toUInt8.toNat + 256 * (n >>> 8).toUInt8.toNat +
      65536 * (n >>> 16).toUInt8.toNat + 16777216 * (n >>> 24).toUInt8.toNat := by
    intro n
    have hlt := n.toNat_lt
    simp only [UInt32.toNat_toUInt8, UInt32.toNat_shiftRight, UInt32.reduceToNat, Nat.reduceMod,
      Nat.shiftRight_eq_div_pow, Nat.reducePow]
    omega
  intro n m h
  obtain ⟨h0, h1, h2, h3⟩ : n.toUInt8 = m.toUInt8 ∧ (n >>> 8).toUInt8 = (m >>> 8).toUInt8 ∧
      (n >>> 16).toUInt8 = (m >>> 16).toUInt8 ∧ (n >>> 24).toUInt8 = (m >>> 24).toUInt8 := by
    simpa [le32] using h
  rw [← UInt32.toNat_inj, hdigits n, hdigits m, h0, h1, h2, h3]

/-! ### A wrong byte in the sector -/

/-- The bytes of a record of some length that loading compares, with a constant or with the checksum: those of the magic,
    the version, the checksum and the settings. -/
def Checked (length offset : Nat) : Prop := offset < 5 ∨ 8 ≤ offset ∧ offset < 12 + length

/-- Lists that are the same in a range are the same at a place in it. -/
theorem getElem?_of_range {α : Type} {l l' : List α} {start count i : Nat}
    (h : (l.drop start).take count = (l'.drop start).take count) (hstart : start ≤ i) (hi : i < start + count) :
    l[i]? = l'[i]? := by
  have hplace := congrArg (·[i - start]?) h
  rwa [List.getElem?_take_of_lt (by omega), List.getElem?_take_of_lt (by omega), List.getElem?_drop, List.getElem?_drop,
    Nat.add_sub_cancel' hstart] at hplace

namespace Store
variable {store : Store} {offset : Nat} {byte : UInt8} {fromBytes : List UInt8 → Option StoredSettings}
  {value : StoredSettings}

/-- The sector with another byte at one place. -/
def alter (store : Store) (offset : Nat) (byte : UInt8) : Store :=
  ⟨store.sector.set offset byte, by rw [List.length_set, store.length_sector]⟩

/-- The sector starts with a header, and its checksum is that of the record behind it. -/
structure Accepted (store : Store) : Prop where
  magic : store.sector.take 4 = storeMagic
  version : store.sector[4]? = some storageVersion
  length : store.recordLen ≤ maxRecordLen
  sum : le32 (checksum store.record) = (store.sector.drop 8).take 4

theorem accepted_of_load (h : store.load fromBytes = some value) : store.Accepted := by
  obtain ⟨hmagic, hversion, -, hlength, hsum, -, -⟩ := load_eq_some.mp h
  exact ⟨hmagic, hversion, hlength, hsum⟩

theorem load_of_not_accepted (h : ¬store.Accepted) : store.load fromBytes = none :=
  Option.eq_none_iff_forall_ne_some.mpr fun _ hvalue => h (accepted_of_load hvalue)

theorem getElem?_alter_self (h : offset < sectorSize) : (store.alter offset byte).sector[offset]? = some byte :=
  List.getElem?_set_self (store.length_sector ▸ h)

theorem getElem?_alter_ne {i : Nat} (h : offset ≠ i) : (store.alter offset byte).sector[i]? = store.sector[i]? :=
  List.getElem?_set_ne h

theorem recordLen_alter (h6 : offset ≠ 6) (h7 : offset ≠ 7) : (store.alter offset byte).recordLen = store.recordLen := by
  rw [recordLen, recordLen, List.getD_eq_getElem?_getD, List.getD_eq_getElem?_getD, getElem?_alter_ne h6,
    getElem?_alter_ne h7, List.getD_eq_getElem?_getD, List.getD_eq_getElem?_getD]

theorem record_alter_of_lt (h6 : offset ≠ 6) (h7 : offset ≠ 7) (h : offset < 12) :
    (store.alter offset byte).record = store.record := by
  rw [record, record, recordLen_alter h6 h7, alter, List.drop_set_of_lt h]

theorem record_alter (h : 12 ≤ offset) : (store.alter offset byte).record = store.record.set (offset - 12) byte := by
  rw [record, record, recordLen_alter (by omega) (by omega), alter, List.drop_set, if_neg (Nat.not_lt.mpr h), List.take_set]

theorem length_record (h : store.recordLen ≤ maxRecordLen) : store.record.length = store.recordLen := by
  rw [record, List.length_take, List.length_drop, store.length_sector]
  simp only [maxRecordLen, sectorSize] at *
  omega

/-- A wrong byte where one is checked leaves a sector that is not accepted. -/
theorem Accepted.not_alter (h : store.Accepted) (hoffset : Checked store.recordLen offset)
    (hbyte : store.sector[offset]? ≠ some byte) : ¬(store.alter offset byte).Accepted := by
  have hlength := h.length
  have hinside : offset < sectorSize := by
    simp only [Checked, maxRecordLen, sectorSize] at *
    omega
  have hself : (store.alter offset byte).sector[offset]? = some byte := getElem?_alter_self hinside
  intro h'
  rcases hoffset with hheader | ⟨hsum, hrecord⟩
  · rcases Nat.lt_or_ge offset 4 with hmagic | hversion
    · have hsame : ((store.alter offset byte).sector.drop 0).take 4 = (store.sector.drop 0).take 4 :=
        h'.magic.trans h.magic.symm
      exact hbyte ((getElem?_of_range hsame (Nat.zero_le _) (by omega)).symm.trans hself)
    · obtain rfl : offset = 4 := by omega
      exact hbyte (h.version.trans (h'.version.symm.trans hself))
  · rcases Nat.lt_or_ge offset 12 with hlt | hge
    · have hsame := h'.sum
      rw [record_alter_of_lt (by omega) (by omega) hlt, h.sum] at hsame
      exact hbyte ((getElem?_of_range hsame hsum (by omega)).trans hself)
    · have hdrop : ((store.alter offset byte).sector.drop 8).take 4 = (store.sector.drop 8).take 4 := by
        rw [alter, List.drop_set, if_neg (by omega), List.take_set_of_le (by omega)]
      have hsame := h'.sum
      rw [hdrop, ← h.sum, record_alter hge] at hsame
      refine checksum_set_ne ?_ ?_ (le32_injective hsame)
      · rw [length_record hlength]
        omega
      · rw [record, List.getElem?_take_of_lt (by omega), List.getElem?_drop, Nat.add_sub_cancel' hge]
        exact hbyte

/-- Settings that were saved are accepted. -/
theorem accepted_of_saved {outcome : FlashOutcome} (hok : (store.save outcome value).2 = .ok ()) :
    (store.save outcome value).1.Accepted ∧ (store.save outcome value).1.recordLen = (Postcard.encode value).length := by
  refine ⟨accepted_of_load (load_save Postcard.fromBytes_encode hok), ?_⟩
  obtain ⟨-, hlen, hsave⟩ := save_of_ok hok
  rw [hsave, recordLen_cut hlen (by rw [length_storeRecord]; omega)]

end Store

/-! ### A wrong byte on the device -/

namespace FlashStore
open NorFlash Device
variable {s : FlashStore} {value : StoredSettings}

/-- The store with another byte at one place of its sector. -/
def alter (s : FlashStore) (offset : Nat) (byte : UInt8) : FlashStore :=
  { s with flash := s.flash.alter (s.sector + offset) byte }

theorem view_alter (offset : Nat) (byte : UInt8) : (s.alter offset byte).view = s.view.alter offset byte := by
  apply Store.ext
  rw [view, alter, Store.alter, view]
  dsimp only
  exact bytes_alter s.flash s.sector sectorSize offset byte

theorem getElem?_view {offset : Nat} (h : offset < sectorSize) :
    s.view.sector[offset]? = some (s.flash.cells (s.sector + offset)) := by
  have hsector : s.view.sector = s.flash.bytes s.sector sectorSize := by rw [view]
  rw [hsector, getElem?_bytes h]

/-- Saving succeeds only in a sector of the device. -/
theorem sector_of_saved (hok : (s.save value).2 = .ok ()) :
    sectorSize ∣ s.sector ∧ s.sector + sectorSize ≤ s.flash.capacity := by
  rw [save] at hok
  split at hok
  · cases hok
  · dsimp only at hok
    split at hok
    · cases hok
    · split at hok
      · cases hok
      · rename_i herase
        obtain ⟨haligned, -, -, hlast⟩ := erase_within (congrArg Prod.snd herase)
        exact ⟨Nat.dvd_of_mod_eq_zero haligned, hlast⟩

theorem placed_of_saved {flash : Device} (hok : ((new flash).save value).2 = .ok ()) : Placed (new flash) := by
  obtain ⟨haligned, hlast⟩ := sector_of_saved hok
  exact ⟨haligned, Nat.sub_add_cancel ((Nat.le_add_left ..).trans hlast)⟩

theorem load_alter {flash : Device} (hok : ((new flash).save value).2 = .ok ()) {offset : Nat}
    (hoffset : Checked (Postcard.encode value).length offset) {byte : UInt8}
    (hbyte : ((new flash).save value).1.flash.cells (((new flash).save value).1.sector + offset) ≠ byte)
    (fromBytes : List UInt8 → Option StoredSettings) :
    ((((new flash).save value).1.alter offset byte).load fromBytes).2 = none := by
  obtain ⟨-, hplaced, outcome, -, hresult, hview⟩ := save_view (placed_of_saved hok) value
  obtain ⟨haccepted, hlength⟩ := Store.accepted_of_saved (hresult.symm.trans hok)
  rw [← hview] at haccepted hlength
  have hinside : offset < sectorSize := by
    have hle := haccepted.length
    simp only [Checked, maxRecordLen, sectorSize] at *
    omega
  have hwrong : ((new flash).save value).1.view.sector[offset]? ≠ some byte := by
    rw [getElem?_view hinside]
    exact fun h => hbyte (Option.some.inj h)
  have hrejected := haccepted.not_alter (hlength ▸ hoffset) hwrong
  rw [← view_alter] at hrejected
  have haltered : Placed (((new flash).save value).1.alter offset byte) := ⟨hplaced.aligned, hplaced.last⟩
  rcases (load_cases haltered fromBytes).2 with ⟨-, hfailed⟩ | hload
  · exact hfailed
  · rw [hload, Store.load_of_not_accepted hrejected]

/-- A byte is folded into the checksum without loss, so that one wrong byte in a record of any length changes it; and one
    wrong byte in the magic, the version, the checksum or the settings of a record that was saved is noticed, whatever the
    device held before and whichever of its operations fail: nothing is loaded. -/
theorem wrongByte_noticed :
    ((∀ byte : UInt8, Function.Injective fun hash : UInt32 => (hash ^^^ byte.toUInt32) * 16777619) ∧
      ∀ hash : UInt32, Function.Injective fun byte : UInt8 => (hash ^^^ byte.toUInt32) * 16777619) ∧
    (∀ (payload : List UInt8) (i : Nat) (byte : UInt8), i < payload.length → payload[i]? ≠ some byte →
      checksum (payload.set i byte) ≠ checksum payload) ∧
    ∀ (flash : Device) (value : StoredSettings), ((new flash).save value).2 = .ok () →
      ∀ (offset : Nat) (byte : UInt8), Checked (Postcard.encode value).length offset →
        ((new flash).save value).1.flash.cells (((new flash).save value).1.sector + offset) ≠ byte →
        ∀ fromBytes : List UInt8 → Option StoredSettings,
          ((((new flash).save value).1.alter offset byte).load fromBytes).2 = none := by
  refine ⟨⟨lossless_checksum.state, lossless_checksum.symbol⟩, fun _ _ _ hi hbyte => checksum_set_ne hi hbyte, ?_⟩
  intro flash value hok offset byte hoffset hbyte fromBytes
  exact load_alter hok hoffset hbyte fromBytes

/-- The length of the name of a network is wrong. -/
theorem wrongByte_noticed_home :
    ((((new twoSectors).save Store.homeSettings).1.alter 12 0).load (Postcard.fromBytes StoredSettings)).2 = none :=
  wrongByte_noticed.2.2 twoSectors Store.homeSettings rfl 12 0 (.inr ⟨by decide, by decide⟩) (by decide) _

end FlashStore
end Servatory
