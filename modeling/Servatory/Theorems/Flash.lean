import Servatory.Firmware.Flash
import Servatory.Theorems.Settings

/-! The settings on the device: what it is asked for stays in the last sector, and the sector behaves as the store. -/

namespace Servatory.FlashStore
open NorFlash Device Postcard

/-- The settings are in the last sector, in whole sectors from the start. -/
structure Placed (s : FlashStore) : Prop where
  aligned : sectorSize ∣ s.sector
  last : s.sector + sectorSize = s.flash.capacity

theorem placed_new {flash : Device} (hsectors : sectorSize ∣ flash.capacity) (hpos : 0 < flash.capacity) :
    Placed (new flash) where
  aligned := Nat.dvd_sub hsectors (Nat.dvd_refl sectorSize)
  last := Nat.sub_add_cancel (Nat.le_of_dvd hpos hsectors)

/-- The sector as bytes. -/
def view (s : FlashStore) : Store := ⟨s.flash.bytes s.sector sectorSize, length_bytes⟩

/-- The access is to whole words of the last sector of a device. -/
def InSector (capacity : Nat) : Access → Prop := Access.Within wordSize (capacity - sectorSize) capacity

section
variable {s : FlashStore} {fromBytes : List UInt8 → Option StoredSettings} {value : StoredSettings}

theorem Placed.word_dvd (h : Placed s) : wordSize ∣ s.sector := Nat.dvd_trans (by decide) h.aligned

theorem Placed.first_eq (h : Placed s) : s.flash.capacity - sectorSize = s.sector :=
  Nat.sub_eq_of_eq_add h.last.symm

/-! ### Loading -/

/-- A read of the sector. -/
theorem read_sector (h : Placed s) (skip length : Nat) {d : Device} (hcapacity : d.capacity = s.flash.capacity)
    (hcells : d.cells = s.flash.cells) (hskip : wordSize ∣ skip) (hlength : wordSize ∣ length)
    (hfits : skip + length ≤ sectorSize) :
    ∃ d' result, d.read wordSize (s.sector + skip) length = (d', result) ∧ d'.capacity = d.capacity ∧
      d'.cells = d.cells ∧ Asks (InSector s.flash.capacity) d d' ∧ (d.faults = [] → d'.faults = []) ∧
      (result = .error .failed ∧ d.faults ≠ [] ∨ result = .ok ((s.view.sector.drop skip).take length)) := by
  have haligned : (s.sector + skip) % wordSize = 0 ∧ length % wordSize = 0 :=
    ⟨Nat.mod_eq_zero_of_dvd (Nat.dvd_add h.word_dvd hskip), Nat.mod_eq_zero_of_dvd hlength⟩
  have hlast := h.last
  have hbound : s.sector + skip + length ≤ d.capacity := by omega
  have hasked : InSector s.flash.capacity (.read (s.sector + skip) length) :=
    ⟨haligned.1, haligned.2, h.first_eq ▸ Nat.le_add_right .., hcapacity ▸ hbound⟩
  rcases read_cases haligned hbound with ⟨faults, hne, hread⟩ | ⟨faults, hnil, hread⟩
  · exact ⟨_, _, hread, rfl, rfl, .single hasked rfl, fun hd => absurd hd hne, .inl ⟨rfl, hne⟩⟩
  · refine ⟨_, _, hread, rfl, rfl, .single hasked rfl, hnil, .inr ?_⟩
    have hsame : d.bytes (s.sector + skip) length = s.flash.bytes (s.sector + skip) length :=
      bytes_congr fun a _ _ => congrFun hcells a
    rw [hsame, bytes_part hfits, view]

/-- The parts of a header are those of the sector. -/
theorem header_parts (sector : List UInt8) :
    ((sector.drop 0).take 12).take 4 = sector.take 4 ∧ ((sector.drop 0).take 12)[4]? = sector[4]? ∧
      ((sector.drop 0).take 12).getD 6 0 = sector.getD 6 0 ∧ ((sector.drop 0).take 12).getD 7 0 = sector.getD 7 0 ∧
        (((sector.drop 0).take 12).drop 8).take 4 = (sector.drop 8).take 4 := by
  simp [List.take_take, List.getD_eq_getElem?_getD, List.drop_take]

theorem word_dvd_padded (len : Nat) : wordSize ∣ (len + 3) / 4 * 4 := Nat.dvd_mul_left ..

theorem padded_le {len : Nat} (h : len ≤ maxRecordLen) : 12 + (len + 3) / 4 * 4 ≤ sectorSize := by
  simp only [maxRecordLen, sectorSize] at *
  omega

/-- Loading asks for words of the sector only, and returns what the sector holds, or nothing when a read fails. -/
theorem load_cases (h : Placed s) (fromBytes : List UInt8 → Option StoredSettings) :
    Asks (InSector s.flash.capacity) s.flash (s.load fromBytes).1.flash ∧
      (s.flash.faults ≠ [] ∧ (s.load fromBytes).2 = none ∨ (s.load fromBytes).2 = s.view.load fromBytes) := by
  obtain ⟨d, header, hread, hcapacity, hcells, hasks, hfaults, hheader⟩ :=
    read_sector h 0 12 rfl rfl (by decide) (by decide) (by decide)
  rw [Nat.add_zero] at hread
  rw [load, hread, Store.load_eq]
  rcases hheader with ⟨rfl, hne⟩ | rfl
  · exact ⟨hasks, .inl ⟨hne, rfl⟩⟩
  · obtain ⟨hmagic, hversion, hlow, hhigh, hsum⟩ := header_parts s.view.sector
    dsimp only
    rw [hmagic, hversion, hlow, hhigh, hsum, ← Store.recordLen]
    split
    · exact ⟨hasks, .inr rfl⟩
    · split
      · exact ⟨hasks, .inr rfl⟩
      · rename_i hlen
        obtain ⟨hpos, hlen'⟩ := not_or.mp hlen
        have hfits := padded_le (Nat.not_lt.mp hlen')
        obtain ⟨d', payload, hread', -, -, hasks', -, hpayload⟩ :=
          read_sector h 12 _ hcapacity hcells (by decide) (word_dvd_padded s.view.recordLen) hfits
        have hasked := hasks.trans hasks'
        rw [hread']
        rcases hpayload with ⟨rfl, hne⟩ | rfl
        · exact ⟨hasked, .inl ⟨fun hnil => hne (hfaults hnil), rfl⟩⟩
        · have hrecord : ((s.view.sector.drop 12).take ((s.view.recordLen + 3) / 4 * 4)).take s.view.recordLen =
              s.view.record := by
            rw [List.take_take, Nat.min_eq_left (by omega), Store.record]
          dsimp only
          rw [hrecord]
          split
          · exact ⟨hasked, .inr rfl⟩
          · generalize fromBytes s.view.record = result
            cases result with
            | none => exact ⟨hasked, .inr rfl⟩
            | some value => exact ⟨hasked, .inr rfl⟩

theorem load_view (h : Placed s) (fromBytes : List UInt8 → Option StoredSettings) :
    Asks (InSector s.flash.capacity) s.flash (s.load fromBytes).1.flash ∧
      (s.flash.faults = [] → (s.load fromBytes).2 = s.view.load fromBytes) := by
  obtain ⟨hasks, hload⟩ := load_cases h fromBytes
  exact ⟨hasks, fun hnil => hload.resolve_left fun hfailed => hfailed.1 hnil⟩

/-! ### Saving -/

/-- The sector is the cells of it. -/
theorem view_congr {d : Device} (hcells : d.cells = s.flash.cells) : view ⟨d, s.sector⟩ = s.view := by
  have hbytes : d.bytes s.sector sectorSize = s.flash.bytes s.sector sectorSize :=
    bytes_congr fun a _ _ => congrFun hcells a
  apply Store.ext
  simp only [view]
  exact hbytes

/-- The cells after the record, or the first bytes of it, is written to the sector when it is erased. -/
theorem view_programmed {d : Device} (record : List UInt8) (hlen : record.length ≤ sectorSize)
    (hcells : d.cells = Device.programmed { s.flash with cells := s.flash.erased s.sector (s.sector + sectorSize) }
      s.sector record) : view ⟨d, s.sector⟩ = Store.blank.write record := by
  have herased : ∀ a, s.sector ≤ a → a < s.sector + sectorSize →
      s.flash.erased s.sector (s.sector + sectorSize) a = 0xff := fun a hle hlt => if_pos ⟨hle, hlt⟩
  have hblank : (Store.blank.write record).sector = record ++ List.replicate (sectorSize - record.length) 0xff := by
    have hdrop : (Store.blank.write record).sector =
        (record ++ (List.replicate sectorSize 0xff).drop record.length).take sectorSize := rfl
    rw [hdrop, List.drop_replicate, List.take_of_length_le]
    rw [List.length_append, List.length_replicate]
    omega
  have hbytes := bytes_programmed hcells herased hlen
  apply Store.ext
  rw [hblank, view]
  dsimp only
  exact hbytes

/-- Erasing the sector. -/
theorem erase_sector (h : Placed s) :
    ∃ d result, s.flash.erase sectorSize s.sector (s.sector + sectorSize) = (d, result) ∧
      d.capacity = s.flash.capacity ∧ Asks (InSector s.flash.capacity) s.flash d ∧
      (result = .error .failed ∧ s.flash.faults ≠ [] ∧ d.cells = s.flash.cells ∨
        result = .ok () ∧ (s.flash.faults = [] → d.faults = []) ∧
          d.cells = s.flash.erased s.sector (s.sector + sectorSize)) := by
  have hlast := h.last
  have hend : sectorSize ∣ s.sector + sectorSize := Nat.dvd_add h.aligned (Nat.dvd_refl sectorSize)
  have hword : wordSize ∣ sectorSize := by decide
  have hasked : InSector s.flash.capacity (.erase s.sector (s.sector + sectorSize)) :=
    ⟨Nat.mod_eq_zero_of_dvd h.word_dvd, Nat.mod_eq_zero_of_dvd (Nat.dvd_trans hword hend), h.first_eq.le, hlast.le⟩
  rcases erase_cases ⟨Nat.mod_eq_zero_of_dvd h.aligned, Nat.mod_eq_zero_of_dvd hend⟩ (Nat.le_add_right ..) hlast.le with
    ⟨count, faults, hfaults, heq⟩ | ⟨faults, hfaults, heq⟩
  · exact ⟨_, _, heq, rfl, .single hasked rfl, .inl ⟨rfl, hfaults ▸ List.cons_ne_nil _ _, rfl⟩⟩
  · refine ⟨_, _, heq, rfl, .single hasked rfl, .inr ⟨rfl, fun hnil => ?_, rfl⟩⟩
    rcases hfaults with ⟨-, rfl⟩ | hfaults
    · rfl
    · rw [hfaults] at hnil
      cases hnil

/-- Writing the record to the sector when it is erased. -/
theorem write_sector (h : Placed s) {d : Device} (hcapacity : d.capacity = s.flash.capacity)
    (hcells : d.cells = s.flash.erased s.sector (s.sector + sectorSize)) {payload : List UInt8}
    (hlen : payload.length ≤ maxRecordLen) :
    ∃ d' result, d.write wordSize s.sector (storeRecord payload) = (d', result) ∧ d'.capacity = s.flash.capacity ∧
      Asks (InSector s.flash.capacity) d d' ∧
      ((∃ count, result = .error .failed ∧ d.faults ≠ [] ∧
          view ⟨d', s.sector⟩ = Store.blank.write ((storeRecord payload).take count)) ∨
        result = .ok () ∧ view ⟨d', s.sector⟩ = Store.blank.write (storeRecord payload)) := by
  have hlast := h.last
  have hlength := length_storeRecord payload
  have hpadded := padded_le hlen
  have hwords : wordSize ∣ (storeRecord payload).length := by
    rw [hlength]
    exact Nat.dvd_add (by decide) (word_dvd_padded _)
  have haligned : s.sector % wordSize = 0 ∧ (storeRecord payload).length % wordSize = 0 :=
    ⟨Nat.mod_eq_zero_of_dvd h.word_dvd, Nat.mod_eq_zero_of_dvd hwords⟩
  have hbound : s.sector + (storeRecord payload).length ≤ d.capacity := by omega
  have hasked : InSector s.flash.capacity (.write s.sector (storeRecord payload).length) :=
    ⟨haligned.1, haligned.2, h.first_eq.le, hcapacity ▸ hbound⟩
  have hprogrammed : ∀ record, d.programmed s.sector record =
      Device.programmed { s.flash with cells := s.flash.erased s.sector (s.sector + sectorSize) } s.sector record :=
    fun record => funext fun a => by rw [Device.programmed, Device.programmed, hcells]
  rcases write_cases haligned hbound with ⟨count, faults, hfaults, heq⟩ | ⟨faults, hfaults, heq⟩
  · refine ⟨_, _, heq, hcapacity, .single hasked rfl, .inl ⟨count, rfl, hfaults ▸ List.cons_ne_nil _ _, ?_⟩⟩
    refine view_programmed ((storeRecord payload).take count) ?_ (hprogrammed _)
    rw [List.length_take]
    omega
  · exact ⟨_, _, heq, hcapacity, .single hasked rfl, .inr ⟨rfl, view_programmed _ (by omega) (hprogrammed _)⟩⟩

/-- What saving to the store does with settings that fit. -/
theorem save_of_fits {store : Store} {outcome : FlashOutcome} (hvalid : value.provisioning.isValid = true)
    (hlen : (Postcard.encode value).length ≤ maxRecordLen) :
    store.save outcome value =
      if outcome.erased then
        outcome.failedAfter.elim (Store.blank.write (storeRecord (Postcard.encode value)), .ok ())
          fun count => (Store.blank.write ((storeRecord (Postcard.encode value)).take count), .error ())
      else (store, .error ()) := by
  rw [Store.save, hvalid, if_neg (by decide)]
  dsimp only
  rw [if_neg (Nat.not_lt.mpr hlen)]
  cases outcome.erased with
  | false => rfl
  | true => cases outcome.failedAfter <;> rfl

/-- Saving asks for whole sectors and words of the sector only, and is saving to the store, with some outcome. -/
theorem save_view (h : Placed s) (value : StoredSettings) :
    Asks (InSector s.flash.capacity) s.flash (s.save value).1.flash ∧ Placed (s.save value).1 ∧
      ∃ outcome, (s.flash.faults = [] → outcome = .success) ∧ (s.save value).2 = (s.view.save outcome value).2 ∧
        (s.save value).1.view = (s.view.save outcome value).1 := by
  rw [save]
  cases hvalid : value.provisioning.isValid with
  | false =>
    refine ⟨.refl, h, .success, fun _ => rfl, ?_⟩
    rw [Store.save, hvalid]
    exact ⟨rfl, rfl⟩
  | true =>
    rw [if_neg (by decide)]
    dsimp only
    rcases Nat.lt_or_ge maxRecordLen ((Postcard.encode value).length) with hlong | hlen
    · rw [if_pos hlong]
      refine ⟨.refl, h, .success, fun _ => rfl, ?_⟩
      rw [Store.save, hvalid, if_neg (by decide), if_pos hlong]
      exact ⟨rfl, rfl⟩
    · rw [if_neg (Nat.not_lt.mpr hlen)]
      obtain ⟨d, result, herase, hcapacity, hasks, herased⟩ := erase_sector h
      rw [herase]
      rcases herased with ⟨rfl, hne, hcells⟩ | ⟨rfl, hfaults, hcells⟩
      · refine ⟨hasks, ⟨h.aligned, h.last.trans hcapacity.symm⟩, ⟨false, none⟩, fun hnil => absurd hnil hne, ?_⟩
        rw [save_of_fits hvalid hlen]
        exact ⟨rfl, view_congr hcells⟩
      · obtain ⟨d', result, hwrite, hcapacity', hasks', hwritten⟩ := write_sector h hcapacity hcells hlen
        dsimp only
        rw [hwrite]
        rcases hwritten with ⟨count, rfl, hne, hview⟩ | ⟨rfl, hview⟩
        · refine ⟨hasks.trans hasks', ⟨h.aligned, h.last.trans hcapacity'.symm⟩, ⟨true, some count⟩,
            fun hnil => absurd (hfaults hnil) hne, ?_⟩
          rw [save_of_fits hvalid hlen]
          exact ⟨rfl, hview⟩
        · refine ⟨hasks.trans hasks', ⟨h.aligned, h.last.trans hcapacity'.symm⟩, .success, fun _ => rfl, ?_⟩
          rw [save_of_fits hvalid hlen]
          exact ⟨rfl, hview⟩

/-! ### The round trip -/

/-- The flash when nothing fails from now on. -/
def working (s : FlashStore) : FlashStore := { s with flash := s.flash.working }

/-- On every device, whatever it holds and whichever operations fail, loading and saving ask for whole words of the last
    sector only, and settings that were saved are loaded. Where nothing fails, settings that fit are saved. -/
theorem load_of_saved (hpostcard : ∀ v, fromBytes (Postcard.encode v) = some v) {flash : Device}
    (hsectors : sectorSize ∣ flash.capacity) (hpos : 0 < flash.capacity) (value : StoredSettings) :
    (((new flash).save value).2 = .ok () → (((new flash).save value).1.working.load fromBytes).2 = some value) ∧
      (flash.faults = [] → value.provisioning.isValid = true → (Postcard.encode value).length ≤ maxRecordLen →
        ((new flash).save value).2 = .ok ()) ∧
      Asks (InSector flash.capacity) flash ((new flash).save value).1.flash ∧
      Asks (InSector flash.capacity) flash ((new flash).load fromBytes).1.flash := by
  have hplaced := placed_new hsectors hpos
  obtain ⟨hasks, hplaced', outcome, hsuccess, hresult, hview⟩ := save_view hplaced value
  refine ⟨fun hok => ?_, fun hfaults hvalid hlen => ?_, hasks, (load_view hplaced fromBytes).1⟩
  · have hworking : Placed ((new flash).save value).1.working := ⟨hplaced'.aligned, hplaced'.last⟩
    rw [(load_view hworking fromBytes).2 rfl]
    have hsame : ((new flash).save value).1.working.view = ((new flash).view.save outcome value).1 := hview
    rw [hsame]
    exact Store.load_save hpostcard (hresult.symm.trans hok)
  · obtain rfl := hsuccess hfaults
    rw [hresult, save_of_fits hvalid hlen]
    rfl

end

/-- A device of two sectors that was never written. -/
def twoSectors : Device := ⟨8192, fun _ => 0xff, [], []⟩

theorem load_of_saved_home :
    (((new twoSectors).save Store.homeSettings).1.working.load (fromBytes StoredSettings)).2 = some Store.homeSettings ∧
      Asks (InSector 8192) twoSectors ((new twoSectors).save Store.homeSettings).1.flash := by
  have hsectors : sectorSize ∣ twoSectors.capacity := by decide
  have hpos : 0 < twoSectors.capacity := by decide
  obtain ⟨hload, hsave, hasks, -⟩ := load_of_saved fromBytes_encode hsectors hpos Store.homeSettings
  exact ⟨hload (hsave rfl (by decide) (by decide)), hasks⟩

end Servatory.FlashStore
