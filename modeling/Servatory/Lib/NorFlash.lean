import Mathlib.Data.List.GetD

/-! A NOR flash of whole sectors. Erasing sets every bit of some sectors, writing can only clear bits, and a driver
    refuses an access that is not aligned or out of bounds. What the device is asked for is recorded. -/

namespace NorFlash

inductive Access
  | read (offset length : Nat)
  | erase (start stop : Nat)
  | write (offset length : Nat)
  deriving DecidableEq, Repr

inductive Error
  | notAligned
  | outOfBounds
  | failed
  deriving DecidableEq, Repr

/-- The access is to whole words of a range. -/
def Access.Within (word first last : Nat) : Access → Prop
  | .read offset length | .write offset length =>
    offset % word = 0 ∧ length % word = 0 ∧ first ≤ offset ∧ offset + length ≤ last
  | .erase start stop => start % word = 0 ∧ stop % word = 0 ∧ first ≤ start ∧ stop ≤ last

/-- The cells of a device, what becomes of the operations that are still to come, which succeed once the list is used
    up, and the accesses so far. An operation that fails may have got as far as some number of bytes. -/
structure Device where
  capacity : Nat
  cells : Nat → UInt8
  faults : List (Option Nat)
  accesses : List Access

namespace Device

/-- The bytes of a range. -/
def bytes (d : Device) (offset length : Nat) : List UInt8 := (List.range length).map fun i => d.cells (offset + i)

/-- The cells after a range is erased. -/
def erased (d : Device) (start stop : Nat) (a : Nat) : UInt8 := if start ≤ a ∧ a < stop then 0xff else d.cells a

/-- The cells after a write, which clears the bits that are zero in the data. -/
def programmed (d : Device) (offset : Nat) (data : List UInt8) (a : Nat) : UInt8 :=
  if offset ≤ a ∧ a < offset + data.length then d.cells a &&& data.getD (a - offset) 0xff else d.cells a

def note (d : Device) (access : Access) : Device := { d with accesses := d.accesses ++ [access] }

/-- A device whose operations succeed. -/
def working (d : Device) : Device := { d with faults := [] }

/-- The device with another byte in one cell. -/
def alter (d : Device) (a : Nat) (byte : UInt8) : Device :=
  { d with cells := fun b => if b = a then byte else d.cells b }

/-- Reads a range of words. -/
def read (word offset length : Nat) (d : Device) : Device × Except Error (List UInt8) :=
  let d := d.note (.read offset length)
  if offset % word ≠ 0 ∨ length % word ≠ 0 then (d, .error .notAligned)
  else if offset + length > d.capacity then (d, .error .outOfBounds)
  else
    match d.faults with
    | [] => (d, .ok (d.bytes offset length))
    | none :: faults => ({ d with faults }, .ok (d.bytes offset length))
    | some _ :: faults => ({ d with faults }, .error .failed)

/-- Erases a range of sectors; a failure leaves the cells alone. -/
def erase (sector start stop : Nat) (d : Device) : Device × Except Error Unit :=
  let d := d.note (.erase start stop)
  if start % sector ≠ 0 ∨ stop % sector ≠ 0 then (d, .error .notAligned)
  else if start > stop ∨ stop > d.capacity then (d, .error .outOfBounds)
  else
    match d.faults with
    | [] => ({ d with cells := d.erased start stop }, .ok ())
    | none :: faults => ({ d with cells := d.erased start stop, faults }, .ok ())
    | some _ :: faults => ({ d with faults }, .error .failed)

/-- Writes words; a failure may come after some of the bytes. -/
def write (word offset : Nat) (data : List UInt8) (d : Device) : Device × Except Error Unit :=
  let d := d.note (.write offset data.length)
  if offset % word ≠ 0 ∨ data.length % word ≠ 0 then (d, .error .notAligned)
  else if offset + data.length > d.capacity then (d, .error .outOfBounds)
  else
    match d.faults with
    | [] => ({ d with cells := d.programmed offset data }, .ok ())
    | none :: faults => ({ d with cells := d.programmed offset data, faults }, .ok ())
    | some count :: faults => ({ d with cells := d.programmed offset (data.take count), faults }, .error .failed)

/-! ### Bytes -/

variable {d : Device} {offset length : Nat}

@[simp] theorem length_bytes : (d.bytes offset length).length = length := by
  rw [bytes, List.length_map, List.length_range]

theorem getElem?_bytes {i : Nat} (h : i < length) : (d.bytes offset length)[i]? = some (d.cells (offset + i)) := by
  rw [bytes, List.getElem?_map, List.getElem?_range h, Option.map_some]

theorem bytes_congr {d' : Device} (h : ∀ a, offset ≤ a → a < offset + length → d'.cells a = d.cells a) :
    d'.bytes offset length = d.bytes offset length := by
  refine List.map_congr_left fun i hi => h (offset + i) (Nat.le_add_right ..) ?_
  exact Nat.add_lt_add_left (List.mem_range.mp hi) offset

/-- A part of a range. -/
theorem bytes_part {start skip : Nat} (h : skip + length ≤ start) :
    d.bytes (offset + skip) length = ((d.bytes offset start).drop skip).take length := by
  apply List.ext_getElem
  · simp only [length_bytes, List.length_take, List.length_drop]
    omega
  · intro i h1 h2
    simp only [bytes, List.getElem_map, List.getElem_range, List.getElem_take, List.getElem_drop, Nat.add_assoc]

/-- What is written to erased cells is read back, in front of the cells that are still erased. -/
theorem bytes_programmed {d' : Device} {data : List UInt8} (hcells : d'.cells = d.programmed offset data)
    (herased : ∀ a, offset ≤ a → a < offset + length → d.cells a = 0xff) (h : data.length ≤ length) :
    d'.bytes offset length = data ++ List.replicate (length - data.length) 0xff := by
  have hcell : ∀ i < length, d.programmed offset data (offset + i) = (data.getD i 0xff) := by
    intro i hi
    have hff := herased (offset + i) (Nat.le_add_right ..) (Nat.add_lt_add_left hi offset)
    rw [programmed]
    split
    · rw [hff, Nat.add_sub_cancel_left]
      exact UInt8.neg_one_and
    · rename_i hout
      have hlen : data.length ≤ i := by omega
      rw [hff, List.getD_eq_default _ _ hlen]
  apply List.ext_getElem
  · rw [length_bytes, List.length_append, List.length_replicate]
    omega
  · intro i h1 h2
    rw [length_bytes] at h1
    have hi := hcell i h1
    rw [List.getElem_append]
    split
    · rename_i hlt
      rw [List.getD_eq_getElem _ _ hlt] at hi
      simpa [bytes, hcells] using hi
    · rename_i hge
      rw [List.getD_eq_default _ _ (Nat.not_lt.mp hge)] at hi
      simpa [bytes, hcells] using hi

theorem bytes_alter (d : Device) (offset length i : Nat) (byte : UInt8) :
    (d.alter (offset + i) byte).bytes offset length = (d.bytes offset length).set i byte := by
  apply List.ext_getElem
  · rw [List.length_set, length_bytes, length_bytes]
  · intro j h1 h2
    simp only [bytes, alter, List.getElem_map, List.getElem_range, List.getElem_set, Nat.add_left_cancel_iff,
      eq_comm (a := i)]

/-! ### Operations -/

variable {word sector : Nat} {data : List UInt8}

/-- A read leaves the cells alone, and returns them. -/
theorem read_cases (h : offset % word = 0 ∧ length % word = 0) (hfits : offset + length ≤ d.capacity) :
    (∃ faults, d.faults ≠ [] ∧ d.read word offset length =
        ({ d.note (.read offset length) with faults }, .error .failed)) ∨
      ∃ faults, (d.faults = [] → faults = []) ∧ d.read word offset length =
        ({ d.note (.read offset length) with faults }, .ok (d.bytes offset length)) := by
  have hin : ¬(offset + length > (d.note (.read offset length)).capacity) := Nat.not_lt.mpr hfits
  rw [read]
  dsimp only
  rw [if_neg (by simp [h]), if_neg hin]
  rcases hf : d.faults with _ | ⟨_ | count, faults⟩
  · exact .inr ⟨[], fun _ => rfl, by simp [note, hf, bytes]⟩
  · exact .inr ⟨faults, by rintro ⟨⟩, by simp [note, hf, bytes]⟩
  · exact .inl ⟨faults, by rintro ⟨⟩, by simp [note, hf]⟩

theorem erase_cases {start stop : Nat} (h : start % sector = 0 ∧ stop % sector = 0) (hle : start ≤ stop)
    (hfits : stop ≤ d.capacity) :
    (∃ count faults, d.faults = some count :: faults ∧ d.erase sector start stop =
        ({ d.note (.erase start stop) with faults }, .error .failed)) ∨
      ∃ faults, (d.faults = [] ∧ faults = [] ∨ d.faults = none :: faults) ∧ d.erase sector start stop =
        ({ d.note (.erase start stop) with cells := d.erased start stop, faults }, .ok ()) := by
  have hin : ¬(start > stop ∨ stop > (d.note (.erase start stop)).capacity) :=
    not_or.mpr ⟨Nat.not_lt.mpr hle, Nat.not_lt.mpr hfits⟩
  rw [erase]
  dsimp only
  rw [if_neg (by simp [h]), if_neg hin]
  rcases hf : d.faults with _ | ⟨_ | count, faults⟩
  · exact .inr ⟨[], .inl ⟨rfl, rfl⟩, by simp [note, hf, funext_iff, erased]⟩
  · exact .inr ⟨faults, .inr rfl, by simp [note, hf, funext_iff, erased]⟩
  · exact .inl ⟨count, faults, rfl, by simp [note, hf]⟩

/-- Only whole sectors of the device are erased. -/
theorem erase_within {start stop : Nat} (h : (d.erase sector start stop).2 = .ok ()) :
    start % sector = 0 ∧ stop % sector = 0 ∧ start ≤ stop ∧ stop ≤ d.capacity := by
  rw [erase] at h
  split at h
  · cases h
  · rename_i haligned
    split at h
    · cases h
    · rename_i hin
      rw [not_or, not_not, not_not] at haligned
      rw [not_or, Nat.not_lt, Nat.not_lt] at hin
      exact ⟨haligned.1, haligned.2, hin.1, hin.2⟩

theorem write_cases (h : offset % word = 0 ∧ data.length % word = 0) (hfits : offset + data.length ≤ d.capacity) :
    (∃ count faults, d.faults = some count :: faults ∧ d.write word offset data =
        ({ d.note (.write offset data.length) with cells := d.programmed offset (data.take count), faults },
          .error .failed)) ∨
      ∃ faults, (d.faults = [] ∧ faults = [] ∨ d.faults = none :: faults) ∧ d.write word offset data =
        ({ d.note (.write offset data.length) with cells := d.programmed offset data, faults }, .ok ()) := by
  have hin : ¬(offset + data.length > (d.note (.write offset data.length)).capacity) := Nat.not_lt.mpr hfits
  rw [write]
  dsimp only
  rw [if_neg (by simp [h]), if_neg hin]
  rcases hf : d.faults with _ | ⟨_ | count, faults⟩
  · exact .inr ⟨[], .inl ⟨rfl, rfl⟩, by simp [note, hf, funext_iff, programmed]⟩
  · exact .inr ⟨faults, .inr rfl, by simp [note, hf, funext_iff, programmed]⟩
  · exact .inl ⟨count, faults, rfl, by simp [note, hf, funext_iff, programmed]⟩

/-! ### Accesses -/

/-- The accesses that lead from one state of a device to another are of one kind. -/
def Asks (P : Access → Prop) (d d' : Device) : Prop := ∃ more, d'.accesses = d.accesses ++ more ∧ ∀ a ∈ more, P a

namespace Asks
variable {P : Access → Prop} {d' d'' : Device}

theorem refl : Asks P d d := ⟨[], (List.append_nil _).symm, by simp⟩

theorem trans (h : Asks P d d') (h' : Asks P d' d'') : Asks P d d'' := by
  obtain ⟨more, hmore, hP⟩ := h
  obtain ⟨more', hmore', hP'⟩ := h'
  refine ⟨more ++ more', by rw [hmore', hmore, List.append_assoc], fun a ha => ?_⟩
  exact (List.mem_append.mp ha).elim (hP a) (hP' a)

theorem single {a : Access} (ha : P a) (h : d'.accesses = d.accesses ++ [a]) : Asks P d d' :=
  ⟨[a], h, fun _ hb => List.mem_singleton.mp hb ▸ ha⟩

end Asks

end Device
end NorFlash
