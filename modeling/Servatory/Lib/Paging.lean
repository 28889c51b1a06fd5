import Mathlib.Data.List.Basic

/-! A list cut into pages of equal length. -/

namespace Paging
variable {α β : Type} {size count : Nat} {l : List α}

/-- The page at an index, which is short at the end of the list and empty behind it. -/
def page (size : Nat) (l : List α) (index : Nat) : List α := (l.drop (index * size)).take size

theorem length_page_le (index : Nat) : (page size l index).length ≤ size := List.length_take_le ..

theorem page_map (f : α → β) (index : Nat) : page size (l.map f) index = (page size l index).map f := by
  rw [page, page, ← List.map_drop, ← List.map_take]

theorem mem_of_mem_page {index : Nat} {a : α} (h : a ∈ page size l index) : a ∈ l :=
  List.mem_of_mem_drop (List.mem_of_mem_take h)

/-- A page is empty only behind the end of the list. -/
theorem page_eq_nil_iff {index : Nat} (hsize : 0 < size) : page size l index = [] ↔ l.length ≤ index * size := by
  rw [page, List.take_eq_nil_iff, List.drop_eq_nil_iff]
  exact or_iff_right (Nat.ne_of_gt hsize)

/-- The first pages together are the beginning of the list. -/
theorem flatten_pages (size count : Nat) (l : List α) :
    ((List.range count).map (page size l)).flatten = l.take (count * size) := by
  induction count with
  | zero => simp
  | succ count ih =>
    rw [List.range_succ, List.map_append, List.flatten_append, ih, List.map_singleton, List.flatten_singleton, page,
      Nat.succ_mul, List.take_add]

/-- Enough pages hold the whole list. -/
theorem flatten_pages_eq (h : l.length ≤ count * size) : ((List.range count).map (page size l)).flatten = l := by
  rw [flatten_pages, List.take_of_length_le h]

/-- Every item is on one of enough pages. -/
theorem mem_pages (h : l.length ≤ count * size) {a : α} : (∃ index ∈ List.range count, a ∈ page size l index) ↔ a ∈ l := by
  conv_rhs => rw [← flatten_pages_eq h]
  rw [List.mem_flatten]
  constructor
  · rintro ⟨index, hindex, ha⟩
    exact ⟨_, List.mem_map_of_mem hindex, ha⟩
  · rintro ⟨_, hpage, ha⟩
    obtain ⟨index, hindex, rfl⟩ := List.mem_map.mp hpage
    exact ⟨index, hindex, ha⟩

end Paging
