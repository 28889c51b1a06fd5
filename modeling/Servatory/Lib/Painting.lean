import Mathlib.Data.List.Basic
import Mathlib.Logic.Function.Basic

/-! Points that are painted in colours, one after another. The last colour of a point stays. -/

namespace Painting
variable {P C : Type} [DecidableEq P] {f : P → C} {writes more : List (P × C)} {p : P} {c : C}

/-- A picture after some writes. -/
def paint (f : P → C) (writes : List (P × C)) : P → C := writes.foldl (fun f w => Function.update f w.1 w.2) f

@[simp] theorem paint_nil : paint f [] = f := rfl

theorem paint_cons {w : P × C} : paint f (w :: writes) = paint (Function.update f w.1 w.2) writes := rfl

theorem paint_append : paint f (writes ++ more) = paint (paint f writes) more := List.foldl_append

/-- The colour of a point depends on that point only. -/
theorem paint_congr {g : P → C} (h : f p = g p) : paint f writes p = paint g writes p := by
  induction writes generalizing f g with
  | nil => exact h
  | cons w rest ih =>
    rw [paint_cons, paint_cons]
    refine ih ?_
    by_cases hp : p = w.1
    · rw [hp, Function.update_self, Function.update_self]
    · rw [Function.update_of_ne hp, Function.update_of_ne hp, h]

/-- A point that nothing is written to keeps its colour. -/
theorem paint_of_not_mem (h : ∀ w ∈ writes, w.1 ≠ p) : paint f writes p = f p := by
  induction writes generalizing f with
  | nil => rfl
  | cons w rest ih =>
    rw [List.forall_mem_cons] at h
    rw [paint_cons, ih h.2, Function.update_of_ne (Ne.symm h.1)]

/-- The last write to a point decides. -/
theorem paint_last (h : ∀ w ∈ more, w.1 ≠ p) : paint f (writes ++ (p, c) :: more) p = c := by
  rw [paint_append, paint_cons, paint_of_not_mem h, Function.update_self]

/-- The colour of an area. -/
def fill (area : List P) (c : C) : List (P × C) := area.map fun p => (p, c)

theorem paint_fill {area : List P} : paint f (fill area c) p = if p ∈ area then c else f p := by
  induction area generalizing f with
  | nil => rfl
  | cons q rest ih =>
    rw [fill, List.map_cons, paint_cons]
    refine ih.trans ?_
    by_cases hrest : p ∈ rest
    · rw [if_pos hrest, if_pos (List.mem_cons_of_mem q hrest)]
    · by_cases hpq : p = q
      · rw [if_neg hrest, if_pos (List.mem_cons.mpr (.inl hpq)), hpq, Function.update_self]
      · rw [if_neg hrest, if_neg (fun h => (List.mem_cons.mp h).elim hpq hrest), Function.update_of_ne hpq]

/-- Areas of one colour, whatever their order. -/
theorem paint_fills {areas : List (List P)} :
    paint f (areas.flatMap fun area => fill area c) p = if ∃ area ∈ areas, p ∈ area then c else f p := by
  have hfill : areas.flatMap (fun area => fill area c) = fill areas.flatten c := by
    rw [fill, List.map_flatten, List.flatMap_def]
    rfl
  rw [hfill, paint_fill]
  simp only [List.mem_flatten]

end Painting
