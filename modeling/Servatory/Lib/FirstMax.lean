import Mathlib.Data.List.Basic
import Mathlib.Data.List.Induction
import Mathlib.Order.Lattice

/-! The first of the elements of a list whose score is greatest, found in one pass. -/

variable {α β : Type} [LinearOrder β]

/-- Every score before it is smaller, and none behind it is greater. -/
def FirstMax (score : α → β) (l : List α) (a : α) : Prop :=
  ∃ before after, l = before ++ a :: after ∧ (∀ b ∈ before, score b < score a) ∧ ∀ b ∈ after, score b ≤ score a

namespace FirstMax
variable {score : α → β} {l : List α} {a b : α}

theorem singleton (a : α) : FirstMax score [a] a := ⟨[], [], rfl, fun _ => nofun, fun _ => nofun⟩

theorem le (h : FirstMax score l a) : ∀ b ∈ l, score b ≤ score a := by
  obtain ⟨before, after, rfl, hbefore, hafter⟩ := h
  rw [List.forall_mem_append, List.forall_mem_cons]
  exact ⟨fun b hb => le_of_lt (hbefore b hb), le_refl _, hafter⟩

theorem concat_of_le (h : FirstMax score l a) (hb : score b ≤ score a) : FirstMax score (l ++ [b]) a := by
  obtain ⟨before, after, rfl, hbefore, hafter⟩ := h
  refine ⟨before, after ++ [b], by rw [List.append_assoc, List.cons_append], hbefore, fun c hc => ?_⟩
  rcases List.mem_append.mp hc with hc | hc
  · exact hafter c hc
  · rwa [List.mem_singleton.mp hc]

theorem concat_of_lt (h : FirstMax score l a) (hb : score a < score b) : FirstMax score (l ++ [b]) b :=
  ⟨l, [], rfl, fun c hc => lt_of_le_of_lt (h.le c hc) hb, fun _ => nofun⟩

/-- One more element replaces the best so far when its score is greater. -/
def better (score : α → β) (best : Option α) (a : α) : Option α :=
  if best.all (fun current => score current < score a) then some a else best

theorem foldl_better (score : α → β) (l : List α) :
    l = [] ∧ l.foldl (better score) none = none ∨ ∃ a, l.foldl (better score) none = some a ∧ FirstMax score l a := by
  induction l using List.reverseRecOn with
  | nil => exact .inl ⟨rfl, rfl⟩
  | append_singleton l b ih =>
    right
    rw [List.foldl_concat]
    rcases ih with ⟨rfl, hnone⟩ | ⟨a, hsome, hmax⟩
    · rw [hnone]
      exact ⟨b, rfl, singleton b⟩
    · rw [hsome, better, Option.all_some]
      by_cases hlt : score a < score b
      · rw [if_pos (decide_eq_true hlt)]
        exact ⟨b, rfl, hmax.concat_of_lt hlt⟩
      · rw [if_neg (by rwa [decide_eq_true_eq])]
        exact ⟨a, rfl, hmax.concat_of_le (not_lt.mp hlt)⟩

end FirstMax
