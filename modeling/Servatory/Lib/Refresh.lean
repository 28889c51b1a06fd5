import Mathlib.Data.List.Chain

/-! What is read anew at most once an interval. Readings are offered with the time of the offer; one is taken when it is
    due, and puts the next an interval off. -/

namespace Refresh
variable {ρ σ : Type} {interval due : Nat} {offers : List (Nat × ρ)}

/-- The readings that are taken where the next one is due at a given time. -/
def taken (interval : Nat) : Nat → List (Nat × ρ) → List (Nat × ρ)
  | _, [] => []
  | due, o :: rest => if o.1 < due then taken interval due rest else o :: taken interval (o.1 + interval) rest

/-- When the next reading is due after some offers. -/
def deadline (interval : Nat) : Nat → List (Nat × ρ) → Nat
  | due, [] => due
  | due, o :: rest => if o.1 < due then deadline interval due rest else deadline interval (o.1 + interval) rest

/-- A state that takes a reading when it is due. -/
def offer (interval : Nat) (f : σ → ρ → σ) (s : σ × Nat) (o : Nat × ρ) : σ × Nat :=
  if o.1 < s.2 then s else (f s.1 o.2, o.1 + interval)

/-- The state depends only on the readings that are taken. -/
theorem foldl_offer (f : σ → ρ → σ) (s : σ) (due : Nat) (offers : List (Nat × ρ)) :
    offers.foldl (offer interval f) (s, due) =
      (((taken interval due offers).map (·.2)).foldl f s, deadline interval due offers) := by
  induction offers generalizing s due with
  | nil => rfl
  | cons o rest ih =>
    rw [List.foldl_cons, offer, taken, deadline]
    dsimp only
    split
    · exact ih s due
    · exact ih _ _

theorem taken_append (more : List (Nat × ρ)) :
    taken interval due (offers ++ more) =
      taken interval due offers ++ taken interval (deadline interval due offers) more := by
  induction offers generalizing due with
  | nil => rfl
  | cons o rest ih =>
    rw [List.cons_append, taken, taken, deadline]
    split
    · exact ih
    · rw [ih, List.cons_append]

theorem taken_sublist : (taken interval due offers).Sublist offers := by
  induction offers generalizing due with
  | nil => exact .slnil
  | cons o rest ih =>
    rw [taken]
    split
    · exact ih.cons o
    · exact ih.cons_cons o

/-- Nothing is taken before it is due. -/
theorem le_of_mem_taken {o : Nat × ρ} (h : o ∈ taken interval due offers) : due ≤ o.1 := by
  induction offers generalizing due with
  | nil => cases h
  | cons first rest ih =>
    rw [taken] at h
    split at h
    · exact ih h
    · rename_i hdue
      rcases List.mem_cons.mp h with rfl | h
      · exact Nat.le_of_not_lt hdue
      · have := ih h
        omega

/-- Two readings are at least an interval apart. -/
theorem taken_apart : (taken interval due offers).Pairwise fun a b => a.1 + interval ≤ b.1 := by
  induction offers generalizing due with
  | nil => exact .nil
  | cons o rest ih =>
    rw [taken]
    split
    · exact ih
    · exact .cons (fun b hb => le_of_mem_taken hb) ih

/-- The deadline is an interval behind the last reading that was taken. -/
theorem deadline_eq :
    deadline interval due offers = ((taken interval due offers).getLast?.map fun o => o.1 + interval).getD due := by
  induction offers generalizing due with
  | nil => rfl
  | cons o rest ih =>
    rw [deadline, taken]
    split
    · exact ih
    · rw [ih, List.getLast?_cons]
      cases (taken interval (o.1 + interval) rest).getLast? <;> rfl

/-- In a series of offers that begins when one is due, the last reading taken is younger than an interval at every
    offer. -/
theorem exists_fresh (hinterval : 0 < interval) {o : Nat × ρ} (hsorted : ∀ earlier ∈ offers, earlier.1 ≤ o.1)
    (hdue : due ≤ o.1) :
    ∃ last, (taken interval due (offers ++ [o])).getLast? = some last ∧ last ∈ offers ++ [o] ∧ last.1 ≤ o.1 ∧
      o.1 < last.1 + interval := by
  rw [taken_append, taken]
  split
  · rename_i hearly
    rw [taken, List.append_nil]
    rw [deadline_eq] at hearly
    cases hlast : (taken interval due offers).getLast? with
    | none =>
      rw [hlast, Option.map_none, Option.getD_none] at hearly
      omega
    | some last =>
      rw [hlast, Option.map_some, Option.getD_some] at hearly
      have hmem := taken_sublist.subset (List.mem_of_getLast? hlast)
      exact ⟨last, rfl, List.mem_append_left _ hmem, hsorted last hmem, hearly⟩
  · rw [taken, List.getLast?_concat]
    exact ⟨o, rfl, List.mem_append_right _ (List.mem_singleton_self o), Nat.le_refl _, by omega⟩

/-- Behind an offer the next reading is due within an interval. -/
theorem deadline_concat (hinterval : 0 < interval) {o : Nat × ρ} (hsorted : ∀ earlier ∈ offers, earlier.1 ≤ o.1)
    (hdue : due ≤ o.1) :
    o.1 < deadline interval due (offers ++ [o]) ∧ deadline interval due (offers ++ [o]) ≤ o.1 + interval := by
  obtain ⟨last, hlast, -, hle, hlt⟩ := exists_fresh hinterval hsorted hdue
  rw [deadline_eq, hlast, Option.map_some, Option.getD_some]
  exact ⟨hlt, Nat.add_le_add_right hle interval⟩

/-- Offers that come often enough are taken in the long run: where the gaps between them are bounded, each reading but the
    first costs an interval and a gap. -/
theorem le_length_taken {gap k : Nat} (hinterval : 0 < interval) {last : Nat × ρ}
    (hgaps : (offers ++ [last]).IsChain fun a b => b.1 ≤ a.1 + gap)
    (hfirst : ∀ o ∈ (offers ++ [last]).head?, o.1 ≤ due + gap) (hlast : due + gap + k * (interval + gap) ≤ last.1) :
    k + 1 ≤ (taken interval due (offers ++ [last])).length := by
  induction offers generalizing due k with
  | nil =>
    have hle : last.1 ≤ due + gap := hfirst last rfl
    have hk : k = 0 := by
      rcases Nat.eq_zero_or_pos k with hk | hk
      · exact hk
      · have := Nat.le_mul_of_pos_left (interval + gap) hk
        omega
    have htaken : taken interval due [last] = [last] := if_neg (by omega)
    rw [hk, List.nil_append, htaken]
    exact Nat.le_refl _
  | cons o rest ih =>
    have hnext : ∀ b ∈ (rest ++ [last]).head?, b.1 ≤ o.1 + gap := (List.isChain_cons.mp hgaps).1
    have hrest := (List.isChain_cons.mp hgaps).2
    have hle : o.1 ≤ due + gap := hfirst o rfl
    rw [List.cons_append, taken]
    split
    · rename_i hearly
      exact ih hrest (fun b hb => (hnext b hb).trans (by omega)) hlast
    · rw [List.length_cons]
      cases k with
      | zero => exact Nat.le_add_left _ _
      | succ k =>
        rw [Nat.succ_mul] at hlast
        exact Nat.succ_le_succ (ih hrest (fun b hb => (hnext b hb).trans (by omega)) (by omega))

end Refresh
