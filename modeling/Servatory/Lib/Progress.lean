import Mathlib.Logic.Relation

/-! What a system can still reach: some steps lead from a state to one with a property. The rules put such runs together,
    and find one by a variant that goes down. -/

namespace Progress
variable {σ : Type} {step : σ → σ → Prop}

/-- Some steps lead from a state to one with a property. -/
def Leads (step : σ → σ → Prop) (s : σ) (Q : σ → Prop) : Prop := ∃ t, Relation.ReflTransGen step s t ∧ Q t

namespace Leads
variable {P Q R : σ → Prop} {s t : σ}

theorem head (hs : step s t) (h : Leads step t Q) : Leads step s Q := by
  obtain ⟨u, hu, hq⟩ := h
  exact ⟨u, .head hs hu, hq⟩

theorem trans (h : Leads step s Q) (hQ : ∀ t, Q t → Leads step t R) : Leads step s R := by
  obtain ⟨t, ht, hq⟩ := h
  obtain ⟨u, hu, hr⟩ := hQ t hq
  exact ⟨u, ht.trans hu, hr⟩

theorem mono (h : Leads step s Q) (hQ : ∀ t, Q t → R t) : Leads step s R := by
  obtain ⟨t, ht, hq⟩ := h
  exact ⟨t, ht, hQ t hq⟩

end Leads
end Progress
