import Mathlib.Logic.Function.Basic

/-! A digest takes the symbols of a text into a state, one after another. Where no step loses the state or the symbol, a
    text with one wrong symbol has another digest. -/

namespace Digest
variable {σ α : Type} {step : σ → α → σ} {text : List α} {i : Nat} {a : α}

/-- A step loses neither the state nor the symbol: when one of them is known, its result tells the other. -/
structure Lossless (step : σ → α → σ) : Prop where
  state (a : α) : Function.Injective fun s => step s a
  symbol (s : σ) : Function.Injective (step s)

/-- States that differ still do behind a text. -/
theorem Lossless.foldl_injective (h : Lossless step) (text : List α) : Function.Injective fun s => text.foldl step s := by
  induction text with
  | nil => exact Function.injective_id
  | cons b text ih => exact ih.comp (h.state b)

/-- One wrong symbol changes the digest. -/
theorem Lossless.foldl_set_ne (h : Lossless step) (hi : i < text.length) (ha : text[i]? ≠ some a) (s : σ) :
    (text.set i a).foldl step s ≠ text.foldl step s := by
  induction text generalizing i s with
  | nil => cases hi
  | cons b text ih =>
    cases i with
    | zero =>
      rw [List.set_cons_zero, List.foldl_cons, List.foldl_cons]
      intro heq
      have hsymbol : a = b := h.symbol s (h.foldl_injective text heq)
      exact ha (congrArg some hsymbol.symm)
    | succ i =>
      rw [List.set_cons_succ, List.foldl_cons, List.foldl_cons]
      exact ih (Nat.lt_of_succ_lt_succ hi) ha (step s b)

end Digest
