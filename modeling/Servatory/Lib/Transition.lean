/-! Labelled transition systems: the states reached from the initial ones, and the rule that a property
    which holds initially and is kept by every step holds in all of them. -/

namespace Transition
variable {σ ι : Type}

/-- The states that steps lead to from an initial state. -/
inductive Reachable (init : σ → Prop) (step : σ → ι → σ → Prop) : σ → Prop
  | init {s : σ} (h : init s) : Reachable init step s
  | step {s t : σ} {a : ι} (hr : Reachable init step s) (h : step s a t) : Reachable init step t

namespace Reachable
variable {init : σ → Prop} {step : σ → ι → σ → Prop}

/-- A property of the initial states that every step from a reachable state keeps. -/
theorem invariant {P : σ → Prop} (h0 : ∀ s, init s → P s)
    (hstep : ∀ s a t, Reachable init step s → P s → step s a t → P t) {s : σ} (hr : Reachable init step s) : P s := by
  induction hr with
  | init h => exact h0 _ h
  | step hr h ih => exact hstep _ _ _ hr ih h

/-- A system with more initial states and more steps reaches more states. -/
theorem mono {init' : σ → Prop} {step' : σ → ι → σ → Prop} (h0 : ∀ s, init s → init' s)
    (hstep : ∀ s a t, step s a t → step' s a t) {s : σ} (hr : Reachable init step s) : Reachable init' step' s := by
  induction hr with
  | init h => exact .init (h0 _ h)
  | step _ h ih => exact .step ih (hstep _ _ _ h)

end Reachable

/-! ### Actions with guards -/

section
variable (allowed : σ → ι → Prop) (next : σ → ι → σ)

/-- The steps of a system whose actions lead to one state each, where they are allowed. -/
def Guarded (s : σ) (a : ι) (t : σ) : Prop := allowed s a ∧ t = next s a

/-- Every action of a list is allowed where it is taken. -/
def Runs : σ → List ι → Prop
  | _, [] => True
  | s, a :: rest => allowed s a ∧ Runs (next s a) rest

instance decidableRuns [∀ s a, Decidable (allowed s a)] : (s : σ) → (as : List ι) → Decidable (Runs allowed next s as)
  | _, [] => .isTrue trivial
  | s, a :: rest =>
    have := decidableRuns (next s a) rest
    inferInstanceAs (Decidable (_ ∧ _))

variable {allowed next}

theorem Reachable.run {init : σ → Prop} {s : σ} (hr : Reachable init (Guarded allowed next) s) (as : List ι)
    (h : Runs allowed next s as) : Reachable init (Guarded allowed next) (as.foldl next s) := by
  induction as generalizing s with
  | nil => exact hr
  | cons a rest ih => exact ih (.step hr ⟨h.1, rfl⟩) h.2

theorem runs_append {s : σ} {as bs : List ι} :
    Runs allowed next s (as ++ bs) ↔ Runs allowed next s as ∧ Runs allowed next (as.foldl next s) bs := by
  induction as generalizing s with
  | nil => exact ⟨fun h => ⟨trivial, h⟩, fun h => h.2⟩
  | cons a rest ih => exact (and_congr_right fun _ => ih).trans and_assoc.symm

/-- A property of the first state that every action of a run keeps. -/
theorem Runs.invariant {P : σ → Prop} (hstep : ∀ s a, P s → allowed s a → P (next s a)) {s : σ} {as : List ι}
    (h : Runs allowed next s as) (hs : P s) : P (as.foldl next s) := by
  induction as generalizing s with
  | nil => exact hs
  | cons a rest ih => exact ih h.2 (hstep s a hs h.1)

end

/-! ### Systems that stand for others -/

section
variable {τ κ : Type} (next : σ → ι → σ) (commits : σ → ι → List κ)

/-- What a run is in another system, in which each action is some actions or none. -/
def transcript : σ → List ι → List κ
  | _, [] => []
  | s, a :: rest => commits s a ++ transcript (next s a) rest

theorem transcript_append {s : σ} {as bs : List ι} :
    transcript next commits s (as ++ bs) =
      transcript next commits s as ++ transcript next commits (as.foldl next s) bs := by
  induction as generalizing s with
  | nil => rfl
  | cons a rest ih => rw [List.cons_append, transcript, transcript, ih, List.append_assoc, List.foldl_cons]

variable {next commits} {allowed : σ → ι → Prop} {allowed' : τ → κ → Prop} {next' : τ → κ → τ} {R : σ → τ → Prop}

/-- Where each allowed action is allowed in the other system and leads to states that correspond, whole runs do. -/
theorem Runs.transcript
    (hstep : ∀ s t a, R s t → allowed s a →
      Runs allowed' next' t (commits s a) ∧ R (next s a) ((commits s a).foldl next' t))
    {s : σ} {t : τ} {as : List ι} (h : Runs allowed next s as) (hR : R s t) :
    Runs allowed' next' t (Transition.transcript next commits s as) ∧
      R (as.foldl next s) ((Transition.transcript next commits s as).foldl next' t) := by
  induction as generalizing s t with
  | nil => exact ⟨trivial, hR⟩
  | cons a rest ih =>
    obtain ⟨hfirst, hnext⟩ := hstep s t a hR h.1
    obtain ⟨hrest, hlast⟩ := ih h.2 hnext
    rw [Transition.transcript, List.foldl_append, List.foldl_cons]
    exact ⟨runs_append.mpr ⟨hfirst, hrest⟩, hlast⟩

end
end Transition
