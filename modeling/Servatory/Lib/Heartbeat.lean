/-! Heartbeats. A sender sends each beat by a deadline that is at most a period away, and the receiver reads a beat at
    most a latency after it was sent. Then the last beat that was read is never older than both together, and never
    older than a period when nothing is left to read. -/

/-- `unread` is when the first beat was sent that has not been read, and `heard` when the last beat was read. -/
structure Heartbeat where
  now : Nat
  deadline : Nat
  unread : Option Nat
  heard : Option Nat

namespace Heartbeat

/-- Time passes until the deadline at most, and no beat stays unread for longer than the latency. -/
inductive Step (period latency : Nat) : Heartbeat → Heartbeat → Prop
  | wait {b : Heartbeat} {now : Nat} (hnow : b.now ≤ now) (hdeadline : now ≤ b.deadline)
      (hunread : ∀ sent, b.unread = some sent → now ≤ sent + latency) : Step period latency b { b with now }
  | beat {b : Heartbeat} :
      Step period latency b { b with deadline := b.now + period, unread := b.unread.or (some b.now) }
  | read {b : Heartbeat} : Step period latency b { b with unread := none, heard := some b.now }

/-- What every step keeps from the first beat on. -/
structure Fresh (period latency : Nat) (b : Heartbeat) : Prop where
  due : b.now ≤ b.deadline
  deadline : b.deadline ≤ b.now + period
  unread : ∀ sent, b.unread = some sent →
    sent ≤ b.now ∧ b.now ≤ sent + latency ∧ ∀ heard, b.heard = some heard → sent ≤ heard + period
  heard : ∀ heard, b.heard = some heard → heard ≤ b.now ∧ (b.unread = none → b.deadline ≤ heard + period)

namespace Fresh
variable {period latency : Nat} {b b' : Heartbeat}

/-- The first beat. -/
theorem first (hunread : b.unread = some b.now) (hheard : b.heard = none) (hdeadline : b.deadline = b.now + period) :
    Fresh period latency b where
  due := by omega
  deadline := by omega
  unread sent hsent := by
    obtain rfl : b.now = sent := Option.some.inj (hunread.symm.trans hsent)
    refine ⟨Nat.le_refl _, by omega, fun heard h => ?_⟩
    rw [hheard] at h
    cases h
  heard heard h := by
    rw [hheard] at h
    cases h

theorem wait (h : Fresh period latency b) {now : Nat} (hnow : b.now ≤ now) (hdeadline : now ≤ b.deadline)
    (hunread : ∀ sent, b.unread = some sent → now ≤ sent + latency) : Fresh period latency { b with now } where
  due := hdeadline
  deadline := by
    have := h.deadline
    show b.deadline ≤ now + period
    omega
  unread sent hsent := by
    obtain ⟨hsent', -, hheard⟩ := h.unread sent hsent
    exact ⟨Nat.le_trans hsent' hnow, hunread sent hsent, hheard⟩
  heard heard hheard := by
    obtain ⟨hle, hall⟩ := h.heard heard hheard
    exact ⟨Nat.le_trans hle hnow, hall⟩

theorem beat (h : Fresh period latency b) :
    Fresh period latency { b with deadline := b.now + period, unread := b.unread.or (some b.now) } where
  due := Nat.le_add_right _ _
  deadline := Nat.le_refl _
  unread sent hsent := by
    cases hu : b.unread with
    | some first =>
      simp only [hu, Option.some_or, Option.some.injEq] at hsent
      subst hsent
      exact h.unread first hu
    | none =>
      simp only [hu, Option.none_or, Option.some.injEq] at hsent
      subst hsent
      refine ⟨Nat.le_refl _, Nat.le_add_right _ _, fun heard hheard => ?_⟩
      exact Nat.le_trans h.due ((h.heard heard hheard).2 hu)
  heard heard hheard := by
    refine ⟨(h.heard heard hheard).1, fun hnone => ?_⟩
    cases hu : b.unread <;> simp [hu] at hnone

theorem read (h : Fresh period latency b) : Fresh period latency { b with unread := none, heard := some b.now } where
  due := h.due
  deadline := h.deadline
  unread sent hsent := by cases hsent
  heard heard hheard := by
    obtain rfl : b.now = heard := Option.some.inj hheard
    exact ⟨Nat.le_refl _, fun _ => h.deadline⟩

theorem step (h : Fresh period latency b) (hs : Step period latency b b') : Fresh period latency b' := by
  cases hs with
  | wait hnow hdeadline hunread => exact h.wait hnow hdeadline hunread
  | beat => exact h.beat
  | read => exact h.read

/-- The last beat that was read is at most a period and a latency old. -/
theorem age_le (h : Fresh period latency b) {heard : Nat} (hheard : b.heard = some heard) :
    b.now ≤ heard + period + latency := by
  obtain ⟨-, hdeadline⟩ := h.heard heard hheard
  cases hu : b.unread with
  | none =>
    have := hdeadline hu
    have := h.due
    omega
  | some sent =>
    obtain ⟨-, hsent, hperiod⟩ := h.unread sent hu
    have := hperiod heard hheard
    omega

/-- It is at most a period old when no beat is left to read. -/
theorem age_le_of_read (h : Fresh period latency b) {heard : Nat} (hheard : b.heard = some heard)
    (hu : b.unread = none) : b.now ≤ heard + period :=
  Nat.le_trans h.due ((h.heard heard hheard).2 hu)

end Fresh
end Heartbeat
