/-! Properties of a log that say of each entry what must have come before it. -/

namespace History
variable {α : Type}

/-- Every entry of a log is allowed behind the entries that precede it. -/
def Each (P : List α → α → Prop) (log : List α) : Prop := ∀ before x after, log = before ++ x :: after → P before x

variable {P : List α → α → Prop} {log : List α}

theorem each_nil : Each P [] := by
  intro before x after h
  cases before <;> cases h

theorem each_cons {x : α} : Each P (x :: log) ↔ P [] x ∧ Each (fun before => P (x :: before)) log := by
  constructor
  · intro h
    exact ⟨h [] x log rfl, fun before y after hlog => h (x :: before) y after (congrArg (x :: ·) hlog)⟩
  · rintro ⟨hx, hlog⟩ before y after heq
    cases before with
    | nil =>
      cases heq
      exact hx
    | cons z before =>
      cases heq
      exact hlog before y after rfl

theorem each_concat {x : α} : Each P (log ++ [x]) ↔ Each P log ∧ P log x := by
  constructor
  · intro h
    refine ⟨fun before y after hlog => h before y (after ++ [x]) ?_, h log x [] rfl⟩
    rw [hlog, List.append_assoc, List.cons_append]
  · rintro ⟨hlog, hx⟩ before y after heq
    rcases List.eq_nil_or_concat after with rfl | ⟨rest, z, rfl⟩
    · obtain ⟨rfl, hy⟩ := List.append_inj' heq rfl
      cases hy
      exact hx
    · rw [List.concat_eq_append, ← List.cons_append, ← List.append_assoc] at heq
      obtain ⟨rfl, -⟩ := List.append_inj' heq rfl
      exact hlog before y rest rfl

/-- What is allowed in a log is allowed in a part of it, behind what comes before the part. -/
theorem Each.middle {before middle after : List α} (h : Each P (before ++ middle ++ after)) :
    Each (fun earlier => P (before ++ earlier)) middle := by
  intro earlier x later heq
  refine h (before ++ earlier) x (later ++ after) ?_
  simp only [heq, List.append_assoc, List.cons_append]

/-- Entries that are allowed anywhere may be added. -/
theorem Each.append {more : List α} (h : Each P log) (hmore : ∀ x ∈ more, ∀ before, P before x) :
    Each P (log ++ more) := by
  induction more generalizing log with
  | nil => rwa [List.append_nil]
  | cons x rest ih =>
    rw [List.append_cons]
    refine ih (each_concat.mpr ⟨h, hmore x (List.mem_cons_self ..) log⟩) ?_
    exact fun y hy => hmore y (List.mem_cons_of_mem _ hy)

/-! ### Since -/

/-- Some entry of a log starts something, and no entry behind it stops it. -/
def Since (start stop : α → Prop) (log : List α) : Prop :=
  ∃ before x after, log = before ++ x :: after ∧ start x ∧ ∀ y ∈ after, ¬stop y

variable {start stop : α → Prop} {more : List α}

theorem Since.append (h : Since start stop log) (hmore : ∀ y ∈ more, ¬stop y) : Since start stop (log ++ more) := by
  obtain ⟨before, x, after, rfl, hx, hafter⟩ := h
  refine ⟨before, x, after ++ more, by rw [List.append_assoc, List.cons_append], hx, fun y hy => ?_⟩
  exact (List.mem_append.mp hy).elim (hafter y) (hmore y)

theorem Since.behind (h : Since start stop more) : Since start stop (log ++ more) := by
  obtain ⟨before, x, after, rfl, hx, hafter⟩ := h
  exact ⟨log ++ before, x, after, by rw [List.append_assoc], hx, hafter⟩

theorem Since.of_mem {x : α} (hmem : x ∈ log) (hx : start x) (hlog : ∀ y ∈ log, ¬stop y) : Since start stop log := by
  obtain ⟨before, after, rfl⟩ := List.mem_iff_append.mp hmem
  exact ⟨before, x, after, rfl, hx, fun y hy => hlog y (List.mem_append_right before (List.mem_cons_of_mem x hy))⟩

/-- The last entry starts it, or it goes on from the ones before. -/
theorem since_concat {x : α} :
    Since start stop (log ++ [x]) ↔ start x ∨ Since start stop log ∧ ¬stop x := by
  constructor
  · rintro ⟨before, y, after, heq, hy, hafter⟩
    rcases List.eq_nil_or_concat after with rfl | ⟨rest, z, rfl⟩
    · obtain ⟨-, hx⟩ := List.append_inj' heq rfl
      cases hx
      exact .inl hy
    · rw [List.concat_eq_append, ← List.cons_append, ← List.append_assoc] at heq
      obtain ⟨rfl, hx⟩ := List.append_inj' heq rfl
      cases hx
      rw [List.concat_eq_append] at hafter
      refine .inr ⟨⟨before, y, rest, rfl, hy, fun w hw => hafter w (List.mem_append_left _ hw)⟩, ?_⟩
      exact hafter x (List.mem_append_right rest (List.mem_cons_self ..))
  · rintro (hx | ⟨hlog, hx⟩)
    · exact ⟨log, x, [], rfl, hx, by simp⟩
    · exact hlog.append fun y hy => List.mem_singleton.mp hy ▸ hx

end History
