/-! When a computation that can fail succeeds. -/

namespace Except
variable {ε α β : Type}

theorem bind_eq_ok {x : Except ε α} {f : α → Except ε β} {b : β} : x >>= f = .ok b ↔ ∃ a, x = .ok a ∧ f a = .ok b := by
  cases x with
  | error e => exact ⟨by rintro ⟨⟩, by rintro ⟨a, ⟨⟩, -⟩⟩
  | ok a => exact ⟨fun h => ⟨a, rfl, h⟩, by rintro ⟨_, ⟨⟩, h⟩; exact h⟩

/-- The last of two steps succeeds when both do. -/
theorem ok_of_seq {x : Except ε α} {y : Except ε β} {b : β} (h : (x >>= fun _ => y) = .ok b) : y = .ok b := by
  obtain ⟨-, -, h⟩ := bind_eq_ok.mp h
  exact h

/-- The computation returns a value. -/
def Succeeds (x : Except ε α) : Prop := ∃ a, x = .ok a

@[simp] theorem succeeds_ok (a : α) : Succeeds (.ok a : Except ε α) := ⟨a, rfl⟩

@[simp] theorem succeeds_pure (a : α) : Succeeds (pure a : Except ε α) := ⟨a, rfl⟩

@[simp] theorem not_succeeds_error (e : ε) : ¬Succeeds (.error e : Except ε α) := by rintro ⟨_, ⟨⟩⟩

theorem succeeds_bind {x : Except ε α} {f : α → Except ε β} :
    Succeeds (x >>= f) ↔ ∃ a, x = .ok a ∧ Succeeds (f a) := by
  constructor
  · rintro ⟨b, h⟩
    obtain ⟨a, ha, hb⟩ := bind_eq_ok.mp h
    exact ⟨a, ha, b, hb⟩
  · rintro ⟨a, ha, b, hb⟩
    exact ⟨b, bind_eq_ok.mpr ⟨a, ha, hb⟩⟩

/-- What follows cannot fail, so only the first part can. -/
theorem succeeds_bind_of_forall {x : Except ε α} {f : α → Except ε β} (h : ∀ a, Succeeds (f a)) :
    Succeeds (x >>= f) ↔ Succeeds x := by
  rw [succeeds_bind]
  exact ⟨fun ⟨a, ha, _⟩ => ⟨a, ha⟩, fun ⟨a, ha⟩ => ⟨a, ha, h a⟩⟩

theorem succeeds_mapM {f : α → Except ε β} {l : List α} : Succeeds (l.mapM f) ↔ ∀ a ∈ l, Succeeds (f a) := by
  induction l with
  | nil => simp
  | cons a l ih =>
    rw [List.mapM_cons, succeeds_bind]
    simp only [succeeds_bind_of_forall fun _ => succeeds_pure _, ih, List.forall_mem_cons]
    exact ⟨fun ⟨b, hb, hl⟩ => ⟨⟨b, hb⟩, hl⟩, fun ⟨⟨b, hb⟩, hl⟩ => ⟨b, hb, hl⟩⟩

/-- A pure function describes what the steps return, and so what they return together. -/
theorem eq_map_of_mapM {f : α → Except ε β} {g : α → β} (hf : ∀ a b, f a = .ok b → b = g a) {l : List α} {r : List β}
    (h : l.mapM f = .ok r) : r = l.map g := by
  induction l generalizing r with
  | nil =>
    cases h
    rfl
  | cons a l ih =>
    rw [List.mapM_cons] at h
    obtain ⟨b, hb, h⟩ := bind_eq_ok.mp h
    obtain ⟨bs, hbs, h⟩ := bind_eq_ok.mp h
    cases h
    rw [hf a b hb, ih hbs, List.map_cons]

/-- When a check of all items succeeds, it succeeds for each. -/
theorem ok_of_forM {check : α → Except ε Unit} {l : List α} {u : Unit} (h : l.forM check = .ok u) :
    ∀ a ∈ l, check a = .ok () := by
  induction l with
  | nil => exact fun _ => nofun
  | cons a l ih =>
    obtain ⟨_, ha, hl⟩ := bind_eq_ok.mp h
    rw [List.forall_mem_cons]
    exact ⟨ha, ih hl⟩

end Except

/-- What a list of computations returns together, each returns for one item. -/
theorem Option.mem_of_mapM {α β : Type} {f : α → Option β} {l : List α} {r : List β} (h : l.mapM f = some r) :
    ∀ b ∈ r, ∃ a ∈ l, f a = some b := by
  induction l generalizing r with
  | nil =>
    obtain rfl : [] = r := Option.some.inj h
    simp
  | cons a l ih =>
    rw [List.mapM_cons] at h
    obtain ⟨b, hb, h⟩ := Option.bind_eq_some_iff.mp h
    obtain ⟨bs, hbs, h⟩ := Option.bind_eq_some_iff.mp h
    obtain rfl : b :: bs = r := Option.some.inj h
    intro x hx
    rcases List.mem_cons.mp hx with rfl | hx
    · exact ⟨a, List.mem_cons_self .., hb⟩
    · obtain ⟨y, hy, hxy⟩ := ih hbs x hx
      exact ⟨y, List.mem_cons_of_mem _ hy, hxy⟩

/-- Computations that return together return one by one. -/
theorem Option.exists_of_mapM {α β : Type} {f : α → Option β} {l : List α} {r : List β} (h : l.mapM f = some r) :
    ∀ a ∈ l, ∃ b, f a = some b := by
  induction l generalizing r with
  | nil => exact fun _ => nofun
  | cons a l ih =>
    rw [List.mapM_cons] at h
    obtain ⟨b, hb, h⟩ := Option.bind_eq_some_iff.mp h
    obtain ⟨bs, hbs, -⟩ := Option.bind_eq_some_iff.mp h
    exact List.forall_mem_cons.mpr ⟨⟨b, hb⟩, ih hbs⟩

/-- When every computation returns a value, they return the values together. -/
theorem Option.mapM_eq_some_map {α β : Type} {f : α → Option β} {g : α → β} {l : List α}
    (h : ∀ a ∈ l, f a = some (g a)) : l.mapM f = some (l.map g) := by
  induction l with
  | nil => rfl
  | cons a l ih =>
    rw [List.forall_mem_cons] at h
    rw [List.mapM_cons, h.1, ih h.2]
    rfl

/-- What some computations return together, computations that return at least as much return together. -/
theorem Option.mapM_mono {α β : Type} {f g : α → Option β} (hfg : ∀ a b, f a = some b → g a = some b) {l : List α}
    {r : List β} (h : l.mapM f = some r) : l.mapM g = some r := by
  induction l generalizing r with
  | nil => exact h
  | cons a l ih =>
    rw [List.mapM_cons] at h ⊢
    obtain ⟨b, hb, h⟩ := Option.bind_eq_some_iff.mp h
    obtain ⟨bs, hbs, h⟩ := Option.bind_eq_some_iff.mp h
    rw [hfg a b hb, ih hbs]
    exact h
