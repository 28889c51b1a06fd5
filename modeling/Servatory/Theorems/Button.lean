import Servatory.Firmware.Button
import Mathlib.Data.List.Infix

/-! The button over any sequence of samples: what a press yields, and what was sampled before it asks for a shutdown. -/

namespace Servatory.Button
variable {b : Button} {x : Sample} {samples : List Sample}

/-! ### What a sample can do -/

/-- The sample differs from the one before it, and is only noted. -/
def noted (b : Button) (x : Sample) : Button := { b with rawPressed := x.pressed, rawChangedAt := x.now }

/-- The press has become stable. -/
def settled (b : Button) (x : Sample) : Button :=
  { b with stablePressed := true, pressedAt := some x.now, longPressSent := false }

/-- The release has become stable. -/
def released (b : Button) : Button := { b with stablePressed := false, pressedAt := none }

/-- Everything a sample can do. -/
inductive Does (b : Button) (x : Sample) : Button × Option ButtonAction → Prop
  | note (h : x.pressed ≠ b.rawPressed) : Does b x (b.noted x, none)
  | press (hpressed : x.pressed = true) (hraw : b.rawPressed = true) (hstable : b.stablePressed = false)
      (htime : debounce ≤ x.now - b.rawChangedAt) (hhold : x.longPress ≠ 0) : Does b x (b.settled x, none)
  | pressAndFire (hpressed : x.pressed = true) (hraw : b.rawPressed = true) (hstable : b.stablePressed = false)
      (htime : debounce ≤ x.now - b.rawChangedAt) (hhold : x.longPress = 0) :
      Does b x ({ b.settled x with longPressSent := true }, some .shutdownRequested)
  | release (hpressed : x.pressed = false) (hraw : b.rawPressed = false) (hstable : b.stablePressed = true)
      (htime : debounce ≤ x.now - b.rawChangedAt) :
      Does b x (b.released, if b.longPressSent then none else some .nextScreen)
  | fire (hpressed : x.pressed = b.rawPressed) (hstable : b.stablePressed = true) (hsent : b.longPressSent = false)
      (hbounce : b.rawPressed = true ∨ x.now - b.rawChangedAt < debounce) {started : Nat}
      (hstarted : b.pressedAt = some started) (htime : x.longPress ≤ x.now - started) :
      Does b x ({ b with longPressSent := true }, some .shutdownRequested)
  | stay (hpressed : x.pressed = b.rawPressed)
      (hbounce : b.stablePressed = b.rawPressed ∨ x.now - b.rawChangedAt < debounce) : Does b x (b, none)

theorem does_sample (b : Button) (x : Sample) : Does b x (b.sample x) := by
  obtain ⟨raw, changedAt, stable, pressedAt, sent⟩ := b
  obtain ⟨pressed, now, longPress⟩ := x
  unfold sample update
  by_cases hnote : pressed ≠ raw
  · rw [if_pos hnote]
    exact .note hnote
  · obtain rfl : pressed = raw := not_not.mp hnote
    rw [if_neg hnote]
    by_cases hsettle : stable ≠ pressed ∧ now - changedAt ≥ debounce
    · rw [settle, if_pos hsettle]
      obtain ⟨hne, htime⟩ := hsettle
      cases pressed with
      | true =>
        obtain rfl : stable = false := Bool.eq_false_iff.mpr hne
        by_cases hhold : longPress = 0
        · subst hhold
          exact .pressAndFire rfl rfl rfl htime rfl
        · have hnot : ¬now - now ≥ longPress := by omega
          simp only [↓reduceIte, Option.any_some, hnot, decide_false, Bool.and_false, Bool.false_eq_true]
          exact .press rfl rfl rfl htime hhold
      | false =>
        obtain rfl : stable = true := Bool.not_eq_false _ ▸ hne
        have h := @Does.release ⟨false, changedAt, true, pressedAt, sent⟩ ⟨false, now, longPress⟩ rfl rfl rfl htime
        cases sent <;> exact h
    · rw [settle, if_neg hsettle]
      have hbounce : stable = pressed ∨ now - changedAt < debounce := by
        rcases not_and_or.mp hsettle with h | h
        · exact .inl (not_not.mp h)
        · exact .inr (Nat.not_le.mp h)
      by_cases hfire : stable && !sent && pressedAt.any (fun started => now - started ≥ longPress)
      · simp only [hfire, ↓reduceIte]
        simp only [Bool.and_eq_true, Bool.not_eq_true', Option.any_eq_true, decide_eq_true_eq] at hfire
        obtain ⟨⟨rfl, rfl⟩, started, rfl, htime⟩ := hfire
        exact .fire rfl rfl rfl (hbounce.imp_left Eq.symm) rfl htime
      · simp only [hfire, ↓reduceIte, Bool.false_eq_true]
        exact .stay rfl hbounce

/-! ### What a press yields -/

theorem after_append (b : Button) (l l' : List Sample) : b.after (l ++ l') = (b.after l).after l' := List.foldl_append

theorem after_concat (b : Button) (l : List Sample) (x : Sample) : b.after (l ++ [x]) = ((b.after l).sample x).1 :=
  List.foldl_concat ..

theorem actions_append (b : Button) (l l' : List Sample) :
    b.actions (l ++ l') = b.actions l ++ (b.after l).actions l' := by
  induction l generalizing b with
  | nil => rfl
  | cons x l ih => rw [List.cons_append, actions, actions, ih, List.append_assoc]; rfl

theorem actions_concat (b : Button) (l : List Sample) (x : Sample) :
    b.actions (l ++ [x]) = b.actions l ++ ((b.after l).sample x).2.toList := by
  rw [actions_append, actions, actions, List.append_nil]

/-- A press and how long it has lasted: the first of the samples makes the stable state pressed, and so it stays. -/
structure Press (b : Button) (samples : List Sample) : Prop where
  starts : b.stablePressed = false
  lasts : ∀ l, l <+: samples → l ≠ [] → (b.after l).stablePressed = true

theorem Press.of_start {l : List Sample} (h : b.Press samples) (hl : l <+: samples) : b.Press l :=
  ⟨h.starts, fun l' hl' => h.lasts l' (hl'.trans hl)⟩

/-- What a press has yielded so far, and whether the button remembers it. -/
theorem Press.yields (h : b.Press samples) (hne : samples ≠ []) :
    b.actions samples = if (b.after samples).longPressSent then [.shutdownRequested] else [] := by
  induction samples using List.reverseRecOn with
  | nil => exact absurd rfl hne
  | append_singleton l x ih =>
    have hstable := h.lasts _ (List.prefix_refl _) hne
    rw [after_concat] at hstable
    rw [actions_concat, after_concat]
    have hdoes := does_sample (b.after l) x
    by_cases hnil : l = []
    · subst hnil
      have hstarts : (b.after []).stablePressed = false := h.starts
      generalize (b.after []).sample x = out at hdoes hstable ⊢
      cases hdoes with
      | note | stay => cases hstarts.symm.trans hstable
      | press | pressAndFire => rfl
      | release _ _ hbefore => cases hstarts.symm.trans hbefore
      | fire _ hbefore => cases hstarts.symm.trans hbefore
    · rw [ih (h.of_start (List.prefix_append l [x])) hnil]
      have hbefore := h.lasts l (List.prefix_append l [x]) hnil
      generalize (b.after l).sample x = out at hdoes hstable ⊢
      cases hdoes with
      | note | stay => exact List.append_nil _
      | press _ _ hreleased => cases hreleased.symm.trans hbefore
      | pressAndFire _ _ hreleased => cases hreleased.symm.trans hbefore
      | release => cases hstable
      | fire _ _ hsent => rw [if_neg (by rw [hsent]; exact Bool.false_ne_true)]; rfl

/-- The release of a press yields the screen change, unless the press has asked for a shutdown. -/
theorem Press.released (h : b.Press samples) (hne : samples ≠ [])
    (hreleased : ((b.after samples).sample x).1.stablePressed = false) :
    ((b.after samples).sample x).2 = if (b.after samples).longPressSent then none else some .nextScreen := by
  have hbefore := h.lasts _ (List.prefix_refl _) hne
  have hdoes := does_sample (b.after samples) x
  generalize (b.after samples).sample x = out at hdoes hreleased ⊢
  cases hdoes with
  | note | stay => cases hreleased.symm.trans hbefore
  | press | pressAndFire => cases hreleased
  | release => rfl
  | fire _ hstable => cases hreleased.symm.trans hstable

/-- An action is part of a press: a shutdown is asked for while it lasts, and the screen changes at its release. -/
theorem action_in_press {action : ButtonAction} (h : (b.sample x).2 = some action) :
    action = .shutdownRequested ∧ (b.sample x).1.stablePressed = true ∨
      action = .nextScreen ∧ b.stablePressed = true ∧ (b.sample x).1.stablePressed = false := by
  have hdoes := does_sample b x
  generalize b.sample x = out at hdoes h ⊢
  cases hdoes with
  | note | press | stay => cases h
  | pressAndFire =>
    cases h
    exact .inl ⟨rfl, rfl⟩
  | release _ _ hstable =>
    refine .inr ⟨?_, hstable, rfl⟩
    by_cases hsent : b.longPressSent = true
    · simp [hsent] at h
    · simpa [hsent] using h.symm
  | fire _ hstable =>
    cases h
    exact .inl ⟨rfl, hstable⟩

/-! ### What was sampled before -/

/-- The sample starts a run of released ones that lasts to the end. -/
def Trailing (samples : List Sample) (s : Sample) : Prop :=
  ∃ l more, samples = l ++ s :: more ∧ ∀ y ∈ s :: more, y.pressed = false

/-- No run of consecutive released samples spans the debounce time. -/
def NeverReleased (samples : List Sample) : Prop :=
  ∀ l t, l ++ [t] <+: samples → ∀ s, Trailing (l ++ [t]) s → t.now < s.now + debounce

theorem Trailing.last {s : Sample} (h : Trailing samples s) : ∃ y, samples.getLast? = some y ∧ y.pressed = false := by
  obtain ⟨l, more, rfl, hall⟩ := h
  refine ⟨(s :: more).getLast (List.cons_ne_nil _ _), ?_, hall _ (List.getLast_mem _)⟩
  rw [List.getLast?_append_of_ne_nil _ (List.cons_ne_nil _ _), List.getLast?_eq_getLast_of_ne_nil]

theorem trailing_concat {s : Sample} (h : Trailing (samples ++ [x]) s) :
    x.pressed = false ∧ (s = x ∨ Trailing samples s) := by
  obtain ⟨l, more, heq, hall⟩ := h
  rcases List.eq_nil_or_concat more with rfl | ⟨rest, y, rfl⟩
  · obtain ⟨-, hx⟩ := List.append_inj' heq rfl
    cases hx
    exact ⟨hall _ (List.mem_cons_self ..), .inl rfl⟩
  · rw [List.concat_eq_append, ← List.cons_append, ← List.append_assoc] at heq
    obtain ⟨rfl, hx⟩ := List.append_inj' heq rfl
    cases hx
    rw [List.concat_eq_append, ← List.cons_append] at hall
    refine ⟨hall _ (List.mem_append_right _ (List.mem_singleton_self _)), .inr ⟨l, rest, rfl, fun y hy => ?_⟩⟩
    exact hall y (List.mem_append_left _ hy)

theorem NeverReleased.concat (h : NeverReleased samples)
    (hx : ∀ s, Trailing (samples ++ [x]) s → x.now < s.now + debounce) : NeverReleased (samples ++ [x]) := by
  intro l t hstart s hs
  rcases List.prefix_concat_iff.mp hstart with heq | hstart
  · obtain ⟨rfl, ht⟩ := List.append_inj' heq rfl
    cases ht
    exact hx s hs
  · exact h l t hstart s hs

theorem neverReleased_of_pressed (h : ∀ y ∈ samples, y.pressed = true) : NeverReleased samples := by
  intro l t hstart s hs
  have ht := h t (hstart.subset (List.mem_append_right _ (List.mem_singleton_self _)))
  obtain ⟨y, hy, hreleased⟩ := hs.last
  rw [List.getLast?_concat] at hy
  obtain rfl := Option.some.inj hy
  cases ht.symm.trans hreleased

/-- The samples before a press, the pressed ones until it became stable, and those since. -/
structure Held (start : Nat) (before : List Sample) (first : Sample) (more press : List Sample) : Prop where
  fresh : ∀ y, before.getLast? = some y → y.pressed = false
  pressed : ∀ y ∈ first :: more, y.pressed = true
  press : ((new start).after (before ++ first :: more)).Press press

/-- The samples so far end in a press that the button knows of. -/
def Holding (start : Nat) (samples : List Sample) (b : Button) : Prop :=
  ∃ before first more press started, samples = before ++ (first :: more ++ press) ∧
    press ≠ [] ∧ Held start before first more press ∧ b.pressedAt = some started ∧
    (∃ y ∈ samples, started = y.now) ∧ first.now + debounce ≤ started ∧ NeverReleased (first :: more ++ press) ∧
    ∀ s, Trailing (first :: more ++ press) s → b.rawChangedAt ≤ s.now

/-- What the state of the button says of the samples so far. -/
structure Tracked (start : Nat) (samples : List Sample) (b : Button) : Prop where
  last : ∀ y, samples.getLast? = some y → y.pressed = b.rawPressed
  changed : b.rawChangedAt = start ∨ ∃ y ∈ samples, b.rawChangedAt = y.now
  running : b.rawPressed = true → ∃ before first more, samples = before ++ first :: more ∧
    first.now = b.rawChangedAt ∧ (∀ y ∈ first :: more, y.pressed = true) ∧
    ∀ y, before.getLast? = some y → y.pressed = false
  held : b.stablePressed = true → Holding start samples b

theorem tracked_new (start : Nat) : Tracked start [] (new start) :=
  ⟨by rintro y ⟨⟩, .inl rfl, by rintro ⟨⟩, by rintro ⟨⟩⟩

section Step
variable {start : Nat}

theorem Tracked.changed_le (h : Tracked start samples b) (hstart : start ≤ x.now) (hle : ∀ y ∈ samples, y.now ≤ x.now) :
    b.rawChangedAt ≤ x.now := by
  rcases h.changed with heq | ⟨y, hy, heq⟩
  · rwa [heq]
  · rw [heq]
    exact hle y hy

/-- A sample that agrees with the one before it goes on with the run. -/
theorem Tracked.run_concat (h : Tracked start samples b) (hraw : b.rawPressed = true) (hx : x.pressed = true) :
    ∃ before first more, samples ++ [x] = before ++ first :: more ∧ first.now = b.rawChangedAt ∧
      (∀ y ∈ first :: more, y.pressed = true) ∧ ∀ y, before.getLast? = some y → y.pressed = false := by
  obtain ⟨before, first, more, rfl, hfirst, hall, hfresh⟩ := h.running hraw
  refine ⟨before, first, more ++ [x], by rw [List.append_assoc, List.cons_append], hfirst, ?_, hfresh⟩
  intro y hy
  rw [← List.cons_append, List.mem_append, List.mem_singleton] at hy
  rcases hy with hy | rfl
  · exact hall y hy
  · exact hx

/-- A press goes on while the stable state stays pressed. -/
theorem Tracked.held_concat {b' : Button} (h : Tracked start samples b) (hb : b.stablePressed = true)
    (hb' : b' = (new start).after (samples ++ [x])) (hstable : b'.stablePressed = true)
    (hpressedAt : b'.pressedAt = b.pressedAt)
    (hrun : ∀ l s, (∀ s, Trailing l s → b.rawChangedAt ≤ s.now) → (∀ y, l.getLast? = some y → y.pressed = b.rawPressed) →
      Trailing (l ++ [x]) s → x.now < s.now + debounce ∧ b'.rawChangedAt ≤ s.now) :
    Holding start (samples ++ [x]) b' := by
  obtain ⟨before, first, more, press, started, rfl, hne, hheld, hstarted, ⟨y, hy, htime⟩, hearly, hnever, htrailing⟩ :=
    h.held hb
  have hlast : ∀ y, (first :: more ++ press).getLast? = some y → y.pressed = b.rawPressed := by
    intro y hy
    refine h.last y ?_
    rw [List.getLast?_append_of_ne_nil _ (by simp)]
    exact hy
  have hstep := hrun (first :: more ++ press)
  refine ⟨before, first, more, press ++ [x], started, by simp [List.append_assoc], by simp, ⟨hheld.fresh, hheld.pressed, ?_⟩,
    hpressedAt.trans hstarted, ⟨y, List.mem_append_left _ hy, htime⟩, hearly, ?_, ?_⟩
  · refine ⟨hheld.press.starts, fun l hl hl0 => ?_⟩
    rcases List.prefix_concat_iff.mp hl with rfl | hl
    · rw [← after_append]
      rw [hb'] at hstable
      simpa [List.append_assoc] using hstable
    · exact hheld.press.lasts l hl hl0
  · rw [← List.append_assoc]
    exact hnever.concat fun s hs => (hstep s htrailing hlast hs).1
  · intro s hs
    rw [← List.append_assoc] at hs
    exact (hstep s htrailing hlast hs).2

/-- A press begins with the run of pressed samples that has lasted for the debounce time. -/
theorem Tracked.held_press {b' : Button} (h : Tracked start samples b) (hb : b = (new start).after samples)
    (hb' : b' = (new start).after (samples ++ [x])) (hx : x.pressed = true) (hraw : b.rawPressed = true)
    (hreleased : b.stablePressed = false) (htime : debounce ≤ x.now - b.rawChangedAt) (hstable : b'.stablePressed = true)
    (hpressedAt : b'.pressedAt = some x.now) :
    Holding start (samples ++ [x]) b' := by
  obtain ⟨before, first, more, rfl, hfirst, hall, hfresh⟩ := h.running hraw
  have hpressed : ∀ y ∈ first :: more ++ [x], y.pressed = true := by
    intro y hy
    rcases List.mem_append.mp hy with hy | hy
    · exact hall y hy
    · obtain rfl := List.mem_singleton.mp hy
      exact hx
  refine ⟨before, first, more, [x], x.now, List.append_assoc .., List.cons_ne_nil _ _, ⟨hfresh, hall, ?_, ?_⟩, hpressedAt,
    ⟨x, List.mem_append_right _ (List.mem_singleton_self x), rfl⟩, ?_, neverReleased_of_pressed hpressed, ?_⟩
  · rw [← hb]
    exact hreleased
  · intro l hl hne
    obtain rfl : l = [x] := by
      rcases List.prefix_cons_iff.mp hl with rfl | ⟨t, rfl, ht⟩
      · exact absurd rfl hne
      · rw [List.prefix_nil.mp ht]
    rw [← after_append, ← hb']
    exact hstable
  · simp only [debounce] at htime ⊢
    omega
  · intro s hs
    obtain ⟨y, hy, hreleased⟩ := hs.last
    cases (hpressed y (List.mem_of_getLast? hy)).symm.trans hreleased

theorem Tracked.step (h : Tracked start samples ((new start).after samples)) (hstart : start ≤ x.now)
    (hle : ∀ y ∈ samples, y.now ≤ x.now) : Tracked start (samples ++ [x]) ((new start).after (samples ++ [x])) := by
  have hafter := after_concat (new start) samples x
  have hchanged := h.changed_le hstart hle
  have hdoes := does_sample ((new start).after samples) x
  have hmem : x ∈ samples ++ [x] := List.mem_append_right _ (List.mem_singleton_self x)
  have hlast : ∀ y, (samples ++ [x]).getLast? = some y → y = x := by
    intro y hy
    rw [List.getLast?_concat] at hy
    exact (Option.some.inj hy).symm
  generalize hb : (new start).after samples = b at h hafter hchanged hdoes
  generalize hout : b.sample x = out at hafter hdoes
  have hkept : b.rawChangedAt = start ∨ ∃ y ∈ samples ++ [x], b.rawChangedAt = y.now :=
    h.changed.imp_right fun ⟨y, hy, heq⟩ => ⟨y, List.mem_append_left _ hy, heq⟩
  -- While the raw state is unchanged, a run of released samples began with the last change.
  have hsame : x.pressed = b.rawPressed → (b.rawPressed = true ∨ x.now - b.rawChangedAt < debounce) →
      ∀ l s, (∀ s, Trailing l s → b.rawChangedAt ≤ s.now) → (∀ y, l.getLast? = some y → y.pressed = b.rawPressed) →
        Trailing (l ++ [x]) s → x.now < s.now + debounce ∧ b.rawChangedAt ≤ s.now := by
    intro hx hbounce l s htrailing _ hs
    obtain ⟨hreleased, hs⟩ := trailing_concat hs
    have hshort := hbounce.resolve_left (by rw [← hx, hreleased]; exact Bool.false_ne_true)
    rcases hs with rfl | hs
    · exact ⟨by simp only [debounce]; omega, hchanged⟩
    · have := htrailing s hs
      exact ⟨by omega, this⟩
  cases hdoes with
  | note hne =>
    refine hafter ▸ ⟨fun y hy => by rw [hlast y hy]; rfl, .inr ⟨x, hmem, rfl⟩, ?_, ?_⟩
    · intro (hpressed : x.pressed = true)
      refine ⟨samples, x, [], rfl, rfl, by simpa using hpressed, fun y hy => ?_⟩
      rw [h.last y hy]
      exact Bool.eq_false_iff.mpr fun hraw => hne (hpressed.trans hraw.symm)
    · intro hstable
      refine h.held_concat hstable hafter.symm hstable rfl fun l s _ hl hs => ?_
      obtain ⟨hreleased, rfl | hs⟩ := trailing_concat hs
      · exact ⟨Nat.lt_add_of_pos_right (by decide), Nat.le_refl _⟩
      · obtain ⟨y, hy, hbefore⟩ := hs.last
        exact absurd (hreleased.trans (hbefore.symm.trans (hl y hy))) hne
  | press hx hraw hstable htime =>
    exact hafter ▸ ⟨fun y hy => by rw [hlast y hy]; exact hx.trans hraw.symm, hkept, fun _ => h.run_concat hraw hx,
      fun _ => h.held_press hb.symm hafter.symm hx hraw hstable htime rfl rfl⟩
  | pressAndFire hx hraw hstable htime =>
    exact hafter ▸ ⟨fun y hy => by rw [hlast y hy]; exact hx.trans hraw.symm, hkept, fun _ => h.run_concat hraw hx,
      fun _ => h.held_press hb.symm hafter.symm hx hraw hstable htime rfl rfl⟩
  | release hx hraw =>
    refine hafter ▸ ⟨fun y hy => by rw [hlast y hy]; exact hx.trans hraw.symm, hkept, fun hpressed => ?_, by rintro ⟨⟩⟩
    cases hraw.symm.trans hpressed
  | fire hx hstable _ hbounce =>
    refine hafter ▸ ⟨fun y hy => by rw [hlast y hy]; exact hx, hkept, fun hraw => h.run_concat hraw (hx.trans hraw), ?_⟩
    exact fun _ => h.held_concat hstable hafter.symm hstable rfl (hsame hx hbounce)
  | stay hx hbounce =>
    refine hafter ▸ ⟨fun y hy => by rw [hlast y hy]; exact hx, hkept, fun hraw => h.run_concat hraw (hx.trans hraw), ?_⟩
    intro hstable
    refine h.held_concat hstable hafter.symm hstable rfl (hsame hx (hbounce.imp_left fun heq => ?_))
    rw [← heq]
    exact hstable

/-- The state after any samples in the order of their times. -/
theorem tracked_after (hordered : (start :: samples.map (·.now)).Pairwise (· ≤ ·)) :
    Tracked start samples ((new start).after samples) := by
  induction samples using List.reverseRecOn with
  | nil => exact tracked_new start
  | append_singleton l x ih =>
    rw [List.map_append, ← List.cons_append, List.pairwise_append] at hordered
    obtain ⟨hl, -, hx⟩ := hordered
    have hnow : ∀ t ∈ start :: l.map (·.now), t ≤ x.now := fun t ht => hx t ht x.now (List.mem_singleton_self _)
    exact (ih hl).step (hnow start (List.mem_cons_self ..))
      fun y hy => hnow y.now (List.mem_cons_of_mem _ (List.mem_map_of_mem hy))

end Step

/-- A request comes while the stable state is pressed, after the hold time. -/
theorem held_of_request (h : (b.sample x).2 = some .shutdownRequested) :
    (b.sample x).1.stablePressed = true ∧
      ∀ started, (b.sample x).1.pressedAt = some started → started ≤ x.now → started + x.longPress ≤ x.now := by
  have hdoes := does_sample b x
  generalize b.sample x = out at hdoes h ⊢
  cases hdoes with
  | note | press | stay => cases h
  | pressAndFire _ _ _ _ hhold =>
    refine ⟨rfl, fun started hstarted hle => ?_⟩
    omega
  | release =>
    by_cases hsent : b.longPressSent = true
    · simp [hsent] at h
    · simp [hsent] at h
  | fire _ hstable _ _ hpressedAt htime =>
    refine ⟨hstable, fun started hstarted hle => ?_⟩
    obtain rfl := Option.some.inj (hpressedAt.symm.trans hstarted)
    omega

/-- The button over samples in the order of their times. A press yields a request while it lasts or the screen change
    at its release, never both, and a completed one yields one of them; no action comes without a press. A request
    comes no sooner than the hold time and the debounce time after the first pressed sample of its press, and no run of
    released samples since then was as long as the debounce time. -/
theorem presses_safe {start : Nat} (hordered : (start :: samples.map (·.now)).Pairwise (· ≤ ·)) :
    (∀ before press after, samples = before ++ press ++ after → press ≠ [] → ((new start).after before).Press press →
      (((new start).after before).actions press = [] ∨
        ((new start).after before).actions press = [.shutdownRequested]) ∧
      ∀ release rest, after = release :: rest →
        ((new start).after (before ++ press ++ [release])).stablePressed = false →
        ((new start).after before).actions press = [] ∧
            (((new start).after (before ++ press)).sample release).2 = some .nextScreen ∨
          ((new start).after before).actions press = [.shutdownRequested] ∧
            (((new start).after (before ++ press)).sample release).2 = none) ∧
    (∀ before x after action, samples = before ++ x :: after → (((new start).after before).sample x).2 = some action →
      action = .shutdownRequested ∧ ((new start).after (before ++ [x])).stablePressed = true ∨
        action = .nextScreen ∧ ((new start).after before).stablePressed = true ∧
          ((new start).after (before ++ [x])).stablePressed = false) ∧
    ∀ before fire after, samples = before ++ fire :: after →
      (((new start).after before).sample fire).2 = some .shutdownRequested →
      ∃ earlier first more press, before ++ [fire] = earlier ++ (first :: more ++ press) ∧ press ≠ [] ∧
        Held start earlier first more press ∧ first.now + debounce + fire.longPress ≤ fire.now ∧
        NeverReleased (first :: more ++ press) := by
  refine ⟨?_, ?_, ?_⟩
  · rintro before press after rfl hne hpress
    have hyields := hpress.yields hne
    rw [hyields]
    refine ⟨?_, ?_⟩
    · split
      · exact .inr rfl
      · exact .inl rfl
    · rintro release rest rfl hreleased
      rw [after_concat, after_append] at hreleased
      rw [after_append, hpress.released hne hreleased]
      split
      · exact .inr ⟨rfl, rfl⟩
      · exact .inl ⟨rfl, rfl⟩
  · rintro before x after action rfl haction
    rw [after_concat]
    exact action_in_press haction
  · rintro before fire after rfl hrequest
    have hstart : (start :: (before ++ [fire]).map (·.now)).Pairwise (· ≤ ·) := by
      refine hordered.sublist (List.Sublist.cons_cons _ (List.Sublist.map _ ?_))
      exact (List.Sublist.refl before).append (List.Sublist.cons_cons _ (List.nil_sublist after))
    have htracked := tracked_after hstart
    obtain ⟨hstable, hhold⟩ := held_of_request hrequest
    rw [← after_concat] at hstable hhold
    obtain ⟨earlier, first, more, press, started, heq, hne, hheld, hstarted, ⟨y, hy, rfl⟩, hearly, hnever, -⟩ :=
      htracked.held hstable
    refine ⟨earlier, first, more, press, heq, hne, hheld, ?_, hnever⟩
    have hle : y.now ≤ fire.now := by
      rw [List.map_append, ← List.cons_append, List.pairwise_append] at hstart
      rcases List.mem_append.mp hy with hy | hy
      · exact hstart.2.2 y.now (List.mem_cons_of_mem _ (List.mem_map_of_mem hy)) fire.now (List.mem_singleton_self _)
      · rw [List.mem_singleton.mp hy]
    have := hhold y.now hstarted hle
    omega

/-- A press that is held for the hold time of 50 microseconds; the raw state reads released when the request comes. -/
theorem presses_safe_held :
    ((new 0).sample ⟨true, 10, 50⟩).2 = none ∧
      ∃ earlier first more press,
        [⟨true, 10, 50⟩, ⟨true, 30010, 50⟩, ⟨false, 30040, 50⟩] ++ [(⟨false, 30060, 50⟩ : Sample)] =
          earlier ++ (first :: more ++ press) ∧ press ≠ [] ∧
        Held 0 earlier first more press ∧ first.now + debounce + 50 ≤ 30060 ∧ NeverReleased (first :: more ++ press) :=
  ⟨rfl, (@presses_safe [⟨true, 10, 50⟩, ⟨true, 30010, 50⟩, ⟨false, 30040, 50⟩, ⟨false, 30060, 50⟩] 0 (by decide)).2.2
    [⟨true, 10, 50⟩, ⟨true, 30010, 50⟩, ⟨false, 30040, 50⟩] ⟨false, 30060, 50⟩ [] rfl rfl⟩

end Servatory.Button
