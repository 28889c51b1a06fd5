import Servatory.Firmware.DashboardScript
import Servatory.Theorems.Dashboard

/-! What the page shows in a browser, however its timers, the answers of the Stick and the user come in between: the age that
    is shown is that of the snapshot the Stick has received, and one request is under way at a time. -/

namespace Servatory.DashboardScript
open Dashboard

/-! ### The markup that the script reads -/

theorem dataset_eq_some {r : Rendering} {d : Dataset} (h : r.dataset = some d) :
    r.overflowed = false ∧ d.bodyClass = levelClass ((r.state.snapshot.map (·.health.level)).getD .critical) ∧
      d.snapshotAge = r.age.elim (-1) (fun seconds => (seconds : Int)) ∧
      d.staleAfter = 15 := by
  rw [Rendering.dataset] at h
  split at h
  · cases h
  · rename_i hfits
    obtain rfl := Option.some.inj h
    exact ⟨Bool.not_eq_true _ |>.mp hfits, rfl, rfl, rfl⟩

/-! ### One thing at a time -/

/-- What the button and the text behind it show while something is waited for. -/
def Stage (s : Shell) : Pending → Prop
  | .response | .text => s.disabled = false ∧ s.feedback = .empty
  | .testResponse element => element = s.element ∧ s.disabled = true ∧ s.feedback = .sending
  | .testTimeout element => element = s.element ∧ s.disabled = true ∧ (s.feedback = .queued ∨ s.feedback = .failed)

/-- The page waits for one thing, or for none. -/
def Exclusive (p : Page) : Prop :=
  p.dashboardBusy = false ∧ p.pending = [] ∧ p.shell.disabled = false ∧ p.shell.feedback = .empty ∨
    p.dashboardBusy = true ∧ ∃ waited, p.pending = [waited] ∧ Stage p.shell waited

@[simp] theorem Shell.updateSnapshotAge_element (s : Shell) (refreshFailed : Bool) (now : Nat) :
    (s.updateSnapshotAge refreshFailed now).element = s.element := by
  rw [updateSnapshotAge]
  split <;> rfl

@[simp] theorem Shell.updateSnapshotAge_disabled (s : Shell) (refreshFailed : Bool) (now : Nat) :
    (s.updateSnapshotAge refreshFailed now).disabled = s.disabled := by
  rw [updateSnapshotAge]
  split <;> rfl

@[simp] theorem Shell.updateSnapshotAge_feedback (s : Shell) (refreshFailed : Bool) (now : Nat) :
    (s.updateSnapshotAge refreshFailed now).feedback = s.feedback := by
  rw [updateSnapshotAge]
  split <;> rfl

@[simp] theorem Shell.updateSnapshotAge_ageStarted (s : Shell) (refreshFailed : Bool) (now : Nat) :
    (s.updateSnapshotAge refreshFailed now).ageStarted = s.ageStarted := by
  rw [updateSnapshotAge]
  split <;> rfl

@[simp] theorem Shell.updateSnapshotAge_rendering (s : Shell) (refreshFailed : Bool) (now : Nat) :
    (s.updateSnapshotAge refreshFailed now).rendering = s.rendering := by
  rw [updateSnapshotAge]
  split <;> rfl

theorem stage_updateSnapshotAge {s : Shell} {waited : Pending} (refreshFailed : Bool) (now : Nat) :
    Stage (s.updateSnapshotAge refreshFailed now) waited ↔ Stage s waited := by
  cases waited <;> simp [Stage]

namespace Page
variable {p : Page} {now : Nat} {e : Event}

theorem exclusive_updateSnapshotAge (h : Exclusive p) (now : Nat) : Exclusive (p.updateSnapshotAge now) := by
  simpa only [Exclusive, updateSnapshotAge, Shell.updateSnapshotAge_disabled, Shell.updateSnapshotAge_feedback,
    stage_updateSnapshotAge] using h

theorem exclusive_refreshDashboard (h : Exclusive p) : Exclusive p.refreshDashboard := by
  rw [refreshDashboard]
  split
  · exact h
  · rename_i hidle
    rw [Bool.or_eq_true, not_or, Bool.not_eq_true] at hidle
    rcases h with ⟨-, hpending, hshell⟩ | ⟨hbusy, -⟩
    · exact .inr ⟨rfl, .response, by rw [hpending, List.nil_append], hshell⟩
    · rw [hidle.1] at hbusy
      cases hbusy

theorem exclusive_sendTestNotification (h : Exclusive p) : Exclusive p.sendTestNotification := by
  rw [sendTestNotification]
  split
  · exact h
  · rename_i hidle
    rcases h with ⟨-, hpending, -⟩ | ⟨hbusy, -⟩
    · exact .inr ⟨rfl, .testResponse p.shell.element, by rw [hpending, List.nil_append], rfl, rfl, rfl⟩
    · exact absurd hbusy hidle

/-- What is waited for is the only thing that is. -/
theorem Exclusive.waits {waited : Pending} (h : Exclusive p) (hmem : waited ∈ p.pending) :
    p.dashboardBusy = true ∧ p.pending = [waited] ∧ Stage p.shell waited := by
  rcases h with ⟨-, hpending, -⟩ | ⟨hbusy, other, hpending, hstage⟩
  · rw [hpending] at hmem
    cases hmem
  · rw [hpending, List.mem_singleton] at hmem
    exact ⟨hbusy, hmem ▸ hpending, hmem ▸ hstage⟩

theorem pending_resume {waited : Pending} {waits : List Pending} (h : p.pending = [waited]) :
    (p.resume waited waits).pending = waits := by
  rw [resume, h, List.erase_cons_head, List.nil_append]

theorem exclusive_refreshError (hpending : p.pending = []) (hshell : p.shell.disabled = false ∧ p.shell.feedback = .empty)
    (now : Nat) : Exclusive (p.refreshError now) := by
  refine .inl ⟨rfl, hpending, ?_⟩
  simpa only [refreshError, updateSnapshotAge, Shell.updateSnapshotAge_disabled, Shell.updateSnapshotAge_feedback] using hshell

theorem exclusive_replaceShell (hpending : p.pending = []) (r : Rendering) (now : Nat) : Exclusive (p.replaceShell r now) := by
  refine .inl ⟨rfl, hpending, ?_⟩
  simp [replaceShell, updateSnapshotAge, Shell.initializeSnapshotClock, Shell.ofRendering]

theorem next_testResponse {element : Nat} {ok : Bool} (h : element = p.shell.element) :
    p.next (.testResponse element ok, now) =
      { p with
        clock := now
        pending := p.pending.erase (.testResponse element) ++ [.testTimeout element]
        shell := { p.shell with feedback := if ok then .queued else .failed } } := by
  rw [next]
  exact if_pos h.symm

theorem next_testTimeout {element : Nat} (h : element = p.shell.element) :
    p.next (.testTimeout element, now) =
      { p with
        clock := now
        pending := p.pending.erase (.testTimeout element) ++ []
        shell := { p.shell with disabled := false, feedback := .empty }
        dashboardBusy := false } := by
  rw [next, setIn]
  simp only [resume, h, ↓reduceIte]

theorem exclusive_next (h : Exclusive p) (hallowed : p.Allowed (e, now)) : Exclusive (p.next (e, now)) := by
  obtain ⟨-, hallowed⟩ := hallowed
  cases e with
  | tick => exact exclusive_updateSnapshotAge h now
  | refreshTimer => exact exclusive_refreshDashboard h
  | visibilityChange hidden => exact exclusive_refreshDashboard (exclusive_updateSnapshotAge h now)
  | response ok =>
    obtain ⟨hbusy, hpending, hstage⟩ := Exclusive.waits h hallowed
    cases ok with
    | true => exact .inr ⟨hbusy, .text, pending_resume hpending, hstage⟩
    | false => exact exclusive_refreshError (pending_resume hpending) hstage now
  | text rendering =>
    cases rendering with
    | none =>
      obtain ⟨-, hpending, hstage⟩ := Exclusive.waits h hallowed
      exact exclusive_refreshError (pending_resume hpending) hstage now
    | some r =>
      obtain ⟨-, hpending, -⟩ := Exclusive.waits h hallowed.1
      exact exclusive_replaceShell (pending_resume hpending) r now
  | click => exact exclusive_sendTestNotification h
  | testResponse element ok =>
    obtain ⟨hbusy, hpending, helement, hdisabled, -⟩ := Exclusive.waits h hallowed
    rw [next_testResponse helement]
    refine .inr ⟨hbusy, .testTimeout element, pending_resume hpending, helement, hdisabled, ?_⟩
    cases ok
    · exact .inr rfl
    · exact .inl rfl
  | testTimeout element =>
    obtain ⟨-, hpending, helement, -⟩ := Exclusive.waits h hallowed
    rw [next_testTimeout helement]
    exact .inl ⟨rfl, pending_resume hpending, rfl, rfl⟩

theorem exclusive_reachable (h : p.Reachable) : Exclusive p := by
  refine Transition.Reachable.invariant ?_ ?_ h
  · rintro p ⟨r, hidden, now, rfl, -⟩
    exact exclusive_updateSnapshotAge (.inl ⟨rfl, rfl, rfl, rfl⟩) now
  · rintro p ⟨e, now⟩ q - hp ⟨hallowed, rfl⟩
    exact exclusive_next hp hallowed

/-- However its timers, the answers and the user come in between: the page waits for one thing at a time, and is busy
    exactly while it does. The button is disabled exactly while a test is sent or its outcome shown; the outcome is shown
    in the document, which is not replaced as long. -/
theorem one_at_a_time (h : p.Reachable) :
    p.pending.length ≤ 1 ∧ (p.dashboardBusy = true ↔ p.pending ≠ []) ∧ (∀ waited ∈ p.pending, Stage p.shell waited) ∧
      (p.pending = [] → p.shell.disabled = false ∧ p.shell.feedback = .empty) ∧
      (p.shell.disabled = true → ∀ e now, p.Allowed (e, now) → (p.next (e, now)).shell.element = p.shell.element) := by
  have hexclusive := exclusive_reachable h
  refine ⟨?_, ?_, ?_, ?_, fun hdisabled e now hallowed => ?_⟩
  · rcases hexclusive with ⟨-, hpending, -⟩ | ⟨-, waited, hpending, -⟩
    · rw [hpending]
      exact Nat.zero_le 1
    · rw [hpending]
      exact Nat.le_refl 1
  · rcases hexclusive with ⟨hbusy, hpending, -⟩ | ⟨hbusy, waited, hpending, -⟩ <;> simp [hbusy, hpending]
  · intro waited hmem
    exact (Exclusive.waits hexclusive hmem).2.2
  · intro hempty
    rcases hexclusive with ⟨-, -, hshell⟩ | ⟨-, waited, hpending, -⟩
    · exact hshell
    · rw [hempty] at hpending
      cases hpending
  · -- Only an answer to a refresh replaces the shell, and none is waited for.
    have helement : ∀ q : Page, q.refreshDashboard.shell = q.shell := by
      intro q
      rw [refreshDashboard]
      split <;> rfl
    obtain ⟨-, hallowed⟩ := hallowed
    cases e with
    | tick => simp [next, updateSnapshotAge]
    | refreshTimer => rw [next, helement]
    | visibilityChange hidden =>
      rw [next, helement]
      simp [updateSnapshotAge]
    | response ok => cases ok <;> simp [next, resume, refreshError, updateSnapshotAge]
    | text rendering =>
      have hmem : .text ∈ p.pending := by
        cases rendering with
        | none => exact hallowed
        | some r => exact hallowed.1
      obtain ⟨-, -, hfalse, -⟩ := Exclusive.waits hexclusive hmem
      rw [hfalse] at hdisabled
      cases hdisabled
    | click =>
      rw [next, sendTestNotification]
      split <;> rfl
    | testResponse element ok =>
      rw [next_testResponse (Exclusive.waits hexclusive hallowed).2.2.1]
    | testTimeout element =>
      rw [next_testTimeout (Exclusive.waits hexclusive hallowed).2.2.1]

theorem rendering_load (r : Rendering) (hidden : Bool) (now : Nat) : (load r hidden now).shell.rendering = r :=
  Shell.updateSnapshotAge_rendering _ _ _

/-- A rendering as soon as the Stick has its snapshot, and the page that it comes to two seconds later. -/
def plainRendering : Rendering := ⟨⟨"1.0"⟩, 0, 0, plain, true⟩

def plainPage : Page := .load plainRendering false 2000000

theorem overflowed_mk (build : SoftwareVersion) (now later : Nat) (state : SharedState) (document : Bool) :
    (Rendering.mk build now later state document).overflowed = (dashboardBuffer build now later state document).overflowed :=
  rfl

theorem overflowed_plainRendering : plainRendering.overflowed = false :=
  (overflowed_mk ⟨"1.0"⟩ 0 0 plain true).trans plain_fits

theorem reachable_plainPage : plainPage.Reachable :=
  .init ⟨plainRendering, false, 2000000, rfl, rfl, overflowed_plainRendering, Nat.zero_le _, fun updated h => by
    cases h
    exact Nat.le_refl 0⟩

theorem dataset_plainRendering : plainRendering.dataset = some ⟨"ok", 0, 15⟩ := by
  rw [Rendering.dataset, overflowed_plainRendering, if_neg Bool.false_ne_true]
  rfl

theorem idle_load (r : Rendering) (hidden : Bool) (now : Nat) :
    (load r hidden now).shell.element = 0 ∧ (load r hidden now).shell.disabled = false :=
  ⟨Shell.updateSnapshotAge_element _ _ _, Shell.updateSnapshotAge_disabled _ _ _⟩

theorem waits_click {element : Nat} (hbusy : p.dashboardBusy = false) (hpending : p.pending = [])
    (helement : p.shell.element = element) :
    (p.next (.click, now)).pending = [.testResponse element] ∧ (p.next (.click, now)).shell.element = element ∧
      (p.next (.click, now)).clock = now := by
  rw [next, sendTestNotification, hbusy, if_neg Bool.false_ne_true, hpending, helement]
  exact ⟨rfl, rfl, rfl⟩

theorem waits_testResponse {element : Nat} {ok : Bool} (hpending : p.pending = [.testResponse element])
    (helement : p.shell.element = element) :
    (p.next (.testResponse element ok, now)).pending = [.testTimeout element] ∧
      (p.next (.testResponse element ok, now)).clock = now := by
  rw [next_testResponse helement.symm]
  exact ⟨pending_resume hpending, rfl⟩

/-- The page on which a test is sent, and when its outcome is shown. -/
def sentPage : Page := plainPage.next (.click, 3000000)

def queuedPage : Page := sentPage.next (.testResponse 0 true, 4000000)

theorem waits_sentPage : sentPage.pending = [.testResponse 0] ∧ sentPage.shell.element = 0 ∧ sentPage.clock = 3000000 :=
  waits_click rfl rfl (idle_load plainRendering false 2000000).1

theorem reachable_sentPage : sentPage.Reachable := by
  have hclick : plainPage.Allowed (.click, 3000000) := by
    refine ⟨by decide, ?_, (idle_load plainRendering false 2000000).2⟩
    rw [plainPage, rendering_load, dataset_plainRendering]
    rfl
  exact .step reachable_plainPage ⟨hclick, rfl⟩

theorem waits_queuedPage : queuedPage.pending = [.testTimeout 0] ∧ queuedPage.clock = 4000000 :=
  waits_testResponse waits_sentPage.1 waits_sentPage.2.1

theorem reachable_queuedPage : queuedPage.Reachable := by
  obtain ⟨hpending, -, hclock⟩ := waits_sentPage
  have hanswer : sentPage.Allowed (.testResponse 0 true, 4000000) := by
    refine ⟨?_, ?_⟩
    · rw [hclock]
      decide
    · rw [hpending]
      exact List.mem_singleton_self _
  exact .step reachable_sentPage ⟨hanswer, rfl⟩

/-- While a test is sent, and while its outcome is shown, the timer of a refresh changes nothing. -/
theorem one_at_a_time_plainPage :
    (plainPage.next (.refreshTimer, 5000000)).pending.length ≤ 1 ∧ Stage sentPage.shell (.testResponse 0) ∧
      (sentPage.next (.refreshTimer, 5000000)).pending.length ≤ 1 ∧ Stage queuedPage.shell (.testTimeout 0) ∧
      (queuedPage.next (.refreshTimer, 5000000)).shell.element = queuedPage.shell.element := by
  obtain ⟨hpendingSent, -, hclockSent⟩ := waits_sentPage
  obtain ⟨hpendingQueued, hclockQueued⟩ := waits_queuedPage
  have hsentTimer : sentPage.Allowed (.refreshTimer, 5000000) := ⟨by rw [hclockSent]; decide, trivial⟩
  have hqueuedTimer : queuedPage.Allowed (.refreshTimer, 5000000) := ⟨by rw [hclockQueued]; decide, trivial⟩
  obtain ⟨-, -, hsent, -⟩ := one_at_a_time reachable_sentPage
  obtain ⟨-, -, hqueued, -, hkept⟩ := one_at_a_time reachable_queuedPage
  have hshown : Stage queuedPage.shell (.testTimeout 0) := hqueued _ (by rw [hpendingQueued]; exact List.mem_singleton_self _)
  exact ⟨(one_at_a_time (.step reachable_plainPage ⟨⟨by decide, trivial⟩, rfl⟩)).1,
    hsent _ (by rw [hpendingSent]; exact List.mem_singleton_self _),
    (one_at_a_time (.step reachable_sentPage ⟨hsentTimer, rfl⟩)).1, hshown,
    hkept hshown.2.1 .refreshTimer 5000000 hqueuedTimer⟩

/-! ### The age that is shown -/

/-- The shell shows what has been worked out last, from a rendering that was there when the shell was put in. -/
structure Shows (p : Page) : Prop where
  current : p.shell.updateSnapshotAge p.refreshFailed p.updated = p.shell
  started : p.shell.ageStarted * 1000 ≤ p.updated
  rendered : p.shell.rendering.later < (p.shell.ageStarted + 1) * 1000
  received : ∀ updated ∈ p.shell.rendering.state.lastUpdate, updated ≤ p.shell.rendering.later
  elapsed : p.updated ≤ p.clock

theorem updateSnapshotAge_twice (s : Shell) (refreshFailed : Bool) (now : Nat) :
    (s.updateSnapshotAge refreshFailed now).updateSnapshotAge refreshFailed now = s.updateSnapshotAge refreshFailed now := by
  cases hd : s.rendering.dataset with
  | none => simp only [Shell.updateSnapshotAge, hd]
  | some d =>
    simp only [Shell.updateSnapshotAge, hd]
    rfl

theorem shows_updateSnapshotAge (hstarted : p.shell.ageStarted * 1000 ≤ now)
    (hrendered : p.shell.rendering.later < (p.shell.ageStarted + 1) * 1000)
    (hreceived : ∀ updated ∈ p.shell.rendering.state.lastUpdate, updated ≤ p.shell.rendering.later) (hclock : now ≤ p.clock) :
    Shows (p.updateSnapshotAge now) where
  current := updateSnapshotAge_twice p.shell p.refreshFailed now
  started := by simpa only [updateSnapshotAge, Shell.updateSnapshotAge_ageStarted] using hstarted
  rendered := by
    simpa only [updateSnapshotAge, Shell.updateSnapshotAge_ageStarted, Shell.updateSnapshotAge_rendering] using hrendered
  received := by simpa only [updateSnapshotAge, Shell.updateSnapshotAge_rendering] using hreceived
  elapsed := hclock

/-- An update at a later time. -/
theorem Shows.update (h : Shows p) {q : Page} (hshell : q.shell = p.shell) (hclock : p.clock ≤ now) (hnow : now ≤ q.clock) :
    Shows (q.updateSnapshotAge now) := by
  have hstarted := h.started
  have helapsed := h.elapsed
  refine shows_updateSnapshotAge ?_ ?_ ?_ hnow
  · rw [hshell]
    omega
  · rw [hshell]
    exact h.rendered
  · rw [hshell]
    exact h.received

/-- Nothing that is shown of the snapshot is changed. -/
theorem Shows.keep (h : Shows p) {q : Page} {disabled : Bool} {feedback : Feedback}
    (hshell : q.shell = { p.shell with disabled, feedback }) (hrefresh : q.refreshFailed = p.refreshFailed)
    (hupdated : q.updated = p.updated) (hclock : p.clock ≤ q.clock) : Shows q where
  current := by
    have hcurrent : ({ p.shell with disabled, feedback } : Shell).updateSnapshotAge p.refreshFailed p.updated =
        { p.shell.updateSnapshotAge p.refreshFailed p.updated with disabled, feedback } := by
      cases hd : p.shell.rendering.dataset with
      | none => simp only [Shell.updateSnapshotAge, hd]
      | some d =>
        simp only [Shell.updateSnapshotAge, hd]
        rfl
    rw [hshell, hrefresh, hupdated, hcurrent, h.current]
  started := by
    rw [hshell, hupdated]
    exact h.started
  rendered := by
    rw [hshell]
    exact h.rendered
  received := by
    rw [hshell]
    exact h.received
  elapsed := by
    rw [hupdated]
    exact Nat.le_trans h.elapsed hclock

theorem shows_replaceShell {r : Rendering} (hlater : r.later ≤ now)
    (hreceived : ∀ updated ∈ r.state.lastUpdate, updated ≤ r.later) (hclock : now ≤ p.clock) :
    Shows (p.replaceShell r now) := by
  have hshows : Shows (updateSnapshotAge
      { p with
        bodyClass := r.dataset.elim "undefined" (·.bodyClass)
        shell := (Shell.ofRendering p.elements r).initializeSnapshotClock now
        elements := p.elements + 1
        refreshFailed := false } now) := by
    refine shows_updateSnapshotAge ?_ ?_ hreceived hclock
    · exact Nat.div_mul_le_self now 1000
    · show r.later < (now / 1000 + 1) * 1000
      omega
  exact hshows.keep rfl rfl rfl (Nat.le_refl _)

theorem shows_refreshDashboard (h : Shows p) : Shows p.refreshDashboard := by
  rw [refreshDashboard]
  split
  · exact h
  · exact h.keep rfl rfl rfl (Nat.le_refl _)

theorem shows_refreshError (h : Shows p) {q : Page} (hshell : q.shell = p.shell) (hclock : p.clock ≤ now)
    (hnow : now ≤ q.clock) : Shows (q.refreshError now) :=
  have hshows : Shows ({ q with refreshFailed := true }.updateSnapshotAge now) := h.update hshell hclock hnow
  hshows.keep rfl rfl rfl (Nat.le_refl _)

theorem shows_next (h : Shows p) (hexclusive : Exclusive p) (hallowed : p.Allowed (e, now)) : Shows (p.next (e, now)) := by
  obtain ⟨hclock, hallowed⟩ := hallowed
  cases e with
  | tick => exact h.update rfl hclock (Nat.le_refl _)
  | refreshTimer => exact shows_refreshDashboard (h.keep rfl rfl rfl hclock)
  | visibilityChange hidden => exact shows_refreshDashboard (h.update rfl hclock (Nat.le_refl _))
  | response ok =>
    cases ok with
    | true => exact h.keep rfl rfl rfl hclock
    | false => exact shows_refreshError h rfl hclock (Nat.le_refl _)
  | text rendering =>
    cases rendering with
    | none => exact shows_refreshError h rfl hclock (Nat.le_refl _)
    | some r => exact shows_replaceShell hallowed.2.2.1 hallowed.2.2.2 (Nat.le_refl _)
  | click =>
    rw [next, sendTestNotification]
    split
    · exact h.keep rfl rfl rfl hclock
    · exact h.keep rfl rfl rfl hclock
  | testResponse element ok =>
    rw [next_testResponse (Exclusive.waits hexclusive hallowed).2.2.1]
    exact h.keep rfl rfl rfl hclock
  | testTimeout element =>
    rw [next_testTimeout (Exclusive.waits hexclusive hallowed).2.2.1]
    exact h.keep rfl rfl rfl hclock

theorem shows_reachable (h : p.Reachable) : Shows p := by
  refine Transition.Reachable.invariant ?_ ?_ h
  · rintro p ⟨r, hidden, now, rfl, -, -, hlater, hreceived⟩
    refine shows_updateSnapshotAge ?_ ?_ hreceived (Nat.le_refl _)
    · exact Nat.div_mul_le_self now 1000
    · show r.later < (now / 1000 + 1) * 1000
      omega
  · rintro p ⟨e, now⟩ q hreachable hp ⟨hallowed, rfl⟩
    exact shows_next hp (exclusive_reachable hreachable) hallowed

/-- The seconds before the rendering and those since the shell was put in, against the time that has passed. -/
theorem age_bounds {later received updated started age : Nat} (hreceived : received ≤ later)
    (hstarted : started * 1000 ≤ updated) (hrendered : later < (started + 1) * 1000)
    (hage : (later - received) / 1000000 + (updated / 1000 - started) / 1000 = age) :
    age * 1000000 ≤ updated - received + 1000 ∧
      updated - received < (age + 2) * 1000000 + ((started + 1) * 1000 - later) := by
  have hbefore := Nat.div_add_mod (later - received) 1000000
  have hsince := Nat.div_add_mod (updated / 1000 - started) 1000
  have hmillis := Nat.div_add_mod updated 1000
  omega

/-- However the timers, the answers and the user come in between: what the page says of the age of its snapshot has been
    right when it was last worked out. The seconds are at most a millisecond more than have passed since the Stick received
    the snapshot, and at most two seconds less, beside the time that the rendering has taken to get into the page. The badge
    follows from them. -/
theorem age_shown (h : p.Reachable) {d : Dataset} (hd : p.shell.rendering.dataset = some d) :
    (p.shell.rendering.state.lastUpdate = none →
      p.shell.ageLabel = "No host snapshot received" ∧ p.shell.badge = "NO DATA" ∧ p.shell.isStale = true) ∧
    ∀ received ∈ p.shell.rendering.state.lastUpdate, ∃ age,
      p.shell.ageLabel = formatSnapshotAge age ∧
      age * 1000000 ≤ p.updated - received + 1000 ∧
      p.updated - received < (age + 2) * 1000000 + ((p.shell.ageStarted + 1) * 1000 - p.shell.rendering.later) ∧
      p.shell.isStale = decide (15 ≤ age) ∧
      p.shell.badge = if 15 ≤ age then "STALE" else if p.refreshFailed then "RETRYING" else "LIVE" := by
  have hshows := shows_reachable h
  have hcurrent := hshows.current
  obtain ⟨-, -, hage, hstale⟩ := dataset_eq_some hd
  simp only [Shell.updateSnapshotAge, hd] at hcurrent
  refine ⟨fun hnone => ?_, fun received hreceived => ?_⟩
  · have hnegative : ¬0 ≤ d.snapshotAge := by
      rw [hage, Rendering.age, snapshotAge, hnone]
      exact Int.not_le.mpr (by decide : (-1 : Int) < 0)
    have hmissing : p.shell.age d p.updated = none := if_neg hnegative
    rw [← hcurrent, hmissing]
    exact ⟨rfl, rfl, rfl⟩
  · have hsince : d.snapshotAge = ((p.shell.rendering.later - received) / 1000000 : Nat) := by
      rw [hage, Rendering.age, snapshotAge, hreceived]
      rfl
    have hknown : p.shell.age d p.updated =
        some ((p.shell.rendering.later - received) / 1000000 + (p.updated / 1000 - p.shell.ageStarted) / 1000) := by
      rw [Shell.age, hsince, if_pos (Int.natCast_nonneg _), Int.toNat_natCast]
    obtain ⟨hle, hlt⟩ := age_bounds (hshows.received received hreceived) hshows.started hshows.rendered rfl
    generalize (p.shell.rendering.later - received) / 1000000 + (p.updated / 1000 - p.shell.ageStarted) / 1000 = age at *
    refine ⟨age, ?_, hle, hlt, ?_, ?_⟩
    · rw [← hcurrent, hknown]
      rfl
    · rw [← hcurrent, hknown, hstale]
      rfl
    · rw [← hcurrent, hknown, hstale]
      simp

theorem age_shown_plainPage :
    ∃ age, plainPage.shell.ageLabel = formatSnapshotAge age ∧
      plainPage.updated - 0 < (age + 2) * 1000000 + ((plainPage.shell.ageStarted + 1) * 1000 - plainRendering.later) := by
  have hrendering : plainPage.shell.rendering = plainRendering := rendering_load plainRendering false 2000000
  have hdataset : plainPage.shell.rendering.dataset = some ⟨"ok", 0, 15⟩ := by
    rw [hrendering]
    exact dataset_plainRendering
  obtain ⟨-, h⟩ := age_shown reachable_plainPage hdataset
  rw [hrendering] at h
  obtain ⟨age, hlabel, -, hlt, -⟩ := h 0 rfl
  exact ⟨age, hlabel, hlt⟩

end Page
end Servatory.DashboardScript
