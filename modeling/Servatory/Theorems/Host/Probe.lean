import Servatory.Host.Probe

/-! The connectivity probe over any interleaving of link observations and results: one probe at a time, nothing from
    before a link change counts, and the status says what the failures are. -/

namespace Servatory

/-! ### One call -/

/-- What the status says of the failures that were counted. -/
structure ProbeState.Consistent (p : ProbeState) : Prop where
  reachable : p.status = .reachable → p.consecutiveFailures = 0 ∧ p.lastSuccess.isSome
  checking : p.status = .checking → p.consecutiveFailures = 0
  missed : p.status = .missed → 1 ≤ p.consecutiveFailures ∧ p.consecutiveFailures < p.failuresBeforeFailed
  failed : p.status = .failed → p.failuresBeforeFailed ≤ p.consecutiveFailures
  forgiving : p.linkUpGraceRetry = true → p.consecutiveFailures = 0

namespace ProbeState
variable {p : ProbeState} {now : Nat} {linkUp reachable : Bool} {generation : UInt32}

/-- A link that has changed waits, and the first failure may be forgiven. -/
theorem observeLink_of_change (h : p.lastLinkUp ≠ some linkUp) :
    p.observeLink now linkUp =
      { p with
        lastLinkUp := some linkUp
        nextProbe := if linkUp then now + p.settleDelay else now
        status := .checking
        consecutiveFailures := 0
        generation := p.generation + 1
        linkUpGraceRetry := linkUp } := if_pos h

theorem observeLink_of_same (h : p.lastLinkUp = some linkUp) : p.observeLink now linkUp = p := if_neg (not_not.mpr h)

theorem lastLinkUp_observeLink : (p.observeLink now linkUp).lastLinkUp = some linkUp := by
  by_cases hchange : p.lastLinkUp ≠ some linkUp
  · rw [observeLink_of_change hchange]
  · rw [observeLink_of_same (not_not.mp hchange)]
    exact not_not.mp hchange

theorem Consistent.observeLink (h : p.Consistent) : (p.observeLink now linkUp).Consistent := by
  by_cases hchange : p.lastLinkUp ≠ some linkUp
  · rw [observeLink_of_change hchange]
    exact ⟨by rintro ⟨⟩, fun _ => rfl, by rintro ⟨⟩, by rintro ⟨⟩, fun _ => rfl⟩
  · rw [observeLink_of_same (not_not.mp hchange)]
    exact h

/-- Everything a call can do once the link is observed: send a probe, or nothing. -/
theorem prepareProbe_cases (p : ProbeState) (now : Nat) (linkUp : Bool) :
    p.prepareProbe now linkUp = (p.observeLink now linkUp, none) ∨
      (p.observeLink now linkUp).inFlight = false ∧ (p.observeLink now linkUp).nextProbe ≤ now ∧
        p.prepareProbe now linkUp =
          ({ p.observeLink now linkUp with inFlight := true, nextProbe := now + (p.observeLink now linkUp).interval },
            some (p.observeLink now linkUp).generation) := by
  by_cases h : (p.observeLink now linkUp).inFlight = true ∨ now < (p.observeLink now linkUp).nextProbe
  · exact .inl (if_pos h)
  · obtain ⟨hfree, hdue⟩ := not_or.mp h
    exact .inr ⟨Bool.eq_false_iff.mpr hfree, Nat.not_lt.mp hdue, if_neg h⟩

theorem saturatingSucc_pos (n : UInt8) : 1 ≤ saturatingSucc n := by
  unfold saturatingSucc
  split
  · decide
  · rename_i hne
    have : n.toNat ≠ 255 := fun h => hne (UInt8.toNat_inj.mp h)
    have := n.toNat_lt
    rw [UInt8.le_iff_toNat_le, UInt8.toNat_add]
    simp only [UInt8.toNat_one]
    omega

/-- A result of another generation is dropped. -/
theorem recordResult_stale (h : p.generation ≠ generation) :
    p.recordResult generation reachable now = { p with inFlight := false } := if_pos h

/-- The first failure behind a link change is forgiven. -/
theorem recordResult_forgiven (h : p.generation = generation) (hgrace : p.linkUpGraceRetry = true) :
    p.recordResult generation false now =
      { p with inFlight := false, status := .checking, linkUpGraceRetry := false, nextProbe := now + p.retryDelay } := by
  rw [recordResult, if_neg (not_not.mpr h), if_neg Bool.false_ne_true, if_pos hgrace]

/-- Everything a result can do. -/
theorem recordResult_cases (p : ProbeState) (generation : UInt32) (reachable : Bool) (now : Nat) :
    p.generation ≠ generation ∧ p.recordResult generation reachable now = { p with inFlight := false } ∨
    p.generation = generation ∧
      (reachable = true ∧ p.recordResult generation reachable now =
          { p with
            inFlight := false, status := .reachable, consecutiveFailures := 0, lastSuccess := some now
            linkUpGraceRetry := false } ∨
        p.linkUpGraceRetry = true ∧ p.recordResult generation reachable now =
          { p with
            inFlight := false, status := .checking, linkUpGraceRetry := false, nextProbe := now + p.retryDelay } ∨
        p.linkUpGraceRetry = false ∧ p.recordResult generation reachable now =
          { p with
            inFlight := false
            consecutiveFailures := saturatingSucc p.consecutiveFailures
            status :=
              if saturatingSucc p.consecutiveFailures < p.failuresBeforeFailed then .missed else .failed }) := by
  by_cases hstale : p.generation ≠ generation
  · exact .inl ⟨hstale, recordResult_stale hstale⟩
  · have hsame := not_not.mp hstale
    refine .inr ⟨hsame, ?_⟩
    cases reachable with
    | true => exact .inl ⟨rfl, by rw [recordResult, if_neg hstale, if_pos rfl]⟩
    | false =>
      cases hgrace : p.linkUpGraceRetry with
      | true => exact .inr (.inl ⟨rfl, recordResult_forgiven hsame hgrace⟩)
      | false =>
        refine .inr (.inr ⟨rfl, ?_⟩)
        rw [recordResult, if_neg hstale, if_neg Bool.false_ne_true, if_neg (by rw [hgrace]; exact Bool.false_ne_true),
          hgrace]

theorem Consistent.recordResult (h : p.Consistent) : (p.recordResult generation reachable now).Consistent := by
  rcases recordResult_cases p generation reachable now with ⟨-, heq⟩ | ⟨-, ⟨-, heq⟩ | ⟨hgrace, heq⟩ | ⟨hgrace, heq⟩⟩ <;>
    rw [heq]
  · exact ⟨h.reachable, h.checking, h.missed, h.failed, h.forgiving⟩
  · exact ⟨fun _ => ⟨rfl, rfl⟩, by rintro ⟨⟩, by rintro ⟨⟩, by rintro ⟨⟩, fun _ => rfl⟩
  · exact ⟨by rintro ⟨⟩, fun _ => h.forgiving hgrace, by rintro ⟨⟩, by rintro ⟨⟩, by rintro ⟨⟩⟩
  · by_cases hlt : saturatingSucc p.consecutiveFailures < p.failuresBeforeFailed
    · rw [if_pos hlt]
      refine ⟨by rintro ⟨⟩, by rintro ⟨⟩, fun _ => ⟨saturatingSucc_pos _, hlt⟩, by rintro ⟨⟩, fun h => ?_⟩
      cases hgrace.symm.trans h
    · rw [if_neg hlt]
      refine ⟨by rintro ⟨⟩, by rintro ⟨⟩, by rintro ⟨⟩, fun _ => UInt8.not_lt.mp hlt, fun h => ?_⟩
      cases hgrace.symm.trans h

end ProbeState

/-! ### Any interleaving -/

namespace Probing
variable {interval settleDelay retryDelay : Nat} {failuresBeforeFailed : UInt8} {s : Probing}

/-- What every reached state keeps. -/
structure Inv (settleDelay retryDelay : Nat) (failuresBeforeFailed : UInt8) (s : Probing) : Prop where
  settings : s.state.settleDelay = settleDelay ∧ s.state.retryDelay = retryDelay ∧
    s.state.failuresBeforeFailed = failuresBeforeFailed
  consistent : s.state.Consistent
  generation : s.state.generation = UInt32.ofNat s.linkChanges
  bounded : s.linkChanges ≤ UInt32.size
  single : s.outstanding = [] ∧ s.state.inFlight = false ∨ ∃ probe, s.outstanding = [probe] ∧ s.state.inFlight = true
  issued : ∀ probe ∈ s.outstanding, probe.generation = UInt32.ofNat probe.linkChanges ∧ 1 ≤ probe.linkChanges ∧
    probe.linkChanges ≤ s.linkChanges
  settled : s.state.lastLinkUp = some true → s.changedAt + settleDelay ≤ s.state.nextProbe
  waited : s.state.lastLinkUp = some true → ∀ probe ∈ s.outstanding, probe.linkChanges = s.linkChanges →
    s.changedAt + settleDelay ≤ s.clock
  grace : s.state.linkUpGraceRetry = true ↔ s.state.lastLinkUp = some true ∧ s.results = []
  observed : s.state.lastLinkUp ≠ none → 1 ≤ s.linkChanges

theorem inv_start (now : Nat) : Inv settleDelay retryDelay failuresBeforeFailed
    (start (.newConfigured now interval settleDelay retryDelay failuresBeforeFailed) now) where
  settings := ⟨rfl, rfl, rfl⟩
  consistent := ⟨by rintro ⟨⟩, fun _ => rfl, by rintro ⟨⟩, by rintro ⟨⟩, by rintro ⟨⟩⟩
  generation := rfl
  bounded := Nat.zero_le _
  single := .inl ⟨rfl, rfl⟩
  issued := by rintro probe ⟨⟩
  settled := by rintro ⟨⟩
  waited := by rintro ⟨⟩
  grace := ⟨by rintro ⟨⟩, by rintro ⟨⟨⟩, -⟩⟩
  observed := fun h => absurd rfl h

/-- The generations of one run do not come round. -/
theorem eq_of_generation {a b : Nat} (ha : 1 ≤ a) (hle : a ≤ b) (hb : b ≤ UInt32.size)
    (h : UInt32.ofNat a = UInt32.ofNat b) : a = b := by
  have hmod : a % 2 ^ 32 = b % 2 ^ 32 := by
    rw [← UInt32.toNat_ofNat', ← UInt32.toNat_ofNat', h]
  simp only [UInt32.size] at hb
  omega

section Step
variable {now : Nat} {linkUp : Bool}

/-- The link is observed, and no probe is sent yet. -/
def observe (s : Probing) (now : Nat) (linkUp : Bool) : Probing where
  state := s.state.observeLink now linkUp
  outstanding := s.outstanding
  clock := now
  linkChanges := if s.Changes linkUp then s.linkChanges + 1 else s.linkChanges
  changedAt := if s.Changes linkUp then now else s.changedAt
  results := if s.Changes linkUp then [] else s.results

/-- A probe is sent. -/
def send (s : Probing) (now : Nat) : Probing :=
  { s with
    state := { s.state with inFlight := true, nextProbe := now + s.state.interval }
    outstanding := s.outstanding ++ [⟨s.state.generation, s.linkChanges⟩] }

theorem prepare_cases (s : Probing) (now : Nat) (linkUp : Bool) :
    (s.state.prepareProbe now linkUp).2 = none ∧ s.prepare now linkUp = s.observe now linkUp ∨
      (s.state.prepareProbe now linkUp).2 = some (s.observe now linkUp).state.generation ∧
        (s.observe now linkUp).state.inFlight = false ∧ (s.observe now linkUp).state.nextProbe ≤ now ∧
        s.prepare now linkUp = (s.observe now linkUp).send now := by
  unfold prepare
  rcases s.state.prepareProbe_cases now linkUp with h | ⟨hfree, hdue, h⟩
  · rw [h]
    exact .inl ⟨rfl, by simp [observe]⟩
  · rw [h]
    exact .inr ⟨rfl, hfree, hdue, by simp [observe, send]⟩

theorem Inv.observe (h : Inv settleDelay retryDelay failuresBeforeFailed s) (hnow : s.clock ≤ now)
    (hbound : s.Changes linkUp → s.linkChanges < UInt32.size) :
    Inv settleDelay retryDelay failuresBeforeFailed (s.observe now linkUp) := by
  unfold Probing.observe
  by_cases hchange : s.Changes linkUp
  · rw [ProbeState.observeLink_of_change hchange, if_pos hchange, if_pos hchange, if_pos hchange]
    have hconsistent : (s.state.observeLink now linkUp).Consistent := h.consistent.observeLink
    rw [ProbeState.observeLink_of_change hchange] at hconsistent
    refine ⟨h.settings, hconsistent, ?_, hbound hchange, h.single, ?_, ?_, ?_, ?_, fun _ => Nat.le_add_left ..⟩
    · show s.state.generation + 1 = UInt32.ofNat (s.linkChanges + 1)
      rw [h.generation, UInt32.ofNat_add]
      rfl
    · intro probe hprobe
      obtain ⟨hgeneration, hpos, hle⟩ := h.issued probe hprobe
      exact ⟨hgeneration, hpos, hle.trans (Nat.le_succ _)⟩
    · intro hup
      obtain rfl : linkUp = true := Option.some.inj hup
      exact Nat.le_of_eq (by rw [if_pos rfl, h.settings.1])
    · intro _ probe hprobe (heq : probe.linkChanges = s.linkChanges + 1)
      have := (h.issued probe hprobe).2.2
      omega
    · show linkUp = true ↔ some linkUp = some true ∧ ([] : List Bool) = []
      simp
  · rw [ProbeState.observeLink_of_same (not_not.mp hchange), if_neg hchange, if_neg hchange, if_neg hchange]
    exact { h with waited := fun hup probe hprobe heq => (h.waited hup probe hprobe heq).trans hnow }

theorem Inv.send (h : Inv settleDelay retryDelay failuresBeforeFailed s) (hclock : s.clock = now)
    (hobserved : s.state.lastLinkUp ≠ none) (hfree : s.state.inFlight = false) (hdue : s.state.nextProbe ≤ now) :
    Inv settleDelay retryDelay failuresBeforeFailed (s.send now) := by
  have hnone : s.outstanding = [] := by
    rcases h.single with ⟨hnone, -⟩ | ⟨_, -, hbusy⟩
    · exact hnone
    · cases hfree.symm.trans hbusy
  have hsent : (s.send now).outstanding = [⟨s.state.generation, s.linkChanges⟩] := by
    rw [Probing.send, hnone]
    rfl
  refine ⟨h.settings, ?_, h.generation, h.bounded, .inr ⟨_, hsent, rfl⟩, ?_, ?_, ?_, h.grace, h.observed⟩
  · exact ⟨h.consistent.reachable, h.consistent.checking, h.consistent.missed, h.consistent.failed,
      h.consistent.forgiving⟩
  · intro probe hprobe
    rw [hsent] at hprobe
    obtain rfl := List.mem_singleton.mp hprobe
    exact ⟨h.generation, h.observed hobserved, Nat.le_refl _⟩
  · intro hup
    exact ((h.settled hup).trans hdue).trans (Nat.le_add_right ..)
  · intro hup _ _ _
    exact ((h.settled hup).trans hdue).trans (Nat.le_of_eq hclock.symm)

theorem Inv.prepare (h : Inv settleDelay retryDelay failuresBeforeFailed s) (hnow : s.clock ≤ now)
    (hbound : s.Changes linkUp → s.linkChanges < UInt32.size) :
    Inv settleDelay retryDelay failuresBeforeFailed (s.prepare now linkUp) := by
  have hobserve := h.observe hnow hbound
  have hup : (s.observe now linkUp).state.lastLinkUp = some linkUp := ProbeState.lastLinkUp_observeLink
  rcases s.prepare_cases now linkUp with ⟨-, heq⟩ | ⟨-, hfree, hdue, heq⟩
  · rw [heq]
    exact hobserve
  · rw [heq]
    exact hobserve.send rfl (by rw [hup]; exact Option.some_ne_none _) hfree hdue

theorem Inv.outstanding_eq (h : Inv settleDelay retryDelay failuresBeforeFailed s) {probe : Issued}
    (hprobe : probe ∈ s.outstanding) : s.outstanding = [probe] := by
  rcases h.single with ⟨hnone, -⟩ | ⟨other, hone, -⟩
  · rw [hnone] at hprobe
    cases hprobe
  · rw [hone] at hprobe ⊢
    rw [List.mem_singleton.mp hprobe]

/-- The generation of a probe is the current one when the link has not changed since. -/
theorem Inv.generation_eq_iff (h : Inv settleDelay retryDelay failuresBeforeFailed s) {probe : Issued}
    (hprobe : probe ∈ s.outstanding) : s.state.generation = probe.generation ↔ probe.linkChanges = s.linkChanges := by
  obtain ⟨hgeneration, hpos, hle⟩ := h.issued probe hprobe
  rw [h.generation, hgeneration]
  exact ⟨fun heq => eq_of_generation hpos hle h.bounded heq.symm, fun heq => by rw [heq]⟩

theorem Inv.result (h : Inv settleDelay retryDelay failuresBeforeFailed s) {probe : Issued} {reachable : Bool}
    (hnow : s.clock ≤ now) (hprobe : probe ∈ s.outstanding) :
    Inv settleDelay retryDelay failuresBeforeFailed (s.result probe reachable now) := by
  have hconsistent : (s.state.recordResult probe.generation reachable now).Consistent := h.consistent.recordResult
  have hnone : s.outstanding.erase probe = [] := by
    rw [h.outstanding_eq hprobe, List.erase_cons_head]
  have hissued : ∀ other ∈ s.outstanding.erase probe, False := by
    rw [hnone]
    exact fun _ => List.not_mem_nil
  rcases s.state.recordResult_cases probe.generation reachable now with ⟨hstale, heq⟩ | ⟨hsame, heq⟩
  · have hold : probe.linkChanges ≠ s.linkChanges := fun hsame => hstale ((h.generation_eq_iff hprobe).mpr hsame)
    unfold Probing.result
    rw [heq] at hconsistent
    rw [heq, if_neg hold]
    exact ⟨h.settings, hconsistent, h.generation, h.bounded, .inl ⟨hnone, rfl⟩, fun other ho => (hissued other ho).elim,
      h.settled, fun _ other ho => (hissued other ho).elim, h.grace, h.observed⟩
  · have hcurrent := (h.generation_eq_iff hprobe).mp hsame
    -- Some result has come, so a failure is no longer forgiven.
    have hgrace : ∀ p : ProbeState, p.linkUpGraceRetry = false →
        (p.linkUpGraceRetry = true ↔ p.lastLinkUp = some true ∧ s.results ++ [reachable] = []) := by
      intro p hp
      simp [hp]
    unfold Probing.result
    rw [if_pos hcurrent]
    rcases heq with ⟨-, heq⟩ | ⟨-, heq⟩ | ⟨hspent, heq⟩ <;> rw [heq] at hconsistent ⊢
    · exact ⟨h.settings, hconsistent, h.generation, h.bounded, .inl ⟨hnone, rfl⟩,
        fun other ho => (hissued other ho).elim, h.settled, fun _ other ho => (hissued other ho).elim, hgrace _ rfl,
        h.observed⟩
    · refine ⟨h.settings, hconsistent, h.generation, h.bounded, .inl ⟨hnone, rfl⟩,
        fun other ho => (hissued other ho).elim, fun hup => ?_, fun _ other ho => (hissued other ho).elim, hgrace _ rfl,
        h.observed⟩
      have hwaited := h.waited hup probe hprobe hcurrent
      exact (hwaited.trans hnow).trans (Nat.le_add_right ..)
    · exact ⟨h.settings, hconsistent, h.generation, h.bounded, .inl ⟨hnone, rfl⟩,
        fun other ho => (hissued other ho).elim, h.settled, fun _ other ho => (hissued other ho).elim, hgrace _ hspent,
        h.observed⟩

end Step

theorem inv_reached (hr : Reached interval settleDelay retryDelay failuresBeforeFailed s) :
    Inv settleDelay retryDelay failuresBeforeFailed s := by
  refine hr.invariant ?_ ?_
  · rintro _ ⟨now, rfl⟩
    exact inv_start now
  · rintro s a _ - h ⟨hallowed, rfl⟩
    cases a with
    | prepare now linkUp => exact h.prepare hallowed.1 hallowed.2
    | result probe reachable now => exact h.result hallowed.1 hallowed.2

/-- The probe in any reached state, whatever the delays, the interval and the number of failures. No more than one
    probe is under way; a result from before the last link change only ends its probe; a probe of a link that is up has
    waited for the settle delay; the first result behind such a change is forgiven when it is a failure, and the probe
    repeated after the retry delay; and the status says what the failures are. -/
theorem probe_states (hr : Reached interval settleDelay retryDelay failuresBeforeFailed s) :
    s.outstanding.length ≤ 1 ∧
    (∀ probe reachable now, s.Allowed (.result probe reachable now) → probe.linkChanges < s.linkChanges →
      (s.result probe reachable now).state = { s.state with inFlight := false }) ∧
    (∀ now generation, s.Allowed (.prepare now true) → (s.state.prepareProbe now true).2 = some generation →
      (s.prepare now true).changedAt + settleDelay ≤ now) ∧
    (∀ probe now, s.Allowed (.result probe false now) → probe.linkChanges = s.linkChanges →
      s.state.lastLinkUp = some true → s.results = [] →
      s.state.consecutiveFailures = 0 ∧ (s.result probe false now).state =
        { s.state with
          inFlight := false, status := .checking, linkUpGraceRetry := false, nextProbe := now + retryDelay }) ∧
    (s.state.status = .reachable → s.state.consecutiveFailures = 0 ∧ s.state.lastSuccess.isSome) ∧
    (s.state.status = .checking → s.state.consecutiveFailures = 0) ∧
    (s.state.status = .missed → 1 ≤ s.state.consecutiveFailures ∧ s.state.consecutiveFailures < failuresBeforeFailed) ∧
    (s.state.status = .failed → failuresBeforeFailed ≤ s.state.consecutiveFailures) := by
  have h := inv_reached hr
  obtain ⟨hsettle, hretry, hfailures⟩ := h.settings
  refine ⟨?_, ?_, ?_, ?_, h.consistent.reachable, h.consistent.checking, hfailures ▸ h.consistent.missed,
    hfailures ▸ h.consistent.failed⟩
  · rcases h.single with ⟨hnone, -⟩ | ⟨probe, hone, -⟩
    · rw [hnone]
      exact Nat.zero_le 1
    · rw [hone]
      exact Nat.le_refl 1
  · rintro probe reachable now ⟨-, hprobe⟩ hold
    refine ProbeState.recordResult_stale fun hsame => ?_
    have := (h.generation_eq_iff hprobe).mp hsame
    omega
  · rintro now generation ⟨hnow, hbound⟩ hsent
    have hprepare := h.observe hnow hbound
    have hup : (s.observe now true).state.lastLinkUp = some true := ProbeState.lastLinkUp_observeLink
    rcases s.prepare_cases now true with ⟨hnone, -⟩ | ⟨-, -, hdue, heq⟩
    · cases hnone.symm.trans hsent
    · rw [heq]
      exact (hprepare.settled hup).trans hdue
  · rintro probe now ⟨-, hprobe⟩ hcurrent hup hresults
    have hgrace := h.grace.mpr ⟨hup, hresults⟩
    refine ⟨h.consistent.forgiving hgrace, ?_⟩
    rw [← hretry]
    exact ProbeState.recordResult_forgiven ((h.generation_eq_iff hprobe).mpr hcurrent) hgrace

/-- The link comes up and goes down and up again while a probe is under way; the probe behind that fails twice. -/
def flaps : List ProbeAction :=
  [.prepare 0 true, .prepare 3 true, .prepare 4 false, .prepare 5 true, .result ⟨1, 1⟩ true 6, .prepare 8 true,
    .result ⟨3, 3⟩ false 9, .prepare 14 true, .result ⟨3, 3⟩ false 15]

def flapped : Probing := flaps.foldl next (start (.newConfigured 0 30 3 5 2) 0)

theorem probe_states_flapped :
    flapped.outstanding.length ≤ 1 ∧ flapped.state.status = .missed ∧
      1 ≤ flapped.state.consecutiveFailures ∧ flapped.state.consecutiveFailures < 2 := by
  have hruns : Transition.Runs Allowed next (start (.newConfigured 0 30 3 5 2) 0) flaps := by decide
  have hr : Reached 30 3 5 2 flapped := Transition.Reachable.run (.init ⟨0, rfl⟩) flaps hruns
  have hstatus : flapped.state.status = .missed := by decide
  obtain ⟨hsingle, -, -, -, -, -, hmissed, -⟩ := probe_states hr
  exact ⟨hsingle, hstatus, hmissed hstatus⟩

end Probing
end Servatory
