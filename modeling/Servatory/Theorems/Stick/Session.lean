import Servatory.Firmware.Render
import Servatory.Lib.Transition
import Servatory.Theorems.Stick.Frame

/-! The session variables of the Stick agree in every state its loop reaches, so that each screen with a
    timeout has the timestamp its timeout needs. -/

namespace Servatory

/-- No message came in: there were no frames, or none that could be decoded. -/
def Input.Quiet (i : Input) : Prop := ∀ frame ∈ i.frames, ∃ e, frame = .error e

namespace Stick

/-- The states of the loop, for any contents of flash and any inputs. -/
abbrev Reachable (build : SoftwareVersion) : Stick → Prop :=
  Transition.Reachable (fun s => ∃ network now, s = boot build network now)
    (fun s (i : Input) t => t = (s.iterate build i).1)

structure Session (s : Stick) : Prop where
  connected : s.daemon = .connected → s.daemonSession.isSome ∧ s.healthSnapshot.isSome ∧ s.lastUpdate.isSome
  stale : s.daemon = .stale → s.daemonSession = none
  poweringOff : s.daemon = .poweringOff → s.shutdownDisplay.isFailed = false → s.lastUpdate.isSome

namespace Session
variable {build : SoftwareVersion} {s t : Stick}

/-- The invariant reads nothing but the session and whether the shutdown failed. -/
theorem congr (h : Session s) (hc : t.core = s.core) (hf : t.shutdownDisplay.isFailed = s.shutdownDisplay.isFailed) :
    Session t := by
  have hd : t.daemon = s.daemon := congrArg Core.daemon hc
  have hn : t.daemonSession = s.daemonSession := congrArg Core.daemonSession hc
  have hu : t.lastUpdate = s.lastUpdate := congrArg Core.lastUpdate hc
  have hs : t.healthSnapshot = s.healthSnapshot := congrArg Core.healthSnapshot hc
  refine ⟨fun h1 => ?_, fun h1 => ?_, fun h1 h2 => ?_⟩
  · rw [hn, hs, hu]
    exact h.connected (hd ▸ h1)
  · rw [hn]
    exact h.stale (hd ▸ h1)
  · rw [hu]
    exact h.poweringOff (hd ▸ h1) (hf ▸ h2)

theorem boot (network : SharedState) (now : Nat) : Session (boot build network now) :=
  ⟨by rintro ⟨⟩, by rintro ⟨⟩, by rintro ⟨⟩⟩

theorem begin (h : Session s) (i : Input) : Session (s.begin build i) :=
  h.congr (core_begin build s i) (by rw [shutdownDisplay_begin])

/-- One case for each kind of frame: what ends `Connected` or enters `PoweringOff` sets what that state needs. -/
theorem receive (h : Session s) (now : Nat) (frame : Except ProtocolError HostMessage) :
    Session (s.receive build now frame) := by
  cases frame with
  | error e =>
    cases e with
    | unsupportedVersion v => exact ⟨by rintro ⟨⟩, by rintro ⟨⟩, by rintro ⟨⟩⟩
    | _ => exact h
  | ok message =>
    cases message with
    | hello version session => exact ⟨by rintro ⟨⟩, by rintro ⟨⟩, by rintro ⟨⟩⟩
    | _ =>
      simp only [Stick.receive, handle]
      split
      · exact h
      · rename_i hsome
        have hsome' : s.daemonSession.isSome := by simpa [Option.isSome_iff_ne_none] using hsome
        first
        | exact ⟨fun _ => ⟨hsome', rfl, rfl⟩, by rintro ⟨⟩, by rintro ⟨⟩⟩
        | exact ⟨by rintro ⟨⟩, by rintro ⟨⟩, fun _ _ => rfl⟩
        | exact ⟨by rintro ⟨⟩, by rintro ⟨⟩, fun _ hf => by cases hf⟩
        | exact ⟨h.connected, h.stale, h.poweringOff⟩

theorem receiveAll (h : Session s) (now : Nat) (frames : List (Except ProtocolError HostMessage)) :
    Session (frames.foldl (fun s frame => s.receive build now frame) s) := by
  induction frames generalizing s with
  | nil => exact h
  | cons frame rest ih => exact ih (h.receive now frame)

theorem checkLink (h : Session s) (now : Nat) : Session (s.checkLink now) := by
  unfold Stick.checkLink
  split
  · exact ⟨by rintro ⟨⟩, fun _ => rfl, by rintro ⟨⟩⟩
  · exact h

theorem finish (h : Session s) (i : Input) : Session (s.finish i) :=
  (h.checkLink i.now).congr (core_finish s i) (by rw [isFailed_finish, shutdownDisplay_checkLink])

theorem update (h : Session s) (build : SoftwareVersion) (i : Input) : Session (s.update build i) :=
  ((h.begin i).receiveAll i.now i.frames).finish i

theorem iterate (h : Session s) (i : Input) : Session (s.iterate build i).1 := (h.update build i).congr rfl rfl

theorem of_reachable (hr : Reachable build s) : Session s := by
  refine Transition.Reachable.invariant ?_ ?_ hr
  · rintro s ⟨network, now, rfl⟩
    exact boot network now
  · rintro s i t - h rfl
    exact h.iterate i

end Session

/-! ### The timeouts fire -/

variable {build : SoftwareVersion} {s : Stick}

/-- Frames that cannot be decoded leave the session alone, or end it. -/
theorem received_quiet (build : SoftwareVersion) (s : Stick) {i : Input} (h : i.Quiet) :
    ((s.received build i).daemon = s.daemon ∨ (s.received build i).daemon = .incompatible) ∧
      (s.received build i).lastUpdate = s.lastUpdate ∧ (s.received build i).shutdownDisplay = s.shutdownDisplay := by
  suffices ∀ (frames : List (Except ProtocolError HostMessage)) (t : Stick),
      (∀ frame ∈ frames, ∃ e, frame = .error e) →
        let u := frames.foldl (fun s frame => s.receive build i.now frame) t
        (u.daemon = t.daemon ∨ u.daemon = .incompatible) ∧ u.lastUpdate = t.lastUpdate ∧
          u.shutdownDisplay = t.shutdownDisplay by
    have hd : (s.begin build i).daemon = s.daemon := congrArg Core.daemon (core_begin build s i)
    have hu : (s.begin build i).lastUpdate = s.lastUpdate := congrArg Core.lastUpdate (core_begin build s i)
    have hs := this i.frames (s.begin build i) h
    rw [hd, hu, shutdownDisplay_begin] at hs
    exact hs
  intro frames
  induction frames with
  | nil => exact fun t _ => ⟨Or.inl rfl, rfl, rfl⟩
  | cons frame rest ih =>
    intro t hall
    obtain ⟨e, rfl⟩ := hall frame (List.mem_cons_self ..)
    obtain ⟨hd, hu, hs⟩ := ih (t.receive build i.now (.error e)) (fun f hf => hall f (List.mem_cons_of_mem _ hf))
    cases e with
    | unsupportedVersion v => exact ⟨Or.inr (hd.elim id id), hu, hs⟩
    | _ => exact ⟨hd, hu, hs⟩

/-- The daemon after an iteration without messages: its link has timed out, or nothing has changed. -/
theorem daemon_iterate_quiet (build : SoftwareVersion) (s : Stick) {i : Input} (h : i.Quiet) :
    (s.iterate build i).1.daemon = .incompatible ∨
      (s.iterate build i).1.daemon = if s.TimesOut i.now then .stale else s.daemon := by
  obtain ⟨hd, hu, -⟩ := received_quiet build s h
  have hfin : (s.iterate build i).1.daemon = ((s.received build i).checkLink i.now).daemon :=
    congrArg Core.daemon (core_finish _ i)
  rw [hfin, daemon_checkLink]
  rcases hd with hd | hd
  · right
    have ht : (s.received build i).TimesOut i.now ↔ s.TimesOut i.now := by unfold TimesOut; rw [hd, hu]
    simp only [ht, hd]
  · left
    rw [if_neg (fun ht => by simp [TimesOut, hd] at ht), hd]

theorem lastUpdate_iterate_quiet {i : Input} (h : i.Quiet) : (s.iterate build i).1.lastUpdate = s.lastUpdate := by
  have hfin : (s.iterate build i).1.lastUpdate = ((s.received build i).checkLink i.now).lastUpdate :=
    congrArg Core.lastUpdate (core_finish _ i)
  rw [hfin, lastUpdate_checkLink, (received_quiet build s h).2.1]

theorem lastUpdate_run_quiet {inputs : List Input} (h : ∀ i ∈ inputs, i.Quiet) :
    (s.run build inputs).lastUpdate = s.lastUpdate := by
  induction inputs generalizing s with
  | nil => rfl
  | cons i rest ih =>
    exact (ih (s := (s.iterate build i).1) fun j hj => h j (List.mem_cons_of_mem _ hj)).trans
      (lastUpdate_iterate_quiet (h i (List.mem_cons_self ..)))

/-- A Stick whose last update is `linkTimeout` old is not connected after an iteration without messages. -/
theorem link_timeout {i : Input} {updated : Nat} (hu : s.lastUpdate = some updated)
    (hnow : updated + linkTimeout ≤ i.now) (h : i.Quiet) : (s.iterate build i).1.daemon ≠ .connected := by
  have hold : s.lastUpdate.any (fun updated => i.now - updated ≥ linkTimeout) = true := by
    simp only [hu, Option.any_some, decide_eq_true_eq]
    omega
  rcases daemon_iterate_quiet build s h with h1 | h1
  · rw [h1]
    decide
  · rw [h1]
    split
    · decide
    · rename_i hnot
      exact fun hc => hnot ⟨hc, hold⟩

theorem isReportingLost_spin (now : Nat) (t : Stick) :
    (t.spin now).shutdownDisplay.isReportingLost = t.shutdownDisplay.isReportingLost := by
  rcases spin_cases now t with h | ⟨spinner, next, remaining, hdisplay, h⟩
  · rw [h]
  · rw [h, hdisplay]
    rfl

theorem isConnectionLost_spin (now : Nat) (t : Stick) :
    (t.spin now).shutdownDisplay.isConnectionLost = t.shutdownDisplay.isConnectionLost := by
  rcases spin_cases now t with h | ⟨spinner, next, remaining, hdisplay, h⟩
  · rw [h]
  · rw [h, hdisplay]
    rfl

/-- A shutdown whose last report is `shutdownReportTimeout` old is shown as lost after the next iteration,
    unless it was shown as failed or the frames are of another protocol. -/
theorem report_timeout {i : Input} (hp : s.daemon = .poweringOff) (hf : s.shutdownDisplay.isFailed = false)
    {updated : Nat} (hu : s.lastUpdate = some updated) (hnow : updated + shutdownReportTimeout ≤ i.now) (h : i.Quiet) :
    (s.iterate build i).1.daemon = .incompatible ∨ (s.iterate build i).1.shutdownDisplay.isReportingLost ∨
      (s.iterate build i).1.shutdownDisplay.isConnectionLost := by
  rcases daemon_iterate_quiet build s h with h1 | h1
  · exact Or.inl h1
  right
  rw [if_neg (by simp [TimesOut, hp]), hp] at h1
  -- The phases behind the link timeout keep the session, so `checkReporting` sees the state the loop began in.
  obtain ⟨-, hmu, hms⟩ := received_quiet build s h
  generalize hm : s.received build i = m at hmu hms
  have hiter : (s.iterate build i).1.core = (m.checkLink i.now).core := by
    rw [core_iterate, update, hm, core_finish]
  generalize hv : ((m.checkLink i.now).pollButton i.now i.pressed).checkUsbLost i.now = v
  have hvc : v.core = (m.checkLink i.now).core := by rw [← hv, (watches_checkUsbLost i.now _).core, core_pollButton]
  have hvd : v.daemon = .poweringOff := (congrArg Core.daemon (hvc.trans hiter.symm)).trans h1
  have hvu : v.lastUpdate = some updated := by
    rw [show v.lastUpdate = (m.checkLink i.now).lastUpdate from congrArg Core.lastUpdate hvc, lastUpdate_checkLink,
      hmu, hu]
  have hvf : v.shutdownDisplay.isFailed = false := by
    rw [← hv, (watches_checkUsbLost i.now _).isFailed, shutdownDisplay_pollButton, shutdownDisplay_checkLink, hms, hf]
  have hold : v.lastUpdate.any (fun updated => i.now - updated ≥ shutdownReportTimeout) = true := by
    simp only [hvu, Option.any_some, decide_eq_true_eq]
    omega
  have hfinal : (s.iterate build i).1.shutdownDisplay = ((v.checkReporting i.now).spin i.now).shutdownDisplay := by
    simp only [iterate, update, finish, hm, hv]
  rw [hfinal, isReportingLost_spin, isConnectionLost_spin]
  unfold checkReporting
  by_cases hr : v.shutdownDisplay.isReportingLost = true
  · left
    split
    · rfl
    · exact hr
  · by_cases hl : v.shutdownDisplay.isConnectionLost = true
    · right
      rw [if_neg (by simp [hl])]
      exact hl
    · left
      rw [if_pos ⟨hvd, by simpa using hr, by simpa using hl, by simp [hvf], hold⟩]
      rfl

/-- The session variables agree, and so each state has the timestamp its timeout needs: a snapshot is there
    to be drawn whenever the Stick is connected, a connected Stick that hears nothing for `linkTimeout`
    leaves `Connected`, and a shutdown that is not reported for `shutdownReportTimeout` is shown as lost. -/
theorem session_consistent (hr : Reachable build s) :
    (s.daemon = .connected → s.daemonSession.isSome ∧ s.healthSnapshot.isSome ∧ s.lastUpdate.isSome) ∧
    (s.daemon = .stale → s.daemonSession = none) ∧
    (s.daemon = .poweringOff → s.shutdownDisplay.isFailed = false → s.lastUpdate.isSome) ∧
    (∀ env i, (s.update build i).screen env ≠ .noSnapshot) ∧
    (s.daemon = .connected → ∃ updated, s.lastUpdate = some updated ∧
      ∀ (quiet : List Input) (i : Input), (∀ j ∈ quiet, j.Quiet) → i.Quiet → updated + linkTimeout ≤ i.now →
        ((s.run build quiet).iterate build i).1.daemon ≠ .connected) ∧
    (s.daemon = .poweringOff → s.shutdownDisplay.isFailed = false → ∃ updated, s.lastUpdate = some updated ∧
      ∀ i : Input, i.Quiet → updated + shutdownReportTimeout ≤ i.now →
        (s.iterate build i).1.daemon = .incompatible ∨ (s.iterate build i).1.shutdownDisplay.isReportingLost ∨
          (s.iterate build i).1.shutdownDisplay.isConnectionLost) := by
  have h := Session.of_reachable hr
  refine ⟨h.connected, h.stale, h.poweringOff, fun env i hs => ?_, fun hc => ?_, fun hp hf => ?_⟩
  · have hu := h.update build i
    unfold screen at hs
    split at hs
    · cases hs
    · split at hs <;> try cases hs
      · rename_i hc
        obtain ⟨snapshot, hsnap⟩ := Option.isSome_iff_exists.mp (hu.connected hc).2.1
        rw [hsnap] at hs
        cases hs
      · repeat' split at hs
        all_goals cases hs
  · obtain ⟨updated, hupd⟩ := Option.isSome_iff_exists.mp (h.connected hc).2.2
    refine ⟨updated, hupd, fun quiet i hquiet hi hnow => ?_⟩
    exact link_timeout ((lastUpdate_run_quiet hquiet).trans hupd) hnow hi
  · obtain ⟨updated, hupd⟩ := Option.isSome_iff_exists.mp (h.poweringOff hp hf)
    exact ⟨updated, hupd, fun i hi hnow => report_timeout hp hf hupd hnow hi⟩

/-- The Stick connects when it has read a Hello and a snapshot. -/
theorem session_consistent_connected :
    let i : Input :=
      ⟨0, true, [.ok (.hello ⟨"1.0"⟩ ⟨7⟩), .ok (.healthSnapshot (.ofGuests "pve" []))], false, 0⟩
    let s := ((boot ⟨"1.0"⟩ .new 0).iterate ⟨"1.0"⟩ i).1
    s.daemon = .connected ∧ s.daemonSession.isSome ∧ s.healthSnapshot.isSome ∧ s.lastUpdate.isSome :=
  ⟨rfl, (session_consistent (.step (.init ⟨.new, 0, rfl⟩) rfl)).1 rfl⟩

end Stick
end Servatory
