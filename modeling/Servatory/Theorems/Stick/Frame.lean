import Servatory.Firmware.Main

/-! What the phases of an iteration leave alone, and what each may change of the session: only a received
    frame and the link timeout touch it, and only the button asks for a shutdown. -/

namespace Servatory

/-- What a session of the Stick consists of. -/
structure Core where
  daemon : DaemonState
  daemonSession : Option HandshakeNonce
  lastUpdate : Option Nat
  healthSnapshot : Option HealthSnapshot
  displayConfig : DisplayConfig
  network : SharedState
  sessionsEnded : Nat

namespace Stick

def core (s : Stick) : Core :=
  ⟨s.daemon, s.daemonSession, s.lastUpdate, s.healthSnapshot, s.displayConfig, s.network, s.sessionsEnded⟩

section
variable {s t : Stick}

theorem daemon_of_core (h : t.core = s.core) : t.daemon = s.daemon := congrArg Core.daemon h

theorem daemonSession_of_core (h : t.core = s.core) : t.daemonSession = s.daemonSession := congrArg Core.daemonSession h

theorem lastUpdate_of_core (h : t.core = s.core) : t.lastUpdate = s.lastUpdate := congrArg Core.lastUpdate h

theorem network_of_core (h : t.core = s.core) : t.network = s.network := congrArg Core.network h

end

def origin (s : Stick) : Origin := ⟨s.daemon, s.daemonSession, s.sessionsEnded⟩

theorem core_enqueue (s : Stick) (message : DeviceMessage) : (s.enqueue message).core = s.core := rfl

theorem shutdownDisplay_enqueue (s : Stick) (message : DeviceMessage) :
    (s.enqueue message).shutdownDisplay = s.shutdownDisplay := rfl

/-! ### The phases before the frames -/

theorem sendHello_cases (build : SoftwareVersion) (now : Nat) (s : Stick) :
    s.sendHello build now = s ∨
      s.sendHello build now = { s.enqueue (deviceHello build s.daemonSession) with lastHello := some now } := by
  rw [sendHello]
  split
  · exact .inr rfl
  · exact .inl rfl

theorem core_begin (build : SoftwareVersion) (s : Stick) (i : Input) : (s.begin build i).core = s.core := by
  rcases sendHello_cases build i.now { s with renderPending := false } with h | h
  · rw [begin, h]
    rfl
  · rw [begin, h]
    rfl

theorem shutdownDisplay_begin (build : SoftwareVersion) (s : Stick) (i : Input) :
    (s.begin build i).shutdownDisplay = s.shutdownDisplay := by
  rcases sendHello_cases build i.now { s with renderPending := false } with h | h
  · rw [begin, h]
    rfl
  · rw [begin, h]
    rfl

theorem usbTx_begin (build : SoftwareVersion) (s : Stick) (i : Input) :
    (s.begin build i).usbTx = s.usbTx ∨
      (s.begin build i).usbTx = s.usbTx.enqueue ⟨deviceHello build s.daemonSession, s.origin⟩ := by
  rcases sendHello_cases build i.now { s with renderPending := false } with h | h
  · rw [begin, h]
    exact .inl rfl
  · rw [begin, h]
    exact .inr rfl

/-! ### The link timeout -/

theorem daemon_checkLink (now : Nat) (s : Stick) :
    (s.checkLink now).daemon = if s.TimesOut now then .stale else s.daemon := by
  rw [checkLink]
  split <;> rfl

theorem lastUpdate_checkLink (now : Nat) (s : Stick) : (s.checkLink now).lastUpdate = s.lastUpdate := by
  rw [checkLink]
  split <;> rfl

theorem network_checkLink (now : Nat) (s : Stick) : (s.checkLink now).network = s.network := by
  rw [checkLink]
  split <;> rfl

theorem shutdownDisplay_checkLink (now : Nat) (s : Stick) : (s.checkLink now).shutdownDisplay = s.shutdownDisplay := by
  rw [checkLink]
  split <;> rfl

theorem usbTx_checkLink (now : Nat) (s : Stick) : (s.checkLink now).usbTx = s.usbTx := by
  rw [checkLink]
  split <;> rfl

/-! ### The button -/

/-- What the button may change without a request: the page, and the bar of a long press. -/
def Browses (s t : Stick) : Prop :=
  ∃ button page showAbout lastShortClick active height pending, t =
    { s with
      button, page, showAbout, lastShortClick
      shutdownAnimationActive := active
      shutdownAnimationHeight := height
      renderPending := pending }

theorem browses_nextScreen (now : Nat) (s : Stick) : Browses s (s.nextScreen now) := by
  unfold nextScreen
  simp only
  split
  · exact ⟨_, _, _, _, _, _, _, rfl⟩
  · split
    · exact ⟨_, _, _, _, _, _, _, rfl⟩
    · split
      · exact ⟨_, _, _, _, _, _, _, rfl⟩
      · exact ⟨_, _, _, _, _, _, _, rfl⟩

theorem browses_stopAnimation (s : Stick) : Browses s s.stopAnimation := by
  unfold stopAnimation
  split
  · exact ⟨_, _, _, _, _, _, _, rfl⟩
  · exact ⟨_, _, _, _, _, _, _, rfl⟩

theorem browses_animate (now animationDelay shutdownHold : Nat) (s : Stick) :
    Browses s (s.animate now animationDelay shutdownHold) := by
  unfold animate
  split
  · split
    · exact ⟨_, _, _, _, _, _, _, rfl⟩
    · exact browses_stopAnimation s
  · exact browses_stopAnimation s

theorem requestShutdown_cases (s : Stick) :
    Browses s s.requestShutdown ∨
      s.daemon = .connected ∧ ∃ t, Browses s t ∧ s.requestShutdown = t.enqueue .shutdownRequested := by
  unfold requestShutdown
  simp only
  split
  · rename_i hconnected
    exact .inr ⟨hconnected, _, ⟨_, _, _, _, _, _, _, rfl⟩, rfl⟩
  · exact .inl ⟨_, _, _, _, _, _, _, rfl⟩

/-- The button turns the page, or asks for a shutdown while the daemon is connected. -/
theorem pollButton_cases (now : Nat) (pressed : Bool) (s : Stick) :
    Browses s (s.pollButton now pressed) ∨
      s.daemon = .connected ∧ ∃ t, Browses s t ∧ s.pollButton now pressed = t.enqueue .shutdownRequested := by
  have hbutton : ∀ {button t}, Browses { s with button } t → Browses s t := by
    rintro button t ⟨_, _, _, _, _, _, _, rfl⟩
    exact ⟨_, _, _, _, _, _, _, rfl⟩
  unfold pollButton
  simp only
  split
  · exact .inl (hbutton (browses_nextScreen now _))
  · rcases requestShutdown_cases _ with h | ⟨hconnected, t, h, heq⟩
    · exact .inl (hbutton h)
    · exact .inr ⟨hconnected, t, hbutton h, heq⟩
  · exact .inl (hbutton (browses_animate now _ _ _))

theorem Browses.core {s t : Stick} (h : Browses s t) : t.core = s.core := by
  obtain ⟨_, _, _, _, _, _, _, rfl⟩ := h
  rfl

theorem Browses.usbTx {s t : Stick} (h : Browses s t) : t.usbTx = s.usbTx := by
  obtain ⟨_, _, _, _, _, _, _, rfl⟩ := h
  rfl

theorem Browses.shutdownDisplay {s t : Stick} (h : Browses s t) : t.shutdownDisplay = s.shutdownDisplay := by
  obtain ⟨_, _, _, _, _, _, _, rfl⟩ := h
  rfl

theorem core_pollButton (now : Nat) (pressed : Bool) (s : Stick) : (s.pollButton now pressed).core = s.core := by
  rcases pollButton_cases now pressed s with h | ⟨-, t, h, heq⟩
  · exact h.core
  · rw [heq, core_enqueue]
    exact h.core

theorem shutdownDisplay_pollButton (now : Nat) (pressed : Bool) (s : Stick) :
    (s.pollButton now pressed).shutdownDisplay = s.shutdownDisplay := by
  rcases pollButton_cases now pressed s with h | ⟨-, t, h, heq⟩
  · exact h.shutdownDisplay
  · rw [heq, shutdownDisplay_enqueue]
    exact h.shutdownDisplay

theorem usbTx_pollButton (now : Nat) (pressed : Bool) (s : Stick) :
    (s.pollButton now pressed).usbTx = s.usbTx ∨
      s.daemon = .connected ∧ (s.pollButton now pressed).usbTx = s.usbTx.enqueue ⟨.shutdownRequested, s.origin⟩ := by
  rcases pollButton_cases now pressed s with h | ⟨hconnected, t, ⟨_, _, _, _, _, _, _, rfl⟩, heq⟩
  · exact .inl h.usbTx
  · rw [heq]
    exact .inr ⟨hconnected, rfl⟩

/-! ### The screen of a shutdown -/

/-- What the checks of a shutdown may change: the screen, but not the guests it counts nor whether the shutdown failed,
    and its timestamps. -/
def Watches (s t : Stick) : Prop :=
  ∃ display spinner lostSince pending, (display.isFailed = s.shutdownDisplay.isFailed ∧
      shutdownRemaining display = shutdownRemaining s.shutdownDisplay) ∧ t =
    { s with
      shutdownDisplay := display
      lastShutdownSpinner := spinner
      shutdownUsbLostSince := lostSince
      renderPending := pending }

theorem watches_checkUsbLost (now : Nat) (s : Stick) : Watches s (s.checkUsbLost now) := by
  unfold checkUsbLost
  split
  · rename_i h
    have hf : s.shutdownDisplay.isFailed = false := by simpa using h.2.1
    split
    · exact ⟨_, _, _, _, ⟨rfl, rfl⟩, rfl⟩
    · simp only
      split
      · refine ⟨_, _, _, _, ?_, rfl⟩
        exact ⟨hf.symm, rfl⟩
      · exact ⟨_, _, _, _, ⟨rfl, rfl⟩, rfl⟩
  · split
    · exact ⟨_, _, _, _, ⟨rfl, rfl⟩, rfl⟩
    · exact ⟨_, _, _, _, ⟨rfl, rfl⟩, rfl⟩

theorem watches_checkReporting (now : Nat) (s : Stick) : Watches s (s.checkReporting now) := by
  unfold checkReporting
  split
  · rename_i h
    have hf : s.shutdownDisplay.isFailed = false := by simpa using h.2.2.2.1
    refine ⟨_, _, _, _, ?_, rfl⟩
    exact ⟨hf.symm, rfl⟩
  · exact ⟨_, _, _, _, ⟨rfl, rfl⟩, rfl⟩

/-- The spinner turns on the screen of a host that powers off. -/
theorem spin_cases (now : Nat) (s : Stick) :
    s.spin now = s ∨
      ∃ spinner next remaining, s.shutdownDisplay = .hostPoweroff spinner remaining ∧
        s.spin now =
          { s with
            shutdownDisplay := .hostPoweroff next remaining
            lastShutdownSpinner := now
            renderPending := true } := by
  unfold spin
  split
  · split
    · rename_i heq
      exact .inr ⟨_, _, _, heq, rfl⟩
    · exact .inl rfl
  · exact .inl rfl

theorem watches_spin (now : Nat) (s : Stick) : Watches s (s.spin now) := by
  rcases spin_cases now s with h | ⟨spinner, next, remaining, hdisplay, h⟩
  · rw [h]
    exact ⟨_, _, _, _, ⟨rfl, rfl⟩, rfl⟩
  · rw [h]
    refine ⟨_, _, _, _, ?_, rfl⟩
    rw [hdisplay]
    exact ⟨rfl, rfl⟩

namespace Watches
variable {s t u : Stick}

theorem trans (h : Watches s t) (h' : Watches t u) : Watches s u := by
  obtain ⟨_, _, _, _, hf, rfl⟩ := h
  obtain ⟨_, _, _, _, hf', rfl⟩ := h'
  exact ⟨_, _, _, _, ⟨hf'.1.trans hf.1, hf'.2.trans hf.2⟩, rfl⟩

theorem core (h : Watches s t) : t.core = s.core := by
  obtain ⟨_, _, _, _, -, rfl⟩ := h
  rfl

theorem usbTx (h : Watches s t) : t.usbTx = s.usbTx := by
  obtain ⟨_, _, _, _, -, rfl⟩ := h
  rfl

/-- Neither the loss of the connection nor a missing report nor the spinner begins or ends a failure. -/
theorem isFailed (h : Watches s t) : t.shutdownDisplay.isFailed = s.shutdownDisplay.isFailed := by
  obtain ⟨_, _, _, _, hf, rfl⟩ := h
  exact hf.1

/-- Nor do they change how many guests are left. -/
theorem remaining (h : Watches s t) : shutdownRemaining t.shutdownDisplay = shutdownRemaining s.shutdownDisplay := by
  obtain ⟨_, _, _, _, hf, rfl⟩ := h
  exact hf.2

end Watches

/-! ### The phases behind the frames -/

theorem watches_finish (s : Stick) (i : Input) : Watches ((s.checkLink i.now).pollButton i.now i.pressed) (s.finish i) :=
  ((watches_checkUsbLost i.now _).trans (watches_checkReporting i.now _)).trans (watches_spin i.now _)

/-- Behind the frames, only the link timeout touches the session. -/
theorem core_finish (s : Stick) (i : Input) : (s.finish i).core = (s.checkLink i.now).core :=
  (watches_finish s i).core.trans (core_pollButton i.now i.pressed _)

/-- A failed shutdown stays on the screen. -/
theorem isFailed_finish (s : Stick) (i : Input) :
    (s.finish i).shutdownDisplay.isFailed = s.shutdownDisplay.isFailed := by
  rw [(watches_finish s i).isFailed, shutdownDisplay_pollButton, shutdownDisplay_checkLink]

/-- So do the guests that are left. -/
theorem remaining_finish (s : Stick) (i : Input) :
    shutdownRemaining (s.finish i).shutdownDisplay = shutdownRemaining s.shutdownDisplay := by
  rw [(watches_finish s i).remaining, shutdownDisplay_pollButton, shutdownDisplay_checkLink]

/-- Behind the frames, a request for a shutdown is queued at most, and only while the daemon is connected. -/
theorem usbTx_finish (s : Stick) (i : Input) :
    (s.finish i).usbTx = s.usbTx ∨
      ((s.checkLink i.now).daemon = .connected ∧
        (s.finish i).usbTx = s.usbTx.enqueue ⟨.shutdownRequested, (s.checkLink i.now).origin⟩) := by
  rw [(watches_finish s i).usbTx, ← usbTx_checkLink i.now s]
  exact usbTx_pollButton i.now i.pressed (s.checkLink i.now)

theorem core_iterate (build : SoftwareVersion) (s : Stick) (i : Input) :
    (s.iterate build i).1.core = (s.update build i).core := rfl

/-! ### What a frame does to the session -/

/-- A frame other than a Hello queues nothing. -/
theorem usbTx_receive (build : SoftwareVersion) (now : Nat) (s : Stick) (frame : Except ProtocolError HostMessage) :
    (s.receive build now frame).usbTx = s.usbTx ∨
      ∃ version session, frame = .ok (.hello version session) ∧
        (s.receive build now frame).usbTx =
          s.usbTx.enqueue ⟨deviceHello build (some session), ⟨.waiting, some session, s.sessionsEnded + 1⟩⟩ := by
  cases frame with
  | error e => cases e <;> exact Or.inl rfl
  | ok message =>
    cases message with
    | hello version session => exact Or.inr ⟨version, session, rfl, rfl⟩
    | _ =>
      left
      simp only [receive, handle]
      split <;> rfl

end Stick
end Servatory
