import Servatory.Lib.Transition
import Servatory.Theorems.Stick.Frame

/-! A request for a shutdown that is still queued when its session ends stays queued, and goes out in a later
    session or in none. Runs in which no session ends over a queued request never send one that late. -/

namespace Servatory.Stick
variable {build : SoftwareVersion} {s : Stick} {i : Input}

/-- The requests for a shutdown of which no byte has gone out. -/
def pendingRequests (s : Stick) : List Outgoing := s.usbTx.unstarted.filter (·.message = .shutdownRequested)

theorem mem_pendingRequests {o : Outgoing} :
    o ∈ s.pendingRequests ↔ o ∈ s.usbTx.unstarted ∧ o.message = .shutdownRequested := by
  simp [pendingRequests]

/-- The iteration reads a Hello, or the link times out in it. -/
def EndsSession (build : SoftwareVersion) (s : Stick) (i : Input) : Prop :=
  (∃ version session, .ok (.hello version session) ∈ i.frames) ∨ (s.received build i).TimesOut i.now

/-- No session ends over a queued request. -/
def Clean (build : SoftwareVersion) (s : Stick) (i : Input) : Prop := s.EndsSession build i → s.pendingRequests = []

/-- The states of the loop when no session ends over a queued request. -/
abbrev CleanReachable (build : SoftwareVersion) : Stick → Prop :=
  Transition.Reachable (fun s => ∃ network now, s = boot build network now)
    (fun s (i : Input) t => s.Clean build i ∧ t = (s.iterate build i).1)

/-- Queuing a Hello adds no request. -/
theorem pendingRequests_enqueueHello {tx : UsbTx} {o p : Outgoing} (hp : p.message ≠ .shutdownRequested)
    (h : o ∈ (tx.enqueue p).unstarted) (ho : o.message = .shutdownRequested) : o ∈ tx.unstarted := by
  rcases UsbTx.mem_enqueue h with h | rfl
  · exact h
  · exact absurd ho hp

theorem mem_begin {o : Outgoing} (h : o ∈ (s.begin build i).pendingRequests) : o ∈ s.pendingRequests := by
  rw [mem_pendingRequests] at h ⊢
  refine ⟨?_, h.2⟩
  rcases usbTx_begin build s i with ht | ht <;> rw [ht] at h
  · exact h.1
  · exact pendingRequests_enqueueHello (by simp [deviceHello]) h.1 h.2

theorem mem_receive {now : Nat} {frame : Except ProtocolError HostMessage} {o : Outgoing}
    (h : o ∈ (s.receive build now frame).pendingRequests) : o ∈ s.pendingRequests := by
  rw [mem_pendingRequests] at h ⊢
  refine ⟨?_, h.2⟩
  rcases usbTx_receive build now s frame with ht | ⟨version, session, -, ht⟩ <;> rw [ht] at h
  · exact h.1
  · exact pendingRequests_enqueueHello (by simp [deviceHello]) h.1 h.2

/-- The requests behind the frames of an iteration were there before it. -/
theorem mem_received (build : SoftwareVersion) (i : Input) {o : Outgoing} (h : o ∈ (s.received build i).pendingRequests) : o ∈ s.pendingRequests := by
  suffices ∀ (frames : List (Except ProtocolError HostMessage)) (t : Stick),
      o ∈ (frames.foldl (fun s frame => s.receive build i.now frame) t).pendingRequests → o ∈ t.pendingRequests from
    mem_begin (this i.frames _ h)
  intro frames
  induction frames with
  | nil => exact fun t ht => ht
  | cons frame rest ih => exact fun t ht => mem_receive (ih _ ht)

theorem sessionsEnded_receive {now : Nat} {frame : Except ProtocolError HostMessage}
    (h : ∀ version session, frame ≠ .ok (.hello version session)) :
    (s.receive build now frame).sessionsEnded = s.sessionsEnded := by
  cases frame with
  | error e => cases e <;> rfl
  | ok message =>
    cases message with
    | hello version session => exact absurd rfl (h version session)
    | _ =>
      simp only [receive, handle]
      split <;> rfl

theorem sessionsEnded_received (h : ¬∃ version session, .ok (.hello version session) ∈ i.frames) :
    (s.received build i).sessionsEnded = s.sessionsEnded := by
  suffices ∀ (frames : List (Except ProtocolError HostMessage)) (t : Stick),
      (∀ frame ∈ frames, ∀ version session, frame ≠ .ok (.hello version session)) →
        (frames.foldl (fun s frame => s.receive build i.now frame) t).sessionsEnded = t.sessionsEnded by
    have hb : (s.begin build i).sessionsEnded = s.sessionsEnded := congrArg Core.sessionsEnded (core_begin build s i)
    rw [received, this i.frames _ (fun frame hf version session he => h ⟨version, session, he ▸ hf⟩), hb]
  intro frames
  induction frames with
  | nil => exact fun t _ => rfl
  | cons frame rest ih =>
    intro t hall
    rw [List.foldl_cons, ih _ (fun f hf => hall f (List.mem_cons_of_mem _ hf)),
      sessionsEnded_receive (hall frame (List.mem_cons_self ..))]

theorem sessionsEnded_checkLink {now : Nat} (h : ¬s.TimesOut now) : (s.checkLink now).sessionsEnded = s.sessionsEnded := by
  unfold checkLink
  rw [if_neg h]

/-- A request queued in an iteration was queued behind the link timeout, while the daemon was connected. -/
theorem mem_update {o : Outgoing} (h : o ∈ (s.update build i).pendingRequests) :
    o ∈ s.pendingRequests ∨
      ((s.received build i).checkLink i.now).daemon = .connected ∧
        o.origin = ((s.received build i).checkLink i.now).origin := by
  rw [mem_pendingRequests] at h
  rcases usbTx_finish (s.received build i) i with ht | ⟨hd, ht⟩
  · have hu : (s.update build i).usbTx = (s.received build i).usbTx := ht
    rw [hu] at h
    exact Or.inl (mem_received build i (mem_pendingRequests.mpr h))
  · have hu : (s.update build i).usbTx = _ := ht
    rw [hu] at h
    rcases UsbTx.mem_enqueue h.1 with h1 | rfl
    · exact Or.inl (mem_received build i (mem_pendingRequests.mpr ⟨h1, h.2⟩))
    · exact Or.inr ⟨hd, rfl⟩

/-- Every queued request belongs to the session that is on. -/
def Current (s : Stick) : Prop := ∀ o ∈ s.pendingRequests, o.origin.sessionsEnded = s.sessionsEnded

theorem Current.update (h : Current s) (hc : s.Clean build i) : Current (s.update build i) := by
  intro o ho
  have hcore : (s.update build i).sessionsEnded = ((s.received build i).checkLink i.now).sessionsEnded :=
    congrArg Core.sessionsEnded (core_finish _ i)
  rw [hcore]
  rcases mem_update ho with hs | ⟨-, hs⟩
  · have hnot : ¬s.EndsSession build i := by
      intro he
      rw [hc he] at hs
      cases hs
    simp only [EndsSession, not_or] at hnot
    rw [sessionsEnded_checkLink hnot.2, sessionsEnded_received hnot.1]
    exact h o hs
  · rw [hs]
    rfl

theorem Current.of_reachable (hr : CleanReachable build s) : Current s := by
  refine Transition.Reachable.invariant ?_ ?_ hr
  · rintro s ⟨network, now, rfl⟩ o ho
    rw [mem_pendingRequests] at ho
    have hnew : o ∈ UsbTx.new.unstarted := pendingRequests_enqueueHello (by simp [deviceHello]) ho.1 ho.2
    cases hnew
  · rintro s i t - h ⟨hc, rfl⟩ o ho
    have ho' : o ∈ (s.update build i).pendingRequests := by
      rw [mem_pendingRequests] at ho ⊢
      exact ⟨UsbTx.mem_poll ho.1, ho.2⟩
    exact h.update hc o ho'

/-- When no session of a run ends over a queued request, every request goes out in the session it was queued
    in. -/
theorem request_in_session (hr : CleanReachable build s) (hc : s.Clean build i) {o : Outgoing}
    (hs : (s.iterate build i).2.started = some o) (hm : o.message = .shutdownRequested) :
    o.origin.sessionsEnded = (s.iterate build i).1.sessionsEnded :=
  (Current.of_reachable hr).update hc o (mem_pendingRequests.mpr ⟨UsbTx.started_poll hs, hm⟩)

/-- The Stick connects while the button goes down, and keeps it pressed for as long as the inputs below last. -/
def connectPressing : List Input :=
  [⟨0, true, [.ok (.hello ⟨"1.0"⟩ ⟨7⟩), .ok (.healthSnapshot (.ofGuests "pve" []))], true, 20⟩,
    ⟨40000, true, [], true, 20⟩, ⟨50000, true, [], true, 20⟩]

theorem request_in_session_pressed :
    (⟨.connected, some ⟨7⟩, 1⟩ : Origin).sessionsEnded =
      (((boot ⟨"1.0"⟩ .new 0).run ⟨"1.0"⟩ connectPressing).iterate ⟨"1.0"⟩
        ⟨4000000, true, [], true, 20⟩).1.sessionsEnded :=
  request_in_session (o := ⟨.shutdownRequested, ⟨.connected, some ⟨7⟩, 1⟩⟩)
    (.step (.step (.step (.init ⟨.new, 0, rfl⟩) ⟨fun _ => rfl, rfl⟩) ⟨fun _ => rfl, rfl⟩) ⟨fun _ => rfl, rfl⟩)
    (fun _ => rfl) rfl rfl

set_option maxRecDepth 4000 in
/-- The peripheral takes nothing while the request is made, and takes frames again after the link timeout has
    ended the session. -/
theorem request_replayed :
    let s := (boot ⟨"1.0"⟩ .new 0).run ⟨"1.0"⟩
      (connectPressing ++ [⟨4000000, true, [], true, 0⟩, ⟨15000000, true, [], false, 0⟩])
    let o : Outgoing := ⟨.shutdownRequested, ⟨.connected, some ⟨7⟩, 1⟩⟩
    s.daemon = .stale ∧ s.daemonSession = none ∧ s.sessionsEnded = 2 ∧
      (s.iterate ⟨"1.0"⟩ ⟨15010000, true, [], false, 20⟩).2.started = some o := by
  decide

end Servatory.Stick
