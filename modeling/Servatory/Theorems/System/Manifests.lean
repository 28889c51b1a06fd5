import Servatory.Lib.History
import Servatory.Theorems.System.Authenticity

/-! Before a snapshot the Stick has both manifests of its session. The daemon writes them when the handshake is
    established and trusts from then on that they arrive; whether they do depends on which frames are lost. -/

namespace Servatory

namespace HostMessage

def isHello : HostMessage → Bool
  | hello _ _ => true
  | _ => false

def isDisplay : HostMessage → Bool
  | displayConfig _ => true
  | _ => false

def isNetwork : HostMessage → Bool
  | networkConfig _ => true
  | _ => false

end HostMessage

/-- The messages of a log behind its last Hello. -/
def sinceHello (log : List HostMessage) : List HostMessage := (log.reverse.takeWhile fun m => !m.isHello).reverse

/-- Both manifests have come since the last Hello. -/
def ManifestsSeen (log : List HostMessage) : Prop :=
  (sinceHello log).any (·.isDisplay) ∧ (sinceHello log).any (·.isNetwork)

instance (log : List HostMessage) : Decidable (ManifestsSeen log) := inferInstanceAs (Decidable (_ ∧ _))

theorem sinceHello_concat (log : List HostMessage) (m : HostMessage) :
    sinceHello (log ++ [m]) = if m.isHello then [] else sinceHello log ++ [m] := by
  unfold sinceHello
  rw [List.reverse_append, List.reverse_singleton, List.singleton_append]
  cases h : m.isHello
  · rw [List.takeWhile_cons_of_pos (by rw [h]; rfl), List.reverse_cons]
    rfl
  · rw [List.takeWhile_cons_of_neg (by rw [h]; decide)]
    rfl

/-! ### What the Stick makes of the messages on their way -/

/-- Whether the Stick is in a session, and which manifests it has had in it. -/
structure View where
  session : Bool
  display : Bool
  network : Bool

namespace View

def Full (v : View) : Prop := v.display = true ∧ v.network = true

/-- A snapshot would find what it needs. -/
def Ready (v : View) : Prop := v.session = true → v.Full

/-- After a message. -/
def take (v : View) (m : HostMessage) : View :=
  if m.isHello then ⟨true, false, false⟩
  else if v.session then ⟨true, v.display || m.isDisplay, v.network || m.isNetwork⟩
  else v

/-- Every snapshot among the messages finds what it needs. -/
def Safe : View → List HostMessage → Prop
  | _, [] => True
  | v, m :: rest => (m.isSnapshot = true → v.Ready) ∧ Safe (v.take m) rest

variable {v : View} {m : HostMessage} {before after : List HostMessage}

theorem safe_append : Safe v (before ++ after) ↔ Safe v before ∧ Safe (before.foldl take v) after := by
  induction before generalizing v with
  | nil => simp [Safe]
  | cons m rest ih => simp only [List.cons_append, Safe, List.foldl_cons, ih, and_assoc]

/-- A Hello starts the same session everywhere, and nothing else starts one. -/
theorem take_eq_of_no_session {w : View} (hw : w.session = false) (m : HostMessage) :
    w.take m = v.take m ∨ w.take m = w := by
  cases hm : m.isHello
  · exact .inr (by simp [take, hm, hw])
  · exact .inl (by rw [take, take, if_pos hm, if_pos hm])

/-- Outside a session no snapshot is accepted. -/
theorem safe_of_no_session (h : Safe v after) {w : View} (hw : w.session = false) : Safe w after := by
  induction after generalizing v with
  | nil => trivial
  | cons m rest ih =>
    refine ⟨fun _ hs => absurd (hw.symm.trans hs) (by decide), ?_⟩
    rcases take_eq_of_no_session (v := v) hw m with hsame | hsame
    · rw [hsame]
      exact h.2
    · rw [hsame]
      exact ih h.2

theorem ready_of_no_session (h : (after.foldl take v).Ready) {w : View} (hw : w.session = false) :
    (after.foldl take w).Ready := by
  induction after generalizing v with
  | nil => exact fun hs => absurd (hw.symm.trans hs) (by decide)
  | cons m rest ih =>
    rw [List.foldl_cons] at h ⊢
    rcases take_eq_of_no_session (v := v) hw m with hsame | hsame
    · rw [hsame]
      exact h
    · rw [hsame]
      exact ih h

theorem session_take (hm : m.isHello = false) : (v.take m).session = v.session := by
  rw [take, if_neg (by rw [hm]; decide)]
  split
  · rename_i hs
    exact hs.symm
  · rfl

theorem full_take (h : v.Full) (hm : m.isHello = false) : (v.take m).Full := by
  obtain ⟨hd, hn⟩ := h
  rw [take, if_neg (by rw [hm]; decide)]
  split
  · rw [hd, hn]
    exact ⟨rfl, rfl⟩
  · exact ⟨hd, hn⟩

theorem ready_take (h : v.Ready) (hm : m.isHello = false) : (v.take m).Ready := by
  intro hs
  rw [session_take hm] at hs
  exact full_take (h hs) hm

/-- Behind both manifests, every message but a Hello is welcome. -/
theorem safe_of_ready (h : v.Ready) (hm : ∀ m ∈ after, m.isHello = false) :
    Safe v after ∧ (after.foldl take v).Ready := by
  induction after generalizing v with
  | nil => exact ⟨trivial, h⟩
  | cons m rest ih =>
    obtain ⟨hsafe, hready⟩ := ih (ready_take h (hm m (List.mem_cons_self ..))) fun x hx => hm x (List.mem_cons_of_mem _ hx)
    exact ⟨⟨fun _ => h, hsafe⟩, hready⟩

/-- Messages without a snapshot are always welcome. -/
theorem safe_of_no_snapshot (hm : ∀ m ∈ after, m.isSnapshot = false) : Safe v after := by
  induction after generalizing v with
  | nil => trivial
  | cons m rest ih =>
    refine ⟨fun hs => ?_, ih fun x hx => hm x (List.mem_cons_of_mem _ hx)⟩
    rw [hm m (List.mem_cons_self ..)] at hs
    cases hs

theorem ready_manifests (v : View) (display : DisplayConfig) (network : NetworkConfig) :
    ((v.take (.displayConfig display)).take (.networkConfig network)).Ready := by
  obtain ⟨session, d, n⟩ := v
  cases session with
  | false => exact fun hs => by cases hs
  | true =>
    intro _
    simp [take, Full, HostMessage.isHello, HostMessage.isDisplay, HostMessage.isNetwork]

end View

/-! ### What the daemon sends -/

namespace Host
variable {config : Config} {build : SoftwareVersion} {h : Host}

/-- The daemon has established the handshake, and has written the manifests since. -/
def Trusts (h : Host) : Prop := h.handshakeEstablished = true ∧ h.manifestPending = false

/-- Either the daemon trusted that the manifests arrive and sends no Hello, or it sends no snapshot and trusts only
    behind both manifests. -/
def SendsSafely (h h' : Host) (more : List HostMessage) : Prop :=
  (h.Trusts ∧ ∀ m ∈ more, m.isHello = false) ∨
    (∀ m ∈ more, m.isSnapshot = false) ∧
      (h'.Trusts → ∃ display network, more = [.displayConfig display, .networkConfig network])

/-- Messages that neither greet nor report, while the handshake stands. -/
theorem sendsSafely_of_same {h' : Host} {more : List HostMessage} (he : h'.handshakeEstablished = h.handshakeEstablished)
    (hp : h'.manifestPending = h.manifestPending) (hhello : ∀ m ∈ more, m.isHello = false)
    (hsnapshot : ∀ m ∈ more, m.isSnapshot = false) : SendsSafely h h' more := by
  by_cases ht : h.Trusts
  · exact .inl ⟨ht, hhello⟩
  · refine .inr ⟨hsnapshot, fun ht' => absurd ?_ ht⟩
    exact ⟨he ▸ ht'.1, hp ▸ ht'.2⟩

theorem sendsSafely_nil {h' : Host} (he : h'.handshakeEstablished = h.handshakeEstablished)
    (hp : h'.manifestPending = h.manifestPending) : SendsSafely h h' [] :=
  sendsSafely_of_same he hp (fun _ hm => by cases hm) (fun _ hm => by cases hm)

/-- The handshake is off, or the manifests are yet to be written. -/
theorem sendsSafely_of_not_trusts {h' : Host} (ht : ¬h'.Trusts) : SendsSafely h h' [] :=
  .inr ⟨(fun _ hm => by cases hm), fun ht' => absurd ht' ht⟩

theorem sendsSafely_sendHello (now sentAt : Nat) (phase : Phase) (outcomes : List WriteOutcome) :
    SendsSafely h { (h.sendHello build now sentAt (.new outcomes)).1 with phase }
      (h.sendHello build now sentAt (.new outcomes)).2.sent := by
  have hsends := sends_sendHello build now sentAt h (.new outcomes)
  injection hsends.handshake with _ hpending hest _
  obtain ⟨more, hsent, hmore⟩ := hsends.world.sent
  rw [hsent]
  show SendsSafely _ _ more
  cases more with
  | nil => exact sendsSafely_nil hest hpending
  | cons m rest =>
    refine .inr ⟨fun x hx => ?_, fun ht => ?_⟩
    · rw [(hmore x hx).1]
      rfl
    · have hno : h.handshakeEstablished = true := hest ▸ ht.1
      rw [(hmore m (List.mem_cons_self ..)).2] at hno
      cases hno

theorem sendsSafely_sendManifest (phase : Phase) (outcomes : List WriteOutcome) :
    SendsSafely h { (h.sendManifest (.new outcomes)).1 with phase } (h.sendManifest (.new outcomes)).2.sent := by
  rcases sendManifest_cases h (.new outcomes) with
    ⟨-, h1⟩ | ⟨⟨-, hpending⟩, ⟨text, outcomes', went, h1⟩ | ⟨outcomes', ⟨text, outcomes'', went, h1⟩ | ⟨outcomes'', h1⟩⟩⟩
  all_goals rw [h1]
  · exact sendsSafely_nil rfl rfl
  · refine .inr ⟨?_, fun ht => absurd (hpending.symm.trans ht.2) (by decide)⟩
    cases went <;> simp [World.failed, World.new, HostMessage.isSnapshot]
  · refine .inr ⟨?_, fun ht => absurd (hpending.symm.trans ht.2) (by decide)⟩
    cases went <;> simp [World.failed, World.wrote, World.new, HostMessage.isSnapshot]
  · refine .inr ⟨?_, fun _ => ⟨_, _, rfl⟩⟩
    simp [World.wrote, World.new, HostMessage.isSnapshot]

theorem IsData.isHello {m : HostMessage} (hm : IsData m) : m.isHello = false := by
  cases m with
  | hello version session => exact hm.elim
  | _ => rfl

theorem sendsSafely_sendUpdate (hm : h.ManifestFirst) (hu : h.phase = .update) (now sentAt : Nat) (phase : Phase)
    (outcomes : List WriteOutcome) :
    SendsSafely h { (h.sendUpdate config build now sentAt (.new outcomes)).1 with phase }
      (h.sendUpdate config build now sentAt (.new outcomes)).2.sent := by
  have hsends : Sends IsData h (.new outcomes) (h.sendUpdate config build now sentAt (.new outcomes)) :=
    sends_sendUpdate now sentAt h (.new outcomes)
  obtain ⟨more, hsent, hmore⟩ := hsends.world.sent
  have hsent : (h.sendUpdate config build now sentAt (.new outcomes)).2.sent = more := hsent
  rcases sendUpdate_cases config build now sentAt h (.new outcomes) with h1 | ⟨hdue, -⟩
  · rw [h1]
    exact sendsSafely_nil rfl rfl
  · rw [hsent]
    exact .inl ⟨⟨hdue.1, hm hu hdue.1 (Option.isNone_iff_eq_none.mp hdue.2.1)⟩, fun m hx => (hmore m hx).isHello⟩

theorem sendsSafely_receive (a : Arrival) (outcomes : List WriteOutcome) :
    SendsSafely h (h.receive config a (.new outcomes)).1 (h.receive config a (.new outcomes)).2.sent := by
  rcases receive_cases config a h (.new outcomes) with
    ⟨version, -, ⟨-, h1⟩ | ⟨-, h1⟩⟩ | ⟨version, session, -, -, h1⟩ | ⟨-, ⟨phase, connectionError, h1, -⟩, hw⟩
  · rw [h1]
    exact sendsSafely_nil rfl rfl
  · rw [h1]
    exact sendsSafely_of_not_trusts fun ht => by cases ht.2
  · rw [h1]
    exact sendsSafely_of_not_trusts fun ht => by cases ht.1
  · obtain ⟨more, hsent, hmore⟩ := hw.sent
    rw [h1, hsent]
    refine sendsSafely_of_same rfl rfl ?_ ?_
    · intro m hx
      have hm : m.IsShutdown := hmore m hx
      cases m <;> first | rfl | exact hm.elim
    · intro m hx
      have hm : m.IsShutdown := hmore m hx
      cases m <;> first | rfl | exact hm.elim

/-- Every step of the loop sends safely. -/
theorem sendsSafely_step (hm : h.ManifestFirst) (e : HostEvent) (outcomes : List WriteOutcome) :
    SendsSafely h (h.step config build e (.new outcomes)).1 (h.step config build e (.new outcomes)).2.sent := by
  unfold step
  cases e with
  | collected snapshot => exact sendsSafely_nil rfl rfl
  | opened result =>
    simp only
    split
    · exact sendsSafely_nil rfl rfl
    · split
      · exact sendsSafely_nil rfl rfl
      · cases result with
        | none => exact sendsSafely_nil rfl rfl
        | some opened => exact sendsSafely_of_not_trusts fun ht => by cases ht.1
  | hello now sentAt =>
    simp only
    split
    · exact sendsSafely_nil rfl rfl
    · exact sendsSafely_sendHello now sentAt _ outcomes
  | manifest =>
    simp only
    split
    · exact sendsSafely_nil rfl rfl
    · exact sendsSafely_sendManifest _ outcomes
  | update now sentAt =>
    simp only
    split
    · exact sendsSafely_nil rfl rfl
    · rename_i hu
      exact sendsSafely_sendUpdate hm (Decidable.not_not.mp hu) now sentAt _ outcomes
  | frame arrival =>
    simp only
    split
    · exact sendsSafely_nil rfl rfl
    · exact sendsSafely_receive arrival outcomes
  | read failed =>
    simp only
    split
    · exact sendsSafely_nil rfl rfl
    · exact sendsSafely_nil rfl rfl
  | close =>
    simp only
    split
    · exact sendsSafely_nil rfl rfl
    · exact sendsSafely_nil rfl rfl

end Host

/-! ### Both parties -/

namespace System
variable {config : Config} {daemon firmware : SoftwareVersion} {s t : System}

/-- What the Stick has had of its session. -/
def view (s : System) : View where
  session := s.stick.daemonSession.isSome
  display := (sinceHello s.accepted).any (·.isDisplay)
  network := (sinceHello s.accepted).any (·.isNetwork)

/-- Every snapshot that the Stick has accepted found both manifests. -/
def SnapshotsManifested (log : List HostMessage) : Prop :=
  History.Each (fun before m => m.isSnapshot = true → ManifestsSeen before) log

/-- What every action keeps while frames are lost only at the ends of the channel. The snapshots on their way will find
    the manifests, and once the daemon has written them, so will those to come. -/
structure Manifested (s : System) : Prop where
  accepted : SnapshotsManifested s.accepted
  connected : s.stick.daemon = .connected → ManifestsSeen s.accepted
  safe : s.view.Safe s.toStick
  ready : s.host.Trusts → (s.toStick.foldl View.take s.view).Ready
  manifestFirst : s.host.ManifestFirst

namespace Manifested

theorem congr (h : Manifested s) (hhost : t.host = s.host) (hcore : t.stick.core = s.stick.core)
    (hto : t.toStick = s.toStick) (ha : t.accepted = s.accepted) : Manifested t := by
  have hdaemon : t.stick.daemon = s.stick.daemon := congrArg Core.daemon hcore
  have hsession : t.stick.daemonSession = s.stick.daemonSession := congrArg Core.daemonSession hcore
  have hview : t.view = s.view := by rw [view, hsession, ha, view]
  exact ⟨ha ▸ h.accepted, hdaemon ▸ ha ▸ h.connected, hview ▸ hto ▸ h.safe, hview ▸ hto ▸ hhost ▸ h.ready,
    hhost ▸ h.manifestFirst⟩

/-- Without a session the Stick waits for the next Hello, whatever it has missed before that. -/
theorem leave (h : Manifested s) (hhost : t.host = s.host) (hsession : t.stick.daemonSession = none)
    (hdaemon : t.stick.daemon ≠ .connected) (hto : t.toStick <:+ s.toStick) (ha : SnapshotsManifested t.accepted) : Manifested t := by
  obtain ⟨before, hto⟩ := hto
  have hview : t.view.session = false := by rw [view, hsession]; rfl
  have hsafe : View.Safe (before.foldl View.take s.view) t.toStick := by
    have hsafe := h.safe
    rw [← hto, View.safe_append] at hsafe
    exact hsafe.2
  refine ⟨ha, fun hc => absurd hc hdaemon, View.safe_of_no_session hsafe hview, fun ht => ?_, hhost ▸ h.manifestFirst⟩
  have hready := h.ready (hhost ▸ ht)
  rw [← hto, List.foldl_append] at hready
  exact View.ready_of_no_session hready hview

/-- A daemon without a handshake counts on nothing, whatever is missing behind the frames that arrive. -/
theorem lose (h : Manifested s) (hest : t.host.handshakeEstablished = false) (hstick : t.stick = s.stick)
    (ha : t.accepted = s.accepted) (hto : t.toStick <+: s.toStick) (hm : t.host.ManifestFirst) : Manifested t := by
  obtain ⟨after, hto⟩ := hto
  have hview : t.view = s.view := by rw [view, hstick, ha, view]
  have hsafe := h.safe
  rw [← hto, View.safe_append] at hsafe
  exact ⟨ha ▸ h.accepted, hstick ▸ ha ▸ h.connected, hview ▸ hsafe.1,
    fun ht => absurd (hest.symm.trans ht.1) (by decide), hm⟩

theorem hostStep (h : Manifested s) (event : HostEvent) (outcomes : List WriteOutcome) :
    Manifested (s.hostStep config daemon event outcomes) := by
  have hview : (s.hostStep config daemon event outcomes).view = s.view := rfl
  have hto : (s.hostStep config daemon event outcomes).toStick =
      s.toStick ++ (s.host.step config daemon event (.new outcomes)).2.sent := rfl
  have hm : (s.hostStep config daemon event outcomes).host.ManifestFirst := h.manifestFirst.step event (.new outcomes)
  rcases @Host.sendsSafely_step config daemon s.host h.manifestFirst event outcomes with
    ⟨htrusts, hhello⟩ | ⟨hsnapshot, hmanifests⟩
  · obtain ⟨hsafe, hready⟩ := View.safe_of_ready (h.ready htrusts) hhello
    refine ⟨h.accepted, h.connected, ?_, fun _ => ?_, hm⟩
    · rw [hview, hto, View.safe_append]
      exact ⟨h.safe, hsafe⟩
    · rw [hview, hto, List.foldl_append]
      exact hready
  · refine ⟨h.accepted, h.connected, ?_, fun ht => ?_, hm⟩
    · rw [hview, hto, View.safe_append]
      exact ⟨h.safe, View.safe_of_no_snapshot hsnapshot⟩
    · obtain ⟨display, network, hsent⟩ := hmanifests ht
      rw [hview, hto, hsent, List.foldl_append]
      exact View.ready_manifests _ display network

end Manifested

theorem eq_ok_of_toOption {frame : Except ProtocolError HostMessage} {m : HostMessage} (h : frame.toOption = some m) :
    frame = .ok m := by
  cases frame with
  | error e => cases h
  | ok x => exact congrArg _ (Option.some.inj h)

theorem accepts_of_not_hello {stick : Stick} {m : HostMessage} (hm : m.isHello = false) :
    stick.accepts m = stick.daemonSession.isSome := by
  cases m with
  | hello version session => cases hm
  | _ => rfl

/-- The Stick takes a message: it has had one more, or has no session to put it in. -/
theorem view_receive (now : Nat) (s : System) (frame : Except ProtocolError HostMessage) :
    (s.receive firmware now frame).view = frame.toOption.toList.foldl View.take s.view := by
  cases frame with
  | error e =>
    have hsession : (s.stick.receive firmware now (.error e)).daemonSession = s.stick.daemonSession :=
      daemonSession_receive (by rintro _ _ ⟨⟩)
    simp only [view, receive, hsession, Except.toOption, Option.toList, Option.filter_none, List.append_nil,
      List.foldl_nil]
  | ok m =>
    simp only [Except.toOption, Option.toList_some, List.foldl_cons, List.foldl_nil]
    cases hm : m.isHello with
    | true =>
      obtain ⟨version, session, rfl⟩ : ∃ version session, m = .hello version session := by
        cases m <;> first | exact ⟨_, _, rfl⟩ | cases hm
      have ha : (s.receive firmware now (.ok (.hello version session))).accepted =
          s.accepted ++ [.hello version session] := rfl
      rw [view, ha, sinceHello_concat, if_pos hm, View.take, if_pos hm]
      rfl
    | false =>
      have hsession : (s.stick.receive firmware now (.ok m)).daemonSession = s.stick.daemonSession := by
        refine daemonSession_receive ?_
        rintro version session heq
        obtain rfl := Except.ok.inj heq
        cases hm
      have ha : (s.receive firmware now (.ok m)).accepted =
          s.accepted ++ ((some m).filter s.stick.accepts).toList := rfl
      have hs : (s.receive firmware now (.ok m)).stick = s.stick.receive firmware now (.ok m) := rfl
      rw [view, ha, hs, hsession, View.take, if_neg (by rw [hm]; decide), Option.filter_some, accepts_of_not_hello hm]
      cases hsome : s.stick.daemonSession.isSome with
      | false =>
        have hview : s.view.session = false := hsome
        simp only [Bool.false_eq_true, if_false, Option.toList_none, List.append_nil, hview]
        rw [view, hsome]
      | true =>
        have hview : s.view.session = true := hsome
        simp only [if_true, Option.toList_some, sinceHello_concat, hm, Bool.false_eq_true, if_false, List.any_append,
          List.any_cons, List.any_nil, Bool.or_false, hview]
        rfl

/-- A frame leads to `Connected` only if it is a snapshot of the session; a Hello never leaves it on. -/
theorem connected_receive {now : Nat} {stick : Stick} {frame : Except ProtocolError HostMessage}
    (h : (stick.receive firmware now frame).daemon = .connected) :
    (∃ snapshot, frame = .ok (.healthSnapshot snapshot) ∧ stick.daemonSession.isSome) ∨
      stick.daemon = .connected ∧ ∀ m, frame = .ok m → m.isHello = false := by
  cases frame with
  | error e =>
    refine .inr ⟨?_, by rintro _ ⟨⟩⟩
    cases e <;> first | exact h | cases h
  | ok message =>
    cases message with
    | hello version session => cases h
    | healthSnapshot snapshot =>
      by_cases hs : stick.daemonSession.isNone
      · simp only [Stick.receive, Stick.handle, hs, if_true] at h
        exact .inr ⟨h, by rintro _ ⟨⟩; rfl⟩
      · exact .inl ⟨snapshot, rfl, by simpa [Option.isSome_iff_ne_none] using hs⟩
    | _ =>
      refine .inr ⟨?_, by rintro _ ⟨⟩; rfl⟩
      simp only [Stick.receive, Stick.handle] at h
      split at h <;> first | exact h | cases h

namespace Manifested

theorem receive (h : Manifested s) (now : Nat) {frame : Except ProtocolError HostMessage}
    (hp : frame.toOption.toList <+: s.toStick) : Manifested (s.receive firmware now frame) := by
  obtain ⟨rest, hrest⟩ := hp
  have hto : (s.receive firmware now frame).toStick = rest := by
    rw [System.receive, ← hrest, List.drop_left]
  have hsafe := h.safe
  have hready := h.ready
  rw [← hrest, View.safe_append, ← view_receive now s frame] at hsafe
  rw [← hrest, List.foldl_append, ← view_receive now s frame] at hready
  -- A snapshot that is accepted is the next message, and comes in a session.
  have hsnapshot : ∀ m, frame = .ok m → m.isSnapshot = true → s.stick.daemonSession.isSome → ManifestsSeen s.accepted := by
    rintro m rfl hm hs
    exact hsafe.1.1 hm hs
  refine ⟨?_, fun hc => ?_, hto ▸ hsafe.2, hto ▸ hready, h.manifestFirst⟩
  · have ha : (s.receive firmware now frame).accepted = s.accepted ++ (frame.toOption.filter s.stick.accepts).toList := rfl
    rw [ha]
    rcases hf : frame.toOption.filter s.stick.accepts with _ | m
    · rw [Option.toList_none, List.append_nil]
      exact h.accepted
    · obtain ⟨hframe, haccepts⟩ := Option.filter_eq_some_iff.mp hf
      refine History.each_concat.mpr ⟨h.accepted, fun hm => hsnapshot m (eq_ok_of_toOption hframe) hm ?_⟩
      rw [accepts_of_not_hello (by cases m <;> first | rfl | cases hm)] at haccepts
      exact haccepts
  · have hkeep : ∀ m, frame = .ok m → m.isHello = false → s.view.Full → (s.receive firmware now frame).view.Full := by
      rintro m rfl hm hfull
      rw [view_receive]
      exact View.full_take hfull hm
    rcases connected_receive hc with ⟨snapshot, hf, hs⟩ | ⟨hconnected, hf⟩
    · exact hkeep _ hf rfl (hsnapshot _ hf rfl hs)
    · cases frame with
      | error e =>
        show (s.receive firmware now (.error e)).view.Full
        rw [view_receive]
        exact h.connected hconnected
      | ok m => exact hkeep m rfl (hf m rfl) (h.connected hconnected)

theorem receiveAll (h : Manifested s) (firmware : SoftwareVersion) (now : Nat) (frames : List (Except ProtocolError HostMessage))
    (hp : frames.filterMap (·.toOption) <+: s.toStick) : Manifested (frames.foldl (System.receive firmware now) s) := by
  induction frames generalizing s with
  | nil => exact h
  | cons frame rest ih =>
    rw [messages_cons] at hp
    refine ih (h.receive now ((List.prefix_append _ _).trans hp)) ?_
    obtain ⟨more, hmore⟩ := hp
    refine ⟨more, ?_⟩
    rw [System.receive, ← hmore, List.append_assoc, List.drop_left]

theorem iterate (h : Manifested s) {i : Input} (hp : i.messages <+: s.toStick) :
    Manifested (s.next config daemon firmware (.iterate i)) := by
  have hbegin : Manifested { s with stick := s.stick.begin firmware i } :=
    h.congr rfl (Stick.core_begin firmware s.stick i) rfl rfl
  have hreceive := hbegin.receiveAll firmware i.now i.frames hp
  rw [foldl_receive] at hreceive
  have hfinish : (s.next config daemon firmware (.iterate i)).stick.core =
      ((s.stick.received firmware i).checkLink i.now).core := Stick.core_finish (s.stick.received firmware i) i
  by_cases htimeout : (s.stick.received firmware i).TimesOut i.now
  · rw [Stick.checkLink, if_pos htimeout] at hfinish
    refine hreceive.leave rfl (congrArg Core.daemonSession hfinish) ?_ (List.suffix_refl _) hreceive.accepted
    rw [show (s.next config daemon firmware (.iterate i)).stick.daemon = .stale from congrArg Core.daemon hfinish]
    decide
  · rw [Stick.checkLink, if_neg htimeout] at hfinish
    exact hreceive.congr rfl hfinish rfl rfl

theorem next (h : Manifested s) {a : Action} (ha : s.Allowed config daemon .ends a) :
    Manifested (s.next config daemon firmware a) := by
  cases a with
  | phase event outcomes => exact h.hostStep event outcomes
  | opened now nonce toStick toHost =>
    obtain ⟨hphase, hclosed, -, hto, -⟩ := ha
    have hstep : s.next config daemon firmware (.opened now nonce toStick toHost) =
        { s with
          host := s.host.reopen now nonce
          toStick, toHost
          nonces := nonce :: s.nonces
          greeted := [] } := by
      simp only [System.next, System.hostStep, Host.step_opened hphase hclosed, World.new, List.append_nil]
    rw [hstep]
    refine h.lose rfl rfl rfl (List.isPrefixOf_iff_prefix.mp hto) ?_
    exact Host.manifestFirst_of_phase (by rintro ⟨⟩)
  | frame now host outcomes =>
    simp only [System.next]
    split
    · exact h
    · rename_i o rest hto
      exact (h.congr (t := { s with toHost := rest }) rfl rfl rfl rfl).hostStep _ outcomes
  | restart now nonce toStick toHost =>
    simp only [System.next]
    split
    · exact h
    · rename_i host hb
      obtain ⟨display, network, -, -, rfl⟩ := Host.boot_eq_ok hb
      exact h.lose rfl rfl rfl (List.isPrefixOf_iff_prefix.mp ha.2.2.1)
        (Host.manifestFirst_new display network nonce now)
  | iterate input => exact h.iterate (List.isPrefixOf_iff_prefix.mp ha)
  | reboot network now toStick toHost =>
    exact h.leave rfl rfl (by rintro ⟨⟩) (List.isSuffixOf_iff_suffix.mp ha.1) History.each_nil

theorem initial (hi : Initial config daemon firmware s) : Manifested s := by
  obtain ⟨nonce, network, now, hb, hstick, hs, -, -, -, ha⟩ := hi
  obtain ⟨display, manifest, -, -, hhost⟩ := Host.boot_eq_ok hb
  refine ⟨?_, fun hc => ?_, ?_, fun ht => ?_, ?_⟩
  · rw [ha]
    exact History.each_nil
  · rw [hstick] at hc
    cases hc
  · rw [hs]
    trivial
  · rw [hhost] at ht
    cases ht.1
  · rw [hhost]
    exact Host.manifestFirst_new display manifest nonce now

end Manifested

theorem manifested (hr : Reachable config daemon firmware .ends s) : Manifested s := by
  refine hr.invariant (P := Manifested) ?_ ?_
  · exact fun s hi => Manifested.initial hi
  · rintro s a t - hs ⟨ha, rfl⟩
    exact hs.next ha

/-- Whatever is lost, a daemon with a handshake has had its current nonce taken by the Stick. And as long as frames are
    lost only at the ends of the channel, the Stick has had both manifests of its session before each snapshot that
    it accepts, and whenever it is connected. -/
theorem handshake_agrees :
    (∀ s, Reachable config daemon firmware .any s → s.host.handshakeEstablished = true →
      s.host.handshakeNonce ∈ s.greeted) ∧
    ∀ s, Reachable config daemon firmware .ends s →
      SnapshotsManifested s.accepted ∧ (s.stick.daemon = .connected → ManifestsSeen s.accepted) :=
  ⟨fun _ hr he => (authentic hr).challenge.greeted_of_established he,
    fun _ hr => ⟨(manifested hr).accepted, (manifested hr).connected⟩⟩

set_option maxRecDepth 20000 in
theorem handshake_agrees_connected :
    let s := (shakeHands ++ sendSnapshot 0 ++ pressButton).foldl (System.next Config.guestsOnly ⟨"1.0"⟩ ⟨"1.0"⟩) started
    s.host.handshakeNonce ∈ s.greeted ∧ SnapshotsManifested s.accepted ∧ ManifestsSeen s.accepted := by
  intro s
  have hany : Reachable Config.guestsOnly ⟨"1.0"⟩ ⟨"1.0"⟩ .any s := .run (.init started_initial) _ (by decide)
  have hends : Reachable Config.guestsOnly ⟨"1.0"⟩ ⟨"1.0"⟩ .ends s := .run (.init started_initial) _ (by decide)
  obtain ⟨hseen, hconnected⟩ := handshake_agrees.2 s hends
  exact ⟨handshake_agrees.1 s hany (by decide), hseen, hconnected (by decide)⟩

/-- The daemon repeats its Hello before the Stick answers, and sends the manifests and a snapshot behind it. -/
def repeatHello : List Action :=
  [.opened 0 ⟨7⟩ [] [], .phase (.hello 0 0) [], .phase .manifest [], .phase (.update 0 0) [], .phase (.read false) [],
    .phase .close [], .phase (.opened none) [], .phase (.hello 1000000 1000000) [],
    .iterate ⟨990000, true, [.ok (.hello ⟨"1.0"⟩ ⟨7⟩)], false, 200⟩, .iterate ⟨1000000, true, [], false, 200⟩,
    .iterate ⟨1000000, true, [], false, 200⟩, .phase .manifest [], .phase (.update 1000000 1000000) [],
    .frame 1000000 ⟨none, none, []⟩ [], .frame 1000000 ⟨none, none, []⟩ [], .frame 1000000 ⟨none, none, []⟩ [],
    .phase (.read false) [], .phase .close []] ++ sendSnapshot 1000000

def greeting : HostMessage := .hello ⟨"1.0"⟩ ⟨7⟩

def networkManifest : HostMessage := .networkConfig (Config.guestsOnly.networkManifest 0)

def emptySnapshot : HostMessage := .healthSnapshot (.ofGuests "pve" [])

/-- The Stick starts again, only the display manifest is lost, and the Stick takes the rest. -/
def loseDisplay : List Action :=
  [.reboot .new 2000000 [greeting, networkManifest, emptySnapshot] [],
    .iterate ⟨2000000, true, [.ok greeting, .ok networkManifest, .ok emptySnapshot], false, 200⟩]

set_option maxRecDepth 20000 in
theorem snapshot_without_display :
    ¬∀ s, Reachable Config.guestsOnly ⟨"1.0"⟩ ⟨"1.0"⟩ .any s → SnapshotsManifested s.accepted := by
  intro h
  have hr : Reachable Config.guestsOnly ⟨"1.0"⟩ ⟨"1.0"⟩ .any
      ((repeatHello ++ loseDisplay).foldl (System.next Config.guestsOnly ⟨"1.0"⟩ ⟨"1.0"⟩) started) :=
    .run (.init started_initial) _ (by decide)
  have hseen := h _ hr [greeting, networkManifest] emptySnapshot [] (by decide) rfl
  exact absurd hseen (by decide)

end System
end Servatory
