import Servatory.Lib.Challenge
import Servatory.System
import Servatory.Theorems.Host.Phases
import Servatory.Theorems.Stick.Requests
import Servatory.Theorems.Stick.Session

/-! The daemon and the Stick run a challenge: the daemon's nonce is the challenge, and a Hello of the Stick that carries
    it the acknowledgement. Every step of the two is a series of steps of that protocol, whatever frames are
    lost. -/

namespace Servatory
open Challenge (Link Step Steps)

def HostMessage.down : HostMessage → Challenge.Down HandshakeNonce
  | hello _ session => .hello session
  | _ => .other

def Outgoing.up (o : Outgoing) : Challenge.Up HandshakeNonce :=
  match o.message with
  | .hello _ (some session) => .ack session
  | .hello _ none => .other
  | .shutdownRequested => o.origin.daemonSession.elim .other .request

namespace System
variable {config : Config} {daemon firmware : SoftwareVersion} {s : System}

/-- The messages on their way to the daemon, and those that the Stick has not begun to send. -/
def pending (s : System) : List Outgoing := s.toHost ++ s.stick.usbTx.unstarted

/-- What the protocol sees of both parties. -/
def link (s : System) : Link HandshakeNonce where
  nonce := s.host.handshakeNonce
  used := s.nonces
  established := s.host.handshakeEstablished
  session := s.stick.daemonSession
  greeted := s.greeted
  down := s.toStick.map (·.down)
  up := s.pending.map (·.up)

/-! ### The daemon -/

theorem down_of_not_hello {m : HostMessage} (hm : ∀ version session, m ≠ .hello version session) : m.down = .other := by
  cases m with
  | hello version session => exact absurd rfl (hm version session)
  | _ => rfl

/-- Messages with no other Hello than that of the nonce are sent one by one. -/
theorem steps_send (l : Link HandshakeNonce) (more : List HostMessage) (h : ∀ m ∈ more, Host.OwnHello l.nonce m) :
    Steps l { l with down := l.down ++ more.map (·.down) } := by
  induction more generalizing l with
  | nil =>
    rw [List.map_nil, List.append_nil]
  | cons m rest ih =>
    rw [List.map_cons, List.append_cons]
    have hrest := ih { l with down := l.down ++ [m.down] } fun x hx => h x (List.mem_cons_of_mem _ hx)
    refine .head ?_ hrest
    by_cases hm : ∃ version session, m = .hello version session
    · obtain ⟨version, session, rfl⟩ := hm
      obtain rfl : session = l.nonce := h _ (List.mem_cons_self ..) version session rfl
      exact .hello l
    · rw [down_of_not_hello fun version session heq => hm ⟨version, session, heq⟩]
      exact .send l

theorem link_hostStep {event : HostEvent} {outcomes : List WriteOutcome} {host : Host} {w : World}
    (hr : s.host.step config daemon event (.new outcomes) = (host, w)) :
    (s.hostStep config daemon event outcomes).link =
      { s.link with
        nonce := host.handshakeNonce
        established := host.handshakeEstablished
        down := s.link.down ++ w.sent.map (·.down) } := by
  simp only [link, hostStep, pending, hr, List.map_append]

/-- A step of the daemon that leaves the handshake alone. -/
theorem steps_hostStep {event : HostEvent} {outcomes : List WriteOutcome} {host : Host} {w : World}
    (hr : s.host.step config daemon event (.new outcomes) = (host, w))
    (hn : host.handshakeNonce = s.host.handshakeNonce) (he : host.handshakeEstablished = s.host.handshakeEstablished)
    (hw : (World.new outcomes).Extends (Host.OwnHello s.host.handshakeNonce) w) :
    Steps s.link (s.hostStep config daemon event outcomes).link := by
  obtain ⟨more, hsent, hmore⟩ := hw.sent
  have hsent : w.sent = more := hsent
  rw [link_hostStep hr, hn, he, hsent]
  exact steps_send s.link more hmore

theorem steps_phase {event : HostEvent} (he : event.isInternal) (outcomes : List WriteOutcome) :
    Steps s.link (s.hostStep config daemon event outcomes).link := by
  obtain ⟨hn, hest, hw⟩ := @Host.step_internal config daemon event he s.host (.new outcomes)
  exact steps_hostStep rfl hn hest hw

/-- The daemon takes the next message. -/
theorem steps_frame {o : Outgoing} {rest : List Outgoing} (hto : s.toHost = o :: rest) (hphase : s.host.phase = .reading)
    (now : Nat) (host : ShutdownHost) (outcomes : List WriteOutcome) :
    Steps s.link ({ s with toHost := rest }.hostStep config daemon (.frame ⟨.ok o.message, now, host⟩) outcomes).link := by
  have hup : s.link.up = o.up :: (rest ++ s.stick.usbTx.unstarted).map (·.up) := by
    simp only [link, pending, hto, List.cons_append, List.map_cons]
  have htake : Step s.link { s with toHost := rest }.link := .take s.link o.up _ hup
  have hstep := @Host.step_frame config daemon s.host hphase ⟨.ok o.message, now, host⟩ (.new outcomes)
  rcases Host.receive_cases config ⟨.ok o.message, now, host⟩ s.host (.new outcomes) with
    ⟨version, hm, ⟨hest, h1⟩ | ⟨hest, h1⟩⟩ | ⟨version, session, hm, hother, h1⟩ | ⟨hm, ⟨phase, error, h1, -⟩, hw⟩
  · exact .head htake (steps_hostStep (s := { s with toHost := rest }) (hstep.trans h1) rfl rfl .refl)
  · rw [link_hostStep (s := { s with toHost := rest }) (hstep.trans h1), World.new, List.map_nil, List.append_nil]
    refine .single (.establish s.link _ ?_)
    rw [hup, Outgoing.up, show o.message = .hello version (some s.host.handshakeNonce) from Except.ok.inj hm]
    rfl
  · rw [link_hostStep (s := { s with toHost := rest }) (hstep.trans h1), World.new, List.map_nil, List.append_nil]
    exact .tail (.single htake) (.reset _)
  · rcases hr : s.host.receive config ⟨.ok o.message, now, host⟩ (.new outcomes) with ⟨host', w⟩
    rw [hr] at h1 hw
    obtain rfl := h1
    refine .head htake (steps_hostStep (s := { s with toHost := rest }) (hstep.trans hr) rfl rfl (hw.mono ?_))
    rintro m hshutdown version session rfl
    exact hshutdown.elim

/-- The port is opened, or the daemon starts: some frames are lost, and the nonce is new. -/
theorem steps_fresh (host : Host) {toStick : List HostMessage} {toHost : List Outgoing}
    (hn : host.handshakeNonce ∉ s.nonces) (he : host.handshakeEstablished = false) (hs : toStick.Sublist s.toStick)
    (hh : toHost.Sublist s.toHost) :
    Steps s.link { s with
      host, toStick, toHost
      nonces := host.handshakeNonce :: s.nonces
      greeted := [] }.link := by
  have hlose : Step s.link { s with toStick, toHost }.link :=
    .lose s.link _ _ (hs.map _) ((hh.append (.refl _)).map _)
  have hlink : { s with
      host, toStick, toHost
      nonces := host.handshakeNonce :: s.nonces
      greeted := [] }.link =
        { { s with toStick, toHost }.link with
          nonce := host.handshakeNonce
          used := host.handshakeNonce :: s.nonces
          established := false
          greeted := [] } := by
    simp only [link, pending, he]
  rw [hlink]
  exact .tail (.single hlose) (.fresh _ _ hn)

/-! ### The Stick -/

/-- The Stick queues a message; the queue may drop one. -/
theorem steps_enqueue {o : Outgoing} {t : Stick} (ht : t.usbTx = s.stick.usbTx.enqueue o)
    (hs : t.daemonSession = s.stick.daemonSession) (hstep : Step s.link { s.link with up := s.link.up ++ [o.up] }) :
    Steps s.link { s with stick := t }.link := by
  have hsub : ((s.toHost ++ t.usbTx.unstarted).map (·.up)).Sublist (s.link.up ++ [o.up]) := by
    have hqueue := (List.Sublist.refl s.toHost).append (UsbTx.enqueue_sublist s.stick.usbTx o)
    rw [← ht, ← List.append_assoc] at hqueue
    simpa only [link, pending, List.map_append, List.map_cons, List.map_nil] using hqueue.map (·.up)
  have hlink : { s with stick := t }.link =
      { { s.link with up := s.link.up ++ [o.up] } with up := (s.toHost ++ t.usbTx.unstarted).map (·.up) } := by
    simp only [link, pending, hs]
  rw [hlink]
  exact .tail (.single hstep) (.lose _ _ _ (.refl _) hsub)

/-- A Hello of the Stick carries the session that is on. -/
theorem step_deviceHello (origin : Origin) :
    Step s.link { s.link with
      up := s.link.up ++ [Outgoing.up ⟨deviceHello firmware s.stick.daemonSession, origin⟩] } := by
  cases hs : s.stick.daemonSession with
  | none => exact .answer s.link
  | some session => exact .ack s.link session hs

theorem steps_begin (i : Input) : Steps s.link { s with stick := s.stick.begin firmware i }.link := by
  have hsession : (s.stick.begin firmware i).daemonSession = s.stick.daemonSession :=
    congrArg Core.daemonSession (Stick.core_begin firmware s.stick i)
  rcases Stick.usbTx_begin firmware s.stick i with ht | ht
  · have hlink : { s with stick := s.stick.begin firmware i }.link = s.link := by
      simp only [link, pending, ht, hsession]
    rw [hlink]
  · exact steps_enqueue ht hsession (step_deviceHello _)

/-- A frame that is no Hello leaves the session alone. -/
theorem daemonSession_receive {now : Nat} {t : Stick} {frame : Except ProtocolError HostMessage}
    (h : ∀ version session, frame ≠ .ok (.hello version session)) :
    (t.receive firmware now frame).daemonSession = t.daemonSession := by
  cases frame with
  | error e => cases e <;> rfl
  | ok message =>
    cases message with
    | hello version session => exact absurd rfl (h version session)
    | _ =>
      simp only [Stick.receive, Stick.handle]
      split <;> rfl

theorem usbTx_receive_of_ne {now : Nat} {t : Stick} {frame : Except ProtocolError HostMessage}
    (h : ∀ version session, frame ≠ .ok (.hello version session)) :
    (t.receive firmware now frame).usbTx = t.usbTx := by
  rcases Stick.usbTx_receive firmware now t frame with ht | ⟨version, session, hf, -⟩
  · exact ht
  · exact absurd hf (h version session)

/-- The Stick after a frame of an iteration, which was the next one if it is a message. -/
def receive (firmware : SoftwareVersion) (now : Nat) (s : System) (frame : Except ProtocolError HostMessage) : System :=
  { s with
    stick := s.stick.receive firmware now frame
    toStick := s.toStick.drop frame.toOption.toList.length
    greeted := s.greeted ++ helloNonces frame.toOption.toList
    accepted := s.accepted ++ (frame.toOption.filter s.stick.accepts).toList }

theorem steps_receive (now : Nat) {frame : Except ProtocolError HostMessage}
    (h : frame.toOption.toList <+: s.toStick) : Steps s.link (s.receive firmware now frame).link := by
  cases frame with
  | error e =>
    have hlink : (s.receive firmware now (.error e)).link = s.link := by
      have hsession : (s.stick.receive firmware now (.error e)).daemonSession = s.stick.daemonSession :=
        daemonSession_receive nofun
      have husb : (s.stick.receive firmware now (.error e)).usbTx = s.stick.usbTx := usbTx_receive_of_ne nofun
      simp only [link, pending, receive, hsession, husb, Except.toOption, Option.toList, helloNonces, List.filterMap_nil,
        List.append_nil, List.length_nil, List.drop_zero]
    rw [hlink]
  | ok message =>
    obtain ⟨rest, hrest⟩ := h
    have hrest : s.toStick = message :: rest := hrest.symm
    have hdown : s.link.down = message.down :: rest.map (·.down) := by
      simp only [link, hrest, List.map_cons]
    by_cases hm : ∃ version session, message = .hello version session
    · obtain ⟨version, session, rfl⟩ := hm
      have htake : Step s.link { s with
          stick := { s.stick with daemonSession := some session }
          toStick := rest
          greeted := s.greeted ++ [session] }.link := .takeHello s.link session _ hdown
      have hreceive : s.receive firmware now (.ok (.hello version session)) =
          { s with
            stick := s.stick.receive firmware now (.ok (.hello version session))
            toStick := rest
            greeted := s.greeted ++ [session]
            accepted := s.accepted ++ [.hello version session] } := by
        simp only [receive, Except.toOption, Option.toList, List.length_singleton, hrest, List.drop_succ_cons,
          List.drop_zero]
        rfl
      rw [hreceive]
      exact .head htake (steps_enqueue (t := s.stick.receive firmware now (.ok (.hello version session))) rfl rfl
        (.ack _ session rfl))
    · have hm : ∀ version session, message ≠ .hello version session := fun version session heq => hm ⟨version, session, heq⟩
      have hf : ∀ version session, (.ok message : Except ProtocolError HostMessage) ≠ .ok (.hello version session) :=
        fun version session heq => hm version session (Except.ok.inj heq)
      have hlink : (s.receive firmware now (.ok message)).link = { s.link with down := rest.map (·.down) } := by
        have hnone : helloNonces [message] = [] := by
          cases message with
          | hello version session => exact absurd rfl (hm version session)
          | _ => rfl
        have hsession : (s.stick.receive firmware now (.ok message)).daemonSession = s.stick.daemonSession :=
          daemonSession_receive hf
        have husb : (s.stick.receive firmware now (.ok message)).usbTx = s.stick.usbTx := usbTx_receive_of_ne hf
        simp only [link, pending, receive, hsession, husb, Except.toOption, Option.toList, hnone, List.append_nil,
          List.length_singleton, hrest, List.drop_succ_cons, List.drop_zero]
      rw [hlink]
      refine .single (.takeOther s.link _ ?_)
      rw [hdown, down_of_not_hello hm]

theorem messages_cons (frame : Except ProtocolError HostMessage) (frames : List (Except ProtocolError HostMessage)) :
    (frame :: frames).filterMap (·.toOption) = frame.toOption.toList ++ frames.filterMap (·.toOption) := by
  cases frame <;> rfl

/-- The frames of an iteration, one after the other. -/
theorem steps_receiveAll (firmware : SoftwareVersion) (now : Nat) (frames : List (Except ProtocolError HostMessage))
    (h : frames.filterMap (·.toOption) <+: s.toStick) :
    Steps s.link (frames.foldl (receive firmware now) s).link := by
  induction frames generalizing s with
  | nil => exact .refl
  | cons frame rest ih =>
    rw [messages_cons] at h
    have hfirst : frame.toOption.toList <+: s.toStick := (List.prefix_append _ _).trans h
    refine (steps_receive now hfirst).trans (ih ?_)
    obtain ⟨more, hmore⟩ := h
    refine ⟨more, ?_⟩
    rw [receive, ← hmore, List.append_assoc, List.drop_left]

/-- All frames of an iteration at once. -/
theorem foldl_receive (now : Nat) (frames : List (Except ProtocolError HostMessage)) (s : System) :
    frames.foldl (receive firmware now) s =
      { s with
        stick := frames.foldl (fun t frame => t.receive firmware now frame) s.stick
        toStick := s.toStick.drop (frames.filterMap (·.toOption)).length
        greeted := s.greeted ++ helloNonces (frames.filterMap (·.toOption))
        accepted := s.accepted ++ s.stick.accepted firmware now frames } := by
  induction frames generalizing s with
  | nil =>
    simp only [List.foldl_nil, List.filterMap_nil, List.length_nil, List.drop_zero, helloNonces, Stick.accepted,
      List.append_nil]
  | cons frame rest ih =>
    rw [List.foldl_cons, ih, messages_cons, List.foldl_cons]
    simp only [receive, List.drop_drop, List.length_append, helloNonces, List.filterMap_append, List.append_assoc,
      Stick.accepted]

/-- The rest of an iteration. A request is queued while the daemon is connected, which is within a session. -/
theorem steps_finish (hsession : Stick.Session s.stick) (i : Input) :
    Steps s.link { s with stick := s.stick.finish i }.link := by
  have hcheck : Steps s.link { s with stick := s.stick.checkLink i.now }.link := by
    unfold Stick.checkLink
    split
    · exact .single (.leave s.link)
    · exact .refl
  refine hcheck.trans ?_
  have hfinish : (s.stick.finish i).daemonSession = (s.stick.checkLink i.now).daemonSession :=
    congrArg Core.daemonSession (Stick.core_finish s.stick i)
  rcases Stick.usbTx_finish s.stick i with ht | ⟨hconnected, ht⟩
  · rw [← Stick.usbTx_checkLink i.now s.stick] at ht
    have hlink : { s with stick := s.stick.finish i }.link = { s with stick := s.stick.checkLink i.now }.link := by
      simp only [link, pending, ht, hfinish]
    rw [hlink]
  · rw [← Stick.usbTx_checkLink i.now s.stick] at ht
    refine steps_enqueue (s := { s with stick := s.stick.checkLink i.now }) ht hfinish ?_
    obtain ⟨session, hs⟩ := Option.isSome_iff_exists.mp ((hsession.checkLink i.now).connected hconnected).1
    have hup : Outgoing.up ⟨.shutdownRequested, (s.stick.checkLink i.now).origin⟩ = .request session := by
      simp only [Outgoing.up, Stick.origin, hs, Option.elim_some]
    rw [hup]
    exact .request _ session hs

/-- The peripheral takes some bytes. -/
theorem steps_poll (accepted : Nat) :
    Steps s.link { s with
      stick := { s.stick with usbTx := (s.stick.usbTx.poll accepted).usbTx }
      toHost := s.toHost ++ (s.stick.usbTx.poll accepted).started.toList }.link := by
  have hsub := (List.Sublist.refl s.toHost).append (UsbTx.poll_sublist s.stick.usbTx accepted)
  rw [← List.append_assoc] at hsub
  exact .single (.lose s.link _ _ (.refl _) (hsub.map (·.up)))

/-- A whole iteration of the Stick. -/
theorem steps_iterate (hsession : Stick.Session s.stick) {i : Input} (h : i.messages <+: s.toStick) :
    Steps s.link { s with
      stick := (s.stick.iterate firmware i).1
      toStick := s.toStick.drop i.messages.length
      toHost := s.toHost ++ (s.stick.iterate firmware i).2.started.toList
      greeted := s.greeted ++ helloNonces i.messages }.link := by
  have hbegin : Steps s.link { s with stick := s.stick.begin firmware i }.link := steps_begin i
  have hreceive := steps_receiveAll (s := { s with stick := s.stick.begin firmware i }) firmware i.now i.frames h
  rw [foldl_receive] at hreceive
  have hreceived : Stick.Session (s.stick.received firmware i) := (hsession.begin i).receiveAll i.now i.frames
  have hfinish := steps_finish (s := { s with
    stick := s.stick.received firmware i
    toStick := s.toStick.drop i.messages.length
    greeted := s.greeted ++ helloNonces i.messages }) hreceived i
  have hpoll := steps_poll (s := { s with
    stick := s.stick.update firmware i
    toStick := s.toStick.drop i.messages.length
    greeted := s.greeted ++ helloNonces i.messages }) i.accepted
  exact ((hbegin.trans hreceive).trans hfinish).trans hpoll

theorem unstarted_boot (network : SharedState) (now : Nat) :
    (Stick.boot firmware network now).usbTx.unstarted = [⟨deviceHello firmware none, ⟨.waiting, none, 0⟩⟩] := rfl

/-- The Stick starts again, and greets without a session. -/
theorem steps_reboot (network : SharedState) (now : Nat) {toStick : List HostMessage} {toHost : List Outgoing}
    (hs : toStick.Sublist s.toStick) (hh : toHost.Sublist s.toHost) :
    Steps s.link { s with
      stick := .boot firmware network now
      toStick, toHost
      accepted := [] }.link := by
  have hup : (toHost.map (·.up)).Sublist s.link.up :=
    (hh.trans (List.sublist_append_left s.toHost s.stick.usbTx.unstarted)).map _
  have hlose : Step s.link { s.link with down := toStick.map (·.down), up := toHost.map (·.up) } :=
    .lose s.link _ _ (hs.map _) hup
  have hlink : { s with
      stick := .boot firmware network now
      toStick, toHost
      accepted := [] }.link =
        { s.link with session := none, down := toStick.map (·.down), up := toHost.map (·.up) ++ [.other] } := by
    simp only [link, pending, unstarted_boot, List.map_append, List.map_cons, List.map_nil]
    rfl
  rw [hlink]
  exact .tail (.tail (.single hlose) (.leave _)) (.answer _)

/-- Every action of the daemon, the Stick and the channels is a series of steps of the challenge. -/
theorem steps_next (hsession : Stick.Session s.stick) {a : Action} (ha : s.Allowed config daemon .any a) :
    Steps s.link (s.next config daemon firmware a).link := by
  cases a with
  | phase event outcomes => exact steps_phase ha outcomes
  | opened now nonce toStick toHost =>
    obtain ⟨hphase, hclosed, hn, hs, hh⟩ := ha
    have hstep : (s.next config daemon firmware (.opened now nonce toStick toHost)).link =
        { s with
          host := s.host.reopen now nonce
          toStick, toHost
          nonces := nonce :: s.nonces
          greeted := [] }.link := by
      simp only [next, hostStep, Host.step_opened hphase hclosed, World.new, List.append_nil]
    rw [hstep]
    exact steps_fresh (s.host.reopen now nonce) hn rfl (List.isSublist_iff_sublist.mp hs) (List.isSublist_iff_sublist.mp hh)
  | frame now host outcomes =>
    obtain ⟨hphase, hne⟩ := ha
    obtain ⟨o, rest, hto⟩ := List.exists_cons_of_ne_nil hne
    simp only [next, hto]
    exact steps_frame hto hphase now host outcomes
  | restart now nonce toStick toHost =>
    obtain ⟨hok, hn, hs, hh⟩ := ha
    cases hb : Host.boot config daemon nonce now with
    | error e => rw [hb] at hok; cases hok
    | ok host =>
      obtain ⟨display, network, -, -, rfl⟩ := Host.boot_eq_ok hb
      simp only [next, hb]
      exact steps_fresh (.new display network nonce now) hn rfl (List.isSublist_iff_sublist.mp hs)
        (List.isSublist_iff_sublist.mp hh)
  | iterate input => exact steps_iterate hsession (List.isPrefixOf_iff_prefix.mp ha)
  | reboot network now toStick toHost =>
    exact steps_reboot network now (List.isSublist_iff_sublist.mp ha.1) (List.isSublist_iff_sublist.mp ha.2)

end System
end Servatory
