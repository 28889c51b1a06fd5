import Servatory.Firmware.Main
import Servatory.Host.Main
import Servatory.Lib.Transition

/-! The daemon and the Stick, joined by a channel of frames in each direction. A frame is in its channel from its
    first byte on, and is read whole or not at all; what a torn frame decodes to stands among the frames that
    are read, but is no message. Only a start of the Stick, a start of the daemon and an opening of the port lose
    frames. -/

namespace Servatory

/-- Both parties and the frames between them. `nonces` are those the daemon has had, `greeted` those of the Hellos that the
    Stick has processed since the port was last opened, and `accepted` the messages it has processed since it
    started. -/
structure System where
  host : Host
  stick : Stick
  toStick : List HostMessage
  toHost : List Outgoing
  nonces : List HandshakeNonce
  greeted : List HandshakeNonce
  accepted : List HostMessage

/-- Whether the frames on their way to the Stick may become others, when the Stick starts again and when the
    daemon opens the port. -/
structure Losses where
  reboot : List HostMessage → List HostMessage → Bool
  reopen : List HostMessage → List HostMessage → Bool

/-- Any frames may be lost. -/
def Losses.any : Losses := ⟨fun before after => after.isSublist before, fun before after => after.isSublist before⟩

/-- A Stick that starts again loses the frames that came first, and a port that is opened again those that came
    last. -/
def Losses.ends : Losses := ⟨fun before after => after.isSuffixOf before, fun before after => after.isPrefixOf before⟩

/-- A part of an iteration of the daemon, an iteration of the Stick, or a start of one of them. -/
inductive Action
  | phase (event : HostEvent) (outcomes : List WriteOutcome)
  | opened (now : Nat) (nonce : HandshakeNonce) (toStick : List HostMessage) (toHost : List Outgoing)
  | frame (now : Nat) (host : ShutdownHost) (outcomes : List WriteOutcome)
  | restart (now : Nat) (nonce : HandshakeNonce) (toStick : List HostMessage) (toHost : List Outgoing)
  | iterate (input : Input)
  | reboot (network : SharedState) (now : Nat) (toStick : List HostMessage) (toHost : List Outgoing)

def HostMessage.isSnapshot : HostMessage → Bool
  | healthSnapshot _ => true
  | _ => false

/-- The messages among the frames of an iteration. -/
def Input.messages (i : Input) : List HostMessage := i.frames.filterMap (·.toOption)

namespace Stick

/-- A message that the Stick processes; without a session there is only the Hello. -/
def accepts (s : Stick) : HostMessage → Bool
  | .hello _ _ => true
  | _ => s.daemonSession.isSome

/-- The messages that the Stick processes of some frames. -/
def accepted (build : SoftwareVersion) (now : Nat) (s : Stick) : List (Except ProtocolError HostMessage) → List HostMessage
  | [] => []
  | frame :: rest => (frame.toOption.filter s.accepts).toList ++ (s.receive build now frame).accepted build now rest

end Stick

/-- The nonces of the Hellos among some messages. -/
def helloNonces (messages : List HostMessage) : List HandshakeNonce :=
  messages.filterMap fun m =>
    match m with
    | .hello _ session => some session
    | _ => none

namespace System
variable (config : Config) (daemon firmware : SoftwareVersion) (losses : Losses)

/-- A daemon and a Stick that have just started. -/
def Initial (s : System) : Prop :=
  ∃ nonce network now, Host.boot config daemon nonce now = .ok s.host ∧ s.stick = .boot firmware network now ∧
    s.toStick = [] ∧ s.toHost = [] ∧ s.nonces = [nonce] ∧ s.greeted = [] ∧ s.accepted = []

/-- When an action can be taken. Every nonce of the daemon is new. -/
def Allowed (s : System) : Action → Prop
  | .phase event _ => event.isInternal
  | .opened _ nonce toStick toHost =>
    s.host.phase = .opening ∧ s.host.portOpen = false ∧ nonce ∉ s.nonces ∧ losses.reopen s.toStick toStick ∧
      toHost.isSublist s.toHost
  | .frame _ _ _ => s.host.phase = .reading ∧ s.toHost ≠ []
  | .restart now nonce toStick toHost =>
    (Host.boot config daemon nonce now).isOk ∧ nonce ∉ s.nonces ∧ losses.reopen s.toStick toStick ∧
      toHost.isSublist s.toHost
  | .iterate input => input.messages.isPrefixOf s.toStick
  | .reboot _ _ toStick toHost => losses.reboot s.toStick toStick ∧ toHost.isSublist s.toHost

instance (s : System) (a : Action) : Decidable (s.Allowed config daemon losses a) := by
  cases a
  all_goals
    unfold Allowed
    infer_instance

/-- The daemon takes a step, and what it sends is behind the other frames. -/
def hostStep (s : System) (event : HostEvent) (outcomes : List WriteOutcome) : System :=
  let r := s.host.step config daemon event (.new outcomes)
  { s with host := r.1, toStick := s.toStick ++ r.2.sent }

def next (s : System) : Action → System
  | .phase event outcomes => s.hostStep config daemon event outcomes
  | .opened now nonce toStick toHost =>
    { s with toStick, toHost, nonces := nonce :: s.nonces, greeted := [] }.hostStep config daemon
      (.opened (some (now, nonce))) []
  | .frame now host outcomes =>
    match s.toHost with
    | [] => s
    | o :: rest => { s with toHost := rest }.hostStep config daemon (.frame ⟨.ok o.message, now, host⟩) outcomes
  | .restart now nonce toStick toHost =>
    match Host.boot config daemon nonce now with
    | .error _ => s
    | .ok host => { s with host, toStick, toHost, nonces := nonce :: s.nonces, greeted := [] }
  | .iterate input =>
    let r := s.stick.iterate firmware input
    { s with
      stick := r.1
      toStick := s.toStick.drop input.messages.length
      toHost := s.toHost ++ r.2.started.toList
      greeted := s.greeted ++ helloNonces input.messages
      accepted := s.accepted ++ (s.stick.begin firmware input).accepted firmware input.now input.frames }
  | .reboot network now toStick toHost => { s with stick := .boot firmware network now, toStick, toHost, accepted := [] }

/-- The states that both parties reach together. -/
abbrev Reachable : System → Prop :=
  Transition.Reachable (Initial config daemon firmware)
    (Transition.Guarded (Allowed config daemon losses) (next config daemon firmware))

end System
end Servatory
