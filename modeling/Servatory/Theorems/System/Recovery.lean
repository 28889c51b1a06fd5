import Servatory.Recovery
import Servatory.Theorems.Host.Outputs
import Servatory.Theorems.Stick.Idle
import Servatory.Theorems.System.Authenticity

/-! Whatever has been lost and whoever has started again, both parties can go on to a handshake: there is no state from
    which they cannot, unless the daemon has ended or is about to handle a request for a shutdown. -/

namespace Servatory
open Progress

/-! ### The start of an iteration -/

namespace Host
variable {config : Config} {build : SoftwareVersion} {h : Host} {w : World}

/-- An iteration starts without an error. -/
def StartsClean (h : Host) : Prop := h.phase = .opening → h.connectionError = none

theorem startsClean_of_phase (hphase : h.phase ≠ .opening) : h.StartsClean := fun ho => absurd ho hphase

theorem startsClean_proceed {phase : Phase} (hphase : phase ≠ .opening) (r : Host × World) :
    (proceed phase r).1.StartsClean := by
  refine startsClean_of_phase ?_
  simp only [proceed]
  split
  · rintro ⟨⟩
  · exact hphase

theorem StartsClean.step (hc : h.StartsClean) (e : HostEvent) (w : World) :
    (h.step config build e w).1.StartsClean := by
  unfold Host.step
  cases e with
  | collected snapshot => exact hc
  | opened result =>
    simp only
    split
    · exact hc
    · split
      · exact startsClean_of_phase (by rintro ⟨⟩)
      · cases result with
        | none => exact hc
        | some opened => exact startsClean_of_phase (by rintro ⟨⟩)
  | hello now sentAt =>
    simp only
    split
    · exact hc
    · exact startsClean_proceed (by decide) _
  | manifest =>
    simp only
    split
    · exact hc
    · exact startsClean_proceed (by decide) _
  | update now sentAt =>
    simp only
    split
    · exact hc
    · refine startsClean_proceed ?_ _
      split <;> decide
  | frame arrival =>
    simp only
    split
    · exact hc
    · rename_i hreading
      have hreading : h.phase = .reading := Decidable.not_not.mp hreading
      refine startsClean_of_phase ?_
      rcases receive_cases config arrival h w with
        ⟨version, -, ⟨-, h1⟩ | ⟨-, h1⟩⟩ | ⟨version, session, -, -, h1⟩ | ⟨-, ⟨phase, connectionError, h1, hcase⟩, -⟩
      all_goals rw [h1]
      · exact fun ho => by rw [hreading] at ho; cases ho
      · exact fun ho => by rw [hreading] at ho; cases ho
      · exact fun ho => by rw [hreading] at ho; cases ho
      · rcases hcase with rfl | rfl | rfl
        · exact fun ho => by rw [hreading] at ho; cases ho
        · rintro ⟨⟩
        · rintro ⟨⟩
  | read failed =>
    simp only
    split
    · exact hc
    · exact startsClean_of_phase (by rintro ⟨⟩)
  | close =>
    simp only
    split
    · exact hc
    · exact fun _ => rfl

end Host

namespace System
variable {config : Config} {daemon firmware : SoftwareVersion} {now : Nat} {s t : System}

/-- What the phases of the daemon leave alone. -/
structure PhasesKeep (s t : System) : Prop where
  stick : t.stick = s.stick
  toHost : t.toHost = s.toHost
  nonces : t.nonces = s.nonces
  nonce : t.host.handshakeNonce = s.host.handshakeNonce
  established : t.host.handshakeEstablished = s.host.handshakeEstablished

namespace PhasesKeep

theorem refl : PhasesKeep s s := ⟨rfl, rfl, rfl, rfl, rfl⟩

theorem trans {u : System} (h : PhasesKeep s t) (h' : PhasesKeep t u) : PhasesKeep s u :=
  ⟨h'.stick.trans h.stick, h'.toHost.trans h.toHost, h'.nonces.trans h.nonces, h'.nonce.trans h.nonce,
    h'.established.trans h.established⟩

theorem hostStep {event : HostEvent} (he : event.isInternal) (outcomes : List WriteOutcome) :
    PhasesKeep s (s.hostStep config daemon event outcomes) := by
  obtain ⟨hn, hest, -⟩ := @Host.step_internal config daemon event he s.host (.new outcomes)
  exact ⟨rfl, rfl, rfl, hn, hest⟩

end PhasesKeep

/-! ### The phases of the daemon -/

/-- What the Stick has to send before its Hello, counting the rest of a frame. -/
def ahead (firmware : SoftwareVersion) (session : Option HandshakeNonce) (tx : UsbTx) : Nat :=
  2 * tx.unstarted.countP (fun o => o.message != deviceHello firmware session) + if tx.midway then 1 else 0

theorem inSession (hr : Reachable config daemon firmware .any s) : s.stick.InSession := by
  refine hr.invariant (P := fun s => s.stick.InSession) ?_ ?_
  · rintro s ⟨nonce, network, now, -, hstick, -⟩
    rw [hstick]
    rintro ⟨⟩
  · rintro s a t - hs ⟨-, rfl⟩
    cases a with
    | phase event outcomes => exact hs
    | opened now nonce toStick toHost => exact hs
    | frame now host outcomes =>
      simp only [next]
      split
      · exact hs
      · exact hs
    | restart now nonce toStick toHost =>
      simp only [next]
      split
      · exact hs
      · exact hs
    | iterate input => exact Stick.InSession.iterate hs input
    | reboot network now toStick toHost => rintro ⟨⟩

end System
end Servatory
