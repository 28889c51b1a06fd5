import Servatory.Theorems.Stick.Frame

/-! The Stick without a connection: its queue drains, and its Hello goes out, while the peripheral takes what it is
    given. -/

namespace Servatory

/-! ### The queue of the Stick -/

namespace UsbTx
variable {tx : UsbTx} {o : Outgoing}

/-- Some bytes of a frame have gone out, and some have not. -/
def midway (tx : UsbTx) : Bool := tx.transmission.any fun t => t.cursor != 0

end UsbTx

namespace Stick
variable {build : SoftwareVersion} {s : Stick} {now accepted : Nat}

/-- An iteration at some time that reads no frames. -/
def listen (now accepted : Nat) : Input := ⟨now, true, [], false, accepted⟩

/-- The Stick powers off within a session only. -/
def InSession (s : Stick) : Prop := s.daemon = .poweringOff → s.daemonSession.isSome

theorem InSession.receive (h : s.InSession) (frame : Except ProtocolError HostMessage) :
    (s.receive build now frame).InSession := by
  cases frame with
  | error e =>
    cases e with
    | unsupportedVersion received => rintro ⟨⟩
    | _ => exact h
  | ok message =>
    cases message with
    | hello version session => rintro ⟨⟩
    | _ =>
      simp only [Stick.receive, Stick.handle]
      split
      · exact h
      · rename_i hsome
        rw [Option.isNone_iff_eq_none, ← ne_eq, ← Option.isSome_iff_ne_none] at hsome
        exact fun _ => hsome

theorem InSession.iterate (h : s.InSession) (i : Input) : (s.iterate build i).1.InSession := by
  have hbegin : (s.begin build i).InSession := by
    intro hp
    rw [daemonSession_of_core (core_begin build s i)]
    exact h (daemon_of_core (core_begin build s i) ▸ hp)
  have hreceived : (s.received build i).InSession := by
    suffices ∀ (frames : List (Except ProtocolError HostMessage)) (t : Stick), t.InSession →
        (frames.foldl (fun t frame => t.receive build i.now frame) t).InSession from this i.frames _ hbegin
    intro frames
    induction frames with
    | nil => exact fun _ ht => ht
    | cons frame rest ih => exact fun t ht => ih _ (ht.receive frame)
  have hcore : (s.iterate build i).1.core = ((s.received build i).checkLink i.now).core := core_finish _ i
  intro hp
  rw [daemon_of_core hcore, daemon_checkLink] at hp
  split at hp
  · cases hp
  · rename_i hlink
    rw [daemonSession_of_core hcore, checkLink, if_neg hlink]
    exact hreceived hp

end Stick

end Servatory
