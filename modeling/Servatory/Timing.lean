import Servatory.Firmware.Notifications
import Servatory.System

/-! Runs of both parties against one clock, in which nothing fails: the collector leaves a snapshot after every
    update interval, the daemon sends each as soon as it is due, and the Stick reads it within a latency. What the
    loops do takes no time; it passes between their steps. Times are microseconds. -/

namespace Servatory

/-- Both parties and the clock. `collectAt` is when the collector collects next, `unreadSince` when the first snapshot
    was sent that the Stick has yet to read, and `served` whether it has read any. -/
structure Timed where
  system : System
  clock : Nat
  collectAt : Nat
  unreadSince : Option Nat
  served : Bool

inductive TimedAction
  | wait (micros : Nat)
  | act (action : Action)

/-- The daemon has a handshake, and has neither met an error nor ended. -/
def Host.Running (h : Host) : Prop := h.handshakeEstablished = true ∧ h.connectionError = none ∧ h.phase ≠ .stopped

instance (h : Host) : Decidable h.Running := inferInstanceAs (Decidable (_ ∧ _))

/-- The time between two snapshots. -/
def Config.period (config : Config) : Nat := config.host.updateInterval * 1000

namespace Timed
variable (config : Config) (daemon firmware : SoftwareVersion) (latency : Nat)

/-- The handshake has been established, and the Stick waits for its first snapshot. -/
structure Start (t : Timed) : Prop where
  running : t.system.host.Running
  session : t.system.stick.daemonSession = some t.system.host.handshakeNonce
  waiting : t.system.stick.daemon = .waiting
  unsent : ∀ m ∈ t.system.toStick, m.isSnapshot = false
  clock : t.clock ≤ t.collectAt
  collectAt : t.collectAt ≤ t.clock + config.period
  unread : t.unreadSince = none
  served : t.served = false

instance (t : Timed) : Decidable (Start config t) :=
  decidable_of_iff
    (t.system.host.Running ∧ t.system.stick.daemonSession = some t.system.host.handshakeNonce ∧
      t.system.stick.daemon = .waiting ∧ (∀ m ∈ t.system.toStick, m.isSnapshot = false) ∧ t.clock ≤ t.collectAt ∧
      t.collectAt ≤ t.clock + config.period ∧ t.unreadSince = none ∧ t.served = false)
    ⟨fun ⟨h1, h2, h3, h4, h5, h6, h7, h8⟩ => ⟨h1, h2, h3, h4, h5, h6, h7, h8⟩,
      fun h => ⟨h.running, h.session, h.waiting, h.unsent, h.clock, h.collectAt, h.unread, h.served⟩⟩

/-- Time passes until the next collection at most; a snapshot is sent once it is due, and read within the latency. -/
def CanWait (t : Timed) (micros : Nat) : Prop :=
  t.clock + micros ≤ t.collectAt ∧
    (t.system.host.latestHealth.isSome → t.clock + micros ≤ max t.system.host.nextUpdate t.clock) ∧
    t.unreadSince.all (fun sent => t.clock + micros ≤ sent + latency)

instance (t : Timed) (micros : Nat) : Decidable (t.CanWait latency micros) := inferInstanceAs (Decidable (_ ∧ _ ∧ _))

/-- An action without a fault, taken at the time of the clock. The Stick reads all that has been sent. -/
def Timely (t : Timed) : Action → Prop
  | .phase (.collected _) [] => t.clock = t.collectAt
  | .phase (.opened none) [] => True
  | .phase (.hello now sentAt) [] => now = t.clock ∧ sentAt = t.clock
  | .phase .manifest [] => True
  | .phase (.update now sentAt) [] => now = t.clock ∧ sentAt = t.clock
  | .phase (.read false) [] => True
  | .phase .close [] => True
  | .frame now _ [] => now = t.clock
  | .iterate input => input.now = t.clock ∧ input.frames = t.system.toStick.map .ok
  | _ => False

instance (t : Timed) (a : Action) : Decidable (t.Timely a) :=
  match a with
  | .phase (.collected _) [] => inferInstanceAs (Decidable (_ = _))
  | .phase (.opened none) [] => isTrue trivial
  | .phase (.hello _ _) [] => inferInstanceAs (Decidable (_ ∧ _))
  | .phase .manifest [] => isTrue trivial
  | .phase (.update _ _) [] => inferInstanceAs (Decidable (_ ∧ _))
  | .phase (.read false) [] => isTrue trivial
  | .phase .close [] => isTrue trivial
  | .frame _ _ [] => inferInstanceAs (Decidable (_ = _))
  | .iterate _ => inferInstanceAs (Decidable (_ ∧ _))
  | .phase (.collected _) (_ :: _) => isFalse id
  | .phase (.opened none) (_ :: _) => isFalse id
  | .phase (.opened (some _)) _ => isFalse id
  | .phase (.hello _ _) (_ :: _) => isFalse id
  | .phase .manifest (_ :: _) => isFalse id
  | .phase (.update _ _) (_ :: _) => isFalse id
  | .phase (.frame _) _ => isFalse id
  | .phase (.read true) _ => isFalse id
  | .phase (.read false) (_ :: _) => isFalse id
  | .phase .close (_ :: _) => isFalse id
  | .frame _ _ (_ :: _) => isFalse id
  | .opened _ _ _ _ => isFalse id
  | .restart _ _ _ _ => isFalse id
  | .reboot _ _ _ _ => isFalse id

def Allowed (t : Timed) : TimedAction → Prop
  | .wait micros => t.CanWait latency micros
  | .act a =>
    t.Timely a ∧ t.system.Allowed config daemon .any a ∧ (t.system.next config daemon firmware a).host.Running

instance (t : Timed) (a : TimedAction) : Decidable (t.Allowed config daemon firmware latency a) := by
  cases a
  all_goals
    unfold Allowed
    infer_instance

/-- The collector sleeps for the update interval behind every snapshot. -/
def nextCollect (t : Timed) : Action → Nat
  | .phase (.collected _) _ => t.clock + config.period
  | _ => t.collectAt

/-- Whether the Stick has read a snapshot once it has taken an action. -/
def serves (t : Timed) : Action → Bool
  | .iterate _ => t.served || t.system.toStick.any (·.isSnapshot)
  | _ => t.served

def next (t : Timed) : TimedAction → Timed
  | .wait micros => { t with clock := t.clock + micros }
  | .act a =>
    let system := t.system.next config daemon firmware a
    { t with
      system
      collectAt := t.nextCollect config a
      unreadSince := if system.toStick.any (·.isSnapshot) then t.unreadSince.or (some t.clock) else none
      served := t.serves a }

/-- The states of the runs in which nothing fails. -/
abbrev Reachable : Timed → Prop :=
  Transition.Reachable (Start config) (Transition.Guarded (Allowed config daemon firmware latency)
    (next config daemon firmware))

end Timed
end Servatory
