import Servatory.Firmware.Notifications
import Servatory.System

/-! The daemon and the Stick with the task that sends notifications. The task looks at the Stick's shared state between
    iterations, and starts anew with the Stick. -/

namespace Servatory

/-- `collected` are the snapshots that the collector has left for the daemon, and `polls` the turns of the task since the
    Stick started. -/
structure Alarm where
  system : System
  worker : NotificationWorker
  collected : List HealthSnapshot
  polls : List Poll

/-- A step of the daemon or the Stick, with the seed of the task should it start anew, or a turn of the task. -/
inductive AlarmAction
  | act (action : Action) (seed : UInt64)
  | turn (poll : Poll)

/-- A Stick that starts finds no snapshot in flash. -/
def Action.isBlank : Action → Bool
  | .reboot network _ _ _ => network.snapshot.isNone
  | _ => true

namespace Alarm
variable (config : Config) (daemon firmware : SoftwareVersion)

def Initial (a : Alarm) : Prop :=
  a.system.Initial config daemon firmware ∧ a.system.stick.network.snapshot = none ∧
    (∃ seed, a.worker = .new seed) ∧ a.collected = [] ∧ a.polls = []

/-- A turn reads what the main loop has put into the shared state. -/
def Allowed (a : Alarm) : AlarmAction → Prop
  | .act action _ => a.system.Allowed config daemon .any action ∧ action.isBlank
  | .turn p =>
    p.state.snapshot = a.system.stick.network.snapshot ∧ p.state.lastUpdate = a.system.stick.network.lastUpdate ∧
      p.state.manifest = a.system.stick.network.manifest

instance (a : Alarm) (s : AlarmAction) : Decidable (a.Allowed config daemon s) := by
  cases s
  all_goals
    unfold Allowed
    infer_instance

/-- The snapshots of the collector after an action. -/
def collect (collected : List HealthSnapshot) : Action → List HealthSnapshot
  | .phase (.collected snapshot) _ => snapshot :: collected
  | _ => collected

def next (a : Alarm) : AlarmAction → Alarm
  | .act (.reboot network now toStick toHost) seed =>
    { a with
      system := a.system.next config daemon firmware (.reboot network now toStick toHost)
      worker := .new seed
      polls := [] }
  | .act action _ =>
    { a with
      system := a.system.next config daemon firmware action
      collected := collect a.collected action }
  | .turn p => { a with worker := a.worker.turn p, polls := a.polls ++ [p] }

abbrev Reachable : Alarm → Prop :=
  Transition.Reachable (Initial config daemon firmware)
    (Transition.Guarded (Allowed config daemon) (next config daemon firmware))

end Alarm
end Servatory
