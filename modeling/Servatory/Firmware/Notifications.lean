import Servatory.Firmware.Network

/-! The task that sends notifications. It looks at the shared state every five seconds; the readings of the clock and
    whether a notification could be published come from outside. -/

namespace Servatory

def hostStaleAfter : Nat := 15 * 1000000
def maxPendingNotifications : Nat := 8

def snapshotAge (now : Nat) (state : SharedState) : Option Nat := state.lastUpdate.map fun updated => now - updated

def hostOffline : Incident := ⟨.stick .hostOffline, .critical, "HOST CONNECTION LOST"⟩

def activeIncidents (now : Nat) (state : SharedState) : List Incident :=
  let incidents := (state.snapshot.map (·.activeIncidents)).getD []
  if (snapshotAge now state).all (fun age => age ≥ hostStaleAfter) then hostOffline :: incidents else incidents

def notifiableIncidents (now : Nat) (state : SharedState) : List Incident :=
  (activeIncidents now state).filter fun incident => state.snapshot.isSome || incident.id != .stick .hostOffline

structure PendingNotification where
  message : String
  priority : NotificationPriority
  recovery : Bool
  deriving DecidableEq, Repr

/-- Why a notification is pushed. The task itself does not record it. -/
inductive Cause
  | test
  | start (id : IncidentId)
  | stillActive (id : IncidentId)
  | recovered (id : IncidentId)
  deriving DecidableEq, Repr

structure Push where
  cause : Cause
  notification : PendingNotification
  deriving DecidableEq, Repr

def pushPending (queue : List PendingNotification) (value : PendingNotification) : List PendingNotification :=
  (if queue.length = maxPendingNotifications then queue.tail else queue) ++ [value]

def NotificationSeverities.select (severities : NotificationSeverities) (level : HealthLevel) : Bool :=
  (level == .warning && severities.warning) || (level == .critical && severities.critical)

def testPush : Push := ⟨.test, "Servatory test notification", .default, false⟩

/-- An incident is pushed when it is new or its level rose. -/
def startPush (config : NtfyConfig) (previous : List Incident) (incident : Incident) : Option Push :=
  if (previous.find? fun old => old.id == incident.id).all (fun old => old.level.priority < incident.level.priority) &&
      config.severities.select incident.level then
    some ⟨.start incident.id, incident.message,
      if incident.level = .critical then config.criticalPriority else config.warningPriority, false⟩
  else none

def stillActivePush (config : NtfyConfig) (incident : Incident) : Push :=
  ⟨.stillActive incident.id, "STILL ACTIVE: " ++ incident.message, config.criticalPriority, false⟩

def recoveredPush (config : NtfyConfig) (incident : Incident) : Push :=
  ⟨.recovered incident.id, "RECOVERED: " ++ incident.message, config.recoveryPriority, true⟩

/-- What one turn of the loop takes from outside: the shared state and the clock when it is read, whether a test was
    asked for, the clock when the time of a repeat is set, checked and set again, and whether publishing succeeds. -/
structure Poll where
  now : Nat
  state : SharedState
  test : Bool
  set : Nat
  checked : Nat
  renewed : Nat
  published : Bool

namespace Poll

def incidents (p : Poll) : List Incident := notifiableIncidents p.now p.state

/-- The configuration, when it is enabled. -/
def config (p : Poll) : Option NtfyConfig := (p.state.manifest.map (·.ntfy)).filter (·.enabled)

end Poll

/-- The variables of the task. -/
structure NotificationWorker where
  previous : List Incident
  pending : List PendingNotification
  nextCriticalRepeat : Option Nat
  seed : UInt64

namespace NotificationWorker

def new (seed : UInt64) : NotificationWorker := ⟨[], [], none, seed⟩

/-- The critical incidents that are pushed again, and the time of the next repeat. -/
def repeats (w : NotificationWorker) (p : Poll) (config : NtfyConfig) : List Push × Option Nat :=
  let criticals := p.incidents.filter (·.level = .critical)
  match config.repeatCriticalSeconds with
  | some seconds =>
    if criticals.isEmpty then ([], none)
    else
      let due := w.nextCriticalRepeat.getD (p.set + seconds.toNat * 1000000)
      if p.checked ≥ due then (criticals.map (stillActivePush config), some (p.renewed + seconds.toNat * 1000000))
      else ([], some due)
  | none => ([], none)

/-- The incidents that are gone. -/
def recoveries (w : NotificationWorker) (p : Poll) (config : NtfyConfig) : List Push :=
  if config.notifyRecovery then
    (w.previous.filter fun incident => !p.incidents.any fun new => new.id == incident.id).map (recoveredPush config)
  else []

/-- What a turn pushes, in this order. -/
def pushes (w : NotificationWorker) (p : Poll) : List Push :=
  match p.config with
  | some config =>
    (if p.test then [testPush] else []) ++ p.incidents.filterMap (startPush config w.previous) ++
      (w.repeats p config).1 ++ w.recoveries p config
  | none => []

def turn (w : NotificationWorker) (p : Poll) : NotificationWorker :=
  match p.config with
  | some config =>
    let pending := (w.pushes p).foldl (fun queue push => pushPending queue push.notification) w.pending
    let publishes := pending ≠ [] ∧ p.state.ntfyTopic.isSome
    { previous := p.incidents
      pending := if publishes ∧ p.published then pending.tail else pending
      nextCriticalRepeat := (w.repeats p config).2
      seed := if publishes then w.seed + 1 else w.seed }
  | none => { w with previous := p.incidents }

/-- The queue behind the pushes of a turn. -/
def queued (w : NotificationWorker) (p : Poll) : List PendingNotification :=
  (w.pushes p).foldl (fun queue push => pushPending queue push.notification) w.pending

/-- The notification that a turn publishes with success. -/
def delivered (w : NotificationWorker) (p : Poll) : Option PendingNotification :=
  if p.config.isSome ∧ p.state.ntfyTopic.isSome ∧ p.published then (w.queued p).head? else none

/-- The task after some turns. -/
def run (w : NotificationWorker) (polls : List Poll) : NotificationWorker := polls.foldl turn w

/-- All that is pushed in some turns. -/
def log (w : NotificationWorker) : List Poll → List Push
  | [] => []
  | p :: polls => w.pushes p ++ log (w.turn p) polls

/-- All that is published with success in some turns. -/
def deliveries (w : NotificationWorker) : List Poll → List PendingNotification
  | [] => []
  | p :: polls => (w.delivered p).toList ++ deliveries (w.turn p) polls

end NotificationWorker
end Servatory
