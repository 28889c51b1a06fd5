import Servatory.Protocol.Frame

/-! What the daemon writes to the display, and how it handles a shutdown request. How the port takes each write and
    what the host reports come from outside. -/

namespace Servatory

/-- What becomes of one write or flush. A frame may have gone out although its write failed. -/
inductive WriteOutcome
  | written
  | failed (sent : Bool)
  deriving DecidableEq, Repr

/-- What the daemon acts on: the outcomes of the operations on the port that are still to come, which succeed once the
    list is used up, the messages that went out, those whose write succeeded, and how often `systemctl` was
    asked to power the host off. -/
structure World where
  outcomes : List WriteOutcome
  sent : List HostMessage
  written : List HostMessage
  poweroffs : Nat
  deriving DecidableEq, Repr

/-- A world in which nothing has been done yet. -/
def World.new (outcomes : List WriteOutcome) : World := ⟨outcomes, [], [], 0⟩

inductive PortError
  | encoding (error : ProtocolError)
  | failed
  deriving DecidableEq, Repr

/-- Code that uses the port and may fail there. -/
abbrev PortM := ExceptT PortError (StateM World)

def writeAll (message : HostMessage) : PortM Unit := fun w =>
  match w.outcomes with
  | [] => (.ok (), { w with sent := w.sent ++ [message], written := w.written ++ [message] })
  | .written :: outcomes =>
    (.ok (), { w with outcomes, sent := w.sent ++ [message], written := w.written ++ [message] })
  | .failed sent :: outcomes =>
    (.error .failed, { w with outcomes, sent := if sent then w.sent ++ [message] else w.sent })

def flush : PortM Unit := fun w =>
  match w.outcomes with
  | [] => (.ok (), w)
  | .written :: outcomes => (.ok (), { w with outcomes })
  | .failed _ :: outcomes => (.error .failed, { w with outcomes })

def systemPoweroff : PortM Unit := fun w => (.ok (), { w with poweroffs := w.poweroffs + 1 })

def writeHostMessage (message : HostMessage) : PortM Unit :=
  match encodeHost message maxHostFrameLen with
  | .ok _ => writeAll message
  | .error error => throw (.encoding error)

def writeShutdownProgress (phase : ShutdownPhase) (guestsTotal guestsRemaining : UInt16) : PortM Unit := do
  writeHostMessage (.shutdownProgress phase guestsTotal guestsRemaining)
  flush

def writeShutdownFailure (reason : ShutdownFailure) (guestsRemaining : UInt16) : PortM Unit := do
  writeHostMessage (.shutdownFailed reason guestsRemaining)
  flush

/-- What the host reports during a shutdown: the running guests at first, unless they cannot be counted, how
    `systemctl` ended, unless it could not be run, and the later counts until one fails. -/
structure ShutdownHost where
  initial : Option UInt16
  systemctl : Option Bool
  later : List UInt16
  deriving DecidableEq, Repr

/-- How asking the host to power off ended. -/
inductive Poweroff
  | requested
  | notStarted
  | refused
  deriving DecidableEq, Repr

/-- Waits for the guests to stop. Repeating unchanged counts keeps the display informed. -/
def monitorSystemGuestShutdown (total : UInt16) : UInt16 → List UInt16 → PortM UInt16
  | lastRemaining, [] => return lastRemaining
  | _, remaining :: later => do
    writeShutdownProgress .stoppingGuests total remaining
    if remaining = 0 then return 0 else monitorSystemGuestShutdown total remaining later

/-- Reports a failed poweroff; that the report fails too is only logged. -/
def reportShutdownFailure (reason : ShutdownFailure) (guestsRemaining : UInt16) (outcome : Poweroff) :
    PortM Poweroff := do
  tryCatch (writeShutdownFailure reason guestsRemaining) fun _ => return ()
  return outcome

/-- Reports the guests that run at first, if they could be counted. -/
def reportInitial (initial : Option UInt16) : PortM Unit :=
  match initial with
  | some initial => writeShutdownProgress .stoppingGuests initial initial
  | none => return ()

def reportGuestsStopped (total remaining : UInt16) : PortM Unit :=
  if remaining = 0 then writeShutdownProgress .guestsStopped total 0 else return ()

/-- The host is powering off: its guests are watched while they stop, if they could be counted at first. -/
def reportPoweroff (initial : Option UInt16) (later : List UInt16) : PortM Unit :=
  match initial with
  | none => writeShutdownProgress .poweringOff 0 0
  | some total => do
    let remaining ← monitorSystemGuestShutdown total total later
    reportGuestsStopped total remaining
    writeShutdownProgress .poweringOff total remaining

/-- Asks the host to power off, and reports how it does. An error is one of reporting. -/
def poweroff (host : ShutdownHost) : PortM Poweroff := do
  writeShutdownProgress .preparingGuests 0 0
  reportInitial host.initial
  systemPoweroff
  match host.systemctl with
  | none => reportShutdownFailure .hostPoweroff (host.initial.getD 0) .notStarted
  | some false => reportShutdownFailure .hostPoweroff (host.initial.getD 0) .refused
  | some true =>
    reportPoweroff host.initial host.later
    return .requested

/-- Handles a message, and tells whether the process should stop. Of a shutdown that fails nothing is
    returned. -/
def EventHandler.handle (allowShutdown : Bool) (host : ShutdownHost) : DeviceMessage → PortM Bool
  | .hello _ _ => return false
  | .shutdownRequested =>
    if allowShutdown then do
      writeHostMessage .shutdownAccepted
      flush
      tryCatch (return (← poweroff host) == .requested) fun _ => return false
    else return false

end Servatory
