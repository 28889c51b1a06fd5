import Servatory.Firmware.Button
import Servatory.Firmware.Network
import Servatory.Firmware.UsbTx

/-! The Stick's main loop. An iteration reads the clock once, takes what the decoder made of the bytes that
    came in, samples the button, draws the screen when something on it changed, and lets the peripheral take
    some bytes. Drawing the progress of a long press is left out. -/

namespace Servatory

def linkTimeout : Nat := 15 * 1000000
def helloInterval : Nat := 1000000
def doubleClickWindow : Nat := 200 * 1000
def usbActivityTimeout : Nat := 250 * 1000
def shutdownSpinnerInterval : Nat := 250 * 1000
def shutdownReportTimeout : Nat := 3 * 1000000
def shutdownUsbLostConfirm : Nat := 2 * 1000000
def displayHeight : Nat := 135

inductive ShutdownDisplay
  | accepted
  | guests (total remaining : UInt16)
  | guestsStopped
  | hostPoweroff (spinner : UInt8) (remaining : UInt16)
  | reportingLost (remaining : UInt16)
  | connectionLost (remaining : UInt16)
  | failed (reason : ShutdownFailure) (remaining : UInt16)
  deriving DecidableEq, Repr

namespace ShutdownDisplay

def isFailed : ShutdownDisplay → Bool
  | failed _ _ => true
  | _ => false

def isConnectionLost : ShutdownDisplay → Bool
  | connectionLost _ => true
  | _ => false

def isReportingLost : ShutdownDisplay → Bool
  | reportingLost _ => true
  | _ => false

end ShutdownDisplay

def shutdownRemaining : ShutdownDisplay → UInt16
  | .guests _ remaining => remaining
  | .hostPoweroff _ remaining => remaining
  | .reportingLost remaining => remaining
  | .connectionLost remaining => remaining
  | .failed _ remaining => remaining
  | .accepted => 0
  | .guestsStopped => 0

/-- How much of the bar of a long press is filled. -/
def shutdownProgressHeight (held animationDelay holdTime : Nat) : Nat :=
  min ((held / 1000 - animationDelay / 1000) * displayHeight / max (holdTime / 1000 - animationDelay / 1000) 1)
    displayHeight

def deviceHello (build : SoftwareVersion) (acknowledgedSession : Option HandshakeNonce) : DeviceMessage :=
  .hello build acknowledgedSession

/-- The variables of the main loop. `renderPending` is set up anew by every iteration, and `sessionsEnded`
    is the count that `Origin` records. -/
structure Stick where
  usbTx : UsbTx
  button : Button
  daemon : DaemonState
  usbConnected : Bool
  lastUsbActivity : Option Nat
  lastUpdate : Option Nat
  healthSnapshot : Option HealthSnapshot
  page : Nat
  displayConfig : DisplayConfig
  shutdownAnimationActive : Bool
  shutdownAnimationHeight : Nat
  shutdownDisplay : ShutdownDisplay
  lastShutdownSpinner : Nat
  shutdownUsbLostSince : Option Nat
  lastHello : Option Nat
  lastShortClick : Option Nat
  daemonSession : Option HandshakeNonce
  showAbout : Bool
  network : SharedState
  renderPending : Bool
  sessionsEnded : Nat

/-- What one iteration takes from outside: the clock, the start-of-frame flag of the peripheral, the decoded
    frames, the button, and how many bytes the peripheral accepts. -/
structure Input where
  now : Nat
  sof : Bool
  frames : List (Except ProtocolError HostMessage)
  pressed : Bool
  accepted : Nat

namespace Stick

def enqueue (s : Stick) (message : DeviceMessage) : Stick :=
  { s with usbTx := s.usbTx.enqueue ⟨message, ⟨s.daemon, s.daemonSession, s.sessionsEnded⟩⟩ }

/-- The variables at the start of the loop, with the first Hello queued. `network` is what the network tasks
    found in flash. -/
def boot (build : SoftwareVersion) (network : SharedState) (now : Nat) : Stick :=
  let s : Stick :=
    { usbTx := .new
      button := .new now
      daemon := .waiting
      usbConnected := false
      lastUsbActivity := none
      lastUpdate := none
      healthSnapshot := none
      page := 0
      displayConfig := .default
      shutdownAnimationActive := false
      shutdownAnimationHeight := 0
      shutdownDisplay := .accepted
      lastShutdownSpinner := now
      shutdownUsbLostSince := none
      lastHello := none
      lastShortClick := none
      daemonSession := none
      showAbout := false
      network
      renderPending := false
      sessionsEnded := 0 }
  s.enqueue (deviceHello build none)

def sendHello (build : SoftwareVersion) (now : Nat) (s : Stick) : Stick :=
  if s.daemon ≠ .connected ∧ s.daemon ≠ .poweringOff ∧ s.lastHello.all (fun sent => now - sent ≥ helloInterval) then
    { s.enqueue (deviceHello build s.daemonSession) with lastHello := some now }
  else s

def pollUsbConnection (now : Nat) (sof : Bool) (s : Stick) : Stick :=
  let lastUsbActivity := if sof then some now else s.lastUsbActivity
  let usbConnected := lastUsbActivity.any (fun activity => now - activity < usbActivityTimeout)
  { s with
    lastUsbActivity
    usbConnected
    renderPending :=
      s.renderPending || (usbConnected != s.usbConnected && s.daemon == .waiting && !s.shutdownAnimationActive) }

/-- The screen that a phase of the shutdown asks for. -/
def progressDisplay (phase : ShutdownPhase) (guestsTotal guestsRemaining : UInt16) : ShutdownDisplay :=
  match phase with
  | .preparingGuests => .accepted
  | .stoppingGuests => .guests guestsTotal guestsRemaining
  | .guestsStopped => .guestsStopped
  | .poweringOff => .hostPoweroff 0 guestsRemaining

/-- A message that belongs to a session. -/
def handleSession (now : Nat) (s : Stick) : HostMessage → Stick
  | .hello _ _ => s
  | .healthSnapshot snapshot =>
    { s with
      lastUpdate := some now
      network := s.network.updateSnapshot now snapshot
      healthSnapshot := some snapshot
      daemon := .connected
      renderPending := true }
  | .shutdownAccepted =>
    { s with
      lastUpdate := some now
      shutdownUsbLostSince := none
      daemon := .poweringOff
      shutdownDisplay := .accepted
      renderPending := true }
  | .shutdownProgress phase guestsTotal guestsRemaining =>
    { s with
      lastUpdate := some now
      shutdownUsbLostSince := none
      daemon := .poweringOff
      lastShutdownSpinner := if phase = .poweringOff then now else s.lastShutdownSpinner
      shutdownDisplay := progressDisplay phase guestsTotal guestsRemaining
      renderPending := true }
  | .shutdownFailed reason guestsRemaining =>
    { s with
      daemon := .poweringOff
      shutdownDisplay := .failed reason guestsRemaining
      renderPending := true }
  | .displayConfig config =>
    { s with
      network := s.network.updateFilesystemLabels config.filesystemLabels
      displayConfig := config
      page := s.page % max config.pages.length 1
      renderPending := true }
  | .networkConfig config => { s with network := s.network.updateManifest config }

/-- A Hello starts a session; until then the rest of a session is ignored. -/
def handle (build : SoftwareVersion) (now : Nat) (s : Stick) : HostMessage → Stick
  | .hello daemonVersion session =>
    { s with
      daemon := .waiting
      lastUpdate := none
      daemonSession := some session
      network := s.network.updateDaemonVersion daemonVersion
      displayConfig := { s.displayConfig with daemonVersion }
      sessionsEnded := s.sessionsEnded + 1
      renderPending := true : Stick }.enqueue (deviceHello build (some session))
  | message => if s.daemonSession.isNone then s else s.handleSession now message

/-- What a complete frame does. -/
def receive (build : SoftwareVersion) (now : Nat) (s : Stick) : Except ProtocolError HostMessage → Stick
  | .ok message => s.handle build now message
  | .error (.unsupportedVersion _) => { s with daemon := .incompatible, renderPending := true }
  | .error _ => s

/-- The link timeout is due. -/
def TimesOut (now : Nat) (s : Stick) : Prop :=
  s.daemon = .connected ∧ s.lastUpdate.any (fun updated => now - updated ≥ linkTimeout)

instance (now : Nat) (s : Stick) : Decidable (s.TimesOut now) := inferInstanceAs (Decidable (_ ∧ _))

def checkLink (now : Nat) (s : Stick) : Stick :=
  if s.TimesOut now then
    { s with
      daemon := .stale
      daemonSession := none
      sessionsEnded := s.sessionsEnded + 1
      renderPending := true }
  else s

/-- A short press. -/
def nextScreen (now : Nat) (s : Stick) : Stick :=
  let s :=
    if s.shutdownAnimationActive then s
    else if s.showAbout then { s with showAbout := false, lastShortClick := none }
    else if s.lastShortClick.any (fun clicked => now - clicked ≤ doubleClickWindow) then
      { s with showAbout := true, lastShortClick := none }
    else { s with page := (s.page + 1) % max s.displayConfig.pages.length 1, lastShortClick := some now }
  { s with shutdownAnimationActive := false, shutdownAnimationHeight := 0, renderPending := true }

/-- A long press, which asks for a shutdown only while the daemon is connected. -/
def requestShutdown (s : Stick) : Stick :=
  let s :=
    { s with
      lastShortClick := none
      renderPending := s.renderPending || (s.daemon != .connected && s.shutdownAnimationActive)
      shutdownAnimationActive := false
      shutdownAnimationHeight := 0 }
  if s.daemon = .connected then s.enqueue .shutdownRequested else s

def stopAnimation (s : Stick) : Stick :=
  if s.shutdownAnimationActive then
    { s with shutdownAnimationActive := false, shutdownAnimationHeight := 0, renderPending := true }
  else s

/-- No press has ended: the bar of a long press grows, or disappears. -/
def animate (now animationDelay shutdownHold : Nat) (s : Stick) : Stick :=
  match if s.daemon = .connected then s.button.heldFor now else none with
  | some held =>
    if held ≥ animationDelay then
      { s with
        shutdownAnimationActive := true
        shutdownAnimationHeight := shutdownProgressHeight held animationDelay shutdownHold }
    else s.stopAnimation
  | none => s.stopAnimation

def pollButton (now : Nat) (pressed : Bool) (s : Stick) : Stick :=
  let shutdownHold := s.displayConfig.shutdownHoldMs.toNat * 1000
  let animationDelay := s.displayConfig.shutdownAnimationDelayMs.toNat * 1000
  let (button, action) := s.button.update pressed now shutdownHold
  let s := { s with button }
  match action with
  | some .nextScreen => s.nextScreen now
  | some .shutdownRequested => s.requestShutdown
  | none => s.animate now animationDelay shutdownHold

def checkUsbLost (now : Nat) (s : Stick) : Stick :=
  if s.daemon = .poweringOff ∧ !s.shutdownDisplay.isFailed ∧ !s.shutdownDisplay.isConnectionLost then
    if s.usbConnected then { s with shutdownUsbLostSince := none }
    else
      let lostSince := s.shutdownUsbLostSince.getD now
      let s := { s with shutdownUsbLostSince := some lostSince }
      if now - lostSince ≥ shutdownUsbLostConfirm then
        { s with shutdownDisplay := .connectionLost (shutdownRemaining s.shutdownDisplay), renderPending := true }
      else s
  else if s.daemon ≠ .poweringOff then { s with shutdownUsbLostSince := none }
  else s

def checkReporting (now : Nat) (s : Stick) : Stick :=
  if s.daemon = .poweringOff ∧ !s.shutdownDisplay.isReportingLost ∧ !s.shutdownDisplay.isConnectionLost ∧
      !s.shutdownDisplay.isFailed ∧ s.lastUpdate.any (fun updated => now - updated ≥ shutdownReportTimeout) then
    { s with shutdownDisplay := .reportingLost (shutdownRemaining s.shutdownDisplay), renderPending := true }
  else s

def spin (now : Nat) (s : Stick) : Stick :=
  if s.daemon = .poweringOff ∧ now - s.lastShutdownSpinner ≥ shutdownSpinnerInterval then
    match s.shutdownDisplay with
    | .hostPoweroff spinner remaining =>
      { s with
        shutdownDisplay := .hostPoweroff ((spinner + 1) % 4) remaining
        lastShutdownSpinner := now
        renderPending := true }
    | _ => s
  else s

/-- An iteration up to the frames it reads. -/
def begin (build : SoftwareVersion) (s : Stick) (i : Input) : Stick :=
  ({ s with renderPending := false }.sendHello build i.now).pollUsbConnection i.now i.sof

/-- An iteration up to the last frame it reads. -/
def received (build : SoftwareVersion) (s : Stick) (i : Input) : Stick :=
  i.frames.foldl (fun s frame => s.receive build i.now frame) (s.begin build i)

/-- An iteration from the frames it has read to the drawing of the screen. -/
def finish (s : Stick) (i : Input) : Stick :=
  ((((s.checkLink i.now).pollButton i.now i.pressed).checkUsbLost i.now).checkReporting i.now).spin i.now

/-- An iteration up to the drawing of the screen. -/
def update (build : SoftwareVersion) (s : Stick) (i : Input) : Stick :=
  (s.received build i).finish i

/-- A whole iteration, and what it gave to the peripheral. -/
def iterate (build : SoftwareVersion) (s : Stick) (i : Input) : Stick × Polled :=
  let s := s.update build i
  let polled := s.usbTx.poll i.accepted
  ({ s with usbTx := polled.usbTx }, polled)

/-- The frames that the bytes of an iteration complete, decoded. What the decoder reports in their place is
    passed over. -/
def readFrames (decode : List UInt8 → Except ProtocolError HostMessage) (decoder : FrameDecoder maxHostFrameLen)
    (bytes : List UInt8) : FrameDecoder maxHostFrameLen × List (Except ProtocolError HostMessage) :=
  let (decoder, results) := decoder.pushAll bytes
  (decoder, (results.filterMap (·.toOption)).map decode)

/-- A run of the loop. -/
def run (build : SoftwareVersion) (s : Stick) (inputs : List Input) : Stick :=
  inputs.foldl (fun s i => (s.iterate build i).1) s

end Stick
end Servatory
