import Servatory.Host.Policy
import Servatory.Host.Shutdown

/-! The daemon's main loop, in the phases that every iteration goes through. A phase is given the times it reads
    from the clock and the outcomes of its writes; what is only logged is left out. Times are microseconds. -/

namespace Servatory

/-- The part of an iteration that comes next. `stopped` is a process that has ended. -/
inductive Phase
  | opening
  | hello
  | manifest
  | update
  | reading
  | closing
  | stopped
  deriving DecidableEq, Repr

/-- The variables of the main loop, and the snapshot that the collector has left for it. -/
structure Host where
  phase : Phase
  portOpen : Bool
  displayConfig : DisplayConfig
  networkConfig : NetworkConfig
  configuredGuestPages : Nat
  nextUpdate : Nat
  latestHealth : Option HealthSnapshot
  manifestPending : Bool
  handshakeEstablished : Bool
  nextHello : Nat
  handshakeNonce : HandshakeNonce
  connectionError : Option String
  deriving DecidableEq, Repr

/-- A frame that was read, with the time of its handling, and what the host reports should it ask for a
    shutdown. -/
structure Arrival where
  frame : Except ProtocolError DeviceMessage
  now : Nat
  host : ShutdownHost

/-- What a phase, or the collector, takes from outside. -/
inductive HostEvent
  | collected (snapshot : HealthSnapshot)
  | opened (result : Option (Nat × HandshakeNonce))
  | hello (now sentAt : Nat)
  | manifest
  | update (now sentAt : Nat)
  | frame (arrival : Arrival)
  | read (failed : Bool)
  | close

/-- The event neither opens the port nor brings a message. -/
def HostEvent.isInternal : HostEvent → Bool
  | .opened (some _) => false
  | .frame ⟨.ok _, _, _⟩ => false
  | _ => true

def helloRepeat : Nat := 1000000

def guestPageCount (guestCount : Nat) : Nat := (max guestCount 1 + 3) / 4

namespace Host

/-- The variables at the start of the loop. -/
def new (displayConfig : DisplayConfig) (networkConfig : NetworkConfig) (nonce : HandshakeNonce) (now : Nat) : Host where
  phase := .opening
  portOpen := false
  displayConfig := displayConfig
  networkConfig := networkConfig
  configuredGuestPages := guestPageCount 0
  nextUpdate := now
  latestHealth := none
  manifestPending := true
  handshakeEstablished := false
  nextHello := now
  handshakeNonce := nonce
  connectionError := none

/-- A process that starts, with the manifests of a host without guests. -/
def boot (config : Config) (build : SoftwareVersion) (nonce : HandshakeNonce) (now : Nat) : Except ConfigError Host := do
  let displayConfig ← config.displayConfig build 0
  let networkConfig ← config.networkConfig 0
  return .new displayConfig networkConfig nonce now

/-- The port has been opened. -/
def reopen (now : Nat) (nonce : HandshakeNonce) (h : Host) : Host :=
  { h with
    phase := .hello
    portOpen := true
    nextUpdate := now
    manifestPending := true
    handshakeEstablished := false
    nextHello := now
    handshakeNonce := nonce }

def sendHello (build : SoftwareVersion) (now sentAt : Nat) (h : Host) (w : World) : Host × World :=
  if !h.handshakeEstablished ∧ now ≥ h.nextHello then
    match writeHostMessage (.hello build h.handshakeNonce) w with
    | (.error _, w) => ({ h with connectionError := some "writing protocol hello" }, w)
    | (.ok _, w) => ({ h with nextHello := sentAt + helloRepeat }, w)
  else (h, w)

def sendManifest (h : Host) (w : World) : Host × World :=
  if h.handshakeEstablished ∧ h.manifestPending then
    match writeHostMessage (.displayConfig h.displayConfig) w with
    | (.error _, w) => ({ h with connectionError := some "writing display configuration" }, w)
    | (.ok _, w) =>
      match writeHostMessage (.networkConfig h.networkConfig) w with
      | (.error _, w) => ({ h with connectionError := some "writing network configuration" }, w)
      | (.ok _, w) => ({ h with manifestPending := false }, w)
  else (h, w)

def updateDisplay (next : DisplayConfig) (h : Host) (w : World) : Host × World :=
  if next ≠ h.displayConfig then
    match writeHostMessage (.displayConfig next) w with
    | (.error _, w) => ({ h with connectionError := some "updating display configuration" }, w)
    | (.ok _, w) => ({ h with displayConfig := next }, w)
  else (h, w)

def updateNetwork (next : NetworkConfig) (h : Host) (w : World) : Host × World :=
  if h.connectionError.isNone ∧ next ≠ h.networkConfig then
    match writeHostMessage (.networkConfig next) w with
    | (.error _, w) => ({ h with connectionError := some "updating network configuration" }, w)
    | (.ok _, w) => ({ h with networkConfig := next }, w)
  else (h, w)

/-- The manifests that changed are sent; the page count follows when both writes succeed. -/
def replaceManifests (display : DisplayConfig) (network : NetworkConfig) (guestPages : Nat) (h : Host) (w : World) :
    Host × World :=
  let d := h.updateDisplay display w
  let n := d.1.updateNetwork network d.2
  ({ n.1 with
      configuredGuestPages := if n.1.connectionError.isNone then guestPages else n.1.configuredGuestPages }, n.2)

/-- The manifests are compiled anew when the guests take another number of pages. -/
def updateManifests (config : Config) (build : SoftwareVersion) (guestCount : Nat) (h : Host) (w : World) :
    Except ConfigError (Host × World) :=
  if guestPageCount guestCount ≠ h.configuredGuestPages then do
    let display ← config.displayConfig build guestCount
    let network ← config.networkConfig guestCount
    return h.replaceManifests display network (guestPageCount guestCount) w
  else return (h, w)

def sendSnapshot (updateInterval sentAt : Nat) (snapshot : HealthSnapshot) (h : Host) (w : World) : Host × World :=
  if h.connectionError.isNone then
    match writeHostMessage (.healthSnapshot snapshot) w with
    | (.ok _, w) => ({ h with nextUpdate := sentAt + updateInterval * 1000 }, w)
    | (.error _, w) => ({ h with connectionError := some "writing USB display" }, w)
  else (h, w)

/-- A snapshot may be sent. -/
def Due (now : Nat) (h : Host) : Prop := h.handshakeEstablished ∧ h.connectionError.isNone ∧ now ≥ h.nextUpdate

instance (now : Nat) (h : Host) : Decidable (h.Due now) := inferInstanceAs (Decidable (_ ∧ _))

/-- A due snapshot is sent, behind the manifests it needs. The process ends when they cannot be compiled, or
    when the policy panics. -/
def sendUpdate (config : Config) (build : SoftwareVersion) (now sentAt : Nat) (h : Host) (w : World) : Host × World :=
  if h.Due now then
    match h.latestHealth with
    | none => (h, w)
    | some snapshot =>
      match { h with latestHealth := none }.updateManifests config build snapshot.guests.guests.length w with
      | .error _ => ({ h with phase := .stopped }, w)
      | .ok (h, w) =>
        match config.evaluateHealth snapshot with
        | none => ({ h with phase := .stopped }, w)
        | some (status, incidents) =>
          h.sendSnapshot config.host.updateInterval sentAt (snapshot.setIncidents status incidents) w
  else (h, w)

/-- What a complete frame does. -/
def receive (config : Config) (a : Arrival) (h : Host) (w : World) : Host × World :=
  match a.frame with
  | .ok (.hello _ acknowledgedSession) =>
    if acknowledgedSession = some h.handshakeNonce then
      if h.handshakeEstablished then (h, w)
      else ({ h with handshakeEstablished := true, manifestPending := true, nextUpdate := a.now }, w)
    else
      -- An unacknowledged Hello of a Stick that starts, or an acknowledgement for an earlier process.
      ({ h with handshakeEstablished := false, nextHello := a.now }, w)
  | .ok message =>
    if h.handshakeEstablished then
      match EventHandler.handle config.actions.shutdown.enabled a.host message w with
      | (.ok stop, w) => (if stop then { h with phase := .stopped } else h, w)
      | (.error _, w) => ({ h with phase := .closing, connectionError := some "handling USB display message" }, w)
    else (h, w)
  | .error _ => (h, w)

/-- No more frames are complete. -/
def endRead (failed : Bool) (h : Host) : Host :=
  { h with
    phase := .closing
    connectionError := if failed then some "reading USB display" else h.connectionError }

/-- The end of an iteration, which closes the port after an error. -/
def close (h : Host) : Host :=
  { h with phase := .opening, portOpen := h.portOpen && h.connectionError.isNone, connectionError := none }

/-- The phase moves on, unless the process has ended. -/
def proceed (phase : Phase) (r : Host × World) : Host × World :=
  ({ r.1 with phase := if r.1.phase = .stopped then .stopped else phase }, r.2)

/-- One phase, or a frame of the reading phase. Nothing happens in the wrong phase. -/
def step (config : Config) (build : SoftwareVersion) (e : HostEvent) (h : Host) (w : World) : Host × World :=
  match e with
  | .collected snapshot => ({ h with latestHealth := some snapshot }, w)
  | .opened result =>
    if h.phase ≠ .opening then (h, w)
    else if h.portOpen then ({ h with phase := .hello }, w)
    else (result.elim h fun opened => h.reopen opened.1 opened.2, w)
  | .hello now sentAt => if h.phase ≠ .hello then (h, w) else proceed .manifest (h.sendHello build now sentAt w)
  | .manifest => if h.phase ≠ .manifest then (h, w) else proceed .update (h.sendManifest w)
  | .update now sentAt =>
    if h.phase ≠ .update then (h, w)
    else
      let r := h.sendUpdate config build now sentAt w
      proceed (if r.1.connectionError.isNone then .reading else .closing) r
  | .frame arrival => if h.phase ≠ .reading then (h, w) else h.receive config arrival w
  | .read failed => (if h.phase ≠ .reading then h else h.endRead failed, w)
  | .close => (if h.phase ≠ .closing then h else h.close, w)

end Host

/-! ### The bytes that are read -/

/-- Where the daemon stands in the bytes it reads. It may have begun in the middle of a frame, and passes
    over everything up to the first delimiter. -/
structure Receiver where
  synchronized : Bool
  decoder : FrameDecoder maxDeviceFrameLen

namespace Receiver

def new : Receiver := ⟨false, .new _⟩

def push (r : Receiver) (byte : UInt8) : Receiver × Option (Except ProtocolError (List UInt8)) :=
  if r.synchronized then
    let (decoder, frame) := r.decoder.push byte
    ({ r with decoder }, frame)
  else if byte = 0 then (⟨true, .new _⟩, none)
  else (r, none)

/-- The frames that the bytes of a read complete, decoded. -/
def readFrames (decode : List UInt8 → Except ProtocolError DeviceMessage) (r : Receiver) :
    List UInt8 → Receiver × List (Except ProtocolError DeviceMessage)
  | [] => (r, [])
  | byte :: rest =>
    let (r, frame) := r.push byte
    let (r, frames) := r.readFrames decode rest
    (r, (frame.map (·.bind decode)).toList ++ frames)

end Receiver
end Servatory
