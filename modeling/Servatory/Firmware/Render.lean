import Servatory.Firmware.Format
import Servatory.Firmware.Main

/-! The screen, as the texts drawn on it in order. Frames, icons, bars, dots and colours are left out:
    drawing them cannot fail. -/

namespace Servatory

/-- A text and where it is drawn. -/
structure Text where
  text : String
  x : Int
  y : Int
  deriving DecidableEq, Repr

/-- How drawing a screen can crash the Stick. -/
inductive Panic
  | indexOutOfBounds
  | capacity
  deriving DecidableEq, Repr

def guestsPerPage : Nat := 4

/-- What the screens read from outside the main loop: the versions that were built in, the address and the
    setup network of the network tasks, and whether a URL fits the QR code that is drawn of it. -/
structure Surroundings where
  packageVersion : String
  buildVersion : SoftwareVersion
  stationIpv4 : Option (UInt8 × UInt8 × UInt8 × UInt8)
  provisioningSsid : Option String
  qrFits : String → Bool

/-- The name that was collected, or the crash of collecting it. -/
def unwrapName {N : Nat} (name : Option (FixedString N)) : Except Panic String :=
  match name with
  | some name => .ok name.value
  | none => .error .capacity

def drawHeader (snapshot : HealthSnapshot) (title : String) (page pageCount : Nat) : Except Panic (List Text) := do
  let hostName ← unwrapName (shortHostName snapshot.hostName)
  let pageText : FixedString 16 := FixedString.empty.write [toString (page + 1), "/", toString pageCount]
  return [⟨hostName, 4, 13⟩, ⟨title, 88, 13⟩, ⟨pageText.value, 216, 13⟩]

def drawSummaryItem (x y : Int) (label value : String) (detail : Option String) : List Text :=
  [⟨label, x + 20, y + 9⟩, ⟨value, x + 56, y + 9⟩] ++ (detail.map (⟨·, x + 20, y + 21⟩)).toList

def drawStackedSummaryItem (x y : Int) (label value : String) : List Text :=
  [⟨label, x + 20, y + 9⟩, ⟨value, x + 20, y + 21⟩]

def drawValueCard (x y : Int) (label value : String) : List Text :=
  [⟨label, x + 27, y + 15⟩, ⟨value, x + 49, y + 39⟩]

def drawMetricCard (x y : Int) (label : String) (value : Nat) (suffix : String) : List Text :=
  let text : FixedString 12 := FixedString.empty.write [toString value, suffix]
  drawValueCard x y label text.value

def drawOverview (snapshot : HealthSnapshot) (page : Nat) (title : String) (pageCount : Nat) :
    Except Panic (List Text) := do
  let header ← drawHeader snapshot title page pageCount
  let status := snapshot.health
  let seconds := snapshot.uptimeSeconds.toNat
  let uptime : FixedString 24 :=
    FixedString.empty.write ["UP ", toString (seconds / 86400), "d ", toString (seconds % 86400 / 3600), "h"]
  let cause : FixedString 16 := FixedString.empty.write [status.message]
  let (running, total) := guestCounts snapshot
  let guestText : FixedString 24 := FixedString.empty.write [toString running, "/", toString total, " RUN"]
  return header ++ [⟨healthLevelLabel status.level, 12, 46⟩, ⟨uptime.value, 14, 70⟩] ++
    (if status.level ≠ .healthy then [⟨"CAUSE", 12, 91⟩, ⟨cause.value, 12, 108⟩] else []) ++
    drawStackedSummaryItem 109 23 "HOST" (formatHostMetrics snapshot).value ++
    drawSummaryItem 109 58 "NET" (formatLink snapshot).value (some (formatNetworkSummary snapshot).value) ++
    drawStackedSummaryItem 109 94 "GUESTS" guestText.value

def drawResources (snapshot : HealthSnapshot) (page : Nat) (title : String) (pageCount : Nat) :
    Except Panic (List Text) := do
  let header ← drawHeader snapshot title page pageCount
  let hundredths := snapshot.loadAverageX100.toNat % 100
  let load : FixedString 16 :=
    FixedString.empty.write
      ([toString (snapshot.loadAverageX100.toNat / 100), "."] ++ (if hundredths < 10 then ["0"] else []) ++
        [toString hundredths])
  let memoryDetail : FixedString 24 :=
    FixedString.empty.write
      [toString (snapshot.memoryUsedMib.toNat / 1024), "/", toString (snapshot.memoryTotalMib.toNat / 1024), "G"]
  return header ++ drawMetricCard 4 19 "CPU" snapshot.cpuPercent.toNat "%" ++
    drawMetricCard 122 19 "MEM" (memoryPercent snapshot) "%" ++
    [⟨memoryDetail.value, 230 - memoryDetail.value.utf8ByteSize * 6, 34⟩] ++
    drawMetricCard 4 72 "IO PRESS" snapshot.ioPressurePercent.toNat "%" ++ drawValueCard 122 72 "LOAD" load.value

def drawStorageRow (cardX baseline : Int) (label : String) (usage : FilesystemUsage) : List Text :=
  let available := (formatAvailableStorage usage.availableMib).value
  ⟨label, cardX + 6, baseline⟩ ::
    if usage.mounted then [⟨available, cardX + 108 - available.utf8ByteSize * 6, baseline⟩]
    else [⟨"MISSING", cardX + 66, baseline⟩]

def drawSmartRow (cardX baseline : Int) (device : SmartDeviceSummary) : List Text :=
  let detail := (formatSmartDetail device).value
  [⟨device.label, cardX + 6, baseline⟩, ⟨detail, cardX + 108 - detail.utf8ByteSize * 6, baseline⟩]

/-- One row for each index, `step` pixels apart; an index without data leaves its row empty. -/
def drawRows (indices : List UInt32) (step : Int) (draw : Nat → Int → List Text) : List Text :=
  indices.zipIdx.flatMap fun (index, row) => draw index.toNat (51 + row * step)

def drawStorageSmart (snapshot : HealthSnapshot) (config : DisplayConfig) (page : Nat) (title : String)
    (filesystemsLeft : Bool) (filesystemIndices smartIndices : List UInt32) (pageCount : Nat) :
    Except Panic (List Text) := do
  let header ← drawHeader snapshot title page pageCount
  let filesystemX : Int := if filesystemsLeft then 4 else 122
  let smartX : Int := if filesystemsLeft then 122 else 4
  return header ++ [⟨"FILESYSTEMS", filesystemX + 26, 34⟩] ++
    drawRows filesystemIndices 18 (fun index baseline =>
      match config.filesystemLabels[index]?, snapshot.filesystems[index]? with
      | some label, some usage => drawStorageRow filesystemX baseline label.value usage
      | _, _ => []) ++
    [⟨(formatBackupJob snapshot).value, filesystemX + 6, 112⟩, ⟨"SMART", smartX + 26, 34⟩] ++
    if smartIndices.isEmpty then [⟨"NOT CONFIGURED", smartX + 6, 58⟩]
    else
      drawRows smartIndices 17 fun index baseline =>
        match snapshot.smart.devices[index]? with
        | some device => drawSmartRow smartX baseline device
        | none => []

def drawUpsNetwork (snapshot : HealthSnapshot) (page : Nat) (title : String) (upsLeft : Bool) (pageCount : Nat) :
    Except Panic (List Text) := do
  let header ← drawHeader snapshot title page pageCount
  let upsX : Int := if upsLeft then 4 else 122
  let networkX : Int := if upsLeft then 122 else 4
  let showLastSuccess := networkHasError snapshot
  let ipY : Int := if showLastSuccess then 96 else 108
  return header ++
    [⟨"UPS", upsX + 26, 34⟩, ⟨upsStatusText snapshot, upsX + 6, 57⟩, ⟨(formatUpsBattery snapshot).value, upsX + 6, 76⟩,
      ⟨(formatUpsLoad snapshot).value, upsX + 6, 92⟩, ⟨(formatUpsRuntime snapshot).value, upsX + 6, 108⟩,
      ⟨"ETHERNET", networkX + 26, 34⟩,
      ⟨if snapshot.networkInterface.isEmpty then "NO INTERFACE" else snapshot.networkInterface, networkX + 6, 48⟩,
      ⟨(formatLink snapshot).value, networkX + 6, if showLastSuccess then 68 else 78⟩,
      ⟨networkStatusText snapshot, networkX + 6, if showLastSuccess then 82 else 92⟩, ⟨"IP", networkX + 6, ipY⟩,
      ⟨(formatIpv4 snapshot.ipv4).value, networkX + 24, ipY⟩] ++
    if showLastSuccess then
      [⟨(formatLastInternetSuccess snapshot.lastInternetSuccessAgeSeconds).value, networkX + 6, 112⟩]
    else []

def drawGuest (row : Nat) (guest : GuestSummary) : Except Panic (List Text) := do
  let y : Int := 49 + row * 22
  let name ← unwrapName (shortName guest.name)
  let cpu : FixedString 8 := FixedString.empty.write [toString guest.cpuPercent.toNat, "%"]
  return [⟨name, 25, y⟩, ⟨if guest.status = .running then "RUN" else "STOP", 143, y⟩, ⟨cpu.value, 204, y⟩]

/-- The guests a page shows. -/
def pageGuests (snapshot : HealthSnapshot) (offset limit : UInt32) : List GuestSummary :=
  (snapshot.guests.guests.drop offset.toNat).take (min limit.toNat guestsPerPage)

def drawGuests (snapshot : HealthSnapshot) (page : Nat) (title : String) (offset limit : UInt32) (pageCount : Nat) :
    Except Panic (List Text) := do
  let header ← drawHeader snapshot title page pageCount
  let (running, total) := guestCounts snapshot
  let count : FixedString 16 := FixedString.empty.write [toString running, "/", toString total, " RUN"]
  let rows ← (pageGuests snapshot offset limit).zipIdx.mapM fun p => drawGuest p.2 p.1
  return header ++ [⟨count.value, 28, 31⟩, ⟨"STATUS", 143, 31⟩, ⟨"CPU", 207, 31⟩] ++ rows.flatten

def drawPage (snapshot : HealthSnapshot) (config : DisplayConfig) (page : Nat) (view : DisplayView) :
    Except Panic (List Text) :=
  let title := view.title.value
  let pageCount := config.pages.length
  match view.page with
  | .overview => drawOverview snapshot page title pageCount
  | .resources => drawResources snapshot page title pageCount
  | .storage filesystemsLeft filesystemIndices smartIndices =>
    drawStorageSmart snapshot config page title filesystemsLeft filesystemIndices smartIndices pageCount
  | .powerNetwork upsLeft => drawUpsNetwork snapshot page title upsLeft pageCount
  | .guests offset limit => drawGuests snapshot page title offset limit pageCount

/-- A page of the manifest; there is no page to draw in an empty one. -/
def drawSnapshot (snapshot : HealthSnapshot) (config : DisplayConfig) (page : Nat) : Except Panic (List Text) :=
  let page := page % max config.pages.length 1
  match config.pages[page]? with
  | some view => drawPage snapshot config page view
  | none => .error .indexOutOfBounds

def drawMessage (title detail : String) : List Text := [⟨title, 20, 55⟩, ⟨detail, 22, 79⟩]

def drawWifiSetup (ssid : String) : List Text :=
  [⟨"WIFI SETUP", 12, 27⟩, ⟨"NETWORK", 12, 50⟩, ⟨ssid, 12, 63⟩, ⟨"OPEN NETWORK", 12, 82⟩,
    ⟨"OPEN 192.168.4.1", 12, 105⟩]

def drawShutdownStatus (status : ShutdownDisplay) : List Text :=
  let detail (pieces : List String) : String := (FixedString.empty.write pieces : FixedString 32).value
  match status with
  | .accepted => drawMessage "SHUTTING DOWN" "Preparing guests..."
  | .guests total remaining =>
    drawMessage "STOPPING GUESTS"
      (detail [toString remaining.toNat, " of ", toString total.toNat, " remaining"])
  | .guestsStopped => drawMessage "GUESTS STOPPED" "Host shutdown next"
  | .hostPoweroff _ remaining =>
    drawMessage "HOST SHUTDOWN"
      (if remaining = 0 then detail ["Stopping services..."] else detail [toString remaining.toNat, " guests handed off"])
  | .reportingLost remaining =>
    drawMessage "REPORTING LOST" (detail ["USB active, last count ", toString remaining.toNat])
  | .connectionLost remaining =>
    drawMessage "CONNECTION LOST" (detail ["USB link down, last ", toString remaining.toNat])
  | .failed .hostPoweroff remaining =>
    drawMessage "SHUTDOWN FAILED" (detail ["Poweroff failed, ", toString remaining.toNat, " remain"])

def drawDetailedAbout (env : Surroundings) (config : DisplayConfig) : List Text :=
  let line (N : Nat) (pieces : List String) : String := (FixedString.empty.write pieces : FixedString N).value
  [⟨"ABOUT", 18, 35⟩, ⟨line 40 ["FIRMWARE  ", env.buildVersion.value], 18, 54⟩,
    ⟨line 40 ["DAEMON    ", config.daemonVersion.value], 18, 70⟩,
    ⟨line 24 ["PROTOCOL  ", toString protocolVersion.toNat], 18, 86⟩,
    ⟨match env.stationIpv4 with
      | some ipv4 => line 32 ("IP        " :: ipv4Pieces ipv4)
      | none => line 32 ["IP        WAITING"], 18, 102⟩,
    ⟨"Click to return", 18, 119⟩]

def drawQrAbout (env : Surroundings) (config : DisplayConfig) (ipv4 : UInt8 × UInt8 × UInt8 × UInt8) : List Text :=
  let line (N : Nat) (pieces : List String) : String := (FixedString.empty.write pieces : FixedString N).value
  [⟨"ABOUT", 16, 31⟩, ⟨line 24 ["FW    ", env.packageVersion], 16, 51⟩,
    ⟨line 24 ["HOST  ", shortVersion config.daemonVersion.value], 16, 67⟩,
    ⟨line 16 ["PROTO ", toString protocolVersion.toNat], 16, 83⟩, ⟨"IP", 16, 98⟩,
    ⟨line 20 (ipv4Pieces ipv4), 16, 110⟩, ⟨"SCAN TO OPEN", 16, 122⟩]

def drawAbout (env : Surroundings) (config : DisplayConfig) (webServerPort : Option UInt16) : List Text :=
  match env.stationIpv4, webServerPort with
  | some ipv4, some port =>
    let url : FixedString 40 :=
      FixedString.empty.write
        ("http://" :: ipv4Pieces ipv4 ++ if port = 80 then ["/"] else [":", toString port.toNat, "/"])
    if env.qrFits url.value then drawQrAbout env config ipv4 else drawDetailedAbout env config
  | _, _ => drawDetailedAbout env config

/-- The screens, one for each case that `render` tells apart. -/
inductive Screen
  | about
  | shutdown
  | hostLost
  | updateRequired
  | snapshot (snapshot : HealthSnapshot)
  | noSnapshot
  | wifiSetup (ssid : String)
  | usbReady
  | offline
  deriving DecidableEq, Repr

namespace Stick

def screen (env : Surroundings) (s : Stick) : Screen :=
  if s.showAbout ∧ s.daemon ≠ .poweringOff then .about
  else
    match s.daemon with
    | .poweringOff => .shutdown
    | .stale => .hostLost
    | .incompatible => .updateRequired
    | .connected =>
      match s.healthSnapshot with
      | some snapshot => .snapshot snapshot
      | none => .noSnapshot
    | .waiting =>
      match env.provisioningSsid with
      | some ssid => .wifiSetup ssid
      | none => if s.usbConnected then .usbReady else .offline

def render (env : Surroundings) (s : Stick) : Except Panic (List Text) :=
  match s.screen env with
  | .about => .ok (drawAbout env s.displayConfig s.network.webServerPort)
  | .shutdown => .ok (drawShutdownStatus s.shutdownDisplay)
  | .hostLost => .ok (drawMessage "HOST LOST" "Updates stopped")
  | .updateRequired =>
    let detail : FixedString 32 := FixedString.empty.write ["Stick protocol v", toString protocolVersion.toNat]
    .ok (drawMessage "UPDATE REQUIRED" detail.value)
  | .snapshot snapshot => drawSnapshot snapshot s.displayConfig s.page
  | .noSnapshot => .ok (drawMessage "WAITING" "No health snapshot")
  | .wifiSetup ssid => .ok (drawWifiSetup ssid)
  | .usbReady => .ok (drawMessage "USB READY" "Start host daemon")
  | .offline => .ok (drawMessage "OFFLINE" "Connect USB host")

/-- An iteration that draws: nothing when nothing changed or the bar of a long press covers the screen. -/
def draw (env : Surroundings) (s : Stick) : Except Panic (List Text) :=
  if s.renderPending && !s.shutdownAnimationActive then s.render env else .ok []

/-- A run of the loop that ends at the first screen it cannot draw. -/
def runDrawing (build : SoftwareVersion) (s : Stick) : List (Surroundings × Input) → Except Panic Stick
  | [] => .ok s
  | (env, i) :: rest =>
    match (s.update build i).draw env with
    | .ok _ => (s.iterate build i).1.runDrawing build rest
    | .error panic => .error panic

end Stick
end Servatory
