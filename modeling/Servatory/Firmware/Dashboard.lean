import Servatory.Firmware.Format
import Servatory.Firmware.Notifications
import Servatory.Lib.Html

/-! The dashboard that the web server renders from the shared state. Each function lists what it writes to the buffer,
    in order: markup as it stands, numbers, and with `text` what goes through `push_html`. -/

namespace Servatory.Dashboard
open Html (Write)
open Html.Write

def dashboardBodyCapacity : Nat := 16 * 1024

/-- Only one dashboard is made and sent at a time. -/
def dashboardDynamicResponses : Nat := 1

structure DashboardBuffer where
  inner : String
  overflowed : Bool

namespace DashboardBuffer

def new : DashboardBuffer := ⟨"", false⟩

def pushStr (b : DashboardBuffer) (value : String) : DashboardBuffer :=
  if b.inner.utf8ByteSize + value.utf8ByteSize ≤ dashboardBodyCapacity then { b with inner := b.inner ++ value }
  else { b with overflowed := true }

def push (b : DashboardBuffer) (value : Char) : DashboardBuffer := b.pushStr (String.singleton value)

/-- `write!` with the pieces that formatting issues: it ends at the first piece behind which the buffer has overflowed,
    and the error is dropped. -/
def write (b : DashboardBuffer) : List String → DashboardBuffer
  | [] => b
  | piece :: pieces =>
    let b := b.pushStr piece
    if b.overflowed then b else b.write pieces

/-- What is done to a buffer. -/
inductive Operation
  | pushStr (value : String)
  | push (value : Char)
  | write (pieces : List String)

def apply (b : DashboardBuffer) : Operation → DashboardBuffer
  | .pushStr value => b.pushStr value
  | .push value => b.push value
  | .write pieces => b.write pieces

def run (b : DashboardBuffer) (operations : List Operation) : DashboardBuffer := operations.foldl apply b

def finish (b : DashboardBuffer) (document : Bool) : String :=
  if !b.overflowed then b.inner
  else if document then
    "<!doctype html><meta name=viewport content='width=device-width,initial-scale=1'><title>Servatory</title><p>Dashboard data exceeds the firmware response budget.</p>"
  else "<div class=shell><p>Dashboard data exceeds the firmware response budget.</p></div>"

end DashboardBuffer

def pushHtml (output : DashboardBuffer) (value : String) : DashboardBuffer :=
  value.toList.foldl (fun output character =>
    match character with
    | '&' => output.pushStr "&amp;"
    | '<' => output.pushStr "&lt;"
    | '>' => output.pushStr "&gt;"
    | '"' => output.pushStr "&quot;"
    | _ => output.push character) output

/-- One write. Behind an overflow the source leaves out the rest of a `write!`; it is not part of the result then. -/
def DashboardBuffer.put (b : DashboardBuffer) : Write → DashboardBuffer
  | .markup s => b.pushStr s
  | .number n => b.pushStr (toString n)
  | .text s => pushHtml b s

def formatCapacityMib (mebibytes : UInt32) : String :=
  let mebibytes := mebibytes.toNat
  if mebibytes ≥ 1048576 then
    let tenths := mebibytes * 10 / 1048576
    toString (tenths / 10) ++ "." ++ toString (tenths % 10) ++ " TiB"
  else if mebibytes ≥ 1024 then
    let tenths := mebibytes * 10 / 1024
    toString (tenths / 10) ++ "." ++ toString (tenths % 10) ++ " GiB"
  else toString mebibytes ++ " MiB"

def formatDurationCompact (seconds : UInt32) : String :=
  let seconds := seconds.toNat
  if seconds ≥ 86400 then toString (seconds / 86400) ++ "d " ++ toString (seconds % 86400 / 3600) ++ "h"
  else if seconds ≥ 3600 then toString (seconds / 3600) ++ "h " ++ toString (seconds % 3600 / 60) ++ "m"
  else toString (seconds / 60) ++ "m"

def backupStatusText (snapshot : HealthSnapshot) : String :=
  match snapshot.backupJobStatus with
  | .healthy =>
    match snapshot.lastSuccessfulBackupAgeSeconds with
    | none => "Healthy"
    | some seconds => "Healthy · " ++ formatDurationCompact seconds ++ " ago"
  | .running => "Running"
  | .failed => "Failed"
  | .stale =>
    match snapshot.lastSuccessfulBackupAgeSeconds with
    | none => "Overdue"
    | some seconds => formatDurationCompact seconds ++ " old"
  | .noJob => "No job"
  | .unknown => "Unknown"

def backupStatusClass : BackupJobStatus → String
  | .healthy => "ok"
  | .running => "ok"
  | .failed => "warn"
  | .stale => "warn"
  | .noJob => "warn"
  | .unknown => "crit"

def smartStatusText : SmartStatus → String
  | .healthy => "HEALTHY"
  | .warning => "WARNING"
  | .failed => "FAILED"
  | .sleeping => "SLEEPING"
  | .unknown => "UNKNOWN"

def smartStatusClass : SmartStatus → String
  | .healthy => "ok"
  | .sleeping => ""
  | .warning => "warn"
  | .unknown => "warn"
  | .failed => "crit"

def upsStatusText (status : UpsStatus) (stale : Bool) : String :=
  if stale && status != .unavailable then "STALE"
  else
    match status with
    | .notConfigured => "NOT CONFIGURED"
    | .unknown => "NO DATA"
    | .unavailable => "NO DATA"
    | .online => "ONLINE"
    | .onBattery => "ON BATTERY"
    | .lowBattery => "LOW BATTERY"
    | .charging => "CHARGING"
    | .bypass => "BYPASS"
    | .outputOff => "OUTPUT OFF"
    | .replaceBattery => "REPLACE BATTERY"

def upsStatusClass : UpsStatus → String
  | .online => "ok"
  | .charging => "ok"
  | .notConfigured => ""
  | .onBattery => "warn"
  | .bypass => "warn"
  | .unknown => "warn"
  | .unavailable => "warn"
  | .lowBattery => "crit"
  | .outputOff => "crit"
  | .replaceBattery => "crit"

def internetStatusText : InternetStatus → String
  | .reachable => "REACHABLE"
  | .checking => "CHECKING"
  | .missed => "RETRYING"
  | .failed => "FAILED"

def internetStatusClass : InternetStatus → String
  | .reachable => "ok"
  | .checking => "warn"
  | .missed => "warn"
  | .failed => "crit"

def levelClass : HealthLevel → String
  | .healthy => "ok"
  | .warning => "warn"
  | .critical => "crit"

def levelText : HealthLevel → String
  | .healthy => "HEALTHY"
  | .warning => "WARNING"
  | .critical => "CRITICAL"

def pageClass : Nat → String
  | 0 => "page-overview"
  | 1 => "page-resources"
  | 2 => "page-storage"
  | 3 => "page-power"
  | 4 => "page-guests"
  | _ => ""

def dashboardIcon : Nat → String
  | 0 =>
    "<svg aria-hidden=true viewBox='0 0 24 24' fill=none stroke=currentColor stroke-width=2 stroke-linecap=round stroke-linejoin=round><path d='M22 12h-2.48a2 2 0 0 0-1.93 1.46l-2.35 8.36a.25.25 0 0 1-.48 0L9.24 2.18a.25.25 0 0 0-.48 0l-2.35 8.36A2 2 0 0 1 4.49 12H2'/></svg>"
  | 1 =>
    "<svg aria-hidden=true viewBox='0 0 24 24' fill=none stroke=currentColor stroke-width=2 stroke-linecap=round stroke-linejoin=round><path d='m12 14 4-4'/><path d='M3.34 19a10 10 0 1 1 17.32 0'/></svg>"
  | 2 =>
    "<svg aria-hidden=true viewBox='0 0 24 24' fill=none stroke=currentColor stroke-width=2 stroke-linecap=round stroke-linejoin=round><path d='M10 16h.01'/><path d='M2.212 11.577a2 2 0 0 0-.212.896V18a2 2 0 0 0 2 2h16a2 2 0 0 0 2-2v-5.527a2 2 0 0 0-.212-.896L18.55 5.11A2 2 0 0 0 16.76 4H7.24a2 2 0 0 0-1.79 1.11z'/><path d='M21.946 12.013H2.054'/><path d='M6 16h.01'/></svg>"
  | 3 =>
    "<svg aria-hidden=true viewBox='0 0 24 24' fill=none stroke=currentColor stroke-width=2 stroke-linecap=round stroke-linejoin=round><rect x=16 y=16 width=6 height=6 rx=1/><rect x=2 y=16 width=6 height=6 rx=1/><rect x=9 y=2 width=6 height=6 rx=1/><path d='M5 16v-3a1 1 0 0 1 1-1h12a1 1 0 0 1 1 1v3'/><path d='M12 12V8'/></svg>"
  | 4 =>
    "<svg aria-hidden=true viewBox='0 0 24 24' fill=none stroke=currentColor stroke-width=2 stroke-linecap=round stroke-linejoin=round><path d='M2.97 12.92A2 2 0 0 0 2 14.63v3.24a2 2 0 0 0 .97 1.71l3 1.8a2 2 0 0 0 2.06 0L12 19v-5.5l-5-3-4.03 2.42Z'/><path d='m7 16.5-4.74-2.85'/><path d='m7 16.5 5-3'/><path d='M7 16.5v5.17'/><path d='M12 13.5V19l3.97 2.38a2 2 0 0 0 2.06 0l3-1.8a2 2 0 0 0 .97-1.71v-3.24a2 2 0 0 0-.97-1.71L17 10.5l-5 3Z'/><path d='m17 16.5-5-3'/><path d='m17 16.5 4.74-2.85'/><path d='M17 16.5v5.17'/><path d='M7.97 4.42A2 2 0 0 0 7 6.13v4.37l5 3 5-3V6.13a2 2 0 0 0-.97-1.71l-3-1.8a2 2 0 0 0-2.06 0l-3 1.8Z'/><path d='M12 8 7.26 5.15'/><path d='m12 8 4.74-2.85'/><path d='M12 13.5V8'/></svg>"
  | 5 =>
    "<svg aria-hidden=true viewBox='0 0 24 24' fill=none stroke=currentColor stroke-width=2 stroke-linecap=round stroke-linejoin=round><path d='M10.268 21a2 2 0 0 0 3.464 0'/><path d='M3.262 15.326A1 1 0 0 0 4 17h16a1 1 0 0 0 .74-1.673C19.41 13.956 18 12.499 18 8A6 6 0 0 0 6 8c0 4.499-1.411 5.956-2.738 7.326'/></svg>"
  | 6 =>
    "<svg aria-hidden=true viewBox='0 0 24 24' fill=none stroke=currentColor stroke-width=2 stroke-linecap=round stroke-linejoin=round><circle cx=12 cy=12 r=10/><path d='M12 16v-4'/><path d='M12 8h.01'/></svg>"
  | 7 =>
    "<svg aria-hidden=true viewBox='0 0 24 24' fill=none stroke=currentColor stroke-width=2 stroke-linecap=round stroke-linejoin=round><path d='m21.73 18-8-14a2 2 0 0 0-3.48 0l-8 14A2 2 0 0 0 4 21h16a2 2 0 0 0 1.73-3'/><path d='M12 9v4'/><path d='M12 17h.01'/></svg>"
  | _ => ""

def renderMetric (label : String) (percent : UInt8) (detail : String) : List Write :=
  [markup "<div class=metric><div class=metric-row><strong>", text label, markup "</strong><span>",
    number percent.toNat, markup "% · ", text detail, markup "</span></div><div class=bar><i style='width:",
    number (min percent.toNat 100), markup "%'></i></div></div>"]

/-! ### The pages -/

def renderOverview (snapshot : HealthSnapshot) : List Write :=
  let running := (snapshot.guests.guests.filter (·.status == .running)).length
  let days := snapshot.uptimeSeconds.toNat / 86400
  let hours := snapshot.uptimeSeconds.toNat % 86400 / 3600
  [markup
      "<div class=overview-lead><span class=pulse></span><div><span class=label>Current state</span><strong class=",
    markup (levelClass snapshot.health.level), markup ">", text snapshot.health.message,
    markup
      "</strong></div></div><div class=overview-grid><div class=datum><span class=label>Host</span><strong>",
    text snapshot.hostName,
    markup "</strong></div><div class=datum><span class=label>Uptime</span><strong>", number days, markup "d ",
    number hours, markup "h</strong></div><div class=datum><span class=label>Network</span><strong>"] ++
    (if snapshot.networkInterface.isEmpty then [markup "No interface"] else [text snapshot.networkInterface]) ++
    [markup "</strong><small>", number snapshot.networkMbps.toNat,
      markup " Mbps</small></div><div class=datum><span class=label>Guests</span><strong>", number running,
      markup " / ", number snapshot.guests.guests.length,
      markup "</strong><small>running / total</small></div></div>"]

/-- The load average is shown with two decimals. -/
def renderResources (snapshot : HealthSnapshot) : List Write :=
  let used := snapshot.memoryUsedMib.toNat
  let total := snapshot.memoryTotalMib.toNat
  let memory := if total = 0 then 0 else used * 100 / total
  let hundredths := snapshot.loadAverageX100.toNat % 100
  renderMetric "CPU" snapshot.cpuPercent "processor usage" ++
    renderMetric "Memory" (if memory < UInt8.size then UInt8.ofNat memory else 100)
      (toString used ++ " / " ++ toString total ++ " MiB") ++
    renderMetric "I/O pressure" snapshot.ioPressurePercent "recent pressure" ++
    [markup "<div class=inline-stat><span class=label>Load average</span><strong>",
      number (snapshot.loadAverageX100.toNat / 100), markup "."] ++
    (if hundredths < 10 then [number 0] else []) ++ [number hundredths, markup "</strong></div>"]

def renderFilesystem (filesystemLabels : List DisplayLabel) (usage : FilesystemUsage) (index : Nat) : List Write :=
  let label := ((filesystemLabels[index]?).map (·.value)).getD "Filesystem"
  let detail := if usage.mounted then formatCapacityMib usage.availableMib ++ " available" else "MISSING"
  renderMetric label usage.usedPercent detail

def renderDevice (device : SmartDeviceSummary) : List Write :=
  [markup "<div class=table-row><strong>", text device.label, markup "</strong><span class=",
    markup (smartStatusClass device.status), markup ">", markup (smartStatusText device.status)] ++
    device.temperatureCelsius.elim [] (fun temperature => [markup " · ", number temperature.toInt, markup "°C"]) ++
    [markup "</span></div>"]

def renderStorage (snapshot : HealthSnapshot) (filesystemLabels : List DisplayLabel) : List Write :=
  [markup "<div class=storage-grid><section class=subpanel><h3 class=section-title>Filesystems</h3>"] ++
    (snapshot.filesystems.zipIdx.flatMap fun (usage, index) => renderFilesystem filesystemLabels usage index) ++
    [markup
      "</section><section class=subpanel><h3 class=section-title>SMART devices</h3><div class=table-list>"] ++
    (if snapshot.smart.devices.isEmpty then [markup "<p class=empty>Not configured</p>"] else []) ++
    snapshot.smart.devices.flatMap renderDevice ++
    [markup
        "</div></section></div><div class=backup-strip><span class=label>Proxmox backup</span><strong class=",
      markup (backupStatusClass snapshot.backupJobStatus), markup ">", text (backupStatusText snapshot),
      markup "</strong></div>"]

def renderPowerNetwork (snapshot : HealthSnapshot) : List Write :=
  [markup
      "<div class=power-grid><section class=subpanel><h3 class=section-title>UPS</h3><div class=table-list><div class=table-row><strong>Status</strong><span class=",
    markup (upsStatusClass snapshot.ups.status), markup ">",
    text (upsStatusText snapshot.ups.status snapshot.ups.stale),
    markup "</span></div><div class=table-row><strong>Battery</strong><span>"] ++
    snapshot.ups.batteryPercent.elim [markup "—"] (fun battery => [number battery.toNat, markup "%"]) ++
    [markup "</span></div><div class=table-row><strong>Load</strong><span>"] ++
    snapshot.ups.loadPercent.elim [markup "—"] (fun load =>
      snapshot.ups.estimatedWatts.elim [number load.toNat, markup "%"] fun watts =>
        [number load.toNat, markup "% · ~", number watts.toNat, markup " W"]) ++
    [markup "</span></div><div class=table-row><strong>Runtime</strong><span>"] ++
    snapshot.ups.runtimeSeconds.elim [markup "—"] (fun seconds => [text (formatDurationCompact seconds)]) ++
    [markup
      "</span></div></div></section><section class=subpanel><h3 class=section-title>Ethernet</h3><div class=table-list><div class=table-row><strong>Interface</strong><span>"] ++
    (if snapshot.networkInterface.isEmpty then [markup "Not found"] else [text snapshot.networkInterface]) ++
    [markup "</span></div><div class=table-row><strong>Link</strong><span class=",
      markup (if snapshot.networkUp then "ok" else "crit"), markup ">",
      markup (if snapshot.networkUp then "UP" else "DOWN"), markup " · ", number snapshot.networkMbps.toNat,
      markup " Mbps</span></div><div class=table-row><strong>Internet</strong><span class=",
      markup (internetStatusClass snapshot.internetStatus), markup ">",
      markup (internetStatusText snapshot.internetStatus),
      markup "</span></div><div class=table-row><strong>Host IPv4</strong><span>", number snapshot.ipv4.1.toNat,
      markup ".", number snapshot.ipv4.2.1.toNat, markup ".", number snapshot.ipv4.2.2.1.toNat, markup ".",
      number snapshot.ipv4.2.2.2.toNat, markup "</span></div>"] ++
    (if snapshot.internetStatus != .reachable then
      [markup "<div class=table-row><strong>Last reachable</strong><span>"] ++
        snapshot.lastInternetSuccessAgeSeconds.elim [markup "Unknown"]
          (fun seconds => [markup (formatDurationCompact seconds), markup " ago"]) ++
        [markup "</span></div>"]
    else []) ++
    [markup "</div></section></div>"]

def renderGuest (guest : GuestSummary) : List Write :=
  let memoryPercent :=
    if guest.memoryTotalMib = 0 then 0 else min (guest.memoryUsedMib.toNat * 100 / guest.memoryTotalMib.toNat) 100
  [markup "<div class=guest-row><span class=guest-id>#", number guest.vmid.toNat,
    markup "</span><div class=guest-name><strong>", text guest.name, markup "</strong><small>",
    markup
      (match guest.kind with
      | .virtualMachine => "Virtual machine"
      | .container => "Container"),
    markup "</small></div><span class='guest-state ", markup (if guest.status = .running then "ok" else "crit"),
    markup "'>", markup (if guest.status = .running then "RUNNING" else "STOPPED"),
    markup "</span><div class=guest-usage><span><b>CPU</b><b>", number guest.cpuPercent.toNat,
    markup "%</b></span><div class=bar><i style='width:", number (min guest.cpuPercent.toNat 100),
    markup "%'></i></div><span><b>Memory</b><b>", number guest.memoryUsedMib.toNat, markup " / ",
    number guest.memoryTotalMib.toNat, markup " MiB</b></span><div class=bar><i style='width:",
    number memoryPercent, markup "%'></i></div></div></div>"]

def renderGuests (snapshot : HealthSnapshot) : List Write :=
  [markup "<div class=guest-list>"] ++
    (if snapshot.guests.guests.isEmpty then [markup "<p class=empty>No guests reported</p>"] else []) ++
    snapshot.guests.guests.flatMap renderGuest ++ [markup "</div>"]

def renderPage (page : DisplayPage) (snapshot : HealthSnapshot) (filesystemLabels : List DisplayLabel) : List Write :=
  match page with
  | .overview => renderOverview snapshot
  | .resources => renderResources snapshot
  | .storage _ _ _ => renderStorage snapshot filesystemLabels
  | .powerNetwork _ => renderPowerNetwork snapshot
  | .guests _ _ => renderGuests snapshot

/-! ### The document -/

def renderFact (label value : String) : List Write :=
  [markup "<div class=fact><span class=label>", text label, markup "</span><strong>", text value,
    markup "</strong></div>"]

/-- The panels behind the pages, with the version of the firmware. -/
def renderDevicePanels (build : SoftwareVersion) (state : SharedState) : List Write :=
  let address := (state.stationIpv4.map fun address => String.join (ipv4Pieces address)).getD "WAITING"
  let daemon := (state.daemonVersion.map (·.value)).getD "WAITING"
  let hostname := (state.manifest.map (·.http.hostname)).getD "servatory"
  let enabled := (state.manifest.map (·.ntfy.enabled)).getD false
  let server := (state.manifest.map (·.ntfy.server)).getD "—"
  [markup "<section class='card notifications'><div class=card-head><span class=icon>", markup (dashboardIcon 5),
    markup "</span><h2>Notifications</h2></div>"] ++
    state.ntfyTopic.elim [] (fun topic =>
      [markup "<span class=label>ntfy topic</span><div class=topic-wrap><code id=topic class=topic>", text topic,
        markup
          "</code><button class=copy-button type=button onclick='copyNtfyTopic(this)'>Copy</button></div>"]) ++
    [markup "<div class=facts><div class=fact><span class=label>Status</span><strong class=",
      markup (if enabled then "ok" else "warn"), markup ">", markup (if enabled then "ENABLED" else "DISABLED"),
      markup "</strong></div>", markup "<div class=fact><span class=label>Server</span><strong>", text server,
      markup
        "</strong></div></div><div class=button-row><button data-client-state type=button onclick='sendTestNotification(this)'>Send test notification</button><span data-client-state id=test-feedback class=test-feedback aria-live=polite></span><button class=button-secondary type=button onclick=\"if(confirm('Generate a new topic? Existing ntfy subscriptions will stop receiving Servatory alerts.'))fetch('/api/v1/notifications/topic/regenerate',\x7bmethod:'POST',headers:\x7b'X-Servatory-Action':'regenerate'\x7d\x7d).then(()=>location.reload())\">Generate new topic</button></div></section>",
      markup "<section class='card about'><div class=card-head><span class=icon>", markup (dashboardIcon 6),
      markup "</span><h2>About</h2></div><div class=facts>"] ++
    ([("Firmware", build.value), ("Daemon", daemon), ("Protocol", toString protocolVersion.toNat),
      ("IP address", address), ("Hostname", hostname)].flatMap fun (label, value) => renderFact label value) ++
    [markup "</div><p class=about-note>Servatory firmware and host connection details.</p></section>"]

def pageKind : DisplayPage → Nat
  | .overview => 0
  | .resources => 1
  | .storage _ _ _ => 2
  | .powerNetwork _ => 3
  | .guests _ _ => 4

/-- The first view of each kind; the others are passed over. -/
def shownViews (shown : List Nat) : List DisplayView → List DisplayView
  | [] => []
  | view :: views =>
    let kind := pageKind view.page
    if shown.contains kind then shownViews shown views else view :: shownViews (kind :: shown) views

def renderView (snapshot : HealthSnapshot) (filesystemLabels : List DisplayLabel) (view : DisplayView) : List Write :=
  let kind := pageKind view.page
  [markup "<section class='card page-card ", markup (pageClass kind),
    markup "'><div class=card-head><span class=icon>", markup (dashboardIcon kind), markup "</span><h2>",
    text view.title.value, markup "</h2></div>"] ++
    renderPage view.page snapshot filesystemLabels ++ [markup "</section>"]

def renderIncident (incident : Incident) : List Write :=
  [markup "<li class=", markup (levelClass incident.level), markup ">", text incident.message, markup "</li>"]

def ageText (age : Option Nat) : List Write :=
  match age with
  | none => [markup "No host snapshot received"]
  | some 0 => [markup "Updated just now"]
  | some 1 => [markup "Updated 1 second ago"]
  | some seconds => [markup "Updated ", number seconds, markup " seconds ago"]

def renderHead (level : HealthLevel) : List Write :=
  [markup
      "<!doctype html><html lang=en><head><meta charset=utf-8><meta name=viewport content='width=device-width,initial-scale=1'><meta name=theme-color content='#f2f6f8'><title>Servatory status</title><link rel=stylesheet href=/dashboard.css><script defer src=/dashboard.js></script>",
    markup "</head><body class=", markup (levelClass level), markup ">"]

def renderShell (level : HealthLevel) (age : Option Nat) : List Write :=
  let stale := age.all fun age => age ≥ hostStaleAfter / 1000000
  [markup "<div class=shell data-body-class=", markup (levelClass level), markup " data-snapshot-age=",
    number (age.elim (-1) fun seconds => seconds), markup " data-stale-after=",
    number ↑(hostStaleAfter / 1000000 : Nat),
    markup "><header class=hero><div class=hero-top><div class=brand><span class=brand-mark>",
    markup (dashboardIcon 0), markup "</span><span>SERVATORY</span></div><div class=live>",
    markup (if stale then "STALE" else "LIVE"),
    markup "</div></div><div class=hero-status><div class=eyebrow>System health</div><h1>",
    markup (levelText level), markup "</h1><p class=snapshot-age aria-live=polite>"] ++ ageText age ++
    [markup "</p></div></header>"]

def renderIncidents (incidents : List Incident) : List Write :=
  if incidents.isEmpty then []
  else
    [markup "<section class='card wide'><div class=card-head><span class='icon icon-alert'>",
      markup (dashboardIcon 7), markup "</span><h2>Active incidents</h2></div><ul class=incident-list>"] ++
      incidents.flatMap renderIncident ++ [markup "</ul></section>"]

/-- What is written for the state. The clock is read twice, for the incidents and for the age of the snapshot. -/
def dashboardWrites (build : SoftwareVersion) (now later : Nat) (state : SharedState) (document : Bool) : List Write :=
  let incidents := activeIncidents now state
  let age := (snapshotAge later state).map (· / 1000000)
  let level := (state.snapshot.map (·.health.level)).getD .critical
  let pages := (state.manifest.map (·.http.pages)).getD []
  (if document then renderHead level else []) ++ renderShell level age ++ renderIncidents incidents ++
    [markup "<main class=grid>"] ++
    state.snapshot.elim [] (fun snapshot =>
      (shownViews [] pages).flatMap (renderView snapshot state.filesystemLabels)) ++
    renderDevicePanels build state ++ [markup "</main></div>"] ++
    if document then [markup "</body></html>"] else []

/-- The buffer behind all writes. -/
def dashboardBuffer (build : SoftwareVersion) (now later : Nat) (state : SharedState) (document : Bool) :
    DashboardBuffer := (dashboardWrites build now later state document).foldl .put .new

def dashboardMarkup (build : SoftwareVersion) (now later : Nat) (state : SharedState) (document : Bool) : String :=
  (dashboardBuffer build now later state document).finish document

end Servatory.Dashboard
