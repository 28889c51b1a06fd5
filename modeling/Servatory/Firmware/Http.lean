import Servatory.Firmware.HealthJson
import Servatory.Firmware.SettingsTasks

/-! The web server in the home network. Its two workers run up to where they wait: for the shared state, for their turn to
    answer with the dashboard, and for the connection. The main loop and the tasks beside it come in between. -/

namespace Servatory

/-! ### Requests and responses -/

/-- The methods that the handler tells apart. -/
inductive HttpMethod
  | get
  | post
  | other
  deriving DecidableEq, Repr

/-- A request, with what its header `X-Servatory-Action` says. -/
structure HttpRequest where
  method : HttpMethod
  path : String
  servatoryAction : Option String
  deriving DecidableEq, Repr

structure HttpResponse where
  status : Nat
  reason : String
  headers : List (String × String)
  body : String
  deriving DecidableEq, Repr

def writeHttpResponse (status : Nat) (reason contentType body : String) : HttpResponse :=
  ⟨status, reason, [("Content-Type", contentType), ("Cache-Control", "no-store"), ("Connection", "Close")], body⟩

/-- What the firmware is built with. -/
structure FirmwareBuild where
  version : SoftwareVersion
  dashboardStyle : String
  dashboardScript : String

def deviceJson (build : SoftwareVersion) (now : Nat) (state : SharedState) : String :=
  let age := ((snapshotAge now state).map (· / 1000000)).getD (UInt64.size - 1)
  let address := (state.stationIpv4.map fun address => String.join (ipv4Pieces address)).getD "0.0.0.0"
  let daemon := (state.daemonVersion.map (·.value)).getD "unknown"
  String.join
    ["\x7b\"firmware\":\"", build.value, "\",\"daemon\":\"", daemon, "\",\"protocol\":", toString protocolVersion,
      ",\"wifi\":\"connected\",\"ipv4\":\"", address, "\",\"snapshot_age_seconds\":", toString age, "\x7d"]

/-- What the handler does for a request. -/
inductive HttpAction
  | regenerate
  | test
  | refuse
  | health
  | device
  | dashboard (document : Bool)
  | file (contentType body : String)
  deriving DecidableEq, Repr

def HttpRequest.action (build : FirmwareBuild) (request : HttpRequest) : HttpAction :=
  let regenerate := request.servatoryAction.any fun value => toAsciiLowercase value == "regenerate"
  if request.method = .post ∧ request.path = "/api/v1/notifications/topic/regenerate" ∧ regenerate then .regenerate
  else if request.method = .post ∧ request.path = "/api/v1/notifications/test" then .test
  else if request.method ≠ .get then .refuse
  else if request.path = "/api/v1/health" then .health
  else if request.path = "/api/v1/device" then .device
  else if request.path = "/api/v1/dashboard-fragment" then .dashboard false
  else if request.path = "/dashboard.css" then .file "text/css; charset=utf-8" build.dashboardStyle
  else if request.path = "/dashboard.js" then .file "text/javascript; charset=utf-8" build.dashboardScript
  else if request.path = "/healthz" then .file "text/plain" "ok\n"
  else .dashboard true

/-- The response to a request, given the state that it is made from. The health and the dashboard read the clock twice. -/
def HttpAction.response (build : FirmwareBuild) (now later : Nat) (state : SharedState) : HttpAction → HttpResponse
  | .regenerate => writeHttpResponse 200 "OK" "text/html; charset=utf-8"
      "<!doctype html><meta http-equiv=refresh content='0;url=/'><p>New ntfy topic generated and saved.</p>"
  | .test => writeHttpResponse 202 "Accepted" "text/plain; charset=utf-8" "Test notification queued.\n"
  | .refuse => writeHttpResponse 405 "Method Not Allowed" "text/plain; charset=utf-8" "Method not allowed.\n"
  | .health => writeHttpResponse 200 "OK" "application/json" (healthJson now later state)
  | .device => writeHttpResponse 200 "OK" "application/json" (deviceJson build.version now state)
  | .dashboard document => writeHttpResponse 200 "OK" "text/html; charset=utf-8"
      (Dashboard.dashboardMarkup build.version now later state document)
  | .file contentType body => writeHttpResponse 200 "OK" contentType body

/-! ### The tasks beside the server -/

/-- What the handlers share with other tasks: the shared state and the settings, and the channel of the test
    notifications. -/
structure WebTasks where
  settings : SettingsTasks
  testNotifications : Option Unit

/-- A step of the main loop, of the task that tracks the address, of the one that stores, or of the one that sends
    notifications. -/
inductive WebTaskStep
  | updateDaemonVersion (version : SoftwareVersion)
  | updateSnapshot (now : Nat) (snapshot : HealthSnapshot)
  | updateFilesystemLabels (labels : List DisplayLabel)
  | updateManifest (manifest : NetworkConfig)
  | setManifest
  | trackAddress (address : Option (UInt8 × UInt8 × UInt8 × UInt8))
  | store (outcome : FlashOutcome)
  | takeTest

namespace WebTasks

/-- The tasks when the Stick starts with settings in flash. -/
def start (store : Store) (settings : StoredSettings) : WebTasks := ⟨.start store settings, none⟩

def setNetwork (t : WebTasks) (network : SharedState) : WebTasks := { t with settings := { t.settings with network } }

/-- The main loop goes on with its next message when the manifest is set. A test is taken only while notifications are
    enabled. -/
def Allowed (t : WebTasks) : WebTaskStep → Prop
  | .updateDaemonVersion _ | .updateSnapshot _ _ | .updateFilesystemLabels _ => t.settings.updating = none
  | .updateManifest manifest => t.settings.Allowed (.updateManifest manifest)
  | .setManifest => t.settings.Allowed .setManifest
  | .trackAddress _ => True
  | .store outcome => t.settings.Allowed (.store outcome)
  | .takeTest => t.testNotifications.isSome ∧ t.settings.network.manifest.any (·.ntfy.enabled)

instance (t : WebTasks) (step : WebTaskStep) : Decidable (t.Allowed step) := by
  cases step <;> unfold Allowed <;> infer_instance

def next (t : WebTasks) : WebTaskStep → WebTasks
  | .updateDaemonVersion version => t.setNetwork (t.settings.network.updateDaemonVersion version)
  | .updateSnapshot now snapshot => t.setNetwork (t.settings.network.updateSnapshot now snapshot)
  | .updateFilesystemLabels labels => t.setNetwork (t.settings.network.updateFilesystemLabels labels)
  | .updateManifest manifest => { t with settings := t.settings.next (.updateManifest manifest) }
  | .setManifest => { t with settings := t.settings.next .setManifest }
  | .trackAddress address => t.setNetwork { t.settings.network with stationIpv4 := address }
  | .store outcome => { t with settings := t.settings.next (.store outcome) }
  | .takeTest => { t with testNotifications := none }

/-- A test that finds another one waiting is dropped. -/
def sendTest (t : WebTasks) : WebTasks :=
  match trySend t.testNotifications () with
  | .ok slot => { t with testNotifications := slot }
  | .error _ => t

end WebTasks

/-! ### The workers -/

/-- What the handler of a worker waits for. -/
inductive HttpStage
  | dashboard
  | state
  | response (response : HttpResponse)
  deriving DecidableEq, Repr

def HttpStage.isResponse : HttpStage → Bool
  | .response _ => true
  | _ => false

structure HttpHandling where
  request : HttpRequest
  stage : HttpStage
  deriving DecidableEq, Repr

/-- The server and the tasks that it shares its state with. `listening` is the port that it is bound to, and
    `dashboardResponse` the worker whose turn it is to answer with the dashboard. -/
structure WebServer where
  tasks : WebTasks
  listening : Option UInt16
  workers : HttpWorker → Option HttpHandling
  dashboardResponse : Option HttpWorker

/-- What runs between two points where a task waits. A request comes with the random numbers that it may need; the server
    stops when a connection cannot be accepted, and its handlers with it. -/
inductive WebServerStep
  | task (step : WebTaskStep)
  | listen
  | stop
  | request (worker : HttpWorker) (request : HttpRequest) (a b c d : UInt32)
  | enterDashboard (worker : HttpWorker)
  | readState (worker : HttpWorker) (now later : Nat)
  | finish (worker : HttpWorker)

namespace WebServer

def start (store : Store) (settings : StoredSettings) : WebServer := ⟨.start store settings, none, fun _ => none, none⟩

def setWorker (s : WebServer) (worker : HttpWorker) (handling : Option HttpHandling) : WebServer :=
  { s with workers := fun w => if w = worker then handling else s.workers w }

def stage (s : WebServer) (worker : HttpWorker) : Option HttpStage := (s.workers worker).map (·.stage)

def Allowed (s : WebServer) : WebServerStep → Prop
  | .task step => s.tasks.Allowed step
  | .listen => s.listening = none
  | .stop => True
  | .request worker _ _ _ _ _ => s.listening.isSome ∧ s.workers worker = none
  | .enterDashboard worker => s.stage worker = some .dashboard ∧ s.dashboardResponse = none
  | .readState worker _ _ => s.stage worker = some .state
  | .finish worker => (s.stage worker).any HttpStage.isResponse

instance (s : WebServer) (step : WebServerStep) : Decidable (s.Allowed step) := by
  cases step <;> unfold Allowed <;> infer_instance

/-- A request up to where its handler waits first. -/
def receive (build : FirmwareBuild) (s : WebServer) (worker : HttpWorker) (request : HttpRequest) (a b c d : UInt32) :
    WebServer :=
  let action := request.action build
  match action with
  | .regenerate =>
    { s with tasks := { s.tasks with settings := s.tasks.settings.next (.regenerate worker a b c d) } }.setWorker worker
      (some ⟨request, .state⟩)
  | .test =>
    { s with tasks := s.tasks.sendTest }.setWorker worker
      (some ⟨request, .response (action.response build 0 0 s.tasks.settings.network)⟩)
  | .health | .device => s.setWorker worker (some ⟨request, .state⟩)
  | .dashboard _ => s.setWorker worker (some ⟨request, .dashboard⟩)
  | .refuse | .file _ _ =>
    s.setWorker worker (some ⟨request, .response (action.response build 0 0 s.tasks.settings.network)⟩)

/-- What a handler does once it has the shared state. -/
def answer (build : FirmwareBuild) (s : WebServer) (worker : HttpWorker) (request : HttpRequest) (now later : Nat) :
    WebServer :=
  let action := request.action build
  let s := s.setWorker worker (some ⟨request, .response (action.response build now later s.tasks.settings.network)⟩)
  match action with
  | .regenerate => { s with tasks := { s.tasks with settings := s.tasks.settings.next (.setTopic worker) } }
  | _ => s

def next (build : FirmwareBuild) (s : WebServer) : WebServerStep → WebServer
  | .task step => { s with tasks := s.tasks.next step }
  | .listen =>
    let (enabled, port) :=
      (s.tasks.settings.network.manifest.map fun manifest => (manifest.http.enabled, manifest.http.port)).getD (false, 80)
    { s with listening := if enabled then some port else none }
  | .stop =>
    { s with
      tasks := { s.tasks with settings := { s.tasks.settings with regenerating := fun _ => none } }
      listening := none
      workers := fun _ => none
      dashboardResponse := none }
  | .request worker request a b c d => s.receive build worker request a b c d
  | .enterDashboard worker =>
    match s.workers worker with
    | some handling => { s with dashboardResponse := some worker }.setWorker worker (some { handling with stage := .state })
    | none => s
  | .readState worker now later =>
    match s.workers worker with
    | some handling => s.answer build worker handling.request now later
    | none => s
  | .finish worker =>
    { s with dashboardResponse := if s.dashboardResponse = some worker then none else s.dashboardResponse }.setWorker
      worker none

end WebServer
end Servatory
