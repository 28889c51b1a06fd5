import Mathlib.Data.List.Induction
import Servatory.Firmware.Http
import Servatory.Theorems.Buffer
import Servatory.Theorems.Persistence
import Servatory.Theorems.SettingsTasks

/-! The web server with its two workers answers as one that takes one request at a time, each at some moment between its
    arrival and its response. -/

namespace Servatory
open Transition

/-! ### A server that answers at once -/

/-- A step of another task, or a whole request, with the topic that it sets if it sets one. -/
inductive SequentialStep
  | task (step : WebTaskStep)
  | serve (worker : HttpWorker) (request : HttpRequest) (topic : String) (now later : Nat)

namespace WebTasks
variable {build : FirmwareBuild} {t : WebTasks}

def serve (build : FirmwareBuild) (t : WebTasks) (request : HttpRequest) (topic : String) (now later : Nat) :
    WebTasks × HttpResponse :=
  let action := request.action build
  let served :=
    match action with
    | .regenerate => t.setNetwork (t.settings.network.setTopic topic)
    | .test => t.sendTest
    | _ => t
  (served, action.response build now later t.settings.network)

def AllowedAtOnce (t : WebTasks) : SequentialStep → Prop
  | .task step => t.Allowed step
  | .serve _ _ _ _ _ => True

def nextAtOnce (build : FirmwareBuild) (t : WebTasks) : SequentialStep → WebTasks
  | .task step => t.next step
  | .serve _ request topic now later => (t.serve build request topic now later).1

/-- The tasks without the topics that handlers have not set yet. -/
def settled (t : WebTasks) : WebTasks := { t with settings := { t.settings with regenerating := fun _ => none } }

/-- Only the handlers make topics. -/
theorem regenerating_next (step : WebTaskStep) : (t.next step).settings.regenerating = t.settings.regenerating := by
  cases step with
  | setManifest =>
    rw [next, SettingsTasks.next]
    split <;> rfl
  | store outcome =>
    rw [next, SettingsTasks.next]
    split <;> rfl
  | updateDaemonVersion _ | updateSnapshot _ _ | updateFilesystemLabels _ | updateManifest _ | trackAddress _ | takeTest => rfl

theorem settled_next (step : WebTaskStep) : (t.next step).settled = t.settled.next step := by
  cases step with
  | setManifest =>
    simp only [next, settled, SettingsTasks.next]
    split <;> rfl
  | store outcome =>
    simp only [next, settled, SettingsTasks.next]
    split <;> rfl
  | updateDaemonVersion _ | updateSnapshot _ _ | updateFilesystemLabels _ | updateManifest _ | trackAddress _ | takeTest => rfl

theorem allowed_settled {step : WebTaskStep} (h : t.Allowed step) : t.settled.Allowed step := by
  cases step <;> exact h

theorem sendTest_eq : t.sendTest = { t with testNotifications := some () } := by
  rw [sendTest]
  rcases htest : t.testNotifications with _ | test
  · rfl
  · show t = _
    rw [← htest]

end WebTasks

/-- Whether the handler waits before it makes its response. -/
def HttpAction.waits : HttpAction → Bool
  | .regenerate | .health | .device | .dashboard _ => true
  | .test | .refuse | .file _ _ => false

/-- What the handler of a request waits for first. -/
def HttpRequest.firstStage (build : FirmwareBuild) (state : SharedState) (request : HttpRequest) : HttpStage :=
  let action := request.action build
  match action with
  | .regenerate | .health | .device => .state
  | .dashboard _ => .dashboard
  | .test | .refuse | .file _ _ => .response (action.response build 0 0 state)

/-- The steps that change what a worker does. -/
def WebServerStep.Concerns (worker : HttpWorker) : WebServerStep → Prop
  | .request w _ _ _ _ _ | .enterDashboard w | .readState w _ _ | .finish w => w = worker
  | .stop => True
  | .task _ | .listen => False

def SequentialStep.Serves (worker : HttpWorker) : SequentialStep → Prop
  | .serve w _ _ _ _ => w = worker
  | .task _ => False

namespace WebServer
variable {build : FirmwareBuild} {s : WebServer} {worker other : HttpWorker} {request : HttpRequest} {step : WebServerStep}
  {a b c d : UInt32}

/-! ### Single steps -/

@[simp] theorem setWorker_self (handling : Option HttpHandling) : (s.setWorker worker handling).workers worker = handling :=
  if_pos rfl

@[simp] theorem setWorker_of_ne (h : other ≠ worker) (handling : Option HttpHandling) :
    (s.setWorker worker handling).workers other = s.workers other := if_neg h

@[simp] theorem setWorker_tasks (handling : Option HttpHandling) : (s.setWorker worker handling).tasks = s.tasks := rfl

/-- What a request does to the tasks before its handler waits. -/
def receiveTasks (build : FirmwareBuild) (t : WebTasks) (worker : HttpWorker) (request : HttpRequest) (a b c d : UInt32) :
    WebTasks :=
  match request.action build with
  | .regenerate => { t with settings := t.settings.next (.regenerate worker a b c d) }
  | .test => t.sendTest
  | _ => t

theorem receive_eq (a b c d : UInt32) :
    s.receive build worker request a b c d =
      { s with tasks := receiveTasks build s.tasks worker request a b c d }.setWorker worker
        (some ⟨request, request.firstStage build s.tasks.settings.network⟩) := by
  rw [receive, receiveTasks, HttpRequest.firstStage]
  dsimp only
  cases request.action build <;> rfl

/-- What an answer does to the tasks. -/
def answerTasks (build : FirmwareBuild) (t : WebTasks) (worker : HttpWorker) (request : HttpRequest) : WebTasks :=
  match request.action build with
  | .regenerate => { t with settings := t.settings.next (.setTopic worker) }
  | _ => t

theorem answer_eq (now later : Nat) :
    s.answer build worker request now later =
      { s with tasks := answerTasks build s.tasks worker request }.setWorker worker
        (some ⟨request, .response ((request.action build).response build now later s.tasks.settings.network)⟩) := by
  rw [answer, answerTasks]
  dsimp only
  cases request.action build <;> rfl

theorem regenerating_receiveTasks (h : other ≠ worker) (t : WebTasks) (a b c d : UInt32) :
    (receiveTasks build t worker request a b c d).settings.regenerating other = t.settings.regenerating other := by
  rw [receiveTasks]
  split
  · exact if_neg h
  · rw [WebTasks.sendTest_eq]
  · rfl

theorem regenerating_answerTasks (h : other ≠ worker) (t : WebTasks) :
    (answerTasks build t worker request).settings.regenerating other = t.settings.regenerating other := by
  rw [answerTasks]
  split
  · dsimp only [SettingsTasks.next]
    split
    · exact if_neg h
    · rfl
  · rfl

/-- A step of other workers and tasks leaves a worker alone. -/
theorem frame (h : ¬step.Concerns worker) (hallowed : s.Allowed step) :
    (s.next build step).workers worker = s.workers worker ∧
      (s.next build step).tasks.settings.regenerating worker = s.tasks.settings.regenerating worker ∧
      ((s.next build step).dashboardResponse = some worker ↔ s.dashboardResponse = some worker) := by
  cases step with
  | task step => exact ⟨rfl, congrFun (WebTasks.regenerating_next step) worker, Iff.rfl⟩
  | listen => exact ⟨rfl, rfl, Iff.rfl⟩
  | stop => exact absurd trivial h
  | request w request a b c d =>
    have hne : worker ≠ w := fun heq => h heq.symm
    rw [next, receive_eq]
    exact ⟨setWorker_of_ne hne _, regenerating_receiveTasks hne _ a b c d, Iff.rfl⟩
  | enterDashboard w =>
    have hne : worker ≠ w := fun heq => h heq.symm
    rw [next]
    split
    · refine ⟨setWorker_of_ne hne _, rfl, ?_⟩
      rw [hallowed.2]
      exact ⟨fun heq => absurd (Option.some.inj heq).symm hne, by rintro ⟨⟩⟩
    · exact ⟨rfl, rfl, Iff.rfl⟩
  | readState w now later =>
    have hne : worker ≠ w := fun heq => h heq.symm
    rw [next]
    split
    · rw [answer_eq]
      exact ⟨setWorker_of_ne hne _, regenerating_answerTasks hne _, Iff.rfl⟩
    · exact ⟨rfl, rfl, Iff.rfl⟩
  | finish w =>
    have hne : worker ≠ w := fun heq => h heq.symm
    refine ⟨setWorker_of_ne hne _, rfl, ?_⟩
    show (if s.dashboardResponse = some w then none else s.dashboardResponse) = some worker ↔ _
    split
    · rename_i hturn
      rw [hturn]
      exact ⟨by rintro ⟨⟩, fun heq => absurd (Option.some.inj heq).symm hne⟩
    · rfl

/-! ### What a worker has -/

/-- What a worker has while it handles a request: the topic that it is about to set, and the turn to answer with the
    dashboard. -/
def Handles (build : FirmwareBuild) (topic : Option String) (turn : Prop) : Option HttpHandling → Prop
  | none => topic = none ∧ ¬turn
  | some ⟨request, .dashboard⟩ => (∃ document, request.action build = .dashboard document) ∧ topic = none ∧ ¬turn
  | some ⟨request, .state⟩ => (request.action build).waits = true ∧
      (topic.isSome = true ↔ request.action build = .regenerate) ∧
      (turn ↔ ∃ document, request.action build = .dashboard document)
  | some ⟨request, .response response⟩ => topic = none ∧
      (turn ↔ ∃ document, request.action build = .dashboard document) ∧
      ∃ now later state, response = (request.action build).response build now later state

/-- Every worker has what its stage says. -/
def Orderly (build : FirmwareBuild) (s : WebServer) : Prop :=
  ∀ worker, Handles build (s.tasks.settings.regenerating worker) (s.dashboardResponse = some worker) (s.workers worker)

theorem orderly_start (store : Store) (settings : StoredSettings) : Orderly build (start store settings) :=
  fun _ => ⟨rfl, by rintro ⟨⟩⟩

/-- A request begins in order. -/
theorem handles_receive (hworker : s.workers worker = none)
    (h : Handles build (s.tasks.settings.regenerating worker) (s.dashboardResponse = some worker) (s.workers worker))
    (a b c d : UInt32) :
    Handles build ((receiveTasks build s.tasks worker request a b c d).settings.regenerating worker)
      (s.dashboardResponse = some worker) (some ⟨request, request.firstStage build s.tasks.settings.network⟩) := by
  rw [hworker] at h
  obtain ⟨htopic, hturn⟩ := h
  rw [receiveTasks, HttpRequest.firstStage]
  cases haction : request.action build with
  | regenerate =>
    dsimp only [Handles, SettingsTasks.next]
    rw [haction, if_pos rfl]
    exact ⟨rfl, ⟨fun _ => rfl, fun _ => rfl⟩, ⟨fun h => absurd h hturn, by rintro ⟨_, ⟨⟩⟩⟩⟩
  | test =>
    dsimp only [Handles]
    rw [WebTasks.sendTest_eq, haction]
    exact ⟨htopic, ⟨fun h => absurd h hturn, by rintro ⟨_, ⟨⟩⟩⟩, 0, 0, _, rfl⟩
  | refuse | file _ _ =>
    dsimp only [Handles]
    rw [haction]
    exact ⟨htopic, ⟨fun h => absurd h hturn, by rintro ⟨_, ⟨⟩⟩⟩, 0, 0, _, rfl⟩
  | health | device =>
    dsimp only [Handles]
    rw [haction, htopic]
    exact ⟨rfl, ⟨by rintro ⟨⟩, by rintro ⟨⟩⟩, ⟨fun h => absurd h hturn, by rintro ⟨_, ⟨⟩⟩⟩⟩
  | dashboard document => exact ⟨⟨document, haction⟩, htopic, hturn⟩

theorem exists_response (h : (s.stage worker).any HttpStage.isResponse = true) :
    ∃ request response, s.workers worker = some ⟨request, .response response⟩ := by
  rw [stage] at h
  rcases hworker : s.workers worker with _ | ⟨request, stage⟩
  · rw [hworker] at h
    cases h
  · rw [hworker] at h
    cases stage with
    | dashboard => cases h
    | state => cases h
    | response response => exact ⟨request, response, rfl⟩

/-- A worker gets its turn. -/
theorem handles_enterDashboard (h : Orderly build s) (hstage : s.stage worker = some .dashboard) :
    Handles build ((s.next build (.enterDashboard worker)).tasks.settings.regenerating worker)
      ((s.next build (.enterDashboard worker)).dashboardResponse = some worker)
      ((s.next build (.enterDashboard worker)).workers worker) := by
  obtain ⟨⟨request, stage⟩, hworker, rfl⟩ := Option.map_eq_some_iff.mp hstage
  have hhandles := h worker
  rw [hworker] at hhandles
  obtain ⟨⟨document, haction⟩, htopic, -⟩ := hhandles
  rw [next, hworker]
  dsimp only
  rw [setWorker_self]
  dsimp only [Handles]
  rw [setWorker_tasks, htopic, haction]
  exact ⟨rfl, ⟨by rintro ⟨⟩, by rintro ⟨⟩⟩, ⟨fun _ => ⟨document, rfl⟩, fun _ => rfl⟩⟩

/-- A topic is gone once it is set. -/
theorem handles_readState (h : Orderly build s) (hstage : s.stage worker = some .state) (now later : Nat) :
    Handles build ((s.next build (.readState worker now later)).tasks.settings.regenerating worker)
      ((s.next build (.readState worker now later)).dashboardResponse = some worker)
      ((s.next build (.readState worker now later)).workers worker) := by
  obtain ⟨⟨request, stage⟩, hworker, rfl⟩ := Option.map_eq_some_iff.mp hstage
  have hhandles := h worker
  rw [hworker] at hhandles
  obtain ⟨-, htopic, hturn⟩ := hhandles
  rw [next, hworker]
  dsimp only
  rw [answer_eq, setWorker_self]
  refine ⟨?_, hturn, now, later, _, rfl⟩
  rw [setWorker_tasks, answerTasks]
  split
  · rename_i haction
    obtain ⟨topic, htopic⟩ := Option.isSome_iff_exists.mp (htopic.mpr haction)
    dsimp only [SettingsTasks.next]
    rw [htopic]
    exact if_pos rfl
  · rename_i haction
    exact Option.not_isSome_iff_eq_none.mp fun hsome => haction (htopic.mp hsome)

/-- Who finishes gives up the turn. -/
theorem handles_finish (h : Orderly build s) (hstage : (s.stage worker).any HttpStage.isResponse = true) :
    Handles build ((s.next build (.finish worker)).tasks.settings.regenerating worker)
      ((s.next build (.finish worker)).dashboardResponse = some worker)
      ((s.next build (.finish worker)).workers worker) := by
  obtain ⟨request, response, hworker⟩ := exists_response hstage
  have hhandles := h worker
  rw [hworker] at hhandles
  rw [next, setWorker_self]
  refine ⟨hhandles.1, ?_⟩
  show ¬(if s.dashboardResponse = some worker then none else s.dashboardResponse) = some worker
  split
  · rintro ⟨⟩
  · assumption

theorem orderly_step (h : Orderly build s) (hallowed : s.Allowed step) : Orderly build (s.next build step) := by
  intro worker
  by_cases hconcerns : step.Concerns worker
  · cases step with
    | task step => exact absurd hconcerns id
    | listen => exact absurd hconcerns id
    | stop => exact ⟨rfl, by rintro ⟨⟩⟩
    | request w request a b c d =>
      cases hconcerns
      rw [next, receive_eq, setWorker_self]
      exact handles_receive hallowed.2 (h worker) a b c d
    | enterDashboard w =>
      cases hconcerns
      exact handles_enterDashboard h hallowed.1
    | readState w now later =>
      cases hconcerns
      exact handles_readState h hallowed now later
    | finish w =>
      cases hconcerns
      exact handles_finish h hallowed
  · obtain ⟨hworkers, htopic, hturn⟩ := @frame build _ _ _ hconcerns hallowed
    rw [hworkers, htopic, hturn]
    exact h worker

/-- In every state of every run each worker has what its stage says. -/
theorem orderly_run {store : Store} {settings : StoredSettings} {steps : List WebServerStep}
    (hruns : Runs Allowed (next build) (start store settings) steps) :
    Orderly build (steps.foldl (next build) (start store settings)) :=
  hruns.invariant (fun _ _ h hallowed => orderly_step h hallowed) (orderly_start store settings)

/-! ### Runs at once -/

/-- A request is answered at once where its handler has what it answers from. -/
def commits (build : FirmwareBuild) (s : WebServer) : WebServerStep → List SequentialStep
  | .task step => [.task step]
  | .request worker request _ _ _ _ => if (request.action build).waits then [] else [.serve worker request "" 0 0]
  | .readState worker now later =>
    match s.workers worker with
    | some handling => [.serve worker handling.request ((s.tasks.settings.regenerating worker).getD "") now later]
    | none => []
  | .listen | .stop | .enterDashboard _ | .finish _ => []

/-- What a run is at once. -/
def atOnce (build : FirmwareBuild) : WebServer → List WebServerStep → List SequentialStep :=
  transcript (next build) (commits build)

/-- The orderly server and the tasks of the one that answers at once. -/
def StandsFor (build : FirmwareBuild) (s : WebServer) (t : WebTasks) : Prop := Orderly build s ∧ t = s.tasks.settled

theorem settled_receiveTasks (t : WebTasks) (a b c d : UInt32) :
    (receiveTasks build t worker request a b c d).settled =
      if (request.action build).waits then t.settled else (t.settled.serve build request "" 0 0).1 := by
  rw [receiveTasks, WebTasks.serve]
  cases request.action build with
  | test =>
    dsimp only
    rw [WebTasks.sendTest_eq, WebTasks.sendTest_eq]
    rfl
  | regenerate | refuse | health | device | dashboard _ | file _ _ => rfl

theorem settled_answerTasks {t : WebTasks} {topic : String} (now later : Nat)
    (htopic : request.action build = .regenerate → t.settings.regenerating worker = some topic)
    (hwaits : (request.action build).waits = true) :
    (answerTasks build t worker request).settled = (t.settled.serve build request topic now later).1 := by
  rw [answerTasks, WebTasks.serve]
  cases haction : request.action build with
  | regenerate =>
    dsimp only [SettingsTasks.next]
    rw [htopic haction]
    rfl
  | test =>
    rw [haction] at hwaits
    cases hwaits
  | refuse | health | device | dashboard _ | file _ _ => rfl

theorem standsFor_step {t : WebTasks} (h : StandsFor build s t) (hallowed : s.Allowed step) :
    Runs WebTasks.AllowedAtOnce (WebTasks.nextAtOnce build) t (commits build s step) ∧
      StandsFor build (s.next build step) ((commits build s step).foldl (WebTasks.nextAtOnce build) t) := by
  obtain ⟨horderly, rfl⟩ := h
  have hnext := orderly_step horderly hallowed
  cases step with
  | task step =>
    exact ⟨⟨WebTasks.allowed_settled hallowed, trivial⟩, hnext, (WebTasks.settled_next step).symm⟩
  | listen => exact ⟨trivial, hnext, rfl⟩
  | stop => exact ⟨trivial, hnext, rfl⟩
  | finish w => exact ⟨trivial, hnext, rfl⟩
  | enterDashboard w =>
    refine ⟨trivial, hnext, ?_⟩
    rw [next]
    split <;> rfl
  | request w request a b c d =>
    rw [commits]
    split
    · rename_i hwaits
      refine ⟨trivial, hnext, ?_⟩
      rw [next, receive_eq, setWorker_tasks, settled_receiveTasks, if_pos hwaits]
      rfl
    · rename_i hwaits
      refine ⟨⟨trivial, trivial⟩, hnext, ?_⟩
      rw [next, receive_eq, setWorker_tasks, settled_receiveTasks, if_neg hwaits]
      rfl
  | readState w now later =>
    obtain ⟨⟨request, stage⟩, hworker, rfl⟩ := Option.map_eq_some_iff.mp hallowed
    have hhandles := horderly w
    rw [hworker] at hhandles
    obtain ⟨hwaits, htopic, -⟩ := hhandles
    refine ⟨?_, hnext, ?_⟩
    · rw [commits, hworker]
      exact ⟨trivial, trivial⟩
    · rw [commits, next, hworker]
      dsimp only
      rw [answer_eq, setWorker_tasks, settled_answerTasks now later (fun haction => ?_) hwaits]
      · rfl
      · obtain ⟨topic, hregenerating⟩ := Option.isSome_iff_exists.mp (htopic.mpr haction)
        rw [hregenerating]
        rfl

/-- A run of the server is a run of the one that answers at once. -/
theorem standsFor_run {store : Store} {settings : StoredSettings} {steps : List WebServerStep}
    (hruns : Runs Allowed (next build) (start store settings) steps) :
    Runs WebTasks.AllowedAtOnce (WebTasks.nextAtOnce build) (.start store settings)
        (atOnce build (start store settings) steps) ∧
      StandsFor build (steps.foldl (next build) (start store settings))
        ((atOnce build (start store settings) steps).foldl (WebTasks.nextAtOnce build) (.start store settings)) :=
  hruns.transcript (fun _ _ _ h hallowed => standsFor_step h hallowed) ⟨orderly_start store settings, rfl⟩

/-! ### The moment of an answer -/

/-- The steps that end what a worker does. -/
def Ends (worker : HttpWorker) : WebServerStep → Prop
  | .finish w => w = worker
  | .stop => True
  | _ => False

/-- Among what is served since a request has arrived, the request is served once, and its response is made there. -/
def AnsweredAt (build : FirmwareBuild) (worker : HttpWorker) (request : HttpRequest) (topic : String) (t : WebTasks)
    (served : List SequentialStep) (response : HttpResponse) : Prop :=
  ∃ before made now later after, served = before ++ .serve worker request made now later :: after ∧
    (∀ step ∈ before ++ after, ¬step.Serves worker) ∧ (request.action build = .regenerate → made = topic) ∧
    response = ((before.foldl (WebTasks.nextAtOnce build) t).serve build request made now later).2

/-- What a worker does with a request that it has not finished. -/
def Serving (build : FirmwareBuild) (worker : HttpWorker) (request : HttpRequest) (topic : String) (t : WebTasks)
    (served : List SequentialStep) (s : WebServer) : Prop :=
  (∃ stage, s.workers worker = some ⟨request, stage⟩ ∧ stage.isResponse = false ∧
      (request.action build = .regenerate → s.tasks.settings.regenerating worker = some topic) ∧
      ∀ step ∈ served, ¬step.Serves worker) ∨
    ∃ response, s.workers worker = some ⟨request, .response response⟩ ∧
      AnsweredAt build worker request topic t served response

theorem not_serves_commits (h : ¬step.Concerns worker) : ∀ c ∈ commits build s step, ¬c.Serves worker := by
  intro c hc
  cases step with
  | task step =>
    cases List.mem_singleton.mp hc
    exact id
  | request w request a b c' d =>
    rw [commits] at hc
    split at hc
    · cases hc
    · cases List.mem_singleton.mp hc
      exact h
  | readState w now later =>
    rw [commits] at hc
    split at hc
    · cases List.mem_singleton.mp hc
      exact h
    · cases hc
  | listen | stop | enterDashboard _ | finish _ => cases hc

variable {topic : String} {t : WebTasks} {served : List SequentialStep}

theorem AnsweredAt.append {response : HttpResponse} (h : AnsweredAt build worker request topic t served response)
    {more : List SequentialStep} (hmore : ∀ step ∈ more, ¬step.Serves worker) :
    AnsweredAt build worker request topic t (served ++ more) response := by
  obtain ⟨before, made, now, later, after, rfl, hothers, hmade, hresponse⟩ := h
  refine ⟨before, made, now, later, after ++ more, by rw [List.append_assoc, List.cons_append], ?_, hmade, hresponse⟩
  intro step hstep
  rw [← List.append_assoc] at hstep
  exact (List.mem_append.mp hstep).elim (hothers step) (hmore step)

/-- A request arrives. -/
theorem serving_request :
    Serving build worker request (randomNtfyTopic a b c d) s.tasks.settled
      (commits build s (.request worker request a b c d)) (s.next build (.request worker request a b c d)) := by
  rw [commits, next, receive_eq, Serving]
  simp only [setWorker_self, setWorker_tasks]
  by_cases hwaits : (request.action build).waits = true
  · rw [if_pos hwaits]
    refine .inl ⟨_, rfl, ?_, fun haction => ?_, fun _ => List.not_mem_nil.elim⟩
    · rw [HttpRequest.firstStage]
      cases haction : request.action build with
      | regenerate | health | device | dashboard _ => rfl
      | test | refuse | file _ _ =>
        rw [haction] at hwaits
        cases hwaits
    · rw [receiveTasks, haction]
      exact if_pos rfl
  · rw [if_neg hwaits]
    refine .inr ⟨(request.action build).response build 0 0 s.tasks.settings.network, ?_, [], "", 0, 0, [], rfl, ?_, ?_, rfl⟩
    · rw [HttpRequest.firstStage]
      cases haction : request.action build with
      | regenerate | health | device | dashboard _ =>
        rw [haction] at hwaits
        exact absurd rfl hwaits
      | test | refuse | file _ _ => rfl
    · exact fun _ => List.not_mem_nil.elim
    · intro haction
      rw [haction] at hwaits
      exact absurd rfl hwaits

/-- Until its handler has finished, a request is being served. -/
theorem serving_step (h : Serving build worker request topic t served s)
    (hsettled : s.tasks.settled = served.foldl (WebTasks.nextAtOnce build) t) (hallowed : s.Allowed step)
    (hends : ¬Ends worker step) :
    Serving build worker request topic t (served ++ commits build s step) (s.next build step) := by
  by_cases hconcerns : step.Concerns worker
  · cases step with
    | task step => exact absurd hconcerns id
    | listen => exact absurd hconcerns id
    | stop => exact absurd trivial hends
    | finish w => exact absurd hconcerns hends
    | request w other a b c d =>
      cases hconcerns
      rcases h with ⟨stage, hworker, -⟩ | ⟨response, hworker, -⟩
      · cases hworker.symm.trans hallowed.2
      · cases hworker.symm.trans hallowed.2
    | enterDashboard w =>
      cases hconcerns
      have hstage := hallowed.1
      rcases h with ⟨stage, hworker, -, htopic, hserved⟩ | ⟨response, hworker, -⟩
      · rw [commits, List.append_nil, next, hworker]
        exact .inl ⟨.state, setWorker_self _, rfl, htopic, hserved⟩
      · rw [stage, hworker] at hstage
        cases hstage
    | readState w now later =>
      cases hconcerns
      have hstage : s.stage worker = some .state := hallowed
      rcases h with ⟨stage, hworker, -, htopic, hserved⟩ | ⟨response, hworker, -⟩
      · rw [commits, next, hworker]
        dsimp only
        rw [answer_eq]
        refine .inr ⟨_, setWorker_self _, served, _, now, later, [], rfl, ?_, fun haction => ?_, ?_⟩
        · rwa [List.append_nil]
        · rw [htopic haction]
          rfl
        · rw [← hsettled]
          rfl
      · rw [WebServer.stage, hworker] at hstage
        cases hstage
  · obtain ⟨hworkers, htopic, -⟩ := @frame build _ _ _ hconcerns hallowed
    have hothers := @not_serves_commits build s _ _ hconcerns
    rcases h with ⟨stage, hworker, hstage, hmade, hserved⟩ | ⟨response, hworker, hanswered⟩
    · refine .inl ⟨stage, hworkers.trans hworker, hstage, fun haction => htopic.trans (hmade haction), ?_⟩
      exact fun step hstep => (List.mem_append.mp hstep).elim (hserved step) (hothers step)
    · exact .inr ⟨response, hworkers.trans hworker, hanswered.append hothers⟩

theorem serving_run {during : List WebServerStep} (h : Serving build worker request topic t served s)
    (hstands : StandsFor build s (served.foldl (WebTasks.nextAtOnce build) t)) (hruns : Runs Allowed (next build) s during)
    (hends : ∀ step ∈ during, ¬Ends worker step) :
    Serving build worker request topic t (served ++ atOnce build s during) (during.foldl (next build) s) := by
  induction during generalizing s served with
  | nil =>
    rw [atOnce, transcript, List.append_nil]
    exact h
  | cons step rest ih =>
    have hstep := serving_step h hstands.2.symm hruns.1 (hends step (List.mem_cons_self ..))
    have hnext := (standsFor_step hstands hruns.1).2
    rw [← List.foldl_append] at hnext
    rw [atOnce, transcript, ← List.append_assoc]
    exact ih hstep hnext hruns.2 fun step hmem => hends step (List.mem_cons_of_mem _ hmem)

/-- The two workers together do what a server does that answers each request at once: the same requests change the shared
    state and the settings in the same way, and a response is the one that its request gets at a single moment behind its
    arrival. A topic that the request sets there is the one made when it arrived. -/
theorem served_at_once {store : Store} {settings : StoredSettings} {before during : List WebServerStep}
    (hruns : Runs Allowed (next build) (start store settings) (before ++ .request worker request a b c d :: during))
    (hends : ∀ step ∈ during, ¬Ends worker step) :
    ∃ earlier served,
      earlier = atOnce build (start store settings) before ∧
      earlier ++ served = atOnce build (start store settings) (before ++ .request worker request a b c d :: during) ∧
      Runs WebTasks.AllowedAtOnce (WebTasks.nextAtOnce build) (.start store settings) (earlier ++ served) ∧
      (earlier ++ served).foldl (WebTasks.nextAtOnce build) (.start store settings) =
        ((before ++ .request worker request a b c d :: during).foldl (next build) (start store settings)).tasks.settled ∧
      Serving build worker request (randomNtfyTopic a b c d)
        (earlier.foldl (WebTasks.nextAtOnce build) (.start store settings)) served
        ((before ++ .request worker request a b c d :: during).foldl (next build) (start store settings)) := by
  obtain ⟨hsequential, hwhole⟩ := standsFor_run hruns
  obtain ⟨hbefore, hafter⟩ := runs_append.mp hruns
  have hstands := (standsFor_run hbefore).2
  have hrequest := standsFor_step hstands hafter.1
  have hserving := @serving_request build (before.foldl (next build) (start store settings)) worker request a b c d
  rw [← hstands.2] at hserving
  have hrun := serving_run hserving hrequest.2 hafter.2 hends
  have happend : atOnce build (start store settings) before ++
      atOnce build (before.foldl (next build) (start store settings)) (.request worker request a b c d :: during) =
        atOnce build (start store settings) (before ++ .request worker request a b c d :: during) :=
    (transcript_append _ _).symm
  refine ⟨_, _, rfl, happend, ?_, ?_, ?_⟩
  · rw [happend]
    exact hsequential
  · rw [happend]
    exact hwhole.2
  · rw [List.foldl_append]
    exact hrun

/-- A topic is asked for while the health is being read. -/
def regenerateRequest : HttpRequest := ⟨.post, "/api/v1/notifications/topic/regenerate", some "Regenerate"⟩

def healthRequest : HttpRequest := ⟨.get, "/api/v1/health", none⟩

def smallBuild : FirmwareBuild := ⟨⟨"1.0"⟩, "", ""⟩

def opened : List WebServerStep :=
  [.task (.updateManifest SettingsTasks.webServer), .task .setManifest, .listen, .request .second healthRequest 0 0 0 0]

def answered : List WebServerStep :=
  [.readState .second 5 5, .task (.store .success), .readState .first 6 6, .finish .second]

theorem served_at_once_answered :
    ∃ earlier served,
      earlier = atOnce smallBuild (start Store.setUp Store.homeSettings) opened ∧
      earlier ++ served = atOnce smallBuild (start Store.setUp Store.homeSettings)
        (opened ++ .request .first regenerateRequest 1 2 3 4 :: answered) ∧
      Runs WebTasks.AllowedAtOnce (WebTasks.nextAtOnce smallBuild) (.start Store.setUp Store.homeSettings)
        (earlier ++ served) ∧
      (earlier ++ served).foldl (WebTasks.nextAtOnce smallBuild) (.start Store.setUp Store.homeSettings) =
        ((opened ++ .request .first regenerateRequest 1 2 3 4 :: answered).foldl (next smallBuild)
          (start Store.setUp Store.homeSettings)).tasks.settled ∧
      Serving smallBuild .first regenerateRequest (randomNtfyTopic 1 2 3 4)
        (earlier.foldl (WebTasks.nextAtOnce smallBuild) (.start Store.setUp Store.homeSettings)) served
        ((opened ++ .request .first regenerateRequest 1 2 3 4 :: answered).foldl (next smallBuild)
          (start Store.setUp Store.homeSettings)) := by
  have hruns : Runs Allowed (next smallBuild) (start Store.setUp Store.homeSettings)
      (opened ++ .request .first regenerateRequest 1 2 3 4 :: answered) := by decide
  refine served_at_once hruns ?_
  simp [answered, Ends]

/-! ### The settings -/

/-- A topic is the one from flash, or made for a request that names the action. -/
def TopicFrom (settings : StoredSettings) (steps : List WebServerStep) (topic : String) : Prop :=
  topic = settings.provisioning.ntfyTopic ∨
    ∃ worker request a b c d, .request worker request a b c d ∈ steps ∧ topic = randomNtfyTopic a b c d ∧
      request.method = .post ∧ request.path = "/api/v1/notifications/topic/regenerate" ∧
      ∃ value, request.servatoryAction = some value ∧ toAsciiLowercase value = "regenerate"

/-- A manifest is the one from flash or one from the host. -/
def ManifestFrom (settings : StoredSettings) (steps : List WebServerStep) (manifest : NetworkConfig) : Prop :=
  settings.network = some manifest ∨ .task (.updateManifest manifest) ∈ steps

/-- Settings with such a topic and such a manifest, and the Wi-Fi settings from flash. -/
structure SettingsFrom (settings : StoredSettings) (steps : List WebServerStep) (found : StoredSettings) : Prop where
  provisioning : found.provisioning = { settings.provisioning with ntfyTopic := found.provisioning.ntfyTopic }
  topic : TopicFrom settings steps found.provisioning.ntfyTopic
  manifest : ∀ manifest ∈ found.network, ManifestFrom settings steps manifest

theorem action_regenerate (h : request.action build = .regenerate) :
    request.method = .post ∧ request.path = "/api/v1/notifications/topic/regenerate" ∧
      ∃ value, request.servatoryAction = some value ∧ toAsciiLowercase value = "regenerate" := by
  rw [HttpRequest.action] at h
  split at h
  · rename_i hguard
    obtain ⟨hmethod, hpath, hheader⟩ := hguard
    obtain ⟨value, hvalue, heq⟩ := (Option.any_eq_true _ _).mp hheader
    exact ⟨hmethod, hpath, value, hvalue, of_decide_eq_true heq⟩
  · split_ifs at h

theorem TopicFrom.append {settings : StoredSettings} {steps : List WebServerStep} (h : TopicFrom settings steps topic)
    (more : List WebServerStep) : TopicFrom settings (steps ++ more) topic := by
  refine h.imp_right ?_
  rintro ⟨worker, request, a, b, c, d, hmem, hrequest⟩
  exact ⟨worker, request, a, b, c, d, List.mem_append_left _ hmem, hrequest⟩

theorem ManifestFrom.append {settings : StoredSettings} {steps : List WebServerStep} {manifest : NetworkConfig}
    (h : ManifestFrom settings steps manifest) (more : List WebServerStep) :
    ManifestFrom settings (steps ++ more) manifest := h.imp_right (List.mem_append_left _)

theorem SettingsFrom.append {settings found : StoredSettings} {steps : List WebServerStep}
    (h : SettingsFrom settings steps found) (more : List WebServerStep) : SettingsFrom settings (steps ++ more) found :=
  ⟨h.provisioning, h.topic.append more, fun manifest hmanifest => (h.manifest manifest hmanifest).append more⟩

/-- Every topic and every manifest comes from somewhere, also those that are about to be set or stored, and those that
    would be read back from flash. -/
structure Kept (settings : StoredSettings) (steps : List WebServerStep) (t : SettingsTasks) : Prop where
  synced : SettingsTasks.Synced (Postcard.fromBytes StoredSettings) settings t
  regenerating : ∀ worker topic, t.regenerating worker = some topic → TopicFrom settings steps topic
  topic : ∀ topic, t.network.ntfyTopic = some topic → TopicFrom settings steps topic
  storedTopic : TopicFrom settings steps t.manifestStore.provisioning.ntfyTopic
  updating : ∀ manifest, t.updating = some manifest → ManifestFrom settings steps manifest
  manifest : ∀ manifest, t.network.manifest = some manifest → ManifestFrom settings steps manifest
  storedManifest : ∀ manifest, t.manifestStore.network = some manifest → ManifestFrom settings steps manifest
  flash : ∀ found, t.manifestStore.store.load (Postcard.fromBytes StoredSettings) = some found →
    SettingsFrom settings steps found

section
variable {settings : StoredSettings} {steps : List WebServerStep} {t : SettingsTasks}

theorem Kept.append (h : Kept settings steps t) (more : List WebServerStep) :
    Kept settings (steps ++ more) t where
  synced := h.synced
  regenerating worker topic htopic := (h.regenerating worker topic htopic).append more
  topic topic htopic := (h.topic topic htopic).append more
  storedTopic := h.storedTopic.append more
  updating manifest hmanifest := (h.updating manifest hmanifest).append more
  manifest manifest hmanifest := (h.manifest manifest hmanifest).append more
  storedManifest manifest hmanifest := (h.storedManifest manifest hmanifest).append more
  flash found hfound := (h.flash found hfound).append more

/-- Only the settings in the shared state and the channels matter. -/
theorem Kept.setNetwork (h : Kept settings steps t) {network : SharedState}
    (hsame : (network.manifest, network.manifests, network.ntfyTopic, network.topicUpdates) =
      (t.network.manifest, t.network.manifests, t.network.ntfyTopic, t.network.topicUpdates)) :
    Kept settings steps { t with network } := by
  obtain ⟨hmanifest, hmanifests, htopic, htopics⟩ : network.manifest = t.network.manifest ∧
      network.manifests = t.network.manifests ∧ network.ntfyTopic = t.network.ntfyTopic ∧
      network.topicUpdates = t.network.topicUpdates := by simpa using hsame
  refine ⟨⟨?_, ?_, h.synced.provisioning, h.synced.saved⟩, h.regenerating, ?_, h.storedTopic, h.updating, ?_,
    h.storedManifest, h.flash⟩
  · rw [hmanifest, hmanifests]
    exact h.synced.manifest
  · rw [htopic, htopics]
    exact h.synced.topic
  · rw [htopic]
    exact h.topic
  · rw [hmanifest]
    exact h.manifest

theorem kept_start {store : Store} (hload : store.load (Postcard.fromBytes StoredSettings) = some settings) :
    Kept settings [] (.start store settings) := by
  have hsynced : SettingsTasks.Synced (Postcard.fromBytes StoredSettings) settings (.start store settings) :=
    SettingsTasks.synced_start
  refine ⟨hsynced, fun _ _ => ?_, fun topic htopic => ?_, .inl rfl, fun _ => ?_, fun manifest hmanifest => ?_, ?_,
    fun found hfound => ?_⟩
  · rintro ⟨⟩
  · exact .inl (Option.some.inj htopic).symm
  · rintro ⟨⟩
  · obtain ⟨provisioning, network⟩ := settings
    cases network with
    | none => cases hmanifest
    | some stored => exact .inl hmanifest
  · exact fun manifest hmanifest => .inl hmanifest
  · obtain rfl := Option.some.inj (hload.symm.trans hfound)
    exact ⟨rfl, .inl rfl, fun manifest hmanifest => .inl hmanifest⟩

theorem Kept.updateManifest (h : Kept settings steps t) {manifest : NetworkConfig}
    (hfrom : ManifestFrom settings steps manifest) :
    Kept settings steps (t.next (.updateManifest manifest)) := by
  refine ⟨⟨h.synced.manifest, h.synced.topic, h.synced.provisioning, h.synced.saved⟩, h.regenerating, h.topic,
    h.storedTopic, ?_, h.manifest, h.storedManifest, h.flash⟩
  rintro _ ⟨⟩
  exact hfrom

theorem Kept.regenerate (h : Kept settings steps t) {worker : HttpWorker}
    (hfrom : TopicFrom settings steps (randomNtfyTopic a b c d)) :
    Kept settings steps (t.next (.regenerate worker a b c d)) := by
  refine ⟨⟨h.synced.manifest, h.synced.topic, h.synced.provisioning, h.synced.saved⟩, fun other topic htopic => ?_, h.topic,
    h.storedTopic, h.updating, h.manifest, h.storedManifest, h.flash⟩
  rw [SettingsTasks.next] at htopic
  dsimp only at htopic
  split at htopic
  · cases htopic
    exact hfrom
  · exact h.regenerating other topic htopic

theorem Kept.setManifest (h : Kept settings steps t) (hallowed : t.Allowed .setManifest) :
    Kept settings steps (t.next .setManifest) := by
  have hsynced := SettingsTasks.synced_step Postcard.fromBytes_encode h.synced ⟨hallowed, rfl⟩
  obtain ⟨manifest, hupdating⟩ := Option.isSome_iff_exists.mp hallowed
  rw [SettingsTasks.next, hupdating] at hsynced ⊢
  dsimp only at hsynced ⊢
  refine ⟨hsynced, h.regenerating, ?_, h.storedTopic, ?_, ?_, h.storedManifest, h.flash⟩
  · rcases SettingsTasks.setManifest_cases t.network manifest with ⟨-, hsame⟩ | hset
    · rw [hsame]
      exact h.topic
    · rw [hset]
      exact h.topic
  · rintro _ ⟨⟩
  · rcases SettingsTasks.setManifest_cases t.network manifest with ⟨-, hsame⟩ | hset
    · rw [hsame]
      exact h.manifest
    · rw [hset]
      rintro _ ⟨⟩
      exact h.updating manifest hupdating

theorem Kept.setTopic (h : Kept settings steps t) {worker : HttpWorker}
    (hallowed : t.Allowed (.setTopic worker)) : Kept settings steps (t.next (.setTopic worker)) := by
  have hsynced := SettingsTasks.synced_step Postcard.fromBytes_encode h.synced ⟨hallowed, rfl⟩
  obtain ⟨made, hmade⟩ := Option.isSome_iff_exists.mp hallowed
  rw [SettingsTasks.next, hmade] at hsynced ⊢
  dsimp only at hsynced ⊢
  refine ⟨hsynced, fun other topic htopic => ?_, ?_, h.storedTopic, h.updating, h.manifest, h.storedManifest, h.flash⟩
  · dsimp only at htopic
    split at htopic
    · cases htopic
    · exact h.regenerating other topic htopic
  · rintro _ ⟨⟩
    exact h.regenerating worker made hmade

/-- What the task that stores receives comes from where the shared state has it. -/
theorem Kept.store (h : Kept settings steps t) {outcome : FlashOutcome} (hallowed : t.Allowed (.store outcome)) :
    Kept settings steps (t.next (.store outcome)) := by
  have hsynced := SettingsTasks.synced_step Postcard.fromBytes_encode h.synced ⟨hallowed, rfl⟩
  obtain ⟨⟨update, network⟩, hreceived⟩ := Option.isSome_iff_exists.mp hallowed
  obtain ⟨hprovisioning, hnetwork, -⟩ :=
    SettingsTasks.turn_cases Postcard.fromBytes_encode t.manifestStore update outcome
  have hmanifest := h.synced.manifest
  have htopic := h.synced.topic
  rw [SettingsTasks.next, hreceived] at hsynced ⊢
  dsimp only at hsynced ⊢
  -- What the task has after the turn is all that the save can have brought to flash.
  have hflash : TopicFrom settings steps (t.manifestStore.turn update outcome).1.provisioning.ntfyTopic →
      (∀ manifest, (t.manifestStore.turn update outcome).1.network = some manifest →
        ManifestFrom settings steps manifest) →
      ∀ found, (t.manifestStore.turn update outcome).1.store.load (Postcard.fromBytes StoredSettings) = some found →
        SettingsFrom settings steps found := by
    intro hstored hmanifests found hfound
    rcases SettingsTasks.turn_flash hfound with hbefore | rfl
    · exact h.flash found hbefore
    · exact ⟨hsynced.provisioning, hstored, hmanifests⟩
  rcases SettingsTasks.received_cases hreceived with ⟨manifest, hslot, rfl, rfl⟩ | ⟨topic, -, hslot, rfl, rfl⟩
  · rw [hslot, Option.some_or] at hmanifest
    have hstoredTopic : TopicFrom settings steps
        (t.manifestStore.turn (.manifest manifest) outcome).1.provisioning.ntfyTopic := by
      rw [hprovisioning]
      exact h.storedTopic
    have hstoredManifest : ∀ other, (t.manifestStore.turn (.manifest manifest) outcome).1.network = some other →
        ManifestFrom settings steps other := by
      rw [hnetwork]
      rintro _ ⟨⟩
      exact h.manifest manifest hmanifest
    exact ⟨hsynced, h.regenerating, h.topic, hstoredTopic, h.updating, h.manifest, hstoredManifest,
      hflash hstoredTopic hstoredManifest⟩
  · rw [hslot, Option.getD_some] at htopic
    have hstoredTopic : TopicFrom settings steps
        (t.manifestStore.turn (.topic topic) outcome).1.provisioning.ntfyTopic := by
      rw [hprovisioning]
      exact h.topic topic htopic
    have hstoredManifest : ∀ other, (t.manifestStore.turn (.topic topic) outcome).1.network = some other →
        ManifestFrom settings steps other := by
      rw [hnetwork]
      exact h.storedManifest
    exact ⟨hsynced, h.regenerating, h.topic, hstoredTopic, h.updating, h.manifest, hstoredManifest,
      hflash hstoredTopic hstoredManifest⟩

theorem kept_step {s : WebServer} (horderly : Orderly build s) (h : Kept settings steps s.tasks.settings)
    (hallowed : s.Allowed step) :
    Kept settings (steps ++ [step]) (s.next build step).tasks.settings := by
  have happend := h.append [step]
  have hmem : step ∈ steps ++ [step] := List.mem_append_right _ (List.mem_singleton_self step)
  cases step with
  | task step =>
    cases step with
    | updateDaemonVersion _ | updateSnapshot _ _ | updateFilesystemLabels _ | trackAddress _ => exact happend.setNetwork rfl
    | takeTest => exact happend
    | updateManifest manifest => exact happend.updateManifest (.inr hmem)
    | setManifest => exact happend.setManifest hallowed
    | store outcome => exact happend.store hallowed
  | listen | finish _ => exact happend
  | enterDashboard w =>
    rw [next]
    split <;> exact happend
  | stop =>
    have hsynced := happend.synced
    refine ⟨⟨hsynced.manifest, hsynced.topic, hsynced.provisioning, hsynced.saved⟩, fun _ _ => ?_, happend.topic,
      happend.storedTopic, happend.updating, happend.manifest, happend.storedManifest, happend.flash⟩
    rintro ⟨⟩
  | request w request a b c d =>
    rw [next, receive_eq, setWorker_tasks, receiveTasks]
    split
    · rename_i haction
      exact happend.regenerate (.inr ⟨w, request, a, b, c, d, hmem, rfl, action_regenerate haction⟩)
    · rw [WebTasks.sendTest_eq]
      exact happend
    · exact happend
  | readState w now later =>
    obtain ⟨⟨request, stage⟩, hworker, rfl⟩ := Option.map_eq_some_iff.mp hallowed
    have hhandles := horderly w
    rw [hworker] at hhandles
    rw [next, hworker]
    dsimp only
    rw [answer_eq, setWorker_tasks, answerTasks]
    split
    · rename_i haction
      exact happend.setTopic (hhandles.2.1.mpr haction)
    · exact happend

theorem kept_run {store : Store} (hload : store.load (Postcard.fromBytes StoredSettings) = some settings)
    (hruns : Runs Allowed (next build) (start store settings) steps) :
    Kept settings steps (steps.foldl (next build) (start store settings)).tasks.settings := by
  induction steps using List.reverseRecOn with
  | nil => exact kept_start hload
  | append_singleton steps step ih =>
    obtain ⟨hbefore, hallowed, -⟩ := runs_append.mp hruns
    rw [List.foldl_append]
    exact kept_step (orderly_run hbefore) (ih hbefore) hallowed

/-- The topic and the manifest change only where a request names the action or the host sends a manifest, whatever else is
    requested and however saving ends: what the Stick shows and sends to, what the task that stores holds, and what is
    read back from flash all come from the flash it started with, from such a request or from the host. The Wi-Fi settings
    stay, what is stored stays valid, and behind a save that succeeded flash has what the task holds. -/
theorem settings_asked_for {store : Store} (hload : store.load (Postcard.fromBytes StoredSettings) = some settings)
    (hruns : Runs Allowed (next build) (start store settings) steps) :
    let t := (steps.foldl (next build) (start store settings)).tasks.settings
    (∃ topic, t.network.ntfyTopic = some topic ∧ TopicFrom settings steps topic) ∧
      (∀ manifest, t.network.manifest = some manifest → ManifestFrom settings steps manifest) ∧
      SettingsFrom settings steps ⟨t.manifestStore.provisioning, t.manifestStore.network⟩ ∧
      t.manifestStore.provisioning.isValid = true ∧
      (∀ found, t.manifestStore.store.load (Postcard.fromBytes StoredSettings) = some found →
        SettingsFrom settings steps found ∧ found.provisioning.isValid = true) ∧
      (t.saved = some (.ok ()) → t.manifestStore.store.load (Postcard.fromBytes StoredSettings) =
        some ⟨t.manifestStore.provisioning, t.manifestStore.network⟩) := by
  have hkept := kept_run hload hruns
  obtain ⟨-, -, -, -, -, -, hvalid⟩ := Store.load_eq_some.mp hload
  refine ⟨⟨_, hkept.synced.topic, hkept.topic _ hkept.synced.topic⟩, hkept.manifest,
    ⟨hkept.synced.provisioning, hkept.storedTopic, hkept.storedManifest⟩, ?_, fun found hfound => ?_, hkept.synced.saved⟩
  · rw [hkept.synced.provisioning]
    rcases hkept.storedTopic with htopic | ⟨-, -, a, b, c, d, -, htopic, -⟩
    · rw [htopic]
      exact hvalid
    · rw [htopic]
      exact isValid_randomNtfyTopic hvalid a b c d
  · obtain ⟨-, -, -, -, -, -, hfoundValid⟩ := Store.load_eq_some.mp hfound
    exact ⟨hkept.flash found hfound, hfoundValid⟩

end

theorem settings_asked_for_answered :
    let steps := opened ++ .request .first regenerateRequest 1 2 3 4 :: answered
    let t := (steps.foldl (next smallBuild) (start Store.setUp Store.homeSettings)).tasks.settings
    (∃ topic, t.network.ntfyTopic = some topic ∧ TopicFrom Store.homeSettings steps topic) ∧
      (∀ manifest, t.network.manifest = some manifest → ManifestFrom Store.homeSettings steps manifest) ∧
      SettingsFrom Store.homeSettings steps ⟨t.manifestStore.provisioning, t.manifestStore.network⟩ ∧
      t.manifestStore.provisioning.isValid = true ∧
      (∀ found, t.manifestStore.store.load (Postcard.fromBytes StoredSettings) = some found →
        SettingsFrom Store.homeSettings steps found ∧ found.provisioning.isValid = true) ∧
      (t.saved = some (.ok ()) → t.manifestStore.store.load (Postcard.fromBytes StoredSettings) =
        some ⟨t.manifestStore.provisioning, t.manifestStore.network⟩) := by
  have hruns : Runs Allowed (next smallBuild) (start Store.setUp Store.homeSettings)
      (opened ++ .request .first regenerateRequest 1 2 3 4 :: answered) := by decide
  exact settings_asked_for Store.load_setUp hruns

/-! ### The dashboard -/

/-- The bytes of the dashboard that a worker holds while it sends it. -/
def dashboardBytes (build : FirmwareBuild) : Option HttpHandling → Nat
  | some ⟨request, .response response⟩ =>
    match request.action build with
    | .dashboard _ => response.body.utf8ByteSize
    | _ => 0
  | _ => 0

theorem utf8ByteSize_dashboardMarkup (version : SoftwareVersion) (now later : Nat) (state : SharedState) (document : Bool) :
    (Dashboard.dashboardMarkup version now later state document).utf8ByteSize ≤ Dashboard.dashboardBodyCapacity := by
  rw [Dashboard.dashboardMarkup, Dashboard.dashboardBuffer, Dashboard.foldl_put_eq_run,
    (Dashboard.DashboardBuffer.Holds.new.run _).finish document]
  split
  · assumption
  · cases document <;> decide +kernel

/-- Who has not the turn holds no dashboard. -/
theorem dashboardBytes_le {made : Option String} {turn : Prop} {handling : Option HttpHandling}
    (h : Handles build made turn handling) :
    dashboardBytes build handling ≤ Dashboard.dashboardBodyCapacity ∧ (¬turn → dashboardBytes build handling = 0) := by
  rcases handling with _ | ⟨request, stage⟩
  · exact ⟨Nat.zero_le _, fun _ => rfl⟩
  cases stage with
  | dashboard => exact ⟨Nat.zero_le _, fun _ => rfl⟩
  | state => exact ⟨Nat.zero_le _, fun _ => rfl⟩
  | response response =>
    obtain ⟨-, hturn, now, later, state, rfl⟩ := h
    rw [dashboardBytes]
    cases haction : request.action build with
    | dashboard document =>
      exact ⟨utf8ByteSize_dashboardMarkup .., fun hnot => absurd (hturn.mpr ⟨document, haction⟩) hnot⟩
    | regenerate | test | refuse | health | device | file _ _ => exact ⟨Nat.zero_le _, fun _ => rfl⟩

/-- The steps of handlers that answer. -/
def Answers : WebServerStep → Prop
  | .enterDashboard _ | .readState _ _ _ | .finish _ => True
  | _ => False

theorem stage_setWorker (request : HttpRequest) (stage : HttpStage) :
    (s.setWorker worker (some ⟨request, stage⟩)).stage worker = some stage := by
  rw [WebServer.stage, setWorker_self]
  rfl

theorem answers_of_state (hstage : s.stage worker = some .state) :
    Runs Allowed (next build) s [.readState worker 0 0] ∧
      ((s.next build (.readState worker 0 0)).stage worker).any HttpStage.isResponse = true := by
  refine ⟨⟨hstage, trivial⟩, ?_⟩
  obtain ⟨⟨request, _⟩, hworker, rfl⟩ := Option.map_eq_some_iff.mp hstage
  rw [next, hworker]
  dsimp only
  rw [answer_eq, stage_setWorker]
  rfl

/-- A worker gets its turn when nobody has it. -/
theorem answers_of_free (hstage : s.stage worker = some .dashboard) (hfree : s.dashboardResponse = none) :
    Runs Allowed (next build) s [.enterDashboard worker, .readState worker 0 0] ∧
      (([.enterDashboard worker, .readState worker 0 0].foldl (next build) s).stage worker).any HttpStage.isResponse =
        true := by
  have hentered : (s.next build (.enterDashboard worker)).stage worker = some .state := by
    obtain ⟨⟨request, _⟩, hworker, rfl⟩ := Option.map_eq_some_iff.mp hstage
    rw [next, hworker]
    exact stage_setWorker _ _
  obtain ⟨hruns, hanswered⟩ := @answers_of_state build _ _ hentered
  exact ⟨⟨⟨hstage, hfree⟩, hruns⟩, hanswered⟩

/-- Who has the turn gives it up when its response is written. -/
theorem answers_behind_response (hne : worker ≠ other) (hstage : s.stage worker = some .dashboard)
    (hturn : s.dashboardResponse = some other) (hother : (s.stage other).any HttpStage.isResponse = true) :
    Runs Allowed (next build) s [.finish other, .enterDashboard worker, .readState worker 0 0] ∧
      (([.finish other, .enterDashboard worker, .readState worker 0 0].foldl (next build) s).stage worker).any
        HttpStage.isResponse = true := by
  have hframe := @frame build s worker (.finish other) (fun heq => hne heq.symm) hother
  have hwaiting : (s.next build (.finish other)).stage worker = some .dashboard := by
    rw [WebServer.stage, hframe.1]
    exact hstage
  have hfree : (s.next build (.finish other)).dashboardResponse = none := if_pos hturn
  obtain ⟨hruns, hanswered⟩ := @answers_of_free build _ _ hwaiting hfree
  exact ⟨⟨hother, hruns⟩, hanswered⟩

/-- Handlers alone bring a worker to its response, in four steps at most. -/
def CanAnswer (build : FirmwareBuild) (s : WebServer) (worker : HttpWorker) : Prop :=
  ∃ more, (∀ step ∈ more, Answers step) ∧ more.length ≤ 4 ∧ Runs Allowed (next build) s more ∧
    ((more.foldl (next build) s).stage worker).any HttpStage.isResponse = true

/-- Who waits for its turn is let in once the other has answered. -/
theorem canAnswer_behind (h : Orderly build s) (hne : worker ≠ other) (hstage : s.stage worker = some .dashboard)
    (hturn : s.dashboardResponse = some other) : CanAnswer build s worker := by
  have hothers := h other
  rcases hhandlingOther : s.workers other with _ | ⟨requestOther, stageOther⟩
  · rw [hhandlingOther] at hothers
    exact absurd hturn hothers.2
  have hstageOther : s.stage other = some stageOther := congrArg (Option.map HttpHandling.stage) hhandlingOther
  rw [hhandlingOther] at hothers
  cases stageOther with
  | dashboard => exact absurd hturn hothers.2.2
  | response response =>
    have hresponse : (s.stage other).any HttpStage.isResponse = true := by
      rw [hstageOther]
      rfl
    obtain ⟨hruns, hanswered⟩ := @answers_behind_response build _ _ _ hne hstage hturn hresponse
    exact ⟨_, by simp [Answers], by simp, hruns, hanswered⟩
  | state =>
    obtain ⟨⟨hallowed, -⟩, hresponse⟩ := @answers_of_state build _ _ hstageOther
    have hframe := @frame build s worker (.readState other 0 0) (fun heq => hne heq.symm) hallowed
    have hwaiting : (s.next build (.readState other 0 0)).stage worker = some .dashboard := by
      rw [WebServer.stage, hframe.1]
      exact hstage
    have hkept : (s.next build (.readState other 0 0)).dashboardResponse = some other := by
      rw [next, hhandlingOther]
      dsimp only
      rw [answer_eq]
      exact hturn
    obtain ⟨hruns, hanswered⟩ := @answers_behind_response build _ _ _ hne hwaiting hkept hresponse
    refine ⟨[.readState other 0 0, .finish other, .enterDashboard worker, .readState worker 0 0], ?_, Nat.le_refl _,
      ⟨hallowed, hruns⟩, hanswered⟩
    simp [Answers]

theorem canAnswer (h : Orderly build s) (hworker : s.workers worker ≠ none) : CanAnswer build s worker := by
  obtain ⟨⟨request, stage⟩, hhandling⟩ := Option.ne_none_iff_exists'.mp hworker
  have hstage : s.stage worker = some stage := congrArg (Option.map HttpHandling.stage) hhandling
  cases stage with
  | response response =>
    refine ⟨[], fun _ => List.not_mem_nil.elim, Nat.zero_le _, trivial, ?_⟩
    show (s.stage worker).any HttpStage.isResponse = true
    rw [hstage]
    rfl
  | state =>
    obtain ⟨hruns, hanswered⟩ := @answers_of_state build _ _ hstage
    exact ⟨_, by simp [Answers], by simp, hruns, hanswered⟩
  | dashboard =>
    rcases hturn : s.dashboardResponse with _ | other
    · obtain ⟨hruns, hanswered⟩ := @answers_of_free build _ _ hstage hturn
      exact ⟨_, by simp [Answers], by simp, hruns, hanswered⟩
    · have hhandles := h worker
      rw [hhandling] at hhandles
      refine canAnswer_behind h ?_ hstage hturn
      rintro rfl
      exact hhandles.2.2 hturn

/-- In every state of every run the dashboards that are being sent fit together into the memory set aside for them, and
    every request can be answered by the handlers alone: none waits for one that waits for it. -/
theorem dashboards_bounded {store : Store} {settings : StoredSettings} {steps : List WebServerStep}
    (hruns : Runs Allowed (next build) (start store settings) steps) :
    let s := steps.foldl (next build) (start store settings)
    dashboardBytes build (s.workers .first) + dashboardBytes build (s.workers .second) ≤
        Dashboard.dashboardBodyCapacity * Dashboard.dashboardDynamicResponses ∧
      ∀ worker, s.workers worker ≠ none →
        ∃ more, (∀ step ∈ more, Answers step) ∧ more.length ≤ 4 ∧ Runs Allowed (next build) s more ∧
          ((more.foldl (next build) s).stage worker).any HttpStage.isResponse = true := by
  have horderly := orderly_run hruns
  refine ⟨?_, fun worker hworker => canAnswer horderly hworker⟩
  obtain ⟨hfirst, hnoFirst⟩ := dashboardBytes_le (horderly .first)
  obtain ⟨hsecond, hnoSecond⟩ := dashboardBytes_le (horderly .second)
  rw [Dashboard.dashboardDynamicResponses, Nat.mul_one]
  by_cases hturn : (steps.foldl (next build) (start store settings)).dashboardResponse = some .first
  · rw [hnoSecond (by rw [hturn]; rintro ⟨⟩), Nat.add_zero]
    exact hfirst
  · rw [hnoFirst hturn, Nat.zero_add]
    exact hsecond

/-- Both workers are asked for the dashboard, and one of them has its turn. -/
def crowdedDashboard : List WebServerStep :=
  [.task (.updateManifest SettingsTasks.webServer), .task .setManifest, .listen,
    .request .first ⟨.get, "/", none⟩ 0 0 0 0, .request .second ⟨.get, "/api/v1/dashboard-fragment", none⟩ 0 0 0 0,
    .enterDashboard .second]

theorem dashboards_bounded_crowded :
    let s := crowdedDashboard.foldl (next smallBuild) (start Store.setUp Store.homeSettings)
    dashboardBytes smallBuild (s.workers .first) + dashboardBytes smallBuild (s.workers .second) ≤
        Dashboard.dashboardBodyCapacity * Dashboard.dashboardDynamicResponses ∧
      ∀ worker, s.workers worker ≠ none →
        ∃ more, (∀ step ∈ more, Answers step) ∧ more.length ≤ 4 ∧ Runs Allowed (next smallBuild) s more ∧
          ((more.foldl (next smallBuild) s).stage worker).any HttpStage.isResponse = true := by
  have hruns : Runs Allowed (next smallBuild) (start Store.setUp Store.homeSettings) crowdedDashboard := by decide
  exact dashboards_bounded hruns

end WebServer
end Servatory
