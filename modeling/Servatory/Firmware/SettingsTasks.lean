import Servatory.Firmware.Network
import Servatory.Firmware.Provisioning
import Servatory.Lib.Transition

/-! The tasks that change the settings or store them. They give way to each other only where they wait: the main loop
    and the two HTTP workers for the shared state, and the task that stores for one of its channels. -/

namespace Servatory

/-! ### Channels of one slot -/

def trySend {α : Type} (slot : Option α) (value : α) : Except α (Option α) :=
  match slot with
  | none => .ok (some value)
  | some _ => .error value

/-- A value that finds the slot full takes the place of the one in it. -/
def sendLatest {α : Type} (slot : Option α) (value : α) : Option α :=
  match trySend slot value with
  | .ok slot => slot
  | .error value =>
    match trySend none value with
    | .ok slot => slot
    | .error _ => none

namespace SharedState

/-- What starting finds in flash. -/
def start (s : SharedState) (settings : StoredSettings) : SharedState :=
  let s :=
    match settings.network with
    | some manifest => s.setWebServer manifest.http.enabled manifest.http.port
    | none => s
  { s with manifest := settings.network, ntfyTopic := some settings.provisioning.ntfyTopic }

/-- `updateManifest` from the shared state on. -/
def setManifest (s : SharedState) (manifest : NetworkConfig) : SharedState :=
  if s.manifest = some manifest then s
  else { s with manifest := some manifest, manifests := sendLatest s.manifests manifest }

/-- A regenerated topic, from the shared state on. -/
def setTopic (s : SharedState) (topic : String) : SharedState :=
  { s with ntfyTopic := some topic, topicUpdates := sendLatest s.topicUpdates topic }

end SharedState

/-! ### The tasks -/

inductive HttpWorker
  | first
  | second
  deriving DecidableEq, Repr

/-- The shared state, what the main loop and the HTTP workers are about to set in it, and the task that stores, with the
    result of its last save. -/
structure SettingsTasks where
  network : SharedState
  updating : Option NetworkConfig
  regenerating : HttpWorker → Option String
  manifestStore : ManifestStore
  saved : Option (Except Unit Unit)

/-- What runs between two points where a task waits. -/
inductive SettingsStep
  | updateManifest (manifest : NetworkConfig)
  | setManifest
  | regenerate (worker : HttpWorker) (a b c d : UInt32)
  | setTopic (worker : HttpWorker)
  | store (outcome : FlashOutcome)

namespace SettingsTasks

/-- The tasks when the Stick starts with settings in flash. -/
def start (store : Store) (settings : StoredSettings) : SettingsTasks :=
  { network := SharedState.new.start settings
    updating := none
    regenerating := fun _ => none
    manifestStore := ⟨store, settings.provisioning, settings.network⟩
    saved := none }

/-- What the task that stores receives, the manifest first, and the channels after it. -/
def received (s : SharedState) : Option (StoreUpdate × SharedState) :=
  match s.manifests with
  | some manifest => some (.manifest manifest, { s with manifests := none })
  | none => s.topicUpdates.map fun topic => (.topic topic, { s with topicUpdates := none })

def Allowed (s : SettingsTasks) : SettingsStep → Prop
  | .updateManifest _ => s.updating = none
  | .setManifest => s.updating.isSome
  | .regenerate worker _ _ _ _ => s.regenerating worker = none
  | .setTopic worker => (s.regenerating worker).isSome
  | .store _ => (received s.network).isSome

instance (s : SettingsTasks) (step : SettingsStep) : Decidable (s.Allowed step) := by
  cases step <;> exact inferInstanceAs (Decidable (_ = _))

def next (s : SettingsTasks) : SettingsStep → SettingsTasks
  | .updateManifest manifest =>
    { s with
      network := s.network.setWebServer manifest.http.enabled manifest.http.port
      updating := some manifest }
  | .setManifest =>
    match s.updating with
    | some manifest => { s with network := s.network.setManifest manifest, updating := none }
    | none => s
  | .regenerate worker a b c d =>
    { s with regenerating := fun w => if w = worker then some (randomNtfyTopic a b c d) else s.regenerating w }
  | .setTopic worker =>
    match s.regenerating worker with
    | some topic =>
      { s with
        network := s.network.setTopic topic
        regenerating := fun w => if w = worker then none else s.regenerating w }
    | none => s
  | .store outcome =>
    match received s.network with
    | some (update, network) =>
      let (manifestStore, result) := s.manifestStore.turn update outcome
      { s with network, manifestStore, saved := some result }
    | none => s

end SettingsTasks
end Servatory
