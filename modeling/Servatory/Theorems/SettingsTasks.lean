import Servatory.Firmware.SettingsTasks
import Servatory.Theorems.Settings

/-! No update of the settings is lost: what the shared state holds and the task that stores does not is in a channel. -/

namespace Servatory
open Postcard

@[simp] theorem sendLatest_eq {α : Type} (slot : Option α) (value : α) : sendLatest slot value = some value := by
  cases slot <;> rfl

namespace SettingsTasks
open Transition

/-- The tasks of a Stick that starts with these settings in flash. -/
def Starts (fromBytes : List UInt8 → Option StoredSettings) (settings : StoredSettings) (s : SettingsTasks) : Prop :=
  ∃ store, store.load fromBytes = some settings ∧ s = start store settings

/-- The shared state holds the last manifest and the last topic that were set, each of which the task that stores either
    has or will receive, and the flash holds what was saved. -/
structure Synced (fromBytes : List UInt8 → Option StoredSettings) (settings : StoredSettings) (s : SettingsTasks) :
    Prop where
  manifest : s.network.manifest = s.network.manifests.or s.manifestStore.network
  topic : s.network.ntfyTopic = some (s.network.topicUpdates.getD s.manifestStore.provisioning.ntfyTopic)
  provisioning : s.manifestStore.provisioning =
    { settings.provisioning with ntfyTopic := s.manifestStore.provisioning.ntfyTopic }
  saved : s.saved = some (.ok ()) →
    s.manifestStore.store.load fromBytes = some ⟨s.manifestStore.provisioning, s.manifestStore.network⟩

section
variable {fromBytes : List UInt8 → Option StoredSettings} {settings : StoredSettings} {s t : SettingsTasks}

theorem synced_start {store : Store} : Synced fromBytes settings (start store settings) := by
  obtain ⟨provisioning, network⟩ := settings
  cases network with
  | none => exact ⟨rfl, rfl, rfl, by rintro ⟨⟩⟩
  | some manifest => exact ⟨rfl, rfl, rfl, by rintro ⟨⟩⟩

/-- Setting a manifest puts it in the channel, unless it is the last one. -/
theorem setManifest_cases (network : SharedState) (manifest : NetworkConfig) :
    (network.manifest = some manifest ∧ network.setManifest manifest = network) ∨
      network.setManifest manifest = { network with manifest := some manifest, manifests := some manifest } := by
  rw [SharedState.setManifest]
  split
  · rename_i hsame
    exact .inl ⟨hsame, rfl⟩
  · rw [sendLatest_eq]
    exact .inr rfl

/-- What the task that stores has after a turn, and what it saved. -/
theorem turn_cases (hpostcard : ∀ v, fromBytes (Postcard.encode v) = some v) (m : ManifestStore) (update : StoreUpdate)
    (outcome : FlashOutcome) :
    (m.turn update outcome).1.provisioning = (m.receive update).provisioning ∧
      (m.turn update outcome).1.network = (m.receive update).network ∧
      ((m.turn update outcome).2 = .ok () → (m.turn update outcome).1.store.load fromBytes =
        some ⟨(m.receive update).provisioning, (m.receive update).network⟩) := by
  rw [ManifestStore.turn]
  dsimp only
  rcases hnetwork : (m.receive update).network with _ | manifest
  · exact ⟨rfl, rfl, Store.load_save hpostcard⟩
  · exact ⟨rfl, rfl, Store.load_save hpostcard⟩

theorem store_turn (m : ManifestStore) (update : StoreUpdate) (outcome : FlashOutcome) :
    (m.turn update outcome).1.store =
      (m.store.save outcome ⟨(m.receive update).provisioning, (m.receive update).network⟩).1 := by
  have hstore : (m.receive update).store = m.store := by cases update <;> rfl
  rw [ManifestStore.turn]
  dsimp only
  rcases (m.receive update).network with _ | manifest
  · rw [← hstore]
    rfl
  · rw [← hstore]
    rfl

/-- However the save of a turn ends, flash has what it had before or what the task has now. -/
theorem turn_flash {m : ManifestStore} {update : StoreUpdate} {outcome : FlashOutcome} {found : StoredSettings}
    (h : (m.turn update outcome).1.store.load (Postcard.fromBytes StoredSettings) = some found) :
    m.store.load (Postcard.fromBytes StoredSettings) = some found ∨
      found = ⟨(m.turn update outcome).1.provisioning, (m.turn update outcome).1.network⟩ := by
  obtain ⟨hprovisioning, hnetwork, -⟩ := turn_cases fromBytes_encode m update outcome
  rw [store_turn] at h
  rw [hprovisioning, hnetwork]
  exact Store.load_of_save h

/-- The task that stores takes a manifest before a topic. -/
theorem received_cases {network network' : SharedState} {update : StoreUpdate}
    (h : received network = some (update, network')) :
    (∃ manifest, network.manifests = some manifest ∧ update = .manifest manifest ∧
        network' = { network with manifests := none }) ∨
      ∃ topic, network.manifests = none ∧ network.topicUpdates = some topic ∧ update = .topic topic ∧
        network' = { network with topicUpdates := none } := by
  rw [received] at h
  rcases hmanifests : network.manifests with _ | manifest
  · rw [hmanifests] at h
    obtain ⟨topic, htopic, heq⟩ := Option.map_eq_some_iff.mp h
    cases heq
    exact .inr ⟨topic, rfl, htopic, rfl, rfl⟩
  · rw [hmanifests] at h
    cases h
    exact .inl ⟨manifest, rfl, rfl, rfl⟩

theorem synced_step (hpostcard : ∀ v, fromBytes (Postcard.encode v) = some v) (h : Synced fromBytes settings s)
    {step : SettingsStep} (hs : Guarded Allowed next s step t) : Synced fromBytes settings t := by
  obtain ⟨hallowed, rfl⟩ := hs
  cases step with
  | updateManifest manifest => exact ⟨h.manifest, h.topic, h.provisioning, h.saved⟩
  | regenerate worker a b c d => exact ⟨h.manifest, h.topic, h.provisioning, h.saved⟩
  | setManifest =>
    obtain ⟨manifest, hupdating⟩ := Option.isSome_iff_exists.mp hallowed
    rw [next, hupdating]
    dsimp only
    rcases setManifest_cases s.network manifest with ⟨-, hsame⟩ | hset
    · rw [hsame]
      exact ⟨h.manifest, h.topic, h.provisioning, h.saved⟩
    · rw [hset]
      exact ⟨rfl, h.topic, h.provisioning, h.saved⟩
  | setTopic worker =>
    obtain ⟨topic, hregenerating⟩ := Option.isSome_iff_exists.mp hallowed
    rw [next, hregenerating]
    refine ⟨h.manifest, ?_, h.provisioning, h.saved⟩
    show some topic = some ((sendLatest s.network.topicUpdates topic).getD _)
    rw [sendLatest_eq, Option.getD_some]
  | store outcome =>
    obtain ⟨⟨update, network⟩, hreceived⟩ := Option.isSome_iff_exists.mp hallowed
    obtain ⟨hprovisioning, hnetwork, hload⟩ := turn_cases hpostcard s.manifestStore update outcome
    rw [next, hreceived]
    dsimp only
    rcases received_cases hreceived with ⟨manifest, hslot, rfl, rfl⟩ | ⟨topic, hslot, htopic, rfl, rfl⟩
    · have hmanifest := h.manifest
      rw [hslot, Option.some_or] at hmanifest
      refine ⟨hmanifest.trans hnetwork.symm, ?_, ?_, fun hok => ?_⟩
      · rw [hprovisioning]
        exact h.topic
      · rw [hprovisioning]
        exact h.provisioning
      · rw [hprovisioning, hnetwork]
        exact hload (Option.some.inj hok)
    · have hlatest := h.topic
      rw [htopic, Option.getD_some] at hlatest
      refine ⟨?_, ?_, ?_, fun hok => ?_⟩
      · rw [hnetwork]
        exact h.manifest
      · rw [hprovisioning]
        exact hlatest
      · have hsame := h.provisioning
        rw [hprovisioning]
        show { s.manifestStore.provisioning with ntfyTopic := topic } = _
        rw [hsame]
        rfl
      · rw [hprovisioning, hnetwork]
        exact hload (Option.some.inj hok)

/-- In every state of every run the settings are in step. -/
theorem synced_reachable (hpostcard : ∀ v, fromBytes (Postcard.encode v) = some v)
    (hr : Reachable (Starts fromBytes settings) (Guarded Allowed next) s) : Synced fromBytes settings s := by
  have hstart : ∀ s, Starts fromBytes settings s → Synced fromBytes settings s := by
    rintro s ⟨store, -, rfl⟩
    exact synced_start
  exact hr.invariant hstart fun _ _ _ _ hsynced hstep => synced_step hpostcard hsynced hstep

/-- Whatever the order in which manifests and topics are set and stored: when both channels are empty, the task that
    stores has the manifest and the topic of the shared state, and if its last save succeeded these are in flash, with
    the Wi-Fi settings that the Stick started with. -/
theorem settings_stored (hpostcard : ∀ v, fromBytes (Postcard.encode v) = some v)
    (hr : Reachable (Starts fromBytes settings) (Guarded Allowed next) s) (hmanifests : s.network.manifests = none)
    (htopics : s.network.topicUpdates = none) :
    s.manifestStore.network = s.network.manifest ∧ s.network.ntfyTopic = some s.manifestStore.provisioning.ntfyTopic ∧
      (s.saved = some (.ok ()) → ∃ topic, s.network.ntfyTopic = some topic ∧
        s.manifestStore.store.load fromBytes =
          some ⟨{ settings.provisioning with ntfyTopic := topic }, s.network.manifest⟩) := by
  have h := synced_reachable hpostcard hr
  have hmanifest := h.manifest
  have htopic := h.topic
  rw [hmanifests, Option.none_or] at hmanifest
  rw [htopics, Option.getD_none] at htopic
  refine ⟨hmanifest.symm, htopic, fun hok => ⟨_, htopic, ?_⟩⟩
  rw [h.saved hok, ← h.provisioning, hmanifest]

end

def webServer : NetworkConfig :=
  ⟨⟨true, 80, "servatory", []⟩,
    ⟨false, ⟨true, true⟩, true, .default, .urgent, .default, none, "https://ntfy.sh", none⟩⟩

/-- The web server is switched on while both workers make a new topic. -/
def crowded : List SettingsStep :=
  [.updateManifest webServer, .regenerate .first 1 2 3 4, .regenerate .second 5 6 7 8, .setTopic .second, .setManifest,
    .store .success, .setTopic .first, .store .success]

theorem settings_stored_crowded :
    (crowded.foldl next (start Store.setUp Store.homeSettings)).saved = some (.ok ()) ∧
      ∃ topic, (crowded.foldl next (start Store.setUp Store.homeSettings)).network.ntfyTopic = some topic ∧
        (crowded.foldl next (start Store.setUp Store.homeSettings)).manifestStore.store.load
            (Postcard.fromBytes StoredSettings) =
          some ⟨{ Store.homeSettings.provisioning with ntfyTopic := topic },
            (crowded.foldl next (start Store.setUp Store.homeSettings)).network.manifest⟩ := by
  have hstart : Starts (Postcard.fromBytes StoredSettings) Store.homeSettings (start Store.setUp Store.homeSettings) :=
    ⟨Store.setUp, Store.load_setUp, rfl⟩
  have hruns : Runs Allowed next (start Store.setUp Store.homeSettings) crowded := by decide
  have hrun := Reachable.run (.init hstart) crowded hruns
  have hsaved : (crowded.foldl next (start Store.setUp Store.homeSettings)).saved = some (.ok ()) := by decide
  exact ⟨hsaved, (settings_stored fromBytes_encode hrun (by decide) (by decide)).2.2 hsaved⟩

end SettingsTasks
end Servatory
