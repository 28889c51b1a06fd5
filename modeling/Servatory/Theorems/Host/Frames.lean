import Servatory.Theorems.Host.Budget
import Servatory.Theorems.Host.Policy
import Servatory.Theorems.Host.Phases
import Servatory.Theorems.Host.Shutdown

/-! What the daemon does with a message that fits no frame: the write fails before it reaches the port, and the display is
    taken for disconnected. While every manifest and snapshot is short enough, that does not happen. -/

namespace Servatory
open Config (FitsFrame OutgrowsFrame snapshotLength)

/-! ### One message -/

namespace Emits

theorem writeHostMessage {m : HostMessage} (h : (encodeHost m maxHostFrameLen).isOk) : Emits [m] () (writeHostMessage m) := by
  cases hencode : encodeHost m maxHostFrameLen with
  | ok frame =>
    rw [Servatory.writeHostMessage, hencode]
    exact writeAll m
  | error error =>
    rw [hencode] at h
    cases h

/-- A shutdown that is asked for is handled without an error. -/
theorem handle (enabled : Bool) (host : ShutdownHost) (message : DeviceMessage) :
    ∃ messages stop, Emits messages stop (EventHandler.handle enabled host message) := by
  cases message with
  | hello version session => exact ⟨_, _, pure false⟩
  | shutdownRequested =>
    rw [EventHandler.handle]
    split
    · obtain ⟨outcome, hpoweroff⟩ := poweroff host
      have hreturn : Emits _ _ (do return (← Servatory.poweroff host) == .requested : PortM Bool) :=
        hpoweroff.bind (pure (outcome == .requested))
      have haccepted : Emits [.shutdownAccepted] () (Servatory.writeHostMessage .shutdownAccepted) := by
        rw [@writeHostMessage_eq .shutdownAccepted trivial]
        exact writeAll _
      exact ⟨_, _, haccepted.bind (flush.bind hreturn.tryCatch)⟩
    · exact ⟨_, _, pure false⟩

end Emits

theorem writeHostMessage_outgrown {m : HostMessage} (h : OutgrowsFrame (Postcard.size m)) (w : World) :
    ∃ error, writeHostMessage m w = (.error (.encoding error), w) := by
  cases hencode : encodeHost m maxHostFrameLen with
  | ok frame =>
    refine absurd ?_ (Config.not_encodes_of_outgrowsFrame h)
    rw [hencode]
    rfl
  | error error =>
    rw [writeHostMessage, hencode]
    exact ⟨error, rfl⟩

namespace Host
variable {config : Config} {build : SoftwareVersion} {h : Host} {w : World}

/-! ### The phases that write -/

theorem sendManifest_encodes (hd : (encodeHost (.displayConfig h.displayConfig) maxHostFrameLen).isOk)
    (hn : (encodeHost (.networkConfig h.networkConfig) maxHostFrameLen).isOk) (hw : w.Reliable) :
    ∃ manifestPending, (h.sendManifest w).1 = { h with manifestPending } := by
  rw [sendManifest]
  split
  · obtain ⟨w₁, h₁, hw₁, -⟩ := Emits.writeHostMessage hd w hw
    obtain ⟨w₂, h₂, -⟩ := Emits.writeHostMessage hn w₁ hw₁
    simp only [h₁, h₂]
    exact ⟨false, rfl⟩
  · exact ⟨h.manifestPending, rfl⟩

theorem updateDisplay_encodes {next : DisplayConfig} (hd : (encodeHost (.displayConfig next) maxHostFrameLen).isOk)
    (hw : w.Reliable) : ∃ w', h.updateDisplay next w = ({ h with displayConfig := next }, w') ∧ w'.Reliable := by
  rw [updateDisplay]
  split
  · obtain ⟨w₁, h₁, hw₁, -⟩ := Emits.writeHostMessage hd w hw
    rw [h₁]
    exact ⟨w₁, rfl, hw₁⟩
  · rename_i hsame
    obtain rfl := Decidable.not_not.mp hsame
    exact ⟨w, rfl, hw⟩

theorem updateNetwork_encodes {next : NetworkConfig} (hn : (encodeHost (.networkConfig next) maxHostFrameLen).isOk)
    (hw : w.Reliable) : ∃ networkConfig w', (networkConfig = h.networkConfig ∨ networkConfig = next) ∧
      h.updateNetwork next w = ({ h with networkConfig }, w') ∧ w'.Reliable := by
  rw [updateNetwork]
  split
  · obtain ⟨w₁, h₁, hw₁, -⟩ := Emits.writeHostMessage hn w hw
    rw [h₁]
    exact ⟨next, w₁, .inr rfl, rfl, hw₁⟩
  · exact ⟨h.networkConfig, w, .inl rfl, rfl, hw⟩

/-! ### A run on a port that works -/

/-- The manifests for the guests of a snapshot, and the snapshot with its incidents, are short enough. -/
structure RoomFor (config : Config) (build : SoftwareVersion) (snapshot : HealthSnapshot) : Prop where
  display : FitsFrame (config.displayLength build snapshot.guests.guests.length)
  network : FitsFrame (config.networkLength snapshot.guests.guests.length)
  completed : ∀ status incidents, config.evaluateHealth snapshot = some (status, incidents) →
    FitsFrame (snapshotLength (snapshot.setIncidents status incidents))

/-- What the daemon has to send has frames, and no write of a manifest or a snapshot has failed: an error is one of the
    Hello, which is neither, or of reading. -/
structure Writable (config : Config) (build : SoftwareVersion) (h : Host) : Prop where
  display : (encodeHost (.displayConfig h.displayConfig) maxHostFrameLen).isOk
  network : (encodeHost (.networkConfig h.networkConfig) maxHostFrameLen).isOk
  latest : ∀ snapshot, h.latestHealth = some snapshot → RoomFor config build snapshot
  error : ∀ text, h.connectionError = some text → text = "writing protocol hello" ∨ text = "reading USB display"

namespace Writable

theorem boot {u : Unit} (hv : config.validate build = .ok u) {nonce : HandshakeNonce} {now : Nat}
    (hb : Host.boot config build nonce now = .ok h) : Writable config build h := by
  obtain ⟨display, network, hdisplay, hnetwork, rfl⟩ := boot_eq_ok hb
  obtain ⟨display', hdisplay', hsizes⟩ := Except.bind_eq_ok.mp (Config.validated hv).sizes
  obtain ⟨_, hfits, hsizes⟩ := Except.bind_eq_ok.mp hsizes
  obtain ⟨network', hnetwork', hfits'⟩ := Except.bind_eq_ok.mp hsizes
  obtain rfl := Except.ok.inj (hdisplay.symm.trans hdisplay')
  obtain rfl := Except.ok.inj (hnetwork.symm.trans hnetwork')
  have hok : ∀ {b : Bool} {error : ConfigError} {u : Unit}, bailIf (!b) error = .ok u → b = true := by
    intro b error u hbail
    cases b with
    | true => rfl
    | false => cases hbail
  refine ⟨hok hfits, hok hfits', ?_, ?_⟩
  all_goals
    intro _ heq
    cases heq

/-- What touches none of this. -/
theorem congr (hh : Writable config build h) {t : Host} (hd : t.displayConfig = h.displayConfig)
    (hn : t.networkConfig = h.networkConfig) (hl : t.latestHealth = h.latestHealth ∨ t.latestHealth = none)
    (he : t.connectionError = h.connectionError ∨ t.connectionError = none) : Writable config build t where
  display := by rw [hd]; exact hh.display
  network := by rw [hn]; exact hh.network
  latest snapshot heq := by
    rcases hl with hl | hl
    · exact hh.latest snapshot (hl.symm.trans heq)
    · cases hl.symm.trans heq
  error text heq := by
    rcases he with he | he
    · exact hh.error text (he.symm.trans heq)
    · cases he.symm.trans heq

theorem updateManifests (hh : Writable config build h) {u : Unit} (hv : config.validate build = .ok u)
    {snapshot : HealthSnapshot} (hroom : RoomFor config build snapshot) (hw : w.Reliable) {r : Host × World}
    (hr : h.updateManifests config build snapshot.guests.guests.length w = .ok r) :
    Writable config build r.1 ∧ r.2.Reliable := by
  obtain ⟨hd, hn⟩ := Config.compiles_of_fitsFrame hv hroom.display hroom.network
  rcases updateManifests_eq_ok hr with ⟨-, rfl⟩ | ⟨display, network, hdisplay, hnetwork, rfl⟩
  · exact ⟨hh, hw⟩
  obtain rfl := Except.ok.inj (hd.symm.trans hdisplay)
  obtain rfl := Except.ok.inj (hn.symm.trans hnetwork)
  have hdisplay : (encodeHost (.displayConfig (config.displayManifest build snapshot.guests.guests.length))
      maxHostFrameLen).isOk := Config.encodes_of_fitsFrame (by rw [size_displayMessage]; exact hroom.display)
  have hnetwork : (encodeHost (.networkConfig (config.networkManifest snapshot.guests.guests.length))
      maxHostFrameLen).isOk := Config.encodes_of_fitsFrame (by rw [size_networkMessage]; exact hroom.network)
  obtain ⟨w₁, h₁, hw₁⟩ := @updateDisplay_encodes h w _ hdisplay hw
  obtain ⟨chosen, w₂, hchosen, h₂, hw₂⟩ := @updateNetwork_encodes
    { h with displayConfig := config.displayManifest build snapshot.guests.guests.length } w₁ _ hnetwork hw₁
  simp only [replaceManifests, h₁, h₂]
  refine ⟨⟨hdisplay, ?_, hh.latest, hh.error⟩, hw₂⟩
  rcases hchosen with rfl | rfl
  · exact hh.network
  · exact hnetwork

theorem sendUpdate (hh : Writable config build h) {u : Unit} (hv : config.validate build = .ok u) (hw : w.Reliable)
    (now sentAt : Nat) : Writable config build (h.sendUpdate config build now sentAt w).1 := by
  rcases sendUpdate_cases config build now sentAt h w with h1 | ⟨-, snapshot, hlatest, hrest⟩
  · rw [h1]
    exact hh
  have hroom := hh.latest snapshot hlatest
  rcases hrest with h1 | ⟨h₁, w₁, hr, hrest⟩
  · rw [h1]
    exact hh.congr rfl rfl (.inl rfl) (.inl rfl)
  have htaken : Writable config build { h with latestHealth := none } := hh.congr rfl rfl (.inr rfl) (.inl rfl)
  obtain ⟨hh₁, hw₁⟩ := htaken.updateManifests hv hroom hw hr
  rcases hrest with h1 | ⟨status, incidents, hreport, h1⟩
  · rw [h1]
    exact hh₁.congr rfl rfl (.inl rfl) (.inl rfl)
  rw [h1, sendSnapshot]
  have hencodes : (encodeHost (.healthSnapshot (snapshot.setIncidents status incidents)) maxHostFrameLen).isOk :=
    Config.encodes_of_fitsFrame (by rw [size_snapshotMessage]; exact hroom.completed status incidents hreport)
  split
  · obtain ⟨w₂, h₂, -⟩ := Emits.writeHostMessage hencodes w₁ hw₁
    rw [h₂]
    exact hh₁.congr rfl rfl (.inl rfl) (.inl rfl)
  · exact hh₁

theorem receive (hh : Writable config build h) (hw : w.Reliable) (a : Arrival) :
    Writable config build (h.receive config a w).1 := by
  rw [Host.receive]
  split
  · split
    · split
      · exact hh
      · exact hh.congr rfl rfl (.inl rfl) (.inl rfl)
    · exact hh.congr rfl rfl (.inl rfl) (.inl rfl)
  · rename_i message _ _
    split
    · obtain ⟨_, stop, hemits⟩ := Emits.handle config.actions.shutdown.enabled a.host message
      obtain ⟨w', heq, -⟩ := hemits w hw
      rw [heq]
      cases stop with
      | true => exact hh.congr rfl rfl (.inl rfl) (.inl rfl)
      | false => exact hh
    · exact hh
  · exact hh

theorem proceed {r : Host × World} (hh : Writable config build r.1) (phase : Phase) :
    Writable config build (proceed phase r).1 := hh.congr rfl rfl (.inl rfl) (.inl rfl)

theorem sendHello (hh : Writable config build h) (now sentAt : Nat) (w : World) :
    Writable config build (h.sendHello build now sentAt w).1 := by
  rw [Host.sendHello]
  split
  · split
    · exact ⟨hh.display, hh.network, hh.latest, fun _ heq => .inl (Option.some.inj heq).symm⟩
    · exact hh.congr rfl rfl (.inl rfl) (.inl rfl)
  · exact hh

theorem step (hh : Writable config build h) {u : Unit} (hv : config.validate build = .ok u) (hw : w.Reliable)
    {e : HostEvent} (hroom : ∀ snapshot, e = .collected snapshot → RoomFor config build snapshot) :
    Writable config build (h.step config build e w).1 := by
  cases e with
  | collected snapshot =>
    refine ⟨hh.display, hh.network, fun other heq => ?_, hh.error⟩
    rw [← Option.some.inj heq]
    exact hroom snapshot rfl
  | opened result =>
    rw [Host.step]
    split
    · exact hh
    · split
      · exact hh.congr rfl rfl (.inl rfl) (.inl rfl)
      · cases result with
        | none => exact hh
        | some opened => exact hh.congr rfl rfl (.inl rfl) (.inl rfl)
  | hello now sentAt =>
    rw [Host.step]
    split
    · exact hh
    · exact (hh.sendHello now sentAt w).proceed _
  | manifest =>
    rw [Host.step]
    split
    · exact hh
    · refine proceed ?_ _
      obtain ⟨manifestPending, h1⟩ := sendManifest_encodes hh.display hh.network hw
      rw [h1]
      exact hh.congr rfl rfl (.inl rfl) (.inl rfl)
  | update now sentAt =>
    rw [Host.step]
    split
    · exact hh
    · exact (hh.sendUpdate hv hw now sentAt).proceed _
  | frame arrival =>
    rw [Host.step]
    split
    · exact hh
    · exact hh.receive hw arrival
  | read failed =>
    rw [Host.step]
    split
    · exact hh
    · cases failed with
      | true => exact ⟨hh.display, hh.network, hh.latest, fun _ heq => .inr (Option.some.inj heq).symm⟩
      | false => exact hh.congr rfl rfl (.inl rfl) (.inl rfl)
  | close =>
    rw [Host.step]
    split
    · exact hh
    · exact hh.congr rfl rfl (.inl rfl) (.inr rfl)

end Writable

/-- The daemon goes through some events while its port takes every write. -/
def runWorking (config : Config) (build : SoftwareVersion) (h : Host) (events : List HostEvent) : Host :=
  events.foldl (fun h e => (h.step config build e (.new [])).1) h

theorem Writable.run (hh : Writable config build h) {u : Unit} (hv : config.validate build = .ok u)
    {events : List HostEvent} (hroom : ∀ snapshot, .collected snapshot ∈ events → RoomFor config build snapshot) :
    Writable config build (h.runWorking config build events) := by
  induction events generalizing h with
  | nil => exact hh
  | cons e rest ih =>
    have hreliable : (World.new []).Reliable := fun _ hmem => by cases hmem
    refine ih (hh.step hv hreliable fun snapshot heq => hroom snapshot ?_) fun snapshot hmem => hroom snapshot ?_
    · rw [← heq]
      exact List.mem_cons_self
    · exact List.mem_cons_of_mem _ hmem

/-- A due snapshot that outgrows a frame ends the connection, whatever the port does. -/
theorem sendUpdate_outgrown {now sentAt : Nat} (hdue : h.Due now) {snapshot : HealthSnapshot}
    (hlatest : h.latestHealth = some snapshot) {status : HealthReport} {incidents : List Incident}
    (hreport : config.evaluateHealth snapshot = some (status, incidents))
    (hlong : OutgrowsFrame (snapshotLength (snapshot.setIncidents status incidents))) :
    (h.sendUpdate config build now sentAt w).1.phase = .stopped ∨
      (h.sendUpdate config build now sentAt w).1.connectionError ≠ none := by
  rw [Host.sendUpdate, if_pos hdue, hlatest]
  dsimp only
  split
  · exact .inl rfl
  · rename_i h₁ w₁ _
    rw [hreport]
    dsimp only
    right
    rw [sendSnapshot]
    split
    · obtain ⟨error, heq⟩ := @writeHostMessage_outgrown (.healthSnapshot (snapshot.setIncidents status incidents))
        (by rw [size_snapshotMessage]; exact hlong) w₁
      rw [heq]
      exact Option.some_ne_none _
    · rename_i herror
      exact fun hnone => herror (by rw [hnone]; rfl)

end Host

/-! ### All messages -/

namespace Config
variable {config : Config} {build : SoftwareVersion} {g : Nat}

/-- The manifests for `g` guests compile, and they and the snapshot are encoded. -/
def Encodes (config : Config) (build : SoftwareVersion) (g : Nat) (snapshot : HealthSnapshot) : Prop :=
  ∃ display network, config.displayConfig build g = .ok display ∧ config.networkConfig g = .ok network ∧
    (encodeHost (.displayConfig display) maxHostFrameLen).isOk ∧
    (encodeHost (.networkConfig network) maxHostFrameLen).isOk ∧
    (encodeHost (.healthSnapshot snapshot) maxHostFrameLen).isOk

theorem encodes_of_fits {u : Unit} (hv : config.validate build = .ok u) {snapshot : HealthSnapshot}
    (hd : FitsFrame (config.displayLength build g)) (hn : FitsFrame (config.networkLength g))
    (hs : FitsFrame (snapshotLength snapshot)) : config.Encodes build g snapshot := by
  obtain ⟨hdisplay, hnetwork⟩ := compiles_of_fitsFrame hv hd hn
  refine ⟨_, _, hdisplay, hnetwork, encodes_of_fitsFrame ?_, encodes_of_fitsFrame ?_, encodes_of_fitsFrame ?_⟩
  · rw [size_displayMessage]
    exact hd
  · rw [size_networkMessage]
    exact hn
  · rw [size_snapshotMessage]
    exact hs

theorem not_encodes_of_outgrows {snapshot : HealthSnapshot}
    (h : OutgrowsFrame (config.displayLength build g) ∨ OutgrowsFrame (config.networkLength g) ∨
      OutgrowsFrame (snapshotLength snapshot)) : ¬config.Encodes build g snapshot := by
  rintro ⟨display, network, hd, hn, h1, h2, h3⟩
  rw [displayConfig_eq hd] at h1
  rw [networkConfig_eq hn] at h2
  rcases h with h | h | h
  · exact not_encodes_of_outgrowsFrame (by rw [size_displayMessage]; exact h) h1
  · exact not_encodes_of_outgrowsFrame (by rw [size_networkMessage]; exact h) h2
  · exact not_encodes_of_outgrowsFrame (by rw [size_snapshotMessage]; exact h) h3

/-- All three messages of an accepted configuration are encoded when their lengths leave room for the framing, and are not
    all encoded when one of them leaves none. While there is room for every snapshot that is collected, a port that takes
    every write is not given up for a manifest or a snapshot; a due snapshot without room ends the connection. -/
theorem frames_encode {u : Unit} (hv : config.validate build = .ok u) :
    (∀ g snapshot, FitsFrame (config.displayLength build g) → FitsFrame (config.networkLength g) →
      FitsFrame (snapshotLength snapshot) → config.Encodes build g snapshot) ∧
    (∀ g snapshot, OutgrowsFrame (config.displayLength build g) ∨ OutgrowsFrame (config.networkLength g) ∨
      OutgrowsFrame (snapshotLength snapshot) → ¬config.Encodes build g snapshot) ∧
    (∀ nonce now h events, Host.boot config build nonce now = .ok h →
      (∀ snapshot, .collected snapshot ∈ events → Host.RoomFor config build snapshot) →
        ∀ text, (h.runWorking config build events).connectionError = some text →
          text = "writing protocol hello" ∨ text = "reading USB display") ∧
    ∀ (h : Host) (w : World) now sentAt snapshot status incidents, h.Due now → h.latestHealth = some snapshot →
      config.evaluateHealth snapshot = some (status, incidents) →
      OutgrowsFrame (snapshotLength (snapshot.setIncidents status incidents)) →
        (h.sendUpdate config build now sentAt w).1.phase = .stopped ∨
          (h.sendUpdate config build now sentAt w).1.connectionError ≠ none := by
  refine ⟨fun g snapshot => encodes_of_fits hv, fun g snapshot => not_encodes_of_outgrows, ?_, ?_⟩
  · intro nonce now h events hboot hroom
    exact ((Host.Writable.boot hv hboot).run hv hroom).error
  · intro h w now sentAt snapshot status incidents hdue hlatest hreport hlong
    exact Host.sendUpdate_outgrown hdue hlatest hreport hlong

theorem frames_encode_guestsOnly : guestsOnly.Encodes ⟨"1.0"⟩ 8 (crowdedSnapshot 8) ∧
    ¬guestsOnly.Encodes ⟨"1.0"⟩ 64 (crowdedSnapshot 64) := by
  obtain ⟨hfits, houtgrows, -⟩ := frames_encode guestsOnly_valid
  exact ⟨hfits 8 _ (by decide) (by decide) (by decide),
    houtgrows 64 _ (.inr (.inr (show maxHostFrameLen < _ by decide)))⟩

/-- The configuration is accepted, and the snapshot of 64 guests cannot be sent. -/
theorem frames_refused :
    guestsOnly.validate ⟨"1.0"⟩ = .ok () ∧ (crowdedSnapshot 64).guests.guests.length = 64 ∧
      ¬guestsOnly.Encodes ⟨"1.0"⟩ 64 (crowdedSnapshot 64) := by
  refine ⟨guestsOnly_valid, by simp [crowdedSnapshot, HealthSnapshot.ofGuests], ?_⟩
  exact not_encodes_of_outgrows (.inr (.inr (show maxHostFrameLen < _ by decide)))

end Config
end Servatory
