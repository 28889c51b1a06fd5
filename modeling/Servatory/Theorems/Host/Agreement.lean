import Servatory.Lib.History
import Servatory.Lib.Transition
import Servatory.Theorems.Host.Budget
import Servatory.Theorems.Host.Phases

/-! Which manifests stand behind a snapshot. The two manifests and the page count they were compiled for are
    three variables, and an update that breaks off between its writes leaves the manifest for the LCD ahead
    of the other two. -/

namespace Servatory

namespace HostMessage

def display? : HostMessage → Option DisplayConfig
  | displayConfig config => some config
  | _ => none

def network? : HostMessage → Option NetworkConfig
  | networkConfig config => some config
  | _ => none

end HostMessage

variable {config : Config} {build : SoftwareVersion}

/-- The last manifest for the LCD that a log holds. -/
def lastDisplay (log : List HostMessage) : Option DisplayConfig := (log.filterMap (·.display?)).getLast?

/-- The last manifest for the network that a log holds. -/
def lastNetwork (log : List HostMessage) : Option NetworkConfig := (log.filterMap (·.network?)).getLast?

section
variable {log : List HostMessage} {m : HostMessage}

theorem lastDisplay_concat (display : DisplayConfig) : lastDisplay (log ++ [.displayConfig display]) = some display := by
  simp [lastDisplay, HostMessage.display?]

theorem lastNetwork_concat (network : NetworkConfig) : lastNetwork (log ++ [.networkConfig network]) = some network := by
  simp [lastNetwork, HostMessage.network?]

theorem lastDisplay_append {more : List HostMessage} (h : ∀ m ∈ more, m.display? = none) :
    lastDisplay (log ++ more) = lastDisplay log := by
  rw [lastDisplay, List.filterMap_append, List.filterMap_eq_nil_iff.mpr h, List.append_nil, lastDisplay]

theorem lastNetwork_append {more : List HostMessage} (h : ∀ m ∈ more, m.network? = none) :
    lastNetwork (log ++ more) = lastNetwork log := by
  rw [lastNetwork, List.filterMap_append, List.filterMap_eq_nil_iff.mpr h, List.append_nil, lastNetwork]

end

/-- A phase of the loop, and what becomes of its writes. -/
structure Turn where
  event : HostEvent
  outcomes : List WriteOutcome

/-- The loop, and the messages written successfully since its port was last opened. -/
structure Session where
  host : Host
  log : List HostMessage

namespace Session

def step (config : Config) (build : SoftwareVersion) (s : Session) (turn : Turn) : Session :=
  let r := s.host.step config build turn.event (.new turn.outcomes)
  ⟨r.1, if s.host.portOpen = false ∧ r.1.portOpen = true then [] else s.log ++ r.2.written⟩

/-- The loop before its first iteration. -/
def Initial (config : Config) (build : SoftwareVersion) (s : Session) : Prop :=
  s.log = [] ∧ ∃ nonce now, Host.boot config build nonce now = .ok s.host

end Session

/-- The snapshot follows the manifests for its guests. -/
def Matches (config : Config) (build : SoftwareVersion) (log : List HostMessage) (snapshot : HealthSnapshot) : Prop :=
  ∃ display network, lastDisplay log = some display ∧ lastNetwork log = some network ∧
    config.displayConfig build snapshot.guests.guests.length = .ok display ∧
    config.networkConfig snapshot.guests.guests.length = .ok network

/-- Every snapshot in the log follows the manifests for its guests. -/
def Agrees (config : Config) (build : SoftwareVersion) (log : List HostMessage) : Prop :=
  History.Each (fun log m => ∀ snapshot, m = .healthSnapshot snapshot → Matches config build log snapshot) log

namespace Host

/-- The manifest for the LCD is not the one for the pages that the daemon counts with: an update broke off
    behind it. -/
def HalfUpdated (config : Config) (build : SoftwareVersion) (h : Host) : Prop :=
  config.displayConfig build (4 * h.configuredGuestPages) ≠ .ok h.displayConfig

instance (h : Host) : Decidable (h.HalfUpdated config build) := inferInstanceAs (Decidable (_ ≠ _))

/-- When a snapshot is due behind a broken off update, its guests take another number of pages than the
    daemon counts with. -/
def Resumes (config : Config) (build : SoftwareVersion) (h : Host) : HostEvent → Prop
  | .update now _ =>
    h.phase = .update → h.Due now → h.HalfUpdated config build →
      ∀ snapshot ∈ h.latestHealth, guestPageCount snapshot.guests.guests.length ≠ h.configuredGuestPages
  | _ => True

instance (h : Host) (e : HostEvent) : Decidable (h.Resumes config build e) := by
  unfold Resumes
  split
  · infer_instance
  · infer_instance

end Host

variable {log : List HostMessage} {h h' : Host} {w w' : World}

/-! ### The log tells what the variables hold -/

/-- The manifests of the variables are the last ones written. -/
structure Tracks (log : List HostMessage) (h : Host) : Prop where
  display : lastDisplay log = some h.displayConfig
  network : lastNetwork log = some h.networkConfig

/-- A message that is neither a manifest nor a snapshot. -/
def HostMessage.IsControl (m : HostMessage) : Prop :=
  m.display? = none ∧ m.network? = none ∧ ∀ snapshot, m ≠ .healthSnapshot snapshot

theorem HostMessage.IsShutdown.isControl {m : HostMessage} (hm : m.IsShutdown) : m.IsControl := by
  refine ⟨?_, ?_, ?_⟩
  · cases m <;> first | exact hm.elim | rfl
  · cases m <;> first | exact hm.elim | rfl
  · rintro snapshot rfl
    exact hm

theorem Agrees.concat {m : HostMessage} (ha : Agrees config build log) (hm : ∀ snapshot, m ≠ .healthSnapshot snapshot) :
    Agrees config build (log ++ [m]) :=
  History.each_concat.mpr ⟨ha, fun snapshot heq => absurd heq (hm snapshot)⟩

theorem Agrees.append {more : List HostMessage} (ha : Agrees config build log) (hmore : ∀ m ∈ more, m.IsControl) :
    Agrees config build (log ++ more) :=
  History.Each.append ha fun m hm _ snapshot heq => absurd heq ((hmore m hm).2.2 snapshot)

theorem Tracks.append {more : List HostMessage} (ht : Tracks log h) (hmore : ∀ m ∈ more, m.IsControl) :
    Tracks (log ++ more) h :=
  ⟨(lastDisplay_append fun m hm => (hmore m hm).1).trans ht.display,
    (lastNetwork_append fun m hm => (hmore m hm).2.1).trans ht.network⟩

namespace Host

/-! ### The update of the manifests -/

theorem updateDisplay_tracks {next : DisplayConfig} (ha : Agrees config build (log ++ w.written))
    (ht : Tracks (log ++ w.written) h) (hr : h.updateDisplay next w = (h', w')) :
    Agrees config build (log ++ w'.written) ∧ Tracks (log ++ w'.written) h' := by
  rcases updateDisplay_cases next h w with ⟨-, h1⟩ | ⟨outcomes, h1⟩ | ⟨text, outcomes, went, h1⟩
  all_goals
    rw [hr] at h1
    obtain ⟨rfl, rfl⟩ := Prod.mk.inj h1
  · exact ⟨ha, ht⟩
  · rw [World.written_wrote, ← List.append_assoc]
    refine ⟨ha.concat (by rintro _ ⟨⟩), lastDisplay_concat next, ?_⟩
    exact (lastNetwork_append (by simp [HostMessage.network?])).trans ht.network
  · exact ⟨ha, ht.display, ht.network⟩

theorem updateNetwork_tracks {next : NetworkConfig} (ha : Agrees config build (log ++ w.written))
    (ht : Tracks (log ++ w.written) h) (hr : h.updateNetwork next w = (h', w')) :
    Agrees config build (log ++ w'.written) ∧ Tracks (log ++ w'.written) h' := by
  rcases updateNetwork_cases next h w with ⟨-, h1⟩ | ⟨-, outcomes, h1⟩ | ⟨text, outcomes, went, h1⟩
  all_goals
    rw [hr] at h1
    obtain ⟨rfl, rfl⟩ := Prod.mk.inj h1
  · exact ⟨ha, ht⟩
  · rw [World.written_wrote, ← List.append_assoc]
    refine ⟨ha.concat (by rintro _ ⟨⟩), ?_, lastNetwork_concat next⟩
    exact (lastDisplay_append (by simp [HostMessage.display?])).trans ht.display
  · exact ⟨ha, ht.display, ht.network⟩

/-- The manifest for the network is the one for the pages that the daemon counts with. -/
def NetworkFits (config : Config) (h : Host) : Prop :=
  ∃ guestCount, guestPageCount guestCount = h.configuredGuestPages ∧ config.networkConfig guestCount = .ok h.networkConfig

theorem replaceManifests_tracks {display : DisplayConfig} {network : NetworkConfig} {pages : Nat}
    (ha : Agrees config build (log ++ w.written)) (ht : Tracks (log ++ w.written) h) :
    Agrees config build (log ++ (h.replaceManifests display network pages w).2.written) ∧
      Tracks (log ++ (h.replaceManifests display network pages w).2.written)
        (h.replaceManifests display network pages w).1 := by
  obtain ⟨ha, ht⟩ := updateDisplay_tracks ha ht (Prod.mk.eta (p := h.updateDisplay display w)).symm
  obtain ⟨ha, ht⟩ := updateNetwork_tracks ha ht
    (Prod.mk.eta (p := (h.updateDisplay display w).1.updateNetwork network (h.updateDisplay display w).2)).symm
  exact ⟨ha, ht.display, ht.network⟩

theorem updateDisplay_holds {next : DisplayConfig} (hnone : h.connectionError = none)
    (hr : h.updateDisplay next w = (h', w')) :
    h'.networkConfig = h.networkConfig ∧ h'.configuredGuestPages = h.configuredGuestPages ∧
      (h'.connectionError = none → h'.displayConfig = next) := by
  rcases updateDisplay_cases next h w with ⟨hsame, h1⟩ | ⟨outcomes, h1⟩ | ⟨text, outcomes, went, h1⟩
  all_goals
    rw [hr] at h1
    obtain ⟨rfl, rfl⟩ := Prod.mk.inj h1
  · exact ⟨rfl, rfl, fun _ => hsame.symm⟩
  · exact ⟨rfl, rfl, fun _ => rfl⟩
  · exact ⟨rfl, rfl, by rintro ⟨⟩⟩

theorem updateNetwork_holds {next : NetworkConfig} (hr : h.updateNetwork next w = (h', w')) :
    h'.displayConfig = h.displayConfig ∧ h'.configuredGuestPages = h.configuredGuestPages ∧
      ((h'.connectionError = none ∧ h.connectionError = none ∧ h'.networkConfig = next) ∨
        h'.connectionError ≠ none ∧ h'.networkConfig = h.networkConfig) := by
  rcases updateNetwork_cases next h w with ⟨hsame, h1⟩ | ⟨hnone, outcomes, h1⟩ | ⟨text, outcomes, went, h1⟩
  all_goals
    rw [hr] at h1
    obtain ⟨rfl, rfl⟩ := Prod.mk.inj h1
  · refine ⟨rfl, rfl, ?_⟩
    by_cases hnone : h'.connectionError = none
    · exact .inl ⟨hnone, hnone, (hsame hnone).symm⟩
    · exact .inr ⟨hnone, rfl⟩
  · exact ⟨rfl, rfl, .inl ⟨hnone, hnone, rfl⟩⟩
  · exact ⟨rfl, rfl, .inr ⟨by rintro ⟨⟩, rfl⟩⟩

/-- Unless a write failed, the daemon then holds the manifests it was given. -/
theorem replaceManifests_holds {display : DisplayConfig} {network : NetworkConfig} {pages : Nat}
    (hnone : h.connectionError = none) (hr : h.replaceManifests display network pages w = (h', w')) :
    (h'.connectionError = none ∧ h'.displayConfig = display ∧ h'.networkConfig = network ∧
        h'.configuredGuestPages = pages) ∨
      h'.connectionError ≠ none ∧ h'.networkConfig = h.networkConfig ∧
        h'.configuredGuestPages = h.configuredGuestPages := by
  obtain ⟨hn1, hp1, hd1⟩ := updateDisplay_holds hnone (Prod.mk.eta (p := h.updateDisplay display w)).symm
  obtain ⟨hd2, hp2, hn2⟩ := updateNetwork_holds
    (Prod.mk.eta (p := (h.updateDisplay display w).1.updateNetwork network (h.updateDisplay display w).2)).symm
  obtain ⟨rfl, rfl⟩ := Prod.mk.inj hr
  rcases hn2 with ⟨herror, herror1, hn2⟩ | ⟨herror, hn2⟩
  · exact .inl ⟨herror, hd2.trans (hd1 herror1), hn2, by simp only [herror, Option.isNone_none, ↓reduceIte]⟩
  · refine .inr ⟨herror, hn2.trans hn1, ?_⟩
    simp only [Option.isNone_iff_eq_none, if_neg herror]
    exact hp2.trans hp1

theorem guestPageCount_four_mul (guestCount : Nat) :
    guestPageCount (4 * guestPageCount guestCount) = guestPageCount guestCount := by
  simp only [guestPageCount]
  omega

/-- Behind a manifest that was written or is still held, the daemon holds the manifests for the guests. -/
theorem updateManifests_holds {guestCount : Nat} (hnone : h.connectionError = none) (hf : h.NetworkFits config)
    (hcond : h.HalfUpdated config build → guestPageCount guestCount ≠ h.configuredGuestPages)
    (hr : h.updateManifests config build guestCount w = .ok (h', w')) :
    h'.NetworkFits config ∧
      (h'.connectionError = none →
        config.displayConfig build guestCount = .ok h'.displayConfig ∧
          config.networkConfig guestCount = .ok h'.networkConfig) := by
  rcases updateManifests_eq_ok hr with ⟨hsame, heq⟩ | ⟨display, network, hd, hn, heq⟩
  · obtain ⟨rfl, rfl⟩ := Prod.mk.inj heq
    refine ⟨hf, fun _ => ⟨?_, ?_⟩⟩
    · have hfull : config.displayConfig build (4 * h'.configuredGuestPages) = .ok h'.displayConfig :=
        Decidable.not_not.mp fun hhalf => hcond hhalf hsame
      rw [← hfull, ← hsame]
      exact Config.displayConfig_congr (guestPageCount_four_mul guestCount).symm
    · obtain ⟨g, hg, hnetwork⟩ := hf
      rw [← hnetwork]
      exact Config.networkConfig_congr (hsame.trans hg.symm)
  · rcases replaceManifests_holds hnone heq.symm with ⟨-, rfl, rfl, hpages⟩ | ⟨herror, hnetwork, hpages⟩
    · exact ⟨⟨guestCount, hpages.symm, hn⟩, fun _ => ⟨hd, hn⟩⟩
    · obtain ⟨g, hg, hfits⟩ := hf
      exact ⟨⟨g, hg.trans hpages.symm, by rw [hnetwork, hfits]⟩, fun hnone => absurd hnone herror⟩

theorem updateManifests_tracks {guestCount : Nat} (ha : Agrees config build (log ++ w.written))
    (ht : Tracks (log ++ w.written) h) (hr : h.updateManifests config build guestCount w = .ok (h', w')) :
    Agrees config build (log ++ w'.written) ∧ Tracks (log ++ w'.written) h' := by
  rcases updateManifests_eq_ok hr with ⟨-, heq⟩ | ⟨display, network, -, -, heq⟩
  · obtain ⟨rfl, rfl⟩ := Prod.mk.inj heq
    exact ⟨ha, ht⟩
  · obtain ⟨rfl, rfl⟩ := Prod.mk.inj heq
    exact replaceManifests_tracks ha ht

end Host

/-! ### The whole loop -/

/-- What every phase keeps. -/
structure Consistent (config : Config) (build : SoftwareVersion) (h : Host) (log : List HostMessage) : Prop where
  agrees : Agrees config build log
  tracks : h.handshakeEstablished = true → h.manifestPending = false → Tracks log h
  network : h.NetworkFits config

namespace Consistent

/-- Messages that are neither manifests nor snapshots, and changes of other variables. -/
theorem control (hc : Consistent config build h log) {more : List HostMessage} (hmore : ∀ m ∈ more, m.IsControl)
    (hest : h'.handshakeEstablished = h.handshakeEstablished) (hpending : h'.manifestPending = h.manifestPending)
    (hd : h'.displayConfig = h.displayConfig) (hn : h'.networkConfig = h.networkConfig)
    (hp : h'.configuredGuestPages = h.configuredGuestPages) : Consistent config build h' (log ++ more) := by
  refine ⟨hc.agrees.append hmore, fun he hm => ?_, ?_⟩
  · obtain ⟨hdisplay, hnetwork⟩ := (hc.tracks (hest ▸ he) (hpending ▸ hm)).append hmore
    exact ⟨by rw [hdisplay, hd], by rw [hnetwork, hn]⟩
  · obtain ⟨g, hg, hfits⟩ := hc.network
    exact ⟨g, hg.trans hp.symm, by rw [hfits, hn]⟩

theorem sendHello (hc : Consistent config build h log) (now sentAt : Nat) (outcomes : List WriteOutcome)
    (phase : Phase) :
    Consistent config build { (h.sendHello build now sentAt (.new outcomes)).1 with phase }
      (log ++ (h.sendHello build now sentAt (.new outcomes)).2.written) := by
  have hsends := Host.sends_sendHello build now sentAt h (.new outcomes)
  obtain ⟨more, hwritten, hmore⟩ := hsends.world.written
  rw [hwritten]
  injection hsends.handshake with _ hpending hest _
  refine hc.control ?_ hest hpending ?_ ?_ ?_
  · intro m hm
    obtain ⟨rfl, -⟩ := hmore m hm
    exact ⟨rfl, rfl, by rintro _ ⟨⟩⟩
  all_goals
    rcases Host.sendHello_cases build now sentAt h (.new outcomes) with
      h1 | ⟨-, ⟨nextHello, outcomes', h1⟩ | ⟨text, outcomes', went, h1⟩⟩
    all_goals rw [h1] <;> rfl

theorem sendManifest (hc : Consistent config build h log) (outcomes : List WriteOutcome) (phase : Phase) :
    Consistent config build { (h.sendManifest (.new outcomes)).1 with phase }
      (log ++ (h.sendManifest (.new outcomes)).2.written) := by
  rcases Host.sendManifest_cases h (.new outcomes) with
    ⟨hnot, h1⟩ | ⟨⟨-, hpending⟩, ⟨text, outcomes', went, h1⟩ | ⟨outcomes', ⟨text, outcomes'', went, h1⟩ | ⟨outcomes'', h1⟩⟩⟩
  all_goals rw [h1]
  · rw [World.new, List.append_nil]
    exact ⟨hc.agrees, fun hest hno => ⟨(hc.tracks hest hno).display, (hc.tracks hest hno).network⟩, hc.network⟩
  · rw [World.written_failed, World.new, List.append_nil]
    exact ⟨hc.agrees, fun _ hno => absurd hno (by simp [Host.fail, hpending]), hc.network⟩
  · rw [World.written_failed, World.written_wrote]
    exact ⟨hc.agrees.concat (by rintro _ ⟨⟩), fun _ hno => absurd hno (by simp [Host.fail, hpending]), hc.network⟩
  · rw [World.written_wrote, World.written_wrote, World.new, List.nil_append, ← List.append_assoc]
    refine ⟨(hc.agrees.concat (by rintro _ ⟨⟩)).concat (by rintro _ ⟨⟩), fun _ _ => ⟨?_, lastNetwork_concat _⟩, hc.network⟩
    exact (lastDisplay_append (by simp [HostMessage.display?])).trans (lastDisplay_concat _)

theorem sendUpdate (hc : Consistent config build h log) (now sentAt : Nat) (outcomes : List WriteOutcome) (phase : Phase)
    (hm : h.ManifestFirst) (hu : h.phase = .update)
    (hresumes : h.Resumes config build (.update now sentAt)) :
    Consistent config build { (h.sendUpdate config build now sentAt (.new outcomes)).1 with phase }
      (log ++ (h.sendUpdate config build now sentAt (.new outcomes)).2.written) := by
  rcases Host.sendUpdate_cases config build now sentAt h (.new outcomes) with
    h1 | ⟨hdue, snapshot, hlatest, h1 | ⟨h₁, w₁, hr, h1⟩⟩
  · rw [h1]
    exact hc.control (fun _ hm => by cases hm) rfl rfl rfl rfl rfl
  · rw [h1]
    exact hc.control (fun _ hm => by cases hm) rfl rfl rfl rfl rfl
  · have hnone : h.connectionError = none := Option.isNone_iff_eq_none.mp hdue.2.1
    have htracks : Tracks log h := hc.tracks hdue.1 (hm hu hdue.1 hnone)
    have hstart : log ++ (World.new outcomes).written = log := List.append_nil log
    have hagrees : Agrees config build (log ++ (World.new outcomes).written) := hstart.symm ▸ hc.agrees
    have htaken : Tracks (log ++ (World.new outcomes).written) { h with latestHealth := none } :=
      hstart.symm ▸ ⟨htracks.display, htracks.network⟩
    obtain ⟨hagrees, htracks⟩ := Host.updateManifests_tracks hagrees htaken hr
    have hfits : { h with latestHealth := none }.NetworkFits config := hc.network
    obtain ⟨hnetwork, hholds⟩ := Host.updateManifests_holds (h := { h with latestHealth := none }) hnone hfits
      (fun hhalf => hresumes hu hdue hhalf snapshot hlatest) hr
    rcases h1 with h1 | ⟨status, incidents, -, h1⟩
    · rw [h1]
      exact ⟨hagrees, fun _ _ => ⟨htracks.display, htracks.network⟩, hnetwork⟩
    · rw [h1]
      rcases Host.sendSnapshot_cases config.host.updateInterval sentAt (snapshot.setIncidents status incidents) h₁ w₁ with
        ⟨-, h2⟩ | ⟨hnone', ⟨outcomes', h2⟩ | ⟨text, outcomes', went, h2⟩⟩
      all_goals rw [h2]
      · exact ⟨hagrees, fun _ _ => ⟨htracks.display, htracks.network⟩, hnetwork⟩
      · rw [World.written_wrote, ← List.append_assoc]
        refine ⟨History.each_concat.mpr ⟨hagrees, ?_⟩, fun _ _ => ⟨?_, ?_⟩, hnetwork⟩
        · intro sent heq
          obtain rfl := HostMessage.healthSnapshot.inj heq
          exact ⟨_, _, htracks.display, htracks.network, hholds hnone'⟩
        · exact (lastDisplay_append (by simp [HostMessage.display?])).trans htracks.display
        · exact (lastNetwork_append (by simp [HostMessage.network?])).trans htracks.network
      · exact ⟨hagrees, fun _ _ => ⟨htracks.display, htracks.network⟩, hnetwork⟩

theorem receive (hc : Consistent config build h log) (a : Arrival) (outcomes : List WriteOutcome) :
    Consistent config build (h.receive config a (.new outcomes)).1
      (log ++ (h.receive config a (.new outcomes)).2.written) := by
  rcases Host.receive_cases config a h (.new outcomes) with
    ⟨version, -, ⟨-, h1⟩ | ⟨-, h1⟩⟩ | ⟨version, session, -, -, h1⟩ | ⟨-, ⟨phase, connectionError, h1, -⟩, hworld⟩
  · rw [h1]
    exact hc.control (fun _ hm => by cases hm) rfl rfl rfl rfl rfl
  · rw [h1, World.new, List.append_nil]
    exact ⟨hc.agrees, fun _ hno => (by cases hno), hc.network⟩
  · rw [h1, World.new, List.append_nil]
    exact ⟨hc.agrees, fun hno => (by cases hno), hc.network⟩
  · obtain ⟨more, hwritten, hmore⟩ := hworld.written
    rw [hwritten, h1]
    exact hc.control (fun m hm => (hmore m hm).isControl) rfl rfl rfl rfl rfl

/-- One phase, and the messages it wrote. -/
theorem step (hc : Consistent config build h log) (hm : h.ManifestFirst) (e : HostEvent) (outcomes : List WriteOutcome)
    (hresumes : h.Resumes config build e) :
    Consistent config build (h.step config build e (.new outcomes)).1
      (log ++ (h.step config build e (.new outcomes)).2.written) := by
  have hsame : Consistent config build h (log ++ (World.new outcomes).written) := by
    rw [World.new, List.append_nil]
    exact hc
  have hempty : ∀ m ∈ (World.new outcomes).written, m.IsControl := fun _ hm => by cases hm
  unfold Host.step
  cases e with
  | collected snapshot => exact hc.control hempty rfl rfl rfl rfl rfl
  | opened result =>
    simp only
    split
    · exact hsame
    · split
      · exact hc.control hempty rfl rfl rfl rfl rfl
      · cases result with
        | none => exact hsame
        | some opened => exact ⟨hsame.agrees, fun hest => (by cases hest), hc.network⟩
  | hello now sentAt =>
    simp only
    split
    · exact hsame
    · exact hc.sendHello now sentAt outcomes _
  | manifest =>
    simp only
    split
    · exact hsame
    · exact hc.sendManifest outcomes _
  | update now sentAt =>
    simp only
    split
    · exact hsame
    · rename_i hu
      exact hc.sendUpdate now sentAt outcomes _ hm (Decidable.not_not.mp hu) hresumes
  | frame arrival =>
    simp only
    split
    · exact hsame
    · exact hc.receive arrival outcomes
  | read failed =>
    simp only
    split
    · exact hsame
    · exact hc.control hempty rfl rfl rfl rfl rfl
  | close =>
    simp only
    split
    · exact hsame
    · exact hc.control hempty rfl rfl rfl rfl rfl

theorem boot {nonce : HandshakeNonce} {now : Nat} (hb : Host.boot config build nonce now = .ok h) :
    Consistent config build h [] := by
  obtain ⟨display, network, -, hn, rfl⟩ := Host.boot_eq_ok hb
  exact ⟨History.each_nil, fun hest => (by cases hest), ⟨0, rfl, hn⟩⟩

end Consistent

/-- A port that has just been opened has no handshake. -/
theorem Host.not_established_of_opened {e : HostEvent} (hclosed : h.portOpen = false)
    (hopen : (h.step config build e w).1.portOpen = true) : (h.step config build e w).1.handshakeEstablished = false := by
  by_cases he : ∀ result, e ≠ .opened result
  · rw [portOpen_of_step he hopen] at hclosed
    cases hclosed
  · simp only [ne_eq, not_forall, not_not] at he
    obtain ⟨result, rfl⟩ := he
    unfold step at hopen ⊢
    simp only [hclosed, Bool.false_eq_true, ↓reduceIte] at hopen ⊢
    split at hopen
    · rw [hclosed] at hopen
      cases hopen
    · rename_i hphase
      rw [if_neg hphase]
      cases result with
      | none =>
        rw [show h.portOpen = true from hopen] at hclosed
        cases hclosed
      | some opened => rfl

namespace Session

theorem consistent_step {s : Session} (hs : Consistent config build s.host s.log) (hm : s.host.ManifestFirst)
    {turn : Turn} (hresumes : s.host.Resumes config build turn.event) :
    Consistent config build (s.step config build turn).host (s.step config build turn).log := by
  have hnext := hs.step hm turn.event turn.outcomes hresumes
  unfold step
  simp only
  split
  · rename_i hopened
    refine ⟨History.each_nil, fun hest => ?_, hnext.network⟩
    rw [Host.not_established_of_opened hopened.1 hopened.2] at hest
    cases hest
  · exact hnext

/-- In every run of the loop that resumes broken off updates, a snapshot that was written follows the
    manifests for its guests. -/
theorem snapshots_agree {s : Session} (hr : Transition.Reachable (Initial config build)
      (Transition.Guarded (fun s turn => s.host.Resumes config build turn.event) (step config build)) s) :
    Agrees config build s.log := by
  have hs : Consistent config build s.host s.log ∧ s.host.ManifestFirst := by
    refine hr.invariant (P := fun s => Consistent config build s.host s.log ∧ s.host.ManifestFirst) ?_ ?_
    · rintro s ⟨hlog, nonce, now, hb⟩
      obtain ⟨display, network, -, -, hhost⟩ := Host.boot_eq_ok hb
      rw [hlog]
      exact ⟨Consistent.boot hb, hhost ▸ Host.manifestFirst_new display network nonce now⟩
    · rintro s turn t - ⟨hs, hm⟩ ⟨hresumes, rfl⟩
      exact ⟨consistent_step hs hm hresumes, hm.step _ _⟩
  exact hs.1.agrees

/-! ### An update that breaks off -/

/-- The guests on the LCD and on the web. -/
def guestsTwice : Config :=
  { Config.guestsOnly with outputs := ⟨⟨⟨["guests"]⟩⟩, some ⟨true, "servatory", 80, ["guests"]⟩, none⟩ }

/-- The daemon of `guestsTwice` before its first iteration. -/
def started : Session where
  log := []
  host := .new (guestsTwice.displayManifest ⟨"1.0"⟩ 0) (guestsTwice.networkManifest 0) ⟨1⟩ 0

theorem started_initial : Initial guestsTwice ⟨"1.0"⟩ started := ⟨rfl, ⟨1⟩, 0, by decide⟩

/-- An iteration that opens the port and is answered. -/
def connect (nonce : HandshakeNonce) : List Turn :=
  [⟨.opened (some (0, nonce)), []⟩, ⟨.hello 0 0, []⟩, ⟨.manifest, []⟩, ⟨.update 0 0, []⟩,
    ⟨.frame ⟨.ok (.hello ⟨"1.0"⟩ (some nonce)), 0, ⟨none, none, []⟩⟩, []⟩, ⟨.read false, []⟩, ⟨.close, []⟩]

/-- An iteration that sends a snapshot of some guests, up to the end of its writes. -/
def report (guests : Nat) (outcomes : List WriteOutcome) : List Turn :=
  [⟨.collected (.ofGuests "pve" (List.replicate guests ⟨100, .container, .running, 0, 0, 0, "guest"⟩)), []⟩,
    ⟨.opened none, []⟩, ⟨.hello 0 0, []⟩, ⟨.manifest, []⟩, ⟨.update 0 0, outcomes⟩]

theorem snapshots_agree_reported :
    Agrees guestsTwice ⟨"1.0"⟩ ((connect ⟨7⟩ ++ report 5 []).foldl (step guestsTwice ⟨"1.0"⟩) started).log :=
  snapshots_agree (Transition.Reachable.run (.init started_initial) _ (by decide))

/-- Five guests take a second page, and the write of the network manifest fails. The next snapshot is of four
    guests, which take one page. -/
def brokenOff : List Turn :=
  connect ⟨7⟩ ++ report 5 [.written, .failed false] ++ [⟨.close, []⟩] ++ connect ⟨8⟩ ++ report 4 []

set_option maxRecDepth 2000 in
/-- It follows the manifest for two pages. -/
theorem snapshot_disagrees :
    guestsTwice.validate ⟨"1.0"⟩ = .ok () ∧
      Transition.Reachable (Initial guestsTwice ⟨"1.0"⟩) (Transition.Guarded (fun _ _ => True) (step guestsTwice ⟨"1.0"⟩))
        (brokenOff.foldl (step guestsTwice ⟨"1.0"⟩) started) ∧
      ¬Agrees guestsTwice ⟨"1.0"⟩ (brokenOff.foldl (step guestsTwice ⟨"1.0"⟩) started).log := by
  refine ⟨by decide, Transition.Reachable.run (.init started_initial) _ (by decide), fun h => ?_⟩
  have hlog : (brokenOff.foldl (step guestsTwice ⟨"1.0"⟩) started).log =
      [.hello ⟨"1.0"⟩ ⟨8⟩, .displayConfig (guestsTwice.displayManifest ⟨"1.0"⟩ 5),
        .networkConfig (guestsTwice.networkManifest 0)] ++
        .healthSnapshot (.ofGuests "pve" (List.replicate 4 ⟨100, .container, .running, 0, 0, 0, "guest"⟩)) :: [] := by
    decide
  obtain ⟨display, network, hlast, -, hdisplay, -⟩ := h _ _ _ hlog _ rfl
  have hother : (Except.ok (guestsTwice.displayManifest ⟨"1.0"⟩ 5) : Except ConfigError DisplayConfig) ≠
      guestsTwice.displayConfig ⟨"1.0"⟩ 4 := by
    decide
  obtain rfl : guestsTwice.displayManifest ⟨"1.0"⟩ 5 = display := Option.some.inj hlast
  exact hother hdisplay.symm

end Session
end Servatory
