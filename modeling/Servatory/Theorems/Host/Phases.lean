import Servatory.Theorems.Host.Writes

/-! What each phase of the daemon's loop does: which messages it writes, and what the result of a write changes. -/

namespace Servatory.Host
variable {config : Config} {build : SoftwareVersion} {h : Host} {w : World}

/-- The variables of the handshake, which sending leaves alone. -/
structure Handshake where
  portOpen : Bool
  manifestPending : Bool
  handshakeEstablished : Bool
  handshakeNonce : HandshakeNonce

def handshake (h : Host) : Handshake := ⟨h.portOpen, h.manifestPending, h.handshakeEstablished, h.handshakeNonce⟩

/-- The handshake stays as it is, and only messages with a property are written. -/
structure Sends (P : HostMessage → Prop) (h : Host) (w : World) (r : Host × World) : Prop where
  handshake : r.1.handshake = h.handshake
  world : w.Extends P r.2

theorem Sends.refl {P : HostMessage → Prop} : Sends P h w (h, w) := ⟨rfl, .refl⟩

theorem Sends.trans {P : HostMessage → Prop} {r r' : Host × World} (hr : Sends P h w r) (hr' : Sends P r.1 r.2 r') :
    Sends P h w r' :=
  ⟨hr'.handshake.trans hr.handshake, hr.world.trans hr'.world⟩

/-- A phase that could not write. -/
def fail (h : Host) (text : String) : Host := { h with connectionError := some text }

theorem boot_eq_ok {nonce : HandshakeNonce} {now : Nat} (hb : boot config build nonce now = .ok h) :
    ∃ display network, config.displayConfig build 0 = .ok display ∧ config.networkConfig 0 = .ok network ∧
      h = .new display network nonce now := by
  cases hd : config.displayConfig build 0 with
  | error e => rw [boot, hd] at hb; cases hb
  | ok display =>
    cases hn : config.networkConfig 0 with
    | error e => rw [boot, hd, hn] at hb; cases hb
    | ok network =>
      rw [boot, hd, hn] at hb
      exact ⟨display, network, rfl, rfl, (Except.ok.inj hb).symm⟩

theorem sendHello_cases (build : SoftwareVersion) (now sentAt : Nat) (h : Host) (w : World) :
    h.sendHello build now sentAt w = (h, w) ∨
      h.handshakeEstablished = false ∧
        ((∃ nextHello outcomes, h.sendHello build now sentAt w =
          ({ h with nextHello }, w.wrote outcomes (.hello build h.handshakeNonce))) ∨
        ∃ text outcomes went, h.sendHello build now sentAt w =
          (h.fail text, w.failed outcomes went (.hello build h.handshakeNonce))) := by
  unfold sendHello
  split
  · rename_i hdue
    refine .inr ⟨by simpa using hdue.1, ?_⟩
    rcases writeHostMessage_cases (.hello build h.handshakeNonce) w with ⟨outcomes, hw⟩ | ⟨error, outcomes, went, hw⟩
    · rw [hw]
      exact .inl ⟨_, outcomes, rfl⟩
    · rw [hw]
      exact .inr ⟨_, outcomes, went, rfl⟩
  · exact .inl rfl

theorem sendManifest_cases (h : Host) (w : World) :
    (¬(h.handshakeEstablished ∧ h.manifestPending) ∧ h.sendManifest w = (h, w)) ∨
      (h.handshakeEstablished ∧ h.manifestPending) ∧
        ((∃ text outcomes went, h.sendManifest w =
          (h.fail text, w.failed outcomes went (.displayConfig h.displayConfig))) ∨
        ∃ outcomes, (∃ text outcomes' went, h.sendManifest w =
            (h.fail text, (w.wrote outcomes (.displayConfig h.displayConfig)).failed outcomes' went
              (.networkConfig h.networkConfig))) ∨
          ∃ outcomes', h.sendManifest w =
            ({ h with manifestPending := false },
              (w.wrote outcomes (.displayConfig h.displayConfig)).wrote outcomes'
                (.networkConfig h.networkConfig))) := by
  unfold sendManifest
  split
  · rename_i hpending
    refine .inr ⟨hpending, ?_⟩
    rcases writeHostMessage_cases (.displayConfig h.displayConfig) w with ⟨outcomes, hw⟩ | ⟨error, outcomes, went, hw⟩
    · rw [hw]
      refine .inr ⟨outcomes, ?_⟩
      rcases writeHostMessage_cases (.networkConfig h.networkConfig) (w.wrote outcomes (.displayConfig h.displayConfig))
        with ⟨outcomes', hw'⟩ | ⟨error, outcomes', went, hw'⟩
      · simp only [hw']
        exact .inr ⟨outcomes', rfl⟩
      · simp only [hw']
        exact .inl ⟨_, outcomes', went, rfl⟩
    · rw [hw]
      exact .inl ⟨_, outcomes, went, rfl⟩
  · rename_i hpending
    exact .inl ⟨hpending, rfl⟩

theorem updateDisplay_cases (next : DisplayConfig) (h : Host) (w : World) :
    (next = h.displayConfig ∧ h.updateDisplay next w = (h, w)) ∨
      (∃ outcomes, h.updateDisplay next w = ({ h with displayConfig := next }, w.wrote outcomes (.displayConfig next))) ∨
      ∃ text outcomes went, h.updateDisplay next w = (h.fail text, w.failed outcomes went (.displayConfig next)) := by
  unfold updateDisplay
  split
  · rcases writeHostMessage_cases (.displayConfig next) w with ⟨outcomes, hw⟩ | ⟨error, outcomes, went, hw⟩
    · rw [hw]
      exact .inr (.inl ⟨outcomes, rfl⟩)
    · rw [hw]
      exact .inr (.inr ⟨_, outcomes, went, rfl⟩)
  · rename_i hsame
    exact .inl ⟨Decidable.not_not.mp hsame, rfl⟩

theorem updateNetwork_cases (next : NetworkConfig) (h : Host) (w : World) :
    ((h.connectionError = none → next = h.networkConfig) ∧ h.updateNetwork next w = (h, w)) ∨
      (h.connectionError = none ∧ ∃ outcomes,
        h.updateNetwork next w = ({ h with networkConfig := next }, w.wrote outcomes (.networkConfig next))) ∨
      ∃ text outcomes went, h.updateNetwork next w = (h.fail text, w.failed outcomes went (.networkConfig next)) := by
  unfold updateNetwork
  split
  · rename_i hnone
    rcases writeHostMessage_cases (.networkConfig next) w with ⟨outcomes, hw⟩ | ⟨error, outcomes, went, hw⟩
    · rw [hw]
      exact .inr (.inl ⟨Option.isNone_iff_eq_none.mp hnone.1, outcomes, rfl⟩)
    · rw [hw]
      exact .inr (.inr ⟨_, outcomes, went, rfl⟩)
  · rename_i hsame
    refine .inl ⟨fun hnone => ?_, rfl⟩
    by_contra hne
    exact hsame ⟨by rw [hnone]; rfl, hne⟩

theorem sendSnapshot_cases (updateInterval sentAt : Nat) (snapshot : HealthSnapshot) (h : Host) (w : World) :
    (h.connectionError ≠ none ∧ h.sendSnapshot updateInterval sentAt snapshot w = (h, w)) ∨
      h.connectionError = none ∧
        ((∃ outcomes, h.sendSnapshot updateInterval sentAt snapshot w =
          ({ h with nextUpdate := sentAt + updateInterval * 1000 }, w.wrote outcomes (.healthSnapshot snapshot))) ∨
        ∃ text outcomes went, h.sendSnapshot updateInterval sentAt snapshot w =
          (h.fail text, w.failed outcomes went (.healthSnapshot snapshot))) := by
  unfold sendSnapshot
  split
  · rename_i hnone
    refine .inr ⟨by simpa using hnone, ?_⟩
    rcases writeHostMessage_cases (.healthSnapshot snapshot) w with ⟨outcomes, hw⟩ | ⟨error, outcomes, went, hw⟩
    · rw [hw]
      exact .inl ⟨outcomes, rfl⟩
    · rw [hw]
      exact .inr ⟨_, outcomes, went, rfl⟩
  · rename_i herror
    exact .inl ⟨fun hnone => herror (by rw [hnone]; rfl), rfl⟩

/-- The page count is the same, or both manifests are compiled and replace those that are held. -/
theorem updateManifests_eq_ok {guestCount : Nat} {r : Host × World}
    (hr : h.updateManifests config build guestCount w = .ok r) :
    (guestPageCount guestCount = h.configuredGuestPages ∧ r = (h, w)) ∨
      ∃ display network, config.displayConfig build guestCount = .ok display ∧
        config.networkConfig guestCount = .ok network ∧
        r = h.replaceManifests display network (guestPageCount guestCount) w := by
  unfold updateManifests at hr
  split at hr
  · cases hd : config.displayConfig build guestCount with
    | error e => rw [hd] at hr; cases hr
    | ok display =>
      cases hn : config.networkConfig guestCount with
      | error e => rw [hd, hn] at hr; cases hr
      | ok network =>
        rw [hd, hn] at hr
        exact .inr ⟨display, network, rfl, rfl, (Except.ok.inj hr).symm⟩
  · rename_i hsame
    exact .inl ⟨Decidable.not_not.mp hsame, (Except.ok.inj hr).symm⟩

/-! ### What an update sends -/

/-- A manifest or a snapshot. -/
def IsData : HostMessage → Prop
  | .displayConfig _ => True
  | .networkConfig _ => True
  | .healthSnapshot _ => True
  | _ => False

theorem sends_sendHello (build : SoftwareVersion) (now sentAt : Nat) (h : Host) (w : World) :
    Sends (fun m => m = .hello build h.handshakeNonce ∧ h.handshakeEstablished = false) h w
      (h.sendHello build now sentAt w) := by
  rcases sendHello_cases build now sentAt h w with h1 | ⟨hest, ⟨nextHello, outcomes, h1⟩ | ⟨text, outcomes, went, h1⟩⟩
  all_goals rw [h1]
  · exact .refl
  · exact ⟨rfl, w.extends_wrote outcomes _ ⟨rfl, hest⟩⟩
  · exact ⟨rfl, w.extends_failed outcomes went _ ⟨rfl, hest⟩⟩

theorem sends_updateDisplay (next : DisplayConfig) (h : Host) (w : World) :
    Sends IsData h w (h.updateDisplay next w) := by
  rcases updateDisplay_cases next h w with ⟨-, h1⟩ | ⟨outcomes, h1⟩ | ⟨text, outcomes, went, h1⟩
  all_goals rw [h1]
  · exact .refl
  · exact ⟨rfl, w.extends_wrote outcomes _ trivial⟩
  · exact ⟨rfl, w.extends_failed outcomes went _ trivial⟩

theorem sends_updateNetwork (next : NetworkConfig) (h : Host) (w : World) :
    Sends IsData h w (h.updateNetwork next w) := by
  rcases updateNetwork_cases next h w with ⟨-, h1⟩ | ⟨-, outcomes, h1⟩ | ⟨text, outcomes, went, h1⟩
  all_goals rw [h1]
  · exact .refl
  · exact ⟨rfl, w.extends_wrote outcomes _ trivial⟩
  · exact ⟨rfl, w.extends_failed outcomes went _ trivial⟩

theorem sends_replaceManifests (display : DisplayConfig) (network : NetworkConfig) (pages : Nat) (h : Host)
    (w : World) : Sends IsData h w (h.replaceManifests display network pages w) := by
  have hsends := (sends_updateDisplay display h w).trans (sends_updateNetwork network _ _)
  exact ⟨hsends.handshake, hsends.world⟩

theorem sends_updateManifests {guestCount : Nat} {r : Host × World}
    (hr : h.updateManifests config build guestCount w = .ok r) : Sends IsData h w r := by
  rcases updateManifests_eq_ok hr with ⟨-, rfl⟩ | ⟨display, network, -, -, rfl⟩
  · exact .refl
  · exact sends_replaceManifests display network _ h w

theorem sends_sendSnapshot (updateInterval sentAt : Nat) (snapshot : HealthSnapshot) (h : Host) (w : World) :
    Sends IsData h w (h.sendSnapshot updateInterval sentAt snapshot w) := by
  rcases sendSnapshot_cases updateInterval sentAt snapshot h w with
    ⟨-, h1⟩ | ⟨-, ⟨outcomes, h1⟩ | ⟨text, outcomes, went, h1⟩⟩
  all_goals rw [h1]
  · exact .refl
  · exact ⟨rfl, w.extends_wrote outcomes _ trivial⟩
  · exact ⟨rfl, w.extends_failed outcomes went _ trivial⟩

/-- A snapshot that is not due stays; one that is due is sent behind its manifests, or the process ends. -/
theorem sendUpdate_cases (config : Config) (build : SoftwareVersion) (now sentAt : Nat) (h : Host) (w : World) :
    h.sendUpdate config build now sentAt w = (h, w) ∨
      h.Due now ∧ ∃ snapshot, h.latestHealth = some snapshot ∧
        (h.sendUpdate config build now sentAt w = ({ h with phase := .stopped }, w) ∨
          ∃ h₁ w₁, { h with latestHealth := none }.updateManifests config build snapshot.guests.guests.length w =
              .ok (h₁, w₁) ∧
            (h.sendUpdate config build now sentAt w = ({ h₁ with phase := .stopped }, w₁) ∨
              ∃ status incidents, config.evaluateHealth snapshot = some (status, incidents) ∧
                h.sendUpdate config build now sentAt w = h₁.sendSnapshot config.host.updateInterval sentAt
                  (snapshot.setIncidents status incidents) w₁)) := by
  unfold sendUpdate
  split
  · rename_i hdue
    split
    · exact .inl rfl
    · rename_i snapshot hlatest
      refine .inr ⟨hdue, snapshot, hlatest, ?_⟩
      split
      · exact .inl rfl
      · rename_i h₁ w₁ hr
        refine .inr ⟨h₁, w₁, hr, ?_⟩
        split
        · exact .inl rfl
        · rename_i hreport
          exact .inr ⟨_, _, hreport, rfl⟩
  · exact .inl rfl

theorem sends_sendUpdate (now sentAt : Nat) (h : Host) (w : World) :
    Sends IsData h w (h.sendUpdate config build now sentAt w) := by
  rcases sendUpdate_cases config build now sentAt h w with
    h1 | ⟨-, snapshot, -, h1 | ⟨h₁, w₁, hr, h1 | ⟨status, incidents, -, h1⟩⟩⟩
  all_goals rw [h1]
  · exact .refl
  · exact ⟨rfl, .refl⟩
  · exact ⟨(sends_updateManifests hr).handshake, (sends_updateManifests hr).world⟩
  · have hsends : Sends IsData h w (h₁, w₁) := ⟨(sends_updateManifests hr).handshake, (sends_updateManifests hr).world⟩
    exact hsends.trans (sends_sendSnapshot _ _ _ _ _)

/-! ### What a frame does -/

/-- An acknowledgement of the current nonce establishes the handshake anew, any other Hello ends it, and no other
    frame touches it. -/
theorem receive_cases (config : Config) (a : Arrival) (h : Host) (w : World) :
    (∃ version, a.frame = .ok (.hello version (some h.handshakeNonce)) ∧
      ((h.handshakeEstablished ∧ h.receive config a w = (h, w)) ∨
        h.handshakeEstablished = false ∧ h.receive config a w =
          ({ h with handshakeEstablished := true, manifestPending := true, nextUpdate := a.now }, w))) ∨
      (∃ version session, a.frame = .ok (.hello version session) ∧ session ≠ some h.handshakeNonce ∧
        h.receive config a w = ({ h with handshakeEstablished := false, nextHello := a.now }, w)) ∨
      (∀ version session, a.frame ≠ .ok (.hello version session)) ∧
        (∃ phase connectionError, (h.receive config a w).1 = { h with phase, connectionError } ∧
          (phase = h.phase ∨ phase = .closing ∨ phase = .stopped)) ∧
        w.Extends HostMessage.IsShutdown (h.receive config a w).2 := by
  unfold receive
  split
  · rename_i version session hframe
    split
    · rename_i hack
      refine .inl ⟨version, by rw [hframe, hack], ?_⟩
      split
      · rename_i hest
        exact .inl ⟨hest, rfl⟩
      · rename_i hest
        exact .inr ⟨by simpa using hest, rfl⟩
    · rename_i hack
      exact .inr (.inl ⟨version, session, hframe, hack, rfl⟩)
  · rename_i message hnot hframe
    refine .inr (.inr ⟨fun version session heq => ?_, ?_⟩)
    · rw [hframe] at heq
      exact hnot version session (Except.ok.inj heq)
    · split
      · have hworld := OnlyWrites.handle config.actions.shutdown.enabled a.host message w
        split
        · rename_i stop w' hr
          rw [hr] at hworld
          refine ⟨?_, hworld⟩
          cases stop with
          | true => exact ⟨.stopped, h.connectionError, rfl, .inr (.inr rfl)⟩
          | false => exact ⟨h.phase, h.connectionError, rfl, .inl rfl⟩
        · rename_i error w' hr
          rw [hr] at hworld
          exact ⟨⟨.closing, _, rfl, .inr (.inl rfl)⟩, hworld⟩
      · exact ⟨⟨h.phase, h.connectionError, rfl, .inl rfl⟩, .refl⟩
  · rename_i error hframe
    refine .inr (.inr ⟨fun version session heq => ?_, ⟨h.phase, h.connectionError, rfl, .inl rfl⟩, .refl⟩)
    rw [hframe] at heq
    cases heq

theorem step_frame (hphase : h.phase = .reading) (a : Arrival) (w : World) :
    h.step config build (.frame a) w = h.receive config a w := by
  simp only [step, hphase, ne_eq, not_true_eq_false, ↓reduceIte]

theorem step_opened (hphase : h.phase = .opening) (hclosed : h.portOpen = false) (now : Nat) (nonce : HandshakeNonce)
    (w : World) : h.step config build (.opened (some (now, nonce))) w = (h.reopen now nonce, w) := by
  simp only [step, hphase, hclosed, ne_eq, not_true_eq_false, ↓reduceIte, Bool.false_eq_true, Option.elim_some]

/-! ### Whose Hello is sent -/

/-- A Hello carries the nonce. -/
def OwnHello (nonce : HandshakeNonce) (m : HostMessage) : Prop := ∀ version session, m = .hello version session → session = nonce

theorem IsData.ownHello {m : HostMessage} (hm : IsData m) (nonce : HandshakeNonce) : OwnHello nonce m := by
  rintro version session rfl
  exact hm.elim

theorem sendManifest_handshake (h : Host) (w : World) :
    (h.sendManifest w).1.handshakeNonce = h.handshakeNonce ∧
      (h.sendManifest w).1.handshakeEstablished = h.handshakeEstablished ∧ w.Extends IsData (h.sendManifest w).2 := by
  rcases sendManifest_cases h w with
    ⟨-, h1⟩ | ⟨-, ⟨text, outcomes, went, h1⟩ | ⟨outcomes, ⟨text, outcomes', went, h1⟩ | ⟨outcomes', h1⟩⟩⟩
  all_goals rw [h1]
  · exact ⟨rfl, rfl, .refl⟩
  · exact ⟨rfl, rfl, w.extends_failed outcomes went _ trivial⟩
  · exact ⟨rfl, rfl, (w.extends_wrote outcomes _ trivial).trans (World.extends_failed _ outcomes' went _ trivial)⟩
  · exact ⟨rfl, rfl, (w.extends_wrote outcomes _ trivial).trans (World.extends_wrote _ outcomes' _ trivial)⟩

/-- Without a message to take, the handshake stands, and every Hello that is sent carries its nonce. -/
theorem step_internal {e : HostEvent} (he : e.isInternal) (h : Host) (w : World) :
    (h.step config build e w).1.handshakeNonce = h.handshakeNonce ∧
      (h.step config build e w).1.handshakeEstablished = h.handshakeEstablished ∧
      w.Extends (OwnHello h.handshakeNonce) (h.step config build e w).2 := by
  have hsame : h.handshakeNonce = h.handshakeNonce ∧ h.handshakeEstablished = h.handshakeEstablished ∧
      w.Extends (OwnHello h.handshakeNonce) w := ⟨rfl, rfl, .refl⟩
  unfold step
  cases e with
  | collected snapshot => exact hsame
  | opened result =>
    cases result with
    | some opened => cases he
    | none =>
      simp only
      split
      · exact hsame
      · split
        · exact hsame
        · exact hsame
  | hello now sentAt =>
    simp only
    split
    · exact hsame
    · have hsends := sends_sendHello build now sentAt h w
      injection hsends.handshake with _ _ hest hnonce
      refine ⟨hnonce, hest, hsends.world.mono fun m hm => ?_⟩
      rintro version session heq
      rw [hm.1] at heq
      exact (HostMessage.hello.inj heq).2.symm
  | manifest =>
    simp only
    split
    · exact hsame
    · obtain ⟨hnonce, hest, hworld⟩ := sendManifest_handshake h w
      exact ⟨hnonce, hest, hworld.mono fun m hm => hm.ownHello _⟩
  | update now sentAt =>
    simp only
    split
    · exact hsame
    · have hsends : Sends IsData h w (h.sendUpdate config build now sentAt w) := sends_sendUpdate now sentAt h w
      injection hsends.handshake with _ _ hest hnonce
      exact ⟨hnonce, hest, hsends.world.mono fun m hm => hm.ownHello _⟩
  | frame a =>
    obtain ⟨frame, now, host⟩ := a
    cases frame with
    | ok message => cases he
    | error error =>
      simp only
      split
      · exact hsame
      · exact hsame
  | read failed =>
    simp only
    split
    · exact hsame
    · exact hsame
  | close =>
    simp only
    split
    · exact hsame
    · exact hsame

/-! ### The port -/

theorem portOpen_sendManifest (h : Host) (w : World) : (h.sendManifest w).1.portOpen = h.portOpen := by
  rcases sendManifest_cases h w with
    ⟨-, h1⟩ | ⟨-, ⟨text, outcomes, went, h1⟩ | ⟨outcomes, ⟨text, outcomes', went, h1⟩ | ⟨outcomes', h1⟩⟩⟩
  all_goals rw [h1] <;> rfl

theorem portOpen_receive (config : Config) (a : Arrival) (h : Host) (w : World) :
    (h.receive config a w).1.portOpen = h.portOpen := by
  rcases receive_cases config a h w with
    ⟨version, -, ⟨-, h1⟩ | ⟨-, h1⟩⟩ | ⟨version, session, -, -, h1⟩ | ⟨-, ⟨phase, connectionError, h1, -⟩, -⟩
  all_goals rw [h1]

theorem portOpen_of_handshake {r : Host × World} (hr : r.1.handshake = h.handshake) : r.1.portOpen = h.portOpen :=
  congrArg Handshake.portOpen hr

/-- Only opening the port opens it. -/
theorem portOpen_of_step {e : HostEvent} (he : ∀ result, e ≠ .opened result)
    (hopen : (h.step config build e w).1.portOpen = true) : h.portOpen = true := by
  unfold step at hopen
  cases e with
  | opened result => exact absurd rfl (he result)
  | collected snapshot => exact hopen
  | hello now sentAt =>
    simp only at hopen
    split at hopen
    · exact hopen
    · rwa [← portOpen_of_handshake (sends_sendHello build now sentAt h w).handshake]
  | manifest =>
    simp only at hopen
    split at hopen
    · exact hopen
    · rwa [← portOpen_sendManifest h w]
  | update now sentAt =>
    simp only at hopen
    split at hopen
    · exact hopen
    · rwa [← portOpen_of_handshake (sends_sendUpdate now sentAt h w).handshake]
  | frame a =>
    simp only at hopen
    split at hopen
    · exact hopen
    · rwa [← portOpen_receive config a h w]
  | read failed =>
    simp only at hopen
    split at hopen
    · exact hopen
    · exact hopen
  | close =>
    simp only at hopen
    split at hopen
    · exact hopen
    · exact (Bool.and_eq_true_iff.mp hopen).1

/-! ### The manifests come first -/

/-- An update with an established handshake and no error so far has its manifests written. -/
def ManifestFirst (h : Host) : Prop :=
  h.phase = .update → h.handshakeEstablished = true → h.connectionError = none → h.manifestPending = false

theorem manifestFirst_of_phase (hphase : h.phase ≠ .update) : h.ManifestFirst := fun hu => absurd hu hphase

theorem manifestFirst_new (display : DisplayConfig) (network : NetworkConfig) (nonce : HandshakeNonce) (now : Nat) :
    (new display network nonce now).ManifestFirst := by
  rintro ⟨⟩

theorem manifestFirst_sendManifest (phase : Phase) (h : Host) (w : World) :
    { (h.sendManifest w).1 with phase }.ManifestFirst := by
  rcases sendManifest_cases h w with
    ⟨hnot, h1⟩ | ⟨-, ⟨text, outcomes, went, h1⟩ | ⟨outcomes, ⟨text, outcomes', went, h1⟩ | ⟨outcomes', h1⟩⟩⟩
  all_goals rw [h1]
  · exact fun _ hest _ => Bool.eq_false_iff.mpr fun hpending => hnot ⟨hest, hpending⟩
  · exact fun _ _ hnone => by cases hnone
  · exact fun _ _ hnone => by cases hnone
  · exact fun _ _ _ => rfl

theorem manifestFirst_receive (config : Config) (a : Arrival) (w : World) (hphase : h.phase = .reading) :
    (h.receive config a w).1.ManifestFirst := by
  refine manifestFirst_of_phase ?_
  rcases receive_cases config a h w with
    ⟨version, -, ⟨-, h1⟩ | ⟨-, h1⟩⟩ | ⟨version, session, -, -, h1⟩ | ⟨-, ⟨phase, connectionError, h1, hcase⟩, -⟩
  all_goals rw [h1]
  · exact fun hu => by rw [hphase] at hu; cases hu
  · exact fun hu => by rw [hphase] at hu; cases hu
  · exact fun hu => by rw [hphase] at hu; cases hu
  · rcases hcase with rfl | rfl | rfl
    · exact fun hu => by rw [hphase] at hu; cases hu
    · rintro ⟨⟩
    · rintro ⟨⟩

theorem ManifestFirst.step (hm : h.ManifestFirst) (e : HostEvent) (w : World) :
    (h.step config build e w).1.ManifestFirst := by
  unfold Host.step
  cases e with
  | collected snapshot => exact hm
  | opened result =>
    simp only
    split
    · exact hm
    · split
      · exact manifestFirst_of_phase (by rintro ⟨⟩)
      · cases result with
        | none => exact hm
        | some opened => exact manifestFirst_of_phase (by rintro ⟨⟩)
  | hello now sentAt =>
    simp only
    split
    · exact hm
    · exact manifestFirst_of_phase (by simp only [proceed]; split <;> decide)
  | manifest =>
    simp only
    split
    · exact hm
    · exact manifestFirst_sendManifest _ h w
  | update now sentAt =>
    simp only
    split
    · exact hm
    · refine manifestFirst_of_phase ?_
      simp only [proceed]
      split
      · decide
      · split <;> decide
  | frame arrival =>
    simp only
    split
    · exact hm
    · rename_i hreading
      exact manifestFirst_receive config arrival w (Decidable.not_not.mp hreading)
  | read failed =>
    simp only
    split
    · exact hm
    · exact manifestFirst_of_phase (by rintro ⟨⟩)
  | close =>
    simp only
    split
    · exact hm
    · exact manifestFirst_of_phase (by rintro ⟨⟩)

end Servatory.Host
