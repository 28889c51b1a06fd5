import Servatory.Lib.Except
import Servatory.Lib.Heartbeat
import Servatory.Theorems.Host.Phases
import Servatory.Theorems.System.Authenticity
import Servatory.Timing

/-! A daemon that reports in time stays connected. The snapshots of a run without faults are heartbeats: the next one
    is due an update interval behind the last, and the Stick reads it within the latency. Neither staleness limit of
    the Stick is reached while both together are shorter than it. -/

namespace Servatory

/-- The report comes from the rules of the daemon alone. -/
def HealthSnapshot.Reported (s : HealthSnapshot) : Prop := ∀ incident ∈ s.activeIncidents, ∃ id, incident.id = .rule id

theorem Config.evaluateHealth_rule {config : Config} {snapshot : HealthSnapshot} {status : HealthReport}
    {incidents : List Incident} (h : config.evaluateHealth snapshot = some (status, incidents)) :
    ∀ incident ∈ incidents, ∃ id, incident.id = .rule id := by
  obtain ⟨found, hfound, h⟩ := Option.bind_eq_some_iff.mp h
  obtain ⟨-, rfl⟩ := Prod.mk.inj (Option.some.inj h)
  intro incident hi
  obtain ⟨rule, -, hrule⟩ := Option.mem_of_mapM hfound incident hi
  obtain ⟨id, -, rfl⟩ := Option.map_eq_some_iff.mp hrule
  exact ⟨id, rfl⟩

/-! ### The schedule of the daemon -/

namespace Host
variable {config : Config} {build : SoftwareVersion} {h : Host} {w : World}

/-- When the next snapshot may be sent, and the one that waits. -/
def schedule (h : Host) : Nat × Option HealthSnapshot := (h.nextUpdate, h.latestHealth)

theorem schedule_sendHello (build : SoftwareVersion) (now sentAt : Nat) (h : Host) (w : World) :
    (h.sendHello build now sentAt w).1.schedule = h.schedule := by
  rcases sendHello_cases build now sentAt h w with h1 | ⟨-, ⟨nextHello, outcomes, h1⟩ | ⟨text, outcomes, went, h1⟩⟩
  all_goals rw [h1] <;> rfl

theorem schedule_sendManifest (h : Host) (w : World) : (h.sendManifest w).1.schedule = h.schedule := by
  rcases sendManifest_cases h w with
    ⟨-, h1⟩ | ⟨-, ⟨text, outcomes, went, h1⟩ | ⟨outcomes, ⟨text, outcomes', went, h1⟩ | ⟨outcomes', h1⟩⟩⟩
  all_goals rw [h1] <;> rfl

theorem schedule_updateDisplay (next : DisplayConfig) (h : Host) (w : World) :
    (h.updateDisplay next w).1.schedule = h.schedule := by
  rcases updateDisplay_cases next h w with ⟨-, h1⟩ | ⟨outcomes, h1⟩ | ⟨text, outcomes, went, h1⟩
  all_goals rw [h1] <;> rfl

theorem schedule_updateNetwork (next : NetworkConfig) (h : Host) (w : World) :
    (h.updateNetwork next w).1.schedule = h.schedule := by
  rcases updateNetwork_cases next h w with ⟨-, h1⟩ | ⟨-, outcomes, h1⟩ | ⟨text, outcomes, went, h1⟩
  all_goals rw [h1] <;> rfl

theorem schedule_updateManifests {guestCount : Nat} {r : Host × World}
    (hr : h.updateManifests config build guestCount w = .ok r) : r.1.schedule = h.schedule := by
  rcases updateManifests_eq_ok hr with ⟨-, rfl⟩ | ⟨display, network, -, -, rfl⟩
  · rfl
  · exact (schedule_updateNetwork network _ _).trans (schedule_updateDisplay display h w)

/-- No snapshot is among what is written. -/
abbrev SendsNoSnapshot (h : Host) (w : World) (r : Host × World) : Prop :=
  r.1.schedule = h.schedule ∧ w.Extends (fun m => m.isSnapshot = false) r.2

/-- A snapshot that was due is written last, and the next is due a period later. -/
def SendsSnapshot (config : Config) (h : Host) (w : World) (e : HostEvent) (r : Host × World) : Prop :=
  ∃ now sentAt, e = .update now sentAt ∧ h.latestHealth.isSome ∧ r.1.schedule = (sentAt + config.period, none) ∧
    ∃ snapshot w' outcomes, snapshot.Reported ∧ w.Extends (fun m => m.isSnapshot = false) w' ∧
      r.2 = w'.wrote outcomes (.healthSnapshot snapshot)

theorem sendHello_noSnapshot (build : SoftwareVersion) (now sentAt : Nat) (h : Host) (w : World) :
    SendsNoSnapshot h w (h.sendHello build now sentAt w) := by
  refine ⟨schedule_sendHello build now sentAt h w, (sends_sendHello build now sentAt h w).world.mono ?_⟩
  rintro m ⟨rfl, -⟩
  rfl

theorem sendManifest_noSnapshot (h : Host) (w : World) : SendsNoSnapshot h w (h.sendManifest w) := by
  refine ⟨schedule_sendManifest h w, ?_⟩
  rcases sendManifest_cases h w with
    ⟨-, h1⟩ | ⟨-, ⟨text, outcomes, went, h1⟩ | ⟨outcomes, ⟨text, outcomes', went, h1⟩ | ⟨outcomes', h1⟩⟩⟩
  all_goals rw [h1]
  · exact .refl
  · exact w.extends_failed outcomes went _ rfl
  · exact (World.extends_wrote (P := fun m => m.isSnapshot = false) w outcomes _ rfl).trans (World.extends_failed _ outcomes' went _ rfl)
  · exact (World.extends_wrote (P := fun m => m.isSnapshot = false) w outcomes _ rfl).trans (World.extends_wrote _ outcomes' _ rfl)

theorem receive_noSnapshot {a : Arrival} (h : Host) (w : World) (he : h.handshakeEstablished = true) :
    SendsNoSnapshot h w (h.receive config a w) := by
  rcases receive_cases config a h w with
    ⟨version, -, ⟨-, h1⟩ | ⟨hoff, -⟩⟩ | ⟨version, session, -, -, h1⟩ | ⟨-, ⟨phase, connectionError, h1, -⟩, hw⟩
  · rw [h1]
    exact ⟨rfl, .refl⟩
  · rw [he] at hoff
    cases hoff
  · rw [h1]
    exact ⟨rfl, .refl⟩
  · refine ⟨by rw [h1]; rfl, hw.mono fun m hm => ?_⟩
    cases m <;> first | rfl | exact hm.elim

theorem updateManifests_noSnapshot {guestCount : Nat} {r : Host × World}
    (hr : h.updateManifests config build guestCount w = .ok r) : SendsNoSnapshot h w r := by
  refine ⟨schedule_updateManifests hr, ?_⟩
  rcases updateManifests_eq_ok hr with ⟨-, rfl⟩ | ⟨display, network, -, -, rfl⟩
  · exact .refl
  · have hdisplay : w.Extends (fun m => m.isSnapshot = false) (h.updateDisplay display w).2 := by
      rcases updateDisplay_cases display h w with ⟨-, h1⟩ | ⟨outcomes, h1⟩ | ⟨text, outcomes, went, h1⟩
      all_goals rw [h1]
      · exact .refl
      · exact w.extends_wrote outcomes _ rfl
      · exact w.extends_failed outcomes went _ rfl
    refine hdisplay.trans ?_
    show World.Extends _ _ ((h.updateDisplay display w).1.updateNetwork network (h.updateDisplay display w).2).2
    rcases updateNetwork_cases network (h.updateDisplay display w).1 (h.updateDisplay display w).2 with
      ⟨-, h1⟩ | ⟨-, outcomes, h1⟩ | ⟨text, outcomes, went, h1⟩
    all_goals rw [h1]
    · exact .refl
    · exact World.extends_wrote _ outcomes _ rfl
    · exact World.extends_failed _ outcomes went _ rfl

/-- An update that neither fails nor ends the process sends the snapshot that is due. -/
theorem sendUpdate_snapshot {now sentAt : Nat} (hphase : (h.sendUpdate config build now sentAt w).1.phase ≠ .stopped)
    (herror : (h.sendUpdate config build now sentAt w).1.connectionError = none) :
    SendsNoSnapshot h w (h.sendUpdate config build now sentAt w) ∨
      SendsSnapshot config h w (.update now sentAt) (h.sendUpdate config build now sentAt w) := by
  rcases sendUpdate_cases config build now sentAt h w with
    h1 | ⟨-, snapshot, hlatest, h1 | ⟨h₁, w₁, hr, h1 | ⟨status, incidents, hreport, h1⟩⟩⟩
  · rw [h1]
    exact .inl ⟨rfl, .refl⟩
  · rw [h1] at hphase
    exact absurd rfl hphase
  · rw [h1] at hphase
    exact absurd rfl hphase
  · obtain ⟨hschedule, hworld⟩ := updateManifests_noSnapshot hr
    rcases sendSnapshot_cases config.host.updateInterval sentAt (snapshot.setIncidents status incidents) h₁ w₁ with
      ⟨hfailed, h2⟩ | ⟨-, ⟨outcomes, h2⟩ | ⟨text, outcomes, went, h2⟩⟩
    · rw [h1, h2] at herror
      exact absurd herror hfailed
    · rw [h1, h2]
      refine .inr ⟨now, sentAt, rfl, by rw [hlatest]; rfl, ?_, _, w₁, outcomes, ?_, hworld, rfl⟩
      · exact congrArg (Prod.mk (sentAt + config.period)) (congrArg Prod.snd hschedule)
      · exact Config.evaluateHealth_rule hreport
    · rw [h1, h2] at herror
      cases herror

theorem ne_stopped_of_proceed {phase : Phase} {r : Host × World} (h : (proceed phase r).1.phase ≠ .stopped) :
    r.1.phase ≠ .stopped := by
  intro hstopped
  exact h (if_pos hstopped)

/-- A phase of a daemon that keeps running writes no snapshot, unless it is the update that sends one. -/
theorem step_snapshot {e : HostEvent} (hcollected : ∀ snapshot, e ≠ .collected snapshot)
    (hopened : ∀ opened, e ≠ .opened (some opened)) (he : h.handshakeEstablished = true)
    (hrun : (h.step config build e w).1.Running) :
    SendsNoSnapshot h w (h.step config build e w) ∨ SendsSnapshot config h w e (h.step config build e w) := by
  have hsame : SendsNoSnapshot h w (h, w) := ⟨rfl, .refl⟩
  obtain ⟨-, herror, hphase⟩ := hrun
  unfold step at herror hphase ⊢
  cases e with
  | collected snapshot => exact absurd rfl (hcollected snapshot)
  | opened result =>
    cases result with
    | some opened => exact absurd rfl (hopened opened)
    | none =>
      simp only
      split
      · exact .inl hsame
      · split
        · exact .inl hsame
        · exact .inl hsame
  | hello now sentAt =>
    simp only
    split
    · exact .inl hsame
    · exact .inl (sendHello_noSnapshot build now sentAt h w)
  | manifest =>
    simp only
    split
    · exact .inl hsame
    · exact .inl (sendManifest_noSnapshot h w)
  | update now sentAt =>
    simp only at herror hphase ⊢
    split
    · exact .inl hsame
    · rename_i hupdate
      rw [if_neg hupdate] at herror hphase
      exact sendUpdate_snapshot (ne_stopped_of_proceed hphase) herror
  | frame a =>
    simp only
    split
    · exact .inl hsame
    · exact .inl (receive_noSnapshot h w he)
  | read failed =>
    simp only
    split
    · exact .inl hsame
    · exact .inl hsame
  | close =>
    simp only
    split
    · exact .inl hsame
    · exact .inl hsame

end Host

/-! ### What the Stick reads -/

namespace Stick
variable {build : SoftwareVersion} {s : Stick}

/-- The Stick is in a session, and once it is connected its loop and the network tasks agree on the last snapshot. -/
structure Live (s : Stick) : Prop where
  session : s.daemonSession.isSome
  linked : s.daemon ≠ .stale
  connected : s.daemon = .connected → s.lastUpdate = s.network.lastUpdate

theorem Live.congr {t : Stick} (h : Live s) (hc : t.core = s.core) : Live t := by
  refine ⟨?_, ?_, ?_⟩
  · rw [daemonSession_of_core hc]
    exact h.session
  · rw [daemon_of_core hc]
    exact h.linked
  · rw [daemon_of_core hc, lastUpdate_of_core hc, network_of_core hc]
    exact h.connected

/-- The snapshot that the network tasks have, with the time it was read. -/
def shown (s : Stick) : Option HealthSnapshot × Option Nat := (s.network.snapshot, s.network.lastUpdate)

theorem shown_of_core {t : Stick} (hc : t.core = s.core) : t.shown = s.shown := by
  rw [shown, network_of_core hc, shown]

/-- No snapshot is among what has been read. -/
def ReadsNoSnapshot (s t : Stick) : Prop := t.shown = s.shown ∧ (t.daemon = .connected → s.daemon = .connected)

theorem shown_updateManifest (state : SharedState) (manifest : NetworkConfig) :
    (state.updateManifest manifest).snapshot = state.snapshot ∧
      (state.updateManifest manifest).lastUpdate = state.lastUpdate := by
  unfold SharedState.updateManifest
  simp only
  split
  · exact ⟨rfl, rfl⟩
  · exact ⟨rfl, rfl⟩

theorem receive_of_session {m : HostMessage} (hs : s.daemonSession.isSome) (hm : ∀ version session, m ≠ .hello version session)
    (now : Nat) : s.receive build now (.ok m) = s.handleSession now m := by
  have hsession : ¬s.daemonSession.isNone = true := by
    rw [Option.isNone_iff_eq_none]
    exact Option.isSome_iff_ne_none.mp hs
  cases m with
  | hello version session => exact absurd rfl (hm version session)
  | _ => exact if_neg hsession

/-- A message to a Stick in a session. -/
theorem receive_live (h : Live s) (now : Nat) (m : HostMessage) :
    Live (s.receive build now (.ok m)) ∧
      (m.isSnapshot = false ∧ ReadsNoSnapshot s (s.receive build now (.ok m)) ∨
        ∃ snapshot, m = .healthSnapshot snapshot ∧ (s.receive build now (.ok m)).shown = (some snapshot, some now)) := by
  cases m with
  | hello version session => exact ⟨⟨rfl, by rintro ⟨⟩, by rintro ⟨⟩⟩, .inl ⟨rfl, rfl, by rintro ⟨⟩⟩⟩
  | healthSnapshot snapshot =>
    rw [receive_of_session h.session (by rintro _ _ ⟨⟩)]
    exact ⟨⟨h.session, by rintro ⟨⟩, fun _ => rfl⟩, .inr ⟨snapshot, rfl, rfl⟩⟩
  | displayConfig config =>
    rw [receive_of_session h.session (by rintro _ _ ⟨⟩)]
    exact ⟨⟨h.session, h.linked, h.connected⟩, .inl ⟨rfl, rfl, id⟩⟩
  | networkConfig config =>
    obtain ⟨hsnapshot, hupdate⟩ := shown_updateManifest s.network config
    rw [receive_of_session h.session (by rintro _ _ ⟨⟩)]
    refine ⟨⟨h.session, h.linked, fun hc => (h.connected hc).trans hupdate.symm⟩, .inl ⟨rfl, ?_, id⟩⟩
    exact Prod.ext hsnapshot hupdate
  | shutdownAccepted =>
    rw [receive_of_session h.session (by rintro _ _ ⟨⟩)]
    exact ⟨⟨h.session, by rintro ⟨⟩, by rintro ⟨⟩⟩, .inl ⟨rfl, rfl, by rintro ⟨⟩⟩⟩
  | shutdownProgress phase guestsTotal guestsRemaining =>
    rw [receive_of_session h.session (by rintro _ _ ⟨⟩)]
    exact ⟨⟨h.session, by rintro ⟨⟩, by rintro ⟨⟩⟩, .inl ⟨rfl, rfl, by rintro ⟨⟩⟩⟩
  | shutdownFailed reason guestsRemaining =>
    rw [receive_of_session h.session (by rintro _ _ ⟨⟩)]
    exact ⟨⟨h.session, by rintro ⟨⟩, by rintro ⟨⟩⟩, .inl ⟨rfl, rfl, by rintro ⟨⟩⟩⟩

/-- The messages of an iteration to a Stick in a session. -/
theorem receiveAll_live (h : Live s) {now : Nat} {messages : List HostMessage} {t : Stick}
    (ht : t = (messages.map .ok).foldl (fun s frame => s.receive build now frame) s) :
    Live t ∧
      ((∀ m ∈ messages, m.isSnapshot = false) ∧ ReadsNoSnapshot s t ∨
        ∃ snapshot, .healthSnapshot snapshot ∈ messages ∧ t.shown = (some snapshot, some now)) := by
  induction messages generalizing s with
  | nil =>
    obtain rfl : t = s := ht
    exact ⟨h, .inl ⟨by simp, rfl, id⟩⟩
  | cons m rest ih =>
    obtain ⟨hm, hread⟩ := @receive_live build s h now m
    obtain ⟨hrest, hreads⟩ := ih hm ht
    refine ⟨hrest, ?_⟩
    rcases hreads with ⟨hnone, hsame, hback⟩ | ⟨snapshot, hmem, hshown⟩
    · rcases hread with ⟨hno, hsame', hback'⟩ | ⟨snapshot, rfl, hshown⟩
      · exact .inl ⟨List.forall_mem_cons.mpr ⟨hno, hnone⟩, hsame.trans hsame', fun hc => hback' (hback hc)⟩
      · exact .inr ⟨snapshot, List.mem_cons_self .., hsame.trans hshown⟩
    · exact .inr ⟨snapshot, List.mem_cons_of_mem _ hmem, hshown⟩

/-- A Stick in a session whose last snapshot is recent stays in it, whatever an iteration reads. -/
theorem iterate_live (h : Live s) {i : Input} {messages : List HostMessage} (hframes : i.frames = messages.map .ok)
    (hrecent : s.daemon = .connected → (∀ m ∈ messages, m.isSnapshot = false) →
      ∃ updated, s.network.lastUpdate = some updated ∧ i.now < updated + linkTimeout) :
    Live (s.iterate build i).1 ∧
      ((∀ m ∈ messages, m.isSnapshot = false) ∧ ReadsNoSnapshot s (s.iterate build i).1 ∨
        ∃ snapshot, .healthSnapshot snapshot ∈ messages ∧ (s.iterate build i).1.shown = (some snapshot, some i.now)) := by
  have hbegin : (s.begin build i).core = s.core := core_begin build s i
  have hdaemon : (s.begin build i).daemon = s.daemon := daemon_of_core hbegin
  have hshown : (s.begin build i).shown = s.shown := shown_of_core hbegin
  have hreceived : s.received build i = (messages.map .ok).foldl (fun s frame => s.receive build i.now frame)
      (s.begin build i) := by
    rw [received, hframes]
  obtain ⟨hlive, hread⟩ := receiveAll_live (h.congr hbegin) hreceived
  have hin : ¬(s.received build i).TimesOut i.now := by
    rintro ⟨hconnected, hold⟩
    rw [hlive.connected hconnected] at hold
    rcases hread with ⟨hnone, hsame, hback⟩ | ⟨snapshot, -, hnow⟩
    · obtain ⟨updated, hupdated, hlt⟩ := hrecent (hdaemon ▸ hback hconnected) hnone
      have hlast : (s.received build i).network.lastUpdate = some updated :=
        (congrArg Prod.snd (hsame.trans hshown)).trans hupdated
      rw [hlast, Option.any_some, decide_eq_true_eq] at hold
      unfold linkTimeout at hold hlt
      omega
    · have hlast : (s.received build i).network.lastUpdate = some i.now := congrArg Prod.snd hnow
      rw [hlast, Option.any_some, decide_eq_true_eq, linkTimeout] at hold
      omega
  have hcore : (s.iterate build i).1.core = (s.received build i).core := by
    rw [core_iterate, update, core_finish, checkLink, if_neg hin]
  refine ⟨hlive.congr hcore, ?_⟩
  rw [ReadsNoSnapshot, daemon_of_core hcore, shown_of_core hcore]
  rcases hread with ⟨hnone, hsame, hback⟩ | hnow
  · exact .inl ⟨hnone, hsame.trans hshown, fun hc => hdaemon ▸ hback hc⟩
  · exact .inr hnow

/-- An iteration that reads nothing, a long time after the last update. -/
theorem iterate_timeout {i : Input} {updated : Nat} (hframes : i.frames = []) (hconnected : s.daemon = .connected)
    (hupdated : s.lastUpdate = some updated) (hold : updated + linkTimeout ≤ i.now) :
    (s.iterate build i).1.daemon = .stale ∧ (s.iterate build i).1.network = s.network := by
  have hreceived : (s.received build i).core = s.core := by
    rw [received, hframes]
    exact core_begin build s i
  have hout : (s.received build i).TimesOut i.now := by
    rw [TimesOut, daemon_of_core hreceived, lastUpdate_of_core hreceived, hupdated, Option.any_some, decide_eq_true_eq]
    exact ⟨hconnected, by omega⟩
  have hcore : (s.iterate build i).1.core = ((s.received build i).checkLink i.now).core := by
    rw [core_iterate, update, core_finish]
  constructor
  · rw [daemon_of_core hcore, daemon_checkLink, if_pos hout]
  · rw [network_of_core hcore, network_checkLink, network_of_core hreceived]

end Stick

theorem mem_activeIncidents_of_stale {now updated : Nat} {state : SharedState} (h : state.lastUpdate = some updated)
    (hold : updated + hostStaleAfter ≤ now) : hostOffline ∈ activeIncidents now state := by
  have hstale : (snapshotAge now state).all (fun age => age ≥ hostStaleAfter) = true := by
    rw [snapshotAge, h, Option.map_some, Option.all_some, decide_eq_true_eq]
    omega
  unfold activeIncidents
  rw [if_pos hstale]
  exact List.mem_cons_self ..

/-! ### The run -/

namespace Timed
variable {config : Config} {daemon firmware : SoftwareVersion} {latency : Nat} {t : Timed}

/-- The snapshots of a run as heartbeats. What the Stick had from an earlier session counts for none. -/
def heartbeat (t : Timed) : Heartbeat where
  now := t.clock
  deadline := t.system.host.nextUpdate
  unread := t.unreadSince
  heard := if t.served then t.system.stick.network.lastUpdate else none

/-- What every step of a run without faults keeps. -/
structure Sound (config : Config) (latency : Nat) (t : Timed) : Prop where
  running : t.system.host.Running
  live : t.system.stick.Live
  reported : ∀ snapshot, .healthSnapshot snapshot ∈ t.system.toStick → snapshot.Reported
  clock : t.clock ≤ t.collectAt
  collectAt : t.collectAt ≤ t.clock + config.period
  unread : t.unreadSince.isSome = t.system.toStick.any (·.isSnapshot)
  fresh : t.served = true ∨ t.unreadSince.isSome = true → t.heartbeat.Fresh config.period latency ∧
    (t.system.host.latestHealth = none → t.collectAt ≤ t.system.host.nextUpdate)
  shown : t.served = true → ∃ snapshot updated, t.system.stick.shown = (some snapshot, some updated) ∧ snapshot.Reported
  connected : t.system.stick.daemon = .connected → t.served = true

namespace Sound

theorem start (hs : Start config t) : Sound config latency t where
  running := hs.running
  live := by
    refine ⟨by rw [hs.session]; rfl, ?_, ?_⟩
    · rw [hs.waiting]
      decide
    · rw [hs.waiting]
      rintro ⟨⟩
  reported snapshot hm := by cases hs.unsent _ hm
  clock := hs.clock
  collectAt := hs.collectAt
  unread := by
    rw [hs.unread]
    exact (List.any_eq_false.mpr fun m hm => by rw [hs.unsent m hm]; decide).symm
  fresh h := by
    rw [hs.unread, hs.served] at h
    simp at h
  shown h := by
    rw [hs.served] at h
    cases h
  connected h := by
    rw [hs.waiting] at h
    cases h

theorem wait (h : Sound config latency t) {micros : Nat} (hw : t.CanWait latency micros) :
    Sound config latency { t with clock := t.clock + micros } where
  running := h.running
  live := h.live
  reported := h.reported
  clock := hw.1
  collectAt := Nat.le_trans h.collectAt (Nat.add_le_add_right (Nat.le_add_right _ _) _)
  unread := h.unread
  fresh hbegun := by
    obtain ⟨hfresh, hdue⟩ := h.fresh hbegun
    refine ⟨hfresh.wait (Nat.le_add_right _ _) ?_ ?_, hdue⟩
    · show t.clock + micros ≤ t.system.host.nextUpdate
      cases hlatest : t.system.host.latestHealth with
      | none => exact Nat.le_trans hw.1 (hdue hlatest)
      | some snapshot =>
        have hsoon := hw.2.1 (by rw [hlatest]; rfl)
        have hahead : t.clock ≤ t.system.host.nextUpdate := hfresh.due
        rwa [Nat.max_eq_left hahead] at hsoon
    · intro sent (hsent : t.unreadSince = some sent)
      have hread := hw.2.2
      rwa [hsent, Option.all_some, decide_eq_true_eq] at hread
  shown := h.shown
  connected := h.connected

/-- The collector leaves a snapshot. -/
theorem collect (h : Sound config latency t) {host : Host} (hschedule : host.nextUpdate = t.system.host.nextUpdate)
    (hlatest : host.latestHealth ≠ none) (hrun : host.Running) :
    Sound config latency { t with system := { t.system with host }, collectAt := t.clock + config.period } where
  running := hrun
  live := h.live
  reported := h.reported
  clock := Nat.le_add_right _ _
  collectAt := Nat.le_refl _
  unread := h.unread
  fresh hbegun := by
    have hsame : Timed.heartbeat { t with system := { t.system with host }, collectAt := t.clock + config.period } =
        t.heartbeat := by
      simp only [heartbeat, hschedule]
    rw [hsame]
    exact ⟨(h.fresh hbegun).1, fun hnone => absurd hnone hlatest⟩
  shown := h.shown
  connected := h.connected

theorem any_snapshot_append {messages more : List HostMessage} (h : ∀ m ∈ more, m.isSnapshot = false) :
    (messages ++ more).any (·.isSnapshot) = messages.any (·.isSnapshot) := by
  have hnone : more.any (·.isSnapshot) = false := List.any_eq_false.mpr fun m hm => by rw [h m hm]; decide
  rw [List.any_append, hnone, Bool.or_false]

/-- A phase that sends no snapshot. -/
theorem noSnapshot (h : Sound config latency t) {system : System} {more : List HostMessage}
    (hschedule : system.host.schedule = t.system.host.schedule) (hto : system.toStick = t.system.toStick ++ more)
    (hmore : ∀ m ∈ more, m.isSnapshot = false) (hstick : system.stick = t.system.stick) (hrun : system.host.Running) :
    Sound config latency { t with system, unreadSince := t.unreadSince } where
  running := hrun
  live := hstick ▸ h.live
  reported snapshot hm := by
    rw [hto] at hm
    rcases List.mem_append.mp hm with hm | hm
    · exact h.reported snapshot hm
    · cases hmore _ hm
  clock := h.clock
  collectAt := h.collectAt
  unread := by
    show t.unreadSince.isSome = system.toStick.any (·.isSnapshot)
    rw [hto, any_snapshot_append hmore]
    exact h.unread
  fresh hbegun := by
    obtain ⟨hnext, hlatest⟩ := Prod.mk.inj hschedule
    have hsame : Timed.heartbeat { t with system } = t.heartbeat := by
      simp only [heartbeat, hnext, hstick]
    rw [hsame]
    show _ ∧ (system.host.latestHealth = none → t.collectAt ≤ system.host.nextUpdate)
    rw [hnext, hlatest]
    exact h.fresh hbegun
  shown := hstick ▸ h.shown
  connected := hstick ▸ h.connected

/-- The update that sends a snapshot. -/
theorem sends (h : Sound config latency t) {system : System} {more : List HostMessage} {snapshot : HealthSnapshot}
    (hschedule : system.host.schedule = (t.clock + config.period, none))
    (hto : system.toStick = t.system.toStick ++ (more ++ [.healthSnapshot snapshot]))
    (hmore : ∀ m ∈ more, m.isSnapshot = false) (hreported : snapshot.Reported) (hstick : system.stick = t.system.stick)
    (hrun : system.host.Running) :
    Sound config latency { t with system, unreadSince := t.unreadSince.or (some t.clock) } where
  running := hrun
  live := hstick ▸ h.live
  reported other hm := by
    rw [hto] at hm
    rcases List.mem_append.mp hm with hm | hm
    · exact h.reported other hm
    · rcases List.mem_append.mp hm with hm | hm
      · cases hmore _ hm
      · obtain rfl := HostMessage.healthSnapshot.inj (List.mem_singleton.mp hm)
        exact hreported
  clock := h.clock
  collectAt := h.collectAt
  unread := by
    have hany : system.toStick.any (·.isSnapshot) = true := by
      rw [hto]
      exact List.any_eq_true.mpr ⟨.healthSnapshot snapshot, by simp, rfl⟩
    show (t.unreadSince.or (some t.clock)).isSome = system.toStick.any (·.isSnapshot)
    rw [hany, Option.isSome_or]
    exact Bool.or_true _
  fresh _ := by
    obtain ⟨hnext, hlatest⟩ := Prod.mk.inj hschedule
    have hbeat : Timed.heartbeat { t with system, unreadSince := t.unreadSince.or (some t.clock) } =
        { t.heartbeat with
          deadline := t.clock + config.period
          unread := t.heartbeat.unread.or (some t.heartbeat.now) } := by
      simp only [heartbeat, hnext, hstick]
    refine ⟨?_, fun _ => ?_⟩
    · rw [hbeat]
      by_cases hbegun : t.served = true ∨ t.unreadSince.isSome = true
      · exact (h.fresh hbegun).1.beat
      · -- This is the first snapshot of the run.
        obtain ⟨hserved, hunread⟩ := not_or.mp hbegun
        refine .first ?_ ?_ rfl
        · show t.unreadSince.or (some t.clock) = some t.clock
          rw [Option.not_isSome_iff_eq_none.mp hunread, Option.none_or]
        · exact if_neg hserved
    · show t.collectAt ≤ system.host.nextUpdate
      rw [hnext]
      exact h.collectAt
  shown := hstick ▸ h.shown
  connected := hstick ▸ h.connected

theorem host (h : Sound config latency t) {e : HostEvent} (hcollected : ∀ snapshot, e ≠ .collected snapshot)
    (hopened : ∀ opened, e ≠ .opened (some opened)) (htime : ∀ now sentAt, e = .update now sentAt → sentAt = t.clock)
    {system : System} (hhost : system.host = (t.system.host.step config daemon e (.new [])).1)
    (hto : system.toStick = t.system.toStick ++ (t.system.host.step config daemon e (.new [])).2.sent)
    (hstick : system.stick = t.system.stick) (hrun : system.host.Running) :
    Sound config latency
      { t with
        system
        unreadSince := if system.toStick.any (·.isSnapshot) then t.unreadSince.or (some t.clock) else none } := by
  rw [hhost] at hrun
  rcases Host.step_snapshot hcollected hopened h.running.1 hrun with
    ⟨hschedule, hworld⟩ | ⟨now, sentAt, rfl, -, hschedule, snapshot, w, outcomes, hreported, hworld, hw⟩
  · obtain ⟨more, hsent, hmore⟩ := hworld.sent
    have hsent : (t.system.host.step config daemon e (.new [])).2.sent = more := hsent
    rw [hsent] at hto
    have hsame : (if system.toStick.any (·.isSnapshot) then t.unreadSince.or (some t.clock) else none) =
        t.unreadSince := by
      rw [hto, any_snapshot_append hmore, ← h.unread]
      cases t.unreadSince <;> rfl
    rw [hsame]
    exact h.noSnapshot (hhost ▸ hschedule) hto hmore hstick (hhost ▸ hrun)
  · obtain ⟨more, hsent, hmore⟩ := hworld.sent
    have hsent : w.sent = more := hsent
    obtain rfl := htime now sentAt rfl
    rw [hw, World.wrote, hsent] at hto
    have hany : system.toStick.any (·.isSnapshot) = true := by
      rw [hto]
      exact List.any_eq_true.mpr ⟨.healthSnapshot snapshot, by simp, rfl⟩
    rw [if_pos hany]
    exact h.sends (hhost ▸ hschedule) hto hmore hreported hstick (hhost ▸ hrun)

theorem unread_eq_none (h : Sound config latency t) (hnone : ∀ m ∈ t.system.toStick, m.isSnapshot = false) :
    t.unreadSince = none := by
  have hany : t.system.toStick.any (·.isSnapshot) = false :=
    List.any_eq_false.mpr fun m hm => by rw [hnone m hm]; decide
  have hunread := h.unread
  rw [hany] at hunread
  exact Option.isNone_iff_eq_none.mp (by rw [← Option.not_isSome, hunread]; rfl)

/-- A connected Stick without anything left to read has had a snapshot within a period. -/
theorem recent (h : Sound config latency t) (hconnected : t.system.stick.daemon = .connected)
    (hnone : ∀ m ∈ t.system.toStick, m.isSnapshot = false) :
    ∃ updated, t.system.stick.network.lastUpdate = some updated ∧ t.clock ≤ updated + config.period := by
  have hserved := h.connected hconnected
  obtain ⟨snapshot, updated, hshown, -⟩ := h.shown hserved
  have hupdated : t.system.stick.network.lastUpdate = some updated := congrArg Prod.snd hshown
  have hheard : t.heartbeat.heard = some updated := (if_pos hserved).trans hupdated
  exact ⟨updated, hupdated, (h.fresh (.inl hserved)).1.age_le_of_read hheard (h.unread_eq_none hnone)⟩

/-- An iteration of the Stick, which does not time out. -/
theorem iterate (h : Sound config latency t) (hperiod : config.period < linkTimeout) {i : Input} (hnow : i.now = t.clock)
    (hframes : i.frames = t.system.toStick.map .ok) {system : System} (hhost : system.host = t.system.host)
    (hstick : system.stick = (t.system.stick.iterate firmware i).1) (hto : system.toStick = []) :
    Sound config latency
      { t with system, unreadSince := none, served := t.served || t.system.toStick.any (·.isSnapshot) } := by
  obtain ⟨hlive, hread⟩ := @Stick.iterate_live firmware _ h.live _ _ hframes fun hconnected hnone => by
    obtain ⟨updated, hupdated, hle⟩ := h.recent hconnected hnone
    exact ⟨updated, hupdated, by omega⟩
  have hunsent : system.toStick.any (·.isSnapshot) = false := by rw [hto]; rfl
  have hreported : ∀ snapshot, .healthSnapshot snapshot ∈ system.toStick → snapshot.Reported := by
    rw [hto]
    rintro snapshot ⟨⟩
  rcases hread with ⟨hnone, hsame, hback⟩ | ⟨snapshot, hmem, hshown⟩
  · have hany : t.system.toStick.any (·.isSnapshot) = false :=
      List.any_eq_false.mpr fun m hm => by rw [hnone m hm]; decide
    have hunread := h.unread_eq_none hnone
    rw [hany, Bool.or_false]
    rw [← hstick] at hlive hsame hback
    have hbeat : Timed.heartbeat { t with system, unreadSince := none } = t.heartbeat := by
      have hupdate : system.stick.network.lastUpdate = t.system.stick.network.lastUpdate := congrArg Prod.snd hsame
      simp only [heartbeat, hhost, hupdate, hunread]
    refine ⟨hhost ▸ h.running, hlive, hreported, h.clock, h.collectAt, hunsent.symm, fun hbegun => ?_, ?_,
      fun hc => h.connected (hback hc)⟩
    · rw [hbeat, hhost]
      exact h.fresh (hbegun.imp_right fun hsome => by cases hsome)
    · rw [hsame]
      exact h.shown
  · have hany : t.system.toStick.any (·.isSnapshot) = true := List.any_eq_true.mpr ⟨_, hmem, rfl⟩
    rw [hany, Bool.or_true]
    rw [← hstick] at hlive hshown
    have hbeat : Timed.heartbeat { t with system, unreadSince := none, served := true } =
        { t.heartbeat with unread := none, heard := some t.heartbeat.now } := by
      have hupdate : system.stick.network.lastUpdate = some t.clock := (congrArg Prod.snd hshown).trans (by rw [hnow])
      simp only [heartbeat, hhost, hupdate, ↓reduceIte]
    obtain ⟨hfresh, hdue⟩ := h.fresh (.inr (h.unread.trans hany))
    refine ⟨hhost ▸ h.running, hlive, hreported, h.clock, h.collectAt, hunsent.symm, fun _ => ?_, fun _ => ?_,
      fun _ => rfl⟩
    · rw [hbeat, hhost]
      exact ⟨hfresh.read, hdue⟩
    · exact ⟨snapshot, i.now, hshown, h.reported snapshot hmem⟩

theorem phase (h : Sound config latency t) {event : HostEvent} (htimely : t.Timely (.phase event []))
    (hrun : (t.system.next config daemon firmware (.phase event [])).host.Running) :
    Sound config latency (t.next config daemon firmware (.act (.phase event []))) := by
  cases event with
  | collected snapshot =>
    have hsame : (if t.system.toStick.any (·.isSnapshot) then t.unreadSince.or (some t.clock) else none) = t.unreadSince := by
      rw [← h.unread]
      cases t.unreadSince <;> rfl
    have heq : t.next config daemon firmware (.act (.phase (.collected snapshot) [])) =
        { t with
          system := { t.system with host := { t.system.host with latestHealth := some snapshot } }
          collectAt := t.clock + config.period } := by
      simp only [Timed.next, System.next, System.hostStep, Host.step, World.new, List.append_nil, hsame, nextCollect,
        serves]
    rw [heq]
    exact h.collect rfl (by simp) hrun
  | opened result =>
    cases result with
    | some opened => exact htimely.elim
    | none => exact h.host (by rintro _ ⟨⟩) (by rintro _ ⟨⟩) (by rintro _ _ ⟨⟩) rfl rfl rfl hrun
  | hello now sentAt => exact h.host (by rintro _ ⟨⟩) (by rintro _ ⟨⟩) (by rintro _ _ ⟨⟩) rfl rfl rfl hrun
  | manifest => exact h.host (by rintro _ ⟨⟩) (by rintro _ ⟨⟩) (by rintro _ _ ⟨⟩) rfl rfl rfl hrun
  | update now sentAt =>
    refine h.host (by rintro _ ⟨⟩) (by rintro _ ⟨⟩) ?_ rfl rfl rfl hrun
    rintro _ _ ⟨⟩
    exact htimely.2
  | frame arrival => exact htimely.elim
  | read failed => exact h.host (by rintro _ ⟨⟩) (by rintro _ ⟨⟩) (by rintro _ _ ⟨⟩) rfl rfl rfl hrun
  | close => exact h.host (by rintro _ ⟨⟩) (by rintro _ ⟨⟩) (by rintro _ _ ⟨⟩) rfl rfl rfl hrun

theorem next (h : Sound config latency t) (hperiod : config.period < linkTimeout) {a : TimedAction}
    (ha : t.Allowed config daemon firmware latency a) : Sound config latency (t.next config daemon firmware a) := by
  cases a with
  | wait micros => exact h.wait ha
  | act action =>
    obtain ⟨htimely, hallowed, hrun⟩ := ha
    cases action with
    | phase event outcomes =>
      cases outcomes with
      | nil => exact h.phase htimely hrun
      | cons outcome rest =>
        have hnever : ¬t.Timely (.phase event (outcome :: rest)) := by
          unfold Timely
          split <;> simp_all
        exact absurd htimely hnever
    | opened now nonce toStick toHost => exact htimely.elim
    | frame now host outcomes =>
      cases outcomes with
      | cons outcome rest => exact htimely.elim
      | nil =>
        cases hto : t.system.toHost with
        | nil => exact absurd hto hallowed.2
        | cons o rest =>
          have hnext : t.system.next config daemon firmware (.frame now host []) =
              { t.system with toHost := rest }.hostStep config daemon (.frame ⟨.ok o.message, now, host⟩) [] := by
            simp only [System.next, hto]
          rw [hnext] at hrun
          simp only [Timed.next, hnext]
          exact h.host (by rintro _ ⟨⟩) (by rintro _ ⟨⟩) (by rintro _ _ ⟨⟩) rfl rfl rfl hrun
    | restart now nonce toStick toHost => exact htimely.elim
    | iterate input =>
      obtain ⟨hnow, hframes⟩ := htimely
      have hmessages : input.messages = t.system.toStick := by
        rw [Input.messages, hframes, List.filterMap_map]
        exact List.filterMap_some
      have hto : (t.system.next config daemon firmware (.iterate input)).toStick = [] := by
        show t.system.toStick.drop input.messages.length = []
        rw [hmessages, List.drop_length]
      have hunread : (if (t.system.next config daemon firmware (.iterate input)).toStick.any (·.isSnapshot) then
          t.unreadSince.or (some t.clock) else none) = none := by
        rw [hto]
        rfl
      simp only [Timed.next, hunread]
      exact h.iterate hperiod hnow hframes rfl rfl hto
    | reboot network now toStick toHost => exact htimely.elim

end Sound

theorem sound (hperiod : config.period < linkTimeout) (hr : Reachable config daemon firmware latency t) :
    Sound config latency t := by
  refine hr.invariant (P := Sound config latency) ?_ ?_
  · exact fun t hs => Sound.start hs
  · rintro t a t' - h ⟨ha, rfl⟩
    exact h.next hperiod ha

/-- The Stick reports no loss of the host. -/
def Unlost (t : Timed) : Prop :=
  ∀ incident ∈ activeIncidents t.clock t.system.stick.network, incident.id ≠ .stick .hostOffline

theorem Sound.unlost (h : Sound config latency t) (hstale : config.period + latency < hostStaleAfter)
    (hserved : t.served = true) : t.Unlost := by
  obtain ⟨snapshot, updated, hshown, hreported⟩ := h.shown hserved
  obtain ⟨hsnapshot, hupdated⟩ := Prod.mk.inj hshown
  have hheard : t.heartbeat.heard = some updated := (if_pos hserved).trans hupdated
  have hage : t.clock ≤ updated + config.period + latency := (h.fresh (.inl hserved)).1.age_le hheard
  have hyoung : ¬t.clock - updated ≥ hostStaleAfter := by omega
  intro incident hi
  unfold activeIncidents at hi
  simp only [snapshotAge, hupdated, hsnapshot, Option.map_some, Option.all_some, decide_eq_true_eq, if_neg hyoung,
    Option.getD_some] at hi
  obtain ⟨id, hid⟩ := hreported incident hi
  rw [hid]
  rintro ⟨⟩

/-- A snapshot has just been sent and read. -/
structure JustServed (config : Config) (t : Timed) : Prop where
  running : t.system.host.Running
  nextUpdate : t.system.host.nextUpdate = t.clock + config.period
  connected : t.system.stick.daemon = .connected
  lastUpdate : t.system.stick.lastUpdate = some t.clock
  shown : t.system.stick.network.lastUpdate = some t.clock
  toStick : t.system.toStick = []
  unread : t.unreadSince = none
  clock : t.clock ≤ t.collectAt
  collectAt : t.collectAt ≤ t.clock + config.period

/-- Until the link times out nothing more needs to be sent when the interval is long. -/
theorem JustServed.idle (h : JustServed config t) (hr : Reachable config daemon firmware latency t)
    (hslow : linkTimeout ≤ config.period) :
    ∃ t', Reachable config daemon firmware latency t' ∧ t'.clock = t.clock + linkTimeout ∧
      t'.system.stick = t.system.stick ∧ t'.system.toStick = [] ∧ t'.system.host.Running := by
  by_cases hsoon : t.collectAt ≤ t.clock + linkTimeout
  · -- The snapshot that is collected in the meantime is not due yet.
    have hclock := h.clock
    have hnext := h.nextUpdate
    have hwait : t.CanWait latency (t.collectAt - t.clock) := by
      refine ⟨by omega, fun _ => by omega, ?_⟩
      rw [h.unread]
      rfl
    let snapshot := HealthSnapshot.ofGuests "pve" []
    let u := t.next config daemon firmware (.wait (t.collectAt - t.clock))
    have hcollect : u.Allowed config daemon firmware latency (.act (.phase (.collected snapshot) [])) := by
      refine ⟨?_, rfl, h.running⟩
      show t.clock + (t.collectAt - t.clock) = t.collectAt
      omega
    let v := u.next config daemon firmware (.act (.phase (.collected snapshot) []))
    have hempty : v.system.toStick = [] := by
      show t.system.toStick ++ [] = []
      rw [h.toStick]
      rfl
    have hwait' : v.CanWait latency (t.clock + linkTimeout - t.collectAt) := by
      have hv : v.clock = t.collectAt := Nat.add_sub_of_le hclock
      have hvcollect : v.collectAt = u.clock + config.period := rfl
      have hu : u.clock = t.collectAt := hv
      have hvnext : v.system.host.nextUpdate = t.clock + config.period := hnext
      refine ⟨by omega, fun _ => by omega, ?_⟩
      have hnone : v.unreadSince = none := by
        show (if v.system.toStick.any (·.isSnapshot) then _ else none) = none
        rw [hempty]
        rfl
      rw [hnone]
      rfl
    have hu : Reachable config daemon firmware latency u := .step (a := .wait (t.collectAt - t.clock)) hr ⟨hwait, rfl⟩
    have hv : Reachable config daemon firmware latency v := .step hu ⟨hcollect, rfl⟩
    have hw : Reachable config daemon firmware latency (v.next config daemon firmware
        (.wait (t.clock + linkTimeout - t.collectAt))) :=
      .step (a := .wait (t.clock + linkTimeout - t.collectAt)) hv ⟨hwait', rfl⟩
    refine ⟨_, hw, ?_, rfl, hempty, h.running⟩
    show t.clock + (t.collectAt - t.clock) + (t.clock + linkTimeout - t.collectAt) = t.clock + linkTimeout
    omega
  · have hnext := h.nextUpdate
    have hwait : t.CanWait latency linkTimeout := by
      refine ⟨by omega, fun _ => by omega, ?_⟩
      rw [h.unread]
      rfl
    exact ⟨t.next config daemon firmware (.wait linkTimeout), .step (a := .wait linkTimeout) hr ⟨hwait, rfl⟩, rfl, rfl, h.toStick,
      h.running⟩

/-- With a long interval the Stick declares a daemon lost that reports as it should. -/
theorem JustServed.lost (h : JustServed config t) (hr : Reachable config daemon firmware latency t)
    (hslow : linkTimeout ≤ config.period) :
    ∃ t', Reachable config daemon firmware latency t' ∧ t'.system.stick.daemon = .stale ∧ ¬t'.Unlost := by
  obtain ⟨u, hru, hclock, hstick, hto, hrun⟩ := h.idle hr hslow
  let i : Input := ⟨u.clock, false, [], false, 0⟩
  have hiterate : u.Allowed config daemon firmware latency (.act (.iterate i)) := by
    refine ⟨⟨rfl, ?_⟩, rfl, hrun⟩
    rw [hto]
    rfl
  obtain ⟨hstale, hnetwork⟩ := @Stick.iterate_timeout firmware u.system.stick i t.clock rfl (hstick ▸ h.connected)
    (hstick ▸ h.lastUpdate) (Nat.le_of_eq hclock.symm)
  refine ⟨u.next config daemon firmware (.act (.iterate i)), .step hru ⟨hiterate, rfl⟩, hstale, fun hunlost => ?_⟩
  have hshown : (u.system.stick.iterate firmware i).1.network.lastUpdate = some t.clock := by
    rw [hnetwork, hstick]
    exact h.shown
  exact hunlost hostOffline (mem_activeIncidents_of_stale hshown (Nat.le_of_eq hclock.symm)) rfl

/-- A Stick that has been connected reports no loss, and never times out, when the update interval and the latency
    stay below both limits. Once the interval alone reaches them, every run in which a snapshot comes through
    goes on to one in which the Stick has declared the daemon lost. -/
theorem connection_kept :
    (config.period + latency < hostStaleAfter → ∀ t, Reachable config daemon firmware latency t →
      t.system.stick.daemon ≠ .stale ∧ (t.system.stick.daemon = .connected → t.served = true) ∧
        (t.served = true → t.Unlost)) ∧
    (linkTimeout ≤ config.period → ∀ t, Reachable config daemon firmware latency t → JustServed config t →
      ∃ t', Reachable config daemon firmware latency t' ∧ t'.system.stick.daemon = .stale ∧ ¬t'.Unlost) := by
  refine ⟨fun hstale t hr => ?_, fun hslow t hr hserved => hserved.lost hr hslow⟩
  have hperiod : config.period < linkTimeout := by
    unfold hostStaleAfter at hstale
    unfold linkTimeout
    omega
  have h := sound hperiod hr
  exact ⟨h.live.linked, h.connected, h.unlost hstale⟩

/-- `guestsOnly` with an update interval. -/
def every (updateInterval : Nat) : Config := { Config.guestsOnly with host := ⟨updateInterval⟩ }

/-- The daemon and the Stick have shaken hands, and the collector is about to collect. -/
def shaken (config : Config) : Timed where
  system := System.shakeHands.foldl (System.next config ⟨"1.0"⟩ ⟨"1.0"⟩) System.started
  clock := 10000
  collectAt := 10000
  unreadSince := none
  served := false

/-- The daemon sends its first snapshot, and the Stick connects. -/
def serve : List TimedAction :=
  let read : Input :=
    ⟨10000, true,
      [.ok (.displayConfig (Config.guestsOnly.displayManifest ⟨"1.0"⟩ 0)),
        .ok (.networkConfig (Config.guestsOnly.networkManifest 0)), .ok (.healthSnapshot (.ofGuests "pve" []))],
      true, 200⟩
  (System.sendSnapshot 10000 ++ [Action.iterate read]).map TimedAction.act

set_option maxRecDepth 4000 in
theorem connection_kept_fiveSeconds :
    let t := serve.foldl (next (every 5000) ⟨"1.0"⟩ ⟨"1.0"⟩) (shaken (every 5000))
    t.system.stick.daemon ≠ .stale ∧ (t.system.stick.daemon = .connected → t.served = true) ∧
      (t.served = true → t.Unlost) :=
  (@connection_kept (every 5000) ⟨"1.0"⟩ ⟨"1.0"⟩ 0).1 (by decide) _ (.run (.init (by decide)) _ (by decide))

/-- Fifteen seconds in which nothing is due. -/
def fallSilent : List TimedAction := [.wait 15000000, .act (.iterate ⟨15010000, true, [], false, 200⟩)]

set_option maxRecDepth 4000 in
/-- A configuration with an update interval of twenty seconds is accepted, and the Stick declares its daemon lost. -/
theorem connection_lost :
    (every 20000).validate ⟨"1.0"⟩ = .ok () ∧
      System.Reachable (every 20000) ⟨"1.0"⟩ ⟨"1.0"⟩ .any (shaken (every 20000)).system ∧
      ∃ t, Reachable (every 20000) ⟨"1.0"⟩ ⟨"1.0"⟩ 0 t ∧ t.served = true ∧ t.system.stick.daemon = .stale ∧
        hostOffline ∈ activeIncidents t.clock t.system.stick.network := by
  have hinitial : System.Initial (every 20000) ⟨"1.0"⟩ ⟨"1.0"⟩ System.started :=
    ⟨⟨1⟩, .new, 0, by decide, rfl, rfl, rfl, rfl, rfl, rfl⟩
  have hlost : Reachable (every 20000) ⟨"1.0"⟩ ⟨"1.0"⟩ 0
      ((serve ++ fallSilent).foldl (next (every 20000) ⟨"1.0"⟩ ⟨"1.0"⟩) (shaken (every 20000))) :=
    .run (.init (by decide)) _ (by decide)
  exact ⟨by decide, .run (.init hinitial) _ (by decide), _, hlost, by decide, by decide, by decide⟩

end Timed
end Servatory
