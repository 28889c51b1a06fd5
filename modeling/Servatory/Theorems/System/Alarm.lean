import Servatory.Alarm
import Servatory.Theorems.Host.Policy
import Servatory.Theorems.Notifications
import Servatory.Theorems.System.Timing

/-! What the task tells the user follows the rules of the daemon's configuration: an alert is pushed where a condition
    begins to hold of the snapshot that the Stick has, whatever the two parties and the channel between them have
    gone through. -/

namespace Servatory

/-! ### The snapshots on their way -/

namespace Host
variable {config : Config} {build : SoftwareVersion} {h : Host} {w : World}

/-- A snapshot among the messages is the one that waited, with its incidents. -/
def Reports (config : Config) (h : Host) (m : HostMessage) : Prop :=
  ∀ snapshot, m = .healthSnapshot snapshot → ∃ raw report incidents, h.latestHealth = some raw ∧
    config.evaluateHealth raw = some (report, incidents) ∧ snapshot = raw.setIncidents report incidents

theorem reports_of_noSnapshot {m : HostMessage} (hm : m.isSnapshot = false) : h.Reports config m := by
  rintro snapshot rfl
  cases hm

/-- A step that leaves the waiting snapshot, takes it away, or sends it. -/
structure Forwards (config : Config) (h : Host) (w : World) (r : Host × World) : Prop where
  latest : r.1.latestHealth = h.latestHealth ∨ r.1.latestHealth = none
  world : w.Extends (h.Reports config) r.2

theorem Forwards.refl : Forwards config h w (h, w) := ⟨.inl rfl, .refl⟩

theorem SendsNoSnapshot.forwards {r : Host × World} (hr : SendsNoSnapshot h w r) : Forwards config h w r :=
  ⟨.inl (congrArg Prod.snd hr.1), hr.2.mono fun _ => reports_of_noSnapshot⟩

theorem Forwards.proceed {r : Host × World} (hr : Forwards config h w r) (phase : Phase) :
    Forwards config h w (proceed phase r) := ⟨hr.latest, hr.world⟩

theorem forwards_sendUpdate (now sentAt : Nat) (h : Host) (w : World) :
    Forwards config h w (h.sendUpdate config build now sentAt w) := by
  rcases sendUpdate_cases config build now sentAt h w with
    h1 | ⟨-, raw, hlatest, h1 | ⟨h₁, w₁, hr, h1 | ⟨report, incidents, hreport, h1⟩⟩⟩
  all_goals rw [h1]
  · exact .refl
  · exact ⟨.inl rfl, .refl⟩
  · obtain ⟨hschedule, hworld⟩ := updateManifests_noSnapshot hr
    exact ⟨.inr (congrArg Prod.snd hschedule), hworld.mono fun _ => reports_of_noSnapshot⟩
  · obtain ⟨hschedule, hworld⟩ := updateManifests_noSnapshot hr
    have hnone : h₁.latestHealth = none := congrArg Prod.snd hschedule
    have hworld : w.Extends (h.Reports config) w₁ := hworld.mono fun _ => reports_of_noSnapshot
    have hsnapshot : h.Reports config (.healthSnapshot (raw.setIncidents report incidents)) := by
      intro snapshot heq
      obtain rfl := HostMessage.healthSnapshot.inj heq
      exact ⟨raw, report, incidents, hlatest, hreport, rfl⟩
    rcases sendSnapshot_cases config.host.updateInterval sentAt (raw.setIncidents report incidents) h₁ w₁ with
      ⟨-, h2⟩ | ⟨-, ⟨outcomes, h2⟩ | ⟨text, outcomes, went, h2⟩⟩
    all_goals rw [h2]
    · exact ⟨.inr hnone, hworld⟩
    · exact ⟨.inr hnone, hworld.trans (w₁.extends_wrote outcomes _ hsnapshot)⟩
    · exact ⟨.inr hnone, hworld.trans (w₁.extends_failed outcomes went _ hsnapshot)⟩

theorem forwards_receive (a : Arrival) (h : Host) (w : World) : Forwards config h w (h.receive config a w) := by
  rcases receive_cases config a h w with
    ⟨version, -, ⟨-, h1⟩ | ⟨-, h1⟩⟩ | ⟨version, session, -, -, h1⟩ | ⟨-, ⟨phase, connectionError, h1, -⟩, hworld⟩
  · rw [h1]
    exact .refl
  · rw [h1]
    exact ⟨.inl rfl, .refl⟩
  · rw [h1]
    exact ⟨.inl rfl, .refl⟩
  · refine ⟨.inl (by rw [h1]), hworld.mono fun m hm => reports_of_noSnapshot ?_⟩
    cases m <;> first | rfl | exact hm.elim

/-- Only the collector brings a new snapshot. -/
theorem forwards_step {e : HostEvent} (he : ∀ snapshot, e ≠ .collected snapshot) (h : Host) (w : World) :
    Forwards config h w (h.step config build e w) := by
  unfold step
  cases e with
  | collected snapshot => exact absurd rfl (he snapshot)
  | opened result =>
    simp only
    split
    · exact .refl
    · split
      · exact ⟨.inl rfl, .refl⟩
      · cases result <;> exact ⟨.inl rfl, .refl⟩
  | hello now sentAt =>
    simp only
    split
    · exact .refl
    · exact (sendHello_noSnapshot build now sentAt h w).forwards.proceed _
  | manifest =>
    simp only
    split
    · exact .refl
    · exact (sendManifest_noSnapshot h w).forwards.proceed _
  | update now sentAt =>
    simp only
    split
    · exact .refl
    · exact (forwards_sendUpdate now sentAt h w).proceed _
  | frame a =>
    simp only
    split
    · exact .refl
    · exact forwards_receive a h w
  | read failed =>
    refine ⟨.inl ?_, .refl⟩
    simp only
    split <;> rfl
  | close =>
    refine ⟨.inl ?_, .refl⟩
    simp only
    split <;> rfl

end Host

/-- A snapshot is one that was collected, with the incidents of the rules that it meets. -/
def Compiled (config : Config) (collected : List HealthSnapshot) (snapshot : HealthSnapshot) : Prop :=
  ∃ raw ∈ collected, ∃ report incidents, config.evaluateHealth raw = some (report, incidents) ∧
    snapshot = raw.setIncidents report incidents

/-- What the network tasks see of the host is such a snapshot, and when it came. -/
def SharedState.Backed (config : Config) (collected : List HealthSnapshot) (state : SharedState) : Prop :=
  ∀ snapshot, state.snapshot = some snapshot → Compiled config collected snapshot ∧ state.lastUpdate.isSome

section
variable {config : Config} {collected collected' : List HealthSnapshot} {snapshot : HealthSnapshot}

theorem Compiled.mono (h : Compiled config collected snapshot) (hsub : collected ⊆ collected') :
    Compiled config collected' snapshot := by
  obtain ⟨raw, hraw, hrest⟩ := h
  exact ⟨raw, hsub hraw, hrest⟩

theorem SharedState.Backed.mono {state : SharedState} (h : state.Backed config collected) (hsub : collected ⊆ collected') :
    state.Backed config collected' :=
  fun snapshot hs => ⟨(h snapshot hs).1.mono hsub, (h snapshot hs).2⟩

theorem SharedState.Backed.updateManifest {state : SharedState} (h : state.Backed config collected)
    (manifest : NetworkConfig) : (state.updateManifest manifest).Backed config collected := by
  have hsame : (state.updateManifest manifest).snapshot = state.snapshot ∧
      (state.updateManifest manifest).lastUpdate = state.lastUpdate := by
    unfold SharedState.updateManifest
    dsimp only
    split <;> exact ⟨rfl, rfl⟩
  intro snapshot hs
  rw [hsame.2]
  exact h snapshot (hsame.1 ▸ hs)

theorem SharedState.backed_of_none {state : SharedState} (h : state.snapshot = none) : state.Backed config collected := by
  intro snapshot hs
  rw [h] at hs
  cases hs

end

/-! ### The Stick -/

namespace Stick
variable {config : Config} {collected : List HealthSnapshot} {build : SoftwareVersion}

/-- A message brings a snapshot, or leaves the one that is there. -/
theorem backed_receive {now : Nat} {s : Stick} {frame : Except ProtocolError HostMessage}
    (h : s.network.Backed config collected)
    (hf : ∀ snapshot, frame = .ok (.healthSnapshot snapshot) → Compiled config collected snapshot) :
    (s.receive build now frame).network.Backed config collected := by
  cases frame with
  | error e => cases e <;> exact h
  | ok message =>
    cases message with
    | hello version session => exact h
    | healthSnapshot snapshot =>
      simp only [receive, handle]
      split
      · exact h
      · intro shown hs
        obtain rfl := Option.some.inj hs
        exact ⟨hf _ rfl, rfl⟩
    | networkConfig manifest =>
      simp only [receive, handle]
      split
      · exact h
      · exact h.updateManifest manifest
    | _ =>
      simp only [receive, handle]
      split <;> exact h

theorem backed_receiveAll {now : Nat} {frames : List (Except ProtocolError HostMessage)} {s : Stick}
    (h : s.network.Backed config collected)
    (hf : ∀ snapshot, .ok (.healthSnapshot snapshot) ∈ frames → Compiled config collected snapshot) :
    (frames.foldl (fun s frame => s.receive build now frame) s).network.Backed config collected := by
  induction frames generalizing s with
  | nil => exact h
  | cons frame rest ih =>
    refine ih (backed_receive h fun snapshot heq => ?_) fun snapshot hmem => hf snapshot (List.mem_cons_of_mem _ hmem)
    exact hf snapshot (heq ▸ List.mem_cons_self ..)

theorem mem_messages {i : Input} {m : HostMessage} (h : .ok m ∈ i.frames) : m ∈ i.messages :=
  List.mem_filterMap.mpr ⟨.ok m, h, rfl⟩

theorem backed_iterate {s : Stick} {i : Input} (h : s.network.Backed config collected)
    (hf : ∀ snapshot, .healthSnapshot snapshot ∈ i.messages → Compiled config collected snapshot) :
    (s.iterate build i).1.network.Backed config collected := by
  have hbegin : (s.begin build i).network.Backed config collected := by
    rw [network_of_core (core_begin build s i)]
    exact h
  have hreceived : (s.received build i).network.Backed config collected :=
    backed_receiveAll hbegin fun snapshot hmem => hf snapshot (mem_messages hmem)
  have hnetwork : (s.iterate build i).1.network = (s.received build i).network := by
    rw [← network_checkLink i.now (s.received build i)]
    exact network_of_core (core_finish _ i)
  rw [hnetwork]
  exact hreceived

end Stick

/-! ### Both and the task -/

namespace Alarm
variable {config : Config} {daemon firmware : SoftwareVersion} {a : Alarm}

/-- What is on its way, what the Stick has and what the task has seen goes back to the collector. -/
structure Traced (config : Config) (a : Alarm) : Prop where
  latest : ∀ raw, a.system.host.latestHealth = some raw → raw ∈ a.collected
  sent : ∀ snapshot, .healthSnapshot snapshot ∈ a.system.toStick → Compiled config a.collected snapshot
  shown : a.system.stick.network.Backed config a.collected
  polled : ∀ p ∈ a.polls, p.state.Backed config a.collected
  worker : ∃ seed, a.worker = (NotificationWorker.new seed).run a.polls

/-- A step of the daemon, whatever the frames before it have become. -/
theorem traced_hostStep (h : Traced config a) (s : System) (hhost : s.host.latestHealth = a.system.host.latestHealth)
    (hsent : s.toStick ⊆ a.system.toStick) (hstick : s.stick = a.system.stick) {event : HostEvent}
    (he : ∀ snapshot, event ≠ .collected snapshot) (outcomes : List WriteOutcome) :
    Traced config { a with system := s.hostStep config daemon event outcomes } := by
  have hforwards : Host.Forwards config s.host (.new outcomes) (s.host.step config daemon event (.new outcomes)) :=
    Host.forwards_step he s.host (.new outcomes)
  obtain ⟨hlatest, hworld⟩ := hforwards
  obtain ⟨more, hmore, hreports⟩ := hworld.sent
  refine ⟨fun raw hraw => ?_, fun snapshot hm => ?_, ?_, h.polled, h.worker⟩
  · have hraw : (s.host.step config daemon event (.new outcomes)).1.latestHealth = some raw := hraw
    rcases hlatest with hsame | hnone
    · exact h.latest raw (hhost ▸ hsame ▸ hraw)
    · rw [hnone] at hraw
      cases hraw
  · have hm : .healthSnapshot snapshot ∈ s.toStick ++ (s.host.step config daemon event (.new outcomes)).2.sent := hm
    rw [hmore] at hm
    rcases List.mem_append.mp hm with hm | hm
    · exact h.sent snapshot (hsent hm)
    · obtain ⟨raw, report, incidents, hwaits, hevaluated, hsnapshot⟩ := hreports _ hm snapshot rfl
      exact ⟨raw, h.latest raw (hhost ▸ hwaits), report, incidents, hevaluated, hsnapshot⟩
  · show s.stick.network.Backed config a.collected
    rw [hstick]
    exact h.shown

/-- The parts that only the system changes. -/
theorem traced_system (h : Traced config a) (s : System)
    (hlatest : ∀ raw, s.host.latestHealth = some raw → raw ∈ a.collected) (hsent : s.toStick ⊆ a.system.toStick)
    (hshown : s.stick.network.Backed config a.collected) : Traced config { a with system := s } :=
  ⟨hlatest, fun snapshot hm => h.sent snapshot (hsent hm), hshown, h.polled, h.worker⟩

theorem Traced.collected (h : Traced config a) (raw : HealthSnapshot) (outcomes : List WriteOutcome) :
    Traced config (a.next config daemon firmware (.act (.phase (.collected raw) outcomes) 0)) := by
  have hsub : a.collected ⊆ raw :: a.collected := List.subset_cons_self ..
  refine ⟨fun latest hl => ?_, fun snapshot hm => ?_, h.shown.mono hsub, fun p hp => (h.polled p hp).mono hsub, h.worker⟩
  · obtain rfl := Option.some.inj hl
    exact List.mem_cons_self ..
  · refine (h.sent snapshot ?_).mono hsub
    have hm : .healthSnapshot snapshot ∈ a.system.toStick ++ [] := hm
    rwa [List.append_nil] at hm

theorem Traced.act (h : Traced config a) {action : Action} {seed : UInt64}
    (ha : a.Allowed config daemon (.act action seed)) : Traced config (a.next config daemon firmware (.act action seed)) := by
  obtain ⟨ha, hblank⟩ := ha
  cases action with
  | phase event outcomes =>
    by_cases he : ∃ raw, event = .collected raw
    · obtain ⟨raw, rfl⟩ := he
      exact h.collected raw outcomes
    · have he : ∀ raw, event ≠ .collected raw := fun raw heq => he ⟨raw, heq⟩
      have hsame : collect a.collected (.phase event outcomes) = a.collected := by
        cases event with
        | collected raw => exact absurd rfl (he raw)
        | _ => rfl
      have hstep : Traced config { a with system := a.system.hostStep config daemon event outcomes } :=
        traced_hostStep h a.system rfl (List.Subset.refl _) rfl he outcomes
      simp only [next, System.next, hsame]
      exact hstep
  | opened now nonce toStick toHost =>
    have hsub : toStick ⊆ a.system.toStick := (List.isSublist_iff_sublist.mp ha.2.2.2.1).subset
    exact traced_hostStep h { a.system with toStick, toHost, nonces := nonce :: a.system.nonces, greeted := [] } rfl hsub rfl
      (by rintro raw ⟨⟩) []
  | frame now host outcomes =>
    obtain ⟨o, rest, hto⟩ := List.exists_cons_of_ne_nil ha.2
    simp only [next, System.next, hto, collect]
    exact traced_hostStep h { a.system with toHost := rest } rfl (List.Subset.refl _) rfl
      (by rintro raw ⟨⟩) outcomes
  | restart now nonce toStick toHost =>
    cases hb : Host.boot config daemon nonce now with
    | error e =>
      simp only [next, System.next, hb, collect]
      exact h
    | ok host =>
      obtain ⟨display, network, -, -, rfl⟩ := Host.boot_eq_ok hb
      simp only [next, System.next, hb, collect]
      exact traced_system h _ (by rintro raw ⟨⟩) (List.isSublist_iff_sublist.mp ha.2.2.1).subset h.shown
  | iterate input =>
    have hbegins : input.messages <+: a.system.toStick := List.isPrefixOf_iff_prefix.mp ha
    exact traced_system h _ h.latest (List.drop_subset _ _)
      (Stick.backed_iterate h.shown fun snapshot hm => h.sent snapshot (hbegins.subset hm))
  | reboot network now toStick toHost =>
    have hsub : toStick ⊆ a.system.toStick := (List.isSublist_iff_sublist.mp ha.1).subset
    exact ⟨h.latest, fun snapshot hm => h.sent snapshot (hsub hm),
      SharedState.backed_of_none (Option.isNone_iff_eq_none.mp hblank), (by rintro p ⟨⟩), seed, rfl⟩

theorem Traced.turn (h : Traced config a) {p : Poll} (hp : a.Allowed config daemon (.turn p)) :
    Traced config (a.next config daemon firmware (.turn p)) := by
  obtain ⟨hsnapshot, hupdate, -⟩ := hp
  obtain ⟨seed, hworker⟩ := h.worker
  refine ⟨h.latest, h.sent, h.shown, fun q hq => ?_, seed, ?_⟩
  · rcases List.mem_append.mp hq with hq | hq
    · exact h.polled q hq
    · obtain rfl := List.mem_singleton.mp hq
      intro snapshot hs
      rw [hupdate]
      exact h.shown snapshot (hsnapshot ▸ hs)
  · show a.worker.turn p = (NotificationWorker.new seed).run (a.polls ++ [p])
    rw [NotificationWorker.run_concat, hworker]

theorem traced (hr : Reachable config daemon firmware a) : Traced config a := by
  refine hr.invariant (P := Traced config) ?_ ?_
  · rintro a ⟨hinitial, hnone, ⟨seed, hworker⟩, hcollected, hpolls⟩
    obtain ⟨nonce, network, now, hb, -, hs, -⟩ := hinitial
    obtain ⟨display, manifest, -, -, hhost⟩ := Host.boot_eq_ok hb
    refine ⟨fun raw hraw => ?_, fun snapshot hm => ?_, SharedState.backed_of_none hnone, fun p hp => ?_, seed, ?_⟩
    · rw [hhost] at hraw
      cases hraw
    · rw [hs] at hm
      cases hm
    · rw [hpolls] at hp
      cases hp
    · rw [hworker, hpolls]
      rfl
  · rintro a (⟨action, seed⟩ | p) t - h ⟨ha, rfl⟩
    · exact h.act ha
    · exact h.turn ha

end Alarm

/-! ### What the incidents of a turn mean -/

section
variable {config : Config} {build : SoftwareVersion} {collected : List HealthSnapshot} {snapshot : HealthSnapshot}
  {report : HealthReport} {incidents : List Incident} {p q : Poll} {incident : Incident} {u : Unit}

/-- The incidents in a snapshot are not measured. -/
theorem Measures.setIncidents {selector : MetricSelector} {metric : Metric} (h : Measures config snapshot selector metric)
    (report : HealthReport) (incidents : List Incident) :
    Measures config (snapshot.setIncidents report incidents) selector metric := by
  cases h with
  | upsStatus => exact .upsStatus
  | upsStale => exact .upsStale
  | smartStatus hdevice => exact .smartStatus hdevice
  | networkUp => exact .networkUp
  | internetStatus => exact .internetStatus
  | backupStatus => exact .backupStatus
  | backupAge hage => exact .backupAge hage
  | backupUnknown hage => exact .backupUnknown hage
  | cpuPercent => exact .cpuPercent
  | memoryPercent => exact .memoryPercent
  | ioPressurePercent => exact .ioPressurePercent
  | mounted hfs husage => exact .mounted hfs husage
  | usedPercent hfs husage => exact .usedPercent hfs husage
  | notMeasured hfs husage field => exact .notMeasured hfs (by exact husage) field

theorem Holds.setIncidents {condition : Condition} (h : Holds config snapshot condition) (report : HealthReport)
    (incidents : List Incident) : Holds config (snapshot.setIncidents report incidents) condition := by
  induction condition using Condition.induction with
  | all children ih =>
    cases h with
    | all h => exact .all fun child hchild => ih child hchild (h child hchild)
  | any children ih =>
    cases h with
    | any hchild h => exact .any hchild (ih _ hchild h)
  | predicate p =>
    cases h with
    | predicate hgives hmeasures h => exact .predicate hgives (hmeasures.setIncidents report incidents) h

/-- Putting the old incidents back gives the old snapshot. -/
theorem holds_setIncidents {condition : Condition} :
    Holds config (snapshot.setIncidents report incidents) condition ↔ Holds config snapshot condition :=
  ⟨fun h => h.setIncidents snapshot.health snapshot.activeIncidents, fun h => h.setIncidents report incidents⟩

theorem metricsForValue_setIncidents (condition : Condition) :
    config.metricsForValue (snapshot.setIncidents report incidents) condition = config.metricsForValue snapshot condition := by
  have hfirst : ∀ children : List Condition,
      (∀ child ∈ children, config.metricsForValue (snapshot.setIncidents report incidents) child =
        config.metricsForValue snapshot child) →
      config.firstMetric (snapshot.setIncidents report incidents) children = config.firstMetric snapshot children := by
    intro children
    induction children with
    | nil =>
      intro _
      rw [Config.firstMetric, Config.firstMetric]
    | cons child rest ih =>
      intro hall
      rw [Config.firstMetric, Config.firstMetric, hall child (List.mem_cons_self ..),
        ih fun c hc => hall c (List.mem_cons_of_mem _ hc)]
  induction condition using Condition.induction with
  | all children ih => rw [Config.metricsForValue, Config.metricsForValue, hfirst children ih]
  | any children ih => rw [Config.metricsForValue, Config.metricsForValue, hfirst children ih]
  | predicate p =>
    rw [Config.metricsForValue, Config.metricsForValue]
    cases p.measurement <;> rfl

theorem renderMessage_setIncidents (rule : HealthRule) :
    config.renderMessage rule (snapshot.setIncidents report incidents) = config.renderMessage rule snapshot := by
  rw [Config.renderMessage, Config.renderMessage, metricsForValue_setIncidents]

/-- Something is wrong with the host, as far as the Stick knows: a rule's condition holds of the last snapshot, or that
    snapshot is too old. -/
inductive Wrong (config : Config) (p : Poll) : Incident → Prop
  | rule {snapshot : HealthSnapshot} {rule : HealthRule} (hsnapshot : p.state.snapshot = some snapshot)
      (hrule : rule ∈ config.health.rules) (h : Holds config snapshot rule.condition) :
      Wrong config p ⟨.rule ⟨rule.id⟩, rule.severity.level, config.renderMessage rule snapshot⟩
  | offline {snapshot : HealthSnapshot} {updated : Nat} (hsnapshot : p.state.snapshot = some snapshot)
      (hupdated : p.state.lastUpdate = some updated) (h : updated + hostStaleAfter ≤ p.now) : Wrong config p hostOffline

theorem incidents_of_none (h : p.state.snapshot = none) : p.incidents = [] := by
  rw [Poll.incidents, notifiableIncidents, activeIncidents, h]
  split <;> rfl

theorem incidents_of_some (h : p.state.snapshot = some snapshot) {updated : Nat} (hu : p.state.lastUpdate = some updated) :
    p.incidents =
      if updated + hostStaleAfter ≤ p.now then hostOffline :: snapshot.activeIncidents else snapshot.activeIncidents := by
  have hage : (snapshotAge p.now p.state).all (fun age => age ≥ hostStaleAfter) = true ↔ updated + hostStaleAfter ≤ p.now := by
    rw [snapshotAge, hu, Option.map_some, Option.all_some, decide_eq_true_iff, hostStaleAfter]
    omega
  have hfilter : ∀ l : List Incident,
      l.filter (fun incident => p.state.snapshot.isSome || incident.id != .stick .hostOffline) = l := by
    intro l
    rw [List.filter_eq_self]
    intro incident _
    rw [h]
    rfl
  rw [Poll.incidents, notifiableIncidents, hfilter, activeIncidents, h]
  exact if_congr hage rfl rfl

/-- The incidents that the rules give for a snapshot on its way. -/
theorem Compiled.evaluated (h : Compiled config collected snapshot) (hv : config.validate build = .ok u) :
    ∃ report, Evaluated config snapshot report snapshot.activeIncidents := by
  obtain ⟨raw, -, report, incidents, heq, rfl⟩ := h
  obtain ⟨report', incidents', heq', hevaluated⟩ : ∃ report incidents, config.evaluateHealth raw = some (report, incidents) ∧
      Evaluated config raw report incidents := Config.evaluateHealth_eq hv
  obtain ⟨rfl, rfl⟩ := Prod.mk.inj (Option.some.inj (heq.symm.trans heq'))
  obtain ⟨matching, hsub, hmatching, hincidents⟩ := hevaluated.matching
  refine ⟨report, ⟨⟨matching, hsub, fun rule hrule => ?_, ?_⟩, hevaluated.nodup, hevaluated.primary⟩⟩
  · rw [holds_setIncidents]
    exact hmatching rule hrule
  · simp only [renderMessage_setIncidents]
    exact hincidents

/-- The task sees what is wrong. -/
theorem mem_incidents (hb : p.state.Backed config collected) (hv : config.validate build = .ok u) :
    incident ∈ p.incidents ↔ Wrong config p incident := by
  cases hsnapshot : p.state.snapshot with
  | none =>
    rw [incidents_of_none hsnapshot]
    constructor
    · intro h
      cases h
    · intro h
      cases h with
      | rule hs => cases hsnapshot.symm.trans hs
      | offline hs => cases hsnapshot.symm.trans hs
  | some snapshot =>
    obtain ⟨hcompiled, hsome⟩ := hb snapshot hsnapshot
    obtain ⟨updated, hupdated⟩ := Option.isSome_iff_exists.mp hsome
    obtain ⟨report, hevaluated⟩ := hcompiled.evaluated hv
    obtain ⟨matching, hsub, hmatching, hincidents⟩ := hevaluated.matching
    have hactive : incident ∈ snapshot.activeIncidents ↔ ∃ rule ∈ config.health.rules, Holds config snapshot rule.condition ∧
        incident = ⟨.rule ⟨rule.id⟩, rule.severity.level, config.renderMessage rule snapshot⟩ := by
      rw [hincidents, List.mem_map]
      constructor
      · rintro ⟨rule, hrule, rfl⟩
        exact ⟨rule, hsub.subset hrule, (hmatching rule (hsub.subset hrule)).mp hrule, rfl⟩
      · rintro ⟨rule, hrule, hholds, rfl⟩
        exact ⟨rule, (hmatching rule hrule).mpr hholds, rfl⟩
    rw [incidents_of_some hsnapshot hupdated]
    constructor
    · intro h
      split at h
      · rename_i hstale
        rcases List.mem_cons.mp h with rfl | h
        · exact .offline hsnapshot hupdated hstale
        · obtain ⟨rule, hrule, hholds, rfl⟩ := hactive.mp h
          exact .rule hsnapshot hrule hholds
      · obtain ⟨rule, hrule, hholds, rfl⟩ := hactive.mp h
        exact .rule hsnapshot hrule hholds
    · intro h
      cases h with
      | @rule shown rule hs hrule hholds =>
        obtain rfl := Option.some.inj (hsnapshot.symm.trans hs)
        have hmem := hactive.mpr ⟨rule, hrule, hholds, rfl⟩
        split
        · exact List.mem_cons_of_mem _ hmem
        · exact hmem
      | @offline shown updated' hs hu hstale =>
        obtain rfl := Option.some.inj (hupdated.symm.trans hu)
        rw [if_pos hstale]
        exact List.mem_cons_self ..

theorem nodup_incidents (hb : p.state.Backed config collected) (hv : config.validate build = .ok u) :
    (p.incidents.map Incident.id).Nodup := by
  cases hsnapshot : p.state.snapshot with
  | none =>
    rw [incidents_of_none hsnapshot]
    exact List.nodup_nil
  | some snapshot =>
    obtain ⟨hcompiled, hsome⟩ := hb snapshot hsnapshot
    obtain ⟨updated, hupdated⟩ := Option.isSome_iff_exists.mp hsome
    obtain ⟨report, hevaluated⟩ := hcompiled.evaluated hv
    rw [incidents_of_some hsnapshot hupdated]
    split
    · refine List.nodup_cons.mpr ⟨fun hmem => ?_, hevaluated.nodup⟩
      obtain ⟨incident, hincident, hid⟩ := List.mem_map.mp hmem
      obtain ⟨matching, -, -, hincidents⟩ := hevaluated.matching
      rw [hincidents] at hincident
      obtain ⟨rule, -, rfl⟩ := List.mem_map.mp hincident
      cases hid
    · exact hevaluated.nodup

/-- An incident has one level. -/
theorem Wrong.level_eq {old : Incident} (hnodup : (config.health.rules.map (·.id)).Nodup) (h : Wrong config p incident)
    (hold : Wrong config q old) (hid : old.id = incident.id) : old.level = incident.level := by
  cases h with
  | @rule snapshot rule hs hrule hholds =>
    cases hold with
    | @rule snapshot' rule' hs' hrule' hholds' =>
      have hid : rule'.id = rule.id := congrArg RuleId.value (IncidentId.rule.inj hid)
      rw [List.inj_on_of_nodup_map hnodup hrule' hrule hid]
    | offline => cases hid
  | offline =>
    cases hold with
    | rule => cases hid
    | offline => rfl

end

/-! ### What the task pushes -/

/-- Where an incident keeps its level, it is alerted of as long as it was not listed before. -/
theorem startPush_of_same_levels {config : NtfyConfig} {previous : List Incident} {incident : Incident}
    (hlevel : ∀ old ∈ previous, old.id = incident.id → old.level = incident.level) :
    startPush config previous incident =
      if incident.id ∈ previous.map Incident.id then none else startPush config [] incident := by
  cases hfind : previous.find? fun old => old.id == incident.id with
  | none =>
    have hnot : incident.id ∉ previous.map Incident.id := by
      intro hmem
      obtain ⟨old, hold, hid⟩ := List.mem_map.mp hmem
      exact List.find?_eq_none.mp hfind old hold (beq_iff_eq.mpr hid)
    rw [if_neg hnot, startPush, startPush, hfind, List.find?_nil]
  | some old =>
    have hold := List.mem_of_find?_eq_some hfind
    have hid : old.id = incident.id := eq_of_beq (List.find?_some (p := fun old : Incident => old.id == incident.id) hfind)
    have hsame : decide (old.level.priority < incident.level.priority) = false := by
      rw [hlevel old hold hid, decide_eq_false_iff_not, UInt8.lt_iff_toNat_lt]
      exact Nat.lt_irrefl _
    rw [if_pos (List.mem_map.mpr ⟨old, hold, hid⟩), startPush, hfind, Option.all_some, hsame]
    rfl

namespace NotificationWorker
variable {w : NotificationWorker} {p : Poll} {config : NtfyConfig} {id : IncidentId} {x : Push}

theorem mem_pushes_start (hconfig : p.config = some config) :
    x ∈ w.pushes p ∧ x.cause = .start id ↔
      ∃ incident ∈ p.incidents, incident.id = id ∧ startPush config w.previous incident = some x := by
  constructor
  · rintro ⟨hx, hcause⟩
    rcases mem_pushes hconfig hx with htest | hstart | hrepeat | hrecovery
    · cases hcause.symm.trans htest
    · obtain ⟨incident, hincident, hpush⟩ := List.mem_filterMap.mp hstart
      refine ⟨incident, hincident, ?_, hpush⟩
      rw [startPush] at hpush
      split at hpush
      · obtain rfl := Option.some.inj hpush
        exact Cause.start.inj hcause
      · cases hpush
    · obtain ⟨incident, -, -, hcause'⟩ := mem_repeats hrepeat
      cases hcause.symm.trans hcause'
    · obtain ⟨incident, -, -, hcause'⟩ := mem_recoveries hrecovery
      cases hcause.symm.trans hcause'
  · rintro ⟨incident, hincident, rfl, hpush⟩
    refine ⟨?_, ?_⟩
    · rw [pushes_eq hconfig]
      exact List.mem_append_left _ (List.mem_append_left _ (List.mem_append_right _
        (List.mem_filterMap.mpr ⟨incident, hincident, hpush⟩)))
    · rw [startPush] at hpush
      split at hpush
      · obtain rfl := Option.some.inj hpush
        rfl
      · cases hpush

theorem mem_pushes_recovered (hconfig : p.config = some config) :
    x ∈ w.pushes p ∧ x.cause = .recovered id ↔
      config.notifyRecovery = true ∧ ∃ incident ∈ w.previous, incident.id = id ∧ id ∉ p.incidents.map Incident.id ∧
        x = recoveredPush config incident := by
  constructor
  · rintro ⟨hx, hcause⟩
    rcases mem_pushes hconfig hx with htest | hstart | hrepeat | hrecovery
    · cases hcause.symm.trans htest
    · obtain ⟨id', hcause'⟩ := mem_starts hstart
      cases hcause.symm.trans hcause'
    · obtain ⟨incident, -, -, hcause'⟩ := mem_repeats hrepeat
      cases hcause.symm.trans hcause'
    · obtain ⟨other, -, hgone, hother⟩ := mem_recoveries hrecovery
      obtain rfl := Cause.recovered.inj (hcause.symm.trans hother)
      rw [recoveries] at hrecovery
      split at hrecovery
      · rename_i hnotify
        obtain ⟨incident, hincident, rfl⟩ := List.mem_map.mp hrecovery
        exact ⟨hnotify, incident, (List.mem_filter.mp hincident).1, Cause.recovered.inj hcause, hgone, rfl⟩
      · cases hrecovery
  · rintro ⟨hnotify, incident, hincident, rfl, hgone, rfl⟩
    refine ⟨?_, rfl⟩
    rw [pushes_eq hconfig, recoveries, if_pos hnotify]
    refine List.mem_append_right _ (List.mem_map.mpr ⟨incident, List.mem_filter.mpr ⟨hincident, ?_⟩, rfl⟩)
    rw [Bool.not_eq_true', List.any_eq_false]
    intro new hnew hsame
    exact hgone (List.mem_map.mpr ⟨new, hnew, eq_of_beq hsame⟩)

end NotificationWorker

namespace Alarm
variable {config : Config} {daemon firmware : SoftwareVersion} {a : Alarm} {p : Poll} {ntfy : NtfyConfig} {u : Unit}

/-- An incident was there at a turn, if there was one. -/
def Listed (config : Config) (turn : Option Poll) (id : IncidentId) : Prop :=
  ∃ q incident, turn = some q ∧ Wrong config q incident ∧ incident.id = id

theorem listed_iff (hb : p.state.Backed config a.collected) (hv : config.validate daemon = .ok u) (id : IncidentId) :
    id ∈ p.incidents.map Incident.id ↔ Listed config (some p) id := by
  constructor
  · intro hmem
    obtain ⟨incident, hincident, hid⟩ := List.mem_map.mp hmem
    exact ⟨p, incident, rfl, (mem_incidents hb hv).mp hincident, hid⟩
  · rintro ⟨q, incident, hq, hwrong, hid⟩
    obtain rfl := Option.some.inj hq
    exact List.mem_map.mpr ⟨incident, (mem_incidents hb hv).mpr hwrong, hid⟩

namespace Traced

theorem previous_eq (h : Traced config a) : a.worker.previous = NotificationWorker.lastListed a.polls := by
  obtain ⟨seed, hworker⟩ := h.worker
  rw [hworker, NotificationWorker.previous_run]

/-- The task compares with what was wrong at the turn before. -/
theorem mem_previous (h : Traced config a) (hv : config.validate daemon = .ok u) {incident : Incident} :
    incident ∈ a.worker.previous ↔ ∃ q, a.polls.getLast? = some q ∧ Wrong config q incident := by
  rw [h.previous_eq, NotificationWorker.lastListed]
  cases hq : a.polls.getLast? with
  | none =>
    constructor
    · intro hmem
      cases hmem
    · rintro ⟨q, hq', -⟩
      cases hq'
  | some q =>
    have hmem := @mem_incidents config daemon a.collected q incident u (h.polled q (List.mem_of_getLast? hq)) hv
    constructor
    · intro hin
      exact ⟨q, rfl, hmem.mp hin⟩
    · rintro ⟨q', hq', hwrong⟩
      obtain rfl := Option.some.inj hq'
      exact hmem.mpr hwrong

theorem listed_previous (h : Traced config a) (hv : config.validate daemon = .ok u) (id : IncidentId) :
    id ∈ a.worker.previous.map Incident.id ↔ Listed config a.polls.getLast? id := by
  constructor
  · intro hmem
    obtain ⟨incident, hincident, hid⟩ := List.mem_map.mp hmem
    obtain ⟨q, hq, hwrong⟩ := (h.mem_previous hv).mp hincident
    exact ⟨q, incident, hq, hwrong, hid⟩
  · rintro ⟨q, incident, hq, hwrong, hid⟩
    exact List.mem_map.mpr ⟨incident, (h.mem_previous hv).mpr ⟨q, hq, hwrong⟩, hid⟩

theorem nodup_previous (h : Traced config a) (hv : config.validate daemon = .ok u) :
    (a.worker.previous.map Incident.id).Nodup := by
  rw [h.previous_eq, NotificationWorker.lastListed]
  cases hq : a.polls.getLast? with
  | none => exact List.nodup_nil
  | some q => exact nodup_incidents (h.polled q (List.mem_of_getLast? hq)) hv

theorem poll (h : Traced config a) (hp : a.Allowed config daemon (.turn p)) : p.state.Backed config a.collected := by
  intro snapshot hs
  rw [hp.2.1]
  exact h.shown snapshot (hp.1 ▸ hs)

end Traced

/-- In whatever way the daemon, the Stick and the task got here: what the next turn reads was collected by the daemon. An
    alert is pushed exactly where something is wrong that was not at the turn before, if its severity is selected; a
    recovery exactly where something was wrong that no longer is; and each once. -/
theorem pushes_follow_rules (hv : config.validate daemon = .ok u) (hr : Reachable config daemon firmware a)
    (hp : a.Allowed config daemon (.turn p)) (hntfy : p.config = some ntfy) :
    (∀ snapshot, p.state.snapshot = some snapshot → Compiled config a.collected snapshot) ∧
    ∀ id,
      (∀ x, x ∈ a.worker.pushes p ∧ x.cause = .start id ↔
        ∃ incident, Wrong config p incident ∧ incident.id = id ∧ ¬Listed config a.polls.getLast? id ∧
          startPush ntfy [] incident = some x) ∧
      (∀ x, x ∈ a.worker.pushes p ∧ x.cause = .recovered id ↔
        ntfy.notifyRecovery = true ∧ ∃ q incident, a.polls.getLast? = some q ∧ Wrong config q incident ∧ incident.id = id ∧
          ¬Listed config (some p) id ∧ x = recoveredPush ntfy incident) ∧
      alertsIn id (a.worker.pushes p) ≤ 1 ∧ (a.worker.pushes p).countP (fun x => x.cause == .recovered id) ≤ 1 := by
  have h := traced hr
  have hbacked := h.poll hp
  refine ⟨fun snapshot hs => (hbacked snapshot hs).1, fun id => ⟨fun x => ?_, fun x => ?_, ?_, ?_⟩⟩
  · have hstart : ∀ incident, Wrong config p incident → startPush ntfy a.worker.previous incident =
        if incident.id ∈ a.worker.previous.map Incident.id then none else startPush ntfy [] incident := by
      intro incident hwrong
      refine startPush_of_same_levels fun old hold hid => ?_
      obtain ⟨q, -, hbefore⟩ := (h.mem_previous hv).mp hold
      exact hwrong.level_eq (Config.rules_of_validate hv).1 hbefore hid
    rw [NotificationWorker.mem_pushes_start hntfy]
    constructor
    · rintro ⟨incident, hincident, rfl, hpush⟩
      have hwrong := (mem_incidents hbacked hv).mp hincident
      rw [hstart incident hwrong] at hpush
      split at hpush
      · cases hpush
      · rename_i hnot
        exact ⟨incident, hwrong, rfl, fun hlisted => hnot ((h.listed_previous hv _).mpr hlisted), hpush⟩
    · rintro ⟨incident, hwrong, rfl, hnot, hpush⟩
      refine ⟨incident, (mem_incidents hbacked hv).mpr hwrong, rfl, ?_⟩
      rw [hstart incident hwrong, if_neg fun hmem => hnot ((h.listed_previous hv _).mp hmem)]
      exact hpush
  · rw [NotificationWorker.mem_pushes_recovered hntfy]
    refine and_congr_right fun _ => ?_
    constructor
    · rintro ⟨incident, hincident, rfl, hgone, rfl⟩
      obtain ⟨q, hq, hwrong⟩ := (h.mem_previous hv).mp hincident
      exact ⟨q, incident, hq, hwrong, rfl, fun hstill => hgone ((listed_iff hbacked hv _).mpr hstill), rfl⟩
    · rintro ⟨q, incident, hq, hwrong, rfl, hgone, rfl⟩
      exact ⟨incident, (h.mem_previous hv).mpr ⟨q, hq, hwrong⟩, rfl, fun hmem => hgone ((listed_iff hbacked hv _).mp hmem),
        rfl⟩
  · rw [NotificationWorker.alertsIn_pushes hntfy (nodup_incidents hbacked hv)]
    split <;> decide
  · exact NotificationWorker.recovered_once (h.nodup_previous hv)

/-- The two rules of `watched`, with notifications of every kind. -/
def alerting : Config :=
  { Config.watched with
    outputs :=
      { Config.watched.outputs with
        ntfy := some ⟨true, "http://ntfy.sh", [.warning, .critical], ⟨.default, .urgent, .default⟩, true, none, none⟩ } }

theorem alerting_valid : alerting.validate ⟨"1.0"⟩ = .ok () := by rfl

def quiet : Alarm where
  system :=
    { System.started with
      host := .new (alerting.displayManifest ⟨"1.0"⟩ 0) (alerting.networkManifest 0) ⟨1⟩ 0 }
  worker := .new 0
  collected := []
  polls := []

theorem quiet_initial : Initial alerting ⟨"1.0"⟩ ⟨"1.0"⟩ quiet :=
  ⟨⟨⟨1⟩, .new, 0, by decide, rfl, rfl, rfl, rfl, rfl, rfl⟩, rfl, ⟨0, rfl⟩, rfl, rfl⟩

/-- The backup of the host above is old. -/
def oldBackup : HealthSnapshot :=
  (HealthSnapshot.ofGuests "pve" []).setIncidents ⟨.warning, "BACKUP OLD"⟩ [⟨.rule ⟨"backup_old"⟩, .warning, "BACKUP OLD"⟩]

/-- The handshake, and all that the daemon sends behind it. -/
def firstSnapshot : List Action :=
  System.shakeHands ++ System.sendSnapshot 0 ++
    [.iterate
      ⟨50000, true,
        [.ok (.displayConfig (alerting.displayManifest ⟨"1.0"⟩ 0)), .ok (.networkConfig (alerting.networkManifest 0)),
          .ok (.healthSnapshot oldBackup)],
        false, 200⟩]

def firstPoll : Poll where
  now := 1000000
  state :=
    { SharedState.new with
      snapshot := some oldBackup
      manifest := some (alerting.networkManifest 0)
      lastUpdate := some 50000
      ntfyTopic := some "servatory" }
  test := false
  set := 1000000
  checked := 1000000
  renewed := 1000000
  published := true

theorem pushes_follow_rules_backup :
    let a := (firstSnapshot.map (.act · 0)).foldl (next alerting ⟨"1.0"⟩ ⟨"1.0"⟩) quiet
    ∃ x, x ∈ a.worker.pushes firstPoll ∧ x.cause = .start (.rule ⟨"backup_old"⟩) := by
  intro a
  have hr : Reachable alerting ⟨"1.0"⟩ ⟨"1.0"⟩ a := .run (.init quiet_initial) _ (by decide)
  have hp : a.Allowed alerting ⟨"1.0"⟩ (.turn firstPoll) := by decide
  have hwrong : Wrong alerting firstPoll ⟨.rule ⟨"backup_old"⟩, .warning, "BACKUP OLD"⟩ :=
    (mem_incidents ((traced hr).poll hp) alerting_valid).mp (by decide)
  have hstarts := ((pushes_follow_rules alerting_valid hr hp rfl).2 (.rule ⟨"backup_old"⟩)).1
  refine ⟨_, (hstarts _).mpr ⟨_, hwrong, rfl, ?_, rfl⟩⟩
  rintro ⟨q, incident, hq, -⟩
  cases hq

end Alarm
end Servatory
