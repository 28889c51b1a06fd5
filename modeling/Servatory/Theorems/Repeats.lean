import Servatory.Lib.Except
import Servatory.Theorems.Host.Budget
import Servatory.Theorems.Notifications

/-! When a critical incident is notified of again. One timer is shared by all critical incidents: whichever comes first
    starts it, each repeat starts it anew, and it only moves on while there is a critical incident. So a notification is
    followed by a repeat no sooner than the timer, as it is behind the notification, allows. -/

namespace Servatory
open History

/-- The pause behind each turn. -/
def notificationPause : Nat := 5 * 1000000

/-- A turn with the instants at which incidents are alerted of and repeated in it. -/
structure TimedPoll where
  poll : Poll
  alerted : IncidentId → Nat
  repeated : IncidentId → Nat

/-- The instants of a turn are in the order in which the task comes by them. -/
structure TimedPoll.Ordered (t : TimedPoll) : Prop where
  now_le : ∀ id, t.poll.now ≤ t.alerted id
  alerted_le : ∀ id, t.alerted id ≤ t.poll.set
  set_le : t.poll.set ≤ t.poll.checked
  checked_le : ∀ id, t.poll.checked ≤ t.repeated id
  repeated_le : ∀ id, t.repeated id ≤ t.poll.renewed

/-- Each turn begins after the pause behind those before it. -/
structure Paced (turns : List TimedPoll) : Prop where
  ordered : ∀ t ∈ turns, t.Ordered
  apart : turns.Pairwise fun t t' => t.poll.renewed + notificationPause ≤ t'.poll.now

/-- The pushes that repeat an incident. -/
def repeatsIn (id : IncidentId) (pushes : List Push) : Nat := pushes.countP fun push => push.cause == .stillActive id

/-- The instants at which a turn notifies of an incident: of its start or escalation, and that it is still active. -/
def TimedPoll.notified (t : TimedPoll) (w : NotificationWorker) (id : IncidentId) : List Nat :=
  List.replicate (alertsIn id (w.pushes t.poll)) (t.alerted id) ++
    List.replicate (repeatsIn id (w.pushes t.poll)) (t.repeated id)

namespace NotificationWorker

def notified (w : NotificationWorker) (id : IncidentId) : List TimedPoll → List Nat
  | [] => []
  | t :: turns => t.notified w id ++ (w.turn t.poll).notified id turns

/-- When the shared timer is due in a turn that finds a critical incident. -/
def due (w : NotificationWorker) (p : Poll) (seconds : UInt32) : Nat :=
  w.nextCriticalRepeat.getD (p.set + seconds.toNat * 1000000)

/-- Behind the alert of an incident that becomes critical, the timer has as long to go as notifications must be apart;
    or the pause between the turns is long enough, and the timer is not due in the same turn. -/
def RepeatsLater (config : NtfyConfig) (interval : Nat) (w : NotificationWorker) (t : TimedPoll) : Prop :=
  ∀ id seconds, levelOf w.previous id ≠ some .critical → levelOf t.poll.incidents id = some .critical →
    config.severities.critical = true → config.repeatCriticalSeconds = some seconds →
      t.alerted id + interval ≤ w.due t.poll seconds ∨
        interval ≤ notificationPause ∧ t.poll.checked < w.due t.poll seconds

variable {w : NotificationWorker} {p : Poll} {config : NtfyConfig} {id : IncidentId} {seconds : UInt32}

/-! ### A turn -/

theorem repeats_eq (hseconds : config.repeatCriticalSeconds = some seconds)
    (hcritical : levelOf p.incidents id = some .critical) :
    w.repeats p config =
      if w.due p seconds ≤ p.checked then
        ((p.incidents.filter (·.level = .critical)).map (stillActivePush config),
          some (p.renewed + seconds.toNat * 1000000))
      else ([], some (w.due p seconds)) := by
  obtain ⟨incident, hfind, hlevel⟩ := Option.map_eq_some_iff.mp hcritical
  have hmem : incident ∈ p.incidents.filter (·.level = .critical) :=
    List.mem_filter.mpr ⟨List.mem_of_find?_eq_some hfind, decide_eq_true hlevel⟩
  have hne : ¬(p.incidents.filter (·.level = .critical)).isEmpty = true :=
    fun h => List.ne_nil_of_mem hmem (List.isEmpty_iff.mp h)
  rw [repeats, hseconds]
  exact if_neg hne

/-- A critical incident that is listed is repeated once when the timer is due. -/
theorem repeatsIn_pushes (hconfig : p.config = some config) (hdistinct : (p.incidents.map Incident.id).Nodup)
    (hseconds : config.repeatCriticalSeconds = some seconds) (hcritical : levelOf p.incidents id = some .critical) :
    repeatsIn id (w.pushes p) = if w.due p seconds ≤ p.checked then 1 else 0 := by
  have htest : repeatsIn id (if p.test then [testPush] else []) = 0 := by
    split <;> rfl
  have hstarts : repeatsIn id (p.incidents.filterMap (startPush config w.previous)) = 0 :=
    countP_cause_eq_zero fun x hx hstill => by
      obtain ⟨other, hcause⟩ := mem_starts hx
      cases hstill.symm.trans hcause
  have hrecoveries : repeatsIn id (w.recoveries p config) = 0 := countP_cause_eq_zero fun x hx hstill => by
    obtain ⟨incident, -, -, hcause⟩ := mem_recoveries hx
    cases hstill.symm.trans hcause
  have hcriticals : repeatsIn id ((p.incidents.filter (·.level = .critical)).map (stillActivePush config)) = 1 := by
    have hcount := @countP_id id _ hdistinct (· = .critical)
    rw [hcritical] at hcount
    rw [repeatsIn, List.countP_map, List.countP_filter]
    refine (List.countP_congr fun incident _ => ?_).trans hcount
    have hcause : ((stillActivePush config incident).cause == .stillActive id) = (incident.id == id) := by
      rw [Bool.eq_iff_iff, beq_iff_eq, beq_iff_eq]
      exact ⟨Cause.stillActive.inj, congrArg _⟩
    rw [Function.comp_apply, hcause]
  have hrepeats : repeatsIn id (w.repeats p config).1 = if w.due p seconds ≤ p.checked then 1 else 0 := by
    rw [repeats_eq hseconds hcritical]
    split
    · exact hcriticals
    · rfl
  rw [pushes_eq hconfig]
  simp only [repeatsIn, List.countP_append] at htest hstarts hrecoveries hrepeats ⊢
  omega

theorem due_of_repeat (hconfig : p.config = some config) (hdistinct : (p.incidents.map Incident.id).Nodup)
    (hseconds : config.repeatCriticalSeconds = some seconds) (hcritical : levelOf p.incidents id = some .critical)
    (h : repeatsIn id (w.pushes p) ≠ 0) : w.due p seconds ≤ p.checked := by
  rw [repeatsIn_pushes hconfig hdistinct hseconds hcritical] at h
  exact of_not_not fun hdue => h (if_neg hdue)

/-- The timer behind a turn that finds a critical incident. -/
theorem nextCriticalRepeat_turn (hconfig : p.config = some config)
    (hseconds : config.repeatCriticalSeconds = some seconds) (hcritical : levelOf p.incidents id = some .critical) :
    (w.turn p).nextCriticalRepeat =
      some (if w.due p seconds ≤ p.checked then p.renewed + seconds.toNat * 1000000 else w.due p seconds) := by
  rw [turn, hconfig]
  dsimp only
  rw [repeats_eq hseconds hcritical]
  split <;> rfl

theorem pushes_disabled (hconfig : p.config = none) : w.pushes p = [] := by
  rw [pushes, hconfig]

theorem nextCriticalRepeat_disabled (hconfig : p.config = none) :
    (w.turn p).nextCriticalRepeat = w.nextCriticalRepeat := by
  rw [turn, hconfig]

/-! ### A run -/

theorem run_append (earlier later : List Poll) : w.run (earlier ++ later) = (w.run earlier).run later :=
  List.foldl_append

variable {turns : List TimedPoll} {bound interval : Nat} {t : TimedPoll}

/-- Nothing is to be notified of before some instant: the timer is not due before it, or no turn begins before it. -/
def Quiet (bound : Nat) (w : NotificationWorker) (turns : List TimedPoll) : Prop :=
  (∃ due, w.nextCriticalRepeat = some due ∧ bound ≤ due) ∨ ∀ t ∈ turns, bound ≤ t.poll.now

/-- What a run is about: the task is given one configuration, and never two incidents with one identity. -/
structure Delivered (config : NtfyConfig) (turns : List TimedPoll) : Prop where
  config : ∀ t ∈ turns, t.poll.config = none ∨ t.poll.config = some config
  distinct : ∀ t ∈ turns, (t.poll.incidents.map Incident.id).Nodup

theorem mem_notified {x : Nat} (h : x ∈ t.notified w id) :
    x = t.alerted id ∧ alertsIn id (w.pushes t.poll) ≠ 0 ∨ x = t.repeated id ∧ repeatsIn id (w.pushes t.poll) ≠ 0 := by
  rcases List.mem_append.mp h with h | h
  · obtain ⟨hne, rfl⟩ := List.mem_replicate.mp h
    exact .inl ⟨rfl, hne⟩
  · obtain ⟨hne, rfl⟩ := List.mem_replicate.mp h
    exact .inr ⟨rfl, hne⟩

/-- An incident that was critical is not alerted of. -/
theorem alertsIn_critical (hconfig : p.config = some config) (hdistinct : (p.incidents.map Incident.id).Nodup)
    (hprevious : levelOf w.previous id = some .critical) : alertsIn id (w.pushes p) = 0 := by
  have hraises : config.severities.raises (some .critical) (levelOf p.incidents id) = false := by
    cases levelOf p.incidents id with
    | none => rfl
    | some level => cases level <;> rfl
  rw [alertsIn_pushes hconfig hdistinct, hprevious, hraises]
  rfl

/-- While an incident stays critical, the timer does not go back. -/
theorem quiet_turn (ht : t.Ordered) (hseconds : config.repeatCriticalSeconds = some seconds)
    (hconfig : t.poll.config = none ∨ t.poll.config = some config)
    (hcritical : levelOf t.poll.incidents id = some .critical) (h : Quiet bound w (t :: turns)) :
    Quiet bound (w.turn t.poll) turns := by
  rcases h with ⟨due, hdue, hbound⟩ | hlate
  · left
    rcases hconfig with hconfig | hconfig
    · exact ⟨due, (nextCriticalRepeat_disabled hconfig).trans hdue, hbound⟩
    · refine ⟨_, nextCriticalRepeat_turn hconfig hseconds hcritical, ?_⟩
      have hle : w.due t.poll seconds = due := by rw [NotificationWorker.due, hdue, Option.getD_some]
      have hchecked := (ht.checked_le id).trans (ht.repeated_le id)
      split <;> omega
  · exact .inr fun t' ht' => hlate t' (List.mem_cons_of_mem _ ht')

/-- While an incident stays critical, it is not notified of before the instant. -/
theorem le_notified (hturns : ∀ t ∈ turns, t.Ordered) (hseconds : config.repeatCriticalSeconds = some seconds)
    (hdelivered : Delivered config turns) (hcritical : ∀ t ∈ turns, levelOf t.poll.incidents id = some .critical)
    (hprevious : levelOf w.previous id = some .critical) (h : Quiet bound w turns) :
    ∀ x ∈ w.notified id turns, bound ≤ x := by
  induction turns generalizing w with
  | nil => exact fun _ => nofun
  | cons t turns ih =>
    obtain ⟨ht, hturns⟩ := List.forall_mem_cons.mp hturns
    obtain ⟨hconfig, hconfigs⟩ := List.forall_mem_cons.mp hdelivered.config
    obtain ⟨hdistinct, hdistincts⟩ := List.forall_mem_cons.mp hdelivered.distinct
    obtain ⟨hlevel, hcritical⟩ := List.forall_mem_cons.mp hcritical
    intro x hx
    rcases List.mem_append.mp hx with hx | hx
    · rcases hconfig with hconfig | hconfig
      · rw [TimedPoll.notified, pushes_disabled hconfig] at hx
        cases hx
      · rcases mem_notified hx with ⟨-, halert⟩ | ⟨rfl, hrepeat⟩
        · exact absurd (alertsIn_critical hconfig hdistinct hprevious) halert
        · have hdue := due_of_repeat hconfig hdistinct hseconds hlevel hrepeat
          have hle := ht.checked_le id
          rcases h with ⟨due, hsome, hbound⟩ | hlate
          · rw [NotificationWorker.due, hsome, Option.getD_some] at hdue
            omega
          · have hnow := hlate t (List.mem_cons_self ..)
            have hstart := (ht.now_le id).trans ((ht.alerted_le id).trans ht.set_le)
            omega
    · have hquiet := quiet_turn ht hseconds hconfig hlevel h
      exact ih hturns ⟨hconfigs, hdistincts⟩ hcritical (by rwa [previous_turn]) hquiet x hx

/-- An alert of a critical incident. -/
theorem critical_of_alert (hconfig : p.config = some config) (hdistinct : (p.incidents.map Incident.id).Nodup)
    (hlevel : levelOf p.incidents id = some .critical) (h : alertsIn id (w.pushes p) ≠ 0) :
    levelOf w.previous id ≠ some .critical ∧ config.severities.critical = true := by
  refine ⟨fun hprevious => h (alertsIn_critical hconfig hdistinct hprevious), ?_⟩
  rw [alertsIn_pushes hconfig hdistinct, hlevel] at h
  have hraises := of_not_not fun hno => h (if_neg hno)
  exact ((Bool.and_eq_true _ _).mp hraises).2

section
variable (ht : t.Ordered) (hconfig : t.poll.config = some config)
  (hdistinct : (t.poll.incidents.map Incident.id).Nodup) (hseconds : config.repeatCriticalSeconds = some seconds)
  (hlevel : levelOf t.poll.incidents id = some .critical) (hlater : RepeatsLater config interval w t)
include ht hconfig hdistinct hseconds hlevel hlater

/-- Behind a notification nothing is to be notified of for a while. -/
theorem quiet_of_notified (hinterval : interval ≤ seconds.toNat * 1000000 ∨ interval ≤ notificationPause)
    (hapart : ∀ t' ∈ turns, t.poll.renewed + notificationPause ≤ t'.poll.now) {x : Nat} (hx : x ∈ t.notified w id) :
    Quiet (x + interval) (w.turn t.poll) turns := by
  have hrenewed : x ≤ t.poll.renewed := by
    have hset := (ht.alerted_le id).trans ht.set_le
    have hchecked := ht.checked_le id
    have hrepeated := ht.repeated_le id
    rcases mem_notified hx with ⟨rfl, -⟩ | ⟨rfl, -⟩ <;> omega
  have hpause : interval ≤ notificationPause → Quiet (x + interval) (w.turn t.poll) turns := by
    intro hle
    refine .inr fun t' ht' => ?_
    have hlate := hapart t' ht'
    omega
  rcases mem_notified hx with ⟨rfl, halert⟩ | ⟨rfl, hrepeat⟩
  · obtain ⟨hprevious, hcritical⟩ := critical_of_alert hconfig hdistinct hlevel halert
    rcases hlater id seconds hprevious hlevel hcritical hseconds with hdue | ⟨hle, -⟩
    · refine .inl ⟨_, nextCriticalRepeat_turn hconfig hseconds hlevel, ?_⟩
      have hchecked := (ht.checked_le id).trans (ht.repeated_le id)
      split <;> omega
    · exact hpause hle
  · rcases hinterval with hwhole | hle
    · have hdue := due_of_repeat hconfig hdistinct hseconds hlevel hrepeat
      refine .inl ⟨_, nextCriticalRepeat_turn hconfig hseconds hlevel, ?_⟩
      have hrepeated := ht.repeated_le id
      rw [if_pos hdue]
      omega
    · exact hpause hle

/-- A repeat in the turn of the alert is late enough. -/
theorem pairwise_turn : (t.notified w id).Pairwise fun x y => x + interval ≤ y := by
  have halerts : alertsIn id (w.pushes t.poll) ≤ 1 := by
    rw [alertsIn_pushes hconfig hdistinct]
    split <;> omega
  have hrepeats : repeatsIn id (w.pushes t.poll) ≤ 1 := by
    rw [repeatsIn_pushes hconfig hdistinct hseconds hlevel]
    split <;> omega
  rw [TimedPoll.notified, List.pairwise_append, List.pairwise_replicate, List.pairwise_replicate]
  refine ⟨.inl halerts, .inl hrepeats, fun x hx y hy => ?_⟩
  obtain ⟨halert, rfl⟩ := List.mem_replicate.mp hx
  obtain ⟨hrepeat, rfl⟩ := List.mem_replicate.mp hy
  obtain ⟨hprevious, hcritical⟩ := critical_of_alert hconfig hdistinct hlevel halert
  have hdue := due_of_repeat hconfig hdistinct hseconds hlevel hrepeat
  have hchecked := ht.checked_le id
  rcases hlater id seconds hprevious hlevel hcritical hseconds with h | ⟨-, h⟩ <;> omega

end

/-- The turns in which an incident stays critical notify of it at instants that are apart. -/
theorem pairwise_notified (hpaced : Paced turns) (hseconds : config.repeatCriticalSeconds = some seconds)
    (hdelivered : Delivered config turns) (hcritical : ∀ t ∈ turns, levelOf t.poll.incidents id = some .critical)
    (hinterval : interval ≤ seconds.toNat * 1000000 ∨ interval ≤ notificationPause)
    (hlater : Each (fun before t => t.poll.config = some config →
      RepeatsLater config interval (w.run (before.map (·.poll))) t) turns) :
    (w.notified id turns).Pairwise fun x y => x + interval ≤ y := by
  induction turns generalizing w with
  | nil => exact .nil
  | cons t turns ih =>
    obtain ⟨ht, hturns⟩ := List.forall_mem_cons.mp hpaced.ordered
    obtain ⟨hapart, hrest⟩ := List.pairwise_cons.mp hpaced.apart
    obtain ⟨hconfig, hconfigs⟩ := List.forall_mem_cons.mp hdelivered.config
    obtain ⟨hdistinct, hdistincts⟩ := List.forall_mem_cons.mp hdelivered.distinct
    obtain ⟨hlevel, hcritical⟩ := List.forall_mem_cons.mp hcritical
    obtain ⟨hfirst, hlater⟩ := each_cons.mp hlater
    refine List.pairwise_append.mpr ⟨?_, ih ⟨hturns, hrest⟩ ⟨hconfigs, hdistincts⟩ hcritical hlater, ?_⟩
    · rcases hconfig with hconfig | hconfig
      · rw [TimedPoll.notified, pushes_disabled hconfig]
        exact .nil
      · exact pairwise_turn ht hconfig hdistinct hseconds hlevel (hfirst hconfig)
    · intro x hx y hy
      rcases hconfig with hconfig | hconfig
      · rw [TimedPoll.notified, pushes_disabled hconfig] at hx
        cases hx
      · have hquiet := quiet_of_notified ht hconfig hdistinct hseconds hlevel (hfirst hconfig) hinterval hapart hx
        refine le_notified hturns hseconds ⟨hconfigs, hdistincts⟩ hcritical ?_ hquiet y hy
        rwa [previous_turn]

end NotificationWorker

section
variable {config : Config} {ntfy : NtfyOutput} {millis : Nat} {turns : List TimedPoll}
open NotificationWorker

/-- A whole number of seconds that the device can count is delivered as it is. -/
theorem repeatCriticalSeconds_eq (hntfy : config.outputs.ntfy = some ntfy) (hrepeat : ntfy.repeatCritical = some millis) :
    ∃ seconds, config.ntfyConfig.repeatCriticalSeconds = some seconds ∧
      (millis % 1000 = 0 ∧ millis / 1000 < UInt32.size → millis * 1000 = seconds.toNat * 1000000) := by
  refine ⟨_, by rw [Config.ntfyConfig, hntfy]; exact congrArg (Option.map _) hrepeat, ?_⟩
  rintro ⟨hwhole, hlt⟩
  dsimp only
  rw [if_pos hlt, UInt32.toNat_ofNat_of_lt' hlt]
  omega

theorem config_of_delivered {p : Poll}
    (h : ∀ manifest, p.state.manifest = some manifest → ∃ guestCount, config.networkConfig guestCount = .ok manifest) :
    p.config = none ∨ p.config = some config.ntfyConfig := by
  rw [Poll.config]
  cases hmanifest : p.state.manifest with
  | none => exact .inl rfl
  | some manifest =>
    obtain ⟨guestCount, hok⟩ := h manifest hmanifest
    obtain ⟨http, -, hok⟩ := Except.bind_eq_ok.mp hok
    obtain rfl := Except.ok.inj hok
    rw [Option.map_some, Option.filter_some]
    split
    · exact .inr rfl
    · exact .inl rfl

/-- Under the configuration that the host delivers, the notifications of an incident that stays critical are as far
    apart as its interval says, when it is a number of seconds, or no longer than the pause between the turns, and when no
    incident becomes critical so late that the timer, which another one has started, is due too soon for it. -/
theorem repeats_apart (hntfy : config.outputs.ntfy = some ntfy) (hrepeat : ntfy.repeatCritical = some millis)
    (hpaced : Paced turns)
    (hdelivered : ∀ t ∈ turns, ∀ manifest, t.poll.state.manifest = some manifest →
      ∃ guestCount, config.networkConfig guestCount = .ok manifest)
    (hdistinct : ∀ t ∈ turns, (t.poll.incidents.map Incident.id).Nodup)
    (hinterval : millis % 1000 = 0 ∧ millis / 1000 < UInt32.size ∨ millis * 1000 ≤ notificationPause) (seed : UInt64)
    (hlater : Each (fun before t => t.poll.config = some config.ntfyConfig →
      RepeatsLater config.ntfyConfig (millis * 1000) ((new seed).run (before.map (·.poll))) t) turns) :
    ∀ before streak after id, turns = before ++ streak ++ after →
      (∀ t ∈ streak, levelOf t.poll.incidents id = some .critical) →
        (((new seed).run (before.map (·.poll))).notified id streak).Pairwise fun x y => x + millis * 1000 ≤ y := by
  obtain ⟨seconds, hseconds, hwhole⟩ := repeatCriticalSeconds_eq hntfy hrepeat
  rintro before streak after id rfl hcritical
  have hmem : ∀ {t}, t ∈ streak → t ∈ before ++ streak ++ after := fun ht =>
    List.mem_append_left _ (List.mem_append_right _ ht)
  have hsub : streak.Sublist (before ++ streak ++ after) :=
    (List.sublist_append_right before streak).trans (List.sublist_append_left _ after)
  refine pairwise_notified ⟨fun t ht => hpaced.ordered t (hmem ht), hpaced.apart.sublist hsub⟩ hseconds
    ⟨fun t ht => config_of_delivered (hdelivered t (hmem ht)), fun t ht => hdistinct t (hmem ht)⟩ hcritical ?_ ?_
  · exact hinterval.imp_left fun h => (hwhole h).le
  · intro earlier t later hsplit hconfig
    have h := hlater.middle earlier t later hsplit hconfig
    rwa [List.map_append, run_append] at h

end

/-! ### Two intervals -/

/-- Alerts of critical incidents, repeated after an interval. -/
def repeatEvery (millis : Nat) : NtfyOutput :=
  ⟨true, "https://ntfy.sh", [.critical], ⟨.high, .urgent, .default⟩, true, some millis, none⟩

def repeatingConfig (millis : Nat) : Config :=
  { Config.guestsOnly with outputs := { Config.guestsOnly.outputs with ntfy := some (repeatEvery millis) } }

theorem repeatingConfig_valid : (repeatingConfig 500).validate ⟨"1.0"⟩ = .ok () := by rfl

/-- A turn of one instant that finds the processor at a critical load. -/
def criticalTurn (millis now : Nat) : TimedPoll where
  poll :=
    { now
      state :=
        { SharedState.new with
          snapshot := some ((HealthSnapshot.ofGuests "pve" []).setIncidents .healthy [NotificationWorker.cpuCritical])
          lastUpdate := some now
          manifest := some ⟨⟨false, 80, "servatory", []⟩, (repeatingConfig millis).ntfyConfig⟩ }
      test := false
      set := now
      checked := now
      renewed := now
      published := true }
  alerted _ := now
  repeated _ := now

theorem criticalTurn_ordered (millis now : Nat) : (criticalTurn millis now).Ordered :=
  ⟨fun _ => Nat.le_refl _, fun _ => Nat.le_refl _, Nat.le_refl _, fun _ => Nat.le_refl _, fun _ => Nat.le_refl _⟩

theorem incidents_criticalTurn (millis now : Nat) :
    (criticalTurn millis now).poll.incidents = [NotificationWorker.cpuCritical] := by
  have hfresh : snapshotAge (criticalTurn millis now).poll.now (criticalTurn millis now).poll.state = some 0 :=
    congrArg some (Nat.sub_self now)
  rw [Poll.incidents, notifiableIncidents, activeIncidents, hfresh]
  rfl

theorem paced_critical : Paced [criticalTurn 60000 0, criticalTurn 60000 60000000] where
  ordered := by
    rw [List.forall_mem_cons, List.forall_mem_singleton]
    exact ⟨criticalTurn_ordered _ _, criticalTurn_ordered _ _⟩
  apart := by
    rw [List.pairwise_pair, notificationPause]
    show 0 + 5 * 1000000 ≤ 60000000
    omega

theorem delivered_critical (millis now : Nat) (manifest : NetworkConfig)
    (h : (criticalTurn millis now).poll.state.manifest = some manifest) :
    ∃ guestCount, (repeatingConfig millis).networkConfig guestCount = .ok manifest :=
  ⟨0, congrArg Except.ok (Option.some.inj h)⟩

theorem distinct_critical (millis now : Nat) : ((criticalTurn millis now).poll.incidents.map Incident.id).Nodup := by
  rw [incidents_criticalTurn]
  exact List.nodup_cons.mpr ⟨List.not_mem_nil, List.nodup_nil⟩

theorem level_criticalTurn (millis now : Nat) :
    levelOf (criticalTurn millis now).poll.incidents NotificationWorker.cpuRule = some .critical := by
  rw [incidents_criticalTurn]
  rfl

theorem repeats_apart_minute :
    ((NotificationWorker.new 0).notified NotificationWorker.cpuRule
      [criticalTurn 60000 0, criticalTurn 60000 60000000]).Pairwise fun x y => x + 60000 * 1000 ≤ y := by
  refine @repeats_apart (repeatingConfig 60000) (repeatEvery 60000) 60000 _ rfl rfl paced_critical ?_ ?_
    (.inl (by decide)) 0 ?_ [] [criticalTurn 60000 0, criticalTurn 60000 60000000] [] NotificationWorker.cpuRule rfl ?_
  · rw [List.forall_mem_cons, List.forall_mem_singleton]
    exact ⟨delivered_critical _ _, delivered_critical _ _⟩
  · rw [List.forall_mem_cons, List.forall_mem_singleton]
    exact ⟨distinct_critical _ _, distinct_critical _ _⟩
  · refine each_cons.mpr ⟨fun _ id seconds _ _ _ hseconds => .inl ?_,
      each_cons.mpr ⟨fun _ id _ hbefore hnow => ?_, each_nil⟩⟩
    · obtain rfl : UInt32.ofNat 60 = seconds := Option.some.inj hseconds
      show 0 + 60000 * 1000 ≤ 0 + (UInt32.ofNat 60).toNat * 1000000
      decide
    · have hprevious : ((NotificationWorker.new 0).run [(criticalTurn 60000 0).poll]).previous =
          [NotificationWorker.cpuCritical] :=
        NotificationWorker.previous_turn.trans (incidents_criticalTurn 60000 0)
      rw [incidents_criticalTurn] at hnow
      exact absurd (hprevious ▸ hnow) hbefore
  · rw [List.forall_mem_cons, List.forall_mem_singleton]
    exact ⟨level_criticalTurn _ _, level_criticalTurn _ _⟩

/-- Half a second is delivered as none: the start of an incident and its repeat are pushed in one turn. -/
theorem repeats_apart_fails :
    ¬∀ (config : Config) (build : SoftwareVersion) (ntfy : NtfyOutput) (millis : Nat) (turns : List TimedPoll)
      (seed : UInt64), config.validate build = .ok () → config.outputs.ntfy = some ntfy → ntfy.enabled = true →
      ntfy.repeatCritical = some millis → Paced turns →
      (∀ t ∈ turns, ∀ manifest, t.poll.state.manifest = some manifest →
        ∃ guestCount, config.networkConfig guestCount = .ok manifest) →
      (∀ t ∈ turns, (t.poll.incidents.map Incident.id).Nodup) →
      ∀ before streak after id, turns = before ++ streak ++ after →
        (∀ t ∈ streak, levelOf t.poll.incidents id = some .critical) →
          (((NotificationWorker.new seed).run (before.map (·.poll))).notified id streak).Pairwise
            fun x y => x + millis * 1000 ≤ y := by
  intro hall
  have hpaced : Paced [criticalTurn 500 0] :=
    ⟨List.forall_mem_singleton.mpr (criticalTurn_ordered 500 0), List.pairwise_singleton _ _⟩
  have hpairwise := hall (repeatingConfig 500) ⟨"1.0"⟩ (repeatEvery 500) 500 [criticalTurn 500 0] 0
    repeatingConfig_valid rfl rfl rfl hpaced (List.forall_mem_singleton.mpr (delivered_critical 500 0))
    (List.forall_mem_singleton.mpr (distinct_critical 500 0)) [] [criticalTurn 500 0] [] NotificationWorker.cpuRule rfl
    (List.forall_mem_singleton.mpr (level_criticalTurn 500 0))
  have hnotified : (NotificationWorker.new 0).notified NotificationWorker.cpuRule [criticalTurn 500 0] = [0, 0] := by
    rfl
  have hapart : [0, 0].Pairwise fun x y => x + 500 * 1000 ≤ y := hnotified ▸ hpairwise
  have hlt := List.pairwise_pair.mp hapart
  omega

end Servatory
