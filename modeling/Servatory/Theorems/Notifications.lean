import Mathlib.Data.List.Induction
import Servatory.Firmware.Notifications
import Servatory.Lib.History

/-! Which notifications are pushed, over whole runs of the task: alerts follow the level of an incident by its identity,
    and what follows an alert comes behind it. -/

namespace Servatory
open History

/-- The level at which an incident is listed. -/
def levelOf (incidents : List Incident) (id : IncidentId) : Option HealthLevel :=
  (incidents.find? fun incident => incident.id == id).map (·.level)

/-- An incident that was not listed, or was listed lower, is listed at a selected severity. -/
def NotificationSeverities.raises (severities : NotificationSeverities) (before now : Option HealthLevel) : Bool :=
  now.any fun level => before.all (fun old => old.priority < level.priority) && severities.select level

/-- The pushes that alert of an incident. -/
def alertsIn (id : IncidentId) (pushes : List Push) : Nat := pushes.countP fun push => push.cause == .start id

theorem countP_cause_eq_zero {cause : Cause} {pushes : List Push} (h : ∀ x ∈ pushes, x.cause ≠ cause) :
    pushes.countP (fun push => push.cause == cause) = 0 :=
  List.countP_eq_zero.mpr fun x hx heq => h x hx (eq_of_beq heq)

section
variable {id : IncidentId} {incidents : List Incident} {config : NtfyConfig}

/-- Of incidents with different identities, one at most has a given one. -/
theorem countP_id (hdistinct : (incidents.map Incident.id).Nodup) (f : HealthLevel → Bool) :
    incidents.countP (fun incident => incident.id == id && f incident.level) =
      if (levelOf incidents id).any f then 1 else 0 := by
  induction incidents with
  | nil => rfl
  | cons incident rest ih =>
    obtain ⟨hnew, hrest⟩ := List.nodup_cons.mp hdistinct
    rw [List.countP_cons, levelOf, List.find?_cons]
    cases hid : incident.id == id with
    | true =>
      have hzero : rest.countP (fun other => other.id == id && f other.level) = 0 := by
        rw [List.countP_eq_zero]
        intro other hother hboth
        rw [Bool.and_eq_true] at hboth
        refine hnew (List.mem_map.mpr ⟨other, hother, ?_⟩)
        exact (eq_of_beq hboth.1).trans (eq_of_beq hid).symm
      rw [hzero, Nat.zero_add]
      rfl
    | false =>
      rw [ih hrest]
      rfl

/-- What is pushed for an incident that is new or whose level rose. -/
theorem startPush_cases (config : NtfyConfig) (previous : List Incident) (incident : Incident) :
    ((startPush config previous incident).any fun push => push.cause == .start id) =
      (incident.id == id && ((levelOf previous id).all (fun old => old.priority < incident.level.priority) &&
        config.severities.select incident.level)) := by
  rw [startPush]
  cases hid : incident.id == id with
  | true =>
    obtain rfl := eq_of_beq hid
    rw [levelOf, Option.all_map, Bool.true_and]
    split
    · rename_i hrises
      rw [Option.any_some, beq_self_eq_true]
      exact hrises.symm
    · rename_i hstays
      exact (Bool.not_eq_true _ |>.mp hstays).symm
  | false =>
    have hother : (Cause.start incident.id == Cause.start id) = false := by
      rw [beq_eq_false_iff_ne] at hid ⊢
      rintro ⟨⟩
      exact hid rfl
    split
    · exact hother
    · rfl

/-- An incident is alerted of exactly when it is raised, and once. -/
theorem alertsIn_starts (hdistinct : (incidents.map Incident.id).Nodup) (config : NtfyConfig) (previous : List Incident) :
    alertsIn id (incidents.filterMap (startPush config previous)) =
      if config.severities.raises (levelOf previous id) (levelOf incidents id) then 1 else 0 := by
  rw [NotificationSeverities.raises, ← countP_id hdistinct, alertsIn, List.countP_filterMap]
  refine List.countP_congr fun incident _ => ?_
  rw [← startPush_cases]
  cases startPush config previous incident with
  | none => rfl
  | some push => rfl

end

namespace NotificationWorker
variable {w : NotificationWorker} {p : Poll} {config : NtfyConfig} {id : IncidentId} {x : Push}

/-! ### A turn -/

/-- The parts of what a turn pushes. -/
theorem pushes_eq (hconfig : p.config = some config) :
    w.pushes p = (if p.test then [testPush] else []) ++ p.incidents.filterMap (startPush config w.previous) ++
      (w.repeats p config).1 ++ w.recoveries p config := by
  rw [pushes, hconfig]

theorem mem_starts (hx : x ∈ p.incidents.filterMap (startPush config w.previous)) : ∃ id, x.cause = .start id := by
  obtain ⟨incident, -, hpush⟩ := List.mem_filterMap.mp hx
  rw [startPush] at hpush
  split at hpush
  · cases hpush
    exact ⟨incident.id, rfl⟩
  · cases hpush

/-- A repeat is for a critical incident that is listed. -/
theorem mem_repeats (hx : x ∈ (w.repeats p config).1) :
    ∃ incident ∈ p.incidents, incident.level = .critical ∧ x.cause = .stillActive incident.id := by
  rw [repeats] at hx
  dsimp only at hx
  split at hx
  · split at hx
    · cases hx
    · split at hx
      · obtain ⟨incident, hincident, rfl⟩ := List.mem_map.mp hx
        obtain ⟨hlisted, hlevel⟩ := List.mem_filter.mp hincident
        exact ⟨incident, hlisted, of_decide_eq_true hlevel, rfl⟩
      · cases hx
  · cases hx

/-- A recovery is for an incident that was listed and no longer is. -/
theorem mem_recoveries (hx : x ∈ w.recoveries p config) :
    ∃ incident ∈ w.previous, incident.id ∉ p.incidents.map Incident.id ∧ x.cause = .recovered incident.id := by
  rw [recoveries] at hx
  split at hx
  · obtain ⟨incident, hincident, rfl⟩ := List.mem_map.mp hx
    obtain ⟨hlisted, hgone⟩ := List.mem_filter.mp hincident
    refine ⟨incident, hlisted, fun hmem => ?_, rfl⟩
    obtain ⟨new, hnew, hsame⟩ := List.mem_map.mp hmem
    rw [Bool.not_eq_true', List.any_eq_false] at hgone
    exact hgone new hnew (beq_iff_eq.mpr hsame)
  · cases hx

/-- The alerts of a turn. -/
theorem alertsIn_pushes (hconfig : p.config = some config) (hdistinct : (p.incidents.map Incident.id).Nodup) :
    alertsIn id (w.pushes p) =
      if config.severities.raises (levelOf w.previous id) (levelOf p.incidents id) then 1 else 0 := by
  have htest : alertsIn id (if p.test then [testPush] else []) = 0 := by
    split <;> rfl
  have hrepeats : alertsIn id (w.repeats p config).1 = 0 := countP_cause_eq_zero fun x hx hstart => by
    obtain ⟨incident, -, -, hcause⟩ := mem_repeats hx
    cases hstart.symm.trans hcause
  have hrecoveries : alertsIn id (w.recoveries p config) = 0 := countP_cause_eq_zero fun x hx hstart => by
    obtain ⟨incident, -, -, hcause⟩ := mem_recoveries hx
    cases hstart.symm.trans hcause
  have hstarts := @alertsIn_starts id _ hdistinct config w.previous
  rw [pushes_eq hconfig]
  simp only [alertsIn, List.countP_append] at htest hrepeats hrecoveries hstarts ⊢
  omega

@[simp] theorem previous_turn : (w.turn p).previous = p.incidents := by
  rw [turn]
  split <;> rfl

/-! ### Alerts follow the level of an incident -/

/-- How many alerts of an incident each of some turns pushes. -/
def alerts (w : NotificationWorker) (id : IncidentId) : List Poll → List Nat
  | [] => []
  | p :: polls => alertsIn id (w.pushes p) :: alerts (w.turn p) id polls

end NotificationWorker

/-- An incident is worse than before, and not healthy. -/
def worsens (before now : Option HealthLevel) : Bool :=
  now.any fun level => level != .healthy && before.all fun old => old.priority < level.priority

/-- The alerts that a sequence of levels calls for: one wherever it is worse than before. -/
def alertsOf : Option HealthLevel → List (Option HealthLevel) → List Nat
  | _, [] => []
  | before, now :: rest => (if worsens before now then 1 else 0) :: alertsOf now rest

section
variable {before b now : Option HealthLevel} {levels : List (Option HealthLevel)} {i j : Nat} {level : HealthLevel}

theorem not_worsens_self (b : Option HealthLevel) : worsens b b = false := by
  rcases b with _ | _ | _ | _ <;> rfl

/-- Behind the first level, an alert compares with the level just before. -/
theorem getElem?_alertsOf (hb : levels[i]? = some b) (hnow : levels[i + 1]? = some now) :
    (alertsOf before levels)[i + 1]? = some (if worsens b now then 1 else 0) := by
  induction levels generalizing before i with
  | nil => cases hb
  | cons first rest ih =>
    rw [List.getElem?_cons_succ] at hnow
    rw [alertsOf, List.getElem?_cons_succ]
    cases i with
    | zero =>
      obtain rfl := Option.some.inj hb
      cases rest with
      | nil => cases hnow
      | cons second rest =>
        obtain rfl := Option.some.inj hnow
        rfl
    | succ i =>
      rw [List.getElem?_cons_succ] at hb
      exact ih hb hnow

/-- An incident whose level does not change is not alerted of. -/
theorem alertsOf_same (hb : levels[i]? = some b) (hsame : levels[i + 1]? = some b) :
    (alertsOf before levels)[i + 1]? = some 0 := by
  rw [getElem?_alertsOf hb hsame, not_worsens_self]
  rfl

/-- Before an alert at a level there is a lower one, behind any other alert at the level. -/
theorem alertsOf_between (hlt : i < j) (hi : levels[i]? = some (some level)) (hj : levels[j]? = some (some level))
    (halert : (alertsOf before levels)[j]? = some 1) :
    ∃ k lower, i < k ∧ k < j ∧ levels[k]? = some lower ∧ lower.all fun old => old.priority < level.priority := by
  obtain ⟨k, rfl⟩ := Nat.exists_eq_add_of_lt hlt
  have hlength : i + k < levels.length := by
    have := (List.getElem?_eq_some_iff.mp hj).1
    omega
  obtain ⟨lower, hlower⟩ : ∃ lower, levels[i + k]? = some lower := ⟨_, List.getElem?_eq_getElem hlength⟩
  rw [getElem?_alertsOf hlower hj] at halert
  have hworse : worsens lower (some level) = true := by
    cases h : worsens lower (some level) with
    | true => rfl
    | false =>
      rw [h] at halert
      cases halert
  have hbelow : lower.all (fun old => old.priority < level.priority) = true := by
    rw [worsens, Option.any_some, Bool.and_eq_true] at hworse
    exact hworse.2
  refine ⟨i + k, lower, ?_, Nat.lt_succ_self _, hlower, hbelow⟩
  rcases Nat.eq_zero_or_pos k with rfl | hpos
  · obtain rfl := Option.some.inj (hlower.symm.trans hi)
    rw [Option.all_some, decide_eq_true_eq] at hbelow
    exact absurd hbelow (UInt8.lt_irrefl _)
  · exact Nat.lt_add_of_pos_right hpos

end

namespace NotificationWorker
variable {w : NotificationWorker} {p : Poll} {polls : List Poll} {id : IncidentId}

/-- A run alerts of an incident as its levels call for, whatever the other incidents are. -/
theorem alerts_eq (hboth : ∀ p ∈ polls, ∃ config, p.config = some config ∧ config.severities = ⟨true, true⟩)
    (hdistinct : ∀ p ∈ polls, (p.incidents.map Incident.id).Nodup) :
    w.alerts id polls = alertsOf (levelOf w.previous id) (polls.map fun p => levelOf p.incidents id) := by
  induction polls generalizing w with
  | nil => rfl
  | cons p rest ih =>
    obtain ⟨config, hconfig, hseverities⟩ := hboth p (List.mem_cons_self ..)
    have hraises : ∀ before now, config.severities.raises before now = worsens before now := by
      intro before now
      rw [hseverities]
      rcases now with _ | _ | _ | _ <;> simp [NotificationSeverities.raises, worsens, NotificationSeverities.select]
    have hrest : (w.turn p).alerts id rest = _ :=
      ih (fun q hq => hboth q (List.mem_cons_of_mem p hq)) fun q hq => hdistinct q (List.mem_cons_of_mem p hq)
    rw [alerts, alertsIn_pushes hconfig (hdistinct p (List.mem_cons_self ..)), hraises, hrest, previous_turn,
      List.map_cons, alertsOf]

/-- In every run that selects both severities, the alerts of an incident are those that its own levels call for: one at
    each turn where it is at warning or critical and was absent or lower at the turn before. So a level that stays, under
    whatever message and in whatever place, is not alerted of, and between two alerts at one level it is absent or lower
    at some turn. -/
theorem alerts_follow_levels (seed : UInt64)
    (hboth : ∀ p ∈ polls, ∃ config, p.config = some config ∧ config.severities = ⟨true, true⟩)
    (hdistinct : ∀ p ∈ polls, (p.incidents.map Incident.id).Nodup) (id : IncidentId) :
    (new seed).alerts id polls = alertsOf none (polls.map fun p => levelOf p.incidents id) ∧
      (∀ (i : Nat) (p q : Poll), polls[i]? = some p → polls[i + 1]? = some q →
        levelOf p.incidents id = levelOf q.incidents id → ((new seed).alerts id polls)[i + 1]? = some 0) ∧
      ∀ (i j : Nat) (p q : Poll) (level : HealthLevel), i < j → polls[i]? = some p → polls[j]? = some q →
        levelOf p.incidents id = some level → levelOf q.incidents id = some level →
        ((new seed).alerts id polls)[j]? = some 1 → ∃ k lower, i < k ∧ k < j ∧ polls[k]? = some lower ∧
          (levelOf lower.incidents id).all fun old => old.priority < level.priority := by
  have halerts : (new seed).alerts id polls = alertsOf none (polls.map fun p => levelOf p.incidents id) :=
    alerts_eq hboth hdistinct
  have hlevel : ∀ {i : Nat} {p : Poll}, polls[i]? = some p →
      (polls.map fun p => levelOf p.incidents id)[i]? = some (levelOf p.incidents id) := by
    intro i p hp
    rw [List.getElem?_map, hp, Option.map_some]
  refine ⟨halerts, fun i p q hp hq hsame => ?_, fun i j p q level hlt hp hq hplevel hqlevel halert => ?_⟩
  · rw [halerts]
    exact alertsOf_same (hlevel hp) (hsame ▸ hlevel hq)
  · rw [halerts] at halert
    obtain ⟨k, lower, hik, hkj, hlower, hbelow⟩ :=
      alertsOf_between hlt (hplevel ▸ hlevel hp) (hqlevel ▸ hlevel hq) halert
    rw [List.getElem?_map] at hlower
    obtain ⟨poll, hpoll, rfl⟩ := Option.map_eq_some_iff.mp hlower
    exact ⟨k, poll, hik, hkj, hpoll, hbelow⟩

/-- A turn that finds some incidents in a fresh snapshot. -/
def listing (severities : NotificationSeverities) (incidents : List Incident) : Poll where
  now := 0
  state :=
    { SharedState.new with
      snapshot := some ((HealthSnapshot.ofGuests "pve" []).setIncidents .healthy incidents)
      lastUpdate := some 0
      manifest := some ⟨⟨true, 80, "servatory", []⟩,
        ⟨true, severities, true, .high, .urgent, .default, some 60, "https://ntfy.sh", none⟩⟩ }
  test := false
  set := 0
  checked := 0
  renewed := 0
  published := true

def cpuRule : IncidentId := .rule ⟨"cpu"⟩
def cpuWarning : Incident := ⟨cpuRule, .warning, "CPU 85%"⟩
def cpuCritical : Incident := ⟨cpuRule, .critical, "CPU 97%"⟩

theorem alerts_follow_levels_cpu :
    (new 0).alerts cpuRule [listing ⟨true, true⟩ [cpuWarning], listing ⟨true, true⟩ [hostOffline, cpuCritical]] =
      [1, 1] := by
  refine (alerts_follow_levels 0 ?_ (by decide) cpuRule).1
  intro p hp
  rcases List.mem_cons.mp hp with rfl | hp
  · exact ⟨_, rfl, rfl⟩
  · obtain rfl := List.mem_singleton.mp hp
    exact ⟨_, rfl, rfl⟩

/-! ### What follows an alert -/

/-- The incidents that the last turn listed. -/
def lastListed (polls : List Poll) : List Incident := (polls.getLast?.map Poll.incidents).getD []

/-- The turns, each behind the incidents of the one before. -/
def turns (before : List Incident) : List Poll → List (List Incident × Poll)
  | [] => []
  | p :: polls => (before, p) :: turns p.incidents polls

/-- At a turn an incident was absent or lower before, and is listed at a severity that is selected. -/
def Raised (id : IncidentId) (t : List Incident × Poll) : Prop :=
  ∃ config, t.2.config = some config ∧ config.severities.raises (levelOf t.1 id) (levelOf t.2.incidents id) = true

/-- An incident was raised to a selected severity, and has been listed ever since. -/
def RaisedSince (id : IncidentId) (polls : List Poll) : Prop :=
  Since (Raised id) (fun t => levelOf t.2.incidents id = none) (turns [] polls)

/-- An alert of an incident was pushed, and no recovery behind it. -/
def Alerted (id : IncidentId) (log : List Push) : Prop :=
  Since (fun x => x.cause = .start id) (fun x => x.cause = .recovered id) log

theorem lastListed_concat : lastListed (polls ++ [p]) = p.incidents := by
  rw [lastListed, List.getLast?_concat, Option.map_some, Option.getD_some]

theorem turns_concat (before : List Incident) :
    turns before (polls ++ [p]) = turns before polls ++ [((polls.getLast?.map Poll.incidents).getD before, p)] := by
  induction polls generalizing before with
  | nil => rfl
  | cons q rest ih =>
    rw [List.cons_append, turns, turns, ih, List.cons_append]
    cases rest with
    | nil => rfl
    | cons r rest =>
      rw [List.getLast?_cons_cons, List.getLast?_eq_some_getLast (List.cons_ne_nil r rest)]
      rfl

/-- An incident is raised at the last turn, or still listed after it was. -/
theorem raisedSince_concat :
    RaisedSince id (polls ++ [p]) ↔
      Raised id (lastListed polls, p) ∨ RaisedSince id polls ∧ levelOf p.incidents id ≠ none := by
  rw [RaisedSince, turns_concat, since_concat]
  rfl

theorem run_concat : w.run (polls ++ [p]) = (w.run polls).turn p := by
  rw [run, run, List.foldl_append]
  rfl

theorem log_concat : w.log (polls ++ [p]) = w.log polls ++ (w.run polls).pushes p := by
  induction polls generalizing w with
  | nil => exact List.append_nil _
  | cons q rest ih =>
    rw [List.cons_append, log, log, ih, List.append_assoc]
    rfl

theorem previous_run (seed : UInt64) (polls : List Poll) : ((new seed).run polls).previous = lastListed polls := by
  rcases List.eq_nil_or_concat polls with rfl | ⟨earlier, p, rfl⟩
  · rfl
  · rw [List.concat_eq_append, run_concat, previous_turn, lastListed_concat]

theorem levelOf_of_notMem {incidents : List Incident} (h : id ∉ incidents.map Incident.id) :
    levelOf incidents id = none := by
  rw [levelOf, Option.map_eq_none_iff, List.find?_eq_none]
  intro incident hincident hid
  exact h (List.mem_map.mpr ⟨incident, hincident, eq_of_beq hid⟩)

/-- The pushes of a turn that is enabled, by their cause. -/
theorem mem_pushes {x : Push} {config : NtfyConfig} (hconfig : p.config = some config) (hx : x ∈ w.pushes p) :
    x.cause = .test ∨ x ∈ p.incidents.filterMap (startPush config w.previous) ∨ x ∈ (w.repeats p config).1 ∨
      x ∈ w.recoveries p config := by
  rw [pushes_eq hconfig, List.mem_append, List.mem_append, List.mem_append] at hx
  rcases hx with ((htest | hstart) | hrepeat) | hrecovery
  · split at htest
    · rw [List.mem_singleton.mp htest]
      exact .inl rfl
    · cases htest
  · exact .inr (.inl hstart)
  · exact .inr (.inr (.inl hrepeat))
  · exact .inr (.inr (.inr hrecovery))

/-- Only an incident that is no longer listed has recovered. -/
theorem levelOf_of_recovered {x : Push} (hx : x ∈ w.pushes p) (hcause : x.cause = .recovered id) :
    levelOf p.incidents id = none := by
  cases hconfig : p.config with
  | none =>
    rw [pushes, hconfig] at hx
    cases hx
  | some config =>
    rcases mem_pushes hconfig hx with htest | hstart | hrepeat | hrecovery
    · cases htest.symm.trans hcause
    · obtain ⟨id', hcause'⟩ := mem_starts hstart
      cases hcause'.symm.trans hcause
    · obtain ⟨incident, -, -, hcause'⟩ := mem_repeats hrepeat
      cases hcause'.symm.trans hcause
    · obtain ⟨incident, -, hgone, hcause'⟩ := mem_recoveries hrecovery
      cases hcause'.symm.trans hcause
      exact levelOf_of_notMem hgone

variable {seed : UInt64} {x : Push} {before after : List Push}

/-- An alert is pushed wherever an incident is raised. -/
theorem exists_start {config : NtfyConfig} (hdistinct : (p.incidents.map Incident.id).Nodup)
    (hraised : config.severities.raises (levelOf w.previous id) (levelOf p.incidents id) = true) :
    ∃ x ∈ p.incidents.filterMap (startPush config w.previous), x.cause = .start id := by
  have halert : alertsIn id (p.incidents.filterMap (startPush config w.previous)) = 1 := by
    rw [alertsIn_starts hdistinct, hraised]
    rfl
  obtain ⟨x, hx, hcause⟩ := List.countP_pos_iff.mp (halert ▸ Nat.one_pos)
  exact ⟨x, hx, eq_of_beq hcause⟩

theorem levelOf_of_raises {severities : NotificationSeverities} {old now : Option HealthLevel}
    (h : severities.raises old now = true) : now ≠ none := by
  rintro rfl
  cases h

/-- An incident that was raised, and listed ever since, has been alerted of, and has not recovered since. -/
theorem alerted_of_raised (hdistinct : ∀ p ∈ polls, (p.incidents.map Incident.id).Nodup) (h : RaisedSince id polls) :
    Alerted id ((new seed).log polls) := by
  induction polls using List.reverseRecOn with
  | nil =>
    obtain ⟨before, t, after, hnil, -⟩ := h
    cases before <;> cases hnil
  | append_singleton polls p ih =>
    have hlisted : ∀ {w : NotificationWorker}, levelOf p.incidents id ≠ none →
        ∀ x ∈ w.pushes p, ¬x.cause = .recovered id := fun hne x hx hcause => hne (levelOf_of_recovered hx hcause)
    rw [log_concat]
    rcases raisedSince_concat.mp h with ⟨config, hconfig, hraised⟩ | ⟨hsince, hne⟩
    · rw [← previous_run seed] at hraised
      obtain ⟨x, hx, hcause⟩ := exists_start (hdistinct p (by simp)) hraised
      refine Since.behind (Since.of_mem ?_ hcause (hlisted (levelOf_of_raises hraised)))
      rw [pushes_eq hconfig]
      exact List.mem_append_left _ (List.mem_append_left _ (List.mem_append_right _ hx))
    · exact Since.append (ih (fun q hq => hdistinct q (List.mem_append_left [p] hq)) hsince) (hlisted hne)

/-- The configuration of a turn selects a severity. -/
def Selects (level : HealthLevel) (p : Poll) : Prop :=
  ∃ config, p.config = some config ∧ config.severities.select level = true

/-- Where every severity from some level up is selected, an incident at such a level has been raised. -/
theorem raisedSince_of_selected {floor level : HealthLevel}
    (hselects : ∀ q ∈ polls, ∀ l : HealthLevel, floor.priority ≤ l.priority → Selects l q)
    (hlevel : levelOf (lastListed polls) id = some level) (hfloor : floor.priority ≤ level.priority) :
    RaisedSince id polls := by
  induction polls using List.reverseRecOn generalizing level with
  | nil => cases hlevel
  | append_singleton polls p ih =>
    rw [lastListed_concat] at hlevel
    obtain ⟨config, hconfig, hselected⟩ := hselects p (by simp) level hfloor
    rw [raisedSince_concat]
    rcases hold : levelOf (lastListed polls) id with _ | old
    · refine .inl ⟨config, hconfig, ?_⟩
      rw [NotificationSeverities.raises, hlevel, hold, Option.any_some, hselected]
      rfl
    · rcases UInt8.lt_or_le old.priority level.priority with hlt | hle
      · refine .inl ⟨config, hconfig, ?_⟩
        rw [NotificationSeverities.raises, hlevel, hold, Option.any_some, hselected, Option.all_some, decide_eq_true hlt]
        rfl
      · refine .inr ⟨ih (fun q hq => hselects q (List.mem_append_left [p] hq)) hold (UInt8.le_trans hfloor hle), ?_⟩
        rw [hlevel]
        rintro ⟨⟩

theorem levelOf_of_mem {incidents : List Incident} (hdistinct : (incidents.map Incident.id).Nodup) {incident : Incident}
    (h : incident ∈ incidents) : levelOf incidents incident.id = some incident.level := by
  induction incidents with
  | nil => cases h
  | cons first rest ih =>
    obtain ⟨hnew, hrest⟩ := List.nodup_cons.mp hdistinct
    rw [levelOf, List.find?_cons]
    rcases List.mem_cons.mp h with rfl | hmem
    · rw [beq_self_eq_true]
      rfl
    · have hne : (first.id == incident.id) = false := by
        rw [beq_eq_false_iff_ne]
        intro heq
        exact hnew (heq ▸ List.mem_map_of_mem hmem)
      rw [hne]
      exact ih hrest hmem

/-- A repeat stands behind the alerts of its turn, and its incident is critical. -/
theorem stillActive_position (hdistinct : (p.incidents.map Incident.id).Nodup) (hx : w.pushes p = before ++ x :: after)
    (hcause : x.cause = .stillActive id) :
    levelOf p.incidents id = some .critical ∧
      ∀ config, p.config = some config → ∀ y ∈ p.incidents.filterMap (startPush config w.previous), y ∈ before := by
  have hmem : x ∈ w.pushes p := hx ▸ List.mem_append_right before (List.mem_cons_self ..)
  have hnot : ∀ config, x ∉ (if p.test then [testPush] else []) ++
      p.incidents.filterMap (startPush config w.previous) := by
    intro config hin
    rcases List.mem_append.mp hin with htest | hstart
    · split at htest
      · rw [List.mem_singleton.mp htest] at hcause
        cases hcause
      · cases htest
    · obtain ⟨id', hcause'⟩ := mem_starts hstart
      cases hcause'.symm.trans hcause
  constructor
  · cases hconfig : p.config with
    | none =>
      rw [pushes, hconfig] at hmem
      cases hmem
    | some config =>
      rw [pushes_eq hconfig, List.append_assoc] at hmem
      rcases List.mem_append.mp hmem with hin | hin
      · exact absurd hin (hnot config)
      · rcases List.mem_append.mp hin with hrepeat | hrecovery
        · obtain ⟨incident, hincident, hlevel, hcause'⟩ := mem_repeats hrepeat
          cases hcause'.symm.trans hcause
          rw [levelOf_of_mem hdistinct hincident, hlevel]
        · obtain ⟨incident, -, -, hcause'⟩ := mem_recoveries hrecovery
          cases hcause'.symm.trans hcause
  · intro config hconfig y hy
    rw [pushes_eq hconfig, List.append_assoc] at hx
    rcases List.append_eq_append_iff.mp hx with ⟨rest, rfl, -⟩ | ⟨rest, hstarts, hrest⟩
    · exact List.mem_append_left rest (List.mem_append_right _ hy)
    · cases rest with
      | nil =>
        rw [List.append_nil] at hstarts
        exact hstarts ▸ List.mem_append_right _ hy
      | cons z rest =>
        obtain ⟨rfl, -⟩ := List.cons.inj hrest
        exact absurd (hstarts ▸ List.mem_append_right before (List.mem_cons_self ..)) (hnot config)

/-- An incident recovers once in a turn. -/
theorem recovered_once (hdistinct : (w.previous.map Incident.id).Nodup) :
    (w.pushes p).countP (fun x => x.cause == .recovered id) ≤ 1 := by
  cases hconfig : p.config with
  | none =>
    rw [pushes, hconfig]
    exact Nat.zero_le 1
  | some config =>
    have hstarts : (p.incidents.filterMap (startPush config w.previous)).countP (fun x => x.cause == .recovered id) = 0 := by
      refine List.countP_eq_zero.mpr fun x hx hcause => ?_
      obtain ⟨id', hcause'⟩ := mem_starts hx
      cases hcause'.symm.trans (eq_of_beq hcause)
    have hrepeats : (w.repeats p config).1.countP (fun x => x.cause == .recovered id) = 0 := by
      refine List.countP_eq_zero.mpr fun x hx hcause => ?_
      obtain ⟨incident, -, -, hcause'⟩ := mem_repeats hx
      cases hcause'.symm.trans (eq_of_beq hcause)
    have hrecoveries : (w.recoveries p config).countP (fun x => x.cause == .recovered id) ≤ 1 := by
      rw [recoveries]
      split
      · have honce := @countP_id id _ hdistinct fun _ => true
        have hle : (if (levelOf w.previous id).any fun _ => true then 1 else 0) ≤ 1 := by split <;> decide
        rw [List.countP_map, List.countP_filter]
        refine Nat.le_trans (List.countP_mono_left fun incident _ hboth => ?_) (honce ▸ hle)
        rw [Bool.and_eq_true] at hboth
        have hsame : Cause.recovered incident.id = Cause.recovered id := eq_of_beq hboth.1
        cases hsame
        rw [beq_self_eq_true, Bool.and_true]
      · exact Nat.zero_le 1
    have htest : (if p.test then [testPush] else []).countP (fun x => x.cause == .recovered id) = 0 := by
      split <;> rfl
    rw [pushes_eq hconfig, List.countP_append, List.countP_append, List.countP_append, htest, hstarts, hrepeats]
    omega

/-- Whatever follows an alert, a repeat or a recovery, comes while its incident is critical or has just gone. If the
    incident was raised to a selected severity since it was last absent, an alert of it was pushed before, and no
    recovery since. It was, if critical is selected and it is critical now, or if it was last listed at a level from
    which every severity up is selected. -/
theorem follow_ups (seed : UInt64) (hdistinct : ∀ q ∈ polls ++ [p], (q.incidents.map Incident.id).Nodup)
    (hx : ((new seed).run polls).pushes p = before ++ x :: after) (id : IncidentId) :
    (x.cause = .stillActive id → levelOf p.incidents id = some .critical ∧
        (RaisedSince id (polls ++ [p]) → Alerted id ((new seed).log polls ++ before)) ∧
        ((∀ q ∈ polls ++ [p], Selects .critical q) → RaisedSince id (polls ++ [p]))) ∧
      (x.cause = .recovered id → levelOf p.incidents id = none ∧
        (RaisedSince id polls → Alerted id ((new seed).log polls ++ before)) ∧
        ∀ floor level : HealthLevel, levelOf (lastListed polls) id = some level → floor.priority ≤ level.priority →
          (∀ q ∈ polls, ∀ l : HealthLevel, floor.priority ≤ l.priority → Selects l q) → RaisedSince id polls) := by
  have hearlier : ∀ q ∈ polls, (q.incidents.map Incident.id).Nodup := fun q hq => hdistinct q (List.mem_append_left [p] hq)
  have hdistinct' := hdistinct p (List.mem_append_right polls (List.mem_singleton_self p))
  constructor
  · intro hcause
    obtain ⟨hcritical, hstarts⟩ := stillActive_position hdistinct' hx hcause
    have hlisted : ∀ y ∈ before, ¬y.cause = .recovered id := by
      intro y hy hrecovered
      have hmem : y ∈ ((new seed).run polls).pushes p := hx ▸ List.mem_append_left _ hy
      cases hcritical.symm.trans (levelOf_of_recovered hmem hrecovered)
    refine ⟨hcritical, fun hraised => ?_, fun hselects => ?_⟩
    · rcases raisedSince_concat.mp hraised with ⟨config, hconfig, hnow⟩ | ⟨hsince, -⟩
      · rw [← previous_run seed] at hnow
        obtain ⟨y, hy, hstart⟩ := exists_start hdistinct' hnow
        exact Since.behind (Since.of_mem (hstarts config hconfig y hy) hstart hlisted)
      · exact Since.append (alerted_of_raised hearlier hsince) hlisted
    · refine @raisedSince_of_selected _ _ .critical _ (fun q hq l hl => ?_) (lastListed_concat ▸ hcritical) UInt8.le_rfl
      cases l with
      | critical => exact hselects q hq
      | warning => exact absurd hl (by decide)
      | healthy => exact absurd hl (by decide)
  · intro hcause
    have hmem : x ∈ ((new seed).run polls).pushes p := hx ▸ List.mem_append_right before (List.mem_cons_self ..)
    refine ⟨levelOf_of_recovered hmem hcause, fun hraised => ?_, fun floor level hlevel hfloor hselects => ?_⟩
    · refine Since.append (alerted_of_raised hearlier hraised) fun y hy hrecovered => ?_
      have hprevious : (((new seed).run polls).previous.map Incident.id).Nodup := by
        rw [previous_run]
        rcases List.eq_nil_or_concat polls with rfl | ⟨earlier, q, rfl⟩
        · exact List.nodup_nil
        · rw [List.concat_eq_append, lastListed_concat]
          exact hearlier q (by simp)
      have honce := @recovered_once _ p id hprevious
      have hfirst : 0 < before.countP (fun x => x.cause == .recovered id) :=
        List.countP_pos_iff.mpr ⟨y, hy, beq_iff_eq.mpr hrecovered⟩
      rw [hx, List.countP_append, List.countP_cons, hcause, beq_self_eq_true, if_pos rfl] at honce
      omega
    · exact raisedSince_of_selected hselects hlevel hfloor

theorem follow_ups_cpu : Alerted cpuRule ((new 0).log [listing ⟨true, true⟩ [cpuWarning]]) := by
  have hpushes : ((new 0).run [listing ⟨true, true⟩ [cpuWarning]]).pushes (listing ⟨true, true⟩ []) =
      [] ++ ⟨.recovered cpuRule, "RECOVERED: CPU 85%", .default, true⟩ :: [] := by decide
  obtain ⟨-, halerted, hraised⟩ := (follow_ups 0 (by decide) hpushes cpuRule).2 rfl
  have hselects : ∀ q ∈ [listing ⟨true, true⟩ [cpuWarning]], ∀ l : HealthLevel,
      HealthLevel.warning.priority ≤ l.priority → Selects l q := by
    intro q hq l hl
    obtain rfl := List.mem_singleton.mp hq
    refine ⟨_, rfl, ?_⟩
    cases l with
    | healthy => exact absurd hl (by decide)
    | warning => rfl
    | critical => rfl
  have h := halerted (hraised .warning .warning rfl (by decide) hselects)
  rwa [List.append_nil] at h

/-- Only critical incidents are selected: a warning that goes is pushed as recovered, and nothing was pushed before. -/
theorem follow_ups_orphan :
    (∀ p ∈ [listing ⟨false, true⟩ [cpuWarning], listing ⟨false, true⟩ []],
        p.config.isSome ∧ (p.incidents.map Incident.id).Nodup) ∧
      ((new 0).run [listing ⟨false, true⟩ [cpuWarning]]).pushes (listing ⟨false, true⟩ []) =
        [⟨.recovered cpuRule, "RECOVERED: CPU 85%", .default, true⟩] ∧
      ¬Alerted cpuRule ((new 0).log [listing ⟨false, true⟩ [cpuWarning]]) := by
  refine ⟨by decide, by decide, ?_⟩
  have hnothing : (new 0).log [listing ⟨false, true⟩ [cpuWarning]] = [] := by decide
  rw [hnothing]
  rintro ⟨before, x, after, hlog, -⟩
  exact List.append_ne_nil_of_right_ne_nil before (List.cons_ne_nil x after) hlog.symm

end NotificationWorker
end Servatory
