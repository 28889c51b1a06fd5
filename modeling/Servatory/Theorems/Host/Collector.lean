import Servatory.Host.Collector
import Servatory.Lib.Refresh
import Servatory.Theorems.Host.Budget
import Servatory.Theorems.Host.Ups

/-! What the collector reports over any series of collections: each part is what a collection has read that began less than
    the interval of the part ago, and the readings of a part are at least that interval apart. -/

namespace Servatory

namespace Collector
variable {c : Collector} {s : Collection} {events : List Event}

/-- The collections among some events. -/
def collections (events : List Event) : List Collection :=
  events.filterMap fun event =>
    match event with
    | .collect s => some s
    | .probed _ _ _ => none

/-- The collections with the times they begin at. -/
def offers (events : List Event) : List (Nat × Collection) := (collections events).map fun s => (s.now, s)

theorem collections_collect : collections (events ++ [.collect s]) = collections events ++ [s] := List.filterMap_append

theorem collections_probed {generation : UInt32} {reachable : Bool} {now : Nat} :
    collections (events ++ [.probed generation reachable now]) = collections events :=
  List.filterMap_append.trans (List.append_nil _)

theorem run_concat (c : Collector) (e : Event) : c.run (events ++ [e]) = (c.run events).next e := by
  rw [run, run, List.foldl_append]
  rfl

/-- The collections that read a part anew, by the time at which the collector has it due next. -/
def readings (next : Collector → Nat) (c : Collector) : List Event → List Collection
  | [] => []
  | .collect s :: rest => if s.now < next c then (c.collect s).readings next rest else s :: (c.collect s).readings next rest
  | .probed generation reachable now :: rest => (c.next (.probed generation reachable now)).readings next rest

/-- What never changes. -/
structure Constants where
  smartDevices : List SmartDeviceConfig
  filesystems : List String
  backupTaskHistoryLimit : UInt16
  hostName : String

def constants (c : Collector) : Constants := ⟨c.smartDevices, c.filesystems, c.backupTaskHistoryLimit, c.hostName⟩

theorem constants_next (c : Collector) (e : Event) : (c.next e).constants = c.constants := by
  cases e <;> rfl

theorem constants_run (c : Collector) (events : List Event) : (c.run events).constants = c.constants := by
  induction events generalizing c with
  | nil => rfl
  | cons e rest ih => exact (ih (c.next e)).trans (constants_next c e)

/-! ### The parts and their schedules -/

def networkPart (c : Collector) : NetworkSnapshot × Nat := (c.network, c.nextNetworkRefresh)

def filesystemPart (c : Collector) : List FilesystemUsage × Nat := (c.filesystemUsage, c.nextFilesystemRefresh)

def backupPart (c : Collector) : (BackupJobStatus × Option UInt32) × Nat := (c.backup, c.nextBackupRefresh)

def upsPart (c : Collector) : (UpsCollector × UpsSnapshot) × Nat := ((c.ups, c.upsSnapshot), c.nextUpsRefresh)

def smartPart (c : Collector) : SmartSnapshot × Nat := (c.smart, c.nextSmartRefresh)

/-- A part takes a new reading when it is due. -/
def Offers {σ : Type} (part : Collector → σ × Nat) (interval : Nat) (f : Constants → σ → Collection → σ) : Prop :=
  (∀ c s, part (c.collect s) = Refresh.offer interval (f c.constants) (part c) (s.now, s)) ∧
    ∀ c generation reachable now, part (c.next (.probed generation reachable now)) = part c

theorem offers_network :
    Offers networkPart networkRefreshInterval fun _ _ s => readNetwork (s.run 0) s.file s.sysfs := by
  refine ⟨fun c s => ?_, fun _ _ _ _ => rfl⟩
  by_cases h : s.now < c.nextNetworkRefresh <;> simp [networkPart, collect, refreshDue, Refresh.offer, h]

theorem offers_filesystems :
    Offers filesystemPart filesystemRefreshInterval fun k _ s => k.filesystems.mapIdx s.readings.filesystemUsage := by
  refine ⟨fun c s => ?_, fun _ _ _ _ => rfl⟩
  by_cases h : s.now < c.nextFilesystemRefresh <;>
    simp [filesystemPart, collect, HealthCollector.collect, refreshDue, Refresh.offer, constants, h]

theorem offers_backup :
    Offers backupPart backupRefreshInterval fun k _ s =>
      readBackupJobStatus k.hostName s.epochSeconds k.backupTaskHistoryLimit (s.run 0) := by
  refine ⟨fun c s => ?_, fun _ _ _ _ => rfl⟩
  by_cases h : s.now < c.nextBackupRefresh <;> simp [backupPart, collect, refreshDue, Refresh.offer, constants, h]

theorem offers_ups : Offers upsPart upsRefreshInterval fun _ u s => u.1.collect (s.run 0) := by
  refine ⟨fun c s => ?_, fun _ _ _ _ => rfl⟩
  by_cases h : s.now < c.nextUpsRefresh <;> simp [upsPart, collect, refreshDue, Refresh.offer, h]

theorem offers_smart : Offers smartPart smartRefreshInterval fun k _ s => readSmart s.readings k.smartDevices := by
  refine ⟨fun c s => ?_, fun _ _ _ _ => rfl⟩
  by_cases h : s.now < c.nextSmartRefresh <;>
    simp [smartPart, collect, HealthCollector.collect, refreshDue, Refresh.offer, constants, h]

section
variable {σ : Type} {part : Collector → σ × Nat} {interval : Nat} {f : Constants → σ → Collection → σ}

/-- A part depends only on the collections it has taken a reading of. -/
theorem part_run (h : Offers part interval f) (c : Collector) (events : List Event) :
    part (c.run events) =
      (((Refresh.taken interval (part c).2 (offers events)).map (·.2)).foldl (f c.constants) (part c).1,
        Refresh.deadline interval (part c).2 (offers events)) := by
  rw [← Refresh.foldl_offer]
  show part (c.run events) = (offers events).foldl (Refresh.offer interval (f c.constants)) (part c)
  induction events generalizing c with
  | nil => rfl
  | cons e rest ih =>
    have hrest : part (c.run (e :: rest)) = _ := ih (c.next e)
    rw [hrest, constants_next]
    cases e with
    | collect s =>
      show _ = (offers rest).foldl _ (Refresh.offer interval (f c.constants) (part c) (s.now, s))
      rw [← h.1 c s]
      rfl
    | probed generation reachable now =>
      rw [h.2]
      rfl

/-- Which collections read the part follows from its schedule. -/
theorem readings_eq (h : Offers part interval f) (c : Collector) (events : List Event) :
    c.readings (fun c => (part c).2) events = (Refresh.taken interval (part c).2 (offers events)).map (·.2) := by
  induction events generalizing c with
  | nil => rfl
  | cons e rest ih =>
    cases e with
    | collect s =>
      have hoffers : offers (.collect s :: rest) = (s.now, s) :: offers rest := rfl
      rw [readings, hoffers, Refresh.taken, ih, h.1 c s, Refresh.offer]
      split
      · rfl
      · rfl
    | probed generation reachable now =>
      rw [readings, ih, h.2]
      rfl

theorem offers_concat : offers (events ++ [.collect s]) = offers events ++ [(s.now, s)] := by
  rw [offers, collections_collect, List.map_append]
  rfl

/-- The readings of a part are at least an interval apart, and the last is younger than a given age. -/
def Recent (interval age now : Nat) (readings : List Collection) (P : List Collection → Collection → Prop) : Prop :=
  ∃ before last, readings = before ++ [last] ∧ readings.Pairwise (fun a b => a.now + interval ≤ b.now) ∧
    last.now ≤ now ∧ now < last.now + age ∧ P before last

theorem Recent.imp {age now : Nat} {readings : List Collection} {P Q : List Collection → Collection → Prop}
    (h : Recent interval age now readings P) (himp : ∀ before last, readings = before ++ [last] → P before last → Q before last) :
    Recent interval age now readings Q := by
  obtain ⟨before, last, heq, hapart, hle, hlt, hP⟩ := h
  exact ⟨before, last, heq, hapart, hle, hlt, himp before last heq hP⟩

theorem Recent.later {age lag now later : Nat} {readings : List Collection} {P : List Collection → Collection → Prop}
    (h : Recent interval age now readings P) (hle : now ≤ later) (hlag : later ≤ now + lag) :
    Recent interval (age + lag) later readings P := by
  obtain ⟨before, last, heq, hapart, hlast, hlt, hP⟩ := h
  exact ⟨before, last, heq, hapart, by omega, by omega, hP⟩

theorem le_of_offers (h : ∀ earlier ∈ collections events, earlier.now ≤ s.now) :
    ∀ earlier ∈ offers events, earlier.1 ≤ s.now := by
  intro earlier hmem
  obtain ⟨e, he, rfl⟩ := List.mem_map.mp hmem
  exact h e he

/-- The readings of a part are recent, and what the part holds after a collection is made of them. -/
theorem part_recent (h : Offers part interval f) (hinterval : 0 < interval) (c : Collector)
    (hsorted : ∀ earlier ∈ collections events, earlier.now ≤ s.now) (hdue : (part c).2 ≤ s.now) :
    Recent interval interval s.now (c.readings (fun c => (part c).2) (events ++ [.collect s])) fun before last =>
      (part ((c.run events).collect s)).1 = f c.constants (before.foldl (f c.constants) (part c).1) last := by
  obtain ⟨last, hlast, -, hle, hlt⟩ := @Refresh.exists_fresh _ interval (part c).2 (offers events) hinterval (s.now, s)
    (le_of_offers hsorted) hdue
  rw [← offers_concat] at hlast
  obtain ⟨before, hbefore⟩ := List.getLast?_eq_some_iff.mp hlast
  have hsub : (before ++ [last]).Sublist (offers (events ++ [.collect s])) := hbefore ▸ Refresh.taken_sublist
  have hapart : (before ++ [last]).Pairwise fun a b => a.1 + interval ≤ b.1 := hbefore ▸ Refresh.taken_apart
  -- Every offer carries the time of its own collection.
  have htime : ∀ o ∈ before ++ [last], o.1 = o.2.now := by
    intro o ho
    obtain ⟨e, -, rfl⟩ := List.mem_map.mp (hsub.subset ho)
    rfl
  have hreadings : c.readings (fun c => (part c).2) (events ++ [.collect s]) = before.map (·.2) ++ [last.2] := by
    rw [readings_eq h, hbefore, List.map_append, List.map_singleton]
  have hrun : (c.run events).collect s = c.run (events ++ [.collect s]) := (run_concat c (.collect s)).symm
  have hlasttime := htime last (List.mem_append_right _ (List.mem_singleton_self last))
  refine ⟨before.map (·.2), last.2, hreadings, ?_, hlasttime ▸ hle, hlasttime ▸ hlt, ?_⟩
  · rw [hreadings, ← List.map_singleton, ← List.map_append, List.pairwise_map]
    refine hapart.imp_of_mem fun ha hb hab => ?_
    rwa [htime _ ha, htime _ hb] at hab
  · rw [hrun, part_run h, ← readings_eq h, hreadings, List.foldl_append]
    rfl

end

theorem previousCpu_run (c : Collector) (events : List Event) :
    (c.run events).previousCpu =
      ((collections events).getLast?.map fun s => readCpuTimes (s.file "/proc/stat")).getD c.previousCpu := by
  induction events using List.reverseRecOn with
  | nil => rfl
  | append_singleton events e ih =>
    rw [run_concat]
    cases e with
    | collect s =>
      rw [collections_collect, List.getLast?_concat]
      rfl
    | probed generation reachable now =>
      rw [collections_probed]
      exact ih

theorem foldl_ups (u : UpsCollector × UpsSnapshot) (queries : List Commands) :
    (queries.foldl (fun u run => u.1.collect run) u).1 = u.1.runs queries := by
  induction queries generalizing u with
  | nil => rfl
  | cons r rest ih => exact ih _

/-- The power supply is reported from the queries that have been made of it. -/
theorem ups_of_readings (u : UpsCollector × UpsSnapshot) (before : List Collection) (last : Collection) :
    (before.foldl (fun u s => u.1.collect (s.run 0)) u).1.collect (last.run 0) =
      (u.1.runs (before.map (·.run 0))).collect (last.run 0) := by
  rw [← foldl_ups, List.foldl_map]

/-- What a snapshot holds at a time, where `s` is the last of the collections and `c` the collector at the start: what `s` has
    read of the processors, the memory and the guests, with the load since the collection before, and of every other part
    what was read less than its interval and a lag ago, with the readings of the part at least an interval apart. The power
    supply is reported from all of its readings. -/
structure MadeOf (c : Collector) (earlier : List Event) (s : Collection) (now lag : Nat) (h : HealthSnapshot) : Prop where
  network : Recent networkRefreshInterval (networkRefreshInterval + lag) now
    (c.readings (·.nextNetworkRefresh) (earlier ++ [.collect s])) fun _ r =>
      (⟨h.networkInterface, h.networkUp, h.networkMbps, h.ipv4⟩ : NetworkSnapshot) = readNetwork (r.run 0) r.file r.sysfs
  filesystems : Recent filesystemRefreshInterval (filesystemRefreshInterval + lag) now
    (c.readings (·.nextFilesystemRefresh) (earlier ++ [.collect s])) fun _ r =>
      h.filesystems = c.filesystems.mapIdx fun i path => readFilesystemUsage path (r.run i)
  backup : Recent backupRefreshInterval (backupRefreshInterval + lag) now
    (c.readings (·.nextBackupRefresh) (earlier ++ [.collect s])) fun _ r =>
      (h.backupJobStatus, h.lastSuccessfulBackupAgeSeconds) =
        readBackupJobStatus c.hostName r.epochSeconds c.backupTaskHistoryLimit (r.run 0)
  ups : Recent upsRefreshInterval (upsRefreshInterval + lag) now
    (c.readings (·.nextUpsRefresh) (earlier ++ [.collect s])) fun before r =>
      h.ups = ((c.ups.runs (before.map (·.run 0))).collect (r.run 0)).2
  smart : Recent smartRefreshInterval (smartRefreshInterval + lag) now
    (c.readings (·.nextSmartRefresh) (earlier ++ [.collect s])) fun _ r => h.smart = readSmart r.readings c.smartDevices
  load : h.cpuPercent =
    cpuPercent (((collections earlier).getLast?.map fun r => readCpuTimes (r.file "/proc/stat")).getD c.previousCpu)
      (readCpuTimes (s.file "/proc/stat"))
  memory : (h.memoryUsedMib, h.memoryTotalMib) = readMemory (s.file "/proc/meminfo")
  guests : h.guests = readGuests c.hostName (s.run 0)

/-- A snapshot as it is collected. -/
theorem madeOf_snapshot (config : Config) (hostName : Option String) (start probeStart : Nat)
    (hsorted : ∀ earlier ∈ collections events, earlier.now ≤ s.now) (hstart : start ≤ s.now) :
    MadeOf (ofConfig config hostName start probeStart) events s s.now 0
      (((ofConfig config hostName start probeStart).run events).snapshot s) := by
  generalize hc : ofConfig config hostName start probeStart = c
  have hnetwork : c.nextNetworkRefresh ≤ s.now := hc ▸ hstart
  have hfilesystems : c.nextFilesystemRefresh ≤ s.now := hc ▸ hstart
  have hbackup : c.nextBackupRefresh ≤ s.now := hc ▸ hstart
  have hups : c.nextUpsRefresh ≤ s.now := hc ▸ hstart
  have hsmart : c.nextSmartRefresh ≤ s.now := hc ▸ hstart
  refine ⟨part_recent offers_network (by decide) c hsorted hnetwork,
    part_recent offers_filesystems (by decide) c hsorted hfilesystems,
    part_recent offers_backup (by decide) c hsorted hbackup,
    (part_recent offers_ups (by decide) c hsorted hups).imp fun before last _ heq => ?_,
    part_recent offers_smart (by decide) c hsorted hsmart, ?_, rfl, ?_⟩
  · have hups : ((c.run events).snapshot s).ups = (upsPart ((c.run events).collect s)).1.2 := rfl
    rw [hups, heq, ups_of_readings]
    rfl
  · rw [← previousCpu_run]
    rfl
  · have hhost : (c.run events).hostName = c.hostName := congrArg Constants.hostName (constants_run c events)
    rw [← hhost]
    rfl

theorem MadeOf.later {earlier : List Event} {h : HealthSnapshot} {now later lag : Nat} (hmade : MadeOf c earlier s now 0 h)
    (hle : now ≤ later) (hlag : later ≤ now + lag) : MadeOf c earlier s later lag h where
  network := hmade.network.later hle hlag
  filesystems := hmade.filesystems.later hle hlag
  backup := hmade.backup.later hle hlag
  ups := hmade.ups.later hle hlag
  smart := hmade.smart.later hle hlag
  load := hmade.load
  memory := hmade.memory
  guests := hmade.guests

/-! ### A power supply that does not answer -/

section
variable {target : String} {threshold : UInt8} {before after : List Event} {l : Collection} {gap k : Nat}

theorem offers_append : offers (before ++ after) = offers before ++ offers after := by
  rw [offers, collections, List.filterMap_append, List.map_append]
  rfl

/-- The power supply is reported from its readings. -/
theorem ups_snapshot {readings : List Collection} {last : Collection} (hups : c.ups = .new (some target) threshold)
    (h : c.readings (·.nextUpsRefresh) (events ++ [.collect s]) = readings ++ [last]) :
    ((c.run events).snapshot s).ups.status = .unavailable ↔
      max threshold.toNat 1 ≤ UpsCollector.failing target ((readings ++ [last]).map (·.run 0)) := by
  have hpart : (upsPart (c.run (events ++ [.collect s]))).1 =
      (c.readings (·.nextUpsRefresh) (events ++ [.collect s])).foldl (fun u s => u.1.collect (s.run 0)) (upsPart c).1 :=
    (congrArg Prod.fst (part_run offers_ups c _)).trans (congrArg (List.foldl _ _) (readings_eq offers_ups c _).symm)
  have hsnapshot : ((c.run events).snapshot s).ups = (upsPart (c.run (events ++ [.collect s]))).1.2 := by
    rw [run_concat]
    rfl
  have hstart : (upsPart c).1.1 = .new (some target) threshold := hups
  rw [hsnapshot, hpart, h, List.foldl_append, List.foldl_cons, List.foldl_nil, ups_of_readings, hstart, List.map_append]
  exact UpsCollector.unavailable_iff_failing

/-- Collections behind another, the gaps between which are bounded, in none of which the power supply would answer. -/
structure Silence (target : String) (gap : Nat) (l : Collection) (rest : List Collection) : Prop where
  gaps : (l :: rest).IsChain fun a b => b.now ≤ a.now + gap
  silent : ∀ r ∈ rest, UpsCollector.query target (r.run 0) = none

/-- A silence comes to as many readings as there is time for. -/
theorem Silence.le_length_taken {start : Nat} (h : Silence target gap l (collections after ++ [s]))
    (hbefore : ∀ earlier ∈ collections before, earlier.now ≤ l.now) (hstart : start ≤ l.now)
    (hlong : l.now + (k + 1) * (upsRefreshInterval + gap) ≤ s.now) :
    k + 1 ≤ (Refresh.taken upsRefreshInterval
      (Refresh.deadline upsRefreshInterval start (offers before ++ [(l.now, l)])) (offers after ++ [(s.now, s)])).length := by
  obtain ⟨hlt, hle⟩ := @Refresh.deadline_concat _ upsRefreshInterval start (offers before) (by decide) (l.now, l)
    (le_of_offers hbefore) hstart
  have hmap : offers after ++ [(s.now, s)] = (collections after ++ [s]).map fun r => (r.now, r) := by
    rw [List.map_append]
    rfl
  have hchain := List.isChain_cons.mp h.gaps
  refine @Refresh.le_length_taken _ _ _ _ gap _ (by decide) _ ?_ ?_ ?_
  · rw [hmap]
    exact (List.isChain_map _).mpr hchain.2
  · rw [hmap, List.head?_map]
    intro o ho
    obtain ⟨r, hr, rfl⟩ := Option.map_eq_some_iff.mp ho
    have := hchain.1 r hr
    dsimp only at hlt ⊢
    omega
  · rw [Nat.succ_mul] at hlong
    dsimp only at hle ⊢
    omega

/-- The readings of a silence have all failed. -/
theorem Silence.failed (h : Silence target gap l (collections after ++ [s])) (due : Nat) :
    ∀ run ∈ (Refresh.taken upsRefreshInterval due (offers after ++ [(s.now, s)])).map (·.2.run 0),
      UpsCollector.query target run = none := by
  intro run hrun
  obtain ⟨o, ho, rfl⟩ := List.mem_map.mp hrun
  have hmem := Refresh.taken_sublist.subset ho
  rw [← offers_concat, offers, collections_collect] at hmem
  obtain ⟨r, hr, rfl⟩ := List.mem_map.mp hmem
  exact h.silent r hr

/-- The power supply is reported as unavailable exactly when the last readings the collector has taken of it, one for each
    failure that is put up with, have all failed; its readings are at least an interval apart, and the last is younger than
    that. Once it no longer answers, this is so after an interval and a gap between two collections for each of these
    failures. -/
theorem outage_reported (target : String) (threshold : UInt8) (devices : List SmartDeviceConfig) (filesystems : List String)
    (internet : Option InternetConfig) (limit : UInt16) (hostName : Option String) (start probeStart : Nat) :
    let c := new (some target) threshold devices filesystems internet limit hostName start probeStart
    (∀ events s, (∀ earlier ∈ collections events, earlier.now ≤ s.now) → start ≤ s.now →
      Recent upsRefreshInterval upsRefreshInterval s.now (c.readings (·.nextUpsRefresh) (events ++ [.collect s]))
        fun readings last => ((c.run events).snapshot s).ups.status = .unavailable ↔
          max threshold.toNat 1 ≤ UpsCollector.failing target ((readings ++ [last]).map (·.run 0))) ∧
    ∀ before l after s gap, (∀ earlier ∈ collections before, earlier.now ≤ l.now) → start ≤ l.now →
      Silence target gap l (collections after ++ [s]) →
      l.now + max threshold.toNat 1 * (upsRefreshInterval + gap) ≤ s.now →
      ((c.run (before ++ .collect l :: after)).snapshot s).ups.status = .unavailable := by
  intro c
  refine ⟨fun events s hsorted hstart => ?_, fun before l after s gap hbefore hstart hsilence hlong => ?_⟩
  · refine (part_recent offers_ups (by decide) c hsorted hstart).imp fun readings last hreadings _ => ?_
    exact ups_snapshot rfl hreadings
  · obtain ⟨k, hk⟩ : ∃ k, max threshold.toNat 1 = k + 1 := ⟨max threshold.toNat 1 - 1, by omega⟩
    rw [hk] at hlong
    have hlength := hsilence.le_length_taken hbefore hstart hlong
    have hoffers : offers (before ++ .collect l :: after ++ [.collect s]) =
        (offers before ++ [(l.now, l)]) ++ (offers after ++ [(s.now, s)]) := by
      rw [offers_concat, offers_append, List.append_assoc, List.append_assoc]
      rfl
    have htaken := @Refresh.taken_append _ upsRefreshInterval start (offers before ++ [(l.now, l)])
      (offers after ++ [(s.now, s)])
    rw [← hoffers] at htaken
    have hfailed := hsilence.failed (Refresh.deadline upsRefreshInterval start (offers before ++ [(l.now, l)]))
    generalize Refresh.taken upsRefreshInterval _ (offers after ++ [(s.now, s)]) = silent at htaken hlength hfailed
    generalize Refresh.taken upsRefreshInterval start (offers before ++ [(l.now, l)]) = earlier at htaken
    obtain ⟨init, last, rfl⟩ : ∃ init last, silent = init ++ [last] := by
      rcases List.eq_nil_or_concat silent with rfl | ⟨init, last, rfl⟩
      · cases hlength
      · exact ⟨init, last, List.concat_eq_append⟩
    have hreadings : (earlier ++ (init ++ [last])).map (·.2) = (earlier ++ init).map (·.2) ++ [last.2] := by
      rw [← List.append_assoc]
      exact List.map_append
    have hall : c.readings (·.nextUpsRefresh) (before ++ .collect l :: after ++ [.collect s]) =
        (earlier ++ init).map (·.2) ++ [last.2] :=
      (readings_eq offers_ups c _).trans ((congrArg (List.map (·.2)) htaken).trans hreadings)
    refine (ups_snapshot rfl hall).mpr ?_
    have hfailing := @UpsCollector.length_le_failing target (earlier.map (·.2.run 0)) _ hfailed
    rw [← hreadings, List.map_map, List.map_append, hk]
    rw [List.length_map] at hfailing
    exact hlength.trans hfailing

/-- A host at a time at which nothing on it answers. -/
def silentHost (now : Nat) : Collection := ⟨now, fun _ _ _ => none, fun _ => none, [], none, now, none, now⟩

theorem outage_reported_silentHost :
    (((new (some "ups") 1 [] [] none 1 none 0 0).run
      ([] ++ .collect (silentHost 0) :: [.collect (silentHost 10000000)])).snapshot
        (silentHost 20000000)).ups.status = .unavailable := by
  refine (outage_reported "ups" 1 [] [] none 1 none 0 0).2 [] (silentHost 0) [.collect (silentHost 10000000)]
    (silentHost 20000000) 10000000 (fun earlier h => absurd h List.not_mem_nil) (Nat.zero_le _) ⟨?_, ?_⟩ (by decide)
  · simp [collections, silentHost]
  · intro r hr
    simp only [collections, List.filterMap_cons, List.filterMap_nil, List.singleton_append, List.mem_cons, List.not_mem_nil,
      or_false] at hr
    rcases hr with rfl | rfl <;> rfl

end
end Collector

/-! ### What the main loop takes -/

namespace HealthThread
variable {t : HealthThread} {events : List Event} {e : Event} {earlier : List Event} {s : Collection}

/-- What the collector does in some events. -/
def collected (events : List Event) : List Collector.Event :=
  events.filterMap fun event =>
    match event with
    | .collector event => some event
    | .take => none

theorem run_concat (t : HealthThread) (e : Event) : t.run (events ++ [e]) = (t.run events).next e := by
  rw [run, run, List.foldl_append]
  rfl

theorem collector_run (t : HealthThread) (events : List Event) :
    (t.run events).collector = t.collector.run (collected events) := by
  induction events generalizing t with
  | nil => rfl
  | cons e rest ih =>
    have hrest : (t.run (e :: rest)).collector = _ := ih (t.next e)
    rw [hrest]
    match e with
    | .collector (.collect s) => rfl
    | .collector (.probed generation reachable now) => rfl
    | .take => rfl

/-- The result of a probe. -/
def IsProbed (e : Event) : Prop := ∃ generation reachable now, e = .collector (.probed generation reachable now)

/-- The last collection of some events, behind which nothing has been taken. -/
def Untaken (events earlier : List Event) (s : Collection) : Prop :=
  ∃ later, events = earlier ++ .collector (.collect s) :: later ∧ ∀ e ∈ later, IsProbed e

theorem untaken_concat :
    Untaken (events ++ [e]) earlier s ↔
      e = .collector (.collect s) ∧ earlier = events ∨ IsProbed e ∧ Untaken events earlier s := by
  constructor
  · rintro ⟨later, heq, hlater⟩
    rcases List.eq_nil_or_concat later with rfl | ⟨later, last, rfl⟩
    · obtain ⟨rfl, hlast⟩ := List.append_inj' heq rfl
      exact .inl ⟨List.head_eq_of_cons_eq hlast, rfl⟩
    · rw [List.concat_eq_append, ← List.cons_append, ← List.append_assoc] at heq
      obtain ⟨rfl, hlast⟩ := List.append_inj' heq rfl
      obtain rfl := List.head_eq_of_cons_eq hlast
      rw [List.concat_eq_append] at hlater
      exact .inr ⟨hlater e (List.mem_append_right _ (List.mem_singleton_self e)), later, rfl,
        fun x hx => hlater x (List.mem_append_left _ hx)⟩
  · rintro (⟨rfl, rfl⟩ | ⟨hprobed, later, rfl, hlater⟩)
    · exact ⟨[], rfl, fun x hx => absurd hx List.not_mem_nil⟩
    · refine ⟨later ++ [e], by rw [List.append_assoc, List.cons_append], fun x hx => ?_⟩
      rcases List.mem_append.mp hx with hx | hx
      · exact hlater x hx
      · exact List.mem_singleton.mp hx ▸ hprobed

/-- The slot holds the snapshot of the last collection, unless it has been taken. -/
theorem latest_run (hempty : t.latest = none) {h : HealthSnapshot} :
    (t.run events).latest = some h ↔
      ∃ earlier s, Untaken events earlier s ∧ h = (t.run earlier).collector.snapshot s := by
  induction events using List.reverseRecOn with
  | nil =>
    constructor
    · intro hsome
      rw [show t.run [] = t from rfl, hempty] at hsome
      cases hsome
    · rintro ⟨earlier, s, ⟨later, heq, -⟩, -⟩
      cases earlier <;> cases heq
  | append_singleton events e ih =>
    rw [run_concat]
    simp only [untaken_concat]
    match e with
    | .collector (.collect s) =>
      constructor
      · intro hsome
        exact ⟨events, s, .inl ⟨rfl, rfl⟩, (Option.some.inj hsome).symm⟩
      · rintro ⟨earlier, s', (⟨heq, rfl⟩ | ⟨⟨_, _, _, hprobed⟩, -⟩), rfl⟩
        · cases heq
          rfl
        · cases hprobed
    | .collector (.probed generation reachable now) =>
      refine ih.trans ⟨?_, ?_⟩
      · rintro ⟨earlier, s, huntaken, rfl⟩
        exact ⟨earlier, s, .inr ⟨⟨_, _, _, rfl⟩, huntaken⟩, rfl⟩
      · rintro ⟨earlier, s, (⟨heq, -⟩ | ⟨-, huntaken⟩), rfl⟩
        · cases heq
        · exact ⟨earlier, s, huntaken, rfl⟩
    | .take =>
      constructor
      · intro hsome
        cases hsome
      · rintro ⟨earlier, s, (⟨heq, -⟩ | ⟨⟨_, _, _, hprobed⟩, -⟩), -⟩
        · cases heq
        · cases hprobed

theorem collections_probed {later : List Event} (h : ∀ e ∈ later, IsProbed e) :
    Collector.collections (collected later) = [] := by
  induction later with
  | nil => rfl
  | cons e rest ih =>
    rw [List.forall_mem_cons] at h
    obtain ⟨⟨generation, reachable, now, rfl⟩, hrest⟩ := h
    exact ih hrest

theorem collections_untaken (h : Untaken events earlier s) :
    Collector.collections (collected events) = Collector.collections (collected earlier) ++ [s] := by
  obtain ⟨later, rfl, hlater⟩ := h
  rw [collected, List.filterMap_append, Collector.collections, List.filterMap_append]
  show _ ++ s :: Collector.collections (collected later) = _
  rw [collections_probed hlater]
  rfl

/-- Whenever the main loop takes a snapshot: it is that of the last collection, and none but the results of probes come
    between the two; so no snapshot is taken twice, or behind a newer one. With collections that follow one another within
    a period, every part of it was read less than the interval of the part and the period ago. -/
theorem taken_fresh (config : Config) (hostName : Option String) (start probeStart period now : Nat) {h : HealthSnapshot}
    (htaken : ((spawn (.ofConfig config hostName start probeStart)).run events).takeLatestHealth.1 = some h)
    (hsorted : (Collector.collections (collected events)).Pairwise fun a b => a.now ≤ b.now)
    (hnow : ∀ s ∈ (Collector.collections (collected events)).getLast?, start ≤ s.now ∧ s.now ≤ now ∧ now ≤ s.now + period) :
    ∃ earlier s, Untaken events earlier s ∧
      Collector.MadeOf (.ofConfig config hostName start probeStart) (collected earlier) s now period h := by
  obtain ⟨earlier, s, huntaken, rfl⟩ := (latest_run rfl).mp htaken
  refine ⟨earlier, s, huntaken, ?_⟩
  rw [collections_untaken huntaken] at hsorted hnow
  rw [List.getLast?_concat] at hnow
  obtain ⟨hstart, hle, hlag⟩ := hnow s rfl
  have hbefore : ∀ x ∈ Collector.collections (collected earlier), x.now ≤ s.now := fun x hx =>
    (List.pairwise_append.mp hsorted).2.2 x hx s (List.mem_singleton_self s)
  rw [collector_run]
  exact (Collector.madeOf_snapshot config hostName start probeStart hbefore hstart).later hle hlag

/-- Two collections, the snapshot of the first of which is taken. -/
def silentEvents : List Event :=
  [.collector (.collect (Collector.silentHost 0)), .take, .collector (.collect (Collector.silentHost 5000000))]

theorem taken_fresh_silentEvents :
    ∃ earlier s, Untaken silentEvents earlier s ∧
      Collector.MadeOf (.ofConfig Config.guestsOnly none 0 0) (collected earlier) s 7000000 10000000
        (((Collector.ofConfig Config.guestsOnly none 0 0).run [.collect (Collector.silentHost 0)]).snapshot
          (Collector.silentHost 5000000)) := by
  refine taken_fresh Config.guestsOnly none 0 0 10000000 7000000 rfl ?_ ?_
  · simp [silentEvents, collected, Collector.collections, Collector.silentHost]
  · rintro s ⟨⟩
    exact ⟨by decide, by decide, by decide⟩

end HealthThread
end Servatory
