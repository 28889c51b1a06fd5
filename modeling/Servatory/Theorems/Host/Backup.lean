import Servatory.Host.Backup

/-! The status of the backups and the order of the lists that it is read from. Of the tasks that began last, the sort
    leaves the one last that was listed last; the jobs are only counted. -/

namespace Servatory

/-- None of the tasks began later. -/
def Latest (tasks : List Json) (task : Json) : Prop := task ∈ tasks ∧ ∀ other ∈ tasks, startTime other ≤ startTime task

/-- Both tasks are running, or both have failed, or both are done. -/
def SameOutcome (task other : Json) : Prop :=
  (endTime task).isSome = (endTime other).isSome ∧
    ((endTime task).isSome → taskSucceeded task = taskSucceeded other)

def lastSuccessAge (tasks : List Json) (nowSeconds : Nat) : Option UInt32 :=
  ((tasks.filter taskSucceeded).filterMap endTime).max?.map fun finished =>
    (min (nowSeconds - finished) (UInt32.size - 1)).toUInt32

variable {jobs jobs' tasks tasks' before after : List Json} {job task other : Json} {hostName : String}
  {nowSeconds : Nat}

theorem latestTaskStatus_eq_iff : latestTaskStatus task = latestTaskStatus other ↔ SameOutcome task other := by
  rw [latestTaskStatus, latestTaskStatus, SameOutcome]
  cases endTime task <;> cases endTime other <;> cases taskSucceeded task <;> cases taskSucceeded other <;> simp

theorem Latest.of_perm (h : Latest tasks task) (hperm : tasks'.Perm tasks) : Latest tasks' task :=
  ⟨hperm.mem_iff.mpr h.1, fun other hother => h.2 other (hperm.mem_iff.mp hother)⟩

theorem max?_perm {l l' : List Nat} (h : l'.Perm l) : l'.max? = l.max? := by
  refine Option.ext fun a => ?_
  rw [List.max?_eq_some_iff, List.max?_eq_some_iff, h.mem_iff]
  exact and_congr_right fun _ => forall_congr' fun b => by rw [h.mem_iff]

theorem lastSuccessAge_perm (h : tasks'.Perm tasks) : lastSuccessAge tasks' nowSeconds = lastSuccessAge tasks nowSeconds := by
  rw [lastSuccessAge, lastSuccessAge, max?_perm ((h.filter _).filterMap _)]

/-! ### What is returned -/

theorem parse_noJob (h : enabledJobs hostName jobs = []) (tasks : Option Json) (nowSeconds : Nat) :
    parseBackupJobStatus (some (.array jobs)) tasks hostName nowSeconds = (.noJob, none) := by
  rw [parseBackupJobStatus.eq_def]
  exact if_pos (List.length_eq_zero_iff.mpr h)

theorem parse_stale (hjobs : enabledJobs hostName jobs ≠ []) (htasks : localTasks hostName tasks = []) (nowSeconds : Nat) :
    parseBackupJobStatus (some (.array jobs)) (some (.array tasks)) hostName nowSeconds = (.stale, none) := by
  dsimp only [parseBackupJobStatus]
  rw [if_neg fun hnone => hjobs (List.length_eq_zero_iff.mp hnone), htasks, sortByKey_nil]
  rfl

/-- The last of the latest tasks decides. -/
theorem parse_latest (hjobs : enabledJobs hostName jobs ≠ []) (htasks : localTasks hostName tasks ≠ []) (nowSeconds : Nat) :
    ∃ task, Latest (localTasks hostName tasks) task ∧
      ((localTasks hostName tasks).filter (startTime · = startTime task)).getLast? = some task ∧
      parseBackupJobStatus (some (.array jobs)) (some (.array tasks)) hostName nowSeconds =
        (latestTaskStatus task, lastSuccessAge (localTasks hostName tasks) nowSeconds) := by
  have hne : sortByKey startTime (localTasks hostName tasks) ≠ [] := fun hnil =>
    htasks (List.perm_nil.mp (hnil ▸ (sortByKey_perm startTime (localTasks hostName tasks)).symm))
  obtain ⟨task, hlast⟩ := Option.isSome_iff_exists.mp (List.getLast?_isSome.mpr hne)
  refine ⟨task, ⟨mem_of_getLast?_sortByKey hlast, le_of_getLast?_sortByKey hlast⟩,
    getLast?_filter_of_sortByKey hlast, ?_⟩
  rw [← lastSuccessAge_perm (sortByKey_perm startTime (localTasks hostName tasks)), lastSuccessAge]
  dsimp only [parseBackupJobStatus]
  rw [if_neg fun hnone => hjobs (List.length_eq_zero_iff.mp hnone), hlast]

/-! ### Other orders -/

/-- Among the tasks, the outcome of the latest is not settled by their order. -/
def Settled (tasks : List Json) : Prop := ∀ task other, Latest tasks task → Latest tasks other → SameOutcome task other

theorem parse_perm (h : enabledJobs hostName jobs = [] ∨ Settled (localTasks hostName tasks)) (hjobs : jobs'.Perm jobs)
    (htasks : tasks'.Perm tasks) (nowSeconds : Nat) :
    parseBackupJobStatus (some (.array jobs')) (some (.array tasks')) hostName nowSeconds =
      parseBackupJobStatus (some (.array jobs)) (some (.array tasks)) hostName nowSeconds := by
  have hcount : (enabledJobs hostName jobs').Perm (enabledJobs hostName jobs) := (hjobs.filter _).filter _
  have hlocal : (localTasks hostName tasks').Perm (localTasks hostName tasks) := htasks.filter _
  by_cases hnone : enabledJobs hostName jobs = []
  · rw [parse_noJob hnone, parse_noJob (List.perm_nil.mp (hnone ▸ hcount))]
  · have hnone' : enabledJobs hostName jobs' ≠ [] := fun h => hnone (List.perm_nil.mp (h ▸ hcount.symm))
    by_cases hempty : localTasks hostName tasks = []
    · rw [parse_stale hnone hempty, parse_stale hnone' (List.perm_nil.mp (hempty ▸ hlocal))]
    · have hempty' : localTasks hostName tasks' ≠ [] := fun h => hempty (List.perm_nil.mp (h ▸ hlocal.symm))
      obtain ⟨task, hlatest, -, heq⟩ := parse_latest hnone hempty nowSeconds
      obtain ⟨other, hlatest', -, heq'⟩ := parse_latest hnone' hempty' nowSeconds
      have hsame := (h.resolve_left hnone) other task (hlatest'.of_perm hlocal.symm) hlatest
      rw [heq, heq', latestTaskStatus_eq_iff.mpr hsame, lastSuccessAge_perm hlocal]

/-- A latest task decides when it is listed last. -/
theorem parse_concat (hjobs : enabledJobs hostName jobs ≠ []) (htask : Latest (localTasks hostName (before ++ [task])) task)
    (nowSeconds : Nat) :
    (parseBackupJobStatus (some (.array jobs)) (some (.array (before ++ [task]))) hostName nowSeconds).1 =
      latestTaskStatus task := by
  obtain ⟨last, hlatest, hlast, heq⟩ := parse_latest hjobs (List.ne_nil_of_mem htask.1) nowSeconds
  have hstart : startTime task = startTime last := Nat.le_antisymm (hlatest.2 task htask.1) (htask.2 last hlatest.1)
  have hlocal : [task].filter (backupTaskLocal hostName) = [task] :=
    List.filter_cons_of_pos (List.mem_filter.mp htask.1).2
  have hkey : [task].filter (startTime · = startTime last) = [task] := List.filter_cons_of_pos (decide_eq_true hstart)
  rw [localTasks, List.filter_append, hlocal, List.filter_append, hkey, List.getLast?_concat] at hlast
  rw [heq, Option.some.inj hlast]

theorem parse_congr (hjobs : enabledJobs hostName jobs' = enabledJobs hostName jobs)
    (htasks : localTasks hostName tasks' = localTasks hostName tasks) (nowSeconds : Nat) :
    parseBackupJobStatus (some (.array jobs')) (some (.array tasks')) hostName nowSeconds =
      parseBackupJobStatus (some (.array jobs)) (some (.array tasks)) hostName nowSeconds := by
  dsimp only [parseBackupJobStatus]
  rw [hjobs, htasks]

/-- Some order of the tasks shows the outcome of any latest one. -/
theorem exists_perm_parse (hjobs : enabledJobs hostName jobs ≠ []) (htask : Latest (localTasks hostName tasks) task)
    (nowSeconds : Nat) :
    ∃ tasks', tasks'.Perm tasks ∧
      (parseBackupJobStatus (some (.array jobs)) (some (.array tasks')) hostName nowSeconds).1 =
        latestTaskStatus task := by
  obtain ⟨before, after, rfl⟩ := List.append_of_mem (List.mem_filter.mp htask.1).1
  have hperm : (before ++ after ++ [task]).Perm (before ++ task :: after) :=
    (List.perm_append_singleton task _).trans List.perm_middle.symm
  exact ⟨_, hperm, parse_concat hjobs (htask.of_perm (hperm.filter _)) nowSeconds⟩

theorem settled_of_order (hjobs : enabledJobs hostName jobs ≠ [])
    (h : ∀ tasks' : List Json, tasks'.Perm tasks →
      parseBackupJobStatus (some (.array jobs)) (some (.array tasks')) hostName nowSeconds =
        parseBackupJobStatus (some (.array jobs)) (some (.array tasks)) hostName nowSeconds) :
    Settled (localTasks hostName tasks) := by
  intro task other htask hother
  obtain ⟨tasks', hperm, htask⟩ := exists_perm_parse hjobs htask nowSeconds
  obtain ⟨tasks'', hperm', hother⟩ := exists_perm_parse hjobs hother nowSeconds
  rw [← latestTaskStatus_eq_iff, ← htask, ← hother, h tasks' hperm, h tasks'' hperm']

theorem enabledJobs_insert (h : backupJobEnabled job = false ∨ backupJobLocal hostName job = false)
    (before after : List Json) :
    enabledJobs hostName (before ++ job :: after) = enabledJobs hostName (before ++ after) := by
  rw [enabledJobs, enabledJobs, List.filter_filter, List.filter_filter, List.filter_append, List.filter_append,
    List.filter_cons_of_neg]
  rcases h with h | h <;> simp [h]

theorem localTasks_insert (h : backupTaskLocal hostName task = false) (before after : List Json) :
    localTasks hostName (before ++ task :: after) = localTasks hostName (before ++ after) := by
  simp [localTasks, h]

/-- The order of the lists does not matter when the latest tasks have the same outcome, and jobs and tasks that are not
    of this node, or are disabled, never matter. -/
theorem backupStatus_order_iff (jobs tasks : List Json) (hostName : String) (nowSeconds : Nat) :
    ((∀ jobs' tasks' : List Json, jobs'.Perm jobs → tasks'.Perm tasks →
        parseBackupJobStatus (some (.array jobs')) (some (.array tasks')) hostName nowSeconds =
          parseBackupJobStatus (some (.array jobs)) (some (.array tasks)) hostName nowSeconds) ↔
      enabledJobs hostName jobs = [] ∨ Settled (localTasks hostName tasks)) ∧
    (∀ before after job, jobs = before ++ after →
      (backupJobEnabled job = false ∨
        ∃ node, job.get "node" >>= Json.asStr = some node ∧ node ≠ "" ∧ node ≠ "all" ∧ node ≠ hostName) →
      parseBackupJobStatus (some (.array (before ++ job :: after))) (some (.array tasks)) hostName nowSeconds =
        parseBackupJobStatus (some (.array jobs)) (some (.array tasks)) hostName nowSeconds) ∧
    ∀ before after task, tasks = before ++ after →
      (∃ node, task.get "node" >>= Json.asStr = some node ∧ node ≠ hostName) →
      parseBackupJobStatus (some (.array jobs)) (some (.array (before ++ task :: after))) hostName nowSeconds =
        parseBackupJobStatus (some (.array jobs)) (some (.array tasks)) hostName nowSeconds := by
  refine ⟨⟨fun h => ?_, fun h jobs' tasks' hjobs htasks => parse_perm h hjobs htasks nowSeconds⟩, ?_, ?_⟩
  · rw [or_iff_not_imp_left]
    exact fun hjobs => settled_of_order hjobs fun tasks' htasks => h jobs tasks' (.refl jobs) htasks
  · rintro before after job rfl hjob
    refine parse_congr (enabledJobs_insert (hjob.imp_right ?_) before after) rfl nowSeconds
    rintro ⟨node, hnode, hempty, hall, hhost⟩
    rw [backupJobLocal, hnode]
    simp [hempty, hall, hhost]
  · rintro before after task rfl ⟨node, hnode, hhost⟩
    refine parse_congr rfl (localTasks_insert ?_ before after) nowSeconds
    rw [backupTaskLocal, hnode]
    simp [hhost]

/-- A task that began at second 100, with an end and a status. -/
def finishedTask (finished : UInt64) (status : String) : Json :=
  .object [("starttime", .number (.posInt 100)), ("endtime", .number (.posInt finished)), ("status", .string status)]

/-- Two jobs began in the same second, and one of them failed. -/
theorem backupStatus_order :
    ¬∀ (jobs jobs' tasks tasks' : List Json) (hostName : String) (nowSeconds : Nat),
      jobs'.Perm jobs → tasks'.Perm tasks →
        parseBackupJobStatus (some (.array jobs')) (some (.array tasks')) hostName nowSeconds =
          parseBackupJobStatus (some (.array jobs)) (some (.array tasks)) hostName nowSeconds := by
  intro hall
  have hlocal : localTasks "pve" [finishedTask 110 "OK", finishedTask 130 "ERROR"] =
      [finishedTask 110 "OK", finishedTask 130 "ERROR"] := rfl
  have hlatest : ∀ task ∈ [finishedTask 110 "OK", finishedTask 130 "ERROR"],
      Latest [finishedTask 110 "OK", finishedTask 130 "ERROR"] task := by
    intro task htask
    refine ⟨htask, fun other hother => ?_⟩
    simp only [List.mem_cons, List.not_mem_nil, or_false] at htask hother
    rcases htask with rfl | rfl <;> rcases hother with rfl | rfl <;> exact Nat.le_refl 100
  have henabled : enabledJobs "pve" [.object []] = [.object []] := rfl
  have hsettled := @settled_of_order [.object []] [finishedTask 110 "OK", finishedTask 130 "ERROR"] "pve" 200
    (henabled ▸ List.cons_ne_nil _ _) fun tasks' htasks => hall _ _ _ _ _ _ (.refl _) htasks
  rw [hlocal] at hsettled
  obtain ⟨-, hsame⟩ := hsettled _ _ (hlatest (finishedTask 110 "OK") (by simp))
    (hlatest (finishedTask 130 "ERROR") (by simp))
  exact Bool.noConfusion (hsame rfl)

end Servatory
