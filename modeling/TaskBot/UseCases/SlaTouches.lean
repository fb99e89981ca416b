import TaskBot.Store.OptimisticLock
import TaskBot.UseCases.SlaEscalations
import TaskBot.UseCases.ListTasks
import TaskBot.UseCases.SearchTasks

/-!
# What the ticks do to the tasks

The statement that stores a state of the escalation worker also sets `updated_at`,
the column a list goes by to tell which tasks nobody has touched.

    after a tick the tasks are those before it, but that `updated_at` is now the
    time of the tick for the tasks it stored a state for      (WorkerTick.columns_run)

so a run of ticks leaves the tasks, and what the lists show of them, as they were
exactly if every task it stores a state for had that time already
(`sla_ticks_keep_iff`).
-/

namespace TaskBot

open Sql Calls UpdateSlaStates SlaRepository

/-! ## What the lists go by -/

/-- The ids and the columns of the tasks, but for `sla_state` and `sla_last_level`. -/
def Db.taskColumns (db : Db) : List (Int × Task) := db.tasks.rows.map fun r => (r.id, r.val.task)

/-- `WHERE … ORDER BY updated_at DESC, task_uid DESC LIMIT ?`, as in `list_open`. -/
def Db.latest (scope : Task → Bool) (limit : Nat) (db : Db) : List Task :=
  (((db.tasks.rows.map toTask).filter scope).mergeSort fun a b =>
    b.updatedAt < a.updatedAt ∨
      (b.updatedAt = a.updatedAt ∧ b.taskUid.toText ≤ a.taskUid.toText)).take limit

/-- The tasks are as they were, in themselves and in what is shown of them. -/
structure TasksKept (db db' : Db) : Prop where
  columns : db'.taskColumns = db.taskColumns
  stale : ∀ t ∈ db.tasks.rows.map toTask, ∀ today later, today ≤ later →
    ListTasks.sectionStale t today = true →
      t ∈ db'.tasks.rows.map toTask ∧ ListTasks.sectionStale t later = true
  inbox : ∀ today actor cursor limit,
    ((ListTasks.execute today actor .managerInbox cursor limit).run noFaults db').1 =
      ((ListTasks.execute today actor .managerInbox cursor limit).run noFaults db).1
  latest : ∀ scope limit, db'.latest scope limit = db.latest scope limit
  unlinked : ∀ employeeId limit,
    ((TaskRepository.listOpenAssignedToEmployeeWithoutUser employeeId limit).run noFaults db').1 =
      ((TaskRepository.listOpenAssignedToEmployeeWithoutUser employeeId limit).run noFaults db).1
  searched : ∀ toLowercase actor canonical,
    ((SearchTasks.execute toLowercase actor canonical).run noFaults db').1 =
      ((SearchTasks.execute toLowercase actor canonical).run noFaults db).1

theorem run_listUnlinked (employeeId : Int) (limit : Nat) (db : Db) :
    (TaskRepository.listOpenAssignedToEmployeeWithoutUser employeeId limit).run noFaults db =
      (.ok (db.latest (fun t => t.assignedToEmployeeId = some employeeId ∧ t.assignedToUserId = none ∧
        ¬ t.status.isTerminal) limit), db) := by
  unfold Db.latest
  rw [List.filter_map]
  exact run_select rfl db

theorem sectionStale_later {t : Task} {today later : NaiveDate} (hle : today ≤ later)
    (h : ListTasks.sectionStale t today = true) : ListTasks.sectionStale t later = true := by
  unfold ListTasks.sectionStale at h ⊢
  split at h
  · cases h
  · next hopen =>
    rw [if_neg hopen]
    simp only [decide_eq_true_eq] at h ⊢
    exact h.trans (Int.sub_le_sub_right hle _)

section

variable {db db' : Db}

theorem tasks_of_columns (h : db'.taskColumns = db.taskColumns) :
    db'.tasks.rows.map toTask = db.tasks.rows.map toTask := by
  have hcomp : toTask = (fun p : Int × Task => { p.2 with id := some p.1 }) ∘ fun r => (r.id, r.val.task) := rfl
  unfold Db.taskColumns at h
  rw [hcomp, ← List.map_map, ← List.map_map, h]

theorem latest_congr (htasks : db'.tasks.rows.map toTask = db.tasks.rows.map toTask)
    (scope : Task → Bool) (limit : Nat) : db'.latest scope limit = db.latest scope limit := by
  unfold Db.latest
  rw [htasks]

theorem listQuery_congr (htasks : db'.tasks.rows.map toTask = db.tasks.rows.map toTask)
    (scope : Task → Bool) (cursor : Option String) (limit : Nat) :
    TaskRepository.listQuery scope cursor limit db' = TaskRepository.listQuery scope cursor limit db := by
  unfold TaskRepository.listQuery
  rw [htasks]

theorem run_managerInbox (htasks : db'.tasks.rows.map toTask = db.tasks.rows.map toTask)
    (today : NaiveDate) (actor : User) (cursor : Option String) (limit : Option Nat) :
    ((ListTasks.execute today actor .managerInbox cursor limit).run noFaults db').1 =
      ((ListTasks.execute today actor .managerInbox cursor limit).run noFaults db).1 := by
  unfold ListTasks.execute ListTasks.fetchPage ListTasks.fetch
  cases okOrElse actor.id (ListTasks.notRegistered actor) with
  | error e => rfl
  | ok actorId =>
    cases RoleAuthorizationPolicy.ensureCanViewTeamTasks actor with
    | error e => rfl
    | ok _ =>
      have hquery := listQuery_congr htasks (fun _ => true) cursor (ListTasks.sanitizeLimit limit)
      simp only [Prog.lift_ok_bind]
      have hlist : ∀ db : Db, (TaskRepository.listAll cursor (ListTasks.sanitizeLimit limit)).run noFaults db =
          (.ok (TaskRepository.listQuery (fun _ => true) cursor (ListTasks.sanitizeLimit limit) db), db) :=
        fun db => run_select rfl db
      rw [Prog.run_bind_ok noFaults (hlist db'), Prog.run_bind_ok noFaults (hlist db), hquery]
      rfl

theorem run_searchTasks (htasks : db'.tasks.rows.map toTask = db.tasks.rows.map toTask)
    (toLowercase : String → String) (actor : User) (canonical : String) :
    ((SearchTasks.execute toLowercase actor canonical).run noFaults db').1 =
      ((SearchTasks.execute toLowercase actor canonical).run noFaults db).1 := by
  unfold SearchTasks.execute
  cases okOrElse actor.id _ with
  | error e => rfl
  | ok userId =>
    simp only [Prog.lift_ok_bind]
    have hassigned : ∀ db : Db, (TaskRepository.listAssignedToUser userId none SearchTasks.queueLimit).run
        noFaults db = (.ok (TaskRepository.listQuery (fun t => t.assignedToUserId = some userId) none
          SearchTasks.queueLimit db), db) := fun db => run_select rfl db
    have hcreated : ∀ db : Db, (TaskRepository.listCreatedByUser userId none SearchTasks.queueLimit).run
        noFaults db = (.ok (TaskRepository.listQuery (fun t => t.createdByUserId = userId) none
          SearchTasks.queueLimit db), db) := fun db => run_select rfl db
    rw [Prog.run_bind_ok noFaults (hassigned db'), Prog.run_bind_ok noFaults (hassigned db),
      Prog.run_bind_ok noFaults (hcreated db'), Prog.run_bind_ok noFaults (hcreated db),
      listQuery_congr htasks, listQuery_congr htasks]
    rfl

/-- What is shown of the tasks goes by their columns. -/
theorem TasksKept.of_columns (h : db'.taskColumns = db.taskColumns) : TasksKept db db' where
  columns := h
  stale t ht today later hle hstale :=
    ⟨by rw [tasks_of_columns h]; exact ht, sectionStale_later hle hstale⟩
  inbox := run_managerInbox (tasks_of_columns h)
  latest scope limit := latest_congr (tasks_of_columns h) scope limit
  unlinked employeeId limit := by
    rw [run_listUnlinked, run_listUnlinked, latest_congr (tasks_of_columns h)]
  searched := run_searchTasks (tasks_of_columns h)

end

/-! ## One tick -/

/-- A tick of the scheduler: the worker's, if the feature is enabled. -/
structure WorkerTick extends SlaTick where
  flagEnabled : Bool

namespace WorkerTick

def run (t : WorkerTick) (db : Db) : Db := ((execute t.flagEnabled t.now t.today).run t.plan db).2

/-- The listed tasks whose state is stored: those that are not current, up to the first failure. -/
def storedOf (t : WorkerTick) : List SlaTaskRow → List Int
  | [] => []
  | row :: rows =>
      if isCurrent row t.today then t.storedOf rows
      else
        match t.plan (.slaUpdate row.id) with
        | .before _ => []
        | .after _ => [row.id]
        | .none =>
            if isRising row t.today && t.plan (.slaRecord row.id (target row t.today).2) ≠ .none then [row.id]
            else row.id :: t.storedOf rows

/-- The tasks the tick stores a state for. -/
def stored (t : WorkerTick) (db : Db) : List Int :=
  if t.flagEnabled && t.plan .slaListActive = .none then t.storedOf (listed maxTasksPerTick db) else []

end WorkerTick

/-- The columns with another `updated_at` for the tasks of these ids. -/
def touchAll (ids : List Int) (now : Instant) (columns : List (Int × Task)) : List (Int × Task) :=
  columns.map fun p => if p.1 ∈ ids then (p.1, p.2.touch now) else p

theorem touchAll_nil (now : Instant) (columns : List (Int × Task)) : touchAll [] now columns = columns := by
  simp [touchAll]

theorem touchAll_cons (id : Int) (ids : List Int) (now : Instant) (columns : List (Int × Task)) :
    touchAll (id :: ids) now columns = touchAll ids now (touchAll [id] now columns) := by
  unfold touchAll
  rw [List.map_map]
  refine List.map_congr_left fun p _ => ?_
  by_cases hid : p.1 = id
  · by_cases hids : id ∈ ids <;> simp [hid, hids, Task.touch]
  · simp [hid]

theorem touchAll_append (ids ids' : List Int) (now : Instant) (columns : List (Int × Task)) :
    touchAll (ids ++ ids') now columns = touchAll ids' now (touchAll ids now columns) := by
  induction ids generalizing columns with
  | nil => rw [touchAll_nil]; rfl
  | cons id ids ih => rw [List.cons_append, touchAll_cons, ih, ← touchAll_cons]

/-- The columns stay as they are exactly if the tasks had that time already. -/
theorem touchAll_eq_iff {ids : List Int} {now : Instant} {columns : List (Int × Task)} :
    touchAll ids now columns = columns ↔ ∀ p ∈ columns, p.1 ∈ ids → p.2.updatedAt = now := by
  conv_lhs => rhs; rw [← List.map_id columns]
  unfold touchAll
  rw [List.map_inj_left]
  refine forall₂_congr fun p _ => ?_
  by_cases hid : p.1 ∈ ids
  · rw [if_pos hid]
    refine ⟨fun h _ => ?_, fun h => ?_⟩
    · rw [← show (id p).2.updatedAt = p.2.updatedAt from rfl, ← h]
      rfl
    · rw [← h hid]
      rfl
  · rw [if_neg hid]
    exact ⟨fun _ h => absurd h hid, fun _ => rfl⟩

section

variable (now : Instant) (today : NaiveDate) (row : SlaTaskRow) (db : Db)

/-- The statement that stores a state, column by column. -/
theorem columns_withState :
    (withState now today row db).taskColumns = touchAll [row.id] now db.taskColumns := by
  show (db.tasks.rows.map (setWhere (fun r => r.id = row.id)
    (slaColumns (target row today).1.asCode (target row today).2 now))).map _ = _
  unfold touchAll Db.taskColumns
  rw [List.map_map, List.map_map]
  refine List.map_congr_left fun r _ => ?_
  by_cases hid : r.id = row.id <;> simp [setWhere, hid, slaColumns, Task.touch]

variable (plan : Site → Fault AppError)

/-- An escalation that cannot be recorded ends the tick. -/
theorem processTask_stops (hc : isCurrent row today = false) (hu : plan (.slaUpdate row.id) = .none)
    (hr : isRising row today = true) (hs : plan (.slaRecord row.id (target row today).2) ≠ .none) :
    ∃ e, ((processTask now today row).run plan db).1 = .error e := by
  have hupdate : (updateSlaState row.id (target row today).1.asCode (target row today).2 now).run plan db =
      (.ok (), withState now today row db) := run_write hu db
  unfold processTask
  rw [hc, if_neg Bool.false_ne_true, Prog.run_bind_ok plan hupdate, if_neg (not_not.mpr hr)]
  unfold recordEscalation
  cases hf : plan (.slaRecord row.id (target row today).2) with
  | none => exact absurd hf hs
  | before e => exact ⟨e, by rw [Prog.run_bind_error plan (run_write_before hf _)]⟩
  | after e => exact ⟨e, by rw [Prog.run_bind_error plan (run_write_after hf _)]⟩

end

theorem columns_congr {db db' : Db} (h : db'.tasks = db.tasks) : db'.taskColumns = db.taskColumns := by
  unfold Db.taskColumns
  rw [h]

namespace WorkerTick

variable (t : WorkerTick) {row : SlaTaskRow} {rows : List SlaTaskRow} {db : Db}

theorem storedOf_cons (hc : isCurrent row t.today = false) (hu : t.plan (.slaUpdate row.id) = .none)
    (hgo : isRising row t.today = true → t.plan (.slaRecord row.id (target row t.today).2) = .none) :
    t.storedOf (row :: rows) = row.id :: t.storedOf rows := by
  rw [storedOf, hc, if_neg Bool.false_ne_true, hu]
  refine if_neg fun h => ?_
  obtain ⟨hr, hf⟩ := Bool.and_eq_true_iff.mp h
  exact of_decide_eq_true hf (hgo hr)

theorem storedOf_stop (hc : isCurrent row t.today = false) (hu : t.plan (.slaUpdate row.id) = .none)
    (hr : isRising row t.today = true) (hs : t.plan (.slaRecord row.id (target row t.today).2) ≠ .none) :
    t.storedOf (row :: rows) = [row.id] := by
  rw [storedOf, hc, if_neg Bool.false_ne_true, hu]
  exact if_pos (by simp [hr, hs])

/-- The work on one task: it goes on with what else is stored, or ends there. -/
theorem columns_processTask (t : WorkerTick) (row : SlaTaskRow) (rows : List SlaTaskRow) (db : Db) :
    (∃ db' ids, (processTask t.now t.today row).run t.plan db = (.ok (), db') ∧
      t.storedOf (row :: rows) = ids ++ t.storedOf rows ∧
        db'.taskColumns = touchAll ids t.now db.taskColumns) ∨
      ∃ e db', (processTask t.now t.today row).run t.plan db = (.error e, db') ∧
        db'.taskColumns = touchAll (t.storedOf (row :: rows)) t.now db.taskColumns := by
  have ho := run_processTask t.now t.today row db t.plan
  have hstate := columns_withState t.now t.today row db
  generalize hrun : (processTask t.now t.today row).run t.plan db = o at ho
  have hgo : isCurrent row t.today = false → t.plan (.slaUpdate row.id) = .none → o.1 = .ok () →
      isRising row t.today = true → t.plan (.slaRecord row.id (target row t.today).2) = .none := by
    intro hc hu hok hr
    by_contra hs
    obtain ⟨e, he⟩ := processTask_stops t.now t.today row db t.plan hc hu hr hs
    rw [hrun, hok] at he
    cases he
  have hmoved : ∀ {o' : AppResult Unit × Db}, Outcome t.now t.today row db t.plan o' →
      isCurrent row t.today = false → t.plan (.slaUpdate row.id) = .none →
        o'.2.taskColumns = touchAll [row.id] t.now db.taskColumns := by
    intro o' ho' hc hu
    rcases outcome_tasks ho' with ⟨-, hcur | ⟨e, he⟩⟩ | htasks
    · rw [hc] at hcur
      cases hcur
    · rw [hu] at he
      cases he
    · rw [columns_congr htasks, hstate]
  cases ho with
  | current hc =>
    refine .inl ⟨db, [], rfl, ?_, (touchAll_nil t.now _).symm⟩
    rw [storedOf, if_pos hc, List.nil_append]
  | stateLost e hc hf =>
    refine .inr ⟨e, db, rfl, ?_⟩
    rw [storedOf, hc, if_neg Bool.false_ne_true, hf]
    exact (touchAll_nil t.now _).symm
  | stateOnly e hc hf =>
    refine .inr ⟨e, _, rfl, ?_⟩
    rw [storedOf, hc, if_neg Bool.false_ne_true, hf]
    exact hstate
  | steady hc hu hr =>
    exact .inl ⟨_, [row.id], rfl, t.storedOf_cons hc hu (fun h => by rw [hr] at h; cases h), hstate⟩
  | escalationLost e hc hu hr hf =>
    refine .inr ⟨e, _, rfl, ?_⟩
    rw [t.storedOf_stop hc hu hr fun h => by rw [hf] at h; cases h]
    exact hstate
  | escalationOnly e hc hu hr hf =>
    refine .inr ⟨e, _, rfl, ?_⟩
    rw [t.storedOf_stop hc hu hr fun h => by rw [hf] at h; cases h]
    exact hmoved (.escalationOnly e hc hu hr hf) hc hu
  | known hc hu hr hn =>
    exact .inl ⟨_, [row.id], rfl, t.storedOf_cons hc hu (hgo hc hu rfl), hmoved (.known hc hu hr hn) hc hu⟩
  | told hc hu hr =>
    exact .inl ⟨_, [row.id], rfl, t.storedOf_cons hc hu (hgo hc hu rfl), hmoved (.told hc hu hr) hc hu⟩
  | untold hc hu hr hl =>
    exact .inl ⟨_, [row.id], rfl, t.storedOf_cons hc hu (hgo hc hu rfl), hmoved (.untold hc hu hr hl) hc hu⟩

/-- The work on the tasks of a list. -/
theorem columns_forEach (t : WorkerTick) : ∀ (rows : List SlaTaskRow) (db : Db),
    ((Prog.forEach (processTask t.now t.today) rows).run t.plan db).2.taskColumns =
      touchAll (t.storedOf rows) t.now db.taskColumns := by
  intro rows
  induction rows with
  | nil => exact fun db => (touchAll_nil t.now db.taskColumns).symm
  | cons row rows ih =>
    intro db
    unfold Prog.forEach
    rcases t.columns_processTask row rows db with ⟨db', ids, hrun, hids, hcols⟩ | ⟨e, db', hrun, hcols⟩
    · rw [Prog.run_bind_ok t.plan hrun, ih, hids, touchAll_append, hcols]
    · rw [Prog.run_bind_error t.plan hrun, hcols]

/-- **A tick** leaves the tasks as they are, but that those it stores a state for have
its time in `updated_at`. -/
theorem columns_run (t : WorkerTick) (db : Db) :
    (t.run db).taskColumns = touchAll (t.stored db) t.now db.taskColumns := by
  unfold run stored
  cases hflag : t.flagEnabled with
  | false => exact (touchAll_nil t.now _).symm
  | true =>
    show (t.toSlaTick.exec db).taskColumns = _
    rw [exec_eq]
    by_cases hp : t.plan .slaListActive = .none
    · rw [if_pos hp, if_pos (by simp [hp]), t.columns_forEach]
    · rw [if_neg hp, if_neg (by simp [hp]), touchAll_nil]

end WorkerTick

/-! ## Runs of ticks -/

def runWorkerTicks (ticks : List WorkerTick) (db : Db) : Db := ticks.foldl (fun db t => t.run db) db

/-- The tick sets no task to another time. -/
def WorkerTick.Idle (t : WorkerTick) (db : Db) : Prop :=
  ∀ r ∈ db.tasks.rows, r.id ∈ t.stored db → r.val.task.updatedAt = t.now

theorem WorkerTick.idle_iff (t : WorkerTick) (db : Db) :
    t.Idle db ↔ (t.run db).taskColumns = db.taskColumns := by
  rw [t.columns_run, touchAll_eq_iff]
  unfold WorkerTick.Idle Db.taskColumns
  rw [List.forall_mem_map]

theorem runWorkerTicks_snoc (ticks : List WorkerTick) (t : WorkerTick) (db : Db) :
    runWorkerTicks (ticks ++ [t]) db = t.run (runWorkerTicks ticks db) := List.foldl_append

/-- **The ticks of a run keep the tasks exactly while each stores states only for tasks
whose `updated_at` is its own time already.** -/
theorem sla_ticks_keep_iff (db : Db) (ticks : List WorkerTick) :
    (∀ done, done <+: ticks → TasksKept db (runWorkerTicks done db)) ↔
      ∀ done t, done ++ [t] <+: ticks → t.Idle (runWorkerTicks done db) := by
  constructor
  · intro h done t hpre
    rw [t.idle_iff, ← runWorkerTicks_snoc]
    exact (h _ hpre).columns.trans (h done ((List.prefix_append done [t]).trans hpre)).columns.symm
  · intro h done hpre
    refine .of_columns ?_
    induction done using List.reverseRecOn with
    | nil => rfl
    | append_singleton done t ih =>
      rw [runWorkerTicks_snoc, (t.idle_iff _).mp (h done t hpre)]
      exact ih ((List.prefix_append done [t]).trans hpre)

/-- The tick of the day of the deadline, on a task nobody has touched for a hundred days. -/
def deadlineTick : WorkerTick := ⟨⟨100 * 86400000000000, 100, noFaults⟩, true⟩

/-- The tick takes the task out of the section of those without movement. -/
theorem sla_tick_freshens :
    ¬ TasksKept slaDb (runWorkerTicks [deadlineTick] slaDb) ∧
      ((slaDb.tasks.rows.map toTask).map fun t => ListTasks.sectionStale t 100) = [true] ∧
      (((runWorkerTicks [deadlineTick] slaDb).tasks.rows.map toTask).map fun t =>
        ListTasks.sectionStale t 100) = [false] := by
  refine ⟨fun h => ?_, by decide, by decide⟩
  have htasks := congrArg (List.map fun p : Int × Task => p.2.updatedAt) h.columns
  exact absurd htasks (by decide)

end TaskBot
