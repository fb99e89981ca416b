import TaskBot.Store.TaskRepository
import Mathlib.Data.List.Sort

/-!
# SLA repository

The adapter of the escalation worker.  Its writes are narrow: the two SLA
columns of `tasks` (with `updated_at`, and without a look at the version) and the
rows of `sla_escalations`.

* `stored_slaUpdated`: the worker's write leaves the task but for `updated_at`;
* `mem_listed`, `listed_of_tracked`: which rows a worker is given.
-/

namespace TaskBot

open Sql Calls

/-- The row of `list_active_with_deadline`. -/
structure SlaTaskRow where
  id : Int
  taskUid : Uuid
  title : String
  deadline : NaiveDate
  createdAt : Instant
  assignedToUserId : Option Int
  currentSlaState : Option String
  slaLastLevel : Int
deriving DecidableEq, Repr

namespace SlaRepository

/-- Open tasks that have a deadline. -/
def isTracked (r : Stored TaskColumns) : Bool :=
  r.val.task.deadline.isSome && !r.val.task.status.isTerminal

def toSlaTaskRow (r : Stored TaskColumns) (deadline : NaiveDate) : SlaTaskRow where
  id := r.id
  taskUid := r.val.task.taskUid
  title := r.val.task.title
  deadline
  createdAt := r.val.task.createdAt
  assignedToUserId := r.val.task.assignedToUserId
  currentSlaState := r.val.slaState
  slaLastLevel := r.val.slaLastLevel

def trackedRows (db : Db) : List SlaTaskRow :=
  (db.tasks.rows.filter isTracked).filterMap fun r => r.val.task.deadline.map (toSlaTaskRow r)

/-- `ORDER BY deadline ASC LIMIT ?` over the tracked tasks. -/
def listed (limit : Nat) (db : Db) : List SlaTaskRow :=
  ((trackedRows db).insertionSort fun a b => isoDate a.deadline ≤ isoDate b.deadline).take limit

def listActiveWithDeadline (limit : Nat) : Proc (List SlaTaskRow) :=
  select .slaListActive fun db => .ok (listed limit db)

/-- The columns `UPDATE tasks SET sla_state …` writes. -/
def slaColumns (state : String) (lastLevel : Int) (now : Instant) (c : TaskColumns) : TaskColumns where
  task := { c.task with updatedAt := now }
  slaState := some state
  slaLastLevel := lastLevel

theorem slaColumns_keeps (state : String) (lastLevel : Int) (now : Instant) :
    KeepsKeys (slaColumns state lastLevel now) := fun _ _ => rfl

/-- The database after `UPDATE tasks SET sla_state … WHERE id = ?`. -/
def slaUpdated (taskId : Int) (state : String) (lastLevel : Int) (now : Instant) (db : Db) : Db :=
  { db with
    tasks := db.tasks.modify (fun r => r.id = taskId) (slaColumns state lastLevel now)
      (slaColumns_keeps state lastLevel now) }

def updateSlaState (taskId : Int) (state : String) (lastLevel : Int) (now : Instant) : Proc Unit :=
  write (.slaUpdate taskId) fun db => ((), slaUpdated taskId state lastLevel now db)

/-- The database after `INSERT OR IGNORE INTO sla_escalations`. -/
def recorded (e : SlaEscalation) (db : Db) : Db :=
  { db with escalations := (db.escalations.insertOrIgnore e).1 }

/-- Answers whether the row is new: the level is recorded once per task. -/
def recordEscalation (taskId level : Int) (actor : String) (detail : List (String × Json))
    (now : Instant) : Proc Bool :=
  write (.slaRecord taskId level) fun db =>
    ((db.escalations.insertOrIgnore ⟨none, taskId, level, now, actor, detail⟩).2,
      recorded ⟨none, taskId, level, now, actor, detail⟩ db)

theorem tasks_slaUpdated (taskId : Int) (state : String) (lastLevel : Int) (now : Instant) (db : Db) :
    (slaUpdated taskId state lastLevel now db).tasks =
      db.tasks.modify (fun r => r.id = taskId) (slaColumns state lastLevel now)
        (slaColumns_keeps state lastLevel now) := rfl

/-- The worker's write leaves every column of the aggregate but `updated_at`. -/
theorem stored_slaUpdated {db : Db} {uid : Uuid} {t : Task} (h : db.stored uid = some t)
    (taskId : Int) (state : String) (lastLevel : Int) (now : Instant) :
    (slaUpdated taskId state lastLevel now db).stored uid = some t ∨
      (slaUpdated taskId state lastLevel now db).stored uid = some { t with updatedAt := now } := by
  obtain ⟨r, hr, rfl⟩ := Option.map_eq_some_iff.mp h
  have hs : (slaUpdated taskId state lastLevel now db).stored uid =
      some (toTask (setWhere (fun r => r.id = taskId) (slaColumns state lastLevel now) r)) := by
    rw [TaskRepository.stored_modify (tasks_slaUpdated taskId state lastLevel now db) (fun _ => rfl), hr]
    rfl
  rw [hs]
  unfold setWhere
  split
  · exact .inr rfl
  · exact .inl rfl

/-! ## The listed tasks -/

variable {limit : Nat} {db : Db} {row : SlaTaskRow}

theorem mem_trackedRows : row ∈ trackedRows db ↔
    ∃ r ∈ db.tasks.rows, isTracked r = true ∧ ∃ d, r.val.task.deadline = some d ∧ row = toSlaTaskRow r d := by
  unfold trackedRows
  rw [List.mem_filterMap]
  constructor
  · rintro ⟨r, hr, h⟩
    obtain ⟨d, hd, rfl⟩ := Option.map_eq_some_iff.mp h
    obtain ⟨hmem, ht⟩ := List.mem_filter.mp hr
    exact ⟨r, hmem, ht, d, hd, rfl⟩
  · rintro ⟨r, hmem, ht, d, hd, rfl⟩
    exact ⟨r, List.mem_filter.mpr ⟨hmem, ht⟩, by rw [hd]; rfl⟩

theorem mem_listed (h : row ∈ listed limit db) : row ∈ trackedRows db :=
  (List.mem_insertionSort _).mp (List.mem_of_mem_take h)

/-- A task is listed once. -/
theorem listed_nodup (limit : Nat) (db : Db) : ((listed limit db).map SlaTaskRow.id).Nodup := by
  have hrows : ((trackedRows db).map SlaTaskRow.id).Nodup := by
    unfold trackedRows
    rw [List.map_filterMap]
    refine List.Pairwise.filterMap _ ?_ (db.tasks.apart.filter isTracked)
    intro a b hab i hi j hj
    obtain ⟨row, hrow, rfl⟩ := Option.map_eq_some_iff.mp hi
    obtain ⟨row', hrow', rfl⟩ := Option.map_eq_some_iff.mp hj
    obtain ⟨d, -, rfl⟩ := Option.map_eq_some_iff.mp hrow
    obtain ⟨d', -, rfl⟩ := Option.map_eq_some_iff.mp hrow'
    exact hab.1
  have hperm := (List.perm_insertionSort (fun a b : SlaTaskRow => isoDate a.deadline ≤ isoDate b.deadline)
    (trackedRows db)).map SlaTaskRow.id
  exact (hperm.nodup_iff.mpr hrows).sublist ((List.take_sublist _ _).map _)

/-- Within the limit every tracked task is listed. -/
theorem listed_of_tracked (hmany : (db.tasks.rows.filter isTracked).length ≤ limit)
    (h : row ∈ trackedRows db) : row ∈ listed limit db := by
  have hlen : (trackedRows db).length ≤ limit := (List.length_filterMap_le _ _).trans hmany
  unfold listed
  rw [List.take_of_length_le]
  · exact (List.mem_insertionSort _).mpr h
  · rw [List.length_insertionSort]
    exact hlen

end SlaRepository

end TaskBot
