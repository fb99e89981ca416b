import Mathlib.Data.String.Basic
import TaskBot.Domain.DateTexts
import TaskBot.Store.Db
import TaskBot.Lib.Paging

/-!
# Task repository

`createIfAbsent` is `INSERT OR IGNORE` and a read by the source key; `update`
is one guarded `UPDATE`: it matches the row whose version is the one before the
version of the task it stores.

* `update_ok` / `update_conflict`: an update either replaces the stored task by
  its argument, one version up, or answers `TASK_VERSION_CONFLICT` and leaves the
  database as it is;
* `Db.stored`: the task a lookup by uid yields, which the theorems speak of.
-/

namespace TaskBot

open Sql Calls

structure TaskStats where
  createdCount : Nat
  completedCount : Nat
  activeCount : Nat
  overdueCount : Nat
  averageCompletionHours : Option Int
deriving DecidableEq, Repr

/-- The rounded mean of the hours between two times; none of no times. -/
abbrev AverageHours := List (Instant × Instant) → Option Int

inductive PersistedTask where
  | created (t : Task)
  | existing (t : Task)
deriving DecidableEq, Repr

namespace TaskRepository

def findBySourceMessageKey (key : String) : Proc (Option Task) :=
  select (.taskFindByKey key) fun db =>
    .ok ((db.tasks.find? fun r => r.val.task.sourceMessageKey = key).map toTask)

/-- The columns of a new row. -/
def newColumns (task : Task) : TaskColumns := ⟨task, none, 0⟩

/-- The database after `INSERT OR IGNORE INTO tasks`. -/
def inserted (task : Task) (db : Db) : Db :=
  { db with tasks := (db.tasks.insertOrIgnore (newColumns task)).1 }

def insertTask (task : Task) : Proc Bool :=
  write (.taskInsert task.sourceMessageKey) fun db =>
    ((db.tasks.insertOrIgnore (newColumns task)).2, inserted task db)

def persistenceFailed (task : Task) : AppError :=
  .internal "TASK_PERSISTENCE_FAILED" "Task insert completed without a readable record"
    [("task_uid", .str task.taskUid.toText)]

/-- The row under the key of the task, after the insert. -/
def readBack (task : Task) (isNew : Bool) : Proc PersistedTask := do
  let found ← findBySourceMessageKey task.sourceMessageKey
  let storedTask ← .lift (okOrElse found (persistenceFailed task))
  pure (if isNew then .created storedTask else .existing storedTask)

def createIfAbsent (task : Task) : Proc PersistedTask := do
  let isNew ← insertTask task
  readBack task isNew

def findByUid (uid : Uuid) : Proc (Option Task) :=
  select (.taskFindByUid uid) fun db =>
    .ok ((db.tasks.find? fun r => r.val.task.taskUid = uid).map toTask)

def findById (id : Int) : Proc (Option Task) :=
  select (.taskFindById id) fun db => .ok ((db.tasks.find? fun r => r.id = id).map toTask)

/-- Open tasks of an employee who had no account yet, the latest first. -/
def listOpenAssignedToEmployeeWithoutUser (employeeId : Int) (limit : Nat) : Proc (List Task) :=
  select (.taskListUnlinked employeeId) fun db =>
    let rows := db.tasks.rows.filter fun r =>
      r.val.task.assignedToEmployeeId = some employeeId ∧ r.val.task.assignedToUserId = none ∧
        ¬ r.val.task.status.isTerminal
    .ok (((rows.map toTask).mergeSort fun a b =>
      b.updatedAt < a.updatedAt ∨
        (b.updatedAt = a.updatedAt ∧ b.taskUid.toText ≤ a.taskUid.toText)).take limit)

/-- `ORDER BY deadline ASC, task_uid ASC`: the texts of the column are compared. -/
def byDeadline (a b : Task) : Bool :=
  match a.deadline, b.deadline with
  | some d, some d' => isoDate d < isoDate d' || (isoDate d = isoDate d' && a.taskUid.toText ≤ b.taskUid.toText)
  | none, _ => true
  | some _, none => false

/-- An open task with `deadline >= ? AND deadline <= ?`. -/
def isDueBetween (first last : NaiveDate) (t : Task) : Bool :=
  t.deadline.any (fun deadline => isoDate first ≤ isoDate deadline && isoDate deadline ≤ isoDate last) &&
    !t.status.isTerminal

/-- An open task with `deadline < ?`. -/
def isOverdueBy (asOf : NaiveDate) (t : Task) : Bool :=
  t.deadline.any (fun deadline => isoDate deadline < isoDate asOf) && !t.status.isTerminal

/-- Open tasks with a deadline in the range. -/
def getDueBetween (first last : NaiveDate) (limit : Nat) : Proc (List Task) :=
  select .taskListDueBetween fun db =>
    .ok ((((db.tasks.rows.map toTask).filter (isDueBetween first last)).mergeSort byDeadline).take limit)

/-- Open tasks with a deadline before the day. -/
def getOverdue (asOf : NaiveDate) (limit : Nat) : Proc (List Task) :=
  select .taskListDueBetween fun db =>
    .ok ((((db.tasks.rows.map toTask).filter (isOverdueBy asOf)).mergeSort byDeadline).take limit)

/-- `ORDER BY updated_at DESC, task_uid DESC`. -/
def byUpdate (a b : Task) : Bool :=
  b.updatedAt < a.updatedAt || (b.updatedAt = a.updatedAt && b.taskUid.toText ≤ a.taskUid.toText)

/-- Open tasks, the latest first. -/
def listOpen (limit : Nat) : Proc (List Task) :=
  select .taskListOpen fun db =>
    let rows := db.tasks.rows.filter fun r => !r.val.task.status.isTerminal
    .ok (((rows.map toTask).mergeSort byUpdate).take limit)

/-- `WHERE … AND task_uid < ? ORDER BY task_uid DESC LIMIT ?`. -/
def listQuery (scope : Task → Bool) (cursor : Option String) (limit : Nat) (db : Db) : List Task :=
  Paging.page (fun t => t.taskUid.toText) ((db.tasks.rows.map toTask).filter scope) limit cursor

def listAssignedToUser (userId : Int) (cursor : Option String) (limit : Nat) : Proc (List Task) :=
  select (.taskListAssigned userId) fun db =>
    .ok (listQuery (fun t => t.assignedToUserId = some userId) cursor limit db)

def listCreatedByUser (userId : Int) (cursor : Option String) (limit : Nat) : Proc (List Task) :=
  select (.taskListCreated userId) fun db =>
    .ok (listQuery (fun t => t.createdByUserId = userId) cursor limit db)

def listAll (cursor : Option String) (limit : Nat) : Proc (List Task) :=
  select .taskListAll fun db => .ok (listQuery (fun _ => true) cursor limit db)

/-- The figures of these tasks; `today` is `date('now')`, whose text is compared. -/
def countStats (averageHours : AverageHours) (today : NaiveDate) (tasks : List Task) : TaskStats where
  createdCount := tasks.length
  completedCount := tasks.countP fun t => t.status = .completed
  activeCount := tasks.countP fun t => t.status = .created || t.status = .sent || t.status = .inProgress ||
    t.status = .blocked || t.status = .inReview
  overdueCount := tasks.countP fun t =>
    t.deadline.any (fun deadline => isoDate deadline < isoDate today) &&
      !(t.status = .completed || t.status = .cancelled)
  averageCompletionHours := averageHours (tasks.filterMap fun t => t.completedAt.map fun done => (t.createdAt, done))

/-- On the rows the list of the created tasks is selected from. -/
def countStatsForUser (averageHours : AverageHours) (today : NaiveDate) (userId : Int) : Proc TaskStats :=
  select (.taskListCreated userId) fun db =>
    .ok (countStats averageHours today ((db.tasks.rows.map toTask).filter fun t => t.createdByUserId = userId))

def countStatsGlobal (averageHours : AverageHours) (today : NaiveDate) : Proc TaskStats :=
  select .taskListAll fun db => .ok (countStats averageHours today (db.tasks.rows.map toTask))

/-- What the use cases answer when the uid is unknown. -/
def taskNotFound (uid : Uuid) : AppError :=
  .notFound "TASK_NOT_FOUND" "Task was not found" [("task_uid", .str uid.toText)]

/-- The columns `UPDATE tasks SET …` writes, from the task it is given. -/
def updateColumns (task : Task) (c : TaskColumns) : TaskColumns :=
  { c with
    task :=
      { c.task with
        assignedToUserId := task.assignedToUserId
        assignedToEmployeeId := task.assignedToEmployeeId
        title := task.title
        description := task.description
        acceptanceCriteria := task.acceptanceCriteria
        expectedResult := task.expectedResult
        deadline := task.deadline
        deadlineRaw := task.deadlineRaw
        status := task.status
        priority := task.priority
        blockedReason := task.blockedReason
        telegramTaskMessageId := task.telegramTaskMessageId
        sentAt := task.sentAt
        startedAt := task.startedAt
        blockedAt := task.blockedAt
        reviewRequestedAt := task.reviewRequestedAt
        completedAt := task.completedAt
        cancelledAt := task.cancelledAt
        updatedAt := task.updatedAt
        version := task.version } }

theorem updateColumns_keeps (task : Task) : KeepsKeys (updateColumns task) := fun _ _ => rfl

def versionConflict (task : Task) : AppError :=
  .conflict "TASK_VERSION_CONFLICT"
    "Task was updated concurrently, please reopen the card and try again"
    [("task_uid", .str task.taskUid.toText), ("expected_previous_version", .int (task.version - 1))]

/-- `WHERE task_uid = ? AND version = ?`. -/
def isPrevious (task : Task) (r : Stored TaskColumns) : Bool :=
  r.val.task.taskUid = task.taskUid ∧ r.val.task.version = task.version - 1

/-- The database after the `UPDATE`. -/
def updated (task : Task) (db : Db) : Db :=
  { db with tasks := db.tasks.modify (isPrevious task) (updateColumns task) (updateColumns_keeps task) }

def updateTask (task : Task) (db : Db) : AppResult Task × Db :=
  match db.tasks.find? (isPrevious task) with
  | none => (.error (versionConflict task), db)
  | some r => (.ok (toTask ⟨r.id, updateColumns task r.val⟩), updated task db)

def update (task : Task) : Proc Task := .perform (.taskUpdate task.taskUid) (updateTask task)

end TaskRepository

/-! ## The stored task -/

/-- The task a lookup by uid yields. -/
def Db.stored (db : Db) (uid : Uuid) : Option Task :=
  (db.tasks.find? fun r => r.val.task.taskUid = uid).map toTask

/-- Some task has the source key. -/
def Db.HasKey (db : Db) (key : String) : Prop :=
  ∃ r ∈ db.tasks.rows, r.val.task.sourceMessageKey = key

theorem Db.stored_congr {db db' : Db} (h : db'.tasks = db.tasks) (uid : Uuid) :
    db'.stored uid = db.stored uid := by
  unfold Db.stored
  rw [h]

theorem Db.stored_taskUid {db : Db} {uid : Uuid} {t : Task} (h : db.stored uid = some t) :
    t.taskUid = uid := by
  obtain ⟨r, hr, rfl⟩ := Option.map_eq_some_iff.mp h
  simpa using (Table.find?_some hr).2

/-- The row a lookup by uid finds is the only one with that uid. -/
theorem stored_of_mem {db : Db} {r : Stored TaskColumns} (hr : r ∈ db.tasks.rows) :
    db.stored r.val.task.taskUid = some (toTask r) := by
  unfold Db.stored
  rw [Table.find?_eq hr (by simp)]
  · rfl
  · intro a b ha hb
    refine .inr ?_
    simp only [decide_eq_true_eq] at ha hb
    simp [Keyed.clash, ha, hb]

namespace TaskRepository

theorem find?_isPrevious {db : Db} {task : Task} {r : Stored TaskColumns}
    (h : db.tasks.find? (isPrevious task) = some r) :
    db.stored task.taskUid = some (toTask r) ∧ r.val.task.version = task.version - 1 := by
  obtain ⟨hr, hq⟩ := Table.find?_some h
  simp only [isPrevious, decide_eq_true_eq] at hq
  rw [← hq.1]
  exact ⟨stored_of_mem hr, hq.2⟩

/-- **An update whose base is not the stored version changes nothing.** -/
theorem update_conflict {db : Db} {task prev : Task} (h : db.stored task.taskUid = some prev)
    (hv : prev.version ≠ task.version - 1) :
    updateTask task db = (.error (versionConflict task), db) := by
  unfold updateTask
  cases hf : db.tasks.find? (isPrevious task) with
  | none => rfl
  | some r =>
    obtain ⟨hs, hr⟩ := find?_isPrevious hf
    rw [h] at hs
    cases hs
    exact absurd hr hv

/-- The updated row reads as the argument when the two agree in the columns the
`UPDATE` leaves alone. -/
theorem toTask_updateColumns {task : Task} {r : Stored TaskColumns} (h : task.SameDraft (toTask r)) :
    toTask ⟨r.id, updateColumns task r.val⟩ = task := by
  obtain ⟨h₁, h₂, h₃, h₄, h₅, h₆, h₇, h₈, h₉, h₁₀, h₁₁, h₁₂⟩ := h
  cases task
  simp only [toTask] at h₁ h₂ h₃ h₄ h₅ h₆ h₇ h₈ h₉ h₁₀ h₁₁ h₁₂
  subst h₁ h₂ h₃ h₄ h₅ h₆ h₇ h₈ h₉ h₁₀ h₁₁ h₁₂
  rfl

theorem stored_modify {db db' : Db} {q : Stored TaskColumns → Bool} {f : TaskColumns → TaskColumns}
    {hf : KeepsKeys f} (h : db'.tasks = db.tasks.modify q f hf)
    (huid : ∀ c, (f c).task.taskUid = c.task.taskUid) (uid : Uuid) :
    db'.stored uid =
      (db.tasks.find? fun r => r.val.task.taskUid = uid).map fun r => toTask (setWhere q f r) := by
  unfold Db.stored
  rw [h, Table.find?_modify, Option.map_map]
  · rfl
  · intro r
    simp only [huid]

theorem tasks_updated (task : Task) (db : Db) : (updated task db).tasks =
    db.tasks.modify (isPrevious task) (updateColumns task) (updateColumns_keeps task) := rfl

theorem stored_updated_none {db : Db} {uid : Uuid} (task : Task) (h : db.stored uid = none) :
    (updated task db).stored uid = none := by
  rw [stored_modify (tasks_updated task db) (fun _ => rfl), Option.map_eq_none_iff.mp h]
  rfl

/-- The row an update may have changed. -/
theorem stored_updated_some {db : Db} {uid : Uuid} {t : Task} (task : Task) (h : db.stored uid = some t) :
    ∃ r, t = toTask r ∧ r.val.task.taskUid = uid ∧
      (updated task db).stored uid = some (toTask (setWhere (isPrevious task) (updateColumns task) r)) := by
  obtain ⟨r, hr, rfl⟩ := Option.map_eq_some_iff.mp h
  refine ⟨r, rfl, of_decide_eq_true (Table.find?_some hr).2, ?_⟩
  rw [stored_modify (tasks_updated task db) (fun _ => rfl), hr]
  rfl

theorem stored_updated_ne {db : Db} {task : Task} {uid : Uuid} (hne : uid ≠ task.taskUid) :
    (updated task db).stored uid = db.stored uid := by
  rw [stored_modify (tasks_updated task db) (fun _ => rfl)]
  unfold Db.stored
  cases hf : db.tasks.find? (fun r => r.val.task.taskUid = uid) with
  | none => rfl
  | some r =>
    have hu := (Table.find?_some hf).2
    simp only [decide_eq_true_eq] at hu
    have hn : isPrevious task r = false := by
      simp only [isPrevious, hu, hne, false_and, decide_false]
    simp [setWhere, hn]

/-- **A matching update stores its argument.** -/
theorem update_ok {db : Db} {task prev : Task} (h : db.stored task.taskUid = some prev)
    (hv : prev.version = task.version - 1) (hs : task.SameDraft prev) :
    updateTask task db = (.ok task, updated task db) ∧
      (updated task db).stored task.taskUid = some task := by
  obtain ⟨r, hr, rfl⟩ := Option.map_eq_some_iff.mp h
  obtain ⟨hmem, huid⟩ := Table.find?_some hr
  simp only [decide_eq_true_eq] at huid
  have hq : isPrevious task r = true := by
    simp only [isPrevious, decide_eq_true_eq]
    exact ⟨huid, hv⟩
  have hfind : db.tasks.find? (isPrevious task) = some r := by
    refine Table.find?_eq hmem hq fun a b ha hb => .inr ?_
    simp only [isPrevious, decide_eq_true_eq] at ha hb
    simp [Keyed.clash, ha.1, hb.1]
  constructor
  · unfold updateTask
    simp only [hfind, toTask_updateColumns hs]
  · rw [stored_modify (tasks_updated task db) (fun _ => rfl), hr]
    simp only [Option.map_some, setWhere, hq, if_true, toTask_updateColumns hs]

/-- What an update that answers found, and what it stored. -/
theorem update_answer {db db' : Db} {task t : Task} (h : updateTask task db = (.ok t, db')) :
    ∃ prev, db.stored task.taskUid = some prev ∧ task.version = prev.version + 1 ∧
      db'.stored task.taskUid = some t ∧ t.version = task.version := by
  unfold updateTask at h
  cases hf : db.tasks.find? (isPrevious task) with
  | none => rw [hf] at h; cases h
  | some r =>
    rw [hf] at h
    cases h
    obtain ⟨hs, hv⟩ := find?_isPrevious hf
    obtain ⟨hmem, hq⟩ := Table.find?_some hf
    refine ⟨_, hs, by rw [toTask_version]; omega, ?_, rfl⟩
    rw [stored_modify (tasks_updated task db) (fun _ => rfl), Table.find?_eq hmem]
    · simp [setWhere, hq]
    · simp only [isPrevious, decide_eq_true_eq] at hq
      simpa using hq.1
    · intro a b ha hb
      simp only [decide_eq_true_eq] at ha hb
      exact .inr (by simp [Keyed.clash, ha, hb])

end TaskRepository

/-! ## Insertion -/

namespace TaskRepository

/-- No row holds the uid or the key of the task: its insert adds a row. -/
def IsNew (task : Task) (db : Db) : Prop :=
  ∀ r ∈ db.tasks.rows, Keyed.clash r.val (newColumns task) = false

/-- The row an insert adds. -/
def newRow (task : Task) (db : Db) : Stored TaskColumns := ⟨db.tasks.nextId, newColumns task⟩

variable {task : Task} {db : Db}

theorem rows_inserted (h : IsNew task db) :
    (inserted task db).tasks.rows = db.tasks.rows ++ [newRow task db] ∧
      (db.tasks.insertOrIgnore (newColumns task)).2 = true := by
  rcases Table.insertOrIgnore_cases db.tasks (newColumns task) with ⟨⟨r, hr, hc⟩, -⟩ | ⟨-, hrows, -, hnew⟩
  · rw [h r hr] at hc
    cases hc
  · exact ⟨hrows, hnew⟩

theorem insert_of_not_new (h : ¬ IsNew task db) :
    inserted task db = db ∧ (db.tasks.insertOrIgnore (newColumns task)).2 = false := by
  rcases Table.insertOrIgnore_cases db.tasks (newColumns task) with ⟨-, he⟩ | ⟨hnew, -⟩
  · exact ⟨by rw [inserted, he], by rw [he]⟩
  · exact absurd hnew h

theorem stored_inserted_some {uid : Uuid} {t : Task} (h : db.stored uid = some t) :
    (inserted task db).stored uid = some t := by
  obtain ⟨r, hr, rfl⟩ := Option.map_eq_some_iff.mp h
  have hkept : (inserted task db).tasks.find? (fun r => r.val.task.taskUid = uid) = some r :=
    Table.find?_insert hr
  rw [Db.stored, hkept]
  rfl

/-- A task that an insert has added is its argument. -/
theorem stored_inserted_none {uid : Uuid} {t : Task} (hnone : db.stored uid = none)
    (h : (inserted task db).stored uid = some t) : t = toTask (newRow task db) := by
  by_cases hnew : IsNew task db
  · obtain ⟨r, hr, rfl⟩ := Option.map_eq_some_iff.mp h
    obtain ⟨hmem, huid⟩ := Table.find?_some hr
    rw [(rows_inserted hnew).1] at hmem
    rcases List.mem_append.mp hmem with hold | hlast
    · -- a row with this uid was not there before
      have hmissing := Table.find?_none (Option.map_eq_none_iff.mp hnone) r hold
      rw [hmissing] at huid
      cases huid
    · rw [List.mem_singleton.mp hlast]
  · rw [(insert_of_not_new hnew).1, hnone] at h
    cases h

/-- The row with the key of an inserted task is the new one. -/
theorem find_inserted (h : IsNew task db) :
    (inserted task db).tasks.find? (fun r => r.val.task.sourceMessageKey = task.sourceMessageKey) =
      some (newRow task db) := by
  have hmem : newRow task db ∈ (inserted task db).tasks.rows := by
    rw [(rows_inserted h).1]
    exact List.mem_append_right _ List.mem_cons_self
  have hkey : (newRow task db).val.task.sourceMessageKey = task.sourceMessageKey := rfl
  refine Table.find?_eq hmem (decide_eq_true hkey) fun a b ha hb => .inr ?_
  rw [decide_eq_true_eq] at ha hb
  simp [Keyed.clash, ha, hb]

/-- So is the row with its identifier. -/
theorem stored_inserted (h : IsNew task db) :
    (inserted task db).stored task.taskUid = some (toTask (newRow task db)) := by
  have hmem : newRow task db ∈ (inserted task db).tasks.rows := by
    rw [(rows_inserted h).1]
    exact List.mem_append_right _ List.mem_cons_self
  have hfind : (inserted task db).tasks.find? (fun r => r.val.task.taskUid = task.taskUid) =
      some (newRow task db) := by
    refine Table.find?_eq hmem (decide_eq_true rfl) fun a b ha hb => .inr ?_
    rw [decide_eq_true_eq] at ha hb
    simp [Keyed.clash, ha, hb]
  rw [Db.stored, hfind]
  rfl

theorem readBack_reads (task : Task) (isNew : Bool) (db : Db) :
    (readBack task isNew).Reads db fun p =>
      ∃ r ∈ db.tasks.rows, r.val.task.sourceMessageKey = task.sourceMessageKey ∧
        p = if isNew then .created (toTask r) else .existing (toTask r) := by
  have hfind : (findBySourceMessageKey task.sourceMessageKey).Reads db fun found => ∀ t, found = some t →
      ∃ r ∈ db.tasks.rows, r.val.task.sourceMessageKey = task.sourceMessageKey ∧ t = toTask r := by
    refine .perform fun found h t ht => ?_
    cases h
    obtain ⟨r, hr, rfl⟩ := Option.map_eq_some_iff.mp ht
    obtain ⟨hmem, hq⟩ := Table.find?_some hr
    exact ⟨r, hmem, of_decide_eq_true hq, rfl⟩
  refine hfind.bind fun found hfound => Prog.Reads.bind (.lift fun _ h => h) fun t ht => .pure ?_
  obtain ⟨r, hr, hk, rfl⟩ := hfound t (okOrElse_ok ht)
  exact ⟨r, hr, hk, rfl⟩

/-- A task that is not new is not inserted; only the row with its key can be answered. -/
theorem run_createIfAbsent_existing (plan : Site → Fault AppError) (h : ¬ IsNew task db) :
    ((createIfAbsent task).run plan db).2 = db ∧
      ∀ p, ((createIfAbsent task).run plan db).1 = .ok p →
        ∃ r ∈ db.tasks.rows, r.val.task.sourceMessageKey = task.sourceMessageKey ∧
          p = .existing (toTask r) := by
  obtain ⟨hsame, hflag⟩ := insert_of_not_new h
  unfold createIfAbsent
  cases hi : plan (.taskInsert task.sourceMessageKey) with
  | none =>
    have hrun : (insertTask task).run plan db = (.ok false, db) :=
      (run_write hi db).trans (by rw [hsame, hflag])
    rw [Prog.run_bind_ok plan hrun]
    exact readBack_reads task false db plan
  | before e =>
    have hrun : (insertTask task).run plan db = (.error e, db) := run_write_before hi db
    rw [Prog.run_bind_error plan hrun]
    exact ⟨rfl, fun _ h => nomatch h⟩
  | after e =>
    have hrun : (insertTask task).run plan db = (.error e, inserted task db) := run_write_after hi db
    rw [Prog.run_bind_error plan hrun]
    exact ⟨hsame, fun _ h => nomatch h⟩

/-- A new task, inserted and read back. -/
theorem run_createIfAbsent_new {plan : Site → Fault AppError} (h : IsNew task db)
    (hi : plan (.taskInsert task.sourceMessageKey) = .none)
    (hf : plan (.taskFindByKey task.sourceMessageKey) = .none) :
    (createIfAbsent task).run plan db = (.ok (.created (toTask (newRow task db))), inserted task db) := by
  have hinsert : (insertTask task).run plan db = (.ok true, inserted task db) :=
    (run_write hi db).trans (by rw [(rows_inserted h).2])
  have hfind : (findBySourceMessageKey task.sourceMessageKey).run plan (inserted task db) =
      (.ok (some (toTask (newRow task db))), inserted task db) :=
    (run_select hf _).trans (by rw [find_inserted h]; rfl)
  unfold createIfAbsent
  rw [Prog.run_bind_ok plan hinsert]
  unfold readBack
  rw [Prog.run_bind_ok plan hfind]
  rfl

/-- An insert that fails before it is stored ends the run. -/
theorem run_createIfAbsent_before {plan : Site → Fault AppError} {e : AppError}
    (hi : plan (.taskInsert task.sourceMessageKey) = .before e) :
    (createIfAbsent task).run plan db = (.error e, db) :=
  Prog.run_bind_error plan (run_write_before hi db)

end TaskRepository

/-! ## A sample database -/

def sampleUid (n : UInt8) : Uuid := ⟨Vector.replicate 16 n⟩

/-- A task created by user 1 for user 2. -/
def sampleTask : Task where
  id := some 1
  taskUid := sampleUid 1
  version := 0
  sourceMessageKey := "telegram:10:1"
  createdByUserId := 1
  assignedToUserId := some 2
  assignedToEmployeeId := none
  title := "Report"
  description := "Write the report"
  acceptanceCriteria := []
  expectedResult := "The report"
  deadline := none
  deadlineRaw := none
  originalMessage := "Write the report"
  messageType := .text
  aiModelUsed := "local"
  aiResponseRaw := ""
  status := .created
  priority := .medium
  blockedReason := none
  telegramChatId := 10
  telegramMessageId := 1
  telegramTaskMessageId := none
  tags := []
  createdAt := 0
  sentAt := none
  startedAt := none
  blockedAt := none
  reviewRequestedAt := none
  completedAt := none
  cancelledAt := none
  updatedAt := 0

/-- The database that holds one task. -/
def Db.withTask (task : Task) : Db :=
  TaskRepository.inserted task Db.empty

def sampleDb : Db := Db.withTask sampleTask

end TaskBot
