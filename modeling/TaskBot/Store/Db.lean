import TaskBot.Domain.Task
import TaskBot.Domain.User
import TaskBot.Domain.Records
import TaskBot.Lib.Table
import TaskBot.Lib.RelyGuarantee

/-!
# The database

`Db` holds the tables the modelled repositories read and write; each table
carries its unique columns (`tasks.task_uid`, `tasks.source_message_key`,
`users.telegram_id`, `notifications.dedupe_key`, `sla_escalations(task_id,
level)`, `feature_flag_overrides.flag_key`).  `Site` names the statements a
program can send to it, and `Proc` is a program of such statements.  A statement
that a foreign key refuses is one that fails before it stores anything.
-/

namespace TaskBot

open Sql Calls

/-- The columns of a `tasks` row: the aggregate, and the two columns of the SLA worker. -/
structure TaskColumns where
  task : Task
  slaState : Option String
  slaLastLevel : Int
deriving DecidableEq, Repr

/-- The columns of a `users` row; the onboarding state is the raw text. -/
structure UserColumns where
  user : User
  onboardingState : Option String
deriving DecidableEq, Repr

instance : Keyed TaskColumns where
  clash a b := a.task.taskUid = b.task.taskUid || a.task.sourceMessageKey = b.task.sourceMessageKey
  clash_comm a b := by
    simp only [eq_comm (a := a.task.taskUid), eq_comm (a := a.task.sourceMessageKey)]

instance : Keyed UserColumns where
  clash a b := a.user.telegramId = b.user.telegramId
  clash_comm a b := by simp only [eq_comm]

instance : Keyed Notification where
  clash a b := a.dedupeKey = b.dedupeKey
  clash_comm a b := by simp only [eq_comm]

instance : Keyed SlaEscalation where
  clash a b := a.taskId = b.taskId && a.level = b.level
  clash_comm a b := by
    simp only [eq_comm (a := a.taskId), eq_comm (a := a.level)]

instance : Keyed FlagOverride where
  clash a b := a.flagKey = b.flagKey
  clash_comm a b := by simp only [eq_comm]

instance : Keyed Employee := Keyed.none Employee
instance : Keyed TaskComment := Keyed.none TaskComment
instance : Keyed AuditLogEntry := Keyed.none AuditLogEntry
instance : Keyed AdminAuditEntry := Keyed.none AdminAuditEntry
instance : Keyed SecurityAuditEntry := Keyed.none SecurityAuditEntry
instance : Keyed RecurrenceRule := Keyed.none RecurrenceRule
instance : Keyed TaskTemplate := Keyed.none TaskTemplate

theorem clash_tasks (a b : TaskColumns) : Keyed.clash a b = true ↔
    a.task.taskUid = b.task.taskUid ∨ a.task.sourceMessageKey = b.task.sourceMessageKey := by
  change (decide _ || decide _) = true ↔ _
  rw [Bool.or_eq_true, decide_eq_true_iff, decide_eq_true_iff]

/-- The aggregate a `SELECT` of the row yields. -/
def toTask (r : Stored TaskColumns) : Task := { r.val.task with id := some r.id }

def toUser (r : Stored UserColumns) : User :=
  { r.val.user with
    id := some r.id
    onboardingState := OnboardingState.fromStorageValue r.val.onboardingState }

structure Db where
  users : Table UserColumns
  employees : Table Employee
  tasks : Table TaskColumns
  comments : Table TaskComment
  history : Table AuditLogEntry
  notifications : Table Notification
  escalations : Table SlaEscalation
  rules : Table RecurrenceRule
  templates : Table TaskTemplate
  adminAudit : Table AdminAuditEntry
  flagOverrides : Table FlagOverride
  securityAudit : Table SecurityAuditEntry

def Db.empty : Db :=
  ⟨.empty, .empty, .empty, .empty, .empty, .empty, .empty, .empty, .empty, .empty, .empty, .empty⟩

/-- The statements of the repositories, each with the key it works on; `slot` tells
apart two notifications of one run.  A retry or a batch that sends a statement
twice sends it from one site. -/
inductive Site where
  | userUpsert (telegramId : Int)
  | userEnsureSession (telegramId : Int)
  | userSaveProgress (id : Int)
  | userComplete (id : Int)
  | userFindById (id : Int)
  | userFindByUsername (username : String)
  | userFindByTelegramId (telegramId : Int)
  | userSetRole (id : Int)
  | userDeactivate (id : Int)
  | userReactivate (id : Int)
  | userListActiveAdmins
  | userListWithChatId
  | employeeListActive
  | employeeFindById (id : Int)
  | taskInsert (key : String)
  | taskFindByKey (key : String)
  | taskFindByUid (uid : Uuid)
  | taskFindById (id : Int)
  | taskUpdate (uid : Uuid)
  | taskListUnlinked (employeeId : Int)
  | taskListAssigned (userId : Int)
  | taskListCreated (userId : Int)
  | taskListAll
  | taskListDueBetween
  | taskListOpen
  | auditAppend (taskId : Int)
  | commentCreate (taskId : Int)
  | notificationInsert (dedupeKey : String) (slot : Nat)
  | notificationFind (dedupeKey : String) (slot : Nat)
  | notificationFindLatest (taskId recipientUserId : Int)
  | notificationListPending
  | notificationUpdate (id : Int)
  | slaListActive
  | slaUpdate (taskId : Int)
  | slaRecord (taskId level : Int)
  | ruleListDue
  | templateFind (ruleId templateId : Int)
  | ruleAdvance (ruleId : Int)
  | adminAuditAppend
  | adminAuditListRecent
  | flagUpsert (key : String)
  | flagListOverrides
  | employeeUpsertMany
  | securityAuditAppend
  | securityAuditListRecent
  /-- The write lock of the flag registry, no statement but an await point too. -/
  | flagRegistry (key : String)
deriving DecidableEq, Repr

/-- A program of statements on the database. -/
abbrev Proc := Prog Site Db AppError

/-- Every call is answered. -/
def noFaults : Site → Fault AppError := fun _ => .none

/-- What `database_error` makes of a driver error. -/
def databaseError (error : String) : AppError :=
  .internal "DATABASE_OPERATION_FAILED" "SQLite operation failed" [("error", .str error)]

/-- A statement that only reads. -/
def select {α : Type} (site : Site) (ans : Db → AppResult α) : Proc α :=
  .perform site fun db => (ans db, db)

/-- A statement that writes and always answers. -/
def write {α : Type} (site : Site) (body : Db → α × Db) : Proc α :=
  .perform site fun db => (.ok (body db).1, (body db).2)

theorem select_reads {α : Type} (site : Site) (ans : Db → AppResult α) :
    (select site ans).Within Eq := Prog.Within.perform fun _ => rfl

theorem write_within {α : Type} {K : Db → Db → Prop} {site : Site} {body : Db → α × Db}
    (h : ∀ db, K db (body db).2) : (write site body).Within K := Prog.Within.perform h

section

variable {α : Type} {plan : Site → Fault AppError} {site : Site}

theorem run_select {ans : Db → AppResult α} (h : plan site = .none) (db : Db) :
    (select site ans).run plan db = (ans db, db) := by
  unfold select
  rw [Prog.run_perform, h, Fault.apply_none]

theorem run_select_failed (ans : Db → AppResult α) (h : plan site ≠ .none) (db : Db) :
    ∃ e, (select site ans).run plan db = (.error e, db) := by
  unfold select
  rw [Prog.run_perform]
  cases hf : plan site with
  | none => exact absurd hf h
  | before e => exact ⟨e, rfl⟩
  | after e => exact ⟨e, rfl⟩

theorem run_write {body : Db → α × Db} (h : plan site = .none) (db : Db) :
    (write site body).run plan db = (.ok (body db).1, (body db).2) := by
  unfold write
  rw [Prog.run_perform, h, Fault.apply_none]

theorem run_write_before {body : Db → α × Db} {e : AppError} (h : plan site = .before e) (db : Db) :
    (write site body).run plan db = (.error e, db) := by
  unfold write
  rw [Prog.run_perform, h, Fault.apply_before]

theorem run_write_after {body : Db → α × Db} {e : AppError} (h : plan site = .after e) (db : Db) :
    (write site body).run plan db = (.error e, (body db).2) := by
  unfold write
  rw [Prog.run_perform, h, Fault.apply_after]

end

/-- No statement of the program touches the table of tasks. -/
def LeavesTasks {α : Type} (p : Proc α) : Prop := p.Within fun db db' => db'.tasks = db.tasks

theorem LeavesTasks.of_reads {α : Type} {p : Proc α} (h : p.Within Eq) : LeavesTasks p :=
  h.mono fun db db' he => by rw [he]

theorem LeavesTasks.run {α : Type} {p : Proc α} (h : LeavesTasks p) (plan : Site → Fault AppError)
    (db : Db) : (p.run plan db).2.tasks = db.tasks :=
  Prog.run_within (K := fun (db db' : Db) => db'.tasks = db.tasks) plan (fun _ => rfl)
    (fun _ _ _ hs hs' => hs'.trans hs) h db

@[simp] theorem toTask_status (r : Stored TaskColumns) : (toTask r).status = r.val.task.status := rfl

@[simp] theorem toTask_version (r : Stored TaskColumns) :
    (toTask r).version = r.val.task.version := rfl

@[simp] theorem toTask_taskUid (r : Stored TaskColumns) :
    (toTask r).taskUid = r.val.task.taskUid := rfl

end TaskBot
