import TaskBot.Domain.TaskText
import TaskBot.Policies.RoleAuthorization
import TaskBot.Store.TaskRepository
import TaskBot.UseCases.AssigneeResolution

/-!
# Task mutations

The three use cases that change a stored task on behalf of a user: a status
update, a blocker report and a reassignment.  Each reads the task, asks the
policy, applies one operation of the aggregate, stores the new version and then
writes what goes with it: the comment of a blocker, the audit entry, the
notifications.

`clock` gives the successive readings of the clock in one run.
-/

namespace TaskBot

open Sql Calls

structure TaskStatusSummary where
  taskUid : Uuid
  publicCode : String
  status : TaskStatus
  message : String
deriving DecidableEq, Repr

def taskIdMissing (message : String) (uid : Uuid) : AppError :=
  .internal "TASK_ID_MISSING" message [("task_uid", .str uid.toText)]

/-- Reads the task or answers `TASK_NOT_FOUND`. -/
def loadTask (uid : Uuid) : Proc Task := do
  let found ← TaskRepository.findByUid uid
  .lift (okOrElse found (TaskRepository.taskNotFound uid))

theorem loadTask_stored (uid : Uuid) (db : Db) : (loadTask uid).Reads db fun t => db.stored uid = some t := by
  have hfind : (TaskRepository.findByUid uid).Reads db fun found => found = db.stored uid :=
    .perform fun found h => (Except.ok.inj h).symm
  refine hfind.bind fun found hfound => .lift fun t ht => ?_
  rw [← hfound, okOrElse_ok ht]

theorem run_loadTask {uid : Uuid} {db : Db} {t : Task} (ht : db.stored uid = some t) :
    (loadTask uid).run noFaults db = (.ok t, db) := by
  have hfind : (TaskRepository.findByUid uid).run noFaults db = (.ok (db.stored uid), db) :=
    run_select rfl db
  unfold loadTask
  rw [Prog.run_bind_ok noFaults hfind, ht]
  rfl

/-! ## Status update -/

namespace UpdateTaskStatus

def auditActionForStatus (nextStatus : TaskStatus) : AuditAction :=
  if nextStatus = .inReview then .reviewRequested else .statusChanged

def notificationTypeForStatus : TaskStatus → NotificationType
  | .completed => .taskCompleted
  | .cancelled => .taskCancelled
  | .inReview => .taskReviewRequested
  | .blocked => .taskBlocked
  | .created | .sent | .inProgress => .taskUpdated

def buildStatusMessage (previousStatus nextStatus : TaskStatus) : String :=
  (if nextStatus = .inReview then "Задача отправлена на проверку: " else "Статус задачи обновлён: ") ++
    previousStatus.toText ++ " -> " ++ nextStatus.toText

def buildParticipantNotification (task : Task) (nextStatus : TaskStatus) : String :=
  match nextStatus with
  | .inReview => "Задача «" ++ task.title ++ "» готова и ждёт вашей проверки."
  | .completed => "Задача «" ++ task.title ++ "» принята и завершена."
  | .blocked => "По задаче «" ++ task.title ++ "» зафиксирован блокер."
  | .cancelled => "Задача «" ++ task.title ++ "» отменена."
  | .created | .sent | .inProgress =>
      "Задача «" ++ task.title ++ "» теперь в статусе " ++ nextStatus.toText ++ "."

def dedupeKey (task : Task) (recipientUserId : Int) (nextStatus : TaskStatus) : String :=
  "task_status:" ++ task.taskUid.toText ++ ":" ++ toString recipientUserId ++ ":" ++
    nextStatus.toText ++ ":" ++ toString task.version

def statusEntry (actorId : Option Int) (taskId : Int) (previousStatus nextStatus : TaskStatus)
    (now : Instant) : AuditLogEntry where
  id := none
  taskId
  action := auditActionForStatus nextStatus
  oldStatus := some previousStatus.toText
  newStatus := some nextStatus.toText
  changedByUserId := actorId
  metadata := []
  createdAt := now

def logStatusChange (actorId : Option Int) (task : Task) (previousStatus nextStatus : TaskStatus)
    (now : Instant) : Proc Unit := do
  let taskId ← .lift (okOrElse task.id
    (taskIdMissing "Task must have a database identifier before audit logging" task.taskUid))
  let _ ← AuditLogRepository.append (statusEntry actorId taskId previousStatus nextStatus now)

def participantNotification (task : Task) (nextStatus : TaskStatus) (recipientUserId : Int)
    (now : Instant) : Notification :=
  .pending task.id recipientUserId (notificationTypeForStatus nextStatus)
    (buildParticipantNotification task nextStatus) (dedupeKey task recipientUserId nextStatus) now

/-- One turn of the loop over creator and assignee; the actor is not told. -/
def notifyParticipant (slot : Nat) (actorId : Option Int) (task : Task) (nextStatus : TaskStatus)
    (now : Instant) (recipient : Option Int) : Proc Unit :=
  match recipient with
  | none => pure ()
  | some recipientUserId =>
      if some recipientUserId = actorId then pure ()
      else do
        let _ ← NotificationRepository.enqueue slot
          (participantNotification task nextStatus recipientUserId now)

def enqueueParticipantNotifications (clock : Nat → Instant) (actorId : Option Int) (task : Task)
    (nextStatus : TaskStatus) : Proc Unit := do
  notifyParticipant 0 actorId task nextStatus (clock 2) (some task.createdByUserId)
  notifyParticipant 1 actorId task nextStatus (clock 3) task.assignedToUserId

theorem logStatusChange_leavesTasks (actorId : Option Int) (task : Task)
    (previousStatus nextStatus : TaskStatus) (now : Instant) :
    LeavesTasks (logStatusChange actorId task previousStatus nextStatus now) :=
  .bind (.lift _) fun _ => .bind (append_leavesTasks _) fun _ => .pure _

theorem notifyParticipant_leavesTasks (slot : Nat) (actorId : Option Int) (task : Task)
    (nextStatus : TaskStatus) (now : Instant) (recipient : Option Int) :
    LeavesTasks (notifyParticipant slot actorId task nextStatus now recipient) := by
  unfold notifyParticipant
  split
  · exact .pure _
  · split
    · exact .pure _
    · exact .bind (NotificationRepository.enqueue_leavesTasks _ _) fun _ => .pure _

theorem enqueueParticipantNotifications_leavesTasks (clock : Nat → Instant) (actorId : Option Int)
    (task : Task) (nextStatus : TaskStatus) :
    LeavesTasks (enqueueParticipantNotifications clock actorId task nextStatus) :=
  .bind (notifyParticipant_leavesTasks _ _ _ _ _ _) fun _ => notifyParticipant_leavesTasks _ _ _ _ _ _

def execute (clock : Nat → Instant) (actor : User) (taskUid : Uuid) (requestedStatus : TaskStatus) :
    Proc TaskStatusSummary := do
  let task ← loadTask taskUid
  let nextStatus ← .lift
    (RoleAuthorizationPolicy.normalizeRequestedStatus actor task requestedStatus)
  .lift (RoleAuthorizationPolicy.ensureCanChangeStatus actor task nextStatus)
  let updatedTask ← .lift (task.transitionTo nextStatus (clock 0))
  let savedTask ← TaskRepository.update updatedTask
  logStatusChange actor.id savedTask task.status nextStatus (clock 1)
  enqueueParticipantNotifications clock actor.id savedTask nextStatus
  pure
    { taskUid
      publicCode := formatPublicTaskCodeOrPlaceholder savedTask.id
      status := savedTask.status
      message := buildStatusMessage task.status savedTask.status }

end UpdateTaskStatus

/-! ## Blocker report -/

namespace ReportTaskBlocker

def blockerEntry (taskId actorId : Int) (previousStatus : TaskStatus) (reason : String)
    (now : Instant) : AuditLogEntry where
  id := none
  taskId
  action := .blocked
  oldStatus := some previousStatus.toText
  newStatus := some "blocked"
  changedByUserId := some actorId
  metadata := [("reason", .str reason)]
  createdAt := now

def dedupeKey (task : Task) : String :=
  "task_blocked:" ++ task.taskUid.toText ++ ":" ++ toString task.createdByUserId ++ ":" ++
    toString task.version

def creatorNotification (task : Task) (reason : String) (now : Instant) : Notification :=
  .pending task.id task.createdByUserId .taskBlocked
    ("По задаче «" ++ task.title ++ "» есть блокер: " ++ reason) (dedupeKey task) now

def notifyCreator (task : Task) (reason : String) (actorId : Int) (now : Instant) : Proc Unit :=
  if task.createdByUserId = actorId then pure ()
  else do
    let _ ← NotificationRepository.enqueue 0 (creatorNotification task reason now)

theorem notifyCreator_leavesTasks (task : Task) (reason : String) (actorId : Int) (now : Instant) :
    LeavesTasks (notifyCreator task reason actorId now) := by
  unfold notifyCreator
  split
  · exact .pure _
  · exact .bind (NotificationRepository.enqueue_leavesTasks _ _) fun _ => .pure _

def execute (clock : Nat → Instant) (actor : User) (taskUid : Uuid) (blockerReason : String) :
    Proc TaskStatusSummary := do
  let actorId ← .lift (okOrElse actor.id
    (.unauthenticated "User must be registered before reporting a blocker"
      [("telegram_id", .int actor.telegramId)]))
  let task ← loadTask taskUid
  .lift (RoleAuthorizationPolicy.ensureCanReportBlocker actor task)
  let updatedTask ← .lift (task.applyBlocker blockerReason (clock 0))
  let savedTask ← TaskRepository.update updatedTask
  let taskId ← .lift (okOrElse savedTask.id
    (taskIdMissing "Task must have an identifier after blocker update" taskUid))
  let blockerComment ← .lift (TaskComment.new taskId actorId .blocker blockerReason (clock 1))
  let storedComment ← CommentRepository.create blockerComment
  let _ ← AuditLogRepository.append
    (blockerEntry taskId actorId task.status storedComment.body (clock 2))
  notifyCreator savedTask storedComment.body actorId (clock 3)
  pure
    { taskUid
      publicCode := formatPublicTaskCodeOrPlaceholder savedTask.id
      status := savedTask.status
      message := "Блокер сохранён, автор уведомлён." }

end ReportTaskBlocker

/-! ## Reassignment -/

inductive ReassignTaskOutcome where
  | reassigned (summary : TaskStatusSummary)
  | clarificationRequired (request : ClarificationRequest)
deriving DecidableEq, Repr

inductive ReassignAssigneeDecision where
  | auto
  | employeeId (id : Int)
deriving DecidableEq, Repr

namespace ReassignTask

def reassignEntry (actorId taskId : Int) (previousTask savedTask : Task) (query : String)
    (now : Instant) : AuditLogEntry where
  id := none
  taskId
  action := .reassigned
  oldStatus := some previousTask.status.toText
  newStatus := some savedTask.status.toText
  changedByUserId := some actorId
  metadata := [("query", .str (trim query)),
    ("assigned_to_user_id", jsonInt savedTask.assignedToUserId),
    ("assigned_to_employee_id", jsonInt savedTask.assignedToEmployeeId)]
  createdAt := now

def dedupeKey (task : Task) (recipientUserId : Int) : String :=
  "task_reassigned:" ++ task.taskUid.toText ++ ":" ++ toString recipientUserId ++ ":" ++
    toString task.version

def assigneeNotification (task : Task) (recipientUserId : Int) (now : Instant) : Notification :=
  .pending task.id recipientUserId .taskAssigned
    ("Вам переназначили задачу «" ++ task.title ++ "».") (dedupeKey task recipientUserId) now

def notifyNewAssignee (task : Task) (now : Instant) : Proc Unit :=
  match task.assignedToUserId with
  | none => pure ()
  | some recipientUserId => do
      let _ ← NotificationRepository.enqueue 0 (assigneeNotification task recipientUserId now)

theorem notifyNewAssignee_leavesTasks (task : Task) (now : Instant) :
    LeavesTasks (notifyNewAssignee task now) := by
  unfold notifyNewAssignee
  split
  · exact .pure _
  · exact .bind (NotificationRepository.enqueue_leavesTasks _ _) fun _ => .pure _

def resolve (ranking : NameRanking) (query : String) (decision : ReassignAssigneeDecision) :
    Proc AssigneeResolution :=
  match decision with
  | .auto => AssigneeResolver.resolveForReassignment ranking query
  | .employeeId id => do
      let resolved ← AssigneeResolver.resolveEmployeeId id
      pure (.resolved resolved)

theorem resolve_reads (ranking : NameRanking) (query : String) (decision : ReassignAssigneeDecision) :
    (resolve ranking query decision).Within Eq := by
  cases decision with
  | auto => exact AssigneeResolver.resolveWithPurpose_reads _ _ _
  | employeeId id => exact .bind (AssigneeResolver.resolveEmployeeId_reads id) fun _ => .pure _

theorem resolve_strict (ranking : NameRanking) (query : String) (decision : ReassignAssigneeDecision) :
    (resolve ranking query decision).Strict := by
  cases decision with
  | auto => exact AssigneeResolver.resolveWithPurpose_strict _ _ _
  | employeeId id => exact .bind (AssigneeResolver.resolveEmployeeId_strict id) fun _ => .pure _

/-- The part after the assignee is known. -/
def store (clock : Nat → Instant) (actorId : Int) (task : Task) (query : String)
    (resolved : ResolvedAssignee) : Proc TaskStatusSummary := do
  let reassignedTask ← .lift (task.reassign (resolved.user.bind User.id)
    (resolved.employee.bind Employee.id) (clock 0))
  let savedTask ← TaskRepository.update reassignedTask
  let taskId ← .lift (okOrElse savedTask.id
    (taskIdMissing "Task must have an identifier after reassignment" savedTask.taskUid))
  let _ ← AuditLogRepository.append (reassignEntry actorId taskId task savedTask query (clock 1))
  notifyNewAssignee savedTask (clock 2)
  pure
    { taskUid := task.taskUid
      publicCode := formatPublicTaskCodeOrPlaceholder savedTask.id
      status := savedTask.status
      message := "Исполнитель обновлён: " ++ trim query }

def executeWithDecision (clock : Nat → Instant) (ranking : NameRanking) (actor : User)
    (taskUid : Uuid) (assigneeQuery : String) (assigneeDecision : ReassignAssigneeDecision) :
    Proc ReassignTaskOutcome := do
  let actorId ← .lift (okOrElse actor.id
    (.unauthenticated "User must be registered before reassigning tasks"
      [("telegram_id", .int actor.telegramId)]))
  let task ← loadTask taskUid
  .lift (RoleAuthorizationPolicy.ensureCanReassign actor task)
  let resolution ← resolve ranking assigneeQuery assigneeDecision
  match resolution with
  | .clarificationRequired request =>
      pure (.clarificationRequired
        { request with
          taskBodyPreview := some (formatTaskBodyPreviewForClarification "" task.title) })
  | .resolved resolved => do
      let summary ← store clock actorId task assigneeQuery resolved
      pure (.reassigned summary)

end ReassignTask

end TaskBot
