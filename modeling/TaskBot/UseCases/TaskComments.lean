import TaskBot.UseCases.TaskMutations

/-!
# Task comments

A comment changes no task: it is stored, logged, and told to the creator and the
assignee, except to who wrote it.  `clock` gives the successive readings of the
clock in one run.
-/

namespace TaskBot

open Sql Calls

namespace AddTaskComment

def commentEntry (taskId actorId : Int) (body : String) (now : Instant) : AuditLogEntry where
  id := none
  taskId
  action := .commented
  oldStatus := none
  newStatus := none
  changedByUserId := some actorId
  metadata := [("preview", .str body)]
  createdAt := now

def logComment (taskId actorId : Int) (body : String) (now : Instant) : Proc Unit := do
  let _ ← AuditLogRepository.append (commentEntry taskId actorId body now)

def dedupeKey (task : Task) (recipientUserId : Int) (commentId : Option Int) : String :=
  "task_comment:" ++ task.taskUid.toText ++ ":" ++ toString recipientUserId ++ ":" ++
    toString (commentId.getD 0)

def commentNotification (task : Task) (body : String) (commentId : Option Int) (recipientUserId : Int)
    (now : Instant) : Notification :=
  .pending task.id recipientUserId .taskUpdated
    ("Новый комментарий по задаче «" ++ task.title ++ "»: " ++ body)
    (dedupeKey task recipientUserId commentId) now

/-- One turn of the loop over creator and assignee. -/
def notifyRecipient (slot : Nat) (actorId : Int) (task : Task) (body : String) (commentId : Option Int)
    (now : Instant) (recipient : Option Int) : Proc Unit :=
  match recipient with
  | none => pure ()
  | some recipientUserId =>
      if recipientUserId = actorId then pure ()
      else do
        let _ ← NotificationRepository.enqueue slot
          (commentNotification task body commentId recipientUserId now)

def notifyOtherSide (clock : Nat → Instant) (actorId : Int) (task : Task) (body : String)
    (commentId : Option Int) : Proc Unit := do
  notifyRecipient 0 actorId task body commentId (clock 2) (some task.createdByUserId)
  notifyRecipient 1 actorId task body commentId (clock 3) task.assignedToUserId

def execute (clock : Nat → Instant) (actor : User) (taskUid : Uuid) (body : String) : Proc String := do
  let actorId ← .lift (okOrElse actor.id
    (.unauthenticated "User must be registered before commenting on a task"
      [("telegram_id", .int actor.telegramId)]))
  let task ← loadTask taskUid
  .lift (RoleAuthorizationPolicy.ensureCanComment actor task)
  let taskId ← .lift (okOrElse task.id
    (taskIdMissing "Task must have an identifier before creating comments" taskUid))
  let comment ← .lift (TaskComment.new taskId actorId .context body (clock 0))
  let storedComment ← CommentRepository.create comment
  logComment taskId actorId storedComment.body (clock 1)
  notifyOtherSide clock actorId task storedComment.body storedComment.id
  pure "Комментарий добавлен."

end AddTaskComment

end TaskBot
