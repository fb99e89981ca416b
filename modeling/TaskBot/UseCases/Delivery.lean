import TaskBot.Store.RecordRepositories
import TaskBot.Store.TaskRepository
import TaskBot.Store.UserRepository

/-!
# Delivery of notifications

`deliverSingle` is what the worker runs for each pending notification, several of
them at once.  A delivered assignment marks its task as sent; another writer that
was faster is no error here.
-/

namespace TaskBot

open Sql Calls

def taskVersionConflictError : String := "TASK_VERSION_CONFLICT"

namespace ProcessNotifications

def recipientMissingError : String := "RECIPIENT_MISSING"
def chatIdMissingError : String := "CHAT_ID_MISSING"
def telegramSendFailedError : String := "TELEGRAM_SEND_FAILED"

/-- The error codes after which another attempt is pointless. -/
def permanentDeliveryErrorCodes : List String := ["TELEGRAM_BOT_BLOCKED", "TELEGRAM_CHAT_NOT_FOUND"]

def pendingNotificationBatchSize : Nat := 25
def maxNotificationRetryAttempts : Int := 3
def notificationRetryBaseSeconds : Int := 60
def notificationRetryMaxSeconds : Int := 3600

/-- Base times two to the number of earlier attempts, capped. -/
def retryDelaySeconds (nextAttemptCount : Int) : Int :=
  min (notificationRetryBaseSeconds * 2 ^ min (nextAttemptCount - 1).toNat 30) notificationRetryMaxSeconds

def sentEntry (taskId : Int) (now : Instant) : AuditLogEntry where
  id := none
  taskId
  action := .sent
  oldStatus := some TaskStatus.created.toText
  newStatus := some TaskStatus.sent.toText
  changedByUserId := none
  metadata := [("delivery_channel", .str "telegram")]
  createdAt := now

def handleTransientFailure (id nextAttemptCount : Int) (now : Instant) : Proc Unit :=
  if nextAttemptCount ≥ maxNotificationRetryAttempts then
    NotificationRepository.markFailed id telegramSendFailedError
  else
    NotificationRepository.markRetryPending id
      (now + retryDelaySeconds nextAttemptCount * 1000000000) telegramSendFailedError

theorem handleTransientFailure_leavesTasks (id nextAttemptCount : Int) (now : Instant) :
    LeavesTasks (handleTransientFailure id nextAttemptCount now) := by
  unfold handleTransientFailure
  split <;> exact NotificationRepository.setById_leavesTasks _ _ _

def loadRelatedTask : Option Int → Proc (Option Task)
  | none => pure none
  | some taskId => TaskRepository.findById taskId

def logSent (storedTask : Task) (now : Instant) : Proc Unit :=
  match storedTask.id with
  | none => pure ()
  | some taskId => do
      let _ ← AuditLogRepository.append (sentEntry taskId now)

theorem logSent_leavesTasks (storedTask : Task) (now : Instant) :
    LeavesTasks (logSent storedTask now) := by
  unfold logSent
  split
  · exact .pure _
  · exact .bind (append_leavesTasks _) fun _ => .pure _

/-- Created to sent; a conflict means that somebody has moved the task on. -/
def storeSent (task : Task) (now : Instant) : Proc Unit := do
  let updatedTask ← .lift (task.transitionTo .sent now)
  let stored ← (TaskRepository.update updatedTask).attempt
  match stored with
  | .ok storedTask => logSent storedTask now
  | .error error => if error.code = taskVersionConflictError then pure () else .fail error

def markRelatedTaskAsSent (kind : NotificationType) (task : Option Task) (now : Instant) : Proc Unit :=
  match task with
  | none => pure ()
  | some task =>
      if kind = .taskAssigned ∧ task.status = .created then storeSent task now else pure ()

/-- `send` is the answer of the messenger to this notification. -/
def deliverSingle (clock : Nat → Instant) (send : AppResult Int) (notification : Notification) :
    Proc Unit :=
  match notification.id with
  | none => pure ()
  | some id => do
      let user ← UserRepository.findById notification.recipientUserId
      match user with
      | none => NotificationRepository.markFailed id recipientMissingError
      | some user =>
          if user.lastChatId.isNone then NotificationRepository.markFailed id chatIdMissingError
          else do
            let relatedTask ← loadRelatedTask notification.taskId
            match send with
            | .ok messageId => do
                NotificationRepository.markSent id messageId (clock 0)
                markRelatedTaskAsSent notification.notificationType relatedTask (clock 1)
            | .error error =>
                if error.code ∈ permanentDeliveryErrorCodes then
                  NotificationRepository.markFailed id error.code
                else handleTransientFailure id (notification.attemptCount + 1) (clock 0)

end ProcessNotifications

end TaskBot
