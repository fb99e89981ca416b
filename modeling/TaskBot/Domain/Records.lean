import TaskBot.Domain.Base

/-!
# The records beside the task

Comments, audit entries, notifications, escalations, flag overrides, recurrence
rules and their templates: what the use cases write next to a task and what the
background workers read.
-/

namespace TaskBot

/-! ## Comments -/

inductive CommentKind where
  | context | blocker | system
deriving DecidableEq, Repr

structure TaskComment where
  id : Option Int
  taskId : Int
  authorUserId : Int
  kind : CommentKind
  body : String
  createdAt : Instant
deriving DecidableEq, Repr

def maxTaskCommentLength : Nat := 500

/-- `TaskComment::new`: the body is trimmed before it is stored. -/
def TaskComment.new (taskId authorUserId : Int) (kind : CommentKind) (body : String)
    (createdAt : Instant) : AppResult TaskComment :=
  let normalizedBody := trim body
  if normalizedBody.isEmpty then
    .error (.businessRule "TASK_COMMENT_EMPTY" "Task comment cannot be empty" [])
  else if charsCount normalizedBody > maxTaskCommentLength then
    .error (.businessRule "TASK_COMMENT_TOO_LONG" "Task comment is too long"
      [("limit", .int maxTaskCommentLength)])
  else .ok ⟨none, taskId, authorUserId, kind, normalizedBody, createdAt⟩

theorem TaskComment.new_ok {taskId author : Int} {kind : CommentKind} {body : String} {at_ : Instant}
    {c : TaskComment} (h : TaskComment.new taskId author kind body at_ = .ok c) :
    c = ⟨none, taskId, author, kind, trim body, at_⟩ := by
  unfold TaskComment.new at h
  simp only at h
  split at h
  · cases h
  · split at h
    · cases h
    · cases h
      rfl

/-! ## Audit -/

inductive AuditAction where
  | created | sent | assigned | statusChanged | reviewRequested | reassigned | blocked
  | commented | edited | cancelled | employeesSynced
deriving DecidableEq, Repr

structure AuditLogEntry where
  id : Option Int
  taskId : Int
  action : AuditAction
  oldStatus : Option String
  newStatus : Option String
  changedByUserId : Option Int
  metadata : List (String × Json)
  createdAt : Instant
deriving DecidableEq, Repr

inductive AuditActionCode where
  | userOnboardingStarted | userOnboardingCompleted | userOnboardingAbandoned | userEmployeeLinked
  | userEmployeeUnlinked | roleElevatedByBootstrap | roleChangedByAdmin | userDeactivatedByAdmin
  | userReactivatedByAdmin | adminFeatureToggled | forbiddenActionAttempted
  | callbackAuthorshipViolation | rateLimitExceeded | adminNonceExpired
deriving DecidableEq, Repr

/-- A row of the log of privileged actions; no actor stands for the platform itself. -/
structure AdminAuditEntry where
  id : Option Int
  actorUserId : Option Int
  targetUserId : Option Int
  actionCode : AuditActionCode
  metadata : List (String × Json)
  createdAt : Instant
deriving DecidableEq, Repr

/-- A row of the log of suspicious events, such as a storm of requests. -/
structure SecurityAuditEntry where
  id : Option Int
  actorUserId : Option Int
  telegramId : Option Int
  eventCode : AuditActionCode
  metadata : List (String × Json)
  createdAt : Instant
deriving DecidableEq, Repr

/-! ## Notifications -/

inductive NotificationType where
  | taskAssigned | taskUpdated | deadlineReminder | taskCompleted | taskCancelled
  | taskReviewRequested | taskBlocked | dailySummary | slaEscalation
deriving DecidableEq, Repr

inductive NotificationDeliveryState where
  | pending | sent | retryPending | failed
deriving DecidableEq, Repr

structure Notification where
  id : Option Int
  taskId : Option Int
  recipientUserId : Int
  notificationType : NotificationType
  message : String
  dedupeKey : String
  telegramMessageId : Option Int
  deliveryState : NotificationDeliveryState
  isSent : Bool
  isRead : Bool
  attemptCount : Int
  sentAt : Option Instant
  readAt : Option Instant
  nextAttemptAt : Option Instant
  lastErrorCode : Option String
  createdAt : Instant
deriving DecidableEq, Repr

/-- A notification as the use cases enqueue it: pending, never attempted. -/
def Notification.pending (taskId : Option Int) (recipientUserId : Int) (kind : NotificationType)
    (message dedupeKey : String) (now : Instant) : Notification where
  id := none
  taskId
  recipientUserId
  notificationType := kind
  message
  dedupeKey
  telegramMessageId := none
  deliveryState := .pending
  isSent := false
  isRead := false
  attemptCount := 0
  sentAt := none
  readAt := none
  nextAttemptAt := none
  lastErrorCode := none
  createdAt := now

/-! ## Service levels -/

structure SlaEscalation where
  id : Option Int
  taskId : Int
  level : Int
  triggeredAt : Instant
  actor : String
  detail : List (String × Json)
deriving DecidableEq, Repr

/-! ## Feature flags -/

/-- A row of `feature_flag_overrides`. -/
structure FlagOverride where
  flagKey : String
  enabled : Bool
  updatedByUserId : Option Int
  updatedAt : Instant
deriving DecidableEq, Repr

/-! ## Recurrence -/

structure RecurrenceRule where
  templateId : Option Int
  ownerUserId : Int
  cronExpression : String
  timezone : String
  nextRunAt : Option Instant
  lastRunAt : Option Instant
  isActive : Bool
  updatedAt : Instant
deriving DecidableEq, Repr

structure TaskTemplate where
  code : String
  title : String
  body : String
  createdByUserId : Option Int
  isActive : Bool
deriving DecidableEq, Repr

/-- `TaskTemplateBody`, what the JSON text of a template decodes to. -/
structure TaskTemplateBody where
  description : String
  acceptanceCriteria : List String
  expectedResult : String
  tags : List String
deriving DecidableEq, Repr

end TaskBot
