import TaskBot.Domain.Task
import TaskBot.Domain.User
import TaskBot.Domain.Records

/-!
# Rows as SQLite holds them

The columns of a row hold texts, integers and instants.  `…ToDb` gives the text of an enumeration, and the
`tryInto` of a row reads all its columns back, or fails with `DATABASE_ROW_INVALID` and the first column that
cannot be read.

* `Names.parse_ok_iff`: of an enumeration exactly the texts of its members are read;
* `TaskRow.tryInto_error_iff` and its siblings: a row is read if none of its columns is at fault, and otherwise
  the error names the first fault;
* `TaskRow.tryInto_bound`, `NotificationRow.tryInto_bound`, `CommentRow.tryInto_bound`: what is bound to an
  `INSERT` is read back.
-/

namespace TaskBot.Rows

/-- `serde_json` and `Uuid::parse_str`, with the texts of their errors. -/
structure Formats where
  parseUuid : String → Except String Uuid
  printStrings : List String → String
  parseStrings : String → Except String (List String)
  parseValue : String → Except String (List (String × Json))

/-- What is printed is read back. -/
structure Formats.ReadsBack (f : Formats) : Prop where
  uuid : ∀ u : Uuid, f.parseUuid u.toText = .ok u
  strings : ∀ l, f.parseStrings (f.printStrings l) = .ok l

def invalidRow (field raw : String) : AppError :=
  .internal "DATABASE_ROW_INVALID" "Database row contains an invalid value" [("field", .str field), ("raw", .str raw)]

/-- `map_err(|error| invalid_row(field, error))`. -/
def readColumn {α : Type} (field : String) : Except String α → AppResult α
  | .ok a => .ok a
  | .error e => .error (invalidRow field e)

/-- What a column has against being read: nothing, or its name and the text of the error. -/
def fault {α : Type} (field : String) : Except String α → List (String × String)
  | .ok _ => []
  | .error e => [(field, e)]

/-! ## Enumerations -/

/-- The members of an enumeration under the texts they are stored as. -/
structure Names (α : Type) where
  table : List (String × α)
  toDb : α → String
  listed : ∀ a, table.lookup (toDb a) = some a
  exact : ∀ p ∈ table, p.1 = toDb p.2

namespace Names

variable {α : Type} (names : Names α)

/-- The text, or the raw value as what is wrong with it. -/
def read (value : String) : Except String α :=
  match names.table.lookup value with
  | some a => .ok a
  | none => .error value

/-- `match value { … _ => Err(invalid_row(field, value)) }`. -/
def parse (field value : String) : AppResult α := readColumn field (names.read value)

@[simp] theorem read_toDb (a : α) : names.read (names.toDb a) = .ok a := by
  unfold read
  rw [names.listed]

theorem read_ok_iff {value : String} {a : α} : names.read value = .ok a ↔ value = names.toDb a := by
  constructor
  · intro h
    unfold read at h
    cases hlookup : names.table.lookup value with
    | none =>
      rw [hlookup] at h
      cases h
    | some b =>
      rw [hlookup] at h
      cases h
      obtain ⟨l₁, l₂, hl, -⟩ := List.lookup_eq_some_iff.mp hlookup
      exact names.exact (value, a) (by rw [hl]; exact List.mem_append_right _ List.mem_cons_self)
  · rintro rfl
    exact names.read_toDb a

theorem read_error {value e : String} (h : names.read value = .error e) :
    e = value ∧ ∀ a, value ≠ names.toDb a := by
  refine ⟨?_, fun a ha => ?_⟩
  · unfold read at h
    cases hlookup : names.table.lookup value with
    | none =>
      rw [hlookup] at h
      cases h
      rfl
    | some b =>
      rw [hlookup] at h
      cases h
  · rw [names.read_ok_iff.mpr ha] at h
    cases h

@[simp] theorem parse_toDb (field : String) (a : α) : names.parse field (names.toDb a) = .ok a := by
  unfold parse
  rw [names.read_toDb]
  rfl

/-- **Exactly the texts of the members are read.** -/
theorem parse_ok_iff {field value : String} {a : α} : names.parse field value = .ok a ↔ value = names.toDb a := by
  rw [← names.read_ok_iff]
  unfold parse
  cases names.read value with
  | ok b => exact ⟨fun h => by cases h; rfl, fun h => by cases h; rfl⟩
  | error e => exact ⟨(nomatch ·), (nomatch ·)⟩

theorem toDb_inj {a b : α} : names.toDb a = names.toDb b ↔ a = b := by
  refine ⟨fun h => ?_, fun h => congrArg _ h⟩
  have hread := names.read_toDb a
  rw [h, names.read_toDb] at hread
  cases hread
  rfl

end Names

def userRoleToDb : UserRole → String
  | .user => "user"
  | .manager => "manager"
  | .admin => "admin"

def userRoles : Names UserRole where
  table := [("user", .user), ("manager", .manager), ("admin", .admin)]
  toDb := userRoleToDb
  listed := by rintro (_ | _ | _) <;> decide
  exact := by decide

def parseUserRole (value : String) : AppResult UserRole := userRoles.parse "role" value

def taskStatusToDb : TaskStatus → String
  | .created => "created"
  | .sent => "sent"
  | .inProgress => "in_progress"
  | .blocked => "blocked"
  | .inReview => "in_review"
  | .completed => "completed"
  | .cancelled => "cancelled"

def taskStatuses : Names TaskStatus where
  table := [("created", .created), ("sent", .sent), ("in_progress", .inProgress), ("blocked", .blocked),
    ("in_review", .inReview), ("completed", .completed), ("cancelled", .cancelled)]
  toDb := taskStatusToDb
  listed := by rintro (_ | _ | _ | _ | _ | _ | _) <;> decide
  exact := by decide

def parseTaskStatus (value : String) : AppResult TaskStatus := taskStatuses.parse "status" value

def taskPriorityToDb : TaskPriority → String
  | .low => "low"
  | .medium => "medium"
  | .high => "high"
  | .urgent => "urgent"

def taskPriorities : Names TaskPriority where
  table := [("low", .low), ("medium", .medium), ("high", .high), ("urgent", .urgent)]
  toDb := taskPriorityToDb
  listed := by rintro (_ | _ | _ | _) <;> decide
  exact := by decide

def parseTaskPriority (value : String) : AppResult TaskPriority := taskPriorities.parse "priority" value

def messageTypeToDb : MessageType → String
  | .text => "text"
  | .voice => "voice"

def messageTypes : Names MessageType where
  table := [("text", .text), ("voice", .voice)]
  toDb := messageTypeToDb
  listed := by rintro (_ | _) <;> decide
  exact := by decide

def parseMessageType (value : String) : AppResult MessageType := messageTypes.parse "message_type" value

def notificationTypeToDb : NotificationType → String
  | .taskAssigned => "task_assigned"
  | .taskUpdated => "task_updated"
  | .deadlineReminder => "deadline_reminder"
  | .taskCompleted => "task_completed"
  | .taskCancelled => "task_cancelled"
  | .taskReviewRequested => "task_review_requested"
  | .taskBlocked => "task_blocked"
  | .dailySummary => "daily_summary"
  | .slaEscalation => "sla_escalation"

def notificationTypes : Names NotificationType where
  table := [("task_assigned", .taskAssigned), ("task_updated", .taskUpdated), ("deadline_reminder", .deadlineReminder),
    ("task_completed", .taskCompleted), ("task_cancelled", .taskCancelled),
    ("task_review_requested", .taskReviewRequested), ("task_blocked", .taskBlocked),
    ("daily_summary", .dailySummary), ("sla_escalation", .slaEscalation)]
  toDb := notificationTypeToDb
  listed := by rintro (_ | _ | _ | _ | _ | _ | _ | _ | _) <;> decide
  exact := by decide

def parseNotificationType (value : String) : AppResult NotificationType :=
  notificationTypes.parse "notification_type" value

def deliveryStateToDb : NotificationDeliveryState → String
  | .pending => "pending"
  | .sent => "sent"
  | .retryPending => "retry_pending"
  | .failed => "failed"

def deliveryStates : Names NotificationDeliveryState where
  table := [("pending", .pending), ("sent", .sent), ("retry_pending", .retryPending), ("failed", .failed)]
  toDb := deliveryStateToDb
  listed := by rintro (_ | _ | _ | _) <;> decide
  exact := by decide

def parseDeliveryState (value : String) : AppResult NotificationDeliveryState :=
  deliveryStates.parse "delivery_state" value

def auditActionToDb : AuditAction → String
  | .created => "created"
  | .sent => "sent"
  | .assigned => "assigned"
  | .statusChanged => "status_changed"
  | .reviewRequested => "review_requested"
  | .reassigned => "reassigned"
  | .blocked => "blocked"
  | .commented => "commented"
  | .edited => "edited"
  | .cancelled => "cancelled"
  | .employeesSynced => "employees_synced"

def auditActions : Names AuditAction where
  table := [("created", .created), ("sent", .sent), ("assigned", .assigned), ("status_changed", .statusChanged),
    ("review_requested", .reviewRequested), ("reassigned", .reassigned), ("blocked", .blocked),
    ("commented", .commented), ("edited", .edited), ("cancelled", .cancelled),
    ("employees_synced", .employeesSynced)]
  toDb := auditActionToDb
  listed := by rintro (_ | _ | _ | _ | _ | _ | _ | _ | _ | _ | _) <;> decide
  exact := by decide

def parseAuditAction (value : String) : AppResult AuditAction := auditActions.parse "audit_action" value

def commentKindToDb : CommentKind → String
  | .context => "context"
  | .blocker => "blocker"
  | .system => "system"

def commentKinds : Names CommentKind where
  table := [("context", .context), ("blocker", .blocker), ("system", .system)]
  toDb := commentKindToDb
  listed := by rintro (_ | _ | _) <;> decide
  exact := by decide

def parseCommentKind (value : String) : AppResult CommentKind := commentKinds.parse "comment_kind" value

/-- `AuditActionCode::as_code`. -/
def asCode : AuditActionCode → String
  | .userOnboardingStarted => "user_onboarding_started"
  | .userOnboardingCompleted => "user_onboarding_completed"
  | .userOnboardingAbandoned => "user_onboarding_abandoned"
  | .userEmployeeLinked => "user_employee_linked"
  | .userEmployeeUnlinked => "user_employee_unlinked"
  | .roleElevatedByBootstrap => "role_elevated_by_bootstrap"
  | .roleChangedByAdmin => "role_changed_by_admin"
  | .userDeactivatedByAdmin => "user_deactivated_by_admin"
  | .userReactivatedByAdmin => "user_reactivated_by_admin"
  | .adminFeatureToggled => "admin_feature_toggled"
  | .forbiddenActionAttempted => "forbidden_action_attempted"
  | .callbackAuthorshipViolation => "callback_authorship_violation"
  | .rateLimitExceeded => "rate_limit_exceeded"
  | .adminNonceExpired => "admin_nonce_expired"

def auditActionCodes : Names AuditActionCode where
  table := [("user_onboarding_started", .userOnboardingStarted),
    ("user_onboarding_completed", .userOnboardingCompleted), ("user_onboarding_abandoned", .userOnboardingAbandoned),
    ("user_employee_linked", .userEmployeeLinked), ("user_employee_unlinked", .userEmployeeUnlinked),
    ("role_elevated_by_bootstrap", .roleElevatedByBootstrap), ("role_changed_by_admin", .roleChangedByAdmin),
    ("user_deactivated_by_admin", .userDeactivatedByAdmin), ("user_reactivated_by_admin", .userReactivatedByAdmin),
    ("admin_feature_toggled", .adminFeatureToggled), ("forbidden_action_attempted", .forbiddenActionAttempted),
    ("callback_authorship_violation", .callbackAuthorshipViolation), ("rate_limit_exceeded", .rateLimitExceeded),
    ("admin_nonce_expired", .adminNonceExpired)]
  toDb := asCode
  listed := by rintro (_ | _ | _ | _ | _ | _ | _ | _ | _ | _ | _ | _ | _ | _) <;> decide
  exact := by decide

def parseAuditActionCode (value : String) : AppResult AuditActionCode :=
  auditActionCodes.parse "audit_action_code" value

def boolAsI64 (value : Bool) : Int := if value then 1 else 0

@[simp] theorem boolAsI64_eq_zero (value : Bool) : boolAsI64 value = 0 ↔ value = false := by
  cases value <;> decide

/-- `value as i32`. -/
def asI32 (value : Int) : Int := Int.bmod value (2 ^ 32)

/-! ## Rows -/

structure UserRow where
  id : Int
  telegramId : Int
  lastChatId : Option Int
  telegramUsername : Option String
  fullName : Option String
  firstName : Option String
  lastName : Option String
  linkedEmployeeId : Option Int
  isEmployee : Int
  role : String
  onboardingState : Option String
  onboardingVersion : Int
  timezone : String
  quietHoursStartMin : Int
  quietHoursEndMin : Int
  deactivatedAt : Option Instant
  createdAt : Instant
  updatedAt : Instant
deriving DecidableEq, Repr

/-- `TryFrom<UserRow> for User`. -/
def UserRow.tryInto (row : UserRow) : AppResult User := do
  let role ← parseUserRole row.role
  pure {
    id := some row.id
    telegramId := row.telegramId
    lastChatId := row.lastChatId
    telegramUsername := row.telegramUsername
    fullName := row.fullName
    firstName := row.firstName
    lastName := row.lastName
    linkedEmployeeId := row.linkedEmployeeId
    isEmployee := row.isEmployee ≠ 0
    role
    onboardingState := .fromStorageValue row.onboardingState
    onboardingVersion := row.onboardingVersion
    timezone := row.timezone
    quietHoursStartMin := asI32 row.quietHoursStartMin
    quietHoursEndMin := asI32 row.quietHoursEndMin
    deactivatedAt := row.deactivatedAt
    createdAt := row.createdAt
    updatedAt := row.updatedAt }

structure EmployeeRow where
  id : Int
  fullName : String
  telegramUsername : Option String
  email : Option String
  phone : Option String
  department : Option String
  isActive : Int
  syncedAt : Option Instant
  createdAt : Instant
  updatedAt : Instant
deriving DecidableEq, Repr

/-- `From<EmployeeRow> for Employee`. -/
def EmployeeRow.into (row : EmployeeRow) : Employee where
  id := some row.id
  fullName := row.fullName
  telegramUsername := row.telegramUsername
  email := row.email
  phone := row.phone
  department := row.department
  isActive := row.isActive ≠ 0
  syncedAt := row.syncedAt
  createdAt := row.createdAt
  updatedAt := row.updatedAt

structure TaskRow where
  id : Int
  taskUid : String
  version : Int
  sourceMessageKey : String
  createdByUserId : Int
  assignedToUserId : Option Int
  assignedToEmployeeId : Option Int
  title : String
  description : String
  acceptanceCriteria : String
  expectedResult : String
  deadline : Option NaiveDate
  deadlineRaw : Option String
  originalMessage : String
  messageType : String
  aiModelUsed : String
  aiResponseRaw : String
  status : String
  priority : String
  blockedReason : Option String
  telegramChatId : Int
  telegramMessageId : Int
  telegramTaskMessageId : Option Int
  tags : String
  createdAt : Instant
  sentAt : Option Instant
  startedAt : Option Instant
  blockedAt : Option Instant
  reviewRequestedAt : Option Instant
  completedAt : Option Instant
  cancelledAt : Option Instant
  updatedAt : Instant
deriving DecidableEq, Repr

structure NotificationRow where
  id : Int
  taskId : Option Int
  recipientUserId : Int
  notificationType : String
  message : String
  dedupeKey : String
  telegramMessageId : Option Int
  deliveryState : String
  isSent : Int
  isRead : Int
  attemptCount : Int
  sentAt : Option Instant
  readAt : Option Instant
  nextAttemptAt : Option Instant
  lastErrorCode : Option String
  createdAt : Instant
deriving DecidableEq, Repr

structure AuditLogRow where
  id : Int
  taskId : Int
  action : String
  oldStatus : Option String
  newStatus : Option String
  changedByUserId : Option Int
  metadata : String
  createdAt : Instant
deriving DecidableEq, Repr

structure CommentRow where
  id : Int
  taskId : Int
  authorUserId : Int
  kind : String
  body : String
  createdAt : Instant
deriving DecidableEq, Repr

structure AdminAuditLogRow where
  id : Int
  actorUserId : Option Int
  targetUserId : Option Int
  actionCode : String
  metadata : String
  createdAt : Instant
deriving DecidableEq, Repr

structure SecurityAuditLogRow where
  id : Int
  actorUserId : Option Int
  telegramId : Option Int
  eventCode : String
  metadata : String
  createdAt : Instant
deriving DecidableEq, Repr

section

variable (f : Formats)

def parseJsonArray (payload field : String) : AppResult (List String) := readColumn field (f.parseStrings payload)

/-- `TryFrom<TaskRow> for Task`. -/
def TaskRow.tryInto (row : TaskRow) : AppResult Task := do
  let taskUid ← readColumn "task_uid" (f.parseUuid row.taskUid)
  let acceptanceCriteria ← parseJsonArray f row.acceptanceCriteria "acceptance_criteria"
  let messageType ← parseMessageType row.messageType
  let status ← parseTaskStatus row.status
  let priority ← parseTaskPriority row.priority
  let tags ← parseJsonArray f row.tags "tags"
  pure {
    id := some row.id
    taskUid
    version := row.version
    sourceMessageKey := row.sourceMessageKey
    createdByUserId := row.createdByUserId
    assignedToUserId := row.assignedToUserId
    assignedToEmployeeId := row.assignedToEmployeeId
    title := row.title
    description := row.description
    acceptanceCriteria
    expectedResult := row.expectedResult
    deadline := row.deadline
    deadlineRaw := row.deadlineRaw
    originalMessage := row.originalMessage
    messageType
    aiModelUsed := row.aiModelUsed
    aiResponseRaw := row.aiResponseRaw
    status
    priority
    blockedReason := row.blockedReason
    telegramChatId := row.telegramChatId
    telegramMessageId := row.telegramMessageId
    telegramTaskMessageId := row.telegramTaskMessageId
    tags
    createdAt := row.createdAt
    sentAt := row.sentAt
    startedAt := row.startedAt
    blockedAt := row.blockedAt
    reviewRequestedAt := row.reviewRequestedAt
    completedAt := row.completedAt
    cancelledAt := row.cancelledAt
    updatedAt := row.updatedAt }

/-- `TryFrom<NotificationRow> for Notification`. -/
def NotificationRow.tryInto (row : NotificationRow) : AppResult Notification := do
  let notificationType ← parseNotificationType row.notificationType
  let deliveryState ← parseDeliveryState row.deliveryState
  pure {
    id := some row.id
    taskId := row.taskId
    recipientUserId := row.recipientUserId
    notificationType
    message := row.message
    dedupeKey := row.dedupeKey
    telegramMessageId := row.telegramMessageId
    deliveryState
    isSent := row.isSent ≠ 0
    isRead := row.isRead ≠ 0
    attemptCount := row.attemptCount
    sentAt := row.sentAt
    readAt := row.readAt
    nextAttemptAt := row.nextAttemptAt
    lastErrorCode := row.lastErrorCode
    createdAt := row.createdAt }

/-- `TryFrom<AuditLogRow> for AuditLogEntry`. -/
def AuditLogRow.tryInto (row : AuditLogRow) : AppResult AuditLogEntry := do
  let action ← parseAuditAction row.action
  let metadata ← readColumn "metadata" (f.parseValue row.metadata)
  pure ⟨some row.id, row.taskId, action, row.oldStatus, row.newStatus, row.changedByUserId, metadata, row.createdAt⟩

/-- `TryFrom<CommentRow> for TaskComment`. -/
def CommentRow.tryInto (row : CommentRow) : AppResult TaskComment := do
  let kind ← parseCommentKind row.kind
  pure ⟨some row.id, row.taskId, row.authorUserId, kind, row.body, row.createdAt⟩

/-- `TryFrom<AdminAuditLogRow> for AdminAuditEntry`. -/
def AdminAuditLogRow.tryInto (row : AdminAuditLogRow) : AppResult AdminAuditEntry := do
  let actionCode ← parseAuditActionCode row.actionCode
  let metadata ← readColumn "metadata" (f.parseValue row.metadata)
  pure ⟨some row.id, row.actorUserId, row.targetUserId, actionCode, metadata, row.createdAt⟩

/-- `TryFrom<SecurityAuditLogRow> for SecurityAuditEntry`. -/
def SecurityAuditLogRow.tryInto (row : SecurityAuditLogRow) : AppResult SecurityAuditEntry := do
  let eventCode ← parseAuditActionCode row.eventCode
  let metadata ← readColumn "metadata" (f.parseValue row.metadata)
  pure ⟨some row.id, row.actorUserId, row.telegramId, eventCode, metadata, row.createdAt⟩

/-! ## Which rows are read -/

/-- The columns that cannot be read, in the order in which they are read. -/
def TaskRow.faults (row : TaskRow) : List (String × String) :=
  [fault "task_uid" (f.parseUuid row.taskUid), fault "acceptance_criteria" (f.parseStrings row.acceptanceCriteria),
    fault "message_type" (messageTypes.read row.messageType), fault "status" (taskStatuses.read row.status),
    fault "priority" (taskPriorities.read row.priority), fault "tags" (f.parseStrings row.tags)].flatten

def NotificationRow.faults (row : NotificationRow) : List (String × String) :=
  [fault "notification_type" (notificationTypes.read row.notificationType),
    fault "delivery_state" (deliveryStates.read row.deliveryState)].flatten

def AuditLogRow.faults (row : AuditLogRow) : List (String × String) :=
  [fault "audit_action" (auditActions.read row.action), fault "metadata" (f.parseValue row.metadata)].flatten

def AdminAuditLogRow.faults (row : AdminAuditLogRow) : List (String × String) :=
  [fault "audit_action_code" (auditActionCodes.read row.actionCode),
    fault "metadata" (f.parseValue row.metadata)].flatten

def SecurityAuditLogRow.faults (row : SecurityAuditLogRow) : List (String × String) :=
  [fault "audit_action_code" (auditActionCodes.read row.eventCode),
    fault "metadata" (f.parseValue row.metadata)].flatten

/-- The error of the first fault. -/
def NamesFirst (faults : List (String × String)) (e : AppError) : Prop :=
  ∃ p, faults.head? = some p ∧ e = invalidRow p.1 p.2

theorem not_namesFirst_nil (e : AppError) : ¬ NamesFirst [] e := fun ⟨_, h, _⟩ => nomatch h

/-- One column after the other. -/
theorem readColumn_bind_error_iff {α β : Type} {field : String} {x : Except String α} {k : α → AppResult β}
    {faults : List (List (String × String))} {e : AppError}
    (hk : ∀ a, x = .ok a → (k a = .error e ↔ NamesFirst faults.flatten e)) :
    (readColumn field x >>= k) = .error e ↔ NamesFirst (fault field x :: faults).flatten e := by
  cases x with
  | ok a => exact hk a rfl
  | error raw =>
    constructor
    · intro h
      cases h
      exact ⟨(field, raw), rfl, rfl⟩
    · rintro ⟨p, hp, rfl⟩
      cases hp
      rfl

theorem pure_error_iff {α : Type} {a : α} {e : AppError} :
    (pure a : AppResult α) = .error e ↔ NamesFirst ([] : List (List (String × String))).flatten e :=
  ⟨(nomatch ·), fun h => absurd h (not_namesFirst_nil e)⟩

variable {f}

/-- **A task row is read if none of its columns is at fault; otherwise the error names the first fault.** -/
theorem TaskRow.tryInto_error_iff (row : TaskRow) (e : AppError) :
    row.tryInto f = .error e ↔ NamesFirst (row.faults f) e := by
  refine readColumn_bind_error_iff fun taskUid _ => ?_
  refine readColumn_bind_error_iff fun acceptanceCriteria _ => ?_
  refine readColumn_bind_error_iff fun messageType _ => ?_
  refine readColumn_bind_error_iff fun status _ => ?_
  refine readColumn_bind_error_iff fun priority _ => ?_
  exact readColumn_bind_error_iff fun tags _ => pure_error_iff

theorem NotificationRow.tryInto_error_iff (row : NotificationRow) (e : AppError) :
    row.tryInto = .error e ↔ NamesFirst row.faults e := by
  refine readColumn_bind_error_iff fun notificationType _ => ?_
  exact readColumn_bind_error_iff fun deliveryState _ => pure_error_iff

theorem AuditLogRow.tryInto_error_iff (row : AuditLogRow) (e : AppError) :
    row.tryInto f = .error e ↔ NamesFirst (row.faults f) e := by
  refine readColumn_bind_error_iff fun action _ => ?_
  exact readColumn_bind_error_iff fun metadata _ => pure_error_iff

theorem AdminAuditLogRow.tryInto_error_iff (row : AdminAuditLogRow) (e : AppError) :
    row.tryInto f = .error e ↔ NamesFirst (row.faults f) e := by
  refine readColumn_bind_error_iff fun actionCode _ => ?_
  exact readColumn_bind_error_iff fun metadata _ => pure_error_iff

theorem SecurityAuditLogRow.tryInto_error_iff (row : SecurityAuditLogRow) (e : AppError) :
    row.tryInto f = .error e ↔ NamesFirst (row.faults f) e := by
  refine readColumn_bind_error_iff fun eventCode _ => ?_
  exact readColumn_bind_error_iff fun metadata _ => pure_error_iff

/-! ## What is stored is read back -/

variable (f) in
/-- What `create_if_absent` binds; the id is given by the table. -/
def TaskRow.bound (task : Task) : TaskRow where
  id := 0
  taskUid := task.taskUid.toText
  version := task.version
  sourceMessageKey := task.sourceMessageKey
  createdByUserId := task.createdByUserId
  assignedToUserId := task.assignedToUserId
  assignedToEmployeeId := task.assignedToEmployeeId
  title := task.title
  description := task.description
  acceptanceCriteria := f.printStrings task.acceptanceCriteria
  expectedResult := task.expectedResult
  deadline := task.deadline
  deadlineRaw := task.deadlineRaw
  originalMessage := task.originalMessage
  messageType := messageTypeToDb task.messageType
  aiModelUsed := task.aiModelUsed
  aiResponseRaw := task.aiResponseRaw
  status := taskStatusToDb task.status
  priority := taskPriorityToDb task.priority
  blockedReason := task.blockedReason
  telegramChatId := task.telegramChatId
  telegramMessageId := task.telegramMessageId
  telegramTaskMessageId := task.telegramTaskMessageId
  tags := f.printStrings task.tags
  createdAt := task.createdAt
  sentAt := task.sentAt
  startedAt := task.startedAt
  blockedAt := task.blockedAt
  reviewRequestedAt := task.reviewRequestedAt
  completedAt := task.completedAt
  cancelledAt := task.cancelledAt
  updatedAt := task.updatedAt

/-- What `enqueue` binds. -/
def NotificationRow.bound (notification : Notification) : NotificationRow where
  id := 0
  taskId := notification.taskId
  recipientUserId := notification.recipientUserId
  notificationType := notificationTypeToDb notification.notificationType
  message := notification.message
  dedupeKey := notification.dedupeKey
  telegramMessageId := notification.telegramMessageId
  deliveryState := deliveryStateToDb notification.deliveryState
  isSent := boolAsI64 notification.isSent
  isRead := boolAsI64 notification.isRead
  attemptCount := notification.attemptCount
  sentAt := notification.sentAt
  readAt := notification.readAt
  nextAttemptAt := notification.nextAttemptAt
  lastErrorCode := notification.lastErrorCode
  createdAt := notification.createdAt

/-- What `CommentRepository::create` binds. -/
def CommentRow.bound (comment : TaskComment) : CommentRow :=
  ⟨0, comment.taskId, comment.authorUserId, commentKindToDb comment.kind, comment.body, comment.createdAt⟩

theorem readColumn_ok_bind {α β : Type} {field : String} {x : Except String α} {a : α} (k : α → AppResult β)
    (h : x = .ok a) : (readColumn field x >>= k) = k a := by
  rw [h]
  rfl

theorem Names.parse_bind {α β : Type} (names : Names α) (field : String) (a : α) (k : α → AppResult β) :
    (names.parse field (names.toDb a) >>= k) = k a := readColumn_ok_bind k (names.read_toDb a)

/-- **A stored task is read back.** -/
theorem TaskRow.tryInto_bound (hf : f.ReadsBack) (task : Task) (id : Int) :
    TaskRow.tryInto f { TaskRow.bound f task with id := id } = .ok { task with id := some id } := by
  refine (readColumn_ok_bind _ (hf.uuid task.taskUid)).trans ?_
  refine (readColumn_ok_bind _ (hf.strings task.acceptanceCriteria)).trans ?_
  refine (messageTypes.parse_bind "message_type" task.messageType _).trans ?_
  refine (taskStatuses.parse_bind "status" task.status _).trans ?_
  refine (taskPriorities.parse_bind "priority" task.priority _).trans ?_
  exact readColumn_ok_bind _ (hf.strings task.tags)

theorem NotificationRow.tryInto_bound (notification : Notification) (id : Int) :
    NotificationRow.tryInto { NotificationRow.bound notification with id := id } =
      .ok { notification with id := some id } := by
  refine (notificationTypes.parse_bind "notification_type" notification.notificationType _).trans ?_
  refine (deliveryStates.parse_bind "delivery_state" notification.deliveryState _).trans ?_
  simp [NotificationRow.bound, pure, Except.pure]

theorem CommentRow.tryInto_bound (comment : TaskComment) (id : Int) :
    CommentRow.tryInto { CommentRow.bound comment with id := id } = .ok { comment with id := some id } :=
  commentKinds.parse_bind "comment_kind" comment.kind _

end

end TaskBot.Rows
