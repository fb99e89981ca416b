import TaskBot.Domain.Message
import TaskBot.Domain.TaskText
import TaskBot.Store.TaskRepository
import TaskBot.UseCases.AssigneeResolution

/-!
# Task creation from a message

The creator is registered, the text is parsed and its assignee resolved, the
generator drafts the task, and `createIfAbsent` stores it under the key of the
message.  Only a run that inserts the task goes on to write its audit entry and
the notification of its assignee; a run that finds the task answers
`duplicateFound`.

What the text parser, the deadline kernel, the speech recogniser, the generator
and the name ranking answer is left open (`CreationServices`).
-/

namespace TaskBot

open Sql Calls

inductive DeliveryStatus where
  | deliveredToAssignee | pendingDelivery | pendingAssigneeRegistration | retryPending | failed
  | creatorOnly
deriving DecidableEq, Repr

structure TaskListItem where
  taskUid : Uuid
  publicCode : String
  title : String
  status : TaskStatus
  deadline : Option NaiveDate
  assignedToDisplay : Option String
  deliveryStatus : Option DeliveryStatus
  highlight : Option String
deriving DecidableEq, Repr

def TaskListItem.fromTask (task : Task) (assignedToDisplay : Option String)
    (deliveryStatus : Option DeliveryStatus) (highlight : Option String) : TaskListItem :=
  ⟨task.taskUid, formatPublicTaskCodeOrPlaceholder task.id, task.title, task.status, task.deadline,
    assignedToDisplay, deliveryStatus, highlight⟩

structure TaskCreationSummary where
  taskUid : Uuid
  publicCode : String
  message : String
  deliveryStatus : DeliveryStatus
  task : TaskListItem
deriving DecidableEq, Repr

def TaskCreationSummary.fromTask (task : Task) (message : String) (deliveryStatus : DeliveryStatus) :
    TaskCreationSummary :=
  ⟨task.taskUid, formatPublicTaskCodeOrPlaceholder task.id, message, deliveryStatus,
    .fromTask task none (some deliveryStatus) none⟩

inductive TaskCreationOutcome where
  | created (summary : TaskCreationSummary)
  | duplicateFound (summary : TaskCreationSummary)
  | clarificationRequired (request : ClarificationRequest)
deriving DecidableEq, Repr

/-- The answer says that the task is stored. -/
def TaskCreationOutcome.isStored : TaskCreationOutcome → Bool
  | created _ | duplicateFound _ => true
  | clarificationRequired _ => false

inductive TaskAssigneeDecision where
  | auto
  | employeeId (id : Int)
  | createUnassigned
deriving DecidableEq, Repr

structure GeneratedTask where
  structuredTask : StructuredTaskDraft
  modelName : String
  rawResponse : String
deriving DecidableEq, Repr

/-- What the deadline kernel resolves. -/
structure Deadline where
  localDate : Option NaiveDate
  rawFragment : Option String
deriving DecidableEq, Repr

/-- The services one run of the use case asks. -/
structure CreationServices where
  transcribe : VoiceAttachment → AppResult String
  parseTaskRequest : String → NaiveDate → AppResult ParsedTaskRequest
  ranking : NameRanking
  generateTask : ParsedTaskRequest → Option Employee → AppResult GeneratedTask
  resolveDeadline : String → String → Option String → Instant → Deadline

namespace CreateTaskFromMessage

def userIdMissing (user : User) : AppError :=
  .internal "USER_ID_MISSING" "Persisted user must contain a database identifier"
    [("telegram_id", .int user.telegramId)]

def requiredUserId (user : User) : AppResult Int := okOrElse user.id (userIdMissing user)

def deliveryHint : DeliveryStatus → String
  | .deliveredToAssignee => "Исполнителю уже доставлено уведомление."
  | .pendingDelivery => "Уведомление поставлено в очередь на отправку исполнителю."
  | .pendingAssigneeRegistration =>
      "Исполнитель найден, но ещё не запускал бота. После /start уведомления начнут приходить напрямую."
  | .retryPending => "Доставка временно не удалась. Бот попробует отправить уведомление повторно."
  | .failed => "Задача создана, но доставить уведомление исполнителю пока не получилось."
  | .creatorOnly => "Задача создана без прямой доставки исполнителю."

def buildCreatorMessage (task : Task) (deliveryStatus : DeliveryStatus) : String :=
  "Задача сохранена.\nID: " ++ formatPublicTaskCodeOrPlaceholder task.id ++ "\nСтатус: " ++
    task.status.toText ++ "\n" ++ deliveryHint deliveryStatus ++ "\n\n" ++ task.renderForTelegram none

def buildDuplicateMessage (task : Task) : String :=
  "Похоже, это сообщение уже было обработано раньше. Дубликат не создан, открывайте существующую карточку.\n\nID: " ++
    formatPublicTaskCodeOrPlaceholder task.id ++ "\nСтатус: " ++ task.status.toText

def resolveDuplicateDeliveryStatus (task : Task) : DeliveryStatus :=
  if task.assignedToEmployeeId.isSome ∧ task.assignedToUserId.isNone then .pendingAssigneeRegistration
  else if task.assignedToUserId.isSome then .pendingDelivery
  else .creatorOnly

def extractOriginalText (services : CreationServices) (message : IncomingMessage) : AppResult String :=
  match message.content with
  | .text text | .command text => .ok text
  | .voice voice => services.transcribe voice

def registerCreator (message : IncomingMessage) : Proc User :=
  UserRepository.upsertFromMessage (.fromMessage message .user false)

def resolveAssignee (ranking : NameRanking) (parsedRequest : ParsedTaskRequest) :
    TaskAssigneeDecision → Proc AssigneeResolution
  | .createUnassigned => pure (.resolved ⟨none, none⟩)
  | .employeeId id => do
      let resolved ← AssigneeResolver.resolveEmployeeId id
      pure (.resolved resolved)
  | .auto =>
      if parsedRequest.explicitUnassigned then pure (.resolved ⟨none, none⟩)
      else
        match parsedRequest.assigneeName with
        | none => pure (.resolved ⟨none, none⟩)
        | some assigneeQuery => AssigneeResolver.resolveForCreation ranking assigneeQuery

theorem resolveAssignee_reads (ranking : NameRanking) (parsedRequest : ParsedTaskRequest)
    (decision : TaskAssigneeDecision) : (resolveAssignee ranking parsedRequest decision).Within Eq := by
  unfold resolveAssignee
  split
  · exact .pure _
  · exact .bind (AssigneeResolver.resolveEmployeeId_reads _) fun _ => .pure _
  · split
    · exact .pure _
    · split
      · exact .pure _
      · exact AssigneeResolver.resolveWithPurpose_reads _ _ _

theorem resolveAssignee_strict (ranking : NameRanking) (parsedRequest : ParsedTaskRequest)
    (decision : TaskAssigneeDecision) : (resolveAssignee ranking parsedRequest decision).Strict := by
  unfold resolveAssignee
  split
  · exact .pure _
  · exact .bind (AssigneeResolver.resolveEmployeeId_strict _) fun _ => .pure _
  · split
    · exact .pure _
    · split
      · exact .pure _
      · exact AssigneeResolver.resolveWithPurpose_strict _ _ _

def jsonDate (date : Option NaiveDate) : Json :=
  match date with
  | some d => .str (isoDate d)
  | none => .null

def creationEntry (task : Task) (taskId : Int) (creatorId assigneeId : Option Int) (now : Instant) :
    AuditLogEntry where
  id := none
  taskId
  action := .created
  oldStatus := none
  newStatus := some TaskStatus.created.toText
  changedByUserId := creatorId
  metadata := [("assigned_to_user_id", jsonInt assigneeId), ("deadline", jsonDate task.deadline)]
  createdAt := now

def logTaskCreation (task : Task) (creatorId assigneeId : Option Int) (now : Instant) : Proc Unit := do
  let taskId ← .lift (okOrElse task.id
    (.internal "TASK_ID_MISSING" "Persisted task must contain a database identifier"
      [("task_uid", .str task.taskUid.toText)]))
  let _ ← AuditLogRepository.append (creationEntry task taskId creatorId assigneeId now)

theorem logTaskCreation_leavesTasks (task : Task) (creatorId assigneeId : Option Int) (now : Instant) :
    LeavesTasks (logTaskCreation task creatorId assigneeId now) :=
  .bind (.lift _) fun _ => .bind (append_leavesTasks _) fun _ => .pure _

/-- The key of an assignment notice, the same for every use case that announces one. -/
def assignmentDedupeKey (taskUid : Uuid) (recipientUserId : Int) : String :=
  "task_assigned:" ++ taskUid.toText ++ ":" ++ toString recipientUserId

def assignmentNotification (task : Task) (recipientUserId : Int) (now : Instant) : Notification :=
  .pending task.id recipientUserId .taskAssigned (task.renderForTelegram none)
    (assignmentDedupeKey task.taskUid recipientUserId) now

def enqueueAssigneeNotification (task : Task) (assigneeUser : Option User) (hasEmployeeMatch : Bool)
    (now : Instant) : Proc DeliveryStatus :=
  match assigneeUser with
  | none => pure (if hasEmployeeMatch then .pendingAssigneeRegistration else .creatorOnly)
  | some user =>
      if user.lastChatId.isNone then pure .pendingAssigneeRegistration
      else
        match user.id with
        | none => pure .pendingAssigneeRegistration
        | some recipientUserId => do
            let _ ← NotificationRepository.enqueue 0 (assignmentNotification task recipientUserId now)
            pure .pendingDelivery

theorem enqueueAssigneeNotification_leavesTasks (task : Task) (assigneeUser : Option User)
    (hasEmployeeMatch : Bool) (now : Instant) :
    LeavesTasks (enqueueAssigneeNotification task assigneeUser hasEmployeeMatch now) := by
  unfold enqueueAssigneeNotification
  split
  · exact .pure _
  · split
    · exact .pure _
    · split
      · exact .pure _
      · exact .bind (NotificationRepository.enqueue_leavesTasks _ _) fun _ => .pure _

/-- The task a run is about to store. -/
def buildTask (services : CreationServices) (clock : Nat → Instant) (uid : Uuid)
    (message : IncomingMessage) (originalText : String) (creator : User)
    (parsedRequest : ParsedTaskRequest) (assignee : ResolvedAssignee) (generated : GeneratedTask) :
    AppResult Task := do
  let deadline := services.resolveDeadline originalText creator.timezone
    generated.structuredTask.deadlineIso (clock 1)
  let creatorId ← requiredUserId creator
  Task.new uid message.sourceMessageKey creatorId (assignee.user.bind User.id)
    (assignee.employee.bind Employee.id) generated.structuredTask
    (deadline.localDate.or parsedRequest.deadline) (deadline.rawFragment.or parsedRequest.deadlineRaw)
    originalText (taskMessageType message.content message.isVoiceOrigin) generated.modelName
    generated.rawResponse message.chatId message.messageId (clock 2)

theorem buildTask_ok {services : CreationServices} {clock : Nat → Instant} {uid : Uuid}
    {message : IncomingMessage} {originalText : String} {creator : User}
    {parsedRequest : ParsedTaskRequest} {assignee : ResolvedAssignee} {generated : GeneratedTask}
    {task : Task} (h : buildTask services clock uid message originalText creator parsedRequest assignee
      generated = .ok task) :
    task.taskUid = uid ∧ task.sourceMessageKey = message.sourceMessageKey ∧
      task.assignedToUserId = assignee.user.bind User.id ∧ task.status = .created := by
  unfold buildTask at h
  cases hid : requiredUserId creator with
  | error e => rw [hid] at h; cases h
  | ok creatorId =>
    rw [hid] at h
    obtain ⟨h₁, h₂, -, h₃, h₄, -⟩ := Task.new_ok h
    exact ⟨h₁, h₂, h₃, h₄⟩

/-- The writes beside a task that was inserted. -/
def announce (clock : Nat → Instant) (creator : User) (assignee : ResolvedAssignee) (storedTask : Task) :
    Proc TaskCreationOutcome := do
  logTaskCreation storedTask creator.id (assignee.user.bind User.id) (clock 3)
  let deliveryStatus ← enqueueAssigneeNotification storedTask assignee.user
    assignee.employee.isSome (clock 4)
  pure (.created (.fromTask storedTask (buildCreatorMessage storedTask deliveryStatus) deliveryStatus))

/-- Stores the task; only a task that was inserted is logged and announced. -/
def persist (clock : Nat → Instant) (creator : User) (assignee : ResolvedAssignee) (task : Task) :
    Proc TaskCreationOutcome := do
  let persistedTask ← TaskRepository.createIfAbsent task
  match persistedTask with
  | .existing existing =>
      pure (.duplicateFound (.fromTask existing (buildDuplicateMessage existing)
        (resolveDuplicateDeliveryStatus existing)))
  | .created storedTask => announce clock creator assignee storedTask

/-- What a run has when it comes to its first write to the tasks. -/
inductive Prepared where
  | clarification (request : ClarificationRequest)
  | ready (creator : User) (assignee : ResolvedAssignee) (task : Task)

/-- From the text to the task, once the creator is registered. -/
def draftTask (services : CreationServices) (clock : Nat → Instant) (uid : Uuid)
    (message : IncomingMessage) (decision : TaskAssigneeDecision) (originalText : String)
    (creator : User) : Proc Prepared := do
  let parsedRequest ← .lift (services.parseTaskRequest originalText (Instant.utcDate (clock 0)))
  let resolution ← resolveAssignee services.ranking parsedRequest decision
  match resolution with
  | .clarificationRequired request =>
      pure (.clarification { request with
        taskBodyPreview := some
          (formatTaskBodyPreviewForClarification parsedRequest.taskDescription originalText) })
  | .resolved assignee => do
      let generated ← .lift (services.generateTask parsedRequest assignee.employee)
      let task ← .lift (buildTask services clock uid message originalText creator parsedRequest
        assignee generated)
      pure (.ready creator assignee task)

/-- The run up to the task it is about to store; `uid` is the fresh identifier it draws. -/
def prepare (services : CreationServices) (clock : Nat → Instant) (uid : Uuid)
    (message : IncomingMessage) (decision : TaskAssigneeDecision) : Proc Prepared := do
  .lift message.validatePayloadLength
  let originalText ← .lift (extractOriginalText services message)
  let creator ← registerCreator message
  draftTask services clock uid message decision originalText creator

def executeWithAssigneeDecision (services : CreationServices) (clock : Nat → Instant) (uid : Uuid)
    (message : IncomingMessage) (decision : TaskAssigneeDecision) : Proc TaskCreationOutcome := do
  let prepared ← prepare services clock uid message decision
  match prepared with
  | .clarification request => pure (.clarificationRequired request)
  | .ready creator assignee task => persist clock creator assignee task

end CreateTaskFromMessage

end TaskBot
