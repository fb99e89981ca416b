import TaskBot.Domain.Base

/-!
# The task aggregate

`Task` with its state machine (`TaskStatus.canTransitionTo`) and the four
operations that produce a new version of a stored task: `transitionTo`,
`applyBlocker`, `reassign`, `linkRegisteredAssignee`.  Each operation returns a
new value and raises `version` by one; the exception is a link to the user the
task already has, which returns the task as it is.

* `canTransitionTo_completed`: only a task in review can be completed;
* `transitionTo_ok`, `applyBlocker_ok`, `reassign_ok`, `linkRegisteredAssignee_ok`:
  what an operation that succeeds did;
* `Task.SameDraft`: the columns no operation touches.
-/

namespace TaskBot

inductive TaskStatus where
  | created | sent | inProgress | blocked | inReview | completed | cancelled
deriving DecidableEq, Repr

inductive TaskPriority where
  | low | medium | high | urgent
deriving DecidableEq, Repr

inductive MessageType where
  | text | voice
deriving DecidableEq, Repr

namespace TaskStatus

def canTransitionTo : TaskStatus → TaskStatus → Bool
  | created, sent | created, inProgress | created, blocked | created, cancelled => true
  | sent, inProgress | sent, blocked | sent, inReview | sent, cancelled => true
  | inProgress, blocked | inProgress, inReview | inProgress, cancelled => true
  | blocked, inProgress | blocked, inReview | blocked, cancelled => true
  | inReview, inProgress | inReview, completed | inReview, cancelled => true
  | _, _ => false

def isTerminal : TaskStatus → Bool
  | completed | cancelled => true
  | _ => false

/-- `Display for TaskStatus`, also the text stored in the database. -/
def toText : TaskStatus → String
  | created => "created"
  | sent => "sent"
  | inProgress => "in_progress"
  | blocked => "blocked"
  | inReview => "in_review"
  | completed => "completed"
  | cancelled => "cancelled"

/-- Only a task in review can be completed. -/
theorem canTransitionTo_completed {s : TaskStatus} (h : s.canTransitionTo completed = true) :
    s = inReview := by
  cases s <;> first | rfl | cases h

/-- No transition leaves a terminal status. -/
theorem not_terminal_of_canTransitionTo {s s' : TaskStatus} (h : s.canTransitionTo s' = true) :
    s.isTerminal = false := by
  cases s <;> first | rfl | (cases s' <;> cases h)

theorem canTransitionTo_irrefl (s : TaskStatus) : s.canTransitionTo s = false := by
  cases s <;> rfl

end TaskStatus

/-! ## Drafts -/

structure StructuredTaskDraft where
  title : String
  expectedResult : String
  steps : List String
  acceptanceCriteria : List String
  deadlineIso : Option String
  refused : Bool
  refusalReason : Option String
deriving DecidableEq, Repr

def maxTaskTitleLength : Nat := 100
def maxTaskStepLength : Nat := 280
def maxTaskExpectedResultLength : Nat := 280
def maxTaskAcceptanceCriterionLength : Nat := 160
def maxTaskSteps : Nat := 7
def minTaskSteps : Nat := 1
def maxAcceptanceCriteria : Nat := 5
def maxTaskBlockerReasonLength : Nat := 280

def jsonOpt (o : Option String) : Json :=
  match o with
  | some s => .str s
  | none => .null

namespace StructuredTaskDraft

/-- The fields the derived `Validate` refuses: their `length` attributes. -/
def invalidFields (d : StructuredTaskDraft) : List String :=
  (if charsCount d.title < 1 ∨ 100 < charsCount d.title then ["title"] else []) ++
    (if charsCount d.expectedResult < 1 then ["expected_result"] else [])

def validateBusinessRules (d : StructuredTaskDraft) : AppResult Unit :=
  if d.refused then
    .error (.businessRule "TASK_DRAFT_REFUSED" "AI refused to produce a task for this input"
      [("reason", jsonOpt d.refusalReason)])
  else if d.invalidFields ≠ [] then
    .error (.schemaValidation "TASK_DRAFT_INVALID" "AI response does not match the expected schema"
      [("errors", .strs d.invalidFields)])
  else if ¬ (minTaskSteps ≤ d.steps.length ∧ d.steps.length ≤ maxTaskSteps) then
    .error (.businessRule "TASK_STEPS_INVALID" "Task must contain between 1 and 7 concrete steps"
      [("count", .int d.steps.length)])
  else if d.acceptanceCriteria.length > maxAcceptanceCriteria then
    .error (.businessRule "TASK_ACCEPTANCE_CRITERIA_INVALID"
      "Task contains too many acceptance criteria" [("count", .int d.acceptanceCriteria.length)])
  else if charsCount d.title > maxTaskTitleLength then
    .error (.businessRule "TASK_TITLE_TOO_LONG" "Task title is too long"
      [("limit", .int maxTaskTitleLength)])
  else if charsCount d.expectedResult > maxTaskExpectedResultLength then
    .error (.businessRule "TASK_EXPECTED_RESULT_TOO_LONG" "Task expected result is too long"
      [("limit", .int maxTaskExpectedResultLength)])
  else
    match (d.steps.map charsCount).find? (· > maxTaskStepLength) with
    | some n =>
        .error (.businessRule "TASK_STEP_TOO_LONG"
          "Task contains a step that is too long for Telegram delivery"
          [("limit", .int maxTaskStepLength), ("length", .int n)])
    | none =>
        match (d.acceptanceCriteria.map charsCount).find? (· > maxTaskAcceptanceCriterionLength) with
        | some n =>
            .error (.businessRule "TASK_ACCEPTANCE_CRITERION_TOO_LONG"
              "Task contains an acceptance criterion that is too long for Telegram delivery"
              [("limit", .int maxTaskAcceptanceCriterionLength), ("length", .int n)])
        | none => .ok ()

end StructuredTaskDraft

/-! ## Tasks -/

structure Task where
  id : Option Int
  taskUid : Uuid
  version : Int
  sourceMessageKey : String
  createdByUserId : Int
  assignedToUserId : Option Int
  assignedToEmployeeId : Option Int
  title : String
  description : String
  acceptanceCriteria : List String
  expectedResult : String
  deadline : Option NaiveDate
  deadlineRaw : Option String
  originalMessage : String
  messageType : MessageType
  aiModelUsed : String
  aiResponseRaw : String
  status : TaskStatus
  priority : TaskPriority
  blockedReason : Option String
  telegramChatId : Int
  telegramMessageId : Int
  telegramTaskMessageId : Option Int
  tags : List String
  createdAt : Instant
  sentAt : Option Instant
  startedAt : Option Instant
  blockedAt : Option Instant
  reviewRequestedAt : Option Instant
  completedAt : Option Instant
  cancelledAt : Option Instant
  updatedAt : Instant
deriving DecidableEq, Repr

/-- Sets a status-specific timestamp on first entry. -/
def markTimestamp (nextStatus targetStatus : TaskStatus) (currentValue : Option Instant)
    (now : Instant) : Option Instant :=
  if nextStatus = targetStatus then currentValue.or (some now) else currentValue

namespace Task

/-- `Task::new`; `uid` is the fresh `Uuid::now_v7()`. -/
def new (uid : Uuid) (sourceMessageKey : String) (createdByUserId : Int)
    (assignedToUserId assignedToEmployeeId : Option Int) (draft : StructuredTaskDraft)
    (deadline : Option NaiveDate) (deadlineRaw : Option String) (originalMessage : String)
    (messageType : MessageType) (aiModelUsed aiResponseRaw : String)
    (telegramChatId telegramMessageId : Int) (now : Instant) : AppResult Task :=
  match draft.validateBusinessRules with
  | .error e => .error e
  | .ok () => .ok
      { id := none
        taskUid := uid
        version := 0
        sourceMessageKey
        createdByUserId
        assignedToUserId
        assignedToEmployeeId
        title := draft.title
        description := String.intercalate "\n" draft.steps
        acceptanceCriteria := draft.acceptanceCriteria
        expectedResult := draft.expectedResult
        deadline
        deadlineRaw
        originalMessage
        messageType
        aiModelUsed
        aiResponseRaw
        status := .created
        priority := .medium
        blockedReason := none
        telegramChatId
        telegramMessageId
        telegramTaskMessageId := none
        tags := []
        createdAt := now
        sentAt := none
        startedAt := none
        blockedAt := none
        reviewRequestedAt := none
        completedAt := none
        cancelledAt := none
        updatedAt := now }

/-- The value `transition_to` builds once the edge is allowed. -/
def advanced (t : Task) (nextStatus : TaskStatus) (now : Instant) : Task :=
  { t with
    version := t.version + 1
    status := nextStatus
    updatedAt := now
    sentAt := markTimestamp nextStatus .sent t.sentAt now
    startedAt := markTimestamp nextStatus .inProgress t.startedAt now
    blockedAt := markTimestamp nextStatus .blocked t.blockedAt now
    reviewRequestedAt := markTimestamp nextStatus .inReview t.reviewRequestedAt now
    completedAt := markTimestamp nextStatus .completed t.completedAt now
    cancelledAt := markTimestamp nextStatus .cancelled t.cancelledAt now
    blockedReason := if nextStatus ≠ .blocked then none else t.blockedReason }

def transitionTo (t : Task) (nextStatus : TaskStatus) (now : Instant) : AppResult Task :=
  if ¬ t.status.canTransitionTo nextStatus then
    .error (.businessRule "TASK_TRANSITION_INVALID" "Task status transition is not allowed"
      [("from", .str t.status.toText), ("to", .str nextStatus.toText),
        ("task_uid", .str t.taskUid.toText)])
  else .ok (t.advanced nextStatus now)

def applyBlocker (t : Task) (reason : String) (now : Instant) : AppResult Task :=
  let normalizedReason := trim reason
  if normalizedReason.isEmpty then
    .error (.businessRule "TASK_BLOCKER_EMPTY" "Blocker reason cannot be empty" [])
  else if charsCount normalizedReason > maxTaskBlockerReasonLength then
    .error (.businessRule "TASK_BLOCKER_TOO_LONG" "Blocker reason is too long"
      [("limit", .int maxTaskBlockerReasonLength)])
  else
    match t.transitionTo .blocked now with
    | .error e => .error e
    | .ok nextTask => .ok { nextTask with blockedReason := some normalizedReason }

def reassign (t : Task) (assignedToUserId assignedToEmployeeId : Option Int) (now : Instant) :
    AppResult Task :=
  if t.status.isTerminal then
    .error (.businessRule "TASK_REASSIGN_TERMINAL"
      "Completed or cancelled task cannot be reassigned"
      [("task_uid", .str t.taskUid.toText), ("status", .str t.status.toText)])
  else .ok
    { t with
      version := t.version + 1
      assignedToUserId
      assignedToEmployeeId
      status := .created
      startedAt := none
      blockedAt := none
      reviewRequestedAt := none
      completedAt := none
      cancelledAt := none
      sentAt := none
      blockedReason := none
      updatedAt := now }

def linkRegisteredAssignee (t : Task) (assignedToUserId : Int) (now : Instant) : AppResult Task :=
  if t.assignedToEmployeeId.isNone then
    .error (.businessRule "TASK_EMPLOYEE_ASSIGNMENT_MISSING"
      "Task cannot be linked to a registered assignee without an employee assignment"
      [("task_uid", .str t.taskUid.toText)])
  else if t.assignedToUserId = some assignedToUserId then .ok t
  else .ok
    { t with
      version := t.version + 1
      assignedToUserId := some assignedToUserId
      updatedAt := now }

def reviewRequired (t : Task) : Bool :=
  match t.assignedToUserId with
  | some userId => userId ≠ t.createdByUserId
  | none => false

/-! ## What an operation that succeeds did -/

/-- The columns that no operation touches, the identity of the row among them. -/
structure SameDraft (a b : Task) : Prop where
  id : a.id = b.id
  taskUid : a.taskUid = b.taskUid
  sourceMessageKey : a.sourceMessageKey = b.sourceMessageKey
  createdByUserId : a.createdByUserId = b.createdByUserId
  originalMessage : a.originalMessage = b.originalMessage
  messageType : a.messageType = b.messageType
  aiModelUsed : a.aiModelUsed = b.aiModelUsed
  aiResponseRaw : a.aiResponseRaw = b.aiResponseRaw
  telegramChatId : a.telegramChatId = b.telegramChatId
  telegramMessageId : a.telegramMessageId = b.telegramMessageId
  tags : a.tags = b.tags
  createdAt : a.createdAt = b.createdAt

theorem SameDraft.refl (t : Task) : t.SameDraft t := by constructor <;> rfl

theorem new_ok {uid : Uuid} {key : String} {creator : Int} {user employee : Option Int}
    {draft : StructuredTaskDraft} {deadline : Option NaiveDate} {raw : Option String} {msg : String}
    {mt : MessageType} {model response : String} {chat message : Int} {now : Instant} {t : Task}
    (h : new uid key creator user employee draft deadline raw msg mt model response chat message now
      = .ok t) :
    t.taskUid = uid ∧ t.sourceMessageKey = key ∧ t.createdByUserId = creator ∧
      t.assignedToUserId = user ∧ t.status = .created ∧ t.version = 0 := by
  unfold new at h
  split at h
  · cases h
  · cases h
    exact ⟨rfl, rfl, rfl, rfl, rfl, rfl⟩

theorem transitionTo_ok {t t' : Task} {s : TaskStatus} {now : Instant}
    (h : t.transitionTo s now = .ok t') :
    t.status.canTransitionTo s = true ∧ t' = t.advanced s now := by
  unfold transitionTo at h
  split at h
  · cases h
  · next hs =>
    cases h
    exact ⟨by simpa using hs, rfl⟩

theorem applyBlocker_ok {t t' : Task} {reason : String} {now : Instant}
    (h : t.applyBlocker reason now = .ok t') :
    t.status.canTransitionTo .blocked = true ∧
      t' = { t.advanced .blocked now with blockedReason := some (trim reason) } := by
  unfold applyBlocker at h
  simp only at h
  split at h
  · cases h
  · split at h
    · cases h
    · split at h
      · cases h
      · next h' =>
        obtain ⟨hs, rfl⟩ := transitionTo_ok h'
        cases h
        exact ⟨hs, rfl⟩

theorem reassign_ok {t t' : Task} {user employee : Option Int} {now : Instant}
    (h : t.reassign user employee now = .ok t') :
    t.status.isTerminal = false ∧ t'.status = .created ∧ t'.version = t.version + 1 ∧
      t'.assignedToUserId = user ∧ t'.SameDraft t := by
  unfold reassign at h
  split at h
  · cases h
  · next hs =>
    cases h
    exact ⟨by simpa using hs, rfl, rfl, rfl, by constructor <;> rfl⟩

/-- A link keeps the status; it raises the version unless the user is linked already. -/
theorem linkRegisteredAssignee_ok {t t' : Task} {user : Int} {now : Instant}
    (h : t.linkRegisteredAssignee user now = .ok t') :
    t'.status = t.status ∧ t'.SameDraft t ∧ t'.assignedToUserId = some user ∧
      (t' = t ∨ t'.version = t.version + 1) := by
  unfold linkRegisteredAssignee at h
  split at h
  · cases h
  · split at h
    · next hu =>
      cases h
      exact ⟨rfl, SameDraft.refl t, hu, .inl rfl⟩
    · cases h
      exact ⟨rfl, by constructor <;> rfl, rfl, .inr rfl⟩

end Task

end TaskBot
