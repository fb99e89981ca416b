import TaskBot.Domain.Message
import TaskBot.UseCases.Delivery
import TaskBot.UseCases.TaskCreation

/-!
# Registration and late linking

Registration links the account to an employee of the directory and then gives the
user the open tasks that waited for the employee: each is linked, logged and
announced.  A task another writer has changed meanwhile is read again and linked
once more, if it still waits.

The lower-casing of names is a parameter.
-/

namespace TaskBot

open Sql Calls

inductive RegistrationLinkDecision where
  | auto
  | employeeId (id : Int)
  | continueUnlinked
deriving DecidableEq, Repr

structure RegistrationLinkClarification where
  message : String
  candidates : List EmployeeCandidateView
  allowContinueUnlinked : Bool
deriving DecidableEq, Repr

inductive RegistrationLinkPreview where
  | ready (decision : RegistrationLinkDecision)
  | clarificationRequired (request : RegistrationLinkClarification)
deriving DecidableEq, Repr

inductive RegistrationEmployeeMatch where
  | unique (employee : Employee)
  | ambiguous (candidates : List EmployeeMatch)
  | notFound
deriving DecidableEq, Repr

namespace RegisterUser

def registrationAmbiguousMessage : String :=
  "Нашёл несколько сотрудников, на которых вы похожи. Выберите себя явно, чтобы задачи не ушли не тому человеку."

def registrationRecoveryTaskBatchSize : Nat := 200
def maxRegistrationRecoveryBatches : Nat := 5

/-! ## Matching the directory -/

def normalizePersonName (toLowercase : String → String) (value : String) : String :=
  toLowercase (collapseWhitespace value)

def exactUsernameMatches (message : IncomingMessage) (employees : List Employee) : List Employee :=
  match message.senderUsername with
  | none => []
  | some username =>
      let normalizedUsername := UserRepository.withoutAt (trim username)
      if normalizedUsername.isEmpty then []
      else employees.filter fun e =>
        match e.telegramUsername with
        | some value =>
            UserRepository.sqlLower (UserRepository.withoutAt (trim value)) =
              UserRepository.sqlLower normalizedUsername
        | none => false

def exactFullNameMatches (toLowercase : String → String) (message : IncomingMessage)
    (employees : List Employee) : List Employee :=
  let normalizedName := normalizePersonName toLowercase message.senderName
  if normalizedName.isEmpty then []
  else employees.filter fun e => normalizePersonName toLowercase e.fullName = normalizedName

def toEmployeeMatch (employee : Employee) : EmployeeMatch := ⟨employee, 100, .exactFullName⟩

/-- The username first; the full name only when no username matches. -/
def resolveRegistrationMatch (toLowercase : String → String) (message : IncomingMessage)
    (employees : List Employee) : RegistrationEmployeeMatch :=
  match exactUsernameMatches message employees with
  | [e] => .unique e
  | e :: es => .ambiguous ((e :: es).map toEmployeeMatch)
  | [] =>
      match exactFullNameMatches toLowercase message employees with
      | [e] => .unique e
      | e :: es => .ambiguous ((e :: es).map toEmployeeMatch)
      | [] => .notFound

/-- The answer for an employee the directory names. -/
def readyFor (employee : Employee) : AppResult RegistrationLinkPreview :=
  match employee.id with
  | some id => .ok (.ready (.employeeId id))
  | none =>
      .error (.internal "EMPLOYEE_ID_MISSING"
        "Directory employee must contain an identifier before linking registration"
        [("full_name", .str employee.fullName)])

def previewLinking (toLowercase : String → String) (message : IncomingMessage) :
    Proc RegistrationLinkPreview := do
  let existingUser ← UserRepository.findByTelegramId message.senderId
  match existingUser.bind User.linkedEmployeeId with
  | some linkedEmployeeId => pure (.ready (.employeeId linkedEmployeeId))
  | none =>
      if existingUser.isSome ∧ ¬ message.isExplicitStartCommand then pure (.ready .continueUnlinked)
      else do
        let employees ← EmployeeRepository.listActive
        match resolveRegistrationMatch toLowercase message employees with
        | .unique employee => .lift (readyFor employee)
        | .ambiguous candidates =>
            pure (.clarificationRequired
              { message := registrationAmbiguousMessage
                candidates := candidates.map .fromMatch
                allowContinueUnlinked := true })
        | .notFound => pure (.ready .continueUnlinked)

theorem previewLinking_reads (toLowercase : String → String) (message : IncomingMessage) :
    (previewLinking toLowercase message).Within Eq := by
  refine .bind (select_reads _ _) fun existingUser => ?_
  split
  · exact .pure _
  · split
    · exact .pure _
    · refine .bind (select_reads _ _) fun employees => ?_
      split
      · exact .lift _
      · exact .pure _
      · exact .pure _

/-! ## Linking one task -/

def shouldLinkTask (task : Task) (employeeId : Int) : Bool :=
  task.assignedToUserId = none ∧ task.assignedToEmployeeId = some employeeId ∧ ¬ task.status.isTerminal

/-- An update whose version conflict is an answer, not an error. -/
def updateUnlessConflict (task : Task) : Proc (Option Task) := do
  let stored ← (TaskRepository.update task).attempt
  match stored with
  | .ok task => pure (some task)
  | .error error => if error.code = taskVersionConflictError then pure none else .fail error

def retryLinkAfterConflict (clock : Nat → Instant) (task : Task) (userId employeeId : Int) :
    Proc (Option Task) := do
  let latest ← TaskRepository.findByUid task.taskUid
  match latest with
  | none => pure none
  | some latestTask =>
      if ¬ shouldLinkTask latestTask employeeId then pure none
      else do
        let retriedTask ← .lift (latestTask.linkRegisteredAssignee userId (clock 1))
        updateUnlessConflict retriedTask

def linkTaskToRegisteredUser (clock : Nat → Instant) (task : Task) (userId employeeId : Int) :
    Proc (Option Task) := do
  let updatedTask ← .lift (task.linkRegisteredAssignee userId (clock 0))
  let stored ← updateUnlessConflict updatedTask
  match stored with
  | some task => pure (some task)
  | none => retryLinkAfterConflict clock task userId employeeId

def recoveredEntry (task : Task) (taskId userId employeeId : Int) (now : Instant) : AuditLogEntry where
  id := none
  taskId
  action := .assigned
  oldStatus := some task.status.toText
  newStatus := some task.status.toText
  changedByUserId := some userId
  metadata := [("resolution", .str "assignee_registered"), ("assigned_to_user_id", .int userId),
    ("assigned_to_employee_id", .int employeeId)]
  createdAt := now

def logRecoveredAssignment (task : Task) (userId employeeId : Int) (now : Instant) : Proc Unit := do
  let taskId ← .lift (okOrElse task.id
    (.internal "TASK_ID_MISSING" "Recovered task must contain a database identifier"
      [("task_uid", .str task.taskUid.toText)]))
  let _ ← AuditLogRepository.append (recoveredEntry task taskId userId employeeId now)

def shouldKeepExistingNotification (n : Notification) : Bool :=
  n.deliveryState = .pending ∨ n.deliveryState = .retryPending ∨ n.deliveryState = .sent

/-- A live notice is kept, a failed one is queued again, a missing one is written. -/
def ensureAssignmentNotification (task : Task) (userId : Int) (now : Instant) : Proc Unit := do
  let taskId ← .lift (okOrElse task.id
    (.internal "TASK_ID_MISSING" "Task must contain an identifier before scheduling delivery"
      [("task_uid", .str task.taskUid.toText)]))
  let existing ← NotificationRepository.findLatestForTaskAndRecipient taskId userId .taskAssigned
  match existing with
  | some n =>
      if shouldKeepExistingNotification n then pure ()
      else
        match n.id with
        | some id => NotificationRepository.requeue id
        | none => pure ()
  | none => do
      let _ ← NotificationRepository.enqueue 0
        (CreateTaskFromMessage.assignmentNotification task userId now)

theorem logRecoveredAssignment_leavesTasks (task : Task) (userId employeeId : Int) (now : Instant) :
    LeavesTasks (logRecoveredAssignment task userId employeeId now) :=
  .bind (.lift _) fun _ => .bind (append_leavesTasks _) fun _ => .pure _

theorem ensureAssignmentNotification_leavesTasks (task : Task) (userId : Int) (now : Instant) :
    LeavesTasks (ensureAssignmentNotification task userId now) := by
  refine .bind (.lift _) fun taskId => .bind (LeavesTasks.of_reads (select_reads _ _)) fun existing => ?_
  split
  · split
    · exact .pure _
    · split
      · exact NotificationRepository.setById_leavesTasks _ _ _
      · exact .pure _
  · exact .bind (NotificationRepository.enqueue_leavesTasks _ _) fun _ => .pure _

/-! ## Recovery -/

/-- The readings of the clock for the `i`-th task. -/
def clockFor (clock : Nat → Instant) (i : Nat) : Nat → Instant := fun j => clock (4 * i + j)

/-- How many of the tasks were linked; `start` numbers the first one. -/
def recoverTaskBatch (clock : Nat → Instant) (userId employeeId : Int) (start : Nat) :
    List Task → Proc Nat
  | [] => pure 0
  | task :: tasks => do
      let saved ← linkTaskToRegisteredUser (clockFor clock start) task userId employeeId
      match saved with
      | none => recoverTaskBatch clock userId employeeId (start + 1) tasks
      | some savedTask => do
          logRecoveredAssignment savedTask userId employeeId (clockFor clock start 2)
          ensureAssignmentNotification savedTask userId (clockFor clock start 3)
          let recoveredCount ← recoverTaskBatch clock userId employeeId (start + 1) tasks
          pure (recoveredCount + 1)

/-- The loop over batches; `n` batches are left. -/
def recoverBatches (clock : Nat → Instant) (userId employeeId : Int) : Nat → Proc Unit
  | 0 => pure ()
  | n + 1 => do
      let tasks ← TaskRepository.listOpenAssignedToEmployeeWithoutUser employeeId
        registrationRecoveryTaskBatchSize
      if tasks.isEmpty then pure ()
      else do
        let recoveredCount ← recoverTaskBatch clock userId employeeId
          (registrationRecoveryTaskBatchSize * (maxRegistrationRecoveryBatches - (n + 1))) tasks
        if recoveredCount = 0 ∨ tasks.length < registrationRecoveryTaskBatchSize then pure ()
        else recoverBatches clock userId employeeId n

def recoverPendingAssignments (clock : Nat → Instant) (user : User) (employee : Option Employee) :
    Proc Unit :=
  match employee.bind Employee.id with
  | none => pure ()
  | some employeeId => do
      let userId ← .lift (CreateTaskFromMessage.requiredUserId user)
      recoverBatches clock userId employeeId maxRegistrationRecoveryBatches

/-! ## What recovery writes -/

/-- What one statement of the recovery does to the database. -/
inductive RecoveryWrite (db : Db) : Db → Prop where
  | nothing : RecoveryWrite db db
  | update (task : Task) : RecoveryWrite db (TaskRepository.updated task db)
  | log (entry : AuditLogEntry) : RecoveryWrite db (db.appendHistory entry)
  | announce (n : Notification) : RecoveryWrite db (db.insertNotification n)
  | requeue (id : Int) : RecoveryWrite db
      { db with
        notifications := db.notifications.modify (fun r => r.id = id)
          NotificationRepository.requeuedColumns NotificationRepository.requeuedColumns_keeps }

theorem RecoveryWrite.users {db db' : Db} (h : RecoveryWrite db db') : db'.users = db.users := by
  cases h <;> rfl

theorem RecoveryWrite.employees {db db' : Db} (h : RecoveryWrite db db') : db'.employees = db.employees := by
  cases h <;> rfl

theorem updateUnlessConflict_writes (task : Task) : (updateUnlessConflict task).Within RecoveryWrite := by
  have hupdate : (TaskRepository.update task).Within RecoveryWrite := .perform fun db => by
    unfold TaskRepository.updateTask
    split
    · exact .nothing
    · exact .update task
  refine .bind hupdate.attempt fun stored => ?_
  split
  · exact .pure _
  · split
    · exact .pure _
    · exact .fail _

theorem linkTask_writes (clock : Nat → Instant) (task : Task) (userId employeeId : Int) :
    (linkTaskToRegisteredUser clock task userId employeeId).Within RecoveryWrite := by
  refine .bind (.lift _) fun updatedTask => .bind (updateUnlessConflict_writes _) fun stored => ?_
  split
  · exact .pure _
  · refine .bind (.of_reads (select_reads _ _) fun _ => .nothing) fun latest => ?_
    split
    · exact .pure _
    · split
      · exact .pure _
      · exact .bind (.lift _) fun _ => updateUnlessConflict_writes _

theorem logRecoveredAssignment_writes (task : Task) (userId employeeId : Int) (now : Instant) :
    (logRecoveredAssignment task userId employeeId now).Within RecoveryWrite :=
  .bind (.lift _) fun _ => .bind (write_within fun _ => .log _) fun _ => .pure _

theorem ensureAssignmentNotification_writes (task : Task) (userId : Int) (now : Instant) :
    (ensureAssignmentNotification task userId now).Within RecoveryWrite := by
  refine .bind (.lift _) fun taskId => .bind (.of_reads (select_reads _ _) fun _ => .nothing) fun existing => ?_
  split
  · split
    · exact .pure _
    · split
      · exact write_within fun _ => .requeue _
      · exact .pure _
  · refine .bind (.bind (write_within fun _ => .announce _) fun _ => ?_) fun _ => .pure _
    exact .bind (.of_reads (select_reads _ _) fun _ => .nothing) fun _ => .bind (.lift _) fun _ => .pure _

theorem recoverTaskBatch_writes (clock : Nat → Instant) (userId employeeId : Int) (tasks : List Task)
    (start : Nat) : (recoverTaskBatch clock userId employeeId start tasks).Within RecoveryWrite := by
  induction tasks generalizing start with
  | nil => exact .pure _
  | cons task tasks ih =>
    refine .bind (linkTask_writes _ _ _ _) fun saved => ?_
    split
    · exact ih _
    · refine .bind (logRecoveredAssignment_writes _ _ _ _) fun _ => ?_
      exact .bind (ensureAssignmentNotification_writes _ _ _) fun _ => .bind (ih _) fun _ => .pure _

theorem recoverBatches_writes (clock : Nat → Instant) (userId employeeId : Int) (n : Nat) :
    (recoverBatches clock userId employeeId n).Within RecoveryWrite := by
  induction n with
  | zero => exact .pure _
  | succ n ih =>
    refine .bind (.of_reads (select_reads _ _) fun _ => .nothing) fun tasks => ?_
    split
    · exact .pure _
    · refine .bind (recoverTaskBatch_writes _ _ _ _ _) fun count => ?_
      split
      · exact .pure _
      · exact ih

theorem recoverPendingAssignments_writes (clock : Nat → Instant) (user : User)
    (employee : Option Employee) :
    (recoverPendingAssignments clock user employee).Within RecoveryWrite := by
  unfold recoverPendingAssignments
  split
  · exact .pure _
  · exact .bind (.lift _) fun _ => recoverBatches_writes _ _ _ _

/-! ## Registration -/

def linkDecisionRequired (message : IncomingMessage) : AppError :=
  .businessRule "REGISTRATION_LINK_DECISION_REQUIRED"
    "Registration requires an explicit linking decision" [("telegram_id", .int message.senderId)]

def resolveEmployeeForDecision (toLowercase : String → String) (message : IncomingMessage) :
    RegistrationLinkDecision → Proc (Option Employee)
  | .continueUnlinked => pure none
  | .employeeId id => EmployeeRepository.findById id
  | .auto => do
      let preview ← previewLinking toLowercase message
      match preview with
      | .ready (.employeeId id) => EmployeeRepository.findById id
      | .ready .continueUnlinked => pure none
      | .ready .auto | .clarificationRequired _ => .fail (linkDecisionRequired message)

theorem resolveEmployeeForDecision_reads (toLowercase : String → String) (message : IncomingMessage)
    (decision : RegistrationLinkDecision) :
    (resolveEmployeeForDecision toLowercase message decision).Within Eq := by
  unfold resolveEmployeeForDecision
  split
  · exact .pure _
  · exact select_reads _ _
  · refine .bind (previewLinking_reads toLowercase message) fun preview => ?_
    split
    · exact select_reads _ _
    · exact .pure _
    · exact .fail _
    · exact .fail _

def persistUser (message : IncomingMessage) (employee : Option Employee) : Proc User :=
  UserRepository.upsertFromMessage
    { User.fromMessage message .user employee.isSome with
      linkedEmployeeId := employee.bind Employee.id }

def executeWithLinkDecision (toLowercase : String → String) (clock : Nat → Instant)
    (message : IncomingMessage) (decision : RegistrationLinkDecision) : Proc User := do
  let employee ← resolveEmployeeForDecision toLowercase message decision
  let actor ← persistUser message employee
  recoverPendingAssignments clock actor employee
  pure actor

end RegisterUser

end TaskBot
