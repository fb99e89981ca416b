import TaskBot.Domain.TaskReferences
import TaskBot.Presentation.CallbackParsing
import TaskBot.Presentation.OfferedActions
import TaskBot.UseCases.DeliveryBudget
import TaskBot.UseCases.TaskViews

/-!
# The card of a task

`GetTaskStatus.execute` gathers what the card of a task shows: the task, its history and its last comments, who
has it, and whether the assignee has been told.  `resolveTaskUid` finds the task a user names.

* `reference_resolves`: which references name which stored task; what a card shows names its task;
* `card_tells_delivery`: in every run of the queue the card says what became of the notice.
-/

namespace TaskBot

open Sql Calls

/-- `ORDER BY created_at DESC, id DESC` over the history of the task; the statement is on the table the entries
are appended to. -/
def AuditLogRepository.listForTask (taskId : Int) : Proc (List AuditLogEntry) :=
  select (.auditAppend taskId) fun db =>
    let rows := db.history.rows.filter fun r => r.val.taskId = taskId
    .ok ((rows.mergeSort fun a b =>
      b.val.createdAt < a.val.createdAt ∨ (b.val.createdAt = a.val.createdAt ∧ b.id ≤ a.id)).map fun r =>
        { r.val with id := some r.id })

/-- `format("%d.%m.%Y %H:%M")`. -/
def formatTimestamp (t : Instant) : String :=
  let minutes := t.timestamp % 86400 / 60
  formatDate t.utcDate ++ " " ++ zeroPadded 2 (minutes / 60) ++ ":" ++ zeroPadded 2 (minutes % 60)

def TaskCommentView.fromComment (comment : TaskComment) : TaskCommentView where
  kind := comment.kind
  body := comment.body
  createdAt := formatTimestamp comment.createdAt

def DeliveryStatus.fromAssignmentNotification (state : Option NotificationDeliveryState)
    (hasAssignee directDeliveryPossible : Bool) : DeliveryStatus :=
  if ¬ hasAssignee then .creatorOnly
  else if ¬ directDeliveryPossible then .pendingAssigneeRegistration
  else
    match state with
    | some .sent => .deliveredToAssignee
    | some .retryPending => .retryPending
    | some .failed => .failed
    | some .pending | none => .pendingDelivery

namespace GetTaskStatus

def maxTaskContextPreviewComments : Nat := 3

def splitDescriptionLines (description : String) : List String :=
  ((strLines description).map trim).filter fun value => !value.isEmpty

def renderHistoryStatus : Option String → String
  | some "created" => "новая"
  | some "sent" => "отправлена"
  | some "in_progress" => "в работе"
  | some "blocked" => "с блокером"
  | some "in_review" => "на проверке"
  | some "completed" => "завершена"
  | some "cancelled" => "отменена"
  | some _ | none => "неизвестно"

/-- `metadata.get(key).and_then(as_str)`. -/
def metadataText (entry : AuditLogEntry) (key : String) : Option String :=
  match entry.metadata.lookup key with
  | some (.str text) => some text
  | _ => none

def historyDetails (entry : AuditLogEntry) : String :=
  match entry.action with
  | .created => "задача создана"
  | .sent => "уведомление доставлено исполнителю"
  | .assigned | .reassigned => "исполнитель обновлён"
  | .reviewRequested => "задача отправлена на проверку"
  | .blocked => ((metadataText entry "reason").map ("зафиксирован блокер: " ++ ·)).getD "зафиксирован блокер"
  | .commented => ((metadataText entry "preview").map ("добавлен комментарий: " ++ ·)).getD "добавлен комментарий"
  | .statusChanged | .cancelled => renderHistoryStatus entry.oldStatus ++ " → " ++ renderHistoryStatus entry.newStatus
  | .edited => "карточка задачи обновлена"
  | .employeesSynced => "справочник сотрудников синхронизирован"

def renderHistoryEntry (entry : AuditLogEntry) : String :=
  formatTimestamp entry.createdAt ++ ": " ++ historyDetails entry

def taskReferenceInvalid (reference : String) : AppError :=
  .businessRule "TASK_REFERENCE_INVALID" "Task reference must be a public task code like T-0042 or a UUID"
    [("reference", .str reference)]

def referenceNotFound (reference : String) : AppError :=
  .notFound "TASK_NOT_FOUND" "Task was not found" [("reference", .str reference)]

def resolveTaskUid (parseUuid : String → Option Uuid) (reference : String) : Proc Uuid := do
  let parsedReference ← .lift (okOrElse (parseTaskReference parseUuid reference) (taskReferenceInvalid reference))
  let task ← match parsedReference with
    | .publicId taskId => TaskRepository.findById taskId
    | .uid taskUid => TaskRepository.findByUid taskUid
  .lift (okOrElse (task.map Task.taskUid) (referenceNotFound reference))

/-- The name of the directory, when the task has no user that can be read. -/
def resolveEmployeeDisplay (task : Task) : Proc (Option String) :=
  match task.assignedToEmployeeId with
  | none => pure none
  | some employeeId => do
      let employee ← EmployeeRepository.findById employeeId
      pure (employee.map Employee.fullName)

def resolveAssigneeDisplay (task : Task) : Proc (Option String) :=
  match task.assignedToUserId with
  | none => resolveEmployeeDisplay task
  | some userId => do
      let user ← UserRepository.findById userId
      match user with
      | none => resolveEmployeeDisplay task
      | some user =>
          pure (some (((user.telegramUsername.map ("@" ++ ·)).or user.fullName).getD ("user:" ++ toString userId)))

def resolveDeliveryStatus (task : Task) : Proc (Option DeliveryStatus) :=
  let hasAssignee := task.assignedToUserId.isSome || task.assignedToEmployeeId.isSome
  if ¬ hasAssignee then pure (some .creatorOnly)
  else
    match task.id, task.assignedToUserId with
    | none, _ => pure none
    | some _, none => pure (some .pendingAssigneeRegistration)
    | some taskId, some userId => do
        let user ← UserRepository.findById userId
        match user with
        | none => pure (some .pendingAssigneeRegistration)
        | some user => do
            let latestAssignment ←
              NotificationRepository.findLatestForTaskAndRecipient taskId userId .taskAssigned
            pure (some (.fromAssignmentNotification (latestAssignment.map Notification.deliveryState) hasAssignee
              user.lastChatId.isSome))

def execute (actor : User) (taskUid : Uuid) : Proc TaskStatusDetails := do
  let task ← loadTask taskUid
  .lift (RoleAuthorizationPolicy.ensureCanViewTask actor task)
  let taskId ← .lift (okOrElse task.id
    (taskIdMissing "Task must have a database identifier before loading details" taskUid))
  let history ← AuditLogRepository.listForTask taskId
  let comments ← CommentRepository.listRecentForTask taskId maxTaskContextPreviewComments
  let assigneeDisplay ← resolveAssigneeDisplay task
  let deliveryStatus ← resolveDeliveryStatus task
  pure
    { taskUid
      publicCode := formatPublicTaskCodeOrPlaceholder task.id
      title := task.title
      status := task.status
      deadline := task.deadline.map formatDate
      expectedResult := task.expectedResult
      descriptionLines := splitDescriptionLines task.description
      acceptanceCriteria := task.acceptanceCriteria
      historyEntries := history.map renderHistoryEntry
      assigneeDisplay
      deliveryStatus
      blockedReason := task.blockedReason
      comments := comments.map .fromComment
      availableActions := RoleAuthorizationPolicy.availableActions actor task }

/-! ## References -/

section

variable {parseUuid : String → Option Uuid} {reference : String} {db : Db} {uid : Uuid}

theorem run_findById (taskId : Int) (db : Db) : (TaskRepository.findById taskId).run noFaults db =
    (.ok ((db.tasks.find? fun r => r.id = taskId).map toTask), db) := run_select rfl db

theorem run_findByUid (uid : Uuid) (db : Db) : (TaskRepository.findByUid uid).run noFaults db =
    (.ok (db.stored uid), db) := run_select rfl db

/-- The row with its id is the only one. -/
theorem row_of_id {taskId : Int} {r : Stored TaskColumns} :
    (db.tasks.find? fun r => r.id = taskId) = some r ↔ r ∈ db.tasks.rows ∧ r.id = taskId := by
  constructor
  · intro h
    obtain ⟨hmem, hid⟩ := Table.find?_some h
    exact ⟨hmem, of_decide_eq_true hid⟩
  · rintro ⟨hmem, rfl⟩
    refine Table.find?_eq hmem (decide_eq_true rfl) fun a b ha hb => .inl ?_
    exact (of_decide_eq_true ha).trans (of_decide_eq_true hb).symm

theorem uid_of_id {taskId : Int} : ((db.tasks.find? fun r => r.id = taskId).map toTask).map Task.taskUid = some uid ↔
    ∃ r ∈ db.tasks.rows, r.val.task.taskUid = uid ∧ r.id = taskId := by
  simp only [Option.map_map, Option.map_eq_some_iff, row_of_id, Function.comp_apply, toTask_taskUid]
  constructor
  · rintro ⟨r, ⟨hmem, hid⟩, huid⟩
    exact ⟨r, hmem, huid, hid⟩
  · rintro ⟨r, hmem, huid, hid⟩
    exact ⟨r, ⟨hmem, hid⟩, huid⟩

theorem uid_of_stored {u : Uuid} : (db.stored u).map Task.taskUid = some uid ↔
    ∃ r ∈ db.tasks.rows, r.val.task.taskUid = uid ∧ u = uid := by
  constructor
  · intro h
    obtain ⟨t, ht, rfl⟩ := Option.map_eq_some_iff.mp h
    obtain ⟨r, hr, rfl⟩ := Option.map_eq_some_iff.mp ht
    exact ⟨r, (Table.find?_some hr).1, rfl, (Db.stored_taskUid ht).symm⟩
  · rintro ⟨r, hmem, rfl, rfl⟩
    rw [stored_of_mem hmem]
    rfl

/-- The reference names the row: by its code, or by its identifier when it is no code. -/
def Names (parseUuid : String → Option Uuid) (reference : String) (r : Stored TaskColumns) : Prop :=
  SpellsCode reference r.id ∨
    trim reference ≠ "" ∧ (∀ taskId, ¬ SpellsCode reference taskId) ∧
      parseUuid (trim reference) = some r.val.task.taskUid

theorem okOrElse_ok_iff {α : Type} {o : Option α} {e : AppError} {a : α} : okOrElse o e = .ok a ↔ o = some a := by
  cases o <;> simp [okOrElse]

/-- The answer of the lookup, without failures. -/
theorem run_resolveTaskUid : ((resolveTaskUid parseUuid reference).run noFaults db).1 = .ok uid ↔
    (∃ taskId, parseTaskReference parseUuid reference = some (.publicId taskId) ∧
      ∃ r ∈ db.tasks.rows, r.val.task.taskUid = uid ∧ r.id = taskId) ∨
    ∃ u, parseTaskReference parseUuid reference = some (.uid u) ∧
      ∃ r ∈ db.tasks.rows, r.val.task.taskUid = uid ∧ u = uid := by
  unfold resolveTaskUid
  cases hparsed : parseTaskReference parseUuid reference with
  | none =>
    have hrun : (Prog.lift (okOrElse (none : Option TaskReference) (taskReferenceInvalid reference)) :
        Proc TaskReference).run noFaults db = (.error (taskReferenceInvalid reference), db) := rfl
    rw [Prog.run_bind_error noFaults hrun]
    simp
  | some parsed =>
    cases parsed with
    | publicId taskId =>
      change (((TaskRepository.findById taskId) >>= fun task =>
        .lift (okOrElse (task.map Task.taskUid) (referenceNotFound reference)) : Proc Uuid).run noFaults db).1 = _ ↔ _
      rw [Prog.run_bind_ok noFaults (run_findById taskId db), Prog.run_lift]
      simp only [okOrElse_ok_iff, uid_of_id, Option.some_inj, TaskReference.publicId.injEq, exists_eq_left', reduceCtorEq,
        false_and, exists_false, or_false]
    | uid u =>
      change (((TaskRepository.findByUid u) >>= fun task =>
        .lift (okOrElse (task.map Task.taskUid) (referenceNotFound reference)) : Proc Uuid).run noFaults db).1 = _ ↔ _
      rw [Prog.run_bind_ok noFaults (run_findByUid u db), Prog.run_lift]
      simp only [okOrElse_ok_iff, uid_of_stored, Option.some_inj, TaskReference.uid.injEq, exists_eq_left', reduceCtorEq,
        false_and, exists_false, false_or]

theorem spelled_not_blank {taskId : Int} (h : SpellsCode reference taskId) : trim reference ≠ "" := by
  obtain ⟨letter, sign, digits, -, -, htext, -⟩ := h.spelled
  intro hblank
  rw [hblank] at htext
  cases htext

theorem resolves_iff : ((resolveTaskUid parseUuid reference).run noFaults db).1 = .ok uid ↔
    ∃ r ∈ db.tasks.rows, r.val.task.taskUid = uid ∧ Names parseUuid reference r := by
  rw [run_resolveTaskUid]
  simp only [parseTaskReference_iff]
  constructor
  · rintro (⟨taskId, ⟨-, hspells⟩, r, hr, huid, rfl⟩ | ⟨u, ⟨hblank, hno, hparse⟩, r, hr, huid, rfl⟩)
    · exact ⟨r, hr, huid, .inl hspells⟩
    · exact ⟨r, hr, huid, .inr ⟨hblank, hno, huid ▸ hparse⟩⟩
  · rintro ⟨r, hr, huid, hspells | ⟨hblank, hno, hparse⟩⟩
    · exact .inl ⟨r.id, ⟨spelled_not_blank hspells, hspells⟩, r, hr, huid, rfl⟩
    · exact .inr ⟨uid, ⟨hblank, hno, huid ▸ hparse⟩, r, hr, huid, rfl⟩

/-- The text is what a card shows of the row, its code in any case or its identifier, with blanks around it. -/
def TypedFromCard (r : Stored TaskColumns) (typed : String) : Prop :=
  TypedLike (formatPublicTaskCodeOrPlaceholder (some r.id)) typed ∨
    trim typed = r.val.task.taskUid.toText

/-- **References resolve.**  A reference leads to a task exactly if it names it, and to one task only; whatever a
card shows of a task leads back to it. -/
theorem reference_resolves (parseUuid : String → Option Uuid) (hread : ∀ u : Uuid, parseUuid u.toText = some u)
    (db : Db) (hids : ∀ r ∈ db.tasks.rows, 0 < r.id ∧ r.id ≤ maxI64) :
    (∀ reference uid, ((resolveTaskUid parseUuid reference).run noFaults db).1 = .ok uid ↔
      ∃ r ∈ db.tasks.rows, r.val.task.taskUid = uid ∧ Names parseUuid reference r) ∧
    ∀ r ∈ db.tasks.rows, ∀ typed, TypedFromCard r typed →
      ((resolveTaskUid parseUuid typed).run noFaults db).1 = .ok r.val.task.taskUid := by
  refine ⟨fun _ _ => resolves_iff, fun r hr typed htyped => resolves_iff.mpr ⟨r, hr, rfl, ?_⟩⟩
  obtain ⟨hpos, hfits⟩ := hids r hr
  rcases htyped with hcode | huid
  · exact .inl (spells_displayed hpos hfits hcode)
  · refine .inr ⟨?_, fun taskId => not_spells_uid _ taskId huid, by rw [huid]; exact hread _⟩
    rw [huid]
    intro hblank
    have hsize := Uuid.toText_byteSize r.val.task.taskUid
    rw [hblank] at hsize
    cases hsize

end

theorem sample_code_resolves :
    ((resolveTaskUid readUuid " t-0001\n").run noFaults sampleDb).1 = .ok (sampleUid 1) := by
  refine (reference_resolves readUuid readUuid_toText sampleDb ?_).2 ⟨1, TaskRepository.newColumns sampleTask⟩
    List.mem_cons_self _ (.inl ⟨[' '], "t-0001".toList, ['\n'], ?_⟩)
  · intro r hr
    rw [List.mem_singleton.mp hr]
    decide
  · exact ⟨by decide, List.forall_mem_singleton.mpr (by decide), List.forall_mem_singleton.mpr (by decide), by decide⟩

/-! ## What the card says of the delivery -/

/-- The delivery failed, for good or not. -/
def isFailure : RowEvent → Bool
  | .delivered outcome => !outcome.isSuccess
  | _ => false

/-- The state of a row after these events, the latest first. -/
def stateAfter : List RowEvent → NotificationDeliveryState
  | .delivered outcome :: events =>
      if outcome.isSuccess then .sent
      else if outcome.isTransient ∧
          ((RowEvent.delivered outcome :: events).countP isFailure : Int) <
            ProcessNotifications.maxNotificationRetryAttempts then .retryPending
      else .failed
  | _ => .pending

/-- The row counts its failures, and is in the state its events give. -/
def Told (row : Option Notification) (events : List RowEvent) : Prop :=
  (row = none → events = []) ∧
    ∀ n, row = some n → n.attemptCount = events.countP isFailure ∧ n.deliveryState = stateAfter events

theorem told_delivered {n : Notification} {events : List RowEvent} (clock : Nat → Instant) (outcome : DeliveryOutcome)
    (h : n.attemptCount = events.countP isFailure) :
    (outcome.columns clock n).attemptCount = (.delivered outcome :: events).countP isFailure ∧
      (outcome.columns clock n).deliveryState = stateAfter (.delivered outcome :: events) := by
  have hcount : (.delivered outcome :: events).countP isFailure =
      events.countP isFailure + if outcome.isSuccess then 0 else 1 := by
    rw [List.countP_cons]
    cases hs : outcome.isSuccess <;> simp [isFailure, hs]
  have hstate : stateAfter (.delivered outcome :: events) =
      if outcome.isSuccess then .sent
      else if outcome.isTransient ∧ ((RowEvent.delivered outcome :: events).countP isFailure : Int) <
          ProcessNotifications.maxNotificationRetryAttempts then .retryPending
      else .failed := rfl
  rw [hstate, hcount]
  cases outcome with
  | unreachable code =>
    simp only [DeliveryOutcome.columns, NotificationRepository.attemptColumns, DeliveryOutcome.isSuccess,
      DeliveryOutcome.isTransient, h]
    simp
  | attempted answer =>
    cases answer with
    | ok messageId =>
      simp only [DeliveryOutcome.columns, NotificationRepository.sentColumns, DeliveryOutcome.isSuccess, h]
      simp
    | error error =>
      by_cases hpermanent : error.code ∈ ProcessNotifications.permanentDeliveryErrorCodes
      · simp only [DeliveryOutcome.columns, hpermanent, NotificationRepository.attemptColumns,
          DeliveryOutcome.isSuccess, DeliveryOutcome.isTransient, h]
        simp
      · simp only [DeliveryOutcome.columns, hpermanent, DeliveryOutcome.isSuccess, DeliveryOutcome.isTransient, h]
        by_cases hspent : (events.countP isFailure : Int) + 1 ≥ ProcessNotifications.maxNotificationRetryAttempts
        · have hno : ¬ (events.countP isFailure : Int) + 1 < ProcessNotifications.maxNotificationRetryAttempts := by
            omega
          simp [hspent, hno, NotificationRepository.attemptColumns, h]
        · have hleft : (events.countP isFailure : Int) + 1 < ProcessNotifications.maxNotificationRetryAttempts := by
            omega
          simp [hspent, hleft, NotificationRepository.attemptColumns, h]

theorem told_step {row row' : Option Notification} {e : Option RowEvent} {events : List RowEvent}
    (hstep : RowStep row e row') (h : Told row events) : Told row' (e.toList ++ events) := by
  cases hstep with
  | enqueued hnew =>
    obtain ⟨taskId, recipient, kind, message, key, now, rfl⟩ := hnew
    have hnone : events = [] := h.1 rfl
    subst hnone
    constructor
    · intro hrow
      cases hrow
    · intro n hn
      rw [← Option.some.inj hn]
      exact ⟨rfl, rfl⟩
  | requeued n =>
    refine ⟨fun h => absurd h (Option.some_ne_none _), fun m hm => ?_⟩
    cases hm
    exact ⟨(h.2 n rfl).1, rfl⟩
  | delivered clock outcome hlive =>
    refine ⟨fun h => absurd h (Option.some_ne_none _), fun m hm => ?_⟩
    cases hm
    exact told_delivered clock outcome (h.2 _ rfl).1
  | rest => exact h

theorem run_told {ok : Db → QueueOp → Prop} {id : Int} {db : Db} {events : List RowEvent}
    (h : QueueRun ok id db events) : Told (db.notice id) events := by
  induction h with
  | start hnone =>
    rw [hnone]
    refine ⟨fun _ => rfl, fun n hn => ?_⟩
    cases hn
  | step _ _ hstep ih => exact told_step (step_row hstep id) ih

/-- The notice a card looks at: the latest assignment of the task to the user. -/
def latestNotice (taskId userId : Int) (db : Db) : Option (Stored Notification) :=
  ((db.notifications.rows.filter fun r => r.val.taskId = some taskId ∧ r.val.recipientUserId = userId ∧
    r.val.notificationType = .taskAssigned).mergeSort fun a b =>
      b.val.createdAt < a.val.createdAt ∨ (b.val.createdAt = a.val.createdAt ∧ b.id ≤ a.id)).head?

/-- The line of the card for a row in this state. -/
def deliveryLine : NotificationDeliveryState → DeliveryStatus
  | .sent => .deliveredToAssignee
  | .retryPending => .retryPending
  | .failed => .failed
  | .pending => .pendingDelivery

section

variable {db : Db} {uid : Uuid} {t : Task} {actor : User}

theorem run_userById (id : Int) (db : Db) : (UserRepository.findById id).run noFaults db =
    (.ok ((db.users.find? fun r => r.id = id).map toUser), db) := run_select rfl db

theorem run_resolveDeliveryStatus {taskId userId : Int} {r : Stored UserColumns} {notice : Stored Notification}
    (hid : t.id = some taskId) (hassigned : t.assignedToUserId = some userId)
    (huser : db.users.find? (fun r => r.id = userId) = some r) (hchat : r.val.user.lastChatId ≠ none)
    (hlatest : latestNotice taskId userId db = some notice) :
    (resolveDeliveryStatus t).run noFaults db = (.ok (some (deliveryLine notice.val.deliveryState)), db) := by
  have hchat' : (toUser r).lastChatId.isSome = true := Option.isSome_iff_ne_none.mpr hchat
  have hnotice : (NotificationRepository.findLatestForTaskAndRecipient taskId userId .taskAssigned).run noFaults db =
      (.ok ((latestNotice taskId userId db).map NotificationRepository.toNotification), db) := run_select rfl db
  unfold resolveDeliveryStatus
  simp only [hid, hassigned, Option.isSome_some, Bool.true_or, not_true_eq_false, if_false]
  rw [Prog.run_bind_ok noFaults (run_userById userId db), huser]
  simp only [Option.map_some]
  rw [Prog.run_bind_ok noFaults hnotice, hlatest]
  simp only [Option.map_some, NotificationRepository.toNotification, DeliveryStatus.fromAssignmentNotification, hchat',
    not_true_eq_false, if_false]
  cases notice.val.deliveryState <;> rfl

theorem answers_employeeDisplay (t : Task) (db : Db) : Prog.Answers noFaults (resolveEmployeeDisplay t) db := by
  unfold resolveEmployeeDisplay
  cases t.assignedToEmployeeId with
  | none => exact .pure _ _
  | some employeeId => exact .bind ⟨_, _, run_select rfl db⟩ fun _ _ _ => .pure _ _

theorem answers_assigneeDisplay (t : Task) (db : Db) : Prog.Answers noFaults (resolveAssigneeDisplay t) db := by
  unfold resolveAssigneeDisplay
  cases t.assignedToUserId with
  | none => exact answers_employeeDisplay t db
  | some userId =>
    refine .bind ⟨_, _, run_userById userId db⟩ fun user db' _ => ?_
    cases user with
    | none => exact answers_employeeDisplay t _
    | some user => exact .pure _ _

theorem answers_deliveryStatus (t : Task) (db : Db) : Prog.Answers noFaults (resolveDeliveryStatus t) db := by
  unfold resolveDeliveryStatus
  simp only
  split
  · exact .pure _ _
  · split
    · exact .pure _ _
    · exact .pure _ _
    · refine .bind ⟨_, _, run_userById _ db⟩ fun user db' _ => ?_
      cases user with
      | none => exact .pure _ _
      | some user => exact .bind ⟨_, _, run_select rfl _⟩ fun _ _ _ => .pure _ _

theorem resolveEmployeeDisplay_reads (t : Task) : (resolveEmployeeDisplay t).Within Eq := by
  unfold resolveEmployeeDisplay
  split
  · exact .pure _
  · exact .bind (select_reads _ _) fun _ => .pure _

theorem resolveAssigneeDisplay_reads (t : Task) : (resolveAssigneeDisplay t).Within Eq := by
  unfold resolveAssigneeDisplay
  split
  · exact resolveEmployeeDisplay_reads t
  · refine .bind (select_reads _ _) fun user => ?_
    cases user with
    | none => exact resolveEmployeeDisplay_reads t
    | some user => exact .pure _

theorem resolveDeliveryStatus_reads (t : Task) : (resolveDeliveryStatus t).Within Eq := by
  unfold resolveDeliveryStatus
  simp only
  split
  · exact .pure _
  · split
    · exact .pure _
    · exact .pure _
    · refine .bind (select_reads _ _) fun user => ?_
      cases user with
      | none => exact .pure _
      | some user => exact .bind (select_reads _ _) fun _ => .pure _

/-- A part that reads and answers, in the database it reads. -/
theorem run_of_answers {α : Type} {p : Proc α} (h : Prog.Answers noFaults p db) (hreads : p.Within Eq) :
    ∃ a, p.run noFaults db = (.ok a, db) := by
  obtain ⟨a, db', hrun⟩ := h
  have hsame : db' = db := by
    have hstore := Prog.run_of_reads noFaults hreads db
    rw [hrun] at hstore
    exact hstore
  rw [hsame] at hrun
  exact ⟨a, hrun⟩

/-- A viewer of a stored task is shown its card. -/
theorem run_execute (ht : db.stored uid = some t) (hview : RoleAuthorizationPolicy.ensureCanViewTask actor t = .ok ()) :
    ∃ details, (execute actor uid).run noFaults db = (.ok details, db) ∧
      ∀ line, (resolveDeliveryStatus t).run noFaults db = (.ok line, db) → details.deliveryStatus = line := by
  obtain ⟨row, -, rfl⟩ := Option.map_eq_some_iff.mp ht
  have hhistory : (AuditLogRepository.listForTask row.id).run noFaults db = (.ok _, db) := run_select rfl db
  have hcomments : (CommentRepository.listRecentForTask row.id maxTaskContextPreviewComments).run noFaults db =
      (.ok _, db) := run_select rfl db
  obtain ⟨display, hdisplay⟩ := run_of_answers (answers_assigneeDisplay (toTask row) db)
    (resolveAssigneeDisplay_reads (toTask row))
  obtain ⟨line, hline⟩ := run_of_answers (answers_deliveryStatus (toTask row) db)
    (resolveDeliveryStatus_reads (toTask row))
  have hallowed : (Prog.lift (RoleAuthorizationPolicy.ensureCanViewTask actor (toTask row)) : Proc Unit).run noFaults db =
      (.ok (), db) := by rw [Prog.run_lift, hview]
  have hid : ∀ e, (Prog.lift (okOrElse (toTask row).id e) : Proc Int).run noFaults db = (.ok row.id, db) := fun _ => rfl
  unfold execute
  rw [Prog.run_bind_ok noFaults (run_loadTask ht), Prog.run_bind_ok noFaults hallowed,
    Prog.run_bind_ok noFaults (hid _), Prog.run_bind_ok noFaults hhistory, Prog.run_bind_ok noFaults hcomments,
    Prog.run_bind_ok noFaults hdisplay, Prog.run_bind_ok noFaults hline]
  refine ⟨_, rfl, fun line' h => ?_⟩
  rw [hline] at h
  cases h
  rfl

/-- **The card tells the truth about the delivery.**  In every run of the queue, whatever the messenger answered,
the card of a task shows what became of the notice to its assignee: delivered exactly if the last thing that
happened to the notice is a delivery the messenger took, and so on for the other states. -/
theorem card_tells_delivery {ok : Db → QueueOp → Prop} {events : List RowEvent} {userId : Int}
    {r : Stored UserColumns} {notice : Stored Notification} (hrun : QueueRun ok notice.id db events)
    (ht : db.stored uid = some t) (hview : RoleAuthorizationPolicy.ensureCanViewTask actor t = .ok ())
    (hassigned : t.assignedToUserId = some userId) (huser : db.users.find? (fun r => r.id = userId) = some r)
    (hchat : r.val.user.lastChatId ≠ none) (hlatest : ∀ taskId, t.id = some taskId →
      latestNotice taskId userId db = some notice) :
    ∃ details, (execute actor uid).run noFaults db = (.ok details, db) ∧
      details.deliveryStatus = some (deliveryLine (stateAfter events)) := by
  obtain ⟨row, hrow, rfl⟩ := Option.map_eq_some_iff.mp ht
  have hlatest' := hlatest row.id rfl
  obtain ⟨details, hcard, hline⟩ := run_execute ht hview
  refine ⟨details, hcard, ?_⟩
  have hmem : notice ∈ db.notifications.rows := by
    have hhead := List.mem_of_mem_head? hlatest'
    exact (List.mem_filter.mp (List.mem_mergeSort.mp hhead)).1
  have hstate := ((run_told hrun).2 _ (notice_of_mem hmem)).2
  rw [← hstate]
  exact hline _ (run_resolveDeliveryStatus rfl hassigned huser hchat hlatest')

end

/-- The sample task, its creator and its assignee. -/
def cardDb : Db :=
  let withCreator := (UserRepository.upsertUser (UserRepository.sampleUser 10 .user) sampleDb).2
  (UserRepository.upsertUser (UserRepository.sampleUser 20 .user) withCreator).2

def assignmentNotice : Notification := .pending (some 1) 2 .taskAssigned "Report" "task_assigned:1:2" 0

def noticedDb : Db := ((NotificationRepository.enqueue 0 assignmentNotice).run noFaults cardDb).2

/-- The tick that delivers the notice: its recipient and its task are read, its row, the task and the entry of
the task's log written. -/
def deliveringTick : DeliveryTick := answeredAt 5 (.ok 77)

def deliveredDb : Db := (deliveryAlone deliveringTick { assignmentNotice with id := some 1 } 5 noticedDb).store

/-- The row of the notice after the tick. -/
def deliveredNotice : Notification := NotificationRepository.sentColumns 77 5 assignmentNotice

theorem deliveredDb_run : QueueRun (fun _ _ => True) (⟨1, deliveredNotice⟩ : Stored Notification).id deliveredDb
    [.delivered (.attempted (.ok 77)), .enqueued] := by
  have hstart : QueueRun (fun _ _ => True) 1 cardDb [] := .start rfl
  have hstep : QueueStep cardDb (.enqueue assignmentNotice) noticedDb := .enqueue 0 ⟨_, _, _, _, _, _, rfl⟩
  have hnoticed : QueueRun (fun _ _ => True) 1 noticedDb [.enqueued] := .step hstart trivial hstep
  exact run_tick_alone 5 hnoticed trivial (t := deliveringTick) (by decide +kernel) rfl (ended_alone rfl)

theorem deliveredDb_latest : latestNotice 1 2 deliveredDb = some ⟨1, deliveredNotice⟩ := by
  have hrows : (deliveredDb.notifications.rows.filter fun r => r.val.taskId = some 1 ∧ r.val.recipientUserId = 2 ∧
      r.val.notificationType = .taskAssigned) = [⟨1, deliveredNotice⟩] := by decide +kernel
  unfold latestNotice
  rw [hrows, List.mergeSort_singleton]
  rfl

/-- The assignee opens the card after the tick. -/
theorem noticed_card : ∃ details,
    (execute { UserRepository.sampleUser 20 .user with id := some 2 } (sampleUid 1)).run noFaults deliveredDb =
      (.ok details, deliveredDb) ∧ details.deliveryStatus = some .deliveredToAssignee := by
  refine card_tells_delivery deliveredDb_run rfl rfl rfl rfl (by decide) fun taskId hid => ?_
  cases hid
  exact deliveredDb_latest

end GetTaskStatus

end TaskBot
