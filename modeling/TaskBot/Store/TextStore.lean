import TaskBot.Lib.DataRefinement
import TaskBot.Lib.EncodedTable
import TaskBot.Lib.JsonStrings
import TaskBot.Presentation.CallbackParsing
import TaskBot.Store.RecordRepositories
import TaskBot.Store.Rows
import TaskBot.Store.TaskRepository

/-!
# The repositories on rows of text

`Db` holds the tasks, comments and notifications as the records of the domain.  SQLite holds them as rows whose
enumerations, identifiers and arrays are texts: `TextDb` does, its statements compare and write texts as the
queries do, and every row they return goes through its `tryInto`.  Dates and times are encoded and decoded by
the driver and stay values here; the queries compare the texts of dates.

* `textImpl_refines`: on the stored texts every statement answers as on the records;
* `clients_agree`: no number of programs of such statements, run at the same time, can tell the two apart,
  whatever fails; so none meets a row that cannot be read.
-/

namespace TaskBot

open Sql Calls Rows

/-- The statements of the three repositories. -/
inductive Statement : Type → Type where
  | insertTask (task : Task) : Statement Bool
  | findBySourceMessageKey (key : String) : Statement (Option Task)
  | findByUid (uid : Uuid) : Statement (Option Task)
  | findById (id : Int) : Statement (Option Task)
  | update (task : Task) : Statement Task
  | listAssignedToUser (userId : Int) (cursor : Option String) (limit : Nat) : Statement (List Task)
  | listCreatedByUser (userId : Int) (cursor : Option String) (limit : Nat) : Statement (List Task)
  | listAll (cursor : Option String) (limit : Nat) : Statement (List Task)
  | listOpenAssignedToEmployeeWithoutUser (employeeId : Int) (limit : Nat) : Statement (List Task)
  | getDueBetween (first last : NaiveDate) (limit : Nat) : Statement (List Task)
  | getOverdue (asOf : NaiveDate) (limit : Nat) : Statement (List Task)
  | countStatsForUser (averageHours : AverageHours) (today : NaiveDate) (userId : Int) : Statement TaskStats
  | countStatsGlobal (averageHours : AverageHours) (today : NaiveDate) : Statement TaskStats
  | listOpen (limit : Nat) : Statement (List Task)
  | createComment (comment : TaskComment) : Statement TaskComment
  | listRecentForTask (taskId : Int) (limit : Nat) : Statement (List TaskComment)
  | insertNotification (slot : Nat) (n : Notification) : Statement Unit
  | storedNotification (slot : Nat) (n : Notification) : Statement Notification
  | listPending (limit : Nat) (now : Instant) : Statement (List Notification)
  | markSent (id telegramMessageId : Int) (sentAt : Instant) : Statement Unit
  | markRetryPending (id : Int) (nextAttemptAt : Instant) (errorCode : String) : Statement Unit
  | markFailed (id : Int) (errorCode : String) : Statement Unit
  | requeue (id : Int) : Statement Unit
  | findLatestForTaskAndRecipient (taskId recipientUserId : Int) (kind : NotificationType) :
      Statement (Option Notification)

/-- The site of a statement is the same on both stores. -/
def Statement.site {β : Type} : Statement β → Site
  | .insertTask task => .taskInsert task.sourceMessageKey
  | .findBySourceMessageKey key => .taskFindByKey key
  | .findByUid uid => .taskFindByUid uid
  | .findById id => .taskFindById id
  | .update task => .taskUpdate task.taskUid
  | .listAssignedToUser userId _ _ => .taskListAssigned userId
  | .listCreatedByUser userId _ _ => .taskListCreated userId
  | .listAll _ _ => .taskListAll
  | .listOpenAssignedToEmployeeWithoutUser employeeId _ => .taskListUnlinked employeeId
  | .getDueBetween _ _ _ => .taskListDueBetween
  | .getOverdue _ _ => .taskListDueBetween
  | .countStatsForUser _ _ userId => .taskListCreated userId
  | .countStatsGlobal _ _ => .taskListAll
  | .listOpen _ => .taskListOpen
  | .createComment comment => .commentCreate comment.taskId
  | .listRecentForTask taskId _ => .commentCreate taskId
  | .insertNotification slot n => .notificationInsert n.dedupeKey slot
  | .storedNotification slot n => .notificationFind n.dedupeKey slot
  | .listPending _ _ => .notificationListPending
  | .markSent id _ _ => .notificationUpdate id
  | .markRetryPending id _ _ => .notificationUpdate id
  | .markFailed id _ => .notificationUpdate id
  | .requeue id => .notificationUpdate id
  | .findLatestForTaskAndRecipient taskId recipientUserId _ => .notificationFindLatest taskId recipientUserId

/-! ## On records -/

/-- What the repositories of `Db` do. -/
def Statement.onRecords {β : Type} : Statement β → Db → AppResult β × Db
  | .insertTask task => (TaskRepository.insertTask task).run noFaults
  | .findBySourceMessageKey key => (TaskRepository.findBySourceMessageKey key).run noFaults
  | .findByUid uid => (TaskRepository.findByUid uid).run noFaults
  | .findById id => (TaskRepository.findById id).run noFaults
  | .update task => (TaskRepository.update task).run noFaults
  | .listAssignedToUser userId cursor limit => (TaskRepository.listAssignedToUser userId cursor limit).run noFaults
  | .listCreatedByUser userId cursor limit => (TaskRepository.listCreatedByUser userId cursor limit).run noFaults
  | .listAll cursor limit => (TaskRepository.listAll cursor limit).run noFaults
  | .listOpenAssignedToEmployeeWithoutUser employeeId limit =>
      (TaskRepository.listOpenAssignedToEmployeeWithoutUser employeeId limit).run noFaults
  | .getDueBetween first last limit => (TaskRepository.getDueBetween first last limit).run noFaults
  | .getOverdue asOf limit => (TaskRepository.getOverdue asOf limit).run noFaults
  | .countStatsForUser averageHours today userId =>
      (TaskRepository.countStatsForUser averageHours today userId).run noFaults
  | .countStatsGlobal averageHours today => (TaskRepository.countStatsGlobal averageHours today).run noFaults
  | .listOpen limit => (TaskRepository.listOpen limit).run noFaults
  | .createComment comment => (CommentRepository.create comment).run noFaults
  | .listRecentForTask taskId limit => (CommentRepository.listRecentForTask taskId limit).run noFaults
  | .insertNotification _ n => fun db => (.ok (), db.insertNotification n)
  | .storedNotification _ n => fun db =>
      ((okOrElse (db.notifications.find? fun r => r.val.dedupeKey = n.dedupeKey)
        (databaseError "no rows returned")).map NotificationRepository.toNotification, db)
  | .listPending limit now => (NotificationRepository.listPending limit now).run noFaults
  | .markSent id telegramMessageId sentAt => (NotificationRepository.markSent id telegramMessageId sentAt).run noFaults
  | .markRetryPending id nextAttemptAt errorCode =>
      (NotificationRepository.markRetryPending id nextAttemptAt errorCode).run noFaults
  | .markFailed id errorCode => (NotificationRepository.markFailed id errorCode).run noFaults
  | .requeue id => (NotificationRepository.requeue id).run noFaults
  | .findLatestForTaskAndRecipient taskId recipientUserId kind =>
      (NotificationRepository.findLatestForTaskAndRecipient taskId recipientUserId kind).run noFaults

def recordImpl : Impl Statement Site Db AppError := ⟨Statement.site, Statement.onRecords⟩

/-! ## On rows of text -/

/-- The columns of a `tasks` row, the dates and times as the driver decodes them. -/
structure TaskText where
  row : TaskRow
  slaState : Option String
  slaLastLevel : Int
deriving DecidableEq, Repr

instance : Keyed TaskText where
  clash a b := a.row.taskUid = b.row.taskUid || a.row.sourceMessageKey = b.row.sourceMessageKey
  clash_comm a b := by
    simp only [eq_comm (a := a.row.taskUid), eq_comm (a := a.row.sourceMessageKey)]

instance : Keyed NotificationRow where
  clash a b := a.dedupeKey = b.dedupeKey
  clash_comm a b := by simp only [eq_comm]

instance : Keyed CommentRow := Keyed.none CommentRow

structure TextDb where
  tasks : Table TaskText
  comments : Table CommentRow
  notifications : Table NotificationRow

def TextDb.empty : TextDb := ⟨.empty, .empty, .empty⟩

section

variable {ρ γ : Type} (load : Stored ρ → AppResult γ)

/-- `fetch_optional`, and `row.map(TryInto::try_into).transpose()`. -/
def fetchOptional : Option (Stored ρ) → AppResult (Option γ)
  | none => .ok none
  | some r => (load r).map some

/-- `WHERE q ORDER BY le LIMIT n`, and `rows.into_iter().map(TryInto::try_into).collect()`. -/
def fetchAll (q : Stored ρ → Bool) (le : Stored ρ → Stored ρ → Bool) (n : Nat) (rows : List (Stored ρ)) :
    AppResult (List γ) :=
  (((rows.filter q).mergeSort le).take n).mapM load

end

section

variable (f : Formats)

namespace TextTasks

def load (r : Stored TaskText) : AppResult Task := TaskRow.tryInto f { r.val.row with id := r.id }

/-- `status IN ('created', 'sent', 'in_progress', 'blocked', 'in_review')`. -/
def isOpen (r : Stored TaskText) : Bool :=
  r.val.row.status ∈ ["created", "sent", "in_progress", "blocked", "in_review"]

/-- The columns of a new row. -/
def newColumns (task : Task) : TaskText := ⟨TaskRow.bound f task, none, 0⟩

def insertTask (task : Task) (db : TextDb) : AppResult Bool × TextDb :=
  (.ok (db.tasks.insertOrIgnore (newColumns f task)).2,
    { db with tasks := (db.tasks.insertOrIgnore (newColumns f task)).1 })

def findBySourceMessageKey (key : String) (db : TextDb) : AppResult (Option Task) :=
  fetchOptional (load f) (db.tasks.find? fun r => r.val.row.sourceMessageKey = key)

def findByUid (uid : Uuid) (db : TextDb) : AppResult (Option Task) :=
  fetchOptional (load f) (db.tasks.find? fun r => r.val.row.taskUid = uid.toText)

def findById (id : Int) (db : TextDb) : AppResult (Option Task) :=
  fetchOptional (load f) (db.tasks.find? fun r => r.id = id)

/-- The columns `UPDATE tasks SET …` writes. -/
def updateColumns (task : Task) (c : TaskText) : TaskText :=
  { c with
    row :=
      { c.row with
        assignedToUserId := task.assignedToUserId
        assignedToEmployeeId := task.assignedToEmployeeId
        title := task.title
        description := task.description
        acceptanceCriteria := f.printStrings task.acceptanceCriteria
        expectedResult := task.expectedResult
        deadline := task.deadline
        deadlineRaw := task.deadlineRaw
        status := taskStatusToDb task.status
        priority := taskPriorityToDb task.priority
        blockedReason := task.blockedReason
        telegramTaskMessageId := task.telegramTaskMessageId
        sentAt := task.sentAt
        startedAt := task.startedAt
        blockedAt := task.blockedAt
        reviewRequestedAt := task.reviewRequestedAt
        completedAt := task.completedAt
        cancelledAt := task.cancelledAt
        updatedAt := task.updatedAt
        version := task.version } }

theorem updateColumns_keeps (task : Task) : KeepsKeys (updateColumns f task) := fun _ _ => rfl

/-- `WHERE task_uid = ? AND version = ?`. -/
def isPrevious (task : Task) (r : Stored TaskText) : Bool :=
  r.val.row.taskUid = task.taskUid.toText ∧ r.val.row.version = task.version - 1

/-- The row is written before it is read into the answer. -/
def update (task : Task) (db : TextDb) : AppResult Task × TextDb :=
  match db.tasks.find? (isPrevious task) with
  | none => (.error (TaskRepository.versionConflict task), db)
  | some r =>
      (load f ⟨r.id, updateColumns f task r.val⟩,
        { db with tasks := db.tasks.modify (isPrevious task) (updateColumns f task) (updateColumns_keeps f task) })

/-- `task_uid < ?`, if there is a cursor. -/
def isBelow (cursor : Option String) (r : Stored TaskText) : Bool := cursor.all fun c => r.val.row.taskUid < c

/-- `ORDER BY task_uid DESC`. -/
def byUid (a b : Stored TaskText) : Bool := b.val.row.taskUid ≤ a.val.row.taskUid

/-- `ORDER BY updated_at DESC, task_uid DESC`. -/
def byUpdate (a b : Stored TaskText) : Bool :=
  b.val.row.updatedAt < a.val.row.updatedAt ||
    (b.val.row.updatedAt = a.val.row.updatedAt && b.val.row.taskUid ≤ a.val.row.taskUid)

/-- `ORDER BY deadline ASC, task_uid ASC`. -/
def byDeadline (a b : Stored TaskText) : Bool :=
  match a.val.row.deadline, b.val.row.deadline with
  | some d, some d' => isoDate d < isoDate d' || (isoDate d = isoDate d' && a.val.row.taskUid ≤ b.val.row.taskUid)
  | none, _ => true
  | some _, none => false

def listQuery (scope : Stored TaskText → Bool) (cursor : Option String) (limit : Nat) (db : TextDb) :
    AppResult (List Task) :=
  fetchAll (load f) (fun r => scope r && isBelow cursor r) byUid limit db.tasks.rows

def listAssignedToUser (userId : Int) (cursor : Option String) (limit : Nat) (db : TextDb) :
    AppResult (List Task) :=
  listQuery f (fun r => r.val.row.assignedToUserId = some userId) cursor limit db

def listCreatedByUser (userId : Int) (cursor : Option String) (limit : Nat) (db : TextDb) :
    AppResult (List Task) :=
  listQuery f (fun r => r.val.row.createdByUserId = userId) cursor limit db

def listAll (cursor : Option String) (limit : Nat) (db : TextDb) : AppResult (List Task) :=
  listQuery f (fun _ => true) cursor limit db

def listOpenAssignedToEmployeeWithoutUser (employeeId : Int) (limit : Nat) (db : TextDb) :
    AppResult (List Task) :=
  fetchAll (load f)
    (fun r => r.val.row.assignedToEmployeeId = some employeeId && r.val.row.assignedToUserId = none && isOpen r)
    byUpdate limit db.tasks.rows

def getDueBetween (first last : NaiveDate) (limit : Nat) (db : TextDb) : AppResult (List Task) :=
  fetchAll (load f)
    (fun r => r.val.row.deadline.any (fun deadline => isoDate first ≤ isoDate deadline &&
      isoDate deadline ≤ isoDate last) && isOpen r)
    byDeadline limit db.tasks.rows

def getOverdue (asOf : NaiveDate) (limit : Nat) (db : TextDb) : AppResult (List Task) :=
  fetchAll (load f) (fun r => r.val.row.deadline.any (fun deadline => isoDate deadline < isoDate asOf) && isOpen r)
    byDeadline limit db.tasks.rows

/-- The sums of `count_stats_global`, over these rows. -/
def countStats (averageHours : AverageHours) (today : NaiveDate) (rows : List (Stored TaskText)) : TaskStats where
  createdCount := rows.length
  completedCount := rows.countP fun r => r.val.row.status = "completed"
  activeCount := rows.countP isOpen
  overdueCount := rows.countP fun r => r.val.row.deadline.any (fun deadline => isoDate deadline < isoDate today) &&
    !(r.val.row.status ∈ ["completed", "cancelled"])
  averageCompletionHours := averageHours (rows.filterMap fun r =>
    r.val.row.completedAt.map fun done => (r.val.row.createdAt, done))

def countStatsForUser (averageHours : AverageHours) (today : NaiveDate) (userId : Int) (db : TextDb) : TaskStats :=
  countStats averageHours today (db.tasks.rows.filter fun r => r.val.row.createdByUserId = userId)

def countStatsGlobal (averageHours : AverageHours) (today : NaiveDate) (db : TextDb) : TaskStats :=
  countStats averageHours today db.tasks.rows

def listOpen (limit : Nat) (db : TextDb) : AppResult (List Task) :=
  fetchAll (load f) isOpen byUpdate limit db.tasks.rows

end TextTasks

end

namespace TextComments

def load (r : Stored CommentRow) : AppResult TaskComment := CommentRow.tryInto { r.val with id := r.id }

def create (comment : TaskComment) (db : TextDb) : AppResult TaskComment × TextDb :=
  (CommentRow.tryInto { CommentRow.bound comment with id := db.comments.nextId },
    { db with comments := (db.comments.insertOrIgnore (CommentRow.bound comment)).1 })

/-- `ORDER BY created_at DESC, id DESC`. -/
def latestFirst (a b : Stored CommentRow) : Bool :=
  b.val.createdAt < a.val.createdAt ∨ (b.val.createdAt = a.val.createdAt ∧ b.id ≤ a.id)

def listRecentForTask (taskId : Int) (limit : Nat) (db : TextDb) : AppResult (List TaskComment) :=
  fetchAll load (fun r => r.val.taskId = taskId) latestFirst limit db.comments.rows

end TextComments

namespace TextNotifications

def load (r : Stored NotificationRow) : AppResult Notification := NotificationRow.tryInto { r.val with id := r.id }

def insert (n : Notification) (db : TextDb) : TextDb :=
  { db with notifications := (db.notifications.insertOrIgnore (NotificationRow.bound n)).1 }

/-- `fetch_one` by the key. -/
def stored (n : Notification) (db : TextDb) : AppResult Notification :=
  okOrElse (db.notifications.find? fun r => r.val.dedupeKey = n.dedupeKey) (databaseError "no rows returned") >>= load

/-- `WHERE delivery_state IN ('pending', 'retry_pending') AND (next_attempt_at IS NULL OR
next_attempt_at <= now)`. -/
def isDue (now : Instant) (r : Stored NotificationRow) : Bool :=
  r.val.deliveryState ∈ ["pending", "retry_pending"] && r.val.nextAttemptAt.all (· ≤ now)

/-- `ORDER BY created_at ASC, id ASC`. -/
def oldestFirst (a b : Stored NotificationRow) : Bool :=
  a.val.createdAt < b.val.createdAt ∨ (a.val.createdAt = b.val.createdAt ∧ a.id ≤ b.id)

/-- `ORDER BY created_at DESC, id DESC`. -/
def latestFirst (a b : Stored NotificationRow) : Bool :=
  b.val.createdAt < a.val.createdAt ∨ (b.val.createdAt = a.val.createdAt ∧ b.id ≤ a.id)

def listPending (limit : Nat) (now : Instant) (db : TextDb) : AppResult (List Notification) :=
  fetchAll load (isDue now) oldestFirst limit db.notifications.rows

/-- `UPDATE notifications SET g WHERE id = ?`. -/
def setById (id : Int) (g : NotificationRow → NotificationRow) (hg : KeepsKeys g) (db : TextDb) : TextDb :=
  { db with notifications := db.notifications.modify (fun r => r.id = id) g hg }

def sentColumns (telegramMessageId : Int) (sentAt : Instant) (n : NotificationRow) : NotificationRow :=
  { n with
    isSent := 1
    deliveryState := "sent"
    telegramMessageId := some telegramMessageId
    sentAt := some sentAt
    nextAttemptAt := none
    lastErrorCode := none }

def markSent (id telegramMessageId : Int) (sentAt : Instant) : TextDb → TextDb :=
  setById id (sentColumns telegramMessageId sentAt) fun _ _ => rfl

def retryColumns (nextAttemptAt : Instant) (errorCode : String) (n : NotificationRow) : NotificationRow :=
  { n with
    attemptCount := n.attemptCount + 1
    deliveryState := "retry_pending"
    nextAttemptAt := some nextAttemptAt
    lastErrorCode := some errorCode }

def markRetryPending (id : Int) (nextAttemptAt : Instant) (errorCode : String) : TextDb → TextDb :=
  setById id (retryColumns nextAttemptAt errorCode) fun _ _ => rfl

def failedColumns (errorCode : String) (n : NotificationRow) : NotificationRow :=
  { n with
    attemptCount := n.attemptCount + 1
    deliveryState := "failed"
    nextAttemptAt := none
    lastErrorCode := some errorCode }

def markFailed (id : Int) (errorCode : String) : TextDb → TextDb :=
  setById id (failedColumns errorCode) fun _ _ => rfl

def requeuedColumns (n : NotificationRow) : NotificationRow :=
  { n with deliveryState := "pending", nextAttemptAt := none, lastErrorCode := none }

def requeue (id : Int) : TextDb → TextDb := setById id requeuedColumns fun _ _ => rfl

def findLatestForTaskAndRecipient (taskId recipientUserId : Int) (kind : NotificationType) (db : TextDb) :
    AppResult (Option Notification) :=
  fetchOptional load ((db.notifications.rows.filter fun r =>
    r.val.taskId = some taskId && r.val.recipientUserId = recipientUserId &&
      r.val.notificationType = notificationTypeToDb kind).mergeSort latestFirst).head?

end TextNotifications

/-- What the queries do. -/
def Statement.onText (f : Formats) {β : Type} : Statement β → TextDb → AppResult β × TextDb
  | .insertTask task => TextTasks.insertTask f task
  | .findBySourceMessageKey key => fun db => (TextTasks.findBySourceMessageKey f key db, db)
  | .findByUid uid => fun db => (TextTasks.findByUid f uid db, db)
  | .findById id => fun db => (TextTasks.findById f id db, db)
  | .update task => TextTasks.update f task
  | .listAssignedToUser userId cursor limit => fun db => (TextTasks.listAssignedToUser f userId cursor limit db, db)
  | .listCreatedByUser userId cursor limit => fun db => (TextTasks.listCreatedByUser f userId cursor limit db, db)
  | .listAll cursor limit => fun db => (TextTasks.listAll f cursor limit db, db)
  | .listOpenAssignedToEmployeeWithoutUser employeeId limit => fun db =>
      (TextTasks.listOpenAssignedToEmployeeWithoutUser f employeeId limit db, db)
  | .getDueBetween first last limit => fun db => (TextTasks.getDueBetween f first last limit db, db)
  | .getOverdue asOf limit => fun db => (TextTasks.getOverdue f asOf limit db, db)
  | .countStatsForUser averageHours today userId => fun db =>
      (.ok (TextTasks.countStatsForUser averageHours today userId db), db)
  | .countStatsGlobal averageHours today => fun db => (.ok (TextTasks.countStatsGlobal averageHours today db), db)
  | .listOpen limit => fun db => (TextTasks.listOpen f limit db, db)
  | .createComment comment => TextComments.create comment
  | .listRecentForTask taskId limit => fun db => (TextComments.listRecentForTask taskId limit db, db)
  | .insertNotification _ n => fun db => (.ok (), TextNotifications.insert n db)
  | .storedNotification _ n => fun db => (TextNotifications.stored n db, db)
  | .listPending limit now => fun db => (TextNotifications.listPending limit now db, db)
  | .markSent id telegramMessageId sentAt => fun db => (.ok (), TextNotifications.markSent id telegramMessageId sentAt db)
  | .markRetryPending id nextAttemptAt errorCode => fun db =>
      (.ok (), TextNotifications.markRetryPending id nextAttemptAt errorCode db)
  | .markFailed id errorCode => fun db => (.ok (), TextNotifications.markFailed id errorCode db)
  | .requeue id => fun db => (.ok (), TextNotifications.requeue id db)
  | .findLatestForTaskAndRecipient taskId recipientUserId kind => fun db =>
      (TextNotifications.findLatestForTaskAndRecipient taskId recipientUserId kind db, db)

def textImpl (f : Formats) : Impl Statement Site TextDb AppError := ⟨Statement.site, Statement.onText f⟩

/-! ## The texts of the records -/

section

variable {f : Formats}

/-- The columns of a row, as they are bound. -/
def TaskColumns.text (f : Formats) (c : TaskColumns) : TaskText := ⟨TaskRow.bound f c.task, c.slaState, c.slaLastLevel⟩

theorem toText_inj {u v : Uuid} : u.toText = v.toText ↔ u = v := by
  refine ⟨fun h => Uuid.hyphenated_inj ?_, fun h => congrArg _ h⟩
  simpa [Uuid.toText, String.ofList_inj] using h

def taskEncoding (f : Formats) : Encoding TaskColumns TaskText where
  encode := TaskColumns.text f
  clash_encode a b := by
    show (decide (a.task.taskUid.toText = b.task.taskUid.toText) || _) = (decide (a.task.taskUid = b.task.taskUid) || _)
    rw [decide_eq_decide.mpr toText_inj]
    rfl

def commentEncoding : Encoding TaskComment CommentRow := ⟨CommentRow.bound, fun _ _ => rfl⟩

def notificationEncoding : Encoding Notification NotificationRow := ⟨NotificationRow.bound, fun _ _ => rfl⟩

/-- The texts are those of the records. -/
structure Texts (f : Formats) (t : TextDb) (db : Db) : Prop where
  tasks : t.tasks = db.tasks.encoded (taskEncoding f)
  comments : t.comments = db.comments.encoded commentEncoding
  notifications : t.notifications = db.notifications.encoded notificationEncoding

theorem texts_empty : Texts f .empty .empty := ⟨rfl, rfl, rfl⟩

theorem load_task (hf : f.ReadsBack) (r : Stored TaskColumns) :
    TextTasks.load f (r.map (taskEncoding f).encode) = .ok (toTask r) := TaskRow.tryInto_bound hf r.val.task r.id

theorem load_notification (r : Stored Notification) :
    TextNotifications.load (r.map notificationEncoding.encode) = .ok (NotificationRepository.toNotification r) :=
  NotificationRow.tryInto_bound r.val r.id

/-! ## Reads -/

section

variable {α ρ γ : Type} [Keyed α] [Keyed ρ] {E : Encoding α ρ} {load : Stored ρ → AppResult γ} {view : Stored α → γ}

theorem fetchOptional_encoded (hload : ∀ r, load (r.map E.encode) = .ok (view r)) (o : Option (Stored α)) :
    fetchOptional load (o.map (Stored.map E.encode)) = .ok (o.map view) := by
  cases o with
  | none => rfl
  | some r =>
    show (load (r.map E.encode)).map some = _
    rw [hload]
    rfl

/-- No row of the texts fails to load, and the rows come in the same order. -/
theorem fetchAll_encoded (hload : ∀ r, load (r.map E.encode) = .ok (view r)) {q : Stored ρ → Bool}
    {p : Stored α → Bool} (hq : ∀ r, q (r.map E.encode) = p r) {le : Stored ρ → Stored ρ → Bool}
    {le' : Stored α → Stored α → Bool} (hle : ∀ a b, le (a.map E.encode) (b.map E.encode) = le' a b) (n : Nat)
    (t : Table α) :
    fetchAll load q le n (t.encoded E).rows = .ok ((((t.rows.filter p).mergeSort le').take n).map view) := by
  unfold fetchAll
  rw [Table.filter_encoded hq, ← List.map_mergeSort (r := le') fun a _ b _ => (hle a b).symm, ← List.map_take,
    List.mapM_map]
  have hloads : load ∘ Stored.map E.encode = fun r => pure (view r) := funext hload
  rw [hloads]
  exact List.mapM_pure

end

/-- The same for tasks, whose order is told by the task. -/
theorem fetchAll_tasks (hf : f.ReadsBack) {q : Stored TaskText → Bool} {p : Stored TaskColumns → Bool}
    (hq : ∀ r, q (r.map (taskEncoding f).encode) = p r) {le : Stored TaskText → Stored TaskText → Bool}
    (byTask : Task → Task → Bool)
    (hle : ∀ a b, le (a.map (taskEncoding f).encode) (b.map (taskEncoding f).encode) = byTask (toTask a) (toTask b))
    (n : Nat) (t : Table TaskColumns) :
    fetchAll (TextTasks.load f) q le n (t.encoded (taskEncoding f)).rows =
      .ok ((((t.rows.filter p).map toTask).mergeSort byTask).take n) := by
  rw [fetchAll_encoded (load_task hf) hq hle, List.map_take,
    List.map_mergeSort (s := byTask) (f := toTask) fun _ _ _ _ => rfl]

/-- The statements on deadlines, which select by the task as well. -/
theorem fetchAll_byDeadline (hf : f.ReadsBack) {q : Stored TaskText → Bool} {p : Task → Bool}
    (hq : ∀ r, q (r.map (taskEncoding f).encode) = p (toTask r)) (n : Nat) (t : Table TaskColumns) :
    fetchAll (TextTasks.load f) q TextTasks.byDeadline n (t.encoded (taskEncoding f)).rows =
      .ok ((((t.rows.map toTask).filter p).mergeSort TaskRepository.byDeadline).take n) := by
  rw [fetchAll_tasks hf hq TaskRepository.byDeadline fun _ _ => rfl, List.filter_map]
  rfl

theorem openText (s : TaskStatus) :
    decide (taskStatusToDb s ∈ ["created", "sent", "in_progress", "blocked", "in_review"]) = !s.isTerminal := by
  cases s <;> decide

theorem isOpen_text (r : Stored TaskColumns) :
    TextTasks.isOpen (r.map (taskEncoding f).encode) = !r.val.task.status.isTerminal := openText r.val.task.status

/-- The rows of a page, and their order. -/
theorem listQuery_text (hf : f.ReadsBack) {q : Stored TaskText → Bool} {scope : Task → Bool}
    (hq : ∀ r, q (r.map (taskEncoding f).encode) = scope (toTask r)) (cursor : Option String) (limit : Nat)
    {t : TextDb} {db : Db} (h : Texts f t db) :
    TextTasks.listQuery f q cursor limit t = .ok (TaskRepository.listQuery scope cursor limit db) := by
  let below : Task → Bool := Paging.below (fun t => t.taskUid.toText) cursor
  have hscope : ∀ r : Stored TaskColumns, (q (r.map (taskEncoding f).encode) &&
      TextTasks.isBelow cursor (r.map (taskEncoding f).encode)) = (below (toTask r) && scope (toTask r)) := by
    intro r
    rw [hq, Bool.and_comm]
    rfl
  have hrows : ((db.tasks.rows.map toTask).filter scope).filter below =
      (db.tasks.rows.filter fun r => below (toTask r) && scope (toTask r)).map toTask := by
    rw [List.filter_filter, List.filter_map]
    rfl
  -- the order of the pages decides `≤` in its own way
  let byUid : Task → Task → Bool := fun a b => @decide (b.taskUid.toText ≤ a.taskUid.toText) (LinearOrder.toDecidableLE _ _)
  have horder : ∀ a b : Stored TaskColumns, TextTasks.byUid (a.map (taskEncoding f).encode)
      (b.map (taskEncoding f).encode) = byUid (toTask a) (toTask b) := fun a b => decide_eq_decide.mpr Iff.rfl
  unfold TextTasks.listQuery
  rw [h.tasks, fetchAll_tasks hf hscope _ horder, ← hrows]
  rfl

theorem closedText (s : TaskStatus) : decide (taskStatusToDb s ∈ ["completed", "cancelled"]) =
    (decide (s = .completed) || decide (s = .cancelled)) := by
  cases s <;> decide

/-- The sums over the texts are the figures of the tasks. -/
theorem countStats_text (averageHours : AverageHours) (today : NaiveDate) (rows : List (Stored TaskColumns)) :
    TextTasks.countStats averageHours today (rows.map (Stored.map (taskEncoding f).encode)) =
      TaskRepository.countStats averageHours today (rows.map toTask) := by
  have hcount : ∀ (p : Stored TaskText → Bool) (q : Task → Bool),
      (∀ r, p (Stored.map (taskEncoding f).encode r) = q (toTask r)) →
        (rows.map (Stored.map (taskEncoding f).encode)).countP p = (rows.map toTask).countP q := by
    intro p q hpq
    rw [List.countP_map, List.countP_map]
    exact List.countP_congr fun r _ => by rw [Function.comp_apply, Function.comp_apply, hpq]
  have hopen : ∀ s : TaskStatus, (!s.isTerminal) = (decide (s = .created) || decide (s = .sent) ||
      decide (s = .inProgress) || decide (s = .blocked) || decide (s = .inReview)) := by
    intro s
    cases s <;> decide
  have hcompleted : ∀ s : TaskStatus, decide (taskStatusToDb s = "completed") = decide (s = .completed) := by
    intro s
    cases s <;> decide
  unfold TextTasks.countStats TaskRepository.countStats
  congr 1
  · rw [List.length_map, List.length_map]
  · exact hcount _ _ fun r => hcompleted r.val.task.status
  · exact hcount _ _ fun r => (isOpen_text r).trans (hopen r.val.task.status)
  · exact hcount _ _ fun r => congrArg (_ && !·) (closedText r.val.task.status)
  · rw [List.filterMap_map, List.filterMap_map]
    rfl

theorem dueText (s : NotificationDeliveryState) : decide (deliveryStateToDb s ∈ ["pending", "retry_pending"]) =
    (decide (s = .pending) || decide (s = .retryPending)) := by
  cases s <;> decide

theorem isDue_text (now : Instant) (r : Stored Notification) :
    TextNotifications.isDue now (r.map notificationEncoding.encode) = NotificationRepository.isDue now r.val :=
  congrArg (· && r.val.nextAttemptAt.all (· ≤ now)) (dueText r.val.deliveryState)

/-! ## Every statement -/

/-- From the texts of a database, the statement answers as on the records. -/
def Statement.Agrees (f : Formats) {β : Type} (op : Statement β) : Prop :=
  ∀ t db, Texts f t db → (op.onText f t).1 = (op.onRecords db).1 ∧ Texts f (op.onText f t).2 (op.onRecords db).2

theorem agrees_of_read {β : Type} {op : Statement β} {text : TextDb → AppResult β} {records : Db → AppResult β}
    (htext : ∀ t, op.onText f t = (text t, t)) (hrecords : ∀ db, op.onRecords db = (records db, db))
    (h : ∀ t db, Texts f t db → text t = records db) : op.Agrees f := by
  intro t db ht
  rw [htext, hrecords]
  exact ⟨h t db ht, ht⟩

theorem insertTask_agrees (task : Task) : (Statement.insertTask task).Agrees f := by
  intro t db h
  have hinsert : t.tasks.insertOrIgnore (TextTasks.newColumns f task) =
      ((db.tasks.insertOrIgnore (TaskRepository.newColumns task)).1.encoded (taskEncoding f),
        (db.tasks.insertOrIgnore (TaskRepository.newColumns task)).2) := by
    rw [h.tasks]
    exact Table.insert_encoded (E := taskEncoding f) (TaskRepository.newColumns task)
  simp only [Statement.onText, TextTasks.insertTask, hinsert]
  exact ⟨rfl, rfl, h.comments, h.notifications⟩

theorem update_agrees (hf : f.ReadsBack) (task : Task) : (Statement.update task).Agrees f := by
  intro t db h
  have hprevious : ∀ r : Stored TaskColumns,
      TextTasks.isPrevious task (r.map (taskEncoding f).encode) = TaskRepository.isPrevious task r := by
    exact fun r => decide_eq_decide.mpr (and_congr_left' toText_inj)
  have hcolumns : ∀ c, TextTasks.updateColumns f task (TaskColumns.text f c) =
      TaskColumns.text f (TaskRepository.updateColumns task c) := fun c => rfl
  have hfind := Table.find?_encoded (t := db.tasks) hprevious
  show (TextTasks.update f task t).1 = (TaskRepository.updateTask task db).1 ∧
    Texts f (TextTasks.update f task t).2 (TaskRepository.updateTask task db).2
  unfold TextTasks.update TaskRepository.updateTask
  rw [h.tasks, hfind]
  cases db.tasks.find? (TaskRepository.isPrevious task) with
  | none => exact ⟨rfl, h⟩
  | some r =>
    refine ⟨load_task hf ⟨r.id, TaskRepository.updateColumns task r.val⟩, ?_, h.comments, h.notifications⟩
    exact Table.modify_encoded (TextTasks.updateColumns_keeps f task) (TaskRepository.updateColumns_keeps task)
      hprevious hcolumns

theorem createComment_agrees (comment : TaskComment) : (Statement.createComment comment).Agrees f := by
  intro t db h
  refine ⟨?_, h.tasks, ?_, h.notifications⟩
  · show CommentRow.tryInto { CommentRow.bound comment with id := t.comments.nextId } = _
    rw [h.comments]
    exact CommentRow.tryInto_bound comment db.comments.nextId
  · show (t.comments.insertOrIgnore (CommentRow.bound comment)).1 = _
    rw [h.comments]
    exact congrArg Prod.fst (Table.insert_encoded (E := commentEncoding) comment)

theorem insertNotification_agrees (slot : Nat) (n : Notification) :
    (Statement.insertNotification slot n).Agrees f := by
  intro t db h
  refine ⟨rfl, h.tasks, h.comments, ?_⟩
  show (t.notifications.insertOrIgnore (NotificationRow.bound n)).1 = _
  rw [h.notifications]
  exact congrArg Prod.fst (Table.insert_encoded (E := notificationEncoding) n)

/-- An `UPDATE` of the queue by id. -/
theorem setById_texts {id : Int} {g : NotificationRow → NotificationRow} {hg : KeepsKeys g}
    {k : Notification → Notification} {hk : KeepsKeys k}
    (hgk : ∀ n, g (NotificationRow.bound n) = NotificationRow.bound (k n)) {t : TextDb} {db : Db}
    (h : Texts f t db) : Texts f (TextNotifications.setById id g hg t)
      { db with notifications := db.notifications.modify (fun r => r.id = id) k hk } := by
  refine ⟨h.tasks, h.comments, ?_⟩
  show t.notifications.modify (fun r => r.id = id) g hg = _
  rw [h.notifications]
  exact Table.modify_encoded hg hk (fun _ => rfl) hgk

theorem findLatest_agrees (taskId recipientUserId : Int) (kind : NotificationType) :
    (Statement.findLatestForTaskAndRecipient taskId recipientUserId kind).Agrees f := by
  refine agrees_of_read (fun _ => rfl) (fun _ => rfl) fun t db h => ?_
  unfold TextNotifications.findLatestForTaskAndRecipient
  rw [h.notifications, Table.filter_encoded (p := fun r => r.val.taskId = some taskId ∧
    r.val.recipientUserId = recipientUserId ∧ r.val.notificationType = kind) fun r => ?_,
    ← List.map_mergeSort (r := fun a b => decide (b.val.createdAt < a.val.createdAt ∨
      (b.val.createdAt = a.val.createdAt ∧ b.id ≤ a.id))) fun a _ b _ => rfl, List.head?_map]
  · exact fetchOptional_encoded load_notification _
  · have hkind : decide (notificationTypeToDb r.val.notificationType = notificationTypeToDb kind) =
        decide (r.val.notificationType = kind) := decide_eq_decide.mpr notificationTypes.toDb_inj
    show (decide (r.val.taskId = _) && decide (r.val.recipientUserId = _) && decide (notificationTypeToDb _ = _)) = _
    rw [hkind, Bool.decide_and, Bool.decide_and, Bool.and_assoc]
    rfl

theorem agrees (hf : f.ReadsBack) {β : Type} (op : Statement β) : op.Agrees f := by
  cases op with
  | insertTask task => exact insertTask_agrees task
  | update task => exact update_agrees hf task
  | createComment comment => exact createComment_agrees comment
  | insertNotification slot n => exact insertNotification_agrees slot n
  | findLatestForTaskAndRecipient taskId recipientUserId kind => exact findLatest_agrees taskId recipientUserId kind
  | findBySourceMessageKey key =>
    refine agrees_of_read (fun _ => rfl) (fun _ => rfl) fun t db h => ?_
    unfold TextTasks.findBySourceMessageKey
    rw [h.tasks, Table.find?_encoded (p := fun r => r.val.task.sourceMessageKey = key) fun _ => rfl]
    exact fetchOptional_encoded (load_task hf) _
  | findByUid uid =>
    refine agrees_of_read (fun _ => rfl) (fun _ => rfl) fun t db h => ?_
    unfold TextTasks.findByUid
    rw [h.tasks, Table.find?_encoded (p := fun r => r.val.task.taskUid = uid) fun _ => decide_eq_decide.mpr toText_inj]
    exact fetchOptional_encoded (load_task hf) _
  | findById id =>
    refine agrees_of_read (fun _ => rfl) (fun _ => rfl) fun t db h => ?_
    unfold TextTasks.findById
    rw [h.tasks, Table.find?_encoded (p := fun r => r.id = id) fun _ => rfl]
    exact fetchOptional_encoded (load_task hf) _
  | listAssignedToUser userId cursor limit =>
    exact agrees_of_read (fun _ => rfl) (fun _ => rfl) fun t db h => listQuery_text hf (fun _ => rfl) cursor limit h
  | listCreatedByUser userId cursor limit =>
    exact agrees_of_read (fun _ => rfl) (fun _ => rfl) fun t db h => listQuery_text hf (fun _ => rfl) cursor limit h
  | listAll cursor limit =>
    exact agrees_of_read (fun _ => rfl) (fun _ => rfl) fun t db h => listQuery_text hf (fun _ => rfl) cursor limit h
  | listOpenAssignedToEmployeeWithoutUser employeeId limit =>
    refine agrees_of_read (fun _ => rfl) (fun _ => rfl) fun t db h => ?_
    unfold TextTasks.listOpenAssignedToEmployeeWithoutUser
    rw [h.tasks]
    refine fetchAll_tasks hf (fun r => ?_) _ (fun a b => ?_) limit db.tasks
    · rw [isOpen_text, Bool.decide_and, Bool.decide_and, Bool.and_assoc]
      simp
      rfl
    · rw [Bool.decide_or, Bool.decide_and]
      rfl
  | getDueBetween first last limit =>
    refine agrees_of_read (fun _ => rfl) (fun _ => rfl) fun t db h => ?_
    unfold TextTasks.getDueBetween
    rw [h.tasks]
    refine fetchAll_byDeadline hf (fun r => ?_) limit db.tasks
    rw [isOpen_text]
    rfl
  | getOverdue asOf limit =>
    refine agrees_of_read (fun _ => rfl) (fun _ => rfl) fun t db h => ?_
    unfold TextTasks.getOverdue
    rw [h.tasks]
    refine fetchAll_byDeadline hf (fun r => ?_) limit db.tasks
    rw [isOpen_text]
    rfl
  | countStatsForUser averageHours today userId =>
    refine agrees_of_read (fun _ => rfl) (fun _ => rfl) fun t db h => ?_
    unfold TextTasks.countStatsForUser
    rw [h.tasks, Table.filter_encoded (p := fun r => r.val.task.createdByUserId = userId) fun _ => rfl,
      countStats_text]
    refine congrArg (fun tasks => Except.ok (TaskRepository.countStats averageHours today tasks)) ?_
    rw [List.filter_map]
    rfl
  | countStatsGlobal averageHours today =>
    refine agrees_of_read (fun _ => rfl) (fun _ => rfl) fun t db h => ?_
    unfold TextTasks.countStatsGlobal
    rw [h.tasks]
    exact congrArg Except.ok (countStats_text averageHours today db.tasks.rows)
  | listRecentForTask taskId limit =>
    refine agrees_of_read (fun _ => rfl) (fun _ => rfl) fun t db h => ?_
    unfold TextComments.listRecentForTask
    rw [h.comments]
    exact fetchAll_encoded (fun r => CommentRow.tryInto_bound r.val r.id) (fun _ => rfl) (fun _ _ => rfl) limit
      db.comments
  | listOpen limit =>
    refine agrees_of_read (fun _ => rfl) (fun _ => rfl) fun t db h => ?_
    unfold TextTasks.listOpen
    rw [h.tasks]
    exact fetchAll_tasks hf isOpen_text _ (fun _ _ => rfl) limit db.tasks
  | storedNotification slot n =>
    refine agrees_of_read (fun _ => rfl) (fun _ => rfl) fun t db h => ?_
    unfold TextNotifications.stored
    rw [h.notifications, Table.find?_encoded (p := fun r => r.val.dedupeKey = n.dedupeKey) fun _ => rfl]
    cases db.notifications.find? fun r => r.val.dedupeKey = n.dedupeKey with
    | none => rfl
    | some r => exact load_notification r
  | listPending limit now =>
    refine agrees_of_read (fun _ => rfl) (fun _ => rfl) fun t db h => ?_
    unfold TextNotifications.listPending
    rw [h.notifications]
    exact fetchAll_encoded load_notification (isDue_text now) (fun _ _ => rfl) limit db.notifications
  | markSent id telegramMessageId sentAt => exact fun t db h => ⟨rfl, setById_texts (fun _ => rfl) h⟩
  | markRetryPending id nextAttemptAt errorCode => exact fun t db h => ⟨rfl, setById_texts (fun _ => rfl) h⟩
  | markFailed id errorCode => exact fun t db h => ⟨rfl, setById_texts (fun _ => rfl) h⟩
  | requeue id => exact fun t db h => ⟨rfl, setById_texts (fun _ => rfl) h⟩

theorem textImpl_refines (hf : f.ReadsBack) : (textImpl f).Refines (Texts f) recordImpl where
  site _ := rfl
  answer op t db h := (agrees hf op t db h).1
  store op t db h := (agrees hf op t db h).2

/-! ## Programs -/

/-- Every row can be read. -/
structure TextDb.Readable (f : Formats) (t : TextDb) : Prop where
  tasks : ∀ r ∈ t.tasks.rows, ∃ task, TextTasks.load f r = .ok task
  comments : ∀ r ∈ t.comments.rows, ∃ comment, CommentRow.tryInto { r.val with id := r.id } = .ok comment
  notifications : ∀ r ∈ t.notifications.rows, ∃ n, TextNotifications.load r = .ok n

theorem Texts.readable (hf : f.ReadsBack) {t : TextDb} {db : Db} (h : Texts f t db) : t.Readable f := by
  refine ⟨fun r hr => ?_, fun r hr => ?_, fun r hr => ?_⟩
  · rw [h.tasks] at hr
    obtain ⟨r, -, rfl⟩ := List.mem_map.mp hr
    exact ⟨_, load_task hf r⟩
  · rw [h.comments] at hr
    obtain ⟨r, -, rfl⟩ := List.mem_map.mp hr
    exact ⟨_, CommentRow.tryInto_bound r.val r.id⟩
  · rw [h.notifications] at hr
    obtain ⟨r, -, rfl⟩ := List.mem_map.mp hr
    exact ⟨_, load_notification r⟩

/-- `enqueue` is two of the statements. -/
def enqueueClient (slot : Nat) (n : Notification) : Calls.Client Statement AppError Notification := do
  Client.ask (.insertNotification slot n)
  Client.ask (.storedNotification slot n)

theorem run_enqueueClient (slot : Nat) (n : Notification) (plan : Site → Fault AppError) (db : Db) :
    ((enqueueClient slot n).on recordImpl).run plan db = (NotificationRepository.enqueue slot n).run plan db := by
  unfold enqueueClient NotificationRepository.enqueue
  rw [Client.on_bind, Prog.run_bind, Prog.run_bind]
  have hinsert : ((Client.ask (.insertNotification slot n)).on recordImpl).run plan db =
      (write (.notificationInsert n.dedupeKey slot) fun db => ((), db.insertNotification n) : Proc Unit).run plan db :=
    rfl
  rw [hinsert]
  cases (write (.notificationInsert n.dedupeKey slot) fun db => ((), db.insertNotification n) : Proc Unit).run plan db with
  | mk r db' =>
    cases r with
    | error e => rfl
    | ok _ =>
      show Prog.run plan (.perform (.notificationFind n.dedupeKey slot)
        (Statement.onRecords (.storedNotification slot n))) db' = _
      simp only [Prog.run_perform, Prog.run_bind, select]
      cases plan (.notificationFind n.dedupeKey slot) with
      | none =>
        simp only [Fault.apply_none, Statement.onRecords]
        cases db'.notifications.find? fun r => r.val.dedupeKey = n.dedupeKey <;> rfl
      | before e => rfl
      | after e => rfl

end

/-- **No programs of statements can tell the texts from the records.**  In every order of their calls and
whatever these meet, a program ends on the texts exactly if it ends on the records, with the same answer; and
no row is ever left that cannot be read. -/
theorem clients_agree {f : Formats} (hf : f.ReadsBack) {κ α : Type} {t : TextDb} {db : Db} (h : Texts f t db)
    (clients : List (κ × Calls.Client Statement AppError α)) (sched : List (Nat × Fault AppError)) :
    let text : Pool Site TextDb AppError κ α := Pool.exec ⟨t, clients.map fun p => (p.1, p.2.on (textImpl f))⟩ sched
    let records : Pool Site Db AppError κ α := Pool.exec ⟨db, clients.map fun p => (p.1, p.2.on recordImpl)⟩ sched
    (∀ (i : Nat) (who : κ) (r : AppResult α),
      text.threads[i]? = some (who, Prog.ret r) ↔ records.threads[i]? = some (who, Prog.ret r)) ∧
      text.store.Readable f ∧ Texts f text.store records.store := by
  intro text records
  have hsame : text.Same (Texts f) (textImpl f) recordImpl records :=
    Client.pool_refines (textImpl_refines hf) sched ⟨h, clients, rfl, rfl⟩
  exact ⟨hsame.ended, hsame.store.readable hf, hsame.store⟩

/-- Identifiers and arrays as they are displayed; of other values only the empty object. -/
def displayFormats : Formats where
  parseUuid text := (readUuid text).elim (.error "invalid UUID") .ok
  printStrings := JsonStrings.print
  parseStrings text := (JsonStrings.parse text).elim (.error "invalid array") .ok
  parseValue text := if text = "\x7b\x7d" then .ok [] else .error "invalid value"

theorem displayFormats_readsBack : displayFormats.ReadsBack := by
  constructor
  · intro u
    simp only [displayFormats, readUuid_toText, Option.elim_some]
  · intro l
    simp only [displayFormats, JsonStrings.parse_print, Option.elim_some]

def someNotice : Notification := .pending (some 1) 7 .taskAssigned "Новая задача" "task_assigned:1:7" 0

/-- Two programs at once: one notification is enqueued, the others are listed in between. -/
theorem notice_stored :
    let text : Pool Site TextDb AppError Bool Notification := Pool.exec ⟨.empty,
      [(true, (enqueueClient 0 someNotice).on (textImpl displayFormats)),
        (false, (enqueueClient 1 someNotice).on (textImpl displayFormats))]⟩ [(0, .none), (1, .none), (0, .none), (1, .none)]
    text.threads[1]? = some (false, .ret (.ok { someNotice with id := some 1 })) ∧
      text.store.Readable displayFormats := by
  intro text
  have hagree := clients_agree displayFormats_readsBack texts_empty
    [(true, enqueueClient 0 someNotice), (false, enqueueClient 1 someNotice)]
    [(0, .none), (1, .none), (0, .none), (1, .none)]
  exact ⟨(hagree.1 1 false _).mpr rfl, hagree.2.1⟩

end TaskBot
