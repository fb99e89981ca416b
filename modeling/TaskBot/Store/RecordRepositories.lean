import TaskBot.Domain.FeatureFlags
import TaskBot.Store.Db

/-!
# Repositories of the records beside the task

Append-only tables (`task_history`, `comments`, `admin_audit_log`), the
notification queue with its unique key, the overrides of feature flags, and the
employee directory.
-/

namespace TaskBot

open Sql Calls

def Db.appendHistory (db : Db) (entry : AuditLogEntry) : Db :=
  { db with history := (db.history.insertOrIgnore entry).1 }

def Db.appendComment (db : Db) (comment : TaskComment) : Db :=
  { db with comments := (db.comments.insertOrIgnore comment).1 }

def Db.insertNotification (db : Db) (n : Notification) : Db :=
  { db with notifications := (db.notifications.insertOrIgnore n).1 }

/-- `AuditLogRepository::append`: the entry under its id. -/
def AuditLogRepository.append (entry : AuditLogEntry) : Proc AuditLogEntry :=
  write (.auditAppend entry.taskId) fun db =>
    ({ entry with id := some db.history.nextId }, db.appendHistory entry)

/-- `CommentRepository::create`. -/
def CommentRepository.create (comment : TaskComment) : Proc TaskComment :=
  write (.commentCreate comment.taskId) fun db =>
    ({ comment with id := some db.comments.nextId }, db.appendComment comment)

/-- The last comments of the task, the latest first. -/
def CommentRepository.listRecentForTask (taskId : Int) (limit : Nat) : Proc (List TaskComment) :=
  select (.commentCreate taskId) fun db =>
    let rows := db.comments.rows.filter fun r => r.val.taskId = taskId
    .ok (((rows.mergeSort fun a b =>
      b.val.createdAt < a.val.createdAt ∨ (b.val.createdAt = a.val.createdAt ∧ b.id ≤ a.id)).take limit).map fun r =>
        { r.val with id := some r.id })

namespace NotificationRepository

def toNotification (r : Stored Notification) : Notification := { r.val with id := some r.id }

/-- `INSERT OR IGNORE` on the unique key, then the stored row.  `slot` tells apart
two calls of one run. -/
def enqueue (slot : Nat) (n : Notification) : Proc Notification := do
  write (.notificationInsert n.dedupeKey slot) fun db => ((), db.insertNotification n)
  let found ← select (.notificationFind n.dedupeKey slot) fun db =>
    .ok (db.notifications.find? fun r => r.val.dedupeKey = n.dedupeKey)
  let r ← .lift (okOrElse found (databaseError "no rows returned"))
  pure (toNotification r)

/-- `UPDATE notifications SET f WHERE id = ?`. -/
def setById (id : Int) (f : Notification → Notification) (hf : KeepsKeys f) : Proc Unit :=
  write (.notificationUpdate id) fun db =>
    ((), { db with notifications := db.notifications.modify (fun r => r.id = id) f hf })

/-- `WHERE delivery_state IN ('pending', 'retry_pending') AND (next_attempt_at IS NULL OR
next_attempt_at <= now)`. -/
def isDue (now : Instant) (n : Notification) : Bool :=
  (n.deliveryState = .pending || n.deliveryState = .retryPending) && n.nextAttemptAt.all (· ≤ now)

/-- What is due at `now`, the oldest first. -/
def pendingAt (limit : Nat) (now : Instant) (db : Db) : List Notification :=
  (((db.notifications.rows.filter fun r => isDue now r.val).mergeSort fun a b =>
    a.val.createdAt < b.val.createdAt ∨ (a.val.createdAt = b.val.createdAt ∧ a.id ≤ b.id)).take limit).map
      toNotification

def listPending (limit : Nat) (now : Instant) : Proc (List Notification) :=
  select .notificationListPending fun db => .ok (pendingAt limit now db)

def sentColumns (telegramMessageId : Int) (sentAt : Instant) (n : Notification) : Notification :=
  { n with
    isSent := true
    deliveryState := .sent
    telegramMessageId := some telegramMessageId
    sentAt := some sentAt
    nextAttemptAt := none
    lastErrorCode := none }

theorem sentColumns_keeps (telegramMessageId : Int) (sentAt : Instant) :
    KeepsKeys (sentColumns telegramMessageId sentAt) := fun _ _ => rfl

def markSent (id telegramMessageId : Int) (sentAt : Instant) : Proc Unit :=
  setById id (sentColumns telegramMessageId sentAt) (sentColumns_keeps telegramMessageId sentAt)

/-- The columns of a failed attempt: to be tried again at `nextAttemptAt`, or given up. -/
def attemptColumns (state : NotificationDeliveryState) (nextAttemptAt : Option Instant)
    (errorCode : String) (n : Notification) : Notification :=
  { n with
    attemptCount := n.attemptCount + 1
    deliveryState := state
    nextAttemptAt
    lastErrorCode := some errorCode }

theorem attemptColumns_keeps (state : NotificationDeliveryState) (nextAttemptAt : Option Instant)
    (errorCode : String) : KeepsKeys (attemptColumns state nextAttemptAt errorCode) := fun _ _ => rfl

def markRetryPending (id : Int) (nextAttemptAt : Instant) (errorCode : String) : Proc Unit :=
  setById id (attemptColumns .retryPending (some nextAttemptAt) errorCode)
    (attemptColumns_keeps .retryPending (some nextAttemptAt) errorCode)

def markFailed (id : Int) (errorCode : String) : Proc Unit :=
  setById id (attemptColumns .failed none errorCode) (attemptColumns_keeps .failed none errorCode)

def requeuedColumns (n : Notification) : Notification :=
  { n with deliveryState := .pending, nextAttemptAt := none, lastErrorCode := none }

theorem requeuedColumns_keeps : KeepsKeys requeuedColumns := fun _ _ => rfl

def requeue (id : Int) : Proc Unit := setById id requeuedColumns requeuedColumns_keeps

/-- `ORDER BY created_at DESC, id DESC LIMIT 1`. -/
def findLatestForTaskAndRecipient (taskId recipientUserId : Int) (kind : NotificationType) :
    Proc (Option Notification) :=
  select (.notificationFindLatest taskId recipientUserId) fun db =>
    let rows := db.notifications.rows.filter fun r =>
      r.val.taskId = some taskId ∧ r.val.recipientUserId = recipientUserId ∧ r.val.notificationType = kind
    .ok ((rows.mergeSort fun a b =>
      b.val.createdAt < a.val.createdAt ∨ (b.val.createdAt = a.val.createdAt ∧ b.id ≤ a.id)).head?.map
        toNotification)

end NotificationRepository

/-! ## The log of privileged actions, flag overrides -/

def Db.appendAdminAudit (db : Db) (entry : AdminAuditEntry) : Db :=
  { db with adminAudit := (db.adminAudit.insertOrIgnore entry).1 }

namespace AdminAuditLogRepository

def append (entry : AdminAuditEntry) : Proc AdminAuditEntry :=
  write .adminAuditAppend fun db =>
    ({ entry with id := some db.adminAudit.nextId }, db.appendAdminAudit entry)

/-- `ORDER BY created_at DESC, id DESC LIMIT ?`. -/
def listRecent (limit : Nat) : Proc (List AdminAuditEntry) :=
  select .adminAuditListRecent fun db =>
    .ok (((db.adminAudit.rows.mergeSort fun a b =>
      b.val.createdAt < a.val.createdAt ∨ (b.val.createdAt = a.val.createdAt ∧ b.id ≤ a.id)).take limit).map
        fun r => { r.val with id := some r.id })

end AdminAuditLogRepository

def Db.appendSecurityAudit (db : Db) (entry : SecurityAuditEntry) : Db :=
  { db with securityAudit := (db.securityAudit.insertOrIgnore entry).1 }

namespace SecurityAuditLogRepository

def append (entry : SecurityAuditEntry) : Proc SecurityAuditEntry :=
  write .securityAuditAppend fun db =>
    ({ entry with id := some db.securityAudit.nextId }, db.appendSecurityAudit entry)

/-- `ORDER BY created_at DESC, id DESC LIMIT ?`. -/
def listRecent (limit : Nat) : Proc (List SecurityAuditEntry) :=
  select .securityAuditListRecent fun db =>
    .ok (((db.securityAudit.rows.mergeSort fun a b =>
      b.val.createdAt < a.val.createdAt ∨ (b.val.createdAt = a.val.createdAt ∧ b.id ≤ a.id)).take limit).map
        fun r => { r.val with id := some r.id })

end SecurityAuditLogRepository

def overrideColumns (excluded o : FlagOverride) : FlagOverride :=
  { o with
    enabled := excluded.enabled
    updatedByUserId := excluded.updatedByUserId
    updatedAt := excluded.updatedAt }

theorem overrideColumns_keeps (excluded : FlagOverride) : KeepsKeys (overrideColumns excluded) :=
  fun _ _ => rfl

def Db.upsertOverride (db : Db) (o : FlagOverride) : Db :=
  { db with flagOverrides := db.flagOverrides.upsert o (overrideColumns o) (overrideColumns_keeps o) }

/-- The stored override of a flag. -/
def Db.flagOverride (db : Db) (flag : FeatureFlag) : Option Bool :=
  (db.flagOverrides.find? fun r => r.val.flagKey = flag.asKey).map fun r => r.val.enabled

@[simp] theorem flagOverride_upsert (db : Db) (flag : FeatureFlag) (enabled : Bool) (by_ : Option Int)
    (now : Instant) :
    (db.upsertOverride ⟨flag.asKey, enabled, by_, now⟩).flagOverride flag = some enabled := by
  let o : FlagOverride := ⟨flag.asKey, enabled, by_, now⟩
  have hself : Keyed.clash o o = true := decide_eq_true rfl
  obtain ⟨r, hfind, hval⟩ := db.flagOverrides.find?_upsert (overrideColumns o)
    (overrideColumns_keeps o) hself
  have henabled : r.val.enabled = enabled := by
    rcases hval with hval | ⟨r₀, -, hval⟩
    · rw [hval]
    · rw [hval]
      rfl
  have hrow : (db.upsertOverride o).flagOverrides.find? (fun r => r.val.flagKey = flag.asKey) = some r :=
    hfind
  rw [Db.flagOverride, hrow, Option.map_some, henabled]

namespace FeatureFlagRepository

def upsertOverride (flag : FeatureFlag) (enabled : Bool) (updatedByUserId : Option Int) (now : Instant) :
    Proc Unit :=
  write (.flagUpsert flag.asKey) fun db =>
    ((), db.upsertOverride ⟨flag.asKey, enabled, updatedByUserId, now⟩)

/-- Rows of flags that are not known are skipped. -/
def listOverrides : Proc (List (FeatureFlag × Bool)) :=
  select .flagListOverrides fun db =>
    .ok (db.flagOverrides.rows.filterMap fun r =>
      match FeatureFlag.fromStr r.val.flagKey with
      | .ok flag => some (flag, r.val.enabled)
      | .error _ => none)

end FeatureFlagRepository

/-! ## Statements that leave the tasks alone -/

theorem append_leavesTasks (entry : AuditLogEntry) : LeavesTasks (AuditLogRepository.append entry) :=
  write_within fun _ => rfl

theorem create_leavesTasks (comment : TaskComment) : LeavesTasks (CommentRepository.create comment) :=
  write_within fun _ => rfl

namespace NotificationRepository

theorem enqueue_leavesTasks (slot : Nat) (n : Notification) : LeavesTasks (enqueue slot n) :=
  .bind (write_within fun _ => rfl) fun _ =>
    .bind (LeavesTasks.of_reads (select_reads _ _)) fun _ => .bind (.lift _) fun _ => .pure _

/-- The row is stored unless the insert fails before it. -/
theorem store_enqueue {plan : Site → Fault AppError} {slot : Nat} {n : Notification}
    (h : ∀ e, plan (.notificationInsert n.dedupeKey slot) ≠ .before e) (db : Db) :
    ((enqueue slot n).run plan db).2 = db.insertNotification n := by
  unfold enqueue
  cases hf : plan (.notificationInsert n.dedupeKey slot) with
  | before e => exact absurd hf (h e)
  | after e => rw [Prog.run_bind_error plan (run_write_after hf db)]
  | none =>
    rw [Prog.run_bind_ok plan (run_write hf db)]
    have hreads : (do
        let found ← select (.notificationFind n.dedupeKey slot) fun db =>
          .ok (db.notifications.find? fun r => r.val.dedupeKey = n.dedupeKey)
        let r ← Prog.lift (okOrElse found (databaseError "no rows returned"))
        pure (toNotification r) : Proc Notification).Within Eq :=
      .bind (select_reads _ _) fun _ => .bind (.lift _) fun _ => .pure _
    exact Prog.run_of_reads plan hreads _

theorem setById_leavesTasks (id : Int) (f : Notification → Notification) (hf : KeepsKeys f) :
    LeavesTasks (setById id f hf) := write_within fun _ => rfl

end NotificationRepository

namespace EmployeeRepository

/-- `DO UPDATE SET …`: what an entry of the directory overwrites in the row of its username. -/
def directoryColumns (excluded e : Employee) : Employee :=
  { e with
    fullName := excluded.fullName
    email := excluded.email
    phone := excluded.phone
    department := excluded.department
    isActive := excluded.isActive
    syncedAt := excluded.syncedAt
    updatedAt := excluded.updatedAt }

theorem directoryColumns_keeps (excluded : Employee) : KeepsKeys (directoryColumns excluded) :=
  fun _ _ => rfl

/-- The rows an entry of the directory overwrites: the one with its username, or for an entry
without username the first one with its full name and without username. -/
def directoryRow (db : Db) (employee : Employee) : Option (Stored Employee) :=
  match employee.telegramUsername with
  | some username => db.employees.find? fun r => r.val.telegramUsername = some username
  | none => db.employees.find? fun r =>
      r.val.fullName = employee.fullName ∧ r.val.telegramUsername = none

/-- One turn of the loop of `upsert_many`. -/
def upsertEmployee (db : Db) (employee : Employee) : Db :=
  match directoryRow db employee with
  | some row =>
      { db with
        employees := db.employees.modify (fun r => r.id = row.id) (directoryColumns employee)
          (directoryColumns_keeps employee) }
  | none => { db with employees := (db.employees.insertOrIgnore { employee with id := none }).1 }

/-- One transaction. -/
def upsertMany (employees : List Employee) : Proc Nat :=
  write .employeeUpsertMany fun db => (employees.length, employees.foldl upsertEmployee db)

theorem upsertMany_leavesTasks (employees : List Employee) : LeavesTasks (upsertMany employees) := by
  refine write_within fun db => ?_
  show (employees.foldl upsertEmployee db).tasks = db.tasks
  induction employees generalizing db with
  | nil => rfl
  | cons e employees ih =>
    have hone : (upsertEmployee db e).tasks = db.tasks := by
      unfold upsertEmployee
      split <;> rfl
    rw [List.foldl_cons, ih, hone]

/-- Active employees by name. -/
def listActive : Proc (List Employee) :=
  select .employeeListActive fun db =>
    .ok ((((db.employees.rows.filter fun r => r.val.isActive).map fun r =>
      { r.val with id := some r.id }).mergeSort fun a b => a.fullName ≤ b.fullName))

def findById (id : Int) : Proc (Option Employee) :=
  select (.employeeFindById id) fun db =>
    .ok ((db.employees.find? fun r => r.id = id).map fun r => { r.val with id := some r.id })

end EmployeeRepository

/-- The active directory, by name. -/
def Db.activeEmployees (db : Db) : List Employee :=
  ((db.employees.rows.filter fun r => r.val.isActive).map fun r =>
    { r.val with id := some r.id }).mergeSort fun a b => a.fullName ≤ b.fullName

theorem activeEmployees_congr {db db' : Db} (h : db'.employees = db.employees) :
    db'.activeEmployees = db.activeEmployees := by
  unfold Db.activeEmployees
  rw [h]

theorem run_listActive (db : Db) :
    EmployeeRepository.listActive.run noFaults db = (.ok db.activeEmployees, db) := run_select rfl db

/-- Nothing keeps an entry out of an append-only table. -/
theorem rows_insert_of_none {α : Type} [Keyed α] {t : Table α} {v : α}
    (h : ∀ a : α, Keyed.clash a v = false) :
    (t.insertOrIgnore v).1.rows = t.rows ++ [⟨t.nextId, v⟩] := by
  rcases Table.insertOrIgnore_cases t v with ⟨⟨r, -, hc⟩, -⟩ | ⟨-, h', -⟩
  · rw [h] at hc; cases hc
  · exact h'

@[simp] theorem rows_appendHistory (db : Db) (entry : AuditLogEntry) :
    (db.appendHistory entry).history.rows = db.history.rows ++ [⟨db.history.nextId, entry⟩] :=
  rows_insert_of_none fun _ => rfl

@[simp] theorem rows_appendComment (db : Db) (comment : TaskComment) :
    (db.appendComment comment).comments.rows = db.comments.rows ++ [⟨db.comments.nextId, comment⟩] :=
  rows_insert_of_none fun _ => rfl

/-- The columns of a notification. -/
def Db.notice (db : Db) (id : Int) : Option Notification :=
  (db.notifications.find? fun r => r.id = id).map Stored.val

/-- Some notification with this key is stored. -/
def Db.Notified (db : Db) (key : String) : Prop := ∃ r ∈ db.notifications.rows, r.val.dedupeKey = key

theorem notified_insert (db : Db) (n : Notification) : (db.insertNotification n).Notified n.dedupeKey := by
  obtain ⟨r, hr, h⟩ := Table.exists_after_insert db.notifications n
  refine ⟨r, hr, ?_⟩
  rcases h with h | h
  · simpa [Keyed.clash] using h
  · rw [h]

theorem notified_of_insert {db : Db} {key : String} (h : db.Notified key) (n : Notification) :
    (db.insertNotification n).Notified key := by
  obtain ⟨r, hr, hk⟩ := h
  exact ⟨r, Table.mem_insert_of_mem hr, hk⟩

/-- The notification stored under the key. -/
def Db.underKey (db : Db) (key : String) : Option Notification :=
  (db.notifications.find? fun r => r.val.dedupeKey = key).map Stored.val

theorem underKey_eq_some {db : Db} {key : String} {n : Notification} : db.underKey key = some n ↔
    ∃ r ∈ db.notifications.rows, r.val.dedupeKey = key ∧ r.val = n := by
  constructor
  · intro h
    obtain ⟨r, hr, rfl⟩ := Option.map_eq_some_iff.mp h
    exact ⟨r, (Table.find?_some hr).1, of_decide_eq_true (Table.find?_some hr).2, rfl⟩
  · rintro ⟨r, hr, hkey, rfl⟩
    have hsame : ∀ a b : Stored Notification, decide (a.val.dedupeKey = key) = true →
        decide (b.val.dedupeKey = key) = true → a.id = b.id ∨ Keyed.clash a.val b.val = true :=
      fun a b ha hb => .inr (decide_eq_true ((of_decide_eq_true ha).trans (of_decide_eq_true hb).symm))
    unfold Db.underKey
    rw [Table.find?_eq hr (decide_eq_true hkey) hsame, Option.map_some]

theorem underKey_eq_none {db : Db} {key : String} : db.underKey key = none ↔ ¬ db.Notified key := by
  unfold Db.underKey Db.Notified Table.find?
  rw [Option.map_eq_none_iff, List.find?_eq_none]
  simp

/-- An insert changes what stands under its own key, and only if nothing did. -/
theorem underKey_insert (db : Db) (n : Notification) (key : String) : (db.insertNotification n).underKey key =
    (db.underKey key).or (if n.dedupeKey = key then some n else none) := by
  cases hfound : db.notifications.find? fun r => r.val.dedupeKey = key with
  | some r =>
    have hstays : (db.insertNotification n).notifications.find? (fun r => r.val.dedupeKey = key) = some r :=
      Table.find?_insert hfound
    unfold Db.underKey
    rw [hstays, hfound]
    rfl
  | none =>
    have hnone : db.underKey key = none := Option.map_eq_none_iff.mpr hfound
    rw [hnone, Option.none_or]
    split
    · next hkey =>
      subst hkey
      have hnew : ∀ r ∈ db.notifications.rows, Keyed.clash r.val n = false := fun r hr =>
        decide_eq_false (of_decide_eq_false (Table.find?_none hfound r hr))
      exact congrArg (Option.map Stored.val) (Table.find?_insert_of_none hfound hnew (decide_eq_true rfl))
    · next hkey =>
      refine underKey_eq_none.mpr fun ⟨r, hr, hr'⟩ => ?_
      rcases Table.mem_insert hr with hr | ⟨rfl, -⟩
      · exact underKey_eq_none.mp hnone ⟨r, hr, hr'⟩
      · exact hkey hr'

/-- Of many inserts the first under a key counts. -/
theorem underKey_insertAll (ns : List Notification) (db : Db) (key : String) :
    (ns.foldl Db.insertNotification db).underKey key =
      (db.underKey key).or (ns.find? fun n => n.dedupeKey = key) := by
  induction ns generalizing db with
  | nil => exact (Option.or_none ..).symm
  | cons n ns ih =>
    rw [List.foldl_cons, ih, underKey_insert, Option.or_assoc, List.find?_cons]
    by_cases hkey : n.dedupeKey = key
    · simp [hkey]
    · simp [hkey]

theorem insertAll_rest (ns : List Notification) (db : Db) :
    ∃ t, ns.foldl Db.insertNotification db = { db with notifications := t } := by
  induction ns generalizing db with
  | nil => exact ⟨db.notifications, rfl⟩
  | cons n ns ih => exact ih (db.insertNotification n)

namespace NotificationRepository

/-- The round of a loop that has something to tell, or nothing. -/
def enqueueIfAny : Option Notification → Proc Unit
  | none => pure ()
  | some n => do
      let _ ← enqueue 0 n
      pure ()

theorem run_enqueueIfAny_ok {plan : Site → Fault AppError} {n : Option Notification} {db db' : Db}
    (h : (enqueueIfAny n).run plan db = (.ok (), db')) :
    db' = n.toList.foldl Db.insertNotification db := by
  cases n with
  | none =>
    cases h
    rfl
  | some n =>
    by_cases hlost : ∃ e, plan (.notificationInsert n.dedupeKey 0) = .before e
    · obtain ⟨e, he⟩ := hlost
      have hinsert : (write (.notificationInsert n.dedupeKey 0) fun db => ((), db.insertNotification n)).run
          plan db = (.error e, db) := run_write_before he db
      have hrun : (enqueue 0 n).run plan db = (.error e, db) := Prog.run_bind_error plan hinsert
      rw [enqueueIfAny, Prog.run_bind_error plan hrun] at h
      cases h
    · have hstore := store_enqueue (fun e he => hlost ⟨e, he⟩) db
      have hwhole := Prog.store_bind_reads plan hstore fun _ => Prog.Within.pure ()
      exact (congrArg Prod.snd h).symm.trans hwhole

/-- **A loop of such rounds that answers has stored everything it had to tell.** -/
theorem run_enqueueEach_ok {α : Type} {f : α → Proc Unit} {note : α → Option Notification}
    (hf : ∀ a, f a = enqueueIfAny (note a)) {plan : Site → Fault AppError} {l : List α} {db db' : Db}
    (h : (Prog.forEach f l).run plan db = (.ok (), db')) :
    db' = (l.filterMap note).foldl Db.insertNotification db := by
  have hfold : db' = l.foldl (fun db a => (note a).toList.foldl Db.insertNotification db) db :=
    Prog.run_forEach_ok plan (fun a s s' hr => run_enqueueIfAny_ok (by rw [← hf]; exact hr)) h
  rw [hfold]
  clear h hfold
  induction l generalizing db with
  | nil => rfl
  | cons a l ih =>
    rw [List.foldl_cons, ih, List.filterMap_cons]
    cases note a <;> rfl

theorem enqueueIfAny_leavesTasks (n : Option Notification) : LeavesTasks (enqueueIfAny n) := by
  cases n with
  | none => exact .pure ()
  | some n => exact .bind (enqueue_leavesTasks 0 n) fun _ => .pure ()

end NotificationRepository

/-- What has been inserted is found. -/
theorem answers_enqueue (slot : Nat) (n : Notification) (db : Db) :
    Prog.Answers noFaults (NotificationRepository.enqueue slot n) db := by
  have hinsert : (write (.notificationInsert n.dedupeKey slot) fun db => ((), db.insertNotification n)).run
      noFaults db = (.ok (), db.insertNotification n) := run_write rfl db
  refine .of_run hinsert (.of_run (run_select rfl _) ?_)
  obtain ⟨r, hr, hkey⟩ := notified_insert db n
  have hfound : ((db.insertNotification n).notifications.find? fun r =>
      r.val.dedupeKey = n.dedupeKey).isSome = true := by
    unfold Table.find?
    rw [List.find?_isSome]
    exact ⟨r, hr, decide_eq_true hkey⟩
  obtain ⟨found, hfound⟩ := Option.isSome_iff_exists.mp hfound
  refine .lift_bind (b := found) ?_ (.pure _ _)
  rw [hfound]
  rfl

/-- A loop of such rounds answers when no statement fails. -/
theorem answers_enqueueEach {α : Type} {f : α → Proc Unit} {note : α → Option Notification}
    (hf : ∀ a, f a = NotificationRepository.enqueueIfAny (note a)) (l : List α) (db : Db) :
    Prog.Answers noFaults (Prog.forEach f l) db := by
  induction l generalizing db with
  | nil => exact .pure _ _
  | cons a l ih =>
    refine .bind ?_ fun _ db' _ => ih db'
    rw [hf]
    cases note a with
    | none => exact .pure _ _
    | some n => exact .bind (answers_enqueue 0 n db) fun _ _ _ => .pure _ _

end TaskBot
