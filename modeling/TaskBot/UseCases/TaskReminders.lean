import TaskBot.Store.TaskRepository
import TaskBot.Store.RecordRepositories
import TaskBot.Domain.TaskText

/-!
# Deadline reminders

On the day before a deadline every run of the worker enqueues a reminder for the
assignee of each open task that is due.  The key of a reminder holds the uid of the task
and the deadline, not the recipient, and an insert under a stored key is ignored: once a
reminder is stored, a later run adds none, whoever has the task by then.

`replay` is a day of such runs, which may fail, and of other statements.

* `noticeUnder_run`: what any run does to the reminder of a task;
* `reach_iff`: when a run that answers leaves every assignee reminded;
* `reminders_reach_iff`: the same over the history of the day.
-/

namespace TaskBot

open Sql Calls TaskRepository

/-- The kind and the recipient of the notification stored under the key. -/
def Db.noticeUnder (db : Db) (key : String) : Option (NotificationType × Int) :=
  (db.underKey key).map fun n => (n.notificationType, n.recipientUserId)

/-- The user the stored task is assigned to. -/
def Db.assignee (db : Db) (uid : Uuid) : Option Int := (db.stored uid).bind (·.assignedToUserId)

namespace EnqueueTaskReminders

def reminderTaskFetchLimit : Nat := 200

def reminderKey (uid : Uuid) (deadline : NaiveDate) : String :=
  "deadline_reminder:" ++ uid.toText ++ ":" ++ isoDate deadline

def reminder (t : Task) (recipientUserId : Int) (tomorrow : NaiveDate) (now : Instant) : Notification :=
  Notification.pending t.id recipientUserId .deadlineReminder
    s!"Напоминание: задача «{t.title}» должна быть готова завтра." (reminderKey t.taskUid tomorrow) now

/-- One round of the loop: a task without an assigned user is skipped. -/
def remindAssignee (tomorrow : NaiveDate) (now : Instant) (t : Task) : Proc Unit :=
  match t.assignedToUserId with
  | none => pure ()
  | some recipientUserId => do
      let _ ← NotificationRepository.enqueue 0 (reminder t recipientUserId tomorrow now)
      pure ()

/-- The loop over the tasks; `clock k` is the time in its round `k`. -/
def remindAll (tomorrow : NaiveDate) (clock : Nat → Instant) (tasks : List Task) : Proc Unit :=
  Prog.forEach (fun p => remindAssignee tomorrow (clock p.2) p.1) tasks.zipIdx

def enqueueUpcomingDeadlines (today : NaiveDate) (clock : Nat → Instant) : Proc Unit := do
  let tasks ← getDueBetween (today + 1) (today + 1) reminderTaskFetchLimit
  remindAll (today + 1) clock tasks

/-! ## What a run is for -/

/-- The open tasks that are due on the day. -/
def dueTasks (day : NaiveDate) (db : Db) : List Task :=
  (db.tasks.rows.map toTask).filter fun t => decide (t.deadline = some day) && !t.status.isTerminal

/-- The notification reminds the user of the task's deadline. -/
structure IsReminder (t : Task) (deadline : NaiveDate) (userId : Int) (n : Notification) : Prop where
  kind : n.notificationType = .deadlineReminder
  recipient : n.recipientUserId = userId
  key : n.dedupeKey = reminderKey t.taskUid deadline

/-- Every assignee of an open task that is due has a reminder, and nobody has two. -/
structure RemindersReach (day : NaiveDate) (db : Db) : Prop where
  reached : ∀ t ∈ dueTasks day db, ∀ userId, t.assignedToUserId = some userId →
    ∃ n ∈ db.notifications.rows, IsReminder t day userId n.val
  once : ∀ (t : Task) (userId : Int), ∀ n ∈ db.notifications.rows, ∀ m ∈ db.notifications.rows,
    IsReminder t day userId n.val → IsReminder t day userId m.val → n = m

theorem reminderKey_inj {uid uid' : Uuid} {day day' : NaiveDate}
    (h : reminderKey uid day = reminderKey uid' day') : uid = uid' := by
  have htext : ∀ (uid : Uuid) (day : NaiveDate), (reminderKey uid day).toList =
      "deadline_reminder:".toList ++ (uid.hyphenated ++ (":".toList ++ (isoDate day).toList)) := by
    intro uid day
    unfold reminderKey Uuid.toText
    simp only [String.toList_append, String.toList_ofList, List.append_assoc]
  have hlist := congrArg String.toList h
  rw [htext, htext] at hlist
  exact Uuid.hyphenated_start_inj hlist

/-! ## The notification under a key -/

section

variable {db : Db} {key : String} {n : Notification}

theorem noticeUnder_eq_some {x : NotificationType × Int} : db.noticeUnder key = some x ↔
    ∃ r ∈ db.notifications.rows, r.val.dedupeKey = key ∧ r.val.notificationType = x.1 ∧
      r.val.recipientUserId = x.2 := by
  constructor
  · intro h
    obtain ⟨n, hn, rfl⟩ := Option.map_eq_some_iff.mp h
    obtain ⟨r, hr, hkey, rfl⟩ := underKey_eq_some.mp hn
    exact ⟨r, hr, hkey, rfl, rfl⟩
  · rintro ⟨r, hr, hkey, hkind, hrecipient⟩
    unfold Db.noticeUnder
    rw [underKey_eq_some.mpr ⟨r, hr, hkey, rfl⟩, Option.map_some, hkind, hrecipient]

/-- A stored notification stays. -/
theorem noticeUnder_insert_of_some {x : NotificationType × Int} (h : db.noticeUnder key = some x) :
    (db.insertNotification n).noticeUnder key = some x := by
  obtain ⟨m, hm, rfl⟩ := Option.map_eq_some_iff.mp h
  unfold Db.noticeUnder
  rw [underKey_insert, hm, Option.some_or, Option.map_some]

theorem noticeUnder_insert_of_ne (h : n.dedupeKey ≠ key) :
    (db.insertNotification n).noticeUnder key = db.noticeUnder key := by
  unfold Db.noticeUnder
  rw [underKey_insert, if_neg h, Option.or_none]

theorem noticeUnder_insert_of_none (h : db.noticeUnder n.dedupeKey = none) :
    (db.insertNotification n).noticeUnder n.dedupeKey = some (n.notificationType, n.recipientUserId) := by
  unfold Db.noticeUnder
  rw [underKey_insert, Option.map_eq_none_iff.mp h, if_pos rfl, Option.none_or, Option.map_some]

end

/-! ## One run -/

section

variable {tomorrow : NaiveDate} {clock : Nat → Instant} {tasks : List Task}

/-- A reminder that was not stored is stored at most for the assignee of a listed task;
what is stored stays. -/
def Reminding (tomorrow : NaiveDate) (tasks : List Task) (db db' : Db) : Prop :=
  ∀ uid, db'.noticeUnder (reminderKey uid tomorrow) = db.noticeUnder (reminderKey uid tomorrow) ∨
    (db.noticeUnder (reminderKey uid tomorrow) = none ∧
      ∃ t ∈ tasks, t.taskUid = uid ∧ ∃ userId, t.assignedToUserId = some userId ∧
        db'.noticeUnder (reminderKey uid tomorrow) = some (.deadlineReminder, userId))

theorem Reminding.refl (db : Db) : Reminding tomorrow tasks db db := fun _ => .inl rfl

theorem Reminding.trans {db db' db'' : Db} (h : Reminding tomorrow tasks db db')
    (h' : Reminding tomorrow tasks db' db'') : Reminding tomorrow tasks db db'' := by
  intro uid
  rcases h' uid with hsame' | ⟨hnone', t, ht, huid, userId, hassigned, hsome'⟩
  · rcases h uid with hsame | ⟨hnone, t, ht, huid, userId, hassigned, hsome⟩
    · exact .inl (hsame'.trans hsame)
    · exact .inr ⟨hnone, t, ht, huid, userId, hassigned, hsame'.trans hsome⟩
  · rcases h uid with hsame | ⟨-, t₀, -, -, userId₀, -, hsome⟩
    · exact .inr ⟨hsame ▸ hnone', t, ht, huid, userId, hassigned, hsome'⟩
    · rw [hsome] at hnone'
      cases hnone'

theorem reminding_insert {t : Task} (ht : t ∈ tasks) {userId : Int} (hu : t.assignedToUserId = some userId)
    (now : Instant) (db : Db) :
    Reminding tomorrow tasks db (db.insertNotification (reminder t userId tomorrow now)) := by
  intro uid
  by_cases huid : t.taskUid = uid
  · subst huid
    cases hx : db.noticeUnder (reminderKey t.taskUid tomorrow) with
    | some x => exact .inl (noticeUnder_insert_of_some hx)
    | none => exact .inr ⟨rfl, t, ht, rfl, userId, hu, noticeUnder_insert_of_none hx⟩
  · exact .inl (noticeUnder_insert_of_ne fun hkey => huid (reminderKey_inj hkey))

/-- The reminder for the assignee, if there is one. -/
def reminderOf (tomorrow : NaiveDate) (now : Instant) (t : Task) : Option Notification :=
  t.assignedToUserId.map fun recipientUserId => reminder t recipientUserId tomorrow now

theorem remindAssignee_eq (tomorrow : NaiveDate) (now : Instant) (t : Task) :
    remindAssignee tomorrow now t = NotificationRepository.enqueueIfAny (reminderOf tomorrow now t) := by
  unfold remindAssignee reminderOf
  cases t.assignedToUserId <;> rfl

theorem remindAssignee_within {t : Task} (ht : t ∈ tasks) (now : Instant) :
    (remindAssignee tomorrow now t).Within (Reminding tomorrow tasks) := by
  unfold remindAssignee
  cases hu : t.assignedToUserId with
  | none => exact .pure ()
  | some userId =>
    refine .bind ?_ fun _ => .pure ()
    unfold NotificationRepository.enqueue
    refine .bind (write_within fun db => reminding_insert ht hu now db) fun _ => ?_
    exact .bind ((select_reads _ _).of_reads Reminding.refl) fun _ => .bind (.lift _) fun _ => .pure _

end

section

variable {today : NaiveDate} {clock : Nat → Instant} {plan : Site → Fault AppError} {db : Db}

theorem mem_dueTasks {day : NaiveDate} {t : Task} : t ∈ dueTasks day db ↔
    ∃ r ∈ db.tasks.rows, toTask r = t ∧ t.deadline = some day ∧ t.status.isTerminal = false := by
  unfold dueTasks
  rw [List.mem_filter, List.mem_map, Bool.and_eq_true, decide_eq_true_iff, Bool.not_eq_true']
  exact ⟨fun ⟨⟨r, hr, he⟩, h⟩ => ⟨r, hr, he, h⟩, fun ⟨r, hr, he, h⟩ => ⟨⟨r, hr, he⟩, h⟩⟩

/-- The tasks due on the day, in the order of the statement. -/
theorem perm_dueTasks (day : NaiveDate) (db : Db) :
    (((db.tasks.rows.map toTask).filter (isDueBetween day day)).mergeSort byDeadline).Perm (dueTasks day db) := by
  refine (List.mergeSort_perm _ _).trans (List.Perm.of_eq ?_)
  unfold dueTasks
  refine List.filter_congr fun t _ => ?_
  unfold isDueBetween
  cases t.deadline with
  | none => rfl
  | some d =>
    rw [Option.any_some, isoDate_between]
    congr 1
    exact decide_eq_decide.mpr Option.some_inj.symm

/-- A stored task is the only one with its uid. -/
theorem assignee_of_mem {day : NaiveDate} {t : Task} (ht : t ∈ dueTasks day db) :
    db.assignee t.taskUid = t.assignedToUserId := by
  obtain ⟨r, hr, rfl, -⟩ := mem_dueTasks.mp ht
  unfold Db.assignee
  rw [toTask_taskUid, stored_of_mem hr]
  rfl

/-- The run of the statement and of the loop over what it answers. -/
theorem run_cases (today : NaiveDate) (clock : Nat → Instant) (plan : Site → Fault AppError) (db : Db) :
    (∃ e, (enqueueUpcomingDeadlines today clock).run plan db = (.error e, db)) ∨
    ∃ tasks, (∀ t ∈ tasks, t ∈ dueTasks (today + 1) db) ∧
      ((dueTasks (today + 1) db).length ≤ reminderTaskFetchLimit → ∀ t ∈ dueTasks (today + 1) db, t ∈ tasks) ∧
      (enqueueUpcomingDeadlines today clock).run plan db =
        (remindAll (today + 1) clock tasks).run plan db := by
  have hperm := perm_dueTasks (today + 1) db
  by_cases hsite : plan .taskListDueBetween = .none
  · refine .inr ⟨_, fun t ht => hperm.mem_iff.mp (List.mem_of_mem_take ht), fun hmany t ht => ?_,
      Prog.run_bind_ok plan (run_select hsite db)⟩
    rw [List.take_of_length_le (by rw [hperm.length_eq]; exact hmany)]
    exact hperm.mem_iff.mpr ht
  · obtain ⟨e, he⟩ := run_select_failed (fun db => .ok ((((db.tasks.rows.map toTask).filter
      (isDueBetween (today + 1) (today + 1))).mergeSort byDeadline).take reminderTaskFetchLimit)) hsite db
    exact .inl ⟨e, Prog.run_bind_error plan he⟩

/-- **What a run does to the reminder of a task**: nothing, or it stores the first one,
for the present assignee. -/
theorem noticeUnder_run (today : NaiveDate) (clock : Nat → Instant) (plan : Site → Fault AppError) (db : Db)
    (uid : Uuid) :
    ((enqueueUpcomingDeadlines today clock).run plan db).2.noticeUnder (reminderKey uid (today + 1)) =
        db.noticeUnder (reminderKey uid (today + 1)) ∨
      (db.noticeUnder (reminderKey uid (today + 1)) = none ∧ ∃ userId, db.assignee uid = some userId ∧
        ((enqueueUpcomingDeadlines today clock).run plan db).2.noticeUnder (reminderKey uid (today + 1)) =
          some (.deadlineReminder, userId)) := by
  rcases run_cases today clock plan db with
    ⟨e, hrun⟩ | ⟨tasks, hdue, -, hrun⟩
  · rw [hrun]
    exact .inl rfl
  · rw [hrun]
    have hwithin : (remindAll (today + 1) clock tasks).Within (Reminding (today + 1) tasks) :=
      .forEach fun p hp => remindAssignee_within (List.fst_mem_of_mem_zipIdx hp) _
    rcases Prog.run_within plan Reminding.refl (fun _ _ _ => Reminding.trans) hwithin db uid with
      hsame | ⟨hnone, t, ht, huid, userId, hassigned, hsome⟩
    · exact .inl hsame
    · refine .inr ⟨hnone, userId, ?_, hsome⟩
      rw [← huid, assignee_of_mem (hdue t ht), hassigned]

/-- After a run that answers every assignee of a task that is due has some notification
under its key. -/
theorem noticeUnder_run_ok (hok : ((enqueueUpcomingDeadlines today clock).run plan db).1 = .ok ())
    (hmany : (dueTasks (today + 1) db).length ≤ reminderTaskFetchLimit) {t : Task}
    (ht : t ∈ dueTasks (today + 1) db) {userId : Int} (hu : t.assignedToUserId = some userId) :
    ((enqueueUpcomingDeadlines today clock).run plan db).2.noticeUnder
      (reminderKey t.taskUid (today + 1)) ≠ none := by
  rcases run_cases today clock plan db with
    ⟨e, hrun⟩ | ⟨tasks, -, hall, hrun⟩
  · rw [hrun] at hok
    cases hok
  · rw [hrun] at hok ⊢
    have hstored : ((remindAll (today + 1) clock tasks).run plan db).2 =
        (tasks.zipIdx.filterMap fun p => reminderOf (today + 1) (clock p.2) p.1).foldl
          Db.insertNotification db :=
      NotificationRepository.run_enqueueEach_ok (fun p => remindAssignee_eq _ _ _) (Prod.ext hok rfl)
    obtain ⟨k, hk⟩ := List.mem_iff_getElem?.mp (hall hmany t ht)
    have hmem : reminder t userId (today + 1) (clock k) ∈
        tasks.zipIdx.filterMap fun p => reminderOf (today + 1) (clock p.2) p.1 := by
      refine List.mem_filterMap.mpr ⟨(t, k), List.mk_mem_zipIdx_iff_getElem?.mpr hk, ?_⟩
      unfold reminderOf
      rw [hu, Option.map_some]
    unfold Db.noticeUnder
    rw [hstored, underKey_insertAll]
    intro hnone
    have hnotFound := (Option.or_eq_none_iff.mp (Option.map_eq_none_iff.mp hnone)).2
    exact List.find?_eq_none.mp hnotFound _ hmem (decide_eq_true rfl)

end

/-! ## Whom the reminders reach -/

theorem exists_isReminder_iff {t : Task} {day : NaiveDate} {userId : Int} {db : Db} :
    (∃ n ∈ db.notifications.rows, IsReminder t day userId n.val) ↔
      db.noticeUnder (reminderKey t.taskUid day) = some (.deadlineReminder, userId) := by
  rw [noticeUnder_eq_some]
  exact ⟨fun ⟨n, hn, h⟩ => ⟨n, hn, h.key, h.kind, h.recipient⟩,
    fun ⟨n, hn, hkey, hkind, hrecipient⟩ => ⟨n, hn, hkind, hrecipient, hkey⟩⟩

/-- Nobody can have two: the key is unique. -/
theorem reach_of_reached {day : NaiveDate} {db : Db}
    (h : ∀ t ∈ dueTasks day db, ∀ userId, t.assignedToUserId = some userId →
      db.noticeUnder (reminderKey t.taskUid day) = some (.deadlineReminder, userId)) :
    RemindersReach day db where
  reached t ht userId hu := exists_isReminder_iff.mpr (h t ht userId hu)
  once _ _ _ hn _ hm hn' hm' :=
    Table.eq_of_not_apart hn hm (.inr (decide_eq_true (hn'.key.trans hm'.key.symm)))

theorem run_leavesTasks (today : NaiveDate) (clock : Nat → Instant) :
    LeavesTasks (enqueueUpcomingDeadlines today clock) :=
  .bind (LeavesTasks.of_reads (select_reads _ _)) fun _ =>
    .forEach fun _ _ => by
      rw [remindAssignee_eq]
      exact NotificationRepository.enqueueIfAny_leavesTasks _

theorem dueTasks_congr {day : NaiveDate} {db db' : Db} (h : db'.tasks = db.tasks) :
    dueTasks day db' = dueTasks day db := by
  unfold dueTasks
  rw [h]

section

variable {today : NaiveDate} {clock : Nat → Instant} {plan : Site → Fault AppError} {db : Db}

/-- **When a run that answers leaves every assignee reminded**: nobody else, and nothing
else, stands under the key of a task that is due. -/
theorem reach_iff (hok : ((enqueueUpcomingDeadlines today clock).run plan db).1 = .ok ())
    (hmany : (dueTasks (today + 1) db).length ≤ reminderTaskFetchLimit) :
    RemindersReach (today + 1) ((enqueueUpcomingDeadlines today clock).run plan db).2 ↔
      ∀ t ∈ dueTasks (today + 1) db, ∀ userId, t.assignedToUserId = some userId →
        ∀ x, db.noticeUnder (reminderKey t.taskUid (today + 1)) = some x → x = (.deadlineReminder, userId) := by
  have hdue : dueTasks (today + 1) ((enqueueUpcomingDeadlines today clock).run plan db).2 =
      dueTasks (today + 1) db := dueTasks_congr ((run_leavesTasks today clock).run plan db)
  constructor
  · intro h t ht userId hu x hx
    have hreached := exists_isReminder_iff.mp (h.reached t (hdue ▸ ht) userId hu)
    rcases noticeUnder_run today clock plan db t.taskUid with
      hsame | ⟨hnone, -⟩
    · rw [hsame, hx] at hreached
      exact Option.some.inj hreached
    · rw [hx] at hnone
      cases hnone
  · intro h
    refine reach_of_reached fun t ht userId hu => ?_
    rw [hdue] at ht
    rcases noticeUnder_run today clock plan db t.taskUid with
      hsame | ⟨-, v, hv, hsome⟩
    · have hsome := noticeUnder_run_ok hok hmany ht hu
      cases hx : db.noticeUnder (reminderKey t.taskUid (today + 1)) with
      | none => exact absurd (hsame.trans hx) hsome
      | some x => rw [hsame, hx, h t ht userId hu x hx]
    · rw [assignee_of_mem ht, hu] at hv
      rw [hsome, Option.some.inj hv]

end

/-! ## The history of the day -/

/-- Another statement: it leaves the reminders for the day as they are. -/
structure OtherStep (day : NaiveDate) where
  act : Db → Db
  keeps : ∀ uid db, (act db).noticeUnder (reminderKey uid day) = db.noticeUnder (reminderKey uid day)

namespace OtherStep

variable {day : NaiveDate}

/-- A statement on other tables: a reassignment, a registration. -/
def elsewhere (act : Db → Db) (h : ∀ db, (act db).notifications = db.notifications) : OtherStep day where
  act
  keeps uid db := by
    unfold Db.noticeUnder Db.underKey
    rw [h]

/-- A notification under another key. -/
def enqueued (n : Notification) (h : ∀ uid, n.dedupeKey ≠ reminderKey uid day) : OtherStep day where
  act db := db.insertNotification n
  keeps uid _ := noticeUnder_insert_of_ne (h uid)

/-- A delivery: an update of other columns. -/
def delivered (q : Stored Notification → Bool) (f : Notification → Notification) (hf : KeepsKeys f)
    (hkey : ∀ n, (f n).dedupeKey = n.dedupeKey) (hkind : ∀ n, (f n).notificationType = n.notificationType)
    (hrecipient : ∀ n, (f n).recipientUserId = n.recipientUserId) : OtherStep day where
  act db := { db with notifications := db.notifications.modify q f hf }
  keeps uid db := by
    have hset : ∀ r : Stored Notification, ((setWhere q f r).val.notificationType,
        (setWhere q f r).val.recipientUserId) = (r.val.notificationType, r.val.recipientUserId) := by
      intro r
      unfold setWhere
      split
      · rw [hkind, hrecipient]
      · rfl
    unfold Db.noticeUnder Db.underKey
    rw [Table.find?_modify fun r => by rw [hkey], Option.map_map, Option.map_map, Option.map_map]
    exact congrFun (congrArg Option.map (funext hset)) _

end OtherStep

/-- What happens on a day: a run of the worker, which may fail, or another statement. -/
inductive DayEvent (day : NaiveDate) where
  | run (clock : Nat → Instant) (plan : Site → Fault AppError)
  | other (step : OtherStep day)

def DayEvent.exec (today : NaiveDate) : DayEvent (today + 1) → Db → Db
  | .run clock plan, db => ((enqueueUpcomingDeadlines today clock).run plan db).2
  | .other step, db => step.act db

/-- The database after the events, the first one first. -/
def replay (today : NaiveDate) (history : List (DayEvent (today + 1))) (db : Db) : Db :=
  history.foldl (fun db e => e.exec today db) db

/-- The event stores the reminder of the task. -/
def Reminds (today : NaiveDate) (uid : Uuid) (e : DayEvent (today + 1)) (db : Db) : Prop :=
  db.noticeUnder (reminderKey uid (today + 1)) = none ∧
    (e.exec today db).noticeUnder (reminderKey uid (today + 1)) ≠ none

/-- The task was the user's when its reminder was stored. -/
structure RemindedAs (today : NaiveDate) (uid : Uuid) (userId : Int)
    (history : List (DayEvent (today + 1))) (db : Db) : Prop where
  before : ∀ x, db.noticeUnder (reminderKey uid (today + 1)) = some x → x = (.deadlineReminder, userId)
  during : ∀ earlier e later, history = earlier ++ e :: later →
    Reminds today uid e (replay today earlier db) → (replay today earlier db).assignee uid = some userId

section

variable {today : NaiveDate} {uid : Uuid} {userId : Int}

theorem noticeUnder_exec (e : DayEvent (today + 1)) (db : Db) :
    (e.exec today db).noticeUnder (reminderKey uid (today + 1)) = db.noticeUnder (reminderKey uid (today + 1)) ∨
      (db.noticeUnder (reminderKey uid (today + 1)) = none ∧ ∃ userId, db.assignee uid = some userId ∧
        (e.exec today db).noticeUnder (reminderKey uid (today + 1)) = some (.deadlineReminder, userId)) := by
  cases e with
  | run clock plan => exact noticeUnder_run today clock plan db uid
  | other step => exact .inl (step.keeps uid db)

/-- A stored reminder stays for the rest of the day. -/
theorem noticeUnder_replay {x : NotificationType × Int} :
    ∀ (history : List (DayEvent (today + 1))) (db : Db),
      db.noticeUnder (reminderKey uid (today + 1)) = some x →
        (replay today history db).noticeUnder (reminderKey uid (today + 1)) = some x := by
  intro history
  induction history with
  | nil => exact fun _ h => h
  | cons e history ih =>
    intro db h
    refine ih _ ?_
    rcases noticeUnder_exec e db with hsame | ⟨hnone, -⟩
    · exact hsame.trans h
    · rw [h] at hnone
      cases hnone

theorem remindedAs_cons {e : DayEvent (today + 1)} {history : List (DayEvent (today + 1))} {db : Db} :
    RemindedAs today uid userId (e :: history) db ↔
      (∀ x, db.noticeUnder (reminderKey uid (today + 1)) = some x → x = (.deadlineReminder, userId)) ∧
        (Reminds today uid e db → db.assignee uid = some userId) ∧
        RemindedAs today uid userId history (e.exec today db) := by
  constructor
  · intro h
    have hfirst : Reminds today uid e db → db.assignee uid = some userId := h.during [] e history rfl
    refine ⟨h.before, hfirst, fun x hx => ?_, fun earlier e' later hl hr => ?_⟩
    · rcases noticeUnder_exec e db with hsame | ⟨hnone, v, hv, hsome⟩
      · exact h.before x (hsame ▸ hx)
      · have hreminds : Reminds today uid e db := ⟨hnone, by rw [hsome]; exact Option.some_ne_none _⟩
        rw [hfirst hreminds] at hv
        rw [hsome] at hx
        rw [← Option.some.inj hx, Option.some.inj hv]
    · exact h.during (e :: earlier) e' later (congrArg (e :: ·) hl) hr
  · rintro ⟨hbefore, hfirst, hrest⟩
    refine ⟨hbefore, fun earlier e' later hl hr => ?_⟩
    cases earlier with
    | nil =>
      obtain ⟨rfl, -⟩ := List.cons.inj hl
      exact hfirst hr
    | cons e₀ earlier =>
      obtain ⟨rfl, htail⟩ := List.cons.inj hl
      exact hrest.during earlier e' later htail hr

/-- What stands under the key at the end of a history is the user's exactly if the task
was the user's when it was stored. -/
theorem remindedAs_iff : ∀ (history : List (DayEvent (today + 1))) (db : Db),
    RemindedAs today uid userId history db ↔
      ∀ x, (replay today history db).noticeUnder (reminderKey uid (today + 1)) = some x →
        x = (.deadlineReminder, userId) := by
  intro history
  induction history with
  | nil =>
    exact fun db => ⟨fun h => h.before, fun h => ⟨h, fun earlier e later hl => by simp at hl⟩⟩
  | cons e history ih =>
    intro db
    rw [remindedAs_cons, ih]
    refine ⟨fun h => h.2.2, fun h => ⟨fun x hx => h x (noticeUnder_replay (e :: history) db hx), ?_, h⟩⟩
    intro hreminds
    rcases noticeUnder_exec e db with hsame | ⟨-, v, hv, hsome⟩
    · exact absurd (hsame.trans hreminds.1) hreminds.2
    · obtain ⟨-, rfl⟩ := Prod.mk.inj (h _ (noticeUnder_replay history _ hsome))
      exact hv

end

/-- **Reminders after any history of the day**: a run that answers leaves the assignee of
every open task that is due tomorrow with one reminder, exactly if each of these tasks was
its present assignee's already when its reminder was stored. -/
theorem reminders_reach_iff (today : NaiveDate) (db₀ : Db) (history : List (DayEvent (today + 1)))
    (clock : Nat → Instant) (plan : Site → Fault AppError)
    (hok : ((enqueueUpcomingDeadlines today clock).run plan (replay today history db₀)).1 = .ok ())
    (hmany : (dueTasks (today + 1) (replay today history db₀)).length ≤ reminderTaskFetchLimit) :
    RemindersReach (today + 1)
        ((enqueueUpcomingDeadlines today clock).run plan (replay today history db₀)).2 ↔
      ∀ t ∈ dueTasks (today + 1) (replay today history db₀), ∀ userId, t.assignedToUserId = some userId →
        RemindedAs today t.taskUid userId history db₀ := by
  rw [reach_iff hok hmany]
  refine forall₂_congr fun t _ => forall₂_congr fun userId _ => ?_
  exact (remindedAs_iff history db₀).symm

/-! ## A task that is handed over after the first run -/

def dueTask : Task := { sampleTask with deadline := some 101 }

def handedOverTask : Task := { dueTask with assignedToUserId := some 3, version := 1 }

def dueDb : Db := Db.withTask dueTask

/-- The first run of day 100. -/
def firstRun : DayEvent (100 + 1) := .run (fun _ => 0) noFaults

/-- User 3 gets the task. -/
def handover : DayEvent (100 + 1) := .other (.elsewhere (updated handedOverTask) fun _ => rfl)

/-- A run in which no statement fails answers. -/
theorem run_answers (today : NaiveDate) (clock : Nat → Instant) (db : Db) :
    ((enqueueUpcomingDeadlines today clock).run noFaults db).1 = .ok () := by
  have hwhole : Prog.Answers noFaults (enqueueUpcomingDeadlines today clock) db :=
    .of_run (run_select rfl db) (answers_enqueueEach (fun _ => remindAssignee_eq _ _ _) _ db)
  obtain ⟨_, db', hrun⟩ := hwhole
  rw [hrun]

theorem firstRun_due : dueTasks (100 + 1) (replay 100 [firstRun] dueDb) = [dueTask] := by
  have htasks : (replay 100 [firstRun] dueDb).tasks = dueDb.tasks := (run_leavesTasks _ _).run _ _
  exact (dueTasks_congr htasks).trans (by decide)

theorem handover_due : dueTasks (100 + 1) (replay 100 [firstRun, handover] dueDb) = [handedOverTask] := by
  have htasks : (firstRun.exec 100 dueDb).tasks = dueDb.tasks := (run_leavesTasks _ _).run _ _
  have hupdated : (replay 100 [firstRun, handover] dueDb).tasks = (updated handedOverTask dueDb).tasks :=
    congrArg (fun t : Table TaskColumns =>
      t.modify (isPrevious handedOverTask) (updateColumns handedOverTask) (updateColumns_keeps handedOverTask)) htasks
  exact (dueTasks_congr hupdated).trans (by decide)

theorem firstRun_reminds : (firstRun.exec 100 dueDb).noticeUnder (reminderKey dueTask.taskUid (100 + 1)) =
    some (.deadlineReminder, 2) := by
  have hdue : dueTasks (100 + 1) dueDb = [dueTask] := by decide
  have hstored := noticeUnder_run_ok (run_answers 100 (fun _ => 0) dueDb) (by rw [hdue]; decide)
    (by rw [hdue]; exact List.mem_cons_self) (rfl : dueTask.assignedToUserId = some 2)
  rcases @noticeUnder_exec 100 dueTask.taskUid firstRun dueDb with hsame | ⟨-, userId, hu, hsome⟩
  · exact absurd hsame hstored
  · cases hu
    exact hsome

/-- A second run of the day finds the reminder of the first. -/
theorem reminders_reach_twice : RemindersReach (100 + 1)
    ((enqueueUpcomingDeadlines 100 fun _ => 5).run noFaults (replay 100 [firstRun] dueDb)).2 := by
  refine (reminders_reach_iff 100 dueDb [firstRun] (fun _ => 5) noFaults (run_answers _ _ _) ?_).mpr ?_
  · rw [firstRun_due]
    decide
  · rw [firstRun_due]
    intro t ht userId hu
    rw [List.mem_singleton.mp ht] at hu ⊢
    cases hu
    refine (remindedAs_iff [firstRun] dueDb).mpr fun x hx => ?_
    exact Option.some.inj (hx.symm.trans firstRun_reminds)

/-- The reminder of the first run is the handed over task's last. -/
theorem handed_over_unreminded :
    ¬ ∀ (today : NaiveDate) (db₀ : Db) (history : List (DayEvent (today + 1))) (clock : Nat → Instant)
        (plan : Site → Fault AppError),
      ((enqueueUpcomingDeadlines today clock).run plan (replay today history db₀)).1 = .ok () →
      (dueTasks (today + 1) (replay today history db₀)).length ≤ reminderTaskFetchLimit →
        RemindersReach (today + 1)
          ((enqueueUpcomingDeadlines today clock).run plan (replay today history db₀)).2 := by
  intro hclaim
  have hmany : (dueTasks (100 + 1) (replay 100 [firstRun, handover] dueDb)).length ≤ reminderTaskFetchLimit := by
    rw [handover_due]
    decide
  have hok := run_answers 100 (fun _ => 5) (replay 100 [firstRun, handover] dueDb)
  have hreach := (reach_iff hok hmany).mp (hclaim 100 dueDb [firstRun, handover] _ _ hok hmany)
    handedOverTask (by rw [handover_due]; exact List.mem_cons_self) 3 rfl
  have hstays := noticeUnder_replay [handover] _ firstRun_reminds
  exact absurd (hreach _ hstays) (by decide)

end EnqueueTaskReminders

end TaskBot
