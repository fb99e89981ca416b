import TaskBot.UseCases.Delivery

/-!
# The delivery budget of a notification

A notification is enqueued, delivered by ticks and, when it has failed, queued
again.  The deliveries of one tick run at the same time; each of them writes its
own row once.

* `RowStep`: what a step of the queue does to one row, and `step_row`: every step
  of the code is one;
* `window`: the events of a row since it was last queued;
* `QueueRun.sentOnce`, `QueueRun.budgeted`, `settled_row`: the three parts of `DeliveryBudget`;
* `delivery_budget`: they hold in every run that queues no row again that counts
  attempts already.
-/

namespace TaskBot

open Sql Calls ProcessNotifications

/-! ## Outcomes of a delivery -/

/-- A delivery ends before the messenger is asked, or with its answer. -/
inductive DeliveryOutcome where
  | unreachable (code : String)
  | attempted (answer : AppResult Int)
deriving DecidableEq, Repr

/-- What becomes of a notification whose messenger would give `answer`. -/
def outcomeOf (users : Table UserColumns) (answer : AppResult Int) (n : Notification) : DeliveryOutcome :=
  match users.find? fun r => r.id = n.recipientUserId with
  | none => .unreachable recipientMissingError
  | some r => if r.val.user.lastChatId.isNone then .unreachable chatIdMissingError else .attempted answer

/-- The columns of the row after the delivery. -/
def DeliveryOutcome.columns (clock : Nat → Instant) (n : Notification) : DeliveryOutcome → Notification
  | .unreachable code => NotificationRepository.attemptColumns .failed none code n
  | .attempted (.ok messageId) => NotificationRepository.sentColumns messageId (clock 0) n
  | .attempted (.error error) =>
      if error.code ∈ permanentDeliveryErrorCodes then
        NotificationRepository.attemptColumns .failed none error.code n
      else if n.attemptCount + 1 ≥ maxNotificationRetryAttempts then
        NotificationRepository.attemptColumns .failed none telegramSendFailedError n
      else
        NotificationRepository.attemptColumns .retryPending
          (some (clock 0 + retryDelaySeconds (n.attemptCount + 1) * 1000000000)) telegramSendFailedError n

def DeliveryOutcome.isSuccess : DeliveryOutcome → Bool
  | .attempted (.ok _) => true
  | _ => false

/-- The messenger failed, and may do better next time. -/
def DeliveryOutcome.isTransient : DeliveryOutcome → Bool
  | .attempted (.error error) => error.code ∉ permanentDeliveryErrorCodes
  | _ => false

/-! ## Steps of the queue -/

/-- One tick: the time of its listing, and for each notification the readings of the clock
and the answer of the messenger. -/
structure DeliveryTick where
  now : Instant
  clock : Int → Nat → Instant
  send : Int → AppResult Int

def DeliveryTick.batch (t : DeliveryTick) (db : Db) : List Notification :=
  NotificationRepository.pendingAt pendingNotificationBatchSize t.now db

/-- The deliveries of a batch, each under the id of its row. -/
def DeliveryTick.deliveries (t : DeliveryTick) (batch : List Notification) : List (Int × Proc Unit) :=
  batch.map fun n => (n.id.getD 0, deliverSingle (t.clock (n.id.getD 0)) (t.send (n.id.getD 0)) n)

/-- The tick lists its batch and delivers it, the statements of the deliveries in any order,
none of them failing. -/
def DeliveryTick.Runs (t : DeliveryTick) (db db' : Db) : Prop :=
  ∃ batch, (NotificationRepository.listPending pendingNotificationBatchSize t.now).run noFaults db =
      (.ok batch, db) ∧
    ∃ sched : List Nat,
      let pool : Pool Site Db AppError Int Unit := ⟨db, t.deliveries batch⟩
      (pool.exec (sched.map fun i => (i, .none))).Ended ∧
        (pool.exec (sched.map fun i => (i, .none))).store = db'

inductive QueueOp where
  | enqueue (n : Notification)
  | requeue (id : Int)
  | tick (t : DeliveryTick)
  /-- Statements on other tables. -/
  | elsewhere

/-- The notification is as the use cases write it: pending, never attempted. -/
def Notification.IsNew (n : Notification) : Prop :=
  ∃ taskId recipient kind message key now, n = .pending taskId recipient kind message key now

inductive QueueStep : Db → QueueOp → Db → Prop where
  | enqueue {db : Db} {n : Notification} (slot : Nat) (hnew : n.IsNew) :
      QueueStep db (.enqueue n) ((NotificationRepository.enqueue slot n).run noFaults db).2
  | requeue {db : Db} (id : Int) :
      QueueStep db (.requeue id) ((NotificationRepository.requeue id).run noFaults db).2
  | tick {db db' : Db} {t : DeliveryTick} (h : t.Runs db db') : QueueStep db (.tick t) db'
  | elsewhere {db db' : Db} (h : db'.notifications = db.notifications) : QueueStep db .elsewhere db'

/-! ## Events of one row -/

inductive RowEvent where
  | enqueued
  | requeued
  | delivered (outcome : DeliveryOutcome)
deriving DecidableEq, Repr

def RowEvent.isQueueing : RowEvent → Bool
  | .enqueued | .requeued => true
  | .delivered _ => false

def RowEvent.isSuccess : RowEvent → Bool
  | .delivered o => o.isSuccess
  | _ => false

def RowEvent.isTransient : RowEvent → Bool
  | .delivered o => o.isTransient
  | _ => false

/-- What the step does to the row. -/
def rowEvent (id : Int) (db : Db) : QueueOp → Option RowEvent
  | .enqueue n =>
      if (db.notifications.insertOrIgnore n).2 ∧ id = db.notifications.nextId then some .enqueued else none
  | .requeue id' => if id' = id ∧ (db.notice id).isSome then some .requeued else none
  | .tick t =>
      match (t.batch db).find? fun n => n.id = some id with
      | some n => some (.delivered (outcomeOf db.users (t.send id) n))
      | none => none
  | .elsewhere => none

/-- A run of the queue in which every step meets `ok`, with the events of one row, the latest
first.  The row is not there at the start. -/
inductive QueueRun (ok : Db → QueueOp → Prop) (id : Int) : Db → List RowEvent → Prop where
  | start {db : Db} (h : db.notice id = none) : QueueRun ok id db []
  | step {db db' : Db} {events : List RowEvent} {op : QueueOp} (h : QueueRun ok id db events)
      (hok : ok db op) (hstep : QueueStep db op db') :
      QueueRun ok id db' ((rowEvent id db op).toList ++ events)

/-- The row is given up. -/
def Db.HasFailed (db : Db) (id : Int) : Prop :=
  ∃ n, db.notice id = some n ∧ n.deliveryState = .failed

/-- The delivery budget of a row, after a run with these events. -/
structure DeliveryBudget (id : Int) (db : Db) (events : List RowEvent) : Prop where
  /-- The row is sent at most once between two of its queueings. -/
  once : ∀ w, w <:+: events → (∀ e ∈ w, e.isQueueing = false) → w.countP RowEvent.isSuccess ≤ 1
  /-- On transient errors alone, a queued row is given up with its third attempt, not before
  and not later. -/
  budget : ∀ w q earlier, events = w ++ q :: earlier → q.isQueueing = true →
    (∀ e ∈ w, e.isTransient = true) →
    (w.length : Int) ≤ maxNotificationRetryAttempts ∧
      (db.HasFailed id ↔ (w.length : Int) = maxNotificationRetryAttempts)
  /-- A row that is sent or given up changes only when it is queued again. -/
  settled : ∀ db' op n, QueueStep db op db' → db.notice id = some n →
    n.deliveryState = .sent ∨ n.deliveryState = .failed → op ≠ .requeue id → db'.notice id = some n

/-- The step queues no row again that counts attempts already. -/
def RequeuesUnattempted (db : Db) (op : QueueOp) : Prop :=
  ∀ id n, op = .requeue id → db.notice id = some n → n.attemptCount = 0

/-! ## Lookups by id -/

section

variable {db db' : Db} {id : Int} {n : Notification}

theorem notice_of_mem {r : Stored Notification} (hr : r ∈ db.notifications.rows) :
    db.notice r.id = some r.val := by
  unfold Db.notice
  rw [Table.find?_eq hr (by simp)]
  · rfl
  · intro a b ha hb
    rw [decide_eq_true_eq] at ha hb
    exact .inl (ha.trans hb.symm)

theorem mem_of_notice (h : db.notice id = some n) : (⟨id, n⟩ : Stored Notification) ∈ db.notifications.rows := by
  obtain ⟨r, hr, rfl⟩ := Option.map_eq_some_iff.mp h
  obtain ⟨hmem, hid⟩ := Table.find?_some hr
  rw [decide_eq_true_eq] at hid
  rw [← hid]
  exact hmem

theorem notice_congr (h : db'.notifications = db.notifications) (id : Int) : db'.notice id = db.notice id := by
  unfold Db.notice
  rw [h]

/-- An update by id rewrites the columns of its row and no other. -/
theorem notice_modify (db : Db) (id' : Int) (f : Notification → Notification) (hf : KeepsKeys f)
    (id : Int) : ({ db with
        notifications := db.notifications.modify (fun r => r.id = id') f hf } : Db).notice id =
      if id = id' then (db.notice id).map f else db.notice id := by
  unfold Db.notice
  rw [Table.find?_modify (fun _ => rfl), Option.map_map]
  cases hfound : db.notifications.find? fun r => r.id = id with
  | none => simp
  | some r =>
    have hid := (Table.find?_some hfound).2
    rw [decide_eq_true_eq] at hid
    by_cases hsame : id = id'
    · subst hsame
      simp [setWhere, hid]
    · simp [setWhere, hid, hsame]

/-- An insert adds a row under the next id, or nothing. -/
theorem notice_insert (db : Db) (n : Notification) (id : Int) :
    (db.insertNotification n).notice id =
      if (db.notifications.insertOrIgnore n).2 ∧ id = db.notifications.nextId then some n
      else db.notice id := by
  rcases Table.insertOrIgnore_cases db.notifications n with ⟨-, he⟩ | ⟨-, hrows, -, hnew⟩
  · simp [Db.notice, Db.insertNotification, he]
  · unfold Db.notice Db.insertNotification Table.find?
    rw [hrows, hnew, List.find?_append]
    by_cases hid : id = db.notifications.nextId
    · have hnone : db.notifications.rows.find? (fun r => r.id = id) = none := by
        refine List.find?_eq_none.mpr fun r hr => ?_
        have hlt := db.notifications.fresh r hr
        rw [decide_eq_true_eq]
        omega
      rw [hnone]
      simp [hid]
    · simp [hid, Ne.symm hid]

end

/-! ## A delivery writes its row once -/

/-- The statement leaves the queue and the users alone. -/
def LeavesQueue (db db' : Db) : Prop := db'.notifications = db.notifications ∧ db'.users = db.users

theorem LeavesQueue.refl (db : Db) : LeavesQueue db db := ⟨rfl, rfl⟩

theorem LeavesQueue.of_eq {db db' : Db} (h : db = db') : LeavesQueue db db' := h ▸ refl db

theorem markRelatedTaskAsSent_leavesQueue (kind : NotificationType) (task : Option Task) (now : Instant) :
    (markRelatedTaskAsSent kind task now).Within LeavesQueue := by
  unfold markRelatedTaskAsSent
  split
  · exact .pure _
  · split
    · have hupdate : ∀ task, (TaskRepository.update task).Within LeavesQueue := fun task =>
        .perform fun db => by
          unfold TaskRepository.updateTask
          split
          · exact .refl db
          · exact ⟨rfl, rfl⟩
      refine .bind (.lift _) fun updatedTask => .bind (hupdate _).attempt fun stored => ?_
      split
      · unfold logSent
        split
        · exact .pure _
        · exact .bind (write_within fun _ => ⟨rfl, rfl⟩) fun _ => .pure _
      · split
        · exact .pure _
        · exact .fail _
    · exact .pure _

/-- The view of the queue: one cell for each id. -/
def rowView (id : Int) (db : Db) : Option Notification := db.notice id

def UsersAre (users : Table UserColumns) (db : Db) : Prop := db.users = users

theorem keepsCells_of_leaves {users : Table UserColumns} {db db' : Db} (h : LeavesQueue db db') :
    Pool.KeepsCells rowView (UsersAre users) db db' :=
  ⟨fun id => notice_congr h.1 id, fun hu => h.2.trans hu⟩

section

variable {users : Table UserColumns} {v v' : Int → Option Notification} {id : Int}

/-- An update of the row by id sets its cell. -/
theorem setById_once {f : Notification → Notification} {hf : KeepsKeys f} (h : v' id = (v id).map f) :
    (NotificationRepository.setById id f hf).Once (UsersAre users)
      (Pool.KeepsCells rowView (UsersAre users)) (Pool.SetsCell rowView (UsersAre users) v v' id) := by
  refine .perform fun db _ => ⟨fun hv => ?_, fun id' hne => ?_, fun hu => hu⟩
  · have hset := notice_modify db id f hf id
    rw [if_pos rfl] at hset
    rw [h, ← hv]
    exact hset
  · have hset := notice_modify db id f hf id'
    rw [if_neg hne] at hset
    exact hset

/-- The messenger was asked: its answer is written, and then at most the task. -/
theorem afterSend_once (clock : Nat → Instant) (send : AppResult Int) (n : Notification)
    (task : Option Task) :
    (v' id = (v id).map fun m => (DeliveryOutcome.attempted send).columns clock m) →
    (∀ m, v id = some m → m.attemptCount = n.attemptCount) →
    (match send with
      | .ok messageId => do
          NotificationRepository.markSent id messageId (clock 0)
          markRelatedTaskAsSent n.notificationType task (clock 1)
      | .error error =>
          if error.code ∈ permanentDeliveryErrorCodes then NotificationRepository.markFailed id error.code
          else handleTransientFailure id (n.attemptCount + 1) (clock 0) : Proc Unit).Once (UsersAre users)
      (Pool.KeepsCells rowView (UsersAre users)) (Pool.SetsCell rowView (UsersAre users) v v' id) := by
  intro hset hcount
  cases send with
  | ok messageId =>
    refine (setById_once hset).bind_within fun _ => ?_
    exact (markRelatedTaskAsSent_leavesQueue _ task _).mono fun _ _ => keepsCells_of_leaves
  | error error =>
    simp only [DeliveryOutcome.columns] at hset ⊢
    split
    · next hpermanent =>
      simp only [if_pos hpermanent] at hset
      exact setById_once hset
    · next htransient =>
      simp only [if_neg htransient] at hset
      unfold handleTransientFailure
      -- the snapshot and the row agree in the attempts they count
      have hsame : v' id = (v id).map fun m =>
          if n.attemptCount + 1 ≥ maxNotificationRetryAttempts then
            NotificationRepository.attemptColumns .failed none telegramSendFailedError m
          else NotificationRepository.attemptColumns .retryPending
            (some (clock 0 + retryDelaySeconds (n.attemptCount + 1) * 1000000000))
            telegramSendFailedError m := by
        rw [hset]
        cases hv : v id with
        | none => rfl
        | some m => rw [Option.map_some, Option.map_some, hcount m hv]
      split
      · next hlast =>
        simp only [if_pos hlast] at hsame
        exact setById_once hsame
      · next hmore =>
        simp only [if_neg hmore] at hsame
        exact setById_once hsame

/-- **A delivery sets the row of its notification once**, to the columns of its outcome. -/
theorem deliverSingle_once {clock : Nat → Instant} {send : AppResult Int} {n : Notification}
    (hid : n.id = some id)
    (hset : v' id = (v id).map fun m => (outcomeOf users send n).columns clock m)
    (hcount : ∀ m, v id = some m → m.attemptCount = n.attemptCount) :
    (deliverSingle clock send n).Once (UsersAre users)
      (Pool.KeepsCells rowView (UsersAre users)) (Pool.SetsCell rowView (UsersAre users) v v' id) := by
  have hkeeps : ∀ db, Pool.KeepsCells rowView (UsersAre users) db db := fun db =>
    keepsCells_of_leaves (.refl db)
  unfold deliverSingle
  rw [hid]
  refine .read_bind hkeeps fun db hu => ⟨_, rfl, ?_⟩
  rw [show db.users = users from hu]
  unfold outcomeOf at hset
  cases hfound : users.find? fun r => r.id = n.recipientUserId with
  | none =>
    rw [hfound] at hset
    exact setById_once hset
  | some r =>
    rw [hfound] at hset
    have hchat : (toUser r).lastChatId = r.val.user.lastChatId := rfl
    simp only [Option.map_some, hchat]
    simp only at hset
    split
    · next hnone =>
      simp only [if_pos hnone] at hset
      exact setById_once hset
    · next hsome =>
      simp only [if_neg hsome] at hset
      unfold loadRelatedTask
      split
      · exact afterSend_once clock send n none hset hcount
      · exact .read_bind hkeeps fun _ _ => ⟨_, rfl, afterSend_once clock send n _ hset hcount⟩

end

/-! ## A tick -/

section

variable {db db' : Db} {t : DeliveryTick} {id : Int}

/-- A notification of the batch is a due row under its id. -/
theorem mem_batch {n : Notification} (h : n ∈ t.batch db) :
    ∃ r ∈ db.notifications.rows, NotificationRepository.isDue t.now r.val = true ∧
      NotificationRepository.toNotification r = n := by
  obtain ⟨r, hr, rfl⟩ := List.mem_map.mp h
  obtain ⟨hrow, hdue⟩ := List.mem_filter.mp (List.mem_mergeSort.mp (List.mem_of_mem_take hr))
  exact ⟨r, hrow, hdue, rfl⟩

/-- A row is in a batch once. -/
theorem batch_nodup (t : DeliveryTick) (db : Db) : ((t.batch db).map fun n => n.id.getD 0).Nodup := by
  have hids : ((t.batch db).map fun n => n.id.getD 0) =
      ((((db.notifications.rows.filter fun r => NotificationRepository.isDue t.now r.val).mergeSort fun a b =>
        a.val.createdAt < b.val.createdAt ∨ (a.val.createdAt = b.val.createdAt ∧ a.id ≤ b.id)).take
          pendingNotificationBatchSize).map Stored.id) := by
    unfold DeliveryTick.batch NotificationRepository.pendingAt
    rw [List.map_map]
    rfl
  rw [hids]
  refine List.pairwise_map.mpr (List.Pairwise.sublist (List.take_sublist _ _) ?_)
  have hrows : (db.notifications.rows.filter fun r => NotificationRepository.isDue t.now r.val).Pairwise
      fun a b => a.id ≠ b.id := (db.notifications.apart.imp fun h => h.1).filter _
  exact (List.mergeSort_perm _ _).symm.pairwise hrows fun h => Ne.symm h

theorem find_batch {n : Notification} (h : n ∈ t.batch db) (hid : n.id = some id) :
    (t.batch db).find? (fun n => n.id = some id) = some n := by
  cases hf : (t.batch db).find? fun n => n.id = some id with
  | none =>
    have hnone := List.find?_eq_none.mp hf n h
    exact absurd (decide_eq_true hid) hnone
  | some n' =>
    have hid' := List.find?_some hf
    rw [decide_eq_true_eq] at hid'
    obtain ⟨r, hr, -, rfl⟩ := mem_batch h
    obtain ⟨r', hr', -, rfl⟩ := mem_batch (List.mem_of_find?_eq_some hf)
    have hsame : r'.id = r.id := Option.some.inj (hid'.trans hid.symm)
    rw [Table.eq_of_not_apart hr' hr (.inl hsame)]

/-- The row after the tick. -/
def DeliveryTick.rowAfter (t : DeliveryTick) (db : Db) (id : Int) : Option Notification :=
  match (t.batch db).find? fun n => n.id = some id with
  | some n => (db.notice id).map fun m => (outcomeOf db.users (t.send id) n).columns (t.clock id) m
  | none => db.notice id

/-- At its start every delivery of the tick has its row before it. -/
theorem deliveries_filling (t : DeliveryTick) (db : Db) :
    (⟨db, t.deliveries (t.batch db)⟩ : Pool Site Db AppError Int Unit).Filling rowView
      (UsersAre db.users) db.notice (t.rowAfter db) where
  holds := rfl
  labels := by
    have hlabels : (t.deliveries (t.batch db)).map Prod.fst = (t.batch db).map fun n => n.id.getD 0 := by
      unfold DeliveryTick.deliveries
      rw [List.map_map]
      rfl
    rw [hlabels]
    exact batch_nodup t db
  others _ _ := rfl
  cells i c p h := by
    obtain ⟨n, hn, hthread⟩ := List.mem_map.mp (List.mem_of_getElem? h)
    cases hthread
    obtain ⟨r, hr, -, hrow⟩ := mem_batch hn
    have hid : n.id = some r.id := by rw [← hrow]; rfl
    rw [hid, Option.getD_some]
    refine .inl ⟨deliverSingle_once hid ?_ ?_, rfl⟩
    · unfold DeliveryTick.rowAfter
      rw [find_batch hn hid]
    · intro m hm
      rw [notice_of_mem hr] at hm
      cases hm
      rw [← hrow]
      rfl

/-- **A tick takes every row to its state after the tick**, in whatever order its deliveries ran. -/
theorem tick_rows (h : t.Runs db db') (id : Int) : db'.notice id = t.rowAfter db id := by
  obtain ⟨batch, hlist, sched, hended, hstore⟩ := h
  have hrun : (NotificationRepository.listPending pendingNotificationBatchSize t.now).run noFaults db =
      (.ok (t.batch db), db) := run_select rfl db
  rw [hrun] at hlist
  cases hlist
  have hfilling := (deliveries_filling t db).exec sched
  obtain ⟨hset, hkept⟩ := hfilling.ended hended
  rw [hstore] at hset hkept
  by_cases hid : id ∈ (⟨db, t.deliveries (t.batch db)⟩ : Pool Site Db AppError Int Unit).threads.map Prod.fst
  · rw [← Pool.exec_labels (sched.map fun i => (i, .none))] at hid
    exact hset id hid
  · have hnone : (t.batch db).find? (fun n => n.id = some id) = none := by
      refine List.find?_eq_none.mpr fun n hn hq => hid ?_
      refine List.mem_map.mpr ⟨_, List.mem_map_of_mem hn, ?_⟩
      rw [of_decide_eq_true hq]
      rfl
    rw [← Pool.exec_labels (sched.map fun i => (i, .none))] at hid
    unfold DeliveryTick.rowAfter
    rw [hnone]
    exact hkept id hid

end

/-! ## The machine of one row -/

/-- What a step of the queue does to one row. -/
inductive RowStep : Option Notification → Option RowEvent → Option Notification → Prop where
  | enqueued {n : Notification} (h : n.IsNew) : RowStep none (some .enqueued) (some n)
  | requeued (n : Notification) :
      RowStep (some n) (some .requeued) (some (NotificationRepository.requeuedColumns n))
  | delivered {n : Notification} (clock : Nat → Instant) (outcome : DeliveryOutcome)
      (hlive : n.deliveryState = .pending ∨ n.deliveryState = .retryPending) :
      RowStep (some n) (some (.delivered outcome)) (some (outcome.columns clock n))
  | rest (row : Option Notification) : RowStep row none row

/-- **Every step of the queue is a step of each row's machine.** -/
theorem step_row {db db' : Db} {op : QueueOp} (h : QueueStep db op db') (id : Int) :
    RowStep (db.notice id) (rowEvent id db op) (db'.notice id) := by
  cases h with
  | @enqueue n slot hnew =>
    rw [NotificationRepository.store_enqueue (fun e he => by cases he), notice_insert]
    simp only [rowEvent]
    split
    · next hadded =>
      have hnone : db.notice id = none := by
        cases hrow : db.notice id with
        | none => rfl
        | some m =>
          have hlt := db.notifications.fresh _ (mem_of_notice hrow)
          have hid := hadded.2
          simp only at hlt
          omega
      rw [hnone]
      exact .enqueued hnew
    · exact .rest _
  | requeue id' =>
    have hrun : ((NotificationRepository.requeue id').run noFaults db).2 = { db with
        notifications := db.notifications.modify (fun r => r.id = id')
          NotificationRepository.requeuedColumns NotificationRepository.requeuedColumns_keeps } := rfl
    rw [hrun, notice_modify]
    simp only [rowEvent]
    cases hrow : db.notice id with
    | none =>
      simp only [Option.isSome_none, Bool.false_eq_true, and_false, if_false, Option.map_none, ite_self]
      exact .rest none
    | some m =>
      by_cases hid : id = id'
      · rw [if_pos hid, if_pos ⟨hid.symm, rfl⟩]
        exact .requeued m
      · rw [if_neg hid, if_neg fun h => hid h.1.symm]
        exact .rest _
  | tick ht =>
    rw [tick_rows ht]
    simp only [DeliveryTick.rowAfter, rowEvent]
    split
    · next n hf =>
      have hid := List.find?_some hf
      rw [decide_eq_true_eq] at hid
      obtain ⟨r, hr, hdue, rfl⟩ := mem_batch (List.mem_of_find?_eq_some hf)
      cases hid
      rw [notice_of_mem hr]
      refine .delivered _ _ ?_
      unfold NotificationRepository.isDue at hdue
      rw [Bool.and_eq_true, Bool.or_eq_true, decide_eq_true_eq, decide_eq_true_eq] at hdue
      exact hdue.1
    · exact .rest _
  | elsewhere hsame =>
    rw [notice_congr hsame]
    exact .rest _

/-! ## Windows -/

/-- The events since the row was last queued. -/
def window (events : List RowEvent) : List RowEvent := events.takeWhile fun e => !e.isQueueing

theorem window_split {w : List RowEvent} {q : RowEvent} (hw : ∀ e ∈ w, e.isQueueing = false)
    (hq : q.isQueueing = true) (events : List RowEvent) : window (w ++ q :: events) = w := by
  unfold window
  rw [List.takeWhile_append_of_pos fun e he => by rw [hw e he]; rfl]
  rw [List.takeWhile_cons_of_neg (by rw [hq]; decide), List.append_nil]

/-- An initial segment without a queueing is within the window. -/
theorem prefix_window {w events : List RowEvent} (hw : ∀ e ∈ w, e.isQueueing = false)
    (h : w <+: events) : w <+: window events := by
  obtain ⟨rest, rfl⟩ := h
  unfold window
  rw [List.takeWhile_append_of_pos fun e he => by rw [hw e he]; rfl]
  exact List.prefix_append _ _

theorem window_delivered (o : DeliveryOutcome) (events : List RowEvent) :
    window (.delivered o :: events) = .delivered o :: window events := List.takeWhile_cons_of_pos rfl

theorem window_queueing {e : RowEvent} (h : e.isQueueing = true) (events : List RowEvent) :
    window (e :: events) = [] := List.takeWhile_cons_of_neg (by rw [h]; decide)

theorem isQueueing_of_transient {e : RowEvent} (h : e.isTransient = true) : e.isQueueing = false := by
  cases e with
  | enqueued => cases h
  | requeued => cases h
  | delivered o => rfl

/-! ## Sent at most once -/

/-- The window holds a success only when the row is sent, and never two; a row that is not
there has no event. -/
structure SentOnce (row : Option Notification) (events : List RowEvent) : Prop where
  absent : row = none → events = []
  latest : (window events).countP RowEvent.isSuccess ≤ 1
  sent : ∀ n, row = some n → (window events).countP RowEvent.isSuccess = 1 → n.deliveryState = .sent
  every : ∀ w, w <:+: events → (∀ e ∈ w, e.isQueueing = false) → w.countP RowEvent.isSuccess ≤ 1

theorem columns_sent {clock : Nat → Instant} {n : Notification} {o : DeliveryOutcome}
    (h : o.isSuccess = true) : (o.columns clock n).deliveryState = .sent := by
  cases o with
  | unreachable code => cases h
  | attempted answer =>
    cases answer with
    | ok messageId => rfl
    | error e => cases h

/-- One more event, when the window it makes has at most one success. -/
theorem SentOnce.every_cons {row : Option Notification} {events : List RowEvent} {e : RowEvent}
    (h : SentOnce row events) (hlatest : (window (e :: events)).countP RowEvent.isSuccess ≤ 1) :
    ∀ w, w <:+: e :: events → (∀ x ∈ w, x.isQueueing = false) → w.countP RowEvent.isSuccess ≤ 1 := by
  intro w hw hnone
  rcases List.infix_cons_iff.mp hw with hprefix | hinfix
  · have hle := (prefix_window hnone hprefix).sublist.countP_le (p := RowEvent.isSuccess)
    omega
  · exact h.every w hinfix hnone

theorem RowStep.sentOnce {row row' : Option Notification} {e : Option RowEvent} {events : List RowEvent}
    (hstep : RowStep row e row') (h : SentOnce row events) : SentOnce row' (e.toList ++ events) := by
  cases hstep with
  | enqueued hnew =>
    have hlatest : (window (.enqueued :: events)).countP RowEvent.isSuccess = 0 := by
      rw [window_queueing rfl, List.countP_nil]
    refine ⟨fun hrow => ?_, hlatest.le.trans (Nat.zero_le 1), fun n _ hone => ?_,
      h.every_cons (hlatest.le.trans (Nat.zero_le 1))⟩
    · cases hrow
    · rw [Option.toList_some, List.singleton_append, hlatest] at hone
      cases hone
  | requeued n =>
    have hlatest : (window (.requeued :: events)).countP RowEvent.isSuccess = 0 := by
      rw [window_queueing rfl, List.countP_nil]
    refine ⟨fun hrow => ?_, hlatest.le.trans (Nat.zero_le 1), fun n _ hone => ?_,
      h.every_cons (hlatest.le.trans (Nat.zero_le 1))⟩
    · cases hrow
    · rw [Option.toList_some, List.singleton_append, hlatest] at hone
      cases hone
  | @delivered n clock o hlive =>
    -- the row is live, so the window has no success yet
    have hnone : (window events).countP RowEvent.isSuccess = 0 := by
      have hle := h.latest
      by_contra hne
      have hsent := h.sent n rfl (by omega)
      rw [hsent] at hlive
      rcases hlive with hlive | hlive
      · cases hlive
      · cases hlive
    have hwindow : (window (.delivered o :: events)).countP RowEvent.isSuccess =
        if o.isSuccess then 1 else 0 := by
      rw [window_delivered, List.countP_cons, hnone, Nat.zero_add]
      rfl
    have hlatest : (window (.delivered o :: events)).countP RowEvent.isSuccess ≤ 1 := by
      rw [hwindow]
      split <;> omega
    refine ⟨fun hrow => ?_, hlatest, fun m hm hone => ?_, h.every_cons hlatest⟩
    · cases hrow
    · cases hm
      rw [Option.toList_some, List.singleton_append, hwindow] at hone
      by_cases hsuccess : o.isSuccess = true
      · exact columns_sent hsuccess
      · rw [if_neg hsuccess] at hone
        cases hone
  | rest => exact h

theorem QueueRun.sentOnce {ok : Db → QueueOp → Prop} {id : Int} {db : Db} {events : List RowEvent}
    (h : QueueRun ok id db events) : SentOnce (db.notice id) events := by
  induction h with
  | start hnone =>
    rw [hnone]
    refine ⟨fun _ => rfl, Nat.zero_le 1, fun n hn => (nomatch hn), fun w hw _ => ?_⟩
    rw [List.infix_nil.mp hw]
    exact Nat.zero_le 1
  | step _ _ hstep ih => exact (step_row hstep id).sentOnce ih

/-! ## The retry budget -/

/-- While the window holds transient failures only, the row counts them, is given up with the
last one the budget has, and is live before. -/
def Budgeted (row : Option Notification) (events : List RowEvent) : Prop :=
  ∀ n, row = some n → (∀ e ∈ window events, e.isTransient = true) →
    n.attemptCount = (window events).length ∧ n.attemptCount ≤ maxNotificationRetryAttempts ∧
      (n.deliveryState = .failed ↔ n.attemptCount = maxNotificationRetryAttempts)

/-- A transient failure counts one attempt more, and gives up with the third. -/
theorem columns_transient (clock : Nat → Instant) (n : Notification) {o : DeliveryOutcome}
    (h : o.isTransient = true) :
    (o.columns clock n).attemptCount = n.attemptCount + 1 ∧
      ((o.columns clock n).deliveryState = .failed ↔
        n.attemptCount + 1 ≥ maxNotificationRetryAttempts) := by
  cases o with
  | unreachable code => cases h
  | attempted answer =>
    cases answer with
    | ok messageId => cases h
    | error e =>
      have hcode : e.code ∉ permanentDeliveryErrorCodes := of_decide_eq_true h
      simp only [DeliveryOutcome.columns, if_neg hcode]
      by_cases hlast : n.attemptCount + 1 ≥ maxNotificationRetryAttempts
      · rw [if_pos hlast]
        exact ⟨rfl, fun _ => hlast, fun _ => rfl⟩
      · rw [if_neg hlast]
        exact ⟨rfl, fun hc => (nomatch hc), fun hc => absurd hc hlast⟩

theorem RowStep.budgeted {row row' : Option Notification} {e : Option RowEvent} {events : List RowEvent}
    (hstep : RowStep row e row')
    (hfresh : ∀ n, e = some .requeued → row = some n → n.attemptCount = 0)
    (h : Budgeted row events) : Budgeted row' (e.toList ++ events) := by
  cases hstep with
  | enqueued hnew =>
    obtain ⟨taskId, recipient, kind, message, key, now, rfl⟩ := hnew
    intro n hn _
    cases hn
    have hzero : (Notification.pending taskId recipient kind message key now).attemptCount = 0 := rfl
    rw [Option.toList_some, List.singleton_append, window_queueing rfl, hzero]
    refine ⟨rfl, by decide, fun hc => (nomatch hc), fun hc => ?_⟩
    exact absurd hc (by decide)
  | requeued n =>
    intro m hm _
    cases hm
    have hzero : (NotificationRepository.requeuedColumns n).attemptCount = 0 := hfresh n rfl rfl
    rw [Option.toList_some, List.singleton_append, window_queueing rfl, hzero]
    refine ⟨rfl, by decide, fun hc => (nomatch hc), fun hc => ?_⟩
    exact absurd hc (by decide)
  | @delivered n clock o hlive =>
    intro m hm htransient
    cases hm
    rw [Option.toList_some, List.singleton_append, window_delivered] at htransient ⊢
    obtain ⟨ho, hrest⟩ := List.forall_mem_cons.mp htransient
    obtain ⟨hcount, hle, hfailed⟩ := h n rfl hrest
    obtain ⟨hnext, hgiven⟩ := columns_transient clock n ho
    have hlt : n.attemptCount ≠ maxNotificationRetryAttempts := by
      intro hmax
      rw [hfailed.mpr hmax] at hlive
      rcases hlive with hlive | hlive
      · cases hlive
      · cases hlive
    rw [hgiven, hnext, List.length_cons]
    exact ⟨by omega, by omega, by omega⟩
  | rest => exact h

theorem QueueRun.budgeted {id : Int} {db : Db} {events : List RowEvent}
    (h : QueueRun RequeuesUnattempted id db events) : Budgeted (db.notice id) events := by
  induction h with
  | start hnone =>
    intro n hn
    rw [hnone] at hn
    cases hn
  | @step db db' events op _ hok hstep ih =>
    refine (step_row hstep id).budgeted (fun n he hn => ?_) ih
    cases op with
    | enqueue m =>
      simp only [rowEvent] at he
      split at he <;> cases he
    | requeue id' =>
      simp only [rowEvent] at he
      split at he
      · next hid => exact hok id n (by rw [hid.1]) hn
      · cases he
    | tick t =>
      simp only [rowEvent] at he
      split at he <;> cases he
    | elsewhere => cases he

/-- A row that is not live is left alone by everything but its requeue. -/
theorem settled_row {db db' : Db} {op : QueueOp} {id : Int} {n : Notification}
    (hstep : QueueStep db op db') (hn : db.notice id = some n)
    (hsettled : n.deliveryState = .sent ∨ n.deliveryState = .failed) (hop : op ≠ .requeue id) :
    db'.notice id = some n := by
  have hrow := step_row hstep id
  generalize hevent : rowEvent id db op = e at hrow
  generalize hafter : db'.notice id = row' at hrow
  rw [hn] at hrow
  cases hrow with
  | requeued =>
    cases op with
    | requeue id' =>
      simp only [rowEvent] at hevent
      split at hevent
      · next hid => exact absurd (by rw [hid.1]) hop
      · cases hevent
    | enqueue m =>
      simp only [rowEvent] at hevent
      split at hevent <;> cases hevent
    | tick t =>
      simp only [rowEvent] at hevent
      split at hevent <;> cases hevent
    | elsewhere => cases hevent
  | delivered clock o hlive =>
    rcases hsettled with hs | hs
    · rw [hs] at hlive
      rcases hlive with hlive | hlive <;> cases hlive
    · rw [hs] at hlive
      rcases hlive with hlive | hlive <;> cases hlive
  | rest => rfl

/-! ## Top theorem -/

/-- **The delivery budget** holds in the runs that queue no row again that counts attempts. -/
theorem delivery_budget (id : Int) (db : Db) (events : List RowEvent)
    (h : QueueRun RequeuesUnattempted id db events) : DeliveryBudget id db events where
  once := h.sentOnce.every
  budget w q earlier hevents hq hw := by
    rw [hevents] at h
    have hwindow := window_split (fun e he => isQueueing_of_transient (hw e he)) hq earlier
    have hbudgeted := h.budgeted
    cases hrow : db.notice id with
    | none =>
      have habsent := h.sentOnce.absent hrow
      exact absurd habsent (by simp)
    | some n =>
      obtain ⟨hcount, hle, hfailed⟩ := hbudgeted n hrow (by rw [hwindow]; exact hw)
      rw [hwindow] at hcount
      rw [← hcount]
      refine ⟨hle, ?_⟩
      rw [← hfailed]
      constructor
      · rintro ⟨m, hm, hstate⟩
        rw [hrow] at hm
        cases hm
        exact hstate
      · exact fun hstate => ⟨n, hrow, hstate⟩
  settled _ _ _ hstep hn hsettled hop := settled_row hstep hn hsettled hop

/-! ## A notification that is queued again -/

def queueStart : Db :=
  { Db.empty with users := (Table.empty.insertOrIgnore ⟨UserRepository.sampleUser 10 .user, none⟩).1 }

def announcement : Notification := .pending none 1 .taskAssigned "Report" "assigned:1" 0

/-- A tick whose messenger gives this answer. -/
def answeredAt (now : Instant) (answer : AppResult Int) : DeliveryTick where
  now
  clock _ _ := now
  send _ := answer

def telegramTimeout : AppResult Int := .error (.internal "TELEGRAM_TIMEOUT" "Telegram did not answer" [])

/-- The delivery of one notification, so many statements of it. -/
def deliveryAlone (t : DeliveryTick) (n : Notification) (statements : Nat) (db : Db) :
    Pool Site Db AppError Int Unit :=
  (⟨db, t.deliveries [n]⟩ : Pool Site Db AppError Int Unit).exec
    ((List.replicate statements 0).map fun i => (i, .none))

/-- The store after the delivery of a notification without a task: its recipient is read, its row written. -/
def deliveredAlone (t : DeliveryTick) (n : Notification) (db : Db) : Db := (deliveryAlone t n 2 db).store

section

variable {ok : Db → QueueOp → Prop}

theorem run_tick_alone {t : DeliveryTick} {n : Notification} {db : Db} {events : List RowEvent} (statements : Nat)
    (h : QueueRun ok 1 db events) (hok : ok db (.tick t)) (hbatch : t.batch db = [n]) (hid : n.id = some 1)
    (hended : (deliveryAlone t n statements db).Ended) :
    QueueRun ok 1 (deliveryAlone t n statements db).store
      (.delivered (outcomeOf db.users (t.send 1) n) :: events) := by
  have hevent : rowEvent 1 db (.tick t) = some (.delivered (outcomeOf db.users (t.send 1) n)) := by
    simp only [rowEvent, hbatch, List.find?_cons, hid, decide_true]
  have hlist : (NotificationRepository.listPending pendingNotificationBatchSize t.now).run noFaults db =
      (.ok [n], db) := by
    rw [← hbatch]
    exact run_select rfl db
  have hstep := h.step hok (.tick (t := t) ⟨[n], hlist, List.replicate statements 0, hended, rfl⟩)
  rw [hevent] at hstep
  exact hstep

theorem run_enqueued (hok : ok queueStart (.enqueue announcement)) :
    QueueRun ok 1 ((NotificationRepository.enqueue 0 announcement).run noFaults queueStart).2 [.enqueued] := by
  have hnew : announcement.IsNew := ⟨_, _, _, _, _, _, rfl⟩
  have hstart : QueueRun ok 1 queueStart [] := .start rfl
  exact hstart.step hok (.enqueue 0 hnew)

/-- A delivery that is the only one of its tick has ended when nothing is left of it. -/
theorem ended_alone {pool : Pool Site Db AppError Int Unit} {r : AppResult Unit}
    (h : pool.threads = [(1, .ret r)]) : pool.Ended := by
  intro t ht
  rw [h, List.mem_singleton] at ht
  exact ⟨r, by rw [ht]⟩

end

theorem requeuesUnattempted_tick (db : Db) (t : DeliveryTick) : RequeuesUnattempted db (.tick t) := by
  intro _ _ hop
  cases hop

/-- The row as the first tick finds it. -/
def firstTry : Notification := { announcement with id := some 1 }

/-- The row after a telegramTimeout `delay` seconds before its next attempt. -/
def timedOut (nextAttemptAt : Instant) (n : Notification) : Notification :=
  NotificationRepository.attemptColumns .retryPending (some nextAttemptAt) telegramSendFailedError n

/-- The row after its delivery and its requeue: it has counted no attempt. -/
def resentTry : Notification :=
  NotificationRepository.requeuedColumns (NotificationRepository.sentColumns 77 0 firstTry)

/-- Enqueued and delivered. -/
def sentQueue : Db :=
  deliveredAlone (answeredAt 0 (.ok 77)) firstTry
    ((NotificationRepository.enqueue 0 announcement).run noFaults queueStart).2

/-- Queued again, and timed out by the three ticks that follow. -/
def resentQueue : Db :=
  let db₁ := ((NotificationRepository.requeue 1).run noFaults sentQueue).2
  let db₂ := deliveredAlone (answeredAt 60000000000 telegramTimeout) resentTry db₁
  let db₃ := deliveredAlone (answeredAt 120000000000 telegramTimeout) (timedOut 120000000000 resentTry) db₂
  deliveredAlone (answeredAt 240000000000 telegramTimeout)
    (timedOut 240000000000 (timedOut 120000000000 resentTry)) db₃

/-- The budget of a notification that is delivered, queued again before it counts an attempt, and
then times out in three ticks: the third gives it up. -/
theorem delivery_budget_resent :
    DeliveryBudget 1 resentQueue
      (List.replicate 3 (.delivered (.attempted telegramTimeout)) ++
        [.requeued, .delivered (.attempted (.ok 77)), .enqueued]) ∧
      resentQueue.HasFailed 1 := by
  have hrun₁ : QueueRun RequeuesUnattempted 1 _ [.enqueued] :=
    run_enqueued fun _ _ hop => (nomatch hop)
  have hrun₂ : QueueRun RequeuesUnattempted 1 sentQueue [.delivered (.attempted (.ok 77)), .enqueued] :=
    run_tick_alone 2 hrun₁ (t := answeredAt 0 (.ok 77)) (requeuesUnattempted_tick _ _)
      (by decide +kernel) rfl (ended_alone rfl)
  have hfresh : RequeuesUnattempted sentQueue (.requeue 1) := by
    intro id n hop hn
    cases hop
    have hcount : ∀ m ∈ sentQueue.notice 1, m.attemptCount = 0 := by decide +kernel
    exact hcount n hn
  have hrun₃ := hrun₂.step hfresh (.requeue 1)
  have hevent : (rowEvent 1 sentQueue (.requeue 1)).toList = [.requeued] := by decide +kernel
  rw [hevent] at hrun₃
  have hrun₄ := run_tick_alone 2 hrun₃ (t := answeredAt 60000000000 telegramTimeout) (n := resentTry)
    (requeuesUnattempted_tick _ _) (by decide +kernel) rfl (ended_alone rfl)
  have hrun₅ := run_tick_alone 2 hrun₄ (t := answeredAt 120000000000 telegramTimeout)
    (n := timedOut 120000000000 resentTry) (requeuesUnattempted_tick _ _) (by decide +kernel) rfl
    (ended_alone rfl)
  have hrun₆ := run_tick_alone 2 hrun₅ (t := answeredAt 240000000000 telegramTimeout)
    (n := timedOut 240000000000 (timedOut 120000000000 resentTry)) (requeuesUnattempted_tick _ _)
    (by decide +kernel) rfl (ended_alone rfl)
  have hbudget := delivery_budget 1 _ _ hrun₆
  refine ⟨hbudget, ?_⟩
  -- three transient failures since the requeue are the whole budget
  obtain ⟨-, hfailed⟩ := hbudget.budget (List.replicate 3 (.delivered (.attempted telegramTimeout)))
    .requeued _ rfl rfl (by decide +kernel)
  exact hfailed.mpr rfl

/-- The row as the requeue leaves it when three timeouts have given it up. -/
def spentTry : Notification :=
  NotificationRepository.requeuedColumns
    (NotificationRepository.attemptColumns .failed none telegramSendFailedError
      (timedOut 180000000000 (timedOut 60000000000 firstTry)))

/-- The budget is not renewed: the three timeouts of a new notification give it up, and after
its requeue the first telegramTimeout does. -/
theorem requeued_budget_spent : ¬ ∀ id db events, QueueRun (fun _ _ => True) id db events →
    DeliveryBudget id db events := by
  intro h
  let db₁ := ((NotificationRepository.enqueue 0 announcement).run noFaults queueStart).2
  let db₂ := deliveredAlone (answeredAt 0 telegramTimeout) firstTry db₁
  let db₃ := deliveredAlone (answeredAt 60000000000 telegramTimeout) (timedOut 60000000000 firstTry) db₂
  let db₄ := deliveredAlone (answeredAt 180000000000 telegramTimeout)
    (timedOut 180000000000 (timedOut 60000000000 firstTry)) db₃
  let db₅ := ((NotificationRepository.requeue 1).run noFaults db₄).2
  let db₆ := deliveredAlone (answeredAt 180000000000 telegramTimeout) spentTry db₅
  have hrun₁ : QueueRun (fun _ _ => True) 1 db₁ [.enqueued] := run_enqueued trivial
  have hrun₂ := run_tick_alone 2 hrun₁ (t := answeredAt 0 telegramTimeout) (n := firstTry) trivial
    (by decide +kernel) rfl (ended_alone rfl)
  have hrun₃ := run_tick_alone 2 hrun₂ (t := answeredAt 60000000000 telegramTimeout)
    (n := timedOut 60000000000 firstTry) trivial (by decide +kernel) rfl (ended_alone rfl)
  have hrun₄ : QueueRun (fun _ _ => True) 1 db₄ _ :=
    run_tick_alone 2 hrun₃ (t := answeredAt 180000000000 telegramTimeout)
      (n := timedOut 180000000000 (timedOut 60000000000 firstTry)) trivial (by decide +kernel) rfl
      (ended_alone rfl)
  have hrun₅ := hrun₄.step trivial (.requeue 1)
  have hevent : (rowEvent 1 db₄ (.requeue 1)).toList = [.requeued] := by decide +kernel
  rw [hevent] at hrun₅
  have hrun₆ := run_tick_alone 2 hrun₅ (t := answeredAt 180000000000 telegramTimeout) (n := spentTry) trivial
    (by decide +kernel) rfl (ended_alone rfl)
  obtain ⟨-, hfailed⟩ := (h 1 _ _ hrun₆).budget [_] .requeued _ rfl rfl (by decide +kernel)
  have hgiven : Db.HasFailed db₆ 1 :=
    ⟨{ NotificationRepository.attemptColumns .failed none telegramSendFailedError spentTry with id := none },
      by decide +kernel, rfl⟩
  have hlength := hfailed.mp hgiven
  cases hlength

end TaskBot
