import TaskBot.UseCases.AuditTrail
import TaskBot.UseCases.NoticeKeys

/-!
# The queue of notifications

Every use case and every worker writes notifications by `INSERT OR IGNORE` on their key, all of them at once on
one database.  An ignored insert must not lose a notice.

* `NoticesNamed`: each stored notification is what its key says;
* `KeepsNotices`: what a statement may do to the queue; `program_keeps`: every program keeps to it;
* `insert_told`: in such a queue an insert is ignored only if the same notice is stored;
* `notices_named`: the queue is such at every moment of every interleaving.
-/

namespace TaskBot

open Sql Calls TaskRepository

/-! ## The queue -/

/-- Each stored notification is what its key says. -/
def NoticesNamed (db : Db) : Prop := ∀ r ∈ db.notifications.rows, ∃ k : NoticeKey, k.Names r.val

/-- The notice is stored, and once. -/
def Told (k : NoticeKey) (db : Db) : Prop := ∃! r, r ∈ db.notifications.rows ∧ k.Names r.val

/-- The rows are one notification: a delivery may be between them. -/
structure SameNotice (r r' : Stored Notification) : Prop where
  id : r'.id = r.id
  key : r'.val.dedupeKey = r.val.dedupeKey
  kind : r'.val.notificationType = r.val.notificationType
  recipient : r'.val.recipientUserId = r.val.recipientUserId
  task : r'.val.taskId = r.val.taskId
  message : r'.val.message = r.val.message

theorem SameNotice.refl (r : Stored Notification) : SameNotice r r := ⟨rfl, rfl, rfl, rfl, rfl, rfl⟩

theorem SameNotice.trans {r r' r'' : Stored Notification} (h : SameNotice r r') (h' : SameNotice r' r'') :
    SameNotice r r'' :=
  ⟨h'.id.trans h.id, h'.key.trans h.key, h'.kind.trans h.kind, h'.recipient.trans h.recipient, h'.task.trans h.task,
    h'.message.trans h.message⟩

/-- Nothing is taken out of the queue, and what comes in is named by a key of this kind. -/
structure KeepsNotices (A : NoticeKey → Prop) (db db' : Db) : Prop where
  stay : ∀ r ∈ db.notifications.rows, ∃ r' ∈ db'.notifications.rows, SameNotice r r'
  fresh : ∀ r' ∈ db'.notifications.rows,
    (∃ r ∈ db.notifications.rows, SameNotice r r') ∨ ∃ k, A k ∧ k.Names r'.val

section

variable {A : NoticeKey → Prop} {db db' : Db} {k : NoticeKey} {n : Notification}

theorem names_of_same {r r' : Stored Notification} (h : SameNotice r r') (hk : k.Names r.val) : k.Names r'.val where
  key := h.key.trans hk.key
  kind := h.kind.trans hk.kind
  recipient userId hu := h.recipient.trans (hk.recipient userId hu)

/-- In a queue of named notices what stands under a key is the notice of this key. -/
theorem told_iff (hnamed : NoticesNamed db) : Told k db ↔ db.Notified k.text := by
  constructor
  · rintro ⟨r, ⟨hr, hk⟩, -⟩
    exact ⟨r, hr, hk.key⟩
  · rintro ⟨r, hr, hkey⟩
    obtain ⟨k', hk'⟩ := hnamed r hr
    obtain rfl : k' = k := NoticeKey.text_inj (hk'.key.symm.trans hkey)
    refine ⟨r, ⟨hr, hk'⟩, fun r' hr' => ?_⟩
    exact Table.eq_of_not_apart hr'.1 hr (.inr (decide_eq_true (hr'.2.key.trans hk'.key.symm)))

theorem named_insert (hk : k.Names n) (hnamed : NoticesNamed db) : NoticesNamed (db.insertNotification n) := by
  intro r hr
  rcases Table.mem_insert hr with hr | ⟨rfl, -⟩
  · exact hnamed r hr
  · exact ⟨k, hk⟩

/-- **An insert is ignored only if the same notice is stored**: under its key is the notice for its recipient
that the key names, or the insert adds it. -/
theorem insert_told (hk : k.Names n) (hnamed : NoticesNamed db) : Told k (db.insertNotification n) :=
  (told_iff (named_insert hk hnamed)).mpr (hk.key ▸ notified_insert db n)

theorem KeepsNotices.named (h : KeepsNotices A db db') (hnamed : NoticesNamed db) : NoticesNamed db' := by
  intro r' hr'
  rcases h.fresh r' hr' with ⟨r, hr, hsame⟩ | ⟨k, -, hk⟩
  · obtain ⟨k, hk⟩ := hnamed r hr
    exact ⟨k, names_of_same hsame hk⟩
  · exact ⟨k, hk⟩

theorem KeepsNotices.told (h : KeepsNotices A db db') (hnamed : NoticesNamed db) (ht : Told k db) : Told k db' := by
  obtain ⟨r, ⟨hr, hk⟩, -⟩ := ht
  obtain ⟨r', hr', hsame⟩ := h.stay r hr
  exact (told_iff (h.named hnamed)).mpr ⟨r', hr', hsame.key.trans hk.key⟩

end

namespace KeepsNotices

variable {A : NoticeKey → Prop}

theorem of_same {db db' : Db} (h : db'.notifications = db.notifications) : KeepsNotices A db db' where
  stay r hr := ⟨r, h ▸ hr, .refl r⟩
  fresh r hr := .inl ⟨r, h ▸ hr, .refl r⟩

theorem refl (db : Db) : KeepsNotices A db db := of_same rfl

theorem trans {db db' db'' : Db} (h : KeepsNotices A db db') (h' : KeepsNotices A db' db'') :
    KeepsNotices A db db'' where
  stay r hr := by
    obtain ⟨r', hr', hsame⟩ := h.stay r hr
    obtain ⟨r'', hr'', hsame'⟩ := h'.stay r' hr'
    exact ⟨r'', hr'', hsame.trans hsame'⟩
  fresh r'' hr'' := by
    rcases h'.fresh r'' hr'' with ⟨r', hr', hsame'⟩ | hnew
    · rcases h.fresh r' hr' with ⟨r, hr, hsame⟩ | ⟨k, hA, hk⟩
      · exact .inl ⟨r, hr, hsame.trans hsame'⟩
      · exact .inr ⟨k, hA, names_of_same hsame' hk⟩
    · exact .inr hnew

theorem mono {A' : NoticeKey → Prop} (hA : ∀ k, A k → A' k) {db db' : Db} (h : KeepsNotices A db db') :
    KeepsNotices A' db db' where
  stay := h.stay
  fresh r' hr' := (h.fresh r' hr').imp_right fun ⟨k, hk⟩ => ⟨k, hA k hk.1, hk.2⟩

theorem insert {k : NoticeKey} {n : Notification} (hk : k.Names n) (hA : A k) (db : Db) :
    KeepsNotices A db (db.insertNotification n) where
  stay r hr := ⟨r, Table.mem_insert_of_mem hr, .refl r⟩
  fresh r hr := by
    rcases Table.mem_insert hr with hr | ⟨rfl, -⟩
    · exact .inl ⟨r, hr, .refl r⟩
    · exact .inr ⟨k, hA, hk⟩

/-- A delivery writes other columns. -/
theorem modify {q : Stored Notification → Bool} {f : Notification → Notification} (hf : KeepsKeys f)
    (hsame : ∀ r : Stored Notification, SameNotice r ⟨r.id, f r.val⟩) (db : Db) :
    KeepsNotices A db { db with notifications := db.notifications.modify q f hf } := by
  have hset : ∀ r, SameNotice r (setWhere q f r) := by
    intro r
    unfold setWhere
    split
    · exact hsame r
    · exact .refl r
  have hrows : (db.notifications.modify q f hf).rows = db.notifications.rows.map (setWhere q f) := rfl
  constructor
  · intro r hr
    refine ⟨setWhere q f r, ?_, hset r⟩
    rw [hrows]
    exact List.mem_map_of_mem hr
  · intro r' hr'
    obtain ⟨r, hr, rfl⟩ := List.mem_map.mp (hrows ▸ hr')
    exact .inl ⟨r, hr, hset r⟩

end KeepsNotices

/-! ## Programs -/

/-- Every statement of the program keeps the notices, and what it adds has a key of this kind. -/
def KeepsQueue (A : NoticeKey → Prop) {α : Type} (p : Proc α) : Prop := p.Within (KeepsNotices A)

/-- The key of an alert for somebody who takes part in one of the tasks, by a multiple of three days. -/
def Alerts (today : NaiveDate) (tasks : List Task) (k : NoticeKey) : Prop :=
  ∃ t ∈ tasks, ∃ u ∈ t.participants, ∃ days, t.deadline = some (today - days) ∧ days % 3 = 0 ∧
    k = .overdue t.taskUid u days

/-- Any key but that of an overdue alert. -/
def NotAlert (k : NoticeKey) : Prop := k.isAlert = false

namespace KeepsQueue

variable {α : Type} {A : NoticeKey → Prop}

theorem reads {p : Proc α} (h : p.Within Eq) : KeepsQueue A p := h.of_reads .refl

theorem writes {site : Site} {body : Db → α × Db} (h : ∀ db, (body db).2.notifications = db.notifications) :
    KeepsQueue A (TaskBot.write site body) :=
  write_within fun db => .of_same (h db)

theorem enqueue {k : NoticeKey} {n : Notification} (hk : k.Names n) (hA : A k) (slot : Nat) :
    KeepsQueue A (NotificationRepository.enqueue slot n) :=
  .bind (write_within fun db => .insert hk hA db) fun _ =>
    .bind (reads (select_reads _ _)) fun _ => .bind (.lift _) fun _ => .pure _

theorem setById {f : Notification → Notification} {hf : KeepsKeys f}
    (hsame : ∀ r : Stored Notification, SameNotice r ⟨r.id, f r.val⟩) (id : Int) :
    KeepsQueue A (NotificationRepository.setById id f hf) :=
  write_within fun db => .modify hf hsame db

theorem markFailed (id : Int) (errorCode : String) : KeepsQueue A (NotificationRepository.markFailed id errorCode) :=
  setById (fun _ => ⟨rfl, rfl, rfl, rfl, rfl, rfl⟩) id

theorem append (entry : AuditLogEntry) : KeepsQueue A (AuditLogRepository.append entry) := writes fun _ => rfl

theorem update (task : Task) : KeepsQueue A (TaskRepository.update task) := by
  refine .perform fun db => .of_same ?_
  unfold updateTask
  split <;> rfl

theorem createIfAbsent (task : Task) : KeepsQueue A (TaskRepository.createIfAbsent task) :=
  .bind (writes fun _ => rfl) fun _ => .bind (reads (select_reads _ _)) fun _ => .bind (.lift _) fun _ => .pure _

theorem upsertFromMessage (user : User) : KeepsQueue A (UserRepository.upsertFromMessage user) := by
  refine .perform fun db => .of_same ?_
  unfold UserRepository.upsertUser
  split <;> rfl

theorem loadTask (uid : Uuid) : KeepsQueue A (TaskBot.loadTask uid) :=
  .bind (reads (select_reads _ _)) fun _ => .lift _

/-! ### What tells the participants -/

theorem tell {k : NoticeKey} {n : Notification} (hk : k.Names n) (hA : k.isAlert = false) (slot : Nat) :
    KeepsQueue NotAlert (NotificationRepository.enqueue slot n) := enqueue hk hA slot

theorem participants (clock : Nat → Instant) (actorId : Option Int) (task : Task) (next : TaskStatus) :
    KeepsQueue NotAlert (UpdateTaskStatus.enqueueParticipantNotifications clock actorId task next) := by
  have hone : ∀ slot now recipient, KeepsQueue NotAlert
      (UpdateTaskStatus.notifyParticipant slot actorId task next now recipient) := by
    intro slot now recipient
    unfold UpdateTaskStatus.notifyParticipant
    split
    · exact .pure _
    · split
      · exact .pure _
      · exact .bind (tell (NoticeKey.names_participant _ _ _ _) rfl _) fun _ => .pure _
  exact .bind (hone _ _ _) fun _ => hone _ _ _

theorem creator (task : Task) (reason : String) (actorId : Int) (now : Instant) :
    KeepsQueue NotAlert (ReportTaskBlocker.notifyCreator task reason actorId now) := by
  unfold ReportTaskBlocker.notifyCreator
  split
  · exact .pure _
  · exact .bind (tell (NoticeKey.names_blocker _ _ _) rfl _) fun _ => .pure _

theorem newAssignee (task : Task) (now : Instant) : KeepsQueue NotAlert (ReassignTask.notifyNewAssignee task now) := by
  unfold ReassignTask.notifyNewAssignee
  split
  · exact .pure _
  · exact .bind (tell (NoticeKey.names_reassignment _ _ _) rfl _) fun _ => .pure _

theorem commenters (slot : Nat) (actorId : Int) (task : Task) (body : String) (commentId : Option Int)
    (now : Instant) (recipient : Option Int) :
    KeepsQueue NotAlert (AddTaskComment.notifyRecipient slot actorId task body commentId now recipient) := by
  unfold AddTaskComment.notifyRecipient
  split
  · exact .pure _
  · split
    · exact .pure _
    · exact .bind (tell (NoticeKey.names_comment _ _ _ _ _) rfl _) fun _ => .pure _

theorem announce (clock : Nat → Instant) (user : User) (assignee : ResolvedAssignee) (task : Task) :
    KeepsQueue NotAlert (CreateTaskFromMessage.announce clock user assignee task) := by
  refine .bind (.bind (.lift _) fun _ => .bind (append _) fun _ => .pure _) fun _ => .bind ?_ fun _ => .pure _
  unfold CreateTaskFromMessage.enqueueAssigneeNotification
  split
  · exact .pure _
  · split
    · exact .pure _
    · split
      · exact .pure _
      · exact .bind (tell (NoticeKey.names_assignment _ _ _) rfl _) fun _ => .pure _

/-! ### Use cases -/

theorem createTask (services : CreationServices) (clock : Nat → Instant) (uid : Uuid) (message : IncomingMessage)
    (decision : TaskAssigneeDecision) :
    KeepsQueue NotAlert (CreateTaskFromMessage.executeWithAssigneeDecision services clock uid message decision) := by
  refine .bind (.bind (.lift _) fun _ => .bind (.lift _) fun text => ?_) fun prepared => ?_
  · refine .bind (upsertFromMessage _) fun user => .bind (.lift _) fun parsed => ?_
    refine .bind (reads (CreateTaskFromMessage.resolveAssignee_reads _ _ _)) fun resolution => ?_
    split
    · exact .pure _
    · exact .bind (.lift _) fun _ => .bind (.lift _) fun _ => .pure _
  · split
    · exact .pure _
    · refine .bind (createIfAbsent _) fun persisted => ?_
      split
      · exact .pure _
      · exact announce clock _ _ _

theorem updateStatus (clock : Nat → Instant) (actor : User) (uid : Uuid) (requested : TaskStatus) :
    KeepsQueue NotAlert (UpdateTaskStatus.execute clock actor uid requested) := by
  refine .bind (loadTask uid) fun task => .bind (.lift _) fun _ => .bind (.lift _) fun _ => ?_
  refine .bind (.lift _) fun _ => .bind (update _) fun saved => .bind ?_ fun _ => ?_
  · exact .bind (.lift _) fun _ => .bind (append _) fun _ => .pure _
  · exact .bind (participants _ _ _ _) fun _ => .pure _

theorem reportBlocker (clock : Nat → Instant) (actor : User) (uid : Uuid) (reason : String) :
    KeepsQueue NotAlert (ReportTaskBlocker.execute clock actor uid reason) := by
  refine .bind (.lift _) fun _ => .bind (loadTask uid) fun task => .bind (.lift _) fun _ => ?_
  refine .bind (.lift _) fun _ => .bind (update _) fun saved => .bind (.lift _) fun _ => ?_
  refine .bind (.lift _) fun _ => .bind (writes fun _ => rfl) fun stored => .bind (append _) fun _ => ?_
  exact .bind (creator _ _ _ _) fun _ => .pure _

theorem reassign (clock : Nat → Instant) (ranking : NameRanking) (actor : User) (uid : Uuid) (query : String)
    (decision : ReassignAssigneeDecision) :
    KeepsQueue NotAlert (ReassignTask.executeWithDecision clock ranking actor uid query decision) := by
  refine .bind (.lift _) fun _ => .bind (loadTask uid) fun task => .bind (.lift _) fun _ => ?_
  refine .bind (reads (ReassignTask.resolve_reads _ _ _)) fun resolution => ?_
  split
  · exact .pure _
  · refine .bind (.bind (.lift _) fun _ => .bind (update _) fun saved => .bind (.lift _) fun _ => ?_) fun _ => .pure _
    exact .bind (append _) fun _ => .bind (newAssignee _ _) fun _ => .pure _

theorem comment (clock : Nat → Instant) (actor : User) (uid : Uuid) (body : String) :
    KeepsQueue NotAlert (AddTaskComment.execute clock actor uid body) := by
  refine .bind (.lift _) fun _ => .bind (loadTask uid) fun task => .bind (.lift _) fun _ => ?_
  refine .bind (.lift _) fun _ => .bind (.lift _) fun _ => .bind (writes fun _ => rfl) fun stored => ?_
  refine .bind (.bind (append _) fun _ => .pure _) fun _ => .bind ?_ fun _ => .pure _
  exact .bind (commenters _ _ _ _ _ _ _) fun _ => commenters _ _ _ _ _ _ _

/-! ### Registration and delivery -/

theorem updateUnlessConflict (task : Task) : KeepsQueue NotAlert (RegisterUser.updateUnlessConflict task) := by
  refine .bind (update task).attempt fun stored => ?_
  split
  · exact .pure _
  · split
    · exact .pure _
    · exact .fail _

theorem linkTask (clock : Nat → Instant) (task : Task) (userId employeeId : Int) :
    KeepsQueue NotAlert (RegisterUser.linkTaskToRegisteredUser clock task userId employeeId) := by
  refine .bind (.lift _) fun _ => .bind (updateUnlessConflict _) fun stored => ?_
  split
  · exact .pure _
  · refine .bind (reads (select_reads _ _)) fun latest => ?_
    split
    · exact .pure _
    · split
      · exact .pure _
      · exact .bind (.lift _) fun _ => updateUnlessConflict _

theorem recoveredNotice (task : Task) (userId : Int) (now : Instant) :
    KeepsQueue NotAlert (RegisterUser.ensureAssignmentNotification task userId now) := by
  refine .bind (.lift _) fun taskId => .bind (reads (select_reads _ _)) fun existing => ?_
  split
  · split
    · exact .pure _
    · split
      · exact setById (fun _ => ⟨rfl, rfl, rfl, rfl, rfl, rfl⟩) _
      · exact .pure _
  · exact .bind (tell (NoticeKey.names_assignment _ _ _) rfl _) fun _ => .pure _

theorem recoverTaskBatch (clock : Nat → Instant) (userId employeeId : Int) (tasks : List Task) (start : Nat) :
    KeepsQueue NotAlert (RegisterUser.recoverTaskBatch clock userId employeeId start tasks) := by
  induction tasks generalizing start with
  | nil => exact .pure _
  | cons task tasks ih =>
    refine .bind (linkTask _ _ _ _) fun saved => ?_
    split
    · exact ih _
    · refine .bind (.bind (.lift _) fun _ => .bind (append _) fun _ => .pure _) fun _ => ?_
      exact .bind (recoveredNotice _ _ _) fun _ => .bind (ih _) fun _ => .pure _

theorem recoverBatches (clock : Nat → Instant) (userId employeeId : Int) (n : Nat) :
    KeepsQueue NotAlert (RegisterUser.recoverBatches clock userId employeeId n) := by
  induction n with
  | zero => exact .pure _
  | succ n ih =>
    refine .bind (reads (select_reads _ _)) fun tasks => ?_
    split
    · exact .pure _
    · refine .bind (recoverTaskBatch _ _ _ _ _) fun count => ?_
      split
      · exact .pure _
      · exact ih

theorem register (toLowercase : String → String) (clock : Nat → Instant) (message : IncomingMessage)
    (decision : RegistrationLinkDecision) :
    KeepsQueue NotAlert (RegisterUser.executeWithLinkDecision toLowercase clock message decision) := by
  refine .bind (reads (RegisterUser.resolveEmployeeForDecision_reads _ _ _)) fun employee => ?_
  refine .bind (upsertFromMessage _) fun user => .bind ?_ fun _ => .pure _
  unfold RegisterUser.recoverPendingAssignments
  split
  · exact .pure _
  · exact .bind (.lift _) fun userId => recoverBatches clock userId _ _

theorem storeSent (task : Task) (now : Instant) : KeepsQueue NotAlert (ProcessNotifications.storeSent task now) := by
  refine .bind (.lift _) fun _ => .bind (update _).attempt fun stored => ?_
  split
  · unfold ProcessNotifications.logSent
    split
    · exact .pure _
    · exact .bind (append _) fun _ => .pure _
  · split
    · exact .pure _
    · exact .fail _

theorem deliver (clock : Nat → Instant) (send : AppResult Int) (notification : Notification) :
    KeepsQueue NotAlert (ProcessNotifications.deliverSingle clock send notification) := by
  unfold ProcessNotifications.deliverSingle
  split
  · exact .pure _
  · refine .bind (reads (select_reads _ _)) fun user => ?_
    split
    · exact markFailed _ _
    · split
      · exact markFailed _ _
      · refine .bind ?_ fun related => ?_
        · unfold ProcessNotifications.loadRelatedTask
          split
          · exact .pure _
          · exact reads (select_reads _ _)
        · split
          · refine .bind (setById (fun _ => ⟨rfl, rfl, rfl, rfl, rfl, rfl⟩) _) fun _ => ?_
            unfold ProcessNotifications.markRelatedTaskAsSent
            split
            · exact .pure _
            · split
              · exact storeSent _ _
              · exact .pure _
          · split
            · exact markFailed _ _
            · unfold ProcessNotifications.handleTransientFailure
              split
              · exact markFailed _ _
              · exact setById (fun _ => ⟨rfl, rfl, rfl, rfl, rfl, rfl⟩) _

/-! ### Workers -/

theorem slaTick (flagEnabled : Bool) (now : Instant) (today : NaiveDate) :
    KeepsQueue NotAlert (UpdateSlaStates.execute flagEnabled now today) := by
  unfold UpdateSlaStates.execute
  split
  · exact .pure _
  · refine .bind (reads (select_reads _ _)) fun rows => .forEach fun row _ => ?_
    unfold UpdateSlaStates.processTask
    split
    · exact .pure _
    · refine .bind (writes fun _ => rfl) fun _ => ?_
      split
      · exact .pure _
      · refine .bind (writes fun _ => rfl) fun isNew => ?_
        split
        · exact .pure _
        · unfold UpdateSlaStates.notifyAssignee
          split
          · exact .pure _
          · split
            · exact .pure _
            · exact .bind (tell (NoticeKey.names_escalation _ _ _ _ _) rfl _).attempt fun _ => .pure _

theorem recurrenceTick (lib : RecurrenceLibrary) (flagEnabled : Bool) (now : Instant) (uid : Nat → Uuid) :
    KeepsQueue NotAlert (ProcessRecurrenceRules.execute lib flagEnabled now uid) := by
  have hadvance : ∀ rule, KeepsQueue NotAlert (ProcessRecurrenceRules.advance lib rule now) := fun rule =>
    .bind (Prog.Within.attempt (writes fun _ => rfl)) fun _ => .pure _
  unfold ProcessRecurrenceRules.execute
  split
  · exact .pure _
  · refine .bind (reads (select_reads _ _)) fun rules => .forEach fun rule _ => ?_
    unfold ProcessRecurrenceRules.processRule
    split
    · exact hadvance _
    · refine .bind (Prog.Within.attempt (reads (select_reads _ _))) fun found => ?_
      split
      · exact .pure _
      · exact hadvance _
      · split
        · exact hadvance _
        · exact .bind (createIfAbsent _).attempt fun _ => hadvance _

theorem remindDeadlines (today : NaiveDate) (clock : Nat → Instant) :
    KeepsQueue NotAlert (EnqueueTaskReminders.enqueueUpcomingDeadlines today clock) := by
  refine .bind (reads (select_reads _ _)) fun tasks => .forEach fun task _ => ?_
  unfold EnqueueTaskReminders.remindAssignee
  split
  · exact .pure _
  · exact .bind (tell (NoticeKey.names_reminder _ _ _ _) rfl _) fun _ => .pure _

open EnqueueTaskReminders in
theorem alertParticipants {today : NaiveDate} {tasks : List Task} {t : Task} (ht : t ∈ tasks)
    (clock : Nat → Instant) : KeepsQueue (Alerts today tasks) (alertParticipants today clock t) := by
  have hone : ∀ {days : Int} {recipient : Option Int} (slot : Nat) (now : Instant),
      t.deadline = some (today - days) → days % 3 = 0 → (∀ u, recipient = some u → u ∈ t.participants) →
        KeepsQueue (Alerts today tasks) (alertRecipient slot t days now recipient) := by
    intro days recipient slot now hdeadline hthird hmem
    unfold alertRecipient
    split
    · exact .pure _
    · next u =>
      refine .bind (enqueue (NoticeKey.names_alert t u days now) ?_ slot) fun _ => .pure _
      exact ⟨t, ht, u, hmem u rfl, days, hdeadline, hthird, rfl⟩
  unfold EnqueueTaskReminders.alertParticipants
  split
  · exact .pure _
  · next deadline hdeadline =>
    split
    · exact .pure _
    · next hthird =>
      have hback : t.deadline = some (today - (today - deadline)) := by
        rw [hdeadline, Int.sub_sub_self]
      refine .bind (hone 0 _ hback (not_not.mp hthird) fun u hu => ?_) fun _ => ?_
      · rw [← Option.some.inj hu]
        exact List.mem_cons_self
      · refine hone 1 _ hback (not_not.mp hthird) fun u hu => List.mem_cons_of_mem _ ?_
        rw [hu]
        exact List.mem_singleton.mpr rfl

theorem alertAll {today : NaiveDate} (clock : Nat → Nat → Instant) (tasks : List Task) :
    KeepsQueue (Alerts today tasks)
      (Prog.forEach (fun p => EnqueueTaskReminders.alertParticipants today (clock p.2) p.1) tasks.zipIdx) :=
  .forEach fun _ hp => alertParticipants (List.fst_mem_of_mem_zipIdx hp) _

theorem alertOverdue (today : NaiveDate) (clock : Nat → Instant) :
    KeepsQueue (fun _ => True) (EnqueueTaskReminders.enqueueOverdueAlerts today clock) :=
  .bind (reads (select_reads _ _)) fun tasks =>
    (alertAll (fun i j => clock (2 * i + j)) tasks).mono fun _ _ => .mono fun _ _ => trivial

theorem summarize (today : NaiveDate) (clock : Nat → Instant) :
    KeepsQueue NotAlert (EnqueueDailySummaries.execute today clock) := by
  refine .bind (reads (select_reads _ _)) fun users => ?_
  refine .bind (reads (select_reads _ _)) fun tasks => .forEach fun user _ => ?_
  unfold EnqueueDailySummaries.enqueueSummary
  split
  · exact .pure _
  · split
    · exact .pure _
    · exact .bind (tell (NoticeKey.names_summary _ _ _ _) rfl _) fun _ => .pure _

end KeepsQueue

/-! ## Everything that runs on the database -/

/-- What a call answers. -/
inductive QueueAnswer where
  | status (summary : TaskStatusSummary)
  | reassignment (outcome : ReassignTaskOutcome)
  | creation (outcome : TaskCreationOutcome)
  | done
deriving DecidableEq, Repr

/-- A use case somebody called, or a round of a worker. -/
inductive QueueCall where
  | trail (call : TrailCall)
  | alertOverdue (today : NaiveDate) (clock : Nat → Instant)

def answering {α : Type} (answer : α → QueueAnswer) (p : Proc α) : Proc QueueAnswer := do
  let a ← p
  pure (answer a)

def QueueCall.program : QueueCall → Proc QueueAnswer
  | trail (.useCase (.createTask services clock uid message decision)) =>
      answering .creation (CreateTaskFromMessage.executeWithAssigneeDecision services clock uid message decision)
  | trail (.useCase (.updateStatus clock actor uid requested)) =>
      answering .status (UpdateTaskStatus.execute clock actor uid requested)
  | trail (.useCase (.reportBlocker clock actor uid reason)) =>
      answering .status (ReportTaskBlocker.execute clock actor uid reason)
  | trail (.useCase (.reassign clock ranking actor uid query decision)) =>
      answering .reassignment (ReassignTask.executeWithDecision clock ranking actor uid query decision)
  | trail call => answering (fun _ => .done) call.program
  | alertOverdue today clock => answering (fun _ => .done) (EnqueueTaskReminders.enqueueOverdueAlerts today clock)

theorem KeepsQueue.answering {A : NoticeKey → Prop} {α : Type} {answer : α → QueueAnswer} {p : Proc α}
    (hp : KeepsQueue A p) : KeepsQueue A (TaskBot.answering answer p) := .bind hp fun _ => .pure _

/-- Only one worker alerts. -/
theorem trail_keeps (call : TrailCall) : KeepsQueue NotAlert (QueueCall.trail call).program := by
  cases call with
  | useCase call =>
    cases call with
    | createTask services clock uid message decision =>
      exact (KeepsQueue.createTask services clock uid message decision).answering
    | updateStatus clock actor uid requested => exact (KeepsQueue.updateStatus clock actor uid requested).answering
    | reportBlocker clock actor uid reason => exact (KeepsQueue.reportBlocker clock actor uid reason).answering
    | reassign clock ranking actor uid query decision =>
      exact (KeepsQueue.reassign clock ranking actor uid query decision).answering
    | register toLowercase clock message decision =>
      exact .answering (.bind (KeepsQueue.register toLowercase clock message decision) fun _ => .pure _)
    | deliver clock send notification => exact (KeepsQueue.deliver clock send notification).answering
  | comment clock actor uid body =>
    exact .answering (.bind (KeepsQueue.comment clock actor uid body) fun _ => .pure _)
  | slaTick flagEnabled now today => exact (KeepsQueue.slaTick flagEnabled now today).answering
  | recurrenceTick lib flagEnabled now uid => exact (KeepsQueue.recurrenceTick lib flagEnabled now uid).answering
  | remindDeadlines today clock => exact (KeepsQueue.remindDeadlines today clock).answering
  | summarize today clock => exact (KeepsQueue.summarize today clock).answering

/-- **Every program keeps the notices.** -/
theorem program_keeps (call : QueueCall) : KeepsQueue (fun _ => True) call.program := by
  cases call with
  | trail call => exact (trail_keeps call).mono fun _ _ => .mono fun _ _ => trivial
  | alertOverdue today clock => exact (KeepsQueue.alertOverdue today clock).answering

def startQueue (db : Db) (calls : List QueueCall) : Pool Site Db AppError QueueCall QueueAnswer :=
  ⟨db, calls.map fun call => (call, call.program)⟩

/-- **An ignored insert loses nothing.**  At every moment of every interleaving, with any faults, the stored
notices are all still there, for the same recipients and with the same words; and inserting any notice that its
key names leaves this notice stored once, of its kind and for the recipient its key names. -/
theorem notices_named (db : Db) (h : NoticesNamed db) (calls : List QueueCall)
    (sched : List (Nat × Fault AppError)) :
    (∀ a ∈ (startQueue db calls).acts sched,
      (∀ r ∈ a.before.notifications.rows, ∃ r' ∈ a.after.notifications.rows, SameNotice r r') ∧
        ∀ k n, NoticeKey.Names k n → Told k (a.after.insertNotification n)) ∧
      ∀ k n, NoticeKey.Names k n → Told k (((startQueue db calls).exec sched).store.insertNotification n) := by
  have hwithin : ∀ t ∈ (startQueue db calls).threads, t.2.Within (KeepsNotices fun _ => True) := by
    intro t ht
    obtain ⟨call, -, rfl⟩ := List.mem_map.mp ht
    exact program_keeps call
  have hkeeps : ∀ a ∈ (startQueue db calls).acts sched, KeepsNotices (fun _ => True) a.before a.after := by
    intro a ha
    rcases Pool.acts_within hwithin sched a ha with hsame | hkeeps
    · rw [hsame]
      exact .refl _
    · exact hkeeps
  have hnamed := Pool.acts_keep sched h fun a ha => (hkeeps a ha).named
  refine ⟨fun a ha => ⟨(hkeeps a ha).stay, fun k n hk => insert_told hk (hnamed.1 a ha)⟩, fun k n hk => ?_⟩
  exact insert_told hk hnamed.2

theorem named_of_empty {db : Db} (h : db.notifications.rows = []) : NoticesNamed db := by
  intro r hr
  rw [h] at hr
  cases hr

def lateTask : Task := { sampleTask with deadline := some 97 }

/-- Two workers alert on day 100, one after the other's first statement; a third alert is the one they wrote. -/
theorem late_task_told :
    Told (.overdue lateTask.taskUid 1 3) (((startQueue (Db.withTask lateTask)
      [.alertOverdue 100 fun _ => 0, .alertOverdue 100 fun _ => 0]).exec
        [(0, .none), (1, .none), (0, .none), (1, .none)]).store.insertNotification
          (EnqueueTaskReminders.overdueAlert lateTask 1 3 0)) :=
  (notices_named (Db.withTask lateTask) (named_of_empty rfl)
    [.alertOverdue 100 fun _ => 0, .alertOverdue 100 fun _ => 0]
    [(0, .none), (1, .none), (0, .none), (1, .none)]).2 _ _ (NoticeKey.names_alert lateTask 1 3 0)

end TaskBot
