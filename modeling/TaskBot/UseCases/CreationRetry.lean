import TaskBot.UseCases.TaskCreation

/-!
# Retried creations

One message is run through the creation any number of times; the calls of every
run may fail, before or after their effect.  A later run finds the task an
earlier run has inserted and answers `duplicateFound` without a look at what goes
with it.

* `Complete`: exactly one task has the key, with its audit entry and the
  notification of an assignee who has a chat;
* `Persists`: which failures a run that inserts the task survives;
* `exec_keeps`: one run, `creation_complete`: any sequence of runs.
-/

namespace TaskBot

open Sql Calls CreateTaskFromMessage

/-! ## What a finished creation leaves -/

/-- The user has a chat. -/
def Db.HasChat (db : Db) (userId : Int) : Prop :=
  ∃ r ∈ db.users.rows, r.id = userId ∧ r.val.user.lastChatId ≠ none

/-- The row has its `created` audit entry. -/
def Db.Logged (db : Db) (taskId : Int) : Prop :=
  ∃ h ∈ db.history.rows, h.val.taskId = taskId ∧ h.val.action = .created

/-- A `task_assigned` notification of the row for the user is stored. -/
def Db.Announced (db : Db) (taskId userId : Int) : Prop :=
  ∃ n ∈ db.notifications.rows, n.val.taskId = some taskId ∧ n.val.recipientUserId = userId ∧
    n.val.notificationType = .taskAssigned

/-- Exactly one task has the key; it is logged, and announced to an assignee with a chat. -/
def Complete (key : String) (db : Db) : Prop :=
  ∃ r ∈ db.tasks.rows, r.val.task.sourceMessageKey = key ∧
    (∀ r' ∈ db.tasks.rows, r'.val.task.sourceMessageKey = key → r' = r) ∧
    db.Logged r.id ∧
    ∀ userId, r.val.task.assignedToUserId = some userId → db.HasChat userId → db.Announced r.id userId

/-- The key is unique in the table. -/
theorem unique_of_key {db : Db} {r r' : Stored TaskColumns} (hr : r ∈ db.tasks.rows)
    (hr' : r' ∈ db.tasks.rows) (h : r'.val.task.sourceMessageKey = r.val.task.sourceMessageKey) :
    r' = r :=
  Table.eq_of_not_apart hr' hr (.inr (by simp [Keyed.clash, h]))

/-! ## The run up to its first write -/

/-- The database after the creator is registered. -/
def registered (message : IncomingMessage) (db : Db) : Db :=
  (UserRepository.upsertUser (.fromMessage message .user false) db).2

/-- The sender has a chat. -/
def SenderChat (message : IncomingMessage) (db : Db) : Prop :=
  ∃ r ∈ db.users.rows, r.val.user.telegramId = message.senderId ∧ r.val.user.lastChatId ≠ none

theorem registered_frame (message : IncomingMessage) (db : Db) :
    (registered message db).tasks = db.tasks ∧ (registered message db).history = db.history ∧
      (registered message db).notifications = db.notifications := by
  unfold registered UserRepository.upsertUser
  split <;> exact ⟨rfl, rfl, rfl⟩

theorem senderChat_registered (message : IncomingMessage) (db : Db) :
    SenderChat message (registered message db) := by
  obtain ⟨r, hr, ht, hc⟩ := UserRepository.exists_after_upsert (.fromMessage message .user false) db
  refine ⟨r, hr, ht, ?_⟩
  rw [hc]
  exact fun h => nomatch h

/-- Once the sender has a chat, registering the sender again gives a chat to nobody else. -/
theorem hasChat_of_registered {message : IncomingMessage} {db : Db} (hs : SenderChat message db)
    {userId : Int} (h : (registered message db).HasChat userId) : db.HasChat userId := by
  obtain ⟨s, hsr, hst, hsc⟩ := hs
  obtain ⟨r, hr, hid, hc⟩ := h
  rcases UserRepository.mem_upsertUser ⟨s, hsr, hst⟩ hr with hr | ⟨r₀, hr₀, hid₀, ht⟩
  · exact ⟨r, hr, hid, hc⟩
  · have hclash : Keyed.clash r₀.val s.val = true := decide_eq_true (ht.trans hst.symm)
    have hsame : r₀ = s := Table.eq_of_not_apart hr₀ hsr (.inr hclash)
    exact ⟨s, hsr, by rw [← hsame, hid₀, hid], hsc⟩

/-- A task ready to be stored has the key of the message and an assignee of the table. -/
def ReadyFor (message : IncomingMessage) (uid : Uuid) (db : Db) (prepared : Prepared) : Prop :=
  ∀ creator assignee task, prepared = .ready creator assignee task →
    task.sourceMessageKey = message.sourceMessageKey ∧ task.taskUid = uid ∧
      task.assignedToUserId = assignee.user.bind User.id ∧
      AssigneeResolver.Registered db assignee.user

theorem resolveAssignee_resolves (ranking : NameRanking) (parsedRequest : ParsedTaskRequest)
    (decision : TaskAssigneeDecision) (db : Db) :
    (resolveAssignee ranking parsedRequest decision).Reads db (AssigneeResolver.Resolves db) := by
  have hnone : AssigneeResolver.Resolves db (.resolved ⟨none, none⟩) :=
    AssigneeResolver.resolves_user (AssigneeResolver.registered_none db) none
  unfold resolveAssignee
  split
  · exact .pure hnone
  · refine (AssigneeResolver.resolveEmployeeId_registered _ db).bind fun resolved hu => .pure ?_
    exact AssigneeResolver.resolves_user hu resolved.employee
  · split
    · exact .pure hnone
    · split
      · exact .pure hnone
      · exact AssigneeResolver.resolveWithPurpose_resolves _ _ _ db

theorem draftTask_ready (services : CreationServices) (clock : Nat → Instant) (uid : Uuid)
    (message : IncomingMessage) (decision : TaskAssigneeDecision) (originalText : String)
    (creator : User) (db : Db) :
    (draftTask services clock uid message decision originalText creator).Reads db
      (ReadyFor message uid db) := by
  refine Prog.Reads.bind (.lift fun _ h => h) fun parsedRequest _ => ?_
  refine (resolveAssignee_resolves _ _ _ db).bind fun resolution hres => ?_
  cases resolution with
  | clarificationRequired request => exact .pure fun _ _ _ h => nomatch h
  | resolved assignee =>
    refine Prog.Reads.bind (.lift fun _ h => h) fun generated _ => ?_
    refine Prog.Reads.bind (.lift fun _ h => h) fun task htask => .pure ?_
    intro creator' assignee' task' h
    cases h
    obtain ⟨huid, hkey, hassigned, -⟩ := buildTask_ok htask
    exact ⟨hkey, huid, hassigned, hres assignee rfl⟩

/-- The creator is registered, or the statement failed before or after it was stored. -/
theorem registerCreator_cases (message : IncomingMessage) (plan : Site → Fault AppError) (db : Db) :
    (∃ e db₁, (registerCreator message).run plan db = (.error e, db₁) ∧
      (db₁ = db ∨ db₁ = registered message db)) ∨
    ∃ creator, UserRepository.upsertUser (.fromMessage message .user false) db =
        (.ok creator, registered message db) ∧
      (registerCreator message).run plan db = (.ok creator, registered message db) := by
  have hstore := (plan (.userUpsert message.senderId)).apply_store
    (UserRepository.upsertUser (.fromMessage message .user false)) db
  cases hr : (registerCreator message).run plan db with
  | mk r db₁ =>
    have hdb₁ : db₁ = db ∨ db₁ = registered message db := by
      rw [show db₁ = ((registerCreator message).run plan db).2 by rw [hr]]
      exact hstore
    cases r with
    | error e => exact .inl ⟨e, db₁, rfl, hdb₁⟩
    | ok creator =>
      have hok : plan (.userUpsert (User.fromMessage message .user false).telegramId) = .none :=
        Fault.apply_ok (congrArg Prod.fst hr)
      unfold registerCreator UserRepository.upsertFromMessage at hr
      rw [Prog.run_perform, hok, Fault.apply_none] at hr
      have hreg : registered message db = db₁ := congrArg Prod.snd hr
      rw [← hreg] at hr ⊢
      exact .inr ⟨creator, hr, rfl⟩

/-- What a run has prepared from `db`: it failed and the database is as it was, or the
creator is registered, and nothing else has changed. -/
theorem run_prepare (services : CreationServices) (clock : Nat → Instant) (uid : Uuid)
    (message : IncomingMessage) (decision : TaskAssigneeDecision) (plan : Site → Fault AppError)
    (db : Db) :
    let o := (prepare services clock uid message decision).run plan db
    (o.2 = db ∨ o.2 = registered message db) ∧
      ∀ prepared, o.1 = .ok prepared → o.2 = registered message db ∧ ReadyFor message uid o.2 prepared := by
  unfold prepare
  cases message.validatePayloadLength with
  | error e => exact ⟨.inl rfl, fun _ h => nomatch h⟩
  | ok _ =>
    simp only [Prog.lift_ok_bind]
    cases extractOriginalText services message with
    | error e => exact ⟨.inl rfl, fun _ h => nomatch h⟩
    | ok originalText =>
      simp only [Prog.lift_ok_bind]
      rcases registerCreator_cases message plan db with ⟨e, db₁, hr, hdb₁⟩ | ⟨creator, -, hr⟩
      · rw [Prog.run_bind_error plan hr]
        exact ⟨hdb₁, fun _ h => nomatch h⟩
      · rw [Prog.run_bind_ok plan hr]
        obtain ⟨hsame, hready⟩ := draftTask_ready services clock uid message decision originalText
          creator (registered message db) plan
        rw [hsame]
        exact ⟨.inr rfl, fun prepared h => ⟨rfl, hready prepared h⟩⟩

/-! ## Which failures a creation survives -/

/-- The user a creation announces the task to: one who has a chat. -/
def recipient (user : Option User) : Option Int :=
  user.bind fun u => if u.lastChatId.isNone then none else u.id

/-- No call fails between the insert of the task and the last record that goes with
it: the insert fails before its effect, or it and the read-back are answered, and
then either the audit entry and the notification of the recipient are stored too,
or there is no recipient and the append fails after its effect. -/
def Persists (plan : Site → Fault AppError) (db : Db) (assignee : Option User) (task : Task) : Prop :=
  (∃ e, plan (.taskInsert task.sourceMessageKey) = .before e) ∨
  (plan (.taskInsert task.sourceMessageKey) = .none ∧ plan (.taskFindByKey task.sourceMessageKey) = .none ∧
    ((plan (.auditAppend db.tasks.nextId) = .none ∧ ∀ userId e, recipient assignee = some userId →
        plan (.notificationInsert (assignmentDedupeKey task.taskUid userId) 0) ≠ .before e) ∨
      (recipient assignee = none ∧ ∃ e, plan (.auditAppend db.tasks.nextId) = .after e)))

/-- An assignee of the table who has a chat is the recipient. -/
theorem recipient_of_hasChat {db : Db} {user : Option User} (hreg : AssigneeResolver.Registered db user)
    {userId : Int} (hid : user.bind User.id = some userId) (hchat : db.HasChat userId) :
    recipient user = some userId := by
  obtain ⟨u, rfl, hu⟩ := Option.bind_eq_some_iff.mp hid
  obtain ⟨r, hr, rfl⟩ := hreg u rfl
  obtain ⟨r', hr', hid', hc⟩ := hchat
  have hrid : r.id = userId := Option.some.inj hu
  have hsame : r' = r := Table.eq_of_not_apart hr' hr (.inl (hid'.trans hrid.symm))
  rw [hsame] at hc
  have hsome : ¬ (toUser r).lastChatId.isNone = true := by
    rw [Option.isNone_iff_eq_none]
    exact hc
  simp only [recipient, Option.bind_some, if_neg hsome]
  exact hu

section

variable {plan : Site → Fault AppError} {db : Db}

theorem run_logTaskCreation {task : Task} {taskId : Int} (hid : task.id = some taskId)
    (h : plan (.auditAppend taskId) = .none) (creatorId assigneeId : Option Int) (now : Instant) :
    (logTaskCreation task creatorId assigneeId now).run plan db =
      (.ok (), db.appendHistory (creationEntry task taskId creatorId assigneeId now)) := by
  unfold logTaskCreation
  rw [hid, okOrElse_some, Prog.lift_ok_bind]
  have hrun : (AuditLogRepository.append (creationEntry task taskId creatorId assigneeId now)).run plan db =
      (.ok _, db.appendHistory (creationEntry task taskId creatorId assigneeId now)) := run_write h db
  rw [Prog.run_bind_ok plan hrun]
  rfl

theorem run_logTaskCreation_after {task : Task} {taskId : Int} {e : AppError} (hid : task.id = some taskId)
    (h : plan (.auditAppend taskId) = .after e) (creatorId assigneeId : Option Int) (now : Instant) :
    (logTaskCreation task creatorId assigneeId now).run plan db =
      (.error e, db.appendHistory (creationEntry task taskId creatorId assigneeId now)) := by
  unfold logTaskCreation
  rw [hid, okOrElse_some, Prog.lift_ok_bind]
  have hrun : (AuditLogRepository.append (creationEntry task taskId creatorId assigneeId now)).run plan db =
      (.error e, db.appendHistory (creationEntry task taskId creatorId assigneeId now)) := run_write_after h db
  rw [Prog.run_bind_error plan hrun]

/-- The database after the assignee is told: one notification more when there is a recipient. -/
theorem store_enqueueAssigneeNotification (db : Db) (task : Task) {user : Option User}
    (h : ∀ userId e, recipient user = some userId →
      plan (.notificationInsert (assignmentDedupeKey task.taskUid userId) 0) ≠ .before e)
    (hasEmployeeMatch : Bool) (now : Instant) :
    ((enqueueAssigneeNotification task user hasEmployeeMatch now).run plan db).2 =
      match recipient user with
      | none => db
      | some userId => db.insertNotification (assignmentNotification task userId now) := by
  cases user with
  | none => rfl
  | some u =>
    unfold enqueueAssigneeNotification
    by_cases hchat : u.lastChatId.isNone
    · have hnone : recipient (some u) = none := by
        rw [recipient, Option.bind_some, if_pos hchat]
      simp only [hchat, hnone, if_true]
      rfl
    · have hrec : recipient (some u) = u.id := by
        rw [recipient, Option.bind_some, if_neg hchat]
      rw [hrec] at h ⊢
      simp only [hchat, Bool.false_eq_true, if_false]
      cases hid : u.id with
      | none => rfl
      | some userId =>
        have hstore := NotificationRepository.store_enqueue (n := assignmentNotification task userId now)
          (fun e => h userId e hid) db
        exact Prog.store_bind_reads plan hstore fun _ => .pure _

/-- A freshly inserted task is complete once it is logged and announced. -/
theorem complete_inserted {task : Task} {db' : Db} (hnew : TaskRepository.IsNew task db)
    (htasks : db'.tasks = (TaskRepository.inserted task db).tasks) (hlog : db'.Logged db.tasks.nextId)
    (hann : ∀ userId, task.assignedToUserId = some userId → db'.HasChat userId →
      db'.Announced db.tasks.nextId userId) : Complete task.sourceMessageKey db' := by
  have hmem : TaskRepository.newRow task db ∈ db'.tasks.rows := by
    rw [htasks, (TaskRepository.rows_inserted hnew).1]
    exact List.mem_append_right _ List.mem_cons_self
  refine ⟨TaskRepository.newRow task db, hmem, rfl, fun r' hr' hk => ?_, hlog, hann⟩
  exact unique_of_key hmem hr' hk

/-- A notification under a key that was not taken is the announcement. -/
theorem announced_insert {task : Task} {taskId userId : Int} (hid : task.id = some taskId)
    (hfresh : ∀ n ∈ db.notifications.rows,
      n.val.dedupeKey ≠ assignmentDedupeKey task.taskUid userId) (now : Instant) :
    (db.insertNotification (assignmentNotification task userId now)).Announced taskId userId := by
  rcases Table.insertOrIgnore_cases db.notifications (assignmentNotification task userId now) with
    ⟨⟨n, hn, hc⟩, -⟩ | ⟨-, hrows, -⟩
  · have hkey : n.val.dedupeKey = assignmentDedupeKey task.taskUid userId := of_decide_eq_true hc
    exact absurd hkey (hfresh n hn)
  · rw [Db.Announced, Db.insertNotification, hrows]
    exact ⟨_, List.mem_append_right _ List.mem_cons_self, hid, rfl, rfl⟩

/-- **A run that inserts the task** and whose failures are harmless stores nothing, and
answers an error, or leaves the creation complete. -/
theorem persist_complete (clock : Nat → Instant) (creator : User) {assignee : ResolvedAssignee}
    {task : Task} (hnew : TaskRepository.IsNew task db)
    (hassigned : task.assignedToUserId = assignee.user.bind User.id)
    (hreg : AssigneeResolver.Registered db assignee.user)
    (hfresh : ∀ userId, ∀ n ∈ db.notifications.rows,
      n.val.dedupeKey ≠ assignmentDedupeKey task.taskUid userId)
    (hp : Persists plan db assignee.user task) :
    let o := (persist clock creator assignee task).run plan db
    (o.2 = db ∧ ∃ e, o.1 = .error e) ∨ (o.2.users = db.users ∧ Complete task.sourceMessageKey o.2) := by
  intro o
  rcases hp with ⟨e, hi⟩ | ⟨hi, hf, haudit⟩
  · have hrun : o = (.error e, db) :=
      Prog.run_bind_error plan (TaskRepository.run_createIfAbsent_before hi)
    exact .inl (by rw [hrun]; exact ⟨rfl, e, rfl⟩)
  · refine .inr ?_
    let row := TaskRepository.newRow task db
    let db₁ := TaskRepository.inserted task db
    let entry := creationEntry (toTask row) db.tasks.nextId creator.id (assignee.user.bind User.id) (clock 3)
    have hrun : o = (announce clock creator assignee (toTask row)).run plan db₁ :=
      Prog.run_bind_ok plan (TaskRepository.run_createIfAbsent_new hnew hi hf)
    have hid : (toTask row).id = some db.tasks.nextId := rfl
    have hlogged : (db₁.appendHistory entry).Logged db.tasks.nextId := by
      rw [Db.Logged, rows_appendHistory]
      exact ⟨_, List.mem_append_right _ List.mem_cons_self, rfl, rfl⟩
    -- whoever is assigned and has a chat is the recipient
    have hrec : ∀ userId, task.assignedToUserId = some userId → db.HasChat userId →
        recipient assignee.user = some userId := fun userId hu hc =>
      recipient_of_hasChat hreg (hassigned ▸ hu) hc
    rw [hrun]
    unfold announce
    rcases haudit with ⟨ha, hn⟩ | ⟨hnone, e, ha⟩
    · rw [Prog.run_bind_ok plan (run_logTaskCreation hid ha _ _ _)]
      have hstore := store_enqueueAssigneeNotification (db₁.appendHistory entry) (toTask row) hn
        assignee.employee.isSome (clock 4)
      rw [Prog.store_bind_reads plan hstore fun _ => .pure _]
      cases hr : recipient assignee.user with
      | none =>
        refine ⟨rfl, complete_inserted hnew rfl hlogged fun userId hu hc => ?_⟩
        rw [hrec userId hu hc] at hr
        cases hr
      | some userId =>
        refine ⟨rfl, complete_inserted hnew rfl hlogged fun userId' hu hc => ?_⟩
        have hsame : userId = userId' := Option.some.inj (hr.symm.trans (hrec userId' hu hc))
        rw [← hsame]
        exact announced_insert hid (hfresh userId) (clock 4)
    · rw [Prog.run_bind_error plan (run_logTaskCreation_after hid ha _ _ _)]
      refine ⟨rfl, complete_inserted hnew rfl hlogged fun userId hu hc => ?_⟩
      rw [hrec userId hu hc] at hnone
      cases hnone

/-- A run that finds the task stored changes nothing; it answers only when the key is there. -/
theorem persist_existing (plan : Site → Fault AppError) (clock : Nat → Instant) (creator : User)
    (assignee : ResolvedAssignee) {task : Task} (h : ¬ TaskRepository.IsNew task db) :
    let o := (persist clock creator assignee task).run plan db
    o.2 = db ∧ ∀ outcome, o.1 = .ok outcome → db.HasKey task.sourceMessageKey := by
  obtain ⟨hs, hans⟩ := TaskRepository.run_createIfAbsent_existing plan h
  unfold persist
  cases hr : ((TaskRepository.createIfAbsent task).run plan db).1 with
  | error e =>
    rw [Prog.run_bind_error plan (Prod.ext hr hs)]
    exact ⟨rfl, fun _ h => nomatch h⟩
  | ok p =>
    obtain ⟨r, hmem, hk, rfl⟩ := hans p hr
    rw [Prog.run_bind_ok plan (Prod.ext hr hs)]
    exact ⟨rfl, fun _ _ => ⟨r, hmem, hk⟩⟩

end

/-! ## Runs -/

/-- One run of the creation: what its services answer, its clock, the identifier it
draws, the decision about the assignee, and which of its calls fail. -/
structure CreationRun where
  services : CreationServices
  clock : Nat → Instant
  uid : Uuid
  decision : TaskAssigneeDecision
  plan : Site → Fault AppError

namespace CreationRun

def exec (message : IncomingMessage) (run : CreationRun) (db : Db) : AppResult TaskCreationOutcome × Db :=
  (executeWithAssigneeDecision run.services run.clock run.uid message run.decision).run run.plan db

/-- When the run is about to insert its task, its failures spare what goes with it. -/
def Harmless (message : IncomingMessage) (run : CreationRun) (db : Db) : Prop :=
  ∀ creator assignee task db',
    (prepare run.services run.clock run.uid message run.decision).run run.plan db =
      (.ok (.ready creator assignee task), db') →
    TaskRepository.IsNew task db' → Persists run.plan db' assignee.user task

/-- No notification speaks of a task with the identifier the run draws. -/
def Fresh (run : CreationRun) (db : Db) : Prop :=
  ∀ userId, ∀ n ∈ db.notifications.rows, n.val.dedupeKey ≠ assignmentDedupeKey run.uid userId

end CreationRun

/-- The database after the runs, one after the other. -/
def runAll (message : IncomingMessage) (runs : List CreationRun) (db : Db) : Db :=
  runs.foldl (fun db run => (run.exec message db).2) db

/-- Every run is harmless in the database it finds. -/
def AllHarmless (message : IncomingMessage) : List CreationRun → Db → Prop
  | [], _ => True
  | run :: runs, db => run.Harmless message db ∧ AllHarmless message runs (run.exec message db).2

/-- What holds between two runs: the key is not taken and no notification was added, or
the creation is complete. -/
def Settled (message : IncomingMessage) (start db : Db) : Prop :=
  (¬ db.HasKey message.sourceMessageKey ∧ db.notifications = start.notifications) ∨
    (SenderChat message db ∧ Complete message.sourceMessageKey db)

theorem settled_registered {message : IncomingMessage} {start db : Db} (h : Settled message start db) :
    Settled message start (registered message db) := by
  obtain ⟨htasks, hhistory, hnotifications⟩ := registered_frame message db
  rcases h with ⟨hno, hn⟩ | ⟨hs, r, hr, hk, hunique, hlog, hann⟩
  · refine .inl ⟨?_, hnotifications.trans hn⟩
    rw [Db.HasKey, htasks]
    exact hno
  · refine .inr ⟨senderChat_registered message db, r, by rw [htasks]; exact hr, hk, ?_, ?_, ?_⟩
    · rw [htasks]
      exact hunique
    · rw [Db.Logged, hhistory]
      exact hlog
    · intro userId hu hc
      rw [Db.Announced, hnotifications]
      exact hann userId hu (hasChat_of_registered hs hc)

/-- **One run** keeps the database settled, and leaves the creation complete when it
says that the task is stored. -/
theorem exec_keeps {message : IncomingMessage} {start db : Db} {run : CreationRun}
    (hfresh : run.Fresh start) (hharmless : run.Harmless message db) (h : Settled message start db) :
    Settled message start (run.exec message db).2 ∧
      ∀ outcome, (run.exec message db).1 = .ok outcome → outcome.isStored = true →
        Complete message.sourceMessageKey (run.exec message db).2 := by
  obtain ⟨hstore, hready⟩ :=
    run_prepare run.services run.clock run.uid message run.decision run.plan db
  cases hr : ((prepare run.services run.clock run.uid message run.decision).run run.plan db).1 with
  | error e =>
    have hexec : run.exec message db = (.error e, _) := Prog.run_bind_error run.plan (Prod.ext hr rfl)
    rw [hexec]
    refine ⟨?_, fun _ ho => nomatch ho⟩
    rcases hstore with hs | hs
    · simp only [hs]
      exact h
    · simp only [hs]
      exact settled_registered h
  | ok prepared =>
    obtain ⟨hs, hfor⟩ := hready prepared hr
    have hrun : (prepare run.services run.clock run.uid message run.decision).run run.plan db =
        (.ok prepared, registered message db) := Prod.ext hr hs
    have hsettled : Settled message start (registered message db) := settled_registered h
    cases prepared with
    | clarification request =>
      have hexec : run.exec message db = (.ok (.clarificationRequired request), registered message db) :=
        Prog.run_bind_ok run.plan hrun
      rw [hexec]
      refine ⟨hsettled, fun outcome ho hst => ?_⟩
      cases ho
      cases hst
    | ready creator assignee task =>
      have hexec : run.exec message db =
          (persist run.clock creator assignee task).run run.plan (registered message db) :=
        Prog.run_bind_ok run.plan hrun
      obtain ⟨hkey, huid, hassigned, hreg⟩ := hfor creator assignee task rfl
      rw [hs] at hreg
      rw [hexec]
      by_cases hnew : TaskRepository.IsNew task (registered message db)
      · -- a complete creation would have made the insert clash
        have hnotifications : (registered message db).notifications = start.notifications := by
          rcases hsettled with ⟨-, hn⟩ | ⟨-, r, hmem, hk, -⟩
          · exact hn
          · have hclash := hnew r hmem
            simp [Keyed.clash, TaskRepository.newColumns, hk, hkey] at hclash
        have hfresh' : ∀ userId, ∀ n ∈ (registered message db).notifications.rows,
            n.val.dedupeKey ≠ assignmentDedupeKey task.taskUid userId := by
          rw [hnotifications, huid]
          exact hfresh
        have hp := hharmless creator assignee task _ hrun hnew
        rcases persist_complete run.clock creator hnew hassigned hreg hfresh' hp with
          ⟨hdb, e, he⟩ | ⟨husers, hcomplete⟩
        · rw [hdb]
          refine ⟨hsettled, fun outcome ho => ?_⟩
          rw [he] at ho
          cases ho
        · rw [hkey] at hcomplete
          refine ⟨.inr ⟨?_, hcomplete⟩, fun _ _ _ => hcomplete⟩
          rw [SenderChat, husers]
          exact senderChat_registered message db
      · obtain ⟨hdb, hans⟩ := persist_existing run.plan run.clock creator assignee hnew
        rw [hdb]
        refine ⟨hsettled, fun outcome ho _ => ?_⟩
        rcases hsettled with ⟨hno, -⟩ | ⟨-, hcomplete⟩
        · exact absurd (hkey ▸ hans outcome ho) hno
        · exact hcomplete

theorem runAll_settled {message : IncomingMessage} {start : Db} (runs : List CreationRun) : ∀ {db : Db},
    (∀ run ∈ runs, run.Fresh start) → AllHarmless message runs db → Settled message start db →
      Settled message start (runAll message runs db) := by
  induction runs with
  | nil => exact fun _ _ h => h
  | cons run runs ih =>
    intro db hfresh hharmless h
    have hstep := exec_keeps (hfresh run List.mem_cons_self) hharmless.1 h
    exact ih (fun r hr => hfresh r (List.mem_cons_of_mem run hr)) hharmless.2 hstep.1

theorem allHarmless_append {message : IncomingMessage} (runs runs' : List CreationRun) : ∀ {db : Db},
    AllHarmless message (runs ++ runs') db →
      AllHarmless message runs db ∧ AllHarmless message runs' (runAll message runs db) := by
  induction runs with
  | nil => exact fun h => ⟨trivial, h⟩
  | cons run runs ih =>
    intro db h
    obtain ⟨h₁, h₂⟩ := ih h.2
    exact ⟨⟨h.1, h₁⟩, h₂⟩

/-! ## Top theorem -/

/-- **Retried creations.**  Start from a database without a task for the message, and let
the failures of every run be harmless.  Then a run that answers `created` or
`duplicateFound`, after any earlier runs, leaves exactly one task with the key, with its
audit entry and, when its assignee has a chat, the notification. -/
theorem creation_complete (message : IncomingMessage) (db : Db) (earlier : List CreationRun)
    (run : CreationRun) (hkey : ¬ db.HasKey message.sourceMessageKey)
    (hfresh : ∀ r ∈ earlier ++ [run], r.Fresh db) (hharmless : AllHarmless message (earlier ++ [run]) db)
    (outcome : TaskCreationOutcome)
    (hok : (run.exec message (runAll message earlier db)).1 = .ok outcome)
    (hstored : outcome.isStored = true) :
    Complete message.sourceMessageKey (run.exec message (runAll message earlier db)).2 := by
  obtain ⟨hearlier, hlast⟩ := allHarmless_append earlier [run] hharmless
  have hsettled : Settled message db (runAll message earlier db) :=
    runAll_settled earlier (fun r hr => hfresh r (List.mem_append_left _ hr)) hearlier (.inl ⟨hkey, rfl⟩)
  have hstep := exec_keeps (hfresh run (List.mem_append_right _ List.mem_cons_self)) hlast.1 hsettled
  exact hstep.2 outcome hok hstored

/-! ## Two runs of one message -/

def sampleMessage : IncomingMessage where
  messageId := 7
  chatId := 10
  senderId := 10
  senderName := "Ada"
  senderUsername := none
  content := .text "Write the report"
  timestamp := 0
  sourceMessageKeyOverride := none
  isVoiceOrigin := false

/-- Services that take the text as it is and find no assignee. -/
def sampleServices : CreationServices where
  transcribe _ := .ok ""
  parseTaskRequest text _ := .ok ⟨none, text, none, none, false, 100⟩
  ranking _ _ := .notFound
  generateTask request _ :=
    .ok ⟨⟨"Report", "The report", [request.taskDescription], [], none, false, none⟩, "local", ""⟩
  resolveDeadline _ _ _ _ := ⟨none, none⟩

def sampleRun (n : UInt8) (plan : Site → Fault AppError) : CreationRun :=
  ⟨sampleServices, fun _ => 0, sampleUid n, .auto, plan⟩

def diskError : AppError := databaseError "disk I/O error"

/-- The insert fails before its effect, and the next run creates the task. -/
theorem creation_complete_second_try :
    let first := sampleRun 1 fun site =>
      if site = .taskInsert "telegram:10:7" then .before diskError else .none
    let second := sampleRun 2 fun _ => .none
    Complete sampleMessage.sourceMessageKey
      (second.exec sampleMessage (runAll sampleMessage [first] Db.empty)).2 := by
  intro first second
  refine creation_complete sampleMessage Db.empty [first] second (fun h => ?_) (fun r _ userId n hn => ?_)
    ⟨fun creator assignee task db' hrun _ => .inl ⟨diskError, ?_⟩,
      fun creator assignee task db' hrun _ => .inr ⟨rfl, rfl, .inl ⟨rfl, fun _ _ _ h => nomatch h⟩⟩,
      trivial⟩ _ rfl rfl
  · obtain ⟨r, hr, -⟩ := h
    cases hr
  · cases hn
  · obtain ⟨-, hready⟩ := run_prepare first.services first.clock first.uid sampleMessage first.decision
      first.plan Db.empty
    obtain ⟨-, hfor⟩ := hready _ (congrArg Prod.fst hrun)
    have hk : task.sourceMessageKey = "telegram:10:7" := (hfor creator assignee task rfl).1.trans (by decide)
    rw [hk]
    rfl

/-- The append of the audit entry fails, and the next run finds the task: it answers
`duplicateFound`, and the entry is missing for good. -/
theorem creation_retry_loses_audit :
    let first := sampleRun 1 fun site => if site = .auditAppend 1 then .before diskError else .none
    let second := sampleRun 2 fun _ => .none
    let o := second.exec sampleMessage (runAll sampleMessage [first] Db.empty)
    (∃ summary, o.1 = .ok (.duplicateFound summary)) ∧ ¬ Complete sampleMessage.sourceMessageKey o.2 := by
  intro first second o
  have hhistory : o.2.history.rows = [] := by decide
  refine ⟨⟨_, rfl⟩, fun h => ?_⟩
  obtain ⟨r, -, -, -, ⟨entry, he, -⟩, -⟩ := h
  rw [hhistory] at he
  cases he

end TaskBot
