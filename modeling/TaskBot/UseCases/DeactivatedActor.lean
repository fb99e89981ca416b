import TaskBot.UseCases.Admin
import TaskBot.UseCases.CreationRetry
import TaskBot.UseCases.ReviewGate
import TaskBot.UseCases.TaskComments

/-!
# Deactivated actors

A deactivated account should be able to change nothing.  The gate that looks at
the mark stands before the administrative calls only; a creation, a status update,
a blocker report, a reassignment or a comment never asks it.

* `TaskCall.Granted`: the checks such a call does make all pass;
* `AdminCall.refused`: no administrative call gets past the gate;
* `deactivated_changes_nothing`: a call of a deactivated actor is refused, whatever
  fails, exactly if it is administrative or one of its own checks refuses it.
-/

namespace TaskBot

open Sql Calls RoleAuthorizationPolicy

/-! ## Calls -/

/-- The mutating use cases on tasks, with their arguments and services. -/
inductive TaskCall where
  | createTask (services : CreationServices) (clock : Nat → Instant) (uid : Uuid)
      (message : IncomingMessage) (decision : TaskAssigneeDecision)
  | updateStatus (clock : Nat → Instant) (actor : User) (taskUid : Uuid) (requestedStatus : TaskStatus)
  | reportBlocker (clock : Nat → Instant) (actor : User) (taskUid : Uuid) (blockerReason : String)
  | reassign (clock : Nat → Instant) (ranking : NameRanking) (actor : User) (taskUid : Uuid)
      (assigneeQuery : String) (decision : ReassignAssigneeDecision)
  | comment (clock : Nat → Instant) (actor : User) (taskUid : Uuid) (body : String)

/-- The mutating use cases of the admin panel. -/
inductive AdminCall where
  | changeRole (now : Instant) (actor : User) (targetUserId : Int) (nextRole : UserRole)
  | deactivateUser (now : Instant) (actor : User) (targetUserId : Int)
  | reactivateUser (now : Instant) (actor : User) (targetUserId : Int)
  | toggleFeatureFlag (now : Instant) (actor : User) (flagKey : String) (enabled : Bool)

inductive MutatingCall where
  | task (c : TaskCall)
  | administer (c : AdminCall)

def TaskCall.program : TaskCall → Proc Unit
  | createTask services clock uid message decision =>
      discard (CreateTaskFromMessage.executeWithAssigneeDecision services clock uid message decision)
  | updateStatus clock actor taskUid requestedStatus =>
      discard (UpdateTaskStatus.execute clock actor taskUid requestedStatus)
  | reportBlocker clock actor taskUid blockerReason =>
      discard (ReportTaskBlocker.execute clock actor taskUid blockerReason)
  | reassign clock ranking actor taskUid assigneeQuery decision =>
      discard (ReassignTask.executeWithDecision clock ranking actor taskUid assigneeQuery decision)
  | comment clock actor taskUid body => discard (AddTaskComment.execute clock actor taskUid body)

def AdminCall.actor : AdminCall → User
  | changeRole _ actor _ _ | deactivateUser _ actor _ | reactivateUser _ actor _
  | toggleFeatureFlag _ actor _ _ => actor

def AdminCall.program : AdminCall → Prog Site Process AppError Unit
  | changeRole now actor targetUserId nextRole =>
      onDb (discard (AdminUseCase.changeRole now actor targetUserId nextRole))
  | deactivateUser now actor targetUserId =>
      onDb (discard (AdminUseCase.deactivateUser now actor targetUserId))
  | reactivateUser now actor targetUserId =>
      onDb (discard (AdminUseCase.reactivateUser now actor targetUserId))
  | toggleFeatureFlag now actor flagKey enabled => do
      let _ ← AdminUseCase.toggleFeatureFlag now actor flagKey enabled

def MutatingCall.program : MutatingCall → Prog Site Process AppError Unit
  | task c => onDb c.program
  | administer c => c.program

/-- Who calls is deactivated; the sender of a message is looked up in the table. -/
def TaskCall.ActorDeactivated (db : Db) : TaskCall → Prop
  | createTask _ _ _ message _ =>
      ∃ r ∈ db.users.rows, r.val.user.telegramId = message.senderId ∧ r.val.user.deactivatedAt ≠ none
  | updateStatus _ actor _ _ | reportBlocker _ actor _ _ | reassign _ _ actor _ _ _
  | comment _ actor _ _ => actor.deactivatedAt ≠ none

def MutatingCall.ActorDeactivated (db : Db) : MutatingCall → Prop
  | task c => c.ActorDeactivated db
  | administer c => c.actor.deactivatedAt ≠ none

/-- The tables of tasks, comments, audit entries and notifications are as they were. -/
structure SameRecords (db db' : Db) : Prop where
  tasks : db'.tasks = db.tasks
  comments : db'.comments = db.comments
  history : db'.history = db.history
  adminAudit : db'.adminAudit = db.adminAudit
  notifications : db'.notifications = db.notifications

theorem SameRecords.refl (db : Db) : SameRecords db db := ⟨rfl, rfl, rfl, rfl, rfl⟩

theorem SameRecords.symm {db db' : Db} (h : SameRecords db db') : SameRecords db' db :=
  ⟨h.tasks.symm, h.comments.symm, h.history.symm, h.adminAudit.symm, h.notifications.symm⟩

theorem SameRecords.trans {db db' db'' : Db} (h : SameRecords db db') (h' : SameRecords db' db'') :
    SameRecords db db'' :=
  ⟨h'.tasks.trans h.tasks, h'.comments.trans h.comments, h'.history.trans h.history,
    h'.adminAudit.trans h.adminAudit, h'.notifications.trans h.notifications⟩

/-- The run ends with an error and leaves the records as they were. -/
def Refused {α : Type} (db : Db) (o : AppResult α × Db) : Prop :=
  (∃ e, o.1 = .error e) ∧ SameRecords db o.2

/-! ## The checks a call makes -/

/-- The creation of a task gets an answer: the text is read and parsed, and an assignee who is
found leads to a task that can be stored or is stored already. -/
def CreationGranted (services : CreationServices) (clock : Nat → Instant) (uid : Uuid)
    (message : IncomingMessage) (decision : TaskAssigneeDecision) (db : Db) : Prop :=
  message.validatePayloadLength = .ok () ∧ ∃ text creator parsed resolution,
    CreateTaskFromMessage.extractOriginalText services message = .ok text ∧
    (UserRepository.upsertUser (.fromMessage message .user false) db).1 = .ok creator ∧
    services.parseTaskRequest text (Instant.utcDate (clock 0)) = .ok parsed ∧
    (CreateTaskFromMessage.resolveAssignee services.ranking parsed decision).run noFaults
      (registered message db) = (.ok resolution, registered message db) ∧
    ∀ assignee, resolution = .resolved assignee → ∃ generated task,
      services.generateTask parsed assignee.employee = .ok generated ∧
      CreateTaskFromMessage.buildTask services clock uid message text creator parsed assignee generated =
        .ok task ∧
      (db.HasKey message.sourceMessageKey ∨ ∀ r ∈ db.tasks.rows, r.val.task.taskUid ≠ uid)

/-- The checks the use case makes all pass; none of them looks at the mark. -/
def TaskCall.Granted (db : Db) : TaskCall → Prop
  | createTask services clock uid message decision =>
      CreationGranted services clock uid message decision db
  | updateStatus clock actor taskUid requestedStatus =>
      ∃ t nextStatus updated, db.stored taskUid = some t ∧
        normalizeRequestedStatus actor t requestedStatus = .ok nextStatus ∧
        ensureCanChangeStatus actor t nextStatus = .ok () ∧
        t.transitionTo nextStatus (clock 0) = .ok updated
  | reportBlocker clock actor taskUid blockerReason =>
      ∃ actorId t updated, actor.id = some actorId ∧ db.stored taskUid = some t ∧
        ensureCanReportBlocker actor t = .ok () ∧ t.applyBlocker blockerReason (clock 0) = .ok updated
  | reassign _ ranking actor taskUid assigneeQuery decision =>
      ∃ actorId t resolution, actor.id = some actorId ∧ db.stored taskUid = some t ∧
        ensureCanReassign actor t = .ok () ∧
        (ReassignTask.resolve ranking assigneeQuery decision).run noFaults db = (.ok resolution, db) ∧
        ∀ assignee, resolution = .resolved assignee → t.status.isTerminal = false
  | comment clock actor taskUid body =>
      ∃ actorId t taskId stored, actor.id = some actorId ∧ db.stored taskUid = some t ∧
        ensureCanComment actor t = .ok () ∧ t.id = some taskId ∧
        TaskComment.new taskId actorId .context body (clock 0) = .ok stored

/-! ## A check that fails refuses the call -/

section

variable {α : Type} {db : Db} {plan : Site → Fault AppError}

theorem refused_of_reads {p : Proc α} (h : p.Reads db fun _ => False) (plan : Site → Fault AppError) :
    Refused db (p.run plan db) := by
  obtain ⟨hstore, hno⟩ := h plan
  rw [Refused, hstore]
  cases hr : (p.run plan db).1 with
  | ok a => exact (hno a hr).elim
  | error e => exact ⟨⟨e, rfl⟩, .refl db⟩

theorem Refused.after {db₁ : Db} {o : AppResult α × Db} (hsame : SameRecords db db₁)
    (h : Refused db₁ o) : Refused db o := ⟨h.1, hsame.trans h.2⟩

theorem Refused.before {db₁ : Db} {o : AppResult α × Db} (h : Refused db o) (hsame : SameRecords db db₁) :
    Refused db₁ o := ⟨h.1, hsame.symm.trans h.2⟩

theorem run_discard (p : Proc α) (plan : Site → Fault AppError) (db : Db) :
    (discard p).run plan db = ((p.run plan db).1.map fun _ => (), (p.run plan db).2) := by
  unfold discard
  rw [Prog.run_bind]
  rcases p.run plan db with ⟨r, db'⟩
  cases r <;> rfl

theorem Refused.discard {p : Proc α} (h : Refused db (p.run plan db)) :
    Refused db ((discard p).run plan db) := by
  obtain ⟨⟨e, he⟩, hsame⟩ := h
  rw [run_discard, he]
  exact ⟨⟨e, rfl⟩, hsame⟩

theorem updateStatus_refused {clock : Nat → Instant} {actor : User} {uid : Uuid} {requested : TaskStatus}
    (h : ¬ (TaskCall.updateStatus clock actor uid requested).Granted db) :
    (UpdateTaskStatus.execute clock actor uid requested).Reads db fun _ => False := by
  refine (loadTask_stored uid db).bind fun t ht => ?_
  refine Prog.Reads.bind (.lift fun _ hn => hn) fun nextStatus hnext => ?_
  refine Prog.Reads.bind (.lift fun _ hn => hn) fun _ hcan => ?_
  refine Prog.Reads.bind (.lift fun _ hn => hn) fun updated hup => ?_
  exact absurd ⟨t, nextStatus, updated, ht, hnext, hcan, hup⟩ h

theorem reportBlocker_refused {clock : Nat → Instant} {actor : User} {uid : Uuid} {reason : String}
    (h : ¬ (TaskCall.reportBlocker clock actor uid reason).Granted db) :
    (ReportTaskBlocker.execute clock actor uid reason).Reads db fun _ => False := by
  refine Prog.Reads.bind (.lift fun _ hn => hn) fun actorId hactor => ?_
  refine (loadTask_stored uid db).bind fun t ht => ?_
  refine Prog.Reads.bind (.lift fun _ hn => hn) fun _ hcan => ?_
  refine Prog.Reads.bind (.lift fun _ hn => hn) fun updated hup => ?_
  exact absurd ⟨actorId, t, updated, okOrElse_ok hactor, ht, hcan, hup⟩ h

theorem reassign_refused {clock : Nat → Instant} {ranking : NameRanking} {actor : User} {uid : Uuid}
    {query : String} {decision : ReassignAssigneeDecision}
    (h : ¬ (TaskCall.reassign clock ranking actor uid query decision).Granted db) :
    (ReassignTask.executeWithDecision clock ranking actor uid query decision).Reads db fun _ => False := by
  refine Prog.Reads.bind (.lift fun _ hn => hn) fun actorId hactor => ?_
  refine (loadTask_stored uid db).bind fun t ht => ?_
  refine Prog.Reads.bind (.lift fun _ hn => hn) fun _ hcan => ?_
  have hresolve := (ReassignTask.resolve_strict ranking query decision).reads
    (ReassignTask.resolve_reads ranking query decision) db
  refine hresolve.bind fun resolution hres => ?_
  have hgranted : ¬ ∀ assignee, resolution = .resolved assignee → t.status.isTerminal = false :=
    fun hopen => h ⟨actorId, t, resolution, okOrElse_ok hactor, ht, hcan, hres, hopen⟩
  cases resolution with
  | clarificationRequired request => exact absurd (fun _ hno => nomatch hno) hgranted
  | resolved assignee =>
    refine Prog.Reads.bind (Q := fun _ => False) ?_ fun _ hno => hno.elim
    refine Prog.Reads.bind (.lift fun _ hn => hn) fun updated hup => ?_
    exact absurd (fun _ _ => (Task.reassign_ok hup).1) hgranted

theorem comment_refused {clock : Nat → Instant} {actor : User} {uid : Uuid} {body : String}
    (h : ¬ (TaskCall.comment clock actor uid body).Granted db) :
    (AddTaskComment.execute clock actor uid body).Reads db fun _ => False := by
  refine Prog.Reads.bind (.lift fun _ hn => hn) fun actorId hactor => ?_
  refine (loadTask_stored uid db).bind fun t ht => ?_
  refine Prog.Reads.bind (.lift fun _ hn => hn) fun _ hcan => ?_
  refine Prog.Reads.bind (.lift fun _ hn => hn) fun taskId hid => ?_
  refine Prog.Reads.bind (.lift fun _ hn => hn) fun stored hnew => ?_
  exact absurd ⟨actorId, t, taskId, stored, okOrElse_ok hactor, ht, hcan, okOrElse_ok hid, hnew⟩ h

/-! ### Creation -/

theorem registered_sameRecords (message : IncomingMessage) (db : Db) :
    SameRecords db (registered message db) := by
  unfold registered UserRepository.upsertUser
  split <;> exact ⟨rfl, rfl, rfl, rfl, rfl⟩

/-- A uid that is taken, under another key, is refused. -/
theorem persist_refused (clock : Nat → Instant) (creator : User) (assignee : ResolvedAssignee)
    {task : Task} (hkey : ¬ db.HasKey task.sourceMessageKey)
    (huid : ¬ ∀ r ∈ db.tasks.rows, r.val.task.taskUid ≠ task.taskUid) :
    (CreateTaskFromMessage.persist clock creator assignee task).Reads db fun _ => False := by
  have hold : ¬ TaskRepository.IsNew task db := by
    intro hnew
    refine huid fun r hr he => ?_
    have hclash := (clash_tasks r.val (TaskRepository.newColumns task)).mpr (.inl he)
    rw [hnew r hr] at hclash
    cases hclash
  have hcreate : (TaskRepository.createIfAbsent task).Reads db fun _ => False := by
    intro plan
    obtain ⟨hstore, hfound⟩ := TaskRepository.run_createIfAbsent_existing plan hold
    refine ⟨hstore, fun persisted hok => ?_⟩
    obtain ⟨r, hr, hk, -⟩ := hfound persisted hok
    exact hkey ⟨r, hr, hk⟩
  exact hcreate.bind fun _ hno => hno.elim

/-- A task that is drafted without being granted cannot be stored. -/
theorem draftTask_blocked {services : CreationServices} {clock : Nat → Instant} {uid : Uuid}
    {message : IncomingMessage} {decision : TaskAssigneeDecision} {text : String} {creator : User}
    (h : ¬ CreationGranted services clock uid message decision db)
    (hlen : message.validatePayloadLength = .ok ())
    (htext : CreateTaskFromMessage.extractOriginalText services message = .ok text)
    (hcreator : (UserRepository.upsertUser (.fromMessage message .user false) db).1 = .ok creator) :
    (CreateTaskFromMessage.draftTask services clock uid message decision text creator).Reads
      (registered message db) fun prepared => ∃ assignee task, prepared = .ready creator assignee task ∧
        ¬ (registered message db).HasKey task.sourceMessageKey ∧
        ¬ ∀ r ∈ (registered message db).tasks.rows, r.val.task.taskUid ≠ task.taskUid := by
  refine Prog.Reads.bind (.lift fun _ hn => hn) fun parsed hparsed => ?_
  have hresolve := (CreateTaskFromMessage.resolveAssignee_strict services.ranking parsed decision).reads
    (CreateTaskFromMessage.resolveAssignee_reads services.ranking parsed decision) (registered message db)
  refine hresolve.bind fun resolution hres => ?_
  cases resolution with
  | clarificationRequired request =>
    exact absurd ⟨hlen, text, creator, parsed, _, htext, hcreator, hparsed, hres, fun _ ha => nomatch ha⟩ h
  | resolved assignee =>
    refine Prog.Reads.bind (.lift fun _ hn => hn) fun generated hgenerated => ?_
    refine Prog.Reads.bind (.lift fun _ hn => hn) fun task htask => .pure ⟨assignee, task, rfl, ?_⟩
    obtain ⟨huid, hkey, -, -⟩ := CreateTaskFromMessage.buildTask_ok htask
    rw [Db.HasKey, (registered_sameRecords message db).tasks, huid, hkey]
    rw [← not_or]
    intro hopen
    refine h ⟨hlen, text, creator, parsed, _, htext, hcreator, hparsed, hres, fun assignee' ha => ?_⟩
    cases ha
    exact ⟨generated, task, hgenerated, htask, hopen⟩

theorem createTask_refused {services : CreationServices} {clock : Nat → Instant} {uid : Uuid}
    {message : IncomingMessage} {decision : TaskAssigneeDecision}
    (h : ¬ CreationGranted services clock uid message decision db) :
    Refused db ((CreateTaskFromMessage.executeWithAssigneeDecision services clock uid message
      decision).run plan db) := by
  have hfail : ∀ e, Refused db ((.error e, db) : AppResult TaskCreationOutcome × Db) :=
    fun e => ⟨⟨e, rfl⟩, .refl db⟩
  unfold CreateTaskFromMessage.executeWithAssigneeDecision CreateTaskFromMessage.prepare
  simp only [Prog.bind_assoc]
  cases hlen : message.validatePayloadLength with
  | error e => exact hfail e
  | ok _ =>
  cases htext : CreateTaskFromMessage.extractOriginalText services message with
  | error e => exact hfail e
  | ok text =>
  simp only [Prog.lift_ok_bind]
  have hsame := registered_sameRecords message db
  rcases registerCreator_cases message plan db with ⟨e, db₁, hr, hdb₁⟩ | ⟨creator, hcreator, hr⟩
  · rw [Prog.run_bind_error plan hr]
    rcases hdb₁ with rfl | rfl
    · exact hfail e
    · exact ⟨⟨e, rfl⟩, hsame⟩
  · rw [Prog.run_bind_ok plan hr]
    have hdraft := draftTask_blocked h hlen htext (congrArg Prod.fst hcreator)
    refine Refused.after hsame (refused_of_reads (hdraft.bind fun prepared hblocked => ?_) plan)
    obtain ⟨assignee, task, rfl, hkey, huid⟩ := hblocked
    exact persist_refused clock creator assignee hkey huid

/-! ## A granted call is not refused -/

theorem not_refused_ok {a : α} {db₁ : Db} : ¬ Refused db ((.ok a, db₁) : AppResult α × Db) :=
  fun h => nomatch h.1.choose_spec

/-- A new version of a task is there to see, whatever is written beside it. -/
theorem not_refused_of_update {uid : Uuid} {t task : Task} {f : Task → Proc α}
    (ht : db.stored uid = some t) (hs : task.SameDraft t) (hv : task.version = t.version + 1)
    (hf : ∀ saved, LeavesTasks (f saved)) :
    ¬ Refused db ((TaskRepository.update task >>= f).run noFaults db) := by
  have hbase : db.stored task.taskUid = some t := by
    rw [hs.taskUid, Db.stored_taskUid ht]
    exact ht
  obtain ⟨hup, hstored⟩ := TaskRepository.update_ok hbase (by omega) hs
  have hrun : (TaskRepository.update task).run noFaults db = (.ok task, TaskRepository.updated task db) := hup
  rw [Prog.run_bind_ok noFaults hrun]
  intro hrefused
  have hrest := (hf task).run noFaults (TaskRepository.updated task db)
  have hsame : (TaskRepository.updated task db).tasks = db.tasks := hrest.symm.trans hrefused.2.tasks
  rw [Db.stored_congr hsame, hbase] at hstored
  obtain rfl : t = task := Option.some.inj hstored
  omega

theorem updateStatus_granted {clock : Nat → Instant} {actor : User} {uid : Uuid} {requested : TaskStatus}
    (h : (TaskCall.updateStatus clock actor uid requested).Granted db) :
    ¬ Refused db ((UpdateTaskStatus.execute clock actor uid requested).run noFaults db) := by
  obtain ⟨t, nextStatus, updated, ht, hnext, hcan, hup⟩ := h
  unfold UpdateTaskStatus.execute
  rw [Prog.run_bind_ok noFaults (run_loadTask ht), hnext, Prog.lift_ok_bind, hcan, Prog.lift_ok_bind, hup,
    Prog.lift_ok_bind]
  obtain ⟨-, rfl⟩ := Task.transitionTo_ok hup
  refine not_refused_of_update ht (t.advanced_sameDraft nextStatus (clock 0)) rfl fun saved => ?_
  refine .bind (UpdateTaskStatus.logStatusChange_leavesTasks _ _ _ _ _) fun _ => ?_
  exact .bind (UpdateTaskStatus.enqueueParticipantNotifications_leavesTasks _ _ _ _) fun _ => .pure _

theorem reportBlocker_granted {clock : Nat → Instant} {actor : User} {uid : Uuid} {reason : String}
    (h : (TaskCall.reportBlocker clock actor uid reason).Granted db) :
    ¬ Refused db ((ReportTaskBlocker.execute clock actor uid reason).run noFaults db) := by
  obtain ⟨actorId, t, updated, hactor, ht, hcan, hup⟩ := h
  unfold ReportTaskBlocker.execute
  rw [hactor, okOrElse_some, Prog.lift_ok_bind, Prog.run_bind_ok noFaults (run_loadTask ht), hcan,
    Prog.lift_ok_bind, hup, Prog.lift_ok_bind]
  obtain ⟨-, rfl⟩ := Task.applyBlocker_ok hup
  refine not_refused_of_update ht (by constructor <;> rfl) rfl fun saved => ?_
  refine .bind (.lift _) fun taskId => .bind (.lift _) fun comment => ?_
  refine .bind (create_leavesTasks comment) fun stored => .bind (append_leavesTasks _) fun _ => ?_
  exact .bind (ReportTaskBlocker.notifyCreator_leavesTasks _ _ _ _) fun _ => .pure _

theorem reassign_granted {clock : Nat → Instant} {ranking : NameRanking} {actor : User} {uid : Uuid}
    {query : String} {decision : ReassignAssigneeDecision}
    (h : (TaskCall.reassign clock ranking actor uid query decision).Granted db) :
    ¬ Refused db ((ReassignTask.executeWithDecision clock ranking actor uid query decision).run
      noFaults db) := by
  obtain ⟨actorId, t, resolution, hactor, ht, hcan, hres, hopen⟩ := h
  unfold ReassignTask.executeWithDecision
  rw [hactor, okOrElse_some, Prog.lift_ok_bind, Prog.run_bind_ok noFaults (run_loadTask ht), hcan,
    Prog.lift_ok_bind, Prog.run_bind_ok noFaults hres]
  cases resolution with
  | clarificationRequired request => exact not_refused_ok
  | resolved assignee =>
    have hlive : ¬ t.status.isTerminal = true := by
      rw [hopen assignee rfl]
      exact Bool.false_ne_true
    obtain ⟨updated, hup⟩ : ∃ updated, t.reassign (assignee.user.bind User.id)
        (assignee.employee.bind Employee.id) (clock 0) = .ok updated := ⟨_, if_neg hlive⟩
    obtain ⟨-, -, hversion, -, hdraft⟩ := Task.reassign_ok hup
    simp only
    unfold ReassignTask.store
    rw [hup, Prog.lift_ok_bind, Prog.bind_assoc]
    refine not_refused_of_update ht hdraft hversion fun saved => ?_
    refine .bind (.bind (.lift _) fun taskId => .bind (append_leavesTasks _) fun _ => ?_) fun _ => .pure _
    exact .bind (ReassignTask.notifyNewAssignee_leavesTasks _ _) fun _ => .pure _

/-- No statement of the program touches the table of comments. -/
def LeavesComments (p : Proc α) : Prop := p.Within fun db db' => db'.comments = db.comments

theorem LeavesComments.run {p : Proc α} (h : LeavesComments p) (plan : Site → Fault AppError) (db : Db) :
    (p.run plan db).2.comments = db.comments :=
  Prog.run_within (K := fun (db db' : Db) => db'.comments = db.comments) plan (fun _ => rfl)
    (fun _ _ _ hs hs' => hs'.trans hs) h db

theorem notifyRecipient_leavesComments (slot : Nat) (actorId : Int) (task : Task) (body : String)
    (commentId : Option Int) (now : Instant) (recipient : Option Int) :
    LeavesComments (AddTaskComment.notifyRecipient slot actorId task body commentId now recipient) := by
  unfold AddTaskComment.notifyRecipient
  split
  · exact .pure _
  · split
    · exact .pure _
    · refine .bind ?_ fun _ => .pure _
      refine .bind (write_within fun _ => rfl) fun _ => .bind ?_ fun _ => .bind (.lift _) fun _ => .pure _
      exact (select_reads _ _).mono fun db db' he => by rw [he]

/-- So is a comment. -/
theorem not_refused_of_create {comment : TaskComment} {f : TaskComment → Proc α}
    (hf : ∀ stored, LeavesComments (f stored)) :
    ¬ Refused db ((CommentRepository.create comment >>= f).run noFaults db) := by
  have hcreate : (CommentRepository.create comment).run noFaults db = (.ok _, db.appendComment comment) :=
    run_write rfl db
  rw [Prog.run_bind_ok noFaults hcreate]
  intro hrefused
  have hrest := (hf { comment with id := some db.comments.nextId }).run noFaults (db.appendComment comment)
  have hsame : (db.appendComment comment).comments.rows = db.comments.rows :=
    congrArg Table.rows (hrest.symm.trans hrefused.2.comments)
  have hlength := congrArg List.length hsame
  rw [rows_appendComment, List.length_append, List.length_singleton] at hlength
  omega

theorem comment_granted {clock : Nat → Instant} {actor : User} {uid : Uuid} {body : String}
    (h : (TaskCall.comment clock actor uid body).Granted db) :
    ¬ Refused db ((AddTaskComment.execute clock actor uid body).run noFaults db) := by
  obtain ⟨actorId, t, taskId, comment, hactor, ht, hcan, hid, hnew⟩ := h
  unfold AddTaskComment.execute
  rw [hactor, okOrElse_some, Prog.lift_ok_bind, Prog.run_bind_ok noFaults (run_loadTask ht), hcan,
    Prog.lift_ok_bind, hid, okOrElse_some, Prog.lift_ok_bind, hnew, Prog.lift_ok_bind]
  refine not_refused_of_create fun stored => ?_
  refine .bind (.bind (write_within fun _ => rfl) fun _ => .pure _) fun _ => ?_
  refine .bind (.bind (notifyRecipient_leavesComments _ _ _ _ _ _ _) fun _ => ?_) fun _ => .pure _
  exact notifyRecipient_leavesComments _ _ _ _ _ _ _

/-! ### Creation -/

/-- With the key stored, the creation answers with the task there is. -/
theorem persist_duplicate (clock : Nat → Instant) (creator : User) (assignee : ResolvedAssignee)
    {task : Task} (hkey : db.HasKey task.sourceMessageKey) :
    ¬ Refused db ((CreateTaskFromMessage.persist clock creator assignee task).run noFaults db) := by
  obtain ⟨r, hr, hk⟩ := hkey
  have hold : ¬ TaskRepository.IsNew task db := by
    intro hnew
    have hclash := (clash_tasks r.val (TaskRepository.newColumns task)).mpr (.inr hk)
    rw [hnew r hr] at hclash
    cases hclash
  obtain ⟨hsame, hflag⟩ := TaskRepository.insert_of_not_new hold
  have hinsert : (TaskRepository.insertTask task).run noFaults db = (.ok false, db) :=
    (run_write rfl db).trans (by rw [hsame, hflag])
  have hfound : db.tasks.find? (fun r => r.val.task.sourceMessageKey = task.sourceMessageKey) = some r := by
    refine Table.find?_eq hr (decide_eq_true hk) fun a b ha hb => .inr ?_
    rw [decide_eq_true_eq] at ha hb
    simp [Keyed.clash, ha, hb]
  have hfind : (TaskRepository.findBySourceMessageKey task.sourceMessageKey).run noFaults db =
      (.ok (some (toTask r)), db) := (run_select rfl db).trans (by rw [hfound]; rfl)
  have hcreate : (TaskRepository.createIfAbsent task).run noFaults db = (.ok (.existing (toTask r)), db) := by
    unfold TaskRepository.createIfAbsent TaskRepository.readBack
    rw [Prog.run_bind_ok noFaults hinsert, Prog.run_bind_ok noFaults hfind]
    rfl
  unfold CreateTaskFromMessage.persist
  rw [Prog.run_bind_ok noFaults hcreate]
  exact not_refused_ok

/-- A task that is new is inserted. -/
theorem persist_new (clock : Nat → Instant) (creator : User) (assignee : ResolvedAssignee)
    {task : Task} (hnew : TaskRepository.IsNew task db) :
    ¬ Refused db ((CreateTaskFromMessage.persist clock creator assignee task).run noFaults db) := by
  unfold CreateTaskFromMessage.persist
  rw [Prog.run_bind_ok noFaults (TaskRepository.run_createIfAbsent_new hnew rfl rfl)]
  intro hrefused
  have hleaves : LeavesTasks (CreateTaskFromMessage.announce clock creator assignee
      (toTask (TaskRepository.newRow task db))) :=
    .bind (CreateTaskFromMessage.logTaskCreation_leavesTasks _ _ _ _) fun _ =>
      .bind (CreateTaskFromMessage.enqueueAssigneeNotification_leavesTasks _ _ _ _) fun _ => .pure _
  have hrest := hleaves.run noFaults (TaskRepository.inserted task db)
  have hsame : (TaskRepository.inserted task db).tasks.rows = db.tasks.rows :=
    congrArg Table.rows (hrest.symm.trans hrefused.2.tasks)
  have hlength := congrArg List.length hsame
  rw [(TaskRepository.rows_inserted hnew).1, List.length_append, List.length_singleton] at hlength
  omega

theorem createTask_granted {services : CreationServices} {clock : Nat → Instant} {uid : Uuid}
    {message : IncomingMessage} {decision : TaskAssigneeDecision}
    (h : CreationGranted services clock uid message decision db) :
    ¬ Refused db ((CreateTaskFromMessage.executeWithAssigneeDecision services clock uid message
      decision).run noFaults db) := by
  obtain ⟨hlen, text, creator, parsed, resolution, htext, hcreator, hparsed, hres, hready⟩ := h
  have hregister : (CreateTaskFromMessage.registerCreator message).run noFaults db =
      (.ok creator, registered message db) := Prod.ext hcreator rfl
  have hsame := registered_sameRecords message db
  unfold CreateTaskFromMessage.executeWithAssigneeDecision CreateTaskFromMessage.prepare
    CreateTaskFromMessage.draftTask
  simp only [Prog.bind_assoc, hlen, htext, hparsed, Prog.lift_ok_bind]
  rw [Prog.run_bind_ok noFaults hregister, Prog.run_bind_ok noFaults hres]
  cases resolution with
  | clarificationRequired request => exact not_refused_ok
  | resolved assignee =>
    obtain ⟨generated, task, hgenerated, htask, hopen⟩ := hready assignee rfl
    simp only [hgenerated, htask, Prog.lift_ok_bind, Prog.pure_bind]
    intro hrefused
    have hpersist := hrefused.before hsame
    obtain ⟨huid, hkey, -, -⟩ := CreateTaskFromMessage.buildTask_ok htask
    by_cases hstored : db.HasKey message.sourceMessageKey
    · refine persist_duplicate clock creator assignee ?_ hpersist
      rw [Db.HasKey, hsame.tasks, hkey]
      exact hstored
    · refine persist_new clock creator assignee (fun r hr => ?_) hpersist
      rw [hsame.tasks] at hr
      refine Bool.eq_false_iff.mpr fun hclash => ?_
      rcases (clash_tasks _ _).mp hclash with he | he
      · exact (hopen.resolve_left hstored) r hr (he.trans huid)
      · exact hstored ⟨r, hr, he.trans hkey⟩

end

/-! ## All calls -/

/-- **A task call is refused, whatever fails, exactly if a check of its own refuses it.** -/
theorem TaskCall.refused_iff (c : TaskCall) (db : Db) :
    (∀ plan, Refused db (c.program.run plan db)) ↔ ¬ c.Granted db := by
  constructor
  · intro hall hgranted
    have hplain : ∀ {α : Type} {p : Proc α}, Refused db ((discard p).run noFaults db) →
        Refused db (p.run noFaults db) := by
      intro α p hrefused
      rw [run_discard] at hrefused
      obtain ⟨⟨e, he⟩, hsame⟩ := hrefused
      refine ⟨?_, hsame⟩
      cases hr : (p.run noFaults db).1 with
      | ok a => rw [hr] at he; cases he
      | error e' => exact ⟨e', rfl⟩
    have hrefused := hall noFaults
    cases c with
    | createTask services clock uid message decision => exact createTask_granted hgranted (hplain hrefused)
    | updateStatus clock actor uid requested => exact updateStatus_granted hgranted (hplain hrefused)
    | reportBlocker clock actor uid reason => exact reportBlocker_granted hgranted (hplain hrefused)
    | reassign clock ranking actor uid query decision => exact reassign_granted hgranted (hplain hrefused)
    | comment clock actor uid body => exact comment_granted hgranted (hplain hrefused)
  · intro hno plan
    cases c with
    | createTask services clock uid message decision => exact (createTask_refused hno).discard
    | updateStatus clock actor uid requested =>
      exact (refused_of_reads (updateStatus_refused hno) plan).discard
    | reportBlocker clock actor uid reason =>
      exact (refused_of_reads (reportBlocker_refused hno) plan).discard
    | reassign clock ranking actor uid query decision =>
      exact (refused_of_reads (reassign_refused hno) plan).discard
    | comment clock actor uid body => exact (refused_of_reads (comment_refused hno) plan).discard

/-- The answer of a call of the process, and the database it leaves. -/
def onlyDb (o : AppResult Unit × Process) : AppResult Unit × Db := (o.1, o.2.db)

theorem getUser_gated {actor : User} {e : AppError} (hgate : ensureCanAccessAdminPanel actor = .error e)
    (targetUserId : Int) : AdminUseCase.getUser actor targetUserId = .fail e := by
  unfold AdminUseCase.getUser ensureCanViewAdminPanel
  rw [hgate]
  rfl

/-- **No administrative call of a deactivated actor gets past the gate.** -/
theorem AdminCall.refused (c : AdminCall) (hdeactivated : c.actor.deactivatedAt ≠ none)
    (plan : Site → Fault AppError) (s : Process) :
    Refused s.db (onlyDb (c.program.run plan s)) := by
  obtain ⟨e, hgate⟩ : ∃ e, ensureCanAccessAdminPanel c.actor = .error e := by
    cases hgate : ensureCanAccessAdminPanel c.actor with
    | ok _ => exact absurd (ensureCanAccessAdminPanel_ok.mp hgate).1 hdeactivated
    | error e => exact ⟨e, rfl⟩
  have hend : c.program = .fail e := by
    cases c with
    | changeRole now actor targetUserId nextRole =>
      have hcall : AdminUseCase.changeRole now actor targetUserId nextRole = .fail e := by
        unfold AdminUseCase.changeRole
        rw [getUser_gated (show ensureCanAccessAdminPanel actor = .error e from hgate)]
        rfl
      exact congrArg (fun p => onDb (discard p)) hcall
    | deactivateUser now actor targetUserId =>
      have hcall : AdminUseCase.deactivateUser now actor targetUserId = .fail e := by
        unfold AdminUseCase.deactivateUser
        rw [getUser_gated (show ensureCanAccessAdminPanel actor = .error e from hgate)]
        rfl
      exact congrArg (fun p => onDb (discard p)) hcall
    | reactivateUser now actor targetUserId =>
      have hcall : AdminUseCase.reactivateUser now actor targetUserId = .fail e := by
        unfold AdminUseCase.reactivateUser
        rw [getUser_gated (show ensureCanAccessAdminPanel actor = .error e from hgate)]
        rfl
      exact congrArg (fun p => onDb (discard p)) hcall
    | toggleFeatureFlag now actor flagKey enabled =>
      have hcall : AdminUseCase.toggleFeatureFlag now actor flagKey enabled = .fail e := by
        unfold AdminUseCase.toggleFeatureFlag
        rw [show ensureCanAccessAdminPanel actor = .error e from hgate]
        rfl
      exact congrArg (fun p => p >>= fun _ => pure ()) hcall
  rw [hend]
  exact ⟨⟨e, rfl⟩, .refl s.db⟩

/-! ## Top theorem -/

/-- **What a deactivated actor can change.**  A call is refused, whatever fails, exactly if it is
administrative or a check that does not look at the mark refuses it. -/
theorem deactivated_changes_nothing (call : MutatingCall) (s : Process)
    (h : call.ActorDeactivated s.db) :
    (∀ plan, Refused s.db (onlyDb (call.program.run plan s))) ↔
      ∀ c, call = .task c → ¬ c.Granted s.db := by
  cases call with
  | task c =>
    have hrun : ∀ plan, onlyDb ((onDb c.program).run plan s) = c.program.run plan s.db := by
      intro plan
      rw [run_onDb]
      rfl
    show (∀ plan, Refused s.db (onlyDb ((onDb c.program).run plan s))) ↔ _
    simp only [hrun, c.refused_iff]
    constructor
    · intro hno c' hc
      cases hc
      exact hno
    · exact fun hno => hno c rfl
  | administer c => exact iff_of_true (fun plan => c.refused h plan s) fun _ hc => nomatch hc

/-- The assignee of the sample task, deactivated. -/
def formerEmployee : User := { sampleActor 2 .user with deactivatedAt := some 1 }

/-- What a deactivated admin presses. -/
def formerAdminToggle : MutatingCall :=
  .administer (.toggleFeatureFlag 5 { formerEmployee with role := .admin } "csv_export" true)

/-- A deactivated admin toggles no flag. -/
theorem former_admin_refused :
    Refused sampleDb (onlyDb (formerAdminToggle.program.run noFaults ⟨sampleDb, ⟨[]⟩⟩)) := by
  have hdeactivated : formerAdminToggle.ActorDeactivated sampleDb := fun h => nomatch h
  exact (deactivated_changes_nothing formerAdminToggle ⟨sampleDb, ⟨[]⟩⟩ hdeactivated).mpr
    (fun _ h => nomatch h) noFaults

/-- The deactivated assignee still takes the task into work. -/
theorem former_employee_changes_status :
    ¬ ∀ (call : MutatingCall) (s : Process), call.ActorDeactivated s.db →
      ∀ plan, Refused s.db (onlyDb (call.program.run plan s)) := by
  intro hall
  obtain ⟨⟨e, he⟩, -⟩ := hall (.task (.updateStatus (fun _ => 5) formerEmployee (sampleUid 1) .inProgress))
    ⟨sampleDb, ⟨[]⟩⟩ (fun h => nomatch h) noFaults
  have hok : (onlyDb ((MutatingCall.task (.updateStatus (fun _ => 5) formerEmployee (sampleUid 1)
      .inProgress)).program.run noFaults ⟨sampleDb, ⟨[]⟩⟩)).1 = .ok () := by decide
  rw [hok] at he
  cases he

end TaskBot
