import TaskBot.UseCases.MutationWrites

/-!
# Mutations without failures

When no call fails, a mutation is whole: it is refused and stores nothing, or it
answers and everything is stored.

* `answers`, once for each use case: what its checks let through it answers;
* `StoresInOrder.whole`: nothing is half stored.
-/

namespace TaskBot

open Sql Calls TaskRepository

/-! ## Records -/

theorem answers_append (entry : AuditLogEntry) (db : Db) :
    Prog.Answers noFaults (AuditLogRepository.append entry) db := ⟨_, _, run_write rfl db⟩

theorem answers_create (comment : TaskComment) (db : Db) :
    Prog.Answers noFaults (CommentRepository.create comment) db := ⟨_, _, run_write rfl db⟩

section

variable {db : Db} {uid : Uuid} {t : Task}

/-- An allowed update answers with its argument. -/
theorem run_update {task : Task} (ht : db.stored uid = some t) (hs : task.SameDraft t)
    (hv : task.version = t.version + 1) :
    (TaskRepository.update task).run noFaults db = (.ok task, updated task db) := by
  have hbase : db.stored task.taskUid = some t := by
    rw [hs.taskUid, Db.stored_taskUid ht]
    exact ht
  exact (update_ok hbase (by omega) hs).1

/-! ## Use cases -/

namespace UpdateTaskStatus

theorem answers_notifyParticipant (slot : Nat) (actorId : Option Int) (task : Task)
    (nextStatus : TaskStatus) (now : Instant) (recipient : Option Int) (db : Db) :
    Prog.Answers noFaults (notifyParticipant slot actorId task nextStatus now recipient) db := by
  unfold notifyParticipant
  split
  · exact .pure _ _
  · split
    · exact .pure _ _
    · exact .bind (answers_enqueue _ _ _) fun _ _ _ => .pure _ _

theorem answers {clock : Nat → Instant} {actor : User} {requested : TaskStatus} {m : Mutation}
    (ht : db.stored uid = some t) (h : Allowed clock actor requested t m) :
    Prog.Answers noFaults (execute clock actor uid requested) db := by
  obtain ⟨taskId, next, hid, hnext, hcan, hup, -⟩ := h
  obtain ⟨-, htask⟩ := Task.transitionTo_ok hup
  have hdraft : m.task.SameDraft t := by
    rw [htask]
    exact t.advanced_sameDraft next (clock 0)
  have hversion : m.task.version = t.version + 1 := by
    rw [htask]
    rfl
  refine .of_run (run_loadTask ht) (.lift_bind hnext (.lift_bind hcan (.lift_bind hup ?_)))
  refine .of_run (run_update ht hdraft hversion) (.bind ?_ fun _ _ _ => ?_)
  · have hsaved : m.task.id = some taskId := by rw [hdraft.id, hid]
    refine .lift_bind (b := taskId) (by rw [hsaved]; rfl) ?_
    exact .bind (answers_append _ _) fun _ _ _ => .pure _ _
  · refine .bind (.bind (answers_notifyParticipant _ _ _ _ _ _ _) fun _ _ _ => ?_) fun _ _ _ => .pure _ _
    exact answers_notifyParticipant _ _ _ _ _ _ _

end UpdateTaskStatus

namespace ReportTaskBlocker

/-- A reason that fits the task fits a comment. -/
theorem comment_of_applyBlocker {t' : Task} {reason : String} {now now' : Instant} {taskId actorId : Int}
    (h : t.applyBlocker reason now = .ok t') : ∃ c, TaskComment.new taskId actorId .blocker reason now' = .ok c := by
  unfold Task.applyBlocker at h
  simp only at h
  split at h
  · cases h
  · next hempty =>
    split at h
    · cases h
    · next hlong =>
      have hlimit : ¬ charsCount (trim reason) > maxTaskCommentLength := by
        have hle : maxTaskBlockerReasonLength ≤ maxTaskCommentLength := by decide
        omega
      unfold TaskComment.new
      simp only
      rw [if_neg hempty, if_neg hlimit]
      exact ⟨_, rfl⟩

theorem answers_notifyCreator (task : Task) (reason : String) (actorId : Int) (now : Instant) (db : Db) :
    Prog.Answers noFaults (notifyCreator task reason actorId now) db := by
  unfold notifyCreator
  split
  · exact .pure _ _
  · exact .bind (answers_enqueue _ _ _) fun _ _ _ => .pure _ _

theorem answers {clock : Nat → Instant} {actor : User} {reason : String} {m : Mutation}
    (ht : db.stored uid = some t) (h : Allowed clock actor reason t m) :
    Prog.Answers noFaults (execute clock actor uid reason) db := by
  obtain ⟨taskId, actorId, hid, hactor, hcan, hup, -⟩ := h
  obtain ⟨-, htask⟩ := Task.applyBlocker_ok hup
  have hdraft : m.task.SameDraft t := by
    rw [htask]
    constructor <;> rfl
  have hversion : m.task.version = t.version + 1 := by
    rw [htask]
    rfl
  obtain ⟨comment, hcomment⟩ := @comment_of_applyBlocker t m.task reason (clock 0) (clock 1) taskId actorId hup
  have hsaved : m.task.id = some taskId := by rw [hdraft.id, hid]
  refine .lift_bind (b := actorId) (by rw [hactor]; rfl) (.of_run (run_loadTask ht) ?_)
  refine .lift_bind hcan (.lift_bind hup (.of_run (run_update ht hdraft hversion) ?_))
  refine .lift_bind (b := taskId) (by rw [hsaved]; rfl) (.lift_bind hcomment ?_)
  refine .bind (answers_create _ _) fun _ _ _ => .bind (answers_append _ _) fun _ _ _ => ?_
  exact .bind (answers_notifyCreator _ _ _ _ _) fun _ _ _ => .pure _ _

end ReportTaskBlocker

namespace ReassignTask

theorem answers_notifyNewAssignee (task : Task) (now : Instant) (db : Db) :
    Prog.Answers noFaults (notifyNewAssignee task now) db := by
  unfold notifyNewAssignee
  split
  · exact .pure _ _
  · exact .bind (answers_enqueue _ _ _) fun _ _ _ => .pure _ _

theorem answers_resolve (ranking : NameRanking) (query : String) (decision : ReassignAssigneeDecision) (db : Db) :
    Prog.Answers noFaults (resolve ranking query decision) db := by
  cases decision with
  | employeeId id =>
    exact .bind ⟨_, _, AssigneeResolver.run_resolveEmployeeId id db⟩ fun _ _ _ => .pure _ _
  | auto =>
    obtain ⟨resolution, hrun, -⟩ := AssigneeResolver.run_resolveWithPurpose ranking query .reassignment db
    exact ⟨resolution, db, hrun⟩

/-- A resolved assignee of a live task. -/
theorem answers_store {clock : Nat → Instant} {actorId : Int} {query : String} {resolved : ResolvedAssignee}
    (ht : db.stored uid = some t) (hlive : t.status.isTerminal = false) :
    Prog.Answers noFaults (store clock actorId t query resolved) db := by
  have hnot : ¬ t.status.isTerminal = true := by
    rw [hlive]
    exact Bool.false_ne_true
  obtain ⟨task, hup⟩ : ∃ task, t.reassign (resolved.user.bind User.id) (resolved.employee.bind Employee.id)
      (clock 0) = .ok task := ⟨_, if_neg hnot⟩
  obtain ⟨-, -, hversion, -, hdraft⟩ := Task.reassign_ok hup
  obtain ⟨taskId, hid⟩ := stored_id ht
  have hsaved : task.id = some taskId := by rw [hdraft.id, hid]
  refine .lift_bind hup (.of_run (run_update ht hdraft hversion) ?_)
  refine .lift_bind (b := taskId) (by rw [hsaved]; rfl) (.bind (answers_append _ _) fun _ _ _ => ?_)
  exact .bind (answers_notifyNewAssignee _ _ _) fun _ _ _ => .pure _ _

theorem answers {clock : Nat → Instant} {ranking : NameRanking} {actor : User} {query : String}
    {decision : ReassignAssigneeDecision} {resolved : ResolvedAssignee} {m : Mutation}
    (ht : db.stored uid = some t) (h : AllowedTo resolved clock actor query t m) :
    Prog.Answers noFaults (executeWithDecision clock ranking actor uid query decision) db := by
  obtain ⟨taskId, actorId, hid, hactor, hcan, hup, -⟩ := h
  obtain ⟨hlive, -⟩ := Task.reassign_ok hup
  refine .lift_bind (b := actorId) (by rw [hactor]; rfl) (.of_run (run_loadTask ht) (.lift_bind hcan ?_))
  refine .bind (answers_resolve ranking query decision db) fun resolution db' hrun => ?_
  have hsame : db' = db := by
    have hreads := Prog.run_of_reads noFaults (resolve_reads ranking query decision) db
    rw [hrun] at hreads
    exact hreads
  rw [hsame]
  cases resolution with
  | clarificationRequired request => exact .pure _ _
  | resolved resolved => exact .bind (answers_store ht hlive) fun _ _ _ => .pure _ _

end ReassignTask

/-! ## Whole mutations -/

/-- Nothing is stored and the answer does not claim a change, or the answer comes with all of it. -/
def StoresWhole {α : Type} (allowed : Task → Mutation → Prop) (changed : α → Bool) (uid : Uuid)
    (db : Db) (o : AppResult α × Db) : Prop :=
  ((∀ a, o.1 = .ok a → changed a = false) ∧ o.2 = db) ∨
  ∃ t m a, db.stored uid = some t ∧ allowed t m ∧ o.1 = .ok a ∧ o.2 = applyAll m.writes db ∧ m.Stored o.2

/-- **What answers whatever it is allowed stores nothing by halves.** -/
theorem StoresInOrder.whole {α : Type} {allowed : Task → Mutation → Prop} {changed : α → Bool} {p : Proc α}
    {plan : Site → Fault AppError} (h : StoresInOrder allowed changed uid db (p.run plan db))
    (hanswers : ∀ t m, db.stored uid = some t → allowed t m → Prog.Answers plan p db) :
    StoresWhole allowed changed uid db (p.run plan db) := by
  rcases h with hkept | ⟨t, m, ht, hm, ⟨a, hok, hall, hstored⟩ | ⟨e, herror, -⟩⟩
  · exact .inl hkept
  · exact .inr ⟨t, m, a, ht, hm, hok, hall, hstored⟩
  · obtain ⟨a, db', hrun⟩ := hanswers t m ht hm
    rw [hrun] at herror
    cases herror

theorem StoresInOrder.map {α β : Type} {allowed : Task → Mutation → Prop} {changed : α → Bool}
    {changed' : β → Bool} {p : Proc α} {plan : Site → Fault AppError} (g : α → β)
    (hg : ∀ a, changed' (g a) = changed a) (h : StoresInOrder allowed changed uid db (p.run plan db)) :
    StoresInOrder allowed changed' uid db ((p >>= fun a => pure (g a)).run plan db) := by
  cases hr : (p.run plan db).1 with
  | ok a =>
    have hrun : p.run plan db = (.ok a, (p.run plan db).2) := Prod.ext hr rfl
    rw [Prog.run_bind_ok plan hrun]
    rcases h with ⟨hidle, hkept⟩ | ⟨t, m, ht, hm, ⟨a', hok, hall, hstored⟩ | ⟨e, herror, -⟩⟩
    · refine .inl ⟨fun b hb => ?_, hkept⟩
      cases hb
      exact (hg a).trans (hidle a hr)
    · exact .inr ⟨t, m, ht, hm, .inl ⟨g a, rfl, hall, hstored⟩⟩
    · rw [hr] at herror
      cases herror
  | error e =>
    have hrun : p.run plan db = (.error e, (p.run plan db).2) := Prod.ext hr rfl
    rw [Prog.run_bind_error plan hrun]
    rcases h with ⟨-, hkept⟩ | ⟨t, m, ht, hm, ⟨a', hok, -⟩ | ⟨e', -, hprefix⟩⟩
    · exact .inl ⟨nofun, hkept⟩
    · rw [hr] at hok
      cases hok
    · exact .inr ⟨t, m, ht, hm, .inr ⟨e, rfl, hprefix⟩⟩

end

/-! ## What a mutation leaves -/

/-- The tables after all the writes of a mutation. -/
structure Mutation.Leaves (m : Mutation) (db db' : Db) : Prop where
  tasks : db'.tasks = (updated m.task db).tasks
  users : db'.users = db.users
  employees : db'.employees = db.employees
  comments : ∀ r ∈ db.comments.rows, r ∈ db'.comments.rows
  history : ∃ r, db'.history.rows = db.history.rows ++ [r]

theorem applyAll_insertions_people (l : List Notification) : ∀ db : Db,
    (applyAll (Mutation.insertions l) db).users = db.users ∧
      (applyAll (Mutation.insertions l) db).employees = db.employees := by
  induction l with
  | nil => exact fun db => ⟨rfl, rfl⟩
  | cons n l ih => exact fun db => ih (db.insertNotification n)

theorem Mutation.leaves (m : Mutation) (db : Db) : m.Leaves db (applyAll m.writes db) := by
  obtain ⟨task, comment, entry, notifications⟩ := m
  have hlast : ∀ db₁ : Db, db₁.tasks = (updated task db).tasks → db₁.users = db.users →
      db₁.employees = db.employees → (∀ r ∈ db.comments.rows, r ∈ db₁.comments.rows) →
      db₁.history = db.history →
      Leaves ⟨task, comment, entry, notifications⟩ db
        (applyAll (insertions notifications) (db₁.appendHistory entry)) := by
    intro db₁ htasks husers hemployees hcomments hhistory
    obtain ⟨ht, hc, hh, -, -⟩ := applyAll_insertions notifications (db₁.appendHistory entry)
    obtain ⟨hu, he⟩ := applyAll_insertions_people notifications (db₁.appendHistory entry)
    refine ⟨ht.trans htasks, hu.trans husers, he.trans hemployees, fun r hr => ?_, ?_⟩
    · rw [hc]
      exact hcomments r hr
    · rw [hh, rows_appendHistory, hhistory]
      exact ⟨_, rfl⟩
  cases comment with
  | none => exact hlast _ rfl rfl rfl (fun _ hr => hr) rfl
  | some c =>
    refine hlast ((updated task db).appendComment c) rfl rfl rfl (fun r hr => ?_) rfl
    rw [rows_appendComment]
    exact List.mem_append_left _ hr

/-! ## Requests -/

/-- What a user may ask to be changed of a task. -/
inductive TaskRequest where
  | updateStatus (requestedStatus : TaskStatus)
  | reportBlocker (reason : String)
  | reassign (query : String) (decision : ReassignAssigneeDecision)
deriving DecidableEq, Repr

namespace TaskRequest

/-- The use case; the answer tells whether the task was changed. -/
def program (clock : Nat → Instant) (ranking : NameRanking) (actor : User) (uid : Uuid) :
    TaskRequest → Proc Bool
  | updateStatus requestedStatus => do
      let _ ← UpdateTaskStatus.execute clock actor uid requestedStatus
      pure true
  | reportBlocker reason => do
      let _ ← ReportTaskBlocker.execute clock actor uid reason
      pure true
  | reassign query decision => do
      let outcome ← ReassignTask.executeWithDecision clock ranking actor uid query decision
      pure (ReassignTask.changed outcome)

/-- The mutation the request makes of the stored task `t`. -/
def Allowed (clock : Nat → Instant) (ranking : NameRanking) (actor : User) (db : Db) (t : Task)
    (m : Mutation) : TaskRequest → Prop
  | updateStatus requestedStatus => UpdateTaskStatus.Allowed clock actor requestedStatus t m
  | reportBlocker reason => ReportTaskBlocker.Allowed clock actor reason t m
  | reassign query decision => ∃ resolved,
      (ReassignTask.resolve ranking query decision).run noFaults db = (.ok (.resolved resolved), db) ∧
        ReassignTask.AllowedTo resolved clock actor query t m

variable {clock : Nat → Instant} {ranking : NameRanking} {actor : User} {uid : Uuid} {db : Db}

theorem stores_in_order (request : TaskRequest) (plan : Site → Fault AppError) :
    StoresInOrder (fun t m => request.Allowed clock ranking actor db t m) id uid db
      ((request.program clock ranking actor uid).run plan db) := by
  cases request with
  | updateStatus requestedStatus =>
    exact (UpdateTaskStatus.stores_in_order clock actor uid requestedStatus plan db).map (fun _ => true)
      fun _ => rfl
  | reportBlocker reason =>
    exact (ReportTaskBlocker.stores_in_order clock actor uid reason plan db).map (fun _ => true) fun _ => rfl
  | reassign query decision =>
    exact (ReassignTask.resolved_in_order clock ranking actor uid query decision plan db).map
      ReassignTask.changed fun _ => rfl

/-- The mutation is one of this task. -/
theorem allowed_taskUid (request : TaskRequest) {t : Task} {m : Mutation}
    (h : request.Allowed clock ranking actor db t m) : m.task.taskUid = t.taskUid := by
  cases request with
  | updateStatus requestedStatus =>
    obtain ⟨_, _, -, -, -, hup, -⟩ := h
    rw [(Task.transitionTo_ok hup).2]
    rfl
  | reportBlocker reason =>
    obtain ⟨_, _, -, -, -, hup, -⟩ := h
    rw [(Task.applyBlocker_ok hup).2]
    rfl
  | reassign query decision =>
    obtain ⟨_, -, _, _, -, -, -, hup, -⟩ := h
    obtain ⟨-, -, -, -, hdraft⟩ := Task.reassign_ok hup
    exact hdraft.taskUid

theorem answers {request : TaskRequest} {t : Task} {m : Mutation} (ht : db.stored uid = some t)
    (h : request.Allowed clock ranking actor db t m) :
    Prog.Answers noFaults (request.program clock ranking actor uid) db := by
  cases request with
  | updateStatus requestedStatus => exact .bind (UpdateTaskStatus.answers ht h) fun _ _ _ => .pure _ _
  | reportBlocker reason => exact .bind (ReportTaskBlocker.answers ht h) fun _ _ _ => .pure _ _
  | reassign query decision =>
    obtain ⟨resolved, -, hallowed⟩ := h
    exact .bind (ReassignTask.answers ht hallowed) fun _ _ _ => .pure _ _

/-- **Without failures a request is refused or stored whole.** -/
theorem stores_whole (request : TaskRequest) :
    StoresWhole (fun t m => request.Allowed clock ranking actor db t m) id uid db
      ((request.program clock ranking actor uid).run noFaults db) :=
  (request.stores_in_order noFaults).whole fun _ _ ht hm => answers ht hm

end TaskRequest

end TaskBot
