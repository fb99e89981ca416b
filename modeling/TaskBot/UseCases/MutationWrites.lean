import TaskBot.Store.OptimisticLock
import TaskBot.UseCases.TaskMutations

/-!
# What a mutation stores

A status update, a blocker report or a reassignment makes its writes one after
the other, each in a statement of its own: the new version of the task, the
comment of a blocker, the audit entry, the notifications.  No transaction spans
them.

* `Mutation.writes`: the writes in order;
* `StoresInOrder`: a run that answers has made all of them, a run that fails an
  initial segment;
* `mutations_store_in_order`: so do the three use cases, wherever a call fails.
-/

namespace TaskBot

open Sql Calls TaskRepository

/-- What one mutation stores. -/
structure Mutation where
  task : Task
  comment : Option TaskComment
  entry : AuditLogEntry
  notifications : List Notification

namespace Mutation

def insertions (l : List Notification) : List (Db → Db) := l.map fun n db => db.insertNotification n

/-- The writes beside the task. -/
def records (m : Mutation) : List (Db → Db) :=
  (m.comment.toList.map fun c db => db.appendComment c) ++
    ((fun db => db.appendHistory m.entry) :: insertions m.notifications)

def writes (m : Mutation) : List (Db → Db) := updated m.task :: m.records

/-- Everything the mutation says is in the database. -/
structure Stored (m : Mutation) (db : Db) : Prop where
  task : db.stored m.task.taskUid = some m.task
  comment : ∀ c, m.comment = some c → ∃ r ∈ db.comments.rows, r.val = c
  entry : ∃ r ∈ db.history.rows, r.val = m.entry
  notifications : ∀ n ∈ m.notifications, db.Notified n.dedupeKey

theorem applyAll_insertions (l : List Notification) : ∀ db : Db,
    (applyAll (insertions l) db).tasks = db.tasks ∧
    (applyAll (insertions l) db).comments = db.comments ∧
    (applyAll (insertions l) db).history = db.history ∧
    (∀ key, db.Notified key → (applyAll (insertions l) db).Notified key) ∧
    ∀ n ∈ l, (applyAll (insertions l) db).Notified n.dedupeKey := by
  induction l with
  | nil => exact fun db => ⟨rfl, rfl, rfl, fun _ h => h, fun n hn => (nomatch hn)⟩
  | cons n l ih =>
    intro db
    obtain ⟨ht, hc, hh, hkeep, hall⟩ := ih (db.insertNotification n)
    refine ⟨ht, hc, hh, fun key h => hkeep key (notified_of_insert h n), fun n' hn' => ?_⟩
    rcases List.mem_cons.mp hn' with rfl | hn'
    · exact hkeep _ (notified_insert db n')
    · exact hall n' hn'

/-- After all writes everything is stored. -/
theorem stored_applyAll {m : Mutation} {db : Db}
    (h : (updated m.task db).stored m.task.taskUid = some m.task) :
    m.Stored (applyAll m.writes db) := by
  obtain ⟨task, comment, entry, notifications⟩ := m
  have hlast : ∀ db₁ : Db, db₁.tasks = (updated task db).tasks →
      (∀ c, comment = some c → ∃ r ∈ db₁.comments.rows, r.val = c) →
      Stored ⟨task, comment, entry, notifications⟩
        (applyAll (insertions notifications) (db₁.appendHistory entry)) := by
    intro db₁ htasks hcomment
    obtain ⟨ht, hc, hh, -, hall⟩ := applyAll_insertions notifications (db₁.appendHistory entry)
    refine ⟨?_, fun c hcc => ?_, ?_, hall⟩
    · rw [Db.stored_congr (ht.trans htasks)]
      exact h
    · rw [hc]
      exact hcomment c hcc
    · rw [hh, rows_appendHistory]
      exact ⟨_, List.mem_append_right _ List.mem_cons_self, rfl⟩
  cases comment with
  | none => exact hlast _ rfl fun c hc => by cases hc
  | some c =>
    refine hlast ((updated task db).appendComment c) rfl fun c' hc => ?_
    cases hc
    rw [rows_appendComment]
    exact ⟨_, List.mem_append_right _ List.mem_cons_self, rfl⟩

end Mutation

/-! ## Runs that store in order -/

/-- What a run on the task `uid` may end with.  Nothing is stored and the answer
does not claim a change; or the stored task `t` allowed a mutation `m`, and its
writes are all stored when the run answers, an initial segment when it fails. -/
def StoresInOrder {α : Type} (allowed : Task → Mutation → Prop) (changed : α → Bool) (uid : Uuid)
    (db : Db) (o : AppResult α × Db) : Prop :=
  ((∀ a, o.1 = .ok a → changed a = false) ∧ o.2 = db) ∨
  ∃ t m, db.stored uid = some t ∧ allowed t m ∧
    ((∃ a, o.1 = .ok a ∧ o.2 = applyAll m.writes db ∧ m.Stored o.2) ∨
      ∃ e, o.1 = .error e ∧ ∃ k ≤ m.writes.length, o.2 = applyAll (m.writes.take k) db)

namespace StoresInOrder

variable {α β : Type} {allowed : Task → Mutation → Prop} {changed : α → Bool} {uid : Uuid} {db : Db}
  {plan : Site → Fault AppError}

theorem mono {allowed' : Task → Mutation → Prop} {o : AppResult α × Db}
    (h : StoresInOrder allowed changed uid db o) (hle : ∀ t m, allowed t m → allowed' t m) :
    StoresInOrder allowed' changed uid db o := by
  rcases h with hkept | ⟨t, m, ht, hm, hstores⟩
  · exact .inl hkept
  · exact .inr ⟨t, m, ht, hle t m hm, hstores⟩

theorem refused {o : AppResult α × Db} {e : AppError} (h : o = (.error e, db)) :
    StoresInOrder allowed changed uid db o := by
  rw [h]
  exact .inl ⟨fun a ha => (nomatch ha), rfl⟩

theorem lift_bind {r : AppResult β} {f : β → Proc α}
    (hf : ∀ b, r = .ok b → StoresInOrder allowed changed uid db ((f b).run plan db)) :
    StoresInOrder allowed changed uid db ((Prog.lift r >>= f).run plan db) := by
  cases r with
  | ok b => exact hf b rfl
  | error e => exact refused rfl

theorem reads_bind {p : Proc β} {f : β → Proc α} (hp : p.Within Eq)
    (hf : ∀ b, p.run plan db = (.ok b, db) →
      StoresInOrder allowed changed uid db ((f b).run plan db)) :
    StoresInOrder allowed changed uid db ((p >>= f).run plan db) := by
  have hstore : (p.run plan db).2 = db := Prog.run_of_reads plan hp db
  cases hr : (p.run plan db).1 with
  | ok b =>
    have hrun : p.run plan db = (.ok b, db) := Prod.ext hr hstore
    rw [Prog.run_bind_ok plan hrun]
    exact hf b hrun
  | error e =>
    have hrun : p.run plan db = (.error e, db) := Prod.ext hr hstore
    exact refused (Prog.run_bind_error plan hrun)

theorem of_writes {p : Proc α} {t : Task} {m : Mutation} (ht : db.stored uid = some t)
    (hm : allowed t m) (hstored : (updated m.task db).stored m.task.taskUid = some m.task)
    (hp : Prog.Writes plan p db m.writes) : StoresInOrder allowed changed uid db (p.run plan db) := by
  obtain ⟨k, hk, hs, hok⟩ := hp
  refine .inr ⟨t, m, ht, hm, ?_⟩
  cases hr : (p.run plan db).1 with
  | error e => exact .inr ⟨e, rfl, k, hk, hs⟩
  | ok a =>
    have hall : (p.run plan db).2 = applyAll m.writes db := by
      rw [hs, hok a hr, List.take_length]
    refine .inl ⟨a, rfl, hall, ?_⟩
    rw [hall]
    exact Mutation.stored_applyAll hstored

theorem loadTask_bind {f : Task → Proc α}
    (hf : ∀ t, db.stored uid = some t → StoresInOrder allowed changed uid db ((f t).run plan db)) :
    StoresInOrder allowed changed uid db ((loadTask uid >>= f).run plan db) := by
  rw [loadTask, Prog.bind_assoc]
  refine reads_bind (select_reads _ _) fun found hfound => lift_bind fun t ht => hf t ?_
  cases found with
  | none => cases ht
  | some t' =>
    cases ht
    have hok : plan (.taskFindByUid uid) = .none := Fault.apply_ok (congrArg Prod.fst hfound)
    unfold findByUid select at hfound
    rw [Prog.run_perform, hok] at hfound
    exact Except.ok.inj (congrArg Prod.fst hfound)

end StoresInOrder

namespace StoresInOrder

/-- **An update of the stored task** by one of its operations, and the writes that follow. -/
theorem update_bind {α : Type} {allowed : Task → Mutation → Prop} {changed : α → Bool} {uid : Uuid}
    {db : Db} {plan : Site → Fault AppError} {t : Task} (m : Mutation) {f : Task → Proc α}
    (ht : db.stored uid = some t) (hs : m.task.SameDraft t) (hv : m.task.version = t.version + 1)
    (hm : allowed t m) (hf : Prog.Writes plan (f m.task) (updated m.task db) m.records) :
    StoresInOrder allowed changed uid db ((TaskRepository.update m.task >>= f).run plan db) := by
  have hbase : db.stored m.task.taskUid = some t := by
    rw [hs.taskUid, Db.stored_taskUid ht]
    exact ht
  have hprev : t.version = m.task.version - 1 := by omega
  obtain ⟨hup, hstored⟩ := update_ok hbase hprev hs
  have hw : Prog.Writes plan (TaskRepository.update m.task) db [updated m.task] :=
    .perform (congrArg Prod.snd hup)
  refine of_writes ht hm hstored (hw.bind fun saved hrun => ?_)
  have hok : plan (.taskUpdate m.task.taskUid) = .none := Fault.apply_ok (congrArg Prod.fst hrun)
  unfold TaskRepository.update at hrun
  rw [Prog.run_perform, hok, Fault.apply_none, hup] at hrun
  have hsaved : m.task = saved := Except.ok.inj (congrArg Prod.fst hrun)
  rw [← hsaved]
  exact hf

end StoresInOrder

section

variable {plan : Site → Fault AppError} {db : Db}

theorem stored_id {uid : Uuid} {t : Task} (h : db.stored uid = some t) : ∃ id, t.id = some id := by
  obtain ⟨r, -, rfl⟩ := Option.map_eq_some_iff.mp h
  exact ⟨r.id, rfl⟩

theorem writes_append (entry : AuditLogEntry) (db : Db) :
    Prog.Writes plan (AuditLogRepository.append entry) db [fun db => db.appendHistory entry] :=
  .perform rfl

theorem writes_enqueue (slot : Nat) (n : Notification) (db : Db) :
    Prog.Writes plan (NotificationRepository.enqueue slot n) db (Mutation.insertions [n]) :=
  .bind_reads (.perform rfl) fun _ => .bind (select_reads _ _) fun _ => .bind (.lift _) fun _ => .pure _

/-- The stored comment has the body it was given. -/
theorem run_create {comment stored : TaskComment} {db' : Db}
    (h : (CommentRepository.create comment).run plan db = (.ok stored, db')) :
    stored.body = comment.body := by
  have hok : plan (.commentCreate comment.taskId) = .none := Fault.apply_ok (congrArg Prod.fst h)
  unfold CommentRepository.create write at h
  rw [Prog.run_perform, hok] at h
  have hstored := Except.ok.inj (congrArg Prod.fst h)
  rw [← hstored]

/-! ## Status update -/

namespace UpdateTaskStatus

/-- The notification of one participant, if there is one to be told. -/
def told (actorId : Option Int) (task : Task) (nextStatus : TaskStatus) (now : Instant)
    (recipient : Option Int) : List Notification :=
  match recipient with
  | none => []
  | some recipientUserId =>
      if some recipientUserId = actorId then []
      else [participantNotification task nextStatus recipientUserId now]

/-- The mutation a status update makes of the stored task `t`. -/
def Allowed (clock : Nat → Instant) (actor : User) (requestedStatus : TaskStatus) (t : Task)
    (m : Mutation) : Prop :=
  ∃ taskId nextStatus, t.id = some taskId ∧
    RoleAuthorizationPolicy.normalizeRequestedStatus actor t requestedStatus = .ok nextStatus ∧
    RoleAuthorizationPolicy.ensureCanChangeStatus actor t nextStatus = .ok () ∧
    t.transitionTo nextStatus (clock 0) = .ok m.task ∧ m.comment = none ∧
    m.entry = statusEntry actor.id taskId t.status nextStatus (clock 1) ∧
    m.notifications = told actor.id m.task nextStatus (clock 2) (some m.task.createdByUserId) ++
      told actor.id m.task nextStatus (clock 3) m.task.assignedToUserId

theorem writes_notifyParticipant (slot : Nat) (actorId : Option Int) (task : Task)
    (nextStatus : TaskStatus) (now : Instant) (recipient : Option Int) (db : Db) :
    Prog.Writes plan (notifyParticipant slot actorId task nextStatus now recipient) db
      (Mutation.insertions (told actorId task nextStatus now recipient)) := by
  unfold notifyParticipant told
  cases recipient with
  | none => exact .reads (.pure _) db
  | some recipientUserId =>
    by_cases hactor : some recipientUserId = actorId
    · simp only [hactor, if_true]
      exact .reads (.pure _) db
    · simp only [hactor, if_false]
      exact .bind_reads (writes_enqueue _ _ db) fun _ => .pure _

theorem stores_in_order (clock : Nat → Instant) (actor : User) (uid : Uuid)
    (requestedStatus : TaskStatus) (plan : Site → Fault AppError) (db : Db) :
    StoresInOrder (Allowed clock actor requestedStatus) (fun _ => true) uid db
      ((execute clock actor uid requestedStatus).run plan db) := by
  refine .loadTask_bind fun t ht => .lift_bind fun nextStatus hnext => ?_
  refine .lift_bind fun _ hcan => .lift_bind fun task hup => ?_
  obtain ⟨taskId, hid⟩ := stored_id ht
  obtain ⟨-, htask⟩ := Task.transitionTo_ok hup
  have hdraft : task.SameDraft t := by rw [htask]; exact t.advanced_sameDraft nextStatus (clock 0)
  let m : Mutation :=
    { task
      comment := none
      entry := statusEntry actor.id taskId t.status nextStatus (clock 1)
      notifications := told actor.id task nextStatus (clock 2) (some task.createdByUserId) ++
        told actor.id task nextStatus (clock 3) task.assignedToUserId }
  have hversion : task.version = t.version + 1 := by rw [htask]; rfl
  have hallowed : Allowed clock actor requestedStatus t m :=
    ⟨taskId, nextStatus, hid, hnext, hcan, hup, rfl, rfl, rfl⟩
  refine .update_bind m ht hdraft hversion hallowed ?_
  have hrecords : m.records = [fun db => db.appendHistory m.entry] ++
      (Mutation.insertions (told actor.id task nextStatus (clock 2) (some task.createdByUserId)) ++
        Mutation.insertions (told actor.id task nextStatus (clock 3) task.assignedToUserId)) := by
    simp only [Mutation.records, Mutation.insertions, m, List.map_append]
    rfl
  rw [hrecords]
  refine Prog.Writes.bind ?_ fun _ _ => ?_
  · have hsaved : task.id = some taskId := by rw [hdraft.id, hid]
    unfold logStatusChange
    refine .lift_bind fun id hok => ?_
    rw [hsaved] at hok
    cases hok
    exact .bind_reads (writes_append _ _) fun _ => .pure _
  · refine .bind_reads ?_ fun _ => .pure _
    exact (writes_notifyParticipant _ _ _ _ _ _ _).bind fun _ _ => writes_notifyParticipant _ _ _ _ _ _ _

end UpdateTaskStatus

/-! ## Blocker report -/

namespace ReportTaskBlocker

/-- The creator is told, unless the creator is the one who reports. -/
def told (task : Task) (reason : String) (actorId : Int) (now : Instant) : List Notification :=
  if task.createdByUserId = actorId then [] else [creatorNotification task reason now]

/-- The mutation a blocker report makes of the stored task `t`. -/
def Allowed (clock : Nat → Instant) (actor : User) (blockerReason : String) (t : Task) (m : Mutation) :
    Prop :=
  ∃ taskId actorId, t.id = some taskId ∧ actor.id = some actorId ∧
    RoleAuthorizationPolicy.ensureCanReportBlocker actor t = .ok () ∧
    t.applyBlocker blockerReason (clock 0) = .ok m.task ∧
    m.comment = some ⟨none, taskId, actorId, .blocker, trim blockerReason, clock 1⟩ ∧
    m.entry = blockerEntry taskId actorId t.status (trim blockerReason) (clock 2) ∧
    m.notifications = told m.task (trim blockerReason) actorId (clock 3)

theorem writes_notifyCreator (task : Task) (reason : String) (actorId : Int) (now : Instant) (db : Db) :
    Prog.Writes plan (notifyCreator task reason actorId now) db
      (Mutation.insertions (told task reason actorId now)) := by
  unfold notifyCreator told
  by_cases hactor : task.createdByUserId = actorId
  · simp only [hactor, if_true]
    exact .reads (.pure _) db
  · simp only [hactor, if_false]
    exact .bind_reads (writes_enqueue _ _ db) fun _ => .pure _

theorem stores_in_order (clock : Nat → Instant) (actor : User) (uid : Uuid) (blockerReason : String)
    (plan : Site → Fault AppError) (db : Db) :
    StoresInOrder (Allowed clock actor blockerReason) (fun _ => true) uid db
      ((execute clock actor uid blockerReason).run plan db) := by
  refine .lift_bind fun actorId hactor => .loadTask_bind fun t ht => .lift_bind fun _ hcan => ?_
  refine .lift_bind fun task hup => ?_
  obtain ⟨taskId, hid⟩ := stored_id ht
  have hactorId : actor.id = some actorId := okOrElse_ok hactor
  obtain ⟨-, htask⟩ := Task.applyBlocker_ok hup
  have hdraft : task.SameDraft t := by rw [htask]; constructor <;> rfl
  have hversion : task.version = t.version + 1 := by rw [htask]; rfl
  have hsaved : task.id = some taskId := by rw [hdraft.id, hid]
  let comment : TaskComment := ⟨none, taskId, actorId, .blocker, trim blockerReason, clock 1⟩
  let m : Mutation :=
    { task
      comment := some comment
      entry := blockerEntry taskId actorId t.status (trim blockerReason) (clock 2)
      notifications := told task (trim blockerReason) actorId (clock 3) }
  have hallowed : Allowed clock actor blockerReason t m :=
    ⟨taskId, actorId, hid, hactorId, hcan, hup, rfl, rfl, rfl⟩
  refine .update_bind m ht hdraft hversion hallowed ?_
  have hrecords : m.records = [fun db => db.appendComment comment] ++
      ([fun db => db.appendHistory m.entry] ++ Mutation.insertions m.notifications) := rfl
  rw [hrecords]
  refine .lift_bind fun id hok => ?_
  rw [hsaved] at hok
  cases hok
  refine .lift_bind fun c hc => ?_
  have hcomment : c = comment := TaskComment.new_ok hc
  rw [hcomment]
  refine Prog.Writes.bind (.perform rfl) fun storedComment hrun => ?_
  have hbody : storedComment.body = trim blockerReason := run_create hrun
  rw [hbody]
  refine (writes_append _ _).bind fun _ _ => ?_
  exact .bind_reads (writes_notifyCreator _ _ _ _ _) fun _ => .pure _

end ReportTaskBlocker

/-! ## Reassignment -/

namespace ReassignTask

/-- The new assignee is told, if there is one. -/
def told (task : Task) (now : Instant) : List Notification :=
  match task.assignedToUserId with
  | none => []
  | some recipientUserId => [assigneeNotification task recipientUserId now]

/-- The mutation a reassignment makes of the stored task `t`. -/
def Allowed (clock : Nat → Instant) (actor : User) (assigneeQuery : String) (t : Task) (m : Mutation) :
    Prop :=
  ∃ taskId actorId, ∃ resolved : ResolvedAssignee, t.id = some taskId ∧ actor.id = some actorId ∧
    RoleAuthorizationPolicy.ensureCanReassign actor t = .ok () ∧
    t.reassign (resolved.user.bind User.id) (resolved.employee.bind Employee.id) (clock 0) = .ok m.task ∧
    m.comment = none ∧ m.entry = reassignEntry actorId taskId t m.task assigneeQuery (clock 1) ∧
    m.notifications = told m.task (clock 2)

/-- The mutation a reassignment to this assignee makes. -/
def AllowedTo (resolved : ResolvedAssignee) (clock : Nat → Instant) (actor : User) (assigneeQuery : String)
    (t : Task) (m : Mutation) : Prop :=
  ∃ taskId actorId, t.id = some taskId ∧ actor.id = some actorId ∧
    RoleAuthorizationPolicy.ensureCanReassign actor t = .ok () ∧
    t.reassign (resolved.user.bind User.id) (resolved.employee.bind Employee.id) (clock 0) = .ok m.task ∧
    m.comment = none ∧ m.entry = reassignEntry actorId taskId t m.task assigneeQuery (clock 1) ∧
    m.notifications = told m.task (clock 2)

/-- Only a resolved assignee changes the task; a question to the user does not. -/
def changed : ReassignTaskOutcome → Bool
  | .reassigned _ => true
  | .clarificationRequired _ => false

theorem writes_notifyNewAssignee (task : Task) (now : Instant) (db : Db) :
    Prog.Writes plan (notifyNewAssignee task now) db (Mutation.insertions (told task now)) := by
  unfold notifyNewAssignee told
  cases task.assignedToUserId with
  | none => exact .reads (.pure _) db
  | some recipientUserId => exact .bind_reads (writes_enqueue _ _ db) fun _ => .pure _

/-- **A reassignment**, to the assignee its query has resolved to. -/
theorem resolved_in_order (clock : Nat → Instant) (ranking : NameRanking) (actor : User) (uid : Uuid)
    (assigneeQuery : String) (decision : ReassignAssigneeDecision) (plan : Site → Fault AppError)
    (db : Db) :
    StoresInOrder (fun t m => ∃ resolved,
        (resolve ranking assigneeQuery decision).run noFaults db = (.ok (.resolved resolved), db) ∧
          AllowedTo resolved clock actor assigneeQuery t m) changed uid db
      ((executeWithDecision clock ranking actor uid assigneeQuery decision).run plan db) := by
  refine .lift_bind fun actorId hactor => .loadTask_bind fun t ht => .lift_bind fun _ hcan => ?_
  refine .reads_bind (resolve_reads ranking assigneeQuery decision) fun resolution hresolution => ?_
  have hresolve : (resolve ranking assigneeQuery decision).run noFaults db = (.ok resolution, db) := by
    rw [← hresolution]
    exact (resolve_strict ranking assigneeQuery decision).run_ok (congrArg Prod.fst hresolution)
  cases resolution with
  | clarificationRequired request =>
    refine .inl ⟨fun a ha => ?_, rfl⟩
    cases ha
    rfl
  | resolved resolved =>
    simp only [store, Prog.bind_assoc]
    refine .lift_bind fun task hup => ?_
    obtain ⟨taskId, hid⟩ := stored_id ht
    have hactorId : actor.id = some actorId := okOrElse_ok hactor
    obtain ⟨-, -, hversion, -, hdraft⟩ := Task.reassign_ok hup
    have hsaved : task.id = some taskId := by rw [hdraft.id, hid]
    let m : Mutation :=
      { task
        comment := none
        entry := reassignEntry actorId taskId t task assigneeQuery (clock 1)
        notifications := told task (clock 2) }
    have hallowed : AllowedTo resolved clock actor assigneeQuery t m :=
      ⟨taskId, actorId, hid, hactorId, hcan, hup, rfl, rfl, rfl⟩
    refine .update_bind m ht hdraft hversion ⟨resolved, hresolve, hallowed⟩ ?_
    have hrecords : m.records =
        [fun db => db.appendHistory m.entry] ++ Mutation.insertions m.notifications := rfl
    rw [hrecords]
    refine .lift_bind fun id hok => ?_
    rw [hsaved] at hok
    cases hok
    refine (writes_append _ _).bind fun _ _ => ?_
    refine .bind_reads (writes_notifyNewAssignee _ _ _) fun _ => ?_
    exact .bind (.pure _) fun _ => .pure _

theorem stores_in_order (clock : Nat → Instant) (ranking : NameRanking) (actor : User) (uid : Uuid)
    (assigneeQuery : String) (decision : ReassignAssigneeDecision) (plan : Site → Fault AppError)
    (db : Db) :
    StoresInOrder (Allowed clock actor assigneeQuery) changed uid db
      ((executeWithDecision clock ranking actor uid assigneeQuery decision).run plan db) := by
  refine (resolved_in_order clock ranking actor uid assigneeQuery decision plan db).mono ?_
  rintro t m ⟨resolved, -, taskId, actorId, hid, hactor, hrest⟩
  exact ⟨taskId, actorId, resolved, hid, hactor, hrest⟩

end ReassignTask

end

/-! ## Top theorem -/

/-- **Mutations store in order.**  Wherever calls fail: a status update, a blocker
report or a reassignment is refused and stores nothing, or it answers and the new
version, the comment, the audit entry and the notifications are all stored, or it
fails and an initial segment of them is stored and nothing else. -/
theorem mutations_store_in_order (clock : Nat → Instant) (actor : User) (uid : Uuid)
    (plan : Site → Fault AppError) (db : Db) :
    (∀ requestedStatus, StoresInOrder (UpdateTaskStatus.Allowed clock actor requestedStatus)
      (fun _ => true) uid db ((UpdateTaskStatus.execute clock actor uid requestedStatus).run plan db)) ∧
    (∀ blockerReason, StoresInOrder (ReportTaskBlocker.Allowed clock actor blockerReason)
      (fun _ => true) uid db ((ReportTaskBlocker.execute clock actor uid blockerReason).run plan db)) ∧
    ∀ ranking assigneeQuery decision, StoresInOrder (ReassignTask.Allowed clock actor assigneeQuery)
      ReassignTask.changed uid db
      ((ReassignTask.executeWithDecision clock ranking actor uid assigneeQuery decision).run plan db) :=
  ⟨fun requestedStatus => UpdateTaskStatus.stores_in_order clock actor uid requestedStatus plan db,
    fun blockerReason => ReportTaskBlocker.stores_in_order clock actor uid blockerReason plan db,
    fun ranking query decision =>
      ReassignTask.stores_in_order clock ranking actor uid query decision plan db⟩

/-- The assignee starts a task and the audit entry cannot be appended: the answer is an
error, and the task has moved. -/
theorem status_update_not_atomic :
    let plan : Site → Fault AppError := fun site =>
      if site = .auditAppend 1 then .before (databaseError "disk I/O error") else .none
    let assignee := { UserRepository.sampleUser 2 .user with id := some 2 }
    let o := (UpdateTaskStatus.execute (fun _ => 5) assignee (sampleUid 1) .inProgress).run plan sampleDb
    o.1 = .error (databaseError "disk I/O error") ∧
      (sampleDb.stored (sampleUid 1)).map Task.status = some .created ∧
      (o.2.stored (sampleUid 1)).map Task.status = some .inProgress := by
  decide

end TaskBot
