import TaskBot.UseCases.CreationRetry
import TaskBot.UseCases.Registration

/-!
# Registration recovery over failing runs

One user registers any number of times for one employee; every statement of every
run may fail.  A run links a waiting task first, then logs the link and announces
it.  The next run lists only tasks without a user, so it never comes back to a task
whose link was stored and whose announcement was not.

* `Survives`: which failures lose nothing, in terms of the store before the statement;
* `Recovering`: what holds after any number of runs whose failures are survived;
* `recoverTaskBatch_recovering`, `recoverBatches_recovering`: one batch, all batches;
* `recovery_complete`: after a run that answers every task that waited is linked,
  logged and announced, and a further run changes none of it.
-/

namespace TaskBot

open Sql Calls RegisterUser TaskRepository

/-! ## What recovery is about -/

/-- An open task of the employee without a user. -/
def waitsFor (employeeId : Int) (r : Stored TaskColumns) : Bool :=
  r.val.task.assignedToEmployeeId = some employeeId ∧ r.val.task.assignedToUserId = none ∧
    ¬ r.val.task.status.isTerminal

def Db.HasAccount (db : Db) (telegramId userId : Int) : Prop :=
  ∃ r ∈ db.users.rows, r.val.user.telegramId = telegramId ∧ r.id = userId

/-- The entry recovery writes for the task is in its history. -/
def Db.LinkLogged (db : Db) (taskId userId employeeId : Int) : Prop :=
  ∃ h ∈ db.history.rows, ∃ task now, h.val = recoveredEntry task taskId userId employeeId now

/-- The task is linked to the account, logged and announced. -/
def Recovered (telegramId employeeId : Int) (db : Db) (r : Stored TaskColumns) : Prop :=
  ∃ userId, db.HasAccount telegramId userId ∧ r.val.task.assignedToUserId = some userId ∧
    db.LinkLogged r.id userId employeeId ∧ db.Announced r.id userId

/-- One run of the registration. -/
structure RegistrationRun where
  message : IncomingMessage
  decision : RegistrationLinkDecision
  clock : Nat → Instant

def RegistrationRun.program (toLowercase : String → String) (run : RegistrationRun) : Proc User :=
  executeWithLinkDecision toLowercase run.clock run.message run.decision

/-- The run is one of the account, and decides for the employee whenever it gets to decide. -/
def RegistrationRun.Decides (toLowercase : String → String) (telegramId employeeId : Int) (db : Db)
    (run : RegistrationRun) : Prop :=
  run.message.senderId = telegramId ∧
    ∀ employee db', Prog.Runs (fun _ _ _ => True)
      (resolveEmployeeForDecision toLowercase run.message run.decision) db (.ok employee) db' →
      employee.bind Employee.id = some employeeId

/-- The condition on the statements of a run: site, fault, and the store before. -/
abbrev Faults := Site → Fault AppError → Db → Prop

/-- A driver error is no version conflict. -/
def DriverFault : Faults := fun _ f _ =>
  ∀ e, f = .before e ∨ f = .after e → e.code ≠ taskVersionConflictError

/-- Runs of one account for one employee, one after the other, whatever they answer. -/
inductive Registrations (C : Faults) (toLowercase : String → String) (telegramId employeeId : Int) :
    Db → Db → Prop where
  | none (db : Db) : Registrations C toLowercase telegramId employeeId db db
  | next {db db' db'' : Db} {r : AppResult User} (run : RegistrationRun)
      (hdecides : run.Decides toLowercase telegramId employeeId db)
      (hrun : Prog.Runs C (run.program toLowercase) db r db')
      (hrest : Registrations C toLowercase telegramId employeeId db' db'') :
      Registrations C toLowercase telegramId employeeId db db''

/-- After any runs and one that answers, no task that waited at the start lacks its user,
entry or announcement; a further run that answers leaves them as they are. -/
def RecoveryComplete (C : Faults) (toLowercase : String → String) (telegramId employeeId : Int)
    (start : Db) : Prop :=
  ∀ (db db' : Db) (run : RegistrationRun) (actor : User), Registrations C toLowercase telegramId employeeId start db →
    run.Decides toLowercase telegramId employeeId db →
    Prog.Runs C (run.program toLowercase) db (.ok actor) db' →
    (∃ userId, actor.id = some userId ∧ ∀ r₀ ∈ start.tasks.rows, waitsFor employeeId r₀ = true →
      ∃ r ∈ db'.tasks.rows, r.id = r₀.id ∧ r.val.task.assignedToUserId = some userId ∧
        db'.LinkLogged r.id userId employeeId ∧ db'.Announced r.id userId) ∧
    ∀ (again : RegistrationRun) (actor' : User) (db'' : Db), again.Decides toLowercase telegramId employeeId db' →
      Prog.Runs C (again.program toLowercase) db' (.ok actor') db'' →
      db''.tasks = db'.tasks ∧ db''.history = db'.history ∧ db''.notifications = db'.notifications

/-- The failure, met at this store, leaves no linked task without its entry and announcement:
the link is never stored by a statement that fails, the entry and the announcement follow the
link unless they are there already, and the key of the announcement is free. -/
def Survives (telegramId employeeId : Int) : Faults
  | .taskUpdate uid, .after _, db => ∀ r ∈ db.tasks.rows, r.val.task.taskUid = uid → ∀ userId,
      db.HasAccount telegramId userId → db.LinkLogged r.id userId employeeId ∧ db.Announced r.id userId
  | .auditAppend taskId, .before _, db => ∀ userId, db.HasAccount telegramId userId →
      db.LinkLogged taskId userId employeeId ∧ db.Announced taskId userId
  | .auditAppend taskId, .after _, db => ∀ userId, db.HasAccount telegramId userId →
      db.Announced taskId userId
  | .notificationFindLatest taskId userId, .before _, db => db.Announced taskId userId
  | .notificationFindLatest taskId userId, .after _, db => db.Announced taskId userId
  | .notificationInsert _ _, .before _, _ => False
  | .notificationInsert key _, _, db => ∀ n ∈ db.notifications.rows, n.val.dedupeKey ≠ key
  | _, _, _ => True

/-- Driver errors that lose nothing. -/
def SurvivedFault (telegramId employeeId : Int) : Faults := fun site f db =>
  DriverFault site f db ∧ Survives telegramId employeeId site f db

/-! ## What no statement of recovery takes away -/

structure Grows (db db' : Db) : Prop where
  accounts : ∀ telegramId userId, db.HasAccount telegramId userId → db'.HasAccount telegramId userId
  logged : ∀ h ∈ db.history.rows, h ∈ db'.history.rows
  announced : ∀ taskId userId, db.Announced taskId userId → db'.Announced taskId userId

namespace Grows

theorem refl (db : Db) : Grows db db := ⟨fun _ _ h => h, fun _ h => h, fun _ _ h => h⟩

theorem trans {a b c : Db} (h : Grows a b) (h' : Grows b c) : Grows a c where
  accounts t u ha := h'.accounts t u (h.accounts t u ha)
  logged x hx := h'.logged x (h.logged x hx)
  announced t u ha := h'.announced t u (h.announced t u ha)

theorem of_eq {db db' : Db} (h : db = db') : Grows db db' := h ▸ refl db

theorem linkLogged {db db' : Db} {taskId userId employeeId : Int} (h : Grows db db')
    (hl : db.LinkLogged taskId userId employeeId) : db'.LinkLogged taskId userId employeeId := by
  obtain ⟨x, hx, hentry⟩ := hl
  exact ⟨x, h.logged x hx, hentry⟩

theorem updated (task : Task) (db : Db) : Grows db (updated task db) :=
  ⟨fun _ _ h => h, fun _ h => h, fun _ _ h => h⟩

theorem appendHistory (db : Db) (entry : AuditLogEntry) : Grows db (db.appendHistory entry) where
  accounts _ _ h := h
  logged x hx := by
    rw [rows_appendHistory]
    exact List.mem_append_left _ hx
  announced _ _ h := h

theorem insertNotification (db : Db) (n : Notification) : Grows db (db.insertNotification n) where
  accounts _ _ h := h
  logged _ h := h
  announced taskId userId h := by
    obtain ⟨x, hx, hann⟩ := h
    exact ⟨x, Table.mem_insert_of_mem hx, hann⟩

end Grows

/-- An upsert keeps the accounts there are. -/
theorem Grows.upsert (user : User) (db : Db) : Grows db (UserRepository.upsertUser user db).2 := by
  have hrest : ∃ t, (UserRepository.upsertUser user db).2 = { db with users := t } := by
    unfold UserRepository.upsertUser
    split
    · exact ⟨_, rfl⟩
    · exact ⟨_, rfl⟩
  constructor
  · rintro telegramId userId ⟨r, hr, ht, hid⟩
    rcases UserRepository.upsertUser_cases user db with ⟨-, hrows⟩ | ⟨-, hrows⟩
    · rw [Db.HasAccount, hrows]
      refine ⟨_, List.mem_map_of_mem hr, ?_, by rw [setWhere_id, hid]⟩
      unfold setWhere
      split
      · exact ht
      · exact ht
    · rw [Db.HasAccount, hrows]
      exact ⟨r, List.mem_append_left _ hr, ht, hid⟩
  · obtain ⟨t, ht⟩ := hrest
    rw [ht]
    exact fun _ h => h
  · obtain ⟨t, ht⟩ := hrest
    rw [ht]
    exact fun _ _ h => h

/-- What the queue works on are not the columns of an announcement. -/
theorem Grows.requeue (db : Db) (id : Int) :
    Grows db { db with
      notifications := db.notifications.modify (fun r => r.id = id)
        NotificationRepository.requeuedColumns NotificationRepository.requeuedColumns_keeps } where
  accounts _ _ h := h
  logged _ h := h
  announced taskId userId h := by
    obtain ⟨x, hx, hann⟩ := h
    refine ⟨_, List.mem_map_of_mem hx, ?_⟩
    unfold setWhere
    split
    · exact hann
    · exact hann

theorem Grows.of_write {db db' : Db} (h : RecoveryWrite db db') : Grows db db' := by
  cases h with
  | nothing => exact .refl db
  | update task => exact .updated task db
  | log entry => exact .appendHistory db entry
  | announce n => exact .insertNotification db n
  | requeue id => exact .requeue db id

/-! ## One task -/

section

variable {C : Faults} {telegramId employeeId userId : Int} {db db' : Db}

theorem runs_leavesTasks {α : Type} {p : Proc α} (hp : LeavesTasks p) {res : AppResult α}
    (h : Prog.Runs C p db res db') : db'.tasks = db.tasks := by
  have hrefl : ∀ a : Db, a.tasks = a.tasks := fun _ => rfl
  have htrans : ∀ a b c : Db, b.tasks = a.tasks → c.tasks = b.tasks → c.tasks = a.tasks :=
    fun _ _ _ hab hbc => hbc.trans hab
  exact Prog.Runs.within (K := fun a b : Db => b.tasks = a.tasks) hrefl htrans hp h

theorem runs_grows {α : Type} {p : Proc α} (hp : p.Within RecoveryWrite) {res : AppResult α}
    (h : Prog.Runs C p db res db') : Grows db db' :=
  Prog.Runs.within Grows.refl (fun _ _ _ => Grows.trans) (hp.mono fun _ _ => Grows.of_write) h

/-- The stored row is linked to the user by a guarded update. -/
def Linked (userId : Int) (r : Stored TaskColumns) (db db' : Db) : Prop :=
  ∃ task : Task, isPrevious task r = true ∧ task.assignedToUserId = some userId ∧
    db'.tasks = (updated task db).tasks

/-- The link of a waiting row, as `linkRegisteredAssignee` builds it. -/
theorem link_waiting {r : Stored TaskColumns} {task : Task} {now : Instant}
    (hr : r ∈ db.tasks.rows) (hw : waitsFor employeeId r = true)
    (h : (toTask r).linkRegisteredAssignee userId now = .ok task) :
    isPrevious task r = true ∧ task.assignedToUserId = some userId ∧ task.id = some r.id ∧
      task.taskUid = r.val.task.taskUid ∧ updateTask task db = (.ok task, updated task db) := by
  obtain ⟨-, hsame, huser, hv⟩ := Task.linkRegisteredAssignee_ok h
  have hnone : (toTask r).assignedToUserId = none := (of_decide_eq_true hw).2.1
  have hversion : task.version = r.val.task.version + 1 := by
    rcases hv with rfl | hv
    · rw [hnone] at huser
      cases huser
    · exact hv
  have huid : task.taskUid = r.val.task.taskUid := hsame.taskUid
  have hstored : db.stored task.taskUid = some (toTask r) := by
    rw [huid]
    exact stored_of_mem hr
  have hbase : (toTask r).version = task.version - 1 := by
    rw [toTask_version]
    omega
  refine ⟨?_, huser, hsame.id, huid, (update_ok hstored hbase hsame).1⟩
  rw [isPrevious, decide_eq_true_iff]
  exact ⟨huid.symm, hbase⟩

/-- Linking a waiting row: it is linked, or the run ends, with the link stored only when
the failed update is survived. -/
theorem runs_linkTask (hdriver : ∀ site f db, C site f db → DriverFault site f db)
    {clock : Nat → Instant} {r : Stored TaskColumns} {res : AppResult (Option Task)}
    (hr : r ∈ db.tasks.rows) (hw : waitsFor employeeId r = true)
    (h : Prog.Runs C (linkTaskToRegisteredUser clock (toTask r) userId employeeId) db res db') :
    (∃ task, res = .ok (some task) ∧ task.id = some r.id ∧ Linked userId r db db') ∨
      ∃ e, res = .error e ∧ (db' = db ∨
        (Linked userId r db db' ∧ ∃ e', C (.taskUpdate r.val.task.taskUid) (.after e') db)) := by
  unfold linkTaskToRegisteredUser at h
  rcases Prog.runs_lift_bind.mp h with ⟨task, hlink, h⟩ | ⟨e, -, hres, hdb⟩
  · obtain ⟨hprev, huser, hid, huid, hupdate⟩ := link_waiting hr hw hlink
    have hlinked : Linked userId r db (updated task db) := ⟨task, hprev, huser, rfl⟩
    unfold updateUnlessConflict at h
    rw [Prog.bind_assoc] at h
    rcases Prog.runs_bind.mp h with ⟨stored, db₁, hstore, h⟩ | ⟨e, hstore, -⟩
    · obtain ⟨r₀, hr₀, hrun⟩ := Prog.runs_attempt.mp hstore
      cases hr₀
      obtain ⟨f, hf, happly⟩ := Prog.runs_perform.mp hrun
      cases f with
      | none =>
        rw [Fault.apply_none, hupdate] at happly
        cases happly
        obtain ⟨rfl, rfl⟩ := h
        exact .inl ⟨task, rfl, hid, hlinked⟩
      | before e =>
        cases happly
        have hcode := hdriver _ _ _ hf e (.inl rfl)
        simp only [hcode, if_false] at h
        obtain ⟨rfl, rfl⟩ := h
        exact .inr ⟨e, rfl, .inl rfl⟩
      | after e =>
        rw [Fault.apply_after, hupdate] at happly
        cases happly
        have hcode := hdriver _ _ _ hf e (.inr rfl)
        simp only [hcode, if_false] at h
        obtain ⟨rfl, rfl⟩ := h
        rw [huid] at hf
        exact .inr ⟨e, rfl, .inr ⟨hlinked, e, hf⟩⟩
    · obtain ⟨r₀, hr₀, -⟩ := Prog.runs_attempt.mp hstore
      cases hr₀
  · exact .inr ⟨e, hres, .inl hdb⟩

/-- The entry of a linked task: written, or the failed statement is survived. -/
theorem runs_logRecovered {task : Task} {taskId : Int} {now : Instant} {res : AppResult Unit}
    (haccount : db.HasAccount telegramId userId) (hid : task.id = some taskId)
    (h : Prog.Runs (SurvivedFault telegramId employeeId)
      (logRecoveredAssignment task userId employeeId now) db res db') :
    db'.tasks = db.tasks ∧ Grows db db' ∧ db'.LinkLogged taskId userId employeeId ∧
      ∀ e, res = .error e → db'.Announced taskId userId := by
  unfold logRecoveredAssignment at h
  rw [hid, okOrElse_some, Prog.lift_ok_bind] at h
  have hgrows := Grows.appendHistory db (recoveredEntry task taskId userId employeeId now)
  have hlogged : (db.appendHistory (recoveredEntry task taskId userId employeeId now)).LinkLogged
      taskId userId employeeId := by
    refine ⟨⟨db.history.nextId, recoveredEntry task taskId userId employeeId now⟩, ?_, task, now, rfl⟩
    rw [rows_appendHistory]
    exact List.mem_append_right _ List.mem_cons_self
  rcases Prog.runs_bind.mp h with ⟨entry, db₁, happend, hres, rfl⟩ | ⟨e, happend, hres⟩
  · obtain ⟨f, hf, happly⟩ := Prog.runs_perform.mp happend
    cases f with
    | none =>
      cases happly
      refine ⟨rfl, hgrows, hlogged, fun e he => ?_⟩
      rw [hres] at he
      cases he
    | before e => cases happly
    | after e => cases happly
  · obtain ⟨f, ⟨-, hf⟩, happly⟩ := Prog.runs_perform.mp happend
    cases f with
    | none => cases happly
    | before e' =>
      cases happly
      have hsaved := hf userId haccount
      exact ⟨rfl, .refl db, hsaved.1, fun _ _ => hsaved.2⟩
    | after e' =>
      cases happly
      exact ⟨rfl, hgrows, hlogged, fun _ _ => hgrows.announced _ _ (hf userId haccount)⟩

/-- What the lookup of the latest notification finds is one of the task for the user. -/
theorem runs_findLatest {taskId : Int} {found : Option Notification}
    (h : Prog.Runs C (NotificationRepository.findLatestForTaskAndRecipient taskId userId .taskAssigned)
      db (.ok found) db') : db' = db ∧ (found.isSome → db.Announced taskId userId) := by
  obtain ⟨f, -, happly⟩ := Prog.runs_perform.mp h
  have hf : f = .none := Fault.apply_ok (by rw [happly])
  subst hf
  cases happly
  refine ⟨rfl, fun hsome => ?_⟩
  rw [Option.isSome_map] at hsome
  obtain ⟨r, hr⟩ := Option.isSome_iff_exists.mp hsome
  have hmem := List.mem_mergeSort.mp (List.mem_of_head? hr)
  obtain ⟨hrow, hq⟩ := List.mem_filter.mp hmem
  exact ⟨r, hrow, of_decide_eq_true hq⟩

/-- The announcement of a linked task is written, when its key is free. -/
theorem runs_enqueueAssignment {task : Task} {taskId : Int} {now : Instant}
    {res : AppResult Notification} (hid : task.id = some taskId)
    (h : Prog.Runs (SurvivedFault telegramId employeeId)
      (NotificationRepository.enqueue 0 (CreateTaskFromMessage.assignmentNotification task userId now))
      db res db') : db'.Announced taskId userId := by
  have hinsert : ∀ {r : AppResult Unit} {db₁ : Db}, Prog.Runs (SurvivedFault telegramId employeeId)
      (write (.notificationInsert (CreateTaskFromMessage.assignmentDedupeKey task.taskUid userId) 0)
        fun db => ((), db.insertNotification
          (CreateTaskFromMessage.assignmentNotification task userId now))) db r db₁ →
      db₁.Announced taskId userId := by
    intro r db₁ hrun
    obtain ⟨f, ⟨-, hf⟩, happly⟩ := Prog.runs_perform.mp hrun
    cases f with
    | before e => exact hf.elim
    | none =>
      cases happly
      exact announced_insert hid hf now
    | after e =>
      cases happly
      exact announced_insert hid hf now
  unfold NotificationRepository.enqueue at h
  rcases Prog.runs_bind.mp h with ⟨u, db₁, hrun, h⟩ | ⟨e, hrun, -⟩
  · have hrest : db₁ = db' := Prog.Runs.within (K := Eq) (fun _ => rfl) (fun _ _ _ => Eq.trans)
      (.bind (select_reads _ _) fun _ => .bind (.lift _) fun _ => .pure _) h
    rw [← hrest]
    exact hinsert hrun
  · exact hinsert hrun

/-- The announcement of a linked task is there when the statements end, failed or not. -/
theorem runs_ensureAssignment {task : Task} {taskId : Int} {now : Instant} {res : AppResult Unit}
    (hid : task.id = some taskId)
    (h : Prog.Runs (SurvivedFault telegramId employeeId)
      (ensureAssignmentNotification task userId now) db res db') : db'.Announced taskId userId := by
  unfold ensureAssignmentNotification at h
  rw [hid, okOrElse_some, Prog.lift_ok_bind] at h
  rcases Prog.runs_bind.mp h with ⟨existing, db₁, hfind, h⟩ | ⟨e, hfind, -⟩
  · obtain ⟨rfl, hfound⟩ := runs_findLatest hfind
    cases existing with
    | some n =>
      simp only at h
      refine (runs_grows ?_ h).announced _ _ (hfound rfl)
      split
      · exact .pure _
      · split
        · exact write_within fun db => .requeue _
        · exact .pure _
    | none =>
      rcases Prog.runs_bind.mp h with ⟨n, db₂, henqueue, -, rfl⟩ | ⟨e, henqueue, -⟩
      · exact runs_enqueueAssignment hid henqueue
      · exact runs_enqueueAssignment hid henqueue
  · obtain ⟨f, ⟨-, hf⟩, happly⟩ := Prog.runs_perform.mp hfind
    cases f with
    | none => cases happly
    | before e' =>
      cases happly
      exact hf
    | after e' =>
      cases happly
      exact hf

/-! ## The invariant -/

/-- How many tasks wait. -/
def Db.waiting (db : Db) (employeeId : Int) : Nat := db.tasks.rows.countP (waitsFor employeeId)

/-- What holds after any number of runs whose failures are survived. -/
structure Recovering (telegramId employeeId : Int) (start db : Db) : Prop where
  /-- No task begins to wait. -/
  fewer : db.waiting employeeId ≤ start.waiting employeeId
  /-- A task that waited at the start still does, or is recovered. -/
  covered : ∀ r₀ ∈ start.tasks.rows, waitsFor employeeId r₀ = true →
    ∃ r ∈ db.tasks.rows, r.id = r₀.id ∧
      (waitsFor employeeId r = true ∨ Recovered telegramId employeeId db r)

theorem Recovered.grows {r : Stored TaskColumns} (h : Recovered telegramId employeeId db r)
    (hg : Grows db db') : Recovered telegramId employeeId db' r := by
  obtain ⟨u, haccount, huser, hlogged, hann⟩ := h
  exact ⟨u, hg.accounts _ _ haccount, huser, hg.linkLogged hlogged, hg.announced _ _ hann⟩

/-- The row of the link is the only one a guarded update of it touches. -/
theorem setWhere_other {r r' : Stored TaskColumns} {task : Task} (hr : r ∈ db.tasks.rows)
    (hr' : r' ∈ db.tasks.rows) (hprev : isPrevious task r = true) (hne : r' ≠ r) :
    setWhere (isPrevious task) (updateColumns task) r' = r' := by
  have hno : ¬ isPrevious task r' = true := by
    intro hp
    simp only [isPrevious, decide_eq_true_eq] at hprev hp
    refine hne (Table.eq_of_not_apart hr' hr (.inr ((clash_tasks _ _).mpr (.inl ?_))))
    rw [hp.1, hprev.1]
  rw [setWhere, if_neg hno]

theorem waitsFor_linked {task : Task} (huser : task.assignedToUserId = some userId)
    (r : Stored TaskColumns) : waitsFor employeeId ⟨r.id, updateColumns task r.val⟩ = false := by
  simp [waitsFor, updateColumns, huser]

/-- Linking a row that waits leaves one task less to wait. -/
theorem waiting_linked {r : Stored TaskColumns} (hr : r ∈ db.tasks.rows)
    (hw : waitsFor employeeId r = true) (h : Linked userId r db db') :
    db'.waiting employeeId < db.waiting employeeId := by
  obtain ⟨task, hprev, huser, htasks⟩ := h
  unfold Db.waiting
  rw [htasks, tasks_updated]
  exact Table.countP_modify_lt hr hw hprev fun a _ => waitsFor_linked huser a

namespace Recovering

variable {start : Db}

theorem refl (db : Db) : Recovering telegramId employeeId db db :=
  ⟨Nat.le_refl _, fun r₀ hr₀ hw => ⟨r₀, hr₀, rfl, .inl hw⟩⟩

/-- Statements that leave the tasks keep the invariant. -/
theorem keep (h : Recovering telegramId employeeId start db) (htasks : db'.tasks = db.tasks)
    (hg : Grows db db') : Recovering telegramId employeeId start db' := by
  constructor
  · unfold Db.waiting
    rw [htasks]
    exact h.fewer
  · intro r₀ hr₀ hw₀
    obtain ⟨r, hr, hid, hor⟩ := h.covered r₀ hr₀ hw₀
    rw [htasks]
    exact ⟨r, hr, hid, hor.imp_right fun hrec => hrec.grows hg⟩

/-- A waiting row that is linked, logged and announced. -/
theorem recover (h : Recovering telegramId employeeId start db) {r : Stored TaskColumns}
    (hr : r ∈ db.tasks.rows) (hw : waitsFor employeeId r = true)
    (haccount : db.HasAccount telegramId userId) (hlink : Linked userId r db db') (hg : Grows db db')
    (hlogged : db'.LinkLogged r.id userId employeeId) (hann : db'.Announced r.id userId) :
    Recovering telegramId employeeId start db' := by
  have hless := waiting_linked hr hw hlink
  obtain ⟨task, hprev, huser, htasks⟩ := hlink
  constructor
  · have hfewer := h.fewer
    omega
  · intro r₀ hr₀ hw₀
    obtain ⟨r', hr', hid, hor⟩ := h.covered r₀ hr₀ hw₀
    rw [htasks, tasks_updated]
    by_cases hrr : r' = r
    · subst hrr
      refine ⟨_, List.mem_map_of_mem hr', by rw [setWhere_id, hid], .inr ?_⟩
      rw [setWhere, if_pos hprev]
      exact ⟨userId, hg.accounts _ _ haccount, huser, hlogged, hann⟩
    · have hsame := setWhere_other hr hr' hprev hrr
      refine ⟨r', Table.mem_modify.mpr ⟨r', hr', hsame⟩, hid, ?_⟩
      exact hor.imp_right fun hrec => hrec.grows hg

end Recovering

/-! ## Batches -/

theorem Linked.congr {r : Stored TaskColumns} {db'' : Db} (h : Linked userId r db db')
    (htasks : db''.tasks = db'.tasks) : Linked userId r db db'' := by
  obtain ⟨task, hprev, huser, hdb'⟩ := h
  exact ⟨task, hprev, huser, htasks.trans hdb'⟩

/-- The tasks are rows that wait, each listed once. -/
def Listed (employeeId : Int) (tasks : List Task) (db : Db) : Prop :=
  tasks.Pairwise (fun a b => a.taskUid ≠ b.taskUid) ∧
    ∀ task ∈ tasks, ∃ r ∈ db.tasks.rows, waitsFor employeeId r = true ∧ toTask r = task

/-- Linking the first leaves the others as listed. -/
theorem Listed.tail {r : Stored TaskColumns} {tasks : List Task}
    (h : Listed employeeId (toTask r :: tasks) db) (hr : r ∈ db.tasks.rows)
    (hlink : Linked userId r db db') : Listed employeeId tasks db' := by
  obtain ⟨hapart, hrows⟩ := h
  obtain ⟨hne, hrest⟩ := List.pairwise_cons.mp hapart
  obtain ⟨task, hprev, -, htasks⟩ := hlink
  refine ⟨hrest, fun t ht => ?_⟩
  obtain ⟨r', hr', hw, rfl⟩ := hrows t (List.mem_cons_of_mem _ ht)
  have hother : r' ≠ r := by
    rintro rfl
    exact hne _ ht rfl
  refine ⟨r', ?_, hw, rfl⟩
  rw [htasks, tasks_updated]
  exact Table.mem_modify.mpr ⟨r', hr', setWhere_other hr hr' hprev hother⟩

section

variable {start : Db} {r : Stored TaskColumns}

/-- What follows the link of a waiting row: its entry and its announcement, and then the
rest `k`, unless one of the statements fails. -/
theorem runs_afterLink {α : Type} {k : Proc α} {db₁ : Db} {task : Task} {now now' : Instant}
    {res : AppResult α} (hinv : Recovering telegramId employeeId start db) (hr : r ∈ db.tasks.rows)
    (hw : waitsFor employeeId r = true) (haccount : db.HasAccount telegramId userId)
    (hlink : Linked userId r db db₁) (hgrows : Grows db db₁) (hid : task.id = some r.id)
    (h : Prog.Runs (SurvivedFault telegramId employeeId)
      (logRecoveredAssignment task userId employeeId now >>= fun _ =>
        ensureAssignmentNotification task userId now' >>= fun _ => k) db₁ res db') :
    ∃ db₃, Recovering telegramId employeeId start db₃ ∧ Linked userId r db db₃ ∧ Grows db db₃ ∧
      (Prog.Runs (SurvivedFault telegramId employeeId) k db₃ res db' ∨
        db' = db₃ ∧ ∃ e, res = .error e) := by
  have haccount₁ := hgrows.accounts _ _ haccount
  rcases Prog.runs_bind.mp h with ⟨u, db₂, hlog, h⟩ | ⟨e, hlog, hres⟩
  · obtain ⟨htasks₂, hgrows₂, hlogged₂, -⟩ := runs_logRecovered haccount₁ hid hlog
    have hensured : ∀ {res : AppResult Unit} {db₃ : Db}, Prog.Runs (SurvivedFault telegramId employeeId)
        (ensureAssignmentNotification task userId now') db₂ res db₃ →
        Recovering telegramId employeeId start db₃ ∧ Linked userId r db db₃ ∧ Grows db db₃ := by
      intro res db₃ hensure
      have hgrows₃ := runs_grows (ensureAssignmentNotification_writes task userId now') hensure
      have htasks₃ := runs_leavesTasks (ensureAssignmentNotification_leavesTasks task userId now') hensure
      have hlinked₃ := hlink.congr (htasks₃.trans htasks₂)
      have hgrown := (hgrows.trans hgrows₂).trans hgrows₃
      have hann := runs_ensureAssignment hid hensure
      exact ⟨hinv.recover hr hw haccount hlinked₃ hgrown (hgrows₃.linkLogged hlogged₂) hann,
        hlinked₃, hgrown⟩
    rcases Prog.runs_bind.mp h with ⟨u, db₃, hensure, h⟩ | ⟨e, hensure, hres⟩
    · obtain ⟨hinv₃, hlinked₃, hgrows₃⟩ := hensured hensure
      exact ⟨db₃, hinv₃, hlinked₃, hgrows₃, .inl h⟩
    · obtain ⟨hinv₃, hlinked₃, hgrows₃⟩ := hensured hensure
      exact ⟨db', hinv₃, hlinked₃, hgrows₃, .inr ⟨rfl, e, hres⟩⟩
  · obtain ⟨htasks₂, hgrows₂, hlogged₂, hann⟩ := runs_logRecovered haccount₁ hid hlog
    have hlinked₂ := hlink.congr htasks₂
    have hgrown := hgrows.trans hgrows₂
    exact ⟨db', hinv.recover hr hw haccount hlinked₂ hgrown hlogged₂ (hann e rfl), hlinked₂, hgrown,
      .inr ⟨rfl, e, hres⟩⟩

/-- A link that ends the run keeps the invariant: it was not stored, or its failure is survived. -/
theorem linkTask_error {clock : Nat → Instant} {e : AppError}
    (hinv : Recovering telegramId employeeId start db) (hr : r ∈ db.tasks.rows)
    (hw : waitsFor employeeId r = true) (haccount : db.HasAccount telegramId userId)
    (h : Prog.Runs (SurvivedFault telegramId employeeId)
      (linkTaskToRegisteredUser clock (toTask r) userId employeeId) db (.error e) db') :
    Recovering telegramId employeeId start db' := by
  have hgrows := runs_grows (linkTask_writes clock (toTask r) userId employeeId) h
  rcases runs_linkTask (fun _ _ _ hf => hf.1) hr hw h with ⟨task, hsaved, -⟩ | ⟨e', -, hsame | hstored⟩
  · cases hsaved
  · rw [hsame]
    exact hinv
  · obtain ⟨hlinked, e'', -, hsurvived⟩ := hstored
    obtain ⟨hlogged, hann⟩ := hsurvived r hr rfl userId haccount
    exact hinv.recover hr hw haccount hlinked hgrows (hgrows.linkLogged hlogged)
      (hgrows.announced _ _ hann)

end

/-- **One batch** keeps the invariant; when it answers, all its tasks have ceased to wait. -/
theorem recoverTaskBatch_recovering {start : Db} {clock : Nat → Instant} (tasks : List Task) :
    ∀ {n : Nat} {db db' : Db} {res : AppResult Nat}, Recovering telegramId employeeId start db →
      db.HasAccount telegramId userId → Listed employeeId tasks db →
      Prog.Runs (SurvivedFault telegramId employeeId)
        (recoverTaskBatch clock userId employeeId n tasks) db res db' →
      Recovering telegramId employeeId start db' ∧
        ∀ count, res = .ok count → count = tasks.length ∧
          db'.waiting employeeId + tasks.length ≤ db.waiting employeeId := by
  induction tasks with
  | nil =>
    intro n db db' res hinv _ _ h
    obtain ⟨rfl, rfl⟩ := h
    refine ⟨hinv, fun count hc => ?_⟩
    cases hc
    exact ⟨rfl, Nat.le_refl _⟩
  | cons task tasks ih =>
    intro n db db' res hinv haccount hlisted h
    obtain ⟨r, hr, hw, rfl⟩ := hlisted.2 task List.mem_cons_self
    rcases Prog.runs_bind.mp h with ⟨saved, db₁, hlink, h⟩ | ⟨e, hlink, rfl⟩
    · have hgrows₁ := runs_grows (linkTask_writes _ (toTask r) userId employeeId) hlink
      rcases runs_linkTask (fun _ _ _ hf => hf.1) hr hw hlink with ⟨task, hsaved, hid, hlinked⟩ | ⟨e, he, -⟩
      · cases hsaved
        obtain ⟨db₃, hinv₃, hlinked₃, hgrows₃, hrest | ⟨rfl, e, rfl⟩⟩ :=
          runs_afterLink hinv hr hw haccount hlinked hgrows₁ hid h
        · have hless := waiting_linked hr hw hlinked₃
          have haccount₃ := hgrows₃.accounts _ _ haccount
          have hlisted₃ := hlisted.tail hr hlinked₃
          rcases Prog.runs_bind.mp hrest with ⟨count, db₄, hbatch, hend⟩ | ⟨e, hbatch, rfl⟩
          · obtain ⟨hinv₄, hcount⟩ := ih hinv₃ haccount₃ hlisted₃ hbatch
            obtain ⟨rfl, rfl⟩ := hend
            refine ⟨hinv₄, fun c hc => ?_⟩
            cases hc
            obtain ⟨rfl, hle⟩ := hcount count rfl
            rw [List.length_cons]
            exact ⟨rfl, by omega⟩
          · exact ⟨(ih hinv₃ haccount₃ hlisted₃ hbatch).1, fun _ hc => nomatch hc⟩
        · exact ⟨hinv₃, fun _ hc => nomatch hc⟩
      · cases he
    · exact ⟨linkTask_error hinv hr hw haccount hlink, fun _ hc => nomatch hc⟩

/-- The tasks a batch is given, and how many wait when the batch is not full. -/
theorem listed_of_listing {res : AppResult (List Task)}
    (h : Prog.Runs C (listOpenAssignedToEmployeeWithoutUser employeeId
      registrationRecoveryTaskBatchSize) db res db') :
    db' = db ∧ ∀ tasks, res = .ok tasks → Listed employeeId tasks db ∧
      tasks.length = min registrationRecoveryTaskBatchSize (db.waiting employeeId) := by
  obtain ⟨f, -, happly⟩ := Prog.runs_perform.mp h
  cases f with
  | before e =>
    cases happly
    exact ⟨rfl, fun _ ht => nomatch ht⟩
  | after e =>
    cases happly
    exact ⟨rfl, fun _ ht => nomatch ht⟩
  | none =>
    cases happly
    refine ⟨rfl, fun tasks ht => ?_⟩
    cases ht
    refine ⟨⟨?_, fun task htask => ?_⟩, ?_⟩
    · refine List.Pairwise.sublist (List.take_sublist _ _) ?_
      have happart : ((db.tasks.rows.filter (waitsFor employeeId)).map toTask).Pairwise
          fun a b => a.taskUid ≠ b.taskUid := by
        refine List.pairwise_map.mpr ((db.tasks.apart.imp ?_).filter _)
        rintro a b ⟨-, hclash⟩ huid
        have hsame : Keyed.clash a.val b.val = true := (clash_tasks _ _).mpr (.inl huid)
        rw [hsame] at hclash
        cases hclash
      exact (List.mergeSort_perm _ _).symm.pairwise happart fun h => Ne.symm h
    · obtain ⟨r, hr, rfl⟩ := List.mem_map.mp (List.mem_mergeSort.mp (List.mem_of_mem_take htask))
      obtain ⟨hrow, hw⟩ := List.mem_filter.mp hr
      exact ⟨r, hrow, hw, rfl⟩
    · rw [List.length_take, List.length_mergeSort, List.length_map, ← List.countP_eq_length_filter]
      rfl

/-- **All batches** keep the invariant; when they answer, nothing they have room for waits. -/
theorem recoverBatches_recovering {start : Db} {clock : Nat → Instant} (n : Nat) :
    ∀ {db db' : Db} {res : AppResult Unit}, Recovering telegramId employeeId start db →
      db.HasAccount telegramId userId →
      Prog.Runs (SurvivedFault telegramId employeeId) (recoverBatches clock userId employeeId n) db res db' →
      Recovering telegramId employeeId start db' ∧
        (res = .ok () → db.waiting employeeId ≤ registrationRecoveryTaskBatchSize * n →
          db'.waiting employeeId = 0) := by
  induction n with
  | zero =>
    intro db db' res hinv _ h
    obtain ⟨rfl, rfl⟩ := h
    exact ⟨hinv, fun _ hroom => by omega⟩
  | succ n ih =>
    intro db db' res hinv haccount hrun
    rcases Prog.runs_bind.mp hrun with ⟨tasks, db₁, hlist, h⟩ | ⟨e, hlist, rfl⟩
    · obtain ⟨rfl, hlisting⟩ := listed_of_listing hlist
      obtain ⟨hlisted, hlength⟩ := hlisting tasks rfl
      by_cases hempty : tasks.isEmpty
      · rw [if_pos hempty] at h
        obtain ⟨rfl, rfl⟩ := h
        refine ⟨hinv, fun _ _ => ?_⟩
        rw [List.isEmpty_iff.mp hempty, List.length_nil] at hlength
        have hsize : 0 < registrationRecoveryTaskBatchSize := by decide
        omega
      · rw [if_neg hempty] at h
        rcases Prog.runs_bind.mp h with ⟨count, db₂, hbatch, hrest⟩ | ⟨e, hbatch, rfl⟩
        · obtain ⟨hinv₂, hcount⟩ := recoverTaskBatch_recovering tasks hinv haccount hlisted hbatch
          obtain ⟨rfl, hle⟩ := hcount count rfl
          have hpos : tasks.length ≠ 0 := fun h0 => hempty (List.isEmpty_iff_length_eq_zero.mpr h0)
          by_cases hlast : tasks.length < registrationRecoveryTaskBatchSize
          · rw [if_pos (.inr hlast)] at hrest
            obtain ⟨rfl, rfl⟩ := hrest
            exact ⟨hinv₂, fun _ _ => by omega⟩
          · rw [if_neg (by omega)] at hrest
            have hgrows := runs_grows (recoverTaskBatch_writes clock userId employeeId tasks _) hbatch
            obtain ⟨hinv₃, hdone⟩ := ih hinv₂ (hgrows.accounts _ _ haccount) hrest
            refine ⟨hinv₃, fun hok hroom => hdone hok ?_⟩
            rw [Nat.mul_succ] at hroom
            omega
        · exact ⟨(recoverTaskBatch_recovering tasks hinv haccount hlisted hbatch).1,
            fun hc => nomatch hc⟩
    · obtain ⟨rfl, -⟩ := listed_of_listing hlist
      exact ⟨hinv, fun hc => nomatch hc⟩

/-! ## Registrations -/

theorem upsertUser_answer {user actor : User} (h : (UserRepository.upsertUser user db).1 = .ok actor) :
    ∃ userId, actor.id = some userId ∧
      (UserRepository.upsertUser user db).2.HasAccount user.telegramId userId := by
  unfold UserRepository.upsertUser at h ⊢
  cases hf : db.users.find? fun r => r.val.user.telegramId = user.telegramId with
  | some r =>
    rw [hf] at h
    obtain ⟨hr, hq⟩ := Table.find?_some hf
    cases h
    refine ⟨r.id, rfl, _, List.mem_map_of_mem hr, ?_, by rw [setWhere_id]⟩
    rw [setWhere, if_pos hq]
    exact of_decide_eq_true hq
  | none =>
    rw [hf] at h
    cases h
    refine ⟨db.users.nextId, rfl, ?_⟩
    rcases Table.insertOrIgnore_cases db.users ⟨user, some user.onboardingState.asStorageValue⟩ with
      ⟨⟨r, hr, hc⟩, -⟩ | ⟨-, hrows, -⟩
    · have hne := of_decide_eq_false (Table.find?_none hf r hr)
      exact absurd (of_decide_eq_true hc) hne
    · rw [Db.HasAccount]
      simp only [hrows]
      exact ⟨_, List.mem_append_right _ List.mem_cons_self, rfl, rfl⟩

/-- The account of the sender is stored, or the statement fails. -/
theorem runs_persistUser {message : IncomingMessage} {employee : Option Employee} {res : AppResult User}
    (h : Prog.Runs C (persistUser message employee) db res db') :
    db'.tasks = db.tasks ∧ db'.history = db.history ∧ db'.notifications = db.notifications ∧
      Grows db db' ∧ ∀ actor, res = .ok actor →
        ∃ userId, actor.id = some userId ∧ db'.HasAccount message.senderId userId := by
  obtain ⟨f, -, happly⟩ := Prog.runs_perform.mp h
  generalize huser : ({ User.fromMessage message .user employee.isSome with
    linkedEmployeeId := employee.bind Employee.id } : User) = user at happly
  have htelegram : user.telegramId = message.senderId := by
    rw [← huser]
    rfl
  have hsame : (UserRepository.upsertUser user db).2.tasks = db.tasks ∧
      (UserRepository.upsertUser user db).2.history = db.history ∧
      (UserRepository.upsertUser user db).2.notifications = db.notifications := by
    unfold UserRepository.upsertUser
    split
    · exact ⟨rfl, rfl, rfl⟩
    · exact ⟨rfl, rfl, rfl⟩
  obtain ⟨htasks, hhistory, hnotifications⟩ := hsame
  have hgrows := Grows.upsert user db
  cases f with
  | none =>
    rw [Fault.apply_none] at happly
    have hstore : (UserRepository.upsertUser user db).2 = db' := by rw [happly]
    have hanswer : (UserRepository.upsertUser user db).1 = res := by rw [happly]
    rw [hstore] at htasks hhistory hnotifications hgrows
    refine ⟨htasks, hhistory, hnotifications, hgrows, fun actor hactor => ?_⟩
    rw [hactor] at hanswer
    have hfound := upsertUser_answer hanswer
    rw [hstore, htelegram] at hfound
    exact hfound
  | before e =>
    cases happly
    exact ⟨rfl, rfl, rfl, .refl db, fun _ hc => nomatch hc⟩
  | after e =>
    cases happly
    exact ⟨htasks, hhistory, hnotifications, hgrows, fun _ hc => nomatch hc⟩

/-- A run stops before its user is stored, or goes on to the batches of the employee. -/
theorem runs_program {toLowercase : String → String} {run : RegistrationRun} {res : AppResult User}
    (hdecides : run.Decides toLowercase telegramId employeeId db)
    (h : Prog.Runs C (run.program toLowercase) db res db') :
    ∃ db₁, db₁.tasks = db.tasks ∧ db₁.history = db.history ∧ db₁.notifications = db.notifications ∧
      Grows db db₁ ∧ ((db' = db₁ ∧ ∃ e, res = .error e) ∨
        ∃ actor userId r, actor.id = some userId ∧ db₁.HasAccount telegramId userId ∧
          Prog.Runs C (recoverBatches run.clock userId employeeId maxRegistrationRecoveryBatches)
            db₁ r db' ∧ (r = .ok () ∧ res = .ok actor ∨ ∃ e, res = .error e)) := by
  obtain ⟨hsender, hemployee⟩ := hdecides
  rcases Prog.runs_bind.mp h with ⟨employee, db₀, hresolve, hrest⟩ | ⟨e, hresolve, hres⟩
  · have hsame : db = db₀ := Prog.Runs.within (K := Eq) (fun _ => rfl) (fun _ _ _ => Eq.trans)
      (resolveEmployeeForDecision_reads _ _ _) hresolve
    subst hsame
    have hid := hemployee employee db (hresolve.mono fun _ _ _ _ => trivial)
    rcases Prog.runs_bind.mp hrest with ⟨actor, db₁, hpersist, hrest⟩ | ⟨e, hpersist, hres⟩
    · obtain ⟨htasks, hhistory, hnotifications, hgrows, hactor⟩ := runs_persistUser hpersist
      obtain ⟨userId, hactorId, haccount⟩ := hactor actor rfl
      rw [hsender] at haccount
      refine ⟨db₁, htasks, hhistory, hnotifications, hgrows, .inr ?_⟩
      have hpending : recoverPendingAssignments run.clock actor employee =
          recoverBatches run.clock userId employeeId maxRegistrationRecoveryBatches := by
        unfold recoverPendingAssignments CreateTaskFromMessage.requiredUserId
        rw [hid, hactorId]
        rfl
      rw [hpending] at hrest
      rcases Prog.runs_bind.mp hrest with ⟨u, db₂, hbatches, rfl, rfl⟩ | ⟨e, hbatches, hres⟩
      · exact ⟨actor, userId, .ok u, hactorId, haccount, hbatches, .inl ⟨rfl, rfl⟩⟩
      · exact ⟨actor, userId, .error e, hactorId, haccount, hbatches, .inr ⟨e, hres⟩⟩
    · obtain ⟨htasks, hhistory, hnotifications, hgrows, -⟩ := runs_persistUser hpersist
      exact ⟨db', htasks, hhistory, hnotifications, hgrows, .inl ⟨rfl, e, hres⟩⟩
  · have hsame : db = db' := Prog.Runs.within (K := Eq) (fun _ => rfl) (fun _ _ _ => Eq.trans)
      (resolveEmployeeForDecision_reads _ _ _) hresolve
    exact ⟨db, rfl, rfl, rfl, .refl db, .inl ⟨hsame.symm, e, hres⟩⟩

/-- **One run** keeps the invariant; when it answers, nothing it has room for waits. -/
theorem program_recovering {start : Db} {toLowercase : String → String} {run : RegistrationRun}
    {res : AppResult User} (hinv : Recovering telegramId employeeId start db)
    (hdecides : run.Decides toLowercase telegramId employeeId db)
    (h : Prog.Runs (SurvivedFault telegramId employeeId) (run.program toLowercase) db res db') :
    Recovering telegramId employeeId start db' ∧ ∀ actor, res = .ok actor →
      (∃ userId, actor.id = some userId ∧ db'.HasAccount telegramId userId) ∧
        (start.waiting employeeId ≤ 1000 → db'.waiting employeeId = 0) := by
  obtain ⟨db₁, htasks, -, -, hgrows, hor⟩ := runs_program hdecides h
  have hinv₁ := hinv.keep htasks hgrows
  rcases hor with ⟨rfl, e, rfl⟩ | ⟨actor, userId, r, hid, haccount, hbatches, hend⟩
  · exact ⟨hinv₁, fun _ hc => nomatch hc⟩
  · obtain ⟨hinv₂, hdone⟩ := recoverBatches_recovering _ hinv₁ haccount hbatches
    refine ⟨hinv₂, fun actor' hactor => ?_⟩
    rcases hend with ⟨rfl, rfl⟩ | ⟨e, rfl⟩
    · cases hactor
      have hgrows₂ := runs_grows (recoverBatches_writes run.clock userId employeeId _) hbatches
      refine ⟨⟨userId, hid, hgrows₂.accounts _ _ haccount⟩, fun hfew => hdone rfl ?_⟩
      have hfewer := hinv₁.fewer
      have hroom : registrationRecoveryTaskBatchSize * maxRegistrationRecoveryBatches = 1000 := rfl
      omega
    · cases hactor

/-- With nothing waiting a run that answers only touches its user. -/
theorem program_idle {toLowercase : String → String} {run : RegistrationRun} {actor : User}
    (hnone : db.waiting employeeId = 0) (hdecides : run.Decides toLowercase telegramId employeeId db)
    (h : Prog.Runs C (run.program toLowercase) db (.ok actor) db') :
    db'.tasks = db.tasks ∧ db'.history = db.history ∧ db'.notifications = db.notifications := by
  obtain ⟨db₁, htasks, hhistory, hnotifications, -, hor⟩ := runs_program hdecides h
  rcases hor with ⟨-, e, hres⟩ | ⟨actor, userId, r, -, -, hbatches, ⟨rfl, -⟩ | ⟨e, hres⟩⟩
  · cases hres
  · rcases Prog.runs_bind.mp hbatches with ⟨tasks, db₂, hlist, hrest⟩ | ⟨e, -, hres⟩
    · obtain ⟨rfl, hlisting⟩ := listed_of_listing hlist
      have hlength := (hlisting tasks rfl).2
      have hwaiting : db₂.waiting employeeId = 0 := by
        unfold Db.waiting
        rw [htasks]
        exact hnone
      rw [hwaiting, Nat.min_zero] at hlength
      rw [if_pos (List.isEmpty_iff_length_eq_zero.mpr hlength)] at hrest
      obtain ⟨-, rfl⟩ := hrest
      exact ⟨htasks, hhistory, hnotifications⟩
    · cases hres
  · cases hres

/-! ## Top theorem -/

theorem registrations_recovering {toLowercase : String → String} {start : Db}
    (h : Registrations (SurvivedFault telegramId employeeId) toLowercase telegramId employeeId db db')
    (hinv : Recovering telegramId employeeId start db) :
    Recovering telegramId employeeId start db' := by
  induction h with
  | none db => exact hinv
  | next run hdecides hrun hrest ih => exact ih (program_recovering hinv hdecides hrun).1

theorem account_unique {u u' : Int} (h : db.HasAccount telegramId u) (h' : db.HasAccount telegramId u') :
    u = u' := by
  obtain ⟨r, hr, ht, rfl⟩ := h
  obtain ⟨r', hr', ht', rfl⟩ := h'
  have hclash : Keyed.clash r.val r'.val = true := decide_eq_true (ht.trans ht'.symm)
  rw [Table.eq_of_not_apart hr hr' (.inr hclash)]

/-- **Recovery leaves no assignee without notice**, over any runs whose failures are survived. -/
theorem recovery_complete (toLowercase : String → String) {start : Db}
    (hfew : start.waiting employeeId ≤ 1000) :
    RecoveryComplete (SurvivedFault telegramId employeeId) toLowercase telegramId employeeId start := by
  intro db db' run actor hearlier hdecides hrun
  have hinv := registrations_recovering hearlier (.refl start)
  obtain ⟨hinv', hanswer⟩ := program_recovering hinv hdecides hrun
  obtain ⟨⟨userId, hid, haccount⟩, hdone⟩ := hanswer actor rfl
  have hnone := hdone hfew
  refine ⟨⟨userId, hid, fun r₀ hr₀ hw₀ => ?_⟩, fun again actor' db'' hagain hrun' =>
    program_idle hnone hagain hrun'⟩
  obtain ⟨r, hr, hrid, hw | hrecovered⟩ := hinv'.covered r₀ hr₀ hw₀
  · have hpos := List.countP_pos_iff.mpr ⟨r, hr, hw⟩
    unfold Db.waiting at hnone
    omega
  · obtain ⟨u, hu, huser, hlogged, hann⟩ := hrecovered
    rw [account_unique haccount hu]
    exact ⟨r, hr, hrid, huser, hlogged, hann⟩

end

/-! ## A task that waits for employee 1 -/

/-- An explicit choice of an employee the directory has. -/
theorem decides_employeeId {db : Db} {run : RegistrationRun} {telegramId employeeId : Int}
    (toLowercase : String → String) (hsender : run.message.senderId = telegramId)
    (hdecision : run.decision = .employeeId employeeId)
    (hknown : (db.employees.find? fun r => r.id = employeeId).isSome) :
    run.Decides toLowercase telegramId employeeId db := by
  refine ⟨hsender, fun employee db' h => ?_⟩
  rw [hdecision] at h
  obtain ⟨f, -, happly⟩ := Prog.runs_perform.mp h
  have hf : f = .none := Fault.apply_ok (by rw [happly])
  subst hf
  obtain ⟨r, hr⟩ := Option.isSome_iff_exists.mp hknown
  simp only [Fault.apply_none, hr] at happly
  cases happly
  exact congrArg some (of_decide_eq_true (Table.find?_some hr).2)

def awaitedTask : Task := { sampleTask with assignedToUserId := none, assignedToEmployeeId := some 1 }

def adaInDirectory : Employee := ⟨none, "Ada", none, none, none, none, true, none, 0, 0⟩

def awaitingDb : Db :=
  { Db.withTask awaitedTask with employees := (Table.empty.insertOrIgnore adaInDirectory).1 }

def adaRegisters : RegistrationRun := ⟨sampleMessage, .employeeId 1, fun _ => 0⟩

/-- The plan under which one statement fails before its effect. -/
def failsAt (site : Site) : Site → Fault AppError := fun s => if s = site then .before diskError else .none

theorem driverFault_failsAt (site s : Site) (db : Db) : DriverFault s (failsAt site s) db := by
  intro e he
  unfold failsAt at he
  split at he
  · rcases he with he | he
    · cases he
      decide
    · cases he
  · rcases he with he | he
    · cases he
    · cases he

theorem adaRegisters_decides (db : Db) (h : (db.employees.find? fun r => r.id = 1).isSome) :
    adaRegisters.Decides id 10 1 db := decides_employeeId id rfl rfl h

theorem driverFault_none (site : Site) (db : Db) : DriverFault site .none db := by
  rintro e (he | he)
  · cases he
  · cases he

theorem ok_of_isOk {α : Type} {r : AppResult α} (h : r.isOk = true) : ∃ a, r = .ok a := by
  cases r with
  | ok a => exact ⟨a, rfl⟩
  | error e => cases h

/-- What a run without failures and one with a failing listing or entry leave. -/
def tryAgain (db : Db) : AppResult User × Db := (adaRegisters.program id).run (fun _ => .none) db

def tryFailing (site : Site) : AppResult User × Db :=
  (adaRegisters.program id).run (failsAt site) awaitingDb

theorem admitted_failing : Prog.Admitted (SurvivedFault 10 1) (failsAt (.taskListUnlinked 1))
    (adaRegisters.program id) awaitingDb := by
  refine And.intro ⟨driverFault_failsAt _ _ _, trivial⟩ ?_
  refine And.intro ⟨driverFault_failsAt _ _ _, trivial⟩ ?_
  exact And.intro ⟨driverFault_failsAt _ _ _, trivial⟩ trivial

theorem admitted_again : Prog.Admitted (SurvivedFault 10 1) (fun _ => .none)
    (adaRegisters.program id) (tryFailing (.taskListUnlinked 1)).2 := by
  refine And.intro ⟨driverFault_none _ _, trivial⟩ ?_
  refine And.intro ⟨driverFault_none _ _, trivial⟩ ?_
  refine Prog.admitted_call (r := .ok [{ awaitedTask with id := some 1 }]) ⟨driverFault_none _ _, trivial⟩
    (Prod.ext (by decide +kernel) rfl) ?_
  refine And.intro ⟨driverFault_none _ _, trivial⟩ ?_
  refine And.intro ⟨driverFault_none _ _, trivial⟩ ?_
  refine Prog.admitted_call (r := .ok none) ⟨driverFault_none _ _, trivial⟩
    (Prod.ext (by decide +kernel) rfl) ?_
  refine And.intro ⟨driverFault_none _ _, fun n hn => nomatch hn⟩ ?_
  refine And.intro ⟨driverFault_none _ _, trivial⟩ ?_
  trivial

/-- The listing fails in the first run; the second links the task, logs it and announces it. -/
theorem recovery_complete_second_try :
    let db' := (tryAgain (tryFailing (.taskListUnlinked 1)).2).2
    ∃ r ∈ db'.tasks.rows, r.id = 1 ∧ r.val.task.assignedToUserId = some 1 ∧
      db'.LinkLogged r.id 1 1 ∧ db'.Announced r.id 1 := by
  have hfirst := Prog.runs_run admitted_failing
  have hsecond := Prog.runs_run admitted_again
  have hanswers : (tryAgain (tryFailing (.taskListUnlinked 1)).2).1.isOk = true := by decide +kernel
  have hactor : (tryAgain (tryFailing (.taskListUnlinked 1)).2).1.map User.id = .ok (some 1) := by
    decide +kernel
  obtain ⟨actor, hok⟩ := ok_of_isOk hanswers
  rw [hok] at hactor
  obtain ⟨⟨u, hid, hall⟩, -⟩ := recovery_complete id (by decide) _ _ adaRegisters actor
    (.next adaRegisters (adaRegisters_decides _ (by decide)) hfirst (.none _))
    (adaRegisters_decides _ (by decide +kernel)) (hok ▸ hsecond)
  rw [Except.map, hid] at hactor
  cases hactor
  exact hall _ List.mem_cons_self (by decide)

/-- The append of the entry fails: the task is linked, so no later run finds it, and it has
neither its entry nor its announcement. -/
theorem registration_loses_announcement :
    awaitingDb.waiting 1 ≤ 1000 ∧ ¬ RecoveryComplete DriverFault id 10 1 awaitingDb := by
  refine ⟨by decide, fun h => ?_⟩
  have hfirst := Prog.runs_run (Prog.admitted_of_forall (driverFault_failsAt (.auditAppend 1))
    (adaRegisters.program id) awaitingDb)
  have hadmits : Prog.Admitted DriverFault (fun _ => .none) (adaRegisters.program id)
      (tryFailing (.auditAppend 1)).2 := Prog.admitted_of_forall driverFault_none _ _
  have hsecond := Prog.runs_run hadmits
  have hanswers : (tryAgain (tryFailing (.auditAppend 1)).2).1.isOk = true := by decide +kernel
  have hnotifications : (tryAgain (tryFailing (.auditAppend 1)).2).2.notifications.rows = [] := by
    decide +kernel
  obtain ⟨actor, hok⟩ := ok_of_isOk hanswers
  obtain ⟨⟨u, -, hall⟩, -⟩ := h _ _ adaRegisters actor
    (.next adaRegisters (adaRegisters_decides _ (by decide)) hfirst (.none _))
    (adaRegisters_decides _ (by decide +kernel)) (hok ▸ hsecond)
  obtain ⟨r, -, -, -, -, n, hn, -⟩ := hall _ List.mem_cons_self (by decide)
  have hrows := hnotifications ▸ hn
  cases hrows

end TaskBot
