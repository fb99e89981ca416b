import TaskBot.UseCases.OnboardingProfile
import TaskBot.UseCases.MutationAnswers
import TaskBot.UseCases.RegistrationRecovery

/-!
# A known user registers again

Every update registers its sender.  For a sender who has a row, and when no call
fails, the registration answers with that row, and all it does to the tasks is to
give those that waited for the user's employee to the user.

* `run_previewLinking_row`: the decision is the link of the row, or none;
* `recoverBatches_links`, `run_registration`: the recovery answers, and only links.
-/

namespace TaskBot

open Sql Calls TaskRepository UserRepository

/-! ## Links -/

/-- The task waited for its user, and has got it. -/
structure Task.LinkedTo (userId : Int) (t t' : Task) : Prop where
  draft : t'.SameDraft t
  status : t'.status = t.status
  waited : t.assignedToUserId = none
  user : t'.assignedToUserId = some userId

/-- Every stored task is as it was, or has got the user it waited for. -/
def OnlyLinks (userId : Int) (db db' : Db) : Prop :=
  ∀ uid t, db.stored uid = some t → ∃ t', db'.stored uid = some t' ∧ (t' = t ∨ Task.LinkedTo userId t t')

namespace OnlyLinks

variable {userId : Int} {db db' db'' : Db}

theorem of_tasks (h : db'.tasks = db.tasks) : OnlyLinks userId db db' :=
  fun uid t ht => ⟨t, (Db.stored_congr h uid).trans ht, .inl rfl⟩

theorem refl (db : Db) : OnlyLinks userId db db := of_tasks rfl

theorem trans (h : OnlyLinks userId db db') (h' : OnlyLinks userId db' db'') : OnlyLinks userId db db'' := by
  intro uid t ht
  obtain ⟨t', ht', hlink⟩ := h uid t ht
  obtain ⟨t'', ht'', hlink'⟩ := h' uid t' ht'
  refine ⟨t'', ht'', ?_⟩
  rcases hlink' with rfl | hlinked'
  · exact hlink
  · rcases hlink with rfl | hlinked
    · exact .inr hlinked'
    · -- a linked task does not wait any more
      cases hlinked'.waited.symm.trans hlinked.user

end OnlyLinks

namespace RegisterUser

section

variable (clock : Nat → Instant) (userId : Int) {db : Db} {employeeId : Int}

/-- A waiting task is linked. -/
theorem run_linkTask {r : Stored TaskColumns} (hr : r ∈ db.tasks.rows) (hw : waitsFor employeeId r = true) :
    ∃ task, (linkTaskToRegisteredUser clock (toTask r) userId employeeId).run noFaults db =
        (.ok (some task), updated task db) ∧
      task.id = some r.id ∧ Linked userId r db (updated task db) ∧ OnlyLinks userId db (updated task db) := by
  obtain ⟨hemployee, hnone, -⟩ := of_decide_eq_true hw
  have hlink : ∃ task, (toTask r).linkRegisteredAssignee userId (clock 0) = .ok task := by
    unfold Task.linkRegisteredAssignee
    have hassigned : (toTask r).assignedToEmployeeId = some employeeId := hemployee
    have hwaits : (toTask r).assignedToUserId = none := hnone
    rw [hassigned, hwaits]
    exact ⟨_, rfl⟩
  obtain ⟨task, hlink⟩ := hlink
  obtain ⟨hprev, huser, hid, huid, hupdate⟩ := link_waiting hr hw hlink
  obtain ⟨hstatus, hdraft, -, -⟩ := Task.linkRegisteredAssignee_ok hlink
  refine ⟨task, ?_, hid, ⟨task, hprev, huser, rfl⟩, fun uid t ht => ?_⟩
  · have hattempt : (TaskRepository.update task).attempt.run noFaults db = (.ok (.ok task), updated task db) := by
      rw [Prog.run_attempt]
      exact congrArg (fun o : AppResult Task × Db => (Except.ok o.1, o.2)) hupdate
    unfold linkTaskToRegisteredUser updateUnlessConflict
    rw [hlink, Prog.lift_ok_bind, Prog.bind_assoc, Prog.run_bind_ok noFaults hattempt]
    rfl
  · by_cases hsame : uid = task.taskUid
    · subst hsame
      have hstored : db.stored task.taskUid = some (toTask r) := by
        rw [huid]
        exact stored_of_mem hr
      obtain rfl : toTask r = t := Option.some.inj (hstored.symm.trans ht)
      exact ⟨task, (update_answer hupdate).choose_spec.2.2.1, .inr ⟨hdraft, hstatus, hnone, huser⟩⟩
    · exact ⟨t, (stored_updated_ne hsame).trans ht, .inl rfl⟩

theorem answers_logRecovered (db : Db) (employeeId : Int) {task : Task} {taskId : Int} (hid : task.id = some taskId) (now : Instant) :
    Prog.Answers noFaults (logRecoveredAssignment task userId employeeId now) db :=
  .lift_bind (b := taskId) (by rw [hid]; rfl) (.bind (answers_append _ _) fun _ _ _ => .pure _ _)

theorem answers_ensureAssignment (db : Db) {task : Task} {taskId : Int} (hid : task.id = some taskId) (now : Instant) :
    Prog.Answers noFaults (ensureAssignmentNotification task userId now) db := by
  refine .lift_bind (b := taskId) (by rw [hid]; rfl) (.of_run (run_select rfl db) ?_)
  split
  · split
    · exact .pure _ _
    · split
      · exact ⟨_, _, run_write rfl db⟩
      · exact .pure _ _
  · exact .bind (answers_enqueue _ _ _) fun _ _ _ => .pure _ _

/-- **A batch of waiting tasks** is recovered, and nothing else happens to the tasks. -/
theorem recoverTaskBatch_links (tasks : List Task) : ∀ {db : Db} (n : Nat), Listed employeeId tasks db →
    ∃ count db', (recoverTaskBatch clock userId employeeId n tasks).run noFaults db = (.ok count, db') ∧
      OnlyLinks userId db db' := by
  induction tasks with
  | nil => exact fun {db} _ _ => ⟨0, db, rfl, .refl db⟩
  | cons task tasks ih =>
    intro db n hlisted
    obtain ⟨r, hr, hw, rfl⟩ := hlisted.2 task List.mem_cons_self
    obtain ⟨task, hlink, hid, hlinked, honly⟩ :=
      run_linkTask (clockFor clock n) userId hr hw
    obtain ⟨_, db₂, hlog⟩ := answers_logRecovered userId (updated task db) employeeId hid (clockFor clock n 2)
    obtain ⟨_, db₃, hensure⟩ := answers_ensureAssignment userId db₂ hid (clockFor clock n 3)
    have htasks₂ : db₂.tasks = (updated task db).tasks := by
      have hwithin := (logRecoveredAssignment_leavesTasks task userId employeeId (clockFor clock n 2)).run noFaults
        (updated task db)
      rw [hlog] at hwithin
      exact hwithin
    have htasks₃ : db₃.tasks = db₂.tasks := by
      have hwithin := (ensureAssignmentNotification_leavesTasks task userId (clockFor clock n 3)).run noFaults db₂
      rw [hensure] at hwithin
      exact hwithin
    have hafter : OnlyLinks userId db db₃ := honly.trans (.of_tasks (htasks₃.trans htasks₂))
    obtain ⟨count, db₄, hrest, honly₄⟩ :=
      ih (n + 1) (hlisted.tail hr (hlinked.congr (htasks₃.trans htasks₂)))
    refine ⟨count + 1, db₄, ?_, hafter.trans honly₄⟩
    show (linkTaskToRegisteredUser (clockFor clock n) (toTask r) userId employeeId >>= _).run noFaults db = _
    rw [Prog.run_bind_ok noFaults hlink, Prog.run_bind_ok noFaults hlog, Prog.run_bind_ok noFaults hensure,
      Prog.run_bind_ok noFaults hrest]
    rfl

theorem recoverBatches_links (n : Nat) : ∀ {db : Db},
    ∃ db', (recoverBatches clock userId employeeId n).run noFaults db = (.ok (), db') ∧
      OnlyLinks userId db db' := by
  induction n with
  | zero => exact fun {db} => ⟨db, rfl, .refl db⟩
  | succ n ih =>
    intro db
    obtain ⟨tasks, hlist⟩ : ∃ tasks, (listOpenAssignedToEmployeeWithoutUser employeeId
        registrationRecoveryTaskBatchSize).run noFaults db = (.ok tasks, db) := ⟨_, run_select rfl db⟩
    have hadmitted : Prog.Admitted (fun _ _ _ => True) noFaults (listOpenAssignedToEmployeeWithoutUser employeeId
        registrationRecoveryTaskBatchSize) db := Prog.admitted_of_forall (fun _ _ => trivial) _ db
    have hruns := Prog.runs_run hadmitted
    rw [hlist] at hruns
    have hlisted : Listed employeeId tasks db := ((listed_of_listing hruns).2 tasks rfl).1
    obtain ⟨count, db', hbatch, honly⟩ := recoverTaskBatch_links clock userId tasks
      (registrationRecoveryTaskBatchSize * (maxRegistrationRecoveryBatches - (n + 1))) hlisted
    show ∃ db', (listOpenAssignedToEmployeeWithoutUser employeeId registrationRecoveryTaskBatchSize >>= _).run
      noFaults db = _ ∧ _
    rw [Prog.run_bind_ok noFaults hlist]
    by_cases hempty : tasks.isEmpty = true
    · rw [if_pos hempty]
      exact ⟨db, rfl, .refl db⟩
    rw [if_neg hempty, Prog.run_bind_ok noFaults hbatch]
    split
    · exact ⟨db', rfl, honly⟩
    · obtain ⟨db'', hrest, honly'⟩ := @ih db'
      exact ⟨db'', hrest, honly.trans honly'⟩

end

/-! ## Registration -/

/-- The decision for a row that is there: the employee it is linked to. -/
def rowDecision (r : Stored UserColumns) : RegistrationLinkDecision :=
  match r.val.user.linkedEmployeeId with
  | some id => .employeeId id
  | none => .continueUnlinked

/-- A known user who does not ask for `/start` stays linked as before. -/
theorem run_previewLinking_row {db : Db} {message : IncomingMessage} {r : Stored UserColumns}
    (toLowercase : String → String) (hr : db.account message.senderId = some r)
    (hstart : message.isExplicitStartCommand = false) :
    (previewLinking toLowercase message).run noFaults db = (.ok (.ready (rowDecision r)), db) := by
  have hfound := run_findAccount db message.senderId
  rw [hr] at hfound
  unfold previewLinking rowDecision
  rw [Prog.run_bind_ok noFaults hfound]
  show (match r.val.user.linkedEmployeeId with
    | some linkedEmployeeId => pure (.ready (.employeeId linkedEmployeeId))
    | none => _ : Proc RegistrationLinkPreview).run noFaults db = _
  cases r.val.user.linkedEmployeeId with
  | some id => rfl
  | none =>
    simp only
    rw [if_pos ⟨rfl, by simp [hstart]⟩]
    rfl

/-- The row of a known user after the registration that has found `employee`. -/
def registered (message : IncomingMessage) (employee : Option Employee) (r : Stored UserColumns) :
    Stored UserColumns :=
  ⟨r.id, UserRepository.mergeFromMessage
    { User.fromMessage message .user employee.isSome with linkedEmployeeId := employee.bind Employee.id } r.val⟩

theorem run_persistUser {db : Db} {message : IncomingMessage} {r : Stored UserColumns} (employee : Option Employee)
    (hr : db.account message.senderId = some r) :
    ∃ db', (persistUser message employee).run noFaults db = (.ok (toUser (registered message employee r)), db') ∧
      db'.account message.senderId = some (registered message employee r) ∧ db'.tasks = db.tasks := by
  let user : User := { User.fromMessage message .user employee.isSome with
    linkedEmployeeId := employee.bind Employee.id }
  have hfind : db.users.find? (fun r => r.val.user.telegramId = user.telegramId) = some r := hr
  have hmem : hasTelegramId message.senderId r = true := (Table.find?_some hr).2
  have hupsert : UserRepository.upsertUser user db = (.ok (toUser (registered message employee r)),
      { db with
        users := db.users.modify (fun r => r.val.user.telegramId = user.telegramId) (mergeFromMessage user)
          (mergeFromMessage_keeps user) }) := by
    unfold UserRepository.upsertUser
    rw [hfind]
    rfl
  refine ⟨_, hupsert, ?_, rfl⟩
  show (db.users.modify _ _ (UserRepository.mergeFromMessage_keeps user)).find? _ = _
  rw [account_modify, hr]
  show some (setWhere (hasTelegramId message.senderId) _ r) = _
  rw [setWhere, if_pos hmem]
  rfl

theorem run_recoverPending (clock : Nat → Instant) (r : Stored UserColumns) (employee : Option Employee) (db : Db) :
    ∃ db', (recoverPendingAssignments clock (toUser r) employee).run noFaults db = (.ok (), db') ∧
      db'.users = db.users ∧ OnlyLinks r.id db db' := by
  have hanswers : ∃ db', (recoverPendingAssignments clock (toUser r) employee).run noFaults db = (.ok (), db') ∧
      OnlyLinks r.id db db' := by
    unfold recoverPendingAssignments
    cases employee.bind Employee.id with
    | none => exact ⟨db, rfl, .refl db⟩
    | some employeeId => exact recoverBatches_links clock r.id _
  obtain ⟨db', hrun, honly⟩ := hanswers
  have husers := Prog.run_within noFaults (K := fun db db' : Db => db'.users = db.users) (fun _ => rfl)
    (fun _ _ _ h h' => h'.trans h) ((recoverPendingAssignments_writes clock (toUser r) employee).mono fun _ _ h =>
      h.users) db
  rw [hrun] at husers
  exact ⟨db', hrun, husers, honly⟩

/-- **The registration of a known user** with an explicit decision answers with its row. -/
theorem run_registration {db : Db} {message : IncomingMessage} {r : Stored UserColumns}
    {decision : RegistrationLinkDecision} {employee : Option Employee} (toLowercase : String → String)
    (clock : Nat → Instant) (hr : db.account message.senderId = some r)
    (hresolve : (resolveEmployeeForDecision toLowercase message decision).run noFaults db = (.ok employee, db)) :
    ∃ db', (executeWithLinkDecision toLowercase clock message decision).run noFaults db =
        (.ok (toUser (registered message employee r)), db') ∧
      db'.account message.senderId = some (registered message employee r) ∧ OnlyLinks r.id db db' := by
  obtain ⟨db₁, hpersist, haccount, htasks⟩ := run_persistUser employee hr
  obtain ⟨db₂, hpending, husers, honly⟩ := run_recoverPending clock (registered message employee r) employee db₁
  refine ⟨db₂, ?_, ?_, (OnlyLinks.of_tasks htasks).trans honly⟩
  · unfold executeWithLinkDecision
    rw [Prog.run_bind_ok noFaults hresolve, Prog.run_bind_ok noFaults hpersist, Prog.run_bind_ok noFaults hpending]
    rfl
  · unfold Db.account at haccount ⊢
    rw [husers]
    exact haccount

/-- A known user keeps its id and its role, and gets only tasks that waited. -/
theorem registration_links {db : Db} {message : IncomingMessage} {r : Stored UserColumns}
    (toLowercase : String → String) (clock : Nat → Instant) (hr : db.account message.senderId = some r) :
    ∃ actor db', (executeWithLinkDecision toLowercase clock message (rowDecision r)).run noFaults db =
        (.ok actor, db') ∧
      actor.id = some r.id ∧ actor.role = r.val.user.role ∧ OnlyLinks r.id db db' := by
  obtain ⟨employee, hresolve⟩ : ∃ employee, (resolveEmployeeForDecision toLowercase message (rowDecision r)).run
      noFaults db = (.ok employee, db) := by
    unfold rowDecision
    cases r.val.user.linkedEmployeeId with
    | some id => exact ⟨_, run_select rfl db⟩
    | none => exact ⟨none, rfl⟩
  obtain ⟨db', hrun, -, honly⟩ := run_registration toLowercase clock hr hresolve
  exact ⟨_, db', hrun, rfl, rfl, honly⟩

end RegisterUser

end TaskBot
