import TaskBot.UseCases.CreationRetry
import TaskBot.UseCases.MutationAnswers

/-!
# A chosen employee

A button names an employee by id, and the id is looked up when the choice is made.  The lookup
takes an inactive entry as it is and answers an id without entry with nobody, so the request
goes through without the employee:

    HonouredOrRefused …   ↔   the request is refused, or its employee is active
                                                              (chosen_employee_iff)
-/

namespace TaskBot

open Sql Calls TaskRepository

/-- The id is one of the active directory. -/
def Db.ActiveEmployee (db : Db) (id : Int) : Prop :=
  ∃ employee, db.employee id = some employee ∧ employee.isActive = true

/-- The task a message has become. -/
def Db.taskOf (db : Db) (key : String) : Option Task :=
  (db.tasks.find? fun r => r.val.task.sourceMessageKey = key).map toTask

theorem activeEmployee_congr {db db' : Db} (h : db'.employees = db.employees) (id : Int) :
    db'.ActiveEmployee id ↔ db.ActiveEmployee id := by
  unfold Db.ActiveEmployee Db.employee
  rw [h]

/-- Success comes with a stored task for an active employee of that id, an error leaves the tasks. -/
def HonouredOrRefused {α : Type} (id : Int) (stored : Db → Option Task) (db : Db)
    (o : AppResult α × Db) : Prop :=
  match o.1 with
  | .ok _ => ∃ task, stored o.2 = some task ∧ task.assignedToEmployeeId = some id ∧ o.2.ActiveEmployee id
  | .error _ => o.2.tasks = db.tasks

/-- What the id resolves to. -/
def chosen (db : Db) (id : Int) : ResolvedAssignee := ⟨(db.employee id).bind db.accountNamed, db.employee id⟩

/-! ## Reassignment -/

namespace ReassignTask

/-- The actor may reassign the task, and the task is still open. -/
def Accepted (actor : User) (uid : Uuid) (db : Db) : Prop :=
  actor.id ≠ none ∧ ∃ t, db.stored uid = some t ∧
    RoleAuthorizationPolicy.ensureCanReassign actor t = .ok () ∧ t.status.isTerminal = false

theorem run_resolve_employee (ranking : NameRanking) (query : String) (id : Int) (db : Db) :
    (resolve ranking query (.employeeId id)).run noFaults db = (.ok (.resolved (chosen db id)), db) :=
  Prog.run_bind_ok noFaults (AssigneeResolver.run_resolveEmployeeId id db)

section

variable {clock : Nat → Instant} {ranking : NameRanking} {actor : User} {uid : Uuid} {query : String} {id : Int}
  {db : Db}

theorem store_terminal {actorId : Int} {t : Task} {resolved : ResolvedAssignee} (h : t.status.isTerminal = true) :
    ∃ e, (store clock actorId t query resolved).run noFaults db = (.error e, db) := by
  have hrefused : ∃ e, t.reassign (resolved.user.bind User.id) (resolved.employee.bind Employee.id)
      (clock 0) = .error e := ⟨_, if_pos h⟩
  obtain ⟨e, he⟩ := hrefused
  refine ⟨e, ?_⟩
  unfold store
  rw [he]
  rfl

theorem refused (h : ¬ Accepted actor uid db) :
    ∃ e, (executeWithDecision clock ranking actor uid query (.employeeId id)).run noFaults db =
      (.error e, db) := by
  unfold executeWithDecision
  cases hactor : actor.id with
  | none => exact ⟨_, rfl⟩
  | some actorId =>
    rw [okOrElse_some, Prog.lift_ok_bind]
    cases ht : db.stored uid with
    | none =>
      have hload : (loadTask uid).run noFaults db = (.error (taskNotFound uid), db) := by
        have hfind : (TaskRepository.findByUid uid).run noFaults db = (.ok (db.stored uid), db) :=
          run_select rfl db
        unfold loadTask
        rw [Prog.run_bind_ok noFaults hfind, ht]
        rfl
      exact ⟨_, Prog.run_bind_error noFaults hload⟩
    | some t =>
      rw [Prog.run_bind_ok noFaults (run_loadTask ht)]
      cases hcan : RoleAuthorizationPolicy.ensureCanReassign actor t with
      | error e => exact ⟨e, rfl⟩
      | ok u =>
        have hterminal : t.status.isTerminal = true := by
          by_contra hopen
          refine h ⟨?_, t, ht, hcan, eq_false_of_ne_true hopen⟩
          rw [hactor]
          exact Option.some_ne_none actorId
        obtain ⟨e, he⟩ := @store_terminal clock query db actorId t (chosen db id) hterminal
        rw [Prog.lift_ok_bind, Prog.run_bind_ok noFaults (run_resolve_employee ranking query id db)]
        exact ⟨e, Prog.run_bind_error noFaults he⟩

/-- An accepted request stores the id of the entry that was found. -/
theorem accepted (h : Accepted actor uid db) :
    let o := (executeWithDecision clock ranking actor uid query (.employeeId id)).run noFaults db
    (∃ outcome, o.1 = .ok outcome) ∧ o.2.employees = db.employees ∧
      ∃ t, o.2.stored uid = some t ∧ t.assignedToEmployeeId = (db.employee id).bind Employee.id := by
  intro o
  obtain ⟨hactor, t, ht, hcan, hlive⟩ := h
  obtain ⟨actorId, hactor⟩ := Option.ne_none_iff_exists'.mp hactor
  have hresolved := run_resolve_employee ranking query id db
  obtain ⟨summary, db', hstore⟩ := @answers_store db uid t clock actorId query (chosen db id) ht hlive
  have hrun : o = (.ok (.reassigned summary), db') := by
    show (executeWithDecision clock ranking actor uid query (.employeeId id)).run noFaults db = _
    unfold executeWithDecision
    rw [hactor, okOrElse_some, Prog.lift_ok_bind, Prog.run_bind_ok noFaults (run_loadTask ht), hcan,
      Prog.lift_ok_bind, Prog.run_bind_ok noFaults hresolved]
    exact Prog.run_bind_ok noFaults hstore
  have horder := resolved_in_order clock ranking actor uid query (.employeeId id) noFaults db
  have hwhole := horder.whole fun t' m ht' hm => by
    obtain ⟨resolved, -, hallowed⟩ := hm
    exact answers ht' hallowed
  rcases hwhole with ⟨hidle, -⟩ | ⟨t', m, a, ht', ⟨resolved, hsame, hallowed⟩, -, hall, hstored⟩
  · have hchanged : changed (.reassigned summary) = false := hidle _ (congrArg Prod.fst hrun)
    cases hchanged
  · rw [hresolved] at hsame
    cases hsame
    obtain ⟨taskId, actorId', -, -, -, hup, -⟩ := hallowed
    obtain ⟨-, -, -, -, hdraft⟩ := Task.reassign_ok hup
    have huid : m.task.taskUid = uid := by rw [hdraft.taskUid, Db.stored_taskUid ht']
    refine ⟨⟨_, congrArg Prod.fst hrun⟩, ?_, m.task, ?_, ?_⟩
    · rw [show o.2 = applyAll m.writes db from hall]
      exact (m.leaves db).employees
    · rw [← huid]
      exact hstored.task
    · unfold Task.reassign at hup
      split at hup
      · cases hup
      · rw [← Except.ok.inj hup]
        rfl

theorem honoured_iff :
    HonouredOrRefused id (fun db => db.stored uid) db
        ((executeWithDecision clock ranking actor uid query (.employeeId id)).run noFaults db) ↔
      (Accepted actor uid db → db.ActiveEmployee id) := by
  by_cases haccepted : Accepted actor uid db
  · obtain ⟨⟨outcome, hok⟩, hemployees, t, ht, hassigned⟩ :=
      @accepted clock ranking actor uid query id db haccepted
    unfold HonouredOrRefused
    rw [hok]
    simp only
    constructor
    · rintro ⟨-, -, -, hactive⟩ -
      exact (activeEmployee_congr hemployees id).mp hactive
    · intro hactive
      obtain ⟨employee, hfound, -⟩ := hactive haccepted
      refine ⟨t, ht, ?_, (activeEmployee_congr hemployees id).mpr (hactive haccepted)⟩
      rw [hassigned, hfound]
      exact employee_id hfound
  · obtain ⟨e, hrun⟩ := @refused clock ranking actor uid query id db haccepted
    unfold HonouredOrRefused
    rw [hrun]
    exact ⟨fun _ h => absurd h haccepted, fun _ => rfl⟩

end

end ReassignTask

/-! ## Creation -/

namespace CreateTaskFromMessage

/-- What is checked before the task of a message: its text, and the draft made of it. -/
def draftChecks (services : CreationServices) (clock : Nat → Instant) (message : IncomingMessage)
    (employee : Option Employee) : AppResult Unit := do
  message.validatePayloadLength
  let originalText ← extractOriginalText services message
  let parsedRequest ← services.parseTaskRequest originalText (Instant.utcDate (clock 0))
  let generated ← services.generateTask parsedRequest employee
  generated.structuredTask.validateBusinessRules

/-- An earlier task of the message is one of the employee; a new one can be stored only for an
active employee. -/
def KeepsChoice (uid : Uuid) (message : IncomingMessage) (id : Int) (db : Db) : Prop :=
  match db.taskOf message.sourceMessageKey with
  | some earlier => earlier.assignedToEmployeeId = some id ∧ db.ActiveEmployee id
  | none => db.stored uid = none → db.ActiveEmployee id

section

variable {services : CreationServices} {clock : Nat → Instant} {uid : Uuid} {message : IncomingMessage}
  {id : Int} {db : Db}

theorem registered_employees (message : IncomingMessage) (db : Db) :
    (registered message db).employees = db.employees := by
  unfold registered UserRepository.upsertUser
  split <;> rfl

theorem run_registerCreator (message : IncomingMessage) (db : Db) :
    ∃ creator creatorId, creator.id = some creatorId ∧
      (registerCreator message).run noFaults db = (.ok creator, registered message db) := by
  show ∃ creator creatorId, creator.id = some creatorId ∧
    UserRepository.upsertUser (.fromMessage message .user false) db = (.ok creator, registered message db)
  unfold registered UserRepository.upsertUser
  split
  · exact ⟨_, _, rfl, rfl⟩
  · exact ⟨_, _, rfl, rfl⟩

/-- What a choice of the employee drafts. -/
def DraftsFor (message : IncomingMessage) (uid : Uuid) (id : Int) (db : Db) (prepared : Prepared) : Prop :=
  ∃ creator assignee task, prepared = .ready creator assignee task ∧ task.taskUid = uid ∧
    task.sourceMessageKey = message.sourceMessageKey ∧
    task.assignedToEmployeeId = (db.employee id).bind Employee.id

theorem run_buildTask {originalText : String} {creator : User} {creatorId : Int}
    {parsedRequest : ParsedTaskRequest} {assignee : ResolvedAssignee} {generated : GeneratedTask}
    (hcreator : creator.id = some creatorId) :
    match generated.structuredTask.validateBusinessRules with
    | .error e => buildTask services clock uid message originalText creator parsedRequest assignee generated =
        .error e
    | .ok _ => ∃ task, buildTask services clock uid message originalText creator parsedRequest assignee
          generated = .ok task ∧ task.taskUid = uid ∧ task.sourceMessageKey = message.sourceMessageKey ∧
        task.assignedToEmployeeId = assignee.employee.bind Employee.id := by
  unfold buildTask requiredUserId
  rw [hcreator]
  show match generated.structuredTask.validateBusinessRules with
    | .error e => Task.new _ _ _ _ _ _ _ _ _ _ _ _ _ _ _ = .error e
    | .ok _ => ∃ task, Task.new _ _ _ _ _ _ _ _ _ _ _ _ _ _ _ = .ok task ∧ _
  unfold Task.new
  cases generated.structuredTask.validateBusinessRules with
  | error e => rfl
  | ok u => exact ⟨_, rfl, rfl, rfl, rfl⟩

/-- The run up to the task: a check that fails is its answer, and the tasks are as they were. -/
theorem run_prepare_employee :
    let o := (prepare services clock uid message (.employeeId id)).run noFaults db
    match draftChecks services clock message (db.employee id) with
    | .error e => o.1 = .error e ∧ o.2.tasks = db.tasks
    | .ok _ => ∃ prepared, DraftsFor message uid id db prepared ∧ o = (.ok prepared, registered message db) := by
  unfold prepare draftChecks
  cases message.validatePayloadLength with
  | error e => exact ⟨rfl, rfl⟩
  | ok u =>
    rw [Prog.lift_ok_bind]
    cases extractOriginalText services message with
    | error e => exact ⟨rfl, rfl⟩
    | ok text =>
      obtain ⟨creator, creatorId, hcreator, hregister⟩ := run_registerCreator message db
      have htasks : (registered message db).tasks = db.tasks := (registered_frame message db).1
      rw [Prog.lift_ok_bind, Prog.run_bind_ok noFaults hregister]
      unfold draftTask
      show match (do
          let parsedRequest ← services.parseTaskRequest text (Instant.utcDate (clock 0))
          let generated ← services.generateTask parsedRequest (db.employee id)
          generated.structuredTask.validateBusinessRules : AppResult Unit) with | .error e => _ | .ok _ => _
      cases services.parseTaskRequest text (Instant.utcDate (clock 0)) with
      | error e => exact ⟨rfl, htasks⟩
      | ok parsedRequest =>
        let assignee := chosen (registered message db) id
        have hassignee : (resolveAssignee services.ranking parsedRequest (.employeeId id)).run noFaults
            (registered message db) = (.ok (.resolved assignee), registered message db) :=
          Prog.run_bind_ok noFaults (AssigneeResolver.run_resolveEmployeeId id (registered message db))
        have hemployee : assignee.employee = db.employee id := by
          show (registered message db).employee id = db.employee id
          unfold Db.employee
          rw [registered_employees]
        rw [Prog.lift_ok_bind, Prog.run_bind_ok noFaults hassignee]
        dsimp only
        rw [hemployee]
        show match (do
            let generated ← services.generateTask parsedRequest (db.employee id)
            generated.structuredTask.validateBusinessRules : AppResult Unit) with | .error e => _ | .ok _ => _
        cases services.generateTask parsedRequest (db.employee id) with
        | error e => exact ⟨rfl, htasks⟩
        | ok generated =>
          have hbuild := @run_buildTask services clock uid message text creator creatorId parsedRequest
            assignee generated hcreator
          rw [Prog.lift_ok_bind]
          show match generated.structuredTask.validateBusinessRules with | .error e => _ | .ok _ => _
          cases hrules : generated.structuredTask.validateBusinessRules with
          | error e =>
            rw [hrules] at hbuild
            simp only at hbuild
            rw [hbuild]
            exact ⟨rfl, htasks⟩
          | ok u' =>
            rw [hrules] at hbuild
            obtain ⟨task, hbuild, huid, hkey, hassigned⟩ := hbuild
            rw [hbuild]
            rw [hemployee] at hassigned
            exact ⟨_, ⟨creator, assignee, task, rfl, huid, hkey, hassigned⟩, rfl⟩

theorem isNew_iff {task : Task} :
    IsNew task db ↔ db.taskOf task.sourceMessageKey = none ∧ db.stored task.taskUid = none := by
  constructor
  · intro h
    refine ⟨Option.map_eq_none_iff.mpr (List.find?_eq_none.mpr fun r hr hq => ?_),
      Option.map_eq_none_iff.mpr (List.find?_eq_none.mpr fun r hr hq => ?_)⟩
    · have hclash := h r hr
      simp only [Keyed.clash, newColumns, of_decide_eq_true hq, decide_true, Bool.or_true] at hclash
      cases hclash
    · have hclash := h r hr
      simp only [Keyed.clash, newColumns, of_decide_eq_true hq, decide_true, Bool.true_or] at hclash
      cases hclash
  · rintro ⟨hkey, huid⟩ r hr
    have hkey' := of_decide_eq_false (Table.find?_none (Option.map_eq_none_iff.mp hkey) r hr)
    have huid' := of_decide_eq_false (Table.find?_none (Option.map_eq_none_iff.mp huid) r hr)
    simp [Keyed.clash, newColumns, hkey', huid']

theorem run_persist_old {creator : User} {assignee : ResolvedAssignee} {task : Task} (h : ¬ IsNew task db) :
    let o := (persist clock creator assignee task).run noFaults db
    o.2 = db ∧ match db.taskOf task.sourceMessageKey with
      | some _ => ∃ outcome, o.1 = .ok outcome
      | none => ∃ e, o.1 = .error e := by
  obtain ⟨hsame, hold⟩ := insert_of_not_new h
  have hinsert : (insertTask task).run noFaults db = (.ok false, db) :=
    (run_write rfl db).trans (by rw [hsame, hold])
  have hfind : (findBySourceMessageKey task.sourceMessageKey).run noFaults db =
      (.ok (db.taskOf task.sourceMessageKey), db) := run_select rfl db
  unfold persist createIfAbsent
  simp only [Prog.bind_assoc]
  rw [Prog.run_bind_ok noFaults hinsert]
  unfold readBack
  simp only [Prog.bind_assoc]
  rw [Prog.run_bind_ok noFaults hfind]
  cases db.taskOf task.sourceMessageKey with
  | none => exact ⟨rfl, _, rfl⟩
  | some earlier => exact ⟨rfl, _, rfl⟩

/-- The notice of the assignee leaves the tasks and the directory. -/
theorem run_enqueueAssignee (task : Task) (user : Option User) (hasEmployeeMatch : Bool) (now : Instant)
    (db : Db) : ∃ status db',
      (enqueueAssigneeNotification task user hasEmployeeMatch now).run noFaults db = (.ok status, db') ∧
        db'.employees = db.employees ∧ db'.tasks = db.tasks := by
  have hanswers : Prog.Answers noFaults (enqueueAssigneeNotification task user hasEmployeeMatch now) db := by
    unfold enqueueAssigneeNotification
    split
    · exact .pure _ _
    · split
      · exact .pure _ _
      · split
        · exact .pure _ _
        · exact .bind (answers_enqueue _ _ _) fun _ _ _ => .pure _ _
  obtain ⟨status, db', hrun⟩ := hanswers
  have hstore := @store_enqueueAssigneeNotification noFaults db task user
    (by intro userId e _ h; cases h) hasEmployeeMatch now
  rw [hrun] at hstore
  refine ⟨status, db', hrun, ?_⟩
  cases hrecipient : recipient user with
  | none =>
    rw [hrecipient] at hstore
    cases hstore
    exact ⟨rfl, rfl⟩
  | some userId =>
    rw [hrecipient] at hstore
    cases hstore
    exact ⟨rfl, rfl⟩

theorem run_persist_new {creator : User} {assignee : ResolvedAssignee} {task : Task} (h : IsNew task db) :
    let o := (persist clock creator assignee task).run noFaults db
    (∃ outcome, o.1 = .ok outcome) ∧ o.2.employees = db.employees ∧
      o.2.taskOf task.sourceMessageKey = some (toTask (newRow task db)) := by
  let db₁ := inserted task db
  let stored := toTask (newRow task db)
  have hcreated : (createIfAbsent task).run noFaults db = (.ok (.created stored), db₁) :=
    run_createIfAbsent_new h rfl rfl
  let db₂ := db₁.appendHistory
    (creationEntry stored db.tasks.nextId creator.id (assignee.user.bind User.id) (clock 3))
  have hlog : (logTaskCreation stored creator.id (assignee.user.bind User.id) (clock 3)).run noFaults db₁ =
      (.ok (), db₂) := run_logTaskCreation rfl rfl _ _ _
  obtain ⟨status, db₃, htold, hemployees, htasks⟩ :=
    run_enqueueAssignee stored assignee.user assignee.employee.isSome (clock 4) db₂
  have hrun : (persist clock creator assignee task).run noFaults db = (.ok (.created (.fromTask stored
      (buildCreatorMessage stored status) status)), db₃) := by
    unfold persist
    rw [Prog.run_bind_ok noFaults hcreated]
    show (announce clock creator assignee stored).run noFaults db₁ = _
    unfold announce
    rw [Prog.run_bind_ok noFaults hlog, Prog.run_bind_ok noFaults htold]
    rfl
  rw [hrun]
  refine ⟨⟨_, rfl⟩, hemployees, ?_⟩
  show (db₃.tasks.find? _).map toTask = _
  rw [htasks]
  show ((inserted task db).tasks.find? _).map toTask = _
  rw [find_inserted h]
  rfl

theorem honoured_iff :
    HonouredOrRefused id (fun db => db.taskOf message.sourceMessageKey) db
        ((executeWithAssigneeDecision services clock uid message (.employeeId id)).run noFaults db) ↔
      (draftChecks services clock message (db.employee id) = .ok () → KeepsChoice uid message id db) := by
  have hprepare := @run_prepare_employee services clock uid message id db
  unfold executeWithAssigneeDecision
  cases hchecks : draftChecks services clock message (db.employee id) with
  | error e =>
    rw [hchecks] at hprepare
    obtain ⟨herror, htasks⟩ := hprepare
    rw [Prog.run_bind_error noFaults (Prod.ext herror rfl)]
    exact ⟨fun _ h => (nomatch h), fun _ => htasks⟩
  | ok u =>
    rw [hchecks] at hprepare
    obtain ⟨prepared, ⟨creator, assignee, task, rfl, huid, hkey, hassigned⟩, hrun⟩ := hprepare
    rw [Prog.run_bind_ok noFaults hrun]
    have htasks : (registered message db).tasks = db.tasks := (registered_frame message db).1
    have htaskOf : (registered message db).taskOf message.sourceMessageKey =
        db.taskOf message.sourceMessageKey := by
      unfold Db.taskOf
      rw [htasks]
    have hactive := activeEmployee_congr (registered_employees message db) id
    show HonouredOrRefused id _ db ((persist clock creator assignee task).run noFaults
      (registered message db)) ↔ _
    by_cases hnew : IsNew task (registered message db)
    · obtain ⟨hkeyFree, huidFree⟩ := isNew_iff.mp hnew
      rw [hkey, htaskOf] at hkeyFree
      rw [huid, Db.stored_congr htasks] at huidFree
      obtain ⟨⟨outcome, hok⟩, hemployees, hstored⟩ :=
        @run_persist_new clock (registered message db) creator assignee task hnew
      rw [hkey] at hstored
      have hsame := activeEmployee_congr hemployees id
      unfold HonouredOrRefused KeepsChoice
      rw [hok, hkeyFree]
      simp only
      constructor
      · rintro ⟨t, -, -, hfinal⟩ - -
        exact hactive.mp (hsame.mp hfinal)
      · intro h
        have hchosen : db.ActiveEmployee id := h trivial huidFree
        have hfinal := hsame.mpr (hactive.mpr hchosen)
        obtain ⟨employee, hfound, -⟩ := hchosen
        refine ⟨_, hstored, ?_, hfinal⟩
        show task.assignedToEmployeeId = some id
        rw [hassigned, hfound]
        exact employee_id hfound
    · obtain ⟨hkept, hanswer⟩ :=
        @run_persist_old clock (registered message db) creator assignee task hnew
      rw [hkey, htaskOf] at hanswer
      unfold HonouredOrRefused KeepsChoice
      cases hearlier : db.taskOf message.sourceMessageKey with
      | some earlier =>
        rw [hearlier] at hanswer
        obtain ⟨outcome, hok⟩ := hanswer
        rw [hok, hkept]
        simp only
        rw [htaskOf, hearlier, hactive]
        constructor
        · rintro ⟨t, ht, hassigned, hfinal⟩ -
          cases ht
          exact ⟨hassigned, hfinal⟩
        · intro h
          exact ⟨earlier, rfl, h trivial⟩
      | none =>
        rw [hearlier] at hanswer
        obtain ⟨e, herror⟩ := hanswer
        rw [herror, hkept]
        refine ⟨fun _ _ huidFree => ?_, fun _ => htasks⟩
        refine absurd (isNew_iff.mpr ⟨?_, ?_⟩) hnew
        · rw [hkey, htaskOf, hearlier]
        · rw [huid, Db.stored_congr htasks, huidFree]

end

end CreateTaskFromMessage

/-! ## Top theorem -/

/-- **An employee chosen by id is honoured or refused**, in a creation exactly if the message fails
its checks or the choice is kept, in a reassignment exactly if the request is not accepted or the
employee is active. -/
theorem chosen_employee_iff (services : CreationServices) (clock : Nat → Instant) (uid : Uuid)
    (message : IncomingMessage) (ranking : NameRanking) (actor : User) (query : String) (id : Int) (db : Db) :
    (HonouredOrRefused id (fun db => db.taskOf message.sourceMessageKey) db
        ((CreateTaskFromMessage.executeWithAssigneeDecision services clock uid message (.employeeId id)).run
          noFaults db) ↔
      (CreateTaskFromMessage.draftChecks services clock message (db.employee id) = .ok () →
        CreateTaskFromMessage.KeepsChoice uid message id db)) ∧
    (HonouredOrRefused id (fun db => db.stored uid) db
        ((ReassignTask.executeWithDecision clock ranking actor uid query (.employeeId id)).run noFaults db) ↔
      (ReassignTask.Accepted actor uid db → db.ActiveEmployee id)) :=
  ⟨CreateTaskFromMessage.honoured_iff, ReassignTask.honoured_iff⟩

/-- A directory whose only entry is no longer active. -/
def formerDirectory : Db :=
  { Db.empty with
    employees := (Table.empty.insertOrIgnore ⟨none, "Grace", none, none, none, none, false, none, 0, 0⟩).1 }

/-- A task goes to a former employee, and the task of somebody else is left without assignee. -/
theorem unknown_employee_taken :
    (¬ ∀ (services : CreationServices) (clock : Nat → Instant) (uid : Uuid) (message : IncomingMessage)
        (id : Int) (db : Db), HonouredOrRefused id (fun db => db.taskOf message.sourceMessageKey) db
      ((CreateTaskFromMessage.executeWithAssigneeDecision services clock uid message (.employeeId id)).run
        noFaults db)) ∧
    ¬ ∀ (clock : Nat → Instant) (ranking : NameRanking) (actor : User) (uid : Uuid) (query : String) (id : Int)
        (db : Db), HonouredOrRefused id (fun db => db.stored uid) db
      ((ReassignTask.executeWithDecision clock ranking actor uid query (.employeeId id)).run noFaults db) := by
  constructor
  · intro h
    obtain ⟨employee, hfound, hactive⟩ := CreateTaskFromMessage.honoured_iff.mp
      (h sampleServices (fun _ => 0) (sampleUid 2) sampleMessage 1 formerDirectory) (by decide) rfl
    cases hfound
    cases hactive
  · intro h
    obtain ⟨employee, hfound, -⟩ := ReassignTask.honoured_iff.mp
      (h (fun _ => 0) (fun _ _ => .notFound) { UserRepository.sampleUser 1 .user with id := some 1 } (sampleUid 1)
        "" 404 sampleDb) ⟨nofun, _, rfl, rfl, rfl⟩
    cases hfound

end TaskBot
