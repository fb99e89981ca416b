import TaskBot.UseCases.BlockedReason

/-!
# Repeated requests

The second of two equal requests should change nothing.  A status update and a
blocker report go through the status graph, which has no loops; a reassignment puts
the task back to its first status and may be made any number of times:

    the first one succeeds → (the second one changes nothing ↔
      the request is no reassignment that its actor may repeat)    (repeat_idempotent_iff)
-/

namespace TaskBot

open Sql Calls TaskRepository

/-- The task without what every operation raises. -/
def Task.unstamped (t : Task) : Task := { t with version := 0, updatedAt := 0 }

/-- The task is the same but for version and time, and nothing is written beside it. -/
structure ChangesNothing (uid : Uuid) (db db' : Db) : Prop where
  task : (db'.stored uid).map Task.unstamped = (db.stored uid).map Task.unstamped
  history : db'.history.rows = db.history.rows
  notifications : db'.notifications.rows = db.notifications.rows

theorem ChangesNothing.refl (uid : Uuid) (db : Db) : ChangesNothing uid db db := ⟨rfl, rfl, rfl⟩

/-- The request is a reassignment, and its actor may reassign whoever is the assignee, or is the new
assignee themselves. -/
def TaskRequest.Repeatable (request : TaskRequest) (ranking : NameRanking) (actor : User) (uid : Uuid)
    (db : Db) : Prop :=
  ∃ query decision t resolved, request = .reassign query decision ∧ db.stored uid = some t ∧
    (ReassignTask.resolve ranking query decision).run noFaults db = (.ok (.resolved resolved), db) ∧
    (RoleAuthorizationPolicy.MayClose actor t ∨ resolved.user.bind User.id = actor.id)

/-! ## Policies -/

section

variable {actor : User} {t t' : Task}

/-- Who may reassign. -/
theorem ensureCanReassign_iff : RoleAuthorizationPolicy.ensureCanReassign actor t = .ok () ↔
    actor.id.isSome ∧ (RoleAuthorizationPolicy.MayClose actor t ∨ t.assignedToUserId = actor.id) := by
  unfold RoleAuthorizationPolicy.ensureCanReassign RoleAuthorizationPolicy.requiredActorId
    RoleAuthorizationPolicy.MayClose
  cases hid : actor.id with
  | none => exact ⟨nofun, fun h => nomatch h.1⟩
  | some actorId =>
    have hasks : (actor.role.isManagerOrAdmin || t.createdByUserId = actorId ||
        t.assignedToUserId = some actorId) = true ↔
          (actor.role.isManagerOrAdmin = true ∨ some actorId = some t.createdByUserId) ∨
            t.assignedToUserId = some actorId := by
      rw [Bool.or_eq_true, Bool.or_eq_true, decide_eq_true_iff, decide_eq_true_iff, Option.some_inj,
        eq_comm (a := t.createdByUserId)]
    show (if _ then _ else _) = _ ↔ _
    rw [← hasks]
    split
    · next hyes => exact ⟨fun _ => ⟨rfl, hyes⟩, fun _ => rfl⟩
    · next hno => exact ⟨nofun, fun h => absurd h.2 hno⟩

/-- The same request is normalized to the same status. -/
theorem normalized_again {requested next next' : TaskStatus}
    (h : RoleAuthorizationPolicy.normalizeRequestedStatus actor t requested = .ok next)
    (h' : RoleAuthorizationPolicy.normalizeRequestedStatus actor t' requested = .ok next')
    (hcreator : t'.createdByUserId = t.createdByUserId) (hreview : t'.reviewRequired = t.reviewRequired) :
    next' = next := by
  unfold RoleAuthorizationPolicy.normalizeRequestedStatus at h h'
  rw [hcreator, hreview] at h'
  by_cases hasks : requested = .completed ∧ t.reviewRequired ∧
      ¬ actor.id = some t.createdByUserId ∧ ¬ actor.role.isManagerOrAdmin
  · rw [if_pos hasks] at h h'
    cases h
    cases h'
    rfl
  · rw [if_neg hasks] at h h'
    split at h
    · cases h
    · split at h'
      · cases h'
      · cases h
        cases h'
        rfl

end

/-! ## Resolution -/

/-- Both databases give the same answer, and are left as they are. -/
def AgreeOn {α : Type} (db db' : Db) (p : Proc α) : Prop :=
  ∃ r, p.run noFaults db = (r, db) ∧ p.run noFaults db' = (r, db')

namespace AgreeOn

variable {α β : Type} {db db' : Db}

theorem pure (a : α) : AgreeOn db db' (Pure.pure a : Proc α) := ⟨.ok a, rfl, rfl⟩

theorem select {site : Site} {ans : Db → AppResult α} (h : ans db' = ans db) :
    AgreeOn db db' (select site ans) := by
  refine ⟨ans db, run_select rfl db, ?_⟩
  rw [run_select rfl db', h]

theorem bind {p : Proc α} {f : α → Proc β} (hp : AgreeOn db db' p) (hf : ∀ a, AgreeOn db db' (f a)) :
    AgreeOn db db' (p >>= f) := by
  obtain ⟨r, hr, hr'⟩ := hp
  cases r with
  | ok a =>
    obtain ⟨s, hs, hs'⟩ := hf a
    exact ⟨s, (Prog.run_bind_ok noFaults hr).trans hs, (Prog.run_bind_ok noFaults hr').trans hs'⟩
  | error e => exact ⟨.error e, Prog.run_bind_error noFaults hr, Prog.run_bind_error noFaults hr'⟩

theorem resolveUser (husers : db'.users = db.users) (employee : Employee) :
    AgreeOn db db' (AssigneeResolver.resolveUserFromEmployee employee) := by
  unfold AssigneeResolver.resolveUserFromEmployee
  split
  · exact .pure _
  · exact .select (by rw [husers])

/-- **Assignees are resolved from people only.** -/
theorem resolve (husers : db'.users = db.users) (hemployees : db'.employees = db.employees)
    (ranking : NameRanking) (query : String) (decision : ReassignAssigneeDecision) :
    AgreeOn db db' (ReassignTask.resolve ranking query decision) := by
  cases decision with
  | employeeId id =>
    refine .bind (.bind (.select (by rw [hemployees])) fun employee => ?_) fun _ => .pure _
    cases employee with
    | none => exact .pure _
    | some e => exact .bind (.resolveUser husers e) fun _ => .pure _
  | auto =>
    show AgreeOn db db' (AssigneeResolver.resolveWithPurpose ranking query .reassignment)
    unfold AssigneeResolver.resolveWithPurpose
    simp only
    split
    · exact .pure _
    · refine .bind (.select (by rw [hemployees])) fun employees => ?_
      split
      · exact .bind (.resolveUser husers _) fun _ => .pure _
      · exact .pure _
      · exact .pure _
      · unfold AssigneeResolver.resolveUsername
        split
        · refine .bind (.select (by rw [husers])) fun user => ?_
          cases user <;> exact .pure _
        · exact .pure _

end AgreeOn

/-! ## The second request -/

section

variable {clock : Nat → Instant} {ranking : NameRanking} {actor : User} {uid : Uuid} {db : Db} {t : Task}

/-- A reassignment that its actor may make, of a live task to a resolved assignee, is made. -/
theorem run_reassign {query : String} {decision : ReassignAssigneeDecision} {resolved : ResolvedAssignee}
    (ht : db.stored uid = some t) (hcan : RoleAuthorizationPolicy.ensureCanReassign actor t = .ok ())
    (hlive : t.status.isTerminal = false)
    (hresolve : (ReassignTask.resolve ranking query decision).run noFaults db = (.ok (.resolved resolved), db)) :
    (((TaskRequest.reassign query decision).program clock ranking actor uid).run noFaults db).1 = .ok true := by
  obtain ⟨actorId, hactor⟩ := Option.isSome_iff_exists.mp (ensureCanReassign_iff.mp hcan).1
  obtain ⟨summary, db', hstore⟩ :=
    @ReassignTask.answers_store db uid t clock actorId query resolved ht hlive
  have hexecute : (ReassignTask.executeWithDecision clock ranking actor uid query decision).run noFaults db =
      (.ok (.reassigned summary), db') := by
    unfold ReassignTask.executeWithDecision
    rw [hactor, okOrElse_some, Prog.lift_ok_bind, Prog.run_bind_ok noFaults (run_loadTask ht), hcan,
      Prog.lift_ok_bind, Prog.run_bind_ok noFaults hresolve]
    simp only
    rw [Prog.run_bind_ok noFaults hstore]
    rfl
  show ((ReassignTask.executeWithDecision clock ranking actor uid query decision >>= fun outcome =>
    pure (ReassignTask.changed outcome)).run noFaults db).1 = .ok true
  rw [Prog.run_bind_ok noFaults hexecute]
  rfl

/-- What the second of two equal requests finds: the task of the first one, and the same people. -/
structure AfterFirst (m : Mutation) (db db₁ : Db) (t : Task) : Prop where
  before : db.stored t.taskUid = some t
  stored : db₁.stored t.taskUid = some m.task
  users : db₁.users = db.users
  employees : db₁.employees = db.employees

/-- A repeated status update or blocker report is not allowed, nor is a reassignment by who was the
assignee. -/
theorem not_allowed_again {request : TaskRequest} {clock' : Nat → Instant} {m m' : Mutation} {db₁ : Db}
    (hafter : AfterFirst m db db₁ t) (h : request.Allowed clock ranking actor db t m)
    (hnot : ¬ request.Repeatable ranking actor t.taskUid db) :
    ¬ request.Allowed clock' ranking actor db₁ m.task m' := by
  intro h'
  cases request with
  | updateStatus requested =>
    obtain ⟨_, next, -, hnext, -, hup, -⟩ := h
    obtain ⟨_, next', -, hnext', -, hup', -⟩ := h'
    obtain ⟨-, htask⟩ := Task.transitionTo_ok hup
    have hsame : next' = next := normalized_again hnext hnext' (by rw [htask]; rfl) (by rw [htask]; rfl)
    have hedge := (Task.transitionTo_ok hup').1
    rw [hsame, htask] at hedge
    exact absurd hedge (by rw [show (t.advanced next (clock 0)).status = next from rfl,
      TaskStatus.canTransitionTo_irrefl]; exact Bool.false_ne_true)
  | reportBlocker reason =>
    obtain ⟨_, _, -, -, -, hup, -⟩ := h
    obtain ⟨_, _, -, -, -, hup', -⟩ := h'
    obtain ⟨-, htask⟩ := Task.applyBlocker_ok hup
    have hedge := (Task.applyBlocker_ok hup').1
    rw [htask] at hedge
    cases hedge
  | reassign query decision =>
    obtain ⟨resolved, hresolve, _, _, -, -, -, hup, -⟩ := h
    obtain ⟨_, -, _, _, -, -, hcan', -⟩ := h'
    obtain ⟨-, -, -, hassigned, hdraft⟩ := Task.reassign_ok hup
    refine hnot ⟨query, decision, t, resolved, rfl, hafter.before, hresolve, ?_⟩
    rcases (ensureCanReassign_iff.mp hcan').2 with hclose | hown
    · left
      unfold RoleAuthorizationPolicy.MayClose at hclose ⊢
      rw [hdraft.createdByUserId] at hclose
      exact hclose
    · right
      rw [← hassigned]
      exact hown

/-- A repeatable reassignment is made again, and leaves an audit entry. -/
theorem repeats {request : TaskRequest} {clock' : Nat → Instant} {m : Mutation} {db₁ : Db}
    (hafter : AfterFirst m db db₁ t) (h : request.Allowed clock ranking actor db t m)
    (hrepeat : request.Repeatable ranking actor t.taskUid db) :
    ¬ ChangesNothing t.taskUid db₁ ((request.program clock' ranking actor t.taskUid).run noFaults db₁).2 := by
  obtain ⟨query, decision, t', resolved, rfl, ht', hresolve, hmay⟩ := hrepeat
  rw [hafter.before] at ht'
  cases ht'
  obtain ⟨resolved', hresolve', _, actorId, -, hactor, -, hup, -⟩ := h
  rw [hresolve] at hresolve'
  cases hresolve'
  obtain ⟨-, hstatus, -, hassigned, hdraft⟩ := Task.reassign_ok hup
  have hcan : RoleAuthorizationPolicy.ensureCanReassign actor m.task = .ok () := by
    rw [ensureCanReassign_iff]
    refine ⟨by rw [hactor]; rfl, hmay.imp (fun hclose => ?_) fun hown => hassigned.trans hown⟩
    unfold RoleAuthorizationPolicy.MayClose at hclose ⊢
    rw [hdraft.createdByUserId]
    exact hclose
  have hagain : (ReassignTask.resolve ranking query decision).run noFaults db₁ =
      (.ok (.resolved resolved), db₁) := by
    obtain ⟨r, hr, hr'⟩ := AgreeOn.resolve hafter.users hafter.employees ranking query decision
    rw [hresolve] at hr
    cases hr
    exact hr'
  have hanswer : (((TaskRequest.reassign query decision).program clock' ranking actor t.taskUid).run
      noFaults db₁).1 = .ok true :=
    run_reassign hafter.stored hcan (by rw [hstatus]; rfl) hagain
  have hwhole : StoresWhole _ id t.taskUid db₁
      (((TaskRequest.reassign query decision).program clock' ranking actor t.taskUid).run noFaults db₁) :=
    TaskRequest.stores_whole _
  intro hnothing
  rcases hwhole with ⟨hidle, -⟩ | ⟨_, m', _, -, -, -, hall, -⟩
  · exact absurd (hidle true hanswer) (by decide)
  · obtain ⟨r, hgrown⟩ := (m'.leaves db₁).history
    have hsame := hnothing.history
    rw [hall, hgrown] at hsame
    exact absurd (List.append_right_eq_self.mp hsame) (List.cons_ne_nil _ _)

end

/-! ## Top theorem -/

/-- **When a repeated request changes nothing.**  The first request has succeeded, whatever calls failed
on its way; no call of the second one fails. -/
theorem repeat_idempotent_iff (clock clock' : Nat → Instant) (ranking : NameRanking) (actor : User)
    (uid : Uuid) (request : TaskRequest) (plan : Site → Fault AppError) (db db₁ : Db)
    (hfirst : (request.program clock ranking actor uid).run plan db = (.ok true, db₁)) :
    ChangesNothing uid db₁ ((request.program clock' ranking actor uid).run noFaults db₁).2 ↔
      ¬ request.Repeatable ranking actor uid db := by
  have horder : StoresInOrder (fun t m => request.Allowed clock ranking actor db t m) id uid db
      (.ok true, db₁) := by
    rw [← hfirst]
    exact request.stores_in_order plan
  obtain ⟨t, m, ht, hallowed, hall, hstored⟩ : ∃ t m, db.stored uid = some t ∧
      request.Allowed clock ranking actor db t m ∧ db₁ = applyAll m.writes db ∧ m.Stored db₁ := by
    rcases horder with ⟨hidle, -⟩ | ⟨t, m, ht, hm, ⟨_, -, hall, hstored⟩ | ⟨e, herror, -⟩⟩
    · exact absurd (hidle true rfl) (by decide)
    · exact ⟨t, m, ht, hm, hall, hstored⟩
    · cases herror
  have huid : t.taskUid = uid := Db.stored_taskUid ht
  subst huid
  have hleaves := m.leaves db
  rw [← hall] at hleaves
  have hafter : AfterFirst m db db₁ t := by
    refine ⟨ht, ?_, hleaves.users, hleaves.employees⟩
    rw [← request.allowed_taskUid hallowed]
    exact hstored.task
  constructor
  · exact fun hnothing hrepeat => repeats hafter hallowed hrepeat hnothing
  · intro hnot
    have hwhole : StoresWhole _ id t.taskUid db₁
        ((request.program clock' ranking actor t.taskUid).run noFaults db₁) := request.stores_whole
    rcases hwhole with ⟨-, hkept⟩ | ⟨t', m', _, ht', hm', -⟩
    · rw [hkept]
      exact .refl _ _
    · rw [hafter.stored] at ht'
      cases ht'
      exact absurd hm' (not_allowed_again hafter hallowed hnot)

/-! ## A repeated report, and a repeated reassignment -/

def anyRanking : NameRanking := fun _ _ => .notFound

/-- The assignee reports a blocker twice. -/
theorem report_idempotent : ∃ db₁,
    (TaskRequest.program (fun _ => 5) anyRanking sampleAssignee (sampleUid 1) (.reportBlocker "Нет данных")).run
      noFaults sampleDb = (.ok true, db₁) ∧
    ChangesNothing (sampleUid 1) db₁ ((TaskRequest.program (fun _ => 9) anyRanking sampleAssignee (sampleUid 1)
      (.reportBlocker "Нет данных")).run noFaults db₁).2 := by
  have hok : ((TaskRequest.program (fun _ => 5) anyRanking sampleAssignee (sampleUid 1)
      (.reportBlocker "Нет данных")).run noFaults sampleDb).1 = .ok true := by decide
  obtain ⟨db₁, hfirst⟩ : ∃ db₁, (TaskRequest.program (fun _ => 5) anyRanking sampleAssignee (sampleUid 1)
      (.reportBlocker "Нет данных")).run noFaults sampleDb = (.ok true, db₁) := ⟨_, Prod.ext hok rfl⟩
  refine ⟨db₁, hfirst, (repeat_idempotent_iff _ (fun _ => 9) _ _ _ _ _ _ _ hfirst).mpr ?_⟩
  rintro ⟨_, _, _, _, hrequest, -⟩
  cases hrequest

/-- The creator of the sample task. -/
def sampleCreator : User := { UserRepository.sampleUser 1 .user with id := some 1 }

/-- The sample task, and an employee in the directory who has no account. -/
def employedDb : Db :=
  { sampleDb with
    employees := (Table.empty.insertOrIgnore ⟨none, "Grace", none, none, none, none, true, none, 0, 0⟩).1 }

/-- The creator gives the task to the same employee twice: the history has two entries for it. -/
theorem reassigned_twice :
    ¬ ∀ (clock clock' : Nat → Instant) (ranking : NameRanking) (actor : User) (uid : Uuid)
        (request : TaskRequest) (db db₁ : Db),
      (request.program clock ranking actor uid).run noFaults db = (.ok true, db₁) →
        ChangesNothing uid db₁ ((request.program clock' ranking actor uid).run noFaults db₁).2 := by
  intro hall
  obtain ⟨once, hfirst, hgrows⟩ : ∃ once,
      (TaskRequest.program (fun _ => 5) anyRanking sampleCreator (sampleUid 1)
        (.reassign "Grace" (.employeeId 1))).run noFaults employedDb = (.ok true, once) ∧
      once.history.rows.length < ((TaskRequest.program (fun _ => 9) anyRanking sampleCreator (sampleUid 1)
        (.reassign "Grace" (.employeeId 1))).run noFaults once).2.history.rows.length :=
    ⟨_, Prod.ext (by decide) rfl, by decide⟩
  have hsame := (hall _ (fun _ => 9) _ _ _ _ _ _ hfirst).history
  rw [hsame] at hgrows
  exact Nat.lt_irrefl _ hgrows

end TaskBot
