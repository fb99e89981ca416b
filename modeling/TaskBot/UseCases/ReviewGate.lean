import TaskBot.Store.OptimisticLock
import TaskBot.UseCases.Registration
import TaskBot.UseCases.TaskMutations

/-!
# The review gate

Any number of use cases run at once on one database, statement by statement:
creations, status updates, blocker reports, reassignments, registrations with
late linking, deliveries.

* `Gate`: what a single statement of a call may do: tasks only move up, keep
  their creator, and become completed only from review and only by a status
  update of someone who may decide about the task;
* `call_gated`: every use case keeps to it, whatever the others do in between;
* `completed_after_review`: so does every step of every run.
-/

namespace TaskBot

open Sql Calls TaskRepository RoleAuthorizationPolicy

/-- A call of a use case with its arguments and what its services answer. -/
inductive UseCaseCall where
  | createTask (services : CreationServices) (clock : Nat → Instant) (uid : Uuid)
      (message : IncomingMessage) (decision : TaskAssigneeDecision)
  | updateStatus (clock : Nat → Instant) (actor : User) (taskUid : Uuid) (requestedStatus : TaskStatus)
  | reportBlocker (clock : Nat → Instant) (actor : User) (taskUid : Uuid) (blockerReason : String)
  | reassign (clock : Nat → Instant) (ranking : NameRanking) (actor : User) (taskUid : Uuid)
      (assigneeQuery : String) (decision : ReassignAssigneeDecision)
  | register (toLowercase : String → String) (clock : Nat → Instant) (message : IncomingMessage)
      (decision : RegistrationLinkDecision)
  | deliver (clock : Nat → Instant) (send : AppResult Int) (notification : Notification)

/-- The program without its answer. -/
def discard {α : Type} (p : Proc α) : Proc Unit := do
  let _ ← p

def UseCaseCall.program : UseCaseCall → Proc Unit
  | createTask services clock uid message decision =>
      discard (CreateTaskFromMessage.executeWithAssigneeDecision services clock uid message decision)
  | updateStatus clock actor taskUid requestedStatus =>
      discard (UpdateTaskStatus.execute clock actor taskUid requestedStatus)
  | reportBlocker clock actor taskUid blockerReason =>
      discard (ReportTaskBlocker.execute clock actor taskUid blockerReason)
  | reassign clock ranking actor taskUid assigneeQuery decision =>
      discard (ReassignTask.executeWithDecision clock ranking actor taskUid assigneeQuery decision)
  | register toLowercase clock message decision =>
      discard (RegisterUser.executeWithLinkDecision toLowercase clock message decision)
  | deliver clock send notification => ProcessNotifications.deliverSingle clock send notification

/-! ## The guarantee of one statement -/

/-- The call is a status update of the task by someone who may decide about it,
and the task is in review. -/
def MayComplete (call : UseCaseCall) (uid : Uuid) (t : Task) : Prop :=
  t.status = .inReview ∧
    ∃ clock actor requested, call = .updateStatus clock actor uid requested ∧ MayClose actor t

theorem MayComplete.touch {call : UseCaseCall} {uid : Uuid} {t : Task} (h : MayComplete call uid t)
    (u : Instant) : MayComplete call uid (t.touch u) := h

structure Gate (call : UseCaseCall) (db db' : Db) : Prop where
  follows : Follows db db'
  creator : ∀ uid t, db.stored uid = some t →
    ∃ t', db'.stored uid = some t' ∧ t'.createdByUserId = t.createdByUserId
  completed : ∀ uid t', db'.stored uid = some t' → t'.status = .completed →
    ∃ t, db.stored uid = some t ∧ (t.status = .completed ∨ MayComplete call uid t)

namespace Gate

variable {call : UseCaseCall} {db db' : Db}

theorem of_stored (h : ∀ uid, db'.stored uid = db.stored uid) : Gate call db db' where
  follows := .of_stored h
  creator uid t ht := ⟨t, by rw [h, ht], rfl⟩
  completed uid t' ht' hc := ⟨t', by rw [← h, ht'], .inl hc⟩

theorem refl (db : Db) : Gate call db db := of_stored fun _ => rfl

theorem of_tasks (h : db'.tasks = db.tasks) : Gate call db db' := of_stored (Db.stored_congr h)

/-- A task enters the table as created. -/
theorem insert {task : Task} (hs : task.status = .created) :
    Gate call db (inserted task db) := by
  have hkeep : ∀ uid t, db.stored uid = some t → (inserted task db).stored uid = some t := by
    intro uid t ht
    obtain ⟨r, hr, rfl⟩ := Option.map_eq_some_iff.mp ht
    exact Option.map_eq_some_iff.mpr ⟨r, Table.find?_insert hr, rfl⟩
  refine ⟨fun uid t ht => ⟨t, hkeep uid t ht, .inl (.refl t)⟩,
    fun uid t ht => ⟨t, hkeep uid t ht, rfl⟩, fun uid t' ht' hc => ?_⟩
  obtain ⟨r, hr, rfl⟩ := Option.map_eq_some_iff.mp ht'
  obtain ⟨hmem, huid⟩ := Table.find?_some hr
  rw [decide_eq_true_eq] at huid
  rcases Table.mem_insert hmem with hold | ⟨rfl, -⟩
  · refine ⟨toTask r, ?_, .inl hc⟩
    rw [← huid]
    exact stored_of_mem hold
  · have hnew : task.status = .completed := hc
    rw [hs] at hnew
    cases hnew

/-- An update from a known base completes the task only where the base allows it. -/
theorem update {base task : Task} (hk : Known base db) (hs : task.SameDraft base)
    (hv : task = base ∨ task.version = base.version + 1)
    (hc : task.status = .completed → base.status = .completed ∨ MayComplete call base.taskUid base) :
    Gate call db (updateTask task db).2 := by
  rcases updateTask_known hk hs hv with h | ⟨hv, ⟨u, hb⟩, h, hu⟩
  · rw [h]
    exact refl db
  · rw [h]
    refine ⟨follows_updated hv hb hu, fun uid t ht => ?_, fun uid t' ht' hct => ?_⟩
    · by_cases he : uid = task.taskUid
      · subst he
        rw [hb] at ht
        cases ht
        exact ⟨task, hu, hs.createdByUserId⟩
      · exact ⟨t, by rw [stored_updated_ne he, ht], rfl⟩
    · by_cases he : uid = task.taskUid
      · subst he
        rw [hu] at ht'
        cases ht'
        refine ⟨base.touch u, hb, ?_⟩
        rw [hs.taskUid]
        exact hc hct
      · rw [stored_updated_ne he] at ht'
        exact ⟨t', ht', .inl hct⟩

end Gate

/-! ## Gated programs -/

/-- From a database with `P` every statement of the program is within the gate, and `P` is kept. -/
def Gated (call : UseCaseCall) (P : Db → Prop) {α : Type} (p : Proc α) : Prop :=
  Safe Follows (Gate call) P p fun _ => P

namespace Gated

variable {call : UseCaseCall} {P : Db → Prop} {α β : Type}

theorem pure (a : α) : Gated call P (Pure.pure a : Proc α) := Safe.pure fun _ h => h

theorem fail (e : AppError) : Gated call P (Prog.fail e : Proc α) := Safe.fail fun _ h => h

theorem bind {p : Proc α} {f : α → Proc β} (hp : Gated call P p) (hf : ∀ a, Gated call P (f a)) :
    Gated call P (p >>= f) := Safe.bind hp hf fun _ _ h => h

theorem lift_bind {r : AppResult α} {f : α → Proc β} (hf : ∀ a, r = .ok a → Gated call P (f a)) :
    Gated call P (.lift r >>= f) := Safe.lift_bind hf fun _ _ _ h => h

theorem attempt {p : Proc α} (hp : Gated call P p) : Gated call P p.attempt :=
  Safe.attempt hp fun _ _ h => h

theorem of_leavesTasks (hst : Stable Follows P) {p : Proc α} (hp : LeavesTasks p) : Gated call P p :=
  Safe.of_within hp Gate.refl (fun _ _ => Gate.of_tasks) (fun _ _ h => h.follows) hst

theorem of_reads (hst : Stable Follows P) {p : Proc α} (hp : p.Within Eq) : Gated call P p :=
  of_leavesTasks hst (.of_reads hp)

theorem discard {p : Proc α} (hp : Gated call P p) : Gated call P (discard p) := hp.bind fun _ => pure ()

/-- A statement within the gate. -/
theorem perform (hst : Stable Follows P) {site : Site} {body : Db → AppResult α × Db}
    (h : ∀ db, P db → Gate call db (body db).2) : Gated call P (Prog.perform site body) := by
  refine Safe.perform (fun _ => hst) fun db hp f => ?_
  have hg : Gate call db (f.apply body db).2 := by
    rcases f.apply_store body db with hf | hf
    · rw [hf]; exact .refl db
    · rw [hf]; exact h db hp
  exact ⟨hg, hst _ _ hg.follows hp⟩

/-- What a statement read is known from then on: `C` of its answer alone, `K` of the
database too. -/
theorem select_bind {site : Site} {ans : Db → AppResult α} {f : α → Proc β} {C : α → Prop}
    {K : α → Db → Prop} (hst : Stable Follows P) (hK : ∀ a, Stable Follows (K a))
    (hsel : ∀ db a, ans db = .ok a → C a ∧ K a db)
    (hf : ∀ a, C a → Gated call (fun db => K a db ∧ P db) (f a)) :
    Gated call P (select site ans >>= f) := by
  let Q : AppResult α → Db → Prop := fun r db => P db ∧ ∀ a, r = .ok a → C a ∧ K a db
  refine Safe.bind (Q := Q) (Safe.read Gate.refl ?_ ?_ ?_) (fun a => ?_) fun e db h => h.1
  · exact fun r => hst.and fun db db' hr h a ha => ⟨(h a ha).1, hK a db db' hr (h a ha).2⟩
  · exact fun db h => ⟨h, fun a ha => hsel db a ha⟩
  · exact fun e db h => ⟨h, fun a ha => by cases ha⟩
  · have hand := Safe.of_and_const (hf a)
    refine hand.weaken (fun db h => ?_) fun r db h => h.2
    exact ⟨(h.2 a rfl).1, (h.2 a rfl).2, h.1⟩

theorem update (hst : Stable Follows P) {base task : Task} (hk : ∀ db, P db → Known base db)
    (hs : task.SameDraft base) (hv : task = base ∨ task.version = base.version + 1)
    (hc : task.status = .completed → base.status = .completed ∨ MayComplete call base.taskUid base) :
    Gated call P (TaskRepository.update task) := by
  exact perform hst fun db hp => .update (hk db hp) hs hv hc

/-- The answer of a lookup, if any, is known. -/
def KnownAnswer (found : Option Task) (db : Db) : Prop := ∀ t, found = some t → Known t db

theorem knownAnswer_stable (found : Option Task) : Stable Follows (KnownAnswer found) :=
  fun db db' hf h t ht => known_stable t db db' hf (h t ht)

theorem findByUid_bind (hst : Stable Follows P) (uid : Uuid) {f : Option Task → Proc β}
    (hf : ∀ found, (∀ t, found = some t → t.taskUid = uid) →
      Gated call (fun db => KnownAnswer found db ∧ P db) (f found)) :
    Gated call P (findByUid uid >>= f) := by
  refine select_bind hst knownAnswer_stable (fun db found h => ?_) hf
  cases h
  exact ⟨fun t ht => Db.stored_taskUid ht, fun t ht => .of_stored ht⟩

/-- Reading the task: it is known afterwards. -/
theorem loadTask_bind (hst : Stable Follows P) (uid : Uuid) {f : Task → Proc β}
    (hf : ∀ t, t.taskUid = uid → Gated call (fun db => KnownAnswer (some t) db ∧ P db) (f t)) :
    Gated call P (loadTask uid >>= f) := by
  rw [loadTask, Prog.bind_assoc]
  refine findByUid_bind hst uid fun found huid => lift_bind fun t ht => ?_
  cases found with
  | none => cases ht
  | some t' =>
    cases ht
    exact hf t (huid t rfl)

/-- The task that was looked up is known. -/
theorem known_of_found {P : Db → Prop} {t : Task} (db : Db) (h : KnownAnswer (some t) db ∧ P db) :
    Known t db := h.1 t rfl

theorem found_stable {P : Db → Prop} (hst : Stable Follows P) (found : Option Task) :
    Stable Follows fun db => KnownAnswer found db ∧ P db := (knownAnswer_stable found).and hst

/-- A transition of a known task, stored. -/
theorem update_transition (hst : Stable Follows P) {base task : Task} {s : TaskStatus} {now : Instant}
    (hk : ∀ db, P db → Known base db) (hup : base.transitionTo s now = .ok task)
    (hc : s = .completed → MayComplete call base.taskUid base) :
    Gated call P (TaskRepository.update task) := by
  obtain ⟨-, rfl⟩ := Task.transitionTo_ok hup
  exact update hst hk (base.advanced_sameDraft s now) (.inr rfl) fun h => .inr (hc h)

/-- A late link of a known task keeps its status. -/
theorem update_link (hst : Stable Follows P) {base task : Task} {user : Int} {now : Instant}
    (hk : ∀ db, P db → Known base db) (hup : base.linkRegisteredAssignee user now = .ok task) :
    Gated call P (TaskRepository.update task) := by
  obtain ⟨hs, hd, -, hv⟩ := Task.linkRegisteredAssignee_ok hup
  exact update hst hk hd hv fun h => .inl (hs ▸ h)

/-- Every task of the list is known. -/
def KnownTasks (tasks : List Task) (db : Db) : Prop := ∀ t ∈ tasks, Known t db

theorem knownTasks_stable (tasks : List Task) : Stable Follows (KnownTasks tasks) :=
  fun db db' hf h t ht => known_stable t db db' hf (h t ht)

theorem known_of_row {db : Db} {r : Stored TaskColumns} (hr : r ∈ db.tasks.rows) :
    Known (toTask r) db := .of_stored (stored_of_mem hr)

theorem relatedTask_bind (hst : Stable Follows P) (taskId : Option Int) {f : Option Task → Proc β}
    (hf : ∀ found, Gated call (fun db => KnownAnswer found db ∧ P db) (f found)) :
    Gated call P (ProcessNotifications.loadRelatedTask taskId >>= f) := by
  cases taskId with
  | none =>
    refine (hf none).weaken (fun db h => ⟨fun _ ht => (nomatch ht), h⟩) fun r db h => h.2
  | some id =>
    refine select_bind (C := fun _ => True) hst knownAnswer_stable (fun db found h => ⟨trivial, ?_⟩)
      fun found _ => hf found
    cases h
    intro t ht
    obtain ⟨r, hr, rfl⟩ := Option.map_eq_some_iff.mp ht
    exact known_of_row (Table.find?_some hr).1

theorem listUnlinked_bind (hst : Stable Follows P) (employeeId : Int) (limit : Nat)
    {f : List Task → Proc β} (hf : ∀ tasks, Gated call (fun db => KnownTasks tasks db ∧ P db) (f tasks)) :
    Gated call P (listOpenAssignedToEmployeeWithoutUser employeeId limit >>= f) := by
  refine select_bind (C := fun _ => True) hst knownTasks_stable (fun db tasks h => ⟨trivial, ?_⟩)
    fun tasks _ => hf tasks
  cases h
  intro t ht
  have hmem := List.mem_mergeSort.mp (List.mem_of_mem_take ht)
  obtain ⟨r, hr, rfl⟩ := List.mem_map.mp hmem
  exact known_of_row (List.mem_filter.mp hr).1

/-- A delivered assignment moves its task from created to sent, or nothing. -/
theorem markRelatedTaskAsSent_gated (hst : Stable Follows P) (found : Option Task)
    (kind : NotificationType) (now : Instant) :
    Gated call (fun db => KnownAnswer found db ∧ P db)
      (ProcessNotifications.markRelatedTaskAsSent kind found now) := by
  have hst' := (knownAnswer_stable found).and hst
  cases found with
  | none => exact .pure _
  | some task =>
    unfold ProcessNotifications.markRelatedTaskAsSent
    simp only
    split
    · refine lift_bind fun updatedTask hup => ?_
      refine .bind (update_transition hst' known_of_found hup fun h => by cases h).attempt fun stored => ?_
      split
      · exact of_leavesTasks hst' (ProcessNotifications.logSent_leavesTasks _ _)
      · split
        · exact .pure _
        · exact .fail _
    · exact .pure _

end Gated

/-! ## Every use case is gated -/

section

open Gated

variable {P : Db → Prop} (hst : Stable Follows P)
include hst

theorem updateStatus_gated (clock : Nat → Instant) (actor : User) (uid : Uuid) (requested : TaskStatus) :
    Gated (.updateStatus clock actor uid requested) P
      (UpdateTaskStatus.execute clock actor uid requested) := by
  refine loadTask_bind hst uid fun task huid => lift_bind fun next _ => ?_
  refine lift_bind fun _ hcan => lift_bind fun updatedTask hup => ?_
  refine .bind (update_transition (found_stable hst _) known_of_found hup ?_) fun savedTask => ?_
  · rintro rfl
    obtain ⟨hedge, -⟩ := Task.transitionTo_ok hup
    exact ⟨TaskStatus.canTransitionTo_completed hedge, clock, actor, requested, by rw [huid],
      ensureCanChangeStatus_completed hcan⟩
  · refine .bind (of_leavesTasks (found_stable hst _)
      (UpdateTaskStatus.logStatusChange_leavesTasks _ _ _ _ _)) fun _ => ?_
    exact .bind (of_leavesTasks (found_stable hst _)
      (UpdateTaskStatus.enqueueParticipantNotifications_leavesTasks _ _ _ _)) fun _ => .pure _

theorem reportBlocker_gated (call : UseCaseCall) (clock : Nat → Instant) (actor : User) (uid : Uuid)
    (reason : String) : Gated call P (ReportTaskBlocker.execute clock actor uid reason) := by
  refine lift_bind fun actorId _ => loadTask_bind hst uid fun task _ => lift_bind fun _ _ => ?_
  refine lift_bind fun updatedTask hup => .bind ?_ fun savedTask => ?_
  · obtain ⟨-, rfl⟩ := Task.applyBlocker_ok hup
    refine .update (found_stable hst _) known_of_found (by constructor <;> rfl) (.inr rfl) fun h => ?_
    cases h
  · refine lift_bind fun taskId _ => lift_bind fun comment _ => ?_
    refine .bind (of_leavesTasks (found_stable hst _) (create_leavesTasks comment)) fun stored => ?_
    refine .bind (of_leavesTasks (found_stable hst _) (append_leavesTasks _)) fun _ => ?_
    exact .bind (of_leavesTasks (found_stable hst _)
      (ReportTaskBlocker.notifyCreator_leavesTasks _ _ _ _)) fun _ => .pure _

theorem reassign_gated (call : UseCaseCall) (clock : Nat → Instant) (ranking : NameRanking)
    (actor : User) (uid : Uuid) (query : String) (decision : ReassignAssigneeDecision) :
    Gated call P (ReassignTask.executeWithDecision clock ranking actor uid query decision) := by
  refine lift_bind fun actorId _ => loadTask_bind hst uid fun task _ => lift_bind fun _ _ => ?_
  refine .bind (of_reads (found_stable hst _) (ReassignTask.resolve_reads _ _ _)) fun resolution => ?_
  cases resolution with
  | clarificationRequired request => exact .pure _
  | resolved resolved =>
    refine .bind (lift_bind fun reassignedTask hup => .bind ?_ fun savedTask => ?_) fun _ => .pure _
    · obtain ⟨-, hs, hv, -, hd⟩ := Task.reassign_ok hup
      refine .update (found_stable hst _) known_of_found hd (.inr hv) fun h => ?_
      rw [hs] at h
      cases h
    · refine lift_bind fun taskId _ => ?_
      refine .bind (of_leavesTasks (found_stable hst _) (append_leavesTasks _)) fun _ => ?_
      exact .bind (of_leavesTasks (found_stable hst _)
        (ReassignTask.notifyNewAssignee_leavesTasks _ _)) fun _ => .pure _

/-- A creation inserts a task that is created, and writes nothing else to the table. -/
theorem createTask_gated (call : UseCaseCall) (services : CreationServices) (clock : Nat → Instant)
    (uid : Uuid) (message : IncomingMessage) (decision : TaskAssigneeDecision) :
    Gated call P
      (CreateTaskFromMessage.executeWithAssigneeDecision services clock uid message decision) := by
  unfold CreateTaskFromMessage.executeWithAssigneeDecision CreateTaskFromMessage.prepare
    CreateTaskFromMessage.draftTask
  simp only [Prog.bind_assoc]
  refine lift_bind fun _ _ => lift_bind fun originalText _ => ?_
  refine .bind (of_leavesTasks hst (UserRepository.upsertFromMessage_leavesTasks _)) fun creator => ?_
  refine lift_bind fun parsedRequest _ => ?_
  refine .bind (of_reads hst (CreateTaskFromMessage.resolveAssignee_reads _ _ _)) fun resolution => ?_
  cases resolution with
  | clarificationRequired request => exact .pure _
  | resolved assignee =>
    simp only [Prog.bind_assoc, Prog.pure_bind]
    refine lift_bind fun generated _ => lift_bind fun task htask => .bind ?_ fun persisted => ?_
    · obtain ⟨-, -, -, hs⟩ := CreateTaskFromMessage.buildTask_ok htask
      refine .bind (perform hst fun db _ => .insert hs) fun inserted => ?_
      exact .bind (of_reads hst (select_reads _ _)) fun found => lift_bind fun stored _ => .pure _
    · cases persisted with
      | existing existing => exact .pure _
      | created storedTask =>
        refine .bind (of_leavesTasks hst
          (CreateTaskFromMessage.logTaskCreation_leavesTasks _ _ _ _)) fun _ => ?_
        exact .bind (of_leavesTasks hst
          (CreateTaskFromMessage.enqueueAssigneeNotification_leavesTasks _ _ _ _)) fun _ => .pure _

theorem deliver_gated (call : UseCaseCall) (clock : Nat → Instant) (send : AppResult Int)
    (notification : Notification) :
    Gated call P (ProcessNotifications.deliverSingle clock send notification) := by
  unfold ProcessNotifications.deliverSingle
  split
  · exact .pure _
  · refine .bind (of_reads hst (select_reads _ _)) fun user => ?_
    split
    · exact of_leavesTasks hst (NotificationRepository.setById_leavesTasks _ _ _)
    · split
      · exact of_leavesTasks hst (NotificationRepository.setById_leavesTasks _ _ _)
      · refine relatedTask_bind hst _ fun found => ?_
        split
        · refine .bind (of_leavesTasks (found_stable hst _)
            (NotificationRepository.setById_leavesTasks _ _ _)) fun _ => ?_
          exact markRelatedTaskAsSent_gated hst found _ _
        · split
          · exact of_leavesTasks (found_stable hst _) (NotificationRepository.setById_leavesTasks _ _ _)
          · exact of_leavesTasks (found_stable hst _)
              (ProcessNotifications.handleTransientFailure_leavesTasks _ _ _)

omit hst in
theorem updateUnlessConflict_gated {call : UseCaseCall} {task : Task}
    (h : Gated call P (TaskRepository.update task)) :
    Gated call P (RegisterUser.updateUnlessConflict task) := by
  refine .bind h.attempt fun stored => ?_
  split
  · exact .pure _
  · split
    · exact .pure _
    · exact .fail _

theorem linkTask_gated (call : UseCaseCall) (clock : Nat → Instant) {task : Task}
    (hk : ∀ db, P db → Known task db) (userId employeeId : Int) :
    Gated call P (RegisterUser.linkTaskToRegisteredUser clock task userId employeeId) := by
  refine lift_bind fun updatedTask hup => ?_
  refine .bind (updateUnlessConflict_gated (update_link hst hk hup)) fun stored => ?_
  split
  · exact .pure _
  · refine findByUid_bind hst _ fun latest _ => ?_
    split
    · exact .pure _
    · split
      · exact .pure _
      · refine lift_bind fun retriedTask hre => ?_
        exact updateUnlessConflict_gated
          (update_link (found_stable hst _) known_of_found hre)

/-- The batch: every task of the list is known from the start. -/
theorem recoverTaskBatch_gated (call : UseCaseCall) (clock : Nat → Instant) (userId employeeId : Int)
    (tasks : List Task) (hk : ∀ t ∈ tasks, ∀ db, P db → Known t db) (start : Nat) :
    Gated call P (RegisterUser.recoverTaskBatch clock userId employeeId start tasks) := by
  induction tasks generalizing start with
  | nil => exact .pure _
  | cons task tasks ih =>
    have hrest := ih fun t ht => hk t (List.mem_cons_of_mem task ht)
    refine .bind (linkTask_gated hst call _ (hk task List.mem_cons_self) userId employeeId) fun saved => ?_
    split
    · exact hrest _
    · refine .bind (of_leavesTasks hst (RegisterUser.logRecoveredAssignment_leavesTasks _ _ _ _))
        fun _ => ?_
      refine .bind (of_leavesTasks hst (RegisterUser.ensureAssignmentNotification_leavesTasks _ _ _))
        fun _ => ?_
      exact .bind (hrest _) fun _ => .pure _

omit hst in
theorem recoverBatches_gated (call : UseCaseCall) (clock : Nat → Instant) (userId employeeId : Int)
    (n : Nat) : ∀ {P : Db → Prop}, Stable Follows P →
      Gated call P (RegisterUser.recoverBatches clock userId employeeId n) := by
  induction n with
  | zero => exact fun _ => .pure _
  | succ n ih =>
    intro P hst
    refine listUnlinked_bind hst _ _ fun tasks => ?_
    split
    · exact .pure _
    · have hst' := (knownTasks_stable tasks).and hst
      refine .bind (recoverTaskBatch_gated hst' call clock userId employeeId tasks ?_ _) fun count => ?_
      · exact fun t ht db h => h.1 t ht
      · split
        · exact .pure _
        · exact ih hst'

theorem register_gated (call : UseCaseCall) (toLowercase : String → String) (clock : Nat → Instant)
    (message : IncomingMessage) (decision : RegistrationLinkDecision) :
    Gated call P (RegisterUser.executeWithLinkDecision toLowercase clock message decision) := by
  refine .bind (of_reads hst (RegisterUser.resolveEmployeeForDecision_reads _ _ _)) fun employee => ?_
  refine .bind (of_leavesTasks hst (UserRepository.upsertFromMessage_leavesTasks _)) fun actor => ?_
  refine .bind ?_ fun _ => .pure _
  unfold RegisterUser.recoverPendingAssignments
  split
  · exact .pure _
  · exact lift_bind fun userId _ => recoverBatches_gated call clock userId _ _ hst

end

/-- **Every use case keeps to the gate**, whatever the others do between its statements. -/
theorem call_gated (call : UseCaseCall) : Gated call (fun _ => True) call.program := by
  have hst : Stable Follows fun _ => True := .const _ _
  cases call with
  | createTask services clock uid message decision =>
    exact (createTask_gated hst _ services clock uid message decision).discard
  | updateStatus clock actor uid requested =>
    exact (updateStatus_gated hst clock actor uid requested).discard
  | reportBlocker clock actor uid reason =>
    exact (reportBlocker_gated hst _ clock actor uid reason).discard
  | reassign clock ranking actor uid query decision =>
    exact (reassign_gated hst _ clock ranking actor uid query decision).discard
  | register toLowercase clock message decision =>
    exact (register_gated hst _ toLowercase clock message decision).discard
  | deliver clock send notification => exact deliver_gated hst _ clock send notification

/-! ## Top theorem -/

/-- The calls about to start on one database. -/
def startCalls (db : Db) (calls : List UseCaseCall) : Pool Site Db AppError UseCaseCall Unit :=
  ⟨db, calls.map fun call => (call, call.program)⟩

theorem startCalls_guarded (db : Db) (calls : List UseCaseCall) :
    (startCalls db calls).Guarded Follows fun call => Gate call := by
  intro t ht
  obtain ⟨call, -, rfl⟩ := List.mem_map.mp ht
  exact ⟨fun _ => True, .const _ _, trivial,
    (call_gated call).weaken (fun _ h => h) fun _ _ h => h⟩

/-- Every step of a run is within the gate of one of the calls. -/
theorem acts_gated (db : Db) (calls : List UseCaseCall) (sched : List (Nat × Fault AppError)) :
    ∀ a ∈ (startCalls db calls).acts sched, a.who ∈ calls ∧ Gate a.who a.before a.after := by
  intro a ha
  refine ⟨?_, Pool.acts_guarantee (fun _ _ _ h => h.follows) (startCalls_guarded db calls) sched a ha⟩
  have hwho := Pool.acts_who sched _ a ha
  simpa [startCalls, Function.comp_def] using hwho

/-- Who may decide about a task, spelled out. -/
theorem mayClose_iff (actor : User) (t : Task) :
    MayClose actor t ↔
      actor.role = .manager ∨ actor.role = .admin ∨ actor.id = some t.createdByUserId := by
  simp only [MayClose, UserRole.isManagerOrAdmin, decide_eq_true_eq, or_assoc]

/-- The task exists, is not completed, and was created by `creator`. -/
def Open (uid : Uuid) (creator : Int) (db : Db) : Prop :=
  ∃ t, db.stored uid = some t ∧ t.status ≠ .completed ∧ t.createdByUserId = creator

/-- A step of a call that may not complete the task leaves it open. -/
theorem Gate.open {call : UseCaseCall} {db db' : Db} (h : Gate call db db') {uid : Uuid} {creator : Int}
    (hno : ∀ clock actor requested, call = .updateStatus clock actor uid requested →
      actor.role = .user ∧ actor.id ≠ some creator) (ho : Open uid creator db) :
    Open uid creator db' := by
  obtain ⟨t, ht, hs, rfl⟩ := ho
  obtain ⟨t', ht', hcreator⟩ := h.creator uid t ht
  refine ⟨t', ht', fun hc => ?_, hcreator⟩
  obtain ⟨t₁, ht₁, hcase⟩ := h.completed uid t' ht' hc
  rw [ht] at ht₁
  cases ht₁
  rcases hcase with hc | ⟨-, clock, actor, requested, hcall, hmay⟩
  · exact hs hc
  · obtain ⟨hrole, hid⟩ := hno clock actor requested hcall
    rw [mayClose_iff, hrole] at hmay
    simp [hid] at hmay

/-- **The review gate.**  In every interleaving, a step after which a task is
completed found it completed or found it in review, and then it is a status
update of the task by its creator, a manager or an admin.  So a task that only
plain users who did not create it try to move is never completed. -/
theorem completed_after_review (db : Db) (calls : List UseCaseCall)
    (sched : List (Nat × Fault AppError)) (uid : Uuid) :
    (∀ a ∈ (startCalls db calls).acts sched, ∀ t', a.after.stored uid = some t' →
      t'.status = .completed →
        ∃ t, a.before.stored uid = some t ∧ (t.status = .completed ∨ t.status = .inReview ∧
          ∃ clock actor requested, a.who = .updateStatus clock actor uid requested ∧
            (actor.role = .manager ∨ actor.role = .admin ∨ actor.id = some t.createdByUserId))) ∧
    ∀ t₀, db.stored uid = some t₀ → t₀.status ≠ .completed →
      (∀ clock actor requested, .updateStatus clock actor uid requested ∈ calls →
        actor.role = .user ∧ actor.id ≠ some t₀.createdByUserId) →
      ∀ a ∈ (startCalls db calls).acts sched,
        ∃ t, a.after.stored uid = some t ∧ t.status ≠ .completed := by
  constructor
  · intro a ha t' ht' hc
    obtain ⟨-, hgate⟩ := acts_gated db calls sched a ha
    obtain ⟨t, ht, hcase⟩ := hgate.completed uid t' ht' hc
    refine ⟨t, ht, hcase.imp id ?_⟩
    rintro ⟨hr, clock, actor, requested, hcall, hmay⟩
    exact ⟨hr, clock, actor, requested, hcall, (mayClose_iff actor t).mp hmay⟩
  · intro t₀ ht₀ hs hno a ha
    have hstep : ∀ a ∈ (startCalls db calls).acts sched,
        Open uid t₀.createdByUserId a.before → Open uid t₀.createdByUserId a.after := by
      intro a ha
      obtain ⟨hwho, hgate⟩ := acts_gated db calls sched a ha
      exact hgate.open fun clock actor requested hcall => hno clock actor requested (hcall ▸ hwho)
    obtain ⟨t, ht, hs, -⟩ := (Pool.acts_keep sched ⟨t₀, ht₀, hs, rfl⟩ hstep).1 a ha
    exact ⟨t, ht, hs⟩

/-- The registered user with this id. -/
def sampleActor (id : Int) (role : UserRole) : User := { UserRepository.sampleUser id role with id := some id }

/-- The assignee starts the task and asks for its completion: it goes to review. -/
theorem completed_after_review_assignee :
    let calls := [.updateStatus (fun _ => 5) (sampleActor 2 .user) (sampleUid 1) .inProgress,
      .updateStatus (fun _ => 6) (sampleActor 2 .user) (sampleUid 1) .completed]
    let sched := (List.replicate 5 0 ++ List.replicate 5 1).map fun i => (i, Fault.none)
    (∀ a ∈ (startCalls sampleDb calls).acts sched,
      ∃ t, a.after.stored (sampleUid 1) = some t ∧ t.status ≠ .completed) ∧
    (((startCalls sampleDb calls).exec sched).store.stored (sampleUid 1)).map Task.status =
      some .inReview := by
  refine ⟨(completed_after_review sampleDb _ _ (sampleUid 1)).2 sampleTask rfl (by decide) ?_, by decide⟩
  intro clock actor requested h
  simp only [List.mem_cons, List.not_mem_nil, or_false, UseCaseCall.updateStatus.injEq] at h
  rcases h with ⟨-, rfl, -⟩ | ⟨-, rfl, -⟩ <;> exact ⟨rfl, by decide⟩

end TaskBot
