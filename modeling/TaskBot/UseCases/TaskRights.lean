import TaskBot.UseCases.Admin
import TaskBot.UseCases.MutationWrites
import TaskBot.UseCases.Onboarding
import TaskBot.UseCases.TaskComments

/-!
# What a use case may do to the tasks

`TaskMoves R db db'`: every stored task is still stored, with its message type; only
the tasks of `R` have changed, only those of `R` have become cancelled, and a new
task has a message type of `R`.

Each use case moves the database within rights that its arguments give, whatever
fails: a status update changes the task it names and cancels it only when asked to,
a creation adds tasks of its message type, a registration links tasks and cancels none.
-/

namespace TaskBot

open Sql Calls TaskRepository

structure TaskRights where
  creates : MessageType → Prop
  changes : Uuid → Prop
  cancels : Uuid → Prop

/-- No right at all. -/
def TaskRights.none : TaskRights := ⟨fun _ => False, fun _ => False, fun _ => False⟩

structure TaskRights.Le (R R' : TaskRights) : Prop where
  creates : ∀ t, R.creates t → R'.creates t
  changes : ∀ uid, R.changes uid → R'.changes uid
  cancels : ∀ uid, R.cancels uid → R'.cancels uid

structure TaskMoves (R : TaskRights) (db db' : Db) : Prop where
  keeps : ∀ uid t, db.stored uid = some t → ∃ t', db'.stored uid = some t' ∧
    t'.messageType = t.messageType ∧ (t' = t ∨ R.changes uid) ∧
    (t'.status = .cancelled → t.status = .cancelled ∨ R.cancels uid)
  creates : ∀ uid t', db.stored uid = none → db'.stored uid = some t' →
    R.creates t'.messageType ∧ (t'.status = .cancelled → R.cancels uid)

namespace TaskMoves

variable {R R' : TaskRights} {db db' db'' : Db}

theorem of_stored (h : ∀ uid, db'.stored uid = db.stored uid) : TaskMoves R db db' where
  keeps uid t ht := ⟨t, (h uid).trans ht, rfl, .inl rfl, .inl⟩
  creates uid _ hnone ht := nomatch hnone.symm.trans ((h uid).symm.trans ht)

theorem of_tasks (h : db'.tasks = db.tasks) : TaskMoves R db db' :=
  of_stored fun uid => Db.stored_congr h uid

theorem refl (db : Db) : TaskMoves R db db := of_stored fun _ => rfl

theorem trans (h : TaskMoves R db db') (h' : TaskMoves R db' db'') : TaskMoves R db db'' where
  keeps uid t ht := by
    obtain ⟨t', ht', htype, hsame, hcancel⟩ := h.keeps uid t ht
    obtain ⟨t'', ht'', htype', hsame', hcancel'⟩ := h'.keeps uid t' ht'
    refine ⟨t'', ht'', htype'.trans htype, ?_, fun hc => ?_⟩
    · rcases hsame' with rfl | hr
      · exact hsame
      · exact .inr hr
    · exact (hcancel' hc).elim hcancel .inr
  creates uid t'' hnone ht'' := by
    cases ht' : db'.stored uid with
    | none => exact h'.creates uid t'' ht' ht''
    | some t' =>
      obtain ⟨hcreates, hcancel⟩ := h.creates uid t' hnone ht'
      obtain ⟨t₂, ht₂, htype, -, hcancel'⟩ := h'.keeps uid t' ht'
      cases ht''.symm.trans ht₂
      rw [htype]
      exact ⟨hcreates, fun hc => (hcancel' hc).elim hcancel id⟩

theorem mono (h : TaskMoves R db db') (hle : R.Le R') : TaskMoves R' db db' where
  keeps uid t ht := by
    obtain ⟨t', ht', htype, hsame, hcancel⟩ := h.keeps uid t ht
    exact ⟨t', ht', htype, hsame.imp_right (hle.changes uid), fun hc => (hcancel hc).imp_right (hle.cancels uid)⟩
  creates uid t' hnone ht' := by
    obtain ⟨hcreates, hcancel⟩ := h.creates uid t' hnone ht'
    exact ⟨hle.creates _ hcreates, fun hc => hle.cancels uid (hcancel hc)⟩

/-- An `UPDATE` of a task the rights name. -/
theorem updated {task : Task} (hchanges : R.changes task.taskUid)
    (hcancels : task.status = .cancelled → R.cancels task.taskUid) (db : Db) :
    TaskMoves R db (TaskRepository.updated task db) := by
  refine ⟨fun uid t ht => ?_, fun uid t' hnone ht' => ?_⟩
  · obtain ⟨r, rfl, huid, hfind⟩ := stored_updated_some task ht
    refine ⟨_, hfind, ?_⟩
    by_cases hq : isPrevious task r = true
    · have hsame : task.taskUid = uid := by
        rw [← huid]
        exact (of_decide_eq_true hq).1.symm
      simp only [setWhere, hq, if_true]
      rw [hsame] at hchanges hcancels
      exact ⟨rfl, .inr hchanges, fun hc => .inr (hcancels hc)⟩
    · simp only [setWhere, hq]
      exact ⟨rfl, .inl rfl, .inl⟩
  · rw [stored_updated_none task hnone] at ht'
    cases ht'

/-- An `INSERT` of a task of a message type the rights name. -/
theorem inserted {task : Task} (hcreates : R.creates task.messageType) (hstatus : task.status ≠ .cancelled)
    (db : Db) : TaskMoves R db (TaskRepository.inserted task db) where
  keeps uid t ht := ⟨t, stored_inserted_some ht, rfl, .inl rfl, .inl⟩
  creates uid t' hnone ht' := by
    rw [stored_inserted_none hnone ht']
    exact ⟨hcreates, fun hc => absurd hc hstatus⟩

end TaskMoves

/-! ## Programs -/

/-- Whatever fails, the program moves the tasks within the rights and answers something in `Q`. -/
abbrev MovesTasks {α : Type} (R : TaskRights) (p : Proc α) (Q : α → Prop) : Prop :=
  p.Yields (TaskMoves R) Q

namespace MovesTasks

variable {R R' : TaskRights} {α β : Type} {Q : α → Prop} {Q' : β → Prop}

theorem pure {a : α} (h : Q a) : MovesTasks R (Pure.pure a) Q := Prog.Yields.pure TaskMoves.refl h

theorem answer (a : α) : MovesTasks R (Pure.pure a) fun _ => True := pure trivial

theorem lift {r : AppResult α} (h : ∀ a, r = .ok a → Q a) : MovesTasks R (.lift r) Q :=
  Prog.Yields.lift TaskMoves.refl h

theorem leaves {p : Proc α} (h : LeavesTasks p) : MovesTasks R p fun _ => True :=
  .of_within TaskMoves.refl (fun _ _ _ h h' => h.trans h') (h.mono fun _ _ => .of_tasks)

theorem bind {p : Proc α} {f : α → Proc β} (hp : MovesTasks R p Q)
    (hf : ∀ a, Q a → MovesTasks R (f a) Q') : MovesTasks R (p >>= f) Q' :=
  Prog.Yields.bind (fun _ _ _ h h' => h.trans h') hp hf

theorem lift_bind {r : AppResult α} {f : α → Proc β} (hf : ∀ a, r = .ok a → MovesTasks R (f a) Q') :
    MovesTasks R (.lift r >>= f) Q' := bind (lift fun _ h => h) hf

theorem leaves_bind {p : Proc α} {f : α → Proc β} (hp : LeavesTasks p)
    (hf : ∀ a, MovesTasks R (f a) Q') : MovesTasks R (p >>= f) Q' :=
  bind (leaves hp) fun a _ => hf a

theorem attempt {p : Proc α} (hp : MovesTasks R p Q) :
    MovesTasks R p.attempt fun r => ∀ a, r = .ok a → Q a := Prog.Yields.attempt hp

/-- A statement that answers `ans` of the database. -/
theorem select {site : Site} {ans : Db → AppResult α} (h : ∀ db a, ans db = .ok a → Q a) :
    MovesTasks R (TaskBot.select site ans) Q := .perform TaskMoves.refl TaskMoves.refl h

end MovesTasks

/-! ## Mutations -/

theorem tasks_applyAll {l : List (Db → Db)} (h : ∀ f ∈ l, ∀ db, (f db).tasks = db.tasks) (db : Db) :
    (applyAll l db).tasks = db.tasks := by
  induction l generalizing db with
  | nil => rfl
  | cons f l ih =>
    have hrest := ih (fun g hg => h g (List.mem_cons_of_mem _ hg)) (f db)
    exact hrest.trans (h f List.mem_cons_self db)

/-- The writes beside the task leave the tasks alone. -/
theorem Mutation.tasks_records (m : Mutation) : ∀ f ∈ m.records, ∀ db, (f db).tasks = db.tasks := by
  intro f hf db
  rcases List.mem_append.mp hf with hcomment | hrest
  · obtain ⟨c, -, rfl⟩ := List.mem_map.mp hcomment
    rfl
  · rcases List.mem_cons.mp hrest with rfl | hnotification
    · rfl
    · obtain ⟨n, -, rfl⟩ := List.mem_map.mp hnotification
      rfl

/-- **What stores in order changes one task**, and does nothing else to the tasks. -/
theorem StoresInOrder.relates {K : Db → Db → Prop} (hrefl : ∀ db, K db db)
    (htrans : ∀ db db' db'', K db db' → K db' db'' → K db db'')
    (htasks : ∀ db db' : Db, db'.tasks = db.tasks → K db db') {α : Type} {allowed : Task → Mutation → Prop}
    {changed : α → Bool} {uid : Uuid} {db : Db} {o : AppResult α × Db}
    (h : StoresInOrder allowed changed uid db o)
    (hm : ∀ t m, db.stored uid = some t → allowed t m → K db (TaskRepository.updated m.task db)) :
    K db o.2 := by
  rcases h with ⟨-, hdb⟩ | ⟨t, m, ht, hallowed, hwrites⟩
  · rw [hdb]
    exact hrefl db
  · have hprefix : ∃ k, o.2 = applyAll (m.writes.take k) db := by
      rcases hwrites with ⟨-, -, hall, -⟩ | ⟨-, -, k, -, hdb⟩
      · exact ⟨m.writes.length, by rw [List.take_length, hall]⟩
      · exact ⟨k, hdb⟩
    obtain ⟨k, hk⟩ := hprefix
    rw [hk]
    cases k with
    | zero => exact hrefl db
    | succ k =>
      refine htrans _ _ _ (hm t m ht hallowed) (htasks _ _ ?_)
      exact tasks_applyAll (fun f hf => m.tasks_records f (List.mem_of_mem_take hf)) _

theorem StoresInOrder.moves {α : Type} {allowed : Task → Mutation → Prop} {changed : α → Bool} {uid : Uuid}
    {R : TaskRights} {db : Db} {o : AppResult α × Db} (h : StoresInOrder allowed changed uid db o)
    (hm : ∀ t m, db.stored uid = some t → allowed t m →
      R.changes m.task.taskUid ∧ (m.task.status = .cancelled → R.cancels m.task.taskUid)) :
    TaskMoves R db o.2 := by
  refine h.relates TaskMoves.refl (fun _ _ _ h h' => h.trans h') (fun _ _ => .of_tasks) fun t m ht hallowed => ?_
  obtain ⟨hchanges, hcancels⟩ := hm t m ht hallowed
  exact .updated hchanges hcancels db

/-- The rights of a mutation of one task. -/
def TaskRights.onTask (uid : Uuid) (cancels : Prop) : TaskRights :=
  ⟨fun _ => False, (· = uid), fun uid' => uid' = uid ∧ cancels⟩

theorem UpdateTaskStatus.moves (clock : Nat → Instant) (actor : User) (uid : Uuid)
    (requestedStatus : TaskStatus) :
    MovesTasks (.onTask uid (requestedStatus = .cancelled))
      (UpdateTaskStatus.execute clock actor uid requestedStatus) fun _ => True := by
  refine fun plan db => ⟨?_, fun _ _ => trivial⟩
  refine (stores_in_order clock actor uid requestedStatus plan db).moves fun t m ht hallowed => ?_
  obtain ⟨taskId, nextStatus, hid, hnormal, hcan, hup, -⟩ := hallowed
  obtain ⟨-, htask⟩ := Task.transitionTo_ok hup
  have hstored : t.taskUid = uid := Db.stored_taskUid ht
  have huid : m.task.taskUid = uid := by
    rw [htask]
    exact hstored
  refine ⟨huid, fun hc => ⟨huid, ?_⟩⟩
  have hnext : nextStatus = .cancelled := by
    rw [htask] at hc
    exact hc
  rcases RoleAuthorizationPolicy.normalizeRequestedStatus_ok hnormal with h | ⟨-, h⟩
  · exact h.symm.trans hnext
  · rw [hnext] at h
    cases h

theorem ReportTaskBlocker.moves (clock : Nat → Instant) (actor : User) (uid : Uuid) (blockerReason : String) :
    MovesTasks (.onTask uid False) (ReportTaskBlocker.execute clock actor uid blockerReason)
      fun _ => True := by
  refine fun plan db => ⟨?_, fun _ _ => trivial⟩
  refine (stores_in_order clock actor uid blockerReason plan db).moves fun t m ht hallowed => ?_
  obtain ⟨taskId, actorId, -, -, -, hup, -⟩ := hallowed
  obtain ⟨-, htask⟩ := Task.applyBlocker_ok hup
  have hstored : t.taskUid = uid := Db.stored_taskUid ht
  refine ⟨?_, fun hc => ?_⟩
  · rw [htask]
    exact hstored
  · rw [htask] at hc
    cases hc

theorem ReassignTask.moves (clock : Nat → Instant) (ranking : NameRanking) (actor : User) (uid : Uuid)
    (assigneeQuery : String) (decision : ReassignAssigneeDecision) :
    MovesTasks (.onTask uid False)
      (ReassignTask.executeWithDecision clock ranking actor uid assigneeQuery decision) fun _ => True := by
  refine fun plan db => ⟨?_, fun _ _ => trivial⟩
  refine (stores_in_order clock ranking actor uid assigneeQuery decision plan db).moves
    fun t m ht hallowed => ?_
  obtain ⟨taskId, actorId, resolved, -, -, -, hup, -⟩ := hallowed
  obtain ⟨-, hstatus, -, -, hdraft⟩ := Task.reassign_ok hup
  refine ⟨hdraft.taskUid.trans (Db.stored_taskUid ht), fun hc => ?_⟩
  rw [hstatus] at hc
  cases hc

theorem AddTaskComment.leavesTasks (clock : Nat → Instant) (actor : User) (uid : Uuid) (body : String) :
    LeavesTasks (AddTaskComment.execute clock actor uid body) := by
  have hload : LeavesTasks (loadTask uid) := .bind (LeavesTasks.of_reads (select_reads _ _)) fun _ => .lift _
  have hnotify : ∀ slot actorId task text commentId now recipient,
      LeavesTasks (notifyRecipient slot actorId task text commentId now recipient) := by
    intro slot actorId task text commentId now recipient
    unfold notifyRecipient
    split
    · exact .pure _
    · split
      · exact .pure _
      · exact .bind (NotificationRepository.enqueue_leavesTasks _ _) fun _ => .pure _
  refine .bind (.lift _) fun actorId => .bind hload fun task => .bind (.lift _) fun _ => ?_
  refine .bind (.lift _) fun taskId => .bind (.lift _) fun comment => ?_
  refine .bind (create_leavesTasks _) fun stored => ?_
  refine .bind (.bind (append_leavesTasks _) fun _ => .pure _) fun _ => ?_
  exact .bind (.bind (hnotify _ _ _ _ _ _ _) fun _ => hnotify _ _ _ _ _ _ _) fun _ => .pure _

/-! ## Creation -/

namespace CreateTaskFromMessage

/-- A creation adds tasks of the message type of its message. -/
def rights (message : IncomingMessage) : TaskRights :=
  ⟨(· = taskMessageType message.content message.isVoiceOrigin), fun _ => False, fun _ => False⟩

theorem buildTask_messageType {services : CreationServices} {clock : Nat → Instant} {uid : Uuid}
    {message : IncomingMessage} {originalText : String} {creator : User}
    {parsedRequest : ParsedTaskRequest} {assignee : ResolvedAssignee} {generated : GeneratedTask}
    {task : Task} (h : buildTask services clock uid message originalText creator parsedRequest assignee
      generated = .ok task) :
    task.messageType = taskMessageType message.content message.isVoiceOrigin := by
  unfold buildTask at h
  cases hid : requiredUserId creator with
  | error e => rw [hid] at h; cases h
  | ok creatorId =>
    rw [hid] at h
    replace h : Task.new uid _ creatorId _ _ _ _ _ _ _ _ _ _ _ _ = .ok task := h
    unfold Task.new at h
    split at h
    · cases h
    · cases h
      rfl

/-- A run of the creation may come to store the task. -/
def Drafts (services : CreationServices) (clock : Nat → Instant) (uid : Uuid) (message : IncomingMessage)
    (task : Task) : Prop :=
  ∃ originalText creator parsedRequest assignee generated,
    extractOriginalText services message = .ok originalText ∧
      buildTask services clock uid message originalText creator parsedRequest assignee generated = .ok task

/-- **A creation inserts a task it has drafted**, and does nothing else to the tasks. -/
theorem execute_yields {K : Db → Db → Prop} (hrefl : ∀ db, K db db)
    (htrans : ∀ db db' db'', K db db' → K db' db'' → K db db'')
    (htasks : ∀ db db' : Db, db'.tasks = db.tasks → K db db') {services : CreationServices}
    {clock : Nat → Instant} {uid : Uuid} {message : IncomingMessage} {decision : TaskAssigneeDecision}
    (hinsert : ∀ task, Drafts services clock uid message task → ∀ db, K db (inserted task db)) :
    (executeWithAssigneeDecision services clock uid message decision).Yields K fun _ => True := by
  have hleaves : ∀ {α : Type} {p : Proc α}, LeavesTasks p → p.Yields K fun _ => True :=
    fun hp => .of_within hrefl htrans (hp.mono htasks)
  let Ready : Prepared → Prop := fun prepared => ∀ creator assignee task,
    prepared = .ready creator assignee task → Drafts services clock uid message task
  have hprepare : (prepare services clock uid message decision).Yields K Ready := by
    refine .bind htrans (.lift hrefl fun _ _ => trivial) fun _ _ => ?_
    refine .bind htrans (.lift hrefl fun _ h => h) fun originalText htext => ?_
    refine .bind htrans (hleaves (UserRepository.upsertFromMessage_leavesTasks _)) fun creator _ => ?_
    refine .bind htrans (.lift hrefl fun _ h => h) fun parsedRequest _ => ?_
    refine .bind htrans (hleaves (LeavesTasks.of_reads (resolveAssignee_reads _ _ _))) fun resolution _ => ?_
    cases resolution with
    | clarificationRequired request => exact .pure hrefl fun _ _ _ h => nomatch h
    | resolved assignee =>
      refine .bind htrans (.lift hrefl fun _ h => h) fun generated _ => ?_
      refine .bind htrans (.lift hrefl fun _ h => h) fun task htask => .pure hrefl fun _ _ _ h => ?_
      cases h
      exact ⟨originalText, creator, parsedRequest, assignee, generated, htext, htask⟩
  refine .bind htrans hprepare fun prepared hready => ?_
  cases prepared with
  | clarification request => exact .pure hrefl trivial
  | ready creator assignee task =>
    have hstored : (insertTask task).Yields K fun _ => True :=
      .of_within hrefl htrans (write_within (hinsert task (hready creator assignee task rfl)))
    have hstore : (createIfAbsent task).Yields K fun _ => True := by
      refine .bind htrans hstored fun _ _ => ?_
      refine .bind htrans (hleaves (LeavesTasks.of_reads (select_reads _ _))) fun _ _ => ?_
      exact .bind htrans (.lift hrefl fun _ h => h) fun _ _ => .pure hrefl trivial
    refine .bind htrans hstore fun persistedTask _ => ?_
    cases persistedTask with
    | existing existing => exact .pure hrefl trivial
    | created storedTask =>
      refine .bind htrans (hleaves (logTaskCreation_leavesTasks _ _ _ _)) fun _ _ => ?_
      exact .bind htrans (hleaves (enqueueAssigneeNotification_leavesTasks _ _ _ _)) fun _ _ =>
        .pure hrefl trivial

theorem moves (services : CreationServices) (clock : Nat → Instant) (uid : Uuid) (message : IncomingMessage)
    (decision : TaskAssigneeDecision) :
    MovesTasks (rights message) (executeWithAssigneeDecision services clock uid message decision)
      fun _ => True := by
  refine execute_yields TaskMoves.refl (fun _ _ _ h h' => h.trans h') (fun _ _ => .of_tasks)
    fun task hdrafts db => ?_
  obtain ⟨_, _, _, _, _, -, htask⟩ := hdrafts
  refine .inserted (buildTask_messageType htask) ?_ db
  rw [(buildTask_ok htask).2.2.2]
  nofun

end CreateTaskFromMessage

/-! ## Registration -/

/-- A registration may give any task to the user it registers, and cancels none. -/
def TaskRights.linking : TaskRights := ⟨fun _ => False, fun _ => True, fun _ => False⟩

namespace RegisterUser

theorem updateUnlessConflict_moves {task : Task} (hstatus : task.status ≠ .cancelled) :
    MovesTasks .linking (updateUnlessConflict task) fun _ => True := by
  have hupdate : MovesTasks .linking (TaskRepository.update task) fun _ => True := by
    refine .perform TaskMoves.refl (fun db => ?_) fun _ _ _ => trivial
    unfold TaskRepository.updateTask
    split
    · exact .refl db
    · exact .updated trivial (fun hc => hstatus hc) db
  refine .bind hupdate.attempt fun stored _ => ?_
  split
  · exact .answer _
  · split
    · exact .answer _
    · exact .fail TaskMoves.refl _

/-- A task that still waits is open, and a link keeps it so. -/
theorem linkTask_moves (clock : Nat → Instant) {task : Task} (userId employeeId : Int)
    (hstatus : task.status ≠ .cancelled) :
    MovesTasks .linking (linkTaskToRegisteredUser clock task userId employeeId) fun _ => True := by
  have hlink : ∀ {t t' : Task} {now : Instant}, t.status ≠ .cancelled →
      t.linkRegisteredAssignee userId now = .ok t' → t'.status ≠ .cancelled := by
    intro t t' now ht h
    rw [(Task.linkRegisteredAssignee_ok h).1]
    exact ht
  refine .lift_bind fun updatedTask hupdated => ?_
  refine .bind (updateUnlessConflict_moves (hlink hstatus hupdated)) fun stored _ => ?_
  split
  · exact .answer _
  · refine .leaves_bind (LeavesTasks.of_reads (select_reads _ _)) fun latest => ?_
    split
    · exact .answer _
    · next latestTask =>
      split
      · exact .answer _
      · next hshould =>
        have hopen : latestTask.status ≠ .cancelled := by
          intro hc
          simp [shouldLinkTask, hc, TaskStatus.isTerminal] at hshould
        exact .lift_bind fun retried hretried => updateUnlessConflict_moves (hlink hopen hretried)

theorem recoverTaskBatch_moves (clock : Nat → Instant) (userId employeeId : Int) (tasks : List Task)
    (hopen : ∀ t ∈ tasks, t.status ≠ .cancelled) (start : Nat) :
    MovesTasks .linking (recoverTaskBatch clock userId employeeId start tasks) fun _ => True := by
  induction tasks generalizing start with
  | nil => exact .answer _
  | cons task tasks ih =>
    have hrest := ih (fun t ht => hopen t (List.mem_cons_of_mem _ ht)) (start + 1)
    refine .bind (linkTask_moves _ _ _ (hopen task List.mem_cons_self)) fun saved _ => ?_
    split
    · exact hrest
    · refine .leaves_bind (logRecoveredAssignment_leavesTasks _ _ _ _) fun _ => ?_
      refine .leaves_bind (ensureAssignmentNotification_leavesTasks _ _ _) fun _ => ?_
      exact .bind hrest fun _ _ => .answer _

theorem recoverBatches_moves (clock : Nat → Instant) (userId employeeId : Int) (n : Nat) :
    MovesTasks .linking (recoverBatches clock userId employeeId n) fun _ => True := by
  induction n with
  | zero => exact .answer _
  | succ n ih =>
    have hlist : MovesTasks .linking
        (listOpenAssignedToEmployeeWithoutUser employeeId registrationRecoveryTaskBatchSize)
        fun tasks => ∀ t ∈ tasks, t.status ≠ .cancelled := by
      refine .select fun db tasks htasks t ht hc => ?_
      cases htasks
      have hmem := List.mem_mergeSort.mp (List.mem_of_mem_take ht)
      obtain ⟨r, hr, rfl⟩ := List.mem_map.mp hmem
      have hterminal := (of_decide_eq_true (List.mem_filter.mp hr).2).2.2
      rw [toTask_status] at hc
      rw [hc] at hterminal
      exact hterminal rfl
    refine .bind hlist fun tasks hopen => ?_
    split
    · exact .answer _
    · refine .bind (recoverTaskBatch_moves _ _ _ _ hopen _) fun count _ => ?_
      split
      · exact .answer _
      · exact ih

theorem moves (toLowercase : String → String) (clock : Nat → Instant) (message : IncomingMessage)
    (decision : RegistrationLinkDecision) :
    MovesTasks .linking (executeWithLinkDecision toLowercase clock message decision) fun _ => True := by
  refine .leaves_bind (LeavesTasks.of_reads (resolveEmployeeForDecision_reads _ _ _)) fun employee => ?_
  refine .leaves_bind (UserRepository.upsertFromMessage_leavesTasks _) fun actor => ?_
  have hrecover : MovesTasks .linking (recoverPendingAssignments clock actor employee) fun _ => True := by
    unfold recoverPendingAssignments
    split
    · exact .answer _
    · exact .lift_bind fun userId _ => recoverBatches_moves _ _ _ _
  exact .bind hrecover fun _ _ => .answer _

end RegisterUser

/-! ## Users -/

namespace UserRepository

theorem tasks_updateReturning (q : Stored UserColumns → Bool) (f : UserColumns → UserColumns)
    (hf : KeepsKeys f) (missing : AppError) (db : Db) :
    (updateReturning q f hf missing db).2.tasks = db.tasks := by
  unfold updateReturning
  split <;> rfl

theorem ensureSession_leavesTasks (message : IncomingMessage) : LeavesTasks (ensureSession message) := by
  refine Prog.Within.perform fun db => ?_
  unfold ensureOnboardingSession
  split
  · exact tasks_updateReturning _ _ _ _ db
  · rfl

theorem saveProgress_leavesTasks (userId expectedVersion : Int) (nextState : OnboardingState)
    (firstName lastName : Option String) (now : Instant) :
    LeavesTasks (saveProgress userId expectedVersion nextState firstName lastName now) :=
  Prog.Within.perform fun db => tasks_updateReturning _ _ _ _ db

theorem complete_leavesTasks (userId expectedVersion : Int) (firstName lastName : String)
    (linkedEmployeeId : Option Int) (now : Instant) :
    LeavesTasks (complete userId expectedVersion firstName lastName linkedEmployeeId now) :=
  Prog.Within.perform fun db => tasks_updateReturning _ _ _ _ db

theorem findByTelegramId_reads (telegramId : Int) : (findByTelegramId telegramId).Within Eq :=
  select_reads _ _

end UserRepository

/-! ## Onboarding -/

namespace Onboarding

variable (chars : CharClass) (toLowercase : String → String) (clock : Nat → Instant)
  (message : IncomingMessage)

theorem handleStart_leavesTasks : LeavesTasks (handleStart message) :=
  .bind (UserRepository.ensureSession_leavesTasks _) fun _ => .pure _

theorem requireActiveSession_leavesTasks (telegramId : Int) :
    LeavesTasks (requireActiveSession telegramId) :=
  .bind (LeavesTasks.of_reads (UserRepository.findByTelegramId_reads _)) fun _ => .lift _

theorem finish_moves (user : User) (first last : String) (decision : RegistrationLinkDecision) :
    MovesTasks .linking (finish toLowercase clock message user first last decision) fun _ => True := by
  refine .lift_bind fun userId _ => .leaves_bind (UserRepository.complete_leavesTasks _ _ _ _ _ _) ?_
  exact fun _ => .bind (RegisterUser.moves _ _ _ _) fun _ _ => .answer _

theorem handleText_moves (text : String) :
    MovesTasks .linking (handleText chars toLowercase clock message text) fun _ => True := by
  refine .leaves_bind (requireActiveSession_leavesTasks _) fun user => ?_
  split
  · unfold stepFirstName
    split
    · exact .answer _
    · split
      · exact .answer _
      · exact .lift_bind fun _ _ => .leaves_bind (UserRepository.saveProgress_leavesTasks _ _ _ _ _ _)
          fun _ => .answer _
  · unfold stepLastName
    split
    · exact .answer _
    · split
      · exact .answer _
      · refine .lift_bind fun _ _ => .leaves_bind (UserRepository.saveProgress_leavesTasks _ _ _ _ _ _) ?_
        refine fun updated => .leaves_bind (.of_reads (RegisterUser.previewLinking_reads _ _)) fun preview => ?_
        split
        · exact finish_moves _ _ _ _ _ _ _
        · exact .answer _
  · exact .answer _
  · exact .answer _

theorem handleLinkSelection_moves (selection : OnboardingLinkSelection) :
    MovesTasks .linking (handleLinkSelection toLowercase clock message selection) fun _ => True :=
  .leaves_bind (requireActiveSession_leavesTasks _) fun _ => .lift_bind fun _ _ => .lift_bind fun _ _ =>
    finish_moves _ _ _ _ _ _ _

end Onboarding

/-! ## Administration -/

namespace AdminUseCase

theorem getUser_reads (actor : User) (targetUserId : Int) : (getUser actor targetUserId).Within Eq :=
  .bind (.lift _) fun _ => .bind (select_reads _ _) fun _ => .lift _

theorem emitAudit_leavesTasks (entry : AdminAuditEntry) : LeavesTasks (emitAudit entry) := by
  have happend : LeavesTasks (AdminAuditLogRepository.append entry) := write_within fun _ => rfl
  exact .bind happend.attempt fun _ => .pure _

theorem changeRole_leavesTasks (now : Instant) (actor : User) (targetUserId : Int) (nextRole : UserRole) :
    LeavesTasks (changeRole now actor targetUserId nextRole) := by
  have hset : LeavesTasks (.perform (.userSetRole targetUserId)
      (UserRepository.setRole targetUserId nextRole now)) := by
    refine Prog.Within.perform fun db => ?_
    unfold UserRepository.setRole
    split
    · rfl
    · split
      · rfl
      · exact UserRepository.tasks_updateReturning _ _ _ _ db
  refine .bind (LeavesTasks.of_reads (getUser_reads _ _)) fun _ => .bind (.lift _) fun _ => .bind (.lift _) fun _ => ?_
  exact .bind hset fun _ => .bind (emitAudit_leavesTasks _) fun _ => .pure _

theorem deactivateUser_leavesTasks (now : Instant) (actor : User) (targetUserId : Int) :
    LeavesTasks (deactivateUser now actor targetUserId) := by
  have hset : LeavesTasks (.perform (.userDeactivate targetUserId)
      (UserRepository.deactivate targetUserId now)) := by
    refine Prog.Within.perform fun db => ?_
    unfold UserRepository.deactivate
    split
    · rfl
    · split
      · rfl
      · exact UserRepository.tasks_updateReturning _ _ _ _ db
  refine .bind (LeavesTasks.of_reads (getUser_reads _ _)) fun _ => .bind (.lift _) fun _ => .bind (.lift _) fun _ => ?_
  exact .bind hset fun _ => .bind (emitAudit_leavesTasks _) fun _ => .pure _

theorem reactivateUser_leavesTasks (now : Instant) (actor : User) (targetUserId : Int) :
    LeavesTasks (reactivateUser now actor targetUserId) := by
  have hset : LeavesTasks (.perform (.userReactivate targetUserId)
      (UserRepository.reactivate targetUserId now)) :=
    Prog.Within.perform fun db => UserRepository.tasks_updateReturning _ _ _ _ db
  refine .bind (LeavesTasks.of_reads (getUser_reads _ _)) fun _ => .bind (.lift _) fun _ => .bind (.lift _) fun _ => ?_
  exact .bind hset fun _ => .bind (emitAudit_leavesTasks _) fun _ => .pure _

end AdminUseCase

end TaskBot
