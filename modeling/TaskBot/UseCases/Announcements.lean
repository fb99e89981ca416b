import TaskBot.UseCases.NoticeQueue

/-!
# Who has been told

A call that changes a task ends with the notices for those the change concerns.  Other calls run in between, and
an insert of theirs under the same key would be in the way of it.

* `SystemStep`: what any statement of the system does to tasks and notices; `call_safe`: every call keeps to it;
* `Announces`: what holds when a program answers, whatever the others do in the meantime;
* `Heard`: who has been told what when a call has answered; `call_announces`, `answered_is_heard`;
* `alerts_exact`: over any history, whom the overdue alerts reach, and that they reach nobody else.
-/

namespace TaskBot

open Sql Calls TaskRepository

/-! ## What a statement of the system does -/

/-- Tasks only move up, and notices are kept. -/
def SystemStep (db db' : Db) : Prop := Follows db db' ∧ KeepsNotices (fun _ => True) db db'

theorem SystemStep.refl (db : Db) : SystemStep db db := ⟨.refl db, .refl db⟩

/-- The program answers only when `T` holds, from `P` on, whatever steps the others make between its own. -/
def Announces (P : Db → Prop) {α : Type} (p : Proc α) (T : α → Db → Prop) : Prop :=
  Safe SystemStep SystemStep P p fun r db => ∀ a, r = .ok a → T a db

variable {P P' : Db → Prop} {α β : Type} {T T' : α → Db → Prop}

/-- A fact about the tasks is as stable as before. -/
theorem stable_follows (h : Stable Follows P) : Stable SystemStep P := fun db db' hstep => h db db' hstep.1

theorem stable_named : Stable SystemStep NoticesNamed := fun _ _ hstep => hstep.2.named

/-- What has been told stays told. -/
theorem stable_told {k : NoticeKey} (hst : Stable SystemStep P) (hn : ∀ db, P db → NoticesNamed db) :
    Stable SystemStep fun db => Told k db ∧ P db :=
  fun db db' hstep h => ⟨hstep.2.told (hn db h.2) h.1, hst db db' hstep h.2⟩

namespace Announces

theorem weaken {p : Proc α} (h : Announces P p T) (hp : ∀ db, P' db → P db) (ht : ∀ a db, T a db → T' a db) :
    Announces P' p T' :=
  Safe.weaken h hp fun _ _ hq a ha => ht a _ (hq a ha)

theorem pure {a : α} (h : ∀ db, P db → T a db) : Announces P (Pure.pure a : Proc α) T :=
  Safe.pure fun db hp _ hb => Except.ok.inj hb ▸ h db hp

theorem fail (e : AppError) : Announces P (Prog.fail e : Proc α) T := Safe.fail fun _ _ _ ha => nomatch ha

theorem bind {p : Proc α} {f : α → Proc β} {T' : β → Db → Prop} (hp : Announces P p T)
    (hf : ∀ a, Announces (T a) (f a) T') : Announces P (p >>= f) T' :=
  Safe.bind hp (fun a => (hf a).weaken (fun _ h => h a rfl) fun _ _ h => h) fun _ _ _ _ ha => nomatch ha

theorem lift_bind {r : AppResult α} {f : α → Proc β} {T' : β → Db → Prop}
    (hf : ∀ a, r = .ok a → Announces P (f a) T') : Announces P (.lift r >>= f) T' :=
  Safe.lift_bind hf fun _ _ _ _ _ ha => nomatch ha

/-- A program beside the tasks keeps what holds. -/
theorem beside {p : Proc α} (hst : Stable SystemStep P) (htasks : LeavesTasks p)
    (hqueue : KeepsQueue (fun _ => True) p) : Announces P p fun _ => P := by
  have hstep : p.Within SystemStep := (htasks.and hqueue).mono fun _ _ h => ⟨.of_tasks h.1, h.2⟩
  have hsafe : Safe SystemStep SystemStep P p fun _ => P :=
    Safe.of_within hstep .refl (fun _ _ h => h) (fun _ _ h => h) hst
  exact hsafe.weaken (fun _ h => h) fun _ _ h _ _ => h

theorem of_and_const {c : Prop} {p : Proc α} (h : c → Announces P p T) : Announces (fun db => c ∧ P db) p T :=
  Safe.of_and_const h

/-- A read tells `C` of its answer, and the stable `K` of the database. -/
theorem select_bind {site : Site} {ans : Db → AppResult α} {f : α → Proc β} {T : β → Db → Prop} {C : α → Prop}
    {K : α → Db → Prop} (hst : Stable SystemStep P) (hK : ∀ a, Stable SystemStep (K a))
    (hans : ∀ db a, P db → ans db = .ok a → C a ∧ K a db)
    (hf : ∀ a, C a → Announces (fun db => K a db ∧ P db) (f a) T) : Announces P (select site ans >>= f) T := by
  have hread : Announces P (select site ans) fun a db => C a ∧ K a db ∧ P db := by
    refine Safe.read .refl ?_ ?_ fun _ _ _ _ ha => nomatch ha
    · intro r db db' hstep h a ha
      obtain ⟨hc, hk, hp⟩ := h a ha
      exact ⟨hc, hK a db db' hstep hk, hst db db' hstep hp⟩
    · intro db hp a ha
      obtain ⟨hc, hk⟩ := hans db a hp ha
      exact ⟨hc, hk, hp⟩
  exact .bind hread fun a => .of_and_const (hf a)

/-- The update of a known task stores it. -/
theorem update {base task : Task} (hst : Stable SystemStep P) (hk : ∀ db, P db → Known base db)
    (hs : task.SameDraft base) (hv : task.version = base.version + 1) :
    Announces P (TaskRepository.update task) fun saved db => saved = task ∧ Known task db ∧ P db := by
  refine Safe.perform ?_ fun db hp fault => ?_
  · intro r db db' hstep h saved hr
    obtain ⟨hsaved, hknown, hp⟩ := h saved hr
    exact ⟨hsaved, known_stable task db db' hstep.1 hknown, hst db db' hstep hp⟩
  · have hidle : SystemStep db db := .refl db
    rcases updateTask_known (hk db hp) hs (.inr hv) with h | ⟨hv, ⟨u, hb⟩, h, hu⟩
    · cases fault with
      | none =>
        rw [Fault.apply_none, h]
        exact ⟨hidle, fun _ ha => nomatch ha⟩
      | before err => exact ⟨hidle, fun _ ha => nomatch ha⟩
      | after err =>
        rw [Fault.apply_after, h]
        exact ⟨hidle, fun _ ha => nomatch ha⟩
    · have hstep : SystemStep db (updated task db) := ⟨follows_updated hv hb hu, .of_same rfl⟩
      cases fault with
      | none =>
        rw [Fault.apply_none, h]
        refine ⟨hstep, fun saved hsaved => ⟨(Except.ok.inj hsaved).symm, .of_stored hu, hst _ _ hstep hp⟩⟩
      | before err => exact ⟨hidle, fun _ ha => nomatch ha⟩
      | after err =>
        rw [Fault.apply_after, h]
        exact ⟨hstep, fun _ ha => nomatch ha⟩

/-- **An insert that answers has told**, whoever was first under the key. -/
theorem enqueue {k : NoticeKey} {n : Notification} (hk : k.Names n) (hst : Stable SystemStep P)
    (hn : ∀ db, P db → NoticesNamed db) (slot : Nat) :
    Announces P (NotificationRepository.enqueue slot n) fun _ db => Told k db ∧ P db := by
  have hst' := stable_told (k := k) hst hn
  have hwrite : Announces P (write (.notificationInsert n.dedupeKey slot) fun db => ((), db.insertNotification n))
      fun _ db => Told k db ∧ P db := by
    refine Safe.perform ?_ fun db hp fault => ?_
    · intro r db db' hstep h a ha
      exact hst' db db' hstep (h a ha)
    · have hstep : SystemStep db (db.insertNotification n) := ⟨.of_tasks rfl, .insert hk trivial db⟩
      cases fault with
      | none => exact ⟨hstep, fun _ _ => ⟨insert_told hk (hn db hp), hst _ _ hstep hp⟩⟩
      | before err => exact ⟨.refl db, fun _ ha => nomatch ha⟩
      | after err => exact ⟨hstep, fun _ ha => nomatch ha⟩
  refine .bind hwrite fun _ => ?_
  refine .select_bind (C := fun _ => True) hst' (fun _ => .const _ True) (fun _ _ _ _ => ⟨trivial, trivial⟩) fun a _ => ?_
  exact .lift_bind fun _ _ => .pure fun _ h => h.2

/-- One turn of the loop over creator and assignee. -/
theorem participant {task : Task} {next : TaskStatus} {actorId : Option Int} (hst : Stable SystemStep P)
    (hn : ∀ db, P db → NoticesNamed db) (slot : Nat) (now : Instant) (recipient : Option Int) :
    Announces P (UpdateTaskStatus.notifyParticipant slot actorId task next now recipient) fun _ db =>
      (∀ u, recipient = some u → some u ≠ actorId → Told (.status task.taskUid u next task.version) db) ∧ P db := by
  unfold UpdateTaskStatus.notifyParticipant
  split
  · exact .pure fun db hp => ⟨(fun u hu => nomatch hu), hp⟩
  · next u =>
    split
    · next hactor =>
      refine .pure fun db hp => ⟨fun v hv hne => absurd ?_ hne, hp⟩
      rw [← Option.some.inj hv]
      exact hactor
    · refine .bind (enqueue (NoticeKey.names_participant task next u now) hst hn slot) fun _ => .pure fun db h => ?_
      refine ⟨fun v hv _ => ?_, h.2⟩
      rw [← Option.some.inj hv]
      exact h.1

theorem participants {task : Task} {next : TaskStatus} {actorId : Option Int} (hst : Stable SystemStep P)
    (hn : ∀ db, P db → NoticesNamed db) (clock : Nat → Instant) :
    Announces P (UpdateTaskStatus.enqueueParticipantNotifications clock actorId task next) fun _ db =>
      (∀ u ∈ task.participants, some u ≠ actorId → Told (.status task.taskUid u next task.version) db) ∧ P db := by
  refine .bind (participant hst hn 0 (clock 2) (some task.createdByUserId)) fun _ => ?_
  have hst' : Stable SystemStep fun db => (∀ u, some task.createdByUserId = some u → some u ≠ actorId →
      Told (.status task.taskUid u next task.version) db) ∧ P db :=
    fun db db' hstep h => ⟨fun u hu hne => hstep.2.told (hn db h.2) (h.1 u hu hne), hst db db' hstep h.2⟩
  refine (participant hst' (fun db h => hn db h.2) 1 (clock 3) task.assignedToUserId).weaken (fun _ h => h)
    fun _ db h => ⟨fun u hu hne => ?_, h.2.2⟩
  rcases List.mem_cons.mp hu with rfl | hassigned
  · exact h.2.1 _ rfl hne
  · exact h.1 u (Option.mem_toList.mp hassigned) hne

theorem creator {task : Task} {actorId : Int} (hst : Stable SystemStep P) (hn : ∀ db, P db → NoticesNamed db)
    (reason : String) (now : Instant) :
    Announces P (ReportTaskBlocker.notifyCreator task reason actorId now) fun _ db =>
      (task.createdByUserId ≠ actorId → Told (.blocked task.taskUid task.createdByUserId task.version) db) ∧ P db := by
  unfold ReportTaskBlocker.notifyCreator
  split
  · next hself => exact .pure fun db hp => ⟨fun hne => absurd hself hne, hp⟩
  · refine .bind (enqueue (NoticeKey.names_blocker task reason now) hst hn 0) fun _ => .pure fun db h => ?_
    exact ⟨fun _ => h.1, h.2⟩

theorem newAssignee {task : Task} (hst : Stable SystemStep P) (hn : ∀ db, P db → NoticesNamed db) (now : Instant) :
    Announces P (ReassignTask.notifyNewAssignee task now) fun _ db =>
      (∀ u, task.assignedToUserId = some u → Told (.reassigned task.taskUid u task.version) db) ∧ P db := by
  unfold ReassignTask.notifyNewAssignee
  split
  · next hnone => exact .pure fun db hp => ⟨(fun u hu => nomatch hnone.symm.trans hu), hp⟩
  · next u hsome =>
    refine .bind (enqueue (NoticeKey.names_reassignment task u now) hst hn 0) fun _ => .pure fun db h => ?_
    refine ⟨fun v hv => ?_, h.2⟩
    obtain rfl : u = v := Option.some.inj (hsome.symm.trans hv)
    exact h.1

end Announces

/-! ## Who has been told what -/

/-- The task a call has stored: a later version than the one at the start. -/
structure Saved (start : Db) (uid : Uuid) (t : Task) (db : Db) : Prop where
  taskUid : t.taskUid = uid
  known : Known t db
  later : ∀ t₀, start.stored uid = some t₀ → t₀.version < t.version

/-- Who has been told what, when the call has answered. -/
def Heard (start : Db) : QueueCall → QueueAnswer → Db → Prop
  | .trail (.useCase (.updateStatus _ actor uid _)), .status summary, db =>
      ∃ t, Saved start uid t db ∧ t.status = summary.status ∧
        ∀ u ∈ t.participants, some u ≠ actor.id → Told (.status uid u t.status t.version) db
  | .trail (.useCase (.reportBlocker _ actor uid _)), .status summary, db =>
      ∃ t, Saved start uid t db ∧ t.status = summary.status ∧
        (some t.createdByUserId ≠ actor.id → Told (.blocked uid t.createdByUserId t.version) db)
  | .trail (.useCase (.reassign _ _ _ uid _ _)), .reassignment (.reassigned summary), db =>
      ∃ t, Saved start uid t db ∧ t.status = summary.status ∧
        ∀ u, t.assignedToUserId = some u → Told (.reassigned uid u t.version) db
  | _, _, _ => True

/-- The notices are named, and the task is at least as far as at the start. -/
structure Under (start : Db) (uid : Uuid) (db : Db) : Prop where
  named : NoticesNamed db
  least : ∀ t₀, start.stored uid = some t₀ → ∃ t, db.stored uid = some t ∧ t₀.version ≤ t.version

theorem Under.start {db : Db} (h : NoticesNamed db) (uid : Uuid) : Under db uid db :=
  ⟨h, fun t₀ ht => ⟨t₀, ht, Int.le_refl _⟩⟩

theorem under_stable (start : Db) (uid : Uuid) : Stable SystemStep (Under start uid) := by
  intro db db' hstep h
  refine ⟨hstep.2.named h.named, fun t₀ ht₀ => ?_⟩
  obtain ⟨t, ht, hle⟩ := h.least t₀ ht₀
  obtain ⟨t', ht', hmove⟩ := hstep.1 uid t ht
  refine ⟨t', ht', ?_⟩
  rcases hmove with hsame | hlt
  · rw [hsame.version]
    exact hle
  · omega

section

variable {start : Db} {uid : Uuid}

/-- Reading the task: it is known from then on, and no older than at the start. -/
theorem Announces.loadTask {f : Task → Proc β} {T : β → Db → Prop}
    (hf : ∀ t, t.taskUid = uid → (∀ t₀, start.stored uid = some t₀ → t₀.version ≤ t.version) →
      Announces (fun db => Known t db ∧ Under start uid db) (f t) T) :
    Announces (Under start uid) (TaskBot.loadTask uid >>= f) T := by
  rw [TaskBot.loadTask, Prog.bind_assoc]
  let C : Option Task → Prop := fun found => ∀ t, found = some t →
    t.taskUid = uid ∧ ∀ t₀, start.stored uid = some t₀ → t₀.version ≤ t.version
  refine .select_bind (C := C) (K := fun found => Gated.KnownAnswer found) (under_stable start uid)
    (fun found => stable_follows (Gated.knownAnswer_stable found)) (fun db found hunder h => ?_) fun found hc => ?_
  · cases h
    refine ⟨fun t ht => ⟨Db.stored_taskUid ht, fun t₀ ht₀ => ?_⟩, fun t ht => .of_stored ht⟩
    obtain ⟨t', ht', hle⟩ := hunder.least t₀ ht₀
    obtain rfl : t' = t := Option.some.inj (ht'.symm.trans ht)
    exact hle
  · refine .lift_bind fun t ht => ?_
    cases found with
    | none => cases ht
    | some t' =>
      cases ht
      obtain ⟨huid, hle⟩ := hc t rfl
      exact (hf t huid hle).weaken (fun db h => ⟨h.1 t rfl, h.2⟩) fun _ _ h => h

/-- Storing the next version of a known task. -/
theorem Announces.updateKnown {base task : Task} {f : Task → Proc β} {T : β → Db → Prop}
    (huid : base.taskUid = uid) (hle : ∀ t₀, start.stored uid = some t₀ → t₀.version ≤ base.version)
    (hs : task.SameDraft base) (hv : task.version = base.version + 1)
    (hf : Announces (fun db => Saved start uid task db ∧ Under start uid db) (f task) T) :
    Announces (fun db => Known base db ∧ Under start uid db) (TaskRepository.update task >>= f) T := by
  have hst : Stable SystemStep fun db => Known base db ∧ Under start uid db :=
    (stable_follows (known_stable base)).and (under_stable start uid)
  refine .bind (.update hst (fun _ h => h.1) hs hv) fun saved => .of_and_const ?_
  rintro rfl
  refine hf.weaken (fun db h => ⟨⟨hs.taskUid.trans huid, h.1, fun t₀ ht₀ => ?_⟩, h.2.2⟩) fun _ _ h => h
  have hbase := hle t₀ ht₀
  omega

theorem saved_stable (start : Db) (uid : Uuid) (task : Task) :
    Stable SystemStep fun db => Saved start uid task db ∧ Under start uid db := by
  intro db db' hstep h
  exact ⟨⟨h.1.taskUid, known_stable task db db' hstep.1 h.1.known, h.1.later⟩, under_stable start uid db db' hstep h.2⟩

theorem updateStatus_announces (clock : Nat → Instant) (actor : User) (requested : TaskStatus) :
    Announces (Under start uid) (UpdateTaskStatus.execute clock actor uid requested) fun summary db =>
      Heard start (.trail (.useCase (.updateStatus clock actor uid requested))) (.status summary) db := by
  refine .loadTask fun task huid hle => .lift_bind fun next _ => .lift_bind fun _ _ => ?_
  refine .lift_bind fun updatedTask hup => ?_
  obtain ⟨-, rfl⟩ := Task.transitionTo_ok hup
  refine .updateKnown huid hle (task.advanced_sameDraft next _) rfl ?_
  have hst := saved_stable start uid (task.advanced next (clock 0))
  refine .bind (.beside hst (UpdateTaskStatus.logStatusChange_leavesTasks _ _ _ _ _)
    (.bind (.lift _) fun _ => .bind (KeepsQueue.append _) fun _ => .pure _)) fun _ => ?_
  refine .bind (Announces.participants hst (fun _ h => h.2.named) clock) fun _ => .pure fun db h => ?_
  exact ⟨_, h.2.1, rfl, fun u hu hne => h.2.1.taskUid ▸ h.1 u hu hne⟩

theorem reportBlocker_announces (clock : Nat → Instant) (actor : User) (reason : String) :
    Announces (Under start uid) (ReportTaskBlocker.execute clock actor uid reason) fun summary db =>
      Heard start (.trail (.useCase (.reportBlocker clock actor uid reason))) (.status summary) db := by
  refine .lift_bind fun actorId hactor => .loadTask fun task huid hle => .lift_bind fun _ _ => ?_
  refine .lift_bind fun updatedTask hup => ?_
  obtain ⟨-, htask⟩ := Task.applyBlocker_ok hup
  have hd : updatedTask.SameDraft task := by
    rw [htask]
    constructor <;> rfl
  have hv : updatedTask.version = task.version + 1 := by
    rw [htask]
    rfl
  refine .updateKnown huid hle hd hv (.lift_bind fun taskId _ => .lift_bind fun comment _ => ?_)
  have hst := saved_stable start uid updatedTask
  refine .bind (.beside hst (create_leavesTasks comment) (KeepsQueue.writes fun _ => rfl)) fun stored => ?_
  refine .bind (.beside hst (append_leavesTasks _) (KeepsQueue.append _)) fun _ => ?_
  refine .bind (.creator hst (fun _ h => h.2.named) _ _) fun _ => .pure fun db h => ?_
  refine ⟨updatedTask, h.2.1, rfl, fun hne => h.2.1.taskUid ▸ h.1 fun hself => hne ?_⟩
  rw [hself, okOrElse_ok hactor]

theorem reassign_announces (clock : Nat → Instant) (ranking : NameRanking) (actor : User) (query : String)
    (decision : ReassignAssigneeDecision) :
    Announces (Under start uid) (ReassignTask.executeWithDecision clock ranking actor uid query decision)
      fun outcome db => Heard start (.trail (.useCase (.reassign clock ranking actor uid query decision)))
        (.reassignment outcome) db := by
  refine .lift_bind fun actorId _ => .loadTask fun task huid hle => .lift_bind fun _ _ => ?_
  have hst : Stable SystemStep fun db => Known task db ∧ Under start uid db :=
    (stable_follows (known_stable task)).and (under_stable start uid)
  refine .bind (.beside hst (.of_reads (ReassignTask.resolve_reads _ _ _))
    (KeepsQueue.reads (ReassignTask.resolve_reads _ _ _))) fun resolution => ?_
  cases resolution with
  | clarificationRequired request => exact .pure fun _ _ => trivial
  | resolved resolved =>
    refine .bind (T := fun summary db => Heard start (.trail (.useCase (.reassign clock ranking actor uid query
      decision))) (.reassignment (.reassigned summary)) db) (.lift_bind fun reassignedTask hup => ?_)
      fun _ => .pure fun _ h => h
    obtain ⟨-, -, hv, -, hd⟩ := Task.reassign_ok hup
    refine .updateKnown huid hle hd hv (.lift_bind fun taskId _ => ?_)
    have hst := saved_stable start uid reassignedTask
    refine .bind (.beside hst (append_leavesTasks _) (KeepsQueue.append _)) fun _ => ?_
    refine .bind (.newAssignee hst (fun _ h => h.2.named) _) fun _ => .pure fun db h => ?_
    exact ⟨reassignedTask, h.2.1, rfl, fun u hu => h.2.1.taskUid ▸ h.1 u hu⟩

end

/-! ## Every call -/

/-- A program that nobody waits for keeps to the steps of the system. -/
theorem Announces.of_steps {p : Proc α} (hp : p.Within SystemStep) : Announces (fun _ => True) p fun _ _ => True := by
  have hsafe : Safe SystemStep SystemStep (fun _ => True) p fun _ _ => True :=
    Safe.of_within hp .refl (fun _ _ h => h) (fun _ _ h => h) (.const _ True)
  exact hsafe.weaken (fun _ h => h) fun _ _ _ _ _ => trivial

theorem Announces.of_gated {call : UseCaseCall} {p : Proc α} (hg : Gated call (fun _ => True) p)
    {A : NoticeKey → Prop} (hqueue : KeepsQueue A p) : Announces (fun _ => True) p fun _ _ => True := by
  have hboth : Safe SystemStep (fun db db' => Gate call db db' ∧ KeepsNotices A db db') (fun _ => True) p
      fun _ _ => True := Safe.and_within hg hqueue (fun _ _ h => h.1) .refl
  have hsafe : Safe SystemStep SystemStep (fun _ => True) p fun _ _ => True :=
    hboth.mono fun _ _ h => ⟨h.1.follows, h.2.mono fun _ _ => trivial⟩
  exact hsafe.weaken (fun _ h => h) fun _ _ _ _ _ => trivial

theorem Announces.of_trail {p : Proc α} (hp : LeavesTrail 0 p) {A : NoticeKey → Prop} (hqueue : KeepsQueue A p) :
    Announces (fun _ => True) p fun _ _ => True :=
  .of_steps ((Prog.Within.and hp hqueue).mono fun _ _ h => ⟨h.1.rely.follows, h.2.mono fun _ _ => trivial⟩)

/-- What a call announces it announces in its answer. -/
theorem Announces.answering {answer : α → QueueAnswer} {p : Proc α} {T : QueueAnswer → Db → Prop}
    (hp : Announces P p fun a => T (answer a)) : Announces P (TaskBot.answering answer p) T :=
  .bind hp fun _ => .pure fun _ h => h

/-- **Every call announces** what it has to. -/
theorem call_announces {start : Db} (hnamed : NoticesNamed start) (call : QueueCall) :
    ∃ P, Stable SystemStep P ∧ P start ∧ Announces P call.program (Heard start call) := by
  have hquiet : ∀ {α : Type} {answer : α → QueueAnswer} {p : Proc α} {call : QueueCall},
      (∀ a db, Heard start call (answer a) db) → Announces (fun _ => True) p (fun _ _ => True) →
        ∃ P, Stable SystemStep P ∧ P start ∧ Announces P (answering answer p) (Heard start call) :=
    fun hanswer hp => ⟨fun _ => True, .const _ True, trivial, .answering (hp.weaken (fun _ h => h) fun a db _ =>
      hanswer a db)⟩
  have hunder : ∀ {α : Type} {answer : α → QueueAnswer} {p : Proc α} {call : QueueCall} (uid : Uuid),
      Announces (Under start uid) p (fun a => Heard start call (answer a)) →
        ∃ P, Stable SystemStep P ∧ P start ∧ Announces P (answering answer p) (Heard start call) :=
    fun uid hp => ⟨Under start uid, under_stable start uid, .start hnamed uid, .answering hp⟩
  have hst : Stable Follows fun _ => True := .const _ True
  cases call with
  | trail call =>
    cases call with
    | useCase call =>
      cases call with
      | createTask services clock uid message decision =>
        exact hquiet (fun _ _ => trivial) (.of_gated
          (createTask_gated hst (.createTask services clock uid message decision) services clock uid message decision)
          (.createTask services clock uid message decision))
      | updateStatus clock actor uid requested => exact hunder uid (updateStatus_announces clock actor requested)
      | reportBlocker clock actor uid reason => exact hunder uid (reportBlocker_announces clock actor reason)
      | reassign clock ranking actor uid query decision =>
        exact hunder uid (reassign_announces clock ranking actor query decision)
      | register toLowercase clock message decision =>
        exact hquiet (fun _ _ => trivial) (.of_gated (call_gated (.register toLowercase clock message decision))
          (.bind (KeepsQueue.register toLowercase clock message decision) fun _ => .pure _))
      | deliver clock send notification =>
        exact hquiet (fun _ _ => trivial) (.of_gated (call_gated (.deliver clock send notification))
          (.deliver clock send notification))
    | comment clock actor uid body =>
      exact hquiet (fun _ _ => trivial) (.of_trail (.bind (LeavesTrail.comment clock actor uid body) fun _ => .pure _)
        (.bind (KeepsQueue.comment clock actor uid body) fun _ => .pure _))
    | slaTick flagEnabled now today =>
      exact hquiet (fun _ _ => trivial) (.of_trail (.slaTick flagEnabled now today) (.slaTick flagEnabled now today))
    | recurrenceTick lib flagEnabled now uid =>
      exact hquiet (fun _ _ => trivial) (.of_trail (.recurrenceTick lib flagEnabled now uid)
        (.recurrenceTick lib flagEnabled now uid))
    | remindDeadlines today clock =>
      exact hquiet (fun _ _ => trivial) (.of_trail (.remindDeadlines today clock) (.remindDeadlines today clock))
    | summarize today clock =>
      exact hquiet (fun _ _ => trivial) (.of_trail (.summarize today clock) (.summarize today clock))
  | alertOverdue today clock =>
    exact hquiet (fun _ _ => trivial) (.beside (.const _ True) (EnqueueTaskReminders.alertOverdue_leavesTasks today clock)
      (.alertOverdue today clock))

/-- **Whoever is concerned has been told.**  In every interleaving of any calls of the system, with any faults, a
status update, a blocker report or a reassignment that has answered has stored its version of the task, and everybody
it concerns has exactly one notice of that version, then and ever after. -/
theorem answered_is_heard (start : Db) (hnamed : NoticesNamed start) (calls : List QueueCall)
    (sched : List (Nat × Fault AppError)) (call : QueueCall) (answer : QueueAnswer)
    (hanswered : (call, .ret (.ok answer)) ∈ ((startQueue start calls).exec sched).threads) :
    Heard start call answer ((startQueue start calls).exec sched).store := by
  have hheading : (startQueue start calls).Heading SystemStep fun call r db => ∀ a, r = .ok a → Heard start call a db := by
    intro t ht
    obtain ⟨call, -, rfl⟩ := List.mem_map.mp ht
    exact call_announces hnamed call
  exact hheading.ended sched hanswered answer rfl

/-- The assignee of the sample task starts it. -/
def startByAssignee : QueueCall :=
  .trail (.useCase (.updateStatus (fun _ => 0) (sampleActor 2 .user) (sampleUid 1) .inProgress))

def startedSummary : TaskStatusSummary where
  taskUid := sampleUid 1
  publicCode := "T-0001"
  status := .inProgress
  message := "Статус задачи обновлён: created -> in_progress"

theorem start_is_heard : Heard sampleDb startByAssignee (.status startedSummary)
    ((startQueue sampleDb [startByAssignee]).exec (List.replicate 5 (0, .none))).store := by
  refine answered_is_heard sampleDb (named_of_empty rfl) [startByAssignee] (List.replicate 5 (0, .none))
    startByAssignee (.status startedSummary) ?_
  have hthreads : ((startQueue sampleDb [startByAssignee]).exec (List.replicate 5 (0, .none))).threads =
      [(startByAssignee, .ret (.ok (.status startedSummary)))] := by rfl
  rw [hthreads]
  exact List.mem_singleton.mpr rfl

/-! ## Overdue alerts over a history -/

section

open EnqueueTaskReminders

theorem Announces.alertRecipient {t : Task} {days : Int} (hst : Stable SystemStep P)
    (hn : ∀ db, P db → NoticesNamed db) (slot : Nat) (now : Instant) (recipient : Option Int) :
    Announces P (alertRecipient slot t days now recipient) fun _ db =>
      (∀ u, recipient = some u → Told (.overdue t.taskUid u days) db) ∧ P db := by
  unfold EnqueueTaskReminders.alertRecipient
  split
  · exact .pure fun db hp => ⟨(fun u hu => nomatch hu), hp⟩
  · next u =>
    refine .bind (enqueue (NoticeKey.names_alert t u days now) hst hn slot) fun _ => .pure fun db h => ⟨fun v hv => ?_, h.2⟩
    rw [← Option.some.inj hv]
    exact h.1

/-- Everybody who takes part in the task has the alert of the day. -/
def Alerted (today : NaiveDate) (t : Task) (db : Db) : Prop :=
  ∀ u ∈ t.participants, ∀ days, t.deadline = some (today - days) → days % 3 = 0 → Told (.overdue t.taskUid u days) db

theorem alerted_stable {today : NaiveDate} {t : Task} (hst : Stable SystemStep P)
    (hn : ∀ db, P db → NoticesNamed db) : Stable SystemStep fun db => Alerted today t db ∧ P db :=
  fun db db' hstep h => ⟨fun u hu days hdeadline hthird => hstep.2.told (hn db h.2) (h.1 u hu days hdeadline hthird),
    hst db db' hstep h.2⟩

theorem Announces.alertParticipants {today : NaiveDate} {t : Task} (hst : Stable SystemStep P)
    (hn : ∀ db, P db → NoticesNamed db) (clock : Nat → Instant) :
    Announces P (alertParticipants today clock t) fun _ db => Alerted today t db ∧ P db := by
  unfold EnqueueTaskReminders.alertParticipants
  split
  · next hnone => exact .pure fun db hp => ⟨(fun u _ days hdeadline => nomatch hnone.symm.trans hdeadline), hp⟩
  · next deadline hsome =>
    have hdays : ∀ days, t.deadline = some (today - days) → days = today - deadline := by
      intro days hdeadline
      have hsame : deadline = today - days := Option.some.inj (hsome.symm.trans hdeadline)
      rw [hsame, Int.sub_sub_self]
    split
    · next hother =>
      refine .pure fun db hp => ⟨fun u _ days hdeadline hthird => absurd ?_ hother, hp⟩
      rw [← hdays days hdeadline]
      exact hthird
    · refine .bind (alertRecipient hst hn 0 (clock 0) (some t.createdByUserId)) fun _ => ?_
      have hst' : Stable SystemStep fun db => (∀ u, some t.createdByUserId = some u →
          Told (.overdue t.taskUid u (today - deadline)) db) ∧ P db :=
        fun db db' hstep h => ⟨fun u hu => hstep.2.told (hn db h.2) (h.1 u hu), hst db db' hstep h.2⟩
      refine (alertRecipient hst' (fun db h => hn db h.2) 1 (clock 1) t.assignedToUserId).weaken (fun _ h => h)
        fun _ db h => ⟨fun u hu days hdeadline _ => ?_, h.2.2⟩
      rw [hdays days hdeadline]
      rcases List.mem_cons.mp hu with rfl | hassigned
      · exact h.2.1 _ rfl
      · exact h.1 u (Option.mem_toList.mp hassigned)

theorem Announces.alertAll {today : NaiveDate} (clock : Nat → Nat → Instant) (rounds : List (Task × Nat)) :
    ∀ {P : Db → Prop}, Stable SystemStep P → (∀ db, P db → NoticesNamed db) →
      Announces P (Prog.forEach (fun p => EnqueueTaskReminders.alertParticipants today (clock p.2) p.1) rounds)
        fun _ db => (∀ p ∈ rounds, Alerted today p.1 db) ∧ P db := by
  induction rounds with
  | nil => exact fun _ _ => .pure fun db hp => ⟨(fun p hp => nomatch hp), hp⟩
  | cons p rounds ih =>
    intro P hst hn
    refine .bind (alertParticipants hst hn (clock p.2)) fun _ => ?_
    refine (ih (alerted_stable hst hn) fun db h => hn db h.2).weaken (fun _ h => h) fun _ db h => ⟨fun q hq => ?_, h.2.2⟩
    rcases List.mem_cons.mp hq with rfl | hq
    · exact h.2.1
    · exact h.1 q hq

/-- A run of the worker: its statement fails, or the loop goes over the tasks it answers with. -/
theorem alert_run_cases (today : NaiveDate) (clock : Nat → Instant) (plan : Site → Fault AppError) (db : Db) :
    (∃ e, (enqueueOverdueAlerts today clock).run plan db = (.error e, db)) ∨
    ∃ tasks : List Task, (∀ t ∈ tasks, t ∈ overdueTasks today db) ∧
      ((overdueTasks today db).length ≤ reminderTaskFetchLimit → ∀ t ∈ overdueTasks today db, t ∈ tasks) ∧
      (enqueueOverdueAlerts today clock).run plan db =
        (Prog.forEach (fun p => alertParticipants today (fun j => clock (2 * p.2 + j)) p.1) tasks.zipIdx).run plan db := by
  have hanswer := @mem_overdue today reminderTaskFetchLimit db
  by_cases hsite : plan .taskListDueBetween = .none
  · exact .inr ⟨_, hanswer.1, hanswer.2, Prog.run_bind_ok plan (run_select hsite db)⟩
  · obtain ⟨e, he⟩ := run_select_failed
      (fun db => .ok (((overdueTasks today db).mergeSort byDeadline).take reminderTaskFetchLimit)) hsite db
    exact .inl ⟨e, Prog.run_bind_error plan he⟩

/-- A run that answers has alerted everybody it has to. -/
theorem told_of_run {today : NaiveDate} {clock : Nat → Instant} {plan : Site → Fault AppError} {db : Db}
    (hnamed : NoticesNamed db) (hok : ((enqueueOverdueAlerts today clock).run plan db).1 = .ok ())
    (hmany : (overdueTasks today db).length ≤ reminderTaskFetchLimit) {uid : Uuid} {u days : Int}
    (h : Overdue today uid u days db) :
    Told (.overdue uid u days) ((enqueueOverdueAlerts today clock).run plan db).2 := by
  rcases alert_run_cases today clock plan db with ⟨e, hrun⟩ | ⟨tasks, -, hall, hrun⟩
  · rw [hrun] at hok
    cases hok
  · rw [hrun] at hok ⊢
    have hloop : Announces NoticesNamed (Prog.forEach (fun p => alertParticipants today
        (fun j => clock (2 * p.2 + j)) p.1) tasks.zipIdx) fun _ db =>
          (∀ p ∈ tasks.zipIdx, Alerted today p.1 db) ∧ NoticesNamed db :=
      .alertAll (fun i j => clock (2 * i + j)) tasks.zipIdx stable_named fun _ h => h
    obtain ⟨halerted, -⟩ := Safe.run hloop plan hnamed () hok
    obtain ⟨t, ht, rfl, hdeadline, hthird, hmem⟩ := h
    obtain ⟨k, hk⟩ := List.mem_iff_getElem?.mp (hall hmany t ht)
    exact halerted (t, k) (List.mk_mem_zipIdx_iff_getElem?.mpr hk) u hmem days hdeadline hthird

/-- A run stores no alert but those it has to. -/
theorem told_run {today : NaiveDate} {clock : Nat → Instant} {plan : Site → Fault AppError} {db : Db} {uid : Uuid}
    {u days : Int} (hnamed : NoticesNamed db)
    (htold : Told (.overdue uid u days) ((enqueueOverdueAlerts today clock).run plan db).2) :
    Told (.overdue uid u days) db ∨ Overdue today uid u days db := by
  rcases alert_run_cases today clock plan db with ⟨e, hrun⟩ | ⟨tasks, hdue, -, hrun⟩
  · rw [hrun] at htold
    exact .inl htold
  · rw [hrun] at htold
    have hkeeps := Prog.run_within plan KeepsNotices.refl (fun _ _ _ => KeepsNotices.trans)
      (@KeepsQueue.alertAll today (fun i j => clock (2 * i + j)) tasks) db
    obtain ⟨r', ⟨hr', hk⟩, -⟩ := htold
    rcases hkeeps.fresh r' hr' with ⟨r, hr, hsame⟩ | ⟨k, ⟨t, ht, v, hv, days', hdeadline, hthird, rfl⟩, hk'⟩
    · exact .inl ((told_iff hnamed).mpr ⟨r, hr, hsame.key.symm.trans hk.key⟩)
    · cases hk'.unique hk
      exact .inr ⟨t, hdue t ht, rfl, hdeadline, hthird, hv⟩

end

/-- A call that runs on its own, with the faults of its statements. -/
abbrev QueueTurn := QueueCall × (Site → Fault AppError)

/-- The database after the runs, the first one first. -/
def replayRuns (history : List QueueTurn) (db : Db) : Db :=
  history.foldl (fun db run => (run.1.program.run run.2 db).2) db

section

open EnqueueTaskReminders

theorem run_answering {α : Type} (answer : α → QueueAnswer) (p : Proc α) (plan : Site → Fault AppError) (db : Db) :
    ((answering answer p).run plan db).2 = (p.run plan db).2 := by
  cases hp : p.run plan db with
  | mk r db' =>
    cases r with
    | ok a => exact congrArg Prod.snd (Prog.run_bind_ok plan hp)
    | error e => exact congrArg Prod.snd (Prog.run_bind_error plan hp)

theorem run_keeps (run : QueueTurn) (db : Db) : KeepsNotices (fun _ => True) db (run.1.program.run run.2 db).2 :=
  Prog.run_within run.2 KeepsNotices.refl (fun _ _ _ => KeepsNotices.trans) (program_keeps run.1) db

theorem replay_keeps (history : List QueueTurn) : ∀ db, KeepsNotices (fun _ => True) db (replayRuns history db) := by
  induction history with
  | nil => exact .refl
  | cons run history ih => exact fun db => (run_keeps run db).trans (ih _)

/-- **The overdue alerts are exact.**  Over any history of calls, with any faults, an alert that was not there at the
start comes from a run on a day on which its recipient took part in the open task, overdue by just these days, a
multiple of three; and whoever did so on the day of a run that answered has the alert, once, if no more than two
hundred tasks were overdue. -/
theorem alerts_exact (start : Db) (hnamed : NoticesNamed start) (history : List QueueTurn) (uid : Uuid) (u days : Int) :
    (Told (.overdue uid u days) (replayRuns history start) → Told (.overdue uid u days) start ∨
      ∃ earlier today clock plan later, history = earlier ++ (.alertOverdue today clock, plan) :: later ∧
        Overdue today uid u days (replayRuns earlier start)) ∧
    ∀ earlier today clock plan later, history = earlier ++ (.alertOverdue today clock, plan) :: later →
      ((enqueueOverdueAlerts today clock).run plan (replayRuns earlier start)).1 = .ok () →
        (overdueTasks today (replayRuns earlier start)).length ≤ reminderTaskFetchLimit →
          Overdue today uid u days (replayRuns earlier start) → Told (.overdue uid u days) (replayRuns history start) := by
  constructor
  · induction history generalizing start with
    | nil => exact fun htold => .inl htold
    | cons run history ih =>
      intro htold
      rcases ih _ ((run_keeps run start).named hnamed) htold with hfirst | ⟨earlier, today, clock, plan, later, rfl, h⟩
      · obtain ⟨call, plan⟩ := run
        cases call with
        | trail call =>
          -- the other calls store no alert
          have hkeeps := Prog.run_within plan KeepsNotices.refl (fun _ _ _ => KeepsNotices.trans) (trail_keeps call) start
          obtain ⟨r', ⟨hr', hk⟩, -⟩ := hfirst
          rcases hkeeps.fresh r' hr' with ⟨r, hr, hsame⟩ | ⟨k, hnot, hk'⟩
          · exact .inl ((told_iff hnamed).mpr ⟨r, hr, hsame.key.symm.trans hk.key⟩)
          · cases hk'.unique hk
            cases hnot
        | alertOverdue today clock =>
          have hstore := run_answering (fun _ => .done) (enqueueOverdueAlerts today clock) plan start
          have htold' : Told (.overdue uid u days) ((enqueueOverdueAlerts today clock).run plan start).2 :=
            hstore ▸ hfirst
          exact (told_run hnamed htold').imp_right fun h => ⟨[], today, clock, plan, history, rfl, h⟩
      · exact .inr ⟨run :: earlier, today, clock, plan, later, rfl, h⟩
  · rintro earlier today clock plan later rfl hok hmany hdue
    have hbefore : NoticesNamed (replayRuns earlier start) := (replay_keeps earlier start).named hnamed
    have htold := told_of_run hbefore hok hmany hdue
    have hsplit : replayRuns (earlier ++ (.alertOverdue today clock, plan) :: later) start =
        replayRuns later ((enqueueOverdueAlerts today clock).run plan (replayRuns earlier start)).2 := by
      rw [replayRuns, List.foldl_append, List.foldl_cons]
      exact congrArg (replayRuns later) (run_answering _ _ _ _)
    rw [hsplit]
    have hafter := run_keeps (.alertOverdue today clock, plan) (replayRuns earlier start)
    have hnamed' : NoticesNamed ((enqueueOverdueAlerts today clock).run plan (replayRuns earlier start)).2 := by
      rw [← run_answering fun _ => QueueAnswer.done]
      exact hafter.named hbefore
    exact (replay_keeps later _).told hnamed' htold

/-- A run in which no statement fails answers. -/
theorem alert_answers (today : NaiveDate) (clock : Nat → Instant) (db : Db) :
    ((enqueueOverdueAlerts today clock).run noFaults db).1 = .ok () := by
  have hone : ∀ slot t days now recipient db,
      Prog.Answers noFaults (alertRecipient slot t days now recipient) db := by
    intro slot t days now recipient db
    cases recipient with
    | none => exact .pure () db
    | some u => exact .bind (answers_enqueue _ _ db) fun _ db' _ => .pure () db'
  have hround : ∀ clock t db, Prog.Answers noFaults (alertParticipants today clock t) db := by
    intro clock t db
    unfold alertParticipants
    split
    · exact .pure () db
    · split
      · exact .pure () db
      · exact .bind (hone _ _ _ _ _ db) fun _ db' _ => hone _ _ _ _ _ db'
  have hloop : ∀ (rounds : List (Task × Nat)) db, Prog.Answers noFaults (Prog.forEach (fun p =>
      alertParticipants today (fun j => clock (2 * p.2 + j)) p.1) rounds) db := by
    intro rounds
    induction rounds with
    | nil => exact .pure ()
    | cons p rounds ih => exact fun db => .bind (hround _ _ db) fun _ db' _ => ih db'
  obtain ⟨_, db', hrun⟩ : Prog.Answers noFaults (enqueueOverdueAlerts today clock) db :=
    .of_run (run_select rfl db) (hloop _ db)
  rw [hrun]

/-- The assignee of the sample task, three days late. -/
theorem late_assignee_alerted : Told (.overdue (sampleUid 1) 2 3)
    (replayRuns [(.alertOverdue 100 fun _ => 0, noFaults)] (Db.withTask lateTask)) := by
  refine (alerts_exact (Db.withTask lateTask) (named_of_empty rfl) [(.alertOverdue 100 fun _ => 0, noFaults)]
    (sampleUid 1) 2 3).2 [] 100 (fun _ => 0) noFaults [] rfl (alert_answers _ _ _) (by decide) ?_
  exact ⟨lateTask, by decide, rfl, rfl, rfl, by decide⟩

end

end TaskBot
