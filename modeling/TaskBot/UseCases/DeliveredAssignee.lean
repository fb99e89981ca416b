import TaskBot.UseCases.ReviewGate

/-!
# Sent to the assignee

A delivered assignment moves its task from created to sent, whoever it was
addressed to.  A notification that outlives a reassignment does so for the task of
the next assignee.

* `DeliveryGate`: what a statement of a delivery may do to the status of a task;
* `LoadsOwnTask`: the condition on the statement that loads the task;
* `sent_to_assignee`: in every run whose deliveries load tasks of their recipients,
  a task is moved to sent only for the delivery to its assignee.
-/

namespace TaskBot

open Sql Calls TaskRepository ProcessNotifications

/-! ## The guarantee and the condition -/

/-- The delivery is the assignment of the task to its present assignee, and the messenger
has taken it. -/
def DeliversTo (call : UseCaseCall) (t : Task) : Prop :=
  ∀ clock send n, call = .deliver clock send n → n.notificationType = .taskAssigned ∧
    n.taskId = t.id ∧ (∃ messageId, send = .ok messageId) ∧
    t.assignedToUserId = some n.recipientUserId

/-- A statement that moves a task to sent belongs to a delivery to its assignee, or to no
delivery at all. -/
def MovesToSent (a : Act Db UseCaseCall) : Prop :=
  ∀ uid t t', a.before.stored uid = some t → t.status ≠ .sent → a.after.stored uid = some t' →
    t'.status = .sent → DeliversTo a.who t'

structure DeliveryGate (call : UseCaseCall) (db db' : Db) : Prop where
  follows : Follows db db'
  moves : MovesToSent ⟨call, db, db'⟩

/-- When a delivery that the messenger takes loads its task, and the task is still created,
the task is assigned to the recipient. -/
def LoadsOwnTask (who : UseCaseCall) (site : Site) (f : Fault AppError) (db : Db) : Prop :=
  ∀ clock messageId n taskId, who = .deliver clock (.ok messageId) n →
    n.notificationType = .taskAssigned → site = .taskFindById taskId → f = .none →
    ∀ r ∈ db.tasks.rows, r.id = taskId → r.val.task.status = .created →
      r.val.task.assignedToUserId = some n.recipientUserId

namespace DeliveryGate

variable {call : UseCaseCall} {db db' : Db}

theorem of_tasks (h : db'.tasks = db.tasks) : DeliveryGate call db db' := by
  refine ⟨.of_stored (Db.stored_congr h), fun uid t t' ht hs ht' hs' => ?_⟩
  rw [Db.stored_congr h, ht] at ht'
  cases ht'
  exact absurd hs' hs

/-- The statements of the other use cases are no deliveries. -/
theorem of_gate (hno : ∀ clock send n, call ≠ .deliver clock send n) (h : Gate call db db') :
    DeliveryGate call db db' :=
  ⟨h.follows, fun _ _ _ _ _ _ _ clock send n hcall => absurd hcall (hno clock send n)⟩

/-- The transition of a known task whose delivery it is. -/
theorem update {base task : Task} {now : Instant} (hk : Known base db)
    (hup : base.transitionTo .sent now = .ok task) (hto : DeliversTo call base) :
    DeliveryGate call db (updateTask task db).2 := by
  obtain ⟨-, rfl⟩ := Task.transitionTo_ok hup
  have hs : (base.advanced .sent now).SameDraft base := by constructor <;> rfl
  rcases updateTask_known hk hs (.inr rfl) with h | ⟨hv, ⟨u, hb⟩, h, hu⟩
  · rw [h]
    exact of_tasks rfl
  · rw [h]
    refine ⟨follows_updated hv hb hu, fun uid t t' ht hnot ht' hsent => ?_⟩
    by_cases he : uid = (base.advanced .sent now).taskUid
    · subst he
      rw [hu] at ht'
      cases ht'
      exact hto
    · rw [stored_updated_ne he, ht] at ht'
      cases ht'
      exact absurd hsent hnot

end DeliveryGate

/-! ## A delivery under the condition -/

section

variable {clock : Nat → Instant} {send : AppResult Int} {n : Notification} {P : Db → Prop}

/-- The statements of the delivery keep `P` and stay within the gate. -/
abbrev Delivers (clock : Nat → Instant) (send : AppResult Int) (n : Notification) (P : Db → Prop)
    {α : Type} (p : Proc α) : Prop :=
  Safe Follows (DeliveryGate (.deliver clock send n)) P p fun _ => P

theorem delivers_leavesTasks (hst : Stable Follows P) {α : Type} {p : Proc α} (hp : LeavesTasks p) :
    Delivers clock send n P p :=
  Safe.of_within hp (fun _ => .of_tasks rfl) (fun _ _ => .of_tasks) (fun _ _ h => h.follows) hst

theorem storeSent_delivers (hst : Stable Follows P) {task : Task} (hk : ∀ db, P db → Known task db)
    (hto : DeliversTo (.deliver clock send n) task) (now : Instant) :
    Delivers clock send n P (storeSent task now) := by
  have hupdate : ∀ {updatedTask}, task.transitionTo .sent now = .ok updatedTask →
      Delivers clock send n P (TaskRepository.update updatedTask) := by
    intro updatedTask hup
    refine Safe.perform (fun _ => hst) fun db hp f => ?_
    have hg : DeliveryGate (.deliver clock send n) db (f.apply (updateTask updatedTask) db).2 := by
      rcases f.apply_store (updateTask updatedTask) db with hf | hf
      · rw [hf]
        exact .of_tasks rfl
      · rw [hf]
        exact .update (hk db hp) hup hto
    exact ⟨hg, hst _ _ hg.follows hp⟩
  refine Safe.lift_bind (fun updatedTask hup => ?_) fun _ _ _ h => h
  have hattempt : Delivers clock send n P (TaskRepository.update updatedTask).attempt :=
    Safe.attempt (hupdate hup) fun _ _ h => h
  refine Safe.bind hattempt (fun stored => ?_) fun _ _ h => h
  split
  · exact delivers_leavesTasks hst (logSent_leavesTasks _ _)
  · split
    · exact Safe.pure fun _ h => h
    · exact Safe.fail fun _ h => h

/-- What is known of the loaded task: it is stored or was, it is the task of the notification,
and when it is created its assignee is the recipient. -/
def Loaded (n : Notification) (found : Option Task) : Prop :=
  ∀ t, found = some t → n.taskId = t.id ∧
    (n.notificationType = .taskAssigned → t.status = .created →
      t.assignedToUserId = some n.recipientUserId)

theorem markRelated_delivers (hst : Stable Follows P) {found : Option Task} {messageId : Int}
    (hk : ∀ db, P db → Gated.KnownAnswer found db) (hloaded : Loaded n found) (now : Instant) :
    Delivers clock (.ok messageId) n P (markRelatedTaskAsSent n.notificationType found now) := by
  cases found with
  | none => exact Safe.pure fun _ h => h
  | some task =>
    unfold markRelatedTaskAsSent
    simp only
    split
    · next hcond =>
      obtain ⟨hid, hown⟩ := hloaded task rfl
      refine storeSent_delivers hst (fun db h => hk db h task rfl) ?_ now
      intro clock' send' n' hcall
      cases hcall
      exact ⟨hcond.1, hid, ⟨messageId, rfl⟩, hown hcond.1 hcond.2⟩
    · exact Safe.pure fun _ h => h

/-- What follows the load of the task. -/
theorem afterLoad_delivers {found : Option Task} (hst : Stable Follows P) (clock : Nat → Instant)
    (id : Int) (hk : ∀ db, P db → Gated.KnownAnswer found db) :
    (∀ m, send = .ok m → Loaded n found) →
    Delivers clock send n P
      (match send with
      | .ok messageId => do
          NotificationRepository.markSent id messageId (clock 0)
          markRelatedTaskAsSent n.notificationType found (clock 1)
      | .error error =>
          if error.code ∈ permanentDeliveryErrorCodes then NotificationRepository.markFailed id error.code
          else handleTransientFailure id (n.attemptCount + 1) (clock 0) : Proc Unit) := by
  intro hloaded
  cases send with
  | ok messageId =>
    refine Safe.bind (delivers_leavesTasks hst (NotificationRepository.setById_leavesTasks _ _ _))
      (fun _ => ?_) fun _ _ h => h
    exact markRelated_delivers hst hk (hloaded messageId rfl) _
  | error e =>
    simp only
    split
    · exact delivers_leavesTasks hst (NotificationRepository.setById_leavesTasks _ _ _)
    · exact delivers_leavesTasks hst (handleTransientFailure_leavesTasks _ _ _)

/-- What a delivery knows when it has loaded the task. -/
def AfterLoad (send : AppResult Int) (n : Notification) : AppResult (Option Task) → Db → Prop
  | .ok found, db => (∀ m, send = .ok m → Loaded n found) ∧ Gated.KnownAnswer found db
  | .error _, _ => True

theorem afterLoad_stable (r : AppResult (Option Task)) : Stable Follows (AfterLoad send n r) := by
  cases r with
  | ok found => exact (Stable.const Follows _).and (Gated.knownAnswer_stable found)
  | error e => exact Stable.const Follows True

/-- **The load of the task**, when it meets the condition. -/
theorem loadRelatedTask_safeIf :
    SafeIf (LoadsOwnTask (.deliver clock send n)) Follows (DeliveryGate (.deliver clock send n))
      (fun _ => True) (loadRelatedTask n.taskId) (AfterLoad send n) := by
  cases hid : n.taskId with
  | none =>
    refine SafeIf.of_safe (Safe.pure fun db _ => ?_) fun _ _ h => h
    exact ⟨fun _ _ t ht => (nomatch ht), fun t ht => (nomatch ht)⟩
  | some taskId =>
    refine SafeIf.read (fun db => .of_tasks rfl) afterLoad_stable (fun db _ hC => ?_) fun _ _ _ => trivial
    refine ⟨fun m hm t ht => ?_, fun t ht => ?_⟩
    · obtain ⟨r, hr, rfl⟩ := Option.map_eq_some_iff.mp ht
      obtain ⟨hmem, hrow⟩ := Table.find?_some hr
      rw [decide_eq_true_eq] at hrow
      refine ⟨by rw [hid, ← hrow]; rfl, fun hkind hcreated => ?_⟩
      exact hC clock m n taskId (by rw [hm]) hkind rfl rfl r hmem hrow hcreated
    · obtain ⟨r, hr, rfl⟩ := Option.map_eq_some_iff.mp ht
      exact Gated.known_of_row (Table.find?_some hr).1

/-- **A delivery whose load meets the condition** moves only the task of its recipient to sent. -/
theorem deliver_safeIf (clock : Nat → Instant) (send : AppResult Int) (n : Notification) :
    SafeIf (LoadsOwnTask (.deliver clock send n)) Follows (DeliveryGate (.deliver clock send n))
      (fun _ => True) (deliverSingle clock send n) fun _ _ => True := by
  have hst : Stable Follows fun _ => True := Stable.const Follows True
  have hquiet : ∀ {α : Type} {p : Proc α}, LeavesTasks p →
      SafeIf (LoadsOwnTask (.deliver clock send n)) Follows (DeliveryGate (.deliver clock send n))
        (fun _ => True) p fun _ _ => True := fun hp =>
    SafeIf.of_safe (delivers_leavesTasks hst hp) fun _ _ h => h
  unfold deliverSingle
  cases n.id with
  | none => exact hquiet (.pure _)
  | some id =>
    refine SafeIf.bind (hquiet (.of_reads (select_reads _ _))) (fun user => ?_) fun _ _ h => h
    split
    · exact hquiet (NotificationRepository.setById_leavesTasks _ _ _)
    · split
      · exact hquiet (NotificationRepository.setById_leavesTasks _ _ _)
      · refine SafeIf.bind loadRelatedTask_safeIf (fun found => ?_) fun _ _ _ => trivial
        refine SafeIf.of_and_const fun hloaded => ?_
        have hst' := Gated.knownAnswer_stable found
        have hrest := SafeIf.of_safe (C := LoadsOwnTask (.deliver clock send n))
          (afterLoad_delivers hst' clock id (fun _ h => h) hloaded) fun _ _ h => h
        exact hrest.weaken (fun _ h => h) fun _ _ _ => trivial

end

/-! ## Top theorem -/

/-- Every call keeps to the gate of deliveries, the deliveries when they load their own tasks. -/
theorem call_safeIf (call : UseCaseCall) :
    SafeIf (LoadsOwnTask call) Follows (DeliveryGate call) (fun _ => True) call.program
      fun _ _ => True := by
  by_cases hdeliver : ∃ clock send n, call = .deliver clock send n
  · obtain ⟨clock, send, n, rfl⟩ := hdeliver
    exact deliver_safeIf clock send n
  · have hno : ∀ clock send n, call ≠ .deliver clock send n := fun clock send n h =>
      hdeliver ⟨clock, send, n, h⟩
    exact SafeIf.of_safe (call_gated call) fun _ _ => .of_gate hno

/-- **Sent to the assignee.**  In every interleaving whose deliveries load tasks of their
recipients, a delivery moves a task to sent only when it was the assignment of that task to
its assignee of that moment. -/
theorem sent_to_assignee (db : Db) (calls : List UseCaseCall) (sched : List (Nat × Fault AppError))
    (hown : ∀ c ∈ (startCalls db calls).calls sched, LoadsOwnTask c.who c.site c.fault c.store) :
    ∀ a ∈ (startCalls db calls).acts sched, MovesToSent a := by
  have hguarded : (startCalls db calls).GuardedIf LoadsOwnTask Follows DeliveryGate := by
    intro t ht
    obtain ⟨call, -, rfl⟩ := List.mem_map.mp ht
    exact ⟨fun _ => True, .const _ _, trivial, call_safeIf call⟩
  intro a ha
  have hgate := Pool.acts_guaranteeIf (fun _ _ _ h => h.follows) sched hguarded hown a ha
  exact hgate.moves

/-! ## A reassigned task and the notification of its first assignee -/

def grace : User := { UserRepository.sampleUser 30 .user with telegramUsername := some "grace" }

/-- The assignment of task 1 to user 2, as its creation enqueued it. -/
def firstAssignment : Notification := CreateTaskFromMessage.assignmentNotification sampleTask 2 0

/-- Task 1 is assigned to user 2, whose notification is still pending; user 3 is employee 1. -/
def handoverDb : Db :=
  let users := (Table.empty.insertOrIgnore ⟨UserRepository.sampleUser 10 .user, none⟩).1
  let users := (users.insertOrIgnore ⟨UserRepository.sampleUser 20 .user, none⟩).1
  { sampleDb with
    users := (users.insertOrIgnore ⟨grace, none⟩).1
    employees := (Table.empty.insertOrIgnore ⟨none, "Grace", some "grace", none, none, none, true, none, 0, 0⟩).1
    notifications := (Table.empty.insertOrIgnore firstAssignment).1 }

def deliverFirst : UseCaseCall := .deliver (fun _ => 6) (.ok 77) { firstAssignment with id := some 1 }

def reassignToGrace : UseCaseCall :=
  .reassign (fun _ => 5) (fun _ _ => .notFound) (sampleActor 1 .user) (sampleUid 1) "Grace" (.employeeId 1)

/-- The notification goes out while user 2 is the assignee: the task is sent. -/
theorem sent_to_first_assignee :
    let sched := (List.replicate 5 0).map fun i => (i, Fault.none)
    (∀ a ∈ (startCalls handoverDb [deliverFirst]).acts sched, MovesToSent a) ∧
    (((startCalls handoverDb [deliverFirst]).exec sched).store.stored (sampleUid 1)).map Task.status =
      some .sent := by
  intro sched
  refine ⟨sent_to_assignee handoverDb [deliverFirst] sched fun c hc => ?_, by decide⟩
  have hwho : c.who = deliverFirst := List.mem_singleton.mp (Pool.calls_who sched _ c hc)
  have hassigned : ∀ c ∈ (startCalls handoverDb [deliverFirst]).calls sched,
      ∀ r ∈ c.store.tasks.rows, r.val.task.assignedToUserId = some 2 := by decide
  intro clock messageId n taskId hcall _ _ _ r hr _ _
  rw [hwho] at hcall
  cases hcall
  exact hassigned c hc r hr

/-- The statements of the reassignment, and then those of the delivery. -/
def handover : List (Act Db UseCaseCall) :=
  (startCalls handoverDb [reassignToGrace, deliverFirst]).acts
    ((List.replicate 7 0 ++ List.replicate 5 1).map fun i => (i, Fault.none))

/-- The task is handed over to user 3 before the notification of user 2 goes out: the delivery
to user 2 marks it as sent, and its assignee has been told nothing. -/
theorem sent_to_former_assignee : ¬ ∀ a ∈ handover, MovesToSent a := by
  intro h
  have hwho : (handover[10]?).map Act.who = some deliverFirst := rfl
  have hbefore : (handover[10]?.bind fun a => a.before.stored (sampleUid 1)).map Task.status =
      some .created := by decide
  have hafter : (handover[10]?.bind fun a => a.after.stored (sampleUid 1)).map
      (fun t => (t.status, t.assignedToUserId)) = some (.sent, some 3) := by decide
  -- the eleventh step is the task update of the delivery
  obtain ⟨a, ha, hcall⟩ := Option.map_eq_some_iff.mp hwho
  rw [ha] at hbefore hafter
  obtain ⟨t, ht, hcreated⟩ := Option.map_eq_some_iff.mp hbefore
  obtain ⟨t', ht', hsent⟩ := Option.map_eq_some_iff.mp hafter
  have hstatus : t'.status = .sent := congrArg Prod.fst hsent
  have hgrace : t'.assignedToUserId = some 3 := congrArg Prod.snd hsent
  have hnot : t.status ≠ .sent := by
    rw [hcreated]
    decide
  have hmoves := h a (List.mem_of_getElem? ha) (sampleUid 1) t t' ht hnot ht' hstatus
  obtain ⟨-, -, -, hfirst⟩ := hmoves _ _ _ hcall
  rw [hgrace] at hfirst
  cases hfirst

end TaskBot
