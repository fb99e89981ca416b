import TaskBot.Presentation.Callbacks
import TaskBot.UseCases.BlockedReason

/-!
# Offered actions

`availableActions` lists the actions on a task card.  A status action is normalised, checked and
then made as a transition; a blocker, a reassignment and a comment have checks of their own.

    all offered actions are accepted   ↔   no blocker is offered on a blocked task
                                                              (offered_accepted_iff)
    an accepted action, on the stored task   →   the use case answers
                                                              (answers_of_accepts)
-/

namespace TaskBot

namespace RoleAuthorizationPolicy

section

variable (actor : User) (task : Task)

def isAssignee : Bool := actor.id.isSome && task.assignedToUserId = actor.id

def canManage : Bool := actor.id = some task.createdByUserId || actor.role.isManagerOrAdmin

def availableActions : List TaskActionView :=
  let mayWork := isAssignee actor task || actor.role.isAdmin
  (if task.status ∈ [.created, .sent, .blocked] ∧ mayWork then [.startProgress] else []) ++
  (if task.status ∈ [.sent, .inProgress, .blocked] ∧ mayWork then [.submitForReview] else []) ++
  (if task.status = .inReview ∧ canManage actor task then [.approveReview, .returnToWork] else []) ++
  (if task.status ∈ [.created, .sent, .inProgress, .blocked] ∧ mayWork then [.reportBlocker] else []) ++
  (if ¬ task.status.isTerminal ∧ canManage actor task then [.reassign] else []) ++
  (if ¬ task.status.isTerminal ∧ (isAssignee actor task || canManage actor task) then [.cancel] else []) ++
  [.addComment]

/-! ## Acceptance -/

/-- The request keeps its status, passes the check and is a transition of the task. -/
structure AcceptsStatus (status : TaskStatus) : Prop where
  kept : normalizeRequestedStatus actor task status = .ok status
  allowed : ensureCanChangeStatus actor task status = .ok ()
  made : ∀ now, ∃ t, task.transitionTo status now = .ok t

/-- A text that can be stored as the reason of a blocker. -/
def ValidReason (reason : String) : Prop :=
  (trim reason).isEmpty = false ∧ charsCount (trim reason) ≤ maxTaskBlockerReasonLength

def Accepts (action : TaskActionView) : Prop :=
  match actionToStatus action with
  | some status => AcceptsStatus actor task status
  | none =>
      match action with
      | .cancel => AcceptsStatus actor task .cancelled
      | .reportBlocker => ensureCanReportBlocker actor task = .ok () ∧
          ∀ reason now, ValidReason reason → ∃ t, task.applyBlocker reason now = .ok t
      | .reassign => ensureCanReassign actor task = .ok () ∧
          ∀ userId employeeId now, ∃ t, task.reassign userId employeeId now = .ok t
      | _ => ensureCanComment actor task = .ok ()

end

/-! ## One action after the other -/

section

variable {actor : User} {task : Task}

theorem isAssignee_iff : isAssignee actor task = true ↔ ∃ id, actor.id = some id ∧ task.assignedToUserId = some id := by
  unfold isAssignee
  cases actor.id with
  | none => simp
  | some id => simp

theorem canManage_iff : canManage actor task = true ↔ MayClose actor task := by
  simp [canManage, MayClose, or_comm]

/-- Who may work on the task may ask for any status of an assignee. -/
theorem ensureCanChangeStatus_of_worker {id : Int} {next : TaskStatus} (hid : actor.id = some id)
    (hwork : isAssignee actor task = true ∨ actor.role.isAdmin = true) (hnext : assigneeCanChangeStatus next = true) :
    ensureCanChangeStatus actor task next = .ok () := by
  refine ensureCanChangeStatus_iff.mpr ⟨id, hid, ?_⟩
  rcases hwork with hassignee | hadmin
  · obtain ⟨id', hid', hassigned⟩ := isAssignee_iff.mp hassignee
    rw [hid] at hid'
    cases hid'
    exact .inr (.inr (.inl ⟨hassigned, hnext⟩))
  · exact .inl hadmin

/-- Who may close the task may ask for any status of its creator and of a manager. -/
theorem ensureCanChangeStatus_of_manager {id : Int} {next : TaskStatus} (hid : actor.id = some id)
    (hmanage : MayClose actor task) (hcreator : creatorCanChangeStatus task next = true)
    (hmanager : managerCanChangeStatus next = true) : ensureCanChangeStatus actor task next = .ok () := by
  refine ensureCanChangeStatus_iff.mpr ⟨id, hid, ?_⟩
  rcases hmanage with hrole | hown
  · exact .inr (.inr (.inr ⟨hrole, hmanager⟩))
  · rw [hid] at hown
    exact .inr (.inl ⟨Option.some.inj hown, hcreator⟩)

theorem normalizeRequestedStatus_other {next : TaskStatus} (h : next ≠ .completed) :
    normalizeRequestedStatus actor task next = .ok next := by
  unfold normalizeRequestedStatus
  rw [if_neg fun hc => h hc.1, if_neg fun hc => h hc.1]

/-- A completion is kept for who may close the task, once it is in review. -/
theorem normalizeRequestedStatus_completed (hstatus : task.status = .inReview) (hmanage : MayClose actor task) :
    normalizeRequestedStatus actor task .completed = .ok .completed := by
  unfold normalizeRequestedStatus
  rw [if_neg ?_, if_neg fun hc => hc.2.2 hstatus]
  rintro ⟨-, -, hcreator, hrole⟩
  rcases hmanage with hmanager | hown
  · exact hrole hmanager
  · exact hcreator hown

theorem transitionTo_made {next : TaskStatus} (h : task.status.canTransitionTo next = true) (now : Instant) :
    ∃ t, task.transitionTo next now = .ok t :=
  ⟨_, if_neg (not_not.mpr h)⟩

/-- A blocker can be stored exactly where the status `blocked` can be reached. -/
theorem applyBlocker_iff : (∀ reason now, ValidReason reason → ∃ t, task.applyBlocker reason now = .ok t) ↔
    task.status.canTransitionTo .blocked = true := by
  constructor
  · intro h
    obtain ⟨t, ht⟩ := h "x" 0 ⟨by decide, by decide⟩
    obtain ⟨hcan, -⟩ := Task.applyBlocker_ok ht
    exact hcan
  · rintro hcan reason now ⟨hnonempty, hshort⟩
    obtain ⟨t, ht⟩ := transitionTo_made hcan now
    refine ⟨{ t with blockedReason := some (trim reason) }, ?_⟩
    unfold Task.applyBlocker
    have hlong : ¬ charsCount (trim reason) > maxTaskBlockerReasonLength := by omega
    simp only [hnonempty, Bool.false_eq_true, if_false, if_neg hlong, ht]

theorem ensureCanComment_of_view (h : ensureCanViewTask actor task = .ok ()) : ensureCanComment actor task = .ok () := by
  obtain ⟨id, hid, hrights⟩ := ensureCanViewTask_iff.mp h
  unfold ensureCanComment
  rw [requiredActorId_some hid]
  refine if_pos ?_
  simpa [or_assoc] using hrights

theorem ensureCanReassign_of_manager {id : Int} (hid : actor.id = some id) (hmanage : MayClose actor task) :
    ensureCanReassign actor task = .ok () := by
  unfold ensureCanReassign
  rw [requiredActorId_some hid]
  refine if_pos ?_
  rcases hmanage with hrole | hown
  · simp [hrole]
  · rw [hid] at hown
    simp [Option.some.inj hown]

/-! ## Top theorem -/

/-- What an offer says of the actor and of the task. -/
theorem mem_availableActions {action : TaskActionView} : action ∈ availableActions actor task ↔
    let mayWork := isAssignee actor task = true ∨ actor.role.isAdmin = true
    match action with
    | .startProgress => (task.status = .created ∨ task.status = .sent ∨ task.status = .blocked) ∧ mayWork
    | .submitForReview => (task.status = .sent ∨ task.status = .inProgress ∨ task.status = .blocked) ∧ mayWork
    | .approveReview | .returnToWork => task.status = .inReview ∧ MayClose actor task
    | .reportBlocker => (task.status = .created ∨ task.status = .sent ∨ task.status = .inProgress ∨
        task.status = .blocked) ∧ mayWork
    | .reassign => task.status.isTerminal = false ∧ MayClose actor task
    | .cancel => task.status.isTerminal = false ∧ (isAssignee actor task = true ∨ MayClose actor task)
    | .addComment => True := by
  unfold availableActions
  cases action <;> simp [canManage_iff]

/-- **The exception is a blocker on a task that is blocked already.** -/
theorem accepts_iff {action : TaskActionView} (hview : ensureCanViewTask actor task = .ok ())
    (h : action ∈ availableActions actor task) :
    Accepts actor task action ↔ ¬ (action = .reportBlocker ∧ task.status = .blocked) := by
  obtain ⟨id, hid, -⟩ := ensureCanViewTask_iff.mp hview
  rw [mem_availableActions] at h
  cases action with
  | startProgress =>
    obtain ⟨hstatus, hwork⟩ := h
    refine iff_of_true ⟨normalizeRequestedStatus_other nofun, ensureCanChangeStatus_of_worker hid hwork rfl,
      transitionTo_made ?_⟩ nofun
    rcases hstatus with hs | hs | hs <;> rw [hs] <;> rfl
  | submitForReview =>
    obtain ⟨hstatus, hwork⟩ := h
    refine iff_of_true ⟨normalizeRequestedStatus_other nofun, ensureCanChangeStatus_of_worker hid hwork rfl,
      transitionTo_made ?_⟩ nofun
    rcases hstatus with hs | hs | hs <;> rw [hs] <;> rfl
  | approveReview =>
    obtain ⟨hstatus, hmanage⟩ := h
    refine iff_of_true ⟨normalizeRequestedStatus_completed hstatus hmanage,
      ensureCanChangeStatus_of_manager hid hmanage rfl rfl, transitionTo_made ?_⟩ nofun
    rw [hstatus]
    rfl
  | returnToWork =>
    obtain ⟨hstatus, hmanage⟩ := h
    have hcreator : creatorCanChangeStatus task .inProgress = true := decide_eq_true hstatus
    refine iff_of_true ⟨normalizeRequestedStatus_other nofun,
      ensureCanChangeStatus_of_manager hid hmanage hcreator rfl, transitionTo_made ?_⟩ nofun
    rw [hstatus]
    rfl
  | cancel =>
    obtain ⟨hlive, hrights⟩ := h
    refine iff_of_true ⟨normalizeRequestedStatus_other nofun, ?_, transitionTo_made ?_⟩ nofun
    · rcases hrights with hassignee | hmanage
      · exact ensureCanChangeStatus_of_worker hid (.inl hassignee) rfl
      · exact ensureCanChangeStatus_of_manager hid hmanage rfl rfl
    · cases hs : task.status with
      | completed => rw [hs] at hlive; cases hlive
      | cancelled => rw [hs] at hlive; cases hlive
      | created | sent | inProgress | blocked | inReview => rfl
  | reportBlocker =>
    obtain ⟨hstatus, hwork⟩ := h
    have hallowed : ensureCanReportBlocker actor task = .ok () := by
      refine ensureCanReportBlocker_iff.mpr ⟨id, hid, ?_⟩
      rcases hwork with hassignee | hadmin
      · obtain ⟨id', hid', hassigned⟩ := isAssignee_iff.mp hassignee
        rw [hid] at hid'
        cases hid'
        exact .inr hassigned
      · exact .inl hadmin
    show (_ ∧ _) ↔ _
    rw [applyBlocker_iff]
    rcases hstatus with hs | hs | hs | hs <;> rw [hs] <;> simp [hallowed, TaskStatus.canTransitionTo]
  | addComment => exact iff_of_true (ensureCanComment_of_view hview) nofun
  | reassign =>
    obtain ⟨hlive, hmanage⟩ := h
    have hnot : ¬ task.status.isTerminal = true := by simp [hlive]
    exact iff_of_true ⟨ensureCanReassign_of_manager hid hmanage, fun _ _ _ => ⟨_, if_neg hnot⟩⟩ nofun

/-- **Every offered action is accepted** exactly if the task is not blocked, or the actor is neither
its assignee nor an admin. -/
theorem offered_accepted_iff (actor : User) (task : Task) (hview : ensureCanViewTask actor task = .ok ()) :
    (∀ action ∈ availableActions actor task, Accepts actor task action) ↔
      (task.status = .blocked → isAssignee actor task = false ∧ actor.role.isAdmin = false) := by
  constructor
  · intro h hblocked
    by_contra hnot
    have hwork : isAssignee actor task = true ∨ actor.role.isAdmin = true := by
      cases hassignee : isAssignee actor task with
      | true => exact .inl rfl
      | false => exact .inr (eq_true_of_ne_false fun hadmin => hnot ⟨hassignee, hadmin⟩)
    have hoffered : TaskActionView.reportBlocker ∈ availableActions actor task :=
      mem_availableActions.mpr ⟨.inr (.inr (.inr hblocked)), hwork⟩
    exact (accepts_iff hview hoffered).mp (h _ hoffered) ⟨rfl, hblocked⟩
  · intro h action hoffered
    refine (accepts_iff hview hoffered).mpr ?_
    rintro ⟨rfl, hblocked⟩
    obtain ⟨hassignee, hadmin⟩ := h hblocked
    obtain ⟨-, hwork⟩ := mem_availableActions.mp hoffered
    simp [hassignee, hadmin] at hwork

/-- The assignee is offered to report a blocker, and the report is refused. -/
theorem blocked_again_refused :
    let actor := sampleAssignee
    let task := { sampleTask with status := .blocked }
    ensureCanViewTask actor task = .ok () ∧
      ¬ ∀ action ∈ availableActions actor task, Accepts actor task action := by
  intro actor task
  have hview : ensureCanViewTask actor task = .ok () := by decide
  have hoffered : TaskActionView.reportBlocker ∈ availableActions actor task := by decide
  exact ⟨hview, fun h => (accepts_iff hview hoffered).mp (h _ hoffered) ⟨rfl, rfl⟩⟩

theorem offered_accepted_sample : ensureCanViewTask sampleAssignee sampleTask = .ok () ∧
    ∀ action ∈ availableActions sampleAssignee sampleTask, Accepts sampleAssignee sampleTask action :=
  ⟨by decide, (offered_accepted_iff sampleAssignee sampleTask (by decide)).mpr nofun⟩

end

end RoleAuthorizationPolicy

/-! ## The use cases -/

open Sql Calls RoleAuthorizationPolicy

/-- What a press of the button asks for, with the text that is typed for it. -/
def Requests (action : TaskActionView) (request : TaskRequest) : Prop :=
  match actionToStatus action with
  | some status => request = .updateStatus status
  | none =>
      match action with
      | .cancel => request = .updateStatus .cancelled
      | .reportBlocker => ∃ reason, ValidReason reason ∧ request = .reportBlocker reason
      | .reassign => ∃ query decision, request = .reassign query decision
      | _ => False

section

variable {clock : Nat → Instant} {ranking : NameRanking} {actor : User} {task : Task} {uid : Uuid} {db : Db}

theorem AcceptsStatus.answers {status : TaskStatus} (h : AcceptsStatus actor task status)
    (ht : db.stored uid = some task) :
    Prog.Answers noFaults ((TaskRequest.updateStatus status).program clock ranking actor uid) db := by
  obtain ⟨taskId, hid⟩ := stored_id ht
  obtain ⟨t, hmade⟩ := h.made (clock 0)
  let m : Mutation := ⟨t, none, UpdateTaskStatus.statusEntry actor.id taskId task.status status (clock 1),
    UpdateTaskStatus.told actor.id t status (clock 2) (some t.createdByUserId) ++
      UpdateTaskStatus.told actor.id t status (clock 3) t.assignedToUserId⟩
  have hallowed : (TaskRequest.updateStatus status).Allowed clock ranking actor db task m :=
    ⟨taskId, status, hid, h.kept, h.allowed, hmade, rfl, rfl, rfl⟩
  exact TaskRequest.answers ht hallowed

/-- **An accepted action is answered** on the task that is stored. -/
theorem answers_of_accepts {action : TaskActionView} {request : TaskRequest} (hactor : actor.id ≠ none)
    (h : Accepts actor task action) (hrequest : Requests action request) (ht : db.stored uid = some task) :
    Prog.Answers noFaults (request.program clock ranking actor uid) db := by
  obtain ⟨actorId, hactor⟩ := Option.ne_none_iff_exists'.mp hactor
  obtain ⟨taskId, hid⟩ := stored_id ht
  cases action with
  | startProgress | submitForReview | approveReview | returnToWork | cancel =>
    rw [show request = _ from hrequest]
    exact AcceptsStatus.answers h ht
  | reportBlocker =>
    obtain ⟨reason, hvalid, rfl⟩ := hrequest
    obtain ⟨hallowed, hmade⟩ := h
    obtain ⟨t, hmade⟩ := hmade reason (clock 0) hvalid
    let m : Mutation := ⟨t, some ⟨none, taskId, actorId, .blocker, trim reason, clock 1⟩,
      ReportTaskBlocker.blockerEntry taskId actorId task.status (trim reason) (clock 2),
      ReportTaskBlocker.told t (trim reason) actorId (clock 3)⟩
    have hm : (TaskRequest.reportBlocker reason).Allowed clock ranking actor db task m :=
      ⟨taskId, actorId, hid, hactor, hallowed, hmade, rfl, rfl, rfl⟩
    exact TaskRequest.answers ht hm
  | reassign =>
    obtain ⟨query, decision, rfl⟩ := hrequest
    obtain ⟨hallowed, hmade⟩ := h
    obtain ⟨t, hmade⟩ := hmade none none (clock 0)
    let m : Mutation := ⟨t, none, ReassignTask.reassignEntry actorId taskId task t query (clock 1),
      ReassignTask.told t (clock 2)⟩
    have hm : ReassignTask.AllowedTo ⟨none, none⟩ clock actor query task m :=
      ⟨taskId, actorId, hid, hactor, hallowed, hmade, rfl, rfl, rfl⟩
    exact .bind (ReassignTask.answers ht hm) fun _ _ _ => .pure _ _
  | addComment => exact nomatch hrequest

end

end TaskBot
