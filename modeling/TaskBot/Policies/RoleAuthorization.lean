import TaskBot.Domain.Task
import TaskBot.Domain.User

/-!
# Role authorization

Who may open the admin panel and who may change a task.  Only the gates of the
admin panel look at the deactivation mark of the account.  A requested completion is normalised before it is
checked: for a task that needs review a plain user's completion becomes a request
for review, anyone else's is refused until the task is in review.

* `ensureCanChangeStatus_completed`: who passes the check for a completion;
* `normalizeRequestedStatus_ok`: what normalisation makes of a request.
-/

namespace TaskBot

namespace RoleAuthorizationPolicy

/-! ## The admin panel -/

def forbiddenAdminOnly : String := "FORBIDDEN_ADMIN_ONLY"
def forbiddenAccountDeactivated : String := "FORBIDDEN_ACCOUNT_DEACTIVATED"
def forbiddenSelfTarget : String := "FORBIDDEN_SELF_TARGET"

def ensureActive (actor : User) : AppResult Unit :=
  if actor.deactivatedAt.isSome then
    .error (.forbidden forbiddenAccountDeactivated "This account is deactivated"
      [("telegram_id", .int actor.telegramId), ("deactivated_at", jsonInstant actor.deactivatedAt)])
  else .ok ()

def ensureCanSyncEmployees (actor : User) : AppResult Unit :=
  if actor.role.isAdmin then .ok ()
  else
    .error (.unauthorized "Only admins can trigger employee sync" [("telegram_id", .int actor.telegramId)])

def ensureCanViewTeamTasks (actor : User) : AppResult Unit :=
  if actor.role.isManagerOrAdmin then .ok ()
  else
    .error (.unauthorized "Only managers and admins can view team task dashboards"
      [("telegram_id", .int actor.telegramId)])

def ensureCanAccessAdminPanel (actor : User) : AppResult Unit := do
  ensureActive actor
  if actor.role.isAdmin then .ok ()
  else
    .error (.forbidden forbiddenAdminOnly "Only admins can open the admin panel"
      [("telegram_id", .int actor.telegramId), ("role", .str actor.role.toText)])

def ensureNotSelf (actor target : User) (operation : String) : AppResult Unit :=
  if (actor.id.isSome ∧ actor.id = target.id) ∨ actor.telegramId = target.telegramId then
    .error (.forbidden forbiddenSelfTarget "An admin cannot apply this action to themselves"
      [("operation", .str operation), ("telegram_id", .int actor.telegramId),
        ("target_role", .str target.role.toText)])
  else .ok ()

def ensureCanManageRoles (actor target : User) : AppResult Unit := do
  ensureCanAccessAdminPanel actor
  ensureNotSelf actor target "manage_roles"

def ensureCanDeactivateUser (actor target : User) : AppResult Unit := do
  ensureCanAccessAdminPanel actor
  ensureNotSelf actor target "deactivate_user"

def ensureCanViewAdminPanel (actor : User) : AppResult Unit := ensureCanAccessAdminPanel actor

/-! ## Tasks -/

def requiredActorId (actor : User) (action : String) : AppResult Int :=
  okOrElse actor.id
    (.unauthenticated ("User must be registered before they can " ++ action)
      [("telegram_id", .int actor.telegramId)])

def ensureCanViewTask (actor : User) (task : Task) : AppResult Unit := do
  let actorId ← requiredActorId actor "view task status"
  if actor.role.isManagerOrAdmin || actorId = task.createdByUserId ||
      task.assignedToUserId = some actorId then .ok ()
  else
    .error (.unauthorized "User is not allowed to view this task"
      [("task_uid", .str task.taskUid.toText)])

def ensureCanComment (actor : User) (task : Task) : AppResult Unit := do
  let actorId ← requiredActorId actor "comment on a task"
  if actor.role.isManagerOrAdmin || actorId = task.createdByUserId ||
      task.assignedToUserId = some actorId then .ok ()
  else
    .error (.unauthorized "User is not allowed to comment on this task"
      [("task_uid", .str task.taskUid.toText)])

def ensureCanReportBlocker (actor : User) (task : Task) : AppResult Unit := do
  let actorId ← requiredActorId actor "report a blocker"
  if actor.role.isAdmin || task.assignedToUserId = some actorId then .ok ()
  else
    .error (.unauthorized "Only the assignee or admin can mark a task as blocked"
      [("task_uid", .str task.taskUid.toText)])

def ensureCanReassign (actor : User) (task : Task) : AppResult Unit := do
  let actorId ← requiredActorId actor "reassign tasks"
  if actor.role.isManagerOrAdmin || task.createdByUserId = actorId ||
      task.assignedToUserId = some actorId then .ok ()
  else
    .error (.unauthorized "Only the creator, assignee, manager, or admin can reassign a task"
      [("actor_user_id", .int actorId), ("task_uid", .str task.taskUid.toText)])

def normalizeRequestedStatus (actor : User) (task : Task) (requestedStatus : TaskStatus) :
    AppResult TaskStatus :=
  if requestedStatus = .completed ∧ task.reviewRequired ∧
      ¬ actor.id = some task.createdByUserId ∧ ¬ actor.role.isManagerOrAdmin then
    .ok .inReview
  else if requestedStatus = .completed ∧ task.reviewRequired ∧ task.status ≠ .inReview then
    .error (.businessRule "TASK_REVIEW_REQUIRED" "Task must go through review before final completion"
      [("task_uid", .str task.taskUid.toText)])
  else .ok requestedStatus

def creatorCanChangeStatus (task : Task) : TaskStatus → Bool
  | .completed | .cancelled => true
  | .inProgress => task.status = .inReview
  | .created | .sent | .blocked | .inReview => false

def assigneeCanChangeStatus : TaskStatus → Bool
  | .inProgress | .inReview | .blocked | .cancelled => true
  | _ => false

def managerCanChangeStatus : TaskStatus → Bool
  | .inProgress | .completed | .cancelled => true
  | _ => false

def ensureCanChangeStatus (actor : User) (task : Task) (nextStatus : TaskStatus) : AppResult Unit := do
  let actorId ← requiredActorId actor "change task status"
  if actor.role.isAdmin then .ok ()
  else if actorId = task.createdByUserId && creatorCanChangeStatus task nextStatus then .ok ()
  else if task.assignedToUserId = some actorId && assigneeCanChangeStatus nextStatus then .ok ()
  else if actor.role.isManagerOrAdmin && managerCanChangeStatus nextStatus then .ok ()
  else
    .error (.unauthorized "User is not allowed to change this task status"
      [("task_uid", .str task.taskUid.toText), ("next_status", .str nextStatus.toText)])

/-! ## What a check that passes says -/

/-- The actor may decide about the task: its creator, a manager or an admin. -/
def MayClose (actor : User) (task : Task) : Prop :=
  actor.role.isManagerOrAdmin = true ∨ actor.id = some task.createdByUserId

/-- The gate of the admin panel lets active admins through, and nobody else. -/
theorem ensureCanAccessAdminPanel_ok {actor : User} :
    ensureCanAccessAdminPanel actor = .ok () ↔ actor.deactivatedAt = none ∧ actor.role.isAdmin = true := by
  unfold ensureCanAccessAdminPanel ensureActive
  cases actor.deactivatedAt with
  | some t => exact iff_of_false (fun h => nomatch h) fun h => nomatch h.1
  | none =>
    show (if actor.role.isAdmin = true then _ else _) = _ ↔ _
    by_cases hrole : actor.role.isAdmin = true
    · rw [if_pos hrole]
      exact iff_of_true rfl ⟨rfl, hrole⟩
    · rw [if_neg hrole]
      exact iff_of_false (fun h => nomatch h) fun h => hrole h.2

theorem isManagerOrAdmin_of_isAdmin {r : UserRole} (h : r.isAdmin = true) : r.isManagerOrAdmin = true := by
  simp only [UserRole.isAdmin, decide_eq_true_eq] at h
  simp [UserRole.isManagerOrAdmin, h]

theorem requiredActorId_ok {actor : User} {action : String} {id : Int}
    (h : requiredActorId actor action = .ok id) : actor.id = some id := okOrElse_ok h

theorem requiredActorId_some {actor : User} {id : Int} (h : actor.id = some id) (action : String) :
    requiredActorId actor action = .ok id := by
  unfold requiredActorId
  rw [h]
  rfl

theorem ensureCanViewTask_iff {actor : User} {task : Task} :
    ensureCanViewTask actor task = .ok () ↔ ∃ actorId, actor.id = some actorId ∧
      (actor.role.isManagerOrAdmin = true ∨ actorId = task.createdByUserId ∨
        task.assignedToUserId = some actorId) := by
  unfold ensureCanViewTask
  cases hid : actor.id with
  | none => simp [requiredActorId, hid, okOrElse, bind, Except.bind]
  | some actorId =>
    rw [requiredActorId_some hid]
    simp only [bind, Except.bind, Option.some.injEq, exists_eq_left']
    grind

theorem ensureCanReportBlocker_iff {actor : User} {task : Task} :
    ensureCanReportBlocker actor task = .ok () ↔ ∃ actorId, actor.id = some actorId ∧
      (actor.role.isAdmin = true ∨ task.assignedToUserId = some actorId) := by
  unfold ensureCanReportBlocker
  cases hid : actor.id with
  | none => simp [requiredActorId, hid, okOrElse, bind, Except.bind]
  | some actorId =>
    rw [requiredActorId_some hid]
    simp only [bind, Except.bind, Option.some.injEq, exists_eq_left']
    grind

theorem ensureCanChangeStatus_iff {actor : User} {task : Task} {next : TaskStatus} :
    ensureCanChangeStatus actor task next = .ok () ↔ ∃ actorId, actor.id = some actorId ∧
      (actor.role.isAdmin = true ∨
        (actorId = task.createdByUserId ∧ creatorCanChangeStatus task next = true) ∨
        (task.assignedToUserId = some actorId ∧ assigneeCanChangeStatus next = true) ∨
        (actor.role.isManagerOrAdmin = true ∧ managerCanChangeStatus next = true)) := by
  unfold ensureCanChangeStatus
  cases hid : actor.id with
  | none => simp [requiredActorId, hid, okOrElse, bind, Except.bind]
  | some actorId =>
    rw [requiredActorId_some hid]
    simp only [bind, Except.bind, Option.some.injEq, exists_eq_left']
    grind

/-- Whoever passes the check for a completion may decide about the task. -/
theorem ensureCanChangeStatus_completed {actor : User} {task : Task}
    (h : ensureCanChangeStatus actor task .completed = .ok ()) : MayClose actor task := by
  unfold ensureCanChangeStatus at h
  cases hid : requiredActorId actor "change task status" with
  | error e => rw [hid] at h; cases h
  | ok actorId =>
    rw [hid] at h
    have hactor := requiredActorId_ok hid
    change (if _ then _ else _) = _ at h
    split at h
    · next ha => exact .inl (isManagerOrAdmin_of_isAdmin ha)
    · split at h
      · next hc =>
        simp only [Bool.and_eq_true, decide_eq_true_eq] at hc
        exact .inr (by rw [hactor, hc.1])
      · split at h
        · next ha => simp [assigneeCanChangeStatus] at ha
        · split at h
          · next hm =>
            simp only [Bool.and_eq_true] at hm
            exact .inl hm.1
          · cases h

/-- Normalisation keeps a request, or turns a completion into a request for review. -/
theorem normalizeRequestedStatus_ok {actor : User} {task : Task} {requested next : TaskStatus}
    (h : normalizeRequestedStatus actor task requested = .ok next) :
    next = requested ∨ (requested = .completed ∧ next = .inReview) := by
  unfold normalizeRequestedStatus at h
  split at h
  · next hc =>
    cases h
    exact .inr ⟨hc.1, rfl⟩
  · split at h
    · cases h
    · cases h
      exact .inl rfl

end RoleAuthorizationPolicy

end TaskBot
