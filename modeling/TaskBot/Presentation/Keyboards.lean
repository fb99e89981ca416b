import TaskBot.Presentation.Callbacks

/-!
# Keyboards

The inline keyboards of the bot as rows of the callbacks their buttons carry, and
the limit Telegram sets on them: 64 bytes of `callback_data`.

`Keyboard` lists every keyboard with its arguments, `Buildable` is what some
keyboard puts on a button.

    Buildable callback →
      (encodeCallback callback).utf8ByteSize ≤ 64 ↔ ShortEnough callback      (callback_data_fits_iff)

The manager's inbox has the longest origin code, and a task opened from it has no
room for a card mode, a status or a cancellation; `in_progress` does not fit
behind `assigned` and `created` either.
-/

namespace TaskBot

/-! ## Rows -/

/-- `chunks(2)`. -/
def chunks2 {α : Type} : List α → List (List α)
  | [] => []
  | [a] => [[a]]
  | a :: b :: l => [a, b] :: chunks2 l

theorem flatten_chunks2 {α : Type} (l : List α) : (chunks2 l).flatten = l := by
  induction l using chunks2.induct with
  | case1 => rfl
  | case2 a => rfl
  | case3 a b l ih =>
    show a :: b :: (chunks2 l).flatten = a :: b :: l
    rw [ih]

def listCallback (origin : TaskListOrigin) (cursor : Option String) : TelegramCallback :=
  .listTasks origin cursor

def backCallback (origin : TaskListOrigin) : TelegramCallback := .listTasks origin none

/-! ## The main menu and creation -/

/-- Managers and admins get two rows more after the second one. -/
def mainMenuKeyboard (actor : User) : List (List TelegramCallback) :=
  [[listCallback .focus none, .menuCreate],
    [listCallback .assigned none, listCallback .created none]] ++
  (if actor.role.isManagerOrAdmin then
    [[listCallback .team none, listCallback .managerInbox none], [.menuTeamStats]] else []) ++
  [[.menuStats, .menuSettings], [.menuHelp]] ++
  (if actor.role.isAdmin then [[.menuSyncEmployees]] else [])

def createMenuKeyboard : List (List TelegramCallback) :=
  [[.startQuickCreate, .startGuidedCreate], [.menuHome]]

def quickCaptureKeyboard : List (List TelegramCallback) := [[.menuHome]]

def guidedAssigneeKeyboard : List (List TelegramCallback) := [[.draftSkipAssignee], [.menuHome]]

/-- One row for each candidate that has an employee id. -/
def candidateRows (candidates : List EmployeeCandidateView) (pick : Int → TelegramCallback) :
    List (List TelegramCallback) :=
  candidates.filterMap fun candidate => candidate.employeeId.map fun id => [pick id]

def guidedAssigneeSuggestionsKeyboard (candidates : List EmployeeCandidateView) :
    List (List TelegramCallback) :=
  candidateRows candidates .guidedAssigneeConfirm ++ [[.draftSkipAssignee], [.menuHome]]

def guidedDeadlineKeyboard : List (List TelegramCallback) := [[.draftSkipDeadline], [.menuHome]]

def guidedConfirmationKeyboard : List (List TelegramCallback) :=
  [[.draftSubmit], [.draftEdit .assignee, .draftEdit .description], [.draftEdit .deadline],
    [.menuHome]]

def voiceConfirmationKeyboard : List (List TelegramCallback) :=
  [[.voiceCreateConfirm], [.voiceCreateEdit, .voiceCreateCancel], [.menuHome]]

def voiceEditKeyboard : List (List TelegramCallback) :=
  [[.voiceCreateBack, .voiceCreateCancel], [.menuHome]]

def clarificationKeyboard (request : ClarificationRequest) : List (List TelegramCallback) :=
  candidateRows request.candidates .clarificationPickEmployee ++
  (if request.allowUnassigned then [[.clarificationCreateUnassigned]] else []) ++
  [[.menuCreate], [.menuHome]]

def registrationLinkKeyboard (candidates : List EmployeeCandidateView)
    (allowContinueUnlinked : Bool) : List (List TelegramCallback) :=
  candidateRows candidates .registrationPickEmployee ++
  (if allowContinueUnlinked then [[.registrationContinueUnlinked]] else [])

def outcomeKeyboard : TaskCreationOutcome → List (List TelegramCallback)
  | .created summary | .duplicateFound summary =>
    [[.openTask summary.taskUid .created .compact], [.menuCreate, .menuHome]]
  | .clarificationRequired _ => [[.menuCreate], [.menuHome]]

def createdTaskFollowupKeyboard (summary : TaskCreationSummary) (allowAssignOwner : Bool) :
    List (List TelegramCallback) :=
  [[.openTask summary.taskUid .created .compact]] ++
  (if allowAssignOwner then [[.startTaskReassignInput summary.taskUid .created]] else []) ++
  [[.menuCreate, .menuHome]]

/-! ## Tasks -/

def taskListKeyboard (origin : TaskListOrigin) (page : TaskListPage) : List (List TelegramCallback) :=
  (page.sections.flatMap fun list => list.tasks).map (fun task =>
    [.openTask task.taskUid origin .compact]) ++
  (match page.nextCursor with
    | some cursor => [[.listTasks origin (some cursor)]]
    | none => []) ++
  [[.menuHome]]

def actionButton (action : TaskActionView) (details : TaskStatusDetails) (origin : TaskListOrigin) :
    TelegramCallback :=
  match action with
  | .cancel => .confirmTaskCancel details.taskUid origin
  | .addComment => .startTaskCommentInput details.taskUid origin
  | .reportBlocker => .startTaskBlockerInput details.taskUid origin
  | .reassign => .startTaskReassignInput details.taskUid origin
  | .startProgress => statusButton .startProgress rfl
  | .submitForReview => statusButton .submitForReview rfl
  | .approveReview => statusButton .approveReview rfl
  | .returnToWork => statusButton .returnToWork rfl
where
  /-- The `expect` of the source is the argument: the action resolves to a status. -/
  statusButton (action : TaskActionView) (h : (actionToStatus action).isSome = true) :
      TelegramCallback :=
    .updateTaskStatus details.taskUid ((actionToStatus action).get h) origin

def taskViewToggleButton (details : TaskStatusDetails) (origin : TaskListOrigin)
    (mode : TaskCardMode) : TelegramCallback :=
  match mode with
  | .compact => .openTask details.taskUid origin .expanded
  | .expanded => .openTask details.taskUid origin .compact

def secondaryActions (details : TaskStatusDetails) : List TaskActionView :=
  (details.availableActions.filter fun action =>
    some action ≠ nextBestAction details.availableActions).filter fun action =>
      !isDangerousAction action

def dangerousActions (details : TaskStatusDetails) : List TaskActionView :=
  details.availableActions.filter isDangerousAction

def taskDetailKeyboard (details : TaskStatusDetails) (origin : TaskListOrigin) (mode : TaskCardMode) :
    List (List TelegramCallback) :=
  let buttons (actions : List TaskActionView) := actions.map fun action =>
    actionButton action details origin
  (match nextBestAction details.availableActions with
    | some action => [[actionButton action details origin]]
    | none => []) ++
  chunks2 (buttons (secondaryActions details)) ++
  (if (buttons (dangerousActions details)).isEmpty then [] else [buttons (dangerousActions details)]) ++
  (if details.deliveryStatus = some .pendingAssigneeRegistration then
    [[.showDeliveryHelp details.taskUid origin]] else []) ++
  [[taskViewToggleButton details origin mode], [backCallback origin], [.menuHome]]

def cancelConfirmationKeyboard (taskUid : Uuid) (origin : TaskListOrigin) :
    List (List TelegramCallback) :=
  [[.executeTaskCancel taskUid origin, .openTask taskUid origin .compact], [.menuHome]]

def deliveryHelpKeyboard (taskUid : Uuid) (origin : TaskListOrigin) : List (List TelegramCallback) :=
  [[.openTask taskUid origin .compact], [.menuHome]]

/-! ## Administration -/

def adminMenuKeyboard : List (List TelegramCallback) :=
  [[.adminUsers], [.adminAudit, .adminSecurityAudit], [.adminFeatures], [.menuHome]]

def adminUsersKeyboard (users : List User) : List (List TelegramCallback) :=
  (users.filterMap fun user => user.id.map fun id => [.adminUserDetails id]) ++
  [[.adminMenu], [.menuHome]]

/-- No button for the role the user has already. -/
def roleRow (target : User) (userId : Int) : List TelegramCallback :=
  ([(.user, .user), (.manager, .manager), (.admin, .admin)] : List (AdminRoleOption × UserRole)).filterMap
    fun role => if target.role = role.2 then none else some (.adminUserPrepareRoleChange userId role.1)

def adminUserDetailsKeyboard (target : User) : List (List TelegramCallback) :=
  match target.id with
  | none => [[.adminMenu]]
  | some userId =>
    (if (roleRow target userId).isEmpty then [] else [roleRow target userId]) ++
    (if target.deactivatedAt.isSome then [[.adminUserPrepareReactivate userId]]
      else [[.adminUserPrepareDeactivate userId]]) ++
    [[.adminUsers], [.adminMenu], [.menuHome]]

def adminConfirmationKeyboard (nonce : String) : List (List TelegramCallback) :=
  [[.adminConfirmNonce nonce, .adminCancelPending], [.adminMenu]]

def adminBackKeyboard : List (List TelegramCallback) := [[.adminMenu], [.menuHome]]

def adminFeaturesKeyboard (flags : List (FeatureFlag × Bool)) : List (List TelegramCallback) :=
  flags.map (fun flag => [.adminToggleFeature flag.1.asKey]) ++ [[.adminMenu], [.menuHome]]

/-! ## What the keyboards build -/

inductive Keyboard where
  | mainMenu (actor : User)
  | createMenu | quickCapture | guidedAssignee | guidedDeadline | guidedConfirmation
  | voiceConfirmation | voiceEdit | adminMenu | adminBack
  | guidedAssigneeSuggestions (candidates : List EmployeeCandidateView)
  | clarification (request : ClarificationRequest)
  | registrationLink (candidates : List EmployeeCandidateView) (allowContinueUnlinked : Bool)
  | outcome (outcome : TaskCreationOutcome)
  | createdTaskFollowup (summary : TaskCreationSummary) (allowAssignOwner : Bool)
  | taskList (origin : TaskListOrigin) (page : TaskListPage)
  | taskDetail (details : TaskStatusDetails) (origin : TaskListOrigin) (mode : TaskCardMode)
  | cancelConfirmation (taskUid : Uuid) (origin : TaskListOrigin)
  | deliveryHelp (taskUid : Uuid) (origin : TaskListOrigin)
  | adminUsers (users : List User)
  | adminUserDetails (target : User)
  | adminConfirmation (nonce : String)
  | adminFeatures (flags : List (FeatureFlag × Bool))

namespace Keyboard

def rows : Keyboard → List (List TelegramCallback)
  | mainMenu actor => mainMenuKeyboard actor
  | createMenu => createMenuKeyboard
  | quickCapture => quickCaptureKeyboard
  | guidedAssignee => guidedAssigneeKeyboard
  | guidedDeadline => guidedDeadlineKeyboard
  | guidedConfirmation => guidedConfirmationKeyboard
  | voiceConfirmation => voiceConfirmationKeyboard
  | voiceEdit => voiceEditKeyboard
  | adminMenu => adminMenuKeyboard
  | adminBack => adminBackKeyboard
  | guidedAssigneeSuggestions candidates => guidedAssigneeSuggestionsKeyboard candidates
  | clarification request => clarificationKeyboard request
  | registrationLink candidates allow => registrationLinkKeyboard candidates allow
  | outcome o => outcomeKeyboard o
  | createdTaskFollowup summary allow => createdTaskFollowupKeyboard summary allow
  | taskList origin page => taskListKeyboard origin page
  | taskDetail details origin mode => taskDetailKeyboard details origin mode
  | cancelConfirmation taskUid origin => cancelConfirmationKeyboard taskUid origin
  | deliveryHelp taskUid origin => deliveryHelpKeyboard taskUid origin
  | adminUsers users => adminUsersKeyboard users
  | adminUserDetails target => adminUserDetailsKeyboard target
  | adminConfirmation nonce => adminConfirmationKeyboard nonce
  | adminFeatures flags => adminFeaturesKeyboard flags

/-- What the callers hand over: ids are `i64`, a cursor is the uid `list_tasks` puts there, a nonce
is one `generate_nonce` made. -/
def Valid : Keyboard → Prop
  | guidedAssigneeSuggestions candidates | registrationLink candidates _ =>
    ∀ c ∈ candidates, ∀ id, c.employeeId = some id → IsI64 id
  | clarification request => ∀ c ∈ request.candidates, ∀ id, c.employeeId = some id → IsI64 id
  | taskList _ page => ∀ cursor, page.nextCursor = some cursor → ∃ uid : Uuid, cursor = uid.toText
  | adminUsers users => ∀ u ∈ users, ∀ id, u.id = some id → IsI64 id
  | adminUserDetails target => ∀ id, target.id = some id → IsI64 id
  | adminConfirmation nonce => ∃ uid : Uuid, nonce = uid.simple
  | _ => True

end Keyboard

/-- Some keyboard has a button with this callback. -/
def Buildable (callback : TelegramCallback) : Prop :=
  ∃ k : Keyboard, k.Valid ∧ ∃ row ∈ k.rows, callback ∈ row

end TaskBot
