import TaskBot.Presentation.Screens
import TaskBot.UseCases.SearchTasks

/-!
# Texts and queries

No handler reads what a screen says, so the wording of a text of `ui` is left open:
`UiText` names the text and what it is made from.  The same holds for the use
cases that only look something up (`Queries`): the handlers show their answers.
-/

namespace TaskBot

/-- The functions of `ui` that make a text. -/
inductive UiText where
  | welcome (actor : User) | help | createMenu | quickCreatePrompt
  | settings (actor : User) (stats : Option StatsView)
  | stats (title : String) (stats : StatsView)
  | synced (count : Nat)
  | list (origin : TaskListOrigin) (page : TaskListPage)
  | guidedAssigneePrompt
  | guidedAssigneeClarification (message : String)
  | guidedDescriptionPrompt | guidedDeadlinePrompt
  | guidedConfirmation (draft : GuidedTaskDraft)
  | voiceEditPrompt (transcript : String)
  | taskCreation (outcome : TaskCreationOutcome)
  | taskDetail (details : TaskStatusDetails) (mode : TaskCardMode) (notice : Option String)
  | cancelConfirmation (details : TaskStatusDetails)
  | deliveryHelp (details : TaskStatusDetails)
  | taskPrompt (kind : TaskInteractionKind) (details : TaskStatusDetails)
  | registrationLink (message : String) (candidates : List EmployeeCandidateView)
  | onboardingWelcome
  | onboardingAskLastName (firstName : String)
  | onboardingRetry (reason : OnboardingRetryReason)
  | onboardingCompleted (actor : User)
  | adminMenu (actor : User)
  | adminUsers (users : List User) (actor : User)
  | adminUserDetails (target : User)
  | adminConfirm (action : PendingAdminAction)
  | adminRoleChanged (target : User) | adminDeactivated (target : User) | adminReactivated (target : User)
  | adminActionCancelled | adminNonceExpired | adminNonceWrongActor
  | adminAudit (entries : List AdminAuditEntry)
  | adminSecurityAudit (entries : List SecurityAuditEntry)
  | adminFeatures (flags : List (FeatureFlag × Bool))
  | adminAccessDenied | adminAccountDeactivated | adminSelfTarget | adminLastAdmin | adminUserNotFound
deriving DecidableEq, Repr

/-- The use cases that look something up: their answers in a database. -/
structure Queries where
  taskStatus : Db → User → Uuid → AppResult TaskStatusDetails
  resolveTaskUid : Db → String → AppResult Uuid
  listTasks : Db → User → TaskListScope → Option String → AppResult TaskListPage
  collectStats : Db → User → StatsScope → AppResult StatsView
  searchTasks : Db → User → SearchQuery → AppResult (List TaskListItem)

/-- Every query fails. -/
def Queries.unavailable : Queries where
  taskStatus _ _ _ := .error (databaseError "offline")
  resolveTaskUid _ _ := .error (databaseError "offline")
  listTasks _ _ _ _ := .error (databaseError "offline")
  collectStats _ _ _ := .error (databaseError "offline")
  searchTasks _ _ _ := .error (databaseError "offline")

end TaskBot
