import TaskBot.Domain.FeatureFlags
import TaskBot.Domain.User
import TaskBot.UseCases.TaskViews

/-!
# Callbacks and their text

`TelegramCallback` is what a button asks for.  `encodeCallback` writes it into the
`callback_data` of the button: a group letter, a verb and the arguments, separated
by colons.  Every argument has a short code of its own, except a task, which is
named by the 36 bytes of its hyphenated uid.
-/

namespace TaskBot

/-! ## Types -/

inductive TaskListOrigin where
  | assigned | created | team | focus | managerInbox
deriving DecidableEq, Repr

inductive TaskCardMode where
  | compact | expanded
deriving DecidableEq, Repr

inductive DraftEditField where
  | assignee | description | deadline
deriving DecidableEq, Repr

inductive AdminRoleOption where
  | user | manager | admin
deriving DecidableEq, Repr

inductive TelegramCallback where
  | menuHome | menuHelp | menuSettings | menuStats | menuTeamStats | menuCreate | menuSyncEmployees
  | listTasks (origin : TaskListOrigin) (cursor : Option String)
  | openTask (taskUid : Uuid) (origin : TaskListOrigin) (mode : TaskCardMode)
  | updateTaskStatus (taskUid : Uuid) (nextStatus : TaskStatus) (origin : TaskListOrigin)
  | confirmTaskCancel (taskUid : Uuid) (origin : TaskListOrigin)
  | executeTaskCancel (taskUid : Uuid) (origin : TaskListOrigin)
  | startTaskCommentInput (taskUid : Uuid) (origin : TaskListOrigin)
  | startTaskBlockerInput (taskUid : Uuid) (origin : TaskListOrigin)
  | startTaskReassignInput (taskUid : Uuid) (origin : TaskListOrigin)
  | showDeliveryHelp (taskUid : Uuid) (origin : TaskListOrigin)
  | startQuickCreate | startGuidedCreate
  | voiceCreateConfirm | voiceCreateEdit | voiceCreateBack | voiceCreateCancel
  | registrationPickEmployee (employeeId : Int)
  | registrationContinueUnlinked
  | clarificationPickEmployee (employeeId : Int)
  | clarificationCreateUnassigned
  | draftSkipAssignee | draftSkipDeadline | draftSubmit
  | draftEdit (field : DraftEditField)
  | guidedAssigneeConfirm (employeeId : Int)
  | adminMenu | adminUsers
  | adminUserDetails (userId : Int)
  | adminUserPrepareRoleChange (userId : Int) (nextRole : AdminRoleOption)
  | adminUserPrepareDeactivate (userId : Int)
  | adminUserPrepareReactivate (userId : Int)
  | adminConfirmNonce (nonce : String)
  | adminCancelPending | adminAudit | adminSecurityAudit | adminFeatures
  | adminToggleFeature (flagKey : String)
deriving DecidableEq, Repr

/-- The status an action button asks for, for the actions that are a transition. -/
def actionToStatus : TaskActionView → Option TaskStatus
  | .startProgress => some .inProgress
  | .submitForReview => some .inReview
  | .approveReview => some .completed
  | .returnToWork => some .inProgress
  | .cancel | .reportBlocker | .addComment | .reassign => none

/-! ## Codes -/

def originCode : TaskListOrigin → String
  | .assigned => "assigned"
  | .created => "created"
  | .team => "team"
  | .focus => "focus"
  | .managerInbox => "manager_inbox"

def taskCardModeCode : TaskCardMode → String
  | .compact => "compact"
  | .expanded => "expanded"

def taskStatusCode : TaskStatus → String
  | .created => "created"
  | .sent => "sent"
  | .inProgress => "in_progress"
  | .blocked => "blocked"
  | .inReview => "in_review"
  | .completed => "completed"
  | .cancelled => "cancelled"

def draftFieldCode : DraftEditField → String
  | .assignee => "assignee"
  | .description => "description"
  | .deadline => "deadline"

def AdminRoleOption.asCode : AdminRoleOption → String
  | user => "u"
  | manager => "m"
  | admin => "a"

def callbackGroupMenu : String := "m"
def callbackGroupList : String := "l"
def callbackGroupTask : String := "t"
def callbackGroupCreate : String := "c"
def callbackGroupDraft : String := "d"
def callbackGroupInput : String := "i"
def callbackGroupAdmin : String := "a"
def emptyCursor : String := "_"

/-! ## Encoding -/

/-- The fields of a callback, in the order in which they are written. -/
def callbackFields : TelegramCallback → List String
  | .menuHome => [callbackGroupMenu, "home"]
  | .menuHelp => [callbackGroupMenu, "help"]
  | .menuSettings => [callbackGroupMenu, "settings"]
  | .menuStats => [callbackGroupMenu, "stats"]
  | .menuTeamStats => [callbackGroupMenu, "team_stats"]
  | .menuCreate => [callbackGroupMenu, "create"]
  | .menuSyncEmployees => [callbackGroupMenu, "sync"]
  | .listTasks origin cursor => [callbackGroupList, originCode origin, cursor.getD emptyCursor]
  | .openTask uid origin mode =>
    [callbackGroupTask, "open", originCode origin, uid.toText, taskCardModeCode mode]
  | .updateTaskStatus uid next origin =>
    [callbackGroupTask, "status", originCode origin, uid.toText, taskStatusCode next]
  | .confirmTaskCancel uid origin =>
    [callbackGroupTask, "cancel_confirm", originCode origin, uid.toText]
  | .executeTaskCancel uid origin =>
    [callbackGroupTask, "cancel_execute", originCode origin, uid.toText]
  | .startTaskCommentInput uid origin => [callbackGroupInput, "comment", originCode origin, uid.toText]
  | .startTaskBlockerInput uid origin => [callbackGroupInput, "blocker", originCode origin, uid.toText]
  | .startTaskReassignInput uid origin =>
    [callbackGroupInput, "reassign", originCode origin, uid.toText]
  | .showDeliveryHelp uid origin =>
    [callbackGroupInput, "delivery_help", originCode origin, uid.toText]
  | .startQuickCreate => [callbackGroupCreate, "quick"]
  | .startGuidedCreate => [callbackGroupCreate, "guided"]
  | .voiceCreateConfirm => [callbackGroupCreate, "voice_confirm"]
  | .voiceCreateEdit => [callbackGroupCreate, "voice_edit"]
  | .voiceCreateBack => [callbackGroupCreate, "voice_back"]
  | .voiceCreateCancel => [callbackGroupCreate, "voice_cancel"]
  | .registrationPickEmployee id => [callbackGroupCreate, "register_employee", toString id]
  | .registrationContinueUnlinked => [callbackGroupCreate, "register_unlinked"]
  | .clarificationPickEmployee id => [callbackGroupCreate, "clarify_employee", toString id]
  | .clarificationCreateUnassigned => [callbackGroupCreate, "clarify_unassigned"]
  | .draftSkipAssignee => [callbackGroupDraft, "skip_assignee"]
  | .draftSkipDeadline => [callbackGroupDraft, "skip_deadline"]
  | .draftSubmit => [callbackGroupDraft, "submit"]
  | .draftEdit field => [callbackGroupDraft, "edit", draftFieldCode field]
  | .guidedAssigneeConfirm id => [callbackGroupDraft, "assignee_pick", toString id]
  | .adminMenu => [callbackGroupAdmin, "menu"]
  | .adminUsers => [callbackGroupAdmin, "users"]
  | .adminUserDetails id => [callbackGroupAdmin, "user", toString id]
  | .adminUserPrepareRoleChange id role => [callbackGroupAdmin, "role", toString id, role.asCode]
  | .adminUserPrepareDeactivate id => [callbackGroupAdmin, "deact", toString id]
  | .adminUserPrepareReactivate id => [callbackGroupAdmin, "react", toString id]
  | .adminConfirmNonce nonce => [callbackGroupAdmin, "confirm", nonce]
  | .adminCancelPending => [callbackGroupAdmin, "cancel"]
  | .adminAudit => [callbackGroupAdmin, "audit"]
  | .adminSecurityAudit => [callbackGroupAdmin, "sec_audit"]
  | .adminFeatures => [callbackGroupAdmin, "feat"]
  | .adminToggleFeature key => [callbackGroupAdmin, "ftog", key]

/-- `encode_callback`. -/
def encodeCallback (callback : TelegramCallback) : String := ":".intercalate (callbackFields callback)

end TaskBot
