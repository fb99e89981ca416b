import TaskBot.Presentation.Screens

/-!
# Which buttons a screen accepts

Every screen belongs to a stage, and a stage has a list of the callbacks it accepts.
A task card and the confirmation of a cancellation are stricter: they accept what
names a task only for their own task.

    d.accepts callback → callback.cardTaskUid = some uid → d.cardUid = some uid
                                       unless d is the delivery help (accepts_cardTask)

The dispatcher refuses a callback its screen does not accept only if the callback is
on the list of mutating ones (`isMutating`); the employee sync is not.
-/

namespace TaskBot

inductive Stage where
  | unknown | registration | onboarding | main | creation | taskDetail | admin
deriving DecidableEq, Repr

def ScreenDescriptor.stage : ScreenDescriptor → Stage
  | .unknown => .unknown
  | .processing => .unknown
  | .registrationLinking => .registration
  | .onboardingFirstName | .onboardingLastName => .onboarding
  | .mainMenu | .help | .settings | .stats _ | .syncEmployeesResult | .taskList _ => .main
  | .createMenu | .quickCreate | .guidedStep _ | .guidedAssigneeOptions | .voiceCreate _
  | .taskCreationResult _ | .taskInteractionPrompt _ _ _ => .creation
  | .taskDetail _ _ _ | .cancelConfirmation _ _ | .deliveryHelp _ _ => .taskDetail
  | .adminMenu | .adminUsers | .adminUserDetails _ | .adminConfirm _ | .adminAudit
  | .adminSecurityAudit | .adminFeatures => .admin

/-- The capability matrix. -/
def Stage.acceptsCallback : Stage → TelegramCallback → Bool
  | .onboarding, _ => false
  | .registration, _ => false
  | .main, callback =>
      match callback with
      | .menuHome | .menuHelp | .menuSettings | .menuStats | .menuTeamStats | .menuCreate
      | .menuSyncEmployees | .listTasks _ _ | .openTask _ _ _ | .startQuickCreate | .startGuidedCreate
      | .adminMenu => true
      | _ => false
  | .creation, callback =>
      match callback with
      | .startQuickCreate | .startGuidedCreate | .voiceCreateConfirm | .voiceCreateEdit
      | .voiceCreateBack | .voiceCreateCancel | .draftSkipAssignee | .draftSkipDeadline | .draftSubmit
      | .draftEdit _ | .clarificationPickEmployee _ | .clarificationCreateUnassigned
      | .guidedAssigneeConfirm _ | .menuHome | .openTask _ _ _ => true
      | _ => false
  | .taskDetail, callback =>
      match callback with
      | .menuHome | .menuHelp | .listTasks _ _ | .openTask _ _ _ | .updateTaskStatus _ _ _
      | .confirmTaskCancel _ _ | .executeTaskCancel _ _ | .startTaskCommentInput _ _
      | .startTaskBlockerInput _ _ | .startTaskReassignInput _ _ | .showDeliveryHelp _ _ => true
      | _ => false
  | .admin, callback =>
      match callback with
      | .adminMenu | .adminUsers | .adminUserDetails _ | .adminUserPrepareRoleChange _ _
      | .adminUserPrepareDeactivate _ | .adminUserPrepareReactivate _ | .adminConfirmNonce _
      | .adminCancelPending | .adminAudit | .adminSecurityAudit | .adminFeatures
      | .adminToggleFeature _ | .menuHome => true
      | _ => false
  | .unknown, _ => true

/-- The task of a callback that a task card accepts for its own task only. -/
def TelegramCallback.cardTaskUid : TelegramCallback → Option Uuid
  | .updateTaskStatus uid _ _ | .confirmTaskCancel uid _ | .executeTaskCancel uid _
  | .startTaskCommentInput uid _ | .startTaskBlockerInput uid _ | .startTaskReassignInput uid _
  | .showDeliveryHelp uid _ => some uid
  | _ => none

/-- The task of a card, or of the confirmation for it. -/
def ScreenDescriptor.cardUid : ScreenDescriptor → Option Uuid
  | .taskDetail uid _ _ | .cancelConfirmation uid _ => some uid
  | _ => none

def ScreenDescriptor.accepts (descriptor : ScreenDescriptor) (callback : TelegramCallback) : Bool :=
  match descriptor.cardUid, callback.cardTaskUid with
  | some activeUid, some taskUid => activeUid = taskUid
  | _, _ =>
      match descriptor, callback with
      | .registrationLinking, .registrationPickEmployee _ => true
      | .registrationLinking, .registrationContinueUnlinked => true
      | _, _ => descriptor.stage.acceptsCallback callback

def TelegramCallback.isMutating : TelegramCallback → Bool
  | .updateTaskStatus _ _ _ | .executeTaskCancel _ _ | .draftSubmit | .voiceCreateConfirm
  | .registrationPickEmployee _ | .registrationContinueUnlinked | .clarificationPickEmployee _
  | .clarificationCreateUnassigned | .guidedAssigneeConfirm _ | .adminConfirmNonce _
  | .adminToggleFeature _ => true
  | _ => false

/-- A screen the dispatcher has shown to be used. -/
def ScreenDescriptor.isReal : ScreenDescriptor → Bool
  | .unknown | .processing => false
  | _ => true

/-- The task a screen shows. -/
def ScreenDescriptor.shownTask : ScreenDescriptor → Option Uuid
  | .taskDetail uid _ _ | .cancelConfirmation uid _ | .taskInteractionPrompt uid _ _
  | .deliveryHelp uid _ => some uid
  | .taskCreationResult uid => uid
  | _ => none

/-- **What names a task is accepted by a real screen for the task it shows**, save by the delivery
help, which takes any. -/
theorem accepts_cardTask {d : ScreenDescriptor} {callback : TelegramCallback} {uid : Uuid}
    (hreal : d.isReal = true) (h : d.accepts callback = true) (huid : callback.cardTaskUid = some uid) :
    d.cardUid = some uid ∨ ∃ shown origin, d = .deliveryHelp shown origin := by
  unfold ScreenDescriptor.accepts at h
  cases hcard : d.cardUid with
  | some activeUid =>
    rw [hcard, huid] at h
    exact .inl (congrArg some (of_decide_eq_true h))
  | none =>
    rw [hcard] at h
    cases callback with
    | updateTaskStatus _ _ _ | confirmTaskCancel _ _ | executeTaskCancel _ _ | startTaskCommentInput _ _
    | startTaskBlockerInput _ _ | startTaskReassignInput _ _ | showDeliveryHelp _ _ =>
      cases d with
      | deliveryHelp shown origin => exact .inr ⟨shown, origin, rfl⟩
      | _ => simp_all [ScreenDescriptor.stage, Stage.acceptsCallback, ScreenDescriptor.isReal,
          ScreenDescriptor.cardUid]
    | _ => cases huid

theorem shownTask_of_cardUid {d : ScreenDescriptor} {uid : Uuid} (h : d.cardUid = some uid) :
    d.shownTask = some uid := by
  cases d <;> first | exact h | cases h

end TaskBot
