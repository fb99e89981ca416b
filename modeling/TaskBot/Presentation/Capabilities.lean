import TaskBot.Presentation.Dispatcher

/-!
# What an update may do

The handlers of messages and of callbacks, with everything they may call, and every
creation they may leave waiting:

    routeMessage bot message actor          touches within   MessageMay message actor
    runCallback bot message actor callback  touches within   CallbackMay bot w message actor callback

where `w` is the world the handler starts in.  A handler that is not listed touches
nothing.
-/

namespace TaskBot

open Sql Calls Effects

/-! ## Messages -/

/-- What is created from a message: the message itself, or the text behind its command.  A voice
message creates nothing. -/
structure IsIntake (message intake : IncomingMessage) : Prop where
  source : ∀ voice, message.content ≠ .voice voice
  text : ∀ voice, intake.content ≠ .voice voice
  origin : intake.isVoiceOrigin = message.isVoiceOrigin

inductive MessageMay (message : IncomingMessage) (actor : User) : Happening → Prop where
  | create (intake : IncomingMessage) (h : IsIntake message intake) :
      MessageMay message actor (.called (.createTask intake .auto))
  | pend (intake : IncomingMessage) (h : IsIntake message intake) :
      MessageMay message actor (.pended message.chatId intake)
  | answer (session : TaskInteractionSession) (text : String) :
      MessageMay message actor (.called (session.call actor text))
  | sync : MessageMay message actor (.called .syncEmployees)

section

variable {bot : Bot} {actor : User} {message : IncomingMessage} {may : Happening → Prop} {w : World}

theorem createAndPresent_may {intake : IncomingMessage} (h : IsIntake message intake)
    (completion : SessionCompletion) :
    Touches (MessageMay message actor)
      (GuidedCreateCoordinator.createAndPresent bot message.chatId intake completion) w :=
  GuidedCreateCoordinator.createAndPresent_touches (.create intake h) (.pend intake h) completion

theorem isIntake_self (h : ∀ voice, message.content ≠ .voice voice) : IsIntake message message :=
  ⟨h, h, rfl⟩

theorem not_voice_of_textPayload {text : String} (h : message.textPayload = some text)
    (voice : VoiceAttachment) : message.content ≠ .voice voice := by
  intro hvoice
  unfold IncomingMessage.textPayload at h
  rw [hvoice] at h
  cases h

theorem runCommand_touches (hpayload : ∀ voice, message.content ≠ .voice voice) (command : BotCommand) :
    Touches (MessageMay message actor) (runCommand bot message actor command) w := by
  cases command with
  | start | menu => exact showMainMenuFresh_quiet _ w
  | help => exact showHelp_quiet _ w
  | newTask payload =>
    cases payload with
    | none => exact showCreateMenu_quiet _ w
    | some payload =>
      have hintake : IsIntake message { message with content := .text payload } :=
        ⟨hpayload, fun _ h => MessageContent.noConfusion h, rfl⟩
      exact createAndPresent_may hintake _
  | myTasks cursor | createdTasks cursor | teamTasks cursor => exact showTaskList_quiet cursor _ w
  | status taskUid => exact showTaskFromCommand_quiet taskUid _ w
  | cancelTask taskUid => exact executeCancelFromCommand_quiet taskUid _ w
  | stats => exact showStats_quiet _ _ w
  | teamStats =>
    refine Quiet.then (isEnabled_quiet _) fun enabled w' _ => ?_
    exact Quiet.ite (showStats_quiet _) (sendFreshScreen_quiet _ _ _) _ w'
  | settings => exact showSettings_quiet _ w
  | adminSyncEmployees => exact syncEmployees_touches .sync
  | admin => exact showAdminMenu_quiet _ w
  | find searched => exact runFindCommand_quiet searched _ w

theorem intakeMessage_touches :
    Touches (MessageMay message actor) (intakeMessage bot message actor) w := by
  unfold intakeMessage
  split
  · exact VoiceCreateCoordinator.start_quiet message _ w
  · next hvoice => exact createAndPresent_may (isIntake_self hvoice) _

/-- **What a message may do.** -/
theorem routeMessage_touches :
    Touches (MessageMay message actor) (routeMessage bot message actor) w := by
  unfold routeMessage
  cases hcommand : message.textPayload.bind parseCommand with
  | some command =>
    obtain ⟨text, htext, -⟩ := Option.bind_eq_some_iff.mp hcommand
    exact Quiet.then (clearTaskInteraction_quiet _) fun _ w' _ =>
      runCommand_touches (not_voice_of_textPayload htext) command
  | none =>
    refine Effects.Moves.read_bind rfl ?_
    cases w.creationSessions message.chatId with
    | some session =>
      refine handleSessionMessage_touches (fun hvoice => ?_) session
      exact ⟨.create message (isIntake_self hvoice), .pend message (isIntake_self hvoice)⟩
    | none =>
      refine Effects.Moves.read_bind rfl ?_
      cases w.taskInteractions message.chatId with
      | some session => exact handleTaskInteractionMessage_touches fun text _ => .answer session text
      | none => exact intakeMessage_touches

/-- **What an update with a message may do**, its registration included. -/
inductive UpdateMay (message : IncomingMessage) (may : Happening → Prop) : Happening → Prop where
  | register (l : Happening) (h : RegistrationDialog.May message l) : UpdateMay message may l
  | recordEvent (entry : SecurityAuditEntry) : UpdateMay message may (.called (.recordSecurityEvent entry))
  | handle (l : Happening) (h : may l) : UpdateMay message may l

theorem dispatchMessageInner_touches (hmay : ∀ actor l, MessageMay message actor l → may l) :
    Touches (UpdateMay message may) (dispatchMessageInner bot message) w := by
  have hregister : Touches (UpdateMay message may) (RegistrationDialog.registerActor bot message) w :=
    RegistrationDialog.registerActor_touches.mono fun h => h.mono .register
  refine Effects.Moves.bind hregister fun registered w₁ _ => ?_
  cases registered with
  | none => exact Quiet.pure _ _ w₁
  | some actor =>
    refine Effects.Moves.bind (RegistrationDialog.checkRateLimit_touches .recordEvent)
      fun allowed w₂ _ => ?_
    by_cases hallowed : allowed = true
    · simp only [if_pos hallowed]
      exact routeMessage_touches.mono fun h => h.mono fun l hl => .handle l (hmay actor l hl)
    · simp only [if_neg hallowed]
      exact Quiet.pure _ _ w₂

end

/-! ## Callbacks -/

/-- The press asks for the confirmation of the action: by an admin, about another user that is there. -/
structure OpensConfirmation (bot : Bot) (w : World) (actor : User) (callback : TelegramCallback)
    (actorId : Int) (action : PendingAdminAction) : Prop where
  registered : actor.id = some actorId
  target : action.targetUserId ≠ actorId
  prepared : ∃ target,
    ((AdminUseCase.getUser actor action.targetUserId).run (bot.plans 5) w.db).1 = .ok target ∧
      callback.preparedFor target = some action

/-- The creation of a voice draft, confirmed now. -/
def voiceIntake (bot : Bot) (chatId : Int) (actor : User) (draft : VoiceTaskDraft) : IncomingMessage :=
  buildVoiceMessage chatId actor draft (bot.clockOf 5 0)

def guidedIntake (bot : Bot) (chatId : Int) (actor : User) (draft : GuidedTaskDraft)
    (description : String) : IncomingMessage :=
  GuidedCreateCoordinator.buildGuidedMessage chatId actor draft description (bot.clockOf 5 0)

inductive CallbackMay (bot : Bot) (w : World) (message : IncomingMessage) (actor : User) :
    TelegramCallback → Happening → Prop where
  | sync : CallbackMay bot w message actor .menuSyncEmployees (.called .syncEmployees)
  | status (taskUid : Uuid) (nextStatus : TaskStatus) (origin : TaskListOrigin) :
      CallbackMay bot w message actor (.updateTaskStatus taskUid nextStatus origin)
        (.called (.updateTaskStatus actor taskUid nextStatus))
  | cancel (taskUid : Uuid) (origin : TaskListOrigin) :
      CallbackMay bot w message actor (.executeTaskCancel taskUid origin)
        (.called (.updateTaskStatus actor taskUid .cancelled))
  | voiceCreate (draft : VoiceTaskDraft) (h : w.creationSessions message.chatId = some (.voice draft)) :
      CallbackMay bot w message actor .voiceCreateConfirm
        (.called (.createTask (voiceIntake bot message.chatId actor draft) .auto))
  | voicePend (draft : VoiceTaskDraft) (h : w.creationSessions message.chatId = some (.voice draft)) :
      CallbackMay bot w message actor .voiceCreateConfirm
        (.pended message.chatId (voiceIntake bot message.chatId actor draft))
  | guidedCreate (draft : GuidedTaskDraft) (description : String) :
      CallbackMay bot w message actor .draftSubmit
        (.called (.createTask (guidedIntake bot message.chatId actor draft description)
          (GuidedCreateCoordinator.draftDecision draft)))
  | guidedPend (draft : GuidedTaskDraft) (description : String) :
      CallbackMay bot w message actor .draftSubmit
        (.pended message.chatId (guidedIntake bot message.chatId actor draft description))
  | pickForCreation (employeeId : Int) (waiting : IncomingMessage) (ids : List Int) (allow : Bool)
      (h : w.assigneeSelections message.chatId = some (.create waiting ids allow)) :
      CallbackMay bot w message actor (.clarificationPickEmployee employeeId)
        (.called (.createTask waiting (.employeeId employeeId)))
  | pickForTask (employeeId : Int) (taskUid : Uuid) (query : String) :
      CallbackMay bot w message actor (.clarificationPickEmployee employeeId)
        (.called (.reassignTask actor taskUid query (.employeeId employeeId)))
  | createUnassigned (waiting : IncomingMessage) (ids : List Int) (allow : Bool)
      (h : w.assigneeSelections message.chatId = some (.create waiting ids allow)) :
      CallbackMay bot w message actor .clarificationCreateUnassigned
        (.called (.createTask waiting .createUnassigned))
  | selectLink (callback : TelegramCallback) (selection : OnboardingLinkSelection)
      (h : RegistrationDialog.linkSelection callback = some selection) :
      CallbackMay bot w message actor callback (.called (.selectLink message selection))
  | register (callback : TelegramCallback) (selection : OnboardingLinkSelection)
      (decision : RegistrationLinkDecision)
      (h : RegistrationDialog.linkSelection callback = some selection) :
      CallbackMay bot w message actor callback (.called (.register message decision))
  | toggle (flagKey : String) (enabled : Bool) :
      CallbackMay bot w message actor (.adminToggleFeature flagKey)
        (.called (.toggleFeatureFlag actor flagKey enabled))
  | issue (callback : TelegramCallback) (actorId : Int) (action : PendingAdminAction)
      (h : OpensConfirmation bot w actor callback actorId action) :
      CallbackMay bot w message actor callback
        (.issued actorId bot.nonce action (bot.uptime 0) (bot.uptime 1))
  | consume (actorId : Int) (nonce : String) (result : Except NonceError PendingAdminAction)
      (hid : actor.id = some actorId) :
      CallbackMay bot w message actor (.adminConfirmNonce nonce)
        (consumed actorId nonce (bot.uptime 2) result)
  | act (nonce : String) (action : PendingAdminAction) :
      CallbackMay bot w message actor (.adminConfirmNonce nonce) (.called (action.call actor))

section

variable {bot : Bot} {actor : User} {message : IncomingMessage} {callback : TelegramCallback} {w w' : World}

theorem voiceCallback_touches {may : Happening → Prop} {go : Handler Unit} (hgo : Touches may go w) :
    Touches may (voiceCallback bot actor message.chatId go) w := by
  refine Effects.Moves.read_bind rfl ?_
  by_cases henabled : w.sharedFlags.isEnabled .voiceV2 = true
  · rw [if_pos henabled]
    exact hgo
  · rw [if_neg henabled]
    exact showMainMenu_quiet may w

theorem prepare_touches {userId : Int} {action : User → PendingAdminAction} (hdb : w.db = w'.db)
    (htarget : ∀ target, (action target).targetUserId = userId)
    (hprepared : ∀ target, callback.preparedFor target = some (action target)) :
    Touches (CallbackMay bot w' message actor callback)
      (prepareAdminAction bot actor message.chatId userId action) w := by
  refine prepareAdminAction_touches fun actorId target hid hself hfound => ?_
  refine .issue callback actorId (action target) ⟨hid, hself, target, ?_, hprepared target⟩
  rw [htarget, ← hdb]
  exact hfound

/-- **What a press may do.**  The handler starts in a world with the database, the sessions and the
selections of `w'`. -/
theorem callbackAction_touches (hdb : w.db = w'.db) (hsessions : w.creationSessions = w'.creationSessions)
    (hselections : w.assigneeSelections = w'.assigneeSelections) (callback : TelegramCallback) :
    Touches (CallbackMay bot w' message actor callback)
      (callbackAction bot actor message.chatId callback) w := by
  cases callback with
  | menuHome => exact showMainMenu_quiet _ w
  | menuHelp => exact showHelp_quiet _ w
  | menuSettings => exact showSettings_quiet _ w
  | menuStats => exact showStats_quiet _ _ w
  | menuTeamStats =>
    refine Quiet.then (isEnabled_quiet _) fun enabled w₁ _ => ?_
    exact Quiet.ite (showStats_quiet _) showMainMenu_quiet _ w₁
  | menuCreate => exact showCreateMenu_quiet _ w
  | menuSyncEmployees => exact syncEmployees_touches .sync
  | listTasks origin cursor => exact showTaskList_quiet cursor _ w
  | openTask taskUid origin mode => exact showTaskDetailsWithNotice_quiet _ _ _ w
  | updateTaskStatus taskUid nextStatus origin => exact updateTaskStatus_touches (.status _ _ _)
  | confirmTaskCancel taskUid origin => exact confirmTaskCancel_quiet _ w
  | executeTaskCancel taskUid origin => exact updateTaskStatus_touches (.cancel _ _)
  | startTaskCommentInput taskUid origin | startTaskBlockerInput taskUid origin
  | startTaskReassignInput taskUid origin => exact startTaskInteraction_quiet _ _ w
  | showDeliveryHelp taskUid origin => exact showDeliveryHelp_quiet _ w
  | startQuickCreate => exact GuidedCreateCoordinator.startQuick_quiet _ w
  | startGuidedCreate => exact GuidedCreateCoordinator.startGuided_quiet _ w
  | voiceCreateConfirm =>
    refine voiceCallback_touches (VoiceCreateCoordinator.submit_touches fun draft hdraft => ?_)
    rw [hsessions] at hdraft
    exact ⟨.voiceCreate draft hdraft, .voicePend draft hdraft⟩
  | voiceCreateEdit => exact voiceCallback_touches (VoiceCreateCoordinator.startEdit_quiet _ w)
  | voiceCreateBack => exact voiceCallback_touches (VoiceCreateCoordinator.returnToConfirmation_quiet _ w)
  | voiceCreateCancel => exact voiceCallback_touches (VoiceCreateCoordinator.cancel_quiet _ w)
  | registrationPickEmployee _ | registrationContinueUnlinked => exact Quiet.pure _ _ w
  | clarificationPickEmployee employeeId =>
    refine chooseClarifiedAssignee_touches (fun waiting ids allow hwaiting => ?_) fun uid _ query _ _ => ?_
    · rw [hselections] at hwaiting
      exact .pickForCreation employeeId waiting ids allow hwaiting
    · exact .pickForTask employeeId uid query
  | clarificationCreateUnassigned =>
    refine createWithoutAssignee_touches fun waiting ids allow hwaiting => ?_
    rw [hselections] at hwaiting
    exact .createUnassigned waiting ids allow hwaiting
  | draftSkipAssignee => exact GuidedCreateCoordinator.skipAssignee_quiet _ w
  | draftSkipDeadline => exact GuidedCreateCoordinator.skipDeadline_quiet _ w
  | draftSubmit =>
    exact GuidedCreateCoordinator.submit_touches fun draft description _ =>
      ⟨.guidedCreate draft description, .guidedPend draft description⟩
  | draftEdit field => exact GuidedCreateCoordinator.editField_quiet field _ w
  | guidedAssigneeConfirm employeeId => exact GuidedCreateCoordinator.confirmAssignee_quiet employeeId _ w
  | adminMenu => exact showAdminMenu_quiet _ w
  | adminUsers => exact showAdminUsers_quiet _ w
  | adminUserDetails userId => exact showAdminUserDetails_quiet userId _ w
  | adminUserPrepareRoleChange userId nextRole =>
    exact prepare_touches hdb (fun _ => rfl) fun _ => rfl
  | adminUserPrepareDeactivate userId =>
    exact prepare_touches hdb (fun _ => rfl) fun _ => rfl
  | adminUserPrepareReactivate userId =>
    exact prepare_touches hdb (fun _ => rfl) fun _ => rfl
  | adminConfirmNonce nonce =>
    exact executeAdminConfirmation_touches (fun actorId result hid => .consume actorId nonce result hid)
      fun _ action _ => .act nonce action
  | adminCancelPending => exact cancelAdminPending_quiet _ w
  | adminAudit => exact showAdminAudit_quiet _ w
  | adminSecurityAudit => exact showAdminSecurityAudit_quiet _ w
  | adminFeatures => exact showAdminFeatures_quiet _ w
  | adminToggleFeature flagKey => exact toggleAdminFeature_touches fun enabled => .toggle flagKey enabled

theorem runCallback_touches (callback : TelegramCallback) :
    Touches (CallbackMay bot w message actor callback) (runCallback bot message actor callback) w := by
  unfold runCallback
  cases hselection : RegistrationDialog.linkSelection callback with
  | some selection =>
    exact RegistrationDialog.handleRegistrationLinkCallback_touches (.selectLink callback selection hselection)
      fun decision => .register callback selection decision hselection
  | none =>
    refine Effects.Moves.ok_bind (exec_modify _ w) (.silent rfl rfl rfl) ?_
    refine callbackAction_touches ?_ ?_ ?_ callback
    all_goals rfl

/-! ## Admission -/

theorem admitPress_quiet (callbackId : String) : Quiet (admitPress bot callbackId message callback actor) := by
  refine Quiet.bind Quiet.get fun w => Quiet.ite ?_ (Quiet.ite ?_ ?_)
  all_goals exact Quiet.bind (answerCallback_quiet _ _) fun _ => Quiet.pure _

theorem admitCallback_touches (callbackId : String) :
    Touches (RegistrationDialog.May message) (admitCallback bot callbackId message callback) w := by
  refine Quiet.then (hydrateIfMissing_quiet _ _) fun _ w₁ _ => ?_
  refine Effects.Moves.bind RegistrationDialog.registerActor_touches fun registered w₂ _ => ?_
  cases registered with
  | none => exact Quiet.pure _ _ w₂
  | some actor => exact admitPress_quiet callbackId _ w₂

end

end TaskBot
