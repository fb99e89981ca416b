import TaskBot.Presentation.Acceptance
import TaskBot.Presentation.AdminPanel
import TaskBot.Presentation.Commands
import TaskBot.Presentation.RegistrationDialog
import TaskBot.Presentation.TaskDialogs

/-!
# The dispatcher

A message goes to the command it spells, to the dialog that is open in its chat, or
to the creation of a task.  A press goes to the handler of its callback, unless the
callback is a mutating one and the active screen of the chat is another message or
does not accept it.

A duplicate of an update is dropped, and what an update installs for its chat goes
with it (`deliver`).
-/

namespace TaskBot

open Sql Calls Effects

/-! ## Updates -/

structure Sender where
  id : Nat
  fullName : String
  username : Option String
deriving DecidableEq, Repr

structure TelegramVoice where
  fileId : String
  fileUniqueId : String
  duration : Nat
  mimeType : Option String
  fileSize : Nat
deriving DecidableEq, Repr

structure TelegramMessage where
  id : Int
  chatId : Int
  sender : Option Sender
  text : Option String
  voice : Option TelegramVoice
deriving DecidableEq, Repr

structure MessageRef where
  id : Int
  chatId : Int
deriving DecidableEq, Repr

/-- The press of a button.  `data` is the text that comes with it, `parsed` what `parse_callback`
reads there, and `idHash` the hash of `id`; none of them need stem from a button of the bot. -/
structure CallbackQuery where
  id : String
  idHash : Int
  sender : Sender
  message : Option MessageRef
  data : Option String
  parsed : Option TelegramCallback
deriving DecidableEq, Repr

/-- `i64::try_from`. -/
def senderIdOf (sender : Sender) : Option Int :=
  if sender.id < 2 ^ 63 then some sender.id else none

def unknownFileSize : Nat := 4294967295

def voiceAttachmentOf (voice : TelegramVoice) : VoiceAttachment :=
  ⟨voice.fileId, voice.fileUniqueId, voice.duration, voice.mimeType,
    if voice.fileSize = unknownFileSize then none else some voice.fileSize⟩

def messageContentOf (message : TelegramMessage) : Option MessageContent :=
  match message.text, message.voice with
  | some text, _ => some (if text.toList.head? = some '/' then .command text else .text text)
  | none, some voice => some (.voice (voiceAttachmentOf voice))
  | none, none => none

def toIncomingMessage (now : Instant) (message : TelegramMessage) : Option IncomingMessage := do
  let sender ← message.sender
  let content ← messageContentOf message
  let senderId ← senderIdOf sender
  pure ⟨message.id, message.chatId, senderId, sender.fullName, sender.username, content, now, none, false⟩

def callbackToIncomingMessage (now : Instant) (press : CallbackQuery) : Option IncomingMessage := do
  let message ← press.message
  let senderId ← senderIdOf press.sender
  pure ⟨message.id, message.chatId, senderId, press.sender.fullName, press.sender.username,
    .command (press.data.getD ""), now, none, false⟩

section

variable (bot : Bot)

/-! ## Commands -/

def teamAnalyticsOffText : String :=
  "📊 Командная аналитика пока не включена.\nОбратитесь к администратору."

def handleNewTaskCommand (message : IncomingMessage) (payload : Option String) : Handler Unit :=
  match payload with
  | some payload =>
      GuidedCreateCoordinator.createAndPresent bot message.chatId
        { message with content := .text payload } .clear
  | none => showCreateMenu bot message.chatId

def teamStatsCommand (actor : User) (chatId : Int) : Handler Unit := do
  let enabled ← isEnabled .teamAnalytics
  if enabled then showStats bot actor chatId .team
  else sendFreshScreen bot chatId .mainMenu ⟨teamAnalyticsOffText, mainMenuKeyboard actor⟩

def runCommand (message : IncomingMessage) (actor : User) : BotCommand → Handler Unit
  | .start | .menu => showMainMenuFresh bot actor message.chatId
  | .help => showHelp bot actor message.chatId
  | .newTask payload => handleNewTaskCommand bot message payload
  | .myTasks cursor => showTaskList bot actor message.chatId .assigned cursor
  | .createdTasks cursor => showTaskList bot actor message.chatId .created cursor
  | .teamTasks cursor => showTaskList bot actor message.chatId .team cursor
  | .status taskUid => showTaskFromCommand bot actor message.chatId taskUid
  | .cancelTask taskUid => executeCancelFromCommand bot actor message.chatId taskUid
  | .stats => showStats bot actor message.chatId .personal
  | .teamStats => teamStatsCommand bot actor message.chatId
  | .settings => showSettings bot actor message.chatId
  | .adminSyncEmployees => syncEmployees bot actor message.chatId
  | .admin => showAdminMenu bot actor message.chatId
  | .find searched => runFindCommand bot actor message.chatId searched

def handleCommand (message : IncomingMessage) (actor : User) (command : BotCommand) : Handler Unit := do
  clearTaskInteraction message.chatId
  runCommand bot message actor command

/-! ## Callbacks -/

def menuTeamStats (actor : User) (chatId : Int) : Handler Unit := do
  let enabled ← isEnabled .teamAnalytics
  if enabled then showStats bot actor chatId .team else showMainMenu bot actor chatId

/-- The buttons of the voice dialog work while it is switched on. -/
def voiceCallback (actor : User) (chatId : Int) (go : Handler Unit) : Handler Unit := do
  let enabled ← isEnabled .voiceV2
  if enabled then go else showMainMenu bot actor chatId

def callbackAction (actor : User) (chatId : Int) : TelegramCallback → Handler Unit
  | .menuHome => showMainMenu bot actor chatId
  | .menuHelp => showHelp bot actor chatId
  | .menuSettings => showSettings bot actor chatId
  | .menuStats => showStats bot actor chatId .personal
  | .menuTeamStats => menuTeamStats bot actor chatId
  | .menuCreate => showCreateMenu bot chatId
  | .menuSyncEmployees => syncEmployees bot actor chatId
  | .listTasks origin cursor => showTaskList bot actor chatId origin cursor
  | .openTask taskUid origin mode => showTaskDetails bot actor chatId taskUid origin mode
  | .updateTaskStatus taskUid nextStatus origin =>
      updateTaskStatus bot actor chatId taskUid nextStatus origin
  | .confirmTaskCancel taskUid origin => confirmTaskCancel bot actor chatId taskUid origin
  | .executeTaskCancel taskUid origin => updateTaskStatus bot actor chatId taskUid .cancelled origin
  | .startTaskCommentInput taskUid origin => startTaskCommentInput bot actor chatId taskUid origin
  | .startTaskBlockerInput taskUid origin => startTaskBlockerInput bot actor chatId taskUid origin
  | .startTaskReassignInput taskUid origin => startTaskReassignInput bot actor chatId taskUid origin
  | .showDeliveryHelp taskUid origin => showDeliveryHelp bot actor chatId taskUid origin
  | .startQuickCreate => GuidedCreateCoordinator.startQuick bot chatId
  | .startGuidedCreate => GuidedCreateCoordinator.startGuided bot chatId
  | .voiceCreateConfirm =>
      voiceCallback bot actor chatId (VoiceCreateCoordinator.submit bot actor chatId)
  | .voiceCreateEdit => voiceCallback bot actor chatId (VoiceCreateCoordinator.startEdit bot chatId)
  | .voiceCreateBack =>
      voiceCallback bot actor chatId (VoiceCreateCoordinator.returnToConfirmation bot actor chatId)
  | .voiceCreateCancel => voiceCallback bot actor chatId (VoiceCreateCoordinator.cancel bot chatId)
  | .registrationPickEmployee _ | .registrationContinueUnlinked => pure ()
  | .clarificationPickEmployee employeeId => chooseClarifiedAssignee bot actor chatId employeeId
  | .clarificationCreateUnassigned => createWithoutAssigneeAfterClarification bot chatId
  | .draftSkipAssignee => GuidedCreateCoordinator.skipAssignee bot chatId
  | .draftSkipDeadline => GuidedCreateCoordinator.skipDeadline bot chatId
  | .draftSubmit => GuidedCreateCoordinator.submit bot actor chatId
  | .draftEdit field => GuidedCreateCoordinator.editField bot chatId field
  | .guidedAssigneeConfirm employeeId => GuidedCreateCoordinator.confirmAssignee bot chatId employeeId
  | .adminMenu => showAdminMenu bot actor chatId
  | .adminUsers => showAdminUsers bot actor chatId
  | .adminUserDetails userId => showAdminUserDetails bot actor chatId userId
  | .adminUserPrepareRoleChange userId nextRole => prepareAdminRoleChange bot actor chatId userId nextRole
  | .adminUserPrepareDeactivate userId => prepareAdminDeactivate bot actor chatId userId
  | .adminUserPrepareReactivate userId => prepareAdminReactivate bot actor chatId userId
  | .adminConfirmNonce nonce => executeAdminConfirmation bot actor chatId nonce
  | .adminCancelPending => cancelAdminPending bot actor chatId
  | .adminAudit => showAdminAudit bot actor chatId
  | .adminSecurityAudit => showAdminSecurityAudit bot actor chatId
  | .adminFeatures => showAdminFeatures bot actor chatId
  | .adminToggleFeature flagKey => toggleAdminFeature bot actor chatId flagKey

def handleCallbackAction (actor : User) (chatId : Int) (callback : TelegramCallback) : Handler Unit := do
  clearTaskInteraction chatId
  callbackAction bot actor chatId callback

/-! ## Messages -/

def taskInteraction (chatId : Int) : Handler (Option TaskInteractionSession) := do
  let w ← get
  pure (w.taskInteractions chatId)

/-- A message outside of all dialogs. -/
def intakeMessage (message : IncomingMessage) (actor : User) : Handler Unit :=
  match message.content with
  | .voice _ => VoiceCreateCoordinator.start bot actor message
  | _ => GuidedCreateCoordinator.createAndPresent bot message.chatId message .clear

def routeMessage (message : IncomingMessage) (actor : User) : Handler Unit :=
  match message.textPayload.bind parseCommand with
  | some command => handleCommand bot message actor command
  | none => do
      let session ← creationSession message.chatId
      match session with
      | some session => GuidedCreateCoordinator.handleSessionMessage bot message actor session
      | none => do
          let interaction ← taskInteraction message.chatId
          match interaction with
          | some session => handleTaskInteractionMessage bot message actor session
          | none => intakeMessage bot message actor

def dispatchMessageInner (message : IncomingMessage) : Handler Unit := do
  let registered ← RegistrationDialog.registerActor bot message
  match registered with
  | none => pure ()
  | some actor => do
      let allowed ← RegistrationDialog.checkRateLimit bot actor message.chatId
      if allowed then routeMessage bot message actor else pure ()

/-! ## Presses -/

def callbackOkText : String := "Готово"

def staleMutationCallbackText : String := "Этот экран уже устарел. Откройте актуальную карточку или список."

def staleNavigationCallbackText : String := "Открываю актуальный экран."

end

/-- The pressed message is not the active screen. -/
def World.isStale (w : World) (chatId messageId : Int) : Bool :=
  (w.activeScreens chatId).any fun screen => screen.messageId ≠ messageId

def World.isDescriptorMismatch (w : World) (chatId : Int) (callback : TelegramCallback) : Bool :=
  (w.activeScreens chatId).any fun screen => !screen.descriptor.accepts callback

section

variable (bot : Bot)

/-- The check of a press: its actor, unless the update is answered here. -/
def admitPress (callbackId : String) (message : IncomingMessage) (callback : TelegramCallback)
    (actor : User) : Handler (Option User) := do
  let w ← get
  let stale := w.isStale message.chatId message.messageId
  let mismatch := w.isDescriptorMismatch message.chatId callback
  if stale && callback.isMutating then do
    answerCallback bot callbackId staleMutationCallbackText
    pure none
  else if !stale && mismatch && callback.isMutating then do
    answerCallback bot callbackId staleMutationCallbackText
    pure none
  else do
    answerCallback bot callbackId
      (if stale || mismatch then staleNavigationCallbackText else callbackOkText)
    pure (some actor)

/-- `dispatch_callback_inner` up to the handler. -/
def admitCallback (callbackId : String) (message : IncomingMessage) (callback : TelegramCallback) :
    Handler (Option User) := do
  hydrateIfMissing message.chatId message.messageId
  let registered ← RegistrationDialog.registerActor bot message
  match registered with
  | none => pure none
  | some actor => admitPress bot callbackId message callback actor

/-- The handler of a callback. -/
def runCallback (message : IncomingMessage) (actor : User) (callback : TelegramCallback) : Handler Unit :=
  match RegistrationDialog.linkSelection callback with
  | some selection => RegistrationDialog.handleRegistrationLinkCallback bot message selection
  | none => handleCallbackAction bot actor message.chatId callback

def dispatchCallbackInner (callbackId : String) (message : IncomingMessage) (callback : TelegramCallback) :
    Handler Unit := do
  let admitted ← admitCallback bot callbackId message callback
  match admitted with
  | none => pure ()
  | some actor => runCallback bot message actor callback

/-! ## Delivery -/

def observeUpdate (key : DedupKey) : Handler Bool := do
  let w ← get
  let o := w.updateDedup.observe key
  modify fun w => { w with updateDedup := o.2 }
  pure o.1

/-- The critical section of a chat: duplicates are dropped, and the barrier of the update goes in
the end, whatever comes of it. -/
def deliver (key : DedupKey) (inner : Handler Unit) : Handler Unit := do
  let fresh ← observeUpdate key
  if fresh then do
    modify fun w => w.installBarrier key.chatId
    let result ← attempt inner
    modify fun w => w.uninstallBarrier key.chatId
    match result with
    | .ok _ => pure ()
    | .error error => throw error
  else pure ()

def handleMessage (message : TelegramMessage) : Handler Unit :=
  match toIncomingMessage (bot.clockOf 6 0) message with
  | none => pure ()
  | some incoming =>
      deliver ⟨incoming.chatId, incoming.messageId⟩ (dispatchMessageInner bot incoming)

/-- The callback and the message of a press, for those that carry both. -/
def CallbackQuery.incoming (press : CallbackQuery) : Option (TelegramCallback × IncomingMessage) := do
  let _ ← press.data
  let callback ← press.parsed
  let incoming ← callbackToIncomingMessage (bot.clockOf 6 0) press
  pure (callback, incoming)

def handleCallbackQuery (press : CallbackQuery) : Handler Unit :=
  match press.incoming bot with
  | none => pure ()
  | some (callback, incoming) =>
      deliver ⟨incoming.chatId, press.idHash⟩ (dispatchCallbackInner bot press.id incoming callback)

end

end TaskBot
