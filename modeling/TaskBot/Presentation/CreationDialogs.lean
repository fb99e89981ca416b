import TaskBot.Presentation.Navigation

/-!
# Dialogs that create a task

Quick capture hands a message to the use case at once, the guided dialog asks for
assignee, description and deadline first, and a voice session waits for its draft
to be confirmed.  What the use case cannot assign comes to wait for the choice of
an assignee.

Each lemma says which creations a handler may ask for:

* a voice message: none (`VoiceCreateCoordinator.start_quiet`);
* a submitted draft: the message built from it (`GuidedCreateCoordinator.submit_touches`,
  `VoiceCreateCoordinator.submit_touches`).
-/

namespace TaskBot

open Sql Calls

/-! ## Drafts -/

def GuidedTaskDraft.new (submissionKey : Uuid) : GuidedTaskDraft :=
  ⟨submissionKey, none, none, none, none, .assignee⟩

def GuidedTaskDraft.editField (draft : GuidedTaskDraft) : DraftEditField → GuidedTaskDraft
  | .assignee => { draft with resolvedEmployeeId := none, step := .assignee }
  | .description => { draft with step := .description }
  | .deadline => { draft with step := .deadline }

def VoiceTaskDraft.startEditing (draft : VoiceTaskDraft) : VoiceTaskDraft :=
  { draft with step := .editTranscript }

def VoiceTaskDraft.replaceTranscript (draft : VoiceTaskDraft) (transcript : String) : VoiceTaskDraft :=
  { draft with transcript, step := .confirm, truncated := false }

def VoiceTaskDraft.returnToConfirmation (draft : VoiceTaskDraft) : VoiceTaskDraft :=
  { draft with step := .confirm }

/-! ## Outcomes -/

inductive SessionCompletion where
  | clear | keepOnClarification
deriving DecidableEq, Repr

def keyboardForOutcome : TaskCreationOutcome → List (List TelegramCallback)
  | .created summary => createdTaskFollowupKeyboard summary (summary.deliveryStatus = .creatorOnly)
  | .clarificationRequired request => clarificationKeyboard request
  | .duplicateFound summary => outcomeKeyboard (.duplicateFound summary)

def outcomeDescriptor : TaskCreationOutcome → ScreenDescriptor
  | .created summary | .duplicateFound summary => .taskCreationResult (some summary.taskUid)
  | .clarificationRequired _ => .taskCreationResult none

def shouldClearSession : TaskCreationOutcome → SessionCompletion → Bool
  | _, .clear => true
  | .created _, .keepOnClarification | .duplicateFound _, .keepOnClarification => true
  | .clarificationRequired _, .keepOnClarification => false

def clarificationCandidateIds (request : ClarificationRequest) : List Int :=
  request.candidates.filterMap EmployeeCandidateView.employeeId

def creationSession (chatId : Int) : Handler (Option CreationSession) := do
  let w ← get
  pure (w.creationSessions chatId)

section

variable (bot : Bot)

def outcomeScreen (chatId : Int) (outcome : TaskCreationOutcome)
    (keyboard : List (List TelegramCallback)) : Handler Unit :=
  sendScreen bot.telegram chatId (outcomeDescriptor outcome)
    ⟨bot.texts (.taskCreation outcome), keyboard⟩

/-! ## The guided dialog -/

namespace GuidedCreateCoordinator

def guidedTextRequiredMessage : String :=
  "На этом шаге нужен текст. Для голосовых удобнее использовать быстрый режим."

def guidedDescriptionRequiredMessage : String :=
  "Сначала добавьте описание задачи, потом я смогу её создать."

def startQuick (chatId : Int) : Handler Unit := do
  clearAssigneeSelection chatId
  setCreationSession chatId .quickCapture
  sendScreen bot.telegram chatId .quickCreate ⟨bot.texts .quickCreatePrompt, quickCaptureKeyboard⟩

def assigneeScreen (chatId : Int) : Handler Unit :=
  sendScreen bot.telegram chatId (.guidedStep .assignee)
    ⟨bot.texts .guidedAssigneePrompt, guidedAssigneeKeyboard⟩

def descriptionScreen (chatId : Int) : Handler Unit :=
  sendScreen bot.telegram chatId (.guidedStep .description)
    ⟨bot.texts .guidedDescriptionPrompt, createMenuKeyboard⟩

def deadlineScreen (chatId : Int) : Handler Unit :=
  sendScreen bot.telegram chatId (.guidedStep .deadline)
    ⟨bot.texts .guidedDeadlinePrompt, guidedDeadlineKeyboard⟩

def confirmationScreen (chatId : Int) (draft : GuidedTaskDraft) : Handler Unit :=
  sendScreen bot.telegram chatId (.guidedStep .confirm)
    ⟨bot.texts (.guidedConfirmation draft), guidedConfirmationKeyboard⟩

def startGuided (chatId : Int) : Handler Unit := do
  clearAssigneeSelection chatId
  setCreationSession chatId (.guided (.new bot.submissionKey))
  assigneeScreen bot chatId

/-- A button of the guided dialog, for the draft of the chat. -/
def withGuidedDraft (chatId : Int) (go : GuidedTaskDraft → Handler Unit) : Handler Unit := do
  let session ← creationSession chatId
  match session with
  | some (.guided draft) => go draft
  | _ => createMenuScreen bot chatId

def confirmAssignee (chatId : Int) (employeeId : Int) : Handler Unit :=
  withGuidedDraft bot chatId fun draft => do
    setCreationSession chatId
      (.guided { draft with resolvedEmployeeId := some employeeId, step := .description })
    descriptionScreen bot chatId

def skipAssignee (chatId : Int) : Handler Unit :=
  withGuidedDraft bot chatId fun draft => do
    setCreationSession chatId (.guided { draft with assignee := none, step := .description })
    descriptionScreen bot chatId

def showGuidedConfirmation (chatId : Int) (draft : GuidedTaskDraft) : Handler Unit := do
  let confirmed := { draft with step := .confirm }
  setCreationSession chatId (.guided confirmed)
  confirmationScreen bot chatId confirmed

def skipDeadline (chatId : Int) : Handler Unit :=
  withGuidedDraft bot chatId fun draft =>
    showGuidedConfirmation bot chatId { draft with deadline := none, step := .confirm }

def stepScreen (chatId : Int) (draft : GuidedTaskDraft) : Handler Unit :=
  match draft.step with
  | .assignee => assigneeScreen bot chatId
  | .description => descriptionScreen bot chatId
  | .deadline => deadlineScreen bot chatId
  | .confirm => confirmationScreen bot chatId draft

def editField (chatId : Int) (field : DraftEditField) : Handler Unit :=
  withGuidedDraft bot chatId fun draft => do
    setCreationSession chatId (.guided (draft.editField field))
    stepScreen bot chatId (draft.editField field)

/-- A deadline that starts with a digit gets a preposition. -/
def buildDeadlineSuffix (value : String) : String :=
  let trimmed := trim value
  if trimmed.toList.head?.any Char.isDigit then " до " ++ trimmed else " " ++ trimmed

def guidedSyntheticMessageId : Int := 0

/-- The text a draft is submitted with.  An assignee that is resolved is left out. -/
def guidedText (draft : GuidedTaskDraft) (description : String) : String :=
  let base :=
    match draft.resolvedEmployeeId, draft.assignee with
    | none, some assignee => assignee ++ ", " ++ description
    | _, _ => description
  base ++ (draft.deadline.map buildDeadlineSuffix).getD ""

def buildGuidedMessage (chatId : Int) (actor : User) (draft : GuidedTaskDraft) (description : String)
    (now : Instant) : IncomingMessage where
  messageId := guidedSyntheticMessageId
  chatId
  senderId := actor.telegramId
  senderName := actor.fullName.getD "Пользователь"
  senderUsername := actor.telegramUsername
  content := .text (guidedText draft description)
  timestamp := now
  sourceMessageKeyOverride :=
    some ("telegram:guided:" ++ toString chatId ++ ":" ++ draft.submissionKey.toText)
  isVoiceOrigin := false

def draftDecision (draft : GuidedTaskDraft) : TaskAssigneeDecision :=
  match draft.resolvedEmployeeId with
  | some employeeId => .employeeId employeeId
  | none => .auto

def presentSubmitted (chatId : Int) (message : IncomingMessage) (outcome : TaskCreationOutcome) :
    Handler Unit :=
  match outcome with
  | .clarificationRequired request => do
      setCreateSelection chatId message (clarificationCandidateIds request) request.allowUnassigned
      outcomeScreen bot chatId outcome (clarificationKeyboard request)
  | _ => do
      clearCreationSession chatId
      clearAssigneeSelection chatId
      outcomeScreen bot chatId outcome (outcomeKeyboard outcome)

def submit (actor : User) (chatId : Int) : Handler Unit :=
  withGuidedDraft bot chatId fun draft =>
    match draft.description.filter fun value => !(trim value).isEmpty with
    | none =>
        sendScreen bot.telegram chatId (.guidedStep .confirm)
          ⟨guidedDescriptionRequiredMessage, guidedConfirmationKeyboard⟩
    | some description => do
        let message := buildGuidedMessage chatId actor draft description (bot.clockOf 5 0)
        let result ← ask bot 4 (.createTask message (draftDecision draft))
        match result with
        | .ok outcome => presentSubmitted bot chatId message outcome
        | .error error => sendError bot chatId error

def completeSession (chatId : Int) (outcome : TaskCreationOutcome) (completion : SessionCompletion) :
    Handler Unit :=
  if shouldClearSession outcome completion then clearCreationSession chatId else pure ()

/-- A message that goes to the use case as it is. -/
def createAndPresent (chatId : Int) (message : IncomingMessage) (completion : SessionCompletion) :
    Handler Unit := do
  let result ← ask bot 4 (.createTask message .auto)
  match result with
  | .ok outcome => do
      (match outcome with
        | .clarificationRequired request =>
            setCreateSelection chatId message (clarificationCandidateIds request) request.allowUnassigned
        | _ => clearAssigneeSelection chatId)
      completeSession chatId outcome completion
      outcomeScreen bot chatId outcome (keyboardForOutcome outcome)
  | .error error => sendError bot chatId error

/-! ## Texts in the guided dialog -/

def minTaskDescriptionLength : Nat := 10

def wordCount (value : String) : Nat :=
  ((value.toList.splitBy fun a b => isWhitespace a == isWhitespace b).filter fun w =>
    !w.all isWhitespace).length

def validateGuidedDescription (value : String) : Option String :=
  let trimmed := trim value
  if charsCount trimmed < minTaskDescriptionLength then
    some "Описание пока слишком короткое. Напишите чуть конкретнее: что именно нужно сделать и какой результат ждём."
  else if wordCount trimmed < 2 then
    some "Формулировка пока выглядит слишком короткой. Нужна одна нормальная рабочая фраза, а не одно слово."
  else none

/-- `preview_assignee_resolution`. -/
def previewAssigneeResolution (ranking : NameRanking) (text : String) : Proc AssigneeResolution :=
  if (trim text).isEmpty then pure (.resolved ⟨none, none⟩)
  else AssigneeResolver.resolveForCreation ranking (trim text)

def handleGuidedAssigneeStep (chatId : Int) (value : String) : Handler Unit :=
  withGuidedDraft bot chatId fun draft => do
    let result ← useCase (bot.plans 5) (previewAssigneeResolution bot.services.ranking value)
    match result with
    | .ok (.resolved resolved) => do
        setCreationSession chatId (.guided { draft with
          assignee := some value
          resolvedEmployeeId := resolved.employee.bind Employee.id
          step := .description })
        descriptionScreen bot chatId
    | .ok (.clarificationRequired request) => do
        setCreationSession chatId (.guided draft)
        sendScreen bot.telegram chatId .guidedAssigneeOptions
          ⟨bot.texts (.guidedAssigneeClarification request.message),
            guidedAssigneeSuggestionsKeyboard request.candidates⟩
    | .error _ => do
        setCreationSession chatId (.guided { draft with
          assignee := some value
          resolvedEmployeeId := none
          step := .description })
        descriptionScreen bot chatId

def handleGuidedDescriptionStep (chatId : Int) (draft : GuidedTaskDraft) (value : String) : Handler Unit :=
  match validateGuidedDescription value with
  | some validationMessage =>
      sendScreen bot.telegram chatId (.guidedStep .description) ⟨validationMessage, createMenuKeyboard⟩
  | none => do
      setCreationSession chatId (.guided { draft with description := some value, step := .deadline })
      deadlineScreen bot chatId

def handleGuidedDeadlineStep (chatId : Int) (draft : GuidedTaskDraft) (value : String) : Handler Unit :=
  showGuidedConfirmation bot chatId { draft with deadline := some value, step := .confirm }

def handleGuidedMessage (message : IncomingMessage) (actor : User) (draft : GuidedTaskDraft) :
    Handler Unit :=
  let chatId := message.chatId
  match (message.textPayload.map trim).filter fun text => !text.isEmpty with
  | none =>
      sendScreen bot.telegram chatId (.guidedStep draft.step)
        ⟨guidedTextRequiredMessage, mainMenuKeyboard actor⟩
  | some text =>
      match draft.step with
      | .assignee => handleGuidedAssigneeStep bot chatId text
      | .description => handleGuidedDescriptionStep bot chatId draft text
      | .deadline => handleGuidedDeadlineStep bot chatId draft text
      | .confirm => confirmationScreen bot chatId draft

end GuidedCreateCoordinator

/-! ## The voice session -/

namespace VoiceCreateCoordinator

def voiceTextRequiredMessage : String :=
  "Нужен один короткий текст сообщением. Я заменю им расшифровку и снова покажу подтверждение."

def voiceTranscriptUpdatedNotice : String :=
  "✏️ Текст обновлён. Проверьте финальную версию перед созданием."

def voiceConfirmationHint : String :=
  "Если что-то понято неточно, нажмите «Исправить текст» или отправьте новое голосовое."

def withVoiceDraft (chatId : Int) (go : VoiceTaskDraft → Handler Unit) : Handler Unit := do
  let session ← creationSession chatId
  match session with
  | some (.voice draft) => go draft
  | _ => createMenuScreen bot chatId

/-- Body and keyboard of the prompt for the step of the draft. -/
def stepPrompt (actor : User) (chatId : Int) (draft : VoiceTaskDraft) :
    Handler (String × List (List TelegramCallback)) :=
  match draft.step with
  | .confirm => do
      let body ← buildConfirmationBody bot actor chatId draft
      pure (body, voiceConfirmationKeyboard)
  | .editTranscript => pure (bot.texts (.voiceEditPrompt draft.transcript), voiceEditKeyboard)

def showPromptAgain (actor : User) (chatId : Int) (draft : VoiceTaskDraft) (heading : String) :
    Handler Unit := do
  let prompt ← stepPrompt bot actor chatId draft
  sendScreen bot.telegram chatId (.voiceCreate draft.step) ⟨heading ++ "\n\n" ++ prompt.1, prompt.2⟩

/-- A text in a voice session: the new transcript, or a reminder. -/
def handleText (actor : User) (chatId : Int) (draft : VoiceTaskDraft) (text : String) : Handler Unit :=
  match draft.step with
  | .editTranscript => do
      let updated := draft.replaceTranscript text
      setCreationSession chatId (.voice updated)
      showConfirmation bot actor chatId updated (some voiceTranscriptUpdatedNotice)
  | .confirm => do
      let body ← buildConfirmationBody bot actor chatId draft
      sendScreen bot.telegram chatId (.voiceCreate .confirm)
        ⟨voiceConfirmationHint ++ "\n\n" ++ body, voiceConfirmationKeyboard⟩

def handleMessage (message : IncomingMessage) (actor : User) (draft : VoiceTaskDraft) : Handler Unit :=
  match message.content with
  | .voice _ => start bot actor message
  | _ =>
      match (message.textPayload.map trim).filter fun text => !text.isEmpty with
      | none => showPromptAgain bot actor message.chatId draft voiceTextRequiredMessage
      | some text => handleText bot actor message.chatId draft text

def startEdit (chatId : Int) : Handler Unit :=
  withVoiceDraft bot chatId fun draft => do
    setCreationSession chatId (.voice draft.startEditing)
    sendScreen bot.telegram chatId (.voiceCreate .editTranscript)
      ⟨bot.texts (.voiceEditPrompt draft.startEditing.transcript), voiceEditKeyboard⟩

def returnToConfirmation (actor : User) (chatId : Int) : Handler Unit :=
  withVoiceDraft bot chatId fun draft => do
    setCreationSession chatId (.voice draft.returnToConfirmation)
    showConfirmation bot actor chatId draft.returnToConfirmation none

def cancel (chatId : Int) : Handler Unit := do
  clearCreationSession chatId
  clearAssigneeSelection chatId
  createMenuScreen bot chatId

def presentSubmitted (chatId : Int) (message : IncomingMessage) (previewBody : String) :
    TaskCreationOutcome → Handler Unit
  | .clarificationRequired request => do
      setCreateSelection chatId message (clarificationCandidateIds request) request.allowUnassigned
      sendScreen bot.telegram chatId (.voiceCreate .confirm)
        ⟨request.message ++ "\n\n" ++ previewBody, clarificationKeyboard request⟩
  | outcome => do
      clearCreationSession chatId
      clearAssigneeSelection chatId
      outcomeScreen bot chatId outcome (outcomeKeyboard outcome)

def submit (actor : User) (chatId : Int) : Handler Unit :=
  withVoiceDraft bot chatId fun draft => do
    let message := buildVoiceMessage chatId actor draft (bot.clockOf 5 0)
    let previewBody ← buildConfirmationBody bot actor chatId draft
    let result ← ask bot 4 (.createTask message .auto)
    match result with
    | .ok outcome => presentSubmitted bot chatId message previewBody outcome
    | .error error => sendError bot chatId error

end VoiceCreateCoordinator

/-! ## Messages of a session -/

def GuidedCreateCoordinator.handleSessionMessage (message : IncomingMessage) (actor : User) :
    CreationSession → Handler Unit
  | .quickCapture =>
      match message.content with
      | .voice _ => VoiceCreateCoordinator.start bot actor message
      | _ => createAndPresent bot message.chatId message .keepOnClarification
  | .guided draft => handleGuidedMessage bot message actor draft
  | .voice draft => VoiceCreateCoordinator.handleMessage bot message actor draft

end

/-! ## What they touch -/

section

variable {bot : Bot} {actor : User} {chatId : Int} {may : Happening → Prop} {w : World}

theorem outcomeScreen_quiet (outcome : TaskCreationOutcome) (keyboard : List (List TelegramCallback)) :
    Quiet (outcomeScreen bot chatId outcome keyboard) := sendScreen_quiet _ _ _

/-- What closes a session with a screen. -/
theorem close_quiet {go : Handler Unit} (h : Quiet go) :
    Quiet (do clearCreationSession chatId; clearAssigneeSelection chatId; go) :=
  Quiet.bind (clearCreationSession_quiet _) fun _ => Quiet.bind (clearAssigneeSelection_quiet _) fun _ => h

namespace GuidedCreateCoordinator

theorem startQuick_quiet : Quiet (startQuick bot chatId) :=
  Quiet.bind (clearAssigneeSelection_quiet _) fun _ => Quiet.bind (setCreationSession_quiet _ _) fun _ =>
    sendScreen_quiet _ _ _

theorem startGuided_quiet : Quiet (startGuided bot chatId) :=
  Quiet.bind (clearAssigneeSelection_quiet _) fun _ => Quiet.bind (setCreationSession_quiet _ _) fun _ =>
    sendScreen_quiet _ _ _

theorem withGuidedDraft_touches {go : GuidedTaskDraft → Handler Unit}
    (h : ∀ draft, w.creationSessions chatId = some (.guided draft) → Touches may (go draft) w) :
    Touches may (withGuidedDraft bot chatId go) w := by
  refine Effects.Moves.read_bind rfl ?_
  cases hsession : w.creationSessions chatId with
  | none => exact createMenuScreen_quiet may w
  | some session =>
    cases session with
    | quickCapture => exact createMenuScreen_quiet may w
    | guided draft => exact h draft hsession
    | voice draft => exact createMenuScreen_quiet may w

theorem withGuidedDraft_quiet {go : GuidedTaskDraft → Handler Unit} (h : ∀ draft, Quiet (go draft)) :
    Quiet (withGuidedDraft bot chatId go) :=
  fun may w => withGuidedDraft_touches fun draft _ => h draft may w

theorem confirmAssignee_quiet (employeeId : Int) : Quiet (confirmAssignee bot chatId employeeId) :=
  withGuidedDraft_quiet fun _ => Quiet.bind (setCreationSession_quiet _ _) fun _ => sendScreen_quiet _ _ _

theorem skipAssignee_quiet : Quiet (skipAssignee bot chatId) :=
  withGuidedDraft_quiet fun _ => Quiet.bind (setCreationSession_quiet _ _) fun _ => sendScreen_quiet _ _ _

theorem showGuidedConfirmation_quiet (draft : GuidedTaskDraft) :
    Quiet (showGuidedConfirmation bot chatId draft) :=
  Quiet.bind (setCreationSession_quiet _ _) fun _ => sendScreen_quiet _ _ _

theorem skipDeadline_quiet : Quiet (skipDeadline bot chatId) :=
  withGuidedDraft_quiet fun _ => showGuidedConfirmation_quiet _

theorem stepScreen_quiet (draft : GuidedTaskDraft) : Quiet (stepScreen bot chatId draft) := by
  unfold stepScreen
  cases draft.step <;> exact sendScreen_quiet _ _ _

theorem editField_quiet (field : DraftEditField) : Quiet (editField bot chatId field) :=
  withGuidedDraft_quiet fun _ => Quiet.bind (setCreationSession_quiet _ _) fun _ => stepScreen_quiet _

/-- The creation is asked for, and comes to wait when nobody can be assigned. -/
theorem presentSubmitted_touches {message : IncomingMessage} (hpend : may (.pended chatId message))
    (outcome : TaskCreationOutcome) : Touches may (presentSubmitted bot chatId message outcome) w := by
  cases outcome with
  | created summary => exact close_quiet (outcomeScreen_quiet _ _) may w
  | duplicateFound summary => exact close_quiet (outcomeScreen_quiet _ _) may w
  | clarificationRequired request =>
    exact Touches.then_quiet (setCreateSelection_touches hpend _ _) fun _ => outcomeScreen_quiet _ _

theorem submit_touches
    (hmay : ∀ draft description, w.creationSessions chatId = some (.guided draft) →
      let message := buildGuidedMessage chatId actor draft description (bot.clockOf 5 0)
      may (.called (.createTask message (draftDecision draft))) ∧ may (.pended chatId message)) :
    Touches may (submit bot actor chatId) w := by
  refine withGuidedDraft_touches fun draft hsession => ?_
  cases draft.description.filter fun value => !(trim value).isEmpty with
  | none => exact sendScreen_quiet _ _ _ may w
  | some description =>
    obtain ⟨hcall, hpend⟩ := hmay draft description hsession
    refine Effects.Moves.bind (ask_touches hcall 4) fun result w' _ => ?_
    cases result with
    | ok outcome => exact presentSubmitted_touches hpend outcome
    | error error => exact sendError_quiet _ _ may w'

theorem createAndPresent_touches {message : IncomingMessage}
    (hcall : may (.called (.createTask message .auto))) (hpend : may (.pended chatId message))
    (completion : SessionCompletion) :
    Touches may (createAndPresent bot chatId message completion) w := by
  refine Effects.Moves.bind (ask_touches hcall 4) fun result w' _ => ?_
  cases result with
  | error error => exact sendError_quiet _ _ may w'
  | ok outcome =>
    have hrest : Quiet (do
        completeSession chatId outcome completion
        outcomeScreen bot chatId outcome (keyboardForOutcome outcome)) :=
      Quiet.bind (Quiet.ite (clearCreationSession_quiet _) (Quiet.pure _)) fun _ =>
        outcomeScreen_quiet _ _
    cases outcome with
    | created summary => exact Quiet.bind (clearAssigneeSelection_quiet _) (fun _ => hrest) may w'
    | duplicateFound summary =>
      exact Quiet.bind (clearAssigneeSelection_quiet _) (fun _ => hrest) may w'
    | clarificationRequired request =>
      exact Touches.then_quiet (setCreateSelection_touches hpend _ _) fun _ => hrest

theorem previewAssigneeResolution_reads (ranking : NameRanking) (text : String) :
    (previewAssigneeResolution ranking text).Within Eq := by
  unfold previewAssigneeResolution
  split
  · exact .pure _
  · exact AssigneeResolver.resolveWithPurpose_reads _ _ _

theorem handleGuidedMessage_quiet (message : IncomingMessage) (draft : GuidedTaskDraft) :
    Quiet (handleGuidedMessage bot message actor draft) := by
  have hstore : ∀ session, Quiet (do
      setCreationSession message.chatId session
      descriptionScreen bot message.chatId) := fun _ =>
    Quiet.bind (setCreationSession_quiet _ _) fun _ => sendScreen_quiet _ _ _
  unfold handleGuidedMessage
  simp only
  cases (message.textPayload.map trim).filter fun text => !text.isEmpty with
  | none => exact sendScreen_quiet _ _ _
  | some text =>
    simp only
    cases draft.step with
    | assignee =>
      refine withGuidedDraft_quiet fun draft => ?_
      refine Quiet.bind (useCase_quiet _ (previewAssigneeResolution_reads _ _)) fun result => ?_
      cases result with
      | error error => exact hstore _
      | ok resolution =>
        cases resolution with
        | resolved r => exact hstore _
        | clarificationRequired request =>
          exact Quiet.bind (setCreationSession_quiet _ _) fun _ => sendScreen_quiet _ _ _
    | description =>
      unfold handleGuidedDescriptionStep
      cases validateGuidedDescription text with
      | some validationMessage => exact sendScreen_quiet _ _ _
      | none => exact Quiet.bind (setCreationSession_quiet _ _) fun _ => sendScreen_quiet _ _ _
    | deadline => exact showGuidedConfirmation_quiet _
    | confirm => exact sendScreen_quiet _ _ _

end GuidedCreateCoordinator

namespace VoiceCreateCoordinator

theorem buildConfirmationBody_quiet (draft : VoiceTaskDraft) :
    Quiet (buildConfirmationBody bot actor chatId draft) :=
  Quiet.bind (useCase_quiet _ (CreateTaskFromMessage.previewInterpretation_reads _ _ _)) fun _ =>
    Quiet.pure _

theorem showConfirmation_quiet (draft : VoiceTaskDraft) (notice : Option String) :
    Quiet (showConfirmation bot actor chatId draft notice) :=
  Quiet.bind (buildConfirmationBody_quiet _) fun _ => sendScreen_quiet _ _ _

/-- **A voice message asks for no creation.** -/
theorem start_quiet (message : IncomingMessage) : Quiet (start bot actor message) := by
  refine Quiet.bind (sendScreen_quiet _ _ _) fun _ => ?_
  unfold present
  split
  · split
    · exact Quiet.bind (setCreationSession_quiet _ _) fun _ =>
        Quiet.bind (clearAssigneeSelection_quiet _) fun _ => showConfirmation_quiet _ _
    · exact sendScreen_quiet _ _ _
  · exact sendScreen_quiet _ _ _

theorem withVoiceDraft_touches {go : VoiceTaskDraft → Handler Unit}
    (h : ∀ draft, w.creationSessions chatId = some (.voice draft) → Touches may (go draft) w) :
    Touches may (withVoiceDraft bot chatId go) w := by
  refine Effects.Moves.read_bind rfl ?_
  cases hsession : w.creationSessions chatId with
  | none => exact createMenuScreen_quiet may w
  | some session =>
    cases session with
    | quickCapture => exact createMenuScreen_quiet may w
    | guided draft => exact createMenuScreen_quiet may w
    | voice draft => exact h draft hsession

theorem withVoiceDraft_quiet {go : VoiceTaskDraft → Handler Unit} (h : ∀ draft, Quiet (go draft)) :
    Quiet (withVoiceDraft bot chatId go) :=
  fun may w => withVoiceDraft_touches fun draft _ => h draft may w

theorem startEdit_quiet : Quiet (startEdit bot chatId) :=
  withVoiceDraft_quiet fun _ => Quiet.bind (setCreationSession_quiet _ _) fun _ => sendScreen_quiet _ _ _

theorem returnToConfirmation_quiet : Quiet (returnToConfirmation bot actor chatId) :=
  withVoiceDraft_quiet fun _ => Quiet.bind (setCreationSession_quiet _ _) fun _ =>
    showConfirmation_quiet _ _

theorem cancel_quiet : Quiet (cancel bot chatId) := close_quiet createMenuScreen_quiet

theorem stepPrompt_quiet (draft : VoiceTaskDraft) : Quiet (stepPrompt bot actor chatId draft) := by
  unfold stepPrompt
  cases draft.step with
  | confirm => exact Quiet.bind (buildConfirmationBody_quiet _) fun _ => Quiet.pure _
  | editTranscript => exact Quiet.pure _

theorem handleText_quiet (draft : VoiceTaskDraft) (text : String) :
    Quiet (handleText bot actor chatId draft text) := by
  unfold handleText
  cases draft.step with
  | confirm => exact Quiet.bind (buildConfirmationBody_quiet _) fun _ => sendScreen_quiet _ _ _
  | editTranscript =>
    exact Quiet.bind (setCreationSession_quiet _ _) fun _ => showConfirmation_quiet _ _

theorem handleMessage_quiet (message : IncomingMessage) (draft : VoiceTaskDraft) :
    Quiet (handleMessage bot message actor draft) := by
  unfold handleMessage
  split
  · exact start_quiet message
  · split
    · exact Quiet.bind (stepPrompt_quiet _) fun _ => sendScreen_quiet _ _ _
    · exact handleText_quiet _ _

theorem submit_touches
    (hmay : ∀ draft, w.creationSessions chatId = some (.voice draft) →
      let message := buildVoiceMessage chatId actor draft (bot.clockOf 5 0)
      may (.called (.createTask message .auto)) ∧ may (.pended chatId message)) :
    Touches may (submit bot actor chatId) w := by
  refine withVoiceDraft_touches fun draft hsession => ?_
  obtain ⟨hcall, hpend⟩ := hmay draft hsession
  refine Quiet.then (buildConfirmationBody_quiet draft) fun body w₁ _ => ?_
  refine Effects.Moves.bind (ask_touches hcall 4) fun result w₂ _ => ?_
  cases result with
  | error error => exact sendError_quiet _ _ may w₂
  | ok outcome =>
    cases outcome with
    | created summary => exact close_quiet (outcomeScreen_quiet _ _) may w₂
    | duplicateFound summary => exact close_quiet (outcomeScreen_quiet _ _) may w₂
    | clarificationRequired request =>
      exact Touches.then_quiet (setCreateSelection_touches hpend _ _) fun _ => sendScreen_quiet _ _ _

end VoiceCreateCoordinator

/-- A session asks for a creation only when it captures a text. -/
theorem handleSessionMessage_touches {message : IncomingMessage}
    (hmay : (∀ voice, message.content ≠ .voice voice) →
      may (.called (.createTask message .auto)) ∧ may (.pended message.chatId message))
    (session : CreationSession) :
    Touches may (GuidedCreateCoordinator.handleSessionMessage bot message actor session) w := by
  cases session with
  | quickCapture =>
    unfold GuidedCreateCoordinator.handleSessionMessage
    simp only
    split
    · exact VoiceCreateCoordinator.start_quiet message may w
    · next hvoice =>
      obtain ⟨hcall, hpend⟩ := hmay hvoice
      exact GuidedCreateCoordinator.createAndPresent_touches hcall hpend _
  | guided draft => exact GuidedCreateCoordinator.handleGuidedMessage_quiet message draft may w
  | voice draft => exact VoiceCreateCoordinator.handleMessage_quiet message draft may w

end

end TaskBot
