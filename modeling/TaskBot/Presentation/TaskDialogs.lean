import TaskBot.Presentation.CreationDialogs

/-!
# Dialogs about a task

A task card asks for one text, a comment, a blocker or an assignee, and the next
message of the chat answers it.  Where the assignee of a creation or of a
reassignment is not clear, the chat is asked to choose a candidate.

* `handleTaskInteractionMessage_touches`: a text does what the dialog was opened for,
  and to its task only;
* `chooseClarifiedAssignee_touches`: a choice goes to what waits for it.
-/

namespace TaskBot

open Sql Calls

def assigneeSelection (chatId : Int) : Handler (Option PendingAssigneeSelection) := do
  let w ← get
  pure (w.assigneeSelections chatId)

section

variable (bot : Bot)

/-! ## One text about a task -/

def taskInteractionTextRequiredMessage : String :=
  "Нужен один короткий текст сообщением. Напишите по делу, и я сразу обновлю карточку."

def commentSavedNotice : String := "💬 Комментарий добавлен."

def blockerSavedNotice : String := "🚧 Блокер сохранён и показан в карточке."

def interactionScreen (chatId : Int) (session : TaskInteractionSession) (text : String)
    (keyboard : List (List TelegramCallback)) : Handler Unit :=
  sendScreen bot.telegram chatId (.taskInteractionPrompt session.taskUid session.origin session.kind)
    ⟨text, keyboard⟩

def startTaskInteraction (actor : User) (chatId : Int) (session : TaskInteractionSession) : Handler Unit :=
  withTaskDetails bot actor chatId session.taskUid fun details => do
    setTaskInteraction chatId session
    interactionScreen bot chatId session (bot.texts (.taskPrompt session.kind details))
      (taskDetailKeyboard details session.origin .compact)

def startTaskCommentInput (actor : User) (chatId : Int) (taskUid : Uuid) (origin : TaskListOrigin) :
    Handler Unit := startTaskInteraction bot actor chatId ⟨taskUid, origin, .comment⟩

def startTaskBlockerInput (actor : User) (chatId : Int) (taskUid : Uuid) (origin : TaskListOrigin) :
    Handler Unit := startTaskInteraction bot actor chatId ⟨taskUid, origin, .blocker⟩

def startTaskReassignInput (actor : User) (chatId : Int) (taskUid : Uuid) (origin : TaskListOrigin) :
    Handler Unit := startTaskInteraction bot actor chatId ⟨taskUid, origin, .reassign⟩

def interactionPromptAgain (actor : User) (chatId : Int) (session : TaskInteractionSession)
    (heading : String) : Handler Unit :=
  withTaskDetails bot actor chatId session.taskUid fun details =>
    interactionScreen bot chatId session
      (heading ++ "\n\n" ++ bot.texts (.taskPrompt session.kind details))
      (taskDetailKeyboard details session.origin .compact)

/-- The card again, with a notice. -/
def finishInteraction (actor : User) (chatId : Int) (session : TaskInteractionSession)
    (notice : String) : Handler Unit := do
  clearTaskInteraction chatId
  showTaskDetailsWithNotice bot actor chatId session.taskUid session.origin .compact (some notice)

/-- The candidates for a reassignment; `query` is remembered until one is chosen. -/
def askReassignCandidate (chatId : Int) (session : TaskInteractionSession) (query : String)
    (request : ClarificationRequest) : Handler Unit := do
  setReassignSelection chatId session.taskUid session.origin query (clarificationCandidateIds request)
  interactionScreen bot chatId session (bot.texts (.taskCreation (.clarificationRequired request)))
    (clarificationKeyboard request)

def saveComment (actor : User) (chatId : Int) (session : TaskInteractionSession) (text : String) :
    Handler Unit := do
  let result ← ask bot 4 (.addTaskComment actor session.taskUid text)
  match result with
  | .ok _ => finishInteraction bot actor chatId session commentSavedNotice
  | .error error => sendError bot chatId error

def saveBlocker (actor : User) (chatId : Int) (session : TaskInteractionSession) (text : String) :
    Handler Unit := do
  let result ← ask bot 4 (.reportTaskBlocker actor session.taskUid text)
  match result with
  | .ok _ => finishInteraction bot actor chatId session blockerSavedNotice
  | .error error => sendError bot chatId error

def reassignByText (actor : User) (chatId : Int) (session : TaskInteractionSession) (text : String) :
    Handler Unit := do
  let result ← ask bot 4 (.reassignTask actor session.taskUid text .auto)
  match result with
  | .ok (.reassigned summary) => do
      clearTaskInteraction chatId
      clearAssigneeSelection chatId
      showTaskDetailsWithNotice bot actor chatId session.taskUid session.origin .compact
        (some summary.message)
  | .ok (.clarificationRequired request) => askReassignCandidate bot chatId session text request
  | .error error => sendError bot chatId error

def handleTaskInteractionMessage (message : IncomingMessage) (actor : User)
    (session : TaskInteractionSession) : Handler Unit :=
  match (message.textPayload.map trim).filter fun text => !text.isEmpty with
  | none => interactionPromptAgain bot actor message.chatId session taskInteractionTextRequiredMessage
  | some text =>
      match session.kind with
      | .comment => saveComment bot actor message.chatId session text
      | .blocker => saveBlocker bot actor message.chatId session text
      | .reassign => reassignByText bot actor message.chatId session text

/-! ## The choice of an assignee -/

def staleCandidatesNotice : String :=
  "Список кандидатов устарел. Задача открыта заново — попробуйте назначить ещё раз."

/-- Nothing waits for the choice that was made. -/
def dropSelection (chatId : Int) : Handler Unit := do
  clearAssigneeSelection chatId
  createMenuScreen bot chatId

/-- The creation that was waiting, with the assignee decided. -/
def createDecided (chatId : Int) (message : IncomingMessage) (decision : TaskAssigneeDecision) :
    Handler Unit := do
  let result ← ask bot 4 (.createTask message decision)
  match result with
  | .ok outcome => do
      clearAssigneeSelection chatId
      clearCreationSession chatId
      outcomeScreen bot chatId outcome (keyboardForOutcome outcome)
  | .error error => sendError bot chatId error

def reassignDecided (actor : User) (chatId : Int) (session : TaskInteractionSession) (query : String)
    (employeeId : Int) : Handler Unit := do
  let result ← ask bot 4 (.reassignTask actor session.taskUid query (.employeeId employeeId))
  match result with
  | .ok (.reassigned summary) => do
      clearAssigneeSelection chatId
      showTaskDetailsWithNotice bot actor chatId session.taskUid session.origin .compact
        (some summary.message)
  | .ok (.clarificationRequired request) => askReassignCandidate bot chatId session query request
  | .error error => sendError bot chatId error

def chooseFor (actor : User) (chatId : Int) (employeeId : Int) :
    PendingAssigneeSelection → Handler Unit
  | .create message candidateEmployeeIds _ =>
      if employeeId ∈ candidateEmployeeIds then createDecided bot chatId message (.employeeId employeeId)
      else dropSelection bot chatId
  | .reassign taskUid origin originalQuery candidateEmployeeIds =>
      if employeeId ∈ candidateEmployeeIds then
        reassignDecided bot actor chatId ⟨taskUid, origin, .reassign⟩ originalQuery employeeId
      else do
        clearAssigneeSelection chatId
        showTaskDetailsWithNotice bot actor chatId taskUid origin .compact (some staleCandidatesNotice)

def chooseClarifiedAssignee (actor : User) (chatId : Int) (employeeId : Int) : Handler Unit := do
  let selection ← assigneeSelection chatId
  match selection with
  | none => createMenuScreen bot chatId
  | some selection => chooseFor bot actor chatId employeeId selection

def createWithoutAssigneeAfterClarification (chatId : Int) : Handler Unit := do
  let selection ← assigneeSelection chatId
  match selection with
  | some (.create message _ allowUnassigned) =>
      if allowUnassigned then createDecided bot chatId message .createUnassigned
      else dropSelection bot chatId
  | _ => createMenuScreen bot chatId

end

/-! ## What they touch -/

section

variable {bot : Bot} {actor : User} {chatId : Int} {may : Happening → Prop} {w : World}

theorem startTaskInteraction_quiet (session : TaskInteractionSession) :
    Quiet (startTaskInteraction bot actor chatId session) :=
  withTaskDetails_quiet fun _ => Quiet.bind (setTaskInteraction_quiet _ _) fun _ => sendScreen_quiet _ _ _

theorem finishInteraction_quiet (session : TaskInteractionSession) (notice : String) :
    Quiet (finishInteraction bot actor chatId session notice) :=
  Quiet.bind (clearTaskInteraction_quiet _) fun _ => showTaskDetailsWithNotice_quiet _ _

theorem askReassignCandidate_quiet (session : TaskInteractionSession) (query : String)
    (request : ClarificationRequest) : Quiet (askReassignCandidate bot chatId session query request) :=
  Quiet.bind (setReassignSelection_quiet _ _ _ _ _) fun _ => sendScreen_quiet _ _ _

/-- The call of a session's kind. -/
def TaskInteractionSession.call (session : TaskInteractionSession) (actor : User) (text : String) :
    RuntimeCall :=
  match session.kind with
  | .comment => .addTaskComment actor session.taskUid text
  | .blocker => .reportTaskBlocker actor session.taskUid text
  | .reassign => .reassignTask actor session.taskUid text .auto

theorem handleTaskInteractionMessage_touches {message : IncomingMessage}
    {session : TaskInteractionSession}
    (hmay : ∀ text, message.textPayload ≠ none → may (.called (session.call actor text))) :
    Touches may (handleTaskInteractionMessage bot message actor session) w := by
  unfold handleTaskInteractionMessage
  cases htext : (message.textPayload.map trim).filter fun text => !text.isEmpty with
  | none =>
    have hprompt : Quiet (interactionPromptAgain bot actor message.chatId session
        taskInteractionTextRequiredMessage) := withTaskDetails_quiet fun _ => sendScreen_quiet _ _ _
    exact hprompt may w
  | some text =>
    have hpayload : message.textPayload ≠ none := by
      intro hnone
      rw [hnone] at htext
      cases htext
    have hcall := hmay text hpayload
    unfold TaskInteractionSession.call at hcall
    simp only
    cases hkind : session.kind with
    | comment =>
      rw [hkind] at hcall
      refine Touches.then_quiet (ask_touches hcall 4) fun result => ?_
      cases result with
      | ok _ => exact finishInteraction_quiet _ _
      | error error => exact sendError_quiet _ _
    | blocker =>
      rw [hkind] at hcall
      refine Touches.then_quiet (ask_touches hcall 4) fun result => ?_
      cases result with
      | ok _ => exact finishInteraction_quiet _ _
      | error error => exact sendError_quiet _ _
    | reassign =>
      rw [hkind] at hcall
      refine Touches.then_quiet (ask_touches hcall 4) fun result => ?_
      cases result with
      | error error => exact sendError_quiet _ _
      | ok outcome =>
        cases outcome with
        | reassigned summary =>
          exact Quiet.bind (clearTaskInteraction_quiet _) fun _ =>
            Quiet.bind (clearAssigneeSelection_quiet _) fun _ => showTaskDetailsWithNotice_quiet _ _
        | clarificationRequired request => exact askReassignCandidate_quiet _ _ _

theorem dropSelection_quiet : Quiet (dropSelection bot chatId) :=
  Quiet.bind (clearAssigneeSelection_quiet _) fun _ => createMenuScreen_quiet

theorem createDecided_touches {message : IncomingMessage} {decision : TaskAssigneeDecision}
    (hmay : may (.called (.createTask message decision))) :
    Touches may (createDecided bot chatId message decision) w := by
  refine Touches.then_quiet (ask_touches hmay 4) fun result => ?_
  cases result with
  | ok outcome =>
    exact Quiet.bind (clearAssigneeSelection_quiet _) fun _ =>
      Quiet.bind (clearCreationSession_quiet _) fun _ => outcomeScreen_quiet _ _
  | error error => exact sendError_quiet _ _

theorem reassignDecided_touches {session : TaskInteractionSession} {query : String} {employeeId : Int}
    (hmay : may (.called (.reassignTask actor session.taskUid query (.employeeId employeeId)))) :
    Touches may (reassignDecided bot actor chatId session query employeeId) w := by
  refine Touches.then_quiet (ask_touches hmay 4) fun result => ?_
  cases result with
  | error error => exact sendError_quiet _ _
  | ok outcome =>
    cases outcome with
    | reassigned summary =>
      exact Quiet.bind (clearAssigneeSelection_quiet _) fun _ => showTaskDetailsWithNotice_quiet _ _
    | clarificationRequired request => exact askReassignCandidate_quiet _ _ _

/-- What a choice asks for, given what waits for it. -/
theorem chooseClarifiedAssignee_touches {employeeId : Int}
    (hcreate : ∀ message ids allow, w.assigneeSelections chatId = some (.create message ids allow) →
      may (.called (.createTask message (.employeeId employeeId))))
    (hreassign : ∀ uid origin query ids,
      w.assigneeSelections chatId = some (.reassign uid origin query ids) →
        may (.called (.reassignTask actor uid query (.employeeId employeeId)))) :
    Touches may (chooseClarifiedAssignee bot actor chatId employeeId) w := by
  refine Effects.Moves.read_bind rfl ?_
  cases hselection : w.assigneeSelections chatId with
  | none => exact createMenuScreen_quiet may w
  | some selection =>
    cases selection with
    | create message ids allow =>
      show Touches may (if employeeId ∈ ids then _ else _) w
      by_cases hid : employeeId ∈ ids
      · rw [if_pos hid]
        exact createDecided_touches (hcreate message ids allow hselection)
      · rw [if_neg hid]
        exact dropSelection_quiet may w
    | reassign uid origin query ids =>
      show Touches may (if employeeId ∈ ids then _ else _) w
      by_cases hid : employeeId ∈ ids
      · rw [if_pos hid]
        exact reassignDecided_touches (hreassign uid origin query ids hselection)
      · rw [if_neg hid]
        refine Quiet.then (clearAssigneeSelection_quiet _) fun _ w' _ => ?_
        exact showTaskDetailsWithNotice_quiet _ _ may w'

theorem createWithoutAssignee_touches
    (hcreate : ∀ message ids allow, w.assigneeSelections chatId = some (.create message ids allow) →
      may (.called (.createTask message .createUnassigned))) :
    Touches may (createWithoutAssigneeAfterClarification bot chatId) w := by
  refine Effects.Moves.read_bind rfl ?_
  cases hselection : w.assigneeSelections chatId with
  | none => exact createMenuScreen_quiet may w
  | some selection =>
    cases selection with
    | create message ids allow =>
      show Touches may (if allow = true then _ else _) w
      by_cases hallow : allow = true
      · rw [if_pos hallow]
        exact createDecided_touches (hcreate message ids allow hselection)
      · rw [if_neg hallow]
        exact dropSelection_quiet may w
    | reassign uid origin query ids => exact createMenuScreen_quiet may w

end

end TaskBot
