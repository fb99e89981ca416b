import TaskBot.Presentation.Transport

/-!
# Navigation and task cards

The menus, lists and cards of tasks, and what the buttons of a card do.  Of all of
them the employee sync and the change of a status ask a use case that writes
(`syncEmployees_touches`, `updateTaskStatus_touches`).
-/

namespace TaskBot

open Sql Calls

section

variable (bot : Bot)

/-! ## Menus -/

/-- The dialogs that leaving for a menu ends. -/
def endDialogs (chatId : Int) : Handler Unit := do
  clearCreationSession chatId
  clearTaskInteraction chatId
  clearAssigneeSelection chatId
  clearRegistrationLink chatId

def showMainMenu (actor : User) (chatId : Int) : Handler Unit := do
  endDialogs chatId
  sendScreen bot.telegram chatId .mainMenu ⟨bot.texts (.welcome actor), mainMenuKeyboard actor⟩

def showMainMenuFresh (actor : User) (chatId : Int) : Handler Unit := do
  endDialogs chatId
  sendFreshScreen bot chatId .mainMenu ⟨bot.texts (.welcome actor), mainMenuKeyboard actor⟩

def showHelp (actor : User) (chatId : Int) : Handler Unit :=
  sendScreen bot.telegram chatId .help ⟨bot.texts .help, mainMenuKeyboard actor⟩

def showSettings (actor : User) (chatId : Int) : Handler Unit := do
  let stats ← query fun db => bot.queries.collectStats db actor .personal
  sendScreen bot.telegram chatId .settings
    ⟨bot.texts (.settings actor stats.toOption), mainMenuKeyboard actor⟩

/-- `fallback_to_create_menu`: the screen alone. -/
def createMenuScreen (chatId : Int) : Handler Unit :=
  sendScreen bot.telegram chatId .createMenu ⟨bot.texts .createMenu, createMenuKeyboard⟩

def showCreateMenu (chatId : Int) : Handler Unit := do
  endDialogs chatId
  createMenuScreen bot chatId

def listScope : TaskListOrigin → TaskListScope
  | .assigned => .assignedToMe
  | .created => .createdByMe
  | .team => .team
  | .focus => .focus
  | .managerInbox => .managerInbox

def showTaskList (actor : User) (chatId : Int) (origin : TaskListOrigin) (cursor : Option String) :
    Handler Unit := do
  let result ← query fun db => bot.queries.listTasks db actor (listScope origin) cursor
  match result with
  | .ok page =>
      sendScreen bot.telegram chatId (.taskList origin)
        ⟨bot.texts (.list origin page), taskListKeyboard origin page⟩
  | .error error => sendError bot chatId error

def statsTitle : StatsScope → String
  | .personal => "📊 Моя статистика"
  | .team => "📈 Статистика команды"

def showStats (actor : User) (chatId : Int) (scope : StatsScope) : Handler Unit := do
  let result ← query fun db => bot.queries.collectStats db actor scope
  match result with
  | .ok stats =>
      sendScreen bot.telegram chatId (.stats scope)
        ⟨bot.texts (.stats (statsTitle scope) stats), mainMenuKeyboard actor⟩
  | .error error => sendError bot chatId error

def syncEmployees (actor : User) (chatId : Int) : Handler Unit :=
  match RoleAuthorizationPolicy.ensureCanSyncEmployees actor with
  | .error error => sendError bot chatId error
  | .ok _ => do
      let result ← ask bot 4 .syncEmployees
      match result with
      | .ok count =>
          sendScreen bot.telegram chatId .syncEmployeesResult
            ⟨bot.texts (.synced count), mainMenuKeyboard actor⟩
      | .error error => sendError bot chatId error

def findHint : String :=
  "🔍 Введите поиск: /find <текст>\n\nИскать можно по названию, описанию или коду задачи."

/-- At most ten of the hits are listed. -/
def findResultText (parsed : SearchQuery) (items : List TaskListItem) : String :=
  if items.isEmpty then "🔍 По запросу «" ++ parsed.canonical ++ "» ничего не найдено."
  else
    "🔍 Найдено: " ++ toString items.length ++ " (по запросу «" ++ parsed.canonical ++ "»)\n" ++
      String.join ((items.take 10).map fun item => "\n• " ++ item.publicCode ++ " — " ++ item.title) ++
      (if 10 < items.length then "\n…и ещё " ++ toString (items.length - 10) ++ " задач" else "")

def runFindCommand (actor : User) (chatId : Int) (searched : Option String) : Handler Unit :=
  match searched with
  | none => sendFreshScreen bot chatId .help ⟨findHint, mainMenuKeyboard actor⟩
  | some raw =>
      match SearchQuery.parse bot.toLowercase raw with
      | .error error => sendError bot chatId error
      | .ok parsed => do
          let result ← query fun db => bot.queries.searchTasks db actor parsed
          match result with
          | .ok items =>
              sendFreshScreen bot chatId .help ⟨findResultText parsed items, mainMenuKeyboard actor⟩
          | .error error => sendError bot chatId error

/-! ## Task cards -/

def invalidTaskReferenceMessage : String :=
  "Не удалось распознать задачу. Используйте код вида T-0001 или откройте карточку из списка."

/-- A screen about a task the viewer may see. -/
def withTaskDetails (actor : User) (chatId : Int) (taskUid : Uuid)
    (present : TaskStatusDetails → Handler Unit) : Handler Unit := do
  let result ← query fun db => bot.queries.taskStatus db actor taskUid
  match result with
  | .ok details => present details
  | .error error => sendError bot chatId error

def showTaskDetailsWithNotice (actor : User) (chatId : Int) (taskUid : Uuid) (origin : TaskListOrigin)
    (mode : TaskCardMode) (notice : Option String) : Handler Unit :=
  withTaskDetails bot actor chatId taskUid fun details =>
    sendScreen bot.telegram chatId (.taskDetail taskUid mode origin)
      ⟨bot.texts (.taskDetail details mode notice), taskDetailKeyboard details origin mode⟩

def showTaskDetails (actor : User) (chatId : Int) (taskUid : Uuid) (origin : TaskListOrigin)
    (mode : TaskCardMode) : Handler Unit :=
  showTaskDetailsWithNotice bot actor chatId taskUid origin mode none

def confirmTaskCancel (actor : User) (chatId : Int) (taskUid : Uuid) (origin : TaskListOrigin) :
    Handler Unit :=
  withTaskDetails bot actor chatId taskUid fun details =>
    sendScreen bot.telegram chatId (.cancelConfirmation taskUid origin)
      ⟨bot.texts (.cancelConfirmation details), cancelConfirmationKeyboard taskUid origin⟩

def showDeliveryHelp (actor : User) (chatId : Int) (taskUid : Uuid) (origin : TaskListOrigin) :
    Handler Unit :=
  withTaskDetails bot actor chatId taskUid fun details =>
    sendScreen bot.telegram chatId (.deliveryHelp taskUid origin)
      ⟨bot.texts (.deliveryHelp details), deliveryHelpKeyboard taskUid origin⟩

/-- A command that names a task by its uid or its code. -/
def withTaskReference (actor : User) (chatId : Int) (reference : String) (present : Uuid → Handler Unit) :
    Handler Unit := do
  let result ← query fun db => bot.queries.resolveTaskUid db reference
  match result with
  | .ok taskUid => present taskUid
  | .error _ =>
      sendScreen bot.telegram chatId .unknown ⟨invalidTaskReferenceMessage, mainMenuKeyboard actor⟩

def showTaskFromCommand (actor : User) (chatId : Int) (reference : String) : Handler Unit :=
  withTaskReference bot actor chatId reference fun taskUid =>
    showTaskDetails bot actor chatId taskUid .created .compact

/-- The command shows the confirmation, as the button does. -/
def executeCancelFromCommand (actor : User) (chatId : Int) (reference : String) : Handler Unit :=
  withTaskReference bot actor chatId reference fun taskUid =>
    confirmTaskCancel bot actor chatId taskUid .created

def updateTaskStatus (actor : User) (chatId : Int) (taskUid : Uuid) (nextStatus : TaskStatus)
    (origin : TaskListOrigin) : Handler Unit := do
  let result ← ask bot 4 (.updateTaskStatus actor taskUid nextStatus)
  match result with
  | .ok summary =>
      showTaskDetailsWithNotice bot actor chatId taskUid origin .compact (some summary.message)
  | .error error => sendError bot chatId error

end

/-! ## What they touch -/

section

variable {bot : Bot} {actor : User} {chatId : Int} {taskUid : Uuid} {origin : TaskListOrigin}

theorem endDialogs_quiet (chatId : Int) : Quiet (endDialogs chatId) :=
  Quiet.bind (clearCreationSession_quiet _) fun _ => Quiet.bind (clearTaskInteraction_quiet _) fun _ =>
    Quiet.bind (clearAssigneeSelection_quiet _) fun _ => clearRegistrationLink_quiet _

theorem showMainMenu_quiet : Quiet (showMainMenu bot actor chatId) :=
  Quiet.bind (endDialogs_quiet _) fun _ => sendScreen_quiet _ _ _

theorem showMainMenuFresh_quiet : Quiet (showMainMenuFresh bot actor chatId) :=
  Quiet.bind (endDialogs_quiet _) fun _ => sendFreshScreen_quiet _ _ _

theorem showHelp_quiet : Quiet (showHelp bot actor chatId) := sendScreen_quiet _ _ _

theorem showSettings_quiet : Quiet (showSettings bot actor chatId) :=
  Quiet.bind (query_quiet _) fun _ => sendScreen_quiet _ _ _

theorem createMenuScreen_quiet : Quiet (createMenuScreen bot chatId) := sendScreen_quiet _ _ _

theorem showCreateMenu_quiet : Quiet (showCreateMenu bot chatId) :=
  Quiet.bind (endDialogs_quiet _) fun _ => createMenuScreen_quiet

theorem showTaskList_quiet (cursor : Option String) :
    Quiet (showTaskList bot actor chatId origin cursor) := by
  refine Quiet.bind (query_quiet _) fun result => ?_
  cases result with
  | ok page => exact sendScreen_quiet _ _ _
  | error error => exact sendError_quiet _ _

theorem showStats_quiet (scope : StatsScope) : Quiet (showStats bot actor chatId scope) := by
  refine Quiet.bind (query_quiet _) fun result => ?_
  cases result with
  | ok stats => exact sendScreen_quiet _ _ _
  | error error => exact sendError_quiet _ _

theorem runFindCommand_quiet (searched : Option String) :
    Quiet (runFindCommand bot actor chatId searched) := by
  cases searched with
  | none => exact sendFreshScreen_quiet _ _ _
  | some raw =>
    unfold runFindCommand
    simp only
    cases SearchQuery.parse bot.toLowercase raw with
    | error error => exact sendError_quiet _ _
    | ok parsed =>
      refine Quiet.bind (query_quiet _) fun result => ?_
      cases result with
      | ok items => exact sendFreshScreen_quiet _ _ _
      | error error => exact sendError_quiet _ _

theorem withTaskDetails_quiet {present : TaskStatusDetails → Handler Unit} (h : ∀ d, Quiet (present d)) :
    Quiet (withTaskDetails bot actor chatId taskUid present) := by
  refine Quiet.bind (query_quiet _) fun result => ?_
  cases result with
  | ok details => exact h details
  | error error => exact sendError_quiet _ _

theorem showTaskDetailsWithNotice_quiet (mode : TaskCardMode) (notice : Option String) :
    Quiet (showTaskDetailsWithNotice bot actor chatId taskUid origin mode notice) :=
  withTaskDetails_quiet fun _ => sendScreen_quiet _ _ _

theorem confirmTaskCancel_quiet : Quiet (confirmTaskCancel bot actor chatId taskUid origin) :=
  withTaskDetails_quiet fun _ => sendScreen_quiet _ _ _

theorem showDeliveryHelp_quiet : Quiet (showDeliveryHelp bot actor chatId taskUid origin) :=
  withTaskDetails_quiet fun _ => sendScreen_quiet _ _ _

theorem withTaskReference_quiet {present : Uuid → Handler Unit} (reference : String)
    (h : ∀ uid, Quiet (present uid)) : Quiet (withTaskReference bot actor chatId reference present) := by
  refine Quiet.bind (query_quiet _) fun result => ?_
  cases result with
  | ok uid => exact h uid
  | error error => exact sendScreen_quiet _ _ _

theorem showTaskFromCommand_quiet (reference : String) :
    Quiet (showTaskFromCommand bot actor chatId reference) :=
  withTaskReference_quiet reference fun _ => showTaskDetailsWithNotice_quiet _ _

theorem executeCancelFromCommand_quiet (reference : String) :
    Quiet (executeCancelFromCommand bot actor chatId reference) :=
  withTaskReference_quiet reference fun _ => confirmTaskCancel_quiet

variable {may : Happening → Prop} {w : World}

theorem syncEmployees_touches (hmay : may (.called .syncEmployees)) :
    Touches may (syncEmployees bot actor chatId) w := by
  unfold syncEmployees
  cases RoleAuthorizationPolicy.ensureCanSyncEmployees actor with
  | error error => exact sendError_quiet _ _ may w
  | ok _ =>
    refine Touches.then_quiet (ask_touches hmay 4) fun result => ?_
    cases result with
    | ok count => exact sendScreen_quiet _ _ _
    | error error => exact sendError_quiet _ _

theorem updateTaskStatus_touches {nextStatus : TaskStatus}
    (hmay : may (.called (.updateTaskStatus actor taskUid nextStatus))) :
    Touches may (updateTaskStatus bot actor chatId taskUid nextStatus origin) w := by
  refine Touches.then_quiet (ask_touches hmay 4) fun result => ?_
  cases result with
  | ok summary => exact showTaskDetailsWithNotice_quiet _ _
  | error error => exact sendError_quiet _ _

end

end TaskBot
