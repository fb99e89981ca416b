import TaskBot.Presentation.Deeds
import TaskBot.Presentation.Dispatcher

/-!
# Scenes

Every handler plays one scene in its chat: it sets some of the stores and ends with
a screen or an error text.  `Scene` lists the scenes, with what must hold for each
before it begins, and `Shown` the keyboards that go with a screen.

    Plays bot chatId (Scene bot c chatId cue) h w        for each handler h, with c = w.chats

A voice message is the exception: its first screen is the processing one, and what
comes behind it is suppressed.
-/

namespace TaskBot

open Sql Calls Effects Scripts

/-! ## Screens and what belongs to them -/

/-- The kinds of creation sessions. -/
inductive CreationMode where
  | quick | guided | voice
deriving DecidableEq, Repr

def CreationSession.mode : CreationSession → CreationMode
  | quickCapture => .quick
  | guided _ => .guided
  | voice _ => .voice

namespace ScreenDescriptor

/-- The session a screen is a step of. -/
def mode : ScreenDescriptor → Option CreationMode
  | quickCreate => some .quick
  | guidedStep _ | guidedAssigneeOptions => some .guided
  | voiceCreate _ => some .voice
  | _ => none

/-- The dialog a screen is the prompt of. -/
def promptFor : ScreenDescriptor → Option TaskInteractionSession
  | taskInteractionPrompt taskUid origin kind => some ⟨taskUid, origin, kind⟩
  | _ => none

/-- No text is awaited. -/
def Free (d : ScreenDescriptor) : Prop := d.mode = none ∧ d.promptFor = none

/-- The screens that come with the main menu. -/
def isMenu : ScreenDescriptor → Bool
  | mainMenu | help | settings | stats _ | syncEmployeesResult | unknown => true
  | _ => false

end ScreenDescriptor

def TaskInteractionSession.screen (session : TaskInteractionSession) : ScreenDescriptor :=
  .taskInteractionPrompt session.taskUid session.origin session.kind

/-- The keyboards of the screens, one rule for each call of the transport. -/
inductive Placed (bot : Bot) : ScreenDescriptor → Keyboard → Prop where
  | menu {d : ScreenDescriptor} (actor : User) (h : d.isMenu = true) : Placed bot d (.mainMenu actor)
  | createMenu : Placed bot .createMenu .createMenu
  | quickCreate : Placed bot .quickCreate .quickCapture
  | unheard : Placed bot .quickCreate .createMenu
  | guidedReminder (step : GuidedTaskStep) (actor : User) : Placed bot (.guidedStep step) (.mainMenu actor)
  | guidedAssignee : Placed bot (.guidedStep .assignee) .guidedAssignee
  | guidedDescription : Placed bot (.guidedStep .description) .createMenu
  | guidedDeadline : Placed bot (.guidedStep .deadline) .guidedDeadline
  | guidedConfirm : Placed bot (.guidedStep .confirm) .guidedConfirmation
  | guidedOptions (candidates : List EmployeeCandidateView) :
      Placed bot .guidedAssigneeOptions (.guidedAssigneeSuggestions candidates)
  | voiceConfirm : Placed bot (.voiceCreate .confirm) .voiceConfirmation
  | voiceEdit : Placed bot (.voiceCreate .editTranscript) .voiceEdit
  | voiceClarification (request : ClarificationRequest) :
      Placed bot (.voiceCreate .confirm) (.clarification request)
  | taskList {db : Db} {actor : User} {scope : TaskListScope} {cursor : Option String} {page : TaskListPage}
      (origin : TaskListOrigin) (h : bot.queries.listTasks db actor scope cursor = .ok page) :
      Placed bot (.taskList origin) (.taskList origin page)
  | taskDetail {db : Db} {actor : User} {taskUid : Uuid} {details : TaskStatusDetails}
      (origin : TaskListOrigin) (mode : TaskCardMode) (h : bot.queries.taskStatus db actor taskUid = .ok details) :
      Placed bot (.taskDetail taskUid mode origin) (.taskDetail details origin mode)
  | prompt {db : Db} {actor : User} {details : TaskStatusDetails} (session : TaskInteractionSession)
      (h : bot.queries.taskStatus db actor session.taskUid = .ok details) :
      Placed bot session.screen (.taskDetail details session.origin .compact)
  | promptClarification (session : TaskInteractionSession) (request : ClarificationRequest) :
      Placed bot session.screen (.clarification request)
  | cancelConfirmation (taskUid : Uuid) (origin : TaskListOrigin) :
      Placed bot (.cancelConfirmation taskUid origin) (.cancelConfirmation taskUid origin)
  | deliveryHelp (taskUid : Uuid) (origin : TaskListOrigin) :
      Placed bot (.deliveryHelp taskUid origin) (.deliveryHelp taskUid origin)
  | result (outcome : TaskCreationOutcome) : Placed bot (outcomeDescriptor outcome) (.outcome outcome)
  | followup (summary : TaskCreationSummary) (allowAssignOwner : Bool) :
      Placed bot (.taskCreationResult (some summary.taskUid)) (.createdTaskFollowup summary allowAssignOwner)
  | resultClarification (request : ClarificationRequest) :
      Placed bot (.taskCreationResult none) (.clarification request)
  | registrationLink (candidates : List EmployeeCandidateView) (allowContinueUnlinked : Bool) :
      Placed bot .registrationLinking (.registrationLink candidates allowContinueUnlinked)
  | adminMenu : Placed bot .adminMenu .adminMenu
  | adminUsers (users : List User) : Placed bot .adminUsers (.adminUsers users)
  | adminUserDetails (userId : Int) (target : User) :
      Placed bot (.adminUserDetails userId) (.adminUserDetails target)
  | adminConfirm : Placed bot (.adminConfirm bot.nonce) (.adminConfirmation bot.nonce)
  | adminAudit : Placed bot .adminAudit .adminBack
  | adminSecurityAudit : Placed bot .adminSecurityAudit .adminBack
  | adminFeatures (flags : List (FeatureFlag × Bool)) : Placed bot .adminFeatures (.adminFeatures flags)

/-- The screen may be shown so. -/
def Shown (bot : Bot) (d : ScreenDescriptor) (view : ScreenView) : Prop :=
  view.keyboard = [] ∨ ∃ k, Placed bot d k ∧ view.keyboard = k.rows

theorem Shown.of {bot : Bot} {d : ScreenDescriptor} {view : ScreenView} {k : Keyboard} (h : Placed bot d k)
    (hview : view.keyboard = k.rows) : Shown bot d view := .inr ⟨k, h, hview⟩

/-! ## Scenes -/

/-- What the handler answers to. -/
inductive Cue where
  | message (message : IncomingMessage)
  | press (callback : TelegramCallback)

namespace Cue

/-- The text of a message that dialogs take; a command is none. -/
def typed : Cue → Option String
  | message m =>
      if (m.textPayload.bind parseCommand).isSome then none
      else (m.textPayload.map trim).filter fun text => !text.isEmpty
  | press _ => none

/-- The dialog a button opens. -/
def opened : Cue → Option TaskInteractionSession
  | press (.startTaskCommentInput taskUid origin) => some ⟨taskUid, origin, .comment⟩
  | press (.startTaskBlockerInput taskUid origin) => some ⟨taskUid, origin, .blocker⟩
  | press (.startTaskReassignInput taskUid origin) => some ⟨taskUid, origin, .reassign⟩
  | _ => none

end Cue

/-- A screen that awaits no text, or an error text. -/
inductive Ending (bot : Bot) : List Deed → Prop where
  | shown {d : ScreenDescriptor} {view : ScreenView} (hfree : d.Free) (h : Shown bot d view) :
      Ending bot [.render d view]
  | told (text : String) : Ending bot [.tell text]

/-- What a text leads to that the prompt of the dialog has asked for. -/
inductive Answering (bot : Bot) (session : TaskInteractionSession) : List Deed → Prop where
  | refused (text : String) : Answering bot session [.tell text]
  | saved {ds : List Deed} (h : Ending bot ds) : Answering bot session (.interaction none :: ds)
  | reassigned {ds : List Deed} (h : Ending bot ds) :
      Answering bot session (.interaction none :: .selection none :: ds)
  | promptAgain {view : ScreenView} (hshown : Shown bot session.screen view) :
      Answering bot session [.render session.screen view]
  | pendReassign {query : String} {ids : List Int} {view : ScreenView}
      (hshown : Shown bot session.screen view) :
      Answering bot session
        [.selection (some (.reassign session.taskUid session.origin query ids)), .render session.screen view]

/-- What a handler does in its chat; `c` is what the chat has when it begins. -/
inductive Scene (bot : Bot) (c : Chats) (chatId : Int) (cue : Cue) : List Deed → Prop where
  | ending {ds : List Deed} (h : Ending bot ds) : Scene bot c chatId cue ds
  | twice {d : ScreenDescriptor} {view : ScreenView} {ds : List Deed} (hfree : d.Free)
      (hshown : Shown bot d view) (h : Ending bot ds) : Scene bot c chatId cue (.render d view :: ds)
  | home {d : ScreenDescriptor} {view : ScreenView} (hfree : d.Free) (hshown : Shown bot d view) :
      Scene bot c chatId cue [.session none, .interaction none, .selection none, .render d view]
  | opened {session : TaskInteractionSession} {view : ScreenView} (hcue : cue.opened = some session)
      (hshown : Shown bot session.screen view) :
      Scene bot c chatId cue [.interaction (some session), .render session.screen view]
  | quick {view : ScreenView} (hshown : Shown bot .quickCreate view) :
      Scene bot c chatId cue [.selection none, .session (some .quickCapture), .render .quickCreate view]
  | guidedOpen {draft : GuidedTaskDraft} {view : ScreenView} (hshown : Shown bot (.guidedStep .assignee) view) :
      Scene bot c chatId cue
        [.selection none, .session (some (.guided draft)), .render (.guidedStep .assignee) view]
  | guided {draft draft' : GuidedTaskDraft} {d : ScreenDescriptor} {view : ScreenView}
      (hsession : c.sessions chatId = some (.guided draft)) (hmode : d.mode = some .guided)
      (hshown : Shown bot d view) :
      Scene bot c chatId cue [.session (some (.guided draft')), .render d view]
  | again {session : CreationSession} {d : ScreenDescriptor} {view : ScreenView}
      (hsession : c.sessions chatId = some session) (hmode : d.mode = some session.mode)
      (hshown : Shown bot d view) : Scene bot c chatId cue [.render d view]
  /-- A creation waits for its assignee, outside of a voice session. -/
  | pend {message : IncomingMessage} {ids : List Int} {allow : Bool} {d : ScreenDescriptor} {view : ScreenView}
      (hvoice : ∀ draft, c.sessions chatId ≠ some (.voice draft)) (hfree : d.Free) (hshown : Shown bot d view) :
      Scene bot c chatId cue [.selection (some (.create message ids allow)), .render d view]
  | pendClosing {message : IncomingMessage} {ids : List Int} {allow : Bool} {d : ScreenDescriptor}
      {view : ScreenView} (hfree : d.Free) (hshown : Shown bot d view) :
      Scene bot c chatId cue
        [.selection (some (.create message ids allow)), .session none, .render d view]
  | pendVoice {draft : VoiceTaskDraft} {message : IncomingMessage} {ids : List Int} {allow : Bool}
      {d : ScreenDescriptor} {view : ScreenView} (hsession : c.sessions chatId = some (.voice draft))
      (hcontent : message.content = .text draft.transcript) (hmode : d.mode = some .voice)
      (hshown : Shown bot d view) :
      Scene bot c chatId cue [.selection (some (.create message ids allow)), .render d view]
  | close {d : ScreenDescriptor} {view : ScreenView} (hfree : d.Free) (hshown : Shown bot d view) :
      Scene bot c chatId cue [.session none, .selection none, .render d view]
  | closeAfter {d : ScreenDescriptor} {view : ScreenView} (hfree : d.Free) (hshown : Shown bot d view) :
      Scene bot c chatId cue [.selection none, .session none, .render d view]
  | voice {draft draft' : VoiceTaskDraft} {d : ScreenDescriptor} {view : ScreenView}
      (hsession : c.sessions chatId = some (.voice draft)) (hsame : draft'.transcript = draft.transcript)
      (hmode : d.mode = some .voice) (hshown : Shown bot d view) :
      Scene bot c chatId cue [.session (some (.voice draft')), .render d view]
  /-- A new transcript is typed. -/
  | retype {draft : VoiceTaskDraft} {text : String} {d : ScreenDescriptor} {view : ScreenView}
      (hsession : c.sessions chatId = some (.voice draft)) (hstep : draft.step = .editTranscript)
      (htyped : cue.typed = some text) (hmode : d.mode = some .voice) (hshown : Shown bot d view) :
      Scene bot c chatId cue [.session (some (.voice (draft.replaceTranscript text))), .render d view]
  | dictated {draft : VoiceTaskDraft} {d : ScreenDescriptor} {view view' : ScreenView}
      (hshown : Shown bot .processing view) (hmode : d.mode = some .voice) (hshown' : Shown bot d view') :
      Scene bot c chatId cue
        [.render .processing view, .session (some (.voice draft)), .selection none, .render d view']
  | unheard {d : ScreenDescriptor} {view view' : ScreenView} (hshown : Shown bot .processing view)
      (hshown' : Shown bot d view') :
      Scene bot c chatId cue [.render .processing view, .render d view']
  | drop {ds : List Deed} (h : Ending bot ds) : Scene bot c chatId cue (.selection none :: ds)
  | answering {session : TaskInteractionSession} {ds : List Deed} (hclosed : c.sessions chatId = none)
      (hopen : c.interactions chatId = some session) (h : Answering bot session ds) : Scene bot c chatId cue ds

/-! ## Endings -/

section

variable {bot : Bot} {actor : User} {chatId : Int} {w : World} {taskUid : Uuid} {origin : TaskListOrigin}

theorem screen_ends {d : ScreenDescriptor} {view : ScreenView} (hfree : d.Free) (h : Shown bot d view) :
    Plays bot chatId (Ending bot) (sendScreen bot.telegram chatId d view) w :=
  .act (sendScreen_does d view w) (.shown hfree h)

theorem fresh_ends {d : ScreenDescriptor} {view : ScreenView} (hfree : d.Free) (h : Shown bot d view) :
    Plays bot chatId (Ending bot) (sendFreshScreen bot chatId d view) w :=
  .act (sendFreshScreen_does d view w) (.shown hfree h)

theorem menu_ends {d : ScreenDescriptor} {view : ScreenView} (hmenu : d.isMenu = true)
    (hview : view.keyboard = mainMenuKeyboard actor) :
    Plays bot chatId (Ending bot) (sendScreen bot.telegram chatId d view) w := by
  have hfree : d.Free := by
    cases d <;> first | exact ⟨rfl, rfl⟩ | cases hmenu
  exact screen_ends hfree (.of (.menu actor hmenu) hview)

theorem error_ends (error : AppError) : Plays bot chatId (Ending bot) (sendError bot chatId error) w :=
  .act (sendError_does error w) (.told _)

theorem createMenuScreen_ends : Plays bot chatId (Ending bot) (createMenuScreen bot chatId) w :=
  screen_ends ⟨rfl, rfl⟩ (.of .createMenu rfl)

theorem showHelp_ends : Plays bot chatId (Ending bot) (showHelp bot actor chatId) w := menu_ends rfl rfl

theorem showSettings_ends : Plays bot chatId (Ending bot) (showSettings bot actor chatId) w :=
  .silent_bind (query_silent _) fun _ _ _ _ => menu_ends rfl rfl

theorem showTaskList_ends (cursor : Option String) :
    Plays bot chatId (Ending bot) (showTaskList bot actor chatId origin cursor) w := by
  refine .silent_bind (query_silent _) fun result w' hrun _ => ?_
  cases result with
  | error error => exact error_ends error
  | ok page =>
    have hpage : bot.queries.listTasks w.db actor (listScope origin) cursor = .ok page :=
      congrArg Prod.fst hrun |> Except.ok.inj
    exact screen_ends ⟨rfl, rfl⟩ (.of (.taskList origin hpage) rfl)

theorem showStats_ends (scope : StatsScope) :
    Plays bot chatId (Ending bot) (showStats bot actor chatId scope) w := by
  refine .silent_bind (query_silent _) fun result w' _ _ => ?_
  cases result with
  | error error => exact error_ends error
  | ok stats => exact menu_ends rfl rfl

theorem syncEmployees_ends : Plays bot chatId (Ending bot) (syncEmployees bot actor chatId) w := by
  unfold syncEmployees
  cases RoleAuthorizationPolicy.ensureCanSyncEmployees actor with
  | error error => exact error_ends error
  | ok _ =>
    refine .silent_bind (ask_silent bot 4 _) fun result w' _ _ => ?_
    cases result with
    | error error => exact error_ends error
    | ok count => exact menu_ends rfl rfl

theorem runFindCommand_ends (searched : Option String) :
    Plays bot chatId (Ending bot) (runFindCommand bot actor chatId searched) w := by
  have hhelp : ∀ text w', Plays bot chatId (Ending bot)
      (sendFreshScreen bot chatId .help ⟨text, mainMenuKeyboard actor⟩) w' :=
    fun _ _ => fresh_ends ⟨rfl, rfl⟩ (.of (.menu actor rfl) rfl)
  cases searched with
  | none => exact hhelp _ w
  | some raw =>
    unfold runFindCommand
    simp only
    cases SearchQuery.parse bot.toLowercase raw with
    | error error => exact error_ends error
    | ok parsed =>
      refine .silent_bind (query_silent _) fun result w' _ _ => ?_
      cases result with
      | error error => exact error_ends error
      | ok items => exact hhelp _ w'

/-- A screen about a task, or the error of its query. -/
theorem withTaskDetails_plays {S : List Deed → Prop} {present : TaskStatusDetails → Handler Unit}
    (hfailed : ∀ text, S [.tell text])
    (h : ∀ details, bot.queries.taskStatus w.db actor taskUid = .ok details →
      ∀ w', w'.chats = w.chats → Plays bot chatId S (present details) w') :
    Plays bot chatId S (withTaskDetails bot actor chatId taskUid present) w := by
  refine .silent_bind (query_silent _) fun result w' hrun hchats => ?_
  cases result with
  | error error => exact .act (sendError_does error w') (hfailed _)
  | ok details => exact h details (Except.ok.inj (congrArg Prod.fst hrun)) w' hchats

theorem showTaskDetailsWithNotice_ends (mode : TaskCardMode) (notice : Option String) :
    Plays bot chatId (Ending bot) (showTaskDetailsWithNotice bot actor chatId taskUid origin mode notice) w :=
  withTaskDetails_plays .told fun _ hdetails _ _ =>
    screen_ends ⟨rfl, rfl⟩ (.of (.taskDetail origin mode hdetails) rfl)

theorem confirmTaskCancel_ends :
    Plays bot chatId (Ending bot) (confirmTaskCancel bot actor chatId taskUid origin) w :=
  withTaskDetails_plays .told fun _ _ _ _ =>
    screen_ends ⟨rfl, rfl⟩ (.of (.cancelConfirmation taskUid origin) rfl)

theorem showDeliveryHelp_ends :
    Plays bot chatId (Ending bot) (showDeliveryHelp bot actor chatId taskUid origin) w :=
  withTaskDetails_plays .told fun _ _ _ _ =>
    screen_ends ⟨rfl, rfl⟩ (.of (.deliveryHelp taskUid origin) rfl)

theorem withTaskReference_ends {present : Uuid → Handler Unit} (reference : String)
    (h : ∀ taskUid w', Plays bot chatId (Ending bot) (present taskUid) w') :
    Plays bot chatId (Ending bot) (withTaskReference bot actor chatId reference present) w := by
  refine .silent_bind (query_silent _) fun result w' _ _ => ?_
  cases result with
  | error _ => exact menu_ends rfl rfl
  | ok taskUid => exact h taskUid w'

theorem updateTaskStatus_ends (nextStatus : TaskStatus) :
    Plays bot chatId (Ending bot) (updateTaskStatus bot actor chatId taskUid nextStatus origin) w := by
  refine .silent_bind (ask_silent bot 4 _) fun result w' _ _ => ?_
  cases result with
  | error error => exact error_ends error
  | ok summary => exact showTaskDetailsWithNotice_ends _ _

theorem outcomeDescriptor_free (outcome : TaskCreationOutcome) : (outcomeDescriptor outcome).Free := by
  cases outcome <;> exact ⟨rfl, rfl⟩

/-- The keyboard a created task, a duplicate or a clarification comes with. -/
theorem outcome_shown (outcome : TaskCreationOutcome) (text : String) :
    Shown bot (outcomeDescriptor outcome) ⟨text, keyboardForOutcome outcome⟩ := by
  cases outcome with
  | created summary => exact .of (.followup summary _) rfl
  | duplicateFound summary => exact .of (.result (.duplicateFound summary)) rfl
  | clarificationRequired request => exact .of (.resultClarification request) rfl

/-! ## The admin panel -/

theorem adminScreen_ends {d : ScreenDescriptor} {view : ScreenView} {k : Keyboard} (hplaced : Placed bot d k)
    (hstage : d.stage = .admin) (hview : view.keyboard = k.rows) :
    Plays bot chatId (Ending bot) (sendScreen bot.telegram chatId d view) w := by
  have hfree : d.Free := by
    cases d <;> first | exact ⟨rfl, rfl⟩ | cases hstage
  exact screen_ends hfree (.of hplaced hview)

theorem adminMenuScreen_ends (text : UiText) :
    Plays bot chatId (Ending bot) (adminMenuScreen bot chatId text) w :=
  adminScreen_ends .adminMenu rfl rfl

theorem renderAdminError_ends (error : AppError) :
    Plays bot chatId (Ending bot) (renderAdminError bot actor chatId error) w := by
  unfold renderAdminError
  repeat' split
  · exact menu_ends rfl rfl
  · exact menu_ends rfl rfl
  · exact adminMenuScreen_ends _
  · exact adminMenuScreen_ends _
  · exact adminMenuScreen_ends _
  · exact error_ends error

theorem adminResult_ends {α : Type} {present : α → Handler Unit} (result : AppResult α)
    (h : ∀ a, Plays bot chatId (Ending bot) (present a) w) :
    Plays bot chatId (Ending bot) (adminResult bot actor chatId result present) w := by
  cases result with
  | ok a => exact h a
  | error error => exact renderAdminError_ends error

/-- A use case whose answer is shown. -/
theorem adminQuery_ends {α : Type} {plan : Site → Fault AppError} {p : Proc α} {present : α → Handler Unit}
    (h : ∀ a w', Plays bot chatId (Ending bot) (present a) w') :
    Plays bot chatId (Ending bot) (do
      let result ← useCase plan p
      adminResult bot actor chatId result present) w :=
  .silent_bind (useCase_silent plan p) fun result w' _ _ => adminResult_ends result fun a => h a w'

theorem showAdminMenu_ends : Plays bot chatId (Ending bot) (showAdminMenu bot actor chatId) w :=
  adminResult_ends _ fun _ => adminMenuScreen_ends _

theorem showAdminUsers_ends : Plays bot chatId (Ending bot) (showAdminUsers bot actor chatId) w :=
  adminQuery_ends fun users _ => adminScreen_ends (.adminUsers users) rfl rfl

theorem showAdminUserDetails_ends (userId : Int) :
    Plays bot chatId (Ending bot) (showAdminUserDetails bot actor chatId userId) w :=
  adminQuery_ends fun target _ => adminScreen_ends (.adminUserDetails userId target) rfl rfl

theorem showAdminAudit_ends : Plays bot chatId (Ending bot) (showAdminAudit bot actor chatId) w :=
  adminQuery_ends fun _ _ => adminScreen_ends .adminAudit rfl rfl

theorem showAdminSecurityAudit_ends :
    Plays bot chatId (Ending bot) (showAdminSecurityAudit bot actor chatId) w :=
  adminResult_ends _ fun _ => adminQuery_ends fun _ _ => adminScreen_ends .adminSecurityAudit rfl rfl

theorem showAdminFeatures_ends : Plays bot chatId (Ending bot) (showAdminFeatures bot actor chatId) w :=
  adminResult_ends _ fun _ => .silent_bind (fun _ => ⟨_, _, rfl, rfl⟩) fun flags _ _ _ =>
    adminScreen_ends (.adminFeatures flags.sharedFlags.allFlags) rfl rfl

theorem toggleAdminFeature_ends (flagKey : String) :
    Plays bot chatId (Ending bot) (toggleAdminFeature bot actor chatId flagKey) w := by
  unfold toggleAdminFeature
  cases FeatureFlag.fromStr flagKey with
  | error _ => exact showAdminFeatures_ends
  | ok flag =>
    refine .silent_bind (isEnabled_silent flag) fun enabled w₁ _ _ => ?_
    refine .silent_bind (ask_silent bot 4 _) fun result w₂ _ _ => ?_
    exact adminResult_ends result fun _ => showAdminFeatures_ends

theorem issueConfirmation_ends (action : PendingAdminAction) :
    Plays bot chatId (Ending bot) (issueConfirmation bot actor chatId action) w := by
  unfold issueConfirmation
  cases actor.id with
  | none => exact renderAdminError_ends _
  | some actorId =>
    simp only
    split
    · exact renderAdminError_ends _
    · exact .silent_bind (fun _ => ⟨_, _, rfl, rfl⟩) fun _ _ _ _ => adminScreen_ends .adminConfirm rfl rfl

theorem prepareAdminAction_ends (userId : Int) (action : User → PendingAdminAction) :
    Plays bot chatId (Ending bot) (prepareAdminAction bot actor chatId userId action) w :=
  adminQuery_ends fun _ _ => issueConfirmation_ends _

theorem changedScreen_ends (text : User → UiText) (result : AppResult User) :
    Plays bot chatId (Ending bot) (changedScreen bot actor chatId text result) w :=
  adminResult_ends result fun user => adminScreen_ends (.adminUserDetails _ user) rfl rfl

theorem applyAction_ends (action : PendingAdminAction) :
    Plays bot chatId (Ending bot) (applyAction bot actor chatId action) w := by
  cases action <;> exact .silent_bind (ask_silent bot 4 _) fun result _ _ _ => changedScreen_ends _ result

theorem executeAdminConfirmation_ends (nonce : String) :
    Plays bot chatId (Ending bot) (executeAdminConfirmation bot actor chatId nonce) w := by
  unfold executeAdminConfirmation
  cases actor.id with
  | none => exact renderAdminError_ends _
  | some actorId =>
    refine .silent_bind (fun _ => ⟨_, _, rfl, rfl⟩) fun result w' _ _ => ?_
    cases result with
    | ok action => exact applyAction_ends action
    | error error => cases error <;> exact adminMenuScreen_ends _

/-- Two screens, the second of which is suppressed. -/
theorem cancelAdminPending_plays {c : Chats} {cue : Cue} :
    Plays bot chatId (Scene bot c chatId cue) (cancelAdminPending bot actor chatId) w := by
  have hscene : ∀ ds, Ending bot ds → Scene bot c chatId cue
      (.render .adminMenu ⟨bot.texts .adminActionCancelled, adminMenuKeyboard⟩ :: ds) :=
    fun ds h => .twice ⟨rfl, rfl⟩ (.of .adminMenu rfl) h
  refine .act_bind (sendScreen_does _ _ w) ⟨_, hscene _ (.told "")⟩ fun _ _ _ => ?_
  exact showAdminMenu_ends.mono hscene

end

/-! ## Menus and creation -/

section

variable {bot : Bot} {actor : User} {chatId : Int} {w : World} {c : Chats} {cue : Cue}

theorem plays_ending {h : Handler Unit} (hh : Plays bot chatId (Ending bot) h w) :
    Plays bot chatId (Scene bot c chatId cue) h w := hh.mono fun _ => .ending

theorem error_plays (error : AppError) :
    Plays bot chatId (Scene bot c chatId cue) (sendError bot chatId error) w := plays_ending (error_ends error)

theorem createMenuScreen_plays :
    Plays bot chatId (Scene bot c chatId cue) (createMenuScreen bot chatId) w := plays_ending createMenuScreen_ends

/-- The dialogs of a chat end, and a menu is shown. -/
theorem home_plays {d : ScreenDescriptor} {view : ScreenView} {go : Handler Unit} (hfree : d.Free)
    (hshown : Shown bot d view) (hgo : Performing bot chatId (.render d view) go) :
    Plays bot chatId (Scene bot c chatId cue) (do endDialogs chatId; go) w := by
  have hends : exec (endDialogs chatId) w = (.ok (), _) := rfl
  refine ⟨_, .home hfree hshown, ?_⟩
  rw [Effects.exec_bind_ok hends]
  exact .next (.session none) (.next (.interaction none) (.next (.selection none)
    (Played.singleton_iff.mpr (hgo _))))

theorem showMainMenu_plays : Plays bot chatId (Scene bot c chatId cue) (showMainMenu bot actor chatId) w :=
  home_plays ⟨rfl, rfl⟩ (.of (.menu actor rfl) rfl) (sendScreen_does _ _)

theorem showMainMenuFresh_plays :
    Plays bot chatId (Scene bot c chatId cue) (showMainMenuFresh bot actor chatId) w :=
  home_plays ⟨rfl, rfl⟩ (.of (.menu actor rfl) rfl) (sendFreshScreen_does _ _)

theorem showCreateMenu_plays : Plays bot chatId (Scene bot c chatId cue) (showCreateMenu bot chatId) w :=
  home_plays ⟨rfl, rfl⟩ (.of .createMenu rfl) (sendScreen_does _ _)

theorem outcomeScreen_does (outcome : TaskCreationOutcome) (keyboard : List (List TelegramCallback)) :
    Performing bot chatId (.render (outcomeDescriptor outcome) ⟨bot.texts (.taskCreation outcome), keyboard⟩)
      (outcomeScreen bot chatId outcome keyboard) := sendScreen_does _ _

/-- The session is over, and what waited for an assignee with it. -/
theorem close_plays {outcome : TaskCreationOutcome} :
    Plays bot chatId (Scene bot c chatId cue) (do
      clearCreationSession chatId
      clearAssigneeSelection chatId
      outcomeScreen bot chatId outcome (outcomeKeyboard outcome)) w := by
  refine .always_bind (clearCreationSession_stores bot chatId) fun _ _ _ => ?_
  refine .always_bind (clearAssigneeSelection_stores bot chatId) fun _ w' _ => ?_
  exact .act (outcomeScreen_does outcome _ w')
    (.close (outcomeDescriptor_free outcome) (.of (.result outcome) rfl))

namespace GuidedCreateCoordinator

theorem startQuick_plays : Plays bot chatId (Scene bot c chatId cue) (startQuick bot chatId) w := by
  refine .always_bind (clearAssigneeSelection_stores bot chatId) fun _ _ _ => ?_
  refine .always_bind (setCreationSession_stores bot chatId _) fun _ w' _ => ?_
  exact .act (sendScreen_does _ _ w') (.quick (.of .quickCreate rfl))

theorem startGuided_plays : Plays bot chatId (Scene bot c chatId cue) (startGuided bot chatId) w := by
  refine .always_bind (clearAssigneeSelection_stores bot chatId) fun _ _ _ => ?_
  refine .always_bind (setCreationSession_stores bot chatId _) fun _ w' _ => ?_
  exact .act (sendScreen_does _ _ w') (.guidedOpen (.of .guidedAssignee rfl))

/-- A button of the guided dialog, pressed in it or outside of it. -/
theorem withGuidedDraft_plays {go : GuidedTaskDraft → Handler Unit} (hc : w.chats = c)
    (h : ∀ draft, c.sessions chatId = some (.guided draft) →
      Plays bot chatId (Scene bot c chatId cue) (go draft) w) :
    Plays bot chatId (Scene bot c chatId cue) (withGuidedDraft bot chatId go) w := by
  have hread : exec (creationSession chatId) w = (.ok (c.sessions chatId), w) := by
    rw [← hc]
    rfl
  refine .ok_bind hread rfl ?_
  cases hsession : c.sessions chatId with
  | none => exact createMenuScreen_plays
  | some session =>
    cases session with
    | guided draft => exact h draft hsession
    | quickCapture => exact createMenuScreen_plays
    | voice _ => exact createMenuScreen_plays

/-- A step of the guided dialog. -/
theorem step_plays {draft draft' : GuidedTaskDraft} {d : ScreenDescriptor} {view : ScreenView} {k : Keyboard}
    (hsession : c.sessions chatId = some (.guided draft)) (hmode : d.mode = some .guided)
    (hplaced : Placed bot d k) (hview : view.keyboard = k.rows) :
    Plays bot chatId (Scene bot c chatId cue) (do
      setCreationSession chatId (.guided draft')
      sendScreen bot.telegram chatId d view) w := by
  refine .always_bind (setCreationSession_stores bot chatId _) fun _ w' _ => ?_
  exact .act (sendScreen_does d view w') (.guided hsession hmode (.of hplaced hview))

theorem again_plays {draft : GuidedTaskDraft} {d : ScreenDescriptor} {view : ScreenView} {k : Keyboard}
    (hsession : c.sessions chatId = some (.guided draft)) (hmode : d.mode = some .guided)
    (hplaced : Placed bot d k) (hview : view.keyboard = k.rows) :
    Plays bot chatId (Scene bot c chatId cue) (sendScreen bot.telegram chatId d view) w :=
  .act (sendScreen_does d view w) (.again hsession hmode (.of hplaced hview))

theorem confirmAssignee_plays (employeeId : Int) (hc : w.chats = c) :
    Plays bot chatId (Scene bot c chatId cue) (confirmAssignee bot chatId employeeId) w :=
  withGuidedDraft_plays hc fun _ hsession => step_plays hsession rfl .guidedDescription rfl

theorem skipAssignee_plays (hc : w.chats = c) :
    Plays bot chatId (Scene bot c chatId cue) (skipAssignee bot chatId) w :=
  withGuidedDraft_plays hc fun _ hsession => step_plays hsession rfl .guidedDescription rfl

theorem showGuidedConfirmation_plays {draft : GuidedTaskDraft} (draft' : GuidedTaskDraft)
    (hsession : c.sessions chatId = some (.guided draft)) :
    Plays bot chatId (Scene bot c chatId cue) (showGuidedConfirmation bot chatId draft') w :=
  step_plays hsession rfl .guidedConfirm rfl

theorem skipDeadline_plays (hc : w.chats = c) :
    Plays bot chatId (Scene bot c chatId cue) (skipDeadline bot chatId) w :=
  withGuidedDraft_plays hc fun _ hsession => showGuidedConfirmation_plays _ hsession

theorem editField_plays (field : DraftEditField) (hc : w.chats = c) :
    Plays bot chatId (Scene bot c chatId cue) (editField bot chatId field) w := by
  refine withGuidedDraft_plays hc fun draft hsession => ?_
  cases field with
  | assignee => exact step_plays hsession rfl .guidedAssignee rfl
  | description => exact step_plays hsession rfl .guidedDescription rfl
  | deadline => exact step_plays hsession rfl .guidedDeadline rfl

theorem submit_plays (hc : w.chats = c) :
    Plays bot chatId (Scene bot c chatId cue) (submit bot actor chatId) w := by
  refine withGuidedDraft_plays hc fun draft hsession => ?_
  cases draft.description.filter fun value => !(trim value).isEmpty with
  | none => exact again_plays hsession rfl .guidedConfirm rfl
  | some description =>
    refine .silent_bind (ask_silent bot 4 _) fun result w' _ _ => ?_
    cases result with
    | error error => exact error_plays error
    | ok outcome =>
      cases outcome with
      | created summary => exact close_plays
      | duplicateFound summary => exact close_plays
      | clarificationRequired request =>
        refine .always_bind (setCreateSelection_stores bot chatId _ _ _) fun _ w₁ _ => ?_
        refine .act (outcomeScreen_does _ _ w₁) (.pend (fun d h => ?_) ⟨rfl, rfl⟩ (.of (.resultClarification request) rfl))
        cases hsession.symm.trans h

/-- A message that goes to the use case as it is; with `keepOnClarification` there is no voice
session. -/
theorem createAndPresent_plays {completion : SessionCompletion} (message : IncomingMessage)
    (hkeep : completion = .keepOnClarification → ∀ draft, c.sessions chatId ≠ some (.voice draft)) :
    Plays bot chatId (Scene bot c chatId cue) (createAndPresent bot chatId message completion) w := by
  refine .silent_bind (ask_silent bot 4 _) fun result w' _ _ => ?_
  cases result with
  | error error => exact error_plays error
  | ok outcome =>
    have hstored : (∀ completion, shouldClearSession outcome completion = true) →
        Plays bot chatId (Scene bot c chatId cue) (do
          clearAssigneeSelection chatId
          completeSession chatId outcome completion
          outcomeScreen bot chatId outcome (keyboardForOutcome outcome)) w' := by
      intro hclear
      refine .always_bind (clearAssigneeSelection_stores bot chatId) fun _ _ _ => ?_
      unfold completeSession
      rw [if_pos (hclear completion)]
      refine .always_bind (clearCreationSession_stores bot chatId) fun _ w₁ _ => ?_
      exact .act (outcomeScreen_does outcome _ w₁)
        (.closeAfter (outcomeDescriptor_free outcome) (outcome_shown outcome _))
    cases outcome with
    | created summary => exact hstored fun completion => by cases completion <;> rfl
    | duplicateFound summary => exact hstored fun completion => by cases completion <;> rfl
    | clarificationRequired request =>
      refine .always_bind (setCreateSelection_stores bot chatId _ _ _) fun _ w₁ _ => ?_
      cases completion with
      | clear =>
        refine .always_bind (clearCreationSession_stores bot chatId) fun _ w₂ _ => ?_
        exact .act (outcomeScreen_does _ _ w₂)
          (.pendClosing ⟨rfl, rfl⟩ (.of (.resultClarification request) rfl))
      | keepOnClarification =>
        exact .act (outcomeScreen_does _ _ w₁)
          (.pend (hkeep rfl) ⟨rfl, rfl⟩ (.of (.resultClarification request) rfl))

end GuidedCreateCoordinator

/-! ## The voice session -/

namespace VoiceCreateCoordinator

theorem withVoiceDraft_plays {go : VoiceTaskDraft → Handler Unit} (hc : w.chats = c)
    (h : ∀ draft, c.sessions chatId = some (.voice draft) →
      Plays bot chatId (Scene bot c chatId cue) (go draft) w) :
    Plays bot chatId (Scene bot c chatId cue) (withVoiceDraft bot chatId go) w := by
  have hread : exec (creationSession chatId) w = (.ok (c.sessions chatId), w) := by
    rw [← hc]
    rfl
  refine .ok_bind hread rfl ?_
  cases hsession : c.sessions chatId with
  | none => exact createMenuScreen_plays
  | some session =>
    cases session with
    | voice draft => exact h draft hsession
    | quickCapture => exact createMenuScreen_plays
    | guided _ => exact createMenuScreen_plays

theorem showConfirmation_plays {S : List Deed → Prop} (draft : VoiceTaskDraft) (notice : Option String)
    (hS : ∀ text, S [.render (.voiceCreate .confirm) ⟨text, voiceConfirmationKeyboard⟩]) :
    Plays bot chatId S (showConfirmation bot actor chatId draft notice) w :=
  .silent_bind (buildConfirmationBody_silent bot actor chatId draft) fun _ w' _ _ =>
    .act (sendScreen_does _ _ w') (hS _)

theorem confirm_shown (text : String) :
    Shown bot (.voiceCreate .confirm) ⟨text, voiceConfirmationKeyboard⟩ := .of .voiceConfirm rfl

theorem again_plays {draft : VoiceTaskDraft} {d : ScreenDescriptor} {view : ScreenView} {k : Keyboard}
    (hsession : c.sessions chatId = some (.voice draft)) (hmode : d.mode = some .voice)
    (hplaced : Placed bot d k) (hview : view.keyboard = k.rows) :
    Plays bot chatId (Scene bot c chatId cue) (sendScreen bot.telegram chatId d view) w :=
  .act (sendScreen_does d view w) (.again hsession hmode (.of hplaced hview))

theorem present_plays {message : IncomingMessage} {view : ScreenView} (transcribed : AppResult String)
    (hchat : message.chatId = chatId) (hshown : Shown bot .processing view) :
    Plays bot chatId (fun ds => Scene bot c chatId cue (.render .processing view :: ds))
      (present bot actor message transcribed) w := by
  subst hchat
  have hunheard : ∀ text w', Plays bot message.chatId
      (fun ds => Scene bot c message.chatId cue (.render .processing view :: ds))
      (sendScreen bot.telegram message.chatId .quickCreate ⟨text, createMenuKeyboard⟩) w' :=
    fun _ w' => .act (sendScreen_does _ _ w') (.unheard hshown (.of .unheard rfl))
  unfold present
  cases transcribed with
  | error error => exact hunheard _ w
  | ok transcript =>
    simp only
    cases NormalizedTranscript.fromRaw transcript with
    | error error => exact hunheard _ w
    | ok normalised =>
      refine .always_bind (setCreationSession_stores bot message.chatId _) fun _ _ _ => ?_
      refine .always_bind (clearAssigneeSelection_stores bot message.chatId) fun _ w' _ => ?_
      exact showConfirmation_plays _ none fun text => .dictated hshown rfl (confirm_shown text)

theorem start_plays {message : IncomingMessage} (hchat : message.chatId = chatId) :
    Plays bot chatId (Scene bot c chatId cue) (start bot actor message) w := by
  subst hchat
  have hshown : Shown bot .processing ⟨voiceProcessingMessage, []⟩ := .inl rfl
  have hscene : Scene bot c message.chatId cue [.render .processing ⟨voiceProcessingMessage, []⟩,
      .render .quickCreate ⟨voiceEmptyTranscriptMessage, createMenuKeyboard⟩] :=
    .unheard hshown (.of .unheard rfl)
  refine .act_bind (sendScreen_does _ _ w) ⟨_, hscene⟩ fun _ _ _ => ?_
  exact present_plays _ rfl hshown

theorem handleText_plays {draft : VoiceTaskDraft} {text : String}
    (hsession : c.sessions chatId = some (.voice draft)) (htyped : cue.typed = some text) :
    Plays bot chatId (Scene bot c chatId cue) (handleText bot actor chatId draft text) w := by
  unfold handleText
  cases hstep : draft.step with
  | editTranscript =>
    refine .always_bind (setCreationSession_stores bot chatId _) fun _ w' _ => ?_
    exact showConfirmation_plays _ _ fun text => .retype hsession hstep htyped rfl (confirm_shown text)
  | confirm =>
    refine .silent_bind (buildConfirmationBody_silent bot actor chatId draft) fun _ w' _ _ => ?_
    exact again_plays hsession rfl .voiceConfirm rfl

theorem showPromptAgain_plays {draft : VoiceTaskDraft} (heading : String)
    (hsession : c.sessions chatId = some (.voice draft)) :
    Plays bot chatId (Scene bot c chatId cue) (showPromptAgain bot actor chatId draft heading) w := by
  unfold showPromptAgain stepPrompt
  cases draft.step with
  | editTranscript => exact again_plays hsession rfl .voiceEdit rfl
  | confirm =>
    have hprompt : LeavesChats (do
        let body ← VoiceCreateCoordinator.buildConfirmationBody bot actor chatId draft
        pure (body, voiceConfirmationKeyboard)) := fun w' => by
      obtain ⟨preview, db, hrun⟩ := exec_buildConfirmationBody bot actor chatId draft w'
      exact ⟨_, _, Effects.exec_bind_ok hrun, rfl⟩
    refine .silent_bind hprompt fun prompt w' hrun _ => ?_
    obtain ⟨preview, db, hbody⟩ := exec_buildConfirmationBody bot actor chatId draft w
    have hkeyboard : prompt.2 = voiceConfirmationKeyboard := by
      rw [Effects.exec_bind_ok hbody] at hrun
      cases hrun
      rfl
    exact again_plays hsession rfl .voiceConfirm hkeyboard

theorem handleMessage_plays {message : IncomingMessage} {draft : VoiceTaskDraft}
    (hcommand : message.textPayload.bind parseCommand = none)
    (hsession : c.sessions message.chatId = some (.voice draft)) :
    Plays bot message.chatId (Scene bot c message.chatId (.message message))
      (handleMessage bot message actor draft) w := by
  unfold handleMessage
  cases htyped : (message.textPayload.map trim).filter fun text => !text.isEmpty with
  | none =>
    cases message.content with
    | voice voice => exact start_plays rfl
    | text _ => exact showPromptAgain_plays _ hsession
    | command _ => exact showPromptAgain_plays _ hsession
  | some text =>
    have htext : Plays bot message.chatId (Scene bot c message.chatId (.message message))
        (handleText bot actor message.chatId draft text) w := by
      refine handleText_plays hsession ?_
      show (if (message.textPayload.bind parseCommand).isSome then none else _) = some text
      rw [hcommand]
      exact htyped
    cases message.content with
    | voice voice => exact start_plays rfl
    | text _ => exact htext
    | command _ => exact htext

theorem startEdit_plays (hc : w.chats = c) :
    Plays bot chatId (Scene bot c chatId cue) (startEdit bot chatId) w := by
  refine withVoiceDraft_plays hc fun draft hsession => ?_
  refine .always_bind (setCreationSession_stores bot chatId _) fun _ w' _ => ?_
  exact .act (sendScreen_does _ _ w') (.voice hsession rfl rfl (.of .voiceEdit rfl))

theorem returnToConfirmation_plays (hc : w.chats = c) :
    Plays bot chatId (Scene bot c chatId cue) (returnToConfirmation bot actor chatId) w := by
  refine withVoiceDraft_plays hc fun draft hsession => ?_
  refine .always_bind (setCreationSession_stores bot chatId _) fun _ w' _ => ?_
  exact showConfirmation_plays _ none fun text => .voice hsession rfl rfl (confirm_shown text)

theorem cancel_plays : Plays bot chatId (Scene bot c chatId cue) (cancel bot chatId) w := by
  refine .always_bind (clearCreationSession_stores bot chatId) fun _ _ _ => ?_
  refine .always_bind (clearAssigneeSelection_stores bot chatId) fun _ w' _ => ?_
  exact .act (sendScreen_does _ _ w') (.close ⟨rfl, rfl⟩ (.of .createMenu rfl))

theorem submit_plays (hc : w.chats = c) :
    Plays bot chatId (Scene bot c chatId cue) (submit bot actor chatId) w := by
  refine withVoiceDraft_plays hc fun draft hsession => ?_
  refine .silent_bind (buildConfirmationBody_silent bot actor chatId draft) fun body w₁ _ _ => ?_
  refine .silent_bind (ask_silent bot 4 _) fun result w₂ _ _ => ?_
  cases result with
  | error error => exact error_plays error
  | ok outcome =>
    cases outcome with
    | created summary => exact close_plays
    | duplicateFound summary => exact close_plays
    | clarificationRequired request =>
      refine .always_bind (setCreateSelection_stores bot chatId _ _ _) fun _ w₃ _ => ?_
      exact .act (sendScreen_does _ _ w₃)
        (.pendVoice hsession rfl rfl (.of (.voiceClarification request) rfl))

end VoiceCreateCoordinator

/-! ## Texts in the guided dialog -/

namespace GuidedCreateCoordinator

theorem handleGuidedAssigneeStep_plays (value : String) (hc : w.chats = c) :
    Plays bot chatId (Scene bot c chatId cue) (handleGuidedAssigneeStep bot chatId value) w := by
  refine withGuidedDraft_plays hc fun draft hsession => ?_
  refine .silent_bind (useCase_silent _ _) fun result w' _ _ => ?_
  cases result with
  | error error => exact step_plays hsession rfl .guidedDescription rfl
  | ok resolution =>
    cases resolution with
    | resolved resolved => exact step_plays hsession rfl .guidedDescription rfl
    | clarificationRequired request => exact step_plays hsession rfl (.guidedOptions request.candidates) rfl

theorem handleGuidedDescriptionStep_plays {draft : GuidedTaskDraft} (value : String)
    (hsession : c.sessions chatId = some (.guided draft)) :
    Plays bot chatId (Scene bot c chatId cue) (handleGuidedDescriptionStep bot chatId draft value) w := by
  unfold handleGuidedDescriptionStep
  cases validateGuidedDescription value with
  | some text => exact again_plays hsession rfl .guidedDescription rfl
  | none => exact step_plays hsession rfl .guidedDeadline rfl

theorem handleGuidedMessage_plays {message : IncomingMessage} {draft : GuidedTaskDraft} (hc : w.chats = c)
    (hsession : c.sessions message.chatId = some (.guided draft)) :
    Plays bot message.chatId (Scene bot c message.chatId cue) (handleGuidedMessage bot message actor draft)
      w := by
  unfold handleGuidedMessage
  simp only
  cases (message.textPayload.map trim).filter fun text => !text.isEmpty with
  | none => exact again_plays hsession rfl (.guidedReminder draft.step actor) rfl
  | some text =>
    simp only
    cases draft.step with
    | assignee => exact handleGuidedAssigneeStep_plays text hc
    | description => exact handleGuidedDescriptionStep_plays text hsession
    | deadline => exact showGuidedConfirmation_plays _ hsession
    | confirm => exact again_plays hsession rfl .guidedConfirm rfl

theorem handleSessionMessage_plays {message : IncomingMessage} {session : CreationSession} (hc : w.chats = c)
    (hcommand : message.textPayload.bind parseCommand = none)
    (hsession : c.sessions message.chatId = some session) :
    Plays bot message.chatId (Scene bot c message.chatId (.message message))
      (handleSessionMessage bot message actor session) w := by
  cases session with
  | guided draft => exact handleGuidedMessage_plays hc hsession
  | voice draft => exact VoiceCreateCoordinator.handleMessage_plays hcommand hsession
  | quickCapture =>
    have hcreate : Plays bot message.chatId (Scene bot c message.chatId (.message message))
        (createAndPresent bot message.chatId message .keepOnClarification) w :=
      createAndPresent_plays message fun _ draft h => nomatch hsession.symm.trans h
    unfold handleSessionMessage
    cases message.content with
    | voice voice => exact VoiceCreateCoordinator.start_plays rfl
    | text _ => exact hcreate
    | command _ => exact hcreate

end GuidedCreateCoordinator

/-! ## Dialogs about a task -/

theorem startTaskInteraction_plays {session : TaskInteractionSession} (hcue : cue.opened = some session) :
    Plays bot chatId (Scene bot c chatId cue) (startTaskInteraction bot actor chatId session) w := by
  refine withTaskDetails_plays (fun text => .ending (.told text)) fun details hdetails w₁ _ => ?_
  refine .always_bind (setTaskInteraction_stores bot chatId session) fun _ w₂ _ => ?_
  exact .act (sendScreen_does _ _ w₂) (.opened hcue (.of (.prompt session hdetails) rfl))

variable {session : TaskInteractionSession}

theorem interactionPromptAgain_plays (heading : String) :
    Plays bot chatId (Answering bot session) (interactionPromptAgain bot actor chatId session heading) w :=
  withTaskDetails_plays .refused fun _ hdetails w' _ =>
    .act (sendScreen_does _ _ w') (.promptAgain (.of (.prompt session hdetails) rfl))

theorem refused_plays (error : AppError) :
    Plays bot chatId (Answering bot session) (sendError bot chatId error) w :=
  .act (sendError_does error w) (.refused _)

theorem finishInteraction_plays (notice : String) :
    Plays bot chatId (Answering bot session) (finishInteraction bot actor chatId session notice) w := by
  refine .always_bind (clearTaskInteraction_stores bot chatId) fun _ w' _ => ?_
  exact (showTaskDetailsWithNotice_ends _ _).mono fun _ => .saved

theorem saveComment_plays (text : String) :
    Plays bot chatId (Answering bot session) (saveComment bot actor chatId session text) w := by
  refine .silent_bind (ask_silent bot 4 _) fun result w' _ _ => ?_
  cases result with
  | error error => exact refused_plays error
  | ok _ => exact finishInteraction_plays _

theorem saveBlocker_plays (text : String) :
    Plays bot chatId (Answering bot session) (saveBlocker bot actor chatId session text) w := by
  refine .silent_bind (ask_silent bot 4 _) fun result w' _ _ => ?_
  cases result with
  | error error => exact refused_plays error
  | ok _ => exact finishInteraction_plays _

theorem reassignByText_plays (text : String) :
    Plays bot chatId (Answering bot session) (reassignByText bot actor chatId session text) w := by
  refine .silent_bind (ask_silent bot 4 _) fun result w' _ _ => ?_
  cases result with
  | error error => exact refused_plays error
  | ok outcome =>
    cases outcome with
    | reassigned summary =>
      refine .always_bind (clearTaskInteraction_stores bot chatId) fun _ _ _ => ?_
      refine .always_bind (clearAssigneeSelection_stores bot chatId) fun _ w₁ _ => ?_
      exact (showTaskDetailsWithNotice_ends _ _).mono fun _ => .reassigned
    | clarificationRequired request =>
      refine .always_bind (setReassignSelection_stores bot chatId _ _ _ _) fun _ w₁ _ => ?_
      exact .act (sendScreen_does _ _ w₁) (.pendReassign (.of (.promptClarification session request) rfl))

/-- **A text that answers a prompt.** -/
theorem handleTaskInteractionMessage_plays {message : IncomingMessage} :
    Plays bot message.chatId (Answering bot session)
      (handleTaskInteractionMessage bot message actor session) w := by
  unfold handleTaskInteractionMessage
  cases (message.textPayload.map trim).filter fun text => !text.isEmpty with
  | none => exact interactionPromptAgain_plays _
  | some text =>
    simp only
    cases session.kind with
    | comment => exact saveComment_plays text
    | blocker => exact saveBlocker_plays text
    | reassign => exact reassignByText_plays text

/-! ## The choice of an assignee -/

theorem dropSelection_plays : Plays bot chatId (Scene bot c chatId cue) (dropSelection bot chatId) w := by
  refine .always_bind (clearAssigneeSelection_stores bot chatId) fun _ w' _ => ?_
  exact createMenuScreen_ends.mono fun _ => .drop

theorem createDecided_plays {message : IncomingMessage} {decision : TaskAssigneeDecision} :
    Plays bot chatId (Scene bot c chatId cue) (createDecided bot chatId message decision) w := by
  refine .silent_bind (ask_silent bot 4 _) fun result w' _ _ => ?_
  cases result with
  | error error => exact error_plays error
  | ok outcome =>
    refine .always_bind (clearAssigneeSelection_stores bot chatId) fun _ _ _ => ?_
    refine .always_bind (clearCreationSession_stores bot chatId) fun _ w₁ _ => ?_
    exact .act (outcomeScreen_does outcome _ w₁)
      (.closeAfter (outcomeDescriptor_free outcome) (outcome_shown outcome _))

/-- With the employee chosen there is nothing to clarify. -/
theorem reassign_decided (clock : Nat → Instant) (ranking : NameRanking) (actor : User) (taskUid : Uuid)
    (query : String) (employeeId : Int) :
    (ReassignTask.executeWithDecision clock ranking actor taskUid query (.employeeId employeeId)).Yields
      (fun _ _ => True) fun outcome => ∃ summary, outcome = .reassigned summary := by
  have htriv : ∀ _ : Db, True := fun _ => trivial
  have htrans : ∀ _ _ _ : Db, True → True → True := fun _ _ _ _ _ => trivial
  have hany : ∀ {α : Type} (p : Proc α), p.Yields (fun _ _ => True) fun _ => True :=
    fun p plan db => ⟨trivial, fun _ _ => trivial⟩
  have hresolve : (ReassignTask.resolve ranking query (.employeeId employeeId)).Yields (fun _ _ => True)
      fun resolution => ∃ resolved, resolution = .resolved resolved :=
    .bind htrans (hany _) fun resolved _ => .pure htriv ⟨resolved, rfl⟩
  refine .bind htrans (hany _) fun actorId _ => .bind htrans (hany _) fun task _ => ?_
  refine .bind htrans (hany _) fun _ _ => .bind htrans hresolve fun resolution hresolved => ?_
  obtain ⟨resolved, rfl⟩ := hresolved
  exact .bind htrans (hany _) fun summary _ => .pure htriv ⟨summary, rfl⟩

theorem reassignDecided_plays {query : String} {employeeId : Int} :
    Plays bot chatId (Scene bot c chatId cue) (reassignDecided bot actor chatId session query employeeId)
      w := by
  refine .silent_bind (ask_silent bot 4 _) fun result w' hrun _ => ?_
  cases result with
  | error error => exact error_plays error
  | ok outcome =>
    have hanswer := Except.ok.inj (congrArg Prod.fst hrun)
    rw [RuntimeCall.program, run_onDb] at hanswer
    obtain ⟨summary, rfl⟩ := (reassign_decided _ _ _ _ _ _ _ _).2 outcome hanswer
    refine .always_bind (clearAssigneeSelection_stores bot chatId) fun _ w₁ _ => ?_
    exact (showTaskDetailsWithNotice_ends _ _).mono fun _ => .drop

theorem chooseFor_plays {employeeId : Int} (selection : PendingAssigneeSelection) :
    Plays bot chatId (Scene bot c chatId cue) (chooseFor bot actor chatId employeeId selection) w := by
  cases selection with
  | create message ids allow =>
    show Plays bot chatId _ (if employeeId ∈ ids then _ else _) w
    split
    · exact createDecided_plays
    · exact dropSelection_plays
  | reassign taskUid origin query ids =>
    show Plays bot chatId _ (if employeeId ∈ ids then _ else _) w
    split
    · exact reassignDecided_plays
    · refine .always_bind (clearAssigneeSelection_stores bot chatId) fun _ w₁ _ => ?_
      exact (showTaskDetailsWithNotice_ends _ _).mono fun _ => .drop

theorem assigneeSelection_silent (chatId : Int) : LeavesChats (assigneeSelection chatId) :=
  fun _ => ⟨_, _, rfl, rfl⟩

theorem chooseClarifiedAssignee_plays (employeeId : Int) :
    Plays bot chatId (Scene bot c chatId cue) (chooseClarifiedAssignee bot actor chatId employeeId) w := by
  refine .silent_bind (assigneeSelection_silent chatId) fun selection w' _ _ => ?_
  cases selection with
  | none => exact createMenuScreen_plays
  | some selection => exact chooseFor_plays selection

theorem createWithoutAssignee_plays :
    Plays bot chatId (Scene bot c chatId cue) (createWithoutAssigneeAfterClarification bot chatId) w := by
  refine .silent_bind (assigneeSelection_silent chatId) fun selection w' _ _ => ?_
  cases selection with
  | none => exact createMenuScreen_plays
  | some selection =>
    cases selection with
    | reassign taskUid origin query ids => exact createMenuScreen_plays
    | create message ids allow =>
      simp only
      split
      · exact createDecided_plays
      · exact dropSelection_plays

/-! ## Commands and buttons -/

theorem runCommand_plays (message : IncomingMessage) (command : BotCommand) :
    Plays bot message.chatId (Scene bot c message.chatId cue) (runCommand bot message actor command) w := by
  cases command with
  | start => exact showMainMenuFresh_plays
  | menu => exact showMainMenuFresh_plays
  | help => exact plays_ending showHelp_ends
  | newTask payload =>
    cases payload with
    | none => exact showCreateMenu_plays
    | some payload => exact GuidedCreateCoordinator.createAndPresent_plays _ fun h => nomatch h
  | myTasks cursor => exact plays_ending (showTaskList_ends cursor)
  | createdTasks cursor => exact plays_ending (showTaskList_ends cursor)
  | teamTasks cursor => exact plays_ending (showTaskList_ends cursor)
  | status reference =>
    exact plays_ending (withTaskReference_ends reference fun _ _ => showTaskDetailsWithNotice_ends _ _)
  | cancelTask reference =>
    exact plays_ending (withTaskReference_ends reference fun _ _ => confirmTaskCancel_ends)
  | stats => exact plays_ending (showStats_ends _)
  | teamStats =>
    refine plays_ending (.silent_bind (isEnabled_silent _) fun enabled w' _ _ => ?_)
    cases enabled with
    | true => exact showStats_ends _
    | false => exact fresh_ends ⟨rfl, rfl⟩ (.of (.menu actor rfl) rfl)
  | settings => exact plays_ending showSettings_ends
  | adminSyncEmployees => exact plays_ending syncEmployees_ends
  | admin => exact plays_ending showAdminMenu_ends
  | find searched => exact plays_ending (runFindCommand_ends searched)

theorem voiceCallback_plays {go : Handler Unit}
    (h : ∀ w', w'.chats = w.chats → Plays bot chatId (Scene bot c chatId cue) go w') :
    Plays bot chatId (Scene bot c chatId cue) (voiceCallback bot actor chatId go) w := by
  refine .silent_bind (isEnabled_silent _) fun enabled w' _ hchats => ?_
  cases enabled with
  | true => exact h w' hchats
  | false => exact showMainMenu_plays

/-- **Every button plays a scene**, those of the link screen apart. -/
theorem callbackAction_plays (callback : TelegramCallback) (hc : w.chats = c)
    (hlink : RegistrationDialog.linkSelection callback = none) :
    Plays bot chatId (Scene bot c chatId (.press callback)) (callbackAction bot actor chatId callback) w := by
  cases callback with
  | menuHome => exact showMainMenu_plays
  | menuHelp => exact plays_ending showHelp_ends
  | menuSettings => exact plays_ending showSettings_ends
  | menuStats => exact plays_ending (showStats_ends _)
  | menuTeamStats =>
    refine .silent_bind (isEnabled_silent _) fun enabled w' _ _ => ?_
    cases enabled with
    | true => exact plays_ending (showStats_ends _)
    | false => exact showMainMenu_plays
  | menuCreate => exact showCreateMenu_plays
  | menuSyncEmployees => exact plays_ending syncEmployees_ends
  | listTasks origin cursor => exact plays_ending (showTaskList_ends cursor)
  | openTask taskUid origin mode => exact plays_ending (showTaskDetailsWithNotice_ends mode none)
  | updateTaskStatus taskUid nextStatus origin => exact plays_ending (updateTaskStatus_ends nextStatus)
  | confirmTaskCancel taskUid origin => exact plays_ending confirmTaskCancel_ends
  | executeTaskCancel taskUid origin => exact plays_ending (updateTaskStatus_ends .cancelled)
  | startTaskCommentInput taskUid origin => exact startTaskInteraction_plays rfl
  | startTaskBlockerInput taskUid origin => exact startTaskInteraction_plays rfl
  | startTaskReassignInput taskUid origin => exact startTaskInteraction_plays rfl
  | showDeliveryHelp taskUid origin => exact plays_ending showDeliveryHelp_ends
  | startQuickCreate => exact GuidedCreateCoordinator.startQuick_plays
  | startGuidedCreate => exact GuidedCreateCoordinator.startGuided_plays
  | voiceCreateConfirm =>
    exact voiceCallback_plays fun _ h => VoiceCreateCoordinator.submit_plays (h.trans hc)
  | voiceCreateEdit =>
    exact voiceCallback_plays fun _ h => VoiceCreateCoordinator.startEdit_plays (h.trans hc)
  | voiceCreateBack =>
    exact voiceCallback_plays fun _ h => VoiceCreateCoordinator.returnToConfirmation_plays (h.trans hc)
  | voiceCreateCancel => exact voiceCallback_plays fun _ _ => VoiceCreateCoordinator.cancel_plays
  | registrationPickEmployee employeeId => cases hlink
  | registrationContinueUnlinked => cases hlink
  | clarificationPickEmployee employeeId => exact chooseClarifiedAssignee_plays employeeId
  | clarificationCreateUnassigned => exact createWithoutAssignee_plays
  | draftSkipAssignee => exact GuidedCreateCoordinator.skipAssignee_plays hc
  | draftSkipDeadline => exact GuidedCreateCoordinator.skipDeadline_plays hc
  | draftSubmit => exact GuidedCreateCoordinator.submit_plays hc
  | draftEdit field => exact GuidedCreateCoordinator.editField_plays field hc
  | guidedAssigneeConfirm employeeId => exact GuidedCreateCoordinator.confirmAssignee_plays employeeId hc
  | adminMenu => exact plays_ending showAdminMenu_ends
  | adminUsers => exact plays_ending showAdminUsers_ends
  | adminUserDetails userId => exact plays_ending (showAdminUserDetails_ends userId)
  | adminUserPrepareRoleChange userId nextRole => exact plays_ending (prepareAdminAction_ends userId _)
  | adminUserPrepareDeactivate userId => exact plays_ending (prepareAdminAction_ends userId _)
  | adminUserPrepareReactivate userId => exact plays_ending (prepareAdminAction_ends userId _)
  | adminConfirmNonce nonce => exact plays_ending (executeAdminConfirmation_ends nonce)
  | adminCancelPending => exact cancelAdminPending_plays
  | adminAudit => exact plays_ending showAdminAudit_ends
  | adminSecurityAudit => exact plays_ending showAdminSecurityAudit_ends
  | adminFeatures => exact plays_ending showAdminFeatures_ends
  | adminToggleFeature flagKey => exact plays_ending (toggleAdminFeature_ends flagKey)

end

end TaskBot
