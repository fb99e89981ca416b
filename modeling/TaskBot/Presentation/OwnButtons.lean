import TaskBot.Presentation.CallbackData
import TaskBot.Presentation.CallbackParsing
import TaskBot.Presentation.ChatRuns

/-!
# The buttons of the current screen

A screen serves its keyboard if each button is read back and accepted by the screen
itself, so that no press of it is called outdated.  `Placed` lists the pairs of
screens and keyboards, and most of them serve:

    Serves read bot d k.rows   ↔   ¬ Misfit d k                        (placed_serves_iff)

The misfits are all steps of the creation stage, which takes neither the button of
the create menu nor those of a task card.
-/

namespace TaskBot

open Sql Calls Effects Fields

/-- Pressed on the active screen, the button gets its "Готово" and goes on to its handler. -/
def NotOutdated (bot : Bot) (d : ScreenDescriptor) (callback : TelegramCallback) : Prop :=
  ∀ (w : World) (message : IncomingMessage) (actor : User) (callbackId : String),
    w.activeScreens message.chatId = some ⟨message.messageId, d⟩ →
      exec (admitPress bot callbackId message callback actor) w =
        exec (do answerCallback bot callbackId callbackOkText; pure (some actor)) w

/-- Every button is read back, and the screen takes it. -/
def Serves (read : IdReader) (bot : Bot) (d : ScreenDescriptor) (rows : List (List TelegramCallback)) :
    Prop :=
  ∀ row ∈ rows, ∀ callback ∈ row,
    parseCallback read (encodeCallback callback) = some callback ∧ d.accepts callback = true ∧
      NotOutdated bot d callback

/-- The creation stage with a keyboard that leads out of it: a result, a prompt of a task dialog, the
candidates on the voice confirmation, the main menu under a reminder. -/
def Misfit : ScreenDescriptor → Keyboard → Prop
  | .taskCreationResult _, _ => True
  | .taskInteractionPrompt _ _ _, _ => True
  | .voiceCreate _, .clarification _ => True
  | .guidedStep _, .mainMenu _ => True
  | _, _ => False

/-! ## Reading back -/

theorem Uuid.simple_free (u : Uuid) : Free ':' u.simple := by
  have hdigit : ∀ n < 16, ':' ≠ hexDigit n := by decide
  intro hc
  rw [Uuid.simple, String.toList_ofList] at hc
  obtain ⟨n, hn, he⟩ := mem_hexBytes hc
  exact hdigit n hn he

theorem Uuid.toText_ne_emptyCursor (u : Uuid) : u.toText ≠ emptyCursor := by
  intro h
  have hsize := u.toText_byteSize
  rw [h] at hsize
  exact absurd hsize (by decide)

/-- What is in range can be told apart. -/
theorem InRange.codable {callback : TelegramCallback} (h : InRange callback) : Codable callback := by
  cases callback with
  | listTasks origin cursor =>
    cases cursor with
    | none => trivial
    | some cursor =>
      obtain ⟨uid, rfl⟩ := h cursor rfl
      exact ⟨uid.toText_free, uid.toText_ne_emptyCursor⟩
  | adminConfirmNonce nonce =>
    obtain ⟨uid, rfl⟩ := h
    exact uid.simple_free
  | adminToggleFeature key =>
    obtain ⟨flag, rfl⟩ := h
    show Free ':' flag.asKey
    cases flag <;> decide
  | registrationPickEmployee id | clarificationPickEmployee id | guidedAssigneeConfirm id
  | adminUserDetails id | adminUserPrepareRoleChange id _ | adminUserPrepareDeactivate id
  | adminUserPrepareReactivate id => exact h
  | _ => trivial

/-! ## Acceptance -/

/-- A screen without a card takes what its stage takes. -/
theorem accepts_of_stage {d : ScreenDescriptor} {callback : TelegramCallback} (hcard : d.cardUid = none)
    (h : d.stage.acceptsCallback callback = true) : d.accepts callback = true := by
  cases d with
  | registrationLinking => cases h
  | taskDetail _ _ _ => cases hcard
  | cancelConfirmation _ _ => cases hcard
  | _ => exact h

/-- Every button of the rows is taken by the stage. -/
def Stage.Takes (stage : Stage) (rows : List (List TelegramCallback)) : Prop :=
  ∀ row ∈ rows, ∀ callback ∈ row, stage.acceptsCallback callback = true

theorem candidateRows_takes {stage : Stage} {pick : Int → TelegramCallback}
    (candidates : List EmployeeCandidateView) (hpick : ∀ id, stage.acceptsCallback (pick id) = true) :
    stage.Takes (candidateRows candidates pick) := by
  intro row hrow callback hcallback
  obtain ⟨c, -, hsome⟩ := List.mem_filterMap.mp hrow
  obtain ⟨id, -, rfl⟩ := Option.map_eq_some_iff.mp hsome
  rw [List.mem_singleton.mp hcallback]
  exact hpick id

theorem mainMenuKeyboard_takes (actor : User) : Stage.main.Takes (mainMenuKeyboard actor) := by
  unfold mainMenuKeyboard
  split <;> split <;> simp [Stage.Takes, listCallback, Stage.acceptsCallback]

theorem taskListKeyboard_takes (origin : TaskListOrigin) (page : TaskListPage) :
    Stage.main.Takes (taskListKeyboard origin page) := by
  refine List.forall_mem_append.mpr ⟨List.forall_mem_append.mpr ⟨?_, ?_⟩, ?_⟩
  · intro row hrow callback hcallback
    obtain ⟨task, -, rfl⟩ := List.mem_map.mp hrow
    rw [List.mem_singleton.mp hcallback]
    rfl
  · split <;> simp [Stage.acceptsCallback]
  · simp [Stage.acceptsCallback]

theorem guidedSuggestions_takes (candidates : List EmployeeCandidateView) :
    Stage.creation.Takes (guidedAssigneeSuggestionsKeyboard candidates) :=
  List.forall_mem_append.mpr ⟨candidateRows_takes candidates fun _ => rfl, by simp [Stage.acceptsCallback]⟩

theorem adminUsersKeyboard_takes (users : List User) : Stage.admin.Takes (adminUsersKeyboard users) := by
  refine List.forall_mem_append.mpr ⟨?_, by simp [Stage.acceptsCallback]⟩
  intro row hrow callback hcallback
  obtain ⟨user, -, hsome⟩ := List.mem_filterMap.mp hrow
  obtain ⟨id, -, rfl⟩ := Option.map_eq_some_iff.mp hsome
  rw [List.mem_singleton.mp hcallback]
  rfl

theorem adminUserDetailsKeyboard_takes (target : User) :
    Stage.admin.Takes (adminUserDetailsKeyboard target) := by
  have hrole : ∀ userId, ∀ callback ∈ roleRow target userId, Stage.admin.acceptsCallback callback = true := by
    intro userId callback hcallback
    obtain ⟨role, -, hsome⟩ := List.mem_filterMap.mp hcallback
    split at hsome
    · cases hsome
    · cases hsome
      rfl
  unfold adminUserDetailsKeyboard
  split
  · simp [Stage.Takes, Stage.acceptsCallback]
  · next userId _ =>
    refine List.forall_mem_append.mpr ⟨List.forall_mem_append.mpr ⟨?_, ?_⟩, by simp [Stage.acceptsCallback]⟩
    · split
      · exact List.forall_mem_nil _
      · exact List.forall_mem_singleton.mpr (hrole userId)
    · split <;> simp [Stage.acceptsCallback]

theorem adminFeaturesKeyboard_takes (flags : List (FeatureFlag × Bool)) :
    Stage.admin.Takes (adminFeaturesKeyboard flags) := by
  refine List.forall_mem_append.mpr ⟨?_, by simp [Stage.acceptsCallback]⟩
  intro row hrow callback hcallback
  obtain ⟨flag, -, rfl⟩ := List.mem_map.mp hrow
  rw [List.mem_singleton.mp hcallback]
  rfl

/-- The card of a task takes its own buttons. -/
theorem taskDetail_takes (details : TaskStatusDetails) (origin : TaskListOrigin) (mode : TaskCardMode) :
    ∀ row ∈ taskDetailKeyboard details origin mode, ∀ callback ∈ row,
      (ScreenDescriptor.taskDetail details.taskUid mode origin).accepts callback = true := by
  have hown : ∀ {callback : TelegramCallback}, callback.cardTaskUid = some details.taskUid →
      (ScreenDescriptor.taskDetail details.taskUid mode origin).accepts callback = true := by
    intro callback huid
    unfold ScreenDescriptor.accepts
    rw [huid]
    exact decide_eq_true rfl
  exact taskDetailKeyboard_all mode (fun action => hown (by cases action <;> rfl)) (hown rfl)
    (fun _ => rfl) rfl rfl

theorem cancelConfirmation_takes (taskUid : Uuid) (origin : TaskListOrigin) :
    ∀ row ∈ cancelConfirmationKeyboard taskUid origin, ∀ callback ∈ row,
      (ScreenDescriptor.cancelConfirmation taskUid origin).accepts callback = true := by
  simp [cancelConfirmationKeyboard, ScreenDescriptor.accepts, ScreenDescriptor.cardUid,
    TelegramCallback.cardTaskUid, ScreenDescriptor.stage, Stage.acceptsCallback]

theorem registrationLink_takes (candidates : List EmployeeCandidateView) (allow : Bool) :
    ∀ row ∈ registrationLinkKeyboard candidates allow, ∀ callback ∈ row,
      ScreenDescriptor.registrationLinking.accepts callback = true := by
  refine List.forall_mem_append.mpr ⟨?_, ?_⟩
  · intro row hrow callback hcallback
    obtain ⟨c, -, hsome⟩ := List.mem_filterMap.mp hrow
    obtain ⟨id, -, rfl⟩ := Option.map_eq_some_iff.mp hsome
    rw [List.mem_singleton.mp hcallback]
    rfl
  · split
    · exact List.forall_mem_singleton.mpr (List.forall_mem_singleton.mpr rfl)
    · exact List.forall_mem_nil _

/-! ## Screens and keyboards -/

section

variable {read : IdReader} {bot : Bot} {d : ScreenDescriptor} {k : Keyboard}

/-- What the queries promise: details are those of the task that was asked for. -/
def Queries.Sound (queries : Queries) : Prop :=
  ∀ db actor taskUid details, queries.taskStatus db actor taskUid = .ok details → details.taskUid = taskUid

/-- What the screen accepts goes through. -/
theorem notOutdated_of_accepts {callback : TelegramCallback} (h : d.accepts callback = true) :
    NotOutdated bot d callback := by
  intro w message actor callbackId hactive
  have hstale : w.isStale message.chatId message.messageId = false := by
    unfold World.isStale
    rw [hactive]
    simp
  have hmismatch : w.isDescriptorMismatch message.chatId callback = false := by
    unfold World.isDescriptorMismatch
    rw [hactive]
    simp [h]
  unfold admitPress
  rw [Effects.exec_bind_ok (Effects.exec_get w)]
  simp only [hstale, hmismatch]
  rfl

theorem accepts_of_fit (hqueries : bot.queries.Sound) (h : Placed bot d k) (hfit : ¬ Misfit d k) :
    ∀ row ∈ k.rows, ∀ callback ∈ row, d.accepts callback = true := by
  have hstage : d.cardUid = none → d.stage.Takes k.rows →
      ∀ row ∈ k.rows, ∀ callback ∈ row, d.accepts callback = true :=
    fun hcard htakes row hrow callback hcallback =>
      accepts_of_stage hcard (htakes row hrow callback hcallback)
  cases h with
  | menu actor hmenu =>
    cases d with
    | mainMenu | help | settings | stats _ | syncEmployeesResult =>
      exact hstage rfl (mainMenuKeyboard_takes actor)
    | unknown => exact hstage rfl fun _ _ _ _ => rfl
    | _ => cases hmenu
  | guidedReminder step actor => exact absurd trivial hfit
  | voiceClarification request => exact absurd trivial hfit
  | prompt session hdetails => exact absurd trivial hfit
  | promptClarification session request => exact absurd trivial hfit
  | result outcome => exact absurd (by cases outcome <;> trivial) hfit
  | followup summary allow => exact absurd trivial hfit
  | resultClarification request => exact absurd trivial hfit
  | guidedOptions candidates => exact hstage rfl (guidedSuggestions_takes candidates)
  | taskList origin hpage => exact hstage rfl (taskListKeyboard_takes origin _)
  | @taskDetail db actor taskUid details origin mode hdetails =>
    obtain rfl := hqueries db actor taskUid details hdetails
    exact taskDetail_takes details origin mode
  | cancelConfirmation taskUid origin => exact cancelConfirmation_takes taskUid origin
  | registrationLink candidates allow => exact registrationLink_takes candidates allow
  | adminUsers users => exact hstage rfl (adminUsersKeyboard_takes users)
  | adminUserDetails userId target => exact hstage rfl (adminUserDetailsKeyboard_takes target)
  | adminFeatures flags => exact hstage rfl (adminFeaturesKeyboard_takes flags)
  | _ =>
    refine hstage rfl ?_
    simp [Stage.Takes, Keyboard.rows, createMenuKeyboard, quickCaptureKeyboard, guidedAssigneeKeyboard,
      guidedDeadlineKeyboard, guidedConfirmationKeyboard, voiceConfirmationKeyboard, voiceEditKeyboard,
      adminMenuKeyboard, adminBackKeyboard, adminConfirmationKeyboard, deliveryHelpKeyboard,
      ScreenDescriptor.stage, Stage.acceptsCallback]

/-- The creation stage does not take this button. -/
theorem not_serves (hcard : d.cardUid = none) (hstage : d.stage = .creation) (callback : TelegramCallback)
    (hrefused : Stage.creation.acceptsCallback callback = false) (hmem : ∃ row ∈ k.rows, callback ∈ row) :
    ¬ Serves read bot d k.rows := by
  intro h
  obtain ⟨row, hrow, hcallback⟩ := hmem
  have haccepts := (h row hrow callback hcallback).2.1
  have hsame : d.accepts callback = d.stage.acceptsCallback callback := by
    cases d with
    | registrationLinking => cases hstage
    | taskDetail _ _ _ => cases hcard
    | cancelConfirmation _ _ => cases hcard
    | _ => rfl
  rw [hsame, hstage, hrefused] at haccepts
  cases haccepts

theorem clarification_menu (request : ClarificationRequest) :
    ∃ row ∈ clarificationKeyboard request, TelegramCallback.menuCreate ∈ row :=
  ⟨[.menuCreate], List.mem_append_right _ List.mem_cons_self, List.mem_cons_self⟩

theorem taskDetail_back (details : TaskStatusDetails) (origin : TaskListOrigin) (mode : TaskCardMode) :
    ∃ row ∈ taskDetailKeyboard details origin mode, backCallback origin ∈ row :=
  ⟨[backCallback origin], List.mem_append_right _ (List.mem_cons_of_mem _ List.mem_cons_self),
    List.mem_cons_self⟩

theorem not_serves_of_misfit (h : Placed bot d k) (hmisfit : Misfit d k) : ¬ Serves read bot d k.rows := by
  cases h with
  | guidedReminder step actor =>
    refine not_serves rfl rfl .menuCreate rfl ⟨[listCallback .focus none, .menuCreate], ?_, ?_⟩
    · simp [Keyboard.rows, mainMenuKeyboard]
    · simp
  | voiceClarification request => exact not_serves rfl rfl .menuCreate rfl (clarification_menu request)
  | prompt session hdetails => exact not_serves rfl rfl (backCallback session.origin) rfl (taskDetail_back _ session.origin _)
  | promptClarification session request => exact not_serves rfl rfl .menuCreate rfl (clarification_menu request)
  | resultClarification request => exact not_serves rfl rfl .menuCreate rfl (clarification_menu request)
  | followup summary allow =>
    refine not_serves rfl rfl .menuCreate rfl ⟨[.menuCreate, .menuHome], ?_, List.mem_cons_self⟩
    exact List.mem_append_right _ List.mem_cons_self
  | result outcome =>
    cases outcome <;>
      exact not_serves rfl rfl .menuCreate rfl (by simp [Keyboard.rows, outcomeKeyboard])
  | menu actor hmenu => cases d <;> cases hmenu <;> cases hmisfit
  | _ => cases hmisfit

/-- **A screen serves its keyboard, but for the misfits.** -/
theorem placed_serves_iff (hread : read.ReadsBack) (hqueries : bot.queries.Sound) (h : Placed bot d k)
    (hvalid : k.Valid) : Serves read bot d k.rows ↔ ¬ Misfit d k := by
  constructor
  · intro hserves hmisfit
    exact not_serves_of_misfit h hmisfit hserves
  · intro hfit row hrow callback hcallback
    have hrange : InRange callback := k.rows_inRange hvalid row hrow callback hcallback
    have haccepts : d.accepts callback = true := accepts_of_fit hqueries h hfit row hrow callback hcallback
    exact ⟨(parse_encode read hread callback hrange.codable).1, haccepts, notOutdated_of_accepts haccepts⟩

end

/-! ## Top theorem -/

/-- **The screens of the dispatcher and their keyboards.**  Whatever update is handled in whatever state:
a screen that comes with buttons, whose identifiers are what their types say, takes all of them exactly
if it is no misfit. -/
theorem screens_serve_iff (read : IdReader) (hread : read.ReadsBack) (bot : Bot)
    (hqueries : bot.queries.Sound) (received : TelegramUpdate) (w : World) (m : SentMessage)
    (hm : m ∈ newMessages bot received w) (d : ScreenDescriptor) (hd : m.screen = some d) :
    m.view.keyboard = [] ∨ ∃ k, Placed bot d k ∧ m.view.keyboard = k.rows ∧
      (k.Valid → (Serves read bot d m.view.keyboard ↔ ¬ Misfit d k)) := by
  obtain ⟨new, hsent, -, hmessages⟩ := update_sent bot received w
  have hnew : newMessages bot received w = new := by
    unfold newMessages
    rw [hsent, List.drop_left]
  rw [hnew] at hm
  rcases (hmessages m hm).2 d hd with hnone | ⟨k, hplaced, hrows⟩
  · exact .inl hnone
  · refine .inr ⟨k, hplaced, hrows, fun hvalid => ?_⟩
    rw [hrows]
    exact placed_serves_iff hread hqueries hplaced hvalid

/-! ## A task that was created -/

/-- The main menu comes with one of its keyboards. -/
theorem menu_serves : ∃ m ∈ newMessages draftingBot (.message (typedMessage 5 "/menu")) onboardedWorld,
    ∃ k, Placed draftingBot .mainMenu k ∧ m.view.keyboard = k.rows ∧
      (k.Valid → (Serves displayReader draftingBot .mainMenu m.view.keyboard ↔ ¬ Misfit .mainMenu k)) := by
  have hmenu : (newMessages draftingBot (.message (typedMessage 5 "/menu")) onboardedWorld).any
      (fun m => decide (m.screen = some .mainMenu) && decide (m.view.keyboard ≠ [])) = true := by decide
  obtain ⟨m, hm, hfields⟩ := List.any_eq_true.mp hmenu
  obtain ⟨hscreen, hkeyboard⟩ := (Bool.and_eq_true _ _).mp hfields
  rcases screens_serve_iff displayReader displayReader_readsBack draftingBot (fun _ _ _ _ h => nomatch h)
    (.message (typedMessage 5 "/menu")) onboardedWorld m hm .mainMenu (of_decide_eq_true hscreen) with
    hnone | hplaced
  · exact absurd hnone (of_decide_eq_true hkeyboard)
  · exact ⟨m, hm, hplaced⟩

/-- The result card of a new task refuses the button for the next one. -/
theorem result_refuses_own_button :
    ¬ ∀ (bot : Bot) (received : TelegramUpdate) (w : World), ∀ m ∈ newMessages bot received w,
      ∀ d, m.screen = some d → Serves displayReader bot d m.view.keyboard := by
  intro hall
  have hrefused : (newMessages draftingBot (.message (typedMessage 5 "Подготовить отчёт")) onboardedWorld).any
      (fun m => m.screen.any fun d => m.view.keyboard.any fun row => row.any fun c => !d.accepts c) = true := by
    decide
  obtain ⟨m, hm, hscreen⟩ := List.any_eq_true.mp hrefused
  obtain ⟨d, hd, hkeyboard⟩ := (Option.any_eq_true _ _).mp hscreen
  obtain ⟨row, hrow, hbutton⟩ := List.any_eq_true.mp hkeyboard
  obtain ⟨callback, hcallback, hnot⟩ := List.any_eq_true.mp hbutton
  have haccepts := (hall draftingBot _ onboardedWorld m hm d hd row hrow callback hcallback).2.1
  rw [haccepts] at hnot
  cases hnot

end TaskBot
