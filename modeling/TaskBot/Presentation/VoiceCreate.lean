import TaskBot.Domain.VoiceTranscript
import TaskBot.Presentation.OnboardingGate
import TaskBot.Presentation.UiText
import TaskBot.UseCases.Registration
import TaskBot.UseCases.TaskPreview

/-!
# Voice messages

`start` takes a voice message to a draft of a task: it shows the processing
screen, has the audio transcribed, and then shows the draft for confirmation, or
the create screen with the reason why there is none.

* `start_shows_result`: outside of an update `start` gets there;
* `voice_update_ends_processing`: an update never does.  The processing screen
  spends the barrier of the update, so the second screen is suppressed.
-/

namespace TaskBot

open Sql Calls

/-! ## Texts -/

def infoEmoji : String := "ℹ️"

def voiceProcessingMessage : String := "⏳ Распознаю голосовое..."

def voiceEmptyTranscriptMessage : String :=
  "Не получилось уверенно разобрать голосовое. Попробуйте отправить его ещё раз или напишите задачу текстом."

def voiceTruncatedNotice : String :=
  "⚠️ Голосовое оказалось длинным, я использовал только начало. Проверьте, что все важные детали сохранились, или запишите заново."

def transcriptionErrorText (error : AppError) : String :=
  if error.code = "VOICE_TOO_LONG" then
    "⏱ Голосовое слишком длинное. Запишите покороче или пришлите задачу текстом."
  else if error.code = "VOICE_TOO_LARGE" then
    "📦 Файл голосового слишком большой. Попробуйте более короткую запись."
  else if error.code = "TRANSCRIPTION_EMPTY" then
    "🔇 Не удалось уверенно разобрать речь. Попробуйте ещё раз или напишите текстом."
  else if error.code = "CIRCUIT_BREAKER_OPEN" then
    "🔌 Сервис распознавания временно недоступен. Попробуйте позже или напишите текстом."
  else "⚠️ Не удалось обработать голосовое. Попробуйте ещё раз или напишите текстом."

def deliveryBadge : DeliveryStatus → String
  | .deliveredToAssignee => "📬 Доставлено"
  | .pendingDelivery => "🕓 В очереди"
  | .pendingAssigneeRegistration => "👋 Ждёт /start"
  | .retryPending => "🔁 Повторим отправку"
  | .failed => "⚠️ Не доставлено"
  | .creatorOnly => "👤 Только автору"

def deliveryDetail : DeliveryStatus → String
  | .deliveredToAssignee => "исполнитель уже получил задачу в Telegram"
  | .pendingDelivery => "уведомление уже в очереди, бот доставит его автоматически"
  | .pendingAssigneeRegistration =>
      "исполнитель ещё не запускал бота; задача сохранена и придёт после /start"
  | .retryPending => "прошлая отправка не удалась, бот повторит попытку"
  | .failed => "доставить уведомление пока не получилось, нужно проверить подключение исполнителя"
  | .creatorOnly => "задача создана без отдельного уведомления исполнителю"

def renderCandidateLines (candidates : List EmployeeCandidateView) : String :=
  String.intercalate "\n" (candidates.map fun candidate =>
    let username := (candidate.telegramUsername.map fun value => " (@" ++ value ++ ")").getD ""
    "• " ++ candidate.fullName ++ username ++ " — " ++ toString candidate.confidence ++ "%")

def assigneeBlock : AssigneeInterpretation → String
  | .none => "Пока без исполнителя"
  | .resolved display deliveryStatus =>
      display ++ "\nДоставка: " ++ deliveryBadge deliveryStatus ++ " — " ++ deliveryDetail deliveryStatus
  | .clarificationRequired request =>
      let candidates := if request.candidates.isEmpty then "Нужно уточнить исполнителя вручную."
        else renderCandidateLines request.candidates
      request.message ++ "\n" ++ candidates

def voiceConfirmationText (transcript : String) : String :=
  infoEmoji ++ " Я разобрал голосовое так\n\n" ++ transcript ++
    "\n\nЕсли всё верно, создайте задачу. Если нужно, сначала поправьте текст."

def voiceInterpretationText (transcript : String) (preview : TaskInterpretationPreview) : String :=
  let transcriptBlock :=
    if transcript.isEmpty then "" else infoEmoji ++ " Я услышал\n" ++ transcript ++ "\n\n"
  transcriptBlock ++ (infoEmoji ++ " Я понял задачу вот так\n\nИсполнитель:\n" ++
    assigneeBlock preview.assignee ++ "\n\nСрок: " ++ preview.deadlineLabel.getD "без срока" ++
    "\n\nЧто нужно сделать:\n" ++ preview.description)

/-! ## The coordinator -/

def voiceSyntheticMessageId : Int := -1

/-- The message a draft is submitted as. -/
def buildVoiceMessage (chatId : Int) (actor : User) (draft : VoiceTaskDraft) (now : Instant) :
    IncomingMessage where
  messageId := voiceSyntheticMessageId
  chatId
  senderId := actor.telegramId
  senderName := actor.fullName.getD "Пользователь"
  senderUsername := actor.telegramUsername
  content := .text draft.transcript
  timestamp := now
  sourceMessageKeyOverride := some draft.sourceMessageKey
  isVoiceOrigin := true

/-- What the handlers of one update work with.  `plans n` are the failures of the `n`-th use case
of the update, `rateLimiter` says whom the rate limiter lets pass, `uptime` reads the monotonic
clock; `newTaskUid`, `submissionKey` and `nonce` are the identifiers the update generates. -/
structure Bot where
  telegram : Telegram
  services : CreationServices
  chars : CharClass
  toLowercase : String → String
  clock : Nat → Instant
  plans : Nat → Site → Fault AppError
  rateLimiter : Int → Bool
  queries : Queries
  texts : UiText → String
  directory : AppResult (List Employee)
  uptime : Nat → Instant
  newTaskUid : Uuid
  submissionKey : Uuid
  nonce : String

namespace VoiceCreateCoordinator

def confirmationBody (draft : VoiceTaskDraft) : AppResult TaskInterpretationPreview → String
  | .ok preview => voiceInterpretationText draft.transcript preview
  | .error _ => voiceConfirmationText draft.transcript

def confirmationSections (notice : Option String) (draft : VoiceTaskDraft) (base : String) :
    List String :=
  notice.toList ++ (if draft.truncated then [voiceTruncatedNotice] else []) ++ [base]

variable (bot : Bot)

def buildConfirmationBody (actor : User) (chatId : Int) (draft : VoiceTaskDraft) : Handler String := do
  let previewMessage := buildVoiceMessage chatId actor draft (bot.clock 0)
  let preview ← useCase (bot.plans 3)
    (CreateTaskFromMessage.previewInterpretation bot.services (fun i => bot.clock (i + 1)) previewMessage)
  pure (confirmationBody draft preview)

def showConfirmation (actor : User) (chatId : Int) (draft : VoiceTaskDraft) (notice : Option String) :
    Handler Unit := do
  let base ← buildConfirmationBody bot actor chatId draft
  sendScreen bot.telegram chatId (.voiceCreate .confirm)
    ⟨String.intercalate "\n\n" (confirmationSections notice draft base), voiceConfirmationKeyboard⟩

/-- The draft of a transcript. -/
def draftOf (message : IncomingMessage) (normalised : NormalizedTranscript) : VoiceTaskDraft :=
  (VoiceTaskDraft.new message.sourceMessageKey normalised.text).withTruncation normalised.truncated

/-- `start` behind the transcription. -/
def present (actor : User) (message : IncomingMessage) : AppResult String → Handler Unit
  | .ok transcript =>
      match NormalizedTranscript.fromRaw transcript with
      | .ok normalised => do
          let draft := draftOf message normalised
          setCreationSession message.chatId (.voice draft)
          clearAssigneeSelection message.chatId
          showConfirmation bot actor message.chatId draft none
      | .error _ =>
          sendScreen bot.telegram message.chatId .quickCreate
            ⟨voiceEmptyTranscriptMessage, createMenuKeyboard⟩
  | .error error =>
      sendScreen bot.telegram message.chatId .quickCreate
        ⟨transcriptionErrorText error, createMenuKeyboard⟩

def start (actor : User) (message : IncomingMessage) : Handler Unit := do
  sendScreen bot.telegram message.chatId .processing ⟨voiceProcessingMessage, []⟩
  present bot actor message (CreateTaskFromMessage.transcribeVoiceMessage bot.services message)

end VoiceCreateCoordinator

/-! ## The update -/

section

variable (bot : Bot)

/-- `register_actor` as far as it goes on: the actor, unless the update is answered here. -/
def registerActor (message : IncomingMessage) (w : World) : Option User × World :=
  let gated := (runOnboardingGate bot.chars bot.toLowercase (fun _ => bot.clock) message).run
    (bot.plans 0) w.db
  match gated.1 with
  | .ok (.notApplicable, _) =>
      let preview := (RegisterUser.previewLinking bot.toLowercase message).run (bot.plans 1) gated.2
      match preview.1 with
      | .ok (.ready decision) =>
          let registered := (RegisterUser.executeWithLinkDecision bot.toLowercase bot.clock message
            decision).run (bot.plans 2) preview.2
          (registered.1.toOption, { w with db := registered.2 })
      | _ => (none, { w with db := preview.2 })
  | _ => (none, { w with db := gated.2 })

/-- The open session of the chat leaves a voice message to `start`. -/
def sessionTakesVoice (w : World) (chatId : Int) : Bool :=
  match w.creationSessions chatId with
  | some .quickCapture | some (.voice _) => true
  | some (.guided _) => false
  | none => (w.taskInteractions chatId).isNone

/-- `dispatch_message_inner` up to `start`: the actor and the world `start` is called in, if the
update gets that far. -/
def dispatchVoice (message : IncomingMessage) (w : World) : Option (User × World) :=
  match message.content, registerActor bot message w with
  | .voice _, (some actor, w') =>
      if bot.rateLimiter actor.telegramId ∧ sessionTakesVoice w' message.chatId then some (actor, w')
      else none
  | _, _ => none

/-- `handle_message` for an update that `start` handles. -/
def handleVoiceMessage (message : IncomingMessage) (w : World) :
    Option (Except RequestError Unit × World) :=
  (dispatchVoice bot message (w.installBarrier message.chatId)).map fun p =>
    let o := (VoiceCreateCoordinator.start bot p.1 message).exec p.2
    (o.1, o.2.uninstallBarrier message.chatId)

end

/-! ## What a voice message should lead to -/

/-- The text carries the part. -/
def CarriesText (text part : String) : Prop := ∃ before after, text = before ++ part ++ after

/-- The transcript of a voice message, as the draft takes it. -/
def transcriptOf (services : CreationServices) (message : IncomingMessage) :
    AppResult NormalizedTranscript :=
  match CreateTaskFromMessage.transcribeVoiceMessage services message with
  | .ok transcript => NormalizedTranscript.fromRaw transcript
  | .error error => .error error

/-- The confirmation with the transcript, or the create screen with an error text. -/
def IsVoiceResult (services : CreationServices) (message : IncomingMessage) :
    ScreenDescriptor → ScreenView → Prop
  | .voiceCreate .confirm, view =>
      ∃ normalised, transcriptOf services message = .ok normalised ∧ CarriesText view.text normalised.text
  | .quickCreate, view =>
      view.text = voiceEmptyTranscriptMessage ∨ ∃ error, view.text = transcriptionErrorText error
  | _, _ => False

/-- The active screen of the chat is the result of the voice message. -/
def VoiceResult (services : CreationServices) (message : IncomingMessage) (w : World) : Prop :=
  ∃ descriptor view, IsVoiceResult services message descriptor view ∧
    w.Shows message.chatId descriptor view

theorem CarriesText.append_left {text part : String} (before : String) (h : CarriesText text part) :
    CarriesText (before ++ text) part := by
  obtain ⟨start, rest, rfl⟩ := h
  exact ⟨before ++ start, rest, by simp only [String.append_assoc]⟩

theorem carriesText_intercalate (sections : List String) {base part : String} (h : CarriesText base part) :
    CarriesText (String.intercalate "\n\n" (sections ++ [base])) part := by
  induction sections with
  | nil =>
    show CarriesText (String.intercalate "\n\n" [base]) part
    rw [String.intercalate_singleton]
    exact h
  | cons s sections ih =>
    have hcons : String.intercalate "\n\n" (s :: sections ++ [base]) =
        s ++ "\n\n" ++ String.intercalate "\n\n" (sections ++ [base]) := by
      rw [List.cons_append, String.intercalate_cons_of_ne_nil (by simp)]
    rw [hcons]
    exact ih.append_left _

theorem carriesText_interpretation (transcript : String) (preview : TaskInterpretationPreview) :
    CarriesText (voiceInterpretationText transcript preview) transcript := by
  unfold voiceInterpretationText
  by_cases hempty : transcript.isEmpty = true
  · rw [String.isEmpty_iff.mp hempty]
    exact ⟨"", _, by rw [String.empty_append, String.empty_append]⟩
  · simp only [if_neg hempty]
    exact ⟨infoEmoji ++ " Я услышал\n", _, by simp only [String.append_assoc]; rfl⟩

theorem carriesText_confirmation (transcript : String) :
    CarriesText (voiceConfirmationText transcript) transcript := ⟨_, _, rfl⟩

/-! ## One handler, two screens -/

section

variable {bot : Bot} {actor : User} {message : IncomingMessage} {w w' : World}

theorem exec_useCase {α : Type} (plan : Site → Fault AppError) (p : Proc α) (w : World) :
    (useCase plan p).exec w = (.ok (p.run plan w.db).1, { w with db := (p.run plan w.db).2 }) := rfl

/-- The body is that of some preview; nothing but the database is touched. -/
theorem exec_buildConfirmationBody (bot : Bot) (actor : User) (chatId : Int) (draft : VoiceTaskDraft)
    (w : World) : ∃ preview db,
      (VoiceCreateCoordinator.buildConfirmationBody bot actor chatId draft).exec w =
        (.ok (VoiceCreateCoordinator.confirmationBody draft preview), { w with db }) := by
  let preview := CreateTaskFromMessage.previewInterpretation bot.services (fun i => bot.clock (i + 1))
    (buildVoiceMessage chatId actor draft (bot.clock 0))
  refine ⟨(preview.run (bot.plans 3) w.db).1, (preview.run (bot.plans 3) w.db).2, ?_⟩
  unfold VoiceCreateCoordinator.buildConfirmationBody
  rw [exec_bind_ok (exec_useCase (bot.plans 3) preview w)]
  exact exec_pure _ _

/-- The confirmation is one screen, after a preview. -/
theorem showConfirmation_sends (bot : Bot) (actor : User) (chatId : Int) (draft : VoiceTaskDraft)
    (notice : Option String) (w : World) : ∃ preview db,
      (VoiceCreateCoordinator.showConfirmation bot actor chatId draft notice).exec w =
        (sendScreen bot.telegram chatId (.voiceCreate .confirm)
          ⟨String.intercalate "\n\n" (VoiceCreateCoordinator.confirmationSections notice draft
            (VoiceCreateCoordinator.confirmationBody draft preview)),
            voiceConfirmationKeyboard⟩).exec { w with db } := by
  obtain ⟨preview, db, hbody⟩ := exec_buildConfirmationBody bot actor chatId draft w
  refine ⟨preview, db, ?_⟩
  unfold VoiceCreateCoordinator.showConfirmation
  rw [exec_bind_ok hbody]

/-- **`start` behind the transcription ends in one screen**, a result of the voice message. -/
theorem present_sends (bot : Bot) (actor : User) (message : IncomingMessage) (w : World) :
    ∃ w₁ descriptor view,
      (VoiceCreateCoordinator.present bot actor message
          (CreateTaskFromMessage.transcribeVoiceMessage bot.services message)).exec w =
        (sendScreen bot.telegram message.chatId descriptor view).exec w₁ ∧
      SameScreens message.chatId w w₁ ∧ w₁.currentBarriers = w.currentBarriers ∧
      IsVoiceResult bot.services message descriptor view := by
  have htranscript : ∀ {transcript normalised},
      CreateTaskFromMessage.transcribeVoiceMessage bot.services message = .ok transcript →
      NormalizedTranscript.fromRaw transcript = .ok normalised →
      transcriptOf bot.services message = .ok normalised := by
    intro transcript normalised htranscribe hraw
    simp only [transcriptOf, htranscribe, hraw]
  unfold VoiceCreateCoordinator.present
  cases htranscribe : CreateTaskFromMessage.transcribeVoiceMessage bot.services message with
  | error error => exact ⟨w, _, _, rfl, ⟨rfl, rfl⟩, rfl, .inr ⟨error, rfl⟩⟩
  | ok transcript =>
    simp only
    cases hraw : NormalizedTranscript.fromRaw transcript with
    | error error => exact ⟨w, _, _, rfl, ⟨rfl, rfl⟩, rfl, .inl rfl⟩
    | ok normalised =>
      simp only
      generalize hdraft : VoiceCreateCoordinator.draftOf message normalised = draft
      have hsession : (setCreationSession message.chatId (.voice draft)).exec w = (.ok (), _) :=
        exec_modify _ _
      rw [exec_bind_ok hsession]
      have hclear : ∀ w₀, (clearAssigneeSelection message.chatId).exec w₀ = (.ok (), _) :=
        fun w₀ => exec_modify _ w₀
      rw [exec_bind_ok (hclear _)]
      obtain ⟨preview, db, hsends⟩ := showConfirmation_sends bot actor message.chatId draft none _
      refine ⟨_, _, _, hsends, ⟨rfl, rfl⟩, rfl, normalised, htranscript htranscribe hraw, ?_⟩
      refine carriesText_intercalate _ ?_
      rw [show normalised.text = draft.transcript by rw [← hdraft]; rfl]
      cases preview with
      | ok preview => exact carriesText_interpretation _ _
      | error error => exact carriesText_confirmation _

/-- Behind a spent barrier the chat shows what it showed before. -/
theorem present_suppressed (bot : Bot) (actor : User)
    (hspent : w.currentBarriers message.chatId = some ⟨true⟩) : ∃ w',
    (VoiceCreateCoordinator.present bot actor message
        (CreateTaskFromMessage.transcribeVoiceMessage bot.services message)).exec w = (.ok (), w') ∧
      SameScreens message.chatId w w' := by
  obtain ⟨w₁, descriptor, view, hrun, hsame, hbarriers, -⟩ := present_sends bot actor message w
  refine ⟨w₁, ?_, hsame⟩
  rw [hrun]
  exact sendScreen_suppressed descriptor view (by rw [hbarriers, hspent])

/-- Otherwise it shows the result. -/
theorem present_shows_result (hdelivers : bot.telegram.Delivers)
    (hfresh : ∀ barrier, w.currentBarriers message.chatId = some barrier → barrier.spent = false) : ∃ w',
    (VoiceCreateCoordinator.present bot actor message
        (CreateTaskFromMessage.transcribeVoiceMessage bot.services message)).exec w = (.ok (), w') ∧
      VoiceResult bot.services message w' := by
  obtain ⟨w₁, descriptor, view, hrun, -, hbarriers, hresult⟩ := present_sends bot actor message w
  have hfresh₁ : ∀ barrier, w₁.currentBarriers message.chatId = some barrier → barrier.spent = false := by
    rw [hbarriers]
    exact hfresh
  obtain ⟨w', hsend, hshows, -⟩ := sendScreen_shows descriptor view hdelivers hfresh₁
  exact ⟨w', hrun.trans hsend, descriptor, view, hresult, hshows⟩

/-- **Outside of an update `start` shows the result.** -/
theorem start_shows_result (hdelivers : bot.telegram.Delivers)
    (hnone : w.currentBarriers message.chatId = none) : ∃ w',
    (VoiceCreateCoordinator.start bot actor message).exec w = (.ok (), w') ∧
      VoiceResult bot.services message w' := by
  obtain ⟨w₁, hsend, -, hbarrier⟩ := sendScreen_shows .processing
    ⟨voiceProcessingMessage, []⟩ hdelivers fun barrier h => nomatch hnone.symm.trans h
  have hnone₁ : w₁.currentBarriers message.chatId = none := by
    rw [hbarrier, hnone]
    rfl
  unfold VoiceCreateCoordinator.start
  rw [exec_bind_ok hsend]
  exact present_shows_result hdelivers fun barrier h => nomatch hnone₁.symm.trans h

/-- **In an update it stays with the processing screen**, whatever the transcription answers. -/
theorem start_ends_processing (actor : User) (hdelivers : bot.telegram.Delivers)
    (hfresh : w.currentBarriers message.chatId = some .new) : ∃ w',
    (VoiceCreateCoordinator.start bot actor message).exec w = (.ok (), w') ∧
      w'.Shows message.chatId .processing ⟨voiceProcessingMessage, []⟩ := by
  obtain ⟨w₁, hsend, ⟨messageId, hactive, hview⟩, hbarrier⟩ := sendScreen_shows .processing
    ⟨voiceProcessingMessage, []⟩ hdelivers fun barrier h => by
      cases hfresh.symm.trans h
      rfl
  have hspent : w₁.currentBarriers message.chatId = some ⟨true⟩ := by
    rw [hbarrier, hfresh]
    rfl
  obtain ⟨w', hpresent, hsame⟩ := present_suppressed bot actor hspent
  unfold VoiceCreateCoordinator.start
  rw [exec_bind_ok hsend]
  exact ⟨w', hpresent, messageId, by rw [hsame.active, hactive], by rw [hsame.messages, hview]⟩

theorem not_voiceResult_of_processing {services : CreationServices} {view : ScreenView}
    (h : w.Shows message.chatId .processing view) : ¬ VoiceResult services message w := by
  rintro ⟨descriptor, view', hresult, messageId, hactive, -⟩
  obtain ⟨messageId', hactive', -⟩ := h
  cases hactive'.symm.trans hactive
  exact hresult

/-- Up to `start` only the database changes. -/
theorem dispatchVoice_db {actor : User} (h : dispatchVoice bot message w = some (actor, w')) :
    ∃ db, w' = { w with db } := by
  have hregister : ∃ db, (registerActor bot message w).2 = { w with db } := by
    unfold registerActor
    simp only
    split
    · split <;> exact ⟨_, rfl⟩
    · exact ⟨_, rfl⟩
  unfold dispatchVoice at h
  split at h
  · next heq =>
    split at h
    · cases h
      rw [heq] at hregister
      exact hregister
    · cases h
  · cases h

/-- The update ends with the processing screen. -/
theorem handleVoiceMessage_processing (hdelivers : bot.telegram.Delivers)
    {r : Except RequestError Unit} (h : handleVoiceMessage bot message w = some (r, w')) :
    r = .ok () ∧ w'.Shows message.chatId .processing ⟨voiceProcessingMessage, []⟩ := by
  obtain ⟨⟨actor, w₁⟩, hdispatch, hrun⟩ := Option.map_eq_some_iff.mp h
  obtain ⟨db, rfl⟩ := dispatchVoice_db hdispatch
  obtain ⟨w₂, hstart, hshows⟩ := start_ends_processing
    (w := { w.installBarrier message.chatId with db }) actor hdelivers (Function.update_self ..)
  simp only [hstart] at hrun
  cases hrun
  exact ⟨rfl, hshows⟩

end

/-! ## Top theorem -/

/-- **A voice update never reaches its result.**  Whatever the transcription answers and whatever
the chat showed before: with a Telegram that delivers, the update ends with the processing screen. -/
theorem voice_update_ends_processing (bot : Bot) (hdelivers : bot.telegram.Delivers)
    (message : IncomingMessage) (w w' : World) (r : Except RequestError Unit)
    (h : handleVoiceMessage bot message w = some (r, w')) :
    r = .ok () ∧ w'.Shows message.chatId .processing ⟨voiceProcessingMessage, []⟩ ∧
      ¬ VoiceResult bot.services message w' := by
  obtain ⟨hr, hshows⟩ := handleVoiceMessage_processing hdelivers h
  exact ⟨hr, hshows, not_voiceResult_of_processing hshows⟩

/-! ## A voice message of an onboarded user -/

/-- Every edit and every message goes through. -/
def plainTelegram : Telegram where
  editMessageText _ _ _ _ := .ok ()
  sendMessage n _ _ := .ok n
  answerCallbackQuery _ _ _ := .ok ()

theorem plainTelegram_delivers : plainTelegram.Delivers where
  edit _ _ _ _ _ h := nomatch h
  send n _ _ := ⟨n, rfl⟩

def dictatedBot : Bot where
  telegram := plainTelegram
  services :=
    { transcribe := fun _ => .ok "Подготовить отчёт"
      parseTaskRequest := fun text _ => .ok ⟨none, text, none, none, false, 100⟩
      ranking := fun _ _ => .notFound
      generateTask := fun _ _ => .error (.internal "OFFLINE" "no generator" [])
      resolveDeadline := fun _ _ _ _ => ⟨none, none⟩ }
  chars := ⟨Char.isAlpha, Char.isDigit⟩
  toLowercase := id
  clock := fun _ => 0
  plans := fun _ => noFaults
  rateLimiter := fun _ => true
  queries := .unavailable
  texts := fun _ => ""
  directory := .ok []
  uptime := fun n => n
  newTaskUid := ⟨.replicate 16 1⟩
  submissionKey := ⟨.replicate 16 2⟩
  nonce := "n1"

def onboardedRow : UserColumns :=
  ⟨{ (UserRepository.onboardingRow 7 7 none (some "Анна Петрова") 0).user with
      firstName := some "Анна"
      lastName := some "Петрова"
      onboardingState := .completed },
    some OnboardingState.completed.asStorageValue⟩

def onboardedWorld : World where
  db := soleUser onboardedRow
  sharedFlags := ⟨FeatureFlag.defaultEnabled⟩
  activeScreens := fun _ => some ⟨3, .mainMenu⟩
  creationSessions := fun _ => none
  taskInteractions := fun _ => none
  assigneeSelections := fun _ => none
  registrationLinks := fun _ => none
  adminNonces := .new 120
  updateDedup := .new
  currentBarriers := fun _ => none
  messages := fun _ _ => none
  requests := 0
  sent := []
  log := []

def dictation : IncomingMessage :=
  { textFrom 7 "" with messageId := 5, content := .voice ⟨"f", "u", 4, none, none⟩ }

theorem dictation_handled : (handleVoiceMessage dictatedBot dictation onboardedWorld).isSome = true := by
  decide

theorem dictation_ends_processing : ∃ r w',
    handleVoiceMessage dictatedBot dictation onboardedWorld = some (r, w') ∧ r = .ok () ∧
      w'.Shows 7 .processing ⟨voiceProcessingMessage, []⟩ ∧
      ¬ VoiceResult dictatedBot.services dictation w' := by
  obtain ⟨⟨r, w'⟩, h⟩ := Option.isSome_iff_exists.mp dictation_handled
  exact ⟨r, w', h, voice_update_ends_processing dictatedBot plainTelegram_delivers dictation
    onboardedWorld w' r h⟩

/-- The dictated text never shows up. -/
theorem voice_update_loses_result :
    ¬ ∀ (bot : Bot) (message : IncomingMessage) (w w' : World) (r : Except RequestError Unit),
      bot.telegram.Delivers → handleVoiceMessage bot message w = some (r, w') →
        VoiceResult bot.services message w' := by
  intro hall
  obtain ⟨⟨r, w'⟩, h⟩ := Option.isSome_iff_exists.mp dictation_handled
  obtain ⟨-, hshows⟩ := handleVoiceMessage_processing plainTelegram_delivers h
  exact not_voiceResult_of_processing hshows
    (hall dictatedBot dictation onboardedWorld w' r plainTelegram_delivers h)

end TaskBot
