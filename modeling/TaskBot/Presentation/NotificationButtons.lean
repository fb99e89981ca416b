import TaskBot.Presentation.CallbackParsing
import TaskBot.Presentation.TypedText
import TaskBot.UseCases.KnownUsers

/-!
# The buttons of a notification

A notification about a task comes with buttons of its own, written in the older format
of callback data.  It is never the active screen of its chat, and the dispatcher judges
a press by the active screen:

    a.Starts …   ↔   a changes no status, or the chat has no screen, or the notification
                     is the active screen and accepts the button       (notification_starts_iff)
-/

namespace TaskBot

open Sql Calls Effects Fields RoleAuthorizationPolicy

/-! ## The notifier -/

structure CallbackButton where
  text : String
  payload : String
deriving DecidableEq, Repr

namespace TeloxideNotifier

def openTaskLabel : String := "📋 Открыть"
def startProgressLabel : String := "▶️ В работу"
def approveLabel : String := "✅ Принять"
def returnToWorkLabel : String := "↩️ Вернуть"
def blockerLabel : String := "🚧 Есть блокер"

def openCallback (taskUid : Uuid) : String := "open:" ++ taskUid.toText

def blockCallback (taskUid : Uuid) : String := "block:" ++ taskUid.toText

def statusCallback (taskUid : Uuid) (status : TaskStatus) : String :=
  let statusCode := match status with
    | .created => "created"
    | .sent => "sent"
    | .inProgress => "in_progress"
    | .blocked => "blocked"
    | .inReview => "in_review"
    | .completed => "completed"
    | .cancelled => "cancelled"
  "status:" ++ taskUid.toText ++ ":" ++ statusCode

def buildKeyboard (notificationType : NotificationType) (taskUid : Option Uuid) :
    Option (List (List CallbackButton)) := do
  let taskUid ← taskUid
  match notificationType with
  | .taskAssigned =>
      some [[⟨openTaskLabel, openCallback taskUid⟩,
        ⟨startProgressLabel, statusCallback taskUid .inProgress⟩,
        ⟨blockerLabel, blockCallback taskUid⟩]]
  | .taskReviewRequested =>
      some [[⟨openTaskLabel, openCallback taskUid⟩,
        ⟨approveLabel, statusCallback taskUid .completed⟩,
        ⟨returnToWorkLabel, statusCallback taskUid .inProgress⟩]]
  | .taskBlocked | .deadlineReminder | .taskUpdated | .taskCompleted | .taskCancelled
  | .slaEscalation => some [[⟨openTaskLabel, openCallback taskUid⟩]]
  | .dailySummary => none

end TeloxideNotifier

open TeloxideNotifier

/-! ## What the buttons are for -/

inductive NotificationAction where
  | changeStatus (requested : TaskStatus)
  | askBlocker
deriving DecidableEq, Repr

namespace NotificationAction

/-- What the user is promised by the label. -/
def ofLabel (label : String) : Option NotificationAction :=
  if label = startProgressLabel then some (.changeStatus .inProgress)
  else if label = blockerLabel then some .askBlocker
  else if label = approveLabel then some (.changeStatus .completed)
  else if label = returnToWorkLabel then some (.changeStatus .inProgress)
  else none

/-- What the dispatcher makes of the button. -/
def callback (taskUid : Uuid) : NotificationAction → TelegramCallback
  | changeStatus requested => .updateTaskStatus taskUid requested .assigned
  | askBlocker => .startTaskBlockerInput taskUid .assigned

/-- The policy and the transition table let the user do it to the task. -/
def Allowed (actor : User) (t : Task) : NotificationAction → Prop
  | changeStatus requested => ∃ next, normalizeRequestedStatus actor t requested = .ok next ∧
      ensureCanChangeStatus actor t next = .ok () ∧ t.status.canTransitionTo next = true
  | askBlocker => ensureCanReportBlocker actor t = .ok () ∧ t.status.canTransitionTo .blocked = true

/-- The use case is called, and the task gets the status; or the prompt is opened. -/
def Starts (userId : Int) (taskUid : Uuid) (chatId : Int) (w w' : World) : NotificationAction → Prop
  | changeStatus requested =>
      (∃ actor, actor.id = some userId ∧
        .called (.updateTaskStatus actor taskUid requested) ∈ w'.log.drop w.log.length) ∧
      ∃ t, w'.db.stored taskUid = some t ∧ (t.status = requested ∨ (requested = .completed ∧ t.status = .inReview))
  | askBlocker =>
      (w'.chat chatId).interaction = some ⟨taskUid, .assigned, .blocker⟩ ∧
        (w'.chat chatId).screen = some (.taskInteractionPrompt taskUid .assigned .blocker)

end NotificationAction

/-- What the user does: the press of a button on a notification. -/
structure PressesNotification (read : IdReader) (press : CallbackQuery) (button : CallbackButton)
    (message : MessageRef) (telegramId : Int) : Prop where
  sender : senderIdOf press.sender = some telegramId
  message : press.message = some message
  data : press.data = some button.payload
  parsed : press.parsed = parseCallback read button.payload

/-- The user is registered, through the onboarding and not deactivated. -/
structure Recipient (db : Db) (telegramId : Int) (r : Stored UserColumns) : Prop where
  row : db.account telegramId = some r
  onboarded : (toUser r).isOnboarded = true
  active : (toUser r).deactivatedAt = none

/-- No call fails, Telegram takes what it is sent, and a task its viewer may see is shown. -/
structure Bot.Works (bot : Bot) : Prop where
  plans : ∀ k, bot.plans k = noFaults
  delivers : bot.telegram.Delivers
  answers : ∀ n callbackId text, bot.telegram.answerCallbackQuery n callbackId text = .ok ()
  opens : ∀ db actor taskUid t, db.stored taskUid = some t → ensureCanViewTask actor t = .ok () →
    ∃ details, bot.queries.taskStatus db actor taskUid = .ok details

/-! ## Payloads -/

section

variable {read : IdReader}

theorem parse_blockCallback (hread : read.ReadsBack) (taskUid : Uuid) :
    parseCallback read (blockCallback taskUid) = some (.startTaskBlockerInput taskUid .assigned) := by
  have hfields : blockCallback taskUid = (String.singleton ':').intercalate ["block", taskUid.toText] := rfl
  unfold parseCallback parseLegacyCallback
  rw [hfields, splitFields_intercalate (.cons (by decide) (.cons taskUid.toText_free .nil)) (List.cons_ne_nil _ _)]
  have hlegacy : parseLegacyFields read ["block", taskUid.toText] =
      (read.uuid taskUid.toText).bind fun uid => some (.startTaskBlockerInput uid .assigned) := rfl
  rw [hlegacy, hread.uuid]
  rfl

theorem parse_statusCallback (hread : read.ReadsBack) (taskUid : Uuid) (status : TaskStatus) :
    parseCallback read (statusCallback taskUid status) = some (.updateTaskStatus taskUid status .assigned) := by
  have hfields : statusCallback taskUid status =
      (String.singleton ':').intercalate ["status", taskUid.toText, taskStatusCode status] := by
    cases status <;> rfl
  have hstatus : Free ':' (taskStatusCode status) := by cases status <;> decide
  unfold parseCallback parseLegacyCallback
  rw [hfields, splitFields_intercalate (.cons (by decide) (.cons taskUid.toText_free (.cons hstatus .nil)))
    (List.cons_ne_nil _ _)]
  have hlegacy : parseLegacyFields read ["status", taskUid.toText, taskStatusCode status] =
      (read.uuid taskUid.toText).bind fun uid => (parseTaskStatus (taskStatusCode status)).bind fun next =>
        some (.updateTaskStatus uid next .assigned) := rfl
  rw [hlegacy, hread.uuid, parse_taskStatusCode]
  rfl

/-- The text does not ask for `/start`. -/
def Plain (payload : String) : Prop :=
  ∃ c l, payload.toList = c :: l ∧ isWhitespace c = false ∧ c ≠ '/'

theorem Plain.not_start {payload : String} (h : Plain payload) {message : IncomingMessage}
    (hcontent : message.content = .command payload) : message.isExplicitStartCommand = false := by
  obtain ⟨c, l, hpayload, hspace, hslash⟩ := h
  have htrim : (trimStart payload).toList = c :: l := by
    unfold trimStart
    rw [hpayload, String.toList_ofList, List.dropWhile_cons_of_neg (by rw [hspace]; exact Bool.false_ne_true)]
  unfold IncomingMessage.isExplicitStartCommand IncomingMessage.textPayload
  rw [hcontent]
  simp only
  rw [htrim]
  show ('/' == c && _) = false
  rw [beq_eq_false_iff_ne.mpr hslash.symm, Bool.false_and]

theorem plain_append {front : String} (rest : String) (h : Plain front) : Plain (front ++ rest) := by
  obtain ⟨c, l, hfront, hspace, hslash⟩ := h
  exact ⟨c, l ++ rest.toList, by rw [String.toList_append, hfront, List.cons_append], hspace, hslash⟩

theorem statusCallback_plain (taskUid : Uuid) (status : TaskStatus) : Plain (statusCallback taskUid status) := by
  have hfront : Plain "status:" := ⟨'s', "tatus:".toList, by decide, by decide, by decide⟩
  exact plain_append _ (plain_append _ (plain_append _ hfront))

theorem blockCallback_plain (taskUid : Uuid) : Plain (blockCallback taskUid) :=
  plain_append _ ⟨'b', "lock:".toList, by decide, by decide, by decide⟩

/-- **The payload says what the label says.** -/
theorem button_parses (hread : read.ReadsBack) {kind : NotificationType} {taskUid : Uuid}
    {rows : List (List CallbackButton)} (hrows : buildKeyboard kind (some taskUid) = some rows)
    {row : List CallbackButton} (hrow : row ∈ rows) {button : CallbackButton} (hbutton : button ∈ row)
    {action : NotificationAction} (haction : NotificationAction.ofLabel button.text = some action) :
    parseCallback read button.payload = some (action.callback taskUid) ∧ Plain button.payload := by
  have hone : ∀ {row' : List CallbackButton}, rows = [row'] → button ∈ row' := by
    rintro row' rfl
    rw [← List.mem_singleton.mp hrow]
    exact hbutton
  have hopen : ∀ {payload}, button = ⟨openTaskLabel, payload⟩ → False := by
    rintro payload rfl
    have hnone : NotificationAction.ofLabel openTaskLabel = none := by decide
    rw [hnone] at haction
    cases haction
  have hreads : ∀ {label payload} (meant : NotificationAction), NotificationAction.ofLabel label = some meant →
      parseCallback read payload = some (meant.callback taskUid) → Plain payload → button = ⟨label, payload⟩ →
        parseCallback read button.payload = some (action.callback taskUid) ∧ Plain button.payload := by
    rintro label payload meant hmeant hparse hplain rfl
    obtain rfl := Option.some.inj (hmeant.symm.trans haction)
    exact ⟨hparse, hplain⟩
  cases kind with
  | dailySummary => cases hrows
  | taskAssigned =>
    have hmem := hone (Option.some.inj hrows).symm
    simp only [List.mem_cons, List.not_mem_nil, or_false] at hmem
    rcases hmem with hbutton | hbutton | hbutton
    · exact (hopen hbutton).elim
    · exact hreads (.changeStatus .inProgress) (by decide) (parse_statusCallback hread taskUid _)
        (statusCallback_plain taskUid _) hbutton
    · exact hreads .askBlocker (by decide) (parse_blockCallback hread taskUid) (blockCallback_plain taskUid) hbutton
  | taskReviewRequested =>
    have hmem := hone (Option.some.inj hrows).symm
    simp only [List.mem_cons, List.not_mem_nil, or_false] at hmem
    rcases hmem with hbutton | hbutton | hbutton
    · exact (hopen hbutton).elim
    · exact hreads (.changeStatus .completed) (by decide) (parse_statusCallback hread taskUid _)
        (statusCallback_plain taskUid _) hbutton
    · exact hreads (.changeStatus .inProgress) (by decide) (parse_statusCallback hread taskUid _)
        (statusCallback_plain taskUid _) hbutton
  | _ => exact (hopen (List.mem_singleton.mp (hone (Option.some.inj hrows).symm))).elim

end

/-! ## Permissions -/

/-- **A link takes no permission away**: the user to whom the task is given keeps what it may do. -/
theorem NotificationAction.Allowed.linked {action : NotificationAction} {actor caller : User} {t t' : Task}
    {userId : Int} (h : action.Allowed actor t) (hid : caller.id = actor.id) (hrole : caller.role = actor.role)
    (hlink : t' = t ∨ Task.LinkedTo userId t t') : action.Allowed caller t' := by
  have hstatus : t'.status = t.status := by
    rcases hlink with rfl | hlinked
    · rfl
    · exact hlinked.status
  have hcreator : t'.createdByUserId = t.createdByUserId := by
    rcases hlink with rfl | hlinked
    · rfl
    · exact hlinked.draft.createdByUserId
  have hassignee : ∀ u, t.assignedToUserId = some u → t'.assignedToUserId = some u := by
    intro u hu
    rcases hlink with rfl | hlinked
    · exact hu
    · cases hlinked.waited.symm.trans hu
  cases action with
  | askBlocker =>
    obtain ⟨hcan, htrans⟩ := h
    obtain ⟨actorId, hactor, hor⟩ := ensureCanReportBlocker_iff.mp hcan
    refine ⟨ensureCanReportBlocker_iff.mpr ⟨actorId, hid.trans hactor, ?_⟩, by rw [hstatus]; exact htrans⟩
    rw [hrole]
    exact hor.imp_right (hassignee actorId)
  | changeStatus requested =>
    obtain ⟨next, hnext, hcan, htrans⟩ := h
    refine ⟨next, ?_, ?_, by rw [hstatus]; exact htrans⟩
    · rcases hlink with rfl | hlinked
      · unfold normalizeRequestedStatus at hnext ⊢
        rw [hid, hrole]
        exact hnext
      · -- before the link no review was required
        have hfree : t.reviewRequired = false := by
          unfold Task.reviewRequired
          rw [hlinked.waited]
        have hsame : next = requested := by
          unfold normalizeRequestedStatus at hnext
          rw [if_neg (by simp [hfree]), if_neg (by simp [hfree])] at hnext
          exact (Except.ok.inj hnext).symm
        subst hsame
        by_cases hcompleted : next = .completed
        · subst hcompleted
          have hclose : MayClose actor t := ensureCanChangeStatus_completed hcan
          have hreview : t'.status = .inReview := by
            rw [hstatus]
            exact TaskStatus.canTransitionTo_completed htrans
          unfold normalizeRequestedStatus
          rw [if_neg, if_neg]
          · exact fun hno => hno.2.2 hreview
          · rintro ⟨-, -, hother, hplain⟩
            rw [hid, hcreator] at hother
            rw [hrole] at hplain
            exact hclose.elim hplain hother
        · unfold normalizeRequestedStatus
          rw [if_neg fun hc => hcompleted hc.1, if_neg fun hc => hcompleted hc.1]
    · obtain ⟨actorId, hactor, hor⟩ := ensureCanChangeStatus_iff.mp hcan
      refine ensureCanChangeStatus_iff.mpr ⟨actorId, hid.trans hactor, ?_⟩
      have hsame : creatorCanChangeStatus t' next = creatorCanChangeStatus t next := by
        unfold creatorCanChangeStatus
        rw [hstatus]
      rw [hrole, hcreator, hsame]
      exact hor.imp_right fun h => h.imp_right fun h => h.imp_left fun h => ⟨hassignee actorId h.1, h.2⟩

/-- Who may report a blocker may see the task. -/
theorem canView_of_canReportBlocker {actor : User} {t : Task} (h : ensureCanReportBlocker actor t = .ok ()) :
    ensureCanViewTask actor t = .ok () := by
  obtain ⟨actorId, hactor, hor⟩ := ensureCanReportBlocker_iff.mp h
  refine ensureCanViewTask_iff.mpr ⟨actorId, hactor, ?_⟩
  rcases hor with hadmin | hassigned
  · exact .inl (isManagerOrAdmin_of_isAdmin hadmin)
  · exact .inr (.inr hassigned)

/-! ## The press -/

section

variable {bot : Bot} {message : IncomingMessage} {w w' : World} {r : Stored UserColumns}

theorem exec_ask {k : Nat} {call : RuntimeCall} {result : AppResult call.Answer} {process : Process}
    (h : (call.program bot.application (bot.clockOf k)).run (bot.plans k) w.process = (result, process)) :
    exec (ask bot k call) w = (.ok result, { w with
      db := process.db
      sharedFlags := process.sharedFlags
      log := w.log ++ [.called call] }) := by
  have hrun : exec (ask bot k call) w = (.ok ((call.program bot.application (bot.clockOf k)).run (bot.plans k)
      w.process).1, { w with
        db := ((call.program bot.application (bot.clockOf k)).run (bot.plans k) w.process).2.db
        sharedFlags := ((call.program bot.application (bot.clockOf k)).run (bot.plans k) w.process).2.sharedFlags
        log := w.log ++ [.called call] }) := rfl
  rw [hrun, h]

/-- **Who is onboarded is let through**, and may have got the tasks that waited. -/
theorem registerActor_known (hworks : bot.Works) (hrecipient : Recipient w.db message.senderId r)
    (hstart : message.isExplicitStartCommand = false) : ∃ actor w',
      exec (RegistrationDialog.registerActor bot message) w = (.ok (some actor), w') ∧
        actor.id = some r.id ∧ actor.role = r.val.user.role ∧ OnlyLinks r.id w.db w'.db ∧
        RegistrationDialog.SameChats w w' := by
  have hgate : ((RuntimeCall.onboardingGate message).program bot.application (bot.clockOf 0)).run (bot.plans 0)
      w.process = (.ok (.notApplicable, none), w.process) := by
    have hprobe : (UserRepository.findByTelegramId message.senderId).attempt.run noFaults w.db =
        (.ok (.ok (some (toUser r))), w.db) := by
      rw [Prog.run_attempt, run_findAccount, hrecipient.row]
      rfl
    have hpass : (gateFor bot.chars bot.toLowercase (fun _ => bot.clockOf 0) (some (toUser r)) message).run
        noFaults w.db = (.ok (.notApplicable, none), w.db) := by
      have hany : (some (toUser r)).any User.isOnboarded = true := hrecipient.onboarded
      unfold gateFor
      rw [if_pos hany]
      rfl
    have hrun : (runOnboardingGate bot.chars bot.toLowercase (fun _ => bot.clockOf 0) message).run noFaults
        w.db = (.ok (.notApplicable, none), w.db) := (Prog.run_bind_ok noFaults hprobe).trans hpass
    rw [hworks.plans]
    show (onDb _).run noFaults w.process = _
    rw [run_onDb]
    exact congrArg (fun o : AppResult _ × Db => (o.1, ({ w.process with db := o.2 } : Process))) hrun
  let w₁ : World := { w with log := w.log ++ [Happening.called (.onboardingGate message)] }
  have hpreview : exec (useCase (bot.plans 1) (RegisterUser.previewLinking bot.toLowercase message)) w₁ =
      (.ok (.ok (.ready (RegisterUser.rowDecision r))), w₁) := by
    have hrun := RegisterUser.run_previewLinking_row bot.toLowercase hrecipient.row hstart
    have hexec : exec (useCase (bot.plans 1) (RegisterUser.previewLinking bot.toLowercase message)) w₁ =
        (.ok ((RegisterUser.previewLinking bot.toLowercase message).run (bot.plans 1) w.db).1,
          { w₁ with db := ((RegisterUser.previewLinking bot.toLowercase message).run (bot.plans 1) w.db).2 }) := rfl
    rw [hexec, hworks.plans, hrun]
  obtain ⟨actor, db', hregister, hid, hrole, honly⟩ :=
    RegisterUser.registration_links bot.toLowercase (bot.clockOf 2) hrecipient.row
  have hcall : ((RuntimeCall.register message (RegisterUser.rowDecision r)).program bot.application
      (bot.clockOf 2)).run (bot.plans 2) w.process = (.ok actor, { w.process with db := db' }) := by
    rw [hworks.plans]
    show (onDb _).run noFaults w.process = _
    rw [run_onDb]
    exact congrArg (fun o : AppResult _ × Db => (o.1, ({ w.process with db := o.2 } : Process))) hregister
  refine ⟨actor, { w₁ with db := db', log := w₁.log ++ [Happening.called (.register message
    (RegisterUser.rowDecision r))] }, ?_, hid, hrole, honly, rfl⟩
  unfold RegistrationDialog.registerActor
  rw [Effects.exec_bind_ok (exec_ask hgate)]
  show exec (RegistrationDialog.registerLinked bot message) w₁ = _
  unfold RegistrationDialog.registerLinked
  rw [Effects.exec_bind_ok hpreview]
  show exec (ask bot 2 (.register message (RegisterUser.rowDecision r)) >>= _) w₁ = _
  rw [Effects.exec_bind_ok (exec_ask (w := w₁) hcall)]
  rfl

/-- A press that is not refused gets its toast. -/
theorem admitPress_goes (hworks : bot.Works) {callbackId : String} {callback : TelegramCallback} {actor : User}
    (hok : callback.isMutating = true → w.isStale message.chatId message.messageId = false ∧
      w.isDescriptorMismatch message.chatId callback = false) :
    exec (admitPress bot callbackId message callback actor) w =
      (.ok (some actor), { w with requests := w.requests + 1 }) := by
  have hanswer : ∀ text, exec (answerCallback bot callbackId text) w =
      (.ok (), { w with requests := w.requests + 1 }) := by
    intro text
    have hrequest : exec (request fun n => bot.telegram.answerCallbackQuery n callbackId text) w =
        (.ok (.ok ()), { w with requests := w.requests + 1 }) := by
      rw [← hworks.answers w.requests callbackId text]
      rfl
    unfold answerCallback
    rw [Effects.exec_bind_ok hrequest]
    rfl
  unfold admitPress
  rw [Effects.exec_bind_ok (Effects.exec_get w)]
  simp only
  by_cases hmutating : callback.isMutating = true
  · obtain ⟨hstale, hmismatch⟩ := hok hmutating
    rw [hstale, hmismatch]
    simp only [Bool.false_and, Bool.and_false, Bool.false_eq_true, if_false]
    rw [Effects.exec_bind_ok (hanswer _)]
    rfl
  · rw [Bool.eq_false_iff.mpr hmutating, Bool.and_false, if_neg Bool.false_ne_true, Bool.and_false,
      if_neg Bool.false_ne_true, Effects.exec_bind_ok (hanswer _)]
    rfl

theorem hydrated_db (w : World) (chatId messageId : Int) : (w.hydrated chatId messageId).db = w.db := by
  unfold World.hydrated
  cases w.activeScreens chatId <;> rfl

/-- The pressed message is the active screen, and takes the callback; a chat without a screen
takes any message for it. -/
def World.Takes (w : World) (chatId messageId : Int) (callback : TelegramCallback) : Prop :=
  w.activeScreens chatId = none ∨
    ∃ d, w.activeScreens chatId = some ⟨messageId, d⟩ ∧ d.accepts callback = true

theorem hydrated_takes {chatId messageId : Int} {callback : TelegramCallback} (h : w.Takes chatId messageId callback)
    (hscreens : w'.activeScreens = (w.hydrated chatId messageId).activeScreens) :
    w'.isStale chatId messageId = false ∧ w'.isDescriptorMismatch chatId callback = false := by
  have hscreen : ∃ d, w'.activeScreens chatId = some ⟨messageId, d⟩ ∧ d.accepts callback = true := by
    rw [hscreens]
    unfold World.hydrated
    rcases h with hnone | ⟨d, hd, haccepts⟩
    · rw [hnone]
      exact ⟨.unknown, Function.update_self .., by cases callback <;> rfl⟩
    · rw [hd]
      exact ⟨d, hd, haccepts⟩
  obtain ⟨d, hd, haccepts⟩ := hscreen
  unfold World.isStale World.isDescriptorMismatch
  rw [hd]
  simp [haccepts]

/-- **A press that is not refused gets to its handler**, in the name of the recipient. -/
theorem press_handled (hworks : bot.Works) {read : IdReader} {press : CallbackQuery} {button : CallbackButton}
    {reference : MessageRef} {telegramId : Int} {callback : TelegramCallback}
    (hrecipient : Recipient w.db telegramId r)
    (hpress : PressesNotification read press button reference telegramId)
    (hparse : parseCallback read button.payload = some callback) (hplain : Plain button.payload)
    (hfresh : (w.updateDedup.observe ⟨reference.chatId, press.idHash⟩).1 = true)
    (htakes : callback.isMutating = true → w.Takes reference.chatId reference.id callback) :
    ∃ h, press.handled bot w = some h ∧ h.callback = callback ∧ h.message.chatId = reference.chatId ∧
      h.actor.id = some r.id ∧ h.actor.role = r.val.user.role ∧ OnlyLinks r.id w.db h.start.db := by
  let incoming : IncomingMessage := ⟨reference.id, reference.chatId, telegramId, press.sender.fullName,
    press.sender.username, .command button.payload, bot.clockOf 6 0, none, false⟩
  have hincoming : press.incoming bot = some (callback, incoming) := by
    unfold CallbackQuery.incoming callbackToIncomingMessage
    rw [hpress.data, hpress.parsed, hparse, hpress.message, hpress.sender]
    rfl
  let w₁ : World := (w.observed ⟨reference.chatId, press.idHash⟩).installBarrier reference.chatId
  have hopened : w.opened ⟨reference.chatId, press.idHash⟩ = some w₁ := if_pos hfresh
  let w₂ : World := w₁.hydrated reference.chatId reference.id
  have hhydrate : exec (hydrateIfMissing reference.chatId reference.id) w₁ = (.ok ⟨⟩, w₂) := rfl
  have hdb : w₂.db = w.db := hydrated_db w₁ _ _
  have hknown : Recipient w₂.db incoming.senderId r := by
    rw [hdb]
    exact hrecipient
  obtain ⟨actor, w₃, hregister, hid, hrole, honly, hsame⟩ :=
    registerActor_known hworks hknown (hplain.not_start rfl)
  have hscreens : w₃.activeScreens = w₂.activeScreens := by rw [hsame]
  let w₄ : World := { w₃ with requests := w₃.requests + 1 }
  have hadmit : exec (admitPress bot press.id incoming callback actor) w₃ = (.ok (some actor), w₄) :=
    admitPress_goes hworks fun hmutating => hydrated_takes (w := w₁) (htakes hmutating) hscreens
  have hadmission : exec (admitCallback bot press.id incoming callback) w₁ = (.ok (some actor), w₄) := by
    unfold admitCallback
    rw [Effects.exec_bind_ok hhydrate, Effects.exec_bind_ok hregister]
    exact hadmit
  have hhandled : press.handled bot w = some ⟨callback, incoming, actor, w₄⟩ := by
    unfold CallbackQuery.handled
    rw [hincoming]
    show (w.opened ⟨reference.chatId, press.idHash⟩ >>= _) = _
    simp only [hopened, Option.bind_eq_bind, Option.bind_some, hadmission]
  refine ⟨_, hhandled, rfl, rfl, hid, hrole, ?_⟩
  rw [← hdb]
  exact honly

/-! ## The handlers -/

/-- A quiet rest leaves what the use case has stored. -/
theorem ask_then_db {α : Type} {k : Nat} {call : RuntimeCall} {f : AppResult call.Answer → Handler α}
    (hf : ∀ result, Quiet (f result)) :
    (exec (ask bot k call >>= f) w).2.db =
      ((call.program bot.application (bot.clockOf k)).run (bot.plans k) w.process).2.db := by
  have hfoot := hf ((call.program bot.application (bot.clockOf k)).run (bot.plans k) w.process).1 (fun _ => False)
    (exec (ask bot k call) w).2
  exact Footprint.db_eq hfoot fun _ h => h

/-- The handler asks for the change, and presents the answer. -/
theorem updateTaskStatus_asks (bot : Bot) (actor : User) (chatId : Int) (taskUid : Uuid) (nextStatus : TaskStatus)
    (origin : TaskListOrigin) :
    ∃ present : AppResult (RuntimeCall.updateTaskStatus actor taskUid nextStatus).Answer → Handler Unit,
      updateTaskStatus bot actor chatId taskUid nextStatus origin =
        ask bot 4 (.updateTaskStatus actor taskUid nextStatus) >>= present ∧
      ∀ result, Quiet (present result) := by
  refine ⟨_, rfl, fun result => ?_⟩
  cases result with
  | ok summary => exact showTaskDetailsWithNotice_quiet _ _
  | error error => exact sendError_quiet _ _

/-- **An allowed change of status is made.** -/
theorem updateTaskStatus_starts (hworks : bot.Works) {actor : User} (chatId : Int) {taskUid : Uuid}
    {requested : TaskStatus} {t : Task} (ht : w.db.stored taskUid = some t)
    (hallowed : (NotificationAction.changeStatus requested).Allowed actor t) :
    ∃ w', (exec (handleCallbackAction bot actor chatId (.updateTaskStatus taskUid requested .assigned)) w).2 = w' ∧
      w'.log = w.log ++ [.called (.updateTaskStatus actor taskUid requested)] ∧
      ∃ t', w'.db.stored taskUid = some t' ∧
        (t'.status = requested ∨ (requested = .completed ∧ t'.status = .inReview)) := by
  obtain ⟨next, hnext, hcan, htrans⟩ := hallowed
  let clock := bot.clockOf 4
  have hup : t.transitionTo next (clock 0) = .ok (t.advanced next (clock 0)) := by
    unfold Task.transitionTo
    rw [if_neg (not_not.mpr htrans)]
  obtain ⟨taskId, hid⟩ := stored_id ht
  let task : Task := t.advanced next (clock 0)
  have hm : UpdateTaskStatus.Allowed clock actor requested t
      ⟨task, none, UpdateTaskStatus.statusEntry actor.id taskId t.status next (clock 1),
        UpdateTaskStatus.told actor.id task next (clock 2) (some task.createdByUserId) ++
          UpdateTaskStatus.told actor.id task next (clock 3) task.assignedToUserId⟩ :=
    ⟨taskId, next, hid, hnext, hcan, hup, rfl, rfl, rfl⟩
  obtain ⟨summary, db', hrun⟩ := UpdateTaskStatus.answers ht hm
  have hstatus : ∃ t', db'.stored taskUid = some t' ∧
      (t'.status = requested ∨ (requested = .completed ∧ t'.status = .inReview)) := by
    have hstores := UpdateTaskStatus.stores_in_order clock actor taskUid requested noFaults w.db
    rw [hrun] at hstores
    rcases hstores with ⟨hno, -⟩ | ⟨t₀, m', ht₀, hm', ⟨_, -, -, hstored⟩ | ⟨e, he, -⟩⟩
    · cases hno summary rfl
    · obtain ⟨_, next', -, hnext', -, hup', -⟩ := hm'
      obtain ⟨-, htask⟩ := Task.transitionTo_ok hup'
      have huid₀ : t₀.taskUid = taskUid := Db.stored_taskUid ht₀
      have huid : m'.task.taskUid = taskUid := by
        rw [htask]
        exact huid₀
      refine ⟨m'.task, by rw [← huid]; exact hstored.task, ?_⟩
      rw [htask]
      exact normalizeRequestedStatus_ok hnext'
    · cases he
  let cleared : World := { w with taskInteractions := Function.update w.taskInteractions chatId none }
  have hclear : exec (clearTaskInteraction chatId) w = (.ok ⟨⟩, cleared) := rfl
  obtain ⟨present, hpresent, hquiet⟩ := updateTaskStatus_asks bot actor chatId taskUid requested .assigned
  unfold handleCallbackAction
  rw [Effects.exec_bind_ok hclear]
  show ∃ w', (exec (updateTaskStatus bot actor chatId taskUid requested .assigned) cleared).2 = w' ∧ _
  rw [hpresent]
  refine ⟨_, rfl, ask_then_log hquiet, ?_⟩
  rw [ask_then_db hquiet, hworks.plans]
  show ∃ t', (((onDb (UpdateTaskStatus.execute clock actor taskUid requested)).run noFaults w.process).2.db).stored
    taskUid = some t' ∧ _
  rw [run_onDb]
  show ∃ t', ((UpdateTaskStatus.execute clock actor taskUid requested).run noFaults w.db).2.stored taskUid =
    some t' ∧ _
  rw [hrun]
  exact hstatus

/-- A screen Telegram takes is shown, and no dialog is touched. -/
theorem rendered_open {telegram : Telegram} {chatId : Int} {d : ScreenDescriptor} {view : ScreenView} {ok : Bool}
    {c c' : Chats} (hacts : Deed.Acts telegram chatId (.render d view) ok c c') (hdelivers : telegram.Delivers)
    (hopen : c.barriers chatId ≠ some ⟨true⟩) :
    c'.interactions = c.interactions ∧ ∃ messageId, c'.screens chatId = some ⟨messageId, d⟩ := by
  cases hacts with
  | suppressed _ hspent => exact absurd hspent hopen
  | failed _ _ hfails => exact absurd hdelivers hfails
  | rendered _ _ messageId _ => exact ⟨rfl, messageId, Function.update_self ..⟩

/-- **The prompt for a blocker is opened** for who may see the task. -/
theorem startTaskBlockerInput_starts (hworks : bot.Works) {actor : User} {chatId : Int} {taskUid : Uuid} {t : Task}
    (ht : w.db.stored taskUid = some t) (hview : ensureCanViewTask actor t = .ok ())
    (hbarrier : w.currentBarriers chatId = some .new) :
    ∃ w', (exec (handleCallbackAction bot actor chatId (.startTaskBlockerInput taskUid .assigned)) w).2 = w' ∧
      (w'.chat chatId).interaction = some ⟨taskUid, .assigned, .blocker⟩ ∧
        (w'.chat chatId).screen = some (.taskInteractionPrompt taskUid .assigned .blocker) := by
  obtain ⟨details, hdetails⟩ := hworks.opens w.db actor taskUid t ht hview
  let session : TaskInteractionSession := ⟨taskUid, .assigned, .blocker⟩
  let cleared : World := { w with taskInteractions := Function.update w.taskInteractions chatId none }
  let opened : World := { cleared with
    taskInteractions := Function.update cleared.taskInteractions chatId (some session) }
  have hclear : exec (clearTaskInteraction chatId) w = (.ok ⟨⟩, cleared) := rfl
  have hquery : exec (query fun db => bot.queries.taskStatus db actor taskUid) cleared = (.ok (.ok details), cleared) := by
    rw [← hdetails]
    rfl
  have hset : exec (setTaskInteraction chatId session) cleared = (.ok ⟨⟩, opened) := rfl
  unfold handleCallbackAction
  rw [Effects.exec_bind_ok hclear]
  show ∃ w', (exec (withTaskDetails bot actor chatId taskUid _) cleared).2 = w' ∧ _
  unfold withTaskDetails
  rw [Effects.exec_bind_ok hquery]
  show ∃ w', (exec (setTaskInteraction chatId session >>= _) cleared).2 = w' ∧ _
  rw [Effects.exec_bind_ok hset]
  refine ⟨_, rfl, ?_⟩
  have hopen : opened.chats.barriers chatId ≠ some ⟨true⟩ := by
    show w.currentBarriers chatId ≠ some ⟨true⟩
    rw [hbarrier]
    decide
  obtain ⟨hinteractions, messageId, hscreen⟩ := rendered_open
    (sendScreen_does (.taskInteractionPrompt taskUid .assigned .blocker)
      ⟨bot.texts (.taskPrompt .blocker details), taskDetailKeyboard details .assigned .compact⟩ opened)
    hworks.delivers hopen
  constructor
  · show World.taskInteractions _ chatId = _
    refine (congrFun hinteractions chatId).trans ?_
    exact Function.update_self ..
  · show (World.activeScreens _ chatId).map ActiveScreenState.descriptor = _
    exact congrArg (Option.map ActiveScreenState.descriptor) hscreen

/-! ## Top theorem -/

/-- The log of a world after what is allowed. -/
theorem Footprint.log_drop {may : Happening → Prop} (h : Footprint may w w') :
    ∀ l ∈ w'.log.drop w.log.length, may l := by
  obtain ⟨ls, hlog, hmay, -⟩ := h.recorded
  rw [hlog, List.drop_left]
  exact hmay

end

/-- **When the button of a notification works.**  In every state of the chat the press of an action
button, by its recipient, who may do it, starts the action, unless it is a change of status, the chat has
an active screen, and that is not the notification or does not take the button. -/
theorem notification_starts_iff (read : IdReader) (hread : read.ReadsBack) (bot : Bot) (hworks : bot.Works)
    (kind : NotificationType) (taskUid : Uuid) (rows : List (List CallbackButton))
    (hrows : buildKeyboard kind (some taskUid) = some rows) (row : List CallbackButton) (hrow : row ∈ rows)
    (button : CallbackButton) (hbutton : button ∈ row) (action : NotificationAction)
    (haction : NotificationAction.ofLabel button.text = some action) (w : World) (telegramId : Int)
    (r : Stored UserColumns) (hrecipient : Recipient w.db telegramId r) (t : Task)
    (ht : w.db.stored taskUid = some t) (hallowed : action.Allowed (toUser r) t) (press : CallbackQuery)
    (message : MessageRef) (hpress : PressesNotification read press button message telegramId)
    (hfresh : (w.updateDedup.observe ⟨message.chatId, press.idHash⟩).1 = true) :
    action.Starts r.id taskUid message.chatId w ((Event.update bot (.press press)).apply w) ↔
      ((action.callback taskUid).isMutating = true →
        w.Takes message.chatId message.id (action.callback taskUid)) := by
  obtain ⟨hparse, hplain⟩ := button_parses hread hrows hrow hbutton haction
  constructor
  · intro hstarts hmutating
    cases hh : press.handled bot w with
    | some h =>
      obtain ⟨hparsed, hmessage, -⟩ := handled_incoming hh
      have hcallback : action.callback taskUid = h.callback :=
        Option.some.inj (hparse.symm.trans (hpress.parsed.symm.trans hparsed))
      obtain rfl : message = ⟨h.message.messageId, h.message.chatId⟩ :=
        Option.some.inj (hpress.message.symm.trans hmessage)
      rw [hcallback] at hmutating ⊢
      cases hscreen : w.activeScreens h.message.chatId with
      | none => exact .inl hscreen
      | some screen =>
        obtain ⟨hid, haccepts⟩ := handled_mutating hh hmutating hscreen
        refine .inr ⟨screen.descriptor, ?_, haccepts⟩
        rw [hscreen, ← hid]
    | none =>
      obtain ⟨incoming, hfoot⟩ := apply_press_unhandled hh
      cases action with
      | askBlocker => cases hmutating
      | changeStatus requested =>
        obtain ⟨⟨actor, -, hcalled⟩, -⟩ := hstarts
        cases hfoot.log_drop _ hcalled
  · intro htakes
    obtain ⟨h, hh, hcallback, hchat, hid, hrole, honly⟩ :=
      press_handled hworks hrecipient hpress hparse hplain hfresh htakes
    obtain ⟨t', ht', hlink⟩ := honly taskUid t ht
    have hallowed' : action.Allowed h.actor t' := hallowed.linked hid hrole hlink
    rw [apply_press hh, hchat]
    have hfinish : h.finish bot = (exec (handleCallbackAction bot h.actor message.chatId (action.callback taskUid))
        h.start).2 := by
      unfold Handled.finish runCallback
      rw [hcallback, hchat]
      cases action <;> rfl
    rw [hfinish]
    cases action with
    | changeStatus requested =>
      obtain ⟨w', hw', hlog, hstatus⟩ := updateTaskStatus_starts hworks message.chatId ht' hallowed'
      refine ⟨⟨h.actor, hid, ?_⟩, ?_⟩
      · obtain ⟨ls, hstart, -, -⟩ := (handled_footprint hh).recorded
        show _ ∈ (exec (handleCallbackAction bot h.actor message.chatId
          (.updateTaskStatus taskUid requested .assigned)) h.start).2.log.drop w.log.length
        rw [hw', hlog, hstart, List.append_assoc, List.drop_left]
        exact List.mem_append_right _ List.mem_cons_self
      · rw [← hw'] at hstatus
        exact hstatus
    | askBlocker =>
      have hbarrier : h.start.currentBarriers message.chatId = some .new := by
        rw [(handled_start hh).1, hchat]
        exact Function.update_self ..
      obtain ⟨w', hw', hopened⟩ := startTaskBlockerInput_starts hworks ht'
        (canView_of_canReportBlocker hallowed'.1) hbarrier
      rw [← hw'] at hopened
      exact hopened

/-! ## A task assigned to the user of the chat -/

def assignedTask : Task := { sampleTask with createdByUserId := 2, assignedToUserId := some 1 }

/-- The main menu is the active screen of the chat. -/
def menuWorld : World :=
  { onboardedWorld with
    db := { onboardedWorld.db with tasks := (Table.empty.insertOrIgnore (TaskRepository.newColumns assignedTask)).1 } }

/-- The bot has been started again: it knows no screen. -/
def restartedWorld : World := { menuWorld with activeScreens := fun _ => none }

def startButton : CallbackButton := ⟨startProgressLabel, statusCallback (sampleUid 1) .inProgress⟩

/-- The button of the notification that has arrived as message 9. -/
def startPress : CallbackQuery where
  id := "c1"
  idHash := 101
  sender := ⟨7, "Анна Петрова", none⟩
  message := some ⟨9, 7⟩
  data := some startButton.payload
  parsed := parseCallback displayReader startButton.payload

theorem cardBot_works (n : UInt8) : (cardBot n).Works where
  plans _ := rfl
  delivers := plainTelegram_delivers
  answers _ _ _ := rfl
  opens db actor taskUid t ht _ := by
    refine ⟨cardDetails t, ?_⟩
    show okOrElse ((db.stored taskUid).map cardDetails) _ = _
    rw [ht]
    rfl

theorem startPress_presses : PressesNotification displayReader startPress startButton ⟨9, 7⟩ 7 := by
  constructor <;> rfl

/-- After a restart the button does what it says. -/
theorem restarted_button_starts : (NotificationAction.changeStatus .inProgress).Starts 1 (sampleUid 1) 7
    restartedWorld ((Event.update (cardBot 2) (.press startPress)).apply restartedWorld) := by
  have hallowed : (NotificationAction.changeStatus .inProgress).Allowed (toUser ⟨1, onboardedRow⟩) assignedTask :=
    ⟨.inProgress, rfl, by decide, rfl⟩
  exact (notification_starts_iff displayReader displayReader_readsBack (cardBot 2) (cardBot_works 2) .taskAssigned
    (sampleUid 1) _ rfl _ List.mem_cons_self startButton (List.mem_cons_of_mem _ List.mem_cons_self)
    (.changeStatus .inProgress) rfl restartedWorld 7 ⟨1, onboardedRow⟩ ⟨by decide, by decide, by decide⟩ assignedTask rfl
    hallowed startPress ⟨9, 7⟩ startPress_presses (by decide)).mpr fun _ => .inl rfl

/-- Under the main menu the button of the notification is refused. -/
theorem notification_button_refused : ¬ ∀ (read : IdReader), read.ReadsBack → ∀ bot : Bot, bot.Works →
    ∀ (kind : NotificationType) (taskUid : Uuid) (rows : List (List CallbackButton)),
      buildKeyboard kind (some taskUid) = some rows → ∀ row ∈ rows, ∀ button ∈ row,
        ∀ action, NotificationAction.ofLabel button.text = some action → ∀ (w : World) (telegramId : Int)
          (r : Stored UserColumns), Recipient w.db telegramId r → ∀ t, w.db.stored taskUid = some t →
            action.Allowed (toUser r) t → ∀ (press : CallbackQuery) (message : MessageRef),
              PressesNotification read press button message telegramId →
                (w.updateDedup.observe ⟨message.chatId, press.idHash⟩).1 = true →
                  action.Starts r.id taskUid message.chatId w ((Event.update bot (.press press)).apply w) := by
  intro hall
  have hallowed : (NotificationAction.changeStatus .inProgress).Allowed (toUser ⟨1, onboardedRow⟩) assignedTask :=
    ⟨.inProgress, rfl, by decide, rfl⟩
  obtain ⟨-, t, ht, hstatus⟩ := hall displayReader displayReader_readsBack (cardBot 2) (cardBot_works 2)
    .taskAssigned (sampleUid 1) _ rfl _ List.mem_cons_self startButton (List.mem_cons_of_mem _ List.mem_cons_self)
    (.changeStatus .inProgress) rfl menuWorld 7 ⟨1, onboardedRow⟩ ⟨by decide, by decide, by decide⟩ assignedTask rfl
    hallowed startPress ⟨9, 7⟩ startPress_presses (by decide)
  have hkept : ((Event.update (cardBot 2) (.press startPress)).apply menuWorld).db.stored (sampleUid 1) =
      some assignedTask := by decide +kernel
  cases hkept.symm.trans ht
  rcases hstatus with h | ⟨h, -⟩ <;> cases h

end TaskBot
