import TaskBot.Presentation.Updates

/-!
# Voice tasks are confirmed

A voice message only opens a draft; the task is created by the press that confirms
the draft, or, when its assignee was not clear, by the choice that follows.

    a creation of voice origin waits in a chat  →  a draft was confirmed there   (waiting_confirmed)
    a task of voice origin is created           →  by a confirmation, or by a choice
                                                   behind one                    (voice_confirmed)
-/

namespace TaskBot

open Sql Calls Effects

/-- The task of the message is one of voice origin. -/
def IncomingMessage.IsVoice (message : IncomingMessage) : Prop :=
  taskMessageType message.content message.isVoiceOrigin = .voice

theorem isVoice_of_text {message : IncomingMessage} (htext : ∀ voice, message.content ≠ .voice voice)
    (horigin : message.isVoiceOrigin = false) : ¬ message.IsVoice := by
  unfold IncomingMessage.IsVoice taskMessageType
  rw [horigin]
  cases hcontent : message.content with
  | voice voice => exact absurd hcontent (htext voice)
  | text _ | command _ => exact nofun

def Creates (w w' : World) (uid : Uuid) (t : Task) : Prop :=
  w.db.stored uid = none ∧ w'.db.stored uid = some t

/-! ## Confirmations -/

/-- The update confirms the draft of the chat. -/
def ConfirmsVoice (w : World) (received : TelegramUpdate) (chatId : Int) : Prop :=
  ∃ press messageId draft, received = .press press ∧ press.parsed = some .voiceCreateConfirm ∧
    press.message = some ⟨messageId, chatId⟩ ∧ w.creationSessions chatId = some (.voice draft)

/-- The update decides the assignee of what waits in the chat. -/
def ClarifiesAssignee (received : TelegramUpdate) (chatId : Int) : Prop :=
  ∃ press messageId, received = .press press ∧ press.message = some ⟨messageId, chatId⟩ ∧
    ((∃ employeeId, press.parsed = some (.clarificationPickEmployee employeeId)) ∨
      press.parsed = some .clarificationCreateUnassigned)

/-- A draft of the chat has been confirmed in the run. -/
def ConfirmedBefore (start : World) (events : List Event) (chatId : Int) : Prop :=
  ∃ pre bot received post, events = pre ++ .update bot received :: post ∧
    ConfirmsVoice (start.after pre) received chatId

theorem ConfirmedBefore.append {start : World} {events : List Event} {chatId : Int}
    (h : ConfirmedBefore start events chatId) (events' : List Event) :
    ConfirmedBefore start (events ++ events') chatId := by
  obtain ⟨pre, bot, received, post, rfl, hconfirms⟩ := h
  refine ⟨pre, bot, received, post ++ events', ?_, hconfirms⟩
  rw [List.append_assoc, List.cons_append]

/-! ## What may be created -/

/-- No tasks but those of the message types of `C`. -/
def TaskRights.createsOnly (C : MessageType → Prop) : TaskRights := ⟨C, fun _ => True, fun _ => True⟩

theorem rights_createsOnly {call : RuntimeCall} {C : MessageType → Prop}
    (h : ∀ message decision, call = .createTask message decision →
      C (taskMessageType message.content message.isVoiceOrigin)) : call.rights.Le (.createsOnly C) := by
  refine ⟨fun messageType hcreates => ?_, fun _ _ => trivial, fun _ _ => trivial⟩
  cases call with
  | createTask message decision =>
    have hmessage := h message decision rfl
    rw [← (hcreates : messageType = _)] at hmessage
    exact hmessage
  | _ => exact hcreates.elim

theorem TaskMoves.created {C : MessageType → Prop} {w w' : World} {uid : Uuid} {t : Task}
    (h : TaskMoves (.createsOnly C) w.db w'.db) (hcreated : Creates w w' uid t) : C t.messageType :=
  (h.creates uid t hcreated.1 hcreated.2).1

theorem registration_creates_nothing {message : IncomingMessage} {C : MessageType → Prop} {w w' : World}
    (h : Footprint (RegistrationDialog.May message) w w') : TaskMoves (.createsOnly C) w.db w'.db := by
  refine h.moves fun call hmay => rights_createsOnly fun message decision hcall => ?_
  rw [hcall] at hmay
  cases hmay

/-- Messages create from what is written in them. -/
theorem message_creates {bot : Bot} {message : TelegramMessage} {C : MessageType → Prop} {w : World}
    (hC : ∀ incoming intake, toIncomingMessage (bot.clockOf 6 0) message = some incoming →
      IsIntake incoming intake → C (taskMessageType intake.content intake.isVoiceOrigin)) :
    TaskMoves (.createsOnly C) w.db ((Event.update bot (.message message)).apply w).db := by
  have hfoot : Footprint (fun l => ∃ incoming actor,
      toIncomingMessage (bot.clockOf 6 0) message = some incoming ∧
        UpdateMay incoming (MessageMay incoming actor) l) w ((Event.update bot (.message message)).apply w) :=
    handleMessage_touches fun incoming actor l hincoming hl => ⟨incoming, actor, hincoming, hl⟩
  refine hfoot.moves fun call hmay => rights_createsOnly fun intake decision hcall => ?_
  obtain ⟨incoming, actor, hincoming, hmay⟩ := hmay
  rw [hcall] at hmay
  generalize hl : Happening.called (.createTask intake decision) = l at hmay
  cases hmay with
  | register l h =>
    rw [← hl] at h
    cases h
  | recordEvent entry => cases hl
  | handle l h =>
    rw [← hl] at h
    generalize hl' : Happening.called (.createTask intake decision) = l' at h
    cases h with
    | create intake h =>
      cases hl'
      exact hC incoming _ hincoming h
    | answer session text =>
      unfold TaskInteractionSession.call at hl'
      cases hkind : session.kind <;> rw [hkind] at hl' <;> cases hl'
    | _ => cases hl'

theorem incoming_isVoiceOrigin {now : Instant} {message : TelegramMessage} {incoming : IncomingMessage}
    (h : toIncomingMessage now message = some incoming) : incoming.isVoiceOrigin = false := by
  obtain ⟨sender, -, hrest⟩ := Option.bind_eq_some_iff.mp h
  obtain ⟨content, -, hrest⟩ := Option.bind_eq_some_iff.mp hrest
  obtain ⟨senderId, -, hlast⟩ := Option.bind_eq_some_iff.mp hrest
  rw [← Option.some.inj hlast]

theorem intake_not_voice {now : Instant} {message : TelegramMessage} {incoming intake : IncomingMessage}
    (h : toIncomingMessage now message = some incoming) (hintake : IsIntake incoming intake) :
    ¬ intake.IsVoice := isVoice_of_text hintake.text (hintake.origin.trans (incoming_isVoiceOrigin h))

/-- A message with a voice message in it creates nothing. -/
theorem voice_message_creates_nothing {bot : Bot} {message : TelegramMessage} {w : World} {uid : Uuid}
    {t : Task} (htext : message.text = none) (hvoice : message.voice.isSome) :
    ¬ Creates w ((Event.update bot (.message message)).apply w) uid t := by
  intro hcreated
  have hmoves : TaskMoves (.createsOnly fun _ => False) w.db
      ((Event.update bot (.message message)).apply w).db := by
    refine message_creates fun incoming intake hincoming hintake => ?_
    obtain ⟨sender, -, hrest⟩ := Option.bind_eq_some_iff.mp hincoming
    obtain ⟨content, hcontent, hrest⟩ := Option.bind_eq_some_iff.mp hrest
    obtain ⟨senderId, -, hlast⟩ := Option.bind_eq_some_iff.mp hrest
    obtain ⟨voice, hsome⟩ := Option.isSome_iff_exists.mp hvoice
    unfold messageContentOf at hcontent
    rw [htext, hsome] at hcontent
    have hsource := hintake.source (voiceAttachmentOf voice)
    rw [← Option.some.inj hlast] at hsource
    exact hsource (Option.some.inj hcontent).symm
  exact hmoves.created hcreated

/-! ## What waits -/

/-- A creation that comes to wait was waiting already, or is left by this update. -/
theorem waiting_after {bot : Bot} {received : TelegramUpdate} {w : World} {chatId : Int}
    {message : IncomingMessage} {ids : List Int} {allow : Bool} (hvoice : message.IsVoice)
    (h : ((Event.update bot received).apply w).assigneeSelections chatId = some (.create message ids allow)) :
    w.assigneeSelections chatId = some (.create message ids allow) ∨ ConfirmsVoice w received chatId := by
  cases received with
  | message telegramMessage =>
    have hfoot : Footprint (fun l => ∃ incoming actor,
        toIncomingMessage (bot.clockOf 6 0) telegramMessage = some incoming ∧
          UpdateMay incoming (MessageMay incoming actor) l) w
        ((Event.update bot (.message telegramMessage)).apply w) :=
      handleMessage_touches fun incoming actor l hincoming hl => ⟨incoming, actor, hincoming, hl⟩
    refine (hfoot.pends chatId message ids allow h).imp_right fun hmay => ?_
    obtain ⟨incoming, actor, hincoming, hmay⟩ := hmay
    generalize hl : Happening.pended chatId message = l at hmay
    cases hmay with
    | register l h =>
      rw [← hl] at h
      cases h
    | recordEvent entry => cases hl
    | handle l h =>
      rw [← hl] at h
      cases h with
      | pend intake hintake => exact absurd hvoice (intake_not_voice hincoming hintake)
  | press press =>
    cases hh : press.handled bot w with
    | none =>
      obtain ⟨message', hfoot⟩ := apply_press_unhandled hh
      refine (hfoot.pends chatId message ids allow h).imp_right fun hmay => ?_
      cases hmay
    | some handled =>
      rw [apply_press hh] at h
      obtain ⟨hparsed, hmessage, -⟩ := handled_incoming hh
      rcases (finish_footprint bot handled).pends chatId message ids allow h with hold | hmay
      · refine ((handled_footprint hh).pends chatId message ids allow hold).imp_right fun hmay => ?_
        cases hmay
      · refine .inr ?_
        generalize hcallback : handled.callback = callback at hmay hparsed
        generalize hl : Happening.pended chatId message = l at hmay
        cases hmay with
        | voicePend draft hdraft =>
          cases hl
          rw [(handled_stores hh).1] at hdraft
          exact ⟨press, handled.message.messageId, draft, rfl, hparsed, hmessage, hdraft⟩
        | guidedPend draft description =>
          cases hl
          exact absurd hvoice (isVoice_of_text (fun _ => nofun) rfl)
        | consume actorId nonce result hid => cases result <;> cases hl
        | _ => cases hl

/-- **What waits with a voice origin has been confirmed.** -/
theorem waiting_confirmed {start : World}
    (hstart : ∀ chatId message ids allow,
      start.assigneeSelections chatId = some (.create message ids allow) → ¬ message.IsVoice)
    (events : List Event) : ∀ chatId message ids allow,
      (start.after events).assigneeSelections chatId = some (.create message ids allow) →
      message.IsVoice → ConfirmedBefore start events chatId := by
  induction events using List.reverseRecOn with
  | nil =>
    intro chatId message ids allow hwaiting hvoice
    exact absurd hvoice (hstart chatId message ids allow hwaiting)
  | append_singleton events e ih =>
    intro chatId message ids allow hwaiting hvoice
    rw [after_append] at hwaiting
    cases e with
    | elsewhere process => exact (ih chatId message ids allow hwaiting hvoice).append _
    | update bot received =>
      rcases waiting_after hvoice hwaiting with hold | hconfirms
      · exact (ih chatId message ids allow hold hvoice).append _
      · exact ⟨events, bot, received, [], rfl, hconfirms⟩

/-! ## One update -/

/-- A task of voice origin is created by a confirmation, or by a choice for what waits. -/
theorem voice_creation {bot : Bot} {received : TelegramUpdate} {w : World} {uid : Uuid} {t : Task}
    (hcreated : Creates w ((Event.update bot received).apply w) uid t) (htype : t.messageType = .voice) :
    ∃ chatId, ConfirmsVoice w received chatId ∨ (ClarifiesAssignee received chatId ∧
      ∃ message ids allow, w.assigneeSelections chatId = some (.create message ids allow) ∧
        message.IsVoice) := by
  cases received with
  | message message =>
    have hmoves : TaskMoves (.createsOnly (· ≠ .voice)) w.db
        ((Event.update bot (.message message)).apply w).db :=
      message_creates fun incoming intake hincoming hintake => intake_not_voice hincoming hintake
    exact absurd htype (hmoves.created hcreated)
  | press press =>
    cases hh : press.handled bot w with
    | none =>
      obtain ⟨message, hfoot⟩ := apply_press_unhandled hh
      have hmoves : TaskMoves (.createsOnly fun _ => False) w.db _ := registration_creates_nothing hfoot
      exact (hmoves.created hcreated).elim
    | some h =>
      rw [apply_press hh] at hcreated
      obtain ⟨hparsed, hmessage, -⟩ := handled_incoming hh
      refine ⟨h.message.chatId, ?_⟩
      have hkept := handled_stores hh
      -- the handler may create a task of type `.voice` only in the cases of the conclusion
      let C : MessageType → Prop := fun messageType => messageType = .voice →
        ConfirmsVoice w (.press press) h.message.chatId ∨
          (ClarifiesAssignee (.press press) h.message.chatId ∧ ∃ message ids allow,
            w.assigneeSelections h.message.chatId = some (.create message ids allow) ∧ message.IsVoice)
      have hregistered : TaskMoves (.createsOnly C) w.db h.start.db :=
        registration_creates_nothing (handled_footprint hh)
      have hran : TaskMoves (.createsOnly C) h.start.db (h.finish bot).db := by
        refine (finish_footprint bot h).moves fun call hmay =>
          rights_createsOnly fun message decision hcall hvoice => ?_
        rw [hcall] at hmay
        generalize hcallback : h.callback = callback at hmay hparsed
        generalize hl : Happening.called (.createTask message decision) = l at hmay
        cases hmay with
        | voiceCreate draft hdraft =>
          rw [hkept.1] at hdraft
          exact .inl ⟨press, h.message.messageId, draft, rfl, hparsed, hmessage, hdraft⟩
        | guidedCreate draft description =>
          cases hl
          exact absurd hvoice (isVoice_of_text (fun _ => nofun) rfl)
        | pickForCreation employeeId waiting ids allow hwaiting =>
          cases hl
          rw [hkept.2] at hwaiting
          refine .inr ⟨⟨press, h.message.messageId, rfl, hmessage, .inl ⟨employeeId, hparsed⟩⟩, ?_⟩
          exact ⟨message, ids, allow, hwaiting, hvoice⟩
        | createUnassigned waiting ids allow hwaiting =>
          cases hl
          rw [hkept.2] at hwaiting
          refine .inr ⟨⟨press, h.message.messageId, rfl, hmessage, .inr hparsed⟩, ?_⟩
          exact ⟨message, ids, allow, hwaiting, hvoice⟩
        | consume actorId nonce result hid => cases result <;> cases hl
        | act nonce action => cases action <;> cases hl
        | _ => cases hl
      exact (hregistered.trans hran).created hcreated htype

/-! ## Top theorem -/

/-- **Voice tasks are confirmed.**  At any update of a run from any sessions, with no creation of voice
origin waiting: a voice message creates no task, and a task of voice origin is created by the
confirmation of a voice draft, or by the choice of an assignee behind one in the chat. -/
theorem voice_confirmed (start : World)
    (hstart : ∀ chatId message ids allow,
      start.assigneeSelections chatId = some (.create message ids allow) → ¬ message.IsVoice)
    (pre : List Event) (bot : Bot) (received : TelegramUpdate) :
    (∀ message, received = .message message → message.text = none → message.voice.isSome →
      ∀ uid t, ¬ Creates (start.after pre) ((Event.update bot received).apply (start.after pre)) uid t) ∧
    ∀ uid t, Creates (start.after pre) ((Event.update bot received).apply (start.after pre)) uid t →
      t.messageType = .voice → ∃ chatId, ConfirmsVoice (start.after pre) received chatId ∨
        (ClarifiesAssignee received chatId ∧ ConfirmedBefore start pre chatId) := by
  refine ⟨?_, fun uid t hcreated htype => ?_⟩
  · rintro message rfl htext hvoice uid t
    exact voice_message_creates_nothing htext hvoice
  · obtain ⟨chatId, hconfirms | ⟨hclarifies, message, ids, allow, hwaiting, hvoice⟩⟩ :=
      voice_creation hcreated htype
    · exact ⟨chatId, .inl hconfirms⟩
    · exact ⟨chatId, .inr ⟨hclarifies, waiting_confirmed hstart pre chatId message ids allow hwaiting hvoice⟩⟩

/-- The recording names nobody. -/
def plainBot : Bot := parsingBot "Подготовить отчёт"

def dictated : List Event := [.update plainBot (.message dictatedMessage)]

/-- Dictating a task twice creates none; once it is confirmed it is created, as one of voice origin. -/
theorem dictated_and_confirmed :
    (¬ ∃ uid t, Creates (voiceWorld.after dictated)
      ((Event.update plainBot (.message dictatedMessage)).apply (voiceWorld.after dictated)) uid t) ∧
    ∃ t, Creates (voiceWorld.after dictated)
        ((Event.update plainBot (.press (pressed 101 3 .voiceCreateConfirm))).apply
          (voiceWorld.after dictated)) plainBot.newTaskUid t ∧
      t.messageType = .voice ∧
      ∃ chatId, ConfirmsVoice (voiceWorld.after dictated) (.press (pressed 101 3 .voiceCreateConfirm)) chatId ∨
        (ClarifiesAssignee (.press (pressed 101 3 .voiceCreateConfirm)) chatId ∧
          ConfirmedBefore voiceWorld dictated chatId) := by
  have hconfirmed := voice_confirmed voiceWorld (fun _ _ _ _ h => nomatch h) dictated plainBot
  constructor
  · rintro ⟨uid, t, hcreates⟩
    exact (hconfirmed (.message dictatedMessage)).1 dictatedMessage rfl rfl rfl uid t hcreates
  · have hvoice : (((Event.update plainBot (.press (pressed 101 3 .voiceCreateConfirm))).apply
        (voiceWorld.after dictated)).db.stored plainBot.newTaskUid).map Task.messageType = some .voice := by
      decide +kernel
    obtain ⟨t, ht, htype⟩ := Option.map_eq_some_iff.mp hvoice
    have hcreates : Creates (voiceWorld.after dictated)
        ((Event.update plainBot (.press (pressed 101 3 .voiceCreateConfirm))).apply
          (voiceWorld.after dictated)) plainBot.newTaskUid t := ⟨by decide +kernel, ht⟩
    exact ⟨t, hcreates, htype,
      (hconfirmed (.press (pressed 101 3 .voiceCreateConfirm))).2 plainBot.newTaskUid t hcreates htype⟩

end TaskBot
