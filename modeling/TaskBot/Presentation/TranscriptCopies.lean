import TaskBot.Presentation.ChatRuns
import TaskBot.Presentation.VoiceConfirmed
import TaskBot.UseCases.TaskTexts

/-!
# Copies of the transcript

A creation that waits for its assignee carries a copy of the text.  In a voice
session the copy is that of the transcript; a new recording drops it, and so does
every way out of the session, but a new transcript that is typed does not:

    no such text is typed in the run   →   what is created in the voice session is
                                           its transcript                    (created_is_transcript)
-/

namespace TaskBot

open Sql Calls Effects Scripts

/-- What waits in a voice session is the creation from its transcript. -/
def ChatState.CopyFresh (s : ChatState) : Prop :=
  ∀ draft message ids allow, s.session = some (.voice draft) →
    s.selection = some (.create message ids allow) → message.content = .text draft.transcript

/-- A new transcript is typed in the chat, where a creation from the old one waits. -/
def OutdatesCopy (chatId : Int) (w : World) : Event → Prop
  | .update bot (.message received) => ∃ incoming text draft message ids allow,
      toIncomingMessage (bot.clockOf 6 0) received = some incoming ∧ incoming.chatId = chatId ∧
        (Cue.message incoming).typed = some text ∧ w.creationSessions chatId = some (.voice draft) ∧
        draft.step = .editTranscript ∧ w.assigneeSelections chatId = some (.create message ids allow) ∧
        text ≠ draft.transcript
  | _ => False

section

variable {telegram : Telegram} {bot : Bot} {chatId : Int} {cue : Cue} {c : Chats} {ds : List Deed}
  {s : ChatState}

namespace ChatState.CopyFresh

theorem of_stores {s' : ChatState} (h : s.CopyFresh) (hsession : s'.session = s.session)
    (hselection : s'.selection = s.selection) : s'.CopyFresh := by
  intro draft message ids allow hdraft hwaiting
  rw [hsession] at hdraft
  rw [hselection] at hwaiting
  exact h draft message ids allow hdraft hwaiting

/-- Nothing waits. -/
theorem of_none (h : s.selection = none) : s.CopyFresh := by
  intro draft message ids allow _ hwaiting
  rw [h] at hwaiting
  cases hwaiting

/-- The session is no voice session. -/
theorem of_closed (h : ∀ draft, s.session ≠ some (.voice draft)) : s.CopyFresh :=
  fun draft _ _ _ hdraft => absurd hdraft (h draft)

/-- A guarded deed leaves what waits alone. -/
theorem guarded {d : Deed} (h : s.CopyFresh) (hguarded : d.isGuarded = true)
    (hrest : (d.play s).CopyFresh → Establishes telegram CopyFresh ds (d.play s)) :
    Establishes telegram CopyFresh (d :: ds) s := by
  obtain ⟨hsession, -, hselection⟩ := Deed.play_guarded hguarded s
  exact ⟨fun _ => h, hrest (h.of_stores hsession hselection)⟩

theorem shown {d : ScreenDescriptor} {view : ScreenView} (h : s.CopyFresh) :
    Establishes telegram CopyFresh [.render d view] s := h.guarded rfl id

theorem ending (h : s.CopyFresh) (hends : Ending bot ds) : Establishes telegram CopyFresh ds s := by
  cases hends with
  | shown _ _ => exact h.shown
  | told text => exact h.guarded rfl id

end ChatState.CopyFresh

open ChatState.CopyFresh in
/-- **A scene keeps the copy fresh**, unless a new transcript is typed. -/
theorem scene_copyFresh (h : Scene bot c chatId cue ds) (hs : (c.state chatId).CopyFresh)
    (htyped : ∀ draft text message ids allow, c.sessions chatId = some (.voice draft) →
      draft.step = .editTranscript → cue.typed = some text →
      c.selections chatId = some (.create message ids allow) → text = draft.transcript) :
    Establishes bot.telegram ChatState.CopyFresh ds (c.state chatId) := by
  cases h with
  | ending h => exact hs.ending h
  | twice _ _ h => exact hs.guarded rfl fun hs => hs.ending h
  | home _ _ => exact .store id (.store id (.store id (shown (of_none rfl))))
  | opened _ _ => exact .store id (shown (hs.of_stores rfl rfl))
  | quick _ | guidedOpen _ => exact .store id (.store id (shown (of_none rfl)))
  | guided _ _ _ => exact .store id (shown (of_closed fun _ => nofun))
  | again _ _ _ => exact hs.shown
  | pend hvoice _ _ => exact .store id (shown (of_closed hvoice))
  | pendClosing _ _ => exact .store id (.store id (shown (of_closed fun _ => nofun)))
  | @pendVoice draft message _ _ _ _ hsession hcontent _ _ =>
    refine .store id (shown fun draft' message' _ _ hdraft hwaiting => ?_)
    have hsame : draft' = draft := by
      cases hsession.symm.trans hdraft
      rfl
    cases hwaiting
    rw [hsame]
    exact hcontent
  | close _ _ => exact .store id (.store id (shown (of_none rfl)))
  | closeAfter _ _ => exact .store id (.store id (shown (of_none rfl)))
  | @voice draft draft' _ _ hsession hsame _ _ =>
    refine .store id (shown fun draft'' message ids allow hdraft hwaiting => ?_)
    cases hdraft
    rw [hsame]
    exact hs draft message ids allow hsession hwaiting
  | @retype draft text _ _ hsession hstep hcue _ _ =>
    refine .store id (shown fun draft' message ids allow hdraft hwaiting => ?_)
    cases hdraft
    show message.content = .text text
    rw [htyped draft text message ids allow hsession hstep hcue hwaiting]
    exact hs draft message ids allow hsession hwaiting
  | dictated _ _ _ =>
    refine hs.guarded rfl fun _ => ?_
    exact .store id (.store id (shown (of_none rfl)))
  | unheard _ _ => exact hs.guarded rfl fun hs => hs.shown
  | drop h => exact .store id (ending (of_none rfl) h)
  | answering _ _ h =>
    cases h with
    | refused text => exact hs.guarded rfl id
    | saved h => exact .store id (ending (hs.of_stores rfl rfl) h)
    | reassigned h => exact .store id (.store id (ending (of_none rfl) h))
    | promptAgain _ => exact hs.shown
    | pendReassign _ => exact .store id (shown fun _ _ _ _ _ hwaiting => nomatch hwaiting)

open ChatState.CopyFresh in
theorem script_copyFresh (h : Script bot c chatId cue ds) (hs : (c.state chatId).CopyFresh)
    (htyped : ∀ draft text message ids allow, c.sessions chatId = some (.voice draft) →
      draft.step = .editTranscript → cue.typed = some text →
      c.selections chatId = some (.create message ids allow) → text = draft.transcript) :
    Establishes bot.telegram ChatState.CopyFresh ds (c.state chatId) := by
  cases h with
  | nothing => exact hs
  | refused => exact ⟨fun _ => hs, hs⟩
  | scene h => exact scene_copyFresh h hs htyped
  | greeting h =>
    cases h with
    | ending h => exact hs.ending h
    | told text => exact ⟨fun _ => hs, hs⟩
  | fresh h =>
    have hstate := c.state_setInteraction chatId none
    have hfresh : ((c.setInteraction chatId none).state chatId).CopyFresh := by
      rw [hstate]
      exact hs.of_stores rfl rfl
    have hscene := scene_copyFresh h hfresh htyped
    rw [hstate] at hscene
    exact .store id hscene

end

/-! ## Runs -/

/-- **Along a run in which no copy is outdated, what waits is fresh.** -/
theorem copies_fresh {start : World} {chatId : Int} {events : List Event}
    (hrun : start.Along (fun w e => ¬ OutdatesCopy chatId w e) events) (hstart : (start.chat chatId).CopyFresh) :
    ((start.after events).chat chatId).CopyFresh := by
  refine chat_keeps (fun w bot received hok hw cue c ds hentered hscript => ?_) hrun hstart
  -- the stores with which the update begins are those of the world
  have hstores : c.sessions chatId = w.creationSessions chatId ∧
      c.selections chatId = w.assigneeSelections chatId := by
    rcases hentered.state with hsame | ⟨-, hsame⟩
    · exact ⟨congrArg ChatState.session hsame, congrArg ChatState.selection hsame⟩
    · exact ⟨congrArg ChatState.session hsame, congrArg ChatState.selection hsame⟩
  have hfresh : (c.state chatId).CopyFresh := hw.of_stores hstores.1 hstores.2
  refine (script_copyFresh hscript hfresh ?_).mono fun s hs _ => hs.of_stores rfl rfl
  intro draft text message ids allow hsession hstep hcue hwaiting
  by_contra hne
  rw [hstores.1] at hsession
  rw [hstores.2] at hwaiting
  cases hentered with
  | @message received incoming hincoming =>
    exact hok ⟨incoming, text, draft, message, ids, allow, hincoming, rfl, hcue, hsession, hstep, hwaiting, hne⟩
  | press _ => cases hcue

/-! ## What is created -/

/-- The buttons that create a task in a voice session. -/
def TelegramCallback.CreatesTask : TelegramCallback → Prop
  | voiceCreateConfirm | clarificationPickEmployee _ | clarificationCreateUnassigned => True
  | _ => False

/-- What a press creates has the text of the draft, or of what waits. -/
theorem press_creates_text {bot : Bot} {press : CallbackQuery} {w : World} {chatId messageId : Int}
    {callback : TelegramCallback} {draft : VoiceTaskDraft} {uid : Uuid} {t : Task}
    (hmessage : press.message = some ⟨messageId, chatId⟩) (hparsed : press.parsed = some callback)
    (hcreates : callback.CreatesTask) (hdraft : w.creationSessions chatId = some (.voice draft))
    (hfresh : (w.chat chatId).CopyFresh)
    (hcreated : Creates w ((Event.update bot (.press press)).apply w) uid t) :
    t.originalMessage = draft.transcript := by
  cases hh : press.handled bot w with
  | none =>
    obtain ⟨message, hfoot⟩ := apply_press_unhandled hh
    have hmoves : TaskMoves (.createsOnly fun _ => False) w.db _ := registration_creates_nothing hfoot
    exact (hmoves.created hcreated).elim
  | some h =>
    rw [apply_press hh] at hcreated
    obtain ⟨hparsed', hmessage', -⟩ := handled_incoming hh
    obtain rfl : callback = h.callback := Option.some.inj (hparsed.symm.trans hparsed')
    obtain rfl : chatId = h.message.chatId :=
      congrArg MessageRef.chatId (Option.some.inj (hmessage.symm.trans hmessage'))
    obtain ⟨hsessions, hselections⟩ := handled_stores hh
    -- the registration creates nothing, so the task is new to the handler
    have hregistered : TaskMoves (.createsOnly fun _ => False) w.db h.start.db :=
      registration_creates_nothing (handled_footprint hh)
    have hnew : h.start.db.stored uid = none := by
      cases hstored : h.start.db.stored uid with
      | none => rfl
      | some t' => exact (hregistered.creates uid t' hcreated.1 hstored).1.elim
    have hran : TaskTexts (· = draft.transcript) h.start.db (h.finish bot).db := by
      refine (finish_footprint bot h).relates TaskTexts.refl (fun _ _ _ h h' => h.trans h') ?_
      intro call app clock plan process hmay
      have htext : ∀ message decision, message.content = .text draft.transcript →
          TaskTexts (· = draft.transcript) process.db
            ((RuntimeCall.program app clock (.createTask message decision)).run plan process).2.db := by
        intro message decision hcontent
        show TaskTexts _ process.db ((onDb _).run plan process).2.db
        rw [run_onDb]
        refine (CreateTaskFromMessage.texts _ _ _ _ _ plan process.db).mono fun text htext => ?_
        unfold CreateTaskFromMessage.extractOriginalText at htext
        rw [hcontent] at htext
        exact (Except.ok.inj htext).symm
      generalize hcallback : h.callback = callback at hmay hcreates
      generalize hl : Happening.called call = l at hmay
      cases hmay with
      | voiceCreate draft' hdraft' =>
        cases hl
        rw [hsessions, hdraft] at hdraft'
        cases hdraft'
        exact htext _ _ rfl
      | pickForCreation employeeId waiting ids allow hwaiting =>
        cases hl
        rw [hselections] at hwaiting
        exact htext _ _ (hfresh draft waiting ids allow hdraft hwaiting)
      | createUnassigned waiting ids allow hwaiting =>
        cases hl
        rw [hselections] at hwaiting
        exact htext _ _ (hfresh draft waiting ids allow hdraft hwaiting)
      | pickForTask employeeId taskUid query =>
        cases hl
        show TaskTexts _ process.db ((onDb _).run plan process).2.db
        rw [run_onDb]
        exact (ReassignTask.texts _ _ _ _ _ _ plan process.db).mono fun _ h => h.elim
      | selectLink callback selection hlink =>
        cases callback <;> first | exact hcreates.elim | cases hlink
      | register callback selection decision hlink =>
        cases callback <;> first | exact hcreates.elim | cases hlink
      | voicePend _ _ | issue _ _ _ _ => cases hl
      | _ => exact hcreates.elim
    exact hran.adds uid t hnew hcreated.2

/-! ## Top theorem -/

/-- **What is created in a voice session is its transcript.**  In every run from a chat in which no
outdated copy waits, and in which no new transcript is typed over a copy that waits: a task that
`VoiceCreateConfirm`, `ClarificationPickEmployee` or `ClarificationCreateUnassigned` creates while a
voice session is open has the transcript of that session as its text. -/
theorem created_is_transcript (start : World) (chatId : Int) (hstart : (start.chat chatId).CopyFresh)
    (pre : List Event) (hrun : start.Along (fun w e => ¬ OutdatesCopy chatId w e) pre) (bot : Bot)
    (press : CallbackQuery) (messageId : Int) (callback : TelegramCallback)
    (hmessage : press.message = some ⟨messageId, chatId⟩) (hparsed : press.parsed = some callback)
    (hcreates : callback.CreatesTask) (draft : VoiceTaskDraft)
    (hdraft : (start.after pre).creationSessions chatId = some (.voice draft)) (uid : Uuid) (t : Task)
    (hcreated : Creates (start.after pre) ((Event.update bot (.press press)).apply (start.after pre)) uid t) :
    t.originalMessage = draft.transcript := by
  have hfresh : ((start.after pre).chat chatId).CopyFresh := copies_fresh hrun hstart
  exact press_creates_text hmessage hparsed hcreates hdraft hfresh hcreated

/-- A dictated task is created as it was dictated. -/
theorem dictated_is_created : ∃ t,
    ((Event.update plainBot (.press (pressed 101 3 .voiceCreateConfirm))).apply
      (voiceWorld.after dictated)).db.stored plainBot.newTaskUid = some t ∧
        t.originalMessage = "Подготовить отчёт" := by
  have hsome : (((Event.update plainBot (.press (pressed 101 3 .voiceCreateConfirm))).apply
      (voiceWorld.after dictated)).db.stored plainBot.newTaskUid).isSome = true := by decide +kernel
  obtain ⟨t, ht⟩ := Option.isSome_iff_exists.mp hsome
  have hdraft : (voiceWorld.after dictated).creationSessions 7 =
      some (.voice ⟨"telegram:7:5", "Подготовить отчёт", .confirm, false⟩) := by decide +kernel
  refine ⟨t, ht, created_is_transcript voiceWorld 7 (.of_none rfl) dictated ⟨?_, trivial⟩ plainBot
    (pressed 101 3 .voiceCreateConfirm) 3 .voiceCreateConfirm rfl rfl trivial _ hdraft
    plainBot.newTaskUid t ⟨by decide +kernel, ht⟩⟩
  rintro ⟨_, _, _, _, _, _, _, _, _, hsession, _⟩
  cases hsession

/-- The recording names someone who is not in the directory. -/
def askingBot : Bot := parsingBot "Иван Петров, подготовить отчёт"

/-- The draft is confirmed, its assignee is asked for, and then the transcript is typed anew. -/
def retyped : List Event :=
  [.update askingBot (.message dictatedMessage),
    .update askingBot (.press (pressed 101 3 .voiceCreateConfirm)),
    .update askingBot (.press (pressed 102 3 .voiceCreateEdit)),
    .update askingBot (.message (typedMessage 6 "Купить билеты"))]

/-- The previous keyboard still creates the old text. -/
theorem outdated_copy_created : ¬ ∀ (start : World) (chatId : Int), (start.chat chatId).CopyFresh →
    ∀ (pre : List Event) (bot : Bot) (press : CallbackQuery) (messageId : Int) (callback : TelegramCallback),
      press.message = some ⟨messageId, chatId⟩ → press.parsed = some callback → callback.CreatesTask →
        ∀ draft, (start.after pre).creationSessions chatId = some (.voice draft) → ∀ uid t,
          Creates (start.after pre) ((Event.update bot (.press press)).apply (start.after pre)) uid t →
            t.originalMessage = draft.transcript := by
  intro hall
  have htext : (((Event.update askingBot (.press (pressed 103 3 .clarificationCreateUnassigned))).apply
      (voiceWorld.after retyped)).db.stored askingBot.newTaskUid).map Task.originalMessage =
        some "Иван Петров, подготовить отчёт" := by decide +kernel
  obtain ⟨t, ht, hold⟩ := Option.map_eq_some_iff.mp htext
  have hdraft : (voiceWorld.after retyped).creationSessions 7 =
      some (.voice ⟨"telegram:7:5", "Купить билеты", .confirm, false⟩) := by decide +kernel
  have hnew := hall voiceWorld 7 (.of_none rfl) retyped askingBot
    (pressed 103 3 .clarificationCreateUnassigned) 3 .clarificationCreateUnassigned rfl rfl trivial _ hdraft
    askingBot.newTaskUid t ⟨by decide +kernel, ht⟩
  rw [hold] at hnew
  exact absurd hnew (by decide)

end TaskBot
