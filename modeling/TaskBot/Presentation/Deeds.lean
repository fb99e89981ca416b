import TaskBot.Lib.Scripts
import TaskBot.Presentation.Transport

/-!
# What handlers do to the chats

`Chats` is the part of the world that belongs to chats: the active screens, the three
stores of dialogs, the barriers, and what has been sent.  `Deed` lists what a handler
does to it:

* a guarded deed (a screen, an error text) needs the barrier of the update, and only
  the first one comes through;
* a plain text is sent past the barrier;
* the toast of a press is no message;
* a store of the chat is set.

Each operation of the handlers is one deed (`sendScreen_does`, …) or leaves the chats
alone (`ask_silent`, …).
-/

namespace TaskBot

open Sql Calls Effects Scripts

structure Chats where
  screens : Int → Option ActiveScreenState
  sessions : Int → Option CreationSession
  interactions : Int → Option TaskInteractionSession
  selections : Int → Option PendingAssigneeSelection
  barriers : Int → Option UxBarrier
  sent : List SentMessage

def World.chats (w : World) : Chats :=
  ⟨w.activeScreens, w.creationSessions, w.taskInteractions, w.assigneeSelections, w.currentBarriers, w.sent⟩

namespace Chats

/-- The barrier of the chat, if it has one, is spent. -/
def consumed (c : Chats) (chatId : Int) : Chats :=
  { c with barriers := Function.update c.barriers chatId ((c.barriers chatId).map fun _ => ⟨true⟩) }

def receives (c : Chats) (m : SentMessage) : Chats := { c with sent := c.sent ++ [m] }

def shows (c : Chats) (chatId messageId : Int) (descriptor : ScreenDescriptor) (view : ScreenView) : Chats :=
  { c with
    screens := Function.update c.screens chatId (some ⟨messageId, descriptor⟩)
    sent := c.sent ++ [⟨chatId, messageId, some descriptor, view⟩] }

def setSession (c : Chats) (chatId : Int) (session : Option CreationSession) : Chats :=
  { c with sessions := Function.update c.sessions chatId session }

def setInteraction (c : Chats) (chatId : Int) (session : Option TaskInteractionSession) : Chats :=
  { c with interactions := Function.update c.interactions chatId session }

def setSelection (c : Chats) (chatId : Int) (selection : Option PendingAssigneeSelection) : Chats :=
  { c with selections := Function.update c.selections chatId selection }

end Chats

/-- One thing a handler does in its chat. -/
inductive Deed where
  | render (descriptor : ScreenDescriptor) (view : ScreenView)
  | tell (text : String)
  /-- Past the barrier. -/
  | tellPast (text : String)
  /-- The answer to the query of a press. -/
  | toast
  | session (session : Option CreationSession)
  | interaction (session : Option TaskInteractionSession)
  | selection (selection : Option PendingAssigneeSelection)

/-- The deed asks the barrier first. -/
def Deed.isGuarded : Deed → Bool
  | render _ _ | tell _ => true
  | _ => false

/-- What a deed does to the chats, and whether the handler goes on after it. -/
inductive Deed.Acts (telegram : Telegram) (chatId : Int) : Deed → Bool → Chats → Chats → Prop where
  | suppressed {d : Deed} {c : Chats} (hguarded : d.isGuarded = true)
      (hspent : c.barriers chatId = some ⟨true⟩) : Acts telegram chatId d true c c
  | failed {d : Deed} {c : Chats} (hguarded : d.isGuarded = true)
      (hopen : c.barriers chatId ≠ some ⟨true⟩) (hfails : ¬ telegram.Delivers) :
      Acts telegram chatId d false c (c.consumed chatId)
  | rendered {c : Chats} (descriptor : ScreenDescriptor) (view : ScreenView) (messageId : Int)
      (hopen : c.barriers chatId ≠ some ⟨true⟩) :
      Acts telegram chatId (.render descriptor view) true c
        ((c.consumed chatId).shows chatId messageId descriptor view)
  | told {c : Chats} (text : String) (messageId : Int) (hopen : c.barriers chatId ≠ some ⟨true⟩) :
      Acts telegram chatId (.tell text) true c
        ((c.consumed chatId).receives ⟨chatId, messageId, none, ⟨text, []⟩⟩)
  | failedPast {c : Chats} (text : String) (hfails : ¬ telegram.Delivers) :
      Acts telegram chatId (.tellPast text) false c c
  | toldPast {c : Chats} (text : String) (messageId : Int) :
      Acts telegram chatId (.tellPast text) true c (c.receives ⟨chatId, messageId, none, ⟨text, []⟩⟩)
  | toast {c : Chats} (ok : Bool) : Acts telegram chatId .toast ok c c
  | session {c : Chats} (session : Option CreationSession) :
      Acts telegram chatId (.session session) true c (c.setSession chatId session)
  | interaction {c : Chats} (session : Option TaskInteractionSession) :
      Acts telegram chatId (.interaction session) true c (c.setInteraction chatId session)
  | selection {c : Chats} (selection : Option PendingAssigneeSelection) :
      Acts telegram chatId (.selection selection) true c (c.setSelection chatId selection)

/-- The handler is the deed, in the chat. -/
abbrev Performing (bot : Bot) (chatId : Int) (d : Deed) {α : Type} (h : Handler α) : Prop :=
  ∀ w, Does (Deed.Acts bot.telegram chatId) World.chats d h w

/-- The handler plays one of the scripts in the chat. -/
abbrev Plays (bot : Bot) (chatId : Int) (S : List Deed → Prop) {α : Type} (h : Handler α) (w : World) : Prop :=
  Performs (Deed.Acts bot.telegram chatId) World.chats S h w

/-- The handler is the deed, which does not fail. -/
abbrev Storing (bot : Bot) (chatId : Int) (d : Deed) {α : Type} (h : Handler α) : Prop :=
  Always (Deed.Acts bot.telegram chatId) World.chats d h

/-- The handler leaves the chats alone. -/
abbrev LeavesChats {α : Type} (h : Handler α) : Prop := Silent World.chats h

/-! ## The barrier -/

section

variable {bot : Bot} {chatId : Int} {w : World}

theorem consume_spent (h : w.currentBarriers chatId = some ⟨true⟩) :
    exec (tryConsumeUpdateBarrier chatId) w = (.ok false, w) := by
  have hsame : Function.update w.currentBarriers chatId (some ⟨true⟩) = w.currentBarriers := by
    rw [← h, Function.update_eq_self]
  unfold tryConsumeUpdateBarrier
  rw [Effects.exec_bind_ok (Effects.exec_get w), h]
  show ((Except.ok false : Except RequestError Bool),
    { w with currentBarriers := Function.update w.currentBarriers chatId (some ⟨true⟩) }) = _
  rw [hsame]

theorem consume_open (h : w.currentBarriers chatId ≠ some ⟨true⟩) :
    exec (tryConsumeUpdateBarrier chatId) w = (.ok true, w.consumed chatId) := by
  refine tryConsume_fresh fun barrier hbarrier => ?_
  obtain ⟨spent⟩ := barrier
  cases spent with
  | false => rfl
  | true => exact absurd hbarrier h

/-- A new message: it is shown, or Telegram has failed. -/
theorem sendNewScreen_cases (bot : Bot) (chatId : Int) (descriptor : ScreenDescriptor) (view : ScreenView) (w : World) :
    (∃ error, (exec (sendNewScreen bot.telegram chatId descriptor view) w).1 = .error error ∧
        ¬ bot.telegram.Delivers ∧
        (exec (sendNewScreen bot.telegram chatId descriptor view) w).2.chats = w.chats) ∨
      ∃ messageId, (exec (sendNewScreen bot.telegram chatId descriptor view) w).1 = .ok () ∧
        (exec (sendNewScreen bot.telegram chatId descriptor view) w).2.chats =
          w.chats.shows chatId messageId descriptor view := by
  have hrequest : exec (request fun n => bot.telegram.sendMessage n chatId view) w =
      (.ok (bot.telegram.sendMessage w.requests chatId view), { w with requests := w.requests + 1 }) := rfl
  unfold sendNewScreen
  rw [Effects.exec_bind_ok hrequest]
  cases hsend : bot.telegram.sendMessage w.requests chatId view with
  | error error =>
    refine .inl ⟨error, rfl, fun h => ?_, rfl⟩
    obtain ⟨messageId, hok⟩ := h.send w.requests chatId view
    rw [hsend] at hok
    cases hok
  | ok messageId => exact .inr ⟨messageId, rfl, rfl⟩

theorem sendFreshScreen_does (descriptor : ScreenDescriptor) (view : ScreenView) :
    Performing bot chatId (.render descriptor view) (sendFreshScreen bot chatId descriptor view) := by
  intro w
  unfold Does sendFreshScreen
  by_cases hspent : w.currentBarriers chatId = some ⟨true⟩
  · rw [Effects.exec_bind_ok (consume_spent hspent), if_neg Bool.false_ne_true]
    exact .suppressed rfl hspent
  · rw [Effects.exec_bind_ok (consume_open hspent), if_pos rfl]
    rcases sendNewScreen_cases bot chatId descriptor view (w.consumed chatId) with
      ⟨error, hanswer, hfails, hchats⟩ | ⟨messageId, hanswer, hchats⟩
    · rw [hanswer, hchats]
      exact .failed rfl hspent hfails
    · rw [hanswer, hchats]
      exact .rendered descriptor view messageId hspent

/-- An edit: done, refused in favour of a new message, or Telegram has failed. -/
theorem tryEditScreen_acts (bot : Bot) (chatId messageId : Int) (descriptor : ScreenDescriptor) (view : ScreenView) (w : World) :
    ∃ r w', exec (tryEditScreen bot.telegram chatId messageId descriptor view) w = (r, w') ∧
      ((∃ error, r = .error error ∧ ¬ bot.telegram.Delivers ∧ w'.chats = w.chats) ∨
        (r = .ok .fallbackRequired ∧ w'.chats = w.chats) ∨
        ((r = .ok .edited ∨ r = .ok .noChange) ∧
          w'.chats = w.chats.receives ⟨chatId, messageId, some descriptor, view⟩)) := by
  have hrequest : exec (request fun n => bot.telegram.editMessageText n chatId messageId view) w =
      (.ok (bot.telegram.editMessageText w.requests chatId messageId view),
        { w with requests := w.requests + 1 }) := rfl
  unfold tryEditScreen
  rw [Effects.exec_bind_ok hrequest]
  cases hedit : bot.telegram.editMessageText w.requests chatId messageId view with
  | ok _ => exact ⟨_, _, rfl, .inr (.inr ⟨.inl rfl, rfl⟩)⟩
  | error error =>
    simp only
    by_cases hmodified : isMessageNotModifiedError error = true
    · rw [if_pos hmodified]
      exact ⟨_, _, rfl, .inr (.inr ⟨.inr rfl, rfl⟩)⟩
    rw [if_neg hmodified]
    by_cases hfallback : isEditFallbackError error = true
    · rw [if_pos hfallback]
      exact ⟨_, _, rfl, .inr (.inl ⟨rfl, rfl⟩)⟩
    · rw [if_neg hfallback]
      refine ⟨_, _, rfl, .inl ⟨error, rfl, fun h => ?_, rfl⟩⟩
      rcases h.edit _ _ _ _ _ hedit with hm | hf
      · exact hmodified hm
      · exact hfallback hf

theorem sendScreen_does (descriptor : ScreenDescriptor) (view : ScreenView) :
    Performing bot chatId (.render descriptor view) (sendScreen bot.telegram chatId descriptor view) := by
  intro w
  unfold Does sendScreen
  by_cases hspent : w.currentBarriers chatId = some ⟨true⟩
  · rw [Effects.exec_bind_ok (consume_spent hspent), if_neg Bool.false_ne_true]
    exact .suppressed rfl hspent
  rw [Effects.exec_bind_ok (consume_open hspent), if_pos rfl, Effects.exec_bind_ok (Effects.exec_get _)]
  have hnew : ∀ w₁ : World, w₁.chats = (w.consumed chatId).chats → Deed.Acts bot.telegram chatId
      (.render descriptor view) (exec (sendNewScreen bot.telegram chatId descriptor view) w₁).1.isOk
      w.chats (exec (sendNewScreen bot.telegram chatId descriptor view) w₁).2.chats := by
    intro w₁ hw₁
    rcases sendNewScreen_cases bot chatId descriptor view w₁ with
      ⟨error, hanswer, hfails, hchats⟩ | ⟨messageId, hanswer, hchats⟩
    · rw [hanswer, hchats, hw₁]
      exact .failed rfl hspent hfails
    · rw [hanswer, hchats, hw₁]
      exact .rendered descriptor view messageId hspent
  cases (w.consumed chatId).activeScreens chatId with
  | none => exact hnew _ rfl
  | some activeScreen =>
    obtain ⟨r, w₁, hrun, hcases⟩ := tryEditScreen_acts bot chatId
      activeScreen.messageId descriptor view (w.consumed chatId)
    simp only
    rcases hcases with ⟨error, rfl, hfails, hchats⟩ | ⟨rfl, hchats⟩ | ⟨hedited, hchats⟩
    · rw [Effects.exec_bind_error hrun, hchats]
      exact .failed rfl hspent hfails
    · rw [Effects.exec_bind_ok hrun]
      exact hnew w₁ hchats
    · have hset : ∀ w₁ : World, w₁.chats = (w.consumed chatId).chats.receives
          ⟨chatId, activeScreen.messageId, some descriptor, view⟩ →
          Deed.Acts bot.telegram chatId (.render descriptor view) true w.chats
            (exec (setActiveScreen chatId ⟨activeScreen.messageId, descriptor⟩) w₁).2.chats := by
        intro w₁ hw₁
        have hshown : (exec (setActiveScreen chatId ⟨activeScreen.messageId, descriptor⟩) w₁).2.chats =
            (w.consumed chatId).chats.shows chatId activeScreen.messageId descriptor view := by
          show { w₁.chats with
            screens := Function.update w₁.chats.screens chatId (some ⟨activeScreen.messageId, descriptor⟩) } = _
          rw [hw₁]
          rfl
        rw [hshown]
        exact .rendered descriptor view activeScreen.messageId hspent
      rcases hedited with rfl | rfl
      · rw [Effects.exec_bind_ok hrun]
        exact hset w₁ hchats
      · rw [Effects.exec_bind_ok hrun]
        exact hset w₁ hchats

theorem sendPlain_cases (bot : Bot) (chatId : Int) (text : String) (w : World) :
    (∃ error, (exec (sendPlain bot chatId text) w).1 = .error error ∧ ¬ bot.telegram.Delivers ∧
        (exec (sendPlain bot chatId text) w).2.chats = w.chats) ∨
      ∃ messageId, (exec (sendPlain bot chatId text) w).1 = .ok () ∧
        (exec (sendPlain bot chatId text) w).2.chats =
          w.chats.receives ⟨chatId, messageId, none, ⟨text, []⟩⟩ := by
  have hrequest : exec (request fun n => bot.telegram.sendMessage n chatId ⟨text, []⟩) w =
      (.ok (bot.telegram.sendMessage w.requests chatId ⟨text, []⟩),
        { w with requests := w.requests + 1 }) := rfl
  unfold sendPlain
  rw [Effects.exec_bind_ok hrequest]
  cases hsend : bot.telegram.sendMessage w.requests chatId ⟨text, []⟩ with
  | error error =>
    refine .inl ⟨error, rfl, fun h => ?_, rfl⟩
    obtain ⟨messageId, hok⟩ := h.send w.requests chatId ⟨text, []⟩
    rw [hsend] at hok
    cases hok
  | ok messageId => exact .inr ⟨messageId, rfl, rfl⟩

theorem sendPlain_does (text : String) : Performing bot chatId (.tellPast text) (sendPlain bot chatId text) := by
  intro w
  unfold Does
  rcases sendPlain_cases bot chatId text w with
    ⟨error, hanswer, hfails, hchats⟩ | ⟨messageId, hanswer, hchats⟩
  · rw [hanswer, hchats]
    exact .failedPast text hfails
  · rw [hanswer, hchats]
    exact .toldPast text messageId

theorem sendError_does (error : AppError) :
    Performing bot chatId (.tell (errorText error)) (sendError bot chatId error) := by
  intro w
  unfold Does sendError
  by_cases hspent : w.currentBarriers chatId = some ⟨true⟩
  · rw [Effects.exec_bind_ok (consume_spent hspent), if_neg Bool.false_ne_true]
    exact .suppressed rfl hspent
  · rw [Effects.exec_bind_ok (consume_open hspent), if_pos rfl]
    rcases sendPlain_cases bot chatId (errorText error) (w.consumed chatId) with
      ⟨error, hanswer, hfails, hchats⟩ | ⟨messageId, hanswer, hchats⟩
    · rw [hanswer, hchats]
      exact .failed rfl hspent hfails
    · rw [hanswer, hchats]
      exact .told _ messageId hspent

end

theorem answerCallback_does {bot : Bot} {chatId : Int} (callbackId text : String) :
    Performing bot chatId .toast (answerCallback bot callbackId text) := by
  intro w
  unfold Does
  cases hrun : exec (answerCallback bot callbackId text) w with
  | mk r w' =>
    have hrequest : exec (request fun n => bot.telegram.answerCallbackQuery n callbackId text) w =
        (.ok (bot.telegram.answerCallbackQuery w.requests callbackId text),
          { w with requests := w.requests + 1 }) := rfl
    unfold answerCallback at hrun
    rw [Effects.exec_bind_ok hrequest] at hrun
    have hchats : w'.chats = w.chats := by
      cases hanswer : bot.telegram.answerCallbackQuery w.requests callbackId text with
      | ok _ =>
        rw [hanswer] at hrun
        cases hrun
        rfl
      | error error =>
        rw [hanswer] at hrun
        cases hrun
        rfl
    rw [hchats]
    exact .toast _

/-! ## Stores -/

section

variable (bot : Bot) (chatId : Int)

theorem setCreationSession_stores (session : CreationSession) :
    Storing bot chatId (.session (some session)) (setCreationSession chatId session) :=
  fun _ => ⟨_, _, rfl, .session _⟩

theorem clearCreationSession_stores : Storing bot chatId (.session none) (clearCreationSession chatId) :=
  fun _ => ⟨_, _, rfl, .session _⟩

theorem setTaskInteraction_stores (session : TaskInteractionSession) :
    Storing bot chatId (.interaction (some session)) (setTaskInteraction chatId session) :=
  fun _ => ⟨_, _, rfl, .interaction _⟩

theorem clearTaskInteraction_stores :
    Storing bot chatId (.interaction none) (clearTaskInteraction chatId) :=
  fun _ => ⟨_, _, rfl, .interaction _⟩

theorem setCreateSelection_stores (message : IncomingMessage) (ids : List Int) (allow : Bool) :
    Storing bot chatId (.selection (some (.create message ids allow)))
      (setCreateSelection chatId message ids allow) :=
  fun _ => ⟨_, _, rfl, .selection _⟩

theorem setReassignSelection_stores (taskUid : Uuid) (origin : TaskListOrigin) (query : String)
    (ids : List Int) :
    Storing bot chatId (.selection (some (.reassign taskUid origin query ids)))
      (setReassignSelection chatId taskUid origin query ids) :=
  fun _ => ⟨_, _, rfl, .selection _⟩

theorem clearAssigneeSelection_stores :
    Storing bot chatId (.selection none) (clearAssigneeSelection chatId) :=
  fun _ => ⟨_, _, rfl, .selection _⟩

end

/-! ## What leaves the chats alone -/

theorem ask_silent (bot : Bot) (k : Nat) (call : RuntimeCall) : LeavesChats (ask bot k call) :=
  fun _ => ⟨_, _, rfl, rfl⟩

theorem useCase_silent {α : Type} (plan : Site → Fault AppError) (p : Proc α) :
    LeavesChats (useCase plan p) := fun _ => ⟨_, _, rfl, rfl⟩

theorem query_silent {α : Type} (answer : Db → AppResult α) : LeavesChats (query answer) :=
  fun _ => ⟨_, _, rfl, rfl⟩

theorem isEnabled_silent (flag : FeatureFlag) : LeavesChats (isEnabled flag) := fun _ => ⟨_, _, rfl, rfl⟩

theorem setRegistrationLink_silent (chatId : Int) (ids : List Int) (allow : Bool) :
    LeavesChats (setRegistrationLink chatId ids allow) := fun _ => ⟨_, _, rfl, rfl⟩

theorem buildConfirmationBody_silent (bot : Bot) (actor : User) (chatId : Int) (draft : VoiceTaskDraft) :
    LeavesChats (VoiceCreateCoordinator.buildConfirmationBody bot actor chatId draft) := fun w => by
  obtain ⟨preview, db, hrun⟩ := exec_buildConfirmationBody bot actor chatId draft w
  exact ⟨_, _, hrun, rfl⟩

theorem clearRegistrationLink_silent (chatId : Int) : LeavesChats (clearRegistrationLink chatId) :=
  fun _ => ⟨_, _, rfl, rfl⟩

end TaskBot
