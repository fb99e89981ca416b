import TaskBot.Presentation.AdminNonceStore
import TaskBot.Presentation.RuntimeCalls

/-!
# Screens of a chat

The bot shows one screen a chat: it edits the message of the active screen, and
sends a new message when there is none or Telegram refuses the edit.  While an
update is handled, its barrier lets the first effect through and suppresses all
others.

* `sendScreen_suppressed`: behind a spent barrier nothing happens;
* `sendScreen_shows`: otherwise the screen is shown, and the barrier is spent.
-/

namespace TaskBot

open Sql Calls

/-! ## Screens and sessions -/

inductive GuidedTaskStep where
  | assignee | description | deadline | confirm
deriving DecidableEq, Repr

inductive VoiceTaskStep where
  | confirm | editTranscript
deriving DecidableEq, Repr

inductive TaskInteractionKind where
  | comment | blocker | reassign
deriving DecidableEq, Repr

inductive StatsScope where
  | personal | team
deriving DecidableEq, Repr

inductive ScreenDescriptor where
  | unknown
  /-- Shown while a slow operation runs, until the next real screen replaces it. -/
  | processing
  | registrationLinking | onboardingFirstName | onboardingLastName
  | mainMenu | help | settings | createMenu | quickCreate
  | guidedStep (step : GuidedTaskStep)
  | guidedAssigneeOptions
  | voiceCreate (step : VoiceTaskStep)
  | taskList (origin : TaskListOrigin)
  | taskDetail (taskUid : Uuid) (mode : TaskCardMode) (origin : TaskListOrigin)
  | cancelConfirmation (taskUid : Uuid) (origin : TaskListOrigin)
  | taskInteractionPrompt (taskUid : Uuid) (origin : TaskListOrigin) (kind : TaskInteractionKind)
  | taskCreationResult (taskUid : Option Uuid)
  | deliveryHelp (taskUid : Uuid) (origin : TaskListOrigin)
  | stats (scope : StatsScope)
  | syncEmployeesResult
  | adminMenu | adminUsers
  | adminUserDetails (userId : Int)
  | adminConfirm (nonce : String)
  | adminAudit | adminSecurityAudit | adminFeatures
deriving DecidableEq, Repr

structure ActiveScreenState where
  messageId : Int
  descriptor : ScreenDescriptor
deriving DecidableEq, Repr

structure GuidedTaskDraft where
  submissionKey : Uuid
  assignee : Option String
  resolvedEmployeeId : Option Int
  description : Option String
  deadline : Option String
  step : GuidedTaskStep
deriving DecidableEq, Repr

structure VoiceTaskDraft where
  sourceMessageKey : String
  transcript : String
  step : VoiceTaskStep
  truncated : Bool
deriving DecidableEq, Repr

def VoiceTaskDraft.new (sourceMessageKey transcript : String) : VoiceTaskDraft :=
  ⟨sourceMessageKey, transcript, .confirm, false⟩

def VoiceTaskDraft.withTruncation (draft : VoiceTaskDraft) (truncated : Bool) : VoiceTaskDraft :=
  { draft with truncated }

inductive CreationSession where
  | quickCapture
  | guided (draft : GuidedTaskDraft)
  | voice (draft : VoiceTaskDraft)
deriving DecidableEq, Repr

structure TaskInteractionSession where
  taskUid : Uuid
  origin : TaskListOrigin
  kind : TaskInteractionKind
deriving DecidableEq, Repr

inductive PendingAssigneeSelection where
  | create (message : IncomingMessage) (candidateEmployeeIds : List Int) (allowUnassigned : Bool)
  | reassign (taskUid : Uuid) (origin : TaskListOrigin) (originalQuery : String)
      (candidateEmployeeIds : List Int)
deriving DecidableEq, Repr

structure PendingRegistrationLink where
  candidateIds : List Int
  allowContinueUnlinked : Bool
deriving DecidableEq, Repr

/-- One token an update: who consumes it first may render. -/
structure UxBarrier where
  spent : Bool
deriving DecidableEq, Repr

def UxBarrier.new : UxBarrier := ⟨false⟩

def UxBarrier.tryConsume (barrier : UxBarrier) : Bool × UxBarrier := (!barrier.spent, ⟨true⟩)

/-! ## Updates seen before -/

structure DedupKey where
  chatId : Int
  token : Int
deriving DecidableEq, Repr

/-- The keys of the last updates; `order` has the oldest one first. -/
structure UpdateDedup where
  seen : DedupKey → Bool
  order : List DedupKey

def UpdateDedup.new : UpdateDedup := ⟨fun _ => false, []⟩

def updateDedupCapacity : Nat := 2048

/-- A key that is there already is a duplicate. -/
def UpdateDedup.observe (dedup : UpdateDedup) (key : DedupKey) : Bool × UpdateDedup :=
  if dedup.seen key then (false, dedup)
  else
    let kept : UpdateDedup :=
      if updateDedupCapacity ≤ dedup.order.length then
        match dedup.order with
        | oldest :: order => ⟨Function.update dedup.seen oldest false, order⟩
        | [] => dedup
      else dedup
    (true, ⟨Function.update kept.seen key true, kept.order ++ [key]⟩)

/-! ## The world of a handler -/

/-- What a message shows. -/
structure ScreenView where
  text : String
  keyboard : List (List TelegramCallback)
deriving DecidableEq, Repr

/-- A message that was sent or edited, with the kind of its screen if it is one. -/
structure SentMessage where
  chatId : Int
  messageId : Int
  screen : Option ScreenDescriptor
  view : ScreenView
deriving DecidableEq, Repr

/-- What a handler does beside showing screens. -/
inductive Happening where
  | called (call : RuntimeCall)
  /-- A creation waits for the choice of an assignee. -/
  | pended (chatId : Int) (message : IncomingMessage)
  | issued (actorUserId : Int) (nonce : String) (action : PendingAdminAction) (issuedAt now : Instant)
  | redeemed (actorUserId : Int) (nonce : String) (action : PendingAdminAction) (now : Instant)
  | refused (actorUserId : Int) (nonce : String) (error : NonceError) (now : Instant)
deriving DecidableEq, Repr

/-- The database and the flags, the stores of the runtime by chat, and what the messages of the
chats show; `requests` counts the requests to Telegram, `sent` has the messages in the order in which
they were sent or edited, and `log` tells what has happened.  No handler reads these three. -/
structure World where
  db : Db
  sharedFlags : FeatureFlagRegistry
  activeScreens : Int → Option ActiveScreenState
  creationSessions : Int → Option CreationSession
  taskInteractions : Int → Option TaskInteractionSession
  assigneeSelections : Int → Option PendingAssigneeSelection
  registrationLinks : Int → Option PendingRegistrationLink
  adminNonces : AdminNonceStore
  updateDedup : UpdateDedup
  currentBarriers : Int → Option UxBarrier
  messages : Int → Int → Option ScreenView
  requests : Nat
  sent : List SentMessage
  log : List Happening

/-- What the use cases work on. -/
def World.process (w : World) : Process := ⟨w.db, w.sharedFlags⟩

/-- An error of a request: the text of an API error, or anything else. -/
inductive RequestError where
  | api (text : String)
  | other (text : String)
deriving DecidableEq, Repr

/-- What Telegram answers to the `n`-th request: an edit of a message, a new message, whose id it
returns, or the toast of a pressed button. -/
structure Telegram where
  editMessageText : Nat → Int → Int → ScreenView → Except RequestError Unit
  sendMessage : Nat → Int → ScreenView → Except RequestError Int
  answerCallbackQuery : Nat → String → String → Except RequestError Unit

abbrev Handler := ExceptT RequestError (StateM World)

/-- The answer of a handler and the world it leaves. -/
def Handler.exec {α : Type} (h : Handler α) (w : World) : Except RequestError α × World :=
  StateT.run (ExceptT.run h) w

section

variable {α β : Type} {w w' : World}

theorem exec_bind_ok {h : Handler α} {f : α → Handler β} {a : α} (ha : h.exec w = (.ok a, w')) :
    (h >>= f).exec w = (f a).exec w' := by
  unfold Handler.exec at ha ⊢
  rw [ExceptT.run_bind, StateT.run_bind, ha]
  rfl

@[simp] theorem exec_pure (a : α) (w : World) : (pure a : Handler α).exec w = (.ok a, w) := rfl

@[simp] theorem exec_get (w : World) : (get : Handler World).exec w = (.ok w, w) := rfl

@[simp] theorem exec_modify (f : World → World) (w : World) :
    (modify f : Handler PUnit).exec w = (.ok ⟨⟩, f w) := rfl

end

/-- A use case under its failure plan; the handler sees its error as a value. -/
def useCase {α : Type} (plan : Site → Fault AppError) (p : Proc α) : Handler (AppResult α) := do
  let w ← get
  let o := p.run plan w.db
  modify fun w => { w with db := o.2 }
  pure o.1

def setActiveScreen (chatId : Int) (state : ActiveScreenState) : Handler Unit :=
  modify fun w => { w with activeScreens := Function.update w.activeScreens chatId (some state) }

def setCreationSession (chatId : Int) (session : CreationSession) : Handler Unit :=
  modify fun w => { w with creationSessions := Function.update w.creationSessions chatId (some session) }

def clearAssigneeSelection (chatId : Int) : Handler Unit :=
  modify fun w => { w with assigneeSelections := Function.update w.assigneeSelections chatId none }

def World.installBarrier (w : World) (chatId : Int) : World :=
  { w with currentBarriers := Function.update w.currentBarriers chatId (some .new) }

def World.uninstallBarrier (w : World) (chatId : Int) : World :=
  { w with currentBarriers := Function.update w.currentBarriers chatId none }

/-! ## Transport -/

def toAsciiLowercase (text : String) : String := UserRepository.sqlLower text

def containsText (text part : String) : Bool := part.toList <:+: text.toList

def isMessageNotModifiedError : RequestError → Bool
  | .api text => containsText (toAsciiLowercase text) "message is not modified"
  | .other _ => false

def isEditFallbackError : RequestError → Bool
  | .api text =>
      let text := toAsciiLowercase text
      containsText text "message to edit not found" ||
        containsText text ("message can" ++ String.singleton (Char.ofNat 39) ++ "t be edited") ||
        containsText text "message can not be edited" ||
        containsText text "there is no text in the message to edit"
  | .other _ => false

inductive ScreenRenderResult where
  | edited | noChange | fallbackRequired
deriving DecidableEq, Repr

/-- One request to Telegram. -/
def request {α : Type} (answer : Nat → Except RequestError α) : Handler (Except RequestError α) := do
  let w ← get
  modify fun w => { w with requests := w.requests + 1 }
  pure (answer w.requests)

/-- The message shows the view from now on. -/
def display (chatId messageId : Int) (screen : Option ScreenDescriptor) (view : ScreenView) :
    Handler Unit :=
  modify fun w => { w with
    messages := Function.update w.messages chatId
      (Function.update (w.messages chatId) messageId (some view))
    sent := w.sent ++ [⟨chatId, messageId, screen, view⟩] }

/-- Without a barrier, outside of an update, everything may render. -/
def tryConsumeUpdateBarrier (chatId : Int) : Handler Bool := do
  let w ← get
  match w.currentBarriers chatId with
  | none => pure true
  | some barrier => do
      modify fun w => { w with
        currentBarriers := Function.update w.currentBarriers chatId (some barrier.tryConsume.2) }
      pure barrier.tryConsume.1

section

variable (telegram : Telegram)

/-- Telegram calls an edit "not modified" when the message shows the view already. -/
def tryEditScreen (chatId messageId : Int) (descriptor : ScreenDescriptor) (view : ScreenView) :
    Handler ScreenRenderResult := do
  let answer ← request fun n => telegram.editMessageText n chatId messageId view
  match answer with
  | .ok _ => do
      display chatId messageId (some descriptor) view
      pure .edited
  | .error error =>
      if isMessageNotModifiedError error then do
        display chatId messageId (some descriptor) view
        pure .noChange
      else if isEditFallbackError error then pure .fallbackRequired
      else throw error

/-- The new message at the end of `send_screen`. -/
def sendNewScreen (chatId : Int) (descriptor : ScreenDescriptor) (view : ScreenView) : Handler Unit := do
  let answer ← request fun n => telegram.sendMessage n chatId view
  match answer with
  | .ok messageId => do
      display chatId messageId (some descriptor) view
      setActiveScreen chatId ⟨messageId, descriptor⟩
  | .error error => throw error

def sendScreen (chatId : Int) (descriptor : ScreenDescriptor) (view : ScreenView) : Handler Unit := do
  let allowed ← tryConsumeUpdateBarrier chatId
  if allowed then do
    let w ← get
    match w.activeScreens chatId with
    | some activeScreen => do
        let result ← tryEditScreen telegram chatId activeScreen.messageId descriptor view
        match result with
        | .edited | .noChange => setActiveScreen chatId ⟨activeScreen.messageId, descriptor⟩
        | .fallbackRequired => sendNewScreen telegram chatId descriptor view
    | none => sendNewScreen telegram chatId descriptor view
  else pure ()

/-- No transport error: an edit is done, needless or refused in favour of a new message, and a
message is sent. -/
structure Telegram.Delivers : Prop where
  edit : ∀ n chatId messageId view error,
    telegram.editMessageText n chatId messageId view = .error error →
      isMessageNotModifiedError error = true ∨ isEditFallbackError error = true
  send : ∀ n chatId view, ∃ messageId, telegram.sendMessage n chatId view = .ok messageId

/-- The active screen of the chat is of this kind, and its message shows the view. -/
def World.Shows (w : World) (chatId : Int) (descriptor : ScreenDescriptor) (view : ScreenView) : Prop :=
  ∃ messageId, w.activeScreens chatId = some ⟨messageId, descriptor⟩ ∧
    w.messages chatId messageId = some view

/-- The chat shows the same in both worlds. -/
structure SameScreens (chatId : Int) (w w' : World) : Prop where
  active : w'.activeScreens chatId = w.activeScreens chatId
  messages : w'.messages chatId = w.messages chatId

variable {telegram} {chatId : Int} {w : World} (descriptor : ScreenDescriptor) (view : ScreenView)

/-- **Behind a spent barrier nothing happens.** -/
theorem sendScreen_suppressed (h : w.currentBarriers chatId = some ⟨true⟩) :
    (sendScreen telegram chatId descriptor view).exec w = (.ok (), w) := by
  have hconsume : (tryConsumeUpdateBarrier chatId).exec w = (.ok false, w) := by
    have hsame : Function.update w.currentBarriers chatId (some ⟨true⟩) = w.currentBarriers := by
      rw [← h, Function.update_eq_self]
    unfold tryConsumeUpdateBarrier
    rw [exec_bind_ok (exec_get w), h]
    show ((Except.ok false : Except RequestError Bool),
      { w with currentBarriers := Function.update w.currentBarriers chatId (some ⟨true⟩) }) = _
    rw [hsame]
  unfold sendScreen
  rw [exec_bind_ok hconsume]
  rfl

/-- The barrier of the chat, if it has one, is spent. -/
def World.consumed (w : World) (chatId : Int) : World :=
  { w with
    currentBarriers :=
      Function.update w.currentBarriers chatId ((w.currentBarriers chatId).map fun _ => ⟨true⟩) }

theorem tryConsume_fresh (h : ∀ barrier, w.currentBarriers chatId = some barrier → barrier.spent = false) :
    (tryConsumeUpdateBarrier chatId).exec w = (.ok true, w.consumed chatId) := by
  unfold tryConsumeUpdateBarrier World.consumed
  rw [exec_bind_ok (exec_get w)]
  cases hb : w.currentBarriers chatId with
  | none =>
    have hsame : Function.update w.currentBarriers chatId none = w.currentBarriers := by
      rw [← hb, Function.update_eq_self]
    rw [Option.map_none, hsame]
    rfl
  | some barrier =>
    have hconsume : barrier.tryConsume.1 = true := by
      show (!barrier.spent) = true
      rw [h barrier hb]
      rfl
    show ((Except.ok barrier.tryConsume.1 : Except RequestError Bool), _) = _
    rw [hconsume]
    rfl

theorem sendNewScreen_shows (hdelivers : telegram.Delivers) : ∃ w',
    (sendNewScreen telegram chatId descriptor view).exec w = (.ok (), w') ∧
      w'.Shows chatId descriptor view ∧ w'.currentBarriers = w.currentBarriers := by
  obtain ⟨messageId, hsend⟩ := hdelivers.send w.requests chatId view
  have hrequest : (request fun n => telegram.sendMessage n chatId view).exec w =
      (.ok (.ok messageId), { w with requests := w.requests + 1 }) := by
    rw [← hsend]
    rfl
  unfold sendNewScreen
  rw [exec_bind_ok hrequest]
  refine ⟨_, rfl, ⟨messageId, Function.update_self .., ?_⟩, rfl⟩
  simp

/-- An edit ends with the view in place, or asks for a new message. -/
theorem tryEditScreen_cases (hdelivers : telegram.Delivers) (messageId : Int) : ∃ result w',
    (tryEditScreen telegram chatId messageId descriptor view).exec w = (.ok result, w') ∧
      w'.currentBarriers = w.currentBarriers ∧
      (result ≠ .fallbackRequired → w'.messages chatId messageId = some view) := by
  have hshown : ∀ w₀ : World, (Function.update w₀.messages chatId
      (Function.update (w₀.messages chatId) messageId (some view))) chatId messageId = some view := by
    intro w₀
    rw [Function.update_self, Function.update_self]
  have hrequest : (request fun n => telegram.editMessageText n chatId messageId view).exec w =
      (.ok (telegram.editMessageText w.requests chatId messageId view),
        { w with requests := w.requests + 1 }) := rfl
  unfold tryEditScreen
  rw [exec_bind_ok hrequest]
  cases hedit : telegram.editMessageText w.requests chatId messageId view with
  | ok u => exact ⟨_, _, rfl, rfl, fun _ => hshown _⟩
  | error error =>
    simp only
    by_cases hmodified : isMessageNotModifiedError error = true
    · rw [if_pos hmodified]
      exact ⟨_, _, rfl, rfl, fun _ => hshown _⟩
    have hfallback : isEditFallbackError error = true :=
      (hdelivers.edit _ _ _ _ _ hedit).resolve_left hmodified
    rw [if_neg hmodified, if_pos hfallback]
    exact ⟨_, _, rfl, rfl, fun h => absurd rfl h⟩

/-- **A screen that may render is shown, and the barrier is spent.** -/
theorem sendScreen_shows (hdelivers : telegram.Delivers)
    (hbarrier : ∀ barrier, w.currentBarriers chatId = some barrier → barrier.spent = false) : ∃ w',
    (sendScreen telegram chatId descriptor view).exec w = (.ok (), w') ∧
      w'.Shows chatId descriptor view ∧
      w'.currentBarriers chatId = (w.currentBarriers chatId).map fun _ => ⟨true⟩ := by
  have hspent : (w.consumed chatId).currentBarriers chatId =
      (w.currentBarriers chatId).map fun _ => ⟨true⟩ := Function.update_self ..
  have hnew : ∀ w₀ : World, w₀.currentBarriers = (w.consumed chatId).currentBarriers → ∃ w',
      (sendNewScreen telegram chatId descriptor view).exec w₀ = (.ok (), w') ∧
        w'.Shows chatId descriptor view ∧
        w'.currentBarriers chatId = (w.currentBarriers chatId).map fun _ => ⟨true⟩ := by
    intro w₀ hw₀
    obtain ⟨w', hrun, hshows, hkeep⟩ := sendNewScreen_shows (w := w₀) descriptor view hdelivers
    exact ⟨w', hrun, hshows, by rw [hkeep, hw₀, hspent]⟩
  unfold sendScreen
  rw [exec_bind_ok (tryConsume_fresh hbarrier), if_pos rfl, exec_bind_ok (exec_get _)]
  cases (w.consumed chatId).activeScreens chatId with
  | none => exact hnew _ rfl
  | some activeScreen =>
    obtain ⟨result, w₁, hedit, hkeep, hview⟩ :=
      tryEditScreen_cases (w := w.consumed chatId) descriptor view hdelivers activeScreen.messageId
    simp only
    rw [exec_bind_ok hedit]
    -- the screen stays in its message unless Telegram wants a new one
    have hstays : result ≠ .fallbackRequired → ∃ w',
        (setActiveScreen chatId ⟨activeScreen.messageId, descriptor⟩).exec w₁ = (.ok (), w') ∧
          w'.Shows chatId descriptor view ∧
          w'.currentBarriers chatId = (w.currentBarriers chatId).map fun _ => ⟨true⟩ := by
      intro hresult
      refine ⟨_, rfl, ⟨_, Function.update_self .., hview hresult⟩, ?_⟩
      show w₁.currentBarriers chatId = _
      rw [hkeep, hspent]
    cases result with
    | edited => exact hstays nofun
    | noChange => exact hstays nofun
    | fallbackRequired => exact hnew w₁ hkeep

end

end TaskBot
