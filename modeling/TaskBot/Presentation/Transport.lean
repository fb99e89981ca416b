import Mathlib.Data.Nat.Pairing
import TaskBot.Lib.Effects
import TaskBot.Lib.Traces
import TaskBot.Presentation.VoiceCreate

/-!
# What handlers are made of

The requests to Telegram, the stores of the chats, and the calls of use cases
(`ask`).  A handler that throws keeps what it has done, so what it does is stated
for every outcome:

    Touches may h w   :=   what h does in w is in the log, allowed by may,
                           and explains how database and nonces have changed

`Quiet h` says that `h` does nothing of the kind in any world.  Each operation has
its lemma, and a handler is put together from these.
-/

namespace TaskBot

open Sql Calls

/-! ## Footprints -/

/-- What is changed by use cases and confirmations only. -/
structure Holdings where
  process : Process
  nonces : AdminNonceStore

def World.holdings (w : World) : Holdings := ⟨w.process, w.adminNonces⟩

def Happening.Step : Happening → Holdings → Holdings → Prop
  | .called call, s, s' => s'.nonces = s.nonces ∧ ∃ app clock plan,
      s'.process = ((call.program app clock).run plan s.process).2
  | .pended _ _, s, s' => s' = s
  | .issued actorUserId nonce action issuedAt now, s, s' =>
      s' = { s with nonces := s.nonces.issue issuedAt now nonce actorUserId action }
  | .redeemed actorUserId nonce action now, s, s' =>
      s.nonces.consume now actorUserId nonce = (.ok action, s'.nonces) ∧ s'.process = s.process
  | .refused actorUserId nonce error now, s, s' =>
      s.nonces.consume now actorUserId nonce = (.error error, s'.nonces) ∧ s'.process = s.process

/-- Everything that has happened is in the log and allowed, and so is every creation that has come
to wait for an assignee. -/
structure Footprint (may : Happening → Prop) (w w' : World) : Prop where
  recorded : Traces.Recorded Happening.Step World.log World.holdings may w w'
  pends : ∀ chatId message ids allow,
    w'.assigneeSelections chatId = some (.create message ids allow) →
      w.assigneeSelections chatId = some (.create message ids allow) ∨ may (.pended chatId message)

namespace Footprint

variable {may may' : Happening → Prop} {w w' w'' : World}

theorem silent (hlog : w'.log = w.log) (hheld : w'.holdings = w.holdings)
    (hsel : w'.assigneeSelections = w.assigneeSelections) : Footprint may w w' where
  recorded := .silent hlog hheld
  pends chatId message ids allow h := .inl (by rw [← hsel]; exact h)

theorem refl (w : World) : Footprint may w w := silent rfl rfl rfl

theorem trans (h : Footprint may w w') (h' : Footprint may w' w'') : Footprint may w w'' where
  recorded := h.recorded.trans h'.recorded
  pends chatId message ids allow hsel := by
    rcases h'.pends chatId message ids allow hsel with hsel' | hmay
    · exact h.pends chatId message ids allow hsel'
    · exact .inr hmay

instance : Std.Refl (Footprint may) := ⟨refl⟩

instance : IsTrans World (Footprint may) := ⟨fun _ _ _ h h' => h.trans h'⟩

theorem mono (h : Footprint may w w') (hmay : ∀ l, may l → may' l) : Footprint may' w w' where
  recorded := h.recorded.mono hmay
  pends chatId message ids allow hsel := (h.pends chatId message ids allow hsel).imp_right (hmay _)

end Footprint

/-- Started in `w`, the handler leaves an allowed footprint, whatever it answers. -/
abbrev Touches {α : Type} (may : Happening → Prop) (h : Handler α) (w : World) : Prop :=
  Effects.Moves (Footprint may) h w

/-- The handler leaves no footprint in any world. -/
def Quiet {α : Type} (h : Handler α) : Prop := ∀ may w, Touches may h w

section

variable {α β : Type} {may : Happening → Prop} {w : World}

theorem Quiet.pure (a : α) : Quiet (Pure.pure a : Handler α) := fun _ _ => Effects.Moves.pure a

theorem Quiet.throw (e : RequestError) : Quiet (throw e : Handler α) := fun _ _ => Effects.Moves.throw e

theorem Quiet.bind {h : Handler α} {f : α → Handler β} (hh : Quiet h) (hf : ∀ a, Quiet (f a)) :
    Quiet (h >>= f) := fun may w =>
  Effects.Moves.bind (hh may w) fun a s' _ => hf a may s'

theorem Quiet.get : Quiet (get : Handler World) := fun _ w => Footprint.refl w

/-- An update of the stores that are not watched. -/
theorem Quiet.modify {g : World → World} (hlog : ∀ w, (g w).log = w.log)
    (hheld : ∀ w, (g w).holdings = w.holdings)
    (hsel : ∀ w, (g w).assigneeSelections = w.assigneeSelections) :
    Quiet (modify g : Handler PUnit) :=
  fun _ w => Effects.Moves.of_modify (.silent (hlog w) (hheld w) (hsel w))

theorem Quiet.ite {c : Prop} [Decidable c] {h h' : Handler α} (hh : Quiet h) (hh' : Quiet h') :
    Quiet (if c then h else h') := by
  split
  · exact hh
  · exact hh'

/-- A quiet part first. -/
theorem Quiet.then {h : Handler α} {f : α → Handler β} (hh : Quiet h)
    (hf : ∀ a w', Effects.exec h w = (.ok a, w') → Touches may (f a) w') : Touches may (h >>= f) w :=
  Effects.Moves.bind (hh may w) hf

/-- What is quiet leaves the log alone. -/
theorem Quiet.log {h : Handler α} (hh : Quiet h) (w : World) : (Effects.exec h w).2.log = w.log := by
  obtain ⟨ls, hlog, hmay, -⟩ := (hh (fun _ => False) w).recorded
  have hnil : ls = [] := List.eq_nil_iff_forall_not_mem.mpr hmay
  rw [hlog, hnil, List.append_nil]

/-- The answer of a quiet part does not matter. -/
theorem Touches.then_quiet {h : Handler α} {f : α → Handler β} (hh : Touches may h w)
    (hf : ∀ a, Quiet (f a)) : Touches may (h >>= f) w :=
  Effects.Moves.bind hh fun a s' _ => hf a may s'

end

/-! ## Requests and screens -/

def rateLimitMessage : String :=
  "Слишком много запросов подряд. Подождите немного и попробуйте снова."

/-- What the user reads of an error. -/
def errorText (error : AppError) : String :=
  match error.kind with
  | .notFound => "Не удалось найти запрошенный объект. Возможно, он был удалён или изменился."
  | .auth =>
      if error.code = "UNAUTHORIZED" then "Недостаточно прав для выполнения этого действия."
      else "Сначала выполните /start, чтобы зарегистрировать чат."
  | .validation => "Некорректный запрос. Проверьте данные и попробуйте снова."
  | .rateLimit => rateLimitMessage
  | .conflict => "Данные уже изменились. Попробуйте обновить страницу и повторить действие."
  | _ => "Произошла ошибка. Попробуйте повторить позже."

section

variable (bot : Bot)

def sendFreshScreen (chatId : Int) (descriptor : ScreenDescriptor) (view : ScreenView) :
    Handler Unit := do
  let allowed ← tryConsumeUpdateBarrier chatId
  if allowed then sendNewScreen bot.telegram chatId descriptor view else pure ()

/-- `bot.send_message`: a message without buttons, past the barrier. -/
def sendPlain (chatId : Int) (text : String) : Handler Unit := do
  let answer ← request fun n => bot.telegram.sendMessage n chatId ⟨text, []⟩
  match answer with
  | .ok messageId => display chatId messageId none ⟨text, []⟩
  | .error error => throw error

def sendError (chatId : Int) (error : AppError) : Handler Unit := do
  let allowed ← tryConsumeUpdateBarrier chatId
  if allowed then sendPlain bot chatId (errorText error) else pure ()

def answerCallback (callbackId text : String) : Handler Unit := do
  let answer ← request fun n => bot.telegram.answerCallbackQuery n callbackId text
  match answer with
  | .ok _ => pure ()
  | .error error => throw error

end

/-! ## Stores -/

def clearCreationSession (chatId : Int) : Handler Unit :=
  modify fun w => { w with creationSessions := Function.update w.creationSessions chatId none }

def setTaskInteraction (chatId : Int) (session : TaskInteractionSession) : Handler Unit :=
  modify fun w => { w with taskInteractions := Function.update w.taskInteractions chatId (some session) }

def clearTaskInteraction (chatId : Int) : Handler Unit :=
  modify fun w => { w with taskInteractions := Function.update w.taskInteractions chatId none }

/-- `set_create`: the message waits for the choice of an assignee. -/
def setCreateSelection (chatId : Int) (message : IncomingMessage) (candidateEmployeeIds : List Int)
    (allowUnassigned : Bool) : Handler Unit :=
  modify fun w => { w with
    assigneeSelections := Function.update w.assigneeSelections chatId
      (some (.create message candidateEmployeeIds allowUnassigned))
    log := w.log ++ [.pended chatId message] }

def setReassignSelection (chatId : Int) (taskUid : Uuid) (origin : TaskListOrigin)
    (originalQuery : String) (candidateEmployeeIds : List Int) : Handler Unit :=
  modify fun w => { w with
    assigneeSelections := Function.update w.assigneeSelections chatId
      (some (.reassign taskUid origin originalQuery candidateEmployeeIds)) }

def setRegistrationLink (chatId : Int) (candidateIds : List Int) (allowContinueUnlinked : Bool) :
    Handler Unit :=
  modify fun w => { w with
    registrationLinks := Function.update w.registrationLinks chatId
      (some ⟨candidateIds, allowContinueUnlinked⟩) }

def clearRegistrationLink (chatId : Int) : Handler Unit :=
  modify fun w => { w with registrationLinks := Function.update w.registrationLinks chatId none }

def hydrateIfMissing (chatId messageId : Int) : Handler Unit :=
  modify fun w =>
    match w.activeScreens chatId with
    | some _ => w
    | none => { w with
        activeScreens := Function.update w.activeScreens chatId (some ⟨messageId, .unknown⟩) }

/-! ## Use cases -/

def Bot.application (bot : Bot) : Application :=
  ⟨bot.services, bot.chars, bot.toLowercase, bot.directory, bot.newTaskUid⟩

/-- The readings of the clock in the `k`-th use case of the update. -/
def Bot.clockOf (bot : Bot) (k : Nat) : Nat → Instant := fun i => bot.clock (Nat.pair k i)

/-- The `k`-th use case of the update; the handler sees its error as a value. -/
def ask (bot : Bot) (k : Nat) (call : RuntimeCall) : Handler (AppResult call.Answer) := do
  let w ← get
  let o := (call.program bot.application (bot.clockOf k)).run (bot.plans k) w.process
  modify fun w => { w with
    db := o.2.db
    sharedFlags := o.2.sharedFlags
    log := w.log ++ [.called call] }
  pure o.1

def query {α : Type} (answer : Db → AppResult α) : Handler (AppResult α) := do
  let w ← get
  pure (answer w.db)

def isEnabled (flag : FeatureFlag) : Handler Bool := do
  let w ← get
  pure (w.sharedFlags.isEnabled flag)

/-! ## What the operations touch -/

section

variable {bot : Bot} {telegram : Telegram} {α : Type}

theorem request_quiet (answer : Nat → Except RequestError α) : Quiet (request answer) := by
  refine Quiet.bind Quiet.get fun w => ?_
  refine Quiet.bind (Quiet.modify ?_ ?_ ?_) fun _ => Quiet.pure _
  all_goals intro w; rfl

theorem display_quiet (chatId messageId : Int) (screen : Option ScreenDescriptor) (view : ScreenView) :
    Quiet (display chatId messageId screen view) := by
  apply Quiet.modify
  all_goals intro w; rfl

theorem setActiveScreen_quiet (chatId : Int) (state : ActiveScreenState) :
    Quiet (setActiveScreen chatId state) := by
  apply Quiet.modify
  all_goals intro w; rfl

theorem tryConsume_quiet (chatId : Int) : Quiet (tryConsumeUpdateBarrier chatId) := by
  refine Quiet.bind Quiet.get fun w => ?_
  cases w.currentBarriers chatId with
  | none => exact Quiet.pure _
  | some barrier =>
    refine Quiet.bind (Quiet.modify ?_ ?_ ?_) fun _ => Quiet.pure _
    all_goals intro w; rfl

theorem tryEditScreen_quiet (chatId messageId : Int) (descriptor : ScreenDescriptor) (view : ScreenView) :
    Quiet (tryEditScreen telegram chatId messageId descriptor view) := by
  refine Quiet.bind (request_quiet _) fun answer => ?_
  cases answer with
  | ok _ => exact Quiet.bind (display_quiet _ _ _ _) fun _ => Quiet.pure _
  | error error =>
    refine Quiet.ite (Quiet.bind (display_quiet _ _ _ _) fun _ => Quiet.pure _) ?_
    exact Quiet.ite (Quiet.pure _) (Quiet.throw _)

theorem sendNewScreen_quiet (chatId : Int) (descriptor : ScreenDescriptor) (view : ScreenView) :
    Quiet (sendNewScreen telegram chatId descriptor view) := by
  refine Quiet.bind (request_quiet _) fun answer => ?_
  cases answer with
  | ok messageId => exact Quiet.bind (display_quiet _ _ _ _) fun _ => setActiveScreen_quiet _ _
  | error error => exact Quiet.throw _

theorem sendScreen_quiet (chatId : Int) (descriptor : ScreenDescriptor) (view : ScreenView) :
    Quiet (sendScreen telegram chatId descriptor view) := by
  refine Quiet.bind (tryConsume_quiet _) fun allowed => Quiet.ite ?_ (Quiet.pure _)
  refine Quiet.bind Quiet.get fun w => ?_
  cases w.activeScreens chatId with
  | none => exact sendNewScreen_quiet _ _ _
  | some activeScreen =>
    refine Quiet.bind (tryEditScreen_quiet _ _ _ _) fun result => ?_
    cases result with
    | edited => exact setActiveScreen_quiet _ _
    | noChange => exact setActiveScreen_quiet _ _
    | fallbackRequired => exact sendNewScreen_quiet _ _ _

theorem sendFreshScreen_quiet (chatId : Int) (descriptor : ScreenDescriptor) (view : ScreenView) :
    Quiet (sendFreshScreen bot chatId descriptor view) :=
  Quiet.bind (tryConsume_quiet _) fun _ => Quiet.ite (sendNewScreen_quiet _ _ _) (Quiet.pure _)

theorem sendPlain_quiet (chatId : Int) (text : String) : Quiet (sendPlain bot chatId text) := by
  refine Quiet.bind (request_quiet _) fun answer => ?_
  cases answer with
  | ok messageId => exact display_quiet _ _ _ _
  | error error => exact Quiet.throw _

theorem sendError_quiet (chatId : Int) (error : AppError) : Quiet (sendError bot chatId error) :=
  Quiet.bind (tryConsume_quiet _) fun _ => Quiet.ite (sendPlain_quiet _ _) (Quiet.pure _)

theorem answerCallback_quiet (callbackId text : String) : Quiet (answerCallback bot callbackId text) := by
  refine Quiet.bind (request_quiet _) fun answer => ?_
  cases answer with
  | ok _ => exact Quiet.pure _
  | error error => exact Quiet.throw _

theorem setCreationSession_quiet (chatId : Int) (session : CreationSession) :
    Quiet (setCreationSession chatId session) := by
  apply Quiet.modify
  all_goals intro w; rfl

theorem clearCreationSession_quiet (chatId : Int) : Quiet (clearCreationSession chatId) := by
  apply Quiet.modify
  all_goals intro w; rfl

theorem setTaskInteraction_quiet (chatId : Int) (session : TaskInteractionSession) :
    Quiet (setTaskInteraction chatId session) := by
  apply Quiet.modify
  all_goals intro w; rfl

theorem clearTaskInteraction_quiet (chatId : Int) : Quiet (clearTaskInteraction chatId) := by
  apply Quiet.modify
  all_goals intro w; rfl

theorem setRegistrationLink_quiet (chatId : Int) (candidateIds : List Int) (allow : Bool) :
    Quiet (setRegistrationLink chatId candidateIds allow) := by
  apply Quiet.modify
  all_goals intro w; rfl

theorem clearRegistrationLink_quiet (chatId : Int) : Quiet (clearRegistrationLink chatId) := by
  apply Quiet.modify
  all_goals intro w; rfl

theorem hydrateIfMissing_quiet (chatId messageId : Int) : Quiet (hydrateIfMissing chatId messageId) := by
  apply Quiet.modify
  all_goals
    intro w
    cases w.activeScreens chatId <;> rfl

/-- A selection that is no creation. -/
theorem quiet_selection {chatId : Int} {selection : Option PendingAssigneeSelection}
    (hsel : ∀ message ids allow, selection ≠ some (.create message ids allow)) :
    Quiet (modify fun w => { w with
      assigneeSelections := Function.update w.assigneeSelections chatId selection } : Handler PUnit) := by
  intro may w
  refine Effects.Moves.of_modify ⟨.silent rfl rfl, fun chatId' message ids allow h => ?_⟩
  simp only [Function.update_apply] at h
  split at h
  · exact absurd h (hsel message ids allow)
  · exact .inl h

theorem clearAssigneeSelection_quiet (chatId : Int) : Quiet (clearAssigneeSelection chatId) :=
  quiet_selection fun _ _ _ => nofun

theorem setReassignSelection_quiet (chatId : Int) (taskUid : Uuid) (origin : TaskListOrigin)
    (originalQuery : String) (ids : List Int) :
    Quiet (setReassignSelection chatId taskUid origin originalQuery ids) :=
  quiet_selection fun _ _ _ => nofun

theorem query_quiet (answer : Db → AppResult α) : Quiet (query answer) :=
  Quiet.bind Quiet.get fun _ => Quiet.pure _

theorem isEnabled_quiet (flag : FeatureFlag) : Quiet (isEnabled flag) :=
  Quiet.bind Quiet.get fun _ => Quiet.pure _

/-- A use case that only reads. -/
theorem useCase_quiet (plan : Site → Fault AppError) {p : Proc α} (hp : p.Within Eq) :
    Quiet (useCase plan p) := by
  intro may w
  have hdb : (p.run plan w.db).2 = w.db := Prog.run_of_reads plan hp w.db
  show Footprint may w { w with db := (p.run plan w.db).2 }
  rw [hdb]
  exact .refl w

variable {may : Happening → Prop} {w : World}

theorem setCreateSelection_touches {chatId : Int} {message : IncomingMessage}
    (hmay : may (.pended chatId message)) (ids : List Int) (allow : Bool) :
    Touches may (setCreateSelection chatId message ids allow) w := by
  refine Effects.Moves.of_modify ⟨.one rfl hmay rfl, fun chatId' message' ids' allow' h => ?_⟩
  simp only [Function.update_apply] at h
  split at h
  · next hchat =>
    cases h
    rw [hchat]
    exact .inr hmay
  · exact .inl h

theorem ask_then_log {k : Nat} {call : RuntimeCall} {f : AppResult call.Answer → Handler α}
    (hf : ∀ result, Quiet (f result)) :
    (Effects.exec (ask bot k call >>= f) w).2.log = w.log ++ [.called call] := (hf _).log _

theorem ask_touches {call : RuntimeCall} (hmay : may (.called call)) (k : Nat) :
    Touches may (ask bot k call) w :=
  ⟨.one rfl hmay ⟨rfl, bot.application, bot.clockOf k, bot.plans k, rfl⟩, fun _ _ _ _ h => .inl h⟩

end

end TaskBot
