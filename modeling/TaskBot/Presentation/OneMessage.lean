import TaskBot.Presentation.UpdateScripts

/-!
# One update, one message

Whatever state the chats are in and whatever the use cases answer, an update sends
or edits at most one message (`one_update_one_message`).  The barrier sees to that
for screens and error texts, and a text that is sent past it ends its update.

An update that the onboarding consumes is the gate and its reply, nothing else:

    dispatchMessageInner bot message   =   answerGate bot message      (dispatchMessage_consumed)
-/

namespace TaskBot

open Sql Calls Effects

/-- The gate, and its reply. -/
def answerGate (bot : Bot) (message : IncomingMessage) : Handler Unit := do
  let gated ← ask bot 0 (.onboardingGate message)
  match gated with
  | .ok (_, some reply) => RegistrationDialog.renderReply bot message.chatId reply
  | _ => pure ()

/-- The gate keeps the update for itself. -/
def GateConsumes (bot : Bot) (message : IncomingMessage) (w : World) : Prop :=
  ∀ reply, (exec (ask bot 0 (.onboardingGate message)) w).1 ≠ .ok (.ok (.notApplicable, reply))

section

variable {bot : Bot} {message : IncomingMessage} {w : World}

/-- Behind a gate that consumes the update, whatever would follow the registration does not. -/
theorem registration_consumed {f : Option User → Handler Unit} (hnone : f none = pure ())
    (h : GateConsumes bot message w) :
    exec (RegistrationDialog.registerActor bot message >>= f) w = exec (answerGate bot message) w := by
  unfold GateConsumes at h
  unfold RegistrationDialog.registerActor answerGate
  rw [bind_assoc]
  cases hgate : exec (ask bot 0 (.onboardingGate message)) w with
  | mk gated w' =>
    rw [hgate] at h
    cases gated with
    | error error => rw [exec_bind_error hgate, exec_bind_error hgate]
    | ok gated =>
      rw [Effects.exec_bind_ok hgate, Effects.exec_bind_ok hgate]
      cases gated with
      | error error =>
        simp only [pure_bind, hnone]
      | ok gated =>
        obtain ⟨result, reply⟩ := gated
        cases result with
        | notApplicable => exact absurd rfl (h reply)
        | inProgress | justCompleted =>
          cases reply with
          | none => simp only [pure_bind, hnone]
          | some reply => simp only [bind_assoc, pure_bind, hnone, bind_pure_unit]

theorem dispatchMessage_consumed (h : GateConsumes bot message w) :
    exec (dispatchMessageInner bot message) w = exec (answerGate bot message) w :=
  registration_consumed rfl h

theorem dispatchCallback_consumed (callbackId : String) (callback : TelegramCallback)
    (h : GateConsumes bot message (w.hydrated message.chatId message.messageId)) :
    exec (dispatchCallbackInner bot callbackId message callback) w =
      exec (answerGate bot message) (w.hydrated message.chatId message.messageId) := by
  unfold dispatchCallbackInner admitCallback
  rw [bind_assoc, Effects.exec_bind_ok (exec_hydrateIfMissing message.chatId message.messageId w), bind_assoc]
  exact registration_consumed (pure_bind _ _) h

/-- The reply of the gate changes no record and asks for nothing. -/
theorem answerGate_log (bot : Bot) (message : IncomingMessage) (w : World) :
    (exec (answerGate bot message) w).2.log = w.log ++ [.called (.onboardingGate message)] := by
  refine ask_then_log fun gated => ?_
  cases gated with
  | error error => exact Quiet.pure _
  | ok gated =>
    obtain ⟨result, reply⟩ := gated
    cases reply with
    | none => exact Quiet.pure _
    | some reply => exact RegistrationDialog.renderReply_quiet reply

end

theorem opened_log {w w₁ : World} {key : DedupKey} (h : w.opened key = some w₁) : w₁.log = w.log := by
  unfold World.opened at h
  split at h
  · cases h
    rfl
  · cases h

theorem hydrated_log (w : World) (chatId messageId : Int) : (w.hydrated chatId messageId).log = w.log := by
  unfold World.hydrated
  cases w.activeScreens chatId <;> rfl

/-- Where the registration of an update begins. -/
inductive Registering (bot : Bot) (w : World) : TelegramUpdate → IncomingMessage → World → Prop where
  | message {received : TelegramMessage} {incoming : IncomingMessage} {w₁ : World}
      (h : toIncomingMessage (bot.clockOf 6 0) received = some incoming)
      (hopened : w.opened ⟨incoming.chatId, incoming.messageId⟩ = some w₁) :
      Registering bot w (.message received) incoming w₁
  | press {press : CallbackQuery} {callback : TelegramCallback} {incoming : IncomingMessage} {w₁ : World}
      (h : press.incoming bot = some (callback, incoming))
      (hopened : w.opened ⟨incoming.chatId, press.idHash⟩ = some w₁) :
      Registering bot w (.press press) incoming (w₁.hydrated incoming.chatId incoming.messageId)

/-- **One update, one message.**  Whatever the state, the use cases and Telegram answer, an update
sends or edits at most one message, in its own chat; and where the onboarding consumes it, it is the
gate with its reply, and no other call. -/
theorem one_update_one_message (bot : Bot) (received : TelegramUpdate) (w : World) :
    (∃ new, ((Event.update bot received).apply w).sent = w.sent ++ new ∧ new.length ≤ 1 ∧
      ∀ m ∈ new, received.chat = some m.chatId) ∧
    ∀ incoming w₁, Registering bot w received incoming w₁ → GateConsumes bot incoming w₁ →
      (Event.update bot received).apply w =
          (exec (answerGate bot incoming) w₁).2.uninstallBarrier incoming.chatId ∧
        ((Event.update bot received).apply w).log = w.log ++ [.called (.onboardingGate incoming)] := by
  constructor
  · obtain ⟨new, hsent, hlength, hmessages⟩ := update_sent bot received w
    exact ⟨new, hsent, hlength, fun m hm => (hmessages m hm).1⟩
  · intro incoming w₁ hregistering hconsumes
    have hlog : w₁.log = w.log ∧ (Event.update bot received).apply w =
        (exec (answerGate bot incoming) w₁).2.uninstallBarrier incoming.chatId := by
      cases hregistering with
      | @message received incoming w₁ h hopened =>
        refine ⟨opened_log hopened, ?_⟩
        show (exec (handleMessage bot received) w).2 = _
        unfold handleMessage
        rw [h]
        simp only
        rw [exec_deliver, hopened]
        simp only
        rw [dispatchMessage_consumed hconsumes]
      | @press press callback incoming w₀ h hopened =>
        refine ⟨(hydrated_log w₀ _ _).trans (opened_log hopened), ?_⟩
        show (exec (handleCallbackQuery bot press) w).2 = _
        unfold handleCallbackQuery
        rw [h]
        simp only
        rw [exec_deliver, hopened]
        simp only
        rw [dispatchCallback_consumed press.id callback hconsumes]
    obtain ⟨hlog, happly⟩ := hlog
    refine ⟨happly, ?_⟩
    rw [happly, ← hlog]
    exact answerGate_log bot incoming w₁

/-- Nobody has written to the bot. -/
def silentWorld : World :=
  { onboardedWorld with
    db := { onboardedWorld.db with users := .empty }
    activeScreens := fun _ => none }

def greetingMessage : IncomingMessage :=
  { textFrom 7 "Добрый день" with messageId := 5, senderName := "Анна Петрова" }

/-- A stranger's message is consumed: it is the gate and its question, and no other call. -/
theorem stranger_asked_name : ∃ w₁,
    Registering draftingBot silentWorld (.message (typedMessage 5 "Добрый день")) greetingMessage w₁ ∧
      GateConsumes draftingBot greetingMessage w₁ ∧
      ((Event.update draftingBot (.message (typedMessage 5 "Добрый день"))).apply silentWorld).log =
        [.called (.onboardingGate greetingMessage)] ∧
      ((Event.update draftingBot (.message (typedMessage 5 "Добрый день"))).apply silentWorld).sent.length = 1 := by
  have hopens : (silentWorld.opened ⟨7, 5⟩).isSome = true := by decide +kernel
  obtain ⟨w₁, hopened⟩ := Option.isSome_iff_exists.mp hopens
  have hregistering : Registering draftingBot silentWorld (.message (typedMessage 5 "Добрый день"))
      greetingMessage w₁ := .message (by decide +kernel) hopened
  have hasked : ((silentWorld.opened ⟨7, 5⟩).map fun w =>
      ((exec (ask draftingBot 0 (.onboardingGate greetingMessage)) w).1.toOption.bind Except.toOption).map Prod.fst) =
        some (some .inProgress) := by decide +kernel
  have hconsumes : GateConsumes draftingBot greetingMessage w₁ := by
    intro reply hgate
    rw [hopened] at hasked
    simp only [Option.map_some, hgate, Except.toOption] at hasked
    cases hasked
  have hone := one_update_one_message draftingBot (.message (typedMessage 5 "Добрый день")) silentWorld
  obtain ⟨-, hlog⟩ := hone.2 greetingMessage w₁ hregistering hconsumes
  exact ⟨w₁, hregistering, hconsumes, hlog, by decide +kernel⟩

end TaskBot
