import TaskBot.Domain.DeadlinePhrases
import TaskBot.Presentation.Capabilities
import TaskBot.UseCases.NameMatching

/-!
# Runs of updates

A run is a list of events: updates, each with its own clock, failures and answers of
Telegram, and whatever other components do to the database in between.  The updates
of all chats share one world; an update is handled as a whole.

    w.after events                            the world after the events
    press.handled bot w = some h              the press gets to its handler, which runs h

* `Footprint.moves`: tasks move within the rights of the calls;
* `apply_press`: an update with a press is its registration and then its handler;
* `handled_start`: what the handler starts with is what the chat had before;
* `handled_mutating`: a mutating callback is on the active screen, which accepts it.
-/

namespace TaskBot

open Sql Calls Effects

/-! ## Events -/

inductive TelegramUpdate where
  | message (message : TelegramMessage)
  | press (press : CallbackQuery)

def handleUpdate (bot : Bot) : TelegramUpdate → Handler Unit
  | .message message => handleMessage bot message
  | .press press => handleCallbackQuery bot press

inductive Event where
  | update (bot : Bot) (received : TelegramUpdate)
  /-- Another component has changed the database or the flags. -/
  | elsewhere (process : Process)

def World.withProcess (w : World) (process : Process) : World :=
  { w with db := process.db, sharedFlags := process.sharedFlags }

def Event.apply (w : World) : Event → World
  | .update bot received => (exec (handleUpdate bot received) w).2
  | .elsewhere process => w.withProcess process

def World.after (w : World) (events : List Event) : World := events.foldl Event.apply w

@[simp] theorem after_nil (w : World) : w.after [] = w := rfl

@[simp] theorem after_cons (w : World) (e : Event) (events : List Event) :
    w.after (e :: events) = (e.apply w).after events := rfl

@[simp] theorem after_append (w : World) (events events' : List Event) :
    w.after (events ++ events') = (w.after events).after events' := List.foldl_append

/-! ## Tasks -/

/-- **What every call does to the database, a footprint does.** -/
theorem Footprint.relates {may : Happening → Prop} {w w' : World} {K : Db → Db → Prop} (h : Footprint may w w')
    (hrefl : ∀ db, K db db) (htrans : ∀ db db' db'', K db db' → K db' db'' → K db db'')
    (hcall : ∀ call app clock plan process, may (.called call) →
      K process.db ((call.program app clock).run plan process).2.db) : K w.db w'.db := by
  have hstep : ∀ l, may l → ∀ s s', Happening.Step l s s' → K s.process.db s'.process.db := by
    intro l hl s s' hs
    cases l with
    | called call =>
      obtain ⟨-, app, clock, plan, hprocess⟩ := hs
      rw [hprocess]
      exact hcall call app clock plan s.process hl
    | pended _ _ | issued _ _ _ _ _ =>
      cases hs
      exact hrefl _
    | redeemed _ _ _ _ | refused _ _ _ _ =>
      rw [hs.2]
      exact hrefl _
  exact h.recorded.within (K := fun s s' => K s.process.db s'.process.db) (fun s => hrefl _)
    (fun _ _ _ => htrans _ _ _) hstep

/-- **What the calls of a footprint may do to the tasks.** -/
theorem Footprint.moves {may : Happening → Prop} {w w' : World} {R : TaskRights} (h : Footprint may w w')
    (hR : ∀ call, may (.called call) → call.rights.Le R) : TaskMoves R w.db w'.db :=
  h.relates TaskMoves.refl (fun _ _ _ hm hm' => hm.trans hm') fun call app clock plan process hmay =>
    (RuntimeCall.moves app clock plan process call).mono (hR call hmay)

/-- Without a call the database is the same. -/
theorem Footprint.db_eq {may : Happening → Prop} {w w' : World} (h : Footprint may w w')
    (hnone : ∀ call, ¬ may (.called call)) : w'.db = w.db :=
  h.relates (K := fun db db' => db' = db) (fun _ => rfl) (fun _ _ _ hdb hdb' => hdb'.trans hdb)
    fun call _ _ _ _ hmay => absurd hmay (hnone call)

/-! ## The critical section -/

def World.observed (w : World) (key : DedupKey) : World :=
  { w with updateDedup := (w.updateDedup.observe key).2 }

/-- The world in which an update is handled, unless it is a duplicate. -/
def World.opened (w : World) (key : DedupKey) : Option World :=
  if (w.updateDedup.observe key).1 then some ((w.observed key).installBarrier key.chatId) else none

/-- Whatever comes of the update, its barrier goes. -/
theorem exec_deliver (key : DedupKey) (inner : Handler Unit) (w : World) :
    (exec (deliver key inner) w).2 =
      match w.opened key with
      | some w₁ => (exec inner w₁).2.uninstallBarrier key.chatId
      | none => w.observed key := by
  unfold World.opened deliver
  have hobserve : exec (observeUpdate key) w = (.ok (w.updateDedup.observe key).1, w.observed key) := rfl
  rw [Effects.exec_bind_ok hobserve]
  by_cases hfresh : (w.updateDedup.observe key).1 = true
  · rw [if_pos hfresh, if_pos hfresh]
    simp only
    rw [Effects.exec_bind_ok (Effects.exec_modify _ _), Effects.exec_bind_ok (exec_attempt inner _), Effects.exec_bind_ok (Effects.exec_modify _ _)]
    cases (exec inner ((w.observed key).installBarrier key.chatId)).1 <;> rfl
  · rw [if_neg hfresh, if_neg hfresh]
    rfl

theorem footprint_observed {may : Happening → Prop} (w : World) (key : DedupKey) :
    Footprint may w (w.observed key) := .silent rfl rfl rfl

theorem footprint_opened {may : Happening → Prop} {w w₁ : World} {key : DedupKey}
    (h : w.opened key = some w₁) : Footprint may w w₁ := by
  unfold World.opened at h
  split at h
  · cases h
    exact .silent rfl rfl rfl
  · cases h

theorem footprint_uninstall {may : Happening → Prop} (w : World) (chatId : Int) :
    Footprint may w (w.uninstallBarrier chatId) := .silent rfl rfl rfl

theorem deliver_touches {may : Happening → Prop} {key : DedupKey} {inner : Handler Unit} {w : World}
    (h : ∀ w₁, w.opened key = some w₁ → Touches may inner w₁) : Touches may (deliver key inner) w := by
  unfold Touches Moves
  rw [exec_deliver]
  cases hopened : w.opened key with
  | none => exact footprint_observed w key
  | some w₁ => exact ((footprint_opened hopened).trans (h w₁ hopened)).trans (footprint_uninstall _ _)

/-! ## Messages -/

/-- **What an update with a message may do.** -/
theorem handleMessage_touches {bot : Bot} {message : TelegramMessage} {may : Happening → Prop} {w : World}
    (hmay : ∀ incoming actor l, toIncomingMessage (bot.clockOf 6 0) message = some incoming →
      UpdateMay incoming (MessageMay incoming actor) l → may l) :
    Touches may (handleMessage bot message) w := by
  unfold handleMessage
  cases hincoming : toIncomingMessage (bot.clockOf 6 0) message with
  | none => exact Quiet.pure _ may w
  | some incoming =>
    refine deliver_touches fun w₁ _ => ?_
    have hinner : Touches (UpdateMay incoming fun l => ∃ actor, MessageMay incoming actor l)
        (dispatchMessageInner bot incoming) w₁ :=
      dispatchMessageInner_touches fun actor l hl => ⟨actor, hl⟩
    refine hinner.mono fun hfoot => hfoot.mono fun l hl => ?_
    cases hl with
    | register l h => exact hmay incoming (.fromMessage incoming .user false) l hincoming (.register l h)
    | recordEvent entry =>
      exact hmay incoming (.fromMessage incoming .user false) _ hincoming (.recordEvent entry)
    | handle l h =>
      obtain ⟨actor, hactor⟩ := h
      exact hmay incoming actor l hincoming (.handle l hactor)

/-! ## Presses -/

/-- A press that has got to its handler: what the handler is called with, and in which world. -/
structure Handled where
  callback : TelegramCallback
  message : IncomingMessage
  actor : User
  start : World

/-- The world the handler leaves. -/
def Handled.finish (bot : Bot) (h : Handled) : World :=
  (exec (runCallback bot h.message h.actor h.callback) h.start).2

def CallbackQuery.handled (bot : Bot) (press : CallbackQuery) (w : World) : Option Handled := do
  let (callback, incoming) ← press.incoming bot
  let w₁ ← w.opened ⟨incoming.chatId, press.idHash⟩
  match exec (admitCallback bot press.id incoming callback) w₁ with
  | (.ok (some actor), w₂) => some ⟨callback, incoming, actor, w₂⟩
  | _ => none

section

variable {bot : Bot} {press : CallbackQuery} {w : World} {h : Handled}

/-- The stages of a press that gets to its handler. -/
theorem handled_stages (hh : press.handled bot w = some h) : ∃ w₁,
    press.incoming bot = some (h.callback, h.message) ∧
      w.opened ⟨h.message.chatId, press.idHash⟩ = some w₁ ∧
      exec (admitCallback bot press.id h.message h.callback) w₁ = (.ok (some h.actor), h.start) := by
  obtain ⟨⟨callback, incoming⟩, hincoming, hrest⟩ := Option.bind_eq_some_iff.mp hh
  obtain ⟨w₁, hopened, hlast⟩ := Option.bind_eq_some_iff.mp hrest
  refine ⟨w₁, ?_⟩
  split at hlast
  · next actor w₂ hadmission =>
    cases hlast
    exact ⟨hincoming, hopened, hadmission⟩
  · cases hlast

/-- **The registration, then the handler.** -/
theorem apply_press (hh : press.handled bot w = some h) :
    (Event.update bot (.press press)).apply w = (h.finish bot).uninstallBarrier h.message.chatId := by
  obtain ⟨w₁, hincoming, hopened, hadmission⟩ := handled_stages hh
  show (exec (handleCallbackQuery bot press) w).2 = _
  unfold handleCallbackQuery
  rw [hincoming]
  simp only
  rw [exec_deliver, hopened]
  simp only
  unfold dispatchCallbackInner
  rw [Effects.exec_bind_ok hadmission]
  rfl

/-- A press that gets to no handler only registers its sender. -/
theorem apply_press_unhandled (hh : press.handled bot w = none) : ∃ message,
    Footprint (RegistrationDialog.May message) w ((Event.update bot (.press press)).apply w) := by
  show ∃ message, Footprint (RegistrationDialog.May message) w (exec (handleCallbackQuery bot press) w).2
  unfold handleCallbackQuery
  unfold CallbackQuery.handled at hh
  cases hincoming : press.incoming bot with
  | none => exact ⟨textFrom 0 "", .refl w⟩
  | some p =>
    obtain ⟨callback, incoming⟩ := p
    refine ⟨incoming, ?_⟩
    refine deliver_touches fun w₁ hopened => ?_
    have hregister : Touches (RegistrationDialog.May incoming)
        (admitCallback bot press.id incoming callback) w₁ := admitCallback_touches press.id
    refine Effects.Moves.bind hregister fun admitted w₂ hadmission => ?_
    cases admitted with
    | none => exact Quiet.pure _ _ w₂
    | some actor =>
      rw [hincoming] at hh
      simp only [Option.bind_eq_bind, Option.bind_some, hopened, hadmission] at hh
      cases hh

theorem handled_footprint (hh : press.handled bot w = some h) :
    Footprint (RegistrationDialog.May h.message) w h.start := by
  obtain ⟨w₁, -, hopened, hadmission⟩ := handled_stages hh
  have hregister : Touches (RegistrationDialog.May h.message)
      (admitCallback bot press.id h.message h.callback) w₁ := admitCallback_touches press.id
  unfold Touches Moves at hregister
  rw [hadmission] at hregister
  exact (footprint_opened hopened).trans hregister

theorem finish_footprint (bot : Bot) (h : Handled) :
    Footprint (CallbackMay bot h.start h.message h.actor h.callback) h.start (h.finish bot) :=
  runCallback_touches h.callback

/-- What is read is what the query carries. -/
theorem incoming_carries {callback : TelegramCallback} {incoming : IncomingMessage}
    (hincoming : press.incoming bot = some (callback, incoming)) :
    press.parsed = some callback ∧ press.message = some ⟨incoming.messageId, incoming.chatId⟩ ∧
      incoming.isVoiceOrigin = false := by
  unfold CallbackQuery.incoming callbackToIncomingMessage at hincoming
  obtain ⟨data, -, hrest⟩ := Option.bind_eq_some_iff.mp hincoming
  obtain ⟨callback', hparsed, hrest⟩ := Option.bind_eq_some_iff.mp hrest
  obtain ⟨incoming', hmessage, hlast⟩ := Option.bind_eq_some_iff.mp hrest
  obtain ⟨reference, href, hrest⟩ := Option.bind_eq_some_iff.mp hmessage
  obtain ⟨senderId, -, hsender⟩ := Option.bind_eq_some_iff.mp hrest
  have hpair : (callback', incoming') = (callback, incoming) := Option.some.inj hlast
  obtain ⟨rfl, rfl⟩ := Prod.mk.inj hpair
  have hfields := (Option.some.inj hsender).symm
  rw [hfields]
  exact ⟨hparsed, href, rfl⟩

/-- What is pressed is what the query carries. -/
theorem handled_incoming (hh : press.handled bot w = some h) :
    press.parsed = some h.callback ∧ press.message = some ⟨h.message.messageId, h.message.chatId⟩ ∧
      h.message.isVoiceOrigin = false := by
  obtain ⟨-, hincoming, -, -⟩ := handled_stages hh
  exact incoming_carries hincoming

/-! ## Admission -/

/-- A chat without a screen takes the pressed message for one of unknown kind. -/
def World.hydrated (w : World) (chatId messageId : Int) : World :=
  match w.activeScreens chatId with
  | some _ => w
  | none => { w with
      activeScreens := Function.update w.activeScreens chatId (some ⟨messageId, .unknown⟩) }

/-- Equal but for what registration and the answer of a press change. -/
def SameBut (w w' : World) : Prop :=
  w' = { w with
    db := w'.db, sharedFlags := w'.sharedFlags, log := w'.log, requests := w'.requests,
    updateDedup := w'.updateDedup }

theorem SameBut.trans {w w' w'' : World} (h : SameBut w w') (h' : SameBut w' w'') : SameBut w w'' := by
  unfold SameBut at *
  rw [h', h]

theorem answerCallback_same {callbackId text : String} {r : Except RequestError Unit} {w w' : World}
    (hrun : exec (answerCallback bot callbackId text) w = (r, w')) : SameBut w w' := by
  have hrequest : exec (request fun n => bot.telegram.answerCallbackQuery n callbackId text) w =
      (.ok (bot.telegram.answerCallbackQuery w.requests callbackId text),
        { w with requests := w.requests + 1 }) := rfl
  unfold answerCallback at hrun
  rw [Effects.exec_bind_ok hrequest] at hrun
  cases hanswer : bot.telegram.answerCallbackQuery w.requests callbackId text with
  | ok _ =>
    rw [hanswer] at hrun
    cases hrun
    rfl
  | error error =>
    rw [hanswer] at hrun
    cases hrun
    rfl

/-- A press that goes on is not refused. -/
theorem admitPress_some {callbackId : String} {message : IncomingMessage} {callback : TelegramCallback}
    {actor actor' : User} {w w' : World}
    (hrun : exec (admitPress bot callbackId message callback actor) w = (.ok (some actor'), w')) :
    actor' = actor ∧ SameBut w w' ∧ (callback.isMutating = true →
      w.isStale message.chatId message.messageId = false ∧
        w.isDescriptorMismatch message.chatId callback = false) := by
  unfold admitPress at hrun
  rw [Effects.exec_bind_ok (Effects.exec_get w)] at hrun
  simp only at hrun
  split at hrun
  · obtain ⟨_, _, -, hpure⟩ := exec_bind_eq_ok hrun
    cases hpure
  · next hstale =>
    split at hrun
    · obtain ⟨_, _, -, hpure⟩ := exec_bind_eq_ok hrun
      cases hpure
    · next hmismatch =>
      obtain ⟨_, w₁, hanswer, hpure⟩ := exec_bind_eq_ok hrun
      cases hpure
      refine ⟨rfl, answerCallback_same hanswer, fun hmutating => ?_⟩
      simp_all

/-- **The handler starts with the chats as they were.** -/
theorem handled_start (hh : press.handled bot w = some h) :
    SameBut ((w.hydrated h.message.chatId h.message.messageId).installBarrier h.message.chatId) h.start ∧
      (h.callback.isMutating = true →
        h.start.isStale h.message.chatId h.message.messageId = false ∧
          h.start.isDescriptorMismatch h.message.chatId h.callback = false) := by
  obtain ⟨w₁, -, hopened, hadmission⟩ := handled_stages hh
  obtain ⟨_, w₂, hhydrate, hrest⟩ := exec_bind_eq_ok hadmission
  obtain ⟨registered, w₃, hregister, hpress⟩ := exec_bind_eq_ok hrest
  cases registered with
  | none => cases hpress
  | some actor =>
    obtain ⟨-, hsame, hadmitted⟩ := admitPress_some hpress
    have hready : RegistrationDialog.SameChats w₂ w₃ := RegistrationDialog.registerActor_ready hregister
    have hscreens : h.start.activeScreens = w₃.activeScreens := by rw [hsame]
    refine ⟨?_, fun hmutating => ?_⟩
    · have hfirst : SameBut ((w.hydrated h.message.chatId h.message.messageId).installBarrier
          h.message.chatId) w₂ := by
        unfold World.opened at hopened
        split at hopened
        · cases hopened
          have hw₂ : w₂ = _ := (congrArg Prod.snd hhydrate).symm
          unfold hydrateIfMissing at hw₂
          rw [Effects.exec_modify] at hw₂
          rw [hw₂]
          unfold World.hydrated SameBut World.observed World.installBarrier
          cases w.activeScreens h.message.chatId <;> rfl
        · cases hopened
      have hsecond : SameBut w₂ w₃ := by
        unfold RegistrationDialog.SameChats at hready
        unfold SameBut
        rw [hready]
      exact (hfirst.trans hsecond).trans hsame
    · have hchecked := hadmitted hmutating
      unfold World.isStale World.isDescriptorMismatch at hchecked ⊢
      rw [hscreens]
      exact hchecked

theorem handled_stores (hh : press.handled bot w = some h) :
    h.start.creationSessions = w.creationSessions ∧ h.start.assigneeSelections = w.assigneeSelections := by
  rw [(handled_start hh).1]
  show (w.hydrated _ _).creationSessions = _ ∧ (w.hydrated _ _).assigneeSelections = _
  unfold World.hydrated
  cases w.activeScreens h.message.chatId <;> exact ⟨rfl, rfl⟩

/-- The screen of the chat, for a chat that has one. -/
theorem handled_screen {screen : ActiveScreenState} (hh : press.handled bot w = some h)
    (hscreen : w.activeScreens h.message.chatId = some screen) :
    h.start.activeScreens h.message.chatId = some screen := by
  obtain ⟨hsame, -⟩ := handled_start hh
  rw [hsame]
  show (w.hydrated h.message.chatId h.message.messageId).activeScreens h.message.chatId = some screen
  unfold World.hydrated
  rw [hscreen]
  exact hscreen

/-- **A mutating callback is on the active screen, which accepts it.** -/
theorem handled_mutating {screen : ActiveScreenState} (hh : press.handled bot w = some h)
    (hmutating : h.callback.isMutating = true)
    (hscreen : w.activeScreens h.message.chatId = some screen) :
    screen.messageId = h.message.messageId ∧ screen.descriptor.accepts h.callback = true := by
  obtain ⟨hstale, hmismatch⟩ := (handled_start hh).2 hmutating
  unfold World.isStale at hstale
  unfold World.isDescriptorMismatch at hmismatch
  rw [handled_screen hh hscreen] at hstale hmismatch
  simp only [Option.any_some, decide_eq_false_iff_not, not_not] at hstale
  simp only [Option.any_some, Bool.not_eq_false'] at hmismatch
  exact ⟨hstale, hmismatch⟩

end

/-! ## Sample updates -/

/-- A bot whose generator answers. -/
def draftingBot : Bot :=
  { dictatedBot with
    services := { dictatedBot.services with
      generateTask := fun request _ =>
        .ok ⟨⟨"Отчёт", "Готовый отчёт", [request.taskDescription], [], none, false, none⟩, "local", ""⟩ } }

/-- A bot that hears `transcript`, reads requests as the code does and knows no employee. -/
def parsingBot (transcript : String) : Bot :=
  { draftingBot with
    services := { draftingBot.services with
      transcribe := fun _ => .ok transcript
      parseTaskRequest := fun text today =>
        (Parsing.parseTaskRequest plainTables text today).run.getD (.error (databaseError "out of range"))
      ranking := NameMatching.ranking id fun _ _ => 0 } }

def typedMessage (id : Int) (text : String) : TelegramMessage where
  id
  chatId := 7
  sender := some ⟨7, "Анна Петрова", none⟩
  text := some text
  voice := none

def dictatedMessage : TelegramMessage where
  id := 5
  chatId := 7
  sender := some ⟨7, "Анна Петрова", none⟩
  text := none
  voice := some ⟨"f", "u", 4, none, 0⟩

def pressed (idHash messageId : Int) (callback : TelegramCallback) : CallbackQuery where
  id := "c1"
  idHash
  sender := ⟨7, "Анна Петрова", none⟩
  message := some ⟨messageId, 7⟩
  data := some (encodeCallback callback)
  parsed := some callback

/-- The buttons of voice drafts are switched on. -/
def voiceWorld : World := { onboardedWorld with sharedFlags := ⟨.voiceV2 :: FeatureFlag.defaultEnabled⟩ }

end TaskBot
