import TaskBot.Lib.Traces
import TaskBot.Presentation.UpdateScripts

/-!
# Runs in a chat

`ChatState` is what scripts change of their chat, and `Deed.play` reads a script off
it: only the first guarded deed is shown, and a deed Telegram may refuse may be the
last.

    Establishes telegram P ds s        P holds wherever the script may end   (played_establishes)

An update of another chat, or of another component, leaves the chat as it is, so an
invariant that every script of the chat establishes is kept along runs (`chat_keeps`).
-/

namespace TaskBot

open Sql Calls Effects Scripts Traces

structure ChatState where
  screen : Option ScreenDescriptor
  session : Option CreationSession
  interaction : Option TaskInteractionSession
  selection : Option PendingAssigneeSelection
  /-- The message an update is answered with: a screen, or an error text. -/
  answer : Option (Option ScreenDescriptor)
deriving DecidableEq

/-- The state of a chat that has not been answered. -/
def Chats.state (c : Chats) (chatId : Int) : ChatState :=
  ⟨(c.screens chatId).map ActiveScreenState.descriptor, c.sessions chatId, c.interactions chatId,
    c.selections chatId, none⟩

def World.chat (w : World) (chatId : Int) : ChatState := w.chats.state chatId

/-! ## Scripts read off the state -/

def Deed.play (s : ChatState) : Deed → ChatState
  | render d _ => if s.answer.isSome then s else { s with screen := some d, answer := some (some d) }
  | tell _ => if s.answer.isSome then s else { s with answer := some none }
  | tellPast _ | toast => s
  | session opened => { s with session := opened }
  | interaction opened => { s with interaction := opened }
  | selection pending => { s with selection := pending }

/-- The handler may end with the deed. -/
def Deed.MayStop (telegram : Telegram) : Deed → Prop
  | render _ _ | tell _ | tellPast _ => ¬ telegram.Delivers
  | toast => True
  | session _ | interaction _ | selection _ => False

/-- The property holds wherever the script may end. -/
def Establishes (telegram : Telegram) (P : ChatState → Prop) : List Deed → ChatState → Prop
  | [], s => P s
  | d :: ds, s => (d.MayStop telegram → P s) ∧ Establishes telegram P ds (d.play s)

/-- A store of the chat is set. -/
theorem Establishes.store {telegram : Telegram} {P : ChatState → Prop} {d : Deed} {ds : List Deed} {s : ChatState}
    (hmay : ¬ d.MayStop telegram) (h : Establishes telegram P ds (d.play s)) :
    Establishes telegram P (d :: ds) s := ⟨fun hstop => absurd hstop hmay, h⟩

theorem Establishes.mono {telegram : Telegram} {P P' : ChatState → Prop} (hP : ∀ s, P s → P' s) {ds : List Deed}
    {s : ChatState} (h : Establishes telegram P ds s) : Establishes telegram P' ds s := by
  induction ds generalizing s with
  | nil => exact hP s h
  | cons d ds ih => exact ⟨fun hstop => hP s (h.1 hstop), ih h.2⟩

/-- A guarded deed leaves the stores alone. -/
theorem Deed.play_guarded {d : Deed} (hguarded : d.isGuarded = true) (s : ChatState) :
    (d.play s).session = s.session ∧ (d.play s).interaction = s.interaction ∧
      (d.play s).selection = s.selection := by
  cases d with
  | render _ _ | tell _ => by_cases hanswer : s.answer.isSome = true <;> simp [Deed.play, hanswer]
  | _ => cases hguarded

/-- The chat is in the state, in the middle of an update that began in `start`. -/
structure Stands (start c : Chats) (chatId : Int) (s : ChatState) : Prop where
  state : { s with answer := none } = c.state chatId
  barrier : c.barriers chatId = some ⟨s.answer.isSome⟩
  sent : ∃ new, c.sent = start.sent ++ new ∧ ∀ d, s.answer = some d → ∃ m ∈ new, m.screen = d

section

variable {telegram : Telegram} {chatId : Int} {start c c' : Chats} {s : ChatState} {d : Deed} {ds : List Deed}
  {ok : Bool} {P : ChatState → Prop}

namespace Stands

/-- A store of the chat is set. -/
theorem stored {s' : ChatState} (h : Stands start c chatId s) (hstate : { s' with answer := none } = c'.state chatId)
    (hanswer : s'.answer = s.answer) (hbarriers : c'.barriers = c.barriers) (hsent : c'.sent = c.sent) :
    Stands start c' chatId s' := by
  refine ⟨hstate, ?_, ?_⟩
  · rw [hbarriers, hanswer]
    exact h.barrier
  · rw [hsent, hanswer]
    exact h.sent

/-- The first message of the update. -/
theorem answered {s' : ChatState} {m : SentMessage} (h : Stands start c chatId s)
    (hstate : { s' with answer := none } = c'.state chatId) (hanswer : s'.answer = some m.screen)
    (hbarriers : c'.barriers = (c.consumed chatId).barriers) (hsent : c'.sent = c.sent ++ [m]) :
    Stands start c' chatId s' := by
  refine ⟨hstate, ?_, ?_⟩
  · have hbarrier := h.barrier
    rw [hbarriers, hanswer]
    show Function.update c.barriers chatId ((c.barriers chatId).map fun _ => ⟨true⟩) chatId = _
    rw [Function.update_self, hbarrier]
    rfl
  · obtain ⟨new, hnew, -⟩ := h.sent
    refine ⟨new ++ [m], by rw [hsent, hnew, List.append_assoc], fun d hd => ?_⟩
    rw [hanswer] at hd
    exact ⟨m, List.mem_append_right _ List.mem_cons_self, Option.some.inj hd⟩

theorem open_iff (h : Stands start c chatId s) : c.barriers chatId ≠ some ⟨true⟩ ↔ s.answer = none := by
  rw [h.barrier]
  cases s.answer <;> simp

/-- A deed after which the handler goes on. -/
theorem goes_on (h : Stands start c chatId s) (hact : Deed.Acts telegram chatId d true c c') :
    Stands start c' chatId (d.play s) := by
  cases hact with
  | suppressed hguarded hspent =>
    have hanswered : s.answer.isSome = true := by
      have hbarrier := h.barrier.symm.trans hspent
      exact congrArg UxBarrier.spent (Option.some.inj hbarrier)
    have hsame : d.play s = s := by
      cases d with
      | render _ _ | tell _ => exact if_pos hanswered
      | _ => cases hguarded
    rw [hsame]
    exact h
  | rendered d view messageId hopen =>
    have hnone : s.answer = none := h.open_iff.mp hopen
    have hplay : (Deed.render d view).play s = { s with screen := some d, answer := some (some d) } := by
      unfold Deed.play
      rw [hnone]
      rfl
    rw [hplay]
    refine h.answered ?_ rfl rfl rfl
    have hstate := h.state
    simp only [Chats.state, ChatState.mk.injEq] at hstate ⊢
    simp [Chats.shows, Chats.consumed, hstate]
  | told text messageId hopen =>
    have hnone : s.answer = none := h.open_iff.mp hopen
    have hplay : (Deed.tell text).play s = { s with answer := some none } := by
      unfold Deed.play
      rw [hnone]
      rfl
    rw [hplay]
    exact h.answered h.state rfl rfl rfl
  | toldPast text messageId =>
    obtain ⟨new, hnew, hanswer⟩ := h.sent
    refine ⟨h.state, h.barrier, new ++ [⟨chatId, messageId, none, ⟨text, []⟩⟩], ?_, fun d hd => ?_⟩
    · show c.sent ++ [_] = _
      rw [hnew, List.append_assoc]
    · obtain ⟨m, hm, hscreen⟩ := hanswer d hd
      exact ⟨m, List.mem_append_left _ hm, hscreen⟩
  | toast => exact h
  | session opened =>
    refine h.stored ?_ rfl rfl rfl
    have hstate := h.state
    simp only [Chats.state, ChatState.mk.injEq] at hstate ⊢
    simp [Deed.play, Chats.setSession, hstate]
  | interaction opened =>
    refine h.stored ?_ rfl rfl rfl
    have hstate := h.state
    simp only [Chats.state, ChatState.mk.injEq] at hstate ⊢
    simp [Deed.play, Chats.setInteraction, hstate]
  | selection pending =>
    refine h.stored ?_ rfl rfl rfl
    have hstate := h.state
    simp only [Chats.state, ChatState.mk.injEq] at hstate ⊢
    simp [Deed.play, Chats.setSelection, hstate]

end Stands

/-- A deed that ends its handler changes nothing but the barrier. -/
theorem Deed.Acts.stops (h : Deed.Acts telegram chatId d false c c') :
    d.MayStop telegram ∧ c'.state chatId = c.state chatId ∧ c'.sent = c.sent := by
  cases h with
  | failed hguarded _ hfails =>
    refine ⟨?_, rfl, rfl⟩
    cases d with
    | render _ _ | tell _ => exact hfails
    | _ => cases hguarded
  | failedPast text hfails => exact ⟨hfails, rfl, rfl⟩
  | toast => exact ⟨trivial, rfl, rfl⟩

/-- **A script ends where it may end.** -/
theorem played_establishes (h : Played (Deed.Acts telegram chatId) ds ok c c') (hs : Stands start c chatId s)
    (hP : Establishes telegram P ds s) : ∃ s', P s' ∧ { s' with answer := none } = c'.state chatId ∧
      ∃ new, c'.sent = start.sent ++ new ∧ ∀ d, s'.answer = some d → ∃ m ∈ new, m.screen = d := by
  induction h generalizing s with
  | done c => exact ⟨s, hP, hs.state, hs.sent⟩
  | stop ds h =>
    obtain ⟨hmay, hstate, hsent⟩ := h.stops
    refine ⟨s, hP.1 hmay, hs.state.trans hstate.symm, ?_⟩
    rw [hsent]
    exact hs.sent
  | next h _ ih => exact ih (hs.goes_on h) hP.2

end

theorem Chats.state_setInteraction (c : Chats) (chatId : Int) (opened : Option TaskInteractionSession) :
    (c.setInteraction chatId opened).state chatId = (Deed.interaction opened).play (c.state chatId) := by
  simp [Chats.state, Chats.setInteraction, Deed.play]

/-! ## Updates -/

/-- What an update sends or edits. -/
def newMessages (bot : Bot) (received : TelegramUpdate) (w : World) : List SentMessage :=
  ((Event.update bot received).apply w).sent.drop w.sent.length

section

variable {bot : Bot} {received : TelegramUpdate} {w : World} {chatId : Int} {cue : Cue} {c : Chats}
  {P : ChatState → Prop}

/-- A chat without a screen has got one of unknown kind. -/
theorem Entered.state (h : Entered bot w received chatId cue c) : c.state chatId = w.chat chatId ∨
    ((w.chat chatId).screen = none ∧ c.state chatId = { w.chat chatId with screen := some .unknown }) := by
  cases h with
  | message _ => exact .inl rfl
  | @press press callback incoming _ =>
    unfold World.hydrated
    cases hscreen : w.activeScreens incoming.chatId with
    | some screen => exact .inl rfl
    | none =>
      refine .inr ⟨?_, ?_⟩
      · show (w.activeScreens incoming.chatId).map ActiveScreenState.descriptor = none
        rw [hscreen]
        rfl
      · simp [Chats.state, World.chats, World.chat, World.installBarrier]

theorem Entered.stands (h : Entered bot w received chatId cue c) : Stands c c chatId (c.state chatId) :=
  ⟨rfl, h.fresh.1, [], (List.append_nil _).symm, fun _ h => nomatch h⟩

/-- Outside of the chat of the update nothing changes. -/
theorem Played.elsewhere {telegram : Telegram} {ds : List Deed} {ok : Bool} {c c' : Chats} {other : Int}
    (h : Played (Deed.Acts telegram chatId) ds ok c c') (hother : other ≠ chatId) :
    c'.state other = c.state other := by
  let K : Chats → Chats → Prop := fun c c' => c'.state other = c.state other
  have : Std.Refl K := ⟨fun _ => rfl⟩
  have : IsTrans Chats K := ⟨fun _ _ _ h h' => h'.trans h⟩
  refine h.within (R := K) fun d _ ok c c' hact => ?_
  cases hact with
  | suppressed _ _ | failed _ _ _ | told _ _ _ | failedPast _ _ | toldPast _ _ | toast _ => rfl
  | rendered _ _ _ _ | session _ | interaction _ | selection _ =>
    simp [K, Chats.state, Chats.shows, Chats.consumed, Chats.setSession, Chats.setInteraction,
      Chats.setSelection, Function.update_of_ne hother]

theorem Entered.elsewhere {other : Int} (h : Entered bot w received chatId cue c) (hother : other ≠ chatId) :
    c.state other = w.chat other := by
  cases h with
  | message _ => rfl
  | @press press callback incoming _ =>
    unfold World.hydrated
    cases w.activeScreens incoming.chatId with
    | some _ => rfl
    | none => simp [Chats.state, World.chats, World.chat, World.installBarrier, Function.update_of_ne hother]

/-- The update has left the chat in the state, and has sent what answers it. -/
structure LeftIn (bot : Bot) (received : TelegramUpdate) (w : World) (chatId : Int) (s : ChatState) : Prop where
  state : { s with answer := none } = ((Event.update bot received).apply w).chat chatId
  answer : ∀ d, s.answer = some d → ∃ m ∈ newMessages bot received w, m.screen = d

/-- **An update keeps what its scripts establish.** -/
theorem update_keeps (hw : P (w.chat chatId))
    (hscript : ∀ cue c ds, Entered bot w received chatId cue c → Script bot c chatId cue ds →
      Establishes bot.telegram (fun s => LeftIn bot received w chatId s → P { s with answer := none }) ds
        (c.state chatId)) :
    P (((Event.update bot received).apply w).chat chatId) := by
  rcases update_plays bot received w with hsame | ⟨played, cue, c, ds, ok, c₁, hentered, hds, hplayed, hafter⟩
  · have hstate : ((Event.update bot received).apply w).chat chatId = w.chat chatId := by
      unfold World.chat
      rw [hsame]
    rw [hstate]
    exact hw
  · have hstate : ∀ other, ((Event.update bot received).apply w).chat other = c₁.state other := by
      intro other
      unfold World.chat
      rw [hafter]
      rfl
    rw [hstate]
    by_cases hchat : chatId = played
    · subst hchat
      obtain ⟨s, hs, hends, new, hsent, hanswer⟩ :=
        played_establishes hplayed hentered.stands (hscript cue c ds hentered hds)
      rw [← hends]
      refine hs ⟨hends.trans (hstate _).symm, fun d hd => ?_⟩
      have hnew : newMessages bot received w = new := by
        have hsent' : ((Event.update bot received).apply w).sent = c₁.sent := congrArg Chats.sent hafter
        unfold newMessages
        rw [hsent', hsent, hentered.fresh.2, List.drop_left]
      rw [hnew]
      exact hanswer d hd
    · rw [Played.elsewhere hplayed hchat, hentered.elsewhere hchat]
      exact hw

end

/-! ## Runs -/

/-- Each event of the run meets the condition in the world it comes to. -/
def World.Along (ok : World → Event → Prop) (w : World) (events : List Event) : Prop :=
  Traces.Along Event.apply ok w events

/-- **What the scripts of a chat establish is kept along runs.** -/
theorem chat_keeps {chatId : Int} {ok : World → Event → Prop} {P : ChatState → Prop}
    (hscript : ∀ w bot received, ok w (.update bot received) → P (w.chat chatId) →
      ∀ cue c ds, Entered bot w received chatId cue c → Script bot c chatId cue ds →
        Establishes bot.telegram (fun s => LeftIn bot received w chatId s → P { s with answer := none }) ds
          (c.state chatId))
    {start : World} {events : List Event} (hrun : start.Along ok events) (hstart : P (start.chat chatId)) :
    P ((start.after events).chat chatId) := by
  refine Traces.Along.keeps (I := fun w => P (w.chat chatId)) (fun w e hok hw => ?_) hrun hstart
  cases e with
  | elsewhere process => exact hw
  | update bot received => exact update_keeps hw (hscript w bot received hok hw)

end TaskBot
