import TaskBot.Presentation.ChatRuns
import TaskBot.Presentation.VoiceConfirmed

/-!
# Where a typed text goes

The dispatcher gives a text to the creation session of the chat, or else to the
dialog about a task that is open.  What the user sees is the active screen: a prompt
asks for the text of a dialog, a step for that of a session.

    Agrees s        the screen is the prompt of the dialog that gets the text, or a step
                    of the session that gets it
    Orderly         no prompt is opened over a session, and none is left behind by an
                    error text
    agrees_along    along orderly updates, screen and stores agree
-/

namespace TaskBot

open Sql Calls Effects Scripts

namespace ChatState

/-- The dialog the active screen asks a text for. -/
def prompt (s : ChatState) : Option TaskInteractionSession := s.screen.bind ScreenDescriptor.promptFor

/-- The kind of session the active screen is a step of. -/
def mode (s : ChatState) : Option CreationMode := s.screen.bind ScreenDescriptor.mode

/-- The text goes where the active screen says. -/
structure Agrees (s : ChatState) : Prop where
  prompt : ∀ session, s.prompt = some session → s.session = none ∧ s.interaction = some session
  step : ∀ mode, s.mode = some mode → ∃ session, s.session = some session ∧ session.mode = mode

namespace Agrees

variable {s s' : ChatState} {d : ScreenDescriptor}

theorem prompt_congr (h : s'.screen = s.screen) : s'.prompt = s.prompt := by
  unfold ChatState.prompt
  rw [h]

theorem mode_congr (h : s'.screen = s.screen) : s'.mode = s.mode := by
  unfold ChatState.mode
  rw [h]

theorem of_free (hscreen : s.screen = some d) (hfree : d.Free) : s.Agrees := by
  constructor
  · intro session hprompt
    unfold ChatState.prompt at hprompt
    rw [hscreen] at hprompt
    cases hfree.2.symm.trans hprompt
  · intro mode hmode
    unfold ChatState.mode at hmode
    rw [hscreen] at hmode
    cases hfree.1.symm.trans hmode

theorem of_step {session : CreationSession} (hscreen : s.screen = some d)
    (hsession : s.session = some session) (hmode : d.mode = some session.mode) : s.Agrees := by
  constructor
  · intro session' hprompt
    unfold ChatState.prompt at hprompt
    rw [hscreen] at hprompt
    cases d <;> first | cases hmode | cases hprompt
  · intro mode h
    unfold ChatState.mode at h
    rw [hscreen] at h
    exact ⟨session, hsession, Option.some.inj (hmode.symm.trans h)⟩

theorem of_prompt {session : TaskInteractionSession} (hscreen : s.screen = some session.screen)
    (hclosed : s.session = none) (hopen : s.interaction = some session) : s.Agrees := by
  constructor
  · intro session' hprompt
    unfold ChatState.prompt at hprompt
    rw [hscreen] at hprompt
    exact ⟨hclosed, hopen.trans hprompt⟩
  · intro mode hmode
    unfold ChatState.mode at hmode
    rw [hscreen] at hmode
    cases hmode

/-- Without a prompt the dialogs do not matter. -/
theorem of_no_prompt (h : s.Agrees) (hscreen : s'.screen = s.screen) (hsession : s'.session = s.session)
    (hnone : s.prompt = none) : s'.Agrees := by
  constructor
  · intro session hprompt
    rw [prompt_congr hscreen, hnone] at hprompt
    cases hprompt
  · intro mode hmode
    rw [mode_congr hscreen] at hmode
    rw [hsession]
    exact h.step mode hmode

theorem of_same (h : s.Agrees) (hscreen : s'.screen = s.screen) (hsession : s'.session = s.session)
    (hinteraction : s'.interaction = s.interaction) : s'.Agrees := by
  constructor
  · intro session hprompt
    rw [prompt_congr hscreen] at hprompt
    rw [hsession, hinteraction]
    exact h.prompt session hprompt
  · intro mode hmode
    rw [mode_congr hscreen] at hmode
    rw [hsession]
    exact h.step mode hmode

end Agrees

end ChatState

/-! ## Scenes -/

/-- The chat was in state `s₀`; now screen and stores agree, or it has been answered with an error text. -/
def Ends (s₀ s : ChatState) : Prop :=
  s.Agrees ∨ (s.answer = some none ∧ s.screen = s₀.screen ∧ s.session = s₀.session ∧
    (s.interaction = s₀.interaction ∨ s.interaction = none))

section

variable {bot : Bot} {chatId : Int} {cue : Cue} {c : Chats} {ds : List Deed} {s₀ s : ChatState}
  {d : ScreenDescriptor} {view : ScreenView}

/-- The first screen of an update is shown. -/
theorem first_screen {P : ChatState → Prop} (hdelivers : bot.telegram.Delivers) (hopen : s.answer = none)
    (h : Establishes bot.telegram P ds { s with screen := some d, answer := some (some d) }) :
    Establishes bot.telegram P (.render d view :: ds) s := by
  have hplay : (Deed.render d view).play s = { s with screen := some d, answer := some (some d) } := by
    unfold Deed.play
    rw [hopen]
    rfl
  refine ⟨fun hstop => absurd hdelivers hstop, ?_⟩
  rw [hplay]
  exact h

theorem shows_ends (hdelivers : bot.telegram.Delivers) (hopen : s.answer = none)
    (h : ({ s with screen := some d, answer := some (some d) } : ChatState).Agrees) :
    Establishes bot.telegram (Ends s₀) [.render d view] s := first_screen hdelivers hopen (.inl h)

theorem tells_ends (hdelivers : bot.telegram.Delivers) (text : String) (hopen : s.answer = none)
    (hscreen : s.screen = s₀.screen) (hsession : s.session = s₀.session)
    (hinteraction : s.interaction = s₀.interaction ∨ s.interaction = none) :
    Establishes bot.telegram (Ends s₀) [.tell text] s := by
  have hplay : (Deed.tell text).play s = { s with answer := some none } := by
    unfold Deed.play
    rw [hopen]
    rfl
  refine ⟨fun hstop => absurd hdelivers hstop, ?_⟩
  rw [hplay]
  exact .inr ⟨rfl, hscreen, hsession, hinteraction⟩

theorem ending_ends (hdelivers : bot.telegram.Delivers) (h : Ending bot ds) (hopen : s.answer = none)
    (hscreen : s.screen = s₀.screen) (hsession : s.session = s₀.session)
    (hinteraction : s.interaction = s₀.interaction ∨ s.interaction = none) :
    Establishes bot.telegram (Ends s₀) ds s := by
  cases h with
  | shown hfree _ => exact shows_ends hdelivers hopen (.of_free rfl hfree)
  | told text => exact tells_ends hdelivers text hopen hscreen hsession hinteraction

/-- What follows the first screen of an update is suppressed. -/
theorem suppressed_ends (hanswered : s.answer.isSome = true)
    (hguarded : ∀ d ∈ ds, d.isGuarded = true) (h : s.Agrees) : Establishes bot.telegram (Ends s₀) ds s := by
  induction ds with
  | nil => exact .inl h
  | cons d ds ih =>
    have hd : d.isGuarded = true := hguarded d List.mem_cons_self
    have hsame : d.play s = s := by
      cases d with
      | render _ _ | tell _ => exact if_pos hanswered
      | _ => cases hd
    refine ⟨fun _ => .inl h, ?_⟩
    rw [hsame]
    exact ih fun d hd => hguarded d (List.mem_cons_of_mem _ hd)

theorem Ending.guarded (h : Ending bot ds) : ∀ d ∈ ds, d.isGuarded = true := by
  cases h with
  | shown _ _ => exact List.forall_mem_singleton.mpr rfl
  | told text => exact List.forall_mem_singleton.mpr rfl

/-- **A scene ends with a screen that agrees with the stores, or with an error text.** -/
theorem scene_ends (hdelivers : bot.telegram.Delivers) (h : Scene bot c chatId cue ds)
    (hopens : cue.opened ≠ none → c.sessions chatId = none) :
    Establishes bot.telegram (Ends (c.state chatId)) ds (c.state chatId) := by
  cases h with
  | ending h => exact ending_ends hdelivers h rfl rfl rfl (.inl rfl)
  | twice hfree _ h =>
    exact first_screen hdelivers rfl (suppressed_ends rfl h.guarded (.of_free rfl hfree))
  | home hfree _ => exact .store id (.store id (.store id (shows_ends hdelivers rfl (.of_free rfl hfree))))
  | opened hcue _ =>
    have hclosed : c.sessions chatId = none := hopens (by rw [hcue]; nofun)
    exact .store id (shows_ends hdelivers rfl (.of_prompt rfl hclosed rfl))
  | quick _ | guidedOpen _ =>
    exact .store id (.store id (shows_ends hdelivers rfl (.of_step rfl rfl rfl)))
  | guided _ hmode _ => exact .store id (shows_ends hdelivers rfl (.of_step rfl rfl hmode))
  | again hsession hmode _ => exact shows_ends hdelivers rfl (.of_step rfl hsession hmode)
  | pend _ hfree _ => exact .store id (shows_ends hdelivers rfl (.of_free rfl hfree))
  | pendVoice hsession _ hmode _ => exact .store id (shows_ends hdelivers rfl (.of_step rfl hsession hmode))
  | pendClosing hfree _ | close hfree _ | closeAfter hfree _ =>
    exact .store id (.store id (shows_ends hdelivers rfl (.of_free rfl hfree)))
  | voice _ _ hmode _ | retype _ _ _ hmode _ =>
    exact .store id (shows_ends hdelivers rfl (.of_step rfl rfl hmode))
  | dictated _ _ _ =>
    -- the session comes behind the processing screen
    refine first_screen hdelivers rfl (.store id (.store id ?_))
    exact suppressed_ends rfl (List.forall_mem_singleton.mpr rfl) (.of_free rfl ⟨rfl, rfl⟩)
  | unheard _ _ =>
    refine first_screen hdelivers rfl ?_
    exact suppressed_ends rfl (List.forall_mem_singleton.mpr rfl) (.of_free rfl ⟨rfl, rfl⟩)
  | drop h => exact .store id (ending_ends hdelivers h rfl rfl rfl (.inl rfl))
  | answering hclosed hopen h =>
    cases h with
    | refused text => exact tells_ends hdelivers text rfl rfl rfl (.inl rfl)
    | saved h => exact .store id (ending_ends hdelivers h rfl rfl rfl (.inr rfl))
    | reassigned h => exact .store id (.store id (ending_ends hdelivers h rfl rfl rfl (.inr rfl)))
    | promptAgain _ => exact shows_ends hdelivers rfl (.of_prompt rfl hclosed hopen)
    | pendReassign _ => exact .store id (shows_ends hdelivers rfl (.of_prompt rfl hclosed hopen))

/-- **So does a script**, unless it leaves the chat as it was. -/
theorem script_ends (hdelivers : bot.telegram.Delivers) (h : Script bot c chatId cue ds)
    (hstart : (c.state chatId).Agrees) (hopens : cue.opened ≠ none → c.sessions chatId = none) :
    Establishes bot.telegram (Ends (c.state chatId)) ds (c.state chatId) := by
  cases h with
  | nothing => exact .inl hstart
  | refused => exact ⟨fun _ => .inl hstart, .inl hstart⟩
  | scene h => exact scene_ends hdelivers h hopens
  | greeting h =>
    cases h with
    | ending h => exact ending_ends hdelivers h rfl rfl rfl (.inl rfl)
    | told text => exact ⟨fun _ => .inl hstart, .inl hstart⟩
  | fresh h =>
    have hstate := c.state_setInteraction chatId none
    have hscene := scene_ends hdelivers h hopens
    rw [hstate] at hscene
    -- behind the closed dialog an error text leaves no dialog
    refine .store id (hscene.mono fun s hs => hs.imp_right ?_)
    rintro ⟨hanswer, hscreen, hsession, hinteraction⟩
    exact ⟨hanswer, hscreen, hsession, .inr (hinteraction.elim id id)⟩

end

/-! ## Runs -/

/-- Telegram takes the messages; no prompt is opened over a creation session; and no prompt is left behind
by an error text that closes its dialog. -/
structure Orderly (chatId : Int) (w : World) (bot : Bot) (received : TelegramUpdate) : Prop where
  delivers : bot.telegram.Delivers
  opens : ∀ press callback, received = .press press → press.parsed = some callback →
    (Cue.press callback).opened ≠ none → w.creationSessions chatId = none
  closes : (w.chat chatId).prompt ≠ none →
    ((Event.update bot received).apply w).taskInteractions chatId = none →
      ∀ m ∈ newMessages bot received w, m.screen ≠ none

/-- The update is orderly, if it is one of the chat. -/
def OrderlyIn (chatId : Int) (w : World) : Event → Prop
  | .update bot received => received.chat = some chatId → Orderly chatId w bot received
  | .elsewhere _ => True

/-- **Along orderly updates, screen and stores agree.** -/
theorem agrees_along {start : World} {chatId : Int} {events : List Event}
    (hrun : start.Along (OrderlyIn chatId) events) (hstart : (start.chat chatId).Agrees) :
    ((start.after events).chat chatId).Agrees := by
  refine chat_keeps (fun w bot received hok hw cue c ds hentered hscript => ?_) hrun hstart
  obtain ⟨hdelivers, hopens, hcloses⟩ := hok hentered.chat
  have hagrees : (c.state chatId).Agrees := by
    rcases hentered.state with hsame | ⟨-, hunknown⟩
    · rw [hsame]
      exact hw
    · rw [hunknown]
      exact .of_free rfl ⟨rfl, rfl⟩
  have hstores : (c.state chatId).session = (w.chat chatId).session ∧
      ((c.state chatId).prompt ≠ none → (w.chat chatId).prompt ≠ none) := by
    rcases hentered.state with hsame | ⟨-, hunknown⟩
    · rw [hsame]
      exact ⟨rfl, id⟩
    · rw [hunknown]
      exact ⟨rfl, fun h => absurd rfl h⟩
  have hclosed : cue.opened ≠ none → c.sessions chatId = none := by
    intro hcue
    cases hentered with
    | message _ => exact absurd rfl hcue
    | @press press callback incoming hincoming =>
      have hsession := hopens press callback rfl (incoming_carries hincoming).1 hcue
      exact hstores.1.trans hsession
  refine (script_ends hdelivers hscript hagrees hclosed).mono fun s hs hleft => ?_
  rcases hs with hs | ⟨hanswer, hscreen, hsession, hinteraction⟩
  · exact hs.of_same rfl rfl rfl
  · by_cases hprompt : (c.state chatId).prompt = none
    · exact hagrees.of_no_prompt hscreen hsession hprompt
    · obtain ⟨m, hm, htold⟩ := hleft.answer none hanswer
      rcases hinteraction with hsame | hnone
      · exact hagrees.of_same hscreen hsession hsame
      · -- the dialog of the prompt is closed, and its screen is still there
        have hafter : ((Event.update bot received).apply w).taskInteractions chatId = none :=
          (congrArg ChatState.interaction hleft.state).symm.trans hnone
        exact absurd htold (hcloses (hstores.2 hprompt) hafter m hm)

/-! ## Routing -/

/-- A message that is routed: its actor, who is registered and within the rate limit, and the world then. -/
structure Routed where
  message : IncomingMessage
  actor : User
  start : World

def TelegramMessage.routed (bot : Bot) (received : TelegramMessage) (w : World) : Option Routed := do
  let incoming ← toIncomingMessage (bot.clockOf 6 0) received
  let w₁ ← w.opened ⟨incoming.chatId, incoming.messageId⟩
  match exec (RegistrationDialog.registerActor bot incoming) w₁ with
  | (.ok (some actor), w₂) => if bot.rateLimiter actor.telegramId then some ⟨incoming, actor, w₂⟩ else none
  | _ => none

/-- The world a handler of the message leaves. -/
def Routed.leaves (r : Routed) (h : Handler Unit) : World :=
  (exec h r.start).2.uninstallBarrier r.message.chatId

section

variable {bot : Bot} {received : TelegramMessage} {w : World} {r : Routed}

theorem routed_stages (hr : received.routed bot w = some r) : ∃ w₁,
    toIncomingMessage (bot.clockOf 6 0) received = some r.message ∧
      w.opened ⟨r.message.chatId, r.message.messageId⟩ = some w₁ ∧
      exec (RegistrationDialog.registerActor bot r.message) w₁ = (.ok (some r.actor), r.start) ∧
      bot.rateLimiter r.actor.telegramId = true := by
  obtain ⟨incoming, hincoming, hrest⟩ := Option.bind_eq_some_iff.mp hr
  obtain ⟨w₁, hopened, hlast⟩ := Option.bind_eq_some_iff.mp hrest
  refine ⟨w₁, ?_⟩
  split at hlast
  · next actor w₂ hregistered =>
    split at hlast
    · next hpasses =>
      cases hlast
      exact ⟨hincoming, hopened, hregistered, hpasses⟩
    · cases hlast
  · cases hlast

/-- **The registration, then the route.** -/
theorem apply_message (hr : received.routed bot w = some r) :
    (Event.update bot (.message received)).apply w = r.leaves (routeMessage bot r.message r.actor) := by
  obtain ⟨w₁, hincoming, hopened, hregistered, hpasses⟩ := routed_stages hr
  have hlimit : exec (RegistrationDialog.checkRateLimit bot r.actor r.message.chatId) r.start =
      (.ok true, r.start) := by
    unfold RegistrationDialog.checkRateLimit
    rw [if_pos hpasses]
    rfl
  show (exec (handleMessage bot received) w).2 = _
  unfold handleMessage
  rw [hincoming]
  simp only
  rw [exec_deliver, hopened]
  simp only
  unfold dispatchMessageInner
  rw [Effects.exec_bind_ok hregistered]
  simp only
  rw [Effects.exec_bind_ok hlimit, if_pos rfl]
  rfl

/-- The stores are those of the chat before the update. -/
theorem routed_stores (hr : received.routed bot w = some r) :
    r.start.creationSessions = w.creationSessions ∧ r.start.taskInteractions = w.taskInteractions := by
  obtain ⟨w₁, -, hopened, hregistered, -⟩ := routed_stages hr
  have hchats := (RegistrationDialog.registerActor_ready hregistered).chats.trans (opened_chats hopened).1
  exact ⟨congrArg Chats.sessions hchats, congrArg Chats.interactions hchats⟩

theorem routed_footprint (hr : received.routed bot w = some r) :
    Footprint (RegistrationDialog.May r.message) w r.start := by
  obtain ⟨w₁, -, hopened, hregistered, -⟩ := routed_stages hr
  have htouches : Touches (RegistrationDialog.May r.message)
      (RegistrationDialog.registerActor bot r.message) w₁ := RegistrationDialog.registerActor_touches
  unfold Touches Moves at htouches
  rw [hregistered] at htouches
  exact (footprint_opened hopened).trans htouches

variable {message : IncomingMessage} {actor : User}

/-- A text goes to the session first. -/
theorem route_session {session : CreationSession} (hcommand : message.textPayload.bind parseCommand = none)
    (hsession : w.creationSessions message.chatId = some session) :
    exec (routeMessage bot message actor) w =
      exec (GuidedCreateCoordinator.handleSessionMessage bot message actor session) w := by
  have hread : exec (creationSession message.chatId) w = (.ok (some session), w) := by
    rw [← hsession]
    rfl
  unfold routeMessage
  rw [hcommand]
  simp only
  rw [Effects.exec_bind_ok hread]

/-- Then it goes to the dialog about a task. -/
theorem route_dialog {session : TaskInteractionSession} (hcommand : message.textPayload.bind parseCommand = none)
    (hclosed : w.creationSessions message.chatId = none)
    (hopen : w.taskInteractions message.chatId = some session) :
    exec (routeMessage bot message actor) w =
      exec (handleTaskInteractionMessage bot message actor session) w := by
  have hread : exec (creationSession message.chatId) w = (.ok none, w) := by
    rw [← hclosed]
    rfl
  have hread' : exec (taskInteraction message.chatId) w = (.ok (some session), w) := by
    rw [← hopen]
    rfl
  unfold routeMessage
  rw [hcommand]
  simp only
  rw [Effects.exec_bind_ok hread]
  simp only
  rw [Effects.exec_bind_ok hread']

theorem Answering.no_session {session : TaskInteractionSession} {ds : List Deed} (h : Answering bot session ds) :
    ∀ d ∈ ds, ∀ opened, d ≠ .session opened := by
  have hending : ∀ {ds : List Deed}, Ending bot ds → ∀ d ∈ ds, ∀ opened, d ≠ .session opened := by
    rintro ds h d hd opened rfl
    exact Bool.false_ne_true (h.guarded _ hd)
  cases h with
  | refused text => exact List.forall_mem_singleton.mpr fun _ => nofun
  | saved h => exact List.forall_mem_cons.mpr ⟨fun _ => nofun, hending h⟩
  | reassigned h =>
    exact List.forall_mem_cons.mpr ⟨fun _ => nofun, List.forall_mem_cons.mpr ⟨fun _ => nofun, hending h⟩⟩
  | promptAgain _ => exact List.forall_mem_singleton.mpr fun _ => nofun
  | pendReassign _ =>
    exact List.forall_mem_cons.mpr ⟨fun _ => nofun, List.forall_mem_singleton.mpr fun _ => nofun⟩

/-- A text that answers a prompt leaves the creation sessions alone. -/
theorem dialog_keeps_sessions (session : TaskInteractionSession) :
    (exec (handleTaskInteractionMessage bot message actor session) w).2.creationSessions =
      w.creationSessions := by
  obtain ⟨ds, hds, hplayed⟩ := @handleTaskInteractionMessage_plays bot actor w session message
  let K : Chats → Chats → Prop := fun c c' => c'.sessions = c.sessions
  have : Std.Refl K := ⟨fun _ => rfl⟩
  have : IsTrans Chats K := ⟨fun _ _ _ h h' => h'.trans h⟩
  refine hplayed.within (R := K) fun d hd ok c c' hact => ?_
  cases hact with
  | session opened => exact absurd rfl (hds.no_session _ hd opened)
  | _ => rfl

/-- What answers a prompt creates no task. -/
theorem dialog_creates_nothing (hr : received.routed bot w = some r) (session : TaskInteractionSession)
    (uid : Uuid) (t : Task) :
    ¬ Creates w (r.leaves (handleTaskInteractionMessage bot r.message r.actor session)) uid t := by
  intro hcreated
  have hregistered : TaskMoves (.createsOnly fun _ => False) w.db r.start.db :=
    registration_creates_nothing (routed_footprint hr)
  have htouches : Touches (fun l => ∃ text, l = .called (session.call r.actor text))
      (handleTaskInteractionMessage bot r.message r.actor session) r.start :=
    handleTaskInteractionMessage_touches fun text _ => ⟨text, rfl⟩
  have hran : TaskMoves (.createsOnly fun _ => False) r.start.db
      (r.leaves (handleTaskInteractionMessage bot r.message r.actor session)).db := by
    refine (Footprint.moves htouches) fun call hmay => rights_createsOnly fun message decision hcall => ?_
    obtain ⟨text, htext⟩ := hmay
    rw [hcall] at htext
    unfold TaskInteractionSession.call at htext
    cases hkind : session.kind <;> rw [hkind] at htext <;> cases htext
  exact (hregistered.trans hran).created hcreated

end

/-! ## Top theorem -/

/-- **A typed text goes where the screen says.**  In every run of orderly updates from a chat whose screen
and stores agree, a text that is no command and is routed

* is an answer to the prompt that is the active screen, given to the dialog about its very task; it
  creates no task and leaves the creation sessions alone;
* is given to the creation session of its kind, if the active screen is a step of one. -/
theorem typed_text_routed (start : World) (chatId : Int) (hstart : (start.chat chatId).Agrees)
    (pre : List Event) (hrun : start.Along (OrderlyIn chatId) pre) (bot : Bot) (received : TelegramMessage)
    (r : Routed) (hr : received.routed bot (start.after pre) = some r) (hchat : r.message.chatId = chatId)
    (hcommand : r.message.textPayload.bind parseCommand = none) (screen : ActiveScreenState)
    (hscreen : (start.after pre).activeScreens chatId = some screen) :
    (∀ taskUid origin kind, screen.descriptor = .taskInteractionPrompt taskUid origin kind →
      (Event.update bot (.message received)).apply (start.after pre) =
          r.leaves (handleTaskInteractionMessage bot r.message r.actor ⟨taskUid, origin, kind⟩) ∧
        (∀ uid t, ¬ Creates (start.after pre)
          ((Event.update bot (.message received)).apply (start.after pre)) uid t) ∧
        ((Event.update bot (.message received)).apply (start.after pre)).creationSessions =
          (start.after pre).creationSessions) ∧
    ∀ mode, screen.descriptor.mode = some mode → ∃ session : CreationSession, session.mode = mode ∧
      (start.after pre).creationSessions chatId = some session ∧
      (Event.update bot (.message received)).apply (start.after pre) =
        r.leaves (GuidedCreateCoordinator.handleSessionMessage bot r.message r.actor session) := by
  subst hchat
  have hagrees : ((start.after pre).chat r.message.chatId).Agrees := agrees_along hrun hstart
  obtain ⟨hsessions, hinteractions⟩ := routed_stores hr
  have hshown : ((start.after pre).chat r.message.chatId).screen = some screen.descriptor :=
    congrArg (Option.map ActiveScreenState.descriptor) hscreen
  rw [apply_message hr]
  constructor
  · intro taskUid origin kind hprompt
    obtain ⟨hclosed, hopen⟩ := hagrees.prompt ⟨taskUid, origin, kind⟩ (by
      unfold ChatState.prompt
      rw [hshown, hprompt]
      rfl)
    have hroute : exec (routeMessage bot r.message r.actor) r.start = exec
        (handleTaskInteractionMessage bot r.message r.actor ⟨taskUid, origin, kind⟩) r.start := by
      refine route_dialog hcommand ?_ ?_
      · rw [hsessions]
        exact hclosed
      · rw [hinteractions]
        exact hopen
    have hleaves : r.leaves (routeMessage bot r.message r.actor) =
        r.leaves (handleTaskInteractionMessage bot r.message r.actor ⟨taskUid, origin, kind⟩) := by
      unfold Routed.leaves
      rw [hroute]
    rw [hleaves]
    refine ⟨rfl, fun uid t => dialog_creates_nothing hr _ uid t, ?_⟩
    rw [← hsessions]
    exact dialog_keeps_sessions _
  · intro mode hmode
    obtain ⟨session, hsession, hkind⟩ := hagrees.step mode (by
      unfold ChatState.mode
      rw [hshown]
      exact hmode)
    have hroute : exec (routeMessage bot r.message r.actor) r.start = exec
        (GuidedCreateCoordinator.handleSessionMessage bot r.message r.actor session) r.start := by
      refine route_session hcommand ?_
      rw [hsessions]
      exact hsession
    refine ⟨session, hkind, hsession, ?_⟩
    unfold Routed.leaves
    rw [hroute]

/-! ## A comment on a card -/

def cardDetails (t : Task) : TaskStatusDetails where
  taskUid := t.taskUid
  publicCode := formatPublicTaskCodeOrPlaceholder t.id
  title := t.title
  status := t.status
  deadline := none
  expectedResult := t.expectedResult
  descriptionLines := [t.description]
  acceptanceCriteria := t.acceptanceCriteria
  historyEntries := []
  assigneeDisplay := none
  deliveryStatus := none
  blockedReason := t.blockedReason
  comments := []
  availableActions := [.addComment]

/-- A bot that finds the cards of stored tasks; `n` makes the identifier of the next one. -/
def cardBot (n : UInt8) : Bot :=
  { parsingBot "" with
    newTaskUid := sampleUid n
    queries := { Queries.unavailable with
      taskStatus := fun db _ uid => okOrElse ((db.stored uid).map cardDetails) (databaseError "no such task")
      resolveTaskUid := fun db reference =>
        okOrElse ((db.tasks.rows.find? fun r => formatPublicTaskCodeOrPlaceholder (some r.id) = reference).map
          fun r => r.val.task.taskUid) (databaseError "no such task") } }

/-- A task is created, its card opened, and a comment asked for. -/
def commenting : List Event :=
  [.update (cardBot 1) (.message (typedMessage 5 "Подготовить отчёт")),
    .update (cardBot 2) (.message (typedMessage 6 "/status T-0001")),
    .update (cardBot 2) (.press (pressed 101 3 (.startTaskCommentInput (sampleUid 1) .created)))]

/-- What is typed then is no new task. -/
theorem comment_is_no_task : ¬ ∃ uid t, Creates (onboardedWorld.after commenting)
    ((Event.update (cardBot 2) (.message (typedMessage 7 "Согласовано без замечаний"))).apply
      (onboardedWorld.after commenting)) uid t := by
  rintro ⟨uid, t, hcreates⟩
  have hsome : ((typedMessage 7 "Согласовано без замечаний").routed (cardBot 2)
      (onboardedWorld.after commenting)).isSome = true := by decide +kernel
  obtain ⟨r, hr⟩ := Option.isSome_iff_exists.mp hsome
  obtain ⟨_, hincoming, -, -, -⟩ := routed_stages hr
  have hmessage : r.message = ⟨7, 7, 7, "Анна Петрова", none, .text "Согласовано без замечаний", 0, none, false⟩ :=
    (Option.some.inj hincoming).symm
  have hscreen : (onboardedWorld.after commenting).activeScreens 7 =
      some ⟨3, .taskInteractionPrompt (sampleUid 1) .created .comment⟩ := by decide +kernel
  have horderly : ∀ {w : World} {bot : Bot} {received : TelegramUpdate}, bot.telegram = plainTelegram →
      w.creationSessions 7 = none → (w.chat 7).prompt = none → OrderlyIn 7 w (.update bot received) := by
    intro w bot received htelegram hclosed hprompt _
    refine ⟨?_, fun _ _ _ _ _ => hclosed, fun h => absurd hprompt h⟩
    rw [htelegram]
    exact plainTelegram_delivers
  have hrun : onboardedWorld.Along (OrderlyIn 7) commenting :=
    ⟨horderly rfl rfl rfl, horderly rfl (by decide +kernel) (by decide +kernel),
      horderly rfl (by decide +kernel) (by decide +kernel), trivial⟩
  have hstart : (onboardedWorld.chat 7).Agrees := .of_free rfl ⟨rfl, rfl⟩
  exact ((typed_text_routed onboardedWorld 7 hstart commenting hrun (cardBot 2)
    (typedMessage 7 "Согласовано без замечаний") r hr (by rw [hmessage]) (by rw [hmessage]; decide +kernel) _
    hscreen).1 _ _ _ rfl).2.1 uid t hcreates

/-- The comment is asked for while a quick creation is open. -/
def commentingInQuick : List Event :=
  [.update (cardBot 1) (.message (typedMessage 5 "Подготовить отчёт")),
    .update (cardBot 2) (.message (typedMessage 6 "/new_task")),
    .update (cardBot 2) (.press (pressed 101 3 .startQuickCreate)),
    .update (cardBot 2) (.message (typedMessage 7 "/status T-0001")),
    .update (cardBot 2) (.press (pressed 102 3 (.startTaskCommentInput (sampleUid 1) .created)))]

/-- The comment becomes a task of its own. -/
theorem comment_becomes_task : ¬ ∀ (start : World) (chatId : Int), (start.chat chatId).Agrees →
    ∀ (pre : List Event) (bot : Bot) (received : TelegramMessage) (r : Routed),
      received.routed bot (start.after pre) = some r → r.message.chatId = chatId →
        r.message.textPayload.bind parseCommand = none → ∀ screen : ActiveScreenState,
          (start.after pre).activeScreens chatId = some screen → ∀ taskUid origin kind,
            screen.descriptor = .taskInteractionPrompt taskUid origin kind → ∀ uid t,
              ¬ Creates (start.after pre) ((Event.update bot (.message received)).apply (start.after pre)) uid t := by
  intro hall
  have hsome : ((typedMessage 8 "Согласовано без замечаний").routed (cardBot 2)
      (onboardedWorld.after commentingInQuick)).isSome = true := by decide +kernel
  obtain ⟨r, hr⟩ := Option.isSome_iff_exists.mp hsome
  obtain ⟨_, hincoming, -, -, -⟩ := routed_stages hr
  have hmessage : r.message = ⟨8, 7, 7, "Анна Петрова", none, .text "Согласовано без замечаний", 0, none, false⟩ :=
    (Option.some.inj hincoming).symm
  have hscreen : (onboardedWorld.after commentingInQuick).activeScreens 7 =
      some ⟨3, .taskInteractionPrompt (sampleUid 1) .created .comment⟩ := by decide +kernel
  have hstored : (((Event.update (cardBot 2) (.message (typedMessage 8 "Согласовано без замечаний"))).apply
      (onboardedWorld.after commentingInQuick)).db.stored (sampleUid 2)).isSome = true := by decide +kernel
  obtain ⟨t, ht⟩ := Option.isSome_iff_exists.mp hstored
  refine hall onboardedWorld 7 (.of_free rfl ⟨rfl, rfl⟩) commentingInQuick (cardBot 2)
    (typedMessage 8 "Согласовано без замечаний") r hr (by rw [hmessage]) (by rw [hmessage]; decide +kernel) _
    hscreen _ _ _ rfl (sampleUid 2) t ⟨?_, ht⟩
  decide +kernel

end TaskBot
