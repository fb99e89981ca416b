import TaskBot.Presentation.Scenes
import TaskBot.Presentation.Updates

/-!
# What an update does to the chats

The registration of the sender is played first: it either ends the update with a
greeting or leaves the chats alone.  What is behind it is one scene, and a command
or a press ends the dialog about a task before.

    w.chats  →  Entered  c                   the barrier is installed
                Played   ds  from c to c'    ds is a script of the update      (update_plays)
                c' without the barrier
-/

namespace TaskBot

open Sql Calls Effects Scripts

/-- A reply of the registration. -/
inductive Greeting (bot : Bot) : List Deed → Prop where
  | ending {ds : List Deed} (h : Ending bot ds) : Greeting bot ds
  | told (text : String) : Greeting bot [.tellPast text]

/-- What an update does in its chat. -/
inductive Script (bot : Bot) (c : Chats) (chatId : Int) (cue : Cue) : List Deed → Prop where
  | nothing : Script bot c chatId cue []
  | refused : Script bot c chatId cue [.toast]
  | greeting {ds : List Deed} (h : Greeting bot ds) : Script bot c chatId cue ds
  | scene {ds : List Deed} (h : Scene bot c chatId cue ds) : Script bot c chatId cue ds
  | fresh {ds : List Deed} (h : Scene bot (c.setInteraction chatId none) chatId cue ds) :
      Script bot c chatId cue (.interaction none :: ds)

/-! ## Registration -/

section

variable {bot : Bot} {chatId : Int} {w : World} {message : IncomingMessage}

namespace RegistrationDialog

theorem publishLinkScreen_ends (text : String) (candidates : List EmployeeCandidateView) (allow : Bool) :
    Plays bot chatId (Ending bot) (publishLinkScreen bot chatId text candidates allow) w :=
  .silent_bind (setRegistrationLink_silent _ _ _) fun _ _ _ _ =>
    fresh_ends ⟨rfl, rfl⟩ (.of (.registrationLink candidates allow) rfl)

theorem sendPlain_greets (text : String) : Plays bot chatId (Greeting bot) (sendPlain bot chatId text) w :=
  .act (sendPlain_does text w) (.told text)

theorem greets_ending {h : Handler Unit} (hh : Plays bot chatId (Ending bot) h w) :
    Plays bot chatId (Greeting bot) h w := hh.mono fun _ => .ending

theorem renderOutcome_greets (outcome : OnboardingOutcome) :
    Plays bot chatId (Greeting bot) (renderOutcome bot chatId outcome) w := by
  cases outcome with
  | askFirstName user => exact greets_ending (fresh_ends ⟨rfl, rfl⟩ (.inl rfl))
  | askLastName user => exact greets_ending (fresh_ends ⟨rfl, rfl⟩ (.inl rfl))
  | askEmployeeLink user clarification => exact greets_ending (publishLinkScreen_ends _ _ _)
  | completed user => exact greets_ending (fresh_ends ⟨rfl, rfl⟩ (.inl rfl))
  | retryPrompt reason => exact sendPlain_greets _

theorem renderReply_greets (reply : GateReply) :
    Plays bot chatId (Greeting bot) (renderReply bot chatId reply) w := by
  cases reply with
  | outcome outcome => exact renderOutcome_greets outcome
  | welcome => exact sendPlain_greets _
  | error error => exact greets_ending (error_ends error)

/-- A reply, or nothing. -/
abbrev Replies (bot : Bot) (chatId : Int) {α : Type} (h : Handler α) (w : World) : Prop :=
  Plays bot chatId (fun ds => ds = [] ∨ Greeting bot ds) h w

/-- A reply that ends the update. -/
theorem reply_then {α : Type} {a : α} {h : Handler Unit} (hh : Plays bot chatId (Greeting bot) h w) :
    Replies bot chatId (do h; pure a) w :=
  .stop_or_go (hh.mono fun _ => .inr) fun _ _ _ => .inl ⟨a, rfl⟩

theorem registerLinked_replies : Replies bot message.chatId (registerLinked bot message) w := by
  have hfailed : ∀ error w', Replies bot message.chatId
      (do sendError bot message.chatId error; pure none : Handler (Option User)) w' :=
    fun error _ => reply_then (greets_ending (error_ends error))
  refine .silent_bind (useCase_silent _ _) fun preview w₁ _ _ => ?_
  cases preview with
  | error error => exact hfailed error w₁
  | ok preview =>
    cases preview with
    | clarificationRequired request => exact reply_then (greets_ending (publishLinkScreen_ends _ _ _))
    | ready decision =>
      refine .silent_bind (ask_silent bot 2 _) fun registered w₂ _ _ => ?_
      cases registered with
      | ok actor => exact .pure _ (.inl rfl)
      | error error => exact hfailed error w₂

theorem registerActor_replies : Replies bot message.chatId (registerActor bot message) w := by
  refine .silent_bind (ask_silent bot 0 _) fun gated w₁ _ _ => ?_
  cases gated with
  | error error => exact .pure _ (.inl rfl)
  | ok gated =>
    obtain ⟨result, reply⟩ := gated
    cases result with
    | notApplicable => exact registerLinked_replies
    | inProgress | justCompleted =>
      cases reply with
      | none => exact .pure _ (.inl rfl)
      | some reply => exact reply_then (renderReply_greets reply)

theorem SameChats.chats {w' : World} (h : SameChats w w') : w'.chats = w.chats := by
  rw [h]
  rfl

/-- **The registration ends the update or leaves the chats alone.** -/
theorem registerActor_plays {α : Type} {S : List Deed → Prop} {f : Option User → Handler α} {a : α}
    (hS : ∀ ds, ds = [] ∨ Greeting bot ds → S ds) (hnone : f none = pure a)
    (hf : ∀ actor w', w'.chats = w.chats → Plays bot message.chatId S (f (some actor)) w') :
    Plays bot message.chatId S (registerActor bot message >>= f) w := by
  refine .stop_or_go (registerActor_replies.mono hS) fun registered w' hrun => ?_
  cases registered with
  | none => exact .inl ⟨a, hnone⟩
  | some actor =>
    have hchats : w'.chats = w.chats := (registerActor_ready hrun).chats
    exact .inr ⟨hchats, hf actor w' hchats⟩

theorem checkRateLimit_plays {α : Type} {S : List Deed → Prop} {actor : User} {f : Bool → Handler α} {a : α}
    (hS : ∀ ds, ds = [] ∨ Greeting bot ds → S ds) (hfalse : f false = pure a)
    (hf : Plays bot chatId S (f true) w) :
    Plays bot chatId S (checkRateLimit bot actor chatId >>= f) w := by
  by_cases hpasses : bot.rateLimiter actor.telegramId = true
  · have hrun : exec (checkRateLimit bot actor chatId) w = (.ok true, w) := by
      unfold checkRateLimit
      rw [if_pos hpasses]
      rfl
    exact .ok_bind hrun rfl hf
  · have hreplies : Replies bot chatId (checkRateLimit bot actor chatId) w := by
      unfold checkRateLimit
      rw [if_neg hpasses]
      exact .silent_bind (ask_silent bot 3 _) fun _ _ _ _ => reply_then (sendPlain_greets _)
    refine .stop_or_go (hreplies.mono hS) fun allowed w' hrun => ?_
    unfold checkRateLimit at hrun
    rw [if_neg hpasses] at hrun
    obtain ⟨_, _, -, hrest⟩ := exec_bind_eq_ok hrun
    obtain ⟨_, _, -, hpure⟩ := exec_bind_eq_ok hrest
    cases hpure
    exact .inl ⟨a, hfalse⟩

theorem isUserInOnboardingLinkStep_silent (bot : Bot) (telegramId : Int) :
    LeavesChats (isUserInOnboardingLinkStep bot telegramId) := by
  refine .bind (useCase_silent _ _) fun probed => ?_
  split <;> exact .pure _

theorem handleRegistrationLinkCallback_greets (selection : OnboardingLinkSelection) :
    Plays bot message.chatId (Greeting bot) (handleRegistrationLinkCallback bot message selection) w := by
  have hstale : ∀ w', Plays bot message.chatId (Greeting bot) (sendRegistrationStale bot message.chatId) w' :=
    fun _ => greets_ending (screen_ends ⟨rfl, rfl⟩ (.inl rfl))
  have hregister : ∀ decision notice w',
      Plays bot message.chatId (Greeting bot) (registerDecided bot message decision notice) w' := by
    intro decision notice w'
    refine .silent_bind (ask_silent bot 4 _) fun result w₁ _ _ => ?_
    cases result with
    | error error => exact greets_ending (error_ends error)
    | ok actor =>
      refine .silent_bind (clearRegistrationLink_silent _) fun _ w₂ _ _ => ?_
      exact greets_ending (menu_ends rfl rfl)
  refine .silent_bind (isUserInOnboardingLinkStep_silent bot _) fun inLinkStep w₁ _ _ => ?_
  cases inLinkStep with
  | true =>
    refine .silent_bind (ask_silent bot 4 _) fun result w₂ _ _ => ?_
    cases result with
    | error error => exact greets_ending (error_ends error)
    | ok outcome =>
      exact .silent_bind (clearRegistrationLink_silent _) fun _ _ _ _ => renderOutcome_greets outcome
  | false =>
    cases selection with
    | continueWithoutLink => exact hregister _ _ w₁
    | pickEmployee employeeId =>
      have hlink : LeavesChats (registrationLink message.chatId) := fun _ => ⟨_, _, rfl, rfl⟩
      refine .silent_bind hlink fun link w₂ _ _ => ?_
      cases link with
      | none => exact hstale w₂
      | some pending =>
        simp only
        split
        · exact hregister _ _ w₂
        · exact hstale w₂

end RegistrationDialog

/-! ## Updates -/

variable {actor : User}

theorem script_of_reply {c : Chats} {cue : Cue} (ds : List Deed) (h : ds = [] ∨ Greeting bot ds) :
    Script bot c chatId cue ds := by
  rcases h with rfl | hgreeting
  · exact .nothing
  · exact .greeting hgreeting

/-- A command or a press ends the dialog about a task first. -/
theorem fresh_plays {cue : Cue} {go : Handler Unit}
    (h : ∀ w', w'.chats = w.chats.setInteraction chatId none →
      Plays bot chatId (Scene bot (w.chats.setInteraction chatId none) chatId cue) go w') :
    Plays bot chatId (Script bot w.chats chatId cue) (do clearTaskInteraction chatId; go) w := by
  refine .always_bind (clearTaskInteraction_stores bot chatId) fun _ w' hrun => ?_
  have hchats : w'.chats = w.chats.setInteraction chatId none := by
    cases hrun
    rfl
  exact (h w' hchats).mono fun _ => .fresh

/-- **A message that is routed.** -/
theorem routeMessage_plays : Plays bot message.chatId (Script bot w.chats message.chatId (.message message))
    (routeMessage bot message actor) w := by
  unfold routeMessage
  cases hcommand : message.textPayload.bind parseCommand with
  | some command => exact fresh_plays fun _ _ => runCommand_plays message command
  | none =>
    have hsessions : exec (creationSession message.chatId) w = (.ok (w.chats.sessions message.chatId), w) := rfl
    have hinteractions : exec (taskInteraction message.chatId) w =
        (.ok (w.chats.interactions message.chatId), w) := rfl
    refine .ok_bind hsessions rfl ?_
    cases hsession : w.chats.sessions message.chatId with
    | some session =>
      exact (GuidedCreateCoordinator.handleSessionMessage_plays rfl hcommand hsession).mono fun _ => .scene
    | none =>
      refine .ok_bind hinteractions rfl ?_
      cases hinteraction : w.chats.interactions message.chatId with
      | some session =>
        exact handleTaskInteractionMessage_plays.mono fun _ h => .scene (.answering hsession hinteraction h)
      | none =>
        have hcreate : Plays bot message.chatId (Scene bot w.chats message.chatId (.message message))
            (GuidedCreateCoordinator.createAndPresent bot message.chatId message .clear) w :=
          GuidedCreateCoordinator.createAndPresent_plays message fun h => nomatch h
        refine Performs.mono (S := Scene bot w.chats message.chatId (.message message)) ?_ fun _ => .scene
        unfold intakeMessage
        cases message.content with
        | voice voice => exact VoiceCreateCoordinator.start_plays rfl
        | text _ => exact hcreate
        | command _ => exact hcreate

theorem dispatchMessageInner_plays :
    Plays bot message.chatId (Script bot w.chats message.chatId (.message message))
      (dispatchMessageInner bot message) w := by
  refine RegistrationDialog.registerActor_plays (a := ()) script_of_reply rfl fun actor w' hchats => ?_
  rw [← hchats]
  exact RegistrationDialog.checkRateLimit_plays (a := ()) script_of_reply rfl routeMessage_plays

/-- **A press that has got to its handler.** -/
theorem runCallback_plays (callback : TelegramCallback) :
    Plays bot message.chatId (Script bot w.chats message.chatId (.press callback))
      (runCallback bot message actor callback) w := by
  unfold runCallback
  cases hlink : RegistrationDialog.linkSelection callback with
  | some selection =>
    exact (RegistrationDialog.handleRegistrationLinkCallback_greets selection).mono fun _ => .greeting
  | none => exact fresh_plays fun _ hchats => callbackAction_plays callback hchats hlink

theorem admitPress_plays {c : Chats} {cue : Cue} (callbackId : String) (callback : TelegramCallback) :
    Plays bot chatId (Script bot c chatId cue) (admitPress bot callbackId message callback actor) w := by
  have htoast : ∀ text (answer : Option User) w', Plays bot chatId (Script bot c chatId cue)
      (do answerCallback bot callbackId text; pure answer) w' := fun text answer w' =>
    .act_bind (answerCallback_does callbackId text w') ⟨_, .refused⟩ fun _ _ _ => .pure answer .refused
  refine .silent_bind (fun _ => ⟨_, _, rfl, rfl⟩) fun w' _ _ _ => ?_
  simp only
  split
  · exact htoast _ none _
  · split
    · exact htoast _ none _
    · exact htoast _ (some actor) _

/-- Where the handling of an update begins: the chat has a barrier, and a press counts as one of the
active screen where there is none. -/
inductive Entered (bot : Bot) (w : World) : TelegramUpdate → Int → Cue → Chats → Prop where
  | message {received : TelegramMessage} {incoming : IncomingMessage}
      (h : toIncomingMessage (bot.clockOf 6 0) received = some incoming) :
      Entered bot w (.message received) incoming.chatId (.message incoming)
        (w.installBarrier incoming.chatId).chats
  | press {press : CallbackQuery} {callback : TelegramCallback} {incoming : IncomingMessage}
      (h : press.incoming bot = some (callback, incoming)) :
      Entered bot w (.press press) incoming.chatId (.press callback)
        ((w.hydrated incoming.chatId incoming.messageId).installBarrier incoming.chatId).chats

/-- The barrier of the chat goes. -/
def Chats.left (c : Chats) (chatId : Int) : Chats :=
  { c with barriers := Function.update c.barriers chatId none }

/-- The update has played a script in its chat. -/
def UpdatePlayed (bot : Bot) (w : World) (received : TelegramUpdate) (c' : Chats) : Prop :=
  ∃ chatId cue c ds ok c₁, Entered bot w received chatId cue c ∧ Script bot c chatId cue ds ∧
    Played (Deed.Acts bot.telegram chatId) ds ok c c₁ ∧ c' = c₁.left chatId

theorem opened_chats {w w₁ : World} {key : DedupKey} (h : w.opened key = some w₁) :
    w₁.chats = (w.installBarrier key.chatId).chats ∧ w₁.activeScreens = w.activeScreens := by
  unfold World.opened at h
  split at h
  · cases h
    exact ⟨rfl, rfl⟩
  · cases h

theorem hydrated_chats {w w₁ : World} {key : DedupKey} (messageId : Int) (h : w.opened key = some w₁) :
    (w₁.hydrated key.chatId messageId).chats =
      ((w.hydrated key.chatId messageId).installBarrier key.chatId).chats := by
  obtain ⟨hchats, hscreens⟩ := opened_chats h
  unfold World.hydrated
  rw [hscreens]
  cases w.activeScreens key.chatId with
  | some _ => exact hchats
  | none =>
    exact congrArg (fun chats : Chats =>
      { chats with screens := Function.update w.activeScreens key.chatId (some ⟨messageId, .unknown⟩) }) hchats

theorem exec_hydrateIfMissing (chatId messageId : Int) (w : World) :
    exec (hydrateIfMissing chatId messageId) w = (.ok (), w.hydrated chatId messageId) := by
  unfold hydrateIfMissing World.hydrated
  refine (Effects.exec_modify _ w).trans ?_
  cases w.activeScreens chatId <;> rfl

/-- A press that gets to no handler. -/
theorem admitCallback_played {callbackId : String} {callback : TelegramCallback} {cue : Cue} {c : Chats}
    (w : World) : ∃ ds ok, Script bot c message.chatId cue ds ∧
      Played (Deed.Acts bot.telegram message.chatId) ds ok
        (w.hydrated message.chatId message.messageId).chats
        (exec (admitCallback bot callbackId message callback) w).2.chats := by
  unfold admitCallback
  rw [Effects.exec_bind_ok (exec_hydrateIfMissing message.chatId message.messageId w)]
  refine exists_comm.mp ⟨_, (RegistrationDialog.registerActor_plays (S := Script bot c message.chatId cue)
    script_of_reply rfl fun actor _ _ => admitPress_plays callbackId callback)⟩

/-- **An update leaves the chats alone or plays a script in its chat.** -/
theorem update_plays (bot : Bot) (received : TelegramUpdate) (w : World) :
    ((Event.update bot received).apply w).chats = w.chats ∨
      UpdatePlayed bot w received ((Event.update bot received).apply w).chats := by
  cases received with
  | message received =>
    show (exec (handleMessage bot received) w).2.chats = _ ∨
      UpdatePlayed bot w _ (exec (handleMessage bot received) w).2.chats
    unfold handleMessage
    cases hincoming : toIncomingMessage (bot.clockOf 6 0) received with
    | none => exact .inl rfl
    | some incoming =>
      simp only
      rw [exec_deliver]
      cases hopened : w.opened ⟨incoming.chatId, incoming.messageId⟩ with
      | none => exact .inl rfl
      | some w₁ =>
        obtain ⟨ds, hds, hplayed⟩ := @dispatchMessageInner_plays bot w₁ incoming
        rw [(opened_chats hopened).1] at hds hplayed
        exact .inr ⟨_, _, _, ds, _, _, .message hincoming, hds, hplayed, rfl⟩
  | press press =>
    cases hhandled : press.handled bot w with
    | some h =>
      rw [apply_press hhandled]
      obtain ⟨w₁, hincoming, hopened, -⟩ := handled_stages hhandled
      obtain ⟨ds, hds, hplayed⟩ := @runCallback_plays bot h.start h.message h.actor h.callback
      have hstart : h.start.chats =
          ((w.hydrated h.message.chatId h.message.messageId).installBarrier h.message.chatId).chats := by
        have hsame := (handled_start hhandled).1
        unfold SameBut at hsame
        rw [hsame]
        rfl
      rw [hstart] at hds hplayed
      exact .inr ⟨_, _, _, ds, _, _, .press hincoming, hds, hplayed, rfl⟩
    | none =>
      show (exec (handleCallbackQuery bot press) w).2.chats = _ ∨
        UpdatePlayed bot w _ (exec (handleCallbackQuery bot press) w).2.chats
      unfold handleCallbackQuery
      unfold CallbackQuery.handled at hhandled
      cases hincoming : press.incoming bot with
      | none => exact .inl rfl
      | some p =>
        obtain ⟨callback, incoming⟩ := p
        simp only
        rw [exec_deliver]
        cases hopened : w.opened ⟨incoming.chatId, press.idHash⟩ with
        | none => exact .inl rfl
        | some w₁ =>
          obtain ⟨ds, ok, hds, hplayed⟩ := @admitCallback_played bot incoming press.id callback (.press callback)
            ((w.hydrated incoming.chatId incoming.messageId).installBarrier incoming.chatId).chats w₁
          rw [hydrated_chats incoming.messageId hopened] at hplayed
          have hends : (exec (dispatchCallbackInner bot press.id incoming callback) w₁).2 =
              (exec (admitCallback bot press.id incoming callback) w₁).2 := by
            rw [hincoming] at hhandled
            simp only [Option.bind_eq_bind, Option.bind_some, hopened] at hhandled
            unfold dispatchCallbackInner
            cases hadmission : exec (admitCallback bot press.id incoming callback) w₁ with
            | mk r w₂ =>
              rw [hadmission] at hhandled
              cases r with
              | error error => rw [exec_bind_error hadmission]
              | ok admitted =>
                cases admitted with
                | some actor => cases hhandled
                | none => rw [Effects.exec_bind_ok hadmission, Effects.exec_pure]
          rw [← hends] at hplayed
          exact .inr ⟨_, _, _, ds, ok, _, .press hincoming, hds, hplayed, rfl⟩

end

/-! ## What is sent -/

/-- A screen comes with a keyboard of its own; nothing is sent past the barrier. -/
def Deed.Proper (bot : Bot) : Deed → Prop
  | render d view => Shown bot d view
  | tellPast _ => False
  | _ => True

section

variable {bot : Bot} {chatId : Int} {cue : Cue} {c : Chats} {ds : List Deed}

theorem Ending.proper (h : Ending bot ds) : ∀ d ∈ ds, d.Proper bot := by
  cases h with
  | shown hfree hshown => simpa [Deed.Proper] using hshown
  | told text => simp [Deed.Proper]

theorem Answering.proper {session : TaskInteractionSession} (h : Answering bot session ds) :
    ∀ d ∈ ds, d.Proper bot := by
  cases h with
  | refused text => simp [Deed.Proper]
  | saved h => exact List.forall_mem_cons.mpr ⟨trivial, h.proper⟩
  | reassigned h => exact List.forall_mem_cons.mpr ⟨trivial, List.forall_mem_cons.mpr ⟨trivial, h.proper⟩⟩
  | promptAgain hshown | pendReassign hshown => simpa [Deed.Proper] using hshown

/-- **The deeds of a scene are proper.** -/
theorem Scene.proper (h : Scene bot c chatId cue ds) : ∀ d ∈ ds, d.Proper bot := by
  cases h with
  | ending h => exact h.proper
  | twice _ hshown h => exact List.forall_mem_cons.mpr ⟨hshown, h.proper⟩
  | drop h => exact List.forall_mem_cons.mpr ⟨trivial, h.proper⟩
  | answering _ _ h => exact h.proper
  | dictated hshown _ hshown' => simpa [Deed.Proper] using ⟨hshown, hshown'⟩
  | unheard hshown hshown' => simpa [Deed.Proper] using ⟨hshown, hshown'⟩
  | home _ hshown | opened _ hshown | quick hshown | guidedOpen hshown | guided _ _ hshown
  | again _ _ hshown | pend _ _ hshown | pendClosing _ hshown | pendVoice _ _ _ hshown | close _ hshown
  | closeAfter _ hshown | voice _ _ _ hshown | retype _ _ _ _ hshown => simpa [Deed.Proper] using hshown

/-- A message in the past of the barrier comes alone. -/
theorem Script.proper_or_past (h : Script bot c chatId cue ds) :
    (∀ d ∈ ds, d.Proper bot) ∨ ∃ text, ds = [.tellPast text] := by
  cases h with
  | nothing => exact .inl (List.forall_mem_nil _)
  | refused => exact .inl (List.forall_mem_singleton.mpr trivial)
  | scene h => exact .inl h.proper
  | fresh h => exact .inl (List.forall_mem_cons.mpr ⟨trivial, h.proper⟩)
  | greeting h =>
    cases h with
    | ending h => exact .inl h.proper
    | told text => exact .inr ⟨text, rfl⟩

end

/-- What the barrier of the chat lets through yet. -/
def Chats.budget (c : Chats) (chatId : Int) : Nat :=
  match c.barriers chatId with
  | some ⟨false⟩ => 1
  | _ => 0

/-- A message to the chat; a screen with one of its keyboards. -/
def SentMessage.Proper (bot : Bot) (chatId : Int) (m : SentMessage) : Prop :=
  m.chatId = chatId ∧ ∀ d, m.screen = some d → Shown bot d m.view

/-- Behind a barrier, what is sent is proper and within the budget. -/
def Metered (bot : Bot) (chatId : Int) (c c' : Chats) : Prop :=
  (c.barriers chatId).isSome → (c'.barriers chatId).isSome ∧ ∃ new, c'.sent = c.sent ++ new ∧
    new.length + c'.budget chatId ≤ c.budget chatId ∧ ∀ m ∈ new, m.Proper bot chatId

namespace Metered

variable {bot : Bot} {chatId : Int} {c c' c'' : Chats}

theorem silent (hbarriers : c'.barriers = c.barriers) (hsent : c'.sent = c.sent) :
    Metered bot chatId c c' := by
  intro hsome
  refine ⟨by rw [hbarriers]; exact hsome, [], by rw [hsent, List.append_nil], ?_, List.forall_mem_nil _⟩
  unfold Chats.budget
  rw [hbarriers]
  simp

theorem trans (h : Metered bot chatId c c') (h' : Metered bot chatId c' c'') : Metered bot chatId c c'' := by
  intro hsome
  obtain ⟨hsome', new, hsent, hlength, hproper⟩ := h hsome
  obtain ⟨hsome'', new', hsent', hlength', hproper'⟩ := h' hsome'
  refine ⟨hsome'', new ++ new', by rw [hsent', hsent, List.append_assoc], ?_, ?_⟩
  · rw [List.length_append]
    omega
  · exact List.forall_mem_append.mpr ⟨hproper, hproper'⟩

instance : Std.Refl (Metered bot chatId) := ⟨fun _ => silent rfl rfl⟩

instance : IsTrans Chats (Metered bot chatId) := ⟨fun _ _ _ h h' => h.trans h'⟩

/-- A guarded deed spends the budget. -/
theorem spends (new : List SentMessage) (hopen : c.barriers chatId ≠ some ⟨true⟩)
    (hbarriers : c'.barriers = (c.consumed chatId).barriers) (hsent : c'.sent = c.sent ++ new)
    (hlength : new.length ≤ 1) (hproper : ∀ m ∈ new, m.Proper bot chatId) : Metered bot chatId c c' := by
  intro hsome
  obtain ⟨⟨spent⟩, hbarrier⟩ := Option.isSome_iff_exists.mp hsome
  have hfresh : spent = false := by
    cases spent with
    | false => rfl
    | true => exact absurd hbarrier hopen
  subst hfresh
  have hspent : c'.barriers chatId = some ⟨true⟩ := by
    rw [hbarriers]
    show Function.update c.barriers chatId ((c.barriers chatId).map fun _ => ⟨true⟩) chatId = _
    rw [Function.update_self, hbarrier]
    rfl
  refine ⟨by rw [hspent]; rfl, new, hsent, ?_, hproper⟩
  unfold Chats.budget
  rw [hspent, hbarrier]
  exact hlength

/-- **A proper deed is metered.** -/
theorem of_acts {d : Deed} {ok : Bool} (hproper : d.Proper bot)
    (h : Deed.Acts bot.telegram chatId d ok c c') : Metered bot chatId c c' := by
  cases h with
  | suppressed _ _ => exact silent rfl rfl
  | failed _ hopen _ =>
    exact spends [] hopen rfl (List.append_nil _).symm (Nat.zero_le _) (List.forall_mem_nil _)
  | rendered d view messageId hopen =>
    refine spends _ hopen rfl rfl (Nat.le_refl _) (List.forall_mem_singleton.mpr ⟨rfl, fun d' hd => ?_⟩)
    cases hd
    exact hproper
  | told text messageId hopen =>
    exact spends _ hopen rfl rfl (Nat.le_refl _) (List.forall_mem_singleton.mpr ⟨rfl, fun _ h => nomatch h⟩)
  | failedPast text hfails => exact hproper.elim
  | toldPast text messageId => exact hproper.elim
  | toast ok => exact silent rfl rfl
  | session session => exact silent rfl rfl
  | interaction session => exact silent rfl rfl
  | selection selection => exact silent rfl rfl

end Metered

/-- The chat an update comes from. -/
def TelegramUpdate.chat : TelegramUpdate → Option Int
  | .message received => some received.chatId
  | .press query => query.message.map MessageRef.chatId

theorem Entered.chat {bot : Bot} {w : World} {received : TelegramUpdate} {chatId : Int} {cue : Cue} {c : Chats}
    (h : Entered bot w received chatId cue c) : received.chat = some chatId := by
  cases h with
  | @message received incoming h =>
    unfold toIncomingMessage at h
    obtain ⟨sender, -, h⟩ := Option.bind_eq_some_iff.mp h
    obtain ⟨content, -, h⟩ := Option.bind_eq_some_iff.mp h
    obtain ⟨senderId, -, h⟩ := Option.bind_eq_some_iff.mp h
    cases h
    rfl
  | @press press callback incoming h =>
    show press.message.map MessageRef.chatId = some incoming.chatId
    rw [(incoming_carries h).2.1]
    rfl

/-- The barrier of the update is fresh, and nothing has been sent yet. -/
theorem Entered.fresh {bot : Bot} {w : World} {received : TelegramUpdate} {chatId : Int} {cue : Cue}
    {c : Chats} (h : Entered bot w received chatId cue c) :
    c.barriers chatId = some ⟨false⟩ ∧ c.sent = w.sent := by
  cases h with
  | message _ => exact ⟨Function.update_self .., rfl⟩
  | @press press callback incoming _ =>
    unfold World.hydrated
    cases w.activeScreens incoming.chatId <;> exact ⟨Function.update_self .., rfl⟩

/-- **An update sends at most one message**, to its chat; a screen comes with a keyboard of its own. -/
theorem update_sent (bot : Bot) (received : TelegramUpdate) (w : World) : ∃ new,
    ((Event.update bot received).apply w).sent = w.sent ++ new ∧ new.length ≤ 1 ∧
      ∀ m ∈ new, received.chat = some m.chatId ∧ ∀ d, m.screen = some d → Shown bot d m.view := by
  rcases update_plays bot received w with hsame | hplayed
  · have hsent : ((Event.update bot received).apply w).sent = w.sent := congrArg Chats.sent hsame
    exact ⟨[], by rw [hsent, List.append_nil], Nat.zero_le _, List.forall_mem_nil _⟩
  · obtain ⟨chatId, cue, c, ds, ok, c₁, hentered, hscript, hplayed, hafter⟩ := hplayed
    have hsent : ((Event.update bot received).apply w).sent = c₁.sent := congrArg Chats.sent hafter
    obtain ⟨hbarrier, hstart⟩ := hentered.fresh
    rw [hsent, ← hstart]
    rcases hscript.proper_or_past with hproper | ⟨text, rfl⟩
    · have hmetered : Metered bot chatId c c₁ :=
        hplayed.within fun d hd ok t t' => Metered.of_acts (hproper d hd)
      obtain ⟨-, new, hnew, hlength, hmessages⟩ := hmetered (by rw [hbarrier]; rfl)
      have hbudget : c.budget chatId = 1 := by
        unfold Chats.budget
        rw [hbarrier]
      refine ⟨new, hnew, by omega, fun m hm => ?_⟩
      obtain ⟨hchat, hshown⟩ := hmessages m hm
      rw [hchat]
      exact ⟨hentered.chat, hshown⟩
    · cases Played.singleton_iff.mp hplayed with
      | suppressed hguarded _ => cases hguarded
      | failed hguarded _ _ => cases hguarded
      | failedPast _ _ => exact ⟨[], (List.append_nil _).symm, Nat.zero_le _, List.forall_mem_nil _⟩
      | toldPast _ messageId =>
        refine ⟨_, rfl, Nat.le_refl _, List.forall_mem_singleton.mpr ⟨hentered.chat, fun _ h => nomatch h⟩⟩

end TaskBot
