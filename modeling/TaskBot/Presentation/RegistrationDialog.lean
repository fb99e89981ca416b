import TaskBot.Presentation.Transport

/-!
# Registration of the sender

Every update registers its sender first.  Who is in the onboarding, or has to
choose an employee, is answered here, and the update ends.

    exec (registerActor bot message) w = (.ok (some actor), w')
      →  w' is w but for the database, the flags and the log     (registerActor_ready)

The buttons of the link screen are pressed by users who are through the gate
already; what they ask for is a registration as well.
-/

namespace TaskBot

open Sql Calls Effects

namespace RegistrationDialog

def registrationStaleMessage : String :=
  "Экран привязки уже устарел. Нажмите /start, и я заново покажу варианты."

def linkedNotice : String :=
  "✅ Профиль привязан. Теперь задачи будут попадать вам как сотруднику.\n\n"

def unlinkedNotice : String :=
  "ℹ️ Пока продолжаем без привязки к сотруднику. Если появятся назначенные на вас задачи, можно будет вернуться к этому через /start.\n\n"

section

variable (bot : Bot)

/-! ## Outcomes of the onboarding -/

/-- The buttons of the link screen, remembered for the chat. -/
def publishLinkScreen (chatId : Int) (message : String) (candidates : List EmployeeCandidateView)
    (allowContinueUnlinked : Bool) : Handler Unit := do
  setRegistrationLink chatId (candidates.filterMap EmployeeCandidateView.employeeId) allowContinueUnlinked
  sendFreshScreen bot chatId .registrationLinking
    ⟨bot.texts (.registrationLink message candidates),
      registrationLinkKeyboard candidates allowContinueUnlinked⟩

def renderOutcome (chatId : Int) : OnboardingOutcome → Handler Unit
  | .askFirstName _ =>
      sendFreshScreen bot chatId .onboardingFirstName ⟨bot.texts .onboardingWelcome, []⟩
  | .askLastName user =>
      sendFreshScreen bot chatId .onboardingLastName
        ⟨bot.texts (.onboardingAskLastName (user.firstName.getD "")), []⟩
  | .askEmployeeLink _ clarification =>
      publishLinkScreen bot chatId clarification.message clarification.candidates
        clarification.allowContinueUnlinked
  | .completed user => sendFreshScreen bot chatId .mainMenu ⟨bot.texts (.onboardingCompleted user), []⟩
  | .retryPrompt reason => sendPlain bot chatId (bot.texts (.onboardingRetry reason))

def renderReply (chatId : Int) : GateReply → Handler Unit
  | .outcome outcome => renderOutcome bot chatId outcome
  | .welcome => sendPlain bot chatId (bot.texts .onboardingWelcome)
  | .error error => sendError bot chatId error

/-! ## The sender of an update -/

/-- Behind the gate: the registration, or the choice of an employee. -/
def registerLinked (message : IncomingMessage) : Handler (Option User) := do
  let preview ← useCase (bot.plans 1) (RegisterUser.previewLinking bot.toLowercase message)
  match preview with
  | .ok (.ready decision) => do
      let registered ← ask bot 2 (.register message decision)
      match registered with
      | .ok actor => pure (some actor)
      | .error error => do
          sendError bot message.chatId error
          pure none
  | .ok (.clarificationRequired clarification) => do
      publishLinkScreen bot message.chatId clarification.message clarification.candidates
        clarification.allowContinueUnlinked
      pure none
  | .error error => do
      sendError bot message.chatId error
      pure none

/-- `register_actor`: the actor, unless the update is answered here. -/
def registerActor (message : IncomingMessage) : Handler (Option User) := do
  let gated ← ask bot 0 (.onboardingGate message)
  match gated with
  | .ok (.notApplicable, _) => registerLinked bot message
  | .ok (_, some reply) => do
      renderReply bot message.chatId reply
      pure none
  | _ => pure none

/-- A storm of updates is recorded, with an error nobody hears of. -/
def checkRateLimit (actor : User) (chatId : Int) : Handler Bool := do
  if bot.rateLimiter actor.telegramId then pure true
  else do
    let _ ← ask bot 3 (.recordSecurityEvent
      ⟨none, actor.id, some actor.telegramId, .rateLimitExceeded, [("chat_id", .int chatId)],
        bot.clockOf 6 1⟩)
    sendPlain bot chatId rateLimitMessage
    pure false

/-! ## The buttons of the link screen -/

/-- A callback of the link screen, with what it means in either dialog. -/
def linkSelection : TelegramCallback → Option OnboardingLinkSelection
  | .registrationPickEmployee employeeId => some (.pickEmployee employeeId)
  | .registrationContinueUnlinked => some .continueWithoutLink
  | _ => none

def isUserInOnboardingLinkStep (telegramId : Int) : Handler Bool := do
  let probed ← useCase (bot.plans 5) (UserRepository.findByTelegramId telegramId)
  match probed with
  | .ok (some user) => pure (user.onboardingState = .awaitingEmployeeLink)
  | _ => pure false

def dispatchToOnboarding (message : IncomingMessage) (selection : OnboardingLinkSelection) :
    Handler Unit := do
  let result ← ask bot 4 (.selectLink message selection)
  match result with
  | .ok outcome => do
      clearRegistrationLink message.chatId
      renderOutcome bot message.chatId outcome
  | .error error => sendError bot message.chatId error

def sendRegistrationStale (chatId : Int) : Handler Unit :=
  sendScreen bot.telegram chatId .registrationLinking ⟨registrationStaleMessage, []⟩

def registerDecided (message : IncomingMessage) (decision : RegistrationLinkDecision) (notice : String) :
    Handler Unit := do
  let result ← ask bot 4 (.register message decision)
  match result with
  | .ok actor => do
      clearRegistrationLink message.chatId
      sendScreen bot.telegram message.chatId .mainMenu
        ⟨notice ++ bot.texts (.welcome actor), mainMenuKeyboard actor⟩
  | .error error => sendError bot message.chatId error

def registrationLink (chatId : Int) : Handler (Option PendingRegistrationLink) := do
  let w ← get
  pure (w.registrationLinks chatId)

def registerSelected (message : IncomingMessage) : OnboardingLinkSelection → Handler Unit
  | .pickEmployee employeeId => do
      let link ← registrationLink message.chatId
      match link with
      | none => sendRegistrationStale bot message.chatId
      | some pending =>
          if employeeId ∈ pending.candidateIds then
            registerDecided bot message (.employeeId employeeId) linkedNotice
          else sendRegistrationStale bot message.chatId
  | .continueWithoutLink => registerDecided bot message .continueUnlinked unlinkedNotice

def handleRegistrationLinkCallback (message : IncomingMessage) (selection : OnboardingLinkSelection) :
    Handler Unit := do
  let inLinkStep ← isUserInOnboardingLinkStep bot message.senderId
  if inLinkStep then dispatchToOnboarding bot message selection
  else registerSelected bot message selection

end

/-! ## What they touch -/

section

variable {bot : Bot} {chatId : Int} {message : IncomingMessage} {may : Happening → Prop} {w w' : World}

theorem publishLinkScreen_quiet (text : String) (candidates : List EmployeeCandidateView) (allow : Bool) :
    Quiet (publishLinkScreen bot chatId text candidates allow) :=
  Quiet.bind (setRegistrationLink_quiet _ _ _) fun _ => sendFreshScreen_quiet _ _ _

theorem renderOutcome_quiet (outcome : OnboardingOutcome) : Quiet (renderOutcome bot chatId outcome) := by
  cases outcome with
  | askFirstName user => exact sendFreshScreen_quiet _ _ _
  | askLastName user => exact sendFreshScreen_quiet _ _ _
  | askEmployeeLink user clarification => exact publishLinkScreen_quiet _ _ _
  | completed user => exact sendFreshScreen_quiet _ _ _
  | retryPrompt reason => exact sendPlain_quiet _ _

theorem renderReply_quiet (reply : GateReply) : Quiet (renderReply bot chatId reply) := by
  cases reply with
  | outcome outcome => exact renderOutcome_quiet outcome
  | welcome => exact sendPlain_quiet _ _
  | error error => exact sendError_quiet _ _

/-- What a registration asks for. -/
inductive May (message : IncomingMessage) : Happening → Prop where
  | gate : May message (.called (.onboardingGate message))
  | register (decision : RegistrationLinkDecision) : May message (.called (.register message decision))

theorem registerLinked_touches : Touches (May message) (registerLinked bot message) w := by
  refine Quiet.then (useCase_quiet _ (RegisterUser.previewLinking_reads _ _)) fun preview w₁ _ => ?_
  have hfailed : ∀ error, Quiet (do sendError bot message.chatId error; pure none : Handler (Option User)) :=
    fun _ => Quiet.bind (sendError_quiet _ _) fun _ => Quiet.pure _
  cases preview with
  | error error => exact hfailed error _ w₁
  | ok preview =>
    cases preview with
    | ready decision =>
      refine Touches.then_quiet (ask_touches (.register decision) 2) fun registered => ?_
      cases registered with
      | ok actor => exact Quiet.pure _
      | error error => exact hfailed error
    | clarificationRequired request =>
      exact Quiet.bind (publishLinkScreen_quiet _ _ _) (fun _ => Quiet.pure _) _ w₁

theorem registerActor_touches : Touches (May message) (registerActor bot message) w := by
  refine Effects.Moves.bind (ask_touches .gate 0) fun gated w₁ _ => ?_
  cases gated with
  | error error => exact Quiet.pure _ _ w₁
  | ok gated =>
    obtain ⟨result, reply⟩ := gated
    cases result with
    | notApplicable => exact registerLinked_touches
    | inProgress | justCompleted =>
      cases reply with
      | none => exact Quiet.pure _ _ w₁
      | some reply => exact Quiet.bind (renderReply_quiet reply) (fun _ => Quiet.pure _) _ w₁

/-- The same chats and confirmations; database, flags and log may differ. -/
def SameChats (w w' : World) : Prop :=
  w' = { w with db := w'.db, sharedFlags := w'.sharedFlags, log := w'.log }

theorem SameChats.trans {w'' : World} (h : SameChats w w') (h' : SameChats w' w'') : SameChats w w'' := by
  unfold SameChats at *
  rw [h', h]

theorem ask_sameChats (k : Nat) (call : RuntimeCall) (w : World) :
    SameChats w (exec (ask bot k call) w).2 := rfl

theorem useCase_sameChats {α : Type} (plan : Site → Fault AppError) (p : Proc α) (w : World) :
    SameChats w (exec (useCase plan p) w).2 := rfl

/-- A sequence with a last part that answers nobody. -/
theorem not_some_of_none {α β : Type} {h : Handler β} {a : α}
    (hrun : exec (do let _ ← h; pure none : Handler (Option α)) w = (.ok (some a), w')) : False := by
  obtain ⟨b, w₁, -, hpure⟩ := exec_bind_eq_ok hrun
  cases hpure

theorem registerLinked_ready {actor : User}
    (hrun : exec (registerLinked bot message) w = (.ok (some actor), w')) : SameChats w w' := by
  obtain ⟨preview, w₁, hpreview, hrest⟩ := exec_bind_eq_ok hrun
  have hsame := useCase_sameChats (bot.plans 1) (RegisterUser.previewLinking bot.toLowercase message) w
  rw [hpreview] at hsame
  cases preview with
  | error error => exact (not_some_of_none hrest).elim
  | ok preview =>
    cases preview with
    | clarificationRequired request => exact (not_some_of_none hrest).elim
    | ready decision =>
      obtain ⟨registered, w₂, hregistered, hlast⟩ := exec_bind_eq_ok hrest
      have hsame₂ : SameChats w₁ (exec (ask bot 2 (.register message decision)) w₁).2 :=
        ask_sameChats 2 _ w₁
      rw [hregistered] at hsame₂
      cases registered with
      | error error => exact (not_some_of_none hlast).elim
      | ok registered =>
        cases hlast
        exact hsame.trans hsame₂

/-- **Who goes on has been shown nothing.** -/
theorem registerActor_ready {actor : User}
    (hrun : exec (registerActor bot message) w = (.ok (some actor), w')) : SameChats w w' := by
  obtain ⟨gated, w₁, hgated, hrest⟩ := exec_bind_eq_ok hrun
  have hsame : SameChats w (exec (ask bot 0 (.onboardingGate message)) w).2 := ask_sameChats 0 _ w
  rw [hgated] at hsame
  cases gated with
  | error error => cases hrest
  | ok gated =>
    obtain ⟨result, reply⟩ := gated
    cases result with
    | notApplicable => exact hsame.trans (registerLinked_ready hrest)
    | inProgress | justCompleted =>
      cases reply with
      | none => cases hrest
      | some reply => exact (not_some_of_none hrest).elim

theorem checkRateLimit_touches {actor : User}
    (hmay : ∀ entry, may (.called (.recordSecurityEvent entry))) :
    Touches may (checkRateLimit bot actor chatId) w := by
  unfold checkRateLimit
  split
  · exact Quiet.pure _ may w
  · exact Touches.then_quiet (ask_touches (hmay _) 3) fun _ =>
      Quiet.bind (sendPlain_quiet _ _) fun _ => Quiet.pure _

theorem registerDecided_touches {decision : RegistrationLinkDecision} {notice : String}
    (hmay : may (.called (.register message decision))) :
    Touches may (registerDecided bot message decision notice) w := by
  refine Touches.then_quiet (ask_touches hmay 4) fun result => ?_
  cases result with
  | ok actor => exact Quiet.bind (clearRegistrationLink_quiet _) fun _ => sendScreen_quiet _ _ _
  | error error => exact sendError_quiet _ _

theorem registerSelected_touches (hmay : ∀ decision, may (.called (.register message decision)))
    (selection : OnboardingLinkSelection) : Touches may (registerSelected bot message selection) w := by
  cases selection with
  | continueWithoutLink => exact registerDecided_touches (hmay _)
  | pickEmployee employeeId =>
    refine Effects.Moves.read_bind rfl ?_
    cases w.registrationLinks message.chatId with
    | none => exact sendScreen_quiet _ _ _ may w
    | some pending =>
      show Touches may (if employeeId ∈ pending.candidateIds then _ else _) w
      by_cases hid : employeeId ∈ pending.candidateIds
      · rw [if_pos hid]
        exact registerDecided_touches (hmay _)
      · rw [if_neg hid]
        exact sendScreen_quiet _ _ _ may w

theorem isUserInOnboardingLinkStep_quiet (telegramId : Int) :
    Quiet (isUserInOnboardingLinkStep bot telegramId) := by
  refine Quiet.bind (useCase_quiet _ (UserRepository.findByTelegramId_reads _)) fun probed => ?_
  cases probed with
  | error error => exact Quiet.pure _
  | ok found => cases found <;> exact Quiet.pure _

theorem handleRegistrationLinkCallback_touches {selection : OnboardingLinkSelection}
    (hselect : may (.called (.selectLink message selection)))
    (hregister : ∀ decision, may (.called (.register message decision))) :
    Touches may (handleRegistrationLinkCallback bot message selection) w := by
  refine Quiet.then (isUserInOnboardingLinkStep_quiet _) fun inLinkStep w₁ _ => ?_
  by_cases hstep : inLinkStep = true
  · rw [if_pos hstep]
    refine Touches.then_quiet (ask_touches hselect 4) fun result => ?_
    cases result with
    | ok outcome => exact Quiet.bind (clearRegistrationLink_quiet _) fun _ => renderOutcome_quiet outcome
    | error error => exact sendError_quiet _ _
  · rw [if_neg hstep]
    exact registerSelected_touches hregister selection

end

end RegistrationDialog

end TaskBot
