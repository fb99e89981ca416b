import TaskBot.Presentation.Transport

/-!
# The admin panel

A destructive action takes two presses: the first one issues a nonce for the action
and shows the confirmation, the second one redeems the nonce and acts.

    issueConfirmation           log ++ [issued actor nonce action]            or nothing
    executeAdminConfirmation    log ++ [redeemed actor nonce action,
                                        called (action.call actor)]
                                or log ++ [refused actor nonce]               or nothing

The Cancel button only changes the screen: `AdminNonceStore.discard` is used nowhere.
-/

namespace TaskBot

open Sql Calls Effects

/-! ## Actions -/

def AdminRoleOption.toUserRole : AdminRoleOption → UserRole
  | user => .user
  | manager => .manager
  | admin => .admin

/-- What a confirmed action asks for. -/
def PendingAdminAction.call (actor : User) : PendingAdminAction → RuntimeCall
  | changeRole targetUserId _ _ nextRole => .changeRole actor targetUserId nextRole.toUserRole
  | deactivate targetUserId _ _ => .deactivateUser actor targetUserId
  | reactivate targetUserId _ _ => .reactivateUser actor targetUserId

/-- The name of a user on a confirmation; without any name the Telegram id. -/
def userDisplayName (user : User) : String :=
  if User.nonEmpty user.firstName ∨ User.nonEmpty user.fullName ∨ User.nonEmpty user.telegramUsername then
    user.displayName
  else "tg id " ++ toString user.telegramId

def registrationMissing (actor : User) : AppError :=
  .unauthenticated "Actor must be registered" [("telegram_id", .int actor.telegramId)]

def selfTargetRefused (actorId : Int) : AppError :=
  .forbidden RoleAuthorizationPolicy.forbiddenSelfTarget "An admin cannot apply this action to themselves"
    [("actor_user_id", .int actorId)]

def recentAuditLimit : Nat := 20
def recentSecurityAuditLimit : Nat := 30

section

variable (bot : Bot)

/-! ## Screens -/

def adminMenuScreen (chatId : Int) (text : UiText) : Handler Unit :=
  sendScreen bot.telegram chatId .adminMenu ⟨bot.texts text, adminMenuKeyboard⟩

def renderAdminError (actor : User) (chatId : Int) (error : AppError) : Handler Unit :=
  if error.code = RoleAuthorizationPolicy.forbiddenAdminOnly then
    sendScreen bot.telegram chatId .mainMenu ⟨bot.texts .adminAccessDenied, mainMenuKeyboard actor⟩
  else if error.code = RoleAuthorizationPolicy.forbiddenAccountDeactivated then
    sendScreen bot.telegram chatId .mainMenu ⟨bot.texts .adminAccountDeactivated, mainMenuKeyboard actor⟩
  else if error.code = RoleAuthorizationPolicy.forbiddenSelfTarget then
    adminMenuScreen bot chatId .adminSelfTarget
  else if error.code = "LAST_ADMIN_PROTECTED" then adminMenuScreen bot chatId .adminLastAdmin
  else if error.code = "USER_NOT_FOUND" then adminMenuScreen bot chatId .adminUserNotFound
  else sendError bot chatId error

/-- A screen of a result, or of the error in its place. -/
def adminResult {α : Type} (actor : User) (chatId : Int) (result : AppResult α) (present : α → Handler Unit) :
    Handler Unit :=
  match result with
  | .ok a => present a
  | .error error => renderAdminError bot actor chatId error

def guardAdmin (actor : User) : AppResult Unit := RoleAuthorizationPolicy.ensureCanAccessAdminPanel actor

def showAdminMenu (actor : User) (chatId : Int) : Handler Unit :=
  adminResult bot actor chatId (guardAdmin actor) fun _ => adminMenuScreen bot chatId (.adminMenu actor)

def showAdminUsers (actor : User) (chatId : Int) : Handler Unit := do
  let result ← useCase (bot.plans 5) (AdminUseCase.listActiveAdmins actor)
  adminResult bot actor chatId result fun users =>
    sendScreen bot.telegram chatId .adminUsers ⟨bot.texts (.adminUsers users actor), adminUsersKeyboard users⟩

def showAdminUserDetails (actor : User) (chatId : Int) (userId : Int) : Handler Unit := do
  let result ← useCase (bot.plans 5) (AdminUseCase.getUser actor userId)
  adminResult bot actor chatId result fun target =>
    sendScreen bot.telegram chatId (.adminUserDetails userId)
      ⟨bot.texts (.adminUserDetails target), adminUserDetailsKeyboard target⟩

def showAdminAudit (actor : User) (chatId : Int) : Handler Unit := do
  let result ← useCase (bot.plans 5) (AdminUseCase.listRecentAudit actor recentAuditLimit)
  adminResult bot actor chatId result fun entries =>
    sendScreen bot.telegram chatId .adminAudit ⟨bot.texts (.adminAudit entries), adminBackKeyboard⟩

def showAdminSecurityAudit (actor : User) (chatId : Int) : Handler Unit :=
  adminResult bot actor chatId (guardAdmin actor) fun _ => do
    let result ← useCase (bot.plans 5) (SecurityAuditLogRepository.listRecent recentSecurityAuditLimit)
    adminResult bot actor chatId result fun entries =>
      sendScreen bot.telegram chatId .adminSecurityAudit
        ⟨bot.texts (.adminSecurityAudit entries), adminBackKeyboard⟩

def showAdminFeatures (actor : User) (chatId : Int) : Handler Unit :=
  adminResult bot actor chatId (guardAdmin actor) fun _ => do
    let w ← get
    sendScreen bot.telegram chatId .adminFeatures
      ⟨bot.texts (.adminFeatures w.sharedFlags.allFlags), adminFeaturesKeyboard w.sharedFlags.allFlags⟩

def toggleAdminFeature (actor : User) (chatId : Int) (flagKey : String) : Handler Unit :=
  match FeatureFlag.fromStr flagKey with
  | .error _ => showAdminFeatures bot actor chatId
  | .ok flag => do
      let currentEnabled ← isEnabled flag
      let result ← ask bot 4 (.toggleFeatureFlag actor flagKey (!currentEnabled))
      adminResult bot actor chatId result fun _ => showAdminFeatures bot actor chatId

/-! ## Confirmations -/

/-- The clock is read for the expiry and once more for the sweep. -/
def issueNonce (actorId : Int) (action : PendingAdminAction) : Handler Unit :=
  modify fun w => { w with
    adminNonces := w.adminNonces.issue (bot.uptime 0) (bot.uptime 1) bot.nonce actorId action
    log := w.log ++ [.issued actorId bot.nonce action (bot.uptime 0) (bot.uptime 1)] }

def confirmationScreen (chatId : Int) (action : PendingAdminAction) : Handler Unit :=
  sendScreen bot.telegram chatId (.adminConfirm bot.nonce)
    ⟨bot.texts (.adminConfirm action), adminConfirmationKeyboard bot.nonce⟩

def issueConfirmation (actor : User) (chatId : Int) (action : PendingAdminAction) : Handler Unit :=
  match actor.id with
  | none => renderAdminError bot actor chatId (registrationMissing actor)
  | some actorId =>
      -- the error for one's own account comes before the nonce
      if action.targetUserId = actorId then renderAdminError bot actor chatId (selfTargetRefused actorId)
      else do
        issueNonce bot actorId action
        confirmationScreen bot chatId action

/-- `prepare_admin_*`: look the user up, then ask for the confirmation. -/
def prepareAdminAction (actor : User) (chatId : Int) (userId : Int) (action : User → PendingAdminAction) :
    Handler Unit := do
  let result ← useCase (bot.plans 5) (AdminUseCase.getUser actor userId)
  adminResult bot actor chatId result fun target => issueConfirmation bot actor chatId (action target)

def prepareAdminRoleChange (actor : User) (chatId : Int) (userId : Int) (nextRole : AdminRoleOption) :
    Handler Unit :=
  prepareAdminAction bot actor chatId userId fun target =>
    .changeRole userId target.telegramId (userDisplayName target) nextRole

def prepareAdminDeactivate (actor : User) (chatId : Int) (userId : Int) : Handler Unit :=
  prepareAdminAction bot actor chatId userId fun target =>
    .deactivate userId target.telegramId (userDisplayName target)

def prepareAdminReactivate (actor : User) (chatId : Int) (userId : Int) : Handler Unit :=
  prepareAdminAction bot actor chatId userId fun target =>
    .reactivate userId target.telegramId (userDisplayName target)

/-- What a prepare button asks for, given the user it is about. -/
def TelegramCallback.preparedFor (target : User) : TelegramCallback → Option PendingAdminAction
  | .adminUserPrepareRoleChange userId nextRole =>
      some (.changeRole userId target.telegramId (userDisplayName target) nextRole)
  | .adminUserPrepareDeactivate userId =>
      some (.deactivate userId target.telegramId (userDisplayName target))
  | .adminUserPrepareReactivate userId =>
      some (.reactivate userId target.telegramId (userDisplayName target))
  | _ => none

/-- The user after the action. -/
def changedScreen (actor : User) (chatId : Int) (text : User → UiText) (result : AppResult User) :
    Handler Unit :=
  adminResult bot actor chatId result fun user =>
    sendScreen bot.telegram chatId (.adminUserDetails (user.id.getD 0))
      ⟨bot.texts (text user), adminUserDetailsKeyboard user⟩

def applyAction (actor : User) (chatId : Int) : PendingAdminAction → Handler Unit
  | .changeRole targetUserId _ _ nextRole => do
      let result ← ask bot 4 (.changeRole actor targetUserId nextRole.toUserRole)
      changedScreen bot actor chatId .adminRoleChanged result
  | .deactivate targetUserId _ _ => do
      let result ← ask bot 4 (.deactivateUser actor targetUserId)
      changedScreen bot actor chatId .adminDeactivated result
  | .reactivate targetUserId _ _ => do
      let result ← ask bot 4 (.reactivateUser actor targetUserId)
      changedScreen bot actor chatId .adminReactivated result

def consumed (actorId : Int) (nonce : String) (now : Instant) :
    Except NonceError PendingAdminAction → Happening
  | .ok action => .redeemed actorId nonce action now
  | .error error => .refused actorId nonce error now

def consumeNonce (actorId : Int) (nonce : String) : Handler (Except NonceError PendingAdminAction) := do
  let w ← get
  let o := w.adminNonces.consume (bot.uptime 2) actorId nonce
  modify fun w => { w with
    adminNonces := o.2
    log := w.log ++ [consumed actorId nonce (bot.uptime 2) o.1] }
  pure o.1

def executeAdminConfirmation (actor : User) (chatId : Int) (nonce : String) : Handler Unit :=
  match actor.id with
  | none => renderAdminError bot actor chatId (registrationMissing actor)
  | some actorId => do
      let result ← consumeNonce bot actorId nonce
      match result with
      | .ok action => applyAction bot actor chatId action
      | .error .notFound => adminMenuScreen bot chatId .adminNonceExpired
      | .error .wrongActor => adminMenuScreen bot chatId .adminNonceWrongActor

def cancelAdminPending (actor : User) (chatId : Int) : Handler Unit := do
  adminMenuScreen bot chatId .adminActionCancelled
  showAdminMenu bot actor chatId

end

/-! ## What they touch -/

section

variable {bot : Bot} {actor : User} {chatId : Int} {may : Happening → Prop} {w : World}

theorem renderAdminError_quiet (error : AppError) : Quiet (renderAdminError bot actor chatId error) :=
  Quiet.ite (sendScreen_quiet _ _ _) <| Quiet.ite (sendScreen_quiet _ _ _) <|
    Quiet.ite (sendScreen_quiet _ _ _) <| Quiet.ite (sendScreen_quiet _ _ _) <|
      Quiet.ite (sendScreen_quiet _ _ _) (sendError_quiet _ _)

theorem adminResult_touches {α : Type} {present : α → Handler Unit} (result : AppResult α)
    (h : ∀ a, Touches may (present a) w) : Touches may (adminResult bot actor chatId result present) w := by
  cases result with
  | ok a => exact h a
  | error error => exact renderAdminError_quiet error may w

theorem adminResult_quiet {α : Type} {present : α → Handler Unit} (result : AppResult α)
    (h : ∀ a, Quiet (present a)) : Quiet (adminResult bot actor chatId result present) :=
  fun may w => adminResult_touches result fun a => h a may w

theorem showAdminMenu_quiet : Quiet (showAdminMenu bot actor chatId) :=
  adminResult_quiet _ fun _ => sendScreen_quiet _ _ _

theorem showAdminUsers_quiet : Quiet (showAdminUsers bot actor chatId) := by
  have hreads : (AdminUseCase.listActiveAdmins actor).Within Eq :=
    .bind (.lift _) fun _ => select_reads _ _
  exact Quiet.bind (useCase_quiet _ hreads) fun _ => adminResult_quiet _ fun _ => sendScreen_quiet _ _ _

theorem showAdminUserDetails_quiet (userId : Int) : Quiet (showAdminUserDetails bot actor chatId userId) :=
  Quiet.bind (useCase_quiet _ (AdminUseCase.getUser_reads actor userId)) fun _ =>
    adminResult_quiet _ fun _ => sendScreen_quiet _ _ _

theorem showAdminAudit_quiet : Quiet (showAdminAudit bot actor chatId) := by
  have hreads : (AdminUseCase.listRecentAudit actor recentAuditLimit).Within Eq :=
    .bind (.lift _) fun _ => select_reads _ _
  exact Quiet.bind (useCase_quiet _ hreads) fun _ => adminResult_quiet _ fun _ => sendScreen_quiet _ _ _

theorem showAdminSecurityAudit_quiet : Quiet (showAdminSecurityAudit bot actor chatId) :=
  adminResult_quiet _ fun _ => Quiet.bind (useCase_quiet _ (select_reads _ _)) fun _ =>
    adminResult_quiet _ fun _ => sendScreen_quiet _ _ _

theorem showAdminFeatures_quiet : Quiet (showAdminFeatures bot actor chatId) :=
  adminResult_quiet _ fun _ => Quiet.bind Quiet.get fun _ => sendScreen_quiet _ _ _

theorem cancelAdminPending_quiet : Quiet (cancelAdminPending bot actor chatId) :=
  Quiet.bind (sendScreen_quiet _ _ _) fun _ => showAdminMenu_quiet

theorem toggleAdminFeature_touches {flagKey : String}
    (hmay : ∀ enabled, may (.called (.toggleFeatureFlag actor flagKey enabled))) :
    Touches may (toggleAdminFeature bot actor chatId flagKey) w := by
  unfold toggleAdminFeature
  cases FeatureFlag.fromStr flagKey with
  | error _ => exact showAdminFeatures_quiet may w
  | ok flag =>
    refine Quiet.then (isEnabled_quiet flag) fun enabled w' _ => ?_
    refine Touches.then_quiet (ask_touches (hmay _) 4) fun result => ?_
    exact adminResult_quiet _ fun _ => showAdminFeatures_quiet

/-- The nonce is issued to an admin for another user that is there. -/
theorem prepareAdminAction_touches {userId : Int} {action : User → PendingAdminAction}
    (hmay : ∀ actorId target, actor.id = some actorId → (action target).targetUserId ≠ actorId →
      ((AdminUseCase.getUser actor userId).run (bot.plans 5) w.db).1 = .ok target →
        may (.issued actorId bot.nonce (action target) (bot.uptime 0) (bot.uptime 1))) :
    Touches may (prepareAdminAction bot actor chatId userId action) w := by
  refine Quiet.then (useCase_quiet _ (AdminUseCase.getUser_reads actor userId)) fun result w' hrun => ?_
  have hresult : ((AdminUseCase.getUser actor userId).run (bot.plans 5) w.db).1 = result :=
    Except.ok.inj (congrArg Prod.fst hrun)
  cases result with
  | error error => exact renderAdminError_quiet error may w'
  | ok target =>
    show Touches may (issueConfirmation bot actor chatId (action target)) w'
    unfold issueConfirmation
    cases hid : actor.id with
    | none => exact renderAdminError_quiet _ may w'
    | some actorId =>
      by_cases hself : (action target).targetUserId = actorId
      · simp only [if_pos hself]
        exact renderAdminError_quiet _ may w'
      · simp only [if_neg hself]
        have hissue : Touches may (issueNonce bot actorId (action target)) w' :=
          Effects.Moves.of_modify
            ⟨.one rfl (hmay actorId target hid hself hresult) rfl, fun _ _ _ _ h => .inl h⟩
        exact Touches.then_quiet hissue fun _ => sendScreen_quiet _ _ _

/-! ## The two steps of a confirmation -/

theorem exec_consumeNonce (actorId : Int) (nonce : String) (w : World) :
    exec (consumeNonce bot actorId nonce) w =
      (.ok (w.adminNonces.consume (bot.uptime 2) actorId nonce).1,
        { w with
          adminNonces := (w.adminNonces.consume (bot.uptime 2) actorId nonce).2
          log := w.log ++ [consumed actorId nonce (bot.uptime 2)
            (w.adminNonces.consume (bot.uptime 2) actorId nonce).1] }) := rfl

theorem consumeNonce_touches {actorId : Int} {nonce : String}
    (hmay : may (consumed actorId nonce (bot.uptime 2)
      (w.adminNonces.consume (bot.uptime 2) actorId nonce).1)) :
    Touches may (consumeNonce bot actorId nonce) w := by
  have hstep : (consumed actorId nonce (bot.uptime 2)
      (w.adminNonces.consume (bot.uptime 2) actorId nonce).1).Step w.holdings
      ⟨w.process, (w.adminNonces.consume (bot.uptime 2) actorId nonce).2⟩ := by
    cases h : w.adminNonces.consume (bot.uptime 2) actorId nonce with
    | mk result store =>
      cases result with
      | ok action => exact ⟨h, rfl⟩
      | error error => exact ⟨h, rfl⟩
  exact ⟨.one rfl hmay hstep, fun _ _ _ _ h => .inl h⟩

theorem applyAction_touches {action : PendingAdminAction} (hmay : may (.called (action.call actor))) :
    Touches may (applyAction bot actor chatId action) w := by
  cases action with
  | changeRole target telegramId name role =>
    exact Touches.then_quiet (ask_touches hmay 4) fun _ => adminResult_quiet _ fun _ => sendScreen_quiet _ _ _
  | deactivate target telegramId name =>
    exact Touches.then_quiet (ask_touches hmay 4) fun _ => adminResult_quiet _ fun _ => sendScreen_quiet _ _ _
  | reactivate target telegramId name =>
    exact Touches.then_quiet (ask_touches hmay 4) fun _ => adminResult_quiet _ fun _ => sendScreen_quiet _ _ _

theorem executeAdminConfirmation_touches {nonce : String}
    (hmay : ∀ actorId result, actor.id = some actorId → may (consumed actorId nonce (bot.uptime 2) result))
    (hcall : ∀ actorId (action : PendingAdminAction), actor.id = some actorId →
      may (.called (action.call actor))) :
    Touches may (executeAdminConfirmation bot actor chatId nonce) w := by
  unfold executeAdminConfirmation
  cases hid : actor.id with
  | none => exact renderAdminError_quiet _ may w
  | some actorId =>
    refine Effects.Moves.bind (consumeNonce_touches (hmay actorId _ hid)) fun result w' _ => ?_
    cases result with
    | ok action => exact applyAction_touches (hcall actorId action hid)
    | error error => cases error <;> exact sendScreen_quiet _ _ _ may w'

theorem applyAction_log (action : PendingAdminAction) (w : World) :
    (exec (applyAction bot actor chatId action) w).2.log = w.log ++ [.called (action.call actor)] := by
  cases action with
  | changeRole target telegramId name role =>
    exact ask_then_log fun _ => adminResult_quiet _ fun _ => sendScreen_quiet _ _ _
  | deactivate target telegramId name =>
    exact ask_then_log fun _ => adminResult_quiet _ fun _ => sendScreen_quiet _ _ _
  | reactivate target telegramId name =>
    exact ask_then_log fun _ => adminResult_quiet _ fun _ => sendScreen_quiet _ _ _

/-- **An action is called directly behind its nonce**, or not at all. -/
theorem executeAdminConfirmation_log (nonce : String) (w : World) :
    ∃ ls, (exec (executeAdminConfirmation bot actor chatId nonce) w).2.log = w.log ++ ls ∧
      ((∀ call, .called call ∉ ls) ∨ ∃ actorId action, actor.id = some actorId ∧
        ls = [.redeemed actorId nonce action (bot.uptime 2), .called (action.call actor)]) := by
  unfold executeAdminConfirmation
  cases hid : actor.id with
  | none =>
    refine ⟨[], ?_, .inl fun _ => List.not_mem_nil⟩
    rw [List.append_nil]
    exact (renderAdminError_quiet _).log w
  | some actorId =>
    simp only
    rw [Effects.exec_bind_ok (exec_consumeNonce actorId nonce w)]
    cases hresult : (w.adminNonces.consume (bot.uptime 2) actorId nonce).1 with
    | ok action =>
      refine ⟨_, ?_, .inr ⟨actorId, action, rfl, rfl⟩⟩
      rw [applyAction_log, List.append_assoc]
      rfl
    | error error =>
      refine ⟨[.refused actorId nonce error (bot.uptime 2)], ?_, .inl fun call hcall => ?_⟩
      · cases error <;> exact (sendScreen_quiet _ _ _).log _
      · cases List.mem_singleton.mp hcall

end

end TaskBot
