import TaskBot.Presentation.Updates

/-!
# Buttons of old screens

A press may change the database only on the active screen of its chat, if that
screen accepts it, and a press that names a task only the task of that screen:

    SafePress screen bot h   :=   a handler that acts is on the screen, which accepts it,
                                  and changes the task the screen shows, if any

* `safePress_of_pressable`: one press.  Mutating callbacks are checked, the employee
  sync is not, and the delivery help takes the buttons of any task;
* `stale_buttons_cannot_act`: every press of a run, these two apart.
-/

namespace TaskBot

open Sql Calls Effects

/-- The task a callback names. -/
def TelegramCallback.namedTask : TelegramCallback → Option Uuid
  | .openTask uid _ _ => some uid
  | callback => callback.cardTaskUid

/-- A callback whose handler is there to change the database. -/
def TelegramCallback.acts (callback : TelegramCallback) : Bool :=
  callback.isMutating || callback = .menuSyncEmployees

/-- The press of `callback` on message `messageId` of a chat that shows a real screen. -/
structure IsPress (w : World) (press : CallbackQuery) (callback : TelegramCallback) (messageId : Int)
    (screen : ActiveScreenState) : Prop where
  parsed : press.parsed = some callback
  shown : ∃ chatId, press.message = some ⟨messageId, chatId⟩ ∧ w.activeScreens chatId = some screen
  real : screen.descriptor.isReal = true

/-- What the handler of a press has to keep to. -/
structure SafePress (screen : ActiveScreenState) (bot : Bot) (h : Handled) : Prop where
  acts : h.callback.acts = true ∨ (h.finish bot).db ≠ h.start.db →
    screen.messageId = h.message.messageId ∧ screen.descriptor.accepts h.callback = true
  own : h.callback.namedTask ≠ none → ∀ uid, (h.finish bot).db.stored uid ≠ h.start.db.stored uid →
    screen.descriptor.shownTask = some uid

/-- Neither a sync off its screen, nor a button of another task on the delivery help. -/
structure Pressable (screen : ActiveScreenState) (callback : TelegramCallback) (messageId : Int) : Prop where
  sync : callback = .menuSyncEmployees →
    screen.messageId = messageId ∧ screen.descriptor.accepts callback = true
  help : ∀ shown origin uid, screen = ⟨messageId, .deliveryHelp shown origin⟩ →
    callback.isMutating = true → callback.cardTaskUid = some uid → uid = shown

/-! ## One press -/

section

variable {bot : Bot} {press : CallbackQuery} {w : World} {h : Handled} {screen : ActiveScreenState}

theorem of_linkSelection {callback : TelegramCallback} {selection : OnboardingLinkSelection}
    (h : RegistrationDialog.linkSelection callback = some selection) :
    callback.isMutating = true ∧ callback.cardTaskUid = none := by
  cases callback with
  | registrationPickEmployee _ | registrationContinueUnlinked => exact ⟨rfl, rfl⟩
  | _ => cases h

/-- What does not act calls nothing. -/
theorem not_called_of_not_acts {w : World} {message : IncomingMessage} {actor : User}
    {callback : TelegramCallback} (hacts : callback.acts = false) (call : RuntimeCall) :
    ¬ CallbackMay bot w message actor callback (.called call) := by
  intro hmay
  unfold TelegramCallback.acts at hacts
  generalize hl : Happening.called call = l at hmay
  cases hmay with
  | selectLink callback selection hselection | register callback selection decision hselection =>
    rw [(of_linkSelection hselection).1] at hacts
    cases hacts
  | issue callback actorId action hopens => cases hl
  | consume actorId nonce result hid => cases result <;> cases hl
  | _ => cases hacts

theorem db_of_not_acts (hacts : h.callback.acts = false) : (h.finish bot).db = h.start.db :=
  (finish_footprint bot h).db_eq (not_called_of_not_acts hacts)

/-- A mutating callback that names a task changes no other one. -/
theorem moves_named {uid : Uuid} (hmutating : h.callback.isMutating = true)
    (huid : h.callback.cardTaskUid = some uid) :
    TaskMoves (.onTask uid True) h.start.db (h.finish bot).db := by
  refine (finish_footprint bot h).moves fun call hmay => ?_
  generalize hcallback : h.callback = callback at hmay hmutating huid
  generalize hl : Happening.called call = l at hmay
  cases hmay with
  | status taskUid nextStatus origin | cancel taskUid origin =>
    cases hl
    cases huid
    exact ⟨fun _ => id, fun _ => id, fun _ hc => ⟨hc.1, trivial⟩⟩
  | selectLink callback selection hselection | register callback selection decision hselection =>
    rw [(of_linkSelection hselection).2] at huid
    cases huid
  | issue callback actorId action hopens => cases hl
  | _ => cases huid

/-- **One press.** -/
theorem safePress_of_pressable (hh : press.handled bot w = some h)
    (hscreen : w.activeScreens h.message.chatId = some screen) (hreal : screen.descriptor.isReal = true)
    (hok : Pressable screen h.callback h.message.messageId) : SafePress screen bot h where
  acts := by
    have hacts : h.callback.acts = true →
        screen.messageId = h.message.messageId ∧ screen.descriptor.accepts h.callback = true := by
      intro hacts
      unfold TelegramCallback.acts at hacts
      rcases Bool.or_eq_true_iff.mp hacts with hmutating | hsync
      · exact handled_mutating hh hmutating hscreen
      · exact hok.sync (of_decide_eq_true hsync)
    rintro (hacted | hchanged)
    · exact hacts hacted
    · by_contra hnot
      have hidle : h.callback.acts = false := Bool.eq_false_iff.mpr fun htrue => hnot (hacts htrue)
      exact hchanged (db_of_not_acts hidle)
  own := by
    intro hnamed uid hchanged
    have hmutating : h.callback.isMutating = true := by
      by_contra hnot
      have hidle : h.callback.acts = false := by
        cases hcallback : h.callback <;> simp_all [TelegramCallback.namedTask,
          TelegramCallback.cardTaskUid, TelegramCallback.acts, TelegramCallback.isMutating]
      exact hchanged (by rw [db_of_not_acts hidle])
    obtain ⟨hactive, haccepts⟩ := handled_mutating hh hmutating hscreen
    obtain ⟨named, huid⟩ : ∃ named, h.callback.cardTaskUid = some named := by
      cases hcallback : h.callback <;> simp_all [TelegramCallback.namedTask,
        TelegramCallback.cardTaskUid, TelegramCallback.isMutating]
    have hmoves : TaskMoves (.onTask named True) h.start.db (h.finish bot).db :=
      moves_named hmutating huid
    have hsame : uid = named := by
      by_contra hne
      cases hbefore : h.start.db.stored uid with
      | some t =>
        obtain ⟨t', hafter, -, hkept, -⟩ := hmoves.keeps uid t hbefore
        rcases hkept with rfl | hright
        · exact hchanged (hafter.trans hbefore.symm)
        · exact hne hright
      | none =>
        cases hafter : (h.finish bot).db.stored uid with
        | none => exact hchanged (hafter.trans hbefore.symm)
        | some t' => exact (hmoves.creates uid t' hbefore hafter).1
    rw [hsame]
    rcases accepts_cardTask hreal haccepts huid with hcard | ⟨shown, origin, hhelp⟩
    · exact shownTask_of_cardUid hcard
    · have hscreenEq : screen = ⟨h.message.messageId, .deliveryHelp shown origin⟩ := by
        cases screen
        cases hactive
        cases hhelp
        rfl
      rw [hok.help shown origin named hscreenEq hmutating huid, hhelp]
      rfl

end

/-! ## Top theorem -/

/-- **Old buttons do not act.**  In a run whose presses are neither a sync off its screen nor a button
of another task on the delivery help, every press that gets to its handler is safe. -/
theorem stale_buttons_cannot_act (start : World) (events : List Event)
    (hok : ∀ pre bot press post callback messageId screen,
      events = pre ++ .update bot (.press press) :: post →
      IsPress (start.after pre) press callback messageId screen → Pressable screen callback messageId)
    (pre : List Event) (bot : Bot) (press : CallbackQuery) (post : List Event) (h : Handled)
    (screen : ActiveScreenState) (hevents : events = pre ++ .update bot (.press press) :: post)
    (hh : press.handled bot (start.after pre) = some h)
    (hscreen : (start.after pre).activeScreens h.message.chatId = some screen)
    (hreal : screen.descriptor.isReal = true) : SafePress screen bot h := by
  obtain ⟨hparsed, hmessage, -⟩ := handled_incoming hh
  have hpress : IsPress (start.after pre) press h.callback h.message.messageId screen :=
    ⟨hparsed, ⟨h.message.chatId, hmessage, hscreen⟩, hreal⟩
  exact safePress_of_pressable hh hscreen hreal
    (hok pre bot press post h.callback h.message.messageId screen hevents hpress)

/-! ## A sync from an old message -/

def adminRow : UserColumns :=
  ⟨{ onboardedRow.user with role := .admin }, onboardedRow.onboardingState⟩

/-- The chat of an admin with the main menu on message 3. -/
def adminWorld : World := { onboardedWorld with db := soleUser adminRow }

/-- The button for the sync, on a message of the chat. -/
def syncPress (messageId : Int) : CallbackQuery where
  id := "c1"
  idHash := 101
  sender := ⟨7, "Анна Петрова", none⟩
  message := some ⟨messageId, 7⟩
  data := some (encodeCallback .menuSyncEmployees)
  parsed := some .menuSyncEmployees

theorem syncPress_handled (messageId : Int) (hid : messageId = 2 ∨ messageId = 3) :
    ∃ h, (syncPress messageId).handled dictatedBot adminWorld = some h ∧
      h.callback = .menuSyncEmployees ∧ h.message.messageId = messageId ∧ h.message.chatId = 7 := by
  have hsome : ((syncPress messageId).handled dictatedBot adminWorld).isSome = true := by
    rcases hid with rfl | rfl <;> decide +kernel
  obtain ⟨h, hh⟩ := Option.isSome_iff_exists.mp hsome
  obtain ⟨hparsed, hmessage, -⟩ := handled_incoming hh
  have href := MessageRef.mk.inj (Option.some.inj hmessage)
  exact ⟨h, hh, (Option.some.inj hparsed).symm, href.1.symm, href.2.symm⟩

/-- On the menu itself the sync is safe. -/
theorem sync_on_menu_safe : ∃ h, (syncPress 3).handled dictatedBot adminWorld = some h ∧
    SafePress ⟨3, .mainMenu⟩ dictatedBot h := by
  obtain ⟨h, hh, hcallback, hmessage, hchat⟩ := syncPress_handled 3 (.inr rfl)
  refine ⟨h, hh, ?_⟩
  refine stale_buttons_cannot_act adminWorld [.update dictatedBot (.press (syncPress 3))] ?_ []
    dictatedBot (syncPress 3) [] h ⟨3, .mainMenu⟩ rfl hh rfl rfl
  rintro pre bot press post callback messageId screen hevents ⟨hparsed, ⟨chatId, href, hshown⟩, -⟩
  have hpre : pre = [] := by
    cases pre with
    | nil => rfl
    | cons e pre => simp at hevents
  subst hpre
  have hpress : press = syncPress 3 := by
    simp only [List.nil_append, List.cons.injEq, Event.update.injEq, TelegramUpdate.press.injEq] at hevents
    exact hevents.1.2.symm
  subst hpress
  cases href
  cases hshown
  cases hparsed
  exact ⟨fun _ => ⟨rfl, rfl⟩, fun _ _ _ hhelp => nomatch hhelp⟩

/-- From an old message the sync runs all the same. -/
theorem sync_runs_from_old_message :
    ¬ ∀ (start : World) (events : List Event) (pre : List Event) (bot : Bot) (press : CallbackQuery)
      (post : List Event) (h : Handled) (screen : ActiveScreenState),
      events = pre ++ .update bot (.press press) :: post →
      press.handled bot (start.after pre) = some h →
      (start.after pre).activeScreens h.message.chatId = some screen →
      screen.descriptor.isReal = true → SafePress screen bot h := by
  intro hall
  obtain ⟨h, hh, hcallback, hmessage, hchat⟩ := syncPress_handled 2 (.inl rfl)
  have hscreen : adminWorld.activeScreens h.message.chatId = some ⟨3, .mainMenu⟩ := rfl
  have hsafe := hall adminWorld [.update dictatedBot (.press (syncPress 2))] [] dictatedBot (syncPress 2)
    [] h ⟨3, .mainMenu⟩ rfl hh hscreen rfl
  have hacts : h.callback.acts = true := by
    rw [hcallback]
    rfl
  have hactive := (hsafe.acts (.inl hacts)).1
  rw [hmessage] at hactive
  exact absurd hactive (by decide)

end TaskBot
