import TaskBot.Presentation.Updates

/-!
# Cancelling a task

A cancellation is asked for on the card of the task and done on its confirmation.
The confirming callback is accepted wherever the task's own card is, so a press of
the confirmation still counts when its message has gone back to the card; and a chat
whose screen is not known, as after a restart, takes any callback.

    BecomesCancelled w w' uid   →   the update presses executeTaskCancel for uid
                                    on the card of uid, its confirmation,
                                    or a screen of unknown kind

* `cancels_of_callbackMay`: who may cancel, by callback;
* `cancel_pressed_on_card`: over all updates of a run.
-/

namespace TaskBot

open Sql Calls Effects

/-- The task is cancelled in `w'`, and was not in `w`. -/
def BecomesCancelled (w w' : World) (uid : Uuid) : Prop :=
  (∃ t, w'.db.stored uid = some t ∧ t.status = .cancelled) ∧
    ¬ ∃ t, w.db.stored uid = some t ∧ t.status = .cancelled

/-- What moves without the right to cancel does not cancel. -/
theorem TaskMoves.not_cancelled {R : TaskRights} {w w' : World} {uid : Uuid}
    (h : TaskMoves R w.db w'.db) (hnot : ¬ R.cancels uid) : ¬ BecomesCancelled w w' uid := by
  rintro ⟨⟨t', hafter, hcancelled⟩, hbefore⟩
  cases hstored : w.db.stored uid with
  | some t =>
    obtain ⟨t₂, ht₂, -, -, hcancel⟩ := h.keeps uid t hstored
    cases ht₂.symm.trans hafter
    rcases hcancel hcancelled with hwas | hright
    · exact hbefore ⟨t, hstored, hwas⟩
    · exact hnot hright
  | none => exact hnot ((h.creates uid t' hstored hafter).2 hcancelled)

/-- Everything but to cancel a task other than those of `C`. -/
def TaskRights.cancelsOnly (C : Uuid → Prop) : TaskRights := ⟨fun _ => True, fun _ => True, C⟩

theorem rights_cancelsOnly {call : RuntimeCall} {C : Uuid → Prop}
    (h : ∀ actor uid, call = .updateTaskStatus actor uid .cancelled → C uid) :
    call.rights.Le (.cancelsOnly C) := by
  refine ⟨fun _ _ => trivial, fun _ _ => trivial, fun uid hcancels => ?_⟩
  cases call with
  | updateTaskStatus actor taskUid nextStatus =>
    obtain ⟨huid, hstatus⟩ := hcancels
    exact h actor uid (by rw [huid, hstatus])
  | reportTaskBlocker actor taskUid reason | reassignTask actor taskUid query decision =>
    exact hcancels.2.elim
  | _ => exact hcancels.elim

/-! ## Who may cancel -/

/-- The callback asks for the cancellation of the task. -/
def TelegramCallback.Cancels (callback : TelegramCallback) (uid : Uuid) : Prop :=
  (∃ origin, callback = .executeTaskCancel uid origin) ∨
    ∃ origin, callback = .updateTaskStatus uid .cancelled origin

theorem cancels_of_callbackMay {bot : Bot} {w : World} {message : IncomingMessage} {actor actor' : User}
    {callback : TelegramCallback} {uid : Uuid}
    (h : CallbackMay bot w message actor callback (.called (.updateTaskStatus actor' uid .cancelled))) :
    callback.Cancels uid := by
  generalize hl : Happening.called (.updateTaskStatus actor' uid .cancelled) = l at h
  cases h with
  | status taskUid nextStatus origin =>
    cases hl
    exact .inr ⟨origin, rfl⟩
  | cancel taskUid origin =>
    cases hl
    exact .inl ⟨origin, rfl⟩
  | consume actorId nonce result hid => cases result <;> cases hl
  | act nonce action => cases action <;> cases hl
  | _ => cases hl

/-- A registration cancels nothing. -/
theorem registration_cancels_nothing {message : IncomingMessage} {w w' : World}
    (h : Footprint (RegistrationDialog.May message) w w') : TaskMoves (.cancelsOnly fun _ => False) w.db w'.db := by
  refine h.moves fun call hmay => rights_cancelsOnly fun actor uid hcall => ?_
  rw [hcall] at hmay
  cases hmay

/-- Neither does a message. -/
theorem message_cancels_nothing (bot : Bot) (message : TelegramMessage) (w : World) :
    TaskMoves (.cancelsOnly fun _ => False) w.db ((Event.update bot (.message message)).apply w).db := by
  have hfoot : Footprint (fun l => ∃ incoming actor, UpdateMay incoming (MessageMay incoming actor) l) w
      ((Event.update bot (.message message)).apply w) :=
    handleMessage_touches fun incoming actor l _ hl => ⟨incoming, actor, hl⟩
  refine hfoot.moves fun call hmay => rights_cancelsOnly fun actor uid hcall => ?_
  obtain ⟨incoming, actor', hmay⟩ := hmay
  rw [hcall] at hmay
  generalize hl : Happening.called (.updateTaskStatus actor uid .cancelled) = l at hmay
  cases hmay with
  | register l h =>
    rw [← hl] at h
    cases h
  | recordEvent entry => cases hl
  | handle l h =>
    rw [← hl] at h
    generalize hl' : Happening.called (.updateTaskStatus actor uid .cancelled) = l' at h
    cases h with
    | answer session text =>
      unfold TaskInteractionSession.call at hl'
      cases hkind : session.kind <;> rw [hkind] at hl' <;> cases hl'
    | _ => cases hl'

/-! ## One press -/

section

variable {bot : Bot} {press : CallbackQuery} {w : World} {h : Handled} {uid : Uuid}

/-- A press that cancels a task is handled, and its callback asks for that. -/
theorem handled_of_cancelled
    (hcancelled : BecomesCancelled w ((Event.update bot (.press press)).apply w) uid) :
    ∃ h, press.handled bot w = some h ∧ h.callback.Cancels uid := by
  cases hh : press.handled bot w with
  | none =>
    obtain ⟨message, hfoot⟩ := apply_press_unhandled hh
    exact absurd hcancelled ((registration_cancels_nothing hfoot).not_cancelled id)
  | some h =>
    refine ⟨h, rfl, ?_⟩
    rw [apply_press hh] at hcancelled
    by_contra hnot
    have hregistered : TaskMoves (.cancelsOnly fun uid => h.callback.Cancels uid) w.db h.start.db :=
      (registration_cancels_nothing (handled_footprint hh)).mono
        ⟨fun _ => id, fun _ => id, fun _ => False.elim⟩
    have hran : TaskMoves (.cancelsOnly fun uid => h.callback.Cancels uid) h.start.db (h.finish bot).db :=
      (finish_footprint bot h).moves fun call hmay => rights_cancelsOnly fun actor uid hcall => by
        rw [hcall] at hmay
        exact cancels_of_callbackMay hmay
    exact (hregistered.trans hran).not_cancelled hnot hcancelled

theorem cancels_mutating {callback : TelegramCallback} (h : callback.Cancels uid) :
    callback.isMutating = true ∧ callback.cardTaskUid = some uid := by
  rcases h with ⟨origin, rfl⟩ | ⟨origin, rfl⟩ <;> exact ⟨rfl, rfl⟩

/-- **One press.** -/
theorem cancel_press_screen (hh : press.handled bot w = some h) (hcancels : h.callback.Cancels uid) :
    w.activeScreens h.message.chatId = none ∨
      ∃ d, w.activeScreens h.message.chatId = some ⟨h.message.messageId, d⟩ ∧
        (d.cardUid = some uid ∨ d.isReal = false ∨ ∃ shown origin, d = .deliveryHelp shown origin) := by
  obtain ⟨hmutating, huid⟩ := cancels_mutating hcancels
  cases hscreen : w.activeScreens h.message.chatId with
  | none => exact .inl rfl
  | some screen =>
    obtain ⟨hactive, haccepts⟩ := handled_mutating hh hmutating hscreen
    refine .inr ⟨screen.descriptor, by rw [← hactive], ?_⟩
    by_cases hreal : screen.descriptor.isReal = true
    · rcases accepts_cardTask hreal haccepts huid with hcard | hhelp
      · exact .inl hcard
      · exact .inr (.inr hhelp)
    · exact .inr (.inl (Bool.eq_false_iff.mpr hreal))

end

/-! ## Top theorem -/

/-- No status button that asks for the status `cancelled`, and no press on the delivery help. -/
structure ByCancelButton (w : World) (received : TelegramUpdate) : Prop where
  status : ∀ press uid origin, received = .press press →
    press.parsed ≠ some (.updateTaskStatus uid .cancelled origin)
  help : ∀ press ref shown origin, received = .press press → press.message = some ref →
    w.activeScreens ref.chatId ≠ some ⟨ref.id, .deliveryHelp shown origin⟩

/-- **Where a cancellation is pressed.**  Whenever a task becomes cancelled by an update of a run, it is the
confirming press for this task, on the message of its card, of its confirmation, or of a screen of
unknown kind. -/
theorem cancel_pressed_on_card (start : World) (pre : List Event) (bot : Bot) (received : TelegramUpdate)
    (uid : Uuid) (hbutton : ByCancelButton (start.after pre) received)
    (hcancelled : BecomesCancelled (start.after pre)
      ((Event.update bot received).apply (start.after pre)) uid) :
    ∃ press origin ref, received = .press press ∧ press.parsed = some (.executeTaskCancel uid origin) ∧
      press.message = some ref ∧
      ((start.after pre).activeScreens ref.chatId = none ∨
        ∃ d, (start.after pre).activeScreens ref.chatId = some ⟨ref.id, d⟩ ∧
          (d.cardUid = some uid ∨ d.isReal = false)) := by
  cases received with
  | message message =>
    exact absurd hcancelled ((message_cancels_nothing bot message (start.after pre)).not_cancelled id)
  | press press =>
    obtain ⟨h, hh, hcancels⟩ := handled_of_cancelled hcancelled
    obtain ⟨hparsed, hmessage, -⟩ := handled_incoming hh
    have hexecute : ∃ origin, h.callback = .executeTaskCancel uid origin := by
      rcases hcancels with hexecute | ⟨origin, hstatus⟩
      · exact hexecute
      · exact absurd (hparsed.trans (congrArg some hstatus)) (hbutton.status press uid origin rfl)
    obtain ⟨origin, horigin⟩ := hexecute
    refine ⟨press, origin, ⟨h.message.messageId, h.message.chatId⟩, rfl, ?_, hmessage, ?_⟩
    · rw [hparsed, horigin]
    · rcases cancel_press_screen hh hcancels with hnone | ⟨d, hscreen, hcard | hreal | hhelp⟩
      · exact .inl hnone
      · exact .inr ⟨d, hscreen, .inl hcard⟩
      · exact .inr ⟨d, hscreen, .inr hreal⟩
      · obtain ⟨shown, origin', rfl⟩ := hhelp
        exact absurd hscreen (hbutton.help press _ shown origin' rfl hmessage)

/-! ## A press that comes late -/

/-- The creator of a task has gone back from the confirmation to the card, on message 3. -/
def cardWorld : World :=
  { onboardedWorld with
    db := { soleUser onboardedRow with tasks := (Db.withTask { sampleTask with createdByUserId := 1 }).tasks }
    activeScreens := fun _ => some ⟨3, .taskDetail sampleTask.taskUid .compact .created⟩ }

theorem cardWorld_screen {chatId messageId : Int} {d : ScreenDescriptor}
    (h : cardWorld.activeScreens chatId = some ⟨messageId, d⟩) :
    d = .taskDetail sampleTask.taskUid .compact .created :=
  (congrArg ActiveScreenState.descriptor (Option.some.inj h)).symm

def cancelPress : CallbackQuery where
  id := "c2"
  idHash := 102
  sender := ⟨7, "Анна Петрова", none⟩
  message := some ⟨3, 7⟩
  data := some (encodeCallback (.executeTaskCancel sampleTask.taskUid .created))
  parsed := some (.executeTaskCancel sampleTask.taskUid .created)

theorem late_press_cancels : BecomesCancelled cardWorld
    ((Event.update dictatedBot (.press cancelPress)).apply cardWorld) sampleTask.taskUid := by
  have hafter : (((Event.update dictatedBot (.press cancelPress)).apply cardWorld).db.stored
      sampleTask.taskUid).map Task.status = some .cancelled := by decide +kernel
  have hbefore : (cardWorld.db.stored sampleTask.taskUid).map Task.status ≠ some .cancelled := by
    decide +kernel
  obtain ⟨t, ht, hstatus⟩ := Option.map_eq_some_iff.mp hafter
  refine ⟨⟨t, ht, hstatus⟩, ?_⟩
  rintro ⟨t₀, ht₀, hwas⟩
  exact hbefore (Option.map_eq_some_iff.mpr ⟨t₀, ht₀, hwas⟩)

theorem late_press_on_card : ∃ press origin ref, TelegramUpdate.press cancelPress = .press press ∧
    press.parsed = some (.executeTaskCancel sampleTask.taskUid origin) ∧ press.message = some ref ∧
    (cardWorld.activeScreens ref.chatId = none ∨ ∃ d, cardWorld.activeScreens ref.chatId = some ⟨ref.id, d⟩ ∧
      (d.cardUid = some sampleTask.taskUid ∨ d.isReal = false)) := by
  have hbutton : ByCancelButton cardWorld (.press cancelPress) := by
    refine ⟨fun press uid origin hpress => ?_, fun press ref shown origin _ _ hscreen => ?_⟩
    · cases hpress
      exact nofun
    · cases cardWorld_screen hscreen
  exact cancel_pressed_on_card cardWorld [] dictatedBot (.press cancelPress) sampleTask.taskUid hbutton
    late_press_cancels

/-- The confirmation is not on the screen any more when it is pressed. -/
theorem cancel_pressed_off_confirmation :
    ¬ ∀ (start : World) (pre : List Event) (bot : Bot) (received : TelegramUpdate) (uid : Uuid),
      BecomesCancelled (start.after pre) ((Event.update bot received).apply (start.after pre)) uid →
      ∃ press origin ref origin', received = .press press ∧
        press.parsed = some (.executeTaskCancel uid origin) ∧ press.message = some ref ∧
        (start.after pre).activeScreens ref.chatId = some ⟨ref.id, .cancelConfirmation uid origin'⟩ := by
  intro hall
  obtain ⟨press, origin, ref, origin', -, -, -, hscreen⟩ :=
    hall cardWorld [] dictatedBot (.press cancelPress) sampleTask.taskUid late_press_cancels
  cases cardWorld_screen hscreen

end TaskBot
