import Mathlib.Data.List.Nodup
import TaskBot.Presentation.StaleButtons

/-!
# Admin confirmations

An admin action is executed directly behind the redemption of its nonce:

    log = … issued a n action … redeemed a n action, called (action.call a) …

The invariant ties the store to the log: what is stored was issued, and what was
redeemed is not stored any more.

* `apply_paired`, `book_step`: the pairs and the invariant, one event and one step;
* `withdrawn_not_redeemed`: a nonce that has lapsed is not redeemed later;
* `admin_actions_confirmed`: whole runs.  The Cancel button and a newer confirmation
  leave the old nonce in the store, so they are asked to come after its expiry.
-/

namespace TaskBot

open Sql Calls Effects

/-! ## Nonces of a log -/

def Happening.issuedNonce : Happening → Option String
  | .issued _ nonce _ _ _ => some nonce
  | _ => none

def Happening.redeemedNonce : Happening → Option String
  | .redeemed _ nonce _ _ => some nonce
  | _ => none

def issuedNonces (log : List Happening) : List String := log.filterMap Happening.issuedNonce

def redeemedNonces (log : List Happening) : List String := log.filterMap Happening.redeemedNonce

/-- A change of role, a deactivation or a reactivation. -/
def RuntimeCall.isAdminAction : RuntimeCall → Bool
  | .changeRole _ _ _ | .deactivateUser _ _ | .reactivateUser _ _ => true
  | _ => false

@[simp] theorem issuedNonces_append (log log' : List Happening) :
    issuedNonces (log ++ log') = issuedNonces log ++ issuedNonces log' := List.filterMap_append

@[simp] theorem redeemedNonces_append (log log' : List Happening) :
    redeemedNonces (log ++ log') = redeemedNonces log ++ redeemedNonces log' := List.filterMap_append

theorem mem_redeemedNonces {log : List Happening} {n : String} :
    n ∈ redeemedNonces log ↔ ∃ a action now, .redeemed a n action now ∈ log := by
  unfold redeemedNonces
  rw [List.mem_filterMap]
  constructor
  · rintro ⟨l, hl, hn⟩
    cases l <;> cases hn
    exact ⟨_, _, _, hl⟩
  · rintro ⟨a, action, now, hl⟩
    exact ⟨_, hl, rfl⟩

theorem mem_issuedNonces {log : List Happening} {a : Int} {n : String} {action : PendingAdminAction}
    {issuedAt now : Instant} (h : .issued a n action issuedAt now ∈ log) : n ∈ issuedNonces log :=
  List.mem_filterMap.mpr ⟨_, h, rfl⟩

/-! ## The store and the log -/

/-- The nonce was issued for this. -/
def IssuedIn (past : List Happening) (ttl : Int) (a : Int) (n : String) (action : PendingAdminAction)
    (expiresAt : Instant) : Prop :=
  ∃ issuedAt now, .issued a n action issuedAt now ∈ past ∧ expiresAt = issuedAt + ttl

theorem IssuedIn.append {past : List Happening} {ttl a : Int} {n : String} {action : PendingAdminAction}
    {expiresAt : Instant} (h : IssuedIn past ttl a n action expiresAt) (later : List Happening) :
    IssuedIn (past ++ later) ttl a n action expiresAt := by
  obtain ⟨issuedAt, now, hmem, hexpires⟩ := h
  exact ⟨issuedAt, now, List.mem_append_left _ hmem, hexpires⟩

structure NonceBook (ttl : Int) (past : List Happening) (s : Holdings) : Prop where
  lifetime : s.nonces.ttl = ttl
  stored : ∀ n e, s.nonces.inner n = some e → IssuedIn past ttl e.actorUserId n e.action e.expiresAt
  spent : ∀ n ∈ redeemedNonces past, s.nonces.inner n = none
  once : (redeemedNonces past).Nodup
  earlier : ∀ before a n action now rest, past = before ++ .redeemed a n action now :: rest →
    ∃ expiresAt, IssuedIn before ttl a n action expiresAt ∧ now < expiresAt

/-- The last entry of a list, or one before it. -/
theorem append_singleton_cases {α : Type} {past before rest : List α} {l x : α}
    (h : past ++ [l] = before ++ x :: rest) :
    (rest = [] ∧ before = past ∧ x = l) ∨ ∃ rest', past = before ++ x :: rest' := by
  rcases List.eq_nil_or_concat rest with rfl | ⟨rest', y, rfl⟩
  · obtain ⟨hpast, hl⟩ := List.append_inj' h rfl
    exact .inl ⟨rfl, hpast.symm, (List.singleton_inj.mp hl).symm⟩
  · rw [List.concat_eq_append, ← List.cons_append, ← List.append_assoc] at h
    exact .inr ⟨rest', (List.append_inj' h rfl).1⟩

section

variable {ttl : Int} {past : List Happening} {s s' : Holdings} {l : Happening}

/-- A step that redeems nothing. -/
theorem NonceBook.skip (h : NonceBook ttl past s) (hl : l.redeemedNonce = none)
    (httl : s'.nonces.ttl = s.nonces.ttl)
    (hstored : ∀ n e, s'.nonces.inner n = some e →
      IssuedIn (past ++ [l]) ttl e.actorUserId n e.action e.expiresAt)
    (hspent : ∀ n ∈ redeemedNonces past, s'.nonces.inner n = none) : NonceBook ttl (past ++ [l]) s' := by
  have hsame : redeemedNonces (past ++ [l]) = redeemedNonces past := by
    rw [redeemedNonces_append]
    unfold redeemedNonces
    rw [List.filterMap_cons_none hl, List.filterMap_nil, List.append_nil]
  refine ⟨httl.trans h.lifetime, hstored, ?_, ?_, ?_⟩
  · rw [hsame]
    exact hspent
  · rw [hsame]
    exact h.once
  · intro before a n action now rest hsplit
    rcases append_singleton_cases hsplit with ⟨-, -, hx⟩ | ⟨rest', hpast⟩
    · rw [← hx] at hl
      cases hl
    · exact h.earlier before a n action now rest' hpast

theorem NonceBook.kept (h : NonceBook ttl past s) (hnonces : s'.nonces = s.nonces)
    (hl : l.redeemedNonce = none) : NonceBook ttl (past ++ [l]) s' := by
  refine h.skip hl (by rw [hnonces]) (fun n e he => ?_) fun n hn => ?_
  · rw [hnonces] at he
    exact (h.stored n e he).append _
  · rw [hnonces]
    exact h.spent n hn

/-- What was redeemed was issued. -/
theorem NonceBook.redeemed_issued (h : NonceBook ttl past s) {n : String} (hn : n ∈ redeemedNonces past) :
    n ∈ issuedNonces past := by
  obtain ⟨a, action, now, hmem⟩ := mem_redeemedNonces.mp hn
  obtain ⟨before, rest, rfl⟩ := List.append_of_mem hmem
  obtain ⟨_, ⟨issuedAt, now', hissued, -⟩, -⟩ := h.earlier before a n action now rest rfl
  exact mem_issuedNonces (List.mem_append_left _ hissued)

/-- **Every step keeps the book**, as long as no nonce is issued twice. -/
theorem book_step (hfresh : (issuedNonces (past ++ [l])).Nodup) (h : NonceBook ttl past s)
    (hs : l.Step s s') : NonceBook ttl (past ++ [l]) s' := by
  cases l with
  | called call => exact h.kept hs.1 rfl
  | pended chatId message =>
    cases hs
    exact h.kept rfl rfl
  | issued a n action issuedAt now =>
    cases hs
    refine h.skip rfl rfl (fun m e he => ?_) fun m hm => ?_
    · rcases AdminNonceStore.issue_some he with ⟨rfl, rfl⟩ | ⟨-, he⟩
      · refine ⟨issuedAt, now, List.mem_append_right _ List.mem_cons_self, ?_⟩
        rw [h.lifetime]
      · exact (h.stored m e he).append _
    · cases hstored : (s.nonces.issue issuedAt now n a action).inner m with
      | none => rfl
      | some e =>
        rcases AdminNonceStore.issue_some hstored with ⟨rfl, -⟩ | ⟨-, he⟩
        · rw [issuedNonces_append] at hfresh
          exact absurd List.mem_cons_self (List.disjoint_of_nodup_append hfresh (h.redeemed_issued hm))
        · rw [h.spent m hm] at he
          cases he
  | redeemed a n action now =>
    obtain ⟨hconsume, -⟩ := hs
    obtain ⟨expiresAt, hstored, hlive, -⟩ := AdminNonceStore.consume_ok hconsume
    have hnonces : s'.nonces = (s.nonces.consume now a n).2 := by rw [hconsume]
    have hsome : ∀ {m e}, s'.nonces.inner m = some e → m ≠ n ∧ s.nonces.inner m = some e := by
      intro m e he
      rw [hnonces] at he
      exact AdminNonceStore.consume_some he
    have hnew : n ∉ redeemedNonces past := by
      intro hn
      rw [h.spent n hn] at hstored
      cases hstored
    have hredeemed : redeemedNonces (past ++ [.redeemed a n action now]) = redeemedNonces past ++ [n] := by
      rw [redeemedNonces_append]
      rfl
    refine ⟨?_, fun m e he => (h.stored m e (hsome he).2).append _, ?_, ?_, ?_⟩
    · rw [hnonces, AdminNonceStore.consume_ttl, h.lifetime]
    · rw [hredeemed]
      intro m hm
      cases hm' : s'.nonces.inner m with
      | none => rfl
      | some e =>
        obtain ⟨hne, he⟩ := hsome hm'
        rcases List.mem_append.mp hm with hold | hlast
        · rw [h.spent m hold] at he
          cases he
        · exact absurd (List.mem_singleton.mp hlast) hne
    · rw [hredeemed]
      refine List.Nodup.append h.once (List.nodup_singleton n) ?_
      rw [List.disjoint_singleton]
      exact hnew
    · intro before a' n' action' now' rest hsplit
      rcases append_singleton_cases hsplit with ⟨-, rfl, hx⟩ | ⟨rest', hpast⟩
      · cases hx
        exact ⟨expiresAt, h.stored n _ hstored, hlive⟩
      · exact h.earlier before a' n' action' now' rest' hpast
  | refused a n error now =>
    obtain ⟨hconsume, -⟩ := hs
    have hnonces : s'.nonces = (s.nonces.consume now a n).2 := by rw [hconsume]
    have hsome : ∀ {m e}, s'.nonces.inner m = some e → s.nonces.inner m = some e := by
      intro m e he
      rw [hnonces] at he
      exact (AdminNonceStore.consume_some he).2
    refine h.skip rfl ?_ (fun m e he => (h.stored m e (hsome he)).append _) fun m hm => ?_
    · rw [hnonces, AdminNonceStore.consume_ttl]
    · cases hm' : s'.nonces.inner m with
      | none => rfl
      | some e =>
        have he := hsome hm'
        rw [h.spent m hm] at he
        cases he

end

/-! ## One update -/

/-- Admin actions stand directly behind the nonce their actor has redeemed for them. -/
def Paired (log : List Happening) : Prop :=
  ∀ past call rest, log = past ++ .called call :: rest → call.isAdminAction = true →
    ∃ before a n action now actor, past = before ++ [.redeemed a n action now] ∧
      actor.id = some a ∧ call = action.call actor

/-- In what is written before, behind, or in the middle. -/
theorem append_cons_cases {α : Type} {log ls past rest : List α} {x : α}
    (h : log ++ ls = past ++ x :: rest) :
    (∃ rest', log = past ++ x :: rest') ∨ ∃ mid, past = log ++ mid ∧ ls = mid ++ x :: rest := by
  rcases List.append_eq_append_iff.mp h with ⟨mid, hpast, hls⟩ | ⟨mid, hlog, hrest⟩
  · exact .inr ⟨mid, hpast, hls⟩
  · cases mid with
    | nil => exact .inr ⟨[], by rw [hlog, List.append_nil, List.append_nil], hrest.symm⟩
    | cons y mid =>
      obtain ⟨rfl, -⟩ := List.cons.inj hrest
      exact .inl ⟨mid, hlog⟩

theorem Paired.append {log ls : List Happening} (h : Paired log)
    (hls : (∀ call, .called call ∈ ls → call.isAdminAction = false) ∨
      ∃ a n action now actor, actor.id = some a ∧
        ls = [.redeemed a n action now, .called (action.call actor)]) : Paired (log ++ ls) := by
  intro past call rest hsplit haction
  rcases append_cons_cases hsplit with ⟨rest', hlog⟩ | ⟨mid, rfl, hmid⟩
  · exact h past call rest' hlog haction
  · rcases hls with hnone | ⟨a, n, action, now, actor, hactor, hpair⟩
    · have hmem : Happening.called call ∈ ls := by
        rw [hmid]
        exact List.mem_append_right _ List.mem_cons_self
      rw [hnone call hmem] at haction
      cases haction
    · rw [hpair] at hmid
      -- the call is the second of the pair
      cases mid with
      | nil => cases (List.cons.inj hmid).1
      | cons x mid =>
        obtain ⟨rfl, htail⟩ := List.cons.inj hmid
        cases mid with
        | nil =>
          injection (List.cons.inj htail).1 with hcall
          exact ⟨log, a, n, action, now, actor, rfl, hactor, hcall.symm⟩
        | cons y mid => simp at htail

section

variable {bot : Bot} {w w' : World}

theorem Paired.of_footprint {may : Happening → Prop} (h : Paired w.log) (hfoot : Footprint may w w')
    (hmay : ∀ call, may (.called call) → call.isAdminAction = false) : Paired w'.log := by
  obtain ⟨ls, hlog, hall, -⟩ := hfoot.recorded
  rw [hlog]
  exact h.append (.inl fun call hcall => hmay call (hall _ hcall))

theorem registration_not_admin {message : IncomingMessage} {call : RuntimeCall}
    (h : RegistrationDialog.May message (.called call)) : call.isAdminAction = false := by
  cases h <;> rfl

theorem message_not_admin {message : IncomingMessage} {actor : User} {call : RuntimeCall}
    (h : UpdateMay message (MessageMay message actor) (.called call)) : call.isAdminAction = false := by
  generalize hl : Happening.called call = l at h
  cases h with
  | register l h =>
    rw [← hl] at h
    exact registration_not_admin h
  | recordEvent entry =>
    cases hl
    rfl
  | handle l h =>
    cases h with
    | answer session text =>
      cases hl
      unfold TaskInteractionSession.call
      cases session.kind <;> rfl
    | pend intake h => cases hl
    | _ =>
      cases hl
      rfl

/-- Off the confirming button no admin action is called. -/
theorem callback_not_admin {message : IncomingMessage} {actor : User} {callback : TelegramCallback}
    {call : RuntimeCall} (hcallback : ∀ n, callback ≠ .adminConfirmNonce n)
    (h : CallbackMay bot w message actor callback (.called call)) : call.isAdminAction = false := by
  generalize hl : Happening.called call = l at h
  cases h with
  | act nonce action => exact absurd rfl (hcallback nonce)
  | consume actorId nonce result hid => exact absurd rfl (hcallback nonce)
  | _ => cases hl <;> rfl

/-- A press of the confirming button writes a pair, or calls nothing. -/
theorem paired_confirm {message : IncomingMessage} {actor : User} (nonce : String) (h : Paired w.log) :
    Paired (exec (runCallback bot message actor (.adminConfirmNonce nonce)) w).2.log := by
  have hclear : exec (clearTaskInteraction message.chatId) w = (.ok (), { w with
      taskInteractions := Function.update w.taskInteractions message.chatId none }) := rfl
  show Paired (exec (clearTaskInteraction message.chatId >>= fun _ =>
    executeAdminConfirmation bot actor message.chatId nonce) w).2.log
  rw [Effects.exec_bind_ok hclear]
  obtain ⟨ls, hlog, hls⟩ := @executeAdminConfirmation_log bot actor message.chatId nonce { w with
    taskInteractions := Function.update w.taskInteractions message.chatId none }
  rw [hlog]
  refine h.append (hls.imp (fun hnone call hcall => absurd hcall (hnone call)) ?_)
  rintro ⟨a, action, hactor, rfl⟩
  exact ⟨a, nonce, action, bot.uptime 2, actor, hactor, rfl⟩

/-- **Every update pairs its admin actions.** -/
theorem paired_update (received : TelegramUpdate) (h : Paired w.log) :
    Paired ((Event.update bot received).apply w).log := by
  cases received with
  | message message =>
    have hfoot : Footprint (fun l => ∃ incoming actor, UpdateMay incoming (MessageMay incoming actor) l) w
        ((Event.update bot (.message message)).apply w) :=
      handleMessage_touches fun incoming actor l _ hl => ⟨incoming, actor, hl⟩
    refine h.of_footprint hfoot fun call hmay => ?_
    obtain ⟨incoming, actor, hmay⟩ := hmay
    exact message_not_admin hmay
  | press press =>
    cases hh : press.handled bot w with
    | none =>
      obtain ⟨message, hfoot⟩ := apply_press_unhandled hh
      exact h.of_footprint hfoot fun call hmay => registration_not_admin hmay
    | some handled =>
      have hstart : Paired handled.start.log :=
        h.of_footprint (handled_footprint hh) fun call hmay => registration_not_admin hmay
      rw [apply_press hh]
      show Paired (handled.finish bot).log
      by_cases hcallback : ∃ nonce, handled.callback = .adminConfirmNonce nonce
      · obtain ⟨nonce, hnonce⟩ := hcallback
        unfold Handled.finish
        rw [hnonce]
        exact paired_confirm nonce hstart
      · refine hstart.of_footprint (finish_footprint bot handled) fun call hmay => ?_
        exact callback_not_admin (fun n hn => hcallback ⟨n, hn⟩) hmay

/-- What an update may write: nonces are redeemed at the second reading of its clock. -/
def RedeemsAt (now : Instant) (l : Happening) : Prop :=
  ∀ a n action now', l = .redeemed a n action now' → now' = now

theorem update_footprint (bot : Bot) (received : TelegramUpdate) (w : World) :
    Footprint (RedeemsAt (bot.uptime 2)) w ((Event.update bot received).apply w) := by
  cases received with
  | message message =>
    refine handleMessage_touches fun incoming actor l _ hl a n action now' hredeemed => ?_
    subst hredeemed
    cases hl with
    | register l h => cases h
    | handle l h => cases h
  | press press =>
    have hregister : ∀ message l, RegistrationDialog.May message l → RedeemsAt (bot.uptime 2) l := by
      intro message l hl a n action now' hredeemed
      subst hredeemed
      cases hl
    cases hh : press.handled bot w with
    | none =>
      obtain ⟨message, hfoot⟩ := apply_press_unhandled hh
      exact hfoot.mono (hregister message)
    | some handled =>
      rw [apply_press hh]
      refine ((handled_footprint hh).mono (hregister _)).trans (.trans ?_ (footprint_uninstall _ _))
      refine (finish_footprint bot handled).mono fun l hl a n action now' hredeemed => ?_
      rw [hredeemed] at hl
      generalize hcallback : handled.callback = callback at hl
      generalize hl' : Happening.redeemed a n action now' = l' at hl
      cases hl with
      | consume actorId nonce result hid =>
        cases result with
        | ok action' =>
          cases hl'
          rfl
        | error error => cases hl'
      | _ => cases hl'

end

/-! ## Runs -/

/-- **A law of log and nonces that every step of every update keeps.** -/
theorem after_keeps {I : List Happening → Holdings → Prop} {events : List Event}
    (hprocess : ∀ log s process, I log s → I log ⟨process, s.nonces⟩)
    (hstep : ∀ bot received, Event.update bot received ∈ events → ∀ l, RedeemsAt (bot.uptime 2) l →
      ∀ past s s', I past s → l.Step s s' → I (past ++ [l]) s') :
    ∀ {w : World}, I w.log w.holdings → I (w.after events).log (w.after events).holdings := by
  induction events with
  | nil => exact id
  | cons e events ih =>
    intro w hw
    rw [after_cons]
    have hhead : I (e.apply w).log (e.apply w).holdings := by
      cases e with
      | update bot received =>
        exact (update_footprint bot received w).recorded.keeps
          (hstep bot received List.mem_cons_self) hw
      | elsewhere process => exact hprocess _ _ process hw
    exact ih (fun bot received hmem => hstep bot received (List.mem_cons_of_mem _ hmem)) hhead

/-- No nonce is issued twice. -/
def Distinct (log : List Happening) : Prop := (issuedNonces log).Nodup

theorem Distinct.of_append {past later : List Happening} (h : Distinct (past ++ later)) : Distinct past := by
  unfold Distinct at h
  rw [issuedNonces_append] at h
  exact h.of_append_left

theorem after_book {w : World} (events : List Event) (hlog : w.log = [])
    (hempty : ∀ n, w.adminNonces.inner n = none) (hdistinct : Distinct (w.after events).log) :
    NonceBook w.adminNonces.ttl (w.after events).log (w.after events).holdings := by
  let I : List Happening → Holdings → Prop := fun past s =>
    Distinct past → NonceBook w.adminNonces.ttl past s
  have hprocess : ∀ log s process, I log s → I log ⟨process, s.nonces⟩ :=
    fun log s process hI hlog => ⟨(hI hlog).lifetime, (hI hlog).stored, (hI hlog).spent, (hI hlog).once,
      (hI hlog).earlier⟩
  have hstart : I w.log w.holdings := by
    intro _
    rw [hlog]
    refine ⟨rfl, fun n e he => ?_, fun n hn => absurd hn List.not_mem_nil, List.nodup_nil, ?_⟩
    · cases (hempty n).symm.trans he
    · intro before a n action now rest hsplit
      simp at hsplit
  refine after_keeps (I := I) hprocess (fun bot received _ l _ past s s' hI hs hdistinct' => ?_) hstart hdistinct
  exact book_step hdistinct' (hI hdistinct'.of_append) hs

theorem after_paired {w : World} (events : List Event) (h : Paired w.log) : Paired (w.after events).log := by
  induction events generalizing w with
  | nil => exact h
  | cons e events ih =>
    rw [after_cons]
    refine ih ?_
    cases e with
    | update bot received => exact paired_update received h
    | elsewhere process => exact h

/-! ## Withdrawn nonces -/

/-- What is left of the nonce has expired. -/
def Lapsed (n : String) (now : Instant) (s : Holdings) : Prop :=
  ∀ e, s.nonces.inner n = some e → e.expiresAt ≤ now

/-- A lapsed nonce comes back only when it is issued again. -/
theorem Lapsed.step {n : String} {now : Instant} {l : Happening} {s s' : Holdings} (h : Lapsed n now s)
    (hs : l.Step s s') (hl : l.issuedNonce ≠ some n) : Lapsed n now s' := by
  intro e he
  cases l with
  | called call =>
    rw [hs.1] at he
    exact h e he
  | pended chatId message =>
    cases hs
    exact h e he
  | issued a m action issuedAt swept =>
    cases hs
    rcases AdminNonceStore.issue_some he with ⟨rfl, -⟩ | ⟨-, he⟩
    · exact absurd rfl hl
    · exact h e he
  | redeemed a m action redeemedAt =>
    have hnonces : s'.nonces = (s.nonces.consume redeemedAt a m).2 := by rw [hs.1]
    rw [hnonces] at he
    exact h e (AdminNonceStore.consume_some he).2
  | refused a m error refusedAt =>
    have hnonces : s'.nonces = (s.nonces.consume refusedAt a m).2 := by rw [hs.1]
    rw [hnonces] at he
    exact h e (AdminNonceStore.consume_some he).2

/-- A nonce that was issued in the past is not issued by the next step. -/
theorem Distinct.not_again {past : List Happening} {l : Happening} {n : String}
    (h : Distinct (past ++ [l])) (hn : n ∈ issuedNonces past) : l.issuedNonce ≠ some n := by
  intro hl
  unfold Distinct at h
  rw [issuedNonces_append] at h
  have hmem : n ∈ issuedNonces [l] := List.mem_filterMap.mpr ⟨l, List.mem_cons_self, hl⟩
  exact List.disjoint_of_nodup_append h hn hmem

/-- Whatever happens, a lapsed nonce stays so. -/
theorem after_lapsed {w : World} {events : List Event} {n : String} {now : Instant}
    (hn : n ∈ issuedNonces w.log) (hlapsed : Lapsed n now w.holdings)
    (hdistinct : Distinct (w.after events).log) : Lapsed n now (w.after events).holdings := by
  let I : List Happening → Holdings → Prop := fun past s =>
    n ∈ issuedNonces past ∧ (Distinct past → Lapsed n now s)
  have hkept : I (w.after events).log (w.after events).holdings := by
    refine after_keeps (I := I) (fun _ _ _ hI => hI) (fun bot received _ l _ past s s' hI hs => ?_)
      ⟨hn, fun _ => hlapsed⟩
    refine ⟨by rw [issuedNonces_append]; exact List.mem_append_left _ hI.1, fun hdistinct' => ?_⟩
    exact (hI.2 hdistinct'.of_append).step hs (hdistinct'.not_again hI.1)
  exact hkept.2 hdistinct

/-- **A lapsed nonce is not redeemed any more.** -/
theorem lapsed_not_redeemed {w : World} {events : List Event} {n : String} {now : Instant}
    (hn : n ∈ issuedNonces w.log) (hlapsed : Lapsed n now w.holdings)
    (hlater : ∀ bot received, Event.update bot received ∈ events → now ≤ bot.uptime 2)
    (hdistinct : Distinct (w.after events).log) : ∃ later, (w.after events).log = w.log ++ later ∧
      n ∉ redeemedNonces later := by
  let I : List Happening → Holdings → Prop := fun past s => ∃ later, past = w.log ++ later ∧
    (Distinct past → Lapsed n now s ∧ n ∉ redeemedNonces later)
  have hkept : I (w.after events).log (w.after events).holdings := by
    refine after_keeps (I := I) (fun _ _ _ hI => hI) (fun bot received hmem l hl past s s' hI hs => ?_)
      ⟨[], (List.append_nil _).symm, fun _ => ⟨hlapsed, List.not_mem_nil⟩⟩
    obtain ⟨later, hpast, hI⟩ := hI
    refine ⟨later ++ [l], by rw [hpast, List.append_assoc], fun hdistinct' => ?_⟩
    obtain ⟨hlapsed', hnot⟩ := hI hdistinct'.of_append
    have hissued : n ∈ issuedNonces past := by
      rw [hpast, issuedNonces_append]
      exact List.mem_append_left _ hn
    refine ⟨hlapsed'.step hs (hdistinct'.not_again hissued), ?_⟩
    rw [redeemedNonces_append]
    intro hmem'
    rcases List.mem_append.mp hmem' with hold | hnew
    · exact hnot hold
    · obtain ⟨a, action, redeemedAt, hredeemed⟩ := mem_redeemedNonces.mp hnew
      cases List.mem_singleton.mp hredeemed
      -- who redeems it holds an entry that is still live
      obtain ⟨expiresAt, hstored, hlive, -⟩ := AdminNonceStore.consume_ok hs.1
      have hexpired : expiresAt ≤ now := hlapsed' _ hstored
      have hclock : redeemedAt = bot.uptime 2 := hl a n action redeemedAt rfl
      have hnow := hlater bot received hmem
      rw [hclock] at hlive
      exact absurd hlive (not_lt.mpr (hexpired.trans hnow))
  obtain ⟨later, hlog, hI⟩ := hkept
  exact ⟨later, hlog, (hI hdistinct).2⟩

/-! ## Top theorem -/

/-- The pressed message asks for the confirmation with this nonce, and the press is its Cancel button. -/
structure CancelsConfirmation (w : World) (h : Handled) (n : String) : Prop where
  cancel : h.callback = .adminCancelPending
  shown : ∃ view, w.messages h.message.chatId h.message.messageId = some view ∧
    .adminConfirmNonce n ∈ view.keyboard.flatten

/-- The actor of the nonce cancels its confirmation, or opens a newer one. -/
def Withdraws (bot : Bot) (w : World) (press : CallbackQuery) (n : String) : Prop :=
  ∃ h a action issuedAt now, press.handled bot w = some h ∧ h.actor.id = some a ∧
    .issued a n action issuedAt now ∈ w.log ∧
    (CancelsConfirmation w h n ∨ ∃ newer, OpensConfirmation bot h.start h.actor h.callback a newer)

/-- The last thing before the call is that its actor redeems a nonce, issued to them for this very action
and not expired. -/
def SpendsNonce (ttl : Int) (past : List Happening) (call : RuntimeCall) : Prop :=
  ∃ before a n action expiresAt now actor, past = before ++ [.redeemed a n action now] ∧
    IssuedIn before ttl a n action expiresAt ∧ now < expiresAt ∧ actor.id = some a ∧ call = action.call actor

structure AdminLaw (start : World) (events : List Event) : Prop where
  confirmed : ∀ past call rest, (start.after events).log = past ++ .called call :: rest →
    call.isAdminAction = true → SpendsNonce start.adminNonces.ttl past call
  once : (redeemedNonces (start.after events).log).Nodup
  withdrawn : ∀ pre bot press post n, events = pre ++ .update bot (.press press) :: post →
    Withdraws bot (start.after pre) press n →
      ∃ later, (start.after events).log =
          (start.after (pre ++ [.update bot (.press press)])).log ++ later ∧ n ∉ redeemedNonces later

/-- The clock of a later update is not behind. -/
def Event.NotBehind : Event → Event → Prop
  | .update bot _, .update bot' _ => ∀ k k', bot.uptime k ≤ bot'.uptime k'
  | _, _ => True

theorem after_log (w : World) (events : List Event) : ∃ later, (w.after events).log = w.log ++ later := by
  let I : List Happening → Holdings → Prop := fun past _ => ∃ later, past = w.log ++ later
  refine after_keeps (I := I) (fun _ _ _ hI => hI) (fun bot received _ l _ past s s' hI _ => ?_)
    ⟨[], (List.append_nil _).symm⟩
  obtain ⟨later, rfl⟩ := hI
  exact ⟨later ++ [l], List.append_assoc _ _ _⟩

/-- **Admin actions are confirmed.**  In a run in which nobody withdraws a nonce that is still live, every
admin action spends its own nonce, no nonce is spent twice, and no withdrawn one is spent later. -/
theorem admin_actions_confirmed (start : World) (events : List Event) (hlog : start.log = [])
    (hempty : ∀ n, start.adminNonces.inner n = none) (hdistinct : Distinct (start.after events).log)
    (hclock : events.Pairwise Event.NotBehind)
    (hwithdrawn : ∀ pre bot press post n, events = pre ++ .update bot (.press press) :: post →
      Withdraws bot (start.after pre) press n → Lapsed n (bot.uptime 0) (start.after pre).holdings) :
    AdminLaw start events := by
  have hbook := after_book events hlog hempty hdistinct
  refine ⟨fun past call rest hsplit haction => ?_, hbook.once, fun pre bot press post n hevents hpress => ?_⟩
  · have hpaired : Paired (start.after events).log := by
      refine after_paired events fun past call rest hsplit => ?_
      rw [hlog] at hsplit
      simp at hsplit
    obtain ⟨before, a, n, action, now, actor, rfl, hactor, hcall⟩ :=
      hpaired past call rest hsplit haction
    rw [List.append_assoc] at hsplit
    obtain ⟨expiresAt, hissued, hlive⟩ := hbook.earlier before a n action now _ hsplit
    exact ⟨before, a, n, action, expiresAt, now, actor, rfl, hissued, hlive, hactor, hcall⟩
  · have hlapsed := hwithdrawn pre bot press post n hevents hpress
    obtain ⟨h, a, action, issuedAt, now, -, -, hissued, -⟩ := hpress
    have hsplit : events = (pre ++ [.update bot (.press press)]) ++ post := by
      rw [hevents, List.append_assoc]
      rfl
    subst hsplit
    have hn : n ∈ issuedNonces (start.after pre).log := mem_issuedNonces hissued
    rw [after_append] at hdistinct ⊢
    obtain ⟨later, hlater⟩ := after_log (start.after (pre ++ [.update bot (.press press)])) post
    have hdistinct' : Distinct (start.after (pre ++ [.update bot (.press press)])).log := by
      rw [hlater] at hdistinct
      exact hdistinct.of_append
    obtain ⟨written, hwritten⟩ := after_log (start.after pre) [.update bot (.press press)]
    rw [← after_append] at hwritten
    have hn' : n ∈ issuedNonces (start.after (pre ++ [.update bot (.press press)])).log := by
      rw [hwritten, issuedNonces_append]
      exact List.mem_append_left _ hn
    have hlapsed' : Lapsed n (bot.uptime 0)
        (start.after (pre ++ [.update bot (.press press)])).holdings := by
      rw [after_append] at hdistinct' ⊢
      exact after_lapsed hn hlapsed hdistinct'
    refine lapsed_not_redeemed hn' hlapsed' (fun bot' received hmem => ?_) hdistinct
    rw [List.append_assoc, List.pairwise_append] at hclock
    exact (List.pairwise_cons.mp hclock.2.1).1 (.update bot' received) hmem 0 2

/-! ## A deactivation -/

def colleagueRow : UserColumns :=
  ⟨{ onboardedRow.user with telegramId := 8 }, onboardedRow.onboardingState⟩

/-- The chat of an admin with the admin menu on message 3, and a colleague. -/
def panelWorld : World :=
  { adminWorld with
    db := { adminWorld.db with users := (adminWorld.db.users.insertOrIgnore colleagueRow).1 }
    activeScreens := fun _ => some ⟨3, .adminMenu⟩ }

def panelBot (now : Instant) : Bot := { dictatedBot with uptime := fun _ => now }

def panelPress (idHash : Int) (callback : TelegramCallback) : CallbackQuery where
  id := "c1"
  idHash := idHash
  sender := ⟨7, "Анна Петрова", none⟩
  message := some ⟨3, 7⟩
  data := some (encodeCallback callback)
  parsed := some callback

def panelEvent (now : Instant) (callback : TelegramCallback) : Event :=
  .update (panelBot now) (.press (panelPress now callback))

def deactivation : List Event :=
  [panelEvent 1 (.adminUserPrepareDeactivate 2), panelEvent 2 (.adminConfirmNonce "n1")]

theorem panel_issued : .issued 1 "n1" (.deactivate 2 8 "Анна Петрова") 1 1 ∈
    (panelWorld.after [panelEvent 1 (.adminUserPrepareDeactivate 2)]).log := by
  decide +kernel

/-- The two presses of a deactivation are no withdrawal. -/
theorem deactivation_confirmed : AdminLaw panelWorld deactivation := by
  refine admin_actions_confirmed panelWorld deactivation rfl (fun _ => rfl) ?_ ?_ ?_
  · have hissued : issuedNonces (panelWorld.after deactivation).log = ["n1"] := by decide +kernel
    unfold Distinct
    rw [hissued]
    exact List.nodup_singleton _
  · simp [deactivation, panelEvent, Event.NotBehind, panelBot]
  · rintro pre bot press post n hevents ⟨h, a, action, issuedAt, now, hh, -, hissued, hwithdraws⟩
    cases pre with
    | nil => cases hissued
    | cons e pre =>
      obtain ⟨-, htail⟩ := List.cons.inj hevents
      cases pre with
      | nil =>
        obtain ⟨hpress, -⟩ := List.cons.inj htail
        cases hpress
        obtain ⟨hparsed, -, -⟩ := handled_incoming hh
        have hcallback : .adminConfirmNonce "n1" = h.callback := Option.some.inj hparsed
        rcases hwithdraws with hcancels | ⟨newer, hopens⟩
        · cases hcallback.trans hcancels.cancel
        · obtain ⟨target, -, hprepared⟩ := hopens.prepared
          rw [← hcallback] at hprepared
          cases hprepared
      | cons e' pre => simp at htail

/-! ## A cancelled deactivation -/

/-- The Cancel button in between, and the old confirmation once more. -/
def cancelledDeactivation : List Event :=
  [panelEvent 1 (.adminUserPrepareDeactivate 2), panelEvent 2 .adminCancelPending,
    panelEvent 3 (.adminConfirmNonce "n1")]

theorem panel_cancelled : Withdraws (panelBot 2)
    (panelWorld.after [panelEvent 1 (.adminUserPrepareDeactivate 2)])
    (panelPress 2 .adminCancelPending) "n1" := by
  have hsome : (((panelPress 2 .adminCancelPending).handled (panelBot 2)
      (panelWorld.after [panelEvent 1 (.adminUserPrepareDeactivate 2)])).map fun h => h.actor.id) =
        some (some 1) := by
    decide +kernel
  obtain ⟨h, hh, hactor⟩ := Option.map_eq_some_iff.mp hsome
  obtain ⟨hparsed, hmessage, -⟩ := handled_incoming hh
  obtain ⟨hid, hchat⟩ := MessageRef.mk.inj (Option.some.inj hmessage)
  refine ⟨h, 1, .deactivate 2 8 "Анна Петрова", 1, 1, hh, hactor, panel_issued, .inl ⟨?_, ?_⟩⟩
  · exact (Option.some.inj hparsed).symm
  · rw [← hid, ← hchat]
    have hshown : ((panelWorld.after [panelEvent 1 (.adminUserPrepareDeactivate 2)]).messages 7 3).map
        ScreenView.keyboard = some (adminConfirmationKeyboard "n1") := by
      decide +kernel
    obtain ⟨view, hview, hkeyboard⟩ := Option.map_eq_some_iff.mp hshown
    refine ⟨view, hview, ?_⟩
    rw [hkeyboard]
    exact List.mem_cons_self

/-- The Cancel button leaves the nonce in the store. -/
theorem cancelled_nonce_redeems :
    ¬ ∀ (start : World) (events : List Event), start.log = [] →
      (∀ n, start.adminNonces.inner n = none) → Distinct (start.after events).log →
      events.Pairwise Event.NotBehind → AdminLaw start events := by
  intro hall
  have hissued : issuedNonces (panelWorld.after cancelledDeactivation).log = ["n1"] := by decide +kernel
  have hdistinct : Distinct (panelWorld.after cancelledDeactivation).log := by
    unfold Distinct
    rw [hissued]
    exact List.nodup_singleton _
  have hlaw := hall panelWorld cancelledDeactivation rfl (fun _ => rfl) hdistinct
    (by simp [cancelledDeactivation, panelEvent, Event.NotBehind, panelBot])
  obtain ⟨later, hlater, hnot⟩ := hlaw.withdrawn [panelEvent 1 (.adminUserPrepareDeactivate 2)]
    (panelBot 2) (panelPress 2 .adminCancelPending) [panelEvent 3 (.adminConfirmNonce "n1")] "n1" rfl
    panel_cancelled
  have hbefore : redeemedNonces (panelWorld.after ([panelEvent 1 (.adminUserPrepareDeactivate 2)] ++
      [.update (panelBot 2) (.press (panelPress 2 .adminCancelPending))])).log = [] := by
    decide +kernel
  have hafter : redeemedNonces (panelWorld.after cancelledDeactivation).log = ["n1"] := by decide +kernel
  rw [hlater, redeemedNonces_append, hbefore, List.nil_append] at hafter
  rw [hafter] at hnot
  exact hnot List.mem_cons_self

end TaskBot
