import TaskBot.Presentation.ChatRuns
import TaskBot.Presentation.ChatSerializer

/-!
# What updates at the same time leave of a chat

An update that has the lock of its chat has the chat for itself, so what each update keeps of it is
kept by any number of them at the same time (`Keeps.reaches`).

* `serializable`: what is left of a chat, the handled updates of it may leave one after the other;
* `serialRun_after`: so do updates that are handled whole;
* `messages_le_handled`: no more messages to a chat than updates of it were handled.
-/

namespace TaskBot

open Sql Calls Effects Scripts KeyedLocks

/-! ## The other chats -/

namespace Chats

/-- The number of messages of the chat. -/
def messages (c : Chats) (chatId : Int) : Nat := c.sent.countP fun m => m.chatId = chatId

/-- Nothing of the chat has changed. -/
structure Outside (chatId : Int) (c c' : Chats) : Prop where
  state : c'.state chatId = c.state chatId
  barrier : c'.barriers chatId = c.barriers chatId
  sent : ∃ new, c'.sent = c.sent ++ new ∧ ∀ m ∈ new, m.chatId ≠ chatId

namespace Outside

variable {chatId other : Int} {c c' : Chats}

theorem of_eq (h : c' = c) : Outside chatId c c' := by
  subst h
  exact ⟨rfl, rfl, [], by simp, by simp⟩

theorem messages (h : Outside chatId c c') : c'.messages chatId = c.messages chatId := by
  obtain ⟨new, hsent, hnew⟩ := h.sent
  have hnone : new.countP (fun m => m.chatId = chatId) = 0 := by
    simpa [List.countP_eq_zero] using hnew
  simp [Chats.messages, hsent, hnone]

theorem budget (h : Outside chatId c c') : c'.budget chatId = c.budget chatId := by
  unfold Chats.budget
  rw [h.barrier]

theorem of_acts {telegram : Telegram} {d : Deed} {ok : Bool} (h : Deed.Acts telegram chatId d ok c c')
    (hother : other ≠ chatId) : Outside other c c' := by
  refine ⟨Played.elsewhere (Played.singleton_iff.mpr h) hother, ?_, ?_⟩
  · cases h <;> simp [consumed, shows, receives, setSession, setInteraction, setSelection, hother]
  · cases h with
    | rendered _ _ _ _ | told _ _ _ | toldPast _ _ => exact ⟨_, rfl, by simpa using Ne.symm hother⟩
    | suppressed _ _ | failed _ _ _ | failedPast _ _ | toast _ | session _ | interaction _ | selection _ =>
      exact ⟨[], (List.append_nil _).symm, by simp⟩

theorem of_entered {bot : Bot} {w : World} {received : TelegramUpdate} {cue : Cue}
    (h : Entered bot w received chatId cue c) (hother : other ≠ chatId) : Outside other w.chats c := by
  refine ⟨h.elsewhere hother, ?_, [], by rw [h.fresh.2]; simp [World.chats], by simp⟩
  cases h with
  | message _ => exact Function.update_of_ne hother ..
  | @press press callback incoming _ =>
    unfold World.hydrated
    cases w.activeScreens incoming.chatId <;> exact Function.update_of_ne hother ..

end Outside

end Chats

theorem Works.outside {u : IncomingUpdate} {w w' : World} {b b' : Handling} {chatId : Int}
    (h : Works u w b w' b') (hother : chatId ≠ u.chatId) : Chats.Outside chatId w.chats w'.chats := by
  cases h with
  | duplicate _ | finished => exact .of_eq rfl
  | opened _ hentered _ hchats _ =>
    rw [hchats]
    exact .of_entered hentered hother
  | deed h _ => exact .of_acts h hother
  | stopped h _ => exact .of_acts h hother
  | closed => exact ⟨rfl, Function.update_of_ne hother .., [], (List.append_nil _).symm, by simp⟩

/-! ## What holds of a chat -/

section

variable {ν : Type} [DecidableEq ν] {updates : ν → IncomingUpdate} {chatId : Int} {w : World} {t t' : Traffic ν}

/-- The updates of the chat that were handled, in order. -/
def Traffic.handledOf (updates : ν → IncomingUpdate) (chatId : Int) (t : Traffic ν) : List ν :=
  t.handled.filter fun i => (updates i).chatId = chatId

/-- The number of the updates of the chat that were handled. -/
def Traffic.count (updates : ν → IncomingUpdate) (chatId : Int) (t : Traffic ν) : Nat :=
  t.handled.countP fun i => (updates i).chatId = chatId

omit [DecidableEq ν] in
theorem Traffic.length_handledOf (t : Traffic ν) :
    (t.handledOf updates chatId).length = t.count updates chatId := List.countP_eq_length_filter.symm

/-- `Rest js` is said of the chats while no update of the chat is in its critical section, and `Mid u js` while
`u` is; the updates `js` of the chat were handled. -/
structure Keeps (updates : ν → IncomingUpdate) (chatId : Int) (Rest : List ν → Chats → Prop)
    (Mid : IncomingUpdate → List ν → Chats → Handling → Prop) : Prop where
  restOutside : ∀ js c c', Chats.Outside chatId c c' → Rest js c → Rest js c'
  midOutside : ∀ i js c c' b, (updates i).chatId = chatId → Chats.Outside chatId c c' →
    Mid (updates i) js c b → Mid (updates i) js c' b
  admits : ∀ i js c, (updates i).chatId = chatId → Rest js c → Mid (updates i) js c .admitted
  works : ∀ i js w w' b b', (updates i).chatId = chatId → Works (updates i) w b w' b' →
    Mid (updates i) js w.chats b → Mid (updates i) (if b.begins b' then js ++ [i] else js) w'.chats b'
  leaves : ∀ i js c, (updates i).chatId = chatId → Mid (updates i) js c .leaving → Rest js c

structure Kept (updates : ν → IncomingUpdate) (chatId : Int) (Rest : List ν → Chats → Prop)
    (Mid : IncomingUpdate → List ν → Chats → Handling → Prop) (t : Traffic ν) : Prop where
  rest : (∀ i, t.Holds i → (updates i).chatId ≠ chatId) → Rest (t.handledOf updates chatId) t.world.chats
  mid : ∀ i lock b, t.visit i = .holding lock b → (updates i).chatId = chatId →
    Mid (updates i) (t.handledOf updates chatId) t.world.chats b

variable {Rest : List ν → Chats → Prop} {Mid : IncomingUpdate → List ν → Chats → Handling → Prop}

/-- An update takes another place outside of the critical sections. -/
theorem Kept.outside (h : Kept updates chatId Rest Mid t) {i : ν} {s : Visit Handling} {r : ChatSerializer}
    (hbefore : (t.visit i).own = none) (hafter : s.own = none) :
    Kept updates chatId Rest Mid { t with serializer := r, visit := Function.update t.visit i s } := by
  have hother : ∀ j lock b, Function.update t.visit i s j = .holding lock b ↔ t.visit j = .holding lock b := by
    intro j lock b
    by_cases hj : j = i
    · subst hj
      rw [Function.update_self]
      refine iff_of_false (fun hs => ?_) fun hs => ?_
      · rw [hs] at hafter
        cases hafter
      · rw [hs] at hbefore
        cases hbefore
    · rw [Function.update_of_ne hj]
  refine ⟨fun hnone => h.rest fun j ⟨lock, b, hj⟩ => hnone j ⟨lock, b, (hother j lock b).mpr hj⟩, ?_⟩
  exact fun j lock b hj => h.mid j lock b ((hother j lock b).mp hj)

omit [DecidableEq ν] in
/-- The update has the lock of the chat, so that nobody else has. -/
theorem Kept.of_holds {i : ν} {lock : Nat} {b : Handling} (hordered : t.Orderly updates)
    (hvisit : t.visit i = .holding lock b) (hchat : (updates i).chatId = chatId)
    (hmid : Mid (updates i) (t.handledOf updates chatId) t.world.chats b) : Kept updates chatId Rest Mid t := by
  refine ⟨fun hnone => absurd hchat (hnone i ⟨lock, b, hvisit⟩), fun j lock' b' hj hchat' => ?_⟩
  have hji : j = i := hordered.exclusive ⟨lock', b', hj⟩ ⟨lock, b, hvisit⟩ (hchat'.trans hchat.symm)
  subst hji
  cases hvisit.symm.trans hj
  exact hmid

/-- An update of another chat goes on. -/
theorem Kept.of_other {i : ν} (hkeeps : Keeps updates chatId Rest Mid) (h : Kept updates chatId Rest Mid t)
    (hchat : (updates i).chatId ≠ chatId) (hvisits : ∀ j, j ≠ i → t'.visit j = t.visit j)
    (hhandled : t'.handledOf updates chatId = t.handledOf updates chatId)
    (houtside : Chats.Outside chatId t.world.chats t'.world.chats) : Kept updates chatId Rest Mid t' := by
  refine ⟨fun hnone => ?_, fun j lock b hj hchat' => ?_⟩
  · rw [hhandled]
    refine hkeeps.restOutside _ _ _ houtside (h.rest fun j ⟨lock, b, hj⟩ => ?_)
    by_cases hji : j = i
    · rw [hji]
      exact hchat
    · exact hnone j ⟨lock, b, (hvisits j hji).trans hj⟩
  · have hji : j ≠ i := fun he => hchat (he ▸ hchat')
    rw [hhandled]
    exact hkeeps.midOutside j _ _ _ _ hchat' houtside (h.mid j lock b ((hvisits j hji).symm.trans hj) hchat')

theorem Kept.enters (hkeeps : Keeps updates chatId Rest Mid) (h : Kept updates chatId Rest Mid t) {i : ν}
    {lock : Nat} {r : ChatSerializer} (hvisit : t.visit i = .waiting lock)
    (hordered : Traffic.Orderly updates
      { t with serializer := r, visit := Function.update t.visit i (.holding lock .admitted) }) :
    Kept updates chatId Rest Mid
      { t with serializer := r, visit := Function.update t.visit i (.holding lock .admitted) } := by
  by_cases hchat : (updates i).chatId = chatId
  · refine .of_holds hordered (Function.update_self ..) hchat (hkeeps.admits i _ _ hchat (h.rest ?_))
    -- who had the lock before the update would have it still
    rintro j ⟨lock', b, hj⟩ hchat'
    by_cases hji : j = i
    · rw [hji, hvisit] at hj
      cases hj
    · exact hji (hordered.exclusive ⟨lock', b, (Function.update_of_ne hji ..).trans hj⟩
        ⟨lock, .admitted, Function.update_self ..⟩ (hchat'.trans hchat.symm))
  · exact h.of_other hkeeps hchat (fun j hji => Function.update_of_ne hji ..) rfl (.of_eq rfl)

theorem Kept.works (hkeeps : Keeps updates chatId Rest Mid) (h : Kept updates chatId Rest Mid t) {i : ν}
    {lock : Nat} {b b' : Handling} {w : World} (hvisit : t.visit i = .holding lock b)
    (hworks : Works (updates i) t.world b w b')
    (hordered : Traffic.Orderly updates
      { t with
        world := w
        visit := Function.update t.visit i (.holding lock b')
        handled := if b.begins b' then t.handled ++ [i] else t.handled }) :
    Kept updates chatId Rest Mid
      { t with
        world := w
        visit := Function.update t.visit i (.holding lock b')
        handled := if b.begins b' then t.handled ++ [i] else t.handled } := by
  by_cases hchat : (updates i).chatId = chatId
  · refine .of_holds hordered (Function.update_self ..) hchat ?_
    have hmid := hkeeps.works i _ _ _ _ _ hchat hworks (h.mid i lock b hvisit hchat)
    have hnow : (if b.begins b' then t.handled ++ [i] else t.handled).filter
        (fun j => (updates j).chatId = chatId) =
          if b.begins b' then t.handledOf updates chatId ++ [i] else t.handledOf updates chatId := by
      unfold Traffic.handledOf
      cases b.begins b' <;> simp [hchat]
    unfold Traffic.handledOf
    rw [hnow]
    exact hmid
  · refine h.of_other hkeeps hchat (fun j hji => Function.update_of_ne hji ..) ?_ (hworks.outside (Ne.symm hchat))
    unfold Traffic.handledOf
    cases b.begins b' <;> simp [hchat]

theorem Kept.leaves (hkeeps : Keeps updates chatId Rest Mid) (h : Kept updates chatId Rest Mid t) {i : ν}
    {lock : Nat} (hvisit : t.visit i = .holding lock .leaving) : Kept updates chatId Rest Mid
      { t with serializer := t.serializer.release lock, visit := Function.update t.visit i .done } := by
  by_cases hchat : (updates i).chatId = chatId
  · refine ⟨fun _ => hkeeps.leaves i _ _ hchat (h.mid i lock .leaving hvisit hchat), fun j lock' b hj hchat' => ?_⟩
    have hji : j ≠ i := by
      rintro rfl
      cases (Function.update_self j _ t.visit).symm.trans hj
    exact h.mid j lock' b ((Function.update_of_ne hji ..).symm.trans hj) hchat'
  · exact h.of_other hkeeps hchat (fun j hji => Function.update_of_ne hji ..) rfl (.of_eq rfl)

theorem Kept.step (hkeeps : Keeps updates chatId Rest Mid) (hordered : t.Orderly updates)
    (h : Kept updates chatId Rest Mid t) (hstep : t.Advances updates t') : Kept updates chatId Rest Mid t' := by
  have hordered' := hstep.orderly hordered
  cases hstep with
  | looks i _ hbefore hafter => exact h.outside hbefore hafter
  | enters i hvisit _ => exact h.enters hkeeps hvisit hordered'
  | works i hvisit hworks => exact h.works hkeeps hvisit hworks hordered'
  | leaves i hvisit => exact h.leaves hkeeps hvisit

/-- **What each update keeps of its chat is kept by any number of them at the same time.** -/
theorem Keeps.reaches (hkeeps : Keeps updates chatId Rest Mid) (hstart : Rest [] w.chats)
    (hrun : Traffic.Reaches updates w t) : Kept updates chatId Rest Mid t := by
  induction hrun with
  | refl => exact ⟨fun _ => hstart, fun _ _ _ h => nomatch h⟩
  | tail hbefore hmove ih =>
    cases hmove with
    | advances h => exact ih.step hkeeps (Traffic.Reaches.orderly hbefore) h
    | elsewhere hchats _ =>
      exact ⟨fun hnone => hkeeps.restOutside _ _ _ (.of_eq hchats) (ih.rest hnone), fun i lock b hi hchat =>
        hkeeps.midOutside i _ _ _ _ hchat (.of_eq hchats) (ih.mid i lock b hi hchat)⟩

end

/-! ## Serial updates -/

/-- Where a script may end. -/
inductive EndsIn (telegram : Telegram) : List Deed → ChatState → ChatState → Prop where
  | whole (s : ChatState) : EndsIn telegram [] s s
  | stopped {d : Deed} (ds : List Deed) {s : ChatState} (h : d.MayStop telegram) : EndsIn telegram (d :: ds) s s
  | next {d : Deed} {ds : List Deed} {s s' : ChatState} (h : EndsIn telegram ds (d.play s) s') :
      EndsIn telegram (d :: ds) s s'

/-- A script establishes that it is where it may end. -/
theorem ends_established (telegram : Telegram) (ds : List Deed) (s : ChatState) :
    Establishes telegram (EndsIn telegram ds s) ds s := by
  induction ds generalizing s with
  | nil => exact .whole s
  | cons d ds ih => exact ⟨.stopped ds, (ih (d.play s)).mono fun _ => .next⟩

/-- The update is handled whole: it plays one of its scripts, up to where the script may end. -/
inductive IncomingUpdate.Leaves (u : IncomingUpdate) : ChatState → ChatState → Prop where
  | played {w : World} {cue : Cue} {c : Chats} {ds : List Deed} {s : ChatState}
      (hentered : Entered u.bot w u.received u.chatId cue c) (hscript : Script u.bot c u.chatId cue ds)
      (hends : EndsIn u.bot.telegram ds (c.state u.chatId) s) : Leaves u (w.chat u.chatId) { s with answer := none }

/-- The updates are handled one after the other. -/
inductive SerialRun {ν : Type} (updates : ν → IncomingUpdate) (start : ChatState) : List ν → ChatState → Prop where
  | nil : SerialRun updates start [] start
  | snoc {js : List ν} (i : ν) {s s' : ChatState} (h : SerialRun updates start js s)
      (hleaves : (updates i).Leaves s s') : SerialRun updates start (js ++ [i]) s'

/-- The chat has the property, or is in the middle of a script that establishes it. -/
def Handling.Midway (P : ChatState → Prop) (u : IncomingUpdate) (c : Chats) : Handling → Prop
  | playing ds => ∃ start s, Stands start c u.chatId s ∧
      Establishes u.bot.telegram (fun s => P { s with answer := none }) ds s
  | admitted | closing | leaving => P (c.state u.chatId)

theorem Stands.outside {start c c' : Chats} {chatId : Int} {s : ChatState} (h : Stands start c chatId s)
    (houtside : Chats.Outside chatId c c') : Stands start c' chatId s := by
  obtain ⟨new, hsent, hanswer⟩ := h.sent
  obtain ⟨new', hsent', -⟩ := houtside.sent
  refine ⟨h.state.trans houtside.state.symm, houtside.barrier.trans h.barrier, new ++ new', ?_, fun d hd => ?_⟩
  · rw [hsent', hsent, List.append_assoc]
  · obtain ⟨m, hm, hscreen⟩ := hanswer d hd
    exact ⟨m, List.mem_append_left _ hm, hscreen⟩

section

variable {ν : Type} [DecidableEq ν] {updates : ν → IncomingUpdate} {chatId : Int} {w : World} {t : Traffic ν}

omit [DecidableEq ν] in
/-- What every script establishes, updates keep. -/
theorem keeps_of_scripts {P : List ν → ChatState → Prop}
    (hscript : ∀ i js w cue c ds, (updates i).chatId = chatId → P js (w.chat chatId) →
      Entered (updates i).bot w (updates i).received chatId cue c → Script (updates i).bot c chatId cue ds →
        Establishes (updates i).bot.telegram (fun s => P (js ++ [i]) { s with answer := none }) ds
          (c.state chatId)) :
    Keeps updates chatId (fun js c => P js (c.state chatId)) fun u js c b => b.Midway (P js) u c := by
  refine ⟨fun _ c c' houtside h => houtside.state.symm ▸ h, fun i _ c c' b hchat houtside h => ?_, ?_, ?_, ?_⟩
  · subst hchat
    cases b with
    | playing ds =>
      obtain ⟨start, s, hstands, hestablishes⟩ := h
      exact ⟨start, s, hstands.outside houtside, hestablishes⟩
    | admitted | closing | leaving =>
      show P _ (c'.state (updates i).chatId)
      rw [houtside.state]
      exact h
  · rintro i _ c rfl h
    exact h
  · rintro i js w w' b b' rfl hworks h
    cases hworks with
    | duplicate _ => exact h
    | opened _ hentered hplayed hchats _ =>
      subst hchats
      exact ⟨_, _, hentered.stands, hscript i js w _ _ _ rfl h hentered hplayed⟩
    | deed hact _ =>
      obtain ⟨start, s, hstands, hestablishes⟩ := h
      exact ⟨start, _, hstands.goes_on hact, hestablishes.2⟩
    | stopped hact _ =>
      obtain ⟨start, s, hstands, hestablishes⟩ := h
      obtain ⟨hmay, hstate, -⟩ := hact.stops
      show P js (w'.chats.state (updates i).chatId)
      rw [hstate, ← hstands.state]
      exact hestablishes.1 hmay
    | finished =>
      obtain ⟨start, s, hstands, hestablishes⟩ := h
      show P js (w.chats.state (updates i).chatId)
      rw [← hstands.state]
      exact hestablishes
    | closed => exact h
  · rintro i _ c rfl h
    exact h

end

/-! ## Updates handled whole -/

namespace IncomingUpdate

abbrev event (u : IncomingUpdate) : Event := .update u.bot u.received

variable (u : IncomingUpdate) (w : World)

/-- The update comes to its chat. -/
theorem entered : ∃ cue c, Entered u.bot w u.received u.chatId cue c := by
  obtain ⟨bot, received, key, hcarries⟩ := u
  cases received with
  | message received =>
    obtain ⟨incoming, hincoming, rfl⟩ := Option.map_eq_some_iff.mp hcarries
    exact ⟨_, _, .message hincoming⟩
  | press press =>
    obtain ⟨⟨callback, incoming⟩, hincoming, rfl⟩ := Option.map_eq_some_iff.mp hcarries
    exact ⟨_, _, .press hincoming⟩

variable {w} in
theorem chat_of_entered {chatId : Int} {cue : Cue} {c : Chats} (h : Entered u.bot w u.received chatId cue c) :
    chatId = u.chatId := by
  obtain ⟨_, _, hentered⟩ := u.entered w
  exact Option.some.inj (h.chat.symm.trans hentered.chat)

/-- **An update that is handled whole is dropped, or leaves its chat as one of its scripts does.** -/
theorem applied_leaves : (u.event.apply w).chat u.chatId = w.chat u.chatId ∨
    u.Leaves (w.chat u.chatId) ((u.event.apply w).chat u.chatId) := by
  rcases update_plays u.bot u.received w with hsame | ⟨played, cue, c, ds, ok, c₁, hentered, hds, hplayed, hafter⟩
  · exact .inl (congrArg (fun c : Chats => c.state u.chatId) hsame)
  · have hchat := u.chat_of_entered hentered
    subst hchat
    obtain ⟨s, hs, hends, -⟩ :=
      played_establishes hplayed hentered.stands (ends_established u.bot.telegram ds (c.state u.chatId))
    have hstate : (u.event.apply w).chat u.chatId = c₁.state u.chatId := by
      unfold World.chat
      rw [hafter]
      rfl
    rw [hstate, ← hends]
    exact .inr (.played hentered hds hs)

theorem applied_elsewhere {chatId : Int} (hother : chatId ≠ u.chatId) :
    (u.event.apply w).chat chatId = w.chat chatId := by
  refine update_keeps (P := fun s => s = w.chat chatId) rfl fun cue c ds hentered => ?_
  exact absurd (u.chat_of_entered hentered) hother

end IncomingUpdate

/-- **Updates handled whole, one after the other, are a serial run** of those that were not dropped. -/
theorem serialRun_after {ν : Type} (updates : ν → IncomingUpdate) (chatId : Int) (w : World) (is : List ν) :
    ∃ js, js.Sublist (is.filter fun i => (updates i).chatId = chatId) ∧ SerialRun updates (w.chat chatId) js
      ((w.after (is.map fun i => (updates i).event)).chat chatId) := by
  induction is using List.reverseRecOn with
  | nil => exact ⟨[], List.Sublist.refl [], .nil⟩
  | append_singleton is i ih =>
    obtain ⟨js, hsub, hserial⟩ := ih
    rw [List.map_append, after_append, List.filter_append]
    generalize w.after (is.map fun i => (updates i).event) = w' at hserial ⊢
    show ∃ js, _ ∧ SerialRun updates (w.chat chatId) js (((updates i).event.apply w').chat chatId)
    by_cases hchat : (updates i).chatId = chatId
    · subst hchat
      rcases (updates i).applied_leaves w' with hsame | hleaves
      · exact ⟨js, hsub.trans (List.sublist_append_left _ _), hsame.symm ▸ hserial⟩
      · exact ⟨js ++ [i], hsub.append (by simp), .snoc i hserial hleaves⟩
    · refine ⟨js, hsub.trans (List.sublist_append_left _ _), ?_⟩
      rw [(updates i).applied_elsewhere w' (Ne.symm hchat)]
      exact hserial

section

variable {ν : Type} [DecidableEq ν] {updates : ν → IncomingUpdate} {chatId : Int} {w : World} {t : Traffic ν}

/-! ## Messages -/

/-- What an update may yet send is within the number of messages. -/
def Handling.Metered (u : IncomingUpdate) (most : Nat) (c : Chats) : Handling → Prop
  | playing ds =>
      ((c.barriers u.chatId).isSome ∧ (∀ d ∈ ds, d.Proper u.bot) ∧
          c.messages u.chatId + c.budget u.chatId ≤ most) ∨
        (∃ text, ds = [.tellPast text]) ∧ c.messages u.chatId + 1 ≤ most ∨ ds = [] ∧ c.messages u.chatId ≤ most
  | admitted | closing | leaving => c.messages u.chatId ≤ most

theorem Handling.Metered.messages {u : IncomingUpdate} {most : Nat} {c : Chats} {b : Handling}
    (h : b.Metered u most c) : c.messages u.chatId ≤ most := by
  cases b with
  | playing ds => rcases h with ⟨-, -, h⟩ | ⟨-, h⟩ | ⟨-, h⟩ <;> omega
  | admitted | closing | leaving => exact h

/-- A deed of a script with proper deeds. -/
theorem metered_deed {u : IncomingUpdate} {most : Nat} {c c' : Chats} {d : Deed} {ok : Bool}
    (hbarrier : (c.barriers u.chatId).isSome) (hproper : d.Proper u.bot)
    (hmost : c.messages u.chatId + c.budget u.chatId ≤ most)
    (h : Deed.Acts u.bot.telegram u.chatId d ok c c') :
    (c'.barriers u.chatId).isSome ∧ c'.messages u.chatId + c'.budget u.chatId ≤ most := by
  obtain ⟨hbarrier', new, hsent, hlength, hmessages⟩ := Metered.of_acts hproper h hbarrier
  have hall : new.countP (fun m => m.chatId = u.chatId) = new.length := by
    simpa [List.countP_eq_length] using fun m hm => (hmessages m hm).1
  refine ⟨hbarrier', ?_⟩
  simp only [Chats.messages, hsent, List.countP_append, hall] at hmost ⊢
  omega

theorem metered_past {u : IncomingUpdate} {most : Nat} {c c' : Chats} {text : String} {ok : Bool}
    (hmost : c.messages u.chatId + 1 ≤ most) (h : Deed.Acts u.bot.telegram u.chatId (.tellPast text) ok c c') :
    c'.messages u.chatId ≤ most := by
  cases h with
  | suppressed hguarded _ | failed hguarded _ _ => cases hguarded
  | failedPast _ _ => omega
  | toldPast _ _ => simpa [Chats.messages, Chats.receives] using hmost

omit [DecidableEq ν] in
theorem keeps_metered (updates : ν → IncomingUpdate) (chatId : Int) (first : Nat) :
    Keeps updates chatId (fun js c => c.messages chatId ≤ first + js.length)
    fun u js c b => b.Metered u (first + js.length) c := by
  refine ⟨fun js c c' houtside h => houtside.messages.symm ▸ h, fun i js c c' b hchat houtside h => ?_, ?_, ?_, ?_⟩
  · subst hchat
    cases b with
    | playing ds =>
      unfold Handling.Metered
      rw [houtside.messages, houtside.barrier, houtside.budget]
      exact h
    | admitted | closing | leaving =>
      show c'.messages (updates i).chatId ≤ first + js.length
      rw [houtside.messages]
      exact h
  · rintro i js c rfl h
    exact h
  · rintro i js w w' b b' rfl hworks h
    cases hworks with
    | duplicate _ | finished => exact h.messages
    | closed => exact h
    | @opened w₁ w' cue c ds _ hentered hscript hchats _ =>
      subst hchats
      obtain ⟨hfresh, hsent⟩ := hentered.fresh
      have hmessages : w'.chats.messages (updates i).chatId ≤ first + js.length := by
        unfold Chats.messages
        rw [hsent]
        exact h
      have hbudget : w'.chats.budget (updates i).chatId = 1 := by
        unfold Chats.budget
        rw [hfresh]
      rcases hscript.proper_or_past with hproper | hpast
      · exact .inl ⟨by rw [hfresh]; rfl, hproper, by simp [Handling.begins]; omega⟩
      · exact .inr (.inl ⟨hpast, by simp [Handling.begins]; omega⟩)
    | deed hact _ =>
      rcases h with ⟨hbarrier, hproper, hmost⟩ | ⟨⟨text, hpast⟩, hmost⟩ | ⟨hnil, -⟩
      · obtain ⟨hd, hds⟩ := List.forall_mem_cons.mp hproper
        obtain ⟨hbarrier', hmost'⟩ := metered_deed hbarrier hd hmost hact
        exact .inl ⟨hbarrier', hds, hmost'⟩
      · obtain ⟨rfl, rfl⟩ := List.cons.inj hpast
        exact .inr (.inr ⟨rfl, metered_past hmost hact⟩)
      · exact absurd hnil (List.cons_ne_nil _ _)
    | stopped hact _ =>
      rcases h with ⟨hbarrier, hproper, hmost⟩ | ⟨⟨text, hpast⟩, hmost⟩ | ⟨hnil, -⟩
      · obtain ⟨-, hmost'⟩ := metered_deed hbarrier (hproper _ List.mem_cons_self) hmost hact
        exact Nat.le_of_add_right_le hmost'
      · obtain ⟨rfl, rfl⟩ := List.cons.inj hpast
        exact metered_past hmost hact
      · exact absurd hnil (List.cons_ne_nil _ _)
  · rintro i js c rfl h
    exact h

/-- **A chat gets no more messages than updates of it were handled**, at any time. -/
theorem messages_le_handled (hrun : Traffic.Reaches updates w t) :
    t.world.chats.messages chatId ≤ w.chats.messages chatId + t.count updates chatId := by
  rw [← t.length_handledOf]
  have hkept := (keeps_metered updates chatId (w.chats.messages chatId)).reaches (Nat.le_refl _) hrun
  by_cases hrest : ∀ i, t.Holds i → (updates i).chatId ≠ chatId
  · exact hkept.rest hrest
  · simp only [not_forall, not_not] at hrest
    obtain ⟨i, ⟨lock, b, hvisit⟩, hchat⟩ := hrest
    have hmid := (hkept.mid i lock b hvisit hchat).messages
    rwa [hchat] at hmid

end

/-! ## Two messages -/

theorem first_answered : ∃ t, Traffic.Reaches twoMessages onboardedWorld t ∧ t.handled = [false] ∧
    t.world.chats.messages 7 ≤ 1 := by
  obtain ⟨t, hrun, -, hhandled, -⟩ := first_handled
  have hmost : t.world.chats.messages 7 ≤ onboardedWorld.chats.messages 7 + t.count twoMessages 7 :=
    messages_le_handled hrun
  unfold Traffic.count at hmost
  rw [hhandled] at hmost
  exact ⟨t, hrun, hhandled, hmost⟩

end TaskBot
