import Mathlib.Logic.Relation
import TaskBot.Lib.KeyedLocks
import TaskBot.Presentation.UpdateScripts
import TaskBot.Presentation.UpdateWindow

/-!
# Updates at the same time

Telegram's updates are handled in tasks of their own, and `ChatSerializer` keeps the updates of one
chat apart.  `Traffic` is where each of them stands: looking up the lock of its chat, waiting for it,
handling, or done; other components change the database at any time.

* `Traffic.Reaches.one_of_chat`: one update of a chat at a time;
* `Traffic.Reaches.handled_nodup`: no update is handled twice;
* `redelivered_dropped`: an update that is delivered again is not handled again;
* `everyone_gets_through`: no update waits for ever.
-/

namespace TaskBot

open Sql Calls Effects Scripts KeyedLocks RecentWindow

/-- The map of the mutexes, one for each chat. -/
abbrev ChatSerializer := Registry Int

/-- The chat and the fingerprint of an update, for the updates that get to the critical section. -/
def TelegramUpdate.dedupKey (bot : Bot) : TelegramUpdate → Option DedupKey
  | .message received =>
      (toIncomingMessage (bot.clockOf 6 0) received).map fun incoming => ⟨incoming.chatId, incoming.messageId⟩
  | .press query => (query.incoming bot).map fun carried => ⟨carried.2.chatId, query.idHash⟩

structure IncomingUpdate where
  bot : Bot
  received : TelegramUpdate
  key : DedupKey
  carries : received.dedupKey bot = some key

abbrev IncomingUpdate.chatId (u : IncomingUpdate) : Int := u.key.chatId

/-- What is left of an update that has the lock of its chat. -/
inductive Handling where
  /-- Before the deduplication. -/
  | admitted
  | playing (ds : List Deed)
  /-- The barrier goes next. -/
  | closing
  /-- The guard is dropped next. -/
  | leaving

/-- The update comes past the deduplication. -/
def Handling.begins : Handling → Handling → Bool
  | admitted, playing _ => true
  | _, _ => false

/-- One step of an update in the critical section. -/
inductive Works (u : IncomingUpdate) (w : World) : Handling → World → Handling → Prop where
  | duplicate (h : w.opened u.key = none) : Works u w .admitted (w.observed u.key) .leaving
  | opened {w₁ w' : World} {cue : Cue} {c : Chats} {ds : List Deed} (h : w.opened u.key = some w₁)
      (hentered : Entered u.bot w u.received u.chatId cue c) (hscript : Script u.bot c u.chatId cue ds)
      (hchats : w'.chats = c) (hdedup : w'.updateDedup = w₁.updateDedup) : Works u w .admitted w' (.playing ds)
  | deed {w' : World} {d : Deed} {ds : List Deed}
      (h : Deed.Acts u.bot.telegram u.chatId d true w.chats w'.chats) (hdedup : w'.updateDedup = w.updateDedup) :
      Works u w (.playing (d :: ds)) w' (.playing ds)
  | stopped {w' : World} {d : Deed} {ds : List Deed}
      (h : Deed.Acts u.bot.telegram u.chatId d false w.chats w'.chats) (hdedup : w'.updateDedup = w.updateDedup) :
      Works u w (.playing (d :: ds)) w' .closing
  | finished : Works u w (.playing []) w .closing
  | closed : Works u w .closing (w.uninstallBarrier u.chatId) .leaving

/-- The updates, each with its visit, and those that came past the deduplication, in order. -/
structure Traffic (ν : Type) where
  serializer : ChatSerializer
  world : World
  visit : ν → Visit Handling
  handled : List ν

def Traffic.start (ν : Type) (w : World) : Traffic ν := ⟨Registry.new, w, fun _ => .arrived, []⟩

section

variable {ν : Type} [DecidableEq ν]

/-- An update goes on. -/
inductive Traffic.Advances (updates : ν → IncomingUpdate) (t : Traffic ν) : Traffic ν → Prop where
  /-- `obtain_lock`: a lookup under the read lock, and then an entry under the write lock. -/
  | looks (i : ν) {r : ChatSerializer} {s : Visit Handling}
      (h : KeyedLocks.Moves (updates i).chatId t.serializer (t.visit i) r s) (hbefore : (t.visit i).own = none)
      (hafter : s.own = none) : Advances updates t { t with serializer := r, visit := Function.update t.visit i s }
  /-- `lock_owned`. -/
  | enters (i : ν) {lock : Nat} {r : ChatSerializer} (hvisit : t.visit i = .waiting lock)
      (h : t.serializer.acquire lock = some r) : Advances updates t
        { t with serializer := r, visit := Function.update t.visit i (.holding lock .admitted) }
  | works (i : ν) {lock : Nat} {b b' : Handling} {w : World} (hvisit : t.visit i = .holding lock b)
      (h : Works (updates i) t.world b w b') : Advances updates t
        { t with
          world := w
          visit := Function.update t.visit i (.holding lock b')
          handled := if b.begins b' then t.handled ++ [i] else t.handled }
  /-- The guard is dropped. -/
  | leaves (i : ν) {lock : Nat} (hvisit : t.visit i = .holding lock .leaving) : Advances updates t
      { t with serializer := t.serializer.release lock, visit := Function.update t.visit i .done }

/-- An update goes on, or something changes that is neither of the chats nor of the deduplication: a
use case of an update writes the database, or another component does. -/
inductive Traffic.Moves (updates : ν → IncomingUpdate) (t : Traffic ν) : Traffic ν → Prop where
  | advances {t' : Traffic ν} (h : t.Advances updates t') : Moves updates t t'
  | elsewhere {w : World} (hchats : w.chats = t.world.chats) (hdedup : w.updateDedup = t.world.updateDedup) :
      Moves updates t { t with world := w }

/-- From the start of the process. -/
def Traffic.Reaches (updates : ν → IncomingUpdate) (w : World) (t : Traffic ν) : Prop :=
  Relation.ReflTransGen (Traffic.Moves updates) (Traffic.start ν w) t

/-- The update has the lock of its chat. -/
def Traffic.Holds (t : Traffic ν) (i : ν) : Prop := ∃ lock b, t.visit i = .holding lock b

abbrev Traffic.Orderly (updates : ν → IncomingUpdate) (t : Traffic ν) : Prop :=
  KeyedLocks.Orderly (fun i => (updates i).chatId) t.serializer t.visit

/-! ## One update of a chat at a time -/

namespace Traffic

variable {updates : ν → IncomingUpdate} {w : World} {t t' : Traffic ν} {i j : ν}

theorem Advances.orderly (h : t.Advances updates t') (ht : t.Orderly updates) : t'.Orderly updates := by
  cases h with
  | looks i h _ _ => exact ht.move h
  | enters i hvisit h => exact ht.move (by rw [hvisit]; exact .entered _ h)
  | works i hvisit _ => exact ht.move (by rw [hvisit]; exact .worked _ _)
  | leaves i hvisit => exact ht.move (by rw [hvisit]; exact .left _)

theorem Reaches.orderly (h : Reaches updates w t) : t.Orderly updates := by
  induction h with
  | refl => exact orderly_new _
  | tail _ hmove ih =>
    cases hmove with
    | advances h => exact h.orderly ih
    | elsewhere _ _ => exact ih

omit [DecidableEq ν] in
theorem Holds.own (h : t.Holds i) : ∃ lock, (t.visit i).own = some lock := by
  obtain ⟨lock, b, hvisit⟩ := h
  exact ⟨lock, by rw [hvisit]; rfl⟩

omit [DecidableEq ν] in
theorem Orderly.exclusive (h : t.Orderly updates) (hi : t.Holds i) (hj : t.Holds j)
    (hchat : (updates i).chatId = (updates j).chatId) : i = j := by
  obtain ⟨lock, hown⟩ := hi.own
  obtain ⟨lock', hown'⟩ := hj.own
  exact KeyedLocks.Orderly.exclusive h hown hown' hchat

/-- **At no time are two updates of one chat in the critical section.** -/
theorem Reaches.one_of_chat (h : Reaches updates w t) (hij : i ≠ j)
    (hchat : (updates i).chatId = (updates j).chatId) : ¬ (t.Holds i ∧ t.Holds j) :=
  fun ⟨hi, hj⟩ => hij (h.orderly.exclusive hi hj hchat)

end Traffic

end

/-! ## Each update once -/

/-- The update has not come past the deduplication. -/
def Ahead : Visit Handling → Prop
  | .arrived | .missed | .waiting _ | .holding _ .admitted => True
  | .holding _ _ | .done => False

/-- The handled updates are behind the deduplication, each of them once. -/
structure Once {ν : Type} (t : Traffic ν) : Prop where
  nodup : t.handled.Nodup
  ahead : ∀ i, Ahead (t.visit i) → i ∉ t.handled

section

variable {ν : Type} [DecidableEq ν] {updates : ν → IncomingUpdate} {w : World} {t t' : Traffic ν} {i : ν}

/-- An update that is not handled in this step does not come back in front of the deduplication. -/
theorem Once.moves (h : Once t) {s : Visit Handling} (hs : Ahead s → Ahead (t.visit i))
    (hvisit : t'.visit = Function.update t.visit i s) (hhandled : t'.handled = t.handled) : Once t' := by
  refine ⟨hhandled ▸ h.nodup, fun j hj => ?_⟩
  rw [hhandled]
  refine h.ahead j ?_
  rw [hvisit] at hj
  by_cases hji : j = i
  · subst hji
    rw [Function.update_self] at hj
    exact hs hj
  · rwa [Function.update_of_ne hji] at hj

/-- The update is handled. -/
theorem Once.begins (h : Once t) {lock : Nat} {ds : List Deed} (hahead : Ahead (t.visit i))
    (hvisit : t'.visit = Function.update t.visit i (.holding lock (.playing ds)))
    (hhandled : t'.handled = t.handled ++ [i]) : Once t' := by
  have hnew : i ∉ t.handled := h.ahead i hahead
  refine ⟨?_, fun j hj => ?_⟩
  · rw [hhandled]
    exact h.nodup.append (List.nodup_singleton i) (List.disjoint_singleton.mpr hnew)
  · rw [hvisit] at hj
    by_cases hji : j = i
    · subst hji
      rw [Function.update_self] at hj
      exact hj.elim
    · rw [Function.update_of_ne hji] at hj
      simp [hhandled, hji, h.ahead j hj]

theorem Once.step (h : Once t) (hstep : t.Advances updates t') : Once t' := by
  cases hstep with
  | looks i hlook hbefore hafter =>
    refine h.moves (fun _ => ?_) rfl rfl
    generalize t.visit i = visit at hlook hbefore
    cases hlook with
    | found _ | missed _ | inserted => trivial
    | entered _ _ => cases hafter
    | worked _ _ | left _ => cases hbefore
  | enters i hvisit _ =>
    refine h.moves (fun _ => ?_) rfl rfl
    rw [hvisit]
    trivial
  | works i hvisit hworks =>
    cases hworks with
    | opened _ _ _ _ _ => exact h.begins (by rw [hvisit]; trivial) rfl rfl
    | duplicate _ | stopped _ _ | finished | closed | deed _ _ => exact h.moves False.elim rfl rfl
  | leaves i _ => exact h.moves False.elim rfl rfl

theorem Traffic.Reaches.handled_nodup (hrun : Reaches updates w t) : t.handled.Nodup := by
  have honce : Once t := by
    induction hrun with
    | refl => exact ⟨List.nodup_nil, fun _ _ => List.not_mem_nil⟩
    | tail _ hmove ih =>
      cases hmove with
      | advances h => exact ih.step h
      | elsewhere _ _ => exact ⟨ih.nodup, ih.ahead⟩
  exact honce.nodup

end

/-! ## Redelivered updates -/

theorem opened_dedup {w w₁ : World} {key : DedupKey} (h : w.opened key = some w₁) :
    (w.updateDedup.observe key).1 = true ∧ w₁.updateDedup = (w.updateDedup.observe key).2 := by
  unfold World.opened at h
  split at h
  · next hfresh =>
    cases h
    exact ⟨hfresh, rfl⟩
  · cases h

theorem opened_none {w : World} {key : DedupKey} (h : w.opened key = none) :
    (w.updateDedup.observe key).1 ≠ true := by
  unfold World.opened at h
  split at h
  · cases h
  · next hknown => exact hknown

/-- Only the first step asks the deduplication. -/
theorem Works.dedup {u : IncomingUpdate} {w w' : World} {b b' : Handling} (h : Works u w b w' b') :
    (b.begins b' = true ∧ (w.updateDedup.observe u.key).1 = true ∧
        w'.updateDedup = (w.updateDedup.observe u.key).2) ∨
      b.begins b' = false ∧ ((w.updateDedup.observe u.key).1 ≠ true ∧
        w'.updateDedup = (w.updateDedup.observe u.key).2 ∨ w'.updateDedup = w.updateDedup) := by
  cases h with
  | duplicate hopened => exact .inr ⟨rfl, .inl ⟨opened_none hopened, rfl⟩⟩
  | opened hopened _ _ _ hdedup =>
    obtain ⟨hfresh, hnew⟩ := opened_dedup hopened
    exact .inl ⟨rfl, hfresh, hdedup.trans hnew⟩
  | deed _ hdedup | stopped _ hdedup => exact .inr ⟨rfl, .inr hdedup⟩
  | finished | closed => exact .inr ⟨rfl, .inr rfl⟩

section

variable {ν : Type} {updates : ν → IncomingUpdate} {w : World} {t t' : Traffic ν}

abbrev Traffic.keys (updates : ν → IncomingUpdate) (t : Traffic ν) : List DedupKey :=
  t.handled.map fun i => (updates i).key

/-- The deduplication remembers the updates that were handled last. -/
structure Remembers (updates : ν → IncomingUpdate) (t : Traffic ν) : Prop where
  holds : t.world.updateDedup.Holds (recent updateDedupCapacity (t.keys updates))
  nodup : (recent updateDedupCapacity (t.keys updates)).Nodup
  apart : ∀ before i after, t.handled = before ++ i :: after →
    (updates i).key ∉ recent updateDedupCapacity (before.map fun i => (updates i).key)

/-- An update is handled. -/
theorem Remembers.handle (h : Remembers updates t) {i : ν} {t' : Traffic ν} (hhandled : t'.handled = t.handled ++ [i])
    (hfresh : (t.world.updateDedup.observe (updates i).key).1 = true)
    (hdedup : t'.world.updateDedup = (t.world.updateDedup.observe (updates i).key).2) : Remembers updates t' := by
  have hpos : 0 < updateDedupCapacity := by decide
  have hkey := (h.holds.observe_fst_iff (updates i).key).mp hfresh
  have hkeys : t'.keys updates = t.keys updates ++ [(updates i).key] := by
    unfold Traffic.keys
    rw [hhandled, List.map_append]
    rfl
  refine ⟨?_, ?_, fun before j after hsplit => ?_⟩
  · rw [hkeys, hdedup, recent_snoc hpos]
    exact h.holds.observe_new h.nodup hkey
  · rw [hkeys, recent_snoc hpos]
    exact nodup_push h.nodup hkey
  · rw [hhandled] at hsplit
    rcases List.eq_nil_or_concat after with rfl | ⟨after, last, rfl⟩
    · obtain ⟨rfl, hlast⟩ := List.append_inj' hsplit rfl
      cases hlast
      exact hkey
    · rw [List.concat_eq_append, ← List.cons_append, ← List.append_assoc] at hsplit
      exact h.apart before j after (List.append_inj' hsplit rfl).1

theorem Remembers.same (h : Remembers updates t) (hhandled : t'.handled = t.handled)
    (hdedup : t'.world.updateDedup = t.world.updateDedup) : Remembers updates t' := by
  have hkeys : t'.keys updates = t.keys updates := congrArg (List.map fun i => (updates i).key) hhandled
  refine ⟨?_, ?_, fun before i after hsplit => h.apart before i after (hhandled ▸ hsplit)⟩
  · rw [hkeys, hdedup]
    exact h.holds
  · rw [hkeys]
    exact h.nodup

variable [DecidableEq ν]

theorem Traffic.Reaches.remembers (hnew : w.updateDedup = .new) (hrun : Traffic.Reaches updates w t) :
    Remembers updates t := by
  induction hrun with
  | refl =>
    have hnone : recent updateDedupCapacity ((Traffic.start ν w).keys updates) = [] := recent_nil _
    refine ⟨?_, ?_, fun before i after h => ?_⟩
    · rw [hnone]
      show w.updateDedup.Holds []
      rw [hnew]
      exact UpdateDedup.holds_new
    · rw [hnone]
      exact List.nodup_nil
    · exact absurd h.symm (List.append_ne_nil_of_right_ne_nil before (List.cons_ne_nil i after))
  | tail _ hmove ih =>
    cases hmove with
    | elsewhere _ hdedup => exact ih.same rfl hdedup
    | advances hstep =>
      cases hstep with
      | looks _ _ _ _ | enters _ _ _ | leaves _ _ => exact ih.same rfl rfl
      | works i _ hworks =>
        rcases hworks.dedup with ⟨hbegins, hfresh, hdedup⟩ | ⟨hbegins, hdedup⟩
        · exact ih.handle (by rw [hbegins]; rfl) hfresh hdedup
        · refine ih.same (by rw [hbegins]; rfl) ?_
          rcases hdedup with ⟨hknown, hdedup⟩ | hdedup
          · have hmem := (ih.holds.observe_fst_iff (updates i).key).not_left.mp hknown
            exact hdedup.trans (ih.holds.observe_known hmem)
          · exact hdedup

/-- **An update that Telegram delivers again is dropped**, unless as many others were handled in between
as the deduplication remembers. -/
theorem redelivered_dropped (hnew : w.updateDedup = .new) (hrun : Traffic.Reaches updates w t) {i j : ν}
    {before between after : List ν} (hhandled : t.handled = before ++ i :: (between ++ j :: after))
    (hfew : between.length < updateDedupCapacity) : (updates i).key ≠ (updates j).key := by
  intro hkey
  refine (hrun.remembers hnew).apart (before ++ i :: between) j after (by simpa using hhandled) ?_
  rw [← hkey, List.map_append, List.map_cons]
  exact mem_recent (by simpa using hfew)

end

/-! ## Progress -/

def World.withChats (w : World) (c : Chats) : World :=
  { w with
    activeScreens := c.screens
    creationSessions := c.sessions
    taskInteractions := c.interactions
    assigneeSelections := c.selections
    currentBarriers := c.barriers
    sent := c.sent }

/-- Telegram may take the message of a deed. -/
theorem Deed.Acts.exists (telegram : Telegram) (chatId : Int) (d : Deed) (c : Chats) :
    ∃ c', Deed.Acts telegram chatId d true c c' := by
  cases d with
  | render descriptor view =>
    by_cases hspent : c.barriers chatId = some ⟨true⟩
    · exact ⟨c, .suppressed rfl hspent⟩
    · exact ⟨_, .rendered descriptor view 0 hspent⟩
  | tell text =>
    by_cases hspent : c.barriers chatId = some ⟨true⟩
    · exact ⟨c, .suppressed rfl hspent⟩
    · exact ⟨_, .told text 0 hspent⟩
  | tellPast text => exact ⟨_, .toldPast text 0⟩
  | toast => exact ⟨c, .toast true⟩
  | session session => exact ⟨_, .session session⟩
  | interaction session => exact ⟨_, .interaction session⟩
  | selection selection => exact ⟨_, .selection selection⟩

/-- An update that is new is handled, with a script that it may play. -/
theorem Works.of_opened (u : IncomingUpdate) {w w₁ : World} {ds : List Deed} (h : w.opened u.key = some w₁)
    (hscript : ∀ c cue, Script u.bot c u.chatId cue ds) :
    ∃ w', Works u w .admitted w' (.playing ds) ∧ w'.updateDedup = w₁.updateDedup := by
  obtain ⟨bot, received, key, hcarries⟩ := u
  cases received with
  | message received =>
    obtain ⟨incoming, hincoming, rfl⟩ := Option.map_eq_some_iff.mp hcarries
    exact ⟨w₁, .opened h (.message hincoming) (hscript _ _) (opened_chats h).1 rfl, rfl⟩
  | press press =>
    obtain ⟨⟨callback, incoming⟩, hincoming, rfl⟩ := Option.map_eq_some_iff.mp hcarries
    have hdedup : (w₁.hydrated incoming.chatId incoming.messageId).updateDedup = w₁.updateDedup := by
      unfold World.hydrated
      cases w₁.activeScreens incoming.chatId <;> rfl
    exact ⟨_, .opened h (.press hincoming) (hscript _ _) (hydrated_chats _ h) hdedup, hdedup⟩

/-- How much of an update is left. -/
def Handling.rank : Handling → Nat
  | admitted => 4
  | playing ds => 3 + ds.length
  | closing => 2
  | leaving => 1

theorem Works.exists (u : IncomingUpdate) (w : World) {b : Handling} (hb : b ≠ .leaving) :
    ∃ w' b', Works u w b w' b' := by
  cases b with
  | admitted =>
    cases hopened : w.opened u.key with
    | none => exact ⟨_, _, .duplicate hopened⟩
    | some w₁ =>
      obtain ⟨w', hworks, -⟩ := Works.of_opened u hopened fun _ _ => .nothing
      exact ⟨w', _, hworks⟩
  | playing ds =>
    cases ds with
    | nil => exact ⟨w, _, .finished⟩
    | cons d ds =>
      obtain ⟨c', hact⟩ := Deed.Acts.exists u.bot.telegram u.chatId d w.chats
      exact ⟨w.withChats c', _, .deed (show Deed.Acts _ _ _ _ _ (w.withChats c').chats from hact) rfl⟩
  | closing => exact ⟨_, _, .closed⟩
  | leaving => exact absurd rfl hb

/-- A step takes from what is left; the first one may bring any script. -/
theorem Works.lowers {u : IncomingUpdate} {w w' : World} {b b' : Handling} (h : Works u w b w' b') :
    b' ≠ .admitted ∧ b' ≠ b ∧ (b ≠ .admitted → b'.rank < b.rank) := by
  cases h with
  | duplicate _ | opened _ _ _ _ _ => exact ⟨nofun, nofun, fun hb => absurd rfl hb⟩
  | @stopped w' d ds _ _ =>
    have hlong : 2 < 3 + (d :: ds).length := by omega
    exact ⟨nofun, nofun, fun _ => hlong⟩
  | finished | closed => exact ⟨nofun, nofun, fun _ => by decide⟩
  | deed _ _ => exact ⟨nofun, by simp, fun _ => by simp [Handling.rank]⟩

/-- What each update does next in its critical section: which script it plays, and what Telegram answers. -/
structure Course {ν : Type} (updates : ν → IncomingUpdate) where
  next : ν → World → Handling → World × Handling
  works : ∀ i w b, b ≠ .leaving → Works (updates i) w b (next i w b).1 (next i w b).2

section

variable {ν : Type} [DecidableEq ν] {updates : ν → IncomingUpdate} {w : World} {t : Traffic ν} {i : ν} {lock : Nat}

/-- An update goes on, in its critical section as the course has it. -/
structure Traffic.Follows (course : Course updates) (t t' : Traffic ν) : Prop where
  advances : t.Advances updates t'
  course : ∀ j lock b, t.visit j = .holding lock b → b ≠ .leaving → t'.visit j ≠ t.visit j →
    t'.world = (course.next j t.world b).1 ∧ t'.visit j = .holding lock (course.next j t.world b).2

namespace Traffic

variable (course : Course updates)

/-- The step of an update; it is the one of the course if the update is in its critical section. -/
theorem Follows.of_step {t t' : Traffic ν} {s : Visit Handling} (h : t.Advances updates t')
    (hvisit : t'.visit = Function.update t.visit i s)
    (hplace : ∀ lock b, t.visit i = .holding lock b → b ≠ .leaving →
      t'.world = (course.next i t.world b).1 ∧ s = .holding lock (course.next i t.world b).2) :
    t.Follows course t' := by
  refine ⟨h, fun j lock b hj hb hmoves => ?_⟩
  have hji : j = i := by
    by_contra hji
    exact hmoves (by rw [hvisit, Function.update_of_ne hji])
  subst hji
  rw [hvisit, Function.update_self]
  exact hplace lock b hj hb

/-- What the update does next in its critical section. -/
def next (t : Traffic ν) (i : ν) (lock : Nat) (b : Handling) : Traffic ν :=
  let (w, b') := course.next i t.world b
  { t with
    world := w
    visit := Function.update t.visit i (.holding lock b')
    handled := if b.begins b' then t.handled ++ [i] else t.handled }

theorem follows_next {b : Handling} (hvisit : t.visit i = .holding lock b) (hb : b ≠ .leaving) :
    t.Follows course (t.next course i lock b) := by
  refine .of_step course (.works i hvisit (course.works i t.world b hb)) rfl fun lock' b' hvisit' _ => ?_
  cases hvisit.symm.trans hvisit'
  exact ⟨rfl, rfl⟩

theorem follows_leaves (hvisit : t.visit i = .holding lock .leaving) : t.Follows course
    { t with serializer := t.serializer.release lock, visit := Function.update t.visit i .done } := by
  refine .of_step course (.leaves i hvisit) rfl fun lock' b' hvisit' hb => ?_
  cases hvisit.symm.trans hvisit'
  exact absurd rfl hb

/-- The update can go on to its end, where it drops the guard. -/
def RunsOut (t : Traffic ν) (i : ν) (lock : Nat) : Prop :=
  ∃ t', Relation.ReflTransGen (Follows course) t t' ∧ t'.visit = Function.update t.visit i .done ∧
    t'.serializer = t.serializer.release lock

theorem RunsOut.of_next {b : Handling} (hvisit : t.visit i = .holding lock b) (hb : b ≠ .leaving)
    (h : RunsOut course (t.next course i lock b) i lock) : RunsOut course t i lock := by
  obtain ⟨t', hrun, hvisits, hserializer⟩ := h
  refine ⟨t', .head (follows_next course hvisit hb) hrun, ?_, hserializer⟩
  rw [hvisits]
  exact Function.update_idem ..

/-- Past the deduplication the update goes on to its end, since its script does not get longer. -/
theorem runs_on (n : Nat) : ∀ {t : Traffic ν} {b : Handling}, b ≠ .admitted → b.rank ≤ n →
    t.visit i = .holding lock b → RunsOut course t i lock := by
  induction n with
  | zero =>
    intro t b _ hrank _
    cases b <;> simp [Handling.rank] at hrank
  | succ n ih =>
    intro t b hadmitted hrank hvisit
    by_cases hb : b = .leaving
    · subst hb
      exact ⟨_, .single (follows_leaves course hvisit), rfl, rfl⟩
    · obtain ⟨hadmitted', -, hless⟩ := (course.works i t.world b hb).lowers
      have hrank' := hless hadmitted
      exact .of_next course hvisit hb (ih hadmitted' (by omega) (Function.update_self ..))

/-- **The update that has the lock goes on to its end.** -/
theorem runs_out {b : Handling} (hvisit : t.visit i = .holding lock b) : RunsOut course t i lock := by
  by_cases hadmitted : b = .admitted
  · subst hadmitted
    have hb : Handling.admitted ≠ .leaving := nofun
    obtain ⟨hadmitted', -, -⟩ := (course.works i t.world .admitted hb).lowers
    exact .of_next course hvisit hb (runs_on course _ hadmitted' (Nat.le_refl _) (Function.update_self ..))
  · exact runs_on course _ hadmitted (Nat.le_refl _) hvisit

theorem enters_and_leaves (hvisit : t.visit i = .waiting lock) (hfree : t.serializer.held[lock]? = some false) :
    ∃ t', Relation.ReflTransGen (Follows course) t t' ∧ t'.visit i = .done := by
  let entered : Traffic ν :=
    { t with
      serializer := { t.serializer with held := t.serializer.held.set lock true }
      visit := Function.update t.visit i (.holding lock .admitted) }
  have henters : t.Follows course entered := by
    refine .of_step course (.enters i hvisit (if_pos hfree)) rfl fun _ _ hholds => ?_
    cases hvisit.symm.trans hholds
  have hentered : entered.visit i = .holding lock .admitted := Function.update_self ..
  obtain ⟨t', hrun, hvisits, -⟩ := runs_out course hentered
  refine ⟨t', .head henters hrun, ?_⟩
  rw [hvisits]
  exact Function.update_self ..

/-- Whoever holds the lock comes first. -/
theorem Orderly.waiting_through (h : t.Orderly updates) (hvisit : t.visit i = .waiting lock) :
    ∃ t', Relation.ReflTransGen (Follows course) t t' ∧ t'.visit i = .done := by
  have hlock : (t.visit i).lock = some lock := by
    rw [hvisit]
    rfl
  rcases h.free_or_held hlock with hfree | ⟨j, hj⟩
  · exact enters_and_leaves course hvisit hfree
  · have hlt : lock < t.serializer.held.length := h.made _ lock (h.known i lock hlock)
    obtain ⟨b, hholds⟩ : ∃ b, t.visit j = .holding lock b := by
      cases hvisitj : t.visit j with
      | holding lock' b =>
        rw [hvisitj] at hj
        cases hj
        exact ⟨b, rfl⟩
      | arrived | missed | waiting _ | done =>
        rw [hvisitj] at hj
        cases hj
    have hij : i ≠ j := by
      rintro rfl
      cases hvisit.symm.trans hholds
    obtain ⟨t₁, hrun, hvisits, hserializer⟩ := runs_out course hholds
    have hwaits : t₁.visit i = .waiting lock := by
      rw [hvisits, Function.update_of_ne hij]
      exact hvisit
    have hfree : t₁.serializer.held[lock]? = some false := by
      rw [hserializer]
      exact List.getElem?_set_self hlt
    obtain ⟨t₂, hrun₂, hdone⟩ := enters_and_leaves course hwaits hfree
    exact ⟨t₂, hrun.trans hrun₂, hdone⟩

theorem Orderly.looks_through (h : t.Orderly updates) {r : ChatSerializer} {s s' : Visit Handling}
    (hvisit : t.visit i = s) (hlook : KeyedLocks.Moves (updates i).chatId t.serializer s r s')
    (hbefore : s.own = none) (hafter : s'.own = none)
    (hrest : ∀ t' : Traffic ν, t'.Orderly updates → t'.visit i = s' →
      ∃ t'', Relation.ReflTransGen (Follows course) t' t'' ∧ t''.visit i = .done) :
    ∃ t', Relation.ReflTransGen (Follows course) t t' ∧ t'.visit i = .done := by
  subst hvisit
  have hstep := Advances.looks i hlook hbefore hafter
  have hfollows : t.Follows course { t with serializer := r, visit := Function.update t.visit i s' } := by
    refine .of_step course hstep rfl fun lock b hholds => ?_
    rw [hholds] at hbefore
    cases hbefore
  obtain ⟨t', hrun, hdone⟩ := hrest _ (hstep.orderly h) (Function.update_self ..)
  exact ⟨t', .head hfollows hrun, hdone⟩

end Traffic

/-- **No update waits for ever: each can still be brought to its end**, whatever has happened before, and whatever
the updates do in their critical sections. -/
theorem everyone_gets_through (course : Course updates) (hrun : Traffic.Reaches updates w t) (i : ν) :
    ∃ t', Relation.ReflTransGen (Traffic.Follows course) t t' ∧ t'.visit i = .done := by
  have hmissed : ∀ t' : Traffic ν, t'.Orderly updates → t'.visit i = .missed →
      ∃ t'', Relation.ReflTransGen (Traffic.Follows course) t' t'' ∧ t''.visit i = .done := by
    intro t' ht' hvisit
    exact ht'.looks_through course hvisit .inserted rfl rfl fun _ h hwaits => h.waiting_through course hwaits
  have ht := hrun.orderly
  cases hvisit : t.visit i with
  | arrived =>
    cases hfound : t.serializer.table (updates i).chatId with
    | some lock =>
      exact ht.looks_through course hvisit (.found hfound) rfl rfl fun _ h hwaits => h.waiting_through course hwaits
    | none => exact ht.looks_through course hvisit (.missed hfound) rfl rfl hmissed
  | missed => exact hmissed t ht hvisit
  | waiting lock => exact ht.waiting_through course hvisit
  | holding lock b =>
    obtain ⟨t', hfollows, hvisits, -⟩ := Traffic.runs_out course hvisit
    exact ⟨t', hfollows, by rw [hvisits]; exact Function.update_self ..⟩
  | done => exact ⟨t, .refl, hvisit⟩

end

/-! ## Two messages -/

section

variable {ν : Type} [DecidableEq ν] {updates : ν → IncomingUpdate} {t : Traffic ν} {i : ν}

/-- Nobody holds the lock of the chat. -/
def Traffic.Idle (t : Traffic ν) (chatId : Int) : Prop :=
  ∀ lock, t.serializer.table chatId = some lock → t.serializer.held[lock]? = some false

variable (updates) in
theorem Traffic.Idle.looked_up (hidle : t.Idle (updates i).chatId) (harrived : t.visit i = .arrived) :
    ∃ r lock, Relation.ReflTransGen (Traffic.Moves updates) t
        { t with serializer := r, visit := Function.update t.visit i (.waiting lock) } ∧
      r.table (updates i).chatId = some lock ∧ r.held[lock]? = some false := by
  cases hfound : t.serializer.table (updates i).chatId with
  | some lock =>
    exact ⟨t.serializer, lock, .single (.advances (.looks i (harrived ▸ .found hfound) (by rw [harrived]; rfl) rfl)),
      hfound, hidle lock hfound⟩
  | none =>
    rcases t.serializer.findOrInsert_cases (updates i).chatId with ⟨lock, hsome, -⟩ | ⟨-, hinsert⟩
    · cases hfound.symm.trans hsome
    · have hmissed : Traffic.Advances updates t _ := .looks i (s := .missed)
        (by rw [harrived]; exact .missed hfound) (by rw [harrived]; rfl) rfl
      have hmove : KeyedLocks.Moves (β := Handling) (updates i).chatId t.serializer .missed _ _ := .inserted
      have hinserted : Traffic.Advances updates { t with visit := Function.update t.visit i .missed } _ :=
        .looks i (s := .waiting t.serializer.held.length) (r := (t.serializer.findOrInsert (updates i).chatId).2)
          (by
            rw [hinsert] at hmove ⊢
            simpa using hmove) (by simp [Visit.own]) rfl
      rw [Function.update_idem] at hinserted
      refine ⟨_, _, .tail (.single (.advances hmissed)) (.advances hinserted), ?_, ?_⟩
      · rw [hinsert]
        exact Function.update_self ..
      · rw [hinsert]
        simp

variable (updates) in
/-- An update that meets no other one of its chat is handled. -/
theorem Traffic.Idle.handled {w₁ : World} (hidle : t.Idle (updates i).chatId) (harrived : t.visit i = .arrived)
    (hopened : t.world.opened (updates i).key = some w₁) :
    ∃ t', Relation.ReflTransGen (Traffic.Moves updates) t t' ∧ t'.visit = Function.update t.visit i .done ∧
      t'.handled = t.handled ++ [i] ∧ t'.world.updateDedup = w₁.updateDedup ∧ t'.Idle (updates i).chatId := by
  obtain ⟨r, lock, hlooks, htable, hfree⟩ := hidle.looked_up updates harrived
  obtain ⟨w', hworks, hdedup⟩ := Works.of_opened (updates i) hopened fun _ _ => .nothing
  have hlt : lock < r.held.length := (List.getElem?_eq_some_iff.mp hfree).1
  let holding (b : Handling) (w : World) (handled : List ν) : Traffic ν :=
    ⟨{ r with held := r.held.set lock true }, w, Function.update t.visit i (.holding lock b), handled⟩
  have henters : Traffic.Advances updates
      { t with serializer := r, visit := Function.update t.visit i (.waiting lock) }
      (holding .admitted t.world t.handled) := by
    have h : Traffic.Advances updates { t with serializer := r, visit := Function.update t.visit i (.waiting lock) } _ :=
      .enters i (Function.update_self ..) (if_pos hfree)
    rw [Function.update_idem] at h
    exact h
  have hgoes : ∀ b b' w w' handled, Works (updates i) w b w' b' → Traffic.Advances updates (holding b w handled)
      (holding b' w' (if b.begins b' then handled ++ [i] else handled)) := by
    intro b b' w w' handled h
    have hstep : Traffic.Advances updates (holding b w handled) _ := .works i (Function.update_self ..) h
    simp only [holding, Function.update_idem] at hstep
    exact hstep
  refine ⟨⟨Registry.release { r with held := r.held.set lock true } lock, w'.uninstallBarrier (updates i).chatId,
    Function.update t.visit i .done, t.handled ++ [i]⟩, ?_, rfl, rfl, hdedup, fun lock' hlock => ?_⟩
  · have hleaves : Traffic.Advances updates
        (holding .leaving (w'.uninstallBarrier (updates i).chatId) (t.handled ++ [i])) _ :=
      .leaves i (Function.update_self ..)
    simp only [holding, Function.update_idem] at hleaves
    exact ((((hlooks.tail (.advances henters)).tail (.advances (hgoes _ _ _ _ _ hworks))).tail
      (.advances (hgoes _ _ _ _ _ .finished))).tail (.advances (hgoes _ _ _ _ _ .closed))).tail (.advances hleaves)
  · cases htable.symm.trans hlock
    exact List.getElem?_set_self (by simpa using hlt)

end

/-- Two messages of one chat. -/
def twoMessages (second : Bool) : IncomingUpdate where
  bot := dictatedBot
  received := .message (typedMessage (if second then 2 else 1) "Подготовить отчёт")
  key := ⟨7, if second then 2 else 1⟩
  carries := by cases second <;> rfl

/-- The first has been handled, the second has not come. -/
theorem first_handled : ∃ t, Traffic.Reaches twoMessages onboardedWorld t ∧
    t.visit = Function.update (fun _ => .arrived) false .done ∧ t.handled = [false] ∧
    (t.world.updateDedup.observe (twoMessages true).key).1 = true ∧ t.Idle 7 := by
  obtain ⟨t, hrun, hvisits, hhandled, hdedup, hidle⟩ := Traffic.Idle.handled twoMessages (i := false)
    (t := Traffic.start Bool onboardedWorld) (fun _ h => nomatch h) rfl (if_pos rfl)
  exact ⟨t, hrun, hvisits, hhandled, by rw [hdedup]; decide, hidle⟩

/-- The first is handled, and the second comes. -/
theorem first_holds : ∃ t, Traffic.Reaches twoMessages onboardedWorld t ∧ t.Holds false ∧ t.visit true = .arrived := by
  obtain ⟨r, lock, hlooks, -, hfree⟩ := Traffic.Idle.looked_up twoMessages (i := false)
    (t := Traffic.start Bool onboardedWorld) (fun _ h => nomatch h) rfl
  have hwaits : Function.update (Traffic.start Bool onboardedWorld).visit false (.waiting lock) false =
      .waiting lock := Function.update_self ..
  have hholds : Function.update (Function.update (Traffic.start Bool onboardedWorld).visit false (Visit.waiting lock))
      false (Visit.holding lock Handling.admitted) false = .holding lock .admitted := Function.update_self ..
  exact ⟨_, hlooks.tail (.advances (.enters false hwaits (if_pos hfree))), ⟨lock, .admitted, hholds⟩, rfl⟩

/-- While the first is handled, the second waits. -/
theorem second_waits : ∃ t, Traffic.Reaches twoMessages onboardedWorld t ∧ t.Holds false ∧ ¬ t.Holds true := by
  obtain ⟨t, hrun, hholds, -⟩ := first_holds
  exact ⟨t, hrun, hholds, fun hsecond =>
    Traffic.Reaches.one_of_chat (i := false) (j := true) hrun (by decide) rfl ⟨hholds, hsecond⟩⟩

/-- Both have been handled. -/
theorem second_handled : ∃ t, Traffic.Reaches twoMessages onboardedWorld t ∧ t.handled = [false, true] ∧
    ∀ i, ¬ t.Holds i := by
  obtain ⟨t, hrun, hvisits, hhandled, hfresh, hidle⟩ := first_handled
  obtain ⟨t', hrun', hvisits', hhandled', -⟩ := Traffic.Idle.handled twoMessages (i := true) hidle
    (by rw [hvisits]; rfl) (if_pos hfresh)
  rw [hhandled] at hhandled'
  refine ⟨t', hrun.trans hrun', hhandled', fun i ⟨lock, b, hholds⟩ => ?_⟩
  rw [hvisits', hvisits] at hholds
  cases i <;> simp at hholds

theorem both_handled : ∃ t, Traffic.Reaches twoMessages onboardedWorld t ∧ t.handled = [false, true] ∧
    (twoMessages false).key ≠ (twoMessages true).key := by
  obtain ⟨t, hrun, hhandled, -⟩ := second_handled
  have hsplit : t.handled = [] ++ false :: ([] ++ true :: []) := hhandled
  exact ⟨t, hrun, hhandled, redelivered_dropped rfl hrun hsplit (by decide)⟩

/-- Each of the messages is told a text. -/
theorem telling_course (text : String) : ∃ course : Course twoMessages, ∀ i w, (w.opened (twoMessages i).key).isSome →
    (course.next i w .admitted).2 = .playing [.tell text] := by
  have hnext : ∀ i w b, ∃ p : World × Handling, (b ≠ .leaving → Works (twoMessages i) w b p.1 p.2) ∧
      (b = .admitted → (w.opened (twoMessages i).key).isSome → p.2 = .playing [.tell text]) := by
    intro i w b
    by_cases hb : b = .admitted
    · subst hb
      cases hopened : w.opened (twoMessages i).key with
      | none => exact ⟨(_, _), fun _ => .duplicate hopened, nofun⟩
      | some w₁ =>
        obtain ⟨w', hworks, -⟩ := Works.of_opened (twoMessages i) hopened fun _ _ => .scene (.ending (.told text))
        exact ⟨(w', .playing [.tell text]), fun _ => hworks, fun _ _ => rfl⟩
    · by_cases hleaving : b = .leaving
      · exact ⟨(w, .leaving), fun h => absurd hleaving h, fun h => absurd h hb⟩
      · obtain ⟨w', b', hworks⟩ := Works.exists (twoMessages i) w hleaving
        exact ⟨(w', b'), fun _ => hworks, fun h => absurd h hb⟩
  choose next hworks hscript using hnext
  exact ⟨⟨next, hworks⟩, fun i w => hscript i w .admitted rfl⟩

/-- While the first is handled the second waits, and both are told a text. -/
theorem second_gets_through : ∃ (course : Course twoMessages) (t : Traffic Bool),
    (∀ i w, (w.opened (twoMessages i).key).isSome → (course.next i w .admitted).2 = .playing [.tell "Занято"]) ∧
    Traffic.Reaches twoMessages onboardedWorld t ∧ t.Holds false ∧ t.visit true = .arrived ∧
      ∃ t', Relation.ReflTransGen (Traffic.Follows course) t t' ∧ t'.visit true = .done := by
  obtain ⟨course, hscript⟩ := telling_course "Занято"
  obtain ⟨t, hrun, hholds, harrived⟩ := first_holds
  exact ⟨course, t, hscript, hrun, hholds, harrived, everyone_gets_through course hrun true⟩

end TaskBot
