import Mathlib.Logic.Function.Basic
import TaskBot.Presentation.Callbacks

/-!
# Nonces of admin confirmations

A destructive admin action waits in this store until its admin confirms it: the
nonce names the action, belongs to one admin, expires, and is spent by the first
who redeems it.

    inner n = some e   →   n was issued for e.action to e.actorUserId

The readings of the monotonic clock are arguments of the operations.
-/

namespace TaskBot

/-- A pending admin action awaiting confirmation. -/
inductive PendingAdminAction where
  | changeRole (targetUserId targetTelegramId : Int) (displayName : String) (nextRole : AdminRoleOption)
  | deactivate (targetUserId targetTelegramId : Int) (displayName : String)
  | reactivate (targetUserId targetTelegramId : Int) (displayName : String)
deriving DecidableEq, Repr

def PendingAdminAction.targetUserId : PendingAdminAction → Int
  | changeRole id _ _ _ | deactivate id _ _ | reactivate id _ _ => id

structure NonceEntry where
  actorUserId : Int
  action : PendingAdminAction
  expiresAt : Instant
deriving DecidableEq, Repr

inductive NonceError where
  | notFound | wrongActor
deriving DecidableEq, Repr

/-- `ttl` counts nanoseconds, as instants do. -/
structure AdminNonceStore where
  inner : String → Option NonceEntry
  ttl : Int

namespace AdminNonceStore

def new (ttlSeconds : Nat) : AdminNonceStore := ⟨fun _ => none, ttlSeconds * 1000000000⟩

def sweepExpired (store : AdminNonceStore) (now : Instant) : AdminNonceStore :=
  { store with inner := fun nonce => (store.inner nonce).filter fun entry => now < entry.expiresAt }

/-- `issuedAt` is read for the expiry, `now` for the sweep. -/
def issue (store : AdminNonceStore) (issuedAt now : Instant) (nonce : String) (actorUserId : Int)
    (action : PendingAdminAction) : AdminNonceStore :=
  { store with
    inner := Function.update (store.sweepExpired now).inner nonce
      (some ⟨actorUserId, action, issuedAt + store.ttl⟩) }

def remove (store : AdminNonceStore) (nonce : String) : AdminNonceStore :=
  { store with inner := Function.update store.inner nonce none }

/-- A nonce in the wrong hands is spent as well. -/
def consume (store : AdminNonceStore) (now : Instant) (actorUserId : Int) (nonce : String) :
    Except NonceError PendingAdminAction × AdminNonceStore :=
  match (store.sweepExpired now).inner nonce with
  | none => (.error .notFound, store.sweepExpired now)
  | some entry =>
      if entry.actorUserId = actorUserId then (.ok entry.action, (store.sweepExpired now).remove nonce)
      else (.error .wrongActor, (store.sweepExpired now).remove nonce)

/-- For the Cancel button and for a nonce that a newer one supersedes. -/
def discard (store : AdminNonceStore) (nonce : String) : AdminNonceStore := store.remove nonce

variable {store store' : AdminNonceStore} {now issuedAt : Instant} {nonce n : String} {actorUserId : Int}
  {action : PendingAdminAction} {entry : NonceEntry}

theorem sweepExpired_some :
    (store.sweepExpired now).inner nonce = some entry ↔
      store.inner nonce = some entry ∧ now < entry.expiresAt := by
  unfold sweepExpired
  rw [Option.filter_eq_some_iff]
  simp

theorem issue_some :
    (store.issue issuedAt now n actorUserId action).inner nonce = some entry →
      (nonce = n ∧ entry = ⟨actorUserId, action, issuedAt + store.ttl⟩) ∨
        (nonce ≠ n ∧ store.inner nonce = some entry) := by
  intro h
  simp only [issue, Function.update_apply] at h
  by_cases hn : nonce = n
  · rw [if_pos hn] at h
    cases h
    exact .inl ⟨hn, rfl⟩
  · rw [if_neg hn] at h
    exact .inr ⟨hn, (sweepExpired_some.mp h).1⟩

theorem remove_some :
    (store.remove n).inner nonce = some entry ↔ nonce ≠ n ∧ store.inner nonce = some entry := by
  simp only [remove, Function.update_apply]
  by_cases hn : nonce = n
  · simp [hn]
  · simp [hn]

/-- **Whoever redeems a nonce holds one of theirs that has not expired**, and spends it. -/
theorem consume_ok (h : store.consume now actorUserId n = (.ok action, store')) :
    ∃ expiresAt, store.inner n = some ⟨actorUserId, action, expiresAt⟩ ∧ now < expiresAt ∧
      store' = (store.sweepExpired now).remove n := by
  unfold consume at h
  cases hfind : (store.sweepExpired now).inner n with
  | none => rw [hfind] at h; cases h
  | some entry =>
    rw [hfind] at h
    obtain ⟨hstored, hlive⟩ := sweepExpired_some.mp hfind
    by_cases hactor : entry.actorUserId = actorUserId
    · simp only [if_pos hactor] at h
      cases h
      subst hactor
      exact ⟨entry.expiresAt, hstored, hlive, rfl⟩
    · simp only [if_neg hactor] at h
      cases h

/-- Redeeming only ever takes entries away, the redeemed one in any case. -/
theorem consume_some (h : (store.consume now actorUserId n).2.inner nonce = some entry) :
    nonce ≠ n ∧ store.inner nonce = some entry := by
  have hkept : ∀ {m e}, ((store.sweepExpired now).remove n).inner m = some e →
      m ≠ n ∧ store.inner m = some e := by
    intro m e he
    obtain ⟨hm, he⟩ := remove_some.mp he
    exact ⟨hm, (sweepExpired_some.mp he).1⟩
  unfold consume at h
  cases hfind : (store.sweepExpired now).inner n with
  | none =>
    rw [hfind] at h
    refine ⟨?_, (sweepExpired_some.mp h).1⟩
    rintro rfl
    rw [hfind] at h
    cases h
  | some e =>
    rw [hfind] at h
    by_cases hactor : e.actorUserId = actorUserId
    · simp only [if_pos hactor] at h
      exact hkept h
    · simp only [if_neg hactor] at h
      exact hkept h

@[simp] theorem issue_ttl : (store.issue issuedAt now n actorUserId action).ttl = store.ttl := rfl

@[simp] theorem consume_ttl : (store.consume now actorUserId n).2.ttl = store.ttl := by
  unfold consume
  split
  · rfl
  · split <;> rfl

/-- **A discarded nonce redeems nothing.** -/
theorem consume_discard (store : AdminNonceStore) (now : Instant) (actorUserId : Int) (n : String) :
    ((store.discard n).consume now actorUserId n).1 = .error .notFound := by
  have hnone : ((store.discard n).sweepExpired now).inner n = none := by
    cases h : ((store.discard n).sweepExpired now).inner n with
    | none => rfl
    | some entry => exact absurd rfl (remove_some.mp (sweepExpired_some.mp h).1).1
  unfold consume
  rw [hnone]

end AdminNonceStore

end TaskBot
