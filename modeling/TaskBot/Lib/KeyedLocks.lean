import Mathlib.Logic.Function.Basic

/-!
# A registry of locks, one for each key

Visitors of a key share its lock, which the first of them puts into a table.  A visitor looks the key
up, and if there is no entry comes back to add one; in between somebody else may have added it.  Then
it waits for the lock, works while it holds it, and releases it.

* `Orderly`: what holds after every move of every visitor;
* `Orderly.exclusive`: no two visitors of one key work at once;
* `Orderly.free_or_held`: a lock somebody waits for is free, or somebody holds it.

Which of the waiting visitors comes next is left open.
-/

namespace KeyedLocks

variable {ν κ β : Type}

/-- A lock is a number, and `held` tells which of them are held. -/
structure Registry (κ : Type) where
  table : κ → Option Nat
  held : List Bool

inductive Visit (β : Type) where
  | arrived
  /-- The key had no entry. -/
  | missed
  | waiting (lock : Nat)
  | holding (lock : Nat) (work : β)
  | done

/-- The lock the visitor has found. -/
def Visit.lock : Visit β → Option Nat
  | waiting lock | holding lock _ => some lock
  | arrived | missed | done => none

/-- The lock the visitor holds. -/
def Visit.own : Visit β → Option Nat
  | holding lock _ => some lock
  | arrived | missed | waiting _ | done => none

namespace Registry

def new : Registry κ := ⟨fun _ => none, []⟩

variable [DecidableEq κ]

/-- The lock of the key, a new one if the table has none. -/
def findOrInsert (r : Registry κ) (key : κ) : Nat × Registry κ :=
  match r.table key with
  | some lock => (lock, r)
  | none => (r.held.length, ⟨Function.update r.table key (some r.held.length), r.held ++ [false]⟩)

/-- The lock is granted when nobody holds it. -/
def acquire (r : Registry κ) (lock : Nat) : Option (Registry κ) :=
  if r.held[lock]? = some false then some { r with held := r.held.set lock true } else none

def release (r : Registry κ) (lock : Nat) : Registry κ := { r with held := r.held.set lock false }

end Registry

/-- What a visitor of the key does to the registry; `work` is what it has to do with the lock. -/
inductive Moves [DecidableEq κ] (key : κ) (r : Registry κ) : Visit β → Registry κ → Visit β → Prop where
  | found {lock : Nat} (h : r.table key = some lock) : Moves key r .arrived r (.waiting lock)
  | missed (h : r.table key = none) : Moves key r .arrived r .missed
  | inserted : Moves key r .missed (r.findOrInsert key).2 (.waiting (r.findOrInsert key).1)
  | entered {lock : Nat} {r' : Registry κ} (work : β) (h : r.acquire lock = some r') :
      Moves key r (.waiting lock) r' (.holding lock work)
  | worked {lock : Nat} (work work' : β) : Moves key r (.holding lock work) r (.holding lock work')
  | left {lock : Nat} (work : β) : Moves key r (.holding lock work) (r.release lock) .done

structure Orderly (key : ν → κ) (r : Registry κ) (visit : ν → Visit β) : Prop where
  /-- A lock belongs to one key. -/
  apart : ∀ k k' lock, r.table k = some lock → r.table k' = some lock → k = k'
  made : ∀ k lock, r.table k = some lock → lock < r.held.length
  known : ∀ i lock, (visit i).lock = some lock → r.table (key i) = some lock
  one : ∀ i j lock, (visit i).own = some lock → (visit j).own = some lock → i = j
  held : ∀ lock, r.held[lock]? = some true ↔ ∃ i, (visit i).own = some lock

theorem orderly_new (key : ν → κ) : Orderly key Registry.new (fun _ => (.arrived : Visit β)) where
  apart _ _ _ h := nomatch h
  made _ _ h := nomatch h
  known _ _ h := nomatch h
  one _ _ _ h := nomatch h
  held lock := by simp [Registry.new, Visit.own]

theorem Visit.lock_of_own {s : Visit β} {lock : Nat} (h : s.own = some lock) : s.lock = some lock := by
  cases s with
  | holding _ _ => exact h
  | arrived | missed | waiting _ | done => cases h

section

variable [DecidableEq κ] {r r' : Registry κ} {k : κ} {lock : Nat}

omit [DecidableEq κ] in
theorem Registry.acquire_some (h : r.acquire lock = some r') :
    r.held[lock]? = some false ∧ r' = { r with held := r.held.set lock true } := by
  unfold acquire at h
  split at h
  · next hfree => exact ⟨hfree, (Option.some.inj h).symm⟩
  · cases h

/-- An entry is kept, and the key has one now. -/
theorem Registry.findOrInsert_cases (r : Registry κ) (k : κ) :
    (∃ lock, r.table k = some lock ∧ r.findOrInsert k = (lock, r)) ∨
      r.table k = none ∧ r.findOrInsert k =
        (r.held.length, ⟨Function.update r.table k (some r.held.length), r.held ++ [false]⟩) := by
  unfold findOrInsert
  cases hk : r.table k with
  | some lock => exact .inl ⟨lock, rfl, rfl⟩
  | none => exact .inr ⟨rfl, rfl⟩

end

namespace Orderly

variable [DecidableEq ν] {key : ν → κ} {r r' : Registry κ} {visit : ν → Visit β} {s : Visit β} {i : ν}

/-- A visitor changes its visit, and holds the lock it has held. -/
theorem revisit (h : Orderly key r visit) (hown : s.own = (visit i).own)
    (hknown : ∀ lock, s.lock = some lock → r.table (key i) = some lock) :
    Orderly key r (Function.update visit i s) := by
  have hall : ∀ j, (Function.update visit i s j).own = (visit j).own := by
    intro j
    by_cases hj : j = i
    · rw [hj, Function.update_self, hown]
    · rw [Function.update_of_ne hj]
  refine ⟨h.apart, h.made, fun j lock hlock => ?_, fun j j' lock hj hj' => ?_, fun lock => ?_⟩
  · by_cases hj : j = i
    · subst hj
      rw [Function.update_self] at hlock
      exact hknown lock hlock
    · rw [Function.update_of_ne hj] at hlock
      exact h.known j lock hlock
  · rw [hall] at hj hj'
    exact h.one j j' lock hj hj'
  · simp only [hall]
    exact h.held lock

omit [DecidableEq ν] in
/-- A key that had no entry gets a lock of its own. -/
theorem insert [DecidableEq κ] (h : Orderly key r visit) {k : κ} (hk : r.table k = none) :
    Orderly key ⟨Function.update r.table k (some r.held.length), r.held ++ [false]⟩ visit := by
  have hfresh : ∀ k' lock, r.table k' = some lock → lock ≠ r.held.length := fun k' lock hlock =>
    Nat.ne_of_lt (h.made k' lock hlock)
  have hkept : ∀ k' lock, r.table k' = some lock →
      Function.update r.table k (some r.held.length) k' = some lock := by
    intro k' lock hlock
    rw [Function.update_of_ne]
    · exact hlock
    · rintro rfl
      exact absurd (hk.symm.trans hlock) (Option.some_ne_none lock).symm
  have hcases : ∀ k' lock, Function.update r.table k (some r.held.length) k' = some lock →
      k' = k ∧ lock = r.held.length ∨ r.table k' = some lock := by
    intro k' lock hlock
    by_cases hk' : k' = k
    · rw [hk', Function.update_self] at hlock
      exact .inl ⟨hk', (Option.some.inj hlock).symm⟩
    · rw [Function.update_of_ne hk'] at hlock
      exact .inr hlock
  refine ⟨fun k₁ k₂ lock h₁ h₂ => ?_, fun k' lock hlock => ?_, fun j lock hlock => ?_, h.one, fun lock => ?_⟩
  · rcases hcases k₁ lock h₁ with ⟨hk₁, hnew⟩ | hold₁
    · rcases hcases k₂ lock h₂ with ⟨hk₂, -⟩ | hold₂
      · rw [hk₁, hk₂]
      · exact absurd hnew (hfresh k₂ lock hold₂)
    · rcases hcases k₂ lock h₂ with ⟨-, hnew⟩ | hold₂
      · exact absurd hnew (hfresh k₁ lock hold₁)
      · exact h.apart k₁ k₂ lock hold₁ hold₂
  · rw [List.length_append, List.length_singleton]
    rcases hcases k' lock hlock with ⟨-, rfl⟩ | hlock
    · exact Nat.lt_succ_self _
    · exact Nat.lt_succ_of_lt (h.made k' lock hlock)
  · exact hkept _ lock (h.known j lock hlock)
  · rw [← h.held lock, List.getElem?_append]
    by_cases hlt : lock < r.held.length
    · rw [if_pos hlt]
    · rw [if_neg hlt, List.getElem?_eq_none (Nat.le_of_not_lt hlt)]
      cases lock - r.held.length <;> simp

/-- The lock was free. -/
theorem enter (h : Orderly key r visit) {lock : Nat} (hvisit : (visit i).own = none)
    (hfree : r.held[lock]? = some false) (hknown : r.table (key i) = some lock) (work : β) :
    Orderly key { r with held := r.held.set lock true } (Function.update visit i (.holding lock work)) := by
  have hnobody : ∀ j, (visit j).own ≠ some lock := fun j hj =>
    absurd ((h.held lock).mpr ⟨j, hj⟩) (by rw [hfree]; decide)
  have hlt : lock < r.held.length := h.made _ lock hknown
  have hown : ∀ j lock', (Function.update visit i (.holding lock work) j).own = some lock' →
      j = i ∧ lock' = lock ∨ j ≠ i ∧ (visit j).own = some lock' := by
    intro j lock' hj
    by_cases hji : j = i
    · rw [hji, Function.update_self] at hj
      exact .inl ⟨hji, (Option.some.inj hj).symm⟩
    · rw [Function.update_of_ne hji] at hj
      exact .inr ⟨hji, hj⟩
  refine ⟨h.apart, fun k lock' hk => ?_, fun j lock' hj => ?_, fun j j' lock' hj hj' => ?_, fun lock' => ?_⟩
  · rw [List.length_set]
    exact h.made k lock' hk
  · by_cases hji : j = i
    · subst hji
      rw [Function.update_self] at hj
      cases hj
      exact hknown
    · rw [Function.update_of_ne hji] at hj
      exact h.known j lock' hj
  · rcases hown j lock' hj with ⟨hji, hlock⟩ | ⟨-, hold⟩
    · rcases hown j' lock' hj' with ⟨hji', -⟩ | ⟨-, hold'⟩
      · rw [hji, hji']
      · exact absurd (hlock ▸ hold') (hnobody j')
    · rcases hown j' lock' hj' with ⟨-, hlock⟩ | ⟨-, hold'⟩
      · exact absurd (hlock ▸ hold) (hnobody j)
      · exact h.one j j' lock' hold hold'
  · by_cases hlock : lock' = lock
    · subst hlock
      rw [List.getElem?_set_self hlt]
      exact iff_of_true rfl ⟨i, by rw [Function.update_self]; rfl⟩
    · rw [List.getElem?_set_ne (Ne.symm hlock), h.held lock']
      constructor
      · rintro ⟨j, hj⟩
        have hji : j ≠ i := fun he => by rw [he, hvisit] at hj; cases hj
        exact ⟨j, by rw [Function.update_of_ne hji]; exact hj⟩
      · rintro ⟨j, hj⟩
        rcases hown j lock' hj with ⟨-, he⟩ | ⟨-, hj⟩
        · exact absurd he hlock
        · exact ⟨j, hj⟩

theorem leave (h : Orderly key r visit) {lock : Nat} (hvisit : (visit i).own = some lock) :
    Orderly key { r with held := r.held.set lock false } (Function.update visit i .done) := by
  have hlt : lock < r.held.length := h.made _ lock (h.known i lock (Visit.lock_of_own hvisit))
  have hown : ∀ j lock', (Function.update visit i .done j).own = some lock' →
      j ≠ i ∧ (visit j).own = some lock' := by
    intro j lock' hj
    by_cases hji : j = i
    · rw [hji, Function.update_self] at hj
      cases hj
    · rw [Function.update_of_ne hji] at hj
      exact ⟨hji, hj⟩
  refine ⟨h.apart, fun k lock' hk => ?_, fun j lock' hj => ?_, fun j j' lock' hj hj' => ?_, fun lock' => ?_⟩
  · rw [List.length_set]
    exact h.made k lock' hk
  · by_cases hji : j = i
    · rw [hji, Function.update_self] at hj
      cases hj
    · rw [Function.update_of_ne hji] at hj
      exact h.known j lock' hj
  · exact h.one j j' lock' (hown j lock' hj).2 (hown j' lock' hj').2
  · by_cases hlock : lock' = lock
    · subst hlock
      rw [List.getElem?_set_self hlt]
      refine iff_of_false (by decide) ?_
      rintro ⟨j, hj⟩
      obtain ⟨hji, hj⟩ := hown j lock' hj
      exact hji (h.one j i lock' hj hvisit)
    · rw [List.getElem?_set_ne (Ne.symm hlock), h.held lock']
      constructor
      · rintro ⟨j, hj⟩
        have hji : j ≠ i := by
          rintro rfl
          exact hlock (Option.some.inj (hj.symm.trans hvisit))
        exact ⟨j, by rw [Function.update_of_ne hji]; exact hj⟩
      · rintro ⟨j, hj⟩
        exact ⟨j, (hown j lock' hj).2⟩

/-- **Every move keeps the registry orderly.** -/
theorem move [DecidableEq κ] (h : Orderly key r visit) (hmove : Moves (key i) r (visit i) r' s) :
    Orderly key r' (Function.update visit i s) := by
  generalize hvisit : visit i = before at hmove
  cases hmove with
  | @found lock hfound =>
    refine h.revisit (by rw [hvisit]; rfl) fun lock' hlock => ?_
    cases hlock
    exact hfound
  | missed _ =>
    refine h.revisit (by rw [hvisit]; rfl) fun lock' hlock => ?_
    cases hlock
  | inserted =>
    rcases r.findOrInsert_cases (key i) with ⟨lock, hfound, hinsert⟩ | ⟨hnone, hinsert⟩
    · rw [hinsert]
      refine h.revisit (by rw [hvisit]; rfl) fun lock' hlock => ?_
      cases hlock
      exact hfound
    · rw [hinsert]
      refine (h.insert hnone).revisit (by rw [hvisit]; rfl) fun lock' hlock => ?_
      cases hlock
      exact Function.update_self ..
  | entered work hacquire =>
    obtain ⟨hfree, rfl⟩ := Registry.acquire_some hacquire
    exact h.enter (by rw [hvisit]; rfl) hfree (h.known i _ (by rw [hvisit]; rfl)) work
  | @worked lock work work' =>
    refine h.revisit (by rw [hvisit]; rfl) fun lock' hlock => ?_
    exact h.known i lock' (by rw [hvisit]; exact hlock)
  | left work => exact h.leave (by rw [hvisit]; rfl)

omit [DecidableEq ν] in
/-- **No two visitors of one key work at once.** -/
theorem exclusive (h : Orderly key r visit) {j : ν} {lock lock' : Nat} (hi : (visit i).own = some lock)
    (hj : (visit j).own = some lock') (hkey : key i = key j) : i = j := by
  have hki := h.known i lock (Visit.lock_of_own hi)
  have hkj := h.known j lock' (Visit.lock_of_own hj)
  rw [hkey] at hki
  cases hki.symm.trans hkj
  exact h.one i j lock hi hj

omit [DecidableEq ν] in
/-- The lock of a visitor that waits is free, or somebody holds it. -/
theorem free_or_held (h : Orderly key r visit) {lock : Nat} (hlock : (visit i).lock = some lock) :
    r.held[lock]? = some false ∨ ∃ j, (visit j).own = some lock := by
  have hlt : lock < r.held.length := h.made _ lock (h.known i lock hlock)
  cases hheld : r.held[lock] with
  | false => exact .inl (List.getElem?_eq_some_iff.mpr ⟨hlt, hheld⟩)
  | true => exact .inr ((h.held lock).mp (List.getElem?_eq_some_iff.mpr ⟨hlt, hheld⟩))

end Orderly

end KeyedLocks
