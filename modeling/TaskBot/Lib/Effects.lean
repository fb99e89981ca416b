import Mathlib.Order.Defs.Unbundled

/-!
# Computations on a state that may throw

`exec h s` is the answer of a computation and the state it leaves.  A computation
that throws keeps what it has done so far, so what it does to the state is stated
for every answer:

    Moves K h s   :=   K s (exec h s).2

with one rule for each way to build a computation.  In `Moves.bind` the rest may use
what the first part has answered and left.
-/

namespace Effects

variable {σ ε α β : Type} {K K' : σ → σ → Prop} {s s' : σ}

/-- The answer, and the state the computation leaves. -/
def exec (h : ExceptT ε (StateM σ) α) (s : σ) : Except ε α × σ := StateT.run (ExceptT.run h) s

section

variable {h : ExceptT ε (StateM σ) α} {f : α → ExceptT ε (StateM σ) β}

theorem exec_bind (h : ExceptT ε (StateM σ) α) (f : α → ExceptT ε (StateM σ) β) (s : σ) :
    exec (h >>= f) s =
      match exec h s with
      | (.ok a, s') => exec (f a) s'
      | (.error e, s') => (.error e, s') := by
  unfold exec
  rw [ExceptT.run_bind, StateT.run_bind]
  cases StateT.run (ExceptT.run h) s with
  | mk r s' => cases r <;> rfl

theorem exec_bind_ok {a : α} (hh : exec h s = (.ok a, s')) : exec (h >>= f) s = exec (f a) s' := by
  rw [exec_bind, hh]

theorem exec_bind_error {e : ε} (hh : exec h s = (.error e, s')) :
    exec (h >>= f) s = (.error e, s') := by
  rw [exec_bind, hh]

/-- A sequence that answers has gone through both parts. -/
theorem exec_bind_eq_ok {b : β} (hb : exec (h >>= f) s = (.ok b, s')) :
    ∃ a s₁, exec h s = (.ok a, s₁) ∧ exec (f a) s₁ = (.ok b, s') := by
  rw [exec_bind] at hb
  cases hh : exec h s with
  | mk r s₁ =>
    rw [hh] at hb
    cases r with
    | ok a => exact ⟨a, s₁, rfl, hb⟩
    | error e => cases hb

/-- The answer as a value, an error included. -/
def attempt (h : ExceptT ε (StateM σ) α) : ExceptT ε (StateM σ) (Except ε α) :=
  ExceptT.mk do
    let r ← ExceptT.run h
    pure (.ok r)

@[simp] theorem exec_attempt (h : ExceptT ε (StateM σ) α) (s : σ) :
    exec (attempt h) s = (.ok (exec h s).1, (exec h s).2) := rfl

@[simp] theorem exec_pure (a : α) (s : σ) :
    exec (pure a : ExceptT ε (StateM σ) α) s = (.ok a, s) := rfl

@[simp] theorem exec_get (s : σ) : exec (get : ExceptT ε (StateM σ) σ) s = (.ok s, s) := rfl

@[simp] theorem exec_modify (g : σ → σ) (s : σ) :
    exec (modify g : ExceptT ε (StateM σ) PUnit) s = (.ok ⟨⟩, g s) := rfl

end

/-- Started in `s`, the computation moves the state within `K`, whatever it answers. -/
def Moves (K : σ → σ → Prop) (h : ExceptT ε (StateM σ) α) (s : σ) : Prop := K s (exec h s).2

namespace Moves

variable {h : ExceptT ε (StateM σ) α} {f : α → ExceptT ε (StateM σ) β}

theorem pure [Std.Refl K] (a : α) : Moves K (Pure.pure a : ExceptT ε (StateM σ) α) s :=
  Std.Refl.refl s

theorem throw [Std.Refl K] (e : ε) : Moves K (throw e : ExceptT ε (StateM σ) α) s :=
  Std.Refl.refl s

theorem of_modify {g : σ → σ} (hg : K s (g s)) :
    Moves K (modify g : ExceptT ε (StateM σ) PUnit) s := hg

theorem attempt (hh : Moves K h s) : Moves K (Effects.attempt h) s := hh

/-- **The sequence rule.** -/
theorem bind [IsTrans σ K] (hh : Moves K h s)
    (hf : ∀ a s', exec h s = (.ok a, s') → Moves K (f a) s') : Moves K (h >>= f) s := by
  unfold Moves at hh ⊢
  rw [exec_bind]
  cases hr : exec h s with
  | mk r s' =>
    rw [hr] at hh
    cases r with
    | ok a => exact IsTrans.trans _ _ _ hh (hf a s' hr)
    | error e => exact hh

/-- A part whose answer and state are known. -/
theorem ok_bind [IsTrans σ K] {a : α} (hh : exec h s = (.ok a, s')) (hs : K s s')
    (hf : Moves K (f a) s') : Moves K (h >>= f) s := by
  unfold Moves at hf ⊢
  rw [exec_bind_ok hh]
  exact IsTrans.trans _ _ _ hs hf

/-- A part that reads. -/
theorem read_bind {a : α} (hh : exec h s = (.ok a, s)) (hf : Moves K (f a) s) :
    Moves K (h >>= f) s := by
  unfold Moves at hf ⊢
  rw [exec_bind_ok hh]
  exact hf

theorem mono (hh : Moves K h s) (hK : K s (exec h s).2 → K' s (exec h s).2) : Moves K' h s := hK hh

end Moves

end Effects
