import TaskBot.Lib.RelyGuarantee

/-!
# Programs on two stores

What a program tells of its store is what two stores must differ in for its answers to differ.  `Related` compares
two programs on stores that are related, the same calls failing on both sides.

* `Related.bind`, `Related.read`: the rules; a call that reads may answer differently, as long as what goes on
  with the answers is related again;
* `Safe.of_within_from`: calls that move the store by `K` from where the precondition holds;
* `Pool.exec_within`: what such programs do together, in any order, is within the rely.
-/

namespace Calls

variable {ι σ ε α β γ δ κ : Type}

/-- Both answer, related values, or both fail, with related errors. -/
inductive Agree (E : ε → ε → Prop) (V : α → β → Prop) : Except ε α → Except ε β → Prop where
  | ok {a : α} {b : β} (h : V a b) : Agree E V (.ok a) (.ok b)
  | error {e e' : ε} (h : E e e') : Agree E V (.error e) (.error e')

section

variable {E : ε → ε → Prop}

theorem Agree.of_eq {r r' : Except ε α} {V : α → α → Prop} (hE : ∀ e, E e e) (hV : ∀ a, V a a) (h : r = r') :
    Agree E V r r' := by
  subst h
  cases r with
  | ok a => exact .ok (hV a)
  | error e => exact .error (hE e)

theorem Agree.eq {r r' : Except ε α} (h : Agree Eq Eq r r') : r = r' := by
  cases h with
  | ok h => rw [h]
  | error h => rw [h]

end

namespace Prog

/-- On related stores, the same calls failing, the answers agree and the stores stay related. -/
def Related (R : σ → σ → Prop) (E : ε → ε → Prop) (V : α → β → Prop) (p : Prog ι σ ε α) (p' : Prog ι σ ε β) : Prop :=
  ∀ plan s s', R s s' → Agree E V (p.run plan s).1 (p'.run plan s').1 ∧ R (p.run plan s).2 (p'.run plan s').2

namespace Related

variable {R : σ → σ → Prop} {E : ε → ε → Prop} {V : α → β → Prop} {V' : γ → δ → Prop}

theorem pure {a : α} {b : β} (h : V a b) : Related (ι := ι) R E V (Pure.pure a) (Pure.pure b) :=
  fun _ _ _ hs => ⟨.ok h, hs⟩

theorem lift {r : Except ε α} {r' : Except ε β} (h : Agree E V r r') :
    Related (ι := ι) R E V (Prog.lift r) (Prog.lift r') := fun _ _ _ hs => ⟨h, hs⟩

/-- A statement that reads: on both sides it is answered, or it fails. -/
theorem read {site : ι} {ans : σ → Except ε α} {ans' : σ → Except ε β} (hE : ∀ e, E e e)
    (h : ∀ s s', R s s' → Agree E V (ans s) (ans' s')) :
    Related R E V (Prog.perform site fun s => (ans s, s)) (Prog.perform site fun s => (ans' s, s)) := by
  intro plan s s' hs
  rw [run_perform, run_perform]
  cases plan site with
  | none => exact ⟨h s s' hs, hs⟩
  | before e => exact ⟨.error (hE e), hs⟩
  | after e => exact ⟨.error (hE e), hs⟩

/-- **Sequence**: related answers go on in related ways. -/
theorem bind {p : Prog ι σ ε α} {p' : Prog ι σ ε β} {f : α → Prog ι σ ε γ} {f' : β → Prog ι σ ε δ}
    (hp : Related R E V p p') (hf : ∀ a b, V a b → Related R E V' (f a) (f' b)) :
    Related R E V' (p >>= f) (p' >>= f') := by
  intro plan s s' hs
  obtain ⟨hagree, hstores⟩ := hp plan s s' hs
  cases hrun : p.run plan s with
  | mk r t =>
    cases hrun' : p'.run plan s' with
    | mk r' t' =>
      rw [hrun, hrun'] at hagree hstores
      cases hagree with
      | ok h =>
        rw [run_bind_ok plan hrun, run_bind_ok plan hrun']
        exact hf _ _ h plan t t' hstores
      | error h =>
        rw [run_bind_error plan hrun, run_bind_error plan hrun']
        exact ⟨.error h, hstores⟩

/-- The same program on both sides, with answers that are the same. -/
theorem bind_same {p : Prog ι σ ε α} {f : α → Prog ι σ ε γ} {f' : α → Prog ι σ ε δ} (hp : Related R E Eq p p)
    (hf : ∀ a, Related R E V' (f a) (f' a)) : Related R E V' (p >>= f) (p >>= f') :=
  hp.bind fun a _ h => h ▸ hf a

end Related

end Prog

/-! ## Staying out of sight -/

/-- Calls that are within `K`, which is the guarantee where the precondition holds. -/
theorem Safe.of_within_from {R G K : σ → σ → Prop} {P : σ → Prop} {p : Prog ι σ ε α} (hp : p.Within K)
    (hrefl : ∀ s, G s s) (hKG : ∀ s s', P s → K s s' → G s s') (hGR : ∀ s s', G s s' → R s s')
    (hst : Stable R P) : Safe R G P p fun _ => P := by
  induction hp with
  | ret r => exact .ret fun s hs => hs
  | @call _ site body k hbody _ ih =>
    have hcall : Safe R G P (Prog.perform site body) fun _ => P := by
      refine .perform (fun _ => hst) fun s hs f => ?_
      have hg : G s (f.apply body s).2 := by
        rcases f.apply_store body s with h | h
        · rw [h]
          exact hrefl s
        · rw [h]
          exact hKG _ _ hs (hbody s)
      exact ⟨hg, hst _ _ (hGR _ _ hg) hs⟩
    -- a call goes on with its answer, an error too
    have hsplit : Prog.call site body k = (Prog.perform site body).attempt >>= k := rfl
    rw [hsplit]
    have hanswered : Safe R G P (Prog.perform site body).attempt fun _ => P := hcall.attempt fun _ _ h => h
    exact hanswered.bind ih fun _ _ h => h

/-- **Together** the threads take the store where the rely takes it. -/
theorem Pool.exec_within {R : σ → σ → Prop} {G : κ → σ → σ → Prop} {pool : Pool ι σ ε κ α}
    (h : pool.Guarded R G) (hGR : ∀ who s s', G who s s' → R s s') (hrefl : ∀ s, R s s)
    (htrans : ∀ s s' s'', R s s' → R s' s'' → R s s'') (sched : List (Nat × Fault ε)) :
    R pool.store (pool.exec sched).store := by
  have hacts := Pool.acts_guarantee hGR h sched
  exact (Pool.acts_keep (I := R pool.store) sched (hrefl _) fun a ha hbefore =>
    htrans _ _ _ hbefore (hGR _ _ _ (hacts a ha))).2

end Calls
