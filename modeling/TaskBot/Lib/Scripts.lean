import TaskBot.Lib.Effects

/-!
# Scripts

A computation on a state that may throw does one act after another.  What the acts
do is said on a view of the state, by a relation `Act d ok t t'`; an act that does
not go on (`ok = false`) ends the play.

    Performs Act view S h s   :=   from s, h plays one of the scripts of S

with one rule for each way to build a computation: a silent part leaves the view
alone, an act takes the head of the script.  `Played.within` reads a preorder off
the acts of a script.
-/

namespace Scripts

open Effects

variable {σ ε τ δ α β : Type}

/-- The acts are played in order, up to the first one that does not go on. -/
inductive Played (Act : δ → Bool → τ → τ → Prop) : List δ → Bool → τ → τ → Prop where
  | done (t : τ) : Played Act [] true t t
  | stop {d : δ} {t t' : τ} (ds : List δ) (h : Act d false t t') : Played Act (d :: ds) false t t'
  | next {d : δ} {ds : List δ} {ok : Bool} {t t₁ t' : τ} (h : Act d true t t₁)
      (hrest : Played Act ds ok t₁ t') : Played Act (d :: ds) ok t t'

section

variable {Act : δ → Bool → τ → τ → Prop} {ds : List δ} {d : δ} {ok : Bool} {t t' : τ}

theorem Played.cons_iff : Played Act (d :: ds) ok t t' ↔
    (ok = false ∧ Act d false t t') ∨ ∃ t₁, Act d true t t₁ ∧ Played Act ds ok t₁ t' := by
  constructor
  · intro h
    cases h with
    | stop _ h => exact .inl ⟨rfl, h⟩
    | next h hrest => exact .inr ⟨_, h, hrest⟩
  · rintro (⟨rfl, h⟩ | ⟨t₁, h, hrest⟩)
    · exact .stop ds h
    · exact .next h hrest

theorem Played.nil_iff : Played Act [] ok t t' ↔ ok = true ∧ t' = t := by
  constructor
  · intro h
    cases h
    exact ⟨rfl, rfl⟩
  · rintro ⟨rfl, rfl⟩
    exact .done _

theorem Played.singleton_iff : Played Act [d] ok t t' ↔ Act d ok t t' := by
  rw [Played.cons_iff]
  constructor
  · rintro (⟨rfl, h⟩ | ⟨t₁, h, hrest⟩)
    · exact h
    · obtain ⟨rfl, rfl⟩ := Played.nil_iff.mp hrest
      exact h
  · intro h
    cases ok with
    | true => exact .inr ⟨t', h, .done t'⟩
    | false => exact .inl ⟨rfl, h⟩

/-- **What every act keeps within a preorder, a script does.** -/
theorem Played.within {R : τ → τ → Prop} [Std.Refl R] [IsTrans τ R] (h : Played Act ds ok t t')
    (hacts : ∀ d ∈ ds, ∀ ok t t', Act d ok t t' → R t t') : R t t' := by
  induction h with
  | done t => exact Std.Refl.refl t
  | stop ds h => exact hacts _ List.mem_cons_self _ _ _ h
  | next h _ ih =>
    exact IsTrans.trans _ _ _ (hacts _ List.mem_cons_self _ _ _ h)
      (ih fun d hd => hacts d (List.mem_cons_of_mem _ hd))

end

/-- Started in `s`, the computation plays one of the scripts, whatever it answers. -/
def Performs (Act : δ → Bool → τ → τ → Prop) (view : σ → τ) (S : List δ → Prop)
    (h : ExceptT ε (StateM σ) α) (s : σ) : Prop :=
  ∃ ds, S ds ∧ Played Act ds (exec h s).1.isOk (view s) (view (exec h s).2)

/-- The computation is this act. -/
def Does (Act : δ → Bool → τ → τ → Prop) (view : σ → τ) (d : δ) (h : ExceptT ε (StateM σ) α) (s : σ) :
    Prop :=
  Act d (exec h s).1.isOk (view s) (view (exec h s).2)

/-- The computation is this act, and answers. -/
def Always (Act : δ → Bool → τ → τ → Prop) (view : σ → τ) (d : δ) (h : ExceptT ε (StateM σ) α) : Prop :=
  ∀ s, ∃ a s', exec h s = (.ok a, s') ∧ Act d true (view s) (view s')

/-- The computation answers, and leaves the view alone. -/
def Silent (view : σ → τ) (h : ExceptT ε (StateM σ) α) : Prop :=
  ∀ s, ∃ a s', exec h s = (.ok a, s') ∧ view s' = view s

namespace Silent

variable {view : σ → τ} {h : ExceptT ε (StateM σ) α} {f : α → ExceptT ε (StateM σ) β}

theorem pure (a : α) : Silent view (Pure.pure a : ExceptT ε (StateM σ) α) := fun s => ⟨a, s, rfl, rfl⟩

theorem bind (hh : Silent view h) (hf : ∀ a, Silent view (f a)) : Silent view (h >>= f) := by
  intro s
  obtain ⟨a, s₁, hrun, hview⟩ := hh s
  obtain ⟨b, s₂, hrest, hview'⟩ := hf a s₁
  exact ⟨b, s₂, (exec_bind_ok hrun).trans hrest, hview'.trans hview⟩

end Silent

namespace Performs

variable {Act : δ → Bool → τ → τ → Prop} {view : σ → τ} {S S' : List δ → Prop} {s s' : σ} {d : δ}
  {h : ExceptT ε (StateM σ) α} {f : α → ExceptT ε (StateM σ) β}

theorem mono (hh : Performs Act view S h s) (hS : ∀ ds, S ds → S' ds) : Performs Act view S' h s := by
  obtain ⟨ds, hds, hplayed⟩ := hh
  exact ⟨ds, hS ds hds, hplayed⟩

theorem pure (a : α) (hS : S []) : Performs Act view S (Pure.pure a : ExceptT ε (StateM σ) α) s :=
  ⟨[], hS, .done _⟩

theorem ok_bind {a : α} (hh : exec h s = (.ok a, s')) (hview : view s' = view s)
    (hf : Performs Act view S (f a) s') : Performs Act view S (h >>= f) s := by
  unfold Performs at hf ⊢
  rw [exec_bind_ok hh, ← hview]
  exact hf

theorem silent_bind (hh : Silent view h)
    (hf : ∀ a s', exec h s = (.ok a, s') → view s' = view s → Performs Act view S (f a) s') :
    Performs Act view S (h >>= f) s := by
  obtain ⟨a, s', hrun, hview⟩ := hh s
  exact ok_bind hrun hview (hf a s' hrun hview)

theorem act (hh : Does Act view d h s) (hS : S [d]) : Performs Act view S h s := by
  refine ⟨[d], hS, ?_⟩
  unfold Does at hh
  cases hok : (exec h s).1.isOk with
  | true =>
    rw [hok] at hh
    exact .next hh (.done _)
  | false =>
    rw [hok] at hh
    exact .stop [] hh

/-- **An act takes the head of the script.** -/
theorem act_bind (hh : Does Act view d h s) (hS : ∃ ds, S (d :: ds))
    (hf : ∀ a s', exec h s = (.ok a, s') → Performs Act view (fun ds => S (d :: ds)) (f a) s') :
    Performs Act view S (h >>= f) s := by
  unfold Does at hh
  cases hrun : exec h s with
  | mk r s' =>
    rw [hrun] at hh
    cases r with
    | ok a =>
      obtain ⟨ds, hds, hplayed⟩ := hf a s' hrun
      refine ⟨d :: ds, hds, ?_⟩
      rw [exec_bind_ok hrun]
      exact .next hh hplayed
    | error e =>
      obtain ⟨ds, hds⟩ := hS
      refine ⟨d :: ds, hds, ?_⟩
      rw [exec_bind_error hrun]
      exact .stop ds hh

/-- An act that always answers. -/
theorem always_bind (hh : Always Act view d h)
    (hf : ∀ a s', exec h s = (.ok a, s') → Performs Act view (fun ds => S (d :: ds)) (f a) s') :
    Performs Act view S (h >>= f) s := by
  obtain ⟨a, s', hrun, hact⟩ := hh s
  obtain ⟨ds, hds, hplayed⟩ := hf a s' hrun
  refine ⟨d :: ds, hds, ?_⟩
  rw [exec_bind_ok hrun]
  exact .next hact hplayed

/-- What either ends the computation or has left the view alone. -/
theorem stop_or_go (hh : Performs Act view S h s)
    (hf : ∀ a s', exec h s = (.ok a, s') →
      (∃ b, f a = Pure.pure b) ∨ (view s' = view s ∧ Performs Act view S (f a) s')) :
    Performs Act view S (h >>= f) s := by
  cases hrun : exec h s with
  | mk r s' =>
    unfold Performs at hh
    rw [hrun] at hh
    cases r with
    | error e =>
      unfold Performs
      rw [exec_bind_error hrun]
      exact hh
    | ok a =>
      rcases hf a s' hrun with ⟨b, hb⟩ | ⟨hview, hrest⟩
      · unfold Performs
        rw [exec_bind_ok hrun, hb]
        exact hh
      · exact ok_bind hrun hview hrest

end Performs

end Scripts
