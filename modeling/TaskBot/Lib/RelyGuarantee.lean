import Mathlib.Data.List.Chain
import TaskBot.Lib.Calls

/-!
# Rely and guarantee for interleaved programs

A `Pool` holds one store and any number of threads; a schedule picks, step by
step, the thread that makes its next call and the fault of that call.  The
environment of a thread is every other thread, so what a thread knows about the
store must be *stable*: kept by every step the others may make (the *rely*
relation `R`).  In return every call of the thread stays within its *guarantee*
`G`.

* `Safe R G P p Q`: from a store with `P`, every call of `p` is within `G`, and
  `p` ends with `Q`, whatever `R`-steps happen between two calls of `p`;
* `Safe.bind`, `Safe.perform`, `Safe.attempt`, `Safe.of_within`: the rules;
* `Pool.acts_guarantee`: in a pool of safe threads, every step of every schedule
  is within the guarantee of the thread that makes it;
* `Pool.Heading.ended`: a thread that has ended has its postcondition;
* `Pool.acts_keep_iff`: an invariant holds throughout exactly if every act keeps it;
* `Pool.commits_chain`: when every step either keeps a view of the store or makes
  one `next` move of it, the moves of a schedule form a single chain;
* `Pool.acts_guaranteeIf`: the guarantee in the schedules whose calls all meet a
  condition (`SafeIf`);
* `Pool.Filling.ended`: threads that each set a cell of their own once have set them
  all when they have ended, whatever the order of their calls.
-/

namespace Calls

variable {ι σ ε α β κ : Type}

/-- `P` survives every step of `R`. -/
def Stable (R : σ → σ → Prop) (P : σ → Prop) : Prop := ∀ s s', R s s' → P s → P s'

theorem Stable.and {R : σ → σ → Prop} {P P' : σ → Prop} (h : Stable R P) (h' : Stable R P') :
    Stable R fun s => P s ∧ P' s :=
  fun s s' hr hp => ⟨h s s' hr hp.1, h' s s' hr hp.2⟩

theorem Stable.const (R : σ → σ → Prop) (p : Prop) : Stable R fun _ => p := fun _ _ _ hp => hp

/-- From a store with `P`, every call of the program is within `G`, and the
program ends with `Q`, under any `R`-steps between its calls. -/
def Safe (R G : σ → σ → Prop) (P : σ → Prop) : Prog ι σ ε α → (Except ε α → σ → Prop) → Prop
  | .ret r, Q => ∀ s, P s → Q r s
  | .call _ body k, Q => ∀ s, P s → ∀ f : Fault ε, G s (f.apply body s).2 ∧
      ∃ P', Stable R P' ∧ P' (f.apply body s).2 ∧ Safe R G P' (k (f.apply body s).1) Q

namespace Safe

variable {R G : σ → σ → Prop} {P P' : σ → Prop} {Q Q' : Except ε α → σ → Prop}

/-! ## Rules -/

theorem weaken {p : Prog ι σ ε α} (h : Safe R G P p Q) (hp : ∀ s, P' s → P s)
    (hq : ∀ r s, Q r s → Q' r s) : Safe R G P' p Q' := by
  induction p generalizing P P' with
  | ret r => exact fun s hs => hq r s (h s (hp s hs))
  | call site body k ih =>
    intro s hs f
    obtain ⟨hg, P₁, hst, hp₁, hk⟩ := h s (hp s hs) f
    exact ⟨hg, P₁, hst, hp₁, ih _ hk (fun _ h => h)⟩

theorem ret {r : Except ε α} (h : ∀ s, P s → Q r s) : Safe (ι := ι) R G P (.ret r) Q := h

/-- A part of the precondition that does not look at the store is a hypothesis. -/
theorem of_and_const {c : Prop} {p : Prog ι σ ε α} (h : c → Safe R G P p Q) :
    Safe R G (fun s => c ∧ P s) p Q := by
  by_cases hc : c
  · exact (h hc).weaken (fun _ hs => hs.2) fun _ _ hq => hq
  · cases p with
    | ret r => exact fun s hs => absurd hs.1 hc
    | call site body k => exact fun s hs => absurd hs.1 hc

theorem pure {a : α} (h : ∀ s, P s → Q (.ok a) s) : Safe (ι := ι) R G P (Pure.pure a) Q := h

theorem fail {e : ε} (h : ∀ s, P s → Q (.error e) s) : Safe (ι := ι) R G P (Prog.fail e) Q := h

/-- **Sequence.** -/
theorem bind {p : Prog ι σ ε α} {f : α → Prog ι σ ε β} {Q' : Except ε β → σ → Prop}
    (hp : Safe R G P p Q) (hf : ∀ a, Safe R G (Q (.ok a)) (f a) Q')
    (he : ∀ e s, Q (.error e) s → Q' (.error e) s) : Safe R G P (p >>= f) Q' := by
  change Safe R G P (p.bind f) Q'
  induction p generalizing P with
  | ret r =>
    cases r with
    | ok a => exact (hf a).weaken hp fun _ _ h => h
    | error e => exact fun s hs => he e s (hp s hs)
  | call site body k ih =>
    intro s hs g
    obtain ⟨hg, P₁, hst, hp₁, hk⟩ := hp s hs g
    exact ⟨hg, P₁, hst, hp₁, ih _ hk⟩

/-- A pure fallible computation first. -/
theorem lift_bind {r : Except ε β} {f : β → Prog ι σ ε α}
    (hok : ∀ b, r = .ok b → Safe R G P (f b) Q) (herr : ∀ e s, r = .error e → P s → Q (.error e) s) :
    Safe R G P (Prog.lift r >>= f) Q := by
  cases r with
  | ok b => exact hok b rfl
  | error e => exact fun s hs => herr e s rfl hs

/-- **One call**: its step is within the guarantee, and its answer tells a stable fact. -/
theorem perform {site : ι} {body : σ → Except ε α × σ}
    (hst : ∀ r, Stable R (Q r))
    (h : ∀ s, P s → ∀ f : Fault ε, G s (f.apply body s).2 ∧ Q (f.apply body s).1 (f.apply body s).2) :
    Safe R G P (Prog.perform site body) Q := by
  intro s hs f
  obtain ⟨hg, hq⟩ := h s hs f
  exact ⟨hg, Q (f.apply body s).1, hst _, hq, fun _ h => h⟩

/-- A call that only reads: the guarantee is asked of the unchanged store. -/
theorem read {site : ι} {ans : σ → Except ε α} (hg : ∀ s, G s s) (hst : ∀ r, Stable R (Q r))
    (hok : ∀ s, P s → Q (ans s) s) (herr : ∀ e s, P s → Q (.error e) s) :
    Safe R G P (Prog.perform site fun s => (ans s, s)) Q := by
  refine perform hst fun s hs f => ?_
  cases f with
  | none => exact ⟨hg s, hok s hs⟩
  | before e => exact ⟨hg s, herr e s hs⟩
  | after e => exact ⟨hg s, herr e s hs⟩

theorem attempt {p : Prog ι σ ε α} {Q' : Except ε (Except ε α) → σ → Prop}
    (hp : Safe R G P p Q) (hq : ∀ r s, Q r s → Q' (.ok r) s) : Safe R G P p.attempt Q' := by
  induction p generalizing P with
  | ret r => exact fun s hs => hq r s (hp s hs)
  | call site body k ih =>
    intro s hs f
    obtain ⟨hg, P₁, hst, hp₁, hk⟩ := hp s hs f
    exact ⟨hg, P₁, hst, hp₁, ih _ hk⟩

/-- A program whose calls are all within the guarantee keeps every stable fact. -/
theorem of_within {K : σ → σ → Prop} {p : Prog ι σ ε α} (hp : p.Within K) (hrefl : ∀ s, G s s)
    (hKG : ∀ s s', K s s' → G s s') (hGR : ∀ s s', G s s' → R s s') (hst : Stable R P) :
    Safe R G P p fun _ => P := by
  induction hp with
  | ret r => exact fun s hs => hs
  | @call _ site body k hbody _ ih =>
    intro s hs f
    have hg : G s (f.apply body s).2 := by
      rcases f.apply_store body s with h | h
      · rw [h]; exact hrefl s
      · rw [h]; exact hKG _ _ (hbody s)
    exact ⟨hg, P, hst, hst _ _ (hGR _ _ hg) hs, ih _⟩

/-- A program that is safe and whose calls are all within `K` is safe with both as its guarantee, under any
rely that is stronger. -/
theorem and_within {R' K : σ → σ → Prop} {p : Prog ι σ ε α} (h : Safe R G P p Q) (hp : p.Within K)
    (hR : ∀ s s', R' s s' → R s s') (hK : ∀ s, K s s) :
    Safe R' (fun s s' => G s s' ∧ K s s') P p Q := by
  induction hp generalizing P with
  | ret r => exact h
  | @call _ site body k hbody _ ih =>
    intro s hs f
    obtain ⟨hg, P₁, hst, hp₁, hk⟩ := h s hs f
    refine ⟨⟨hg, ?_⟩, P₁, fun s s' hr => hst s s' (hR s s' hr), hp₁, ih _ hk⟩
    rcases f.apply_store body s with hstore | hstore
    · rw [hstore]
      exact hK s
    · rw [hstore]
      exact hbody s

/-- The guarantee may be weakened. -/
theorem mono {G' : σ → σ → Prop} {p : Prog ι σ ε α} (h : Safe R G P p Q) (hG : ∀ s s', G s s' → G' s s') :
    Safe R G' P p Q := by
  induction p generalizing P with
  | ret r => exact h
  | call site body k ih =>
    intro s hs f
    obtain ⟨hg, P₁, hst, hp₁, hk⟩ := h s hs f
    exact ⟨hG _ _ hg, P₁, hst, hp₁, ih _ hk⟩

/-- Running alone is one of the interleavings. -/
theorem run {p : Prog ι σ ε α} (h : Safe R G P p Q) (plan : ι → Fault ε) {s : σ} (hs : P s) :
    Q (p.run plan s).1 (p.run plan s).2 := by
  induction p generalizing P s with
  | ret r => exact h s hs
  | call site body k ih =>
    obtain ⟨-, P₁, -, hp₁, hk⟩ := h s hs (plan site)
    exact ih _ hk hp₁

end Safe

/-! ## Safety under a condition on the calls -/

/-- As `Safe`, when every call meets `C` at its site, fault and store. -/
def SafeIf (C : ι → Fault ε → σ → Prop) (R G : σ → σ → Prop) (P : σ → Prop) :
    Prog ι σ ε α → (Except ε α → σ → Prop) → Prop
  | .ret r, Q => ∀ s, P s → Q r s
  | .call site body k, Q => ∀ s, P s → ∀ f : Fault ε, C site f s → G s (f.apply body s).2 ∧
      ∃ P', Stable R P' ∧ P' (f.apply body s).2 ∧ SafeIf C R G P' (k (f.apply body s).1) Q

namespace SafeIf

variable {C : ι → Fault ε → σ → Prop} {R G G' : σ → σ → Prop} {P P' : σ → Prop}
variable {Q Q' : Except ε α → σ → Prop}

theorem ret {r : Except ε α} (h : ∀ s, P s → Q r s) : SafeIf C R G P (.ret r) Q := h

/-- What is safe is safe under any condition, for a weaker guarantee too. -/
theorem of_safe {p : Prog ι σ ε α} (h : Safe R G P p Q) (hG : ∀ s s', G s s' → G' s s') :
    SafeIf C R G' P p Q := by
  induction p generalizing P with
  | ret r => exact h
  | call site body k ih =>
    intro s hs f _
    obtain ⟨hg, P₁, hst, hp₁, hk⟩ := h s hs f
    exact ⟨hG _ _ hg, P₁, hst, hp₁, ih _ hk⟩

theorem weaken {p : Prog ι σ ε α} (h : SafeIf C R G P p Q) (hp : ∀ s, P' s → P s)
    (hq : ∀ r s, Q r s → Q' r s) : SafeIf C R G P' p Q' := by
  induction p generalizing P P' with
  | ret r => exact fun s hs => hq r s (h s (hp s hs))
  | call site body k ih =>
    intro s hs f hf
    obtain ⟨hg, P₁, hst, hp₁, hk⟩ := h s (hp s hs) f hf
    exact ⟨hg, P₁, hst, hp₁, ih _ hk (fun _ h => h)⟩

theorem of_and_const {c : Prop} {p : Prog ι σ ε α} (h : c → SafeIf C R G P p Q) :
    SafeIf C R G (fun s => c ∧ P s) p Q := by
  by_cases hc : c
  · exact (h hc).weaken (fun _ hs => hs.2) fun _ _ hq => hq
  · cases p with
    | ret r => exact fun s hs => absurd hs.1 hc
    | call site body k => exact fun s hs => absurd hs.1 hc

theorem bind {p : Prog ι σ ε α} {f : α → Prog ι σ ε β} {Q' : Except ε β → σ → Prop}
    (hp : SafeIf C R G P p Q) (hf : ∀ a, SafeIf C R G (Q (.ok a)) (f a) Q')
    (he : ∀ e s, Q (.error e) s → Q' (.error e) s) : SafeIf C R G P (p >>= f) Q' := by
  change SafeIf C R G P (p.bind f) Q'
  induction p generalizing P with
  | ret r =>
    cases r with
    | ok a => exact (hf a).weaken hp fun _ _ h => h
    | error e => exact fun s hs => he e s (hp s hs)
  | call site body k ih =>
    intro s hs g hg
    obtain ⟨hguar, P₁, hst, hp₁, hk⟩ := hp s hs g hg
    exact ⟨hguar, P₁, hst, hp₁, ih _ hk⟩

/-- **One call** that meets the condition. -/
theorem perform {site : ι} {body : σ → Except ε α × σ} (hst : ∀ r, Stable R (Q r))
    (h : ∀ s, P s → ∀ f : Fault ε, C site f s →
      G s (f.apply body s).2 ∧ Q (f.apply body s).1 (f.apply body s).2) :
    SafeIf C R G P (Prog.perform site body) Q := by
  intro s hs f hf
  obtain ⟨hg, hq⟩ := h s hs f hf
  exact ⟨hg, Q (f.apply body s).1, hst _, hq, fun _ h => h⟩

/-- A call that only reads: its answer may use the condition. -/
theorem read {site : ι} {ans : σ → Except ε α} (hg : ∀ s, G s s) (hst : ∀ r, Stable R (Q r))
    (hok : ∀ s, P s → C site .none s → Q (ans s) s) (herr : ∀ e s, P s → Q (.error e) s) :
    SafeIf C R G P (Prog.perform site fun s => (ans s, s)) Q := by
  intro s hs f hf
  cases f with
  | none => exact ⟨hg s, Q (ans s), hst _, hok s hs hf, fun _ h => h⟩
  | before e => exact ⟨hg s, Q (.error e), hst _, herr e s hs, fun _ h => h⟩
  | after e => exact ⟨hg s, Q (.error e), hst _, herr e s hs, fun _ h => h⟩

end SafeIf

/-! ## Pools -/

/-- Threads over one store; `κ` labels who runs a thread. -/
structure Pool (ι σ ε κ α : Type) where
  store : σ
  threads : List (κ × Prog ι σ ε α)

/-- One step that touched the store: who made it, the store before and after. -/
structure Act (σ κ : Type) where
  who : κ
  before : σ
  after : σ

namespace Pool

/-- The `i`-th thread makes its next call. -/
def step (pool : Pool ι σ ε κ α) (i : Nat) (f : Fault ε) : Pool ι σ ε κ α :=
  match pool.threads[i]? with
  | some (who, .call _ body k) =>
      let o := f.apply body pool.store
      ⟨o.2, pool.threads.set i (who, k o.1)⟩
  | _ => pool

/-- The acts of a step: none when the thread has ended or does not exist. -/
def act (pool : Pool ι σ ε κ α) (i : Nat) (f : Fault ε) : List (Act σ κ) :=
  match pool.threads[i]? with
  | some (who, .call _ _ _) => [⟨who, pool.store, (pool.step i f).store⟩]
  | _ => []

/-- A step is one act, or nothing happens. -/
theorem act_cases (pool : Pool ι σ ε κ α) (i : Nat) (f : Fault ε) :
    (∃ who, pool.act i f = [⟨who, pool.store, (pool.step i f).store⟩]) ∨
      (pool.act i f = [] ∧ pool.step i f = pool) := by
  unfold act step
  match pool.threads[i]? with
  | some (who, .call _ _ _) => exact .inl ⟨who, rfl⟩
  | some (_, .ret _) => exact .inr ⟨rfl, rfl⟩
  | none => exact .inr ⟨rfl, rfl⟩

def exec (pool : Pool ι σ ε κ α) : List (Nat × Fault ε) → Pool ι σ ε κ α
  | [] => pool
  | (i, f) :: sched => (pool.step i f).exec sched

/-- The acts of a schedule, in order. -/
def acts (pool : Pool ι σ ε κ α) : List (Nat × Fault ε) → List (Act σ κ)
  | [] => []
  | (i, f) :: sched => pool.act i f ++ (pool.step i f).acts sched

/-- Every thread still has a stable fact from which it is safe. -/
def Guarded (R : σ → σ → Prop) (G : κ → σ → σ → Prop) (pool : Pool ι σ ε κ α) : Prop :=
  ∀ t ∈ pool.threads, ∃ P, Stable R P ∧ P pool.store ∧
    Safe R (G t.1) P t.2 fun _ _ => True

variable {R : σ → σ → Prop} {G : κ → σ → σ → Prop}

theorem step_guarded (hGR : ∀ who s s', G who s s' → R s s') {pool : Pool ι σ ε κ α}
    (h : pool.Guarded R G) (i : Nat) (f : Fault ε) : (pool.step i f).Guarded R G := by
  unfold step
  split
  · next who β site body k hi =>
    have hmem := List.mem_of_getElem? hi
    obtain ⟨P, -, hp, hsafe⟩ := h _ hmem
    obtain ⟨hg, P', hst', hp', hk⟩ := hsafe _ hp f
    intro t ht
    rcases List.mem_or_eq_of_mem_set ht with ht | rfl
    · obtain ⟨P₁, hst₁, hp₁, hsafe₁⟩ := h t ht
      exact ⟨P₁, hst₁, hst₁ _ _ (hGR _ _ _ hg) hp₁, hsafe₁⟩
    · exact ⟨P', hst', hp', hk⟩
  · exact h

theorem act_guarantee {pool : Pool ι σ ε κ α} (h : pool.Guarded R G) (i : Nat) (f : Fault ε) :
    ∀ a ∈ pool.act i f, G a.who a.before a.after := by
  intro a ha
  unfold act at ha
  split at ha
  · next who β site body k hi =>
    rw [List.mem_singleton] at ha
    subst ha
    obtain ⟨P, -, hp, hsafe⟩ := h _ (List.mem_of_getElem? hi)
    simp only [step, hi]
    exact (hsafe _ hp f).1
  · cases ha

/-- **In a pool of safe threads every step is within the guarantee of its thread.** -/
theorem acts_guarantee (hGR : ∀ who s s', G who s s' → R s s') {pool : Pool ι σ ε κ α}
    (h : pool.Guarded R G) (sched : List (Nat × Fault ε)) :
    ∀ a ∈ pool.acts sched, G a.who a.before a.after := by
  induction sched generalizing pool with
  | nil => intro a ha; cases ha
  | cons e sched ih =>
    intro a ha
    rcases List.mem_append.mp ha with ha | ha
    · exact act_guarantee h _ _ a ha
    · exact ih (step_guarded hGR h _ _) a ha

/-- What every step keeps holds after every step, and at the end. -/
theorem acts_keep {I : σ → Prop} (sched : List (Nat × Fault ε)) : ∀ {pool : Pool ι σ ε κ α},
    I pool.store → (∀ a ∈ pool.acts sched, I a.before → I a.after) →
      (∀ a ∈ pool.acts sched, I a.after) ∧ I (pool.exec sched).store := by
  induction sched with
  | nil =>
    intro pool h _
    refine ⟨fun a ha => ?_, h⟩
    cases ha
  | cons e sched ih =>
    intro pool h hstep
    have hrest : ∀ a ∈ (pool.step e.1 e.2).acts sched, I a.before → I a.after := fun a ha =>
      hstep a (List.mem_append_right _ ha)
    have hact := fun a ha => hstep a (List.mem_append_left ((pool.step e.1 e.2).acts sched) ha)
    have hnext : I (pool.step e.1 e.2).store ∧ ∀ a ∈ pool.act e.1 e.2, I a.after := by
      rcases act_cases pool e.1 e.2 with ⟨who, he⟩ | ⟨he, hs⟩
      · have hk := hact _ (he ▸ List.mem_singleton.mpr rfl) h
        refine ⟨hk, fun a ha => ?_⟩
        rw [he, List.mem_singleton] at ha
        rw [ha]
        exact hk
      · rw [he, hs]
        refine ⟨h, fun a ha => ?_⟩
        cases ha
    obtain ⟨h₁, h₂⟩ := ih hnext.1 hrest
    refine ⟨fun a ha => ?_, h₂⟩
    rcases List.mem_append.mp ha with ha | ha
    · exact hnext.2 a ha
    · exact h₁ a ha

/-- What holds at the start and after every act holds before every act. -/
theorem acts_before {I : σ → Prop} (sched : List (Nat × Fault ε)) : ∀ {pool : Pool ι σ ε κ α},
    I pool.store → (∀ a ∈ pool.acts sched, I a.after) → ∀ a ∈ pool.acts sched, I a.before := by
  induction sched with
  | nil =>
    intro pool _ _ a ha
    cases ha
  | cons e sched ih =>
    intro pool h hall a ha
    have hrest : ∀ a ∈ (pool.step e.1 e.2).acts sched, I a.after := fun a ha =>
      hall a (List.mem_append_right _ ha)
    have hfirst := fun a ha => hall a (List.mem_append_left ((pool.step e.1 e.2).acts sched) ha)
    rcases act_cases pool e.1 e.2 with ⟨who, he⟩ | ⟨he, hs⟩
    · rcases List.mem_append.mp ha with ha | ha
      · rw [he, List.mem_singleton] at ha
        rw [ha]
        exact h
      · exact ih (hfirst _ (he ▸ List.mem_singleton.mpr rfl)) hrest a ha
    · rcases List.mem_append.mp ha with ha | ha
      · rw [he] at ha
        cases ha
      · rw [hs] at hrest ha
        exact ih h hrest a ha

/-- **An invariant holds throughout exactly if every act keeps it**, as far as `W` says when an act does. -/
theorem acts_keep_iff {I : σ → Prop} {W : Act σ κ → Prop} {pool : Pool ι σ ε κ α} {sched : List (Nat × Fault ε)}
    (h : I pool.store) (hstep : ∀ a ∈ pool.acts sched, I a.before → (I a.after ↔ W a)) :
    (∀ a ∈ pool.acts sched, I a.after) ↔ ∀ a ∈ pool.acts sched, W a := by
  constructor
  · intro hall a ha
    exact (hstep a ha (acts_before sched h hall a ha)).mp (hall a ha)
  · intro hW
    exact (acts_keep sched h fun a ha hbefore => (hstep a ha hbefore).mpr (hW a ha)).1

/-- Threads whose calls are all within `K` act within `K`, or not at all. -/
theorem acts_within {K : σ → σ → Prop} {pool : Pool ι σ ε κ α} (h : ∀ t ∈ pool.threads, t.2.Within K)
    (sched : List (Nat × Fault ε)) : ∀ a ∈ pool.acts sched, a.after = a.before ∨ K a.before a.after := by
  refine acts_guarantee (R := fun _ _ => True) (G := fun _ s s' => s' = s ∨ K s s') (fun _ _ _ _ => trivial) ?_ sched
  intro t ht
  have hsafe : Safe (fun _ _ => True) (fun s s' => s' = s ∨ K s s') (fun _ => True) t.2 fun _ _ => True :=
    Safe.of_within (h t ht) (fun s => .inl rfl) (fun _ _ hk => .inr hk) (fun _ _ _ => trivial)
      (Stable.const _ True)
  exact ⟨fun _ => True, .const _ _, trivial, hsafe⟩

/-- A step keeps who runs each thread. -/
theorem step_labels (pool : Pool ι σ ε κ α) (i : Nat) (f : Fault ε) :
    (pool.step i f).threads.map Prod.fst = pool.threads.map Prod.fst := by
  unfold step
  split
  · next who β site body k hi =>
    refine List.ext_getElem? fun j => ?_
    rw [List.getElem?_map, List.getElem?_map, List.getElem?_set]
    split
    · next hij =>
      have hlt : i < pool.threads.length := (List.getElem?_eq_some_iff.mp hi).1
      rw [if_pos hlt, ← hij, hi]
      rfl
    · rfl
  · rfl

/-- Who acts is one of the threads. -/
theorem acts_who (sched : List (Nat × Fault ε)) : ∀ (pool : Pool ι σ ε κ α),
    ∀ a ∈ pool.acts sched, a.who ∈ pool.threads.map Prod.fst := by
  induction sched with
  | nil => intro pool a ha; cases ha
  | cons e sched ih =>
    intro pool a ha
    rcases List.mem_append.mp ha with ha | ha
    · unfold act at ha
      split at ha
      · next who β site body k hi =>
        rw [List.mem_singleton.mp ha]
        exact List.mem_map.mpr ⟨_, List.mem_of_getElem? hi, rfl⟩
      · cases ha
    · rw [← step_labels pool e.1 e.2]
      exact ih _ a ha

/-! ## The chain of moves -/

/-- The values a view takes after the acts that move it. -/
def commits {τ : Type} (view : σ → Option τ) (moved : Act σ κ → Bool) (acts : List (Act σ κ)) :
    List τ :=
  (acts.filter moved).filterMap fun a => view a.after

/-- The act keeps the viewed value up to `same`, or moves it by `next`. -/
def Moves {τ : Type} (view : σ → Option τ) (moved : Act σ κ → Bool) (same next : τ → τ → Prop)
    (a : Act σ κ) : Prop :=
  ∀ t, view a.before = some t → ∃ t', view a.after = some t' ∧
    if moved a then next t t' else same t t'

/-- **The moves of a schedule form a single chain** from the first value to the
last, the last being the value of the final store up to `same`. -/
theorem commits_chain {τ : Type} {view : σ → Option τ} {moved : Act σ κ → Bool}
    (same next : τ → τ → Prop) (htrans : ∀ x y z, same x y → same y z → same x z)
    (hrefl : ∀ x, same x x) (hnext : ∀ x y z, same x y → next y z → next x z)
    (sched : List (Nat × Fault ε)) :
    ∀ (pool : Pool ι σ ε κ α) (x y : τ), view pool.store = some y → same x y →
      (∀ a ∈ pool.acts sched, Moves view moved same next a) →
      List.IsChain next (x :: commits view moved (pool.acts sched)) ∧
        ∃ z, view (pool.exec sched).store = some z ∧
          same ((commits view moved (pool.acts sched)).getLastD x) z := by
  induction sched with
  | nil => exact fun pool x y hy hx _ => ⟨.singleton x, y, hy, hx⟩
  | cons e sched ih =>
    intro pool x y hy hx h
    obtain ⟨i, f⟩ := e
    have hrest : ∀ a ∈ (pool.step i f).acts sched, Moves view moved same next a := fun a ha =>
      h a (List.mem_append_right _ ha)
    have hact := fun a ha => h a (List.mem_append_left ((pool.step i f).acts sched) ha)
    simp only [acts, exec]
    rcases act_cases pool i f with ⟨who, he⟩ | ⟨he, hs⟩
    · obtain ⟨y', hy', ha⟩ := hact _ (he ▸ List.mem_singleton.mpr rfl) y hy
      simp only [he, List.singleton_append, commits]
      by_cases hm : moved ⟨who, pool.store, (pool.step i f).store⟩
      · rw [if_pos hm] at ha
        simp only [List.filter_cons_of_pos hm]
        simp only [List.filterMap_cons, hy', List.getLastD_cons]
        obtain ⟨h₁, h₂⟩ := ih _ _ _ hy' (hrefl _) hrest
        exact ⟨.cons_cons (hnext _ _ _ hx ha) h₁, h₂⟩
      · rw [if_neg hm] at ha
        simp only [List.filter_cons_of_neg hm]
        exact ih _ _ _ hy' (htrans _ _ _ hx ha) hrest
    · rw [hs] at hrest
      rw [he, hs, List.nil_append]
      exact ih pool x y hy hx hrest

end Pool

/-! ## Runs whose calls meet a condition -/

/-- A call of a schedule: who makes it, where, its fault and the store before. -/
structure Call (ι σ ε κ : Type) where
  who : κ
  site : ι
  fault : Fault ε
  store : σ

namespace Pool

/-- The call of a step: none when the thread has ended or does not exist. -/
def call (pool : Pool ι σ ε κ α) (i : Nat) (f : Fault ε) : List (Call ι σ ε κ) :=
  match pool.threads[i]? with
  | some (who, .call site _ _) => [⟨who, site, f, pool.store⟩]
  | _ => []

/-- The step of a thread that has a call to make. -/
theorem step_call {pool : Pool ι σ ε κ α} {i : Nat} {who : κ} {site : ι} {body : σ → Except ε β × σ}
    {k : Except ε β → Prog ι σ ε α} (hi : pool.threads[i]? = some (who, .call site body k)) (f : Fault ε) :
    pool.step i f = ⟨(f.apply body pool.store).2, pool.threads.set i (who, k (f.apply body pool.store).1)⟩ ∧
      pool.call i f = [⟨who, site, f, pool.store⟩] := by
  constructor
  · unfold step
    rw [hi]
  · unfold call
    rw [hi]

/-- A thread that has ended makes no step. -/
theorem step_ret {pool : Pool ι σ ε κ α} {i : Nat} {who : κ} {r : Except ε α}
    (hi : pool.threads[i]? = some (who, .ret r)) (f : Fault ε) :
    pool.step i f = pool ∧ pool.call i f = [] := by
  constructor
  · unfold step
    rw [hi]
  · unfold call
    rw [hi]

theorem step_none {pool : Pool ι σ ε κ α} {i : Nat} (hi : pool.threads[i]? = none) (f : Fault ε) :
    pool.step i f = pool ∧ pool.call i f = [] := by
  constructor
  · unfold step
    rw [hi]
  · unfold call
    rw [hi]

/-- The calls of a schedule, in order. -/
def calls (pool : Pool ι σ ε κ α) : List (Nat × Fault ε) → List (Call ι σ ε κ)
  | [] => []
  | (i, f) :: sched => pool.call i f ++ (pool.step i f).calls sched

/-- Who calls is one of the threads. -/
theorem calls_who (sched : List (Nat × Fault ε)) : ∀ (pool : Pool ι σ ε κ α),
    ∀ c ∈ pool.calls sched, c.who ∈ pool.threads.map Prod.fst := by
  induction sched with
  | nil => intro pool c hc; cases hc
  | cons e sched ih =>
    intro pool c hc
    rcases List.mem_append.mp hc with hc | hc
    · unfold call at hc
      split at hc
      · next who β site body k hi =>
        rw [List.mem_singleton.mp hc]
        exact List.mem_map.mpr ⟨_, List.mem_of_getElem? hi, rfl⟩
      · cases hc
    · rw [← step_labels pool e.1 e.2]
      exact ih _ c hc

/-- Every thread still has a stable fact from which it is safe under the condition. -/
def GuardedIf (C : κ → ι → Fault ε → σ → Prop) (R : σ → σ → Prop) (G : κ → σ → σ → Prop)
    (pool : Pool ι σ ε κ α) : Prop :=
  ∀ t ∈ pool.threads, ∃ P, Stable R P ∧ P pool.store ∧
    SafeIf (C t.1) R (G t.1) P t.2 fun _ _ => True

variable {C : κ → ι → Fault ε → σ → Prop} {R : σ → σ → Prop} {G : κ → σ → σ → Prop}

/-- A step whose call meets the condition is within the guarantee, and keeps the pool guarded. -/
theorem step_guardedIf (hGR : ∀ who s s', G who s s' → R s s') {pool : Pool ι σ ε κ α}
    (h : pool.GuardedIf C R G) (i : Nat) (f : Fault ε)
    (hC : ∀ c ∈ pool.call i f, C c.who c.site c.fault c.store) :
    (pool.step i f).GuardedIf C R G ∧ ∀ a ∈ pool.act i f, G a.who a.before a.after := by
  unfold step act
  unfold call at hC
  split at hC
  · next who β site body k hi =>
    have hmem := List.mem_of_getElem? hi
    obtain ⟨P, -, hp, hsafe⟩ := h _ hmem
    obtain ⟨hg, P', hst', hp', hk⟩ := hsafe _ hp f (hC _ List.mem_cons_self)
    constructor
    · intro t ht
      rcases List.mem_or_eq_of_mem_set ht with ht | rfl
      · obtain ⟨P₁, hst₁, hp₁, hsafe₁⟩ := h t ht
        exact ⟨P₁, hst₁, hst₁ _ _ (hGR _ _ _ hg) hp₁, hsafe₁⟩
      · exact ⟨P', hst', hp', hk⟩
    · intro a ha
      rw [List.mem_singleton.mp ha]
      unfold step
      rw [hi]
      exact hg
  · refine ⟨h, fun a ha => ?_⟩
    cases ha

/-- **In a pool of safe threads whose calls all meet the condition, every step is within the
guarantee of its thread.** -/
theorem acts_guaranteeIf (hGR : ∀ who s s', G who s s' → R s s') (sched : List (Nat × Fault ε)) :
    ∀ {pool : Pool ι σ ε κ α}, pool.GuardedIf C R G →
      (∀ c ∈ pool.calls sched, C c.who c.site c.fault c.store) →
      ∀ a ∈ pool.acts sched, G a.who a.before a.after := by
  induction sched with
  | nil => intro pool _ _ a ha; cases ha
  | cons e sched ih =>
    intro pool h hC a ha
    have hfirst := fun c hc => hC c (List.mem_append_left ((pool.step e.1 e.2).calls sched) hc)
    obtain ⟨hnext, hact⟩ := step_guardedIf hGR h e.1 e.2 hfirst
    rcases List.mem_append.mp ha with ha | ha
    · exact hact a ha
    · exact ih hnext (fun c hc => hC c (List.mem_append_right _ hc)) a ha

end Pool

/-! ## Threads that each write a cell of their own -/

/-- Met by stores with `P` and never faulted, the program makes calls within `K`, one call
within `W`, and again calls within `K`. -/
inductive Prog.Once (P : σ → Prop) (K W : σ → σ → Prop) : Prog ι σ ε α → Prop where
  | quiet {β : Type} {site : ι} {body : σ → Except ε β × σ} {k : Except ε β → Prog ι σ ε α}
      (h : ∀ s, P s → K s (body s).2) (hk : ∀ s, P s → Once P K W (k (body s).1)) :
      Once P K W (.call site body k)
  | write {β : Type} {site : ι} {body : σ → Except ε β × σ} {k : Except ε β → Prog ι σ ε α}
      (h : ∀ s, P s → W s (body s).2) (hk : ∀ s, P s → (k (body s).1).Within K) :
      Once P K W (.call site body k)

namespace Prog.Once

variable {P : σ → Prop} {K W : σ → σ → Prop}

theorem perform {site : ι} {body : σ → Except ε α × σ} (h : ∀ s, P s → W s (body s).2) :
    Once P K W (Prog.perform site body) := .write h fun _ _ => .ret _

/-- What follows keeps quiet. -/
theorem bind_within {p : Prog ι σ ε α} {f : α → Prog ι σ ε β} (hp : Once P K W p)
    (hf : ∀ a, (f a).Within K) : Once P K W (p >>= f) := by
  change Once P K W (p.bind f)
  induction hp with
  | quiet h _ ih => exact .quiet h ih
  | write h hk => exact .write h fun s hs => (hk s hs).bind hf

/-- A statement that only reads, and answers, comes first. -/
theorem read_bind {site : ι} {ans : σ → Except ε β} {f : β → Prog ι σ ε α} (hK : ∀ s, K s s)
    (h : ∀ s, P s → ∃ b, ans s = .ok b ∧ Once P K W (f b)) :
    Once P K W (Prog.perform site (fun s => (ans s, s)) >>= f) := by
  refine .quiet (fun s _ => hK s) fun s hs => ?_
  obtain ⟨b, hb, hf⟩ := h s hs
  change Once P K W ((Prog.ret (ans s)).bind f)
  rw [hb]
  exact hf

end Prog.Once

namespace Pool

variable {τ : Type}

/-- The step leaves every cell alone. -/
def KeepsCells (view : κ → σ → τ) (P : σ → Prop) (s s' : σ) : Prop :=
  (∀ c, view c s' = view c s) ∧ (P s → P s')

/-- The step takes the cell from `v c` to `v' c` and leaves the others alone. -/
def SetsCell (view : κ → σ → τ) (P : σ → Prop) (v v' : κ → τ) (c : κ) (s s' : σ) : Prop :=
  (view c s = v c → view c s' = v' c) ∧ (∀ c', c' ≠ c → view c' s' = view c' s) ∧ (P s → P s')

/-- Each thread has its cell before it and will set it, or has set it and keeps quiet. -/
structure Filling (view : κ → σ → τ) (P : σ → Prop) (v v' : κ → τ) (pool : Pool ι σ ε κ α) : Prop where
  holds : P pool.store
  labels : (pool.threads.map Prod.fst).Nodup
  others : ∀ c, c ∉ pool.threads.map Prod.fst → view c pool.store = v c
  cells : ∀ (i : Nat) (c : κ) (p : Prog ι σ ε α), pool.threads[i]? = some (c, p) →
    (p.Once P (KeepsCells view P) (SetsCell view P v v' c) ∧ view c pool.store = v c) ∨
      (p.Within (KeepsCells view P) ∧ view c pool.store = v' c)

variable {view : κ → σ → τ} {P : σ → Prop} {v v' : κ → τ} {pool : Pool ι σ ε κ α}

/-- The threads beside the `i`-th have other labels. -/
theorem Filling.label_ne (h : pool.Filling view P v v') {i j : Nat} {c d : κ} {p q : Prog ι σ ε α}
    (hi : pool.threads[i]? = some (c, p)) (hj : pool.threads[j]? = some (d, q)) (hne : i ≠ j) :
    d ≠ c := by
  intro hdc
  have hli : (pool.threads.map Prod.fst)[i]? = some c := by rw [List.getElem?_map, hi]; rfl
  have hlj : (pool.threads.map Prod.fst)[j]? = some c := by rw [List.getElem?_map, hj, ← hdc]; rfl
  have hlt := (List.getElem?_eq_some_iff.mp hli).1
  exact hne ((List.getElem?_inj hlt h.labels).mp (hli.trans hlj.symm))

/-- **A step that is not faulted keeps the cells in order.** -/
theorem Filling.step (h : pool.Filling view P v v') (i : Nat) :
    (pool.step i .none).Filling view P v v' := by
  cases hi : pool.threads[i]? with
  | none =>
    unfold Pool.step
    rw [hi]
    exact h
  | some t =>
    obtain ⟨c, p⟩ := t
    cases p with
    | ret r =>
      unfold Pool.step
      rw [hi]
      exact h
    | call site body k =>
      have hstep : pool.step i .none =
          ⟨(body pool.store).2, pool.threads.set i (c, k (body pool.store).1)⟩ := by
        unfold Pool.step
        rw [hi]
        rfl
      -- what the step does to the cells, and what is left of its thread
      have hmoved : (P (body pool.store).2 ∧ ∀ d, d ≠ c → view d (body pool.store).2 = view d pool.store) ∧
          (((k (body pool.store).1).Once P (KeepsCells view P) (SetsCell view P v v' c) ∧
              view c (body pool.store).2 = v c) ∨
            ((k (body pool.store).1).Within (KeepsCells view P) ∧ view c (body pool.store).2 = v' c)) := by
        rcases h.cells i c _ hi with ⟨honce, hv⟩ | ⟨hquiet, hv⟩
        · cases honce with
          | quiet hbody hk =>
            obtain ⟨hkeep, hP⟩ := hbody _ h.holds
            exact ⟨⟨hP h.holds, fun d _ => hkeep d⟩, .inl ⟨hk _ h.holds, by rw [hkeep, hv]⟩⟩
          | write hbody hk =>
            obtain ⟨hset, hkeep, hP⟩ := hbody _ h.holds
            exact ⟨⟨hP h.holds, hkeep⟩, .inr ⟨hk _ h.holds, hset hv⟩⟩
        · cases hquiet with
          | call hbody hk =>
            obtain ⟨hkeep, hP⟩ := hbody pool.store
            exact ⟨⟨hP h.holds, fun d _ => hkeep d⟩, .inr ⟨hk _, by rw [hkeep, hv]⟩⟩
      obtain ⟨⟨hP, hothers⟩, hown⟩ := hmoved
      have hlabel : c ∈ pool.threads.map Prod.fst := List.mem_map.mpr ⟨_, List.mem_of_getElem? hi, rfl⟩
      constructor
      · rw [hstep]
        exact hP
      · rw [step_labels]
        exact h.labels
      · intro d hd
        rw [step_labels] at hd
        have hdc : d ≠ c := by
          rintro rfl
          exact hd hlabel
        rw [hstep, hothers d hdc]
        exact h.others d hd
      · intro j d q hj
        rw [hstep] at hj ⊢
        rw [List.getElem?_set] at hj
        split at hj
        · next hij =>
          split at hj
          · cases hj
            exact hown
          · cases hj
        · next hij =>
          rw [hothers d (h.label_ne hi hj hij)]
          exact h.cells j d q hj

theorem Filling.exec (sched : List Nat) : ∀ {pool : Pool ι σ ε κ α}, pool.Filling view P v v' →
    (pool.exec (sched.map fun i => (i, .none))).Filling view P v v' := by
  induction sched with
  | nil => exact fun h => h
  | cons i sched ih => exact fun h => ih (h.step i)

theorem exec_labels (sched : List (Nat × Fault ε)) : ∀ pool : Pool ι σ ε κ α,
    (pool.exec sched).threads.map Prod.fst = pool.threads.map Prod.fst := by
  induction sched with
  | nil => exact fun _ => rfl
  | cons e sched ih => exact fun pool => (ih _).trans (step_labels pool e.1 e.2)

/-- Every thread has ended. -/
def Ended (pool : Pool ι σ ε κ α) : Prop := ∀ t ∈ pool.threads, ∃ r, t.2 = .ret r

/-- **When all threads have ended, each cell is set**, and the other cells are as they were. -/
theorem Filling.ended (h : pool.Filling view P v v') (hend : pool.Ended) :
    (∀ c ∈ pool.threads.map Prod.fst, view c pool.store = v' c) ∧
      ∀ c, c ∉ pool.threads.map Prod.fst → view c pool.store = v c := by
  refine ⟨fun c hc => ?_, h.others⟩
  obtain ⟨t, ht, rfl⟩ := List.mem_map.mp hc
  obtain ⟨i, hi⟩ := List.getElem?_of_mem ht
  obtain ⟨r, hr⟩ := hend t ht
  rcases h.cells i t.1 t.2 hi with ⟨honce, -⟩ | ⟨-, hv⟩
  · rw [hr] at honce
    cases honce
  · exact hv

end Pool

/-! ## What the threads have reached when they end -/

namespace Pool

/-- Every thread is on the way to its postcondition, and keeps to the rely of the others. -/
def Heading (R : σ → σ → Prop) (Q : κ → Except ε α → σ → Prop) (pool : Pool ι σ ε κ α) : Prop :=
  ∀ t ∈ pool.threads, ∃ P, Stable R P ∧ P pool.store ∧ Safe R R P t.2 (Q t.1)

variable {R : σ → σ → Prop} {Q : κ → Except ε α → σ → Prop}

theorem Heading.step {pool : Pool ι σ ε κ α} (h : pool.Heading R Q) (i : Nat) (f : Fault ε) :
    (pool.step i f).Heading R Q := by
  unfold Pool.step
  split
  · next who β site body k hi =>
    obtain ⟨P, -, hp, hsafe⟩ := h _ (List.mem_of_getElem? hi)
    obtain ⟨hg, P', hst', hp', hk⟩ := hsafe _ hp f
    intro t ht
    rcases List.mem_or_eq_of_mem_set ht with ht | rfl
    · obtain ⟨P₁, hst₁, hp₁, hsafe₁⟩ := h t ht
      exact ⟨P₁, hst₁, hst₁ _ _ hg hp₁, hsafe₁⟩
    · exact ⟨P', hst', hp', hk⟩
  · exact h

theorem Heading.exec (sched : List (Nat × Fault ε)) : ∀ {pool : Pool ι σ ε κ α}, pool.Heading R Q →
    (pool.exec sched).Heading R Q := by
  induction sched with
  | nil => exact fun h => h
  | cons e sched ih => exact fun h => ih (h.step e.1 e.2)

/-- **A thread that has ended has its postcondition**, at that moment and as long as the others go on. -/
theorem Heading.ended {pool : Pool ι σ ε κ α} (h : pool.Heading R Q) (sched : List (Nat × Fault ε)) {who : κ}
    {r : Except ε α} (hr : (who, Prog.ret r) ∈ (pool.exec sched).threads) : Q who r (pool.exec sched).store := by
  obtain ⟨P, -, hp, hsafe⟩ := h.exec sched _ hr
  exact hsafe _ hp

end Pool

attribute [irreducible] Safe SafeIf

end Calls
