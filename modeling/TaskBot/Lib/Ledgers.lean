import Mathlib.Algebra.BigOperators.Group.Finset.Piecewise
import Mathlib.Algebra.Order.BigOperators.Group.Finset
import Mathlib.Algebra.Order.Group.Multiset
import Mathlib.Tactic.Abel
import TaskBot.Lib.RelyGuarantee

/-!
# Programs that keep books

A step from one store to another has effects, a multiset of what it changed.  The store has a book in which
programs write down what they have changed, later and in calls of their own.  Between the two a program *owes*
what it has changed and not written down yet.

* `Owes B faultless n P d p Q`: from a store with `P` and owing `d`, every call of `p` settles what it writes
  against what is owed and owes at most `n` afterwards, whatever the others do in between, and `p` ends with
  `Q`; if `faultless` holds then only for calls that meet no fault;
* `Owes.bind`, `Owes.perform`, `Owes.attempt`, `Owes.of_within`: the rules;
* `Pool.books_balance`: in every schedule the book and what is owed make up exactly what was in the book and
  what happened;
* `Pool.Owing.card_le`: what is owed is owed by the threads that have not settled, at most `n` by each.
-/

namespace Calls

variable {ι σ ε α β κ τ : Type}

/-- The `book` is kept of the `effects`; `rely` is what others may do to the store. -/
structure Books (σ τ : Type) where
  book : σ → Multiset τ
  effects : σ → σ → Multiset τ
  rely : σ → σ → Prop

namespace Books

variable (B : Books σ τ)

/-- What a step writes down and what is owed after it, against what was owed and what it changes. -/
def Balanced (d d' : Multiset τ) (s s' : σ) : Prop := B.book s' + d' = B.book s + d + B.effects s s'

/-- The step changes nothing the book is kept of, and writes nothing down. -/
structure Quiet (s s' : σ) : Prop where
  rely : B.rely s s'
  book : B.book s' = B.book s
  effects : B.effects s s' = 0

variable {B}

theorem Quiet.balanced {s s' : σ} (h : B.Quiet s s') (d : Multiset τ) : B.Balanced d d s s' := by
  unfold Balanced
  rw [h.book, h.effects, add_zero]

end Books

variable (B : Books σ τ) (faultless : Prop) (n : Nat)

/-- See the head of the file. -/
def Owes (P : σ → Prop) (d : Multiset τ) : Prog ι σ ε α → (Except ε α → Multiset τ → σ → Prop) → Prop
  | .ret r, Q => ∀ s, P s → Q r d s
  | .call _ body k, Q => ∀ s, P s → ∀ f : Fault ε, (faultless → f = .none) →
      B.rely s (f.apply body s).2 ∧ ∃ (d' : Multiset τ) (P' : σ → Prop),
        B.Balanced d d' s (f.apply body s).2 ∧ Multiset.card d' ≤ n ∧
        Stable B.rely P' ∧ P' (f.apply body s).2 ∧ Owes P' d' (k (f.apply body s).1) Q

variable {B faultless n}

namespace Owes

variable {P P' : σ → Prop} {d : Multiset τ} {Q Q' : Except ε α → Multiset τ → σ → Prop}

/-! ## Rules -/

theorem weaken {p : Prog ι σ ε α} (h : Owes B faultless n P d p Q) (hp : ∀ s, P' s → P s)
    (hq : ∀ r d s, Q r d s → Q' r d s) : Owes B faultless n P' d p Q' := by
  induction p generalizing P P' d with
  | ret r => exact fun s hs => hq r d s (h s (hp s hs))
  | call site body k ih =>
    intro s hs f hf
    obtain ⟨hrely, d', P₁, hbalanced, hcard, hst, hp₁, hk⟩ := h s (hp s hs) f hf
    exact ⟨hrely, d', P₁, hbalanced, hcard, hst, hp₁, ih _ hk fun _ h => h⟩

/-- A part of the precondition that does not look at the store is a hypothesis. -/
theorem of_and_const {c : Prop} {p : Prog ι σ ε α} (h : c → Owes B faultless n P d p Q) :
    Owes B faultless n (fun s => c ∧ P s) d p Q := by
  by_cases hc : c
  · exact (h hc).weaken (fun _ hs => hs.2) fun _ _ _ hq => hq
  · cases p with
    | ret r => exact fun s hs => absurd hs.1 hc
    | call site body k => exact fun s hs => absurd hs.1 hc

theorem pure {a : α} (h : ∀ s, P s → Q (.ok a) d s) : Owes (ι := ι) B faultless n P d (Pure.pure a) Q := h

theorem fail {e : ε} (h : ∀ s, P s → Q (.error e) d s) : Owes (ι := ι) B faultless n P d (Prog.fail e) Q := h

/-- **Sequence.** -/
theorem bind {p : Prog ι σ ε α} {f : α → Prog ι σ ε β} {Q' : Except ε β → Multiset τ → σ → Prop}
    (hp : Owes B faultless n P d p Q) (hf : ∀ a d', Owes B faultless n (Q (.ok a) d') d' (f a) Q')
    (he : ∀ e d' s, Q (.error e) d' s → Q' (.error e) d' s) : Owes B faultless n P d (p >>= f) Q' := by
  change Owes B faultless n P d (p.bind f) Q'
  induction p generalizing P d with
  | ret r =>
    cases r with
    | ok a => exact (hf a d).weaken hp fun _ _ _ h => h
    | error e => exact fun s hs => he e d s (hp s hs)
  | call site body k ih =>
    intro s hs g hg
    obtain ⟨hrely, d', P₁, hbalanced, hcard, hst, hp₁, hk⟩ := hp s hs g hg
    exact ⟨hrely, d', P₁, hbalanced, hcard, hst, hp₁, ih _ hk⟩

/-- A pure fallible computation first. -/
theorem lift_bind {r : Except ε β} {f : β → Prog ι σ ε α}
    (hok : ∀ b, r = .ok b → Owes B faultless n P d (f b) Q)
    (herr : ∀ e s, r = .error e → P s → Q (.error e) d s) :
    Owes B faultless n P d (Prog.lift r >>= f) Q := by
  cases r with
  | ok b => exact hok b rfl
  | error e => exact fun s hs => herr e s rfl hs

/-- **One call.** -/
theorem perform {site : ι} {body : σ → Except ε α × σ} (hst : ∀ r d', Stable B.rely (Q r d'))
    (h : ∀ s, P s → ∀ f : Fault ε, (faultless → f = .none) → B.rely s (f.apply body s).2 ∧
      ∃ d', B.Balanced d d' s (f.apply body s).2 ∧ Multiset.card d' ≤ n ∧
        Q (f.apply body s).1 d' (f.apply body s).2) :
    Owes B faultless n P d (Prog.perform site body) Q := by
  intro s hs f hf
  obtain ⟨hrely, d', hbalanced, hcard, hq⟩ := h s hs f hf
  exact ⟨hrely, d', Q (f.apply body s).1 d', hbalanced, hcard, hst _ _, hq, fun _ h => h⟩

theorem attempt {p : Prog ι σ ε α} {Q' : Except ε (Except ε α) → Multiset τ → σ → Prop}
    (hp : Owes B faultless n P d p Q) (hq : ∀ r d s, Q r d s → Q' (.ok r) d s) :
    Owes B faultless n P d p.attempt Q' := by
  induction p generalizing P d with
  | ret r => exact fun s hs => hq r d s (hp s hs)
  | call site body k ih =>
    intro s hs f hf
    obtain ⟨hrely, d', P₁, hbalanced, hcard, hst, hp₁, hk⟩ := hp s hs f hf
    exact ⟨hrely, d', P₁, hbalanced, hcard, hst, hp₁, ih _ hk⟩

/-- A program of quiet calls keeps what it owes, and every stable fact. -/
theorem of_within {p : Prog ι σ ε α} (hp : p.Within B.Quiet) (hrefl : ∀ s, B.Quiet s s) (hd : Multiset.card d ≤ n)
    (hst : Stable B.rely P) : Owes B faultless n P d p fun _ d' s => P s ∧ d' = d := by
  induction hp with
  | ret r => exact fun s hs => ⟨hs, rfl⟩
  | @call _ site body k hbody _ ih =>
    intro s hs f _
    have hquiet : B.Quiet s (f.apply body s).2 := by
      rcases f.apply_store body s with h | h
      · rw [h]
        exact hrefl s
      · rw [h]
        exact hbody s
    exact ⟨hquiet.rely, d, P, hquiet.balanced d, hd, hst, hst _ _ hquiet.rely hs, ih _⟩

end Owes

/-! ## Pools -/

namespace Pool

variable (B) in
/-- What the threads owe: each owes at most `n` and settles as `D` says when it ends. -/
def Owing (faultless : Nat → Prop) (n : Nat) (D : Nat → Multiset τ → Prop) (pool : Pool ι σ ε κ α)
    (debts : Nat → Multiset τ) : Prop :=
  ∀ i who p, pool.threads[i]? = some (who, p) → Multiset.card (debts i) ≤ n ∧
    ∃ P, Stable B.rely P ∧ P pool.store ∧ Owes B (faultless i) n P (debts i) p fun _ d _ => D i d

/-- All that is owed. -/
def owed (debts : Nat → Multiset τ) (pool : Pool ι σ ε κ α) : Multiset τ :=
  ∑ i ∈ Finset.range pool.threads.length, debts i

variable {clean : Nat → Prop} {D : Nat → Multiset τ → Prop} {debts : Nat → Multiset τ} {pool : Pool ι σ ε κ α}

/-- One thread changes what it owes. -/
theorem owed_update {i : Nat} (hi : i < pool.threads.length) (d : Multiset τ) :
    owed (Function.update debts i d) pool + debts i = owed debts pool + d := by
  have hmem : i ∈ Finset.range pool.threads.length := Finset.mem_range.mpr hi
  have hsum := Finset.sum_update_of_mem hmem debts d
  have hold := Finset.sum_eq_sum_sdiff_singleton_add hmem debts
  unfold owed
  rw [hsum, hold]
  abel

theorem length_step (pool : Pool ι σ ε κ α) (i : Nat) (f : Fault ε) :
    (pool.step i f).threads.length = pool.threads.length := by
  have h := congrArg List.length (step_labels pool i f)
  rwa [List.length_map, List.length_map] at h

theorem owed_step (debts : Nat → Multiset τ) (pool : Pool ι σ ε κ α) (i : Nat) (f : Fault ε) :
    owed debts (pool.step i f) = owed debts pool := by
  unfold owed
  rw [length_step]

/-- **One step**: what is written down and owed afterwards is what was, and what happened. -/
theorem step_balanced (h : Owing B clean n D pool debts) {i : Nat} {f : Fault ε} (hf : clean i → f = .none) :
    ∃ debts', Owing B clean n D (pool.step i f) debts' ∧
      B.book (pool.step i f).store + owed debts' (pool.step i f) =
        B.book pool.store + owed debts pool + ((pool.act i f).map fun a => B.effects a.before a.after).sum := by
  have hidle : pool.act i f = [] → pool.step i f = pool → ∃ debts', Owing B clean n D (pool.step i f) debts' ∧
      B.book (pool.step i f).store + owed debts' (pool.step i f) =
        B.book pool.store + owed debts pool + ((pool.act i f).map fun a => B.effects a.before a.after).sum := by
    intro hact hstep
    refine ⟨debts, by rw [hstep]; exact h, ?_⟩
    rw [hact, hstep]
    simp
  match hi : pool.threads[i]? with
  | none => exact hidle (by simp [act, hi]) (by simp [step, hi])
  | some (who, .ret r) => exact hidle (by simp [act, hi]) (by simp [step, hi])
  | some (who, .call site body k) =>
    obtain ⟨-, P, -, hp, howes⟩ := h i who _ hi
    obtain ⟨hrely, d', P', hbalanced, hcard, hst', hp', hk⟩ := howes _ hp f hf
    have hstep : pool.step i f =
        ⟨(f.apply body pool.store).2, pool.threads.set i (who, k (f.apply body pool.store).1)⟩ := by
      simp [step, hi]
    have hact : pool.act i f = [⟨who, pool.store, (pool.step i f).store⟩] := by simp [act, hi]
    have hlt : i < pool.threads.length := (List.getElem?_eq_some_iff.mp hi).1
    refine ⟨Function.update debts i d', fun j who' p hj => ?_, ?_⟩
    · rw [hstep] at hj ⊢
      by_cases hij : j = i
      · subst hij
        rw [List.getElem?_set_self hlt, Option.some_inj] at hj
        cases hj
        rw [Function.update_self]
        exact ⟨hcard, P', hst', hp', hk⟩
      · rw [List.getElem?_set_ne (Ne.symm hij)] at hj
        rw [Function.update_of_ne hij]
        obtain ⟨hcard₁, P₁, hst₁, hp₁, howes₁⟩ := h j who' p hj
        exact ⟨hcard₁, P₁, hst₁, hst₁ _ _ hrely hp₁, howes₁⟩
    · have howed : owed (Function.update debts i d') pool + debts i = owed debts pool + d' := owed_update hlt d'
      have hstore : (pool.step i f).store = (f.apply body pool.store).2 := by rw [hstep]
      unfold Books.Balanced at hbalanced
      rw [owed_step, hact, hstore, List.map_cons, List.map_nil, List.sum_singleton]
      -- `debts i` is added on both sides, so that both balances apply
      refine add_right_cancel (b := debts i) ?_
      calc B.book (f.apply body pool.store).2 + owed (Function.update debts i d') pool + debts i
          = B.book (f.apply body pool.store).2 + (owed debts pool + d') := by rw [add_assoc, howed]
        _ = (B.book (f.apply body pool.store).2 + d') + owed debts pool := by abel
        _ = (B.book pool.store + debts i + B.effects pool.store (f.apply body pool.store).2) +
              owed debts pool := by rw [hbalanced]
        _ = _ := by abel

/-- **The books balance**: in every schedule that gives no fault to a clean thread, the book and what is owed
make up exactly what was in the book, what was owed, and what happened. -/
theorem books_balance (sched : List (Nat × Fault ε)) (hclean : ∀ e ∈ sched, clean e.1 → e.2 = .none) :
    ∀ {pool : Pool ι σ ε κ α} {debts : Nat → Multiset τ}, Owing B clean n D pool debts →
      ∃ debts', Owing B clean n D (pool.exec sched) debts' ∧
        B.book (pool.exec sched).store + owed debts' (pool.exec sched) =
          B.book pool.store + owed debts pool +
            ((pool.acts sched).map fun a => B.effects a.before a.after).sum := by
  induction sched with
  | nil =>
    intro pool debts h
    exact ⟨debts, h, by simp [exec, acts]⟩
  | cons e sched ih =>
    intro pool debts h
    obtain ⟨debts₁, h₁, hsum₁⟩ := step_balanced h (hclean e List.mem_cons_self)
    obtain ⟨debts₂, h₂, hsum₂⟩ := ih (fun e' he' => hclean e' (List.mem_cons_of_mem e he')) h₁
    refine ⟨debts₂, h₂, ?_⟩
    have hacts : pool.acts (e :: sched) = pool.act e.1 e.2 ++ (pool.step e.1 e.2).acts sched := rfl
    rw [hacts, List.map_append, List.sum_append, ← add_assoc, ← hsum₁]
    exact hsum₂

/-- Every step is one the others rely on. -/
theorem acts_rely (sched : List (Nat × Fault ε)) (hclean : ∀ e ∈ sched, clean e.1 → e.2 = .none) :
    ∀ {pool : Pool ι σ ε κ α} {debts : Nat → Multiset τ}, Owing B clean n D pool debts →
      ∀ a ∈ pool.acts sched, B.rely a.before a.after := by
  induction sched with
  | nil =>
    intro pool debts _ a ha
    cases ha
  | cons e sched ih =>
    intro pool debts h a ha
    have hfault := hclean e List.mem_cons_self
    rcases List.mem_append.mp ha with ha | ha
    · match hi : pool.threads[e.1]? with
      | none => simp [act, hi] at ha
      | some (who, .ret r) => simp [act, hi] at ha
      | some (who, .call site body k) =>
        obtain ⟨-, P, -, hp, howes⟩ := h e.1 who _ hi
        obtain ⟨hrely, -⟩ := howes _ hp e.2 hfault
        have hact : pool.act e.1 e.2 = [⟨who, pool.store, (e.2.apply body pool.store).2⟩] := by
          simp [act, step, hi]
        rw [hact, List.mem_singleton] at ha
        rw [ha]
        exact hrely
    · obtain ⟨debts₁, h₁, -⟩ := step_balanced h hfault
      exact ih (fun e' he' => hclean e' (List.mem_cons_of_mem e he')) h₁ a ha

theorem length_exec (sched : List (Nat × Fault ε)) : ∀ pool : Pool ι σ ε κ α,
    (pool.exec sched).threads.length = pool.threads.length := by
  induction sched with
  | nil => exact fun _ => rfl
  | cons e sched ih => exact fun pool => (ih _).trans (length_step pool e.1 e.2)

/-- A thread has settled when it has ended and owes nothing then. -/
def Settled (D : Nat → Multiset τ → Prop) (pool : Pool ι σ ε κ α) (i : Nat) : Prop :=
  (∃ who r, pool.threads[i]? = some (who, .ret r)) ∧ ∀ d, D i d → d = 0

/-- A thread that has settled owes nothing. -/
theorem Owing.settled (h : Owing B clean n D pool debts) {i : Nat} (hi : Settled D pool i) : debts i = 0 := by
  obtain ⟨⟨who, r, hret⟩, hzero⟩ := hi
  obtain ⟨-, P, -, hp, howes⟩ := h i who _ hret
  exact hzero _ (howes _ hp)

/-- **What is owed is owed by the threads that have not settled**, at most `n` by each. -/
theorem Owing.card_le (h : Owing B clean n D pool debts) (unsettled : Finset Nat)
    (hall : ∀ i < pool.threads.length, i ∉ unsettled → Settled D pool i) :
    Multiset.card (owed debts pool) ≤ unsettled.card * n := by
  have hbound : ∀ i ∈ Finset.range pool.threads.length,
      Multiset.card (debts i) ≤ if i ∈ unsettled then n else 0 := by
    intro i hi
    have hlt := Finset.mem_range.mp hi
    by_cases hu : i ∈ unsettled
    · rw [if_pos hu]
      exact (h i _ _ (List.getElem?_eq_getElem hlt)).1
    · rw [if_neg hu, h.settled (hall i hlt hu), Multiset.card_zero]
  unfold owed
  rw [Multiset.card_sum]
  calc ∑ i ∈ Finset.range pool.threads.length, Multiset.card (debts i)
      ≤ ∑ i ∈ Finset.range pool.threads.length, (if i ∈ unsettled then n else 0) := Finset.sum_le_sum hbound
    _ = ((Finset.range pool.threads.length).filter (· ∈ unsettled)).card * n := by
      rw [← Finset.sum_filter, Finset.sum_const, nsmul_eq_mul, Nat.cast_id]
    _ ≤ unsettled.card * n :=
      Nat.mul_le_mul_right n (Finset.card_le_card fun i hi => (Finset.mem_filter.mp hi).2)

end Pool

-- from here on by its rules alone: unfolded, it evaluates the program
attribute [irreducible] Owes

end Calls
