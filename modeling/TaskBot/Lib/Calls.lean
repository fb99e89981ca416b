/-!
# Programs of atomic calls that may fail

A program (`Prog`) computes purely between *calls* on a shared store.  One call
runs atomically; every call has a site, and the environment decides per site
whether the call is answered, fails before it touches the store, or fails after
its effect has been stored (`Fault`).

`run plan p s` executes the whole program alone, under the failure plan `plan`:

* `run_bind`: the run of a sequence is the sequence of the runs;
* `run_attempt`: `attempt p` turns the error of `p` into a value;
* `run_within`: a relation every call is within holds of the run;
* `Yields.bind`: what a sequence moves and answers, from what its parts do;
* `Strict.run_ok`: a program that ends at its first error and answers has met no fault;
* `Writes.bind`: a program that stops at its first error has stored an initial
  segment of its writes, and all of them when it answers;
* `Answers.bind`: a sequence of parts that answer answers;
* `runs_bind`: the same for runs in which every call meets a fault of its own, two
  calls of one site included (`Runs`).
-/

namespace Calls

variable {ι σ ε α β γ : Type}

/-- What the environment does to one call. -/
inductive Fault (ε : Type) where
  | none
  | before (e : ε)
  | after (e : ε)
deriving DecidableEq, Repr

/-- The answer and the store of one call under a fault. -/
def Fault.apply (f : Fault ε) (body : σ → Except ε β × σ) (s : σ) : Except ε β × σ :=
  match f with
  | .none => body s
  | .before e => (.error e, s)
  | .after e => (.error e, (body s).2)

@[simp] theorem Fault.apply_none (body : σ → Except ε β × σ) (s : σ) :
    Fault.none.apply body s = body s := rfl

@[simp] theorem Fault.apply_before (e : ε) (body : σ → Except ε β × σ) (s : σ) :
    (Fault.before e).apply body s = (.error e, s) := rfl

@[simp] theorem Fault.apply_after (e : ε) (body : σ → Except ε β × σ) (s : σ) :
    (Fault.after e).apply body s = (.error e, (body s).2) := rfl

/-- The store after a faulted call is the old one or the one the call stores. -/
theorem Fault.apply_store (f : Fault ε) (body : σ → Except ε β × σ) (s : σ) :
    (f.apply body s).2 = s ∨ (f.apply body s).2 = (body s).2 := by
  cases f with
  | none => exact .inr rfl
  | before e => exact .inl rfl
  | after e => exact .inr rfl

/-- The effect of the call is stored. -/
def Fault.stores : Fault ε → Bool
  | .before _ => false
  | _ => true

theorem Fault.apply_snd (f : Fault ε) (body : σ → Except ε β × σ) (s : σ) :
    (f.apply body s).2 = if f.stores then (body s).2 else s := by
  cases f <;> rfl

/-- An answered call was not faulted. -/
theorem Fault.apply_ok {f : Fault ε} {body : σ → Except ε β × σ} {s : σ} {b : β}
    (h : (f.apply body s).1 = .ok b) : f = .none := by
  cases f with
  | none => rfl
  | before e => cases h
  | after e => cases h

/-- The store after the writes, the first one first. -/
def applyAll (ws : List (σ → σ)) (s : σ) : σ := ws.foldl (fun s w => w s) s

theorem applyAll_append (ws ws' : List (σ → σ)) (s : σ) :
    applyAll (ws ++ ws') s = applyAll ws' (applyAll ws s) := List.foldl_append ..

/-- A program of calls: it has ended, or it makes a call and goes on with the answer. -/
inductive Prog (ι σ ε : Type) (α : Type) : Type 1 where
  | ret (r : Except ε α)
  | call {β : Type} (site : ι) (body : σ → Except ε β × σ) (k : Except ε β → Prog ι σ ε α)

namespace Prog

def bind (p : Prog ι σ ε α) (f : α → Prog ι σ ε β) : Prog ι σ ε β :=
  match p with
  | .ret (.ok a) => f a
  | .ret (.error e) => .ret (.error e)
  | .call site body k => .call site body fun r => (k r).bind f

instance : Monad (Prog ι σ ε) where
  pure a := .ret (.ok a)
  bind := bind

def fail (e : ε) : Prog ι σ ε α := .ret (.error e)

/-- The value of a pure fallible computation. -/
def lift (r : Except ε α) : Prog ι σ ε α := .ret r

/-- One call that answers what `body` answers. -/
def perform (site : ι) (body : σ → Except ε β × σ) : Prog ι σ ε β :=
  .call site body .ret

/-- The program with its error as a value: nothing after it is skipped. -/
def attempt : Prog ι σ ε α → Prog ι σ ε (Except ε α)
  | .ret r => .ret (.ok r)
  | .call site body k => .call site body fun r => (k r).attempt

/-- The site of the next call, if the program has not ended. -/
def nextSite : Prog ι σ ε α → Option ι
  | .ret _ => none
  | .call site _ _ => some site

@[simp] theorem pure_bind (a : α) (f : α → Prog ι σ ε β) : (pure a >>= f) = f a := rfl

@[simp] theorem lift_ok_bind (a : α) (f : α → Prog ι σ ε β) : (lift (.ok a) >>= f) = f a := rfl

@[simp] theorem lift_error_bind (e : ε) (f : α → Prog ι σ ε β) :
    (lift (.error e) >>= f) = fail e := rfl

theorem bind_assoc (p : Prog ι σ ε α) (f : α → Prog ι σ ε β) (g : β → Prog ι σ ε γ) :
    p >>= f >>= g = p >>= fun a => f a >>= g := by
  change (p.bind f).bind g = p.bind fun a => (f a).bind g
  induction p with
  | ret r => cases r <;> rfl
  | call site body k ih => exact congrArg (Prog.call site body) (funext ih)

/-! ## Running alone -/

/-- The answer and the store a program ends with under the failure plan `plan`. -/
def run (plan : ι → Fault ε) : Prog ι σ ε α → σ → Except ε α × σ
  | .ret r, s => (r, s)
  | .call site body k, s =>
      let o := (plan site).apply body s
      (k o.1).run plan o.2

variable (plan : ι → Fault ε)

@[simp] theorem run_ret (r : Except ε α) (s : σ) :
    (Prog.ret r : Prog ι σ ε α).run plan s = (r, s) := rfl

@[simp] theorem run_pure (a : α) (s : σ) :
    (pure a : Prog ι σ ε α).run plan s = (.ok a, s) := rfl

@[simp] theorem run_fail (e : ε) (s : σ) :
    (fail e : Prog ι σ ε α).run plan s = (.error e, s) := rfl

@[simp] theorem run_lift (r : Except ε α) (s : σ) :
    (lift r : Prog ι σ ε α).run plan s = (r, s) := rfl

@[simp] theorem run_perform (site : ι) (body : σ → Except ε β × σ) (s : σ) :
    (perform site body).run plan s = (plan site).apply body s := rfl

/-- **The run of a sequence.** -/
theorem run_bind (p : Prog ι σ ε α) (f : α → Prog ι σ ε β) (s : σ) :
    (p >>= f).run plan s =
      match p.run plan s with
      | (.ok a, s') => (f a).run plan s'
      | (.error e, s') => (.error e, s') := by
  change (p.bind f).run plan s = _
  induction p generalizing s with
  | ret r => cases r <;> rfl
  | call site body k ih => exact ih _ _

theorem run_bind_ok {p : Prog ι σ ε α} {f : α → Prog ι σ ε β} {s s' : σ} {a : α}
    (h : p.run plan s = (.ok a, s')) : (p >>= f).run plan s = (f a).run plan s' := by
  rw [run_bind, h]

theorem run_bind_error {p : Prog ι σ ε α} {f : α → Prog ι σ ε β} {s s' : σ} {e : ε}
    (h : p.run plan s = (.error e, s')) : (p >>= f).run plan s = (.error e, s') := by
  rw [run_bind, h]

theorem run_attempt (p : Prog ι σ ε α) (s : σ) :
    p.attempt.run plan s = (.ok (p.run plan s).1, (p.run plan s).2) := by
  induction p generalizing s with
  | ret r => rfl
  | call site body k ih => exact ih _ _

/-- `for a in l { f a }`: the first error ends the loop. -/
def forEach (f : α → Prog ι σ ε Unit) : List α → Prog ι σ ε Unit
  | [] => pure ()
  | a :: l => f a >>= fun _ => forEach f l

/-- A loop whose body always answers runs as a fold. -/
theorem run_forEach {f : α → Prog ι σ ε Unit} {step : σ → α → σ}
    (h : ∀ a s, (f a).run plan s = (.ok (), step s a)) (l : List α) (s : σ) :
    (forEach f l).run plan s = (.ok (), l.foldl step s) := by
  induction l generalizing s with
  | nil => rfl
  | cons a l ih =>
    unfold forEach
    rw [run_bind_ok plan (h a s), ih]
    rfl

/-- A loop that ends without an error has gone through all its rounds. -/
theorem run_forEach_ok {f : α → Prog ι σ ε Unit} {step : σ → α → σ}
    (h : ∀ a s s', (f a).run plan s = (.ok (), s') → s' = step s a) {l : List α} {s s' : σ}
    (hrun : (forEach f l).run plan s = (.ok (), s')) : s' = l.foldl step s := by
  induction l generalizing s with
  | nil =>
    cases hrun
    rfl
  | cons a l ih =>
    unfold forEach at hrun
    cases hr : (f a).run plan s with
    | mk r s₁ =>
      cases r with
      | ok u =>
        rw [run_bind_ok plan hr] at hrun
        rw [ih hrun, h a s s₁ hr]
        rfl
      | error e =>
        rw [run_bind_error plan hr] at hrun
        cases hrun

/-- **The loop rule**: `I` holds of the items still to come before each round, `R` when
the loop ends or a round fails. -/
theorem forEach_keeps {f : α → Prog ι σ ε Unit} {I : List α → σ → Prop} {R : σ → Prop}
    (hdone : ∀ s, I [] s → R s)
    (hfail : ∀ a l s e s', I (a :: l) s → (f a).run plan s = (.error e, s') → R s')
    (hstep : ∀ a l s s', I (a :: l) s → (f a).run plan s = (.ok (), s') → I l s') :
    ∀ l s, I l s → R ((forEach f l).run plan s).2 := by
  intro l
  induction l with
  | nil => exact fun s h => hdone s h
  | cons a l ih =>
    intro s h
    unfold forEach
    cases hr : (f a).run plan s with
    | mk r s' =>
      cases r with
      | ok u =>
        rw [run_bind_ok plan hr]
        exact ih s' (hstep a l s s' h hr)
      | error e =>
        rw [run_bind_error plan hr]
        exact hfail a l s e s' h hr

/-! ## Programs on a part of the store -/

section

variable {τ : Type} (get : τ → σ) (set : σ → τ → τ)

/-- The program on the part `get` of a larger store. -/
def focus : Prog ι σ ε α → Prog ι τ ε α
  | .ret r => .ret r
  | .call site body k =>
      .call site (fun t => ((body (get t)).1, set (body (get t)).2 t)) fun r => focus (k r)

/-- **A program on a part runs there**, and leaves the rest alone. -/
theorem run_focus (hgs : ∀ s t, get (set s t) = s) (hsg : ∀ t, set (get t) t = t)
    (hss : ∀ s s' t, set s (set s' t) = set s t) (plan : ι → Fault ε) (p : Prog ι σ ε α) (t : τ) :
    (p.focus get set).run plan t = ((p.run plan (get t)).1, set (p.run plan (get t)).2 t) := by
  induction p generalizing t with
  | ret r => exact Prod.ext rfl (hsg t).symm
  | call site body k ih =>
    unfold focus run
    cases hf : plan site with
    | none =>
      simp only [Fault.apply_none]
      rw [ih, hgs, hss]
    | before e =>
      simp only [Fault.apply_before]
      rw [ih]
    | after e =>
      simp only [Fault.apply_after]
      rw [ih, hgs, hss]

end

/-! ## Programs whose calls are all within a relation -/

/-- Whatever the store and the answers, every call moves the store within `K`. -/
inductive Within (K : σ → σ → Prop) : Prog ι σ ε α → Prop where
  | ret (r : Except ε α) : Within K (.ret r)
  | call {β : Type} {site : ι} {body : σ → Except ε β × σ} {k : Except ε β → Prog ι σ ε α}
      (h : ∀ s, K s (body s).2) (hk : ∀ r, Within K (k r)) : Within K (.call site body k)

namespace Within

variable {K K' : σ → σ → Prop}

theorem pure (a : α) : (Pure.pure a : Prog ι σ ε α).Within K := .ret _

theorem lift (r : Except ε α) : (Prog.lift r : Prog ι σ ε α).Within K := .ret _

theorem fail (e : ε) : (Prog.fail e : Prog ι σ ε α).Within K := .ret _

theorem perform {site : ι} {body : σ → Except ε β × σ} (h : ∀ s, K s (body s).2) :
    (perform site body).Within K := .call h fun _ => .ret _

theorem bind {p : Prog ι σ ε α} {f : α → Prog ι σ ε β} (hp : p.Within K)
    (hf : ∀ a, (f a).Within K) : (p >>= f).Within K := by
  change (p.bind f).Within K
  induction hp with
  | ret r =>
    cases r with
    | ok a => exact hf a
    | error e => exact .ret _
  | call h _ ih => exact .call h ih

theorem attempt {p : Prog ι σ ε α} (hp : p.Within K) : p.attempt.Within K := by
  induction hp with
  | ret r => exact .ret _
  | call h _ ih => exact .call h ih

theorem forEach {f : α → Prog ι σ ε Unit} {l : List α} (hf : ∀ a ∈ l, (f a).Within K) :
    (forEach f l).Within K := by
  induction l with
  | nil => exact .pure ()
  | cons a l ih =>
    exact .bind (hf a List.mem_cons_self) fun _ => ih fun b hb => hf b (List.mem_cons_of_mem a hb)

theorem mono {p : Prog ι σ ε α} (hp : p.Within K) (hKK' : ∀ s s', K s s' → K' s s') :
    p.Within K' := by
  induction hp with
  | ret r => exact .ret _
  | call h _ ih => exact .call (fun s => hKK' _ _ (h s)) ih

theorem and {p : Prog ι σ ε α} (hp : p.Within K) (hp' : p.Within K') : p.Within fun s s' => K s s' ∧ K' s s' := by
  induction hp with
  | ret r => exact .ret _
  | call h _ ih =>
    cases hp' with
    | call h' hk' => exact .call (fun s => ⟨h s, h' s⟩) fun r => ih r (hk' r)

/-- A program that only reads keeps whatever is reflexive. -/
theorem of_reads {p : Prog ι σ ε α} (hp : p.Within Eq) (hrefl : ∀ s, K s s) : p.Within K :=
  hp.mono fun s _ he => he ▸ hrefl s

/-- On a part of the store, the part moves within the relation. -/
theorem focus {τ : Type} {get : τ → σ} {set : σ → τ → τ} (hgs : ∀ s t, get (set s t) = s)
    {p : Prog ι σ ε α} (hp : p.Within K) : (p.focus get set).Within fun t t' => K (get t) (get t') := by
  induction hp with
  | ret r => exact .ret _
  | call h _ ih =>
    refine .call (fun t => ?_) ih
    rw [hgs]
    exact h (get t)

end Within

/-- **What every call is within, the run is within.** -/
theorem run_within {K : σ → σ → Prop} (hrefl : ∀ s, K s s)
    (htrans : ∀ s s' s'', K s s' → K s' s'' → K s s'') {p : Prog ι σ ε α} (hp : p.Within K) (s : σ) :
    K s (p.run plan s).2 := by
  induction hp generalizing s with
  | ret r => exact hrefl s
  | @call _ site body k hbody _ ih =>
    have hk := ih ((plan site).apply body s).1 ((plan site).apply body s).2
    rcases (plan site).apply_store body s with h | h
    · rw [h] at hk
      rw [run, h]
      exact hk
    · rw [h] at hk
      exact htrans _ _ _ (hbody s) (by rw [run, h]; exact hk)

/-- A program that only reads leaves the store as it is. -/
theorem run_of_reads {p : Prog ι σ ε α} (hp : p.Within Eq) (s : σ) : (p.run plan s).2 = s :=
  (run_within plan (fun _ => rfl) (fun _ _ _ => Eq.trans) hp s).symm

/-- What follows and only reads keeps the store. -/
theorem store_bind_reads {p : Prog ι σ ε α} {f : α → Prog ι σ ε β} {s s' : σ}
    (hp : (p.run plan s).2 = s') (hf : ∀ a, (f a).Within Eq) : ((p >>= f).run plan s).2 = s' := by
  cases hr : (p.run plan s).1 with
  | ok a =>
    rw [run_bind_ok plan (Prod.ext hr hp)]
    exact run_of_reads plan (hf a) s'
  | error e => rw [run_bind_error plan (Prod.ext hr hp)]

/-! ## Answers of programs that only read -/

/-- Alone on the store `s` the program changes nothing, and what it answers satisfies `Q`. -/
def Reads (p : Prog ι σ ε α) (s : σ) (Q : α → Prop) : Prop :=
  ∀ plan : ι → Fault ε, (p.run plan s).2 = s ∧ ∀ a, (p.run plan s).1 = .ok a → Q a

namespace Reads

variable {s : σ} {Q : α → Prop} {Q' : β → Prop}

theorem pure {a : α} (h : Q a) : (Pure.pure a : Prog ι σ ε α).Reads s Q := by
  refine fun plan => ⟨rfl, fun b hb => ?_⟩
  cases hb
  exact h

theorem lift {r : Except ε α} (h : ∀ a, r = .ok a → Q a) : (Prog.lift r : Prog ι σ ε α).Reads s Q :=
  fun _ => ⟨rfl, h⟩

/-- A statement that answers `ans` of the store. -/
theorem perform {site : ι} {ans : σ → Except ε α} (h : ∀ a, ans s = .ok a → Q a) :
    (Prog.perform site fun s => (ans s, s)).Reads s Q := by
  intro plan
  rw [run_perform]
  cases plan site with
  | none => exact ⟨rfl, h⟩
  | before e => exact ⟨rfl, fun a ha => by cases ha⟩
  | after e => exact ⟨rfl, fun a ha => by cases ha⟩

theorem bind {p : Prog ι σ ε α} {f : α → Prog ι σ ε β} (hp : p.Reads s Q)
    (hf : ∀ a, Q a → (f a).Reads s Q') : (p >>= f).Reads s Q' := by
  intro plan
  obtain ⟨hs, hq⟩ := hp plan
  cases hr : (p.run plan s).1 with
  | ok a =>
    rw [run_bind_ok plan (Prod.ext hr hs)]
    exact hf a (hq a hr) plan
  | error e =>
    rw [run_bind_error plan (Prod.ext hr hs)]
    exact ⟨rfl, fun b hb => by cases hb⟩

end Reads

/-! ## What every run moves and answers -/

/-- Whatever fails: the run moves the store within `K`, and what it answers is in `Q`. -/
def Yields (K : σ → σ → Prop) (p : Prog ι σ ε α) (Q : α → Prop) : Prop :=
  ∀ (plan : ι → Fault ε) (s : σ), K s (p.run plan s).2 ∧ ∀ a, (p.run plan s).1 = .ok a → Q a

namespace Yields

variable {K : σ → σ → Prop} {Q Q' : α → Prop} {R : β → Prop}

theorem pure (hrefl : ∀ s, K s s) {a : α} (h : Q a) : Yields K (Pure.pure a : Prog ι σ ε α) Q := by
  refine fun plan s => ⟨hrefl s, fun b hb => ?_⟩
  cases hb
  exact h

theorem lift (hrefl : ∀ s, K s s) {r : Except ε α} (h : ∀ a, r = .ok a → Q a) :
    Yields K (Prog.lift r : Prog ι σ ε α) Q := fun _ s => ⟨hrefl s, h⟩

theorem fail (hrefl : ∀ s, K s s) (e : ε) : Yields K (Prog.fail e : Prog ι σ ε α) Q :=
  lift hrefl fun _ h => nomatch h

/-- One call; only its answer when it is not faulted counts. -/
theorem perform (hrefl : ∀ s, K s s) {site : ι} {body : σ → Except ε α × σ} (hK : ∀ s, K s (body s).2)
    (hQ : ∀ s a, (body s).1 = .ok a → Q a) : Yields K (Prog.perform site body) Q := by
  intro plan s
  rw [run_perform]
  refine ⟨?_, fun a ha => ?_⟩
  · rcases (plan site).apply_store body s with h | h
    · rw [h]
      exact hrefl s
    · rw [h]
      exact hK s
  · have hnone : plan site = .none := Fault.apply_ok ha
    rw [hnone, Fault.apply_none] at ha
    exact hQ s a ha

theorem of_within (hrefl : ∀ s, K s s) (htrans : ∀ s s' s'', K s s' → K s' s'' → K s s'')
    {p : Prog ι σ ε α} (hp : p.Within K) : Yields K p fun _ => True :=
  fun plan s => ⟨run_within plan hrefl htrans hp s, fun _ _ => trivial⟩

theorem bind (htrans : ∀ s s' s'', K s s' → K s' s'' → K s s'') {p : Prog ι σ ε α}
    {f : α → Prog ι σ ε β} (hp : Yields K p Q) (hf : ∀ a, Q a → Yields K (f a) R) :
    Yields K (p >>= f) R := by
  intro plan s
  obtain ⟨hs, hq⟩ := hp plan s
  cases hr : p.run plan s with
  | mk r s' =>
    rw [hr] at hs hq
    cases r with
    | ok a =>
      rw [run_bind_ok plan hr]
      obtain ⟨hs', hq'⟩ := hf a (hq a rfl) plan s'
      exact ⟨htrans _ _ _ hs hs', hq'⟩
    | error e =>
      rw [run_bind_error plan hr]
      exact ⟨hs, fun b hb => nomatch hb⟩

theorem attempt {p : Prog ι σ ε α} (hp : Yields K p Q) :
    Yields K p.attempt fun r => ∀ a, r = .ok a → Q a := by
  intro plan s
  obtain ⟨hs, hq⟩ := hp plan s
  rw [run_attempt]
  refine ⟨hs, fun r hr => ?_⟩
  cases hr
  exact hq

theorem mono {p : Prog ι σ ε α} (hp : Yields K p Q) (hQ : ∀ a, Q a → Q' a) : Yields K p Q' :=
  fun plan s => ⟨(hp plan s).1, fun a ha => hQ a ((hp plan s).2 a ha)⟩

end Yields

/-! ## Programs that end at their first error -/

/-- The error of a call is the error of the program. -/
inductive Strict : Prog ι σ ε α → Prop where
  | ret (r : Except ε α) : Strict (.ret r)
  | call {β : Type} {site : ι} {body : σ → Except ε β × σ} {k : Except ε β → Prog ι σ ε α}
      (herr : ∀ e, k (.error e) = .ret (.error e)) (hk : ∀ r, Strict (k r)) :
      Strict (.call site body k)

namespace Strict

theorem pure (a : α) : Strict (Pure.pure a : Prog ι σ ε α) := .ret _

theorem lift (r : Except ε α) : Strict (Prog.lift r : Prog ι σ ε α) := .ret _

theorem perform (site : ι) (body : σ → Except ε α × σ) : Strict (Prog.perform site body) :=
  .call (fun _ => rfl) fun _ => .ret _

theorem bind {p : Prog ι σ ε α} {f : α → Prog ι σ ε β} (hp : Strict p) (hf : ∀ a, Strict (f a)) :
    Strict (p >>= f) := by
  change Strict (p.bind f)
  induction hp with
  | ret r =>
    cases r with
    | ok a => exact hf a
    | error e => exact .ret _
  | call herr _ ih =>
    refine .call (fun e => ?_) ih
    rw [herr]
    rfl

/-- **A strict program that answers has met no fault.** -/
theorem run_ok {p : Prog ι σ ε α} (h : Strict p) {plan : ι → Fault ε} {s : σ} {a : α}
    (hok : (p.run plan s).1 = .ok a) : p.run (fun _ => .none) s = p.run plan s := by
  induction h generalizing s with
  | ret r => rfl
  | @call _ site body k herr _ ih =>
    unfold run at hok ⊢
    cases hf : plan site with
    | none =>
      rw [hf] at hok
      exact ih _ hok
    | before e =>
      rw [hf] at hok
      have hend : (run plan (k (.error e)) s).1 = .ok a := hok
      rw [herr] at hend
      cases hend
    | after e =>
      rw [hf] at hok
      have hend : (run plan (k (.error e)) (body s).2).1 = .ok a := hok
      rw [herr] at hend
      cases hend

/-- What a strict program that only reads answers, it answers without faults. -/
theorem reads {p : Prog ι σ ε α} (h : Strict p) (hp : p.Within Eq) (s : σ) :
    p.Reads s fun a => p.run (fun _ => .none) s = (.ok a, s) := by
  intro plan
  have hstore : (p.run plan s).2 = s := run_of_reads plan hp s
  refine ⟨hstore, fun a ha => ?_⟩
  rw [h.run_ok ha]
  exact Prod.ext ha hstore

end Strict

/-! ## Sequences of writes -/

/-- The run from `s` stores an initial segment of the writes, all of them when it answers. -/
def Writes (p : Prog ι σ ε α) (s : σ) (ws : List (σ → σ)) : Prop :=
  ∃ k ≤ ws.length, (p.run plan s).2 = applyAll (ws.take k) s ∧
    ∀ a, (p.run plan s).1 = .ok a → k = ws.length

namespace Writes

variable {plan}

theorem reads {p : Prog ι σ ε α} (hp : p.Within Eq) (s : σ) : Writes plan p s [] :=
  ⟨0, Nat.le_refl 0, run_of_reads plan hp s, fun _ _ => rfl⟩

/-- One write: stored or not, and stored when it answers. -/
theorem perform {site : ι} {body : σ → Except ε β × σ} {w : σ → σ} {s : σ} (h : (body s).2 = w s) :
    Writes plan (Prog.perform site body) s [w] := by
  unfold Writes
  rw [run_perform]
  cases hf : plan site with
  | none => exact ⟨1, Nat.le_refl 1, h, fun _ _ => rfl⟩
  | before e => exact ⟨0, Nat.zero_le 1, rfl, fun a ha => by cases ha⟩
  | after e => exact ⟨1, Nat.le_refl 1, h, fun a ha => by cases ha⟩

/-- **Writes in sequence**: an error of the first part leaves out the second. -/
theorem bind {p : Prog ι σ ε α} {f : α → Prog ι σ ε β} {s : σ} {ws ws' : List (σ → σ)}
    (hp : Writes plan p s ws)
    (hf : ∀ a, p.run plan s = (.ok a, applyAll ws s) → Writes plan (f a) (applyAll ws s) ws') :
    Writes plan (p >>= f) s (ws ++ ws') := by
  obtain ⟨k, hk, hs, hok⟩ := hp
  cases hr : (p.run plan s).1 with
  | error e =>
    have hrun : p.run plan s = (.error e, applyAll (ws.take k) s) := Prod.ext hr hs
    refine ⟨k, by rw [List.length_append]; omega, ?_, ?_⟩
    · rw [run_bind_error plan hrun, List.take_append_of_le_length hk]
    · intro a ha
      rw [run_bind_error plan hrun] at ha
      cases ha
  | ok a =>
    have hlen := hok a hr
    subst hlen
    rw [List.take_length] at hs
    have hrun : p.run plan s = (.ok a, applyAll ws s) := Prod.ext hr hs
    obtain ⟨k', hk', hs', hok'⟩ := hf a hrun
    refine ⟨ws.length + k', by rw [List.length_append]; omega, ?_, ?_⟩
    · rw [run_bind_ok plan hrun, hs', List.take_length_add_append, applyAll_append]
    · intro b hb
      rw [run_bind_ok plan hrun] at hb
      rw [List.length_append, hok' b hb]

/-- A refused value ends the program before any write. -/
theorem lift_bind {r : Except ε β} {f : β → Prog ι σ ε α} {s : σ} {ws : List (σ → σ)}
    (hf : ∀ b, r = .ok b → Writes plan (f b) s ws) : Writes plan (Prog.lift r >>= f) s ws := by
  cases r with
  | ok b => exact hf b rfl
  | error e =>
    refine ⟨0, Nat.zero_le _, rfl, fun a ha => ?_⟩
    cases ha

/-- What follows and only reads adds no write. -/
theorem bind_reads {p : Prog ι σ ε α} {f : α → Prog ι σ ε β} {s : σ} {ws : List (σ → σ)}
    (hp : Writes plan p s ws) (hf : ∀ a, (f a).Within Eq) : Writes plan (p >>= f) s ws := by
  have hrest : ∀ a, p.run plan s = (.ok a, applyAll ws s) → Writes plan (f a) (applyAll ws s) [] :=
    fun a _ => reads (hf a) (applyAll ws s)
  have h := hp.bind hrest
  rw [List.append_nil] at h
  exact h

end Writes

/-! ## Answers -/

/-- The run from `s` answers. -/
def Answers (p : Prog ι σ ε α) (s : σ) : Prop := ∃ a s', p.run plan s = (.ok a, s')

namespace Answers

variable {plan} {s : σ}

theorem pure (a : α) (s : σ) : Answers plan (Pure.pure a : Prog ι σ ε α) s := ⟨a, s, rfl⟩

/-- **A sequence of answers.** -/
theorem bind {p : Prog ι σ ε α} {f : α → Prog ι σ ε β} (hp : Answers plan p s)
    (hf : ∀ a s', p.run plan s = (.ok a, s') → Answers plan (f a) s') : Answers plan (p >>= f) s := by
  obtain ⟨a, s', hrun⟩ := hp
  obtain ⟨b, s'', hrest⟩ := hf a s' hrun
  exact ⟨b, s'', (run_bind_ok plan hrun).trans hrest⟩

theorem of_run {p : Prog ι σ ε α} {f : α → Prog ι σ ε β} {a : α} {s' : σ} (hp : p.run plan s = (.ok a, s'))
    (hf : Answers plan (f a) s') : Answers plan (p >>= f) s := by
  refine bind ⟨a, s', hp⟩ fun b s'' hrun => ?_
  rw [hp] at hrun
  cases hrun
  exact hf

theorem lift_bind {r : Except ε β} {f : β → Prog ι σ ε α} {b : β} (hr : r = .ok b)
    (hf : Answers plan (f b) s) : Answers plan (Prog.lift r >>= f) s := by
  rw [hr]
  exact hf

end Answers

/-! ## Runs whose calls are faulted one by one -/

/-- The program alone takes the store `s` to `s'` and ends with `r`; each call meets a
fault of its own, one that `C` admits at its site and store. -/
def Runs (C : ι → Fault ε → σ → Prop) : Prog ι σ ε α → σ → Except ε α → σ → Prop
  | .ret r₀, s, r, s' => r = r₀ ∧ s' = s
  | .call site body k, s, r, s' =>
      ∃ f, C site f s ∧ Runs C (k (f.apply body s).1) (f.apply body s).2 r s'

section

variable {C C' : ι → Fault ε → σ → Prop} {s s' : σ}

theorem runs_fail {e : ε} {r : Except ε α} :
    Runs C (fail e : Prog ι σ ε α) s r s' ↔ r = .error e ∧ s' = s := Iff.rfl

/-- **A run of a sequence** is a run of both parts, or of the first up to its error. -/
theorem runs_bind {p : Prog ι σ ε α} {f : α → Prog ι σ ε β} {r : Except ε β} :
    Runs C (p >>= f) s r s' ↔
      (∃ a s₁, Runs C p s (.ok a) s₁ ∧ Runs C (f a) s₁ r s') ∨
        ∃ e, Runs C p s (.error e) s' ∧ r = .error e := by
  change Runs C (p.bind f) s r s' ↔ _
  induction p generalizing s with
  | ret r₀ =>
    cases r₀ with
    | ok a =>
      constructor
      · intro h
        exact .inl ⟨a, s, ⟨rfl, rfl⟩, h⟩
      · rintro (⟨a', s₁, ⟨ha, hs⟩, h⟩ | ⟨e, ⟨he, -⟩, -⟩)
        · cases ha
          subst hs
          exact h
        · cases he
    | error e =>
      constructor
      · rintro ⟨hr, hs⟩
        exact .inr ⟨e, ⟨rfl, hs⟩, hr⟩
      · rintro (⟨a', s₁, ⟨ha, -⟩, -⟩ | ⟨e', ⟨he, hs⟩, hr⟩)
        · cases ha
        · cases he
          exact ⟨hr, hs⟩
  | call site body k ih =>
    constructor
    · rintro ⟨g, hg, h⟩
      rcases (ih _).mp h with ⟨a, s₁, ha, hrest⟩ | ⟨e, he, hr⟩
      · exact .inl ⟨a, s₁, ⟨g, hg, ha⟩, hrest⟩
      · exact .inr ⟨e, ⟨g, hg, he⟩, hr⟩
    · rintro (⟨a, s₁, ⟨g, hg, ha⟩, hrest⟩ | ⟨e, ⟨g, hg, he⟩, hr⟩)
      · exact ⟨g, hg, (ih _).mpr (.inl ⟨a, s₁, ha, hrest⟩)⟩
      · exact ⟨g, hg, (ih _).mpr (.inr ⟨e, he, hr⟩)⟩

theorem runs_lift_bind {r₀ : Except ε β} {f : β → Prog ι σ ε α} {r : Except ε α} :
    Runs C (lift r₀ >>= f) s r s' ↔
      (∃ b, r₀ = .ok b ∧ Runs C (f b) s r s') ∨ ∃ e, r₀ = .error e ∧ r = .error e ∧ s' = s := by
  cases r₀ with
  | ok b => simp
  | error e => simp [runs_fail]

theorem runs_perform {site : ι} {body : σ → Except ε α × σ} {r : Except ε α} :
    Runs C (perform site body) s r s' ↔ ∃ f, C site f s ∧ f.apply body s = (r, s') := by
  constructor
  · rintro ⟨f, hf, hr, hs⟩
    exact ⟨f, hf, Prod.ext hr.symm hs.symm⟩
  · rintro ⟨f, hf, h⟩
    refine ⟨f, hf, ?_⟩
    rw [h]
    exact ⟨rfl, rfl⟩

theorem runs_attempt {p : Prog ι σ ε α} {r : Except ε (Except ε α)} :
    Runs C p.attempt s r s' ↔ ∃ r₀, r = .ok r₀ ∧ Runs C p s r₀ s' := by
  induction p generalizing s with
  | ret r₀ =>
    constructor
    · rintro ⟨hr, hs⟩
      exact ⟨r₀, hr, rfl, hs⟩
    · rintro ⟨r₁, hr, rfl, hs⟩
      exact ⟨hr, hs⟩
  | call site body k ih =>
    constructor
    · rintro ⟨g, hg, h⟩
      obtain ⟨r₀, hr, h₀⟩ := (ih _).mp h
      exact ⟨r₀, hr, g, hg, h₀⟩
    · rintro ⟨r₀, hr, g, hg, h₀⟩
      exact ⟨g, hg, (ih _).mpr ⟨r₀, hr, h₀⟩⟩

theorem Runs.mono {p : Prog ι σ ε α} {r : Except ε α} (h : Runs C p s r s')
    (hC : ∀ site f s, C site f s → C' site f s) : Runs C' p s r s' := by
  induction p generalizing s with
  | ret r₀ => exact h
  | call site body k ih =>
    obtain ⟨g, hg, hk⟩ := h
    exact ⟨g, hC _ _ _ hg, ih _ hk⟩

/-- A program whose calls are all within `K` moves the store within `K`. -/
theorem Runs.within {K : σ → σ → Prop} (hrefl : ∀ s, K s s)
    (htrans : ∀ s s' s'', K s s' → K s' s'' → K s s'') {p : Prog ι σ ε α} (hp : p.Within K)
    {r : Except ε α} (h : Runs C p s r s') : K s s' := by
  induction hp generalizing s with
  | ret r₀ =>
    obtain ⟨-, rfl⟩ := h
    exact hrefl _
  | @call _ site body k hbody _ ih =>
    obtain ⟨g, -, hk⟩ := h
    have hrest := ih _ hk
    rcases g.apply_store body s with hs | hs
    · rw [hs] at hrest
      exact hrest
    · rw [hs] at hrest
      exact htrans _ _ _ (hbody s) hrest

/-- `C` admits the faults the plan gives to the calls the program makes. -/
def Admitted (C : ι → Fault ε → σ → Prop) (plan : ι → Fault ε) : Prog ι σ ε α → σ → Prop
  | .ret _, _ => True
  | .call site body k, s =>
      let o := (plan site).apply body s
      C site (plan site) s ∧ Admitted C plan (k o.1) o.2

theorem admitted_of_forall {plan : ι → Fault ε} (hC : ∀ site s, C site (plan site) s)
    (p : Prog ι σ ε α) (s : σ) : Admitted C plan p s := by
  induction p generalizing s with
  | ret r₀ => trivial
  | call site body k ih => exact ⟨hC site s, ih _ _⟩

theorem admitted_call {plan : ι → Fault ε} {site : ι} {body : σ → Except ε β × σ}
    {k : Except ε β → Prog ι σ ε α} {r : Except ε β} (hC : C site (plan site) s)
    (happly : (plan site).apply body s = (r, s')) (hk : Admitted C plan (k r) s') :
    Admitted C plan (.call site body k) s := by
  unfold Admitted
  rw [happly]
  exact ⟨hC, hk⟩

/-- A run under a failure plan is one of the runs. -/
theorem runs_run {plan : ι → Fault ε} {p : Prog ι σ ε α} (h : Admitted C plan p s) :
    Runs C p s (p.run plan s).1 (p.run plan s).2 := by
  induction p generalizing s with
  | ret r₀ => exact ⟨rfl, rfl⟩
  | call site body k ih => exact ⟨plan site, h.1, ih _ h.2⟩

end

end Prog

end Calls
