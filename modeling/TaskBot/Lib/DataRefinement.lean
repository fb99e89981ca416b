import TaskBot.Lib.RelyGuarantee

/-!
# Two stores under one interface

A `Client` computes between operations of an interface `Op` and does not see the store behind them; an
`Impl` gives every operation its site and what it does to a store.  `Impl.Refines` relates an
implementation on one store to an implementation on another: from related stores every operation gives
the same answer and leaves related stores.

* `Client.run_refines`: a client alone sees no difference, whatever its calls meet;
* `Client.pool_refines`: neither do any number of clients that run at the same time.
-/

namespace Calls

variable {Op : Type → Type} {ι σ τ ε κ α β : Type}

/-- A program of operations. -/
inductive Client (Op : Type → Type) (ε : Type) (α : Type) : Type 1 where
  | ret (r : Except ε α)
  | call {β : Type} (op : Op β) (k : Except ε β → Client Op ε α)

namespace Client

def bind (p : Client Op ε α) (f : α → Client Op ε β) : Client Op ε β :=
  match p with
  | .ret (.ok a) => f a
  | .ret (.error e) => .ret (.error e)
  | .call op k => .call op fun r => (k r).bind f

instance : Monad (Client Op ε) where
  pure a := .ret (.ok a)
  bind := bind

def ask (op : Op α) : Client Op ε α := .call op .ret

def lift (r : Except ε α) : Client Op ε α := .ret r

end Client

structure Impl (Op : Type → Type) (ι σ ε : Type) where
  site : {β : Type} → Op β → ι
  body : {β : Type} → Op β → σ → Except ε β × σ

/-- The program the client is on a store. -/
def Client.on (impl : Impl Op ι σ ε) : Client Op ε α → Prog ι σ ε α
  | .ret r => .ret r
  | .call op k => .call (impl.site op) (impl.body op) fun r => (k r).on impl

@[simp] theorem Client.on_lift (impl : Impl Op ι σ ε) (r : Except ε α) :
    (Client.lift r).on impl = Prog.lift r := rfl

@[simp] theorem Client.on_pure (impl : Impl Op ι σ ε) (a : α) :
    (pure a : Client Op ε α).on impl = pure a := rfl

@[simp] theorem Client.on_ask (impl : Impl Op ι σ ε) (op : Op α) :
    (Client.ask op).on impl = Prog.perform (impl.site op) (impl.body op) := rfl

theorem Client.on_bind (impl : Impl Op ι σ ε) (p : Client Op ε α) (f : α → Client Op ε β) :
    (p >>= f).on impl = p.on impl >>= fun a => (f a).on impl := by
  change (p.bind f).on impl = (p.on impl).bind fun a => (f a).on impl
  induction p with
  | ret r => cases r <;> rfl
  | call op k ih => exact congrArg (Prog.call _ _) (funext ih)

theorem Client.on_eq_ret {impl : Impl Op ι σ ε} {p : Client Op ε α} {r : Except ε α} :
    p.on impl = .ret r ↔ p = .ret r := by
  cases p with
  | ret r' =>
    refine ⟨fun h => ?_, fun h => ?_⟩
    · cases h
      rfl
    · cases h
      rfl
  | call op k => exact ⟨(nomatch ·), (nomatch ·)⟩

/-- Every operation answers the same on related stores, and leaves them related. -/
structure Impl.Refines (R : τ → σ → Prop) (concrete : Impl Op ι τ ε) (abstract : Impl Op ι σ ε) : Prop where
  site : ∀ {β : Type} (op : Op β), concrete.site op = abstract.site op
  answer : ∀ {β : Type} (op : Op β) (t : τ) (s : σ), R t s → (concrete.body op t).1 = (abstract.body op s).1
  store : ∀ {β : Type} (op : Op β) (t : τ) (s : σ), R t s → R (concrete.body op t).2 (abstract.body op s).2

namespace Impl.Refines

variable {R : τ → σ → Prop} {concrete : Impl Op ι τ ε} {abstract : Impl Op ι σ ε}

/-- The fault decides both calls alike. -/
theorem apply (h : Refines R concrete abstract) (f : Fault ε) (op : Op β) {t : τ} {s : σ} (hts : R t s) :
    (f.apply (concrete.body op) t).1 = (f.apply (abstract.body op) s).1 ∧
      R (f.apply (concrete.body op) t).2 (f.apply (abstract.body op) s).2 := by
  cases f with
  | none => exact ⟨h.answer op t s hts, h.store op t s hts⟩
  | before e => exact ⟨rfl, hts⟩
  | after e => exact ⟨rfl, h.store op t s hts⟩

end Impl.Refines

variable {R : τ → σ → Prop} {concrete : Impl Op ι τ ε} {abstract : Impl Op ι σ ε}

/-- **A client cannot tell the stores apart.** -/
theorem Client.run_refines (h : concrete.Refines R abstract) (p : Client Op ε α) (plan : ι → Fault ε) {t : τ}
    {s : σ} (hts : R t s) :
    ((p.on concrete).run plan t).1 = ((p.on abstract).run plan s).1 ∧
      R ((p.on concrete).run plan t).2 ((p.on abstract).run plan s).2 := by
  induction p generalizing t s with
  | ret r => exact ⟨rfl, hts⟩
  | call op k ih =>
    obtain ⟨hanswer, hstore⟩ := h.apply (plan (concrete.site op)) op hts
    simp only [Client.on, Prog.run]
    rw [← h.site op, hanswer]
    exact ih _ hstore

/-! ## At the same time -/

/-- The threads are the same clients, on related stores. -/
structure Pool.Same (R : τ → σ → Prop) (concrete : Impl Op ι τ ε) (abstract : Impl Op ι σ ε)
    (c : Pool ι τ ε κ α) (a : Pool ι σ ε κ α) : Prop where
  store : R c.store a.store
  threads : ∃ clients : List (κ × Client Op ε α),
    c.threads = clients.map (fun p => (p.1, p.2.on concrete)) ∧
      a.threads = clients.map fun p => (p.1, p.2.on abstract)

/-- One thread makes its call. -/
theorem Pool.Same.step (h : concrete.Refines R abstract) {c : Pool ι τ ε κ α} {a : Pool ι σ ε κ α}
    (hsame : c.Same R concrete abstract a) (i : Nat) (f : Fault ε) :
    (c.step i f).Same R concrete abstract (a.step i f) := by
  obtain ⟨clients, hc, ha⟩ := hsame.threads
  cases hi : clients[i]? with
  | none =>
    have hci : c.threads[i]? = none := by rw [hc, List.getElem?_map, hi]; rfl
    have hai : a.threads[i]? = none := by rw [ha, List.getElem?_map, hi]; rfl
    rw [(Pool.step_none hci f).1, (Pool.step_none hai f).1]
    exact hsame
  | some thread =>
    obtain ⟨who, p⟩ := thread
    have hci : c.threads[i]? = some (who, p.on concrete) := by rw [hc, List.getElem?_map, hi]; rfl
    have hai : a.threads[i]? = some (who, p.on abstract) := by rw [ha, List.getElem?_map, hi]; rfl
    cases p with
    | ret r =>
      rw [(Pool.step_ret hci f).1, (Pool.step_ret hai f).1]
      exact hsame
    | call op k =>
      obtain ⟨hanswer, hstore⟩ := h.apply f op hsame.store
      rw [(Pool.step_call hci f).1, (Pool.step_call hai f).1]
      refine ⟨hstore, clients.set i (who, k (f.apply (abstract.body op) a.store).1), ?_, ?_⟩
      · simp only [hc, List.map_set, hanswer]
      · simp only [ha, List.map_set]

/-- The same threads have ended, with the same answers. -/
theorem Pool.Same.ended {c : Pool ι τ ε κ α} {a : Pool ι σ ε κ α} (hsame : c.Same R concrete abstract a) (i : Nat)
    (who : κ) (r : Except ε α) : c.threads[i]? = some (who, .ret r) ↔ a.threads[i]? = some (who, .ret r) := by
  obtain ⟨clients, hc, ha⟩ := hsame.threads
  rw [hc, ha, List.getElem?_map, List.getElem?_map]
  cases clients[i]? with
  | none => simp
  | some thread =>
    simp only [Option.map_some, Option.some.injEq, Prod.mk.injEq]
    rw [Client.on_eq_ret, Client.on_eq_ret]

/-- **Clients that run at the same time cannot tell the stores apart.** -/
theorem Client.pool_refines (h : concrete.Refines R abstract) (sched : List (Nat × Fault ε)) :
    ∀ {c : Pool ι τ ε κ α} {a : Pool ι σ ε κ α}, c.Same R concrete abstract a →
      (c.exec sched).Same R concrete abstract (a.exec sched) := by
  induction sched with
  | nil => exact fun hsame => hsame
  | cons e sched ih => exact fun hsame => ih (hsame.step h e.1 e.2)

end Calls
