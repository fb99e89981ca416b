import Mathlib.Data.Nat.Basic
import Mathlib.Logic.Function.Basic
import Mathlib.Logic.Relation

/-!
# A value kept for a while

A value is asked of a store and kept for `ttl`.  One lock guards it: who has the lock takes the kept value while it
is young, or asks the store and keeps the answer with the time it arrived.  Meanwhile time passes and the store
changes.

* `Step`: what can happen next, for any number of requests;
* `Step.fair`: one step keeps `Fair`, which says where the kept value and every answer come from;
* `answers_recent`: an answer is the value of the store as it was less than `patience + ttl` ago, if the store
  answers within `patience`;
* `single_flight`: the store is asked for one request at a time.
-/

namespace TtlCache

/-- Where a request is. -/
inductive Phase (ε ω : Type) where
  | waiting
  | entered
  /-- The store has been asked at this time; the answer is on its way. -/
  | asked (v : ω) (at_ : Nat)
  | done (r : Except ε ω) (at_ : Nat)

/-- The request has the lock. -/
def Phase.inside {ε ω : Type} : Phase ε ω → Prop
  | entered | asked _ _ => True
  | waiting | done _ _ => False

structure State (ν σ ε ω : Type) where
  now : Nat
  store : σ
  kept : Option (Nat × ω)
  holder : Option ν
  phase : ν → Phase ε ω

variable {ν σ ε ω : Type} {ttl patience : Nat} {ask : σ → ω}

/-- Nothing is kept, and nobody has come. -/
def State.start (now : Nat) (store : σ) : State ν σ ε ω := ⟨now, store, none, none, fun _ => .waiting⟩

/-- The kept value, while it is young. -/
def State.fresh (ttl : Nat) (s : State ν σ ε ω) : Option ω :=
  match s.kept with
  | some (arrived, v) => if s.now - arrived < ttl then some v else none
  | none => none

variable [DecidableEq ν]

/-- The request goes to this phase. -/
def State.move (s : State ν σ ε ω) (i : ν) (p : Phase ε ω) : State ν σ ε ω :=
  { s with phase := Function.update s.phase i p }

def State.leave (s : State ν σ ε ω) (i : ν) (r : Except ε ω) : State ν σ ε ω :=
  { s.move i (.done r s.now) with holder := none }

/-- Time passes, the store changes, or a request goes on. -/
inductive Step (ttl patience : Nat) (ask : σ → ω) (s : State ν σ ε ω) : State ν σ ε ω → Prop where
  | passes (d : Nat) : Step ttl patience ask s { s with now := s.now + d }
  | changes (store : σ) : Step ttl patience ask s { s with store := store }
  | enters (i : ν) (hphase : s.phase i = .waiting) (hfree : s.holder = none) :
      Step ttl patience ask s { s.move i .entered with holder := some i }
  | hits (i : ν) {v : ω} (hphase : s.phase i = .entered) (hfresh : s.fresh ttl = some v) :
      Step ttl patience ask s (s.leave i (.ok v))
  | asks (i : ν) (hphase : s.phase i = .entered) (hstale : s.fresh ttl = none) :
      Step ttl patience ask s (s.move i (.asked (ask s.store) s.now))
  /-- The store was not asked, or its answer was lost. -/
  | fails (i : ν) (e : ε) (hphase : (s.phase i).inside) : Step ttl patience ask s (s.leave i (.error e))
  | keeps (i : ν) {v : ω} {at_ : Nat} (hphase : s.phase i = .asked v at_) (hquick : s.now ≤ at_ + patience) :
      Step ttl patience ask s { s.leave i (.ok v) with kept := some (s.now, v) }

/-- What can be reached from the start. -/
def Reaches (ttl patience : Nat) (ask : σ → ω) (s s' : State ν σ ε ω) : Prop :=
  Relation.ReflTransGen (Step ttl patience ask) s s'

/-- The store had this value at that time, in a state the run from `s₀` to `s` went through. -/
def Was (ttl patience : Nat) (ask : σ → ω) (s₀ s : State ν σ ε ω) (v : ω) (at_ : Nat) : Prop :=
  ∃ u, Reaches ttl patience ask s₀ u ∧ Reaches ttl patience ask u s ∧ ask u.store = v ∧ u.now = at_

/-- Where the values come from. -/
structure Fair (ttl patience : Nat) (ask : σ → ω) (s₀ s : State ν σ ε ω) : Prop where
  reached : Reaches ttl patience ask s₀ s
  kept : ∀ arrived v, s.kept = some (arrived, v) →
    arrived ≤ s.now ∧ ∃ t, Was ttl patience ask s₀ s v t ∧ t ≤ arrived ∧ arrived ≤ t + patience
  asked : ∀ i v t, s.phase i = .asked v t → t ≤ s.now ∧ Was ttl patience ask s₀ s v t
  answered : ∀ i v at_, s.phase i = .done (.ok v) at_ →
    ∃ t, Was ttl patience ask s₀ s v t ∧ t ≤ at_ ∧ at_ < t + patience + ttl

section

variable {s₀ s s' : State ν σ ε ω}

/-- The phase of a request after one of them has moved. -/
theorem phase_move {i j : ν} {p q : Phase ε ω} (h : Function.update s.phase i p j = q) :
    j = i ∧ p = q ∨ j ≠ i ∧ s.phase j = q := by
  by_cases hji : j = i
  · subst hji
    rw [Function.update_self] at h
    exact .inl ⟨rfl, h⟩
  · rw [Function.update_of_ne hji] at h
    exact .inr ⟨hji, h⟩

theorem Was.later {v : ω} {t : Nat} (h : Was ttl patience ask s₀ s v t) (hstep : Step ttl patience ask s s') :
    Was ttl patience ask s₀ s' v t := by
  obtain ⟨u, hreached, hlater, hvalue, htime⟩ := h
  exact ⟨u, hreached, hlater.tail hstep, hvalue, htime⟩

omit [DecidableEq ν] in
theorem fresh_some {v : ω} (h : s.fresh ttl = some v) :
    ∃ arrived, s.kept = some (arrived, v) ∧ s.now - arrived < ttl := by
  unfold State.fresh at h
  split at h
  · next arrived v' hkept =>
    split at h
    · next hyoung =>
      cases h
      exact ⟨arrived, hkept, hyoung⟩
    · cases h
  · cases h

omit [DecidableEq ν] in
theorem fresh_of_young {arrived : Nat} {v : ω} (hkept : s.kept = some (arrived, v)) (hyoung : s.now - arrived < ttl) :
    s.fresh ttl = some v := by
  unfold State.fresh
  rw [hkept]
  exact if_pos hyoung

/-- **One step keeps the values fair.** -/
theorem Step.fair (hstep : Step ttl patience ask s s') (h : Fair ttl patience ask s₀ s) (httl : 0 < ttl) :
    Fair ttl patience ask s₀ s' := by
  have hreached : Reaches ttl patience ask s₀ s' := h.reached.tail hstep
  have hkept : ∀ arrived v, s.kept = some (arrived, v) → arrived ≤ s.now ∧
      ∃ t, Was ttl patience ask s₀ s' v t ∧ t ≤ arrived ∧ arrived ≤ t + patience := by
    intro arrived v hv
    obtain ⟨hle, t, hwas, hbounds⟩ := h.kept arrived v hv
    exact ⟨hle, t, hwas.later hstep, hbounds⟩
  have hasked : ∀ i v t, s.phase i = .asked v t → t ≤ s.now ∧ Was ttl patience ask s₀ s' v t := by
    intro i v t hp
    obtain ⟨hle, hwas⟩ := h.asked i v t hp
    exact ⟨hle, hwas.later hstep⟩
  have hanswered : ∀ i v at_, s.phase i = .done (.ok v) at_ →
      ∃ t, Was ttl patience ask s₀ s' v t ∧ t ≤ at_ ∧ at_ < t + patience + ttl := by
    intro i v at_ hp
    obtain ⟨t, hwas, hbounds⟩ := h.answered i v at_ hp
    exact ⟨t, hwas.later hstep, hbounds⟩
  -- a move of one request to a phase that is neither asked nor answered, or whose value is accounted for
  have hmove : ∀ (i : ν) (p : Phase ε ω),
      (∀ v t, p = .asked v t → t ≤ s.now ∧ Was ttl patience ask s₀ s' v t) →
      (∀ v at_, p = .done (.ok v) at_ → ∃ t, Was ttl patience ask s₀ s' v t ∧ t ≤ at_ ∧ at_ < t + patience + ttl) →
      (∀ j v t, Function.update s.phase i p j = .asked v t → t ≤ s.now ∧ Was ttl patience ask s₀ s' v t) ∧
      ∀ j v at_, Function.update s.phase i p j = .done (.ok v) at_ →
        ∃ t, Was ttl patience ask s₀ s' v t ∧ t ≤ at_ ∧ at_ < t + patience + ttl := by
    intro i p hp hp'
    constructor
    · intro j v t hj
      rcases phase_move hj with ⟨-, hj⟩ | ⟨-, hj⟩
      · exact hp v t hj
      · exact hasked j v t hj
    · intro j v at_ hj
      rcases phase_move hj with ⟨-, hj⟩ | ⟨-, hj⟩
      · exact hp' v at_ hj
      · exact hanswered j v at_ hj
  cases hstep with
  | passes d =>
    refine ⟨hreached, fun arrived v hv => ?_, fun i v t hp => ?_, hanswered⟩
    · exact ⟨Nat.le_trans (hkept arrived v hv).1 (Nat.le_add_right _ _), (hkept arrived v hv).2⟩
    · exact ⟨Nat.le_trans (hasked i v t hp).1 (Nat.le_add_right _ _), (hasked i v t hp).2⟩
  | changes store => exact ⟨hreached, hkept, hasked, hanswered⟩
  | enters i hphase hfree =>
    obtain ⟨hasked', hanswered'⟩ := hmove i .entered (fun _ _ h => nomatch h) fun _ _ h => nomatch h
    exact ⟨hreached, hkept, hasked', hanswered'⟩
  | @hits i v hphase hfresh =>
    obtain ⟨arrived, hv, hyoung⟩ := fresh_some hfresh
    obtain ⟨hle, t, hwas, hbefore, hsoon⟩ := hkept arrived v hv
    obtain ⟨hasked', hanswered'⟩ := hmove i (.done (.ok v) s.now) (fun _ _ h => nomatch h) fun v' at_ heq => by
      cases heq
      exact ⟨t, hwas, by omega, by omega⟩
    exact ⟨hreached, hkept, hasked', hanswered'⟩
  | asks i hphase hstale =>
    have hwas : Was ttl patience ask s₀ (s.move i (.asked (ask s.store) s.now)) (ask s.store) s.now :=
      ⟨s, h.reached, .single (.asks i hphase hstale), rfl, rfl⟩
    obtain ⟨hasked', hanswered'⟩ := hmove i (.asked (ask s.store) s.now)
      (fun v t heq => by
        cases heq
        exact ⟨Nat.le_refl _, hwas⟩) fun _ _ h => nomatch h
    exact ⟨hreached, hkept, hasked', hanswered'⟩
  | fails i e hphase =>
    obtain ⟨hasked', hanswered'⟩ := hmove i (.done (.error e) s.now) (fun _ _ h => nomatch h) fun _ _ h => nomatch h
    exact ⟨hreached, hkept, hasked', hanswered'⟩
  | @keeps i v at_ hphase hquick =>
    obtain ⟨hle, hwas⟩ := hasked i v at_ hphase
    obtain ⟨hasked', hanswered'⟩ := hmove i (.done (.ok v) s.now) (fun _ _ h => nomatch h) fun v' at' heq => by
      cases heq
      exact ⟨at_, hwas, hle, by omega⟩
    refine ⟨hreached, fun arrived v' hv => ?_, hasked', hanswered'⟩
    cases hv
    exact ⟨Nat.le_refl _, at_, hwas, hle, hquick⟩

theorem fair_start (now : Nat) (store : σ) :
    Fair ttl patience ask (State.start (ν := ν) (ε := ε) now store) (.start now store) where
  reached := .refl
  kept _ _ h := nomatch h
  asked _ _ _ h := nomatch h
  answered _ _ _ h := nomatch h

end

section

variable {now : Nat} {store : σ} {s s' : State ν σ ε ω} {i j : ν} {v : ω} {at_ : Nat}

theorem Reaches.fair (httl : 0 < ttl) (hrun : Reaches ttl patience ask (.start now store) s) :
    Fair ttl patience ask (.start now store) s := by
  induction hrun with
  | refl => exact fair_start now store
  | tail _ hstep ih => exact hstep.fair ih httl

/-- **Answers are recent.** -/
theorem answers_recent (httl : 0 < ttl) (hrun : Reaches ttl patience ask (.start now store) s)
    (hdone : s.phase i = .done (.ok v) at_) :
    ∃ t, Was ttl patience ask (.start now store) s v t ∧ t ≤ at_ ∧ at_ < t + patience + ttl :=
  (hrun.fair httl).answered i v at_ hdone

/-! ## One at a time -/

/-- Who is inside has the lock, and has asked only when what was kept was old. -/
structure Orderly (ttl : Nat) (s : State ν σ ε ω) : Prop where
  inside : ∀ i, (s.phase i).inside → s.holder = some i
  spared : ∀ i v t, s.phase i = .asked v t → ∀ arrived w, s.kept = some (arrived, w) → ttl ≤ t - arrived

theorem inside_move {p : Phase ε ω} (h : ∀ i, (s.phase i).inside → s.holder = some i)
    (hj : ((Function.update s.phase i p) j).inside) : j = i ∧ p.inside ∨ j ≠ i ∧ s.holder = some j := by
  rcases phase_move (s := s) rfl with ⟨hji, hphase⟩ | ⟨hji, hphase⟩
  · rw [← hphase] at hj
    exact .inl ⟨hji, hj⟩
  · rw [← hphase] at hj
    exact .inr ⟨hji, h j hj⟩

/-- Nobody is inside once the holder has left. -/
theorem Orderly.left (h : Orderly ttl s) (hi : (s.phase i).inside) (r : Except ε ω) :
    ∀ j, ¬ ((s.leave i r).phase j).inside := by
  intro j hj
  have hholder := h.inside i hi
  rcases inside_move h.inside hj with ⟨-, hdone⟩ | ⟨hji, hj⟩
  · exact hdone
  · rw [hholder] at hj
    exact hji (Option.some.inj hj).symm

theorem Orderly.leave (h : Orderly ttl s) (hi : (s.phase i).inside) (r : Except ε ω) (kept : Option (Nat × ω)) :
    Orderly ttl { s.leave i r with kept := kept } where
  inside j hj := absurd hj (h.left hi r j)
  spared j v t hj := by
    have hinside : ((s.leave i r).phase j).inside := by
      have hj' : (s.leave i r).phase j = .asked v t := hj
      rw [hj']
      trivial
    exact absurd hinside (h.left hi r j)

omit [DecidableEq ν] in
theorem fresh_none {arrived : Nat} (h : s.fresh ttl = none) (hkept : s.kept = some (arrived, v)) :
    ttl ≤ s.now - arrived := by
  unfold State.fresh at h
  rw [hkept] at h
  simp only [ite_eq_right_iff, reduceCtorEq, imp_false] at h
  omega

theorem Step.orderly (hstep : Step ttl patience ask s s') (h : Orderly ttl s) : Orderly ttl s' := by
  cases hstep with
  | passes d => exact ⟨h.inside, h.spared⟩
  | changes store => exact ⟨h.inside, h.spared⟩
  | enters i hphase hfree =>
    refine ⟨fun j hj => ?_, fun j v t hj => ?_⟩
    · rcases inside_move h.inside hj with ⟨rfl, -⟩ | ⟨-, hj⟩
      · rfl
      · rw [hfree] at hj
        cases hj
    · rcases phase_move hj with ⟨-, hentered⟩ | ⟨-, hj⟩
      · cases hentered
      · exact h.spared j v t hj
  | @hits i v hphase hfresh => exact h.leave (by rw [hphase]; trivial) (.ok v) s.kept
  | asks i hphase hstale =>
    have hholder := h.inside i (by rw [hphase]; trivial)
    refine ⟨fun j hj => ?_, fun j v t hj arrived w hkept => ?_⟩
    · rcases inside_move h.inside hj with ⟨rfl, -⟩ | ⟨-, hj⟩
      · exact hholder
      · exact hj
    · rcases phase_move hj with ⟨-, hasked⟩ | ⟨-, hj⟩
      · cases hasked
        exact fresh_none hstale hkept
      · exact h.spared j v t hj arrived w hkept
  | fails i e hphase => exact h.leave hphase (.error e) s.kept
  | @keeps i v at_ hphase hquick => exact h.leave (by rw [hphase]; trivial) (.ok v) _

theorem Reaches.orderly (hrun : Reaches ttl patience ask (.start now store) s) : Orderly ttl s := by
  induction hrun with
  | refl => exact ⟨fun _ h => h.elim, fun _ _ _ h => nomatch h⟩
  | tail _ hstep ih => exact hstep.orderly ih

/-- **The store is asked for one request at a time**, and never while the kept value is young. -/
theorem single_flight (hrun : Reaches ttl patience ask (.start now store) s) {v w : ω} {t t' : Nat}
    (hi : s.phase i = .asked v t) (hj : s.phase j = .asked w t') :
    i = j ∧ ∀ arrived w, s.kept = some (arrived, w) → ttl ≤ t - arrived := by
  have h := hrun.orderly
  have hholder := h.inside i (by rw [hi]; trivial)
  rw [h.inside j (by rw [hj]; trivial)] at hholder
  exact ⟨(Option.some.inj hholder).symm, h.spared i v t hi⟩

end

end TtlCache
