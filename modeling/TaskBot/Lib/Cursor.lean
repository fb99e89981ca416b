import Mathlib.Order.Basic
import Mathlib.Order.Lattice
import Mathlib.Order.Defs.LinearOrder

/-!
# Work that is done and then stepped over

A `Cursor` stands at the next due position of a schedule; an item is made for
the position and the cursor moves on.  The two are separate writes, and either
can be lost.  `made` records the times at which items were made.

A position is *served* once an item was made at or after it.  A firing is
harmless when it makes no second item for a served position and does not move
past an unserved one.

* `step_ledger`: one firing pays for an item by what the position was owed;
* `count_le_one`: harmless firings make at most one item per position;
* `count_eq_one`: exactly one once the cursor has come to the position and past it.
-/

namespace Cursors

variable {τ : Type}

structure Cursor (τ : Type) where
  next : Option τ
  made : List τ

/-- What one firing does: whether it makes an item, and where the cursor moves if it
does. -/
structure Firing (τ : Type) where
  now : τ
  makes : Bool
  moves : Option (Option τ)

/-- A round without a firing leaves the cursor as it is. -/
def Cursor.step (c : Cursor τ) : Option (Firing τ) → Cursor τ
  | none => c
  | some f => ⟨f.moves.getD c.next, if f.makes then c.made ++ [f.now] else c.made⟩

@[simp] theorem step_none (c : Cursor τ) : c.step none = c := rfl

@[simp] theorem next_step (c : Cursor τ) (f : Firing τ) :
    (c.step (some f)).next = f.moves.getD c.next := rfl

@[simp] theorem made_step (c : Cursor τ) (f : Firing τ) :
    (c.step (some f)).made = if f.makes then c.made ++ [f.now] else c.made := rfl

/-- A firing that neither makes nor moves. -/
theorem step_idle {c : Cursor τ} {f : Firing τ} (hmakes : f.makes = false) (hmoves : f.moves = none) :
    c.step (some f) = c := by
  rw [Cursor.step, hmakes, hmoves]
  rfl

variable [LinearOrder τ]

/-- An item was made at or after the position of the cursor. -/
def Cursor.served (c : Cursor τ) : Bool := c.next.any fun x => c.made.any fun y => x ≤ y

/-- The cursor was due, and moves beyond the time of the firing. -/
structure Firing.Legal (f : Firing τ) (c : Cursor τ) : Prop where
  due : ∃ x, c.next = some x ∧ x ≤ f.now
  later : ∀ y, f.moves = some (some y) → f.now < y

structure Firing.Harmless (f : Firing τ) (c : Cursor τ) : Prop where
  once : c.served = true → f.makes = false
  kept : c.served = false → f.moves ≠ none → f.makes = true

def run (fs : List (Option (Firing τ))) (c : Cursor τ) : Cursor τ := fs.foldl Cursor.step c

/-- The items the rounds make while the cursor stands at `x`. -/
def count (x : τ) : List (Option (Firing τ)) → Cursor τ → Nat
  | [], _ => 0
  | f :: fs, c =>
      (if c.next = some x then (c.step f).made.length - c.made.length else 0) + count x fs (c.step f)

/-- Every firing is legal and harmless where it happens. -/
def Proper : List (Option (Firing τ)) → Cursor τ → Prop
  | [], _ => True
  | f :: fs, c => (∀ g, f = some g → g.Legal c ∧ g.Harmless c) ∧ Proper fs (c.step f)

/-- The cursor stands at `x` before some round. -/
def Reaches (x : τ) : List (Option (Firing τ)) → Cursor τ → Prop
  | [], _ => False
  | f :: fs, c => c.next = some x ∨ Reaches x fs (c.step f)

/-- The cursor is past `x`, or at its end. -/
def Past (x : τ) (c : Cursor τ) : Prop := ∀ y, c.next = some y → x < y

/-- The items still to be made for `x`: one while `x` lies ahead or is not served. -/
def owed (x : τ) (c : Cursor τ) : Nat :=
  match c.next with
  | none => 0
  | some y => if y < x ∨ (y = x ∧ c.served = false) then 1 else 0

/-- No item was made after the position of the cursor, unless before `now`. -/
def Tidy (now : τ) (c : Cursor τ) : Prop :=
  ∀ x, c.next = some x → ∀ y ∈ c.made, y < x ∨ y ≤ now

/-- The rounds are in the order of time, none before `now`-tidiness. -/
structure Ordered (fs : List (Option (Firing τ))) (c : Cursor τ) : Prop where
  times : (fs.filterMap id).Pairwise fun f g => f.now ≤ g.now
  tidy : ∀ f ∈ fs.filterMap id, Tidy f.now c

variable {x : τ} {c : Cursor τ} {f : Firing τ} {r : Option (Firing τ)}
  {fs : List (Option (Firing τ))}

theorem served_eq_true : c.served = true ↔ ∃ x, c.next = some x ∧ ∃ y ∈ c.made, x ≤ y := by
  unfold Cursor.served
  rw [Option.any_eq_true]
  simp only [List.any_eq_true, decide_eq_true_eq]

theorem served_eq_false : c.served = false ↔ ∀ x, c.next = some x → ∀ y ∈ c.made, y < x := by
  rw [← Bool.not_eq_true, served_eq_true]
  constructor
  · intro h x hx y hy
    exact lt_of_not_ge fun hle => h ⟨x, hx, y, hy, hle⟩
  · rintro h ⟨x, hx, y, hy, hle⟩
    exact absurd (h x hx y hy) (not_lt_of_ge hle)

/-! ## What is owed -/

theorem owed_past (h : Past x c) : owed x c = 0 := by
  unfold owed
  cases hc : c.next with
  | none => rfl
  | some y =>
    have hlt : x < y := h y hc
    refine if_neg fun hcases => ?_
    rcases hcases with hyx | ⟨hyx, -⟩
    · exact lt_asymm hlt hyx
    · exact hlt.ne hyx.symm

theorem owed_at (h : c.next = some x) : owed x c = if c.served then 0 else 1 := by
  unfold owed
  rw [h]
  cases c.served with
  | false => exact if_pos (.inr ⟨rfl, rfl⟩)
  | true => exact if_neg fun hcases => hcases.elim (lt_irrefl x) fun h => nomatch h.2

theorem owed_ahead {y : τ} (h : c.next = some y) (hy : y < x) : owed x c = 1 := by
  unfold owed
  rw [h]
  exact if_pos (.inl hy)

theorem owed_le_one (x : τ) (c : Cursor τ) : owed x c ≤ 1 := by
  unfold owed
  split
  · exact Nat.zero_le 1
  · split
    · exact Nat.le_refl 1
    · exact Nat.zero_le 1

/-- Where the cursor stands with respect to `x`. -/
theorem position (x : τ) (c : Cursor τ) :
    Past x c ∨ c.next = some x ∨ ∃ y, c.next = some y ∧ y < x := by
  cases hc : c.next with
  | none => exact .inl fun y hy => by rw [hc] at hy; cases hy
  | some y =>
    rcases lt_trichotomy x y with h | h | h
    · refine .inl fun z hz => ?_
      rw [hc] at hz
      cases hz
      exact h
    · exact .inr (.inl (by rw [h]))
    · exact .inr (.inr ⟨y, rfl, h⟩)

/-! ## One round -/

/-- A firing that moves leaves a cursor that is past the old position and not served. -/
theorem step_moved (hl : f.Legal c) (ht : Tidy f.now c) {n : Option τ} (hm : f.moves = some n) :
    (∀ y ∈ (c.step (some f)).made, ∀ z, n = some z → y < z) ∧ (c.step (some f)).served = false := by
  obtain ⟨x, hx, hdue⟩ := hl.due
  have hold : ∀ y ∈ c.made, y ≤ f.now := by
    intro y hy
    rcases ht x hx y hy with hlt | hle
    · exact (hlt.trans_le hdue).le
    · exact hle
  have hmade : ∀ y ∈ (c.step (some f)).made, y ≤ f.now := by
    intro y hy
    rw [made_step] at hy
    split at hy
    · rcases List.mem_append.mp hy with h | h
      · exact hold y h
      · exact (List.mem_singleton.mp h).le
    · exact hold y hy
  have hlt : ∀ y ∈ (c.step (some f)).made, ∀ z, n = some z → y < z := by
    intro y hy z hz
    exact (hmade y hy).trans_lt (hl.later z (by rw [hm, hz]))
  refine ⟨hlt, served_eq_false.mpr fun z hz y hy => ?_⟩
  rw [next_step, hm] at hz
  exact hlt y hy z hz

/-- Once past a position, always past it. -/
theorem past_step (hl : ∀ f, r = some f → f.Legal c) (h : Past x c) : Past x (c.step r) := by
  cases r with
  | none => exact h
  | some f =>
    obtain ⟨y, hy, hdue⟩ := (hl f rfl).due
    intro z hz
    rw [next_step] at hz
    cases hm : f.moves with
    | none =>
      rw [hm] at hz
      exact h z hz
    | some n =>
      rw [hm] at hz
      have hlater : f.now < z := (hl f rfl).later z (by rw [hm]; exact congrArg some hz)
      exact (h y hy).trans (hdue.trans_lt hlater)

/-- The cursor stays at its position or goes past it. -/
theorem at_step (hl : ∀ f, r = some f → f.Legal c) (h : c.next = some x) :
    (c.step r).next = some x ∨ Past x (c.step r) := by
  cases r with
  | none => exact .inl h
  | some f =>
    obtain ⟨y, hy, hdue⟩ := (hl f rfl).due
    have hxy : x = y := Option.some.inj (h.symm.trans hy)
    rw [next_step]
    cases hm : f.moves with
    | none => exact .inl h
    | some n =>
      refine .inr fun z hz => ?_
      rw [next_step, hm] at hz
      have hlater : f.now < z := (hl f rfl).later z (by rw [hm]; exact congrArg some hz)
      rw [hxy]
      exact hdue.trans_lt hlater

/-- **One round at `x`**: an item is made exactly when the debt falls. -/
theorem step_ledger (hok : ∀ f, r = some f → f.Legal c ∧ f.Harmless c)
    (hx : c.next = some x) :
    (c.step r).made.length - c.made.length + owed x (c.step r) = owed x c := by
  cases r with
  | none =>
    rw [step_none, Nat.sub_self, Nat.zero_add]
  | some f =>
    obtain ⟨hl, hh⟩ := hok f rfl
    obtain ⟨y, hy, hdue⟩ := hl.due
    have hxy : x = y := Option.some.inj (hx.symm.trans hy)
    rw [← hxy] at hdue
    -- a move leaves nothing owed
    have hmoved : f.moves ≠ none → owed x (c.step (some f)) = 0 := by
      intro hm
      rcases at_step (fun g hg => (hok g hg).1) hx with hat | hpast
      · cases hmv : f.moves with
        | none => exact absurd hmv hm
        | some n =>
          rw [next_step, hmv] at hat
          have hlater : f.now < x := hl.later x (by rw [hmv]; exact congrArg some hat)
          exact absurd hdue (not_le_of_gt hlater)
      · exact owed_past hpast
    rw [owed_at hx]
    cases hs : c.served with
    | true =>
      have hmakes := hh.once hs
      have hmade : (c.step (some f)).made = c.made := by
        rw [made_step, hmakes]
        rfl
      rw [hmade, Nat.sub_self, Nat.zero_add]
      by_cases hm : f.moves = none
      · rw [step_idle hmakes hm, owed_at hx, hs]
      · exact hmoved hm
    | false =>
      cases hmakes : f.makes with
      | true =>
        have hlen : (c.step (some f)).made.length - c.made.length = 1 := by
          rw [made_step, hmakes, if_pos rfl, List.length_append, List.length_singleton]
          omega
        have howed : owed x (c.step (some f)) = 0 := by
          by_cases hm : f.moves = none
          · have hnext : (c.step (some f)).next = some x := by
              rw [next_step, hm]
              exact hx
            have hserved : (c.step (some f)).served = true := by
              refine served_eq_true.mpr ⟨x, hnext, f.now, ?_, hdue⟩
              rw [made_step, hmakes, if_pos rfl]
              exact List.mem_append_right _ List.mem_cons_self
            rw [owed_at hnext, hserved]
            rfl
          · exact hmoved hm
        rw [hlen, howed]
        rfl
      | false =>
        have hm : f.moves = none := by
          by_contra hm
          rw [hh.kept hs hm] at hmakes
          cases hmakes
        rw [step_idle hmakes hm, Nat.sub_self, Nat.zero_add, owed_at hx, hs]

/-- One round elsewhere: the debt for `x` does not grow, and it is open on arrival. -/
theorem step_ahead (hl : ∀ f, r = some f → f.Legal c) (ht : ∀ f, r = some f → Tidy f.now c)
    (hx : c.next ≠ some x) :
    owed x (c.step r) ≤ owed x c ∧ ((c.step r).next = some x → owed x (c.step r) = 1) := by
  rcases position x c with hpast | hat | ⟨y, hy, hlt⟩
  · have hpast' := past_step hl hpast
    refine ⟨by rw [owed_past hpast']; exact Nat.zero_le _, fun hnext => ?_⟩
    exact absurd (hpast' x hnext) (lt_irrefl x)
  · exact absurd hat hx
  · refine ⟨by rw [owed_ahead hy hlt]; exact owed_le_one _ _, fun hnext => ?_⟩
    cases r with
    | none => exact absurd hnext hx
    | some f =>
      cases hm : f.moves with
      | none =>
        rw [next_step, hm] at hnext
        exact absurd hnext hx
      | some n =>
        obtain ⟨-, hserved⟩ := step_moved (hl f rfl) (ht f rfl) hm
        rw [owed_at hnext, hserved]
        rfl

theorem ordered_step (hl : ∀ f, r = some f → f.Legal c) (h : Ordered (r :: fs) c) :
    Ordered fs (c.step r) := by
  cases r with
  | none => exact ⟨h.times, h.tidy⟩
  | some f =>
    obtain ⟨htimes, htidy⟩ := h
    have hcons : (some f :: fs).filterMap id = f :: fs.filterMap id := rfl
    rw [hcons] at htimes htidy
    obtain ⟨hafter, hrest⟩ := List.pairwise_cons.mp htimes
    refine ⟨hrest, fun g hg z hz y hy => ?_⟩
    cases hm : f.moves with
    | none =>
      rw [next_step, hm] at hz
      rw [made_step] at hy
      split at hy
      · rcases List.mem_append.mp hy with h | h
        · exact htidy g (List.mem_cons_of_mem f hg) z hz y h
        · rw [List.mem_singleton.mp h]
          exact .inr (hafter g hg)
      · exact htidy g (List.mem_cons_of_mem f hg) z hz y hy
    | some n =>
      obtain ⟨hlt, -⟩ := step_moved (hl f rfl) (htidy f List.mem_cons_self) hm
      rw [next_step, hm] at hz
      exact .inl (hlt y hy z hz)

/-! ## Runs -/

theorem Proper.legal (h : Proper (r :: fs) c) : ∀ f, r = some f → f.Legal c := fun f hf => (h.1 f hf).1

theorem Ordered.head (h : Ordered (r :: fs) c) : ∀ f, r = some f → Tidy f.now c := by
  intro f hf
  subst hf
  exact h.tidy f List.mem_cons_self

/-- The items made for `x` and what is still owed never exceed what was owed. -/
theorem count_add_owed_le (x : τ) : ∀ (fs : List (Option (Firing τ))) (c : Cursor τ),
    Proper fs c → Ordered fs c → count x fs c + owed x (run fs c) ≤ owed x c := by
  intro fs
  induction fs with
  | nil =>
    intro c _ _
    exact Nat.le_of_eq (Nat.zero_add _)
  | cons r fs ih =>
    intro c hp ho
    have hrest := ih (c.step r) hp.2 (ordered_step hp.legal ho)
    change (if c.next = some x then _ else 0) + count x fs (c.step r) + owed x (run fs (c.step r)) ≤ _
    by_cases hx : c.next = some x
    · have hstep := step_ledger hp.1 hx
      rw [if_pos hx]
      omega
    · have hstep := (step_ahead hp.legal ho.head hx).1
      rw [if_neg hx]
      omega

/-- **At most one item is made for a position.** -/
theorem count_le_one {x : τ} (hp : Proper fs c) (ho : Ordered fs c) : count x fs c ≤ 1 := by
  have hle := count_add_owed_le x fs c hp ho
  have hone := owed_le_one x c
  omega

theorem past_run {x : τ} : ∀ (fs : List (Option (Firing τ))) (c : Cursor τ),
    Proper fs c → Past x c → Past x (run fs c) := by
  intro fs
  induction fs with
  | nil => exact fun _ _ h => h
  | cons r fs ih => exact fun c hp h => ih (c.step r) hp.2 (past_step hp.legal h)

/-- A run from `x` makes an item exactly when the debt falls. -/
theorem count_add_owed {x : τ} : ∀ (fs : List (Option (Firing τ))) (c : Cursor τ),
    Proper fs c → Ordered fs c → c.next = some x →
      count x fs c + owed x (run fs c) = owed x c ∧
        ((run fs c).next = some x ∨ Past x (run fs c)) := by
  intro fs
  induction fs with
  | nil =>
    intro c _ _ hx
    exact ⟨Nat.zero_add _, .inl hx⟩
  | cons r fs ih =>
    intro c hp ho hx
    have ho' := ordered_step hp.legal ho
    have hstep := step_ledger hp.1 hx
    change (if c.next = some x then _ else 0) + count x fs (c.step r) + owed x (run fs (c.step r)) = _ ∧ _
    rw [if_pos hx]
    rcases at_step hp.legal hx with hat | hpast
    · obtain ⟨hsum, hend⟩ := ih (c.step r) hp.2 ho' hat
      exact ⟨by omega, hend⟩
    · have hrest := count_add_owed_le x fs (c.step r) hp.2 ho'
      have hzero := owed_past hpast
      exact ⟨by omega, .inr (past_run fs (c.step r) hp.2 hpast)⟩

/-- A run that comes to `x` makes its item or still owes it. -/
theorem count_reaches {x : τ} : ∀ (fs : List (Option (Firing τ))) (c : Cursor τ),
    Proper fs c → Ordered fs c → (c.next = some x → owed x c = 1) → Reaches x fs c →
      count x fs c + owed x (run fs c) = 1 ∧ ((run fs c).next = some x ∨ Past x (run fs c)) := by
  intro fs
  induction fs with
  | nil => exact fun _ _ _ _ h => h.elim
  | cons r fs ih =>
    intro c hp ho hopen hreach
    by_cases hx : c.next = some x
    · rw [← hopen hx]
      exact count_add_owed (r :: fs) c hp ho hx
    · have hlater : Reaches x fs (c.step r) := hreach.resolve_left hx
      have harrive := (step_ahead hp.legal ho.head hx).2
      obtain ⟨hsum, hend⟩ := ih (c.step r) hp.2 (ordered_step hp.legal ho) harrive hlater
      refine ⟨?_, hend⟩
      change (if c.next = some x then _ else 0) + count x fs (c.step r) + owed x (run fs (c.step r)) = 1
      rw [if_neg hx, Nat.zero_add]
      exact hsum

/-- A run that has come to `x` is at it or past it. -/
theorem reaches_run {x : τ} (hp : Proper fs c) (ho : Ordered fs c) (hs : c.served = false)
    (hreach : Reaches x fs c) : (run fs c).next = some x ∨ Past x (run fs c) := by
  have hopen : c.next = some x → owed x c = 1 := fun hx => by rw [owed_at hx, hs]; rfl
  exact (count_reaches fs c hp ho hopen hreach).2

/-- **Exactly one item is made for a position** the run comes to and leaves. -/
theorem count_eq_one {x : τ} (hp : Proper fs c) (ho : Ordered fs c) (hs : c.served = false)
    (hreach : Reaches x fs c) (hleft : (run fs c).next ≠ some x) : count x fs c = 1 := by
  have hopen : c.next = some x → owed x c = 1 := fun hx => by rw [owed_at hx, hs]; rfl
  obtain ⟨hsum, hend⟩ := count_reaches fs c hp ho hopen hreach
  have hzero := owed_past (hend.resolve_left hleft)
  omega

end Cursors
