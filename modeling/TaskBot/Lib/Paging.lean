import Mathlib.Data.List.Sort

/-!
# Paging by key

A query with a cursor answers the rows whose key is below it, the highest first, and
`size` of them at most.  Its client starts without a cursor and takes the key of the
last row of each page as the next one, until a page has none:

    0 < size → keys distinct → rows.length < fuel →
      ∃ visits, follow … fuel none = some visits ∧ the rows visited are all of them, in order
                                                                        (follow_complete)
-/

namespace Paging

section Follow

variable {κ π ε : Type}

/-- The pages from the cursor on, each with the cursor it was asked for with; `none` when the fuel runs
out or a page cannot be fetched. -/
def follow (fetch : Option κ → Except ε π) (next : π → Option κ) :
    Nat → Option κ → Option (List (Option κ × π))
  | 0, _ => none
  | fuel + 1, cursor =>
      match fetch cursor with
      | .error _ => none
      | .ok p =>
          match next p with
          | none => some [(cursor, p)]
          | some c => (follow fetch next fuel (some c)).map fun visits => (cursor, p) :: visits

variable {fetch : Option κ → Except ε π} {next : π → Option κ} {cursor : Option κ} {p : π} (fuel : Nat)

theorem follow_last (hfetch : fetch cursor = .ok p) (hnext : next p = none) :
    follow fetch next (fuel + 1) cursor = some [(cursor, p)] := by
  unfold follow
  rw [hfetch]
  simp only [hnext]

theorem follow_next {c : κ} {visits : List (Option κ × π)} (hfetch : fetch cursor = .ok p)
    (hnext : next p = some c) (h : follow fetch next fuel (some c) = some visits) :
    follow fetch next (fuel + 1) cursor = some ((cursor, p) :: visits) := by
  unfold follow
  rw [hfetch]
  simp only [hnext, h, Option.map_some]

/-- More fuel does not change the pages. -/
theorem follow_le {fuel fuel' : Nat} (hle : fuel ≤ fuel') (cursor : Option κ) {visits : List (Option κ × π)}
    (h : follow fetch next fuel cursor = some visits) : follow fetch next fuel' cursor = some visits := by
  induction fuel generalizing fuel' cursor visits with
  | zero => cases h
  | succ fuel ih =>
    cases fuel' with
    | zero => omega
    | succ fuel' =>
      unfold follow at h ⊢
      cases hp : fetch cursor with
      | error e =>
        rw [hp] at h
        cases h
      | ok p =>
        rw [hp] at h
        simp only at h ⊢
        cases hnext : next p with
        | none =>
          rw [hnext] at h
          exact h
        | some c =>
          rw [hnext] at h
          simp only [Option.map_eq_some_iff] at h ⊢
          obtain ⟨rest, hrest, hvisits⟩ := h
          exact ⟨rest, ih (Nat.le_of_succ_le_succ hle) (some c) hrest, hvisits⟩

end Follow

/-! ## Pages -/

section

variable {α κ : Type} [LinearOrder κ]

def below (key : α → κ) (cursor : Option κ) (a : α) : Bool := cursor.all fun c => key a < c

/-- `ORDER BY key DESC`. -/
def descending (key : α → κ) (rows : List α) : List α := rows.mergeSort fun a b => key b ≤ key a

/-- What is left to fetch at a cursor. -/
def rest (key : α → κ) (rows : List α) (cursor : Option κ) : List α :=
  descending key (rows.filter (below key cursor))

def page (key : α → κ) (rows : List α) (size : Nat) (cursor : Option κ) : List α :=
  (rest key rows cursor).take size

variable {key : α → κ} {rows : List α} {size : Nat}

theorem descending_perm (key : α → κ) (rows : List α) : (descending key rows).Perm rows :=
  List.mergeSort_perm _ _

theorem rest_none (key : α → κ) (rows : List α) : rest key rows none = descending key rows := by
  have hall : rows.filter (below key none) = rows := List.filter_eq_self.mpr fun _ _ => rfl
  unfold rest
  rw [hall]

theorem descending_strict (hdistinct : rows.Pairwise fun a b => key a ≠ key b) :
    (descending key rows).Pairwise fun a b => key b < key a := by
  have hsorted : (descending key rows).Pairwise fun a b => decide (key b ≤ key a) = true := by
    refine List.pairwise_mergeSort (fun a b c hab hbc => ?_) (fun a b => ?_) rows
    · rw [decide_eq_true_iff] at hab hbc ⊢
      exact hbc.trans hab
    · rw [Bool.or_eq_true, decide_eq_true_iff, decide_eq_true_iff]
      exact le_total _ _
  have hne : (descending key rows).Pairwise fun a b => key a ≠ key b :=
    (descending_perm key rows).symm.pairwise hdistinct fun h => h.symm
  refine (hsorted.and hne).imp fun {a b} h => ?_
  exact lt_of_le_of_ne (of_decide_eq_true h.1) h.2.symm

/-- Two lists of the same rows with strictly falling keys are equal. -/
theorem eq_of_strict {l l' : List α} (h : l.Pairwise fun a b => key b < key a)
    (h' : l'.Pairwise fun a b => key b < key a) (hperm : l.Perm l') : l = l' :=
  hperm.eq_of_pairwise (fun _ _ _ _ hab hba => absurd hab hba.asymm) h h'

/-- What is left at the key of a row left at `cursor` is what comes after that row. -/
theorem rest_after (hdistinct : rows.Pairwise fun a b => key a ≠ key b) {cursor : Option κ}
    {pre post : List α} {x : α} (hsplit : rest key rows cursor = pre ++ x :: post) :
    rest key rows (some (key x)) = post := by
  have hstrict : (pre ++ x :: post).Pairwise fun a b => key b < key a := by
    rw [← hsplit]
    exact descending_strict (hdistinct.filter _)
  obtain ⟨-, hpost, hpre⟩ := List.pairwise_append.mp hstrict
  obtain ⟨hlower, hpost⟩ := List.pairwise_cons.mp hpost
  refine eq_of_strict (descending_strict (hdistinct.filter _)) hpost ?_
  have hx : below key cursor x = true := by
    have hmem : x ∈ rest key rows cursor := by
      rw [hsplit]
      exact List.mem_append_right _ List.mem_cons_self
    exact List.of_mem_filter ((descending_perm key _).mem_iff.mp hmem)
  have hfilter : rows.filter (below key (some (key x))) =
      (rows.filter (below key cursor)).filter (below key (some (key x))) := by
    rw [List.filter_filter]
    refine List.filter_congr fun a _ => ?_
    cases hlow : below key (some (key x)) a with
    | false => rfl
    | true =>
      cases cursor with
      | none => rfl
      | some c =>
        have hac : key a < c := lt_trans (of_decide_eq_true hlow) (of_decide_eq_true hx)
        exact (decide_eq_true hac).symm
  have hnone : pre.filter (below key (some (key x))) = [] := by
    rw [List.filter_eq_nil_iff]
    intro a ha hlow
    exact absurd (of_decide_eq_true hlow) (hpre a ha x List.mem_cons_self).asymm
  have hself : below key (some (key x)) x = false := decide_eq_false (lt_irrefl _)
  have hall : post.filter (below key (some (key x))) = post := by
    rw [List.filter_eq_self]
    exact fun a ha => decide_eq_true (hlower a ha)
  have hleft : (rest key rows cursor).filter (below key (some (key x))) = post := by
    rw [hsplit, List.filter_append, List.filter_cons, hself, hnone, hall]
    rfl
  have hperm := ((descending_perm key (rows.filter (below key cursor))).filter (below key (some (key x))))
  rw [← hfilter] at hperm
  calc (rest key rows (some (key x))).Perm (rows.filter (below key (some (key x)))) := descending_perm key _
    _ |>.Perm post := by
        rw [← hleft]
        exact hperm.symm

/-- **Following the cursor visits every row once.**  `fetch` answers each page, and its next cursor is the
key of its last row. -/
theorem follow_complete {π ε : Type} {fetch : Option κ → Except ε π} {next : π → Option κ}
    (hsize : 0 < size) (hdistinct : rows.Pairwise fun a b => key a ≠ key b)
    (hfetch : ∀ cursor, ∃ p, fetch cursor = .ok p ∧
      next p = ((page key rows size cursor).getLast?).map key) :
    ∀ (fuel : Nat) (cursor : Option κ), (rest key rows cursor).length < fuel →
      ∃ visits, follow fetch next fuel cursor = some visits ∧
        (visits.flatMap fun v => page key rows size v.1) = rest key rows cursor ∧
        ∀ v ∈ visits, fetch v.1 = .ok v.2
  | 0, _, hfuel => absurd hfuel (Nat.not_lt_zero _)
  | fuel + 1, cursor, hfuel => by
    obtain ⟨p, hp, hnext⟩ := hfetch cursor
    cases hlast : (page key rows size cursor).getLast? with
    | none =>
      -- the empty page
      have hempty : page key rows size cursor = [] := List.getLast?_eq_none_iff.mp hlast
      have hrest : rest key rows cursor = [] := by
        rcases List.take_eq_nil_iff.mp hempty with hzero | hrest
        · omega
        · exact hrest
      rw [hlast] at hnext
      refine ⟨[(cursor, p)], follow_last fuel hp hnext, ?_, fun v hv => ?_⟩
      · rw [List.flatMap_singleton, hempty, hrest]
      · rw [List.mem_singleton.mp hv]
        exact hp
    | some x =>
      -- a page that ends with `x`, and the rows after `x`
      obtain ⟨pre, hpage⟩ := List.getLast?_eq_some_iff.mp hlast
      have hsplit : rest key rows cursor = pre ++ x :: (rest key rows cursor).drop size := by
        calc rest key rows cursor
            = page key rows size cursor ++ (rest key rows cursor).drop size := (List.take_append_drop _ _).symm
          _ = _ := by rw [hpage, List.append_assoc]; rfl
      have hafter := rest_after hdistinct hsplit
      have hshorter : (rest key rows (some (key x))).length < fuel := by
        have hlength := congrArg List.length hsplit
        rw [List.length_append, List.length_cons] at hlength
        rw [hafter]
        omega
      obtain ⟨visits, hvisits, hrows, hall⟩ := follow_complete hsize hdistinct hfetch fuel (some (key x)) hshorter
      rw [hlast] at hnext
      refine ⟨(cursor, p) :: visits, follow_next fuel hp hnext hvisits, ?_, fun v hv => ?_⟩
      · rw [List.flatMap_cons, hrows, hafter]
        exact List.take_append_drop _ _
      · rcases List.mem_cons.mp hv with rfl | hv
        · exact hp
        · exact hall v hv

end

/-! ## Capped lists -/

/-- **Nothing is cut off** when the first `k` rows that match among the first `n` are all
that match: there are `k` at most, and none stands behind the first `n`. -/
theorem capped_eq_iff {α : Type} {l : List α} (hnodup : l.Nodup) {p : α → Bool} {n k : Nat} :
    ((l.take n).filter p).take k = l.filter p ↔
      (l.filter p).length ≤ k ∧ ∀ a ∈ l.filter p, a ∈ l.take n := by
  constructor
  · intro h
    refine ⟨by rw [← h]; exact List.length_take_le _ _, fun a ha => ?_⟩
    rw [← h] at ha
    exact (List.mem_filter.mp (List.mem_of_mem_take ha)).1
  · rintro ⟨hlen, hall⟩
    have hsplit : l.filter p = (l.take n).filter p ++ (l.drop n).filter p := by
      rw [← List.filter_append, List.take_append_drop]
    have hrest : (l.drop n).filter p = [] := by
      refine List.eq_nil_iff_forall_not_mem.mpr fun a ha => ?_
      have hmem : a ∈ l.filter p := by
        rw [hsplit]
        exact List.mem_append_right _ ha
      exact List.disjoint_take_drop hnodup (Nat.le_refl n) (hall a hmem) (List.mem_filter.mp ha).1
    rw [hrest, List.append_nil] at hsplit
    rw [← hsplit, List.take_of_length_le hlen]

/-- What is cut off is missing in the length. -/
theorem capped_eq_of_length {α : Type} {l : List α} {p : α → Bool} {n k : Nat}
    (h : (((l.take n).filter p).take k).length = (l.filter p).length) :
    ((l.take n).filter p).take k = l.filter p :=
  ((List.take_sublist _ _).trans ((List.take_sublist n l).filter p)).eq_of_length h

end Paging
