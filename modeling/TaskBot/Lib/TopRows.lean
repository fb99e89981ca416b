import Mathlib.Data.List.Sort

/-!
# The first rows of a ranking

`Top key n l top` says that `top` holds the `n` rows of `l` with the highest keys, all of
them if there are fewer, the highest first; rows with one key may stand in any order.

* `top_take_mergeSort`: sorting and cutting gives such rows;
* `top_extend_iff`: when they are still the first rows after more rows have joined.
-/

namespace TopRows

variable {α κ : Type} [LinearOrder κ] {key : α → κ} {n : Nat} {l l' top : List α}

structure Top (key : α → κ) (n : Nat) (l top : List α) : Prop where
  nodup : top.Nodup
  mem : ∀ a ∈ top, a ∈ l
  length : top.length = min n l.length
  sorted : top.Pairwise fun a b => key b ≤ key a
  rest : ∀ a ∈ l, a ∉ top → ∀ b ∈ top, key a ≤ key b

/-- Only the rows count, not their order. -/
theorem Top.perm (h : Top key n l top) (hperm : l.Perm l') : Top key n l' top where
  nodup := h.nodup
  mem a ha := hperm.mem_iff.mp (h.mem a ha)
  length := by rw [h.length, hperm.length_eq]
  sorted := h.sorted
  rest a ha := h.rest a (hperm.mem_iff.mpr ha)

theorem top_take_mergeSort (hnodup : l.Nodup) :
    Top key n l ((l.mergeSort fun a b => key b ≤ key a).take n) := by
  have hperm := List.mergeSort_perm l fun a b => decide (key b ≤ key a)
  have hsorted : (l.mergeSort fun a b => key b ≤ key a).Pairwise fun a b => key b ≤ key a := by
    refine (List.pairwise_mergeSort (fun a b c hab hbc => ?_) (fun a b => ?_) l).imp of_decide_eq_true
    · exact decide_eq_true ((of_decide_eq_true hbc).trans (of_decide_eq_true hab))
    · rw [Bool.or_eq_true, decide_eq_true_iff, decide_eq_true_iff]
      exact le_total _ _
  have hsplit := List.take_append_drop n (l.mergeSort fun a b => key b ≤ key a)
  refine ⟨(hperm.nodup_iff.mpr hnodup).sublist (List.take_sublist _ _),
    fun a ha => hperm.mem_iff.mp (List.mem_of_mem_take ha), by rw [List.length_take, hperm.length_eq],
    hsorted.sublist (List.take_sublist _ _), fun a ha hnot b hb => ?_⟩
  have hdrop : a ∈ (l.mergeSort fun a b => key b ≤ key a).drop n := by
    have hmem := hperm.mem_iff.mpr ha
    rw [← hsplit] at hmem
    exact (List.mem_append.mp hmem).resolve_left hnot
  rw [← hsplit] at hsorted
  exact (List.pairwise_append.mp hsorted).2.2 b hb a hdrop

/-- **When more rows join**, the first rows stay the first exactly if each new row has `n`
old ones that are not below it. -/
theorem top_extend_iff (h : Top key n l top) (hnodup : l.Nodup) (hnodup' : l'.Nodup)
    (hsub : ∀ a ∈ l, a ∈ l') :
    Top key n l' top ↔ ∀ a ∈ l', a ∉ l → n ≤ (l.filter fun b => key a ≤ key b).length := by
  constructor
  · intro h' a ha hnew
    have hnot : a ∉ top := fun hmem => hnew (h.mem a hmem)
    have hfull : top.length = n := by
      have hle : top.length + 1 ≤ l'.length := by
        have hsubperm : (a :: top).Subperm l' :=
          List.subperm_of_subset (List.nodup_cons.mpr ⟨hnot, h'.nodup⟩) fun b hb => by
            rcases List.mem_cons.mp hb with rfl | hb
            · exact ha
            · exact h'.mem b hb
        exact hsubperm.length_le
      have hlen := h'.length
      omega
    rw [← hfull]
    refine (List.subperm_of_subset h.nodup fun b hb => ?_).length_le
    exact List.mem_filter.mpr ⟨h.mem b hb, decide_eq_true (h'.rest a ha hnot b hb)⟩
  · intro hold
    have hle : l.length ≤ l'.length := (List.subperm_of_subset hnodup hsub).length_le
    refine ⟨h.nodup, fun a ha => hsub a (h.mem a ha), ?_, h.sorted, fun a ha hnot b hb => ?_⟩
    · by_cases hall : ∀ a ∈ l', a ∈ l
      · have hge : l'.length ≤ l.length := (List.subperm_of_subset hnodup' hall).length_le
        rw [h.length, Nat.le_antisymm hle hge]
      · obtain ⟨a, ha⟩ := not_forall.mp hall
        obtain ⟨ha, hnew⟩ := Classical.not_imp.mp ha
        have hmany := hold a ha hnew
        have hfilter := List.length_filter_le (fun b => decide (key a ≤ key b)) l
        rw [h.length]
        omega
    · by_cases hmem : a ∈ l
      · exact h.rest a hmem hnot b hb
      · -- a row of the first ones below `a` leaves too few that are not below it
        by_contra hlt
        have hsubperm : (b :: l.filter fun c => key a ≤ key c).Subperm top := by
          refine List.subperm_of_subset (List.nodup_cons.mpr ⟨fun hb' => ?_, hnodup.filter _⟩) fun c hc => ?_
          · exact hlt (of_decide_eq_true (List.mem_filter.mp hb').2)
          · rcases List.mem_cons.mp hc with rfl | hc
            · exact hb
            · obtain ⟨hcl, hac⟩ := List.mem_filter.mp hc
              by_contra hout
              exact hlt ((of_decide_eq_true hac).trans (h.rest c hcl hout b hb))
        have hlen := hsubperm.length_le
        have hmany := hold a ha hmem
        have hcut := h.length
        rw [List.length_cons] at hlen
        omega

end TopRows
