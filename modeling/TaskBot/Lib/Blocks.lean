import Mathlib.Data.List.DropRight
import Mathlib.Data.List.TakeWhile

/-!
# Blocks in a list

A block can stand at several places of a list.  What is left when it is taken out at one of them is
told from what is left at another by the neighbours:

    joins p (x ++ (f ++ y)) = joins p f + joins p (x ++ y) + (1 beside an element of the kind)
                                                                       (joins_block)

`joins` counts the neighbours that are both of one kind, and `strip` leaves out the elements of a kind
at the ends of a list.
-/

namespace Blocks

variable {α : Type} {p q : α → Bool} {l x y : List α}

theorem head_any_eq_false (h : ∀ a ∈ l, p a = false) : l.head?.any p = false := by
  cases l with
  | nil => rfl
  | cons a l => exact h a List.mem_cons_self

theorem last_any_eq_false (h : ∀ a ∈ l, p a = false) : l.getLast?.any p = false := by
  cases hl : l.getLast? with
  | none => rfl
  | some a => exact h a (List.mem_of_getLast? hl)

theorem head_any_append (h : x.head?.any p = true) : (x ++ y).head?.any p = true := by
  cases x with
  | nil => cases h
  | cons a x => exact h

theorem last_any_append (h : y.getLast?.any p = true) : (x ++ y).getLast?.any p = true := by
  rw [List.getLast?_append]
  cases hy : y.getLast? with
  | none =>
    rw [hy] at h
    cases h
  | some a =>
    rw [hy] at h
    exact h

/-! ## Neighbours of one kind -/

/-- The pairs of neighbours that are both of the kind. -/
def joins (p : α → Bool) : List α → Nat
  | [] => 0
  | a :: l => joins p l + if p a && l.head?.any p then 1 else 0

theorem joins_append (p : α → Bool) (x y : List α) : joins p (x ++ y) =
    joins p x + joins p y + if x.getLast?.any p && y.head?.any p then 1 else 0 := by
  induction x with
  | nil => simp [joins]
  | cons a x ih =>
    cases x with
    | nil =>
      show joins p y + (if p a && y.head?.any p then 1 else 0) = joins p [a] + joins p y + _
      simp [joins]
    | cons b x =>
      rw [List.getLast?_cons_cons]
      show joins p (b :: x ++ y) + (if p a && p b then 1 else 0) =
        joins p (b :: x) + (if p a && p b then 1 else 0) + joins p y + _
      rw [ih]
      omega

theorem joins_eq_zero (h : ∀ a ∈ l, p a = false) : joins p l = 0 := by
  induction l with
  | nil => rfl
  | cons a l ih =>
    rw [joins, ih fun b hb => h b (List.mem_cons_of_mem a hb), h a List.mem_cons_self]
    rfl

/-- Elements of other kinds at the ends count for nothing. -/
theorem joins_between {lead trail : List α} (hlead : ∀ a ∈ lead, p a = false) (htrail : ∀ a ∈ trail, p a = false) :
    joins p (lead ++ (l ++ trail)) = joins p l := by
  rw [joins_append, joins_append, joins_eq_zero hlead, joins_eq_zero htrail, last_any_eq_false hlead,
    head_any_eq_false htrail]
  simp

section

variable {f : List α} (hhead : f.head?.any p = true) (hlast : f.getLast?.any p = true)

include hhead hlast

/-- A block takes a pair with it where an element of the kind stands beside it. -/
theorem joins_block (x y : List α) : joins p (x ++ (f ++ y)) =
    joins p f + joins p (x ++ y) + if x.getLast?.any p || y.head?.any p then 1 else 0 := by
  rw [joins_append, joins_append, joins_append, head_any_append hhead, hlast]
  cases x.getLast?.any p <;> cases y.head?.any p <;> simp <;> omega

/-- A place beside an element of the kind is told from a place that stands alone. -/
theorem joins_lt_of_alone {a b : List α} (h : x ++ (f ++ y) = a ++ (f ++ b))
    (hbeside : x.getLast?.any p = true ∨ y.head?.any p = true) (hbefore : a.getLast?.any p = false)
    (hafter : b.head?.any p = false) : joins p (x ++ y) < joins p (a ++ b) := by
  have hleft := joins_block hhead hlast x y
  have hright := joins_block hhead hlast a b
  rw [Bool.or_eq_true_iff.mpr hbeside] at hleft
  rw [hbefore, hafter, ← h] at hright
  simp only [Bool.or_self, Bool.false_eq_true, if_false, if_true] at hleft hright
  omega

end

/-- What an earlier place of a block leaves before the end ends as the block does. -/
theorem exists_before_end {f a b : List α} (hf : f ≠ []) (h : x ++ (f ++ y) = a ++ (f ++ b))
    (hlt : x.length < a.length) : ∃ z, y = z ++ b ∧ (x ++ z).getLast? = f.getLast? := by
  have hsplit : (x ++ f) ++ y = (a ++ f) ++ b := by
    rwa [List.append_assoc, List.append_assoc]
  have hshort : (x ++ f).length ≤ (a ++ f).length := by
    rw [List.length_append, List.length_append]
    omega
  obtain ⟨z, hz⟩ : x ++ f <+: a ++ f := List.prefix_of_prefix_length_le ⟨y, hsplit⟩ ⟨b, rfl⟩ hshort
  have hne : z ≠ [] := by
    rintro rfl
    have hlength := congrArg List.length hz
    rw [List.append_nil, List.length_append, List.length_append] at hlength
    omega
  refine ⟨z, ?_, ?_⟩
  · rw [← hz, List.append_assoc (x ++ f)] at hsplit
    exact List.append_cancel_left hsplit
  · have hend := congrArg List.getLast? hz
    rw [List.getLast?_append_of_ne_nil _ hne, List.getLast?_append_of_ne_nil _ hf] at hend
    rw [List.getLast?_append_of_ne_nil _ hne, hend]

/-! ## Without the ends -/

/-- The list without the elements of the kind at its ends. -/
def strip (q : α → Bool) (l : List α) : List α := (l.dropWhile q).rdropWhile q

/-- The list neither begins nor ends with the kind. -/
structure Stripped (q : α → Bool) (l : List α) : Prop where
  head : l.head?.any q = false
  last : l.getLast?.any q = false

theorem exists_strip (q : α → Bool) (l : List α) : ∃ lead trail, l = lead ++ (strip q l ++ trail) ∧
    (∀ a ∈ lead, q a = true) ∧ ∀ a ∈ trail, q a = true := by
  refine ⟨l.takeWhile q, (l.dropWhile q).rtakeWhile q, ?_, fun a ha => List.mem_takeWhile_imp ha,
    fun a ha => List.mem_rtakeWhile_imp ha⟩
  unfold strip
  rw [List.rdropWhile_append_rtakeWhile, List.takeWhile_append_dropWhile]

theorem head_dropWhile (q : α → Bool) (l : List α) : (l.dropWhile q).head?.any q = false := by
  have hhead := List.head?_dropWhile_not q l
  cases h : (l.dropWhile q).head? with
  | none => rfl
  | some a =>
    rw [h] at hhead
    simpa using hhead

theorem stripped_strip (q : α → Bool) (l : List α) : Stripped q (strip q l) where
  last := by
    unfold strip List.rdropWhile
    rw [List.getLast?_reverse]
    exact head_dropWhile q _
  head := by
    obtain ⟨rest, hrest⟩ : strip q l <+: l.dropWhile q := List.rdropWhile_prefix q _
    have hhead := head_dropWhile q l
    rw [← hrest, List.head?_append] at hhead
    cases h : (strip q l).head? with
    | none => rfl
    | some a =>
      rw [h] at hhead
      exact hhead

theorem dropWhile_append_of_head (hy : y.head?.any q = false) : (x ++ y).dropWhile q = x.dropWhile q ++ y := by
  induction x with
  | nil =>
    cases y with
    | nil => rfl
    | cons a y => exact List.dropWhile_cons_of_neg (Bool.eq_false_iff.mp hy)
  | cons a x ih =>
    rw [List.cons_append, List.dropWhile_cons, List.dropWhile_cons]
    split
    · exact ih
    · rfl

theorem last_any_dropWhile {l : List α} (hp : ∀ a, p a = true → q a = false) :
    (l.dropWhile q).getLast?.any p = l.getLast?.any p := by
  cases h : l.getLast?.any p with
  | true =>
    rcases List.eq_nil_or_concat l with rfl | ⟨l, a, rfl⟩
    · cases h
    · rw [List.concat_eq_append] at h ⊢
      rw [List.getLast?_concat] at h
      have ha : [a].head?.any q = false := hp a h
      rw [dropWhile_append_of_head ha, List.getLast?_concat]
      exact h
  | false =>
    obtain ⟨x, hx⟩ := List.dropWhile_suffix q (l := l)
    by_contra hlast
    have hmore := last_any_append (x := x) (Bool.not_eq_false _ ▸ hlast)
    rw [hx, h] at hmore
    cases hmore

theorem rdropWhile_append_of_last (hx : x.getLast?.any q = false) : (x ++ y).rdropWhile q = x ++ y.rdropWhile q := by
  unfold List.rdropWhile
  rw [List.reverse_append, dropWhile_append_of_head (by rwa [List.head?_reverse]), List.reverse_append,
    List.reverse_reverse]

theorem strip_of_stripped (h : Stripped q l) : strip q l = l := by
  have hstart : l.dropWhile q = l := (dropWhile_append_of_head (x := []) h.head).trans (List.nil_append l)
  unfold strip
  rw [hstart]
  exact (congrArg (List.rdropWhile q) (List.append_nil l).symm).trans
    ((rdropWhile_append_of_last h.last).trans (List.append_nil l))

theorem strip_between {lead trail : List α} (hlead : ∀ a ∈ lead, q a = true) (htrail : ∀ a ∈ trail, q a = true)
    (h : Stripped q l) : strip q (lead ++ (l ++ trail)) = l := by
  have hend : trail.rdropWhile q = [] := List.rdropWhile_eq_nil_iff.mpr htrail
  unfold strip
  rw [List.dropWhile_append_of_pos hlead]
  cases l with
  | nil =>
    rw [List.nil_append, List.dropWhile_eq_nil_iff.mpr htrail]
    rfl
  | cons a l =>
    have ha : q a = false := h.head
    rw [List.cons_append, List.dropWhile_cons_of_neg (Bool.eq_false_iff.mp ha), ← List.cons_append,
      rdropWhile_append_of_last h.last, hend, List.append_nil]

/-- The end of a list after an element that stays. -/
theorem strip_append (hne : y ≠ []) (hy : y.head?.any q = false) :
    strip q (x ++ y) = x.dropWhile q ++ y.rdropWhile q := by
  cases y with
  | nil => exact absurd rfl hne
  | cons a y =>
    have hlast : (x.dropWhile q ++ [a]).getLast?.any q = false := by
      rw [List.getLast?_concat]
      exact hy
    have hone : [a].getLast?.any q = false := hy
    unfold strip
    rw [dropWhile_append_of_head hy, ← List.singleton_append, ← List.append_assoc, rdropWhile_append_of_last hlast,
      rdropWhile_append_of_last hone, List.append_assoc]

theorem count_strip [DecidableEq α] {a : α} (ha : q a = false) (l : List α) : (strip q l).count a = l.count a := by
  obtain ⟨lead, trail, hl, hlead, htrail⟩ := exists_strip q l
  have hnone : ∀ {m : List α}, (∀ b ∈ m, q b = true) → m.count a = 0 := fun hm =>
    List.count_eq_zero.mpr fun h => Bool.false_ne_true (ha.symm.trans (hm a h))
  have hcount := congrArg (List.count a) hl
  rw [List.count_append, List.count_append, hnone hlead, hnone htrail] at hcount
  omega

theorem joins_strip (h : ∀ a, q a = true → p a = false) (l : List α) : joins p (strip q l) = joins p l := by
  obtain ⟨lead, trail, hl, hlead, htrail⟩ := exists_strip q l
  have hjoins := congrArg (joins p) hl
  rw [joins_between (fun a ha => h a (hlead a ha)) fun a ha => h a (htrail a ha)] at hjoins
  exact hjoins.symm

end Blocks
