import Mathlib.Data.List.DropRight
import Mathlib.Data.List.Nodup

/-!
# The last items of a history

`recent capacity history` is what a queue holds that drops its oldest item when it is full, and
`accepted capacity xs` are the items of `xs` that were not in the queue when they came.

    0 < capacity → recent capacity (history ++ [x]) = push capacity (recent capacity history) x
                                                                          (recent_snoc)
    (recent capacity (accepted capacity xs)).Nodup                        (nodup_recent_accepted)
-/

namespace RecentWindow

section Recent

variable {α : Type}

/-- The last `capacity` items. -/
def recent (capacity : Nat) (history : List α) : List α := history.rtake capacity

/-- A queue takes an item, and drops its first one if it is full. -/
def push (capacity : Nat) (queue : List α) (x : α) : List α :=
  (if capacity ≤ queue.length then queue.tail else queue) ++ [x]

@[simp] theorem recent_nil (capacity : Nat) : recent capacity ([] : List α) = [] := by
  simp [recent, List.rtake]

theorem length_recent (capacity : Nat) (history : List α) :
    (recent capacity history).length = min capacity history.length := by
  simp only [recent, List.rtake, List.length_drop]
  omega

theorem length_recent_le (capacity : Nat) (history : List α) :
    (recent capacity history).length ≤ capacity := by
  rw [length_recent]
  omega

/-- A queue that has seen the whole history holds its last items. -/
theorem recent_snoc {capacity : Nat} (hpos : 0 < capacity) (history : List α) (x : α) :
    recent capacity (history ++ [x]) = push capacity (recent capacity history) x := by
  have hlength := length_recent capacity history
  unfold push
  split
  · next hfull =>
    -- the first of the last items is the one that leaves
    have hdrop : history.length + 1 - capacity = history.length - capacity + 1 := by omega
    simp only [recent, List.rtake, List.length_append, List.length_singleton, List.tail_drop]
    rw [hdrop, List.drop_append_of_le_length (by omega)]
  · next hroom =>
    have hall : history.length - capacity = 0 := by omega
    have hnone : history.length + 1 - capacity = 0 := by omega
    simp only [recent, List.rtake, List.length_append, List.length_singleton, hall, hnone,
      List.drop_zero]

/-- An item is among the last ones as long as not too many have come after it. -/
theorem mem_recent {capacity : Nat} {before after : List α} {x : α} (h : after.length < capacity) :
    x ∈ recent capacity (before ++ x :: after) := by
  unfold recent List.rtake
  rw [List.drop_append_of_le_length (by simp; omega)]
  exact List.mem_append_right _ List.mem_cons_self

theorem nodup_push {capacity : Nat} {queue : List α} {x : α} (hqueue : queue.Nodup)
    (hx : x ∉ queue) : (push capacity queue x).Nodup := by
  have hkept : (if capacity ≤ queue.length then queue.tail else queue).Sublist queue := by
    split
    · exact List.tail_sublist queue
    · exact List.Sublist.refl queue
  unfold push
  rw [List.nodup_append]
  refine ⟨hkept.nodup hqueue, List.nodup_singleton x, ?_⟩
  intro a ha b hb hab
  rw [List.mem_singleton] at hb
  subst hb
  subst hab
  exact hx (hkept.subset ha)

end Recent

section Accepted

variable {α : Type} [DecidableEq α]

/-- An item is accepted unless it is among the last ones that were. -/
def accept (capacity : Nat) (history : List α) (x : α) : List α :=
  if x ∈ recent capacity history then history else history ++ [x]

/-- The items of a sequence that are accepted, in their order. -/
def accepted (capacity : Nat) (xs : List α) : List α := xs.foldl (accept capacity) []

@[simp] theorem accepted_nil (capacity : Nat) : accepted capacity ([] : List α) = [] := rfl

theorem accepted_snoc (capacity : Nat) (xs : List α) (x : α) :
    accepted capacity (xs ++ [x]) = accept capacity (accepted capacity xs) x := by
  simp [accepted]

/-- A window never holds an item twice. -/
theorem nodup_recent_accepted {capacity : Nat} (hpos : 0 < capacity) (xs : List α) :
    (recent capacity (accepted capacity xs)).Nodup := by
  induction xs using List.reverseRecOn with
  | nil => simp
  | append_singleton xs x ih =>
    rw [accepted_snoc, accept]
    split
    · exact ih
    · next hnew =>
      rw [recent_snoc hpos]
      exact nodup_push ih hnew

end Accepted

end RecentWindow
