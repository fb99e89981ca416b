import Mathlib.Tactic.Common
import TaskBot.Lib.RecentWindow
import TaskBot.Presentation.Screens

/-!
# The window of the update deduplication

`UpdateDedup.run keys` answers the updates of a process one after the other and notes which of them
were accepted.  Its state is the window of the last `updateDedupCapacity` accepted keys:

    (run keys).2.order = recent updateDedupCapacity (run keys).1            (run_represents)
    observe key answers true ↔ key is not in the window                     (observe_fst_iff)
-/

namespace TaskBot

open RecentWindow

/-- The keys that were accepted, in order, and the state after the last update. -/
def UpdateDedup.run (keys : List DedupKey) : List DedupKey × UpdateDedup :=
  keys.foldl
    (fun run key =>
      ((if (run.2.observe key).1 then run.1 ++ [key] else run.1), (run.2.observe key).2))
    ([], .new)

@[simp] theorem UpdateDedup.run_nil : UpdateDedup.run [] = ([], .new) := rfl

theorem UpdateDedup.run_snoc (keys : List DedupKey) (key : DedupKey) :
    UpdateDedup.run (keys ++ [key]) =
      ((if ((run keys).2.observe key).1 then (run keys).1 ++ [key] else (run keys).1),
        ((run keys).2.observe key).2) := by
  unfold run
  rw [List.foldl_append]
  rfl

/-- The map and the queue hold the keys of the window. -/
structure UpdateDedup.Holds (dedup : UpdateDedup) (window : List DedupKey) : Prop where
  order : dedup.order = window
  seen : ∀ key, dedup.seen key = true ↔ key ∈ window

theorem UpdateDedup.holds_new : UpdateDedup.new.Holds [] :=
  ⟨rfl, by simp [new]⟩

section Observe

variable {dedup : UpdateDedup} {window : List DedupKey}

theorem UpdateDedup.Holds.observe_fst_iff (h : dedup.Holds window) (key : DedupKey) :
    (dedup.observe key).1 = true ↔ key ∉ window := by
  rw [← h.seen key]
  unfold observe
  split
  · next hseen => simp [hseen]
  · next hnew => simp [hnew]

theorem UpdateDedup.Holds.observe_known (h : dedup.Holds window) {key : DedupKey}
    (hkey : key ∈ window) : (dedup.observe key).2 = dedup := by
  unfold observe
  rw [if_pos ((h.seen key).mpr hkey)]

/-- A new key takes the place of the oldest one. -/
theorem UpdateDedup.Holds.observe_new (h : dedup.Holds window) (hnodup : window.Nodup)
    {key : DedupKey} (hkey : key ∉ window) :
    (dedup.observe key).2.Holds (push updateDedupCapacity window key) := by
  have hnew : ¬ dedup.seen key = true := fun hseen => hkey ((h.seen key).mp hseen)
  obtain ⟨seen, order⟩ := dedup
  obtain ⟨horder, hseen⟩ := h
  dsimp only at horder hseen hnew
  subst horder
  unfold observe
  dsimp only
  rw [if_neg hnew]
  by_cases hfull : updateDedupCapacity ≤ order.length
  · cases order with
    | nil => exact absurd hfull (by simp [updateDedupCapacity])
    | cons oldest order =>
      have holdest : oldest ∉ order := (List.nodup_cons.mp hnodup).1
      simp only [if_pos hfull, push, List.tail_cons]
      refine ⟨rfl, fun k => ?_⟩
      simp only [Function.update_apply, List.mem_append, List.mem_singleton]
      by_cases hk : k = key
      · simp [hk]
      · by_cases ho : k = oldest
        · subst ho
          simp [hk, holdest]
        · simp [hk, ho, hseen k]
  · simp only [if_neg hfull, push]
    refine ⟨rfl, fun k => ?_⟩
    simp only [Function.update_apply, List.mem_append, List.mem_singleton]
    by_cases hk : k = key
    · simp [hk]
    · simp [hk, hseen k]

end Observe

/-- The accepted keys are those that were not in the window when they came, and the state is the
window after the last of them. -/
theorem UpdateDedup.run_represents (keys : List DedupKey) :
    (run keys).1 = accepted updateDedupCapacity keys ∧
      (run keys).2.Holds (recent updateDedupCapacity (run keys).1) := by
  have hpos : 0 < updateDedupCapacity := by decide
  induction keys using List.reverseRecOn with
  | nil => exact ⟨rfl, by simpa using holds_new⟩
  | append_singleton keys key ih =>
    obtain ⟨haccepted, hholds⟩ := ih
    have hnodup := nodup_recent_accepted hpos keys
    rw [← haccepted] at hnodup
    rw [run_snoc, accepted_snoc, ← haccepted, accept]
    by_cases hkey : key ∈ recent updateDedupCapacity (run keys).1
    · have hanswer : ¬ ((run keys).2.observe key).1 = true := fun htrue =>
        (hholds.observe_fst_iff key).mp htrue hkey
      rw [if_pos hkey, if_neg hanswer, hholds.observe_known hkey]
      exact ⟨rfl, hholds⟩
    · rw [if_neg hkey, if_pos ((hholds.observe_fst_iff key).mpr hkey)]
      refine ⟨rfl, ?_⟩
      dsimp only
      rw [recent_snoc hpos]
      exact hholds.observe_new hnodup hkey

/-- An update is new exactly when its key is not among the last accepted ones, and the map and the
queue hold the same keys, each once, and no more than the capacity. -/
theorem UpdateDedup.observe_exact (keys : List DedupKey) (key : DedupKey) :
    (((run keys).2.observe key).1 = true ↔ key ∉ recent updateDedupCapacity (run keys).1) ∧
      (∀ k, (run keys).2.seen k = true ↔ k ∈ (run keys).2.order) ∧
      (run keys).2.order.Nodup ∧ (run keys).2.order.length ≤ updateDedupCapacity := by
  obtain ⟨haccepted, hholds⟩ := run_represents keys
  refine ⟨hholds.observe_fst_iff key, fun k => ?_, ?_, ?_⟩
  · rw [hholds.order]
    exact hholds.seen k
  · rw [hholds.order, haccepted]
    exact nodup_recent_accepted (by decide) keys
  · rw [hholds.order]
    exact length_recent_le _ _

end TaskBot
