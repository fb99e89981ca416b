import Mathlib.Data.List.DropRight
import TaskBot.Domain.Base

/-!
# The circuit breaker

A client tells its breaker how each request ended and asks it before the next one.  The breaker keeps
a number and an instant.  Of the calls so far they say

    rejects at `now`  ↔  at least 5 failures since the last success, and `now` earlier than 60 seconds
                         after the last of them                  (ensureClosed_rejects_iff)

The lock makes one call at a time of the calls of all tasks, and the clock is read under it.
-/

namespace TaskBot

def circuitBreakerFailureThreshold : Nat := 5

def circuitBreakerOpenSeconds : Int := 60

/-- `opened_until` after a failure: nanoseconds. -/
def openUntil (failedAt : Instant) : Instant := failedAt + circuitBreakerOpenSeconds * 1000000000

structure CircuitBreaker where
  consecutiveFailures : Nat
  openedUntil : Option Instant
deriving DecidableEq, Repr

namespace CircuitBreaker

def new : CircuitBreaker := ⟨0, none⟩

def breakerOpen (serviceName : String) : AppError :=
  .network "CIRCUIT_BREAKER_OPEN" (serviceName ++ " circuit breaker is open") [("service", .str serviceName)]

def ensureClosed (b : CircuitBreaker) (serviceName : String) (now : Instant) : AppResult Unit :=
  match b.openedUntil with
  | some openedUntil => if now < openedUntil then .error (breakerOpen serviceName) else .ok ()
  | none => .ok ()

def recordSuccess (_ : CircuitBreaker) : CircuitBreaker := ⟨0, none⟩

/-- `saturating_add(1)` of a `u32`. -/
def saturatingSucc (n : Nat) : Nat := if n < 4294967295 then n + 1 else n

def recordFailure (b : CircuitBreaker) (now : Instant) : CircuitBreaker where
  consecutiveFailures := saturatingSucc b.consecutiveFailures
  openedUntil :=
    if circuitBreakerFailureThreshold ≤ saturatingSucc b.consecutiveFailures then some (openUntil now)
    else b.openedUntil

/-! ## Traces -/

inductive Call where
  | ensureClosed (serviceName : String)
  | recordSuccess
  | recordFailure
deriving DecidableEq, Repr

structure TimedCall where
  now : Instant
  call : Call
deriving DecidableEq, Repr

def step (b : CircuitBreaker) (c : TimedCall) : CircuitBreaker :=
  match c.call with
  | .ensureClosed _ => b
  | .recordSuccess => b.recordSuccess
  | .recordFailure => b.recordFailure c.now

def run (calls : List TimedCall) : CircuitBreaker := calls.foldl step new

theorem run_concat (calls : List TimedCall) (c : TimedCall) : run (calls ++ [c]) = step (run calls) c :=
  List.foldl_concat step new c calls

/-- The failures since the last success, or since the start: when they were recorded. -/
def failuresSinceSuccess (calls : List TimedCall) : List Instant :=
  ((calls.rtakeWhile fun c => c.call ≠ .recordSuccess).filter fun c => c.call = .recordFailure).map TimedCall.now

/-- Enough failures, the last of them not long ago. -/
def Tripped (failures : List Instant) (now : Instant) : Prop :=
  circuitBreakerFailureThreshold ≤ failures.length ∧ ∃ last, failures.getLast? = some last ∧ now < openUntil last

section

variable (calls : List TimedCall) (now : Instant)

theorem failures_ensureClosed (serviceName : String) :
    failuresSinceSuccess (calls ++ [⟨now, .ensureClosed serviceName⟩]) = failuresSinceSuccess calls := by
  unfold failuresSinceSuccess
  rw [List.rtakeWhile_concat_pos _ _ _ (by simp), List.filter_append]
  simp

theorem failures_success : failuresSinceSuccess (calls ++ [⟨now, .recordSuccess⟩]) = [] := by
  unfold failuresSinceSuccess
  rw [List.rtakeWhile_concat_neg _ _ _ (by simp)]
  rfl

theorem failures_failure : failuresSinceSuccess (calls ++ [⟨now, .recordFailure⟩]) = failuresSinceSuccess calls ++ [now] := by
  unfold failuresSinceSuccess
  rw [List.rtakeWhile_concat_pos _ _ _ (by simp), List.filter_append, List.map_append]
  simp

end

/-! ## The invariant -/

/-- What the breaker knows of the failures since the last success. -/
structure KnowsFailures (b : CircuitBreaker) (failures : List Instant) : Prop where
  counts : b.consecutiveFailures = if failures.length < 4294967295 then failures.length else 4294967295
  opens : b.openedUntil =
    if circuitBreakerFailureThreshold ≤ failures.length then failures.getLast?.map openUntil else none

theorem KnowsFailures.recordFailure {b : CircuitBreaker} {failures : List Instant} (h : KnowsFailures b failures) (now : Instant) :
    KnowsFailures (b.recordFailure now) (failures ++ [now]) := by
  have hlength : (failures ++ [now]).length = failures.length + 1 := by
    rw [List.length_append, List.length_singleton]
  have hcounts := h.counts
  refine ⟨?_, ?_⟩
  · show saturatingSucc b.consecutiveFailures = _
    rw [hlength]
    unfold saturatingSucc
    split at hcounts <;> split <;> split <;> omega
  · have hreached : circuitBreakerFailureThreshold ≤ saturatingSucc b.consecutiveFailures ↔
        circuitBreakerFailureThreshold ≤ (failures ++ [now]).length := by
      rw [hlength]
      unfold saturatingSucc circuitBreakerFailureThreshold
      split at hcounts <;> split <;> omega
    show (if circuitBreakerFailureThreshold ≤ saturatingSucc b.consecutiveFailures then some (openUntil now)
      else b.openedUntil) = _
    by_cases henough : circuitBreakerFailureThreshold ≤ (failures ++ [now]).length
    · rw [if_pos (hreached.mpr henough), if_pos henough, List.getLast?_concat]
      rfl
    · have hfew : ¬ circuitBreakerFailureThreshold ≤ failures.length := by omega
      rw [if_neg fun h => henough (hreached.mp h), if_neg henough, h.opens, if_neg hfew]

/-- One call keeps it. -/
theorem KnowsFailures.step {b : CircuitBreaker} {calls : List TimedCall} (h : KnowsFailures b (failuresSinceSuccess calls))
    (c : TimedCall) : KnowsFailures (step b c) (failuresSinceSuccess (calls ++ [c])) := by
  obtain ⟨now, call⟩ := c
  cases call with
  | ensureClosed serviceName =>
    rw [failures_ensureClosed]
    exact h
  | recordSuccess =>
    rw [failures_success]
    exact ⟨rfl, rfl⟩
  | recordFailure =>
    rw [failures_failure]
    exact h.recordFailure now

theorem knowsFailures_run (calls : List TimedCall) : KnowsFailures (run calls) (failuresSinceSuccess calls) := by
  induction calls using List.reverseRecOn with
  | nil => exact ⟨rfl, rfl⟩
  | append_singleton calls c ih =>
    rw [run_concat]
    exact ih.step c

theorem KnowsFailures.ensureClosed {b : CircuitBreaker} {failures : List Instant} (h : KnowsFailures b failures)
    (serviceName : String) (now : Instant) :
    b.ensureClosed serviceName now = .error (breakerOpen serviceName) ↔ Tripped failures now := by
  unfold CircuitBreaker.ensureClosed Tripped
  rw [h.opens]
  by_cases henough : circuitBreakerFailureThreshold ≤ failures.length
  · rw [if_pos henough, and_iff_right henough]
    cases failures.getLast? with
    | none => simp
    | some last => simp
  · rw [if_neg henough]
    exact iff_of_false (fun h => nomatch h) fun h => henough h.1

theorem ensureClosed_error {b : CircuitBreaker} {serviceName : String} {now : Instant} {e : AppError}
    (h : b.ensureClosed serviceName now = .error e) : e = breakerOpen serviceName := by
  unfold CircuitBreaker.ensureClosed at h
  split at h
  · split at h
    · exact (Except.error.inj h).symm
    · cases h
  · cases h

/-- **The breaker rejects exactly when at least five failures were recorded since the last success, and the
last of them less than 60 seconds ago.** -/
theorem ensureClosed_rejects_iff (calls : List TimedCall) (serviceName : String) (now : Instant) :
    (∃ e, (run calls).ensureClosed serviceName now = .error e) ↔
      5 ≤ (failuresSinceSuccess calls).length ∧
        ∃ last, (failuresSinceSuccess calls).getLast? = some last ∧ now < last + 60 * 1000000000 := by
  have htripped := (knowsFailures_run calls).ensureClosed serviceName now
  constructor
  · rintro ⟨e, he⟩
    rw [ensureClosed_error he] at he
    exact htripped.mp he
  · exact fun h => ⟨_, htripped.mpr h⟩

end CircuitBreaker

end TaskBot
