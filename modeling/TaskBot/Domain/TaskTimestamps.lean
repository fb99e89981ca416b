import TaskBot.Domain.Task

/-!
# The timestamps of a task

Every status but the first has a timestamp, which is set when the task first comes
to it and goes when the task is reassigned:

    Reachable now t → t.Dated    (reachable_dated)

Each operation keeps `Dated`, at any time that is not before the last change.
-/

namespace TaskBot

namespace Task

/-- The timestamp of the status; that of the first one is the time of creation. -/
def timestamp (t : Task) : TaskStatus → Option Instant
  | .created => some t.createdAt
  | .sent => t.sentAt
  | .inProgress => t.startedAt
  | .blocked => t.blockedAt
  | .inReview => t.reviewRequestedAt
  | .completed => t.completedAt
  | .cancelled => t.cancelledAt

structure Dated (t : Task) : Prop where
  current : (t.timestamp t.status).isSome
  within : ∀ s stamp, t.timestamp s = some stamp → t.createdAt ≤ stamp ∧ stamp ≤ t.updatedAt
  closed : ∀ s, s.isTerminal = true → (t.timestamp s).isSome → t.status = s
  fresh : t.status = .created → ∀ s, s ≠ .created → t.timestamp s = none
  reason : t.blockedReason.isSome → t.status = .blocked

/-! ## Runs -/

inductive Operation where
  | transitionTo (nextStatus : TaskStatus)
  | applyBlocker (reason : String)
  | reassign (assignedToUserId assignedToEmployeeId : Option Int)
  | linkRegisteredAssignee (assignedToUserId : Int)

def Operation.apply (now : Instant) (t : Task) : Operation → AppResult Task
  | transitionTo nextStatus => t.transitionTo nextStatus now
  | applyBlocker reason => t.applyBlocker reason now
  | reassign user employee => t.reassign user employee now
  | linkRegisteredAssignee user => t.linkRegisteredAssignee user now

/-- A new task, and what operations that succeed have made of it until `now`. -/
inductive Reachable : Instant → Task → Prop where
  | new {uid : Uuid} {key : String} {creator : Int} {user employee : Option Int}
      {draft : StructuredTaskDraft} {deadline : Option NaiveDate} {raw : Option String} {text : String}
      {messageType : MessageType} {model response : String} {chat message : Int} {now : Instant} {t : Task}
      (h : new uid key creator user employee draft deadline raw text messageType model response chat
        message now = .ok t) : Reachable now t
  | step {now now' : Instant} {t t' : Task} (h : Reachable now t) (hle : now ≤ now') (op : Operation)
      (hop : op.apply now' t = .ok t') : Reachable now' t'

/-! ## Operations -/

section

variable {t t' : Task} {now : Instant}

/-- A task that nobody has worked on. -/
theorem dated_of_unstarted (hstatus : t.status = .created) (hnone : ∀ s, s ≠ .created → t.timestamp s = none)
    (hreason : t.blockedReason = none) (hle : t.createdAt ≤ t.updatedAt) : t.Dated where
  current := by
    rw [hstatus]
    rfl
  within := by
    intro s stamp hs
    by_cases hcreated : s = .created
    · subst hcreated
      cases hs
      exact ⟨Int.le_refl _, hle⟩
    · rw [hnone s hcreated] at hs
      cases hs
  closed := by
    intro s hs hset
    have hcreated : s ≠ .created := by
      rintro rfl
      cases hs
    rw [hnone s hcreated] at hset
    cases hset
  fresh := fun _ => hnone
  reason := by
    intro hset
    rw [hreason] at hset
    cases hset

theorem new_dated {uid : Uuid} {key : String} {creator : Int} {user employee : Option Int}
    {draft : StructuredTaskDraft} {deadline : Option NaiveDate} {raw : Option String} {text : String}
    {messageType : MessageType} {model response : String} {chat message : Int}
    (h : new uid key creator user employee draft deadline raw text messageType model response chat message
      now = .ok t) : t.Dated ∧ t.updatedAt = now := by
  unfold new at h
  split at h
  · cases h
  · cases h
    refine ⟨dated_of_unstarted rfl (fun s hs => ?_) rfl (Int.le_refl _), rfl⟩
    cases s <;> first | rfl | exact absurd rfl hs

/-- The timestamp of the new status is set, unless it was before. -/
theorem timestamp_advanced (t : Task) (next : TaskStatus) (now : Instant) (s : TaskStatus) :
    (t.advanced next now).timestamp s =
      if next = s then (t.timestamp s).or (some now) else t.timestamp s := by
  cases s with
  | created =>
    show some t.createdAt = _
    split <;> rfl
  | _ => rfl

theorem not_created_of_canTransitionTo {s next : TaskStatus} (h : s.canTransitionTo next = true) :
    next ≠ .created := by
  rintro rfl
  cases s <;> cases h

theorem Dated.advanced {next : TaskStatus} (h : t.Dated) (hedge : t.status.canTransitionTo next = true)
    (hnow : t.updatedAt ≤ now) : (t.advanced next now).Dated where
  current := by
    show ((t.advanced next now).timestamp next).isSome
    rw [timestamp_advanced, if_pos rfl]
    cases t.timestamp next <;> rfl
  within := by
    intro s stamp hstamp
    show t.createdAt ≤ stamp ∧ stamp ≤ now
    have hcreated : t.createdAt ≤ t.updatedAt := (h.within .created t.createdAt rfl).2
    have hold : ∀ stamp, t.timestamp s = some stamp → t.createdAt ≤ stamp ∧ stamp ≤ now := by
      intro stamp hs
      obtain ⟨hfrom, hto⟩ := h.within s stamp hs
      exact ⟨hfrom, Int.le_trans hto hnow⟩
    rw [timestamp_advanced] at hstamp
    by_cases hs : next = s
    · rw [if_pos hs] at hstamp
      cases hset : t.timestamp s with
      | some first =>
        rw [hset] at hstamp
        cases hstamp
        exact hold _ hset
      | none =>
        rw [hset] at hstamp
        cases hstamp
        exact ⟨Int.le_trans hcreated hnow, Int.le_refl _⟩
    · rw [if_neg hs] at hstamp
      exact hold stamp hstamp
  closed := by
    intro s hs hset
    show next = s
    by_contra hne
    rw [timestamp_advanced, if_neg hne] at hset
    have hterminal := TaskStatus.not_terminal_of_canTransitionTo hedge
    rw [h.closed s hs hset, hs] at hterminal
    cases hterminal
  fresh := fun hstatus => absurd hstatus (not_created_of_canTransitionTo hedge)
  reason := by
    intro hreason
    show next = .blocked
    by_contra hne
    have hnone : (t.advanced next now).blockedReason = none := if_pos hne
    rw [hnone] at hreason
    cases hreason

/-- The reason of a blocked task may be any. -/
theorem Dated.blocked (h : t.Dated) (hblocked : t.status = .blocked) (reason : Option String) :
    ({ t with blockedReason := reason } : Task).Dated :=
  ⟨h.current, h.within, h.closed, h.fresh, fun _ => hblocked⟩

theorem reassign_dated {user employee : Option Int} (h : t.Dated) (hnow : t.updatedAt ≤ now)
    (hop : t.reassign user employee now = .ok t') : t'.Dated ∧ t'.updatedAt = now := by
  have hcreated : t.createdAt ≤ t.updatedAt := (h.within .created t.createdAt rfl).2
  unfold reassign at hop
  split at hop
  · cases hop
  · cases hop
    refine ⟨dated_of_unstarted rfl (fun s hs => ?_) rfl (Int.le_trans hcreated hnow), rfl⟩
    cases s <;> first | rfl | exact absurd rfl hs

theorem linkRegisteredAssignee_dated {user : Int} (h : t.Dated) (hnow : t.updatedAt ≤ now)
    (hop : t.linkRegisteredAssignee user now = .ok t') : t'.Dated ∧ t'.updatedAt ≤ now := by
  unfold linkRegisteredAssignee at hop
  split at hop
  · cases hop
  · split at hop
    · cases hop
      exact ⟨h, hnow⟩
    · cases hop
      refine ⟨⟨h.current, fun s stamp hs => ?_, h.closed, h.fresh, h.reason⟩, Int.le_refl _⟩
      obtain ⟨hfrom, hto⟩ := h.within s stamp hs
      exact ⟨hfrom, Int.le_trans hto hnow⟩

/-- **Every operation keeps the timestamps.** -/
theorem Operation.apply_dated (op : Operation) (h : t.Dated) (hnow : t.updatedAt ≤ now)
    (hop : op.apply now t = .ok t') : t'.Dated ∧ t'.updatedAt ≤ now := by
  cases op with
  | transitionTo next =>
    obtain ⟨hedge, rfl⟩ := transitionTo_ok hop
    exact ⟨h.advanced hedge hnow, Int.le_refl _⟩
  | applyBlocker reason =>
    obtain ⟨hedge, rfl⟩ := applyBlocker_ok hop
    exact ⟨(h.advanced hedge hnow).blocked rfl _, Int.le_refl _⟩
  | reassign user employee =>
    obtain ⟨hdated, hupdated⟩ := reassign_dated h hnow hop
    exact ⟨hdated, Int.le_of_eq hupdated⟩
  | linkRegisteredAssignee user => exact linkRegisteredAssignee_dated h hnow hop

end

/-! ## Top theorem -/

/-- **The timestamps follow the status**, whatever happened to the task. -/
theorem reachable_dated {now : Instant} {t : Task} (h : Reachable now t) : t.Dated := by
  have hrun : t.Dated ∧ t.updatedAt ≤ now := by
    induction h with
    | new h =>
      obtain ⟨hdated, hupdated⟩ := new_dated h
      exact ⟨hdated, Int.le_of_eq hupdated⟩
    | step _ hle op hop ih => exact op.apply_dated ih.1 (Int.le_trans ih.2 hle) hop
  exact hrun.1

end Task

def reportDraft : StructuredTaskDraft where
  title := "Отчёт"
  expectedResult := "Готовый отчёт"
  steps := ["Подготовить отчёт"]
  acceptanceCriteria := []
  deadlineIso := none
  refused := false
  refusalReason := none

/-- A task that was blocked, taken up again and then passed on. -/
theorem passed_on_dated : ∃ t, Task.Reachable 4 t ∧ t.Dated := by
  obtain ⟨created, hcreated⟩ : ∃ t, Task.new ⟨.replicate 16 1⟩ "k" 1 (some 2) none reportDraft none none ""
      .text "" "" 7 3 1 = .ok t := ⟨_, rfl⟩
  have h₁ : Task.Reachable 1 created := .new hcreated
  cases hcreated
  have h₂ : Task.Reachable 2 _ := h₁.step (by decide) (.applyBlocker "Нет данных") rfl
  have h₃ : Task.Reachable 3 _ := h₂.step (by decide) (.transitionTo .inProgress) rfl
  have h₄ : Task.Reachable 4 _ := h₃.step (by decide) (.reassign none (some 5)) rfl
  exact ⟨_, h₄, Task.reachable_dated h₄⟩

end TaskBot
