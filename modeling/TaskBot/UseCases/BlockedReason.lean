import TaskBot.UseCases.MutationAnswers

/-!
# Why a task is blocked

A blocker report stores its reason in the task and in a comment.  A status update
stores neither, and it may ask for the status `blocked` as well:

    BlockedSaysWhy start → no turn sets a task blocked by status →
      BlockedSaysWhy (start.afterTurns turns)    (blocked_says_why)
-/

namespace TaskBot

open Sql Calls TaskRepository

/-! ## Turns -/

/-- A request, with its actor, the readings of its clock and the ranking of names. -/
structure Turn where
  clock : Nat → Instant
  ranking : NameRanking
  actor : User
  uid : Uuid
  request : TaskRequest

/-- The database after the turn, no call of which fails. -/
def Turn.apply (db : Db) (turn : Turn) : Db :=
  ((turn.request.program turn.clock turn.ranking turn.actor turn.uid).run noFaults db).2

def Db.afterTurns (db : Db) (turns : List Turn) : Db := turns.foldl Turn.apply db

/-! ## The reason -/

/-- A text that is there when it is trimmed, and not too long. -/
def IsBlockerReason (reason : String) : Prop :=
  (trim reason).isEmpty = false ∧ charsCount reason ≤ maxTaskBlockerReasonLength

structure SaysWhy (db : Db) (t : Task) : Prop where
  reason : ∃ reason, t.blockedReason = some reason ∧ IsBlockerReason reason
  comment : ∃ r ∈ db.comments.rows, t.id = some r.val.taskId ∧ r.val.kind = .blocker

def BlockedSaysWhy (db : Db) : Prop :=
  ∀ uid t, db.stored uid = some t → t.status = .blocked → SaysWhy db t

/-- The turn is a status update that asks for the status `blocked` and gets it. -/
def Turn.SetsBlocked (turn : Turn) (db : Db) : Prop :=
  turn.request = .updateStatus .blocked ∧ ∃ t, db.stored turn.uid = some t ∧
    RoleAuthorizationPolicy.ensureCanChangeStatus turn.actor t .blocked = .ok () ∧
    t.status.canTransitionTo .blocked = true

/-! ## One turn -/

theorem SaysWhy.grow {db db' : Db} {t : Task} (h : SaysWhy db t)
    (hcomments : ∀ r ∈ db.comments.rows, r ∈ db'.comments.rows) : SaysWhy db' t := by
  obtain ⟨r, hr, hid, hkind⟩ := h.comment
  exact ⟨h.reason, r, hcomments r hr, hid, hkind⟩

theorem isBlockerReason_of_applyBlocker {t t' : Task} {reason : String} {now : Instant}
    (h : t.applyBlocker reason now = .ok t') : IsBlockerReason (trim reason) := by
  unfold Task.applyBlocker at h
  simp only at h
  split at h
  · cases h
  · next hempty =>
    split at h
    · cases h
    · next hlong =>
      refine ⟨?_, Nat.le_of_not_gt hlong⟩
      rw [trim_trim]
      exact Bool.eq_false_iff.mpr hempty

/-- A request for `blocked` is the only one that is normalized to it. -/
theorem requested_of_normalized {actor : User} {t : Task} {requested : TaskStatus}
    (h : RoleAuthorizationPolicy.normalizeRequestedStatus actor t requested = .ok .blocked) :
    requested = .blocked := by
  unfold RoleAuthorizationPolicy.normalizeRequestedStatus at h
  split at h
  · cases h
  · split at h
    · cases h
    · cases h
      rfl

theorem saysWhy_turn {db : Db} (turn : Turn) (h : BlockedSaysWhy db) (hturn : ¬ turn.SetsBlocked db) :
    BlockedSaysWhy (turn.apply db) := by
  have hwhole : StoresWhole _ id turn.uid db
      ((turn.request.program turn.clock turn.ranking turn.actor turn.uid).run noFaults db) :=
    turn.request.stores_whole
  unfold Turn.apply
  generalize (turn.request.program turn.clock turn.ranking turn.actor turn.uid).run noFaults db = o at hwhole ⊢
  rcases hwhole with ⟨-, hkept⟩ | ⟨t, m, a, ht, hallowed, -, hall, hstored⟩
  · rw [hkept]
    exact h
  · have hleaves := m.leaves db
    rw [← hall] at hleaves
    intro uid t' ht' hblocked
    by_cases huid : uid = m.task.taskUid
    · -- the task of the turn
      rw [huid, hstored.task] at ht'
      cases ht'
      cases hrequest : turn.request with
      | updateStatus requested =>
        rw [hrequest] at hallowed
        obtain ⟨taskId, next, -, hnext, hcan, hup, -⟩ := hallowed
        obtain ⟨hedge, htask⟩ := Task.transitionTo_ok hup
        have hstatus : next = .blocked := by
          rw [htask] at hblocked
          exact hblocked
        subst hstatus
        rw [requested_of_normalized hnext] at hrequest
        exact absurd ⟨hrequest, t, ht, hcan, hedge⟩ hturn
      | reportBlocker reason =>
        rw [hrequest] at hallowed
        obtain ⟨taskId, actorId, hid, -, -, hup, hcomment, -⟩ := hallowed
        obtain ⟨-, htask⟩ := Task.applyBlocker_ok hup
        obtain ⟨r, hr, hval⟩ := hstored.comment _ hcomment
        refine ⟨⟨trim reason, by rw [htask], isBlockerReason_of_applyBlocker hup⟩, r, hr, ?_, ?_⟩
        · rw [hval, htask]
          exact hid
        · rw [hval]
      | reassign query decision =>
        rw [hrequest] at hallowed
        obtain ⟨resolved, -, taskId, actorId, -, -, -, hup, -⟩ := hallowed
        obtain ⟨-, hstatus, -⟩ := Task.reassign_ok hup
        rw [hstatus] at hblocked
        cases hblocked
    · rw [Db.stored_congr hleaves.tasks, stored_updated_ne huid] at ht'
      exact (h uid t' ht' hblocked).grow hleaves.comments

/-! ## Top theorem -/

/-- **A blocked task says why**, as long as no status update sets it blocked. -/
theorem blocked_says_why (start : Db) (turns : List Turn) (hstart : BlockedSaysWhy start)
    (hturns : ∀ pre turn post, turns = pre ++ turn :: post → ¬ turn.SetsBlocked (start.afterTurns pre)) :
    BlockedSaysWhy (start.afterTurns turns) := by
  induction turns generalizing start with
  | nil => exact hstart
  | cons turn turns ih =>
    have hhead := saysWhy_turn turn hstart (hturns [] turn turns rfl)
    refine ih (turn.apply start) hhead fun pre turn' post hsplit => ?_
    exact hturns (turn :: pre) turn' post (by rw [hsplit]; rfl)

/-! ## Two ways to block a task -/

/-- The assignee of the sample task. -/
def sampleAssignee : User := { UserRepository.sampleUser 2 .user with id := some 2 }

def assigneeTurn (request : TaskRequest) : Turn where
  clock := fun _ => 5
  ranking := fun _ _ => .notFound
  actor := sampleAssignee
  uid := sampleUid 1
  request := request

theorem sample_says_why : BlockedSaysWhy sampleDb := by
  intro uid t ht hblocked
  obtain ⟨r, hr, rfl⟩ := Option.map_eq_some_iff.mp ht
  have hrows : sampleDb.tasks.rows.all fun r => r.val.task.status = .created := by decide
  have hstatus := of_decide_eq_true (List.all_eq_true.mp hrows r (Table.find?_some hr).1)
  rw [toTask_status, hstatus] at hblocked
  cases hblocked

theorem report_says_why :
    BlockedSaysWhy (sampleDb.afterTurns [assigneeTurn (.reportBlocker "Нет данных")]) := by
  refine blocked_says_why sampleDb _ sample_says_why fun pre turn post hsplit hsets => ?_
  cases pre with
  | nil =>
    obtain ⟨rfl, -⟩ := List.cons.inj hsplit
    cases hsets.1
  | cons turn' pre => simp at hsplit

/-- The assignee asks for the status `blocked`, and gets it without a word. -/
theorem blocked_without_reason :
    ¬ ∀ (start : Db) (turns : List Turn), BlockedSaysWhy start → BlockedSaysWhy (start.afterTurns turns) := by
  intro hall
  have hblocked : ((sampleDb.afterTurns [assigneeTurn (.updateStatus .blocked)]).stored (sampleUid 1)).map
      (fun t => (t.status, t.blockedReason)) = some (.blocked, none) := by decide
  obtain ⟨t, ht, hfields⟩ := Option.map_eq_some_iff.mp hblocked
  obtain ⟨hstatus, hnone⟩ := Prod.mk.inj hfields
  obtain ⟨reason, hreason, -⟩ := (hall sampleDb _ sample_says_why _ t ht hstatus).reason
  rw [hnone] at hreason
  cases hreason

end TaskBot
