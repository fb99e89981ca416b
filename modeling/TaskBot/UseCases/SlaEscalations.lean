import TaskBot.UseCases.SlaStates

/-!
# Escalations over many ticks

The worker runs again and again over the open tasks with a deadline; any call of
a tick may fail.  A tick skips a task whose stored state is current, so what an
earlier tick stored decides whether the escalation and the notification of a
level are ever written.

* `SlaSettled`: what holds between two ticks;
* `SlaTick.Harmless`: which failures of a tick keep it;
* `outcome_settled`: the work on one task, `exec_settled`: one tick;
* `escalations_survive`: any sequence of harmless ticks.
-/

namespace TaskBot

open Sql Calls UpdateSlaStates SlaRepository

/-! ## What a tick has to leave -/

/-- The level is recorded for the task. -/
def Db.Escalated (db : Db) (taskId level : Int) : Prop :=
  ∃ e ∈ db.escalations.rows, e.val.taskId = taskId ∧ e.val.level = level

/-- The notification tells the user of an escalation of the task. -/
def IsEscalationFor (r : Stored TaskColumns) (userId : Int) (n : Notification) : Prop :=
  n.taskId = some r.id ∧ n.recipientUserId = userId ∧ n.notificationType = .slaEscalation

/-- The notification of the level is stored for the user. -/
def Db.Told (db : Db) (r : Stored TaskColumns) (userId level : Int) : Prop :=
  ∃ n ∈ db.notifications.rows, n.val.dedupeKey = slaKey r.val.task.taskUid level ∧
    IsEscalationFor r userId n.val

/-- The columns before the first tick, or a state with its level. -/
def Consistent (c : TaskColumns) : Prop :=
  (c.slaState = none ∧ c.slaLastLevel = 0) ∨
    ∃ days, c.slaState = some (newSlaState days).1.asCode ∧ c.slaLastLevel = (newSlaState days).2

/-- The columns say what the days to the deadline say. -/
def Carries (today : NaiveDate) (r : Stored TaskColumns) : Prop :=
  ∀ d, r.val.task.deadline = some d →
    r.val.slaState = some (newSlaState (d - today)).1.asCode ∧
      r.val.slaLastLevel = (newSlaState (d - today)).2

/-- What holds between two ticks: of the tracked tasks, the state and the level go
together; for one with an assignee the stored level is recorded, what is recorded was
told to the assignee, and nobody else has a notification under its keys. -/
structure SlaSettled (db : Db) : Prop where
  columns : ∀ r ∈ db.tasks.rows, isTracked r = true → Consistent r.val
  escalated : ∀ r ∈ db.tasks.rows, isTracked r = true →
    ∀ userId, r.val.task.assignedToUserId = some userId → 1 ≤ r.val.slaLastLevel → db.Escalated r.id r.val.slaLastLevel
  told : ∀ r ∈ db.tasks.rows, isTracked r = true →
    ∀ userId, r.val.task.assignedToUserId = some userId → ∀ level, db.Escalated r.id level → db.Told r userId level
  own : ∀ r ∈ db.tasks.rows, isTracked r = true →
    ∀ userId, r.val.task.assignedToUserId = some userId → ∀ level, ∀ n ∈ db.notifications.rows, n.val.dedupeKey = slaKey r.val.task.taskUid level →
      IsEscalationFor r userId n.val

/-! ## The levels -/

/-- The state tells the level. -/
theorem newSlaState_level {days days' : Int}
    (h : (newSlaState days).1.asCode = (newSlaState days').1.asCode) :
    (newSlaState days).2 = (newSlaState days').2 := by
  unfold newSlaState at h ⊢
  split_ifs at h ⊢ <;> first | rfl | exact absurd h (by decide)

theorem current_level {row : SlaTaskRow} {today : NaiveDate} {c : TaskColumns}
    (hstate : row.currentSlaState = c.slaState) (hc : isCurrent row today = true) (h : Consistent c) :
    c.slaState = some (target row today).1.asCode ∧ c.slaLastLevel = (target row today).2 := by
  have hcode : c.slaState = some (target row today).1.asCode := by
    rw [← hstate]
    exact of_decide_eq_true (Bool.and_eq_true_iff.mp hc).1
  refine ⟨hcode, ?_⟩
  rcases h with ⟨hnone, -⟩ | ⟨days, hdays, hlevel⟩
  · rw [hnone] at hcode
    cases hcode
  · rw [hlevel]
    exact newSlaState_level (Option.some.inj (hdays.symm.trans hcode))

theorem level_pos {row : SlaTaskRow} {today : NaiveDate} (hr : isRising row today = true) :
    row.slaLastLevel < (target row today).2 ∧ 1 ≤ (target row today).2 := by
  obtain ⟨hlt, hne⟩ := Bool.and_eq_true_iff.mp hr
  have hnonneg : 0 ≤ (target row today).2 := by
    unfold target newSlaState
    split_ifs <;> decide
  have hne' : (target row today).2 ≠ 0 := of_decide_eq_true hne
  exact ⟨of_decide_eq_true hlt, by omega⟩

/-- A rising level has a message. -/
theorem withNotification_eq (now : Instant) {today : NaiveDate} {row : SlaTaskRow} {userId : Int}
    (hr : isRising row today = true) (hu : row.assignedToUserId = some userId) :
    ∃ message, ∀ db : Db, withNotification now today row db =
      db.insertNotification (escalationNotification row userId (target row today).2 message now) := by
  have hmessage : ∃ message,
      escalationMessage (target row today).1 row (row.deadline - today) = some message := by
    have hpos := (level_pos hr).2
    unfold target newSlaState at hpos ⊢
    split_ifs at hpos ⊢
    · exact ⟨_, rfl⟩
    · exact ⟨_, rfl⟩
    · exact absurd hpos (by decide)
  obtain ⟨message, hm⟩ := hmessage
  refine ⟨message, fun db => ?_⟩
  unfold withNotification
  rw [hu]
  dsimp only
  rw [hm]

/-- The key of a notification tells its task. -/
theorem slaKey_inj {uid uid' : Uuid} {level level' : Int} (h : slaKey uid level = slaKey uid' level') :
    uid = uid' := by
  have htext : ∀ (uid : Uuid) (level : Int), (slaKey uid level).toList =
      "sla:".toList ++ (uid.hyphenated ++ (":level:".toList ++ (toString level).toList)) := by
    intro uid level
    unfold slaKey Uuid.toText
    simp only [String.toList_append, String.toList_ofList, List.append_assoc]
  have hlist := congrArg String.toList h
  rw [htext, htext] at hlist
  exact Uuid.hyphenated_start_inj hlist

/-! ## What the steps on one task keep -/

section

variable {now : Instant} {today : NaiveDate} {row : SlaTaskRow} {db : Db}

/-- The row of the table a listed row was read from. -/
theorem tracked_row (hrow : row ∈ trackedRows db) : ∃ r ∈ db.tasks.rows, isTracked r = true ∧
    r.id = row.id ∧ r.val.task.taskUid = row.taskUid ∧ r.val.task.deadline = some row.deadline ∧
    r.val.task.assignedToUserId = row.assignedToUserId ∧ r.val.slaState = row.currentSlaState ∧
    r.val.slaLastLevel = row.slaLastLevel := by
  obtain ⟨r, hr, ht, d, hd, rfl⟩ := mem_trackedRows.mp hrow
  exact ⟨r, hr, ht, rfl, rfl, hd, rfl, rfl, rfl⟩

/-- A task after the state of one was stored: the row it was, with the new state if it
is the one. -/
theorem mem_withState {r' : Stored TaskColumns} (h : r' ∈ (withState now today row db).tasks.rows) :
    ∃ r ∈ db.tasks.rows, r'.id = r.id ∧ isTracked r' = isTracked r ∧
      r'.val.task.taskUid = r.val.task.taskUid ∧ r'.val.task.deadline = r.val.task.deadline ∧
      r'.val.task.assignedToUserId = r.val.task.assignedToUserId ∧
      ((r.id = row.id ∧ r'.val.slaState = some (target row today).1.asCode ∧
          r'.val.slaLastLevel = (target row today).2) ∨
        (r.id ≠ row.id ∧ r' = r)) := by
  obtain ⟨r, hr, rfl⟩ := List.mem_map.mp h
  refine ⟨r, hr, ?_⟩
  by_cases hid : r.id = row.id
  · simp only [setWhere, hid, decide_true, if_true]
    exact ⟨trivial, rfl, rfl, rfl, rfl, .inl ⟨trivial, rfl, rfl⟩⟩
  · simp only [setWhere, hid, decide_false, Bool.false_eq_true, if_false]
    exact ⟨trivial, trivial, trivial, trivial, trivial, .inr ⟨hid, trivial⟩⟩

/-- Storing the state keeps the database settled when the new level is recorded. -/
theorem settled_withState (h : SlaSettled db) (hrow : row ∈ trackedRows db)
    (hesc : ∀ userId, row.assignedToUserId = some userId → 1 ≤ (target row today).2 →
      db.Escalated row.id (target row today).2) : SlaSettled (withState now today row db) := by
  obtain ⟨r₀, hr₀, -, hid₀, -, -, hassigned₀, -, -⟩ := tracked_row hrow
  refine ⟨fun r' hr' ht => ?_, fun r' hr' ht userId hu hpos => ?_, fun r' hr' ht userId hu level he => ?_,
    fun r' hr' ht userId hu level n hn hk => ?_⟩
  all_goals obtain ⟨r, hr, hid, htracked, huid, -, hassigned, hcols⟩ := mem_withState hr'
  all_goals rw [htracked] at ht
  · rcases hcols with ⟨-, hstate, hlevel⟩ | ⟨-, rfl⟩
    · exact .inr ⟨row.deadline - today, hstate, hlevel⟩
    · exact h.columns r' hr ht
  · rcases hcols with ⟨hsame, -, hlevel⟩ | ⟨-, rfl⟩
    · have hrow₀ : r = r₀ := Table.eq_of_not_apart hr hr₀ (.inl (hsame.trans hid₀.symm))
      rw [hid, hsame, hlevel]
      rw [hlevel] at hpos
      refine hesc userId ?_ hpos
      rw [← hassigned₀, ← hrow₀, ← hassigned]
      exact hu
    · exact h.escalated r' hr ht userId hu hpos
  · rw [hassigned] at hu
    rw [hid] at he
    obtain ⟨n, hn, hk, hfor⟩ := h.told r hr ht userId hu level he
    refine ⟨n, hn, by rw [huid]; exact hk, ?_⟩
    rw [IsEscalationFor, hid]
    exact hfor
  · rw [hassigned] at hu
    rw [huid] at hk
    have hfor := h.own r hr ht userId hu level n hn hk
    rw [IsEscalationFor, hid]
    exact hfor

/-- Every escalation after one was recorded was there before, or is it. -/
theorem escalated_withEscalation {taskId level : Int}
    (h : (withEscalation now today row db).Escalated taskId level) :
    db.Escalated taskId level ∨ (taskId = row.id ∧ level = (target row today).2) := by
  obtain ⟨e, he, htask, hlevel⟩ := h
  rcases Table.mem_insert he with he | ⟨rfl, -⟩
  · exact .inl ⟨e, he, htask, hlevel⟩
  · exact .inr ⟨htask.symm, hlevel.symm⟩

theorem escalated_of_withEscalation {taskId level : Int} (h : db.Escalated taskId level) :
    (withEscalation now today row db).Escalated taskId level := by
  obtain ⟨e, he, hcols⟩ := h
  exact ⟨e, Table.mem_insert_of_mem he, hcols⟩

theorem clash_escalations {a b : SlaEscalation} (h : Keyed.clash a b = true) :
    a.taskId = b.taskId ∧ a.level = b.level := by
  have hboth : (decide (a.taskId = b.taskId) && decide (a.level = b.level)) = true := h
  obtain ⟨htask, hlevel⟩ := Bool.and_eq_true_iff.mp hboth
  exact ⟨of_decide_eq_true htask, of_decide_eq_true hlevel⟩

/-- A level is recorded once. -/
theorem withEscalation_known (h : db.Escalated row.id (target row today).2) :
    withEscalation now today row db = db := by
  obtain ⟨e, he, htask, hlevel⟩ := h
  have hclash : Keyed.clash e.val (escalation now today row) = true := by
    show (decide _ && decide _) = true
    rw [Bool.and_eq_true]
    exact ⟨decide_eq_true htask, decide_eq_true hlevel⟩
  unfold withEscalation recorded
  rw [Table.insertOrIgnore_clash he hclash]

theorem escalated_of_not_new
    (h : (db.escalations.insertOrIgnore (escalation now today row)).2 = false) :
    db.Escalated row.id (target row today).2 := by
  rcases Table.insertOrIgnore_cases db.escalations (escalation now today row) with
    ⟨⟨e, he, hc⟩, -⟩ | ⟨-, -, -, hnew⟩
  · exact ⟨e, he, clash_escalations hc⟩
  · rw [hnew] at h
    cases h

/-- Nobody needs to be told of a task without an assignee. -/
theorem settled_unassigned (h : SlaSettled db) (hrow : row ∈ trackedRows db)
    (hno : row.assignedToUserId = none) : SlaSettled (withEscalation now today row db) := by
  obtain ⟨r₀, hr₀, -, hid₀, -, -, hassigned₀, -, -⟩ := tracked_row hrow
  refine ⟨h.columns, fun r hr ht userId hu hpos => ?_, fun r hr ht userId hu level he => ?_, h.own⟩
  · exact escalated_of_withEscalation (h.escalated r hr ht userId hu hpos)
  · rcases escalated_withEscalation he with he | ⟨hid, -⟩
    · exact h.told r hr ht userId hu level he
    · have hsame : r = r₀ := Table.eq_of_not_apart hr hr₀ (.inl (hid.trans hid₀.symm))
      rw [hsame, hassigned₀, hno] at hu
      cases hu

/-- Recording a rising level and telling the assignee keeps the database settled. -/
theorem settled_told (h : SlaSettled db) (hrow : row ∈ trackedRows db) (hr : isRising row today = true)
    {userId : Int} (hu : row.assignedToUserId = some userId) :
    SlaSettled (withNotification now today row (withEscalation now today row db)) := by
  obtain ⟨r₀, hr₀, ht₀, hid₀, huid₀, -, hassigned₀, -, -⟩ := tracked_row hrow
  obtain ⟨message, hmessage⟩ := withNotification_eq now hr hu
  let n₀ := escalationNotification row userId (target row today).2 message now
  rw [hmessage]
  have hfor₀ : IsEscalationFor r₀ userId n₀ := ⟨by rw [hid₀]; rfl, rfl, rfl⟩
  -- the only user with notifications of the task is its assignee
  have hown : ∀ r ∈ db.tasks.rows, isTracked r = true →
      ∀ userId', r.val.task.assignedToUserId = some userId' → ∀ level, ∀ n ∈ (db.notifications.insertOrIgnore n₀).1.rows,
        n.val.dedupeKey = slaKey r.val.task.taskUid level → IsEscalationFor r userId' n.val := by
    intro r hr' ht userId' hu' level n hn hk
    rcases Table.mem_insert hn with hn | ⟨rfl, -⟩
    · exact h.own r hr' ht userId' hu' level n hn hk
    · have hkey : slaKey row.taskUid (target row today).2 = slaKey r.val.task.taskUid level := hk
      have huid : r.val.task.taskUid = r₀.val.task.taskUid := (slaKey_inj hkey).symm.trans huid₀.symm
      have hclash := (clash_tasks r.val r₀.val).mpr (.inl huid)
      have hsame : r = r₀ := Table.eq_of_not_apart hr' hr₀ (.inr hclash)
      rw [hsame, hassigned₀, hu] at hu'
      rw [hsame, ← Option.some.inj hu']
      exact hfor₀
  refine ⟨h.columns, fun r hr' ht userId' hu' hpos => ?_, fun r hr' ht userId' hu' level he => ?_, hown⟩
  · exact escalated_of_withEscalation (h.escalated r hr' ht userId' hu' hpos)
  · rcases escalated_withEscalation he with he | ⟨hid, hlevel⟩
    · obtain ⟨n, hn, hk, hfor⟩ := h.told r hr' ht userId' hu' level he
      exact ⟨n, Table.mem_insert_of_mem hn, hk, hfor⟩
    · have hsame : r = r₀ := Table.eq_of_not_apart hr' hr₀ (.inl (hid.trans hid₀.symm))
      have hkey : n₀.dedupeKey = slaKey r.val.task.taskUid level := by
        rw [hsame, huid₀, hlevel]
        rfl
      obtain ⟨n, hn, hk⟩ := notified_insert (withEscalation now today row db) n₀
      rw [hkey] at hk
      exact ⟨n, hn, hk, hown r hr' ht userId' hu' level n hn hk⟩

/-- The two other statements work on tables of their own. -/
theorem withEscalation_withState : withEscalation now today row (withState now today row db) =
    withState now today row (withEscalation now today row db) := rfl

theorem withNotification_withState : withNotification now today row (withState now today row db) =
    withState now today row (withNotification now today row db) := by
  unfold withNotification
  cases row.assignedToUserId with
  | none => rfl
  | some userId =>
    dsimp only
    cases escalationMessage (target row today).1 row (row.deadline - today) with
    | none => rfl
    | some message => rfl

/-- When the state of a task with an assignee changes to a level above 0, the failures
spare what goes with the level: its update fails before its effect, or the level is
recorded already, or it rises and the state, the escalation and the notification are
all stored. -/
def HarmlessAt (plan : Site → Fault AppError) (today : NaiveDate) (row : SlaTaskRow) (db : Db) : Prop :=
  row.assignedToUserId ≠ none → isCurrent row today = false → 1 ≤ (target row today).2 →
    (∃ e, plan (.slaUpdate row.id) = .before e) ∨ db.Escalated row.id (target row today).2 ∨
      (isRising row today = true ∧ plan (.slaUpdate row.id) = .none ∧
        plan (.slaRecord row.id (target row today).2) = .none ∧ ¬ NotificationLost today row plan)

variable {plan : Site → Fault AppError} {o : AppResult Unit × Db}

/-- The level is recorded when the state is stored and something else is not. -/
theorem recorded_of_harmless (hh : HarmlessAt plan today row db) (hc : isCurrent row today = false)
    (hu : ∀ e, plan (.slaUpdate row.id) ≠ .before e)
    (hfault : isRising row today = true → plan (.slaUpdate row.id) = .none →
      plan (.slaRecord row.id (target row today).2) = .none → NotificationLost today row plan)
    {userId : Int} (ha : row.assignedToUserId = some userId) (hpos : 1 ≤ (target row today).2) :
    db.Escalated row.id (target row today).2 := by
  have hsome : row.assignedToUserId ≠ none := by
    rw [ha]
    exact fun h => nomatch h
  rcases hh hsome hc hpos with ⟨e, he⟩ | hesc | ⟨hr, hstored, hrecorded, hlost⟩
  · exact absurd he (hu e)
  · exact hesc
  · exact absurd (hfault hr hstored hrecorded) hlost

/-- **The work on one task**, its failures harmless, keeps the database settled. -/
theorem outcome_settled (h : SlaSettled db) (hrow : row ∈ trackedRows db)
    (hh : HarmlessAt plan today row db) (ho : Outcome now today row db plan o) : SlaSettled o.2 := by
  have hnone : plan (.slaUpdate row.id) = .none → ∀ e, plan (.slaUpdate row.id) ≠ .before e := by
    intro hu e he
    rw [hu] at he
    cases he
  -- the escalation of a task without an assignee, or one that is known
  have hescalation : (∀ userId, row.assignedToUserId = some userId →
      db.Escalated row.id (target row today).2) →
        SlaSettled (withEscalation now today row (withState now today row db)) := by
    intro hesc
    rw [withEscalation_withState]
    cases ha : row.assignedToUserId with
    | none =>
      refine settled_withState (settled_unassigned h hrow ha) hrow fun userId hu => ?_
      rw [ha] at hu
      cases hu
    | some userId =>
      rw [withEscalation_known (hesc userId ha)]
      exact settled_withState h hrow fun _ _ _ => hesc userId ha
  cases ho with
  | current hc => exact h
  | stateLost e hc hf => exact h
  | stateOnly e hc hf =>
    refine settled_withState h hrow fun userId ha hpos => recorded_of_harmless hh hc ?_ ?_ ha hpos
    · intro e' he
      rw [hf] at he
      cases he
    · intro _ hu
      rw [hf] at hu
      cases hu
  | steady hc hu hr =>
    refine settled_withState h hrow fun userId ha hpos => recorded_of_harmless hh hc (hnone hu) ?_ ha hpos
    intro hr'
    rw [hr] at hr'
    cases hr'
  | escalationLost e hc hu hr hf =>
    refine settled_withState h hrow fun userId ha hpos => recorded_of_harmless hh hc (hnone hu) ?_ ha hpos
    intro _ _ hs
    rw [hf] at hs
    cases hs
  | escalationOnly e hc hu hr hf =>
    refine hescalation fun userId ha => recorded_of_harmless hh hc (hnone hu) ?_ ha (level_pos hr).2
    intro _ _ hs
    rw [hf] at hs
    cases hs
  | known hc hu hr hn => exact hescalation fun _ _ => escalated_of_not_new hn
  | told hc hu hr =>
    cases ha : row.assignedToUserId with
    | none =>
      have hsame : ∀ db, withNotification now today row db = db := by
        intro db
        unfold withNotification
        rw [ha]
      show SlaSettled (withNotification now today row _)
      rw [hsame]
      refine hescalation fun userId hu => ?_
      rw [ha] at hu
      cases hu
    | some userId =>
      show SlaSettled (withNotification now today row (withEscalation now today row _))
      rw [withEscalation_withState, withNotification_withState]
      refine settled_withState (settled_told h hrow hr ha) ?_ fun _ _ _ => ?_
      · obtain ⟨message, hmessage⟩ := withNotification_eq now hr ha
        rw [hmessage]
        exact hrow
      · obtain ⟨message, hmessage⟩ := withNotification_eq now hr ha
        rw [hmessage]
        obtain ⟨e, he, hcase⟩ := Table.exists_after_insert db.escalations (escalation now today row)
        refine ⟨e, he, ?_⟩
        rcases hcase with hc | hv
        · exact clash_escalations hc
        · rw [hv]
          exact ⟨rfl, rfl⟩
  | untold hc hu hr hl =>
    exact hescalation fun userId ha => recorded_of_harmless hh hc (hnone hu) (fun _ _ _ => hl) ha (level_pos hr).2

/-- The tasks after the work on one are as before, when its state is current or could
not be stored, or but for its state. -/
theorem outcome_tasks (ho : Outcome now today row db plan o) :
    (o.2.tasks = db.tasks ∧ (isCurrent row today = true ∨ ∃ e, plan (.slaUpdate row.id) = .before e)) ∨
      o.2.tasks = (withState now today row db).tasks := by
  cases ho with
  | current hc => exact .inl ⟨rfl, .inl hc⟩
  | stateLost e hc hf => exact .inl ⟨rfl, .inr ⟨e, hf⟩⟩
  | stateOnly e hc hf => exact .inr rfl
  | steady hc hu hr => exact .inr rfl
  | escalationLost e hc hu hr hf => exact .inr rfl
  | escalationOnly e hc hu hr hf => exact .inr rfl
  | known hc hu hr hn => exact .inr rfl
  | told hc hu hr =>
    refine .inr ?_
    show (withNotification now today row _).tasks = _
    rw [withEscalation_withState, withNotification_withState]
    unfold withNotification
    split
    · rfl
    · split <;> rfl
  | untold hc hu hr hl => exact .inr rfl

theorem trackedRows_congr {db' : Db} (h : db'.tasks = db.tasks) : trackedRows db' = trackedRows db := by
  unfold trackedRows
  rw [h]

/-- The other listed tasks are still as they were listed. -/
theorem outcome_listed (ho : Outcome now today row db plan o) {row' : SlaTaskRow} (hne : row'.id ≠ row.id)
    (h : row' ∈ trackedRows db) : row' ∈ trackedRows o.2 := by
  rcases outcome_tasks ho with ⟨htasks, -⟩ | htasks
  · rw [trackedRows_congr htasks]
    exact h
  · rw [trackedRows_congr htasks]
    obtain ⟨r, hr, ht, d, hd, rfl⟩ := mem_trackedRows.mp h
    refine mem_trackedRows.mpr ⟨r, List.mem_map.mpr ⟨r, hr, ?_⟩, ht, d, hd, rfl⟩
    have hid : ¬ r.id = row.id := hne
    simp only [setWhere, hid, decide_false, Bool.false_eq_true, if_false]

/-- The same number of tasks is tracked. -/
theorem outcome_count (ho : Outcome now today row db plan o) :
    (o.2.tasks.rows.filter isTracked).length = (db.tasks.rows.filter isTracked).length := by
  rcases outcome_tasks ho with ⟨htasks, -⟩ | htasks
  · rw [htasks]
  · have htracked : isTracked ∘ setWhere (fun r => r.id = row.id)
        (slaColumns (target row today).1.asCode (target row today).2 now) = isTracked := by
      funext r
      simp only [Function.comp_apply, setWhere]
      split <;> rfl
    have hrows : (withState now today row db).tasks.rows = db.tasks.rows.map (setWhere (fun r => r.id = row.id)
        (slaColumns (target row today).1.asCode (target row today).2 now)) := rfl
    rw [htasks, hrows, List.filter_map, List.length_map, htracked]

/-- Without failures the work on one task answers. -/
theorem outcome_ok (ho : Outcome now today row db plan o) (hcalm : ∀ site, plan site = .none) :
    o.1 = .ok () := by
  cases ho with
  | stateLost e hc hf =>
    rw [hcalm] at hf
    cases hf
  | stateOnly e hc hf =>
    rw [hcalm] at hf
    cases hf
  | escalationLost e hc hu hr hf =>
    rw [hcalm] at hf
    cases hf
  | escalationOnly e hc hu hr hf =>
    rw [hcalm] at hf
    cases hf
  | current hc => rfl
  | steady hc hu hr => rfl
  | known hc hu hr hn => rfl
  | told hc hu hr => rfl
  | untold hc hu hr hl => rfl

/-- Without failures the task carries the state of the day, and no other task changes. -/
theorem outcome_carries (h : SlaSettled db) (hrow : row ∈ trackedRows db)
    (ho : Outcome now today row db plan o) (hcalm : plan (.slaUpdate row.id) = .none)
    {r' : Stored TaskColumns} (hr' : r' ∈ o.2.tasks.rows) :
    Carries today r' ∨ (r'.id ≠ row.id ∧ r' ∈ db.tasks.rows) := by
  obtain ⟨r₀, hr₀, ht₀, hid₀, -, hdeadline₀, -, hstate₀, -⟩ := tracked_row hrow
  rcases outcome_tasks ho with ⟨htasks, hwhy⟩ | htasks
  · have hc : isCurrent row today = true := by
      rcases hwhy with hc | ⟨e, he⟩
      · exact hc
      · rw [hcalm] at he
        cases he
    rw [htasks] at hr'
    by_cases hid : r'.id = row.id
    · refine .inl fun d hd => ?_
      have hsame : r' = r₀ := Table.eq_of_not_apart hr' hr₀ (.inl (hid.trans hid₀.symm))
      have hcols := current_level hstate₀.symm hc (h.columns r₀ hr₀ ht₀)
      rw [hsame, hdeadline₀] at hd
      rw [hsame, ← Option.some.inj hd]
      exact hcols
    · exact .inr ⟨hid, hr'⟩
  · rw [htasks] at hr'
    obtain ⟨r, hr, -, -, -, hdeadline, -, hcols⟩ := mem_withState hr'
    rcases hcols with ⟨hid, hstate, hlevel⟩ | ⟨hne, rfl⟩
    · refine .inl fun d hd => ?_
      have hsame : r = r₀ := Table.eq_of_not_apart hr hr₀ (.inl (hid.trans hid₀.symm))
      rw [hdeadline, hsame, hdeadline₀] at hd
      rw [← Option.some.inj hd]
      exact ⟨hstate, hlevel⟩
    · exact .inr ⟨hne, hr⟩

end

/-! ## Ticks -/

/-- One tick: its time, its day, and which of its calls fail. -/
structure SlaTick where
  now : Instant
  today : NaiveDate
  plan : Site → Fault AppError

namespace SlaTick

variable (t : SlaTick)

def exec (db : Db) : Db := ((execute true t.now t.today).run t.plan db).2

/-- The failures are harmless for every task the tick comes to. -/
def HarmlessFrom : List SlaTaskRow → Db → Prop
  | [], _ => True
  | row :: rows, db => HarmlessAt t.plan t.today row db ∧
      ∀ db', (processTask t.now t.today row).run t.plan db = (.ok (), db') → HarmlessFrom rows db'

def Harmless (db : Db) : Prop :=
  t.plan .slaListActive = .none → t.HarmlessFrom (listed maxTasksPerTick db) db

end SlaTick

def runSlaTicks (ts : List SlaTick) (db : Db) : Db := ts.foldl (fun db t => t.exec db) db

def SlaTicksHarmless : List SlaTick → Db → Prop
  | [], _ => True
  | t :: ts, db => t.Harmless db ∧ SlaTicksHarmless ts (t.exec db)

/-- Inside a tick: settled, the tasks still to come are as they were listed, and the
failures are harmless for them. -/
structure Pending (t : SlaTick) (rows : List SlaTaskRow) (db : Db) : Prop where
  settled : SlaSettled db
  listed : ∀ row ∈ rows, row ∈ trackedRows db
  once : (rows.map SlaTaskRow.id).Nodup
  harmless : t.HarmlessFrom rows db

section

variable {t : SlaTick} {db : Db}

theorem exec_eq (t : SlaTick) (db : Db) : t.exec db =
    if t.plan .slaListActive = .none then
      ((Prog.forEach (processTask t.now t.today) (listed maxTasksPerTick db)).run t.plan db).2
    else db := by
  unfold SlaTick.exec execute
  rw [if_neg (by decide)]
  by_cases hp : t.plan .slaListActive = .none
  · have hlist : (listActiveWithDeadline maxTasksPerTick).run t.plan db =
        (.ok (listed maxTasksPerTick db), db) := run_select hp db
    rw [Prog.run_bind_ok t.plan hlist, if_pos hp]
  · obtain ⟨e, he⟩ := run_select_failed (fun db => .ok (listed maxTasksPerTick db)) hp db
    have hlist : (listActiveWithDeadline maxTasksPerTick).run t.plan db = (.error e, db) := he
    rw [Prog.run_bind_error t.plan hlist, if_neg hp]

theorem pending_start (h : SlaSettled db) (hh : t.Harmless db) (hp : t.plan .slaListActive = .none) :
    Pending t (listed maxTasksPerTick db) db :=
  ⟨h, fun _ hrow => mem_listed hrow, listed_nodup maxTasksPerTick db, hh hp⟩

/-- The work on one task leaves the database settled, and the rest pending. -/
theorem pending_step {row : SlaTaskRow} {rows : List SlaTaskRow} {r : AppResult Unit} {db' : Db}
    (h : Pending t (row :: rows) db) (hrun : (processTask t.now t.today row).run t.plan db = (r, db')) :
    SlaSettled db' ∧ (r = .ok () → Pending t rows db') := by
  have ho := run_processTask t.now t.today row db t.plan
  rw [hrun] at ho
  have hsettled : SlaSettled db' := outcome_settled h.settled (h.listed row List.mem_cons_self) h.harmless.1 ho
  obtain ⟨hfirst, hrest⟩ := List.nodup_cons.mp h.once
  refine ⟨hsettled, fun hr => ⟨hsettled, fun row' hrow' => ?_, hrest, h.harmless.2 db' (by rw [hrun, hr])⟩⟩
  refine outcome_listed ho (fun hid => hfirst ?_) (h.listed row' (List.mem_cons_of_mem row hrow'))
  rw [← hid]
  exact List.mem_map.mpr ⟨row', hrow', rfl⟩

/-- **One tick**, its failures harmless, keeps the database settled. -/
theorem exec_settled (h : SlaSettled db) (hh : t.Harmless db) : SlaSettled (t.exec db) := by
  rw [exec_eq]
  by_cases hp : t.plan .slaListActive = .none
  · rw [if_pos hp]
    refine Prog.forEach_keeps t.plan (fun _ h => h.settled) ?_ ?_ _ db (pending_start h hh hp)
    · exact fun row rows s e s' hpending hrun => (pending_step hpending hrun).1
    · exact fun row rows s s' hpending hrun => (pending_step hpending hrun).2 rfl
  · rw [if_neg hp]
    exact h

/-- A tick tracks the same number of tasks. -/
theorem exec_count (t : SlaTick) (db : Db) :
    ((t.exec db).tasks.rows.filter isTracked).length = (db.tasks.rows.filter isTracked).length := by
  rw [exec_eq]
  split
  · refine Prog.forEach_keeps (I := fun _ s => (s.tasks.rows.filter isTracked).length =
      (db.tasks.rows.filter isTracked).length) t.plan (fun _ h => h) ?_ ?_ _ db rfl
    · intro row rows s e s' hs hrun
      have ho := run_processTask t.now t.today row s t.plan
      rw [hrun] at ho
      exact (outcome_count ho).trans hs
    · intro row rows s s' hs hrun
      have ho := run_processTask t.now t.today row s t.plan
      rw [hrun] at ho
      exact (outcome_count ho).trans hs
  · rfl

/-- **A tick without failures** leaves every tracked task with the state of the day. -/
theorem exec_carries (h : SlaSettled db) (hh : t.Harmless db) (hcalm : t.plan = fun _ => .none)
    (hmany : (db.tasks.rows.filter isTracked).length ≤ maxTasksPerTick) :
    ∀ r ∈ (t.exec db).tasks.rows, isTracked r = true → Carries t.today r := by
  have hp : ∀ site, t.plan site = .none := fun site => by rw [hcalm]
  rw [exec_eq, if_pos (hp _)]
  -- the tasks not yet worked on are still to come
  let I : List SlaTaskRow → Db → Prop := fun rows s => Pending t rows s ∧
    ∀ r ∈ s.tasks.rows, isTracked r = true → Carries t.today r ∨ r.id ∈ rows.map SlaTaskRow.id
  let R : Db → Prop := fun s => ∀ r ∈ s.tasks.rows, isTracked r = true → Carries t.today r
  refine Prog.forEach_keeps (I := I) (R := R) t.plan ?_ ?_ ?_ _ db ⟨pending_start h hh (hp _), ?_⟩
  · intro s hs r hr ht
    rcases hs.2 r hr ht with hc | hmem
    · exact hc
    · cases hmem
  · intro row rows s e s' hs hrun
    have ho := run_processTask t.now t.today row s t.plan
    rw [hrun] at ho
    have hok : Except.error e = .ok () := outcome_ok ho hp
    cases hok
  · intro row rows s s' hs hrun
    have ho := run_processTask t.now t.today row s t.plan
    rw [hrun] at ho
    refine ⟨(pending_step hs.1 hrun).2 rfl, fun r hr ht => ?_⟩
    rcases outcome_carries hs.1.settled (hs.1.listed row List.mem_cons_self) ho (hp _) hr with hc | ⟨hne, hold⟩
    · exact .inl hc
    · refine (hs.2 r hold ht).imp id fun hmem => ?_
      exact (List.mem_cons.mp hmem).resolve_left hne
  · intro r hr ht
    refine .inr ?_
    cases hd : r.val.task.deadline with
    | none =>
      unfold isTracked at ht
      rw [hd] at ht
      cases ht
    | some d =>
      have hrow : toSlaTaskRow r d ∈ trackedRows db := mem_trackedRows.mpr ⟨r, hr, ht, d, hd, rfl⟩
      exact List.mem_map.mpr ⟨toSlaTaskRow r d, listed_of_tracked hmany hrow, rfl⟩

/-- A sequence of harmless ticks keeps the database settled. -/
theorem runSlaTicks_settled : ∀ (ts : List SlaTick) (db : Db), SlaSettled db → SlaTicksHarmless ts db →
    SlaSettled (runSlaTicks ts db) := by
  intro ts
  induction ts with
  | nil => exact fun _ h _ => h
  | cons t ts ih => exact fun db h hh => ih (t.exec db) (exec_settled h hh.1) hh.2

theorem runSlaTicks_count : ∀ (ts : List SlaTick) (db : Db),
    ((runSlaTicks ts db).tasks.rows.filter isTracked).length = (db.tasks.rows.filter isTracked).length := by
  intro ts
  induction ts with
  | nil => exact fun _ => rfl
  | cons t ts ih => exact fun db => (ih (t.exec db)).trans (exec_count t db)

theorem slaTicksHarmless_append : ∀ (ts ts' : List SlaTick) (db : Db), SlaTicksHarmless (ts ++ ts') db →
    SlaTicksHarmless ts db ∧ SlaTicksHarmless ts' (runSlaTicks ts db) := by
  intro ts
  induction ts with
  | nil => exact fun _ _ h => ⟨trivial, h⟩
  | cons t ts ih =>
    intro ts' db h
    obtain ⟨hleft, hright⟩ := ih ts' (t.exec db) h.2
    exact ⟨⟨h.1, hleft⟩, hright⟩

end

/-- Before the first tick: no state, no level, no escalation, no notification under a key
of a tracked task. -/
theorem settled_untouched {db : Db}
    (hcolumns : ∀ r ∈ db.tasks.rows, isTracked r = true → r.val.slaState = none ∧ r.val.slaLastLevel = 0)
    (hesc : ∀ r ∈ db.tasks.rows, isTracked r = true → ∀ level, ¬ db.Escalated r.id level)
    (hkeys : ∀ r ∈ db.tasks.rows, isTracked r = true → ∀ level, ∀ n ∈ db.notifications.rows,
      n.val.dedupeKey ≠ slaKey r.val.task.taskUid level) : SlaSettled db where
  columns r hr ht := .inl (hcolumns r hr ht)
  escalated r hr ht userId _ hpos := by
    have hzero := (hcolumns r hr ht).2
    omega
  told r hr ht userId _ level he := absurd he (hesc r hr ht level)
  own r hr ht userId _ level n hn hk := absurd hk (hkeys r hr ht level n hn)

/-! ## Top theorem -/

/-- **Escalations over many ticks.**  From a settled database with at most 500 tracked
tasks, let the failures of every tick be harmless, and let no call of the last tick
fail.  Then every tracked task carries the state and the level its deadline gives on
that day, and a task with an assignee and a level above 0 has its escalation and the
notification of its assignee. -/
theorem escalations_survive (db : Db) (earlier : List SlaTick) (last : SlaTick) (hstart : SlaSettled db)
    (hmany : (db.tasks.rows.filter isTracked).length ≤ maxTasksPerTick)
    (hharmless : SlaTicksHarmless (earlier ++ [last]) db) (hcalm : last.plan = fun _ => .none) :
    ∀ r ∈ (runSlaTicks (earlier ++ [last]) db).tasks.rows, isTracked r = true →
      Carries last.today r ∧
      (1 ≤ r.val.slaLastLevel → ∀ userId, r.val.task.assignedToUserId = some userId →
        (runSlaTicks (earlier ++ [last]) db).Escalated r.id r.val.slaLastLevel ∧
          (runSlaTicks (earlier ++ [last]) db).Told r userId r.val.slaLastLevel) := by
  obtain ⟨hearlier, hlast⟩ := slaTicksHarmless_append earlier [last] db hharmless
  have hsettled := runSlaTicks_settled earlier db hstart hearlier
  have hend := exec_settled hsettled hlast.1
  have hcount : ((runSlaTicks earlier db).tasks.rows.filter isTracked).length ≤ maxTasksPerTick := by
    rw [runSlaTicks_count]
    exact hmany
  have hrun : runSlaTicks (earlier ++ [last]) db = last.exec (runSlaTicks earlier db) := List.foldl_append
  rw [hrun]
  intro r hr ht
  refine ⟨exec_carries hsettled hlast.1 hcalm hcount r hr ht, fun hpos userId hu => ?_⟩
  have hesc := hend.escalated r hr ht userId hu hpos
  exact ⟨hesc, hend.told r hr ht userId hu r.val.slaLastLevel hesc⟩

/-! ## A task whose deadline is today -/

def slaTask : Task := { sampleTask with deadline := some 100 }

def slaDb : Db := Db.withTask slaTask

/-- A tick on the day of the deadline. -/
def slaTick (plan : Site → Fault AppError) : SlaTick := ⟨0, 100, plan⟩

/-- What the worker is given. -/
def slaRow : SlaTaskRow := ⟨1, sampleUid 1, "Report", 100, 0, some 2, none, 0⟩

def busyError : AppError := databaseError "database is locked"

/-- The state cannot be stored in the first tick; the second tick escalates. -/
theorem escalations_survive_second_tick :
    let first := slaTick fun site => if site = .slaUpdate 1 then .before busyError else .none
    let db := runSlaTicks [first, slaTick fun _ => .none] slaDb
    db.Escalated 1 1 ∧ db.Told ⟨1, slaTask, some "at_risk", 1⟩ 2 1 := by
  intro first db
  have hstart : SlaSettled slaDb := by
    refine settled_untouched (fun r hr _ => ?_) (fun r _ _ level he => ?_) fun r _ _ level n hn => ?_
    · rw [List.mem_singleton.mp hr]
      exact ⟨rfl, rfl⟩
    · obtain ⟨e, he, -⟩ := he
      cases he
    · cases hn
  have hlisted : listed maxTasksPerTick slaDb = [slaRow] := by decide
  have hlisted' : listed maxTasksPerTick (first.exec slaDb) = [slaRow] := by decide
  have hfirst : first.Harmless slaDb := by
    intro _
    rw [hlisted]
    exact ⟨fun _ _ _ => .inl ⟨busyError, rfl⟩, fun _ _ => trivial⟩
  have hlast : (slaTick fun _ => .none).Harmless (first.exec slaDb) := by
    intro _
    rw [hlisted']
    exact ⟨fun _ _ _ => .inr (.inr ⟨by decide, rfl, rfl, fun h => nomatch h.choose_spec⟩), fun _ _ => trivial⟩
  have hend := escalations_survive slaDb [first] (slaTick fun _ => .none) hstart (by decide)
    ⟨hfirst, hlast, trivial⟩ rfl ⟨1, slaTask, some "at_risk", 1⟩ (by decide) rfl
  exact hend.2 (by decide) 2 rfl

/-- The escalation cannot be recorded in the first tick, which has stored the state: the
second tick finds the state current, and nobody is ever told. -/
theorem escalation_lost :
    let first := slaTick fun site => if site = .slaRecord 1 1 then .before busyError else .none
    let db := runSlaTicks [first, slaTick fun _ => .none] slaDb
    ∃ r ∈ db.tasks.rows, isTracked r = true ∧ r.val.slaLastLevel = 1 ∧
      r.val.task.assignedToUserId = some 2 ∧ ¬ db.Escalated r.id 1 ∧ ¬ db.Told r 2 1 := by
  intro first db
  have hescalations : db.escalations.rows = [] := by decide
  have hnotifications : db.notifications.rows = [] := by decide
  refine ⟨⟨1, slaTask, some "at_risk", 1⟩, by decide, rfl, rfl, rfl, fun h => ?_, fun h => ?_⟩
  · obtain ⟨e, he, -⟩ := h
    rw [hescalations] at he
    cases he
  · obtain ⟨n, hn, -⟩ := h
    rw [hnotifications] at hn
    cases hn

end TaskBot
