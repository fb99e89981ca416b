import TaskBot.Store.SlaRepository
import TaskBot.Store.RecordRepositories
import TaskBot.Domain.TaskText

/-!
# SLA states

One tick of the escalation worker: for each open task with a deadline it stores
the state the distance to the deadline gives, records the escalation when the
level rises, and enqueues a notification for the assignee.  An error of the first
two statements ends the tick; an error of the notification is only logged.

* `run_processTask`: the outcomes of the work on one task.
-/

namespace TaskBot

open Sql Calls

inductive SlaState where
  | healthy | atRisk | breached
deriving DecidableEq, Repr

def SlaState.asCode : SlaState → String
  | healthy => "healthy"
  | atRisk => "at_risk"
  | breached => "breached"

namespace UpdateSlaStates

/-- The state and the level for the days that remain. -/
def newSlaState (daysRemaining : Int) : SlaState × Int :=
  if daysRemaining < 0 then (.breached, 2)
  else if daysRemaining ≤ 1 then (.atRisk, 1)
  else (.healthy, 0)

def slaKey (uid : Uuid) (level : Int) : String :=
  "sla:" ++ uid.toText ++ ":level:" ++ toString level

/-- Level 0 has no message. -/
def escalationMessage (state : SlaState) (row : SlaTaskRow) (daysRemaining : Int) : Option String :=
  match state with
  | .atRisk => some s!"⚠️ Задача «{row.title}» приближается к дедлайну ({formatDate row.deadline}).\nОстался {max daysRemaining 0} дн. — проверьте статус."
  | .breached => some s!"🔴 Задача «{row.title}» просрочена (дедлайн {formatDate row.deadline} прошёл).\nСрочно обновите статус или сообщите ответственному."
  | .healthy => none

def escalationNotification (row : SlaTaskRow) (recipientUserId level : Int) (message : String)
    (now : Instant) : Notification :=
  { Notification.pending (some row.id) recipientUserId .slaEscalation message (slaKey row.taskUid level) now
    with nextAttemptAt := some (now + 5000000000) }

def escalationDetail (row : SlaTaskRow) (daysRemaining : Int) : List (String × Json) :=
  [("days_remaining", .int daysRemaining), ("deadline", .str (isoDate row.deadline))]

/-- `(new_state, new_level)` of a listed task. -/
def target (row : SlaTaskRow) (today : NaiveDate) : SlaState × Int := newSlaState (row.deadline - today)

/-- `already_at_state && already_at_level`. -/
def isCurrent (row : SlaTaskRow) (today : NaiveDate) : Bool :=
  row.currentSlaState = some (target row today).1.asCode && (target row today).2 ≤ row.slaLastLevel

/-- The level is above the stored one, and above 0. -/
def isRising (row : SlaTaskRow) (today : NaiveDate) : Bool :=
  row.slaLastLevel < (target row today).2 && (target row today).2 ≠ 0

/-- The notification of an escalation; an error is only logged. -/
def notifyAssignee (now : Instant) (today : NaiveDate) (row : SlaTaskRow) : Proc Unit :=
  match row.assignedToUserId with
  | none => pure ()
  | some recipientUserId =>
      match escalationMessage (target row today).1 row (row.deadline - today) with
      | none => pure ()
      | some message => do
          let _ ← (NotificationRepository.enqueue 0
            (escalationNotification row recipientUserId (target row today).2 message now)).attempt
          pure ()

def processTask (now : Instant) (today : NaiveDate) (row : SlaTaskRow) : Proc Unit :=
  if isCurrent row today then pure ()
  else do
    SlaRepository.updateSlaState row.id (target row today).1.asCode (target row today).2 now
    if ¬ isRising row today then pure ()
    else do
      let isNewEscalation ← SlaRepository.recordEscalation row.id (target row today).2 "system"
        (escalationDetail row (row.deadline - today)) now
      if ¬ isNewEscalation then pure () else notifyAssignee now today row

def maxTasksPerTick : Nat := 500

/-- `UpdateSlaStatesUseCase::execute`. -/
def execute (flagEnabled : Bool) (now : Instant) (today : NaiveDate) : Proc Unit :=
  if ¬ flagEnabled then pure ()
  else do
    let tasks ← SlaRepository.listActiveWithDeadline maxTasksPerTick
    Prog.forEach (processTask now today) tasks

/-! ## The work on one task -/

section

variable (now : Instant) (today : NaiveDate) (row : SlaTaskRow) (db : Db)

/-- The database after the state is stored. -/
def withState : Db :=
  SlaRepository.slaUpdated row.id (target row today).1.asCode (target row today).2 now db

def escalation : SlaEscalation :=
  ⟨none, row.id, (target row today).2, now, "system", escalationDetail row (row.deadline - today)⟩

def withEscalation : Db := SlaRepository.recorded (escalation now today row) db

/-- The database after the assignee is told. -/
def withNotification : Db :=
  match row.assignedToUserId with
  | none => db
  | some recipientUserId =>
      match escalationMessage (target row today).1 row (row.deadline - today) with
      | none => db
      | some message =>
          db.insertNotification
            (escalationNotification row recipientUserId (target row today).2 message now)

variable (plan : Site → Fault AppError)

/-- Some fault keeps the insert of the notification from being stored. -/
def NotificationLost : Prop :=
  ∃ e, plan (.notificationInsert (slaKey row.taskUid (target row today).2) 0) = .before e

theorem run_notifyAssignee :
    (notifyAssignee now today row).run plan db = (.ok (), withNotification now today row db) ∨
      NotificationLost today row plan ∧ (notifyAssignee now today row).run plan db = (.ok (), db) := by
  unfold notifyAssignee withNotification
  cases row.assignedToUserId with
  | none => exact .inl rfl
  | some recipientUserId =>
    dsimp only
    cases escalationMessage (target row today).1 row (row.deadline - today) with
    | none => exact .inl rfl
    | some message =>
      dsimp only
      have hrun := Prog.run_attempt plan (NotificationRepository.enqueue 0
        (escalationNotification row recipientUserId (target row today).2 message now)) db
      by_cases hlost : NotificationLost today row plan
      · obtain ⟨e, he⟩ := hlost
        refine .inr ⟨⟨e, he⟩, ?_⟩
        have hinsert : (NotificationRepository.enqueue 0
            (escalationNotification row recipientUserId (target row today).2 message now)).run plan db =
            (.error e, db) := Prog.run_bind_error plan (run_write_before he db)
        rw [Prog.run_bind_ok plan hrun, hinsert]
        rfl
      · have hstore := NotificationRepository.store_enqueue
          (n := escalationNotification row recipientUserId (target row today).2 message now)
          (fun e he => hlost ⟨e, he⟩) db
        rw [Prog.run_bind_ok plan hrun, hstore]
        exact .inl rfl

/-- What the work on one task can answer and store. -/
inductive Outcome : AppResult Unit × Db → Prop where
  | current (hc : isCurrent row today = true) : Outcome (.ok (), db)
  | stateLost (e : AppError) (hc : isCurrent row today = false)
      (hf : plan (.slaUpdate row.id) = .before e) : Outcome (.error e, db)
  | stateOnly (e : AppError) (hc : isCurrent row today = false)
      (hf : plan (.slaUpdate row.id) = .after e) : Outcome (.error e, withState now today row db)
  | steady (hc : isCurrent row today = false) (hu : plan (.slaUpdate row.id) = .none)
      (hr : isRising row today = false) : Outcome (.ok (), withState now today row db)
  | escalationLost (e : AppError) (hc : isCurrent row today = false) (hu : plan (.slaUpdate row.id) = .none)
      (hr : isRising row today = true)
      (hf : plan (.slaRecord row.id (target row today).2) = .before e) :
      Outcome (.error e, withState now today row db)
  | escalationOnly (e : AppError) (hc : isCurrent row today = false) (hu : plan (.slaUpdate row.id) = .none)
      (hr : isRising row today = true)
      (hf : plan (.slaRecord row.id (target row today).2) = .after e) :
      Outcome (.error e, withEscalation now today row (withState now today row db))
  | known (hc : isCurrent row today = false) (hu : plan (.slaUpdate row.id) = .none)
      (hr : isRising row today = true)
      (hn : (db.escalations.insertOrIgnore (escalation now today row)).2 = false) :
      Outcome (.ok (), withEscalation now today row (withState now today row db))
  | told (hc : isCurrent row today = false) (hu : plan (.slaUpdate row.id) = .none)
      (hr : isRising row today = true) :
      Outcome (.ok (), withNotification now today row
        (withEscalation now today row (withState now today row db)))
  | untold (hc : isCurrent row today = false) (hu : plan (.slaUpdate row.id) = .none)
      (hr : isRising row today = true)
      (hl : NotificationLost today row plan) :
      Outcome (.ok (), withEscalation now today row (withState now today row db))

/-- **The work on one task** has one of these outcomes. -/
theorem run_processTask :
    Outcome now today row db plan ((processTask now today row).run plan db) := by
  unfold processTask
  cases hc : isCurrent row today with
  | true => exact .current hc
  | false =>
    rw [if_neg Bool.false_ne_true]
    cases hu : plan (.slaUpdate row.id) with
    | before e =>
      have hupdate : (SlaRepository.updateSlaState row.id (target row today).1.asCode
          (target row today).2 now).run plan db = (.error e, db) := run_write_before hu db
      rw [Prog.run_bind_error plan hupdate]
      exact .stateLost e hc hu
    | after e =>
      have hupdate : (SlaRepository.updateSlaState row.id (target row today).1.asCode
          (target row today).2 now).run plan db = (.error e, withState now today row db) :=
        run_write_after hu db
      rw [Prog.run_bind_error plan hupdate]
      exact .stateOnly e hc hu
    | none =>
      have hupdate : (SlaRepository.updateSlaState row.id (target row today).1.asCode
          (target row today).2 now).run plan db = (.ok (), withState now today row db) := run_write hu db
      rw [Prog.run_bind_ok plan hupdate]
      cases hr : isRising row today with
      | false => exact .steady hc hu hr
      | true =>
        rw [if_neg (fun h => h rfl)]
        let db₁ := withState now today row db
        let record := SlaRepository.recordEscalation row.id (target row today).2 "system"
          (escalationDetail row (row.deadline - today)) now
        cases hs : plan (.slaRecord row.id (target row today).2) with
        | before e =>
          have hrecord : record.run plan db₁ = (.error e, db₁) := run_write_before hs db₁
          rw [Prog.run_bind_error plan hrecord]
          exact .escalationLost e hc hu hr hs
        | after e =>
          have hrecord : record.run plan db₁ = (.error e, withEscalation now today row db₁) :=
            run_write_after hs db₁
          rw [Prog.run_bind_error plan hrecord]
          exact .escalationOnly e hc hu hr hs
        | none =>
          have hrecord : record.run plan db₁ =
              (.ok (db.escalations.insertOrIgnore (escalation now today row)).2,
                withEscalation now today row db₁) := run_write hs db₁
          rw [Prog.run_bind_ok plan hrecord]
          cases hn : (db.escalations.insertOrIgnore (escalation now today row)).2 with
          | false => exact .known hc hu hr hn
          | true =>
            rw [if_neg (fun h => h rfl)]
            rcases run_notifyAssignee now today row (withEscalation now today row db₁) plan with h | ⟨hl, h⟩
            · rw [h]
              exact .told hc hu hr
            · rw [h]
              exact .untold hc hu hr hl

end

end UpdateSlaStates

end TaskBot
