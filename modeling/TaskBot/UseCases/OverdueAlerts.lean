import TaskBot.UseCases.TaskReminders

/-!
# Overdue alerts

Every third day after a deadline the worker alerts the creator and the assignee of each open task that is
overdue.  The key of an alert holds the task, the recipient and the days that have passed.

* `enqueueOverdueAlerts`: the loop over the tasks and, for each, over its participants;
* `Overdue`: whom a run on a day has to alert;
* `mem_overdue`: the statement answers with all overdue tasks if they are not too many, and with no others.
-/

namespace TaskBot

open Sql Calls TaskRepository

/-- The creator and the assignee. -/
def Task.participants (t : Task) : List Int := t.createdByUserId :: t.assignedToUserId.toList

namespace EnqueueTaskReminders

def overdueKey (uid : Uuid) (recipientUserId overdueDays : Int) : String :=
  "overdue:" ++ uid.toText ++ ":" ++ toString recipientUserId ++ ":" ++ toString overdueDays

def overdueAlert (t : Task) (recipientUserId overdueDays : Int) (now : Instant) : Notification :=
  Notification.pending t.id recipientUserId .taskUpdated
    s!"Задача «{t.title}» просрочена уже на {overdueDays} дн." (overdueKey t.taskUid recipientUserId overdueDays) now

/-- One turn of the loop over creator and assignee. -/
def alertRecipient (slot : Nat) (t : Task) (overdueDays : Int) (now : Instant) (recipient : Option Int) :
    Proc Unit :=
  match recipient with
  | none => pure ()
  | some recipientUserId => do
      let _ ← NotificationRepository.enqueue slot (overdueAlert t recipientUserId overdueDays now)
      pure ()

/-- One round of the loop over the tasks. -/
def alertParticipants (today : NaiveDate) (clock : Nat → Instant) (t : Task) : Proc Unit :=
  match t.deadline with
  | none => pure ()
  | some deadline =>
      if (today - deadline) % 3 ≠ 0 then pure ()
      else do
        alertRecipient 0 t (today - deadline) (clock 0) (some t.createdByUserId)
        alertRecipient 1 t (today - deadline) (clock 1) t.assignedToUserId

/-- `clock` is read once for each alert. -/
def enqueueOverdueAlerts (today : NaiveDate) (clock : Nat → Instant) : Proc Unit := do
  let tasks ← getOverdue today reminderTaskFetchLimit
  Prog.forEach (fun p => alertParticipants today (fun j => clock (2 * p.2 + j)) p.1) tasks.zipIdx

theorem alertOverdue_leavesTasks (today : NaiveDate) (clock : Nat → Instant) :
    LeavesTasks (enqueueOverdueAlerts today clock) := by
  have hone : ∀ slot t days now recipient, LeavesTasks (alertRecipient slot t days now recipient) := by
    intro slot t days now recipient
    unfold alertRecipient
    split
    · exact .pure _
    · exact .bind (NotificationRepository.enqueue_leavesTasks _ _) fun _ => .pure _
  refine .bind (LeavesTasks.of_reads (select_reads _ _)) fun tasks => .forEach fun p _ => ?_
  unfold alertParticipants
  split
  · exact .pure _
  · split
    · exact .pure _
    · exact .bind (hone _ _ _ _ _) fun _ => hone _ _ _ _ _

/-! ## Whom a run has to alert -/

/-- The open tasks that the statement finds to have a deadline before the day: as a text. -/
def overdueTasks (today : NaiveDate) (db : Db) : List Task :=
  (db.tasks.rows.map toTask).filter (isOverdueBy today)

/-- The user takes part in an open task that is overdue by this multiple of three days. -/
def Overdue (today : NaiveDate) (uid : Uuid) (userId days : Int) (db : Db) : Prop :=
  ∃ t ∈ overdueTasks today db, t.taskUid = uid ∧ t.deadline = some (today - days) ∧ days % 3 = 0 ∧
    userId ∈ t.participants

/-- A task of the list is overdue by the days since its deadline, more than none; unless the year of the
deadline has more than four digits, and then the days are counted from a deadline that is far ahead. -/
theorem overdue_pos {today : NaiveDate} {t : Task} {db : Db} {days : Int} (ht : t ∈ overdueTasks today db)
    (hdeadline : t.deadline = some (today - days)) (htoday : HasFourDigits today) :
    0 < days ∨ ¬ HasFourDigits (today - days) := by
  obtain ⟨-, hmem⟩ := List.mem_filter.mp ht
  unfold isOverdueBy at hmem
  rw [hdeadline] at hmem
  simp only [Option.any_some, Bool.and_eq_true, decide_eq_true_eq] at hmem
  have hpos : ∀ a b : Int, a - b < a → 0 < b := by omega
  exact ((isoDate_before_iff htoday).mp hmem.1).imp_left (hpos today days)

/-- **What the statement answers.** -/
theorem mem_overdue {today : NaiveDate} {limit : Nat} {db : Db} :
    let answer := ((overdueTasks today db).mergeSort byDeadline).take limit
    (∀ t ∈ answer, t ∈ overdueTasks today db) ∧
      ((overdueTasks today db).length ≤ limit → ∀ t ∈ overdueTasks today db, t ∈ answer) := by
  intro answer
  have hperm := List.mergeSort_perm (overdueTasks today db) byDeadline
  refine ⟨fun t ht => hperm.mem_iff.mp (List.mem_of_mem_take ht), fun hmany t ht => ?_⟩
  have hwhole : answer = _ := List.take_of_length_le (by rw [hperm.length_eq]; exact hmany)
  rw [hwhole]
  exact hperm.mem_iff.mpr ht

end EnqueueTaskReminders

end TaskBot
