import TaskBot.Domain.DateTexts
import TaskBot.UseCases.DailySummaries
import TaskBot.UseCases.OverdueAlerts
import TaskBot.UseCases.Registration
import TaskBot.UseCases.SlaStates
import TaskBot.UseCases.TaskComments

/-!
# What the key of a notification tells

Nine families of notifications share one unique column.  Their keys are texts of fields, joined by colons, and
the first field names the family.

* `NoticeKey.text_inj`: the text tells the family and every field, so that no two families meet in a key;
* `NoticeKey.Names`: the key, the kind and the recipient of a notification belong together;
* `names_…`: those of every notification the program enqueues do.
-/

namespace TaskBot

open Fields

/-! ## Dates -/

theorem isoDate_free (date : NaiveDate) : Free ':' (isoDate date) := by
  have hpadded : ∀ (width : Nat) (value : Int), ':' ∉ (zeroPadded width value).toList := by
    intro width value hc
    obtain ⟨zeros, hzeros⟩ := toList_zeroPadded width value
    rw [hzeros] at hc
    rcases List.mem_append.mp hc with hc | hc
    · cases List.eq_of_mem_replicate hc
    · exact idText_free value hc
  have hyear : ∀ year : Int, ':' ∉ (formatYear year).toList := by
    intro year
    unfold formatYear
    split
    · exact hpadded 4 year
    · split <;> simp [hpadded]
  unfold Free isoDate
  simp [hpadded, hyear]

/-! ## The families -/

/-- What a notification is about, and for whom. -/
inductive NoticeKey where
  | assigned (task : Uuid) (recipient : Int)
  | reassigned (task : Uuid) (recipient version : Int)
  | status (task : Uuid) (recipient : Int) (next : TaskStatus) (version : Int)
  | blocked (task : Uuid) (recipient version : Int)
  | commented (task : Uuid) (recipient comment : Int)
  | dueTomorrow (task : Uuid) (deadline : NaiveDate)
  | overdue (task : Uuid) (recipient days : Int)
  | summary (recipient : Int) (day : NaiveDate)
  | escalated (task : Uuid) (level : Int)
deriving DecidableEq, Repr

namespace NoticeKey

def fields : NoticeKey → List String
  | assigned task recipient => ["task_assigned", task.toText, toString recipient]
  | reassigned task recipient version => ["task_reassigned", task.toText, toString recipient, toString version]
  | status task recipient next version =>
      ["task_status", task.toText, toString recipient, next.toText, toString version]
  | blocked task recipient version => ["task_blocked", task.toText, toString recipient, toString version]
  | commented task recipient comment => ["task_comment", task.toText, toString recipient, toString comment]
  | dueTomorrow task deadline => ["deadline_reminder", task.toText, isoDate deadline]
  | overdue task recipient days => ["overdue", task.toText, toString recipient, toString days]
  | summary recipient day => ["daily_summary", toString recipient, isoDate day]
  | escalated task level => ["sla", task.toText, "level", toString level]

def text (k : NoticeKey) : String := (String.singleton ':').intercalate k.fields

def kind : NoticeKey → NotificationType
  | assigned .. | reassigned .. => .taskAssigned
  | status _ _ next _ => UpdateTaskStatus.notificationTypeForStatus next
  | blocked .. => .taskBlocked
  | commented .. | overdue .. => .taskUpdated
  | dueTomorrow .. => .deadlineReminder
  | summary .. => .dailySummary
  | escalated .. => .slaEscalation

/-- The user the key names; a reminder and an escalation name none. -/
def recipient? : NoticeKey → Option Int
  | assigned _ recipient | reassigned _ recipient _ | status _ recipient _ _ | blocked _ recipient _
  | commented _ recipient _ | overdue _ recipient _ | summary recipient _ => some recipient
  | dueTomorrow .. | escalated .. => none

/-- The key of an overdue alert. -/
def isAlert : NoticeKey → Bool
  | overdue .. => true
  | _ => false

theorem fields_ne_nil (k : NoticeKey) : k.fields ≠ [] := by
  cases k <;> exact List.cons_ne_nil _ _

theorem fields_free (k : NoticeKey) : AllFree ':' k.fields := by
  have hstatus : ∀ s : TaskStatus, Free ':' s.toText := by
    intro s
    cases s <;> decide
  have htag : ∀ {tag : String} {rest : List String}, Free ':' tag → AllFree ':' rest →
      AllFree ':' (tag :: rest) := AllFree.cons
  cases k with
  | assigned task recipient => exact htag (by decide) (.cons task.toText_free (.cons (idText_free _) .nil))
  | reassigned task recipient version =>
    exact htag (by decide) (.cons task.toText_free (.cons (idText_free _) (.cons (idText_free _) .nil)))
  | status task recipient next version =>
    exact htag (by decide) (.cons task.toText_free
      (.cons (idText_free _) (.cons (hstatus next) (.cons (idText_free _) .nil))))
  | blocked task recipient version =>
    exact htag (by decide) (.cons task.toText_free (.cons (idText_free _) (.cons (idText_free _) .nil)))
  | commented task recipient comment =>
    exact htag (by decide) (.cons task.toText_free (.cons (idText_free _) (.cons (idText_free _) .nil)))
  | dueTomorrow task deadline =>
    exact htag (by decide) (.cons task.toText_free (.cons (isoDate_free deadline) .nil))
  | overdue task recipient days =>
    exact htag (by decide) (.cons task.toText_free (.cons (idText_free _) (.cons (idText_free _) .nil)))
  | summary recipient day => exact htag (by decide) (.cons (idText_free _) (.cons (isoDate_free day) .nil))
  | escalated task level =>
    exact htag (by decide) (.cons task.toText_free (.cons (by decide) (.cons (idText_free _) .nil)))

theorem fields_inj {k k' : NoticeKey} (h : k.fields = k'.fields) : k = k' := by
  have htask : ∀ u v : Uuid, u.toText = v.toText ↔ u = v := fun u v =>
    ⟨fun h => Uuid.hyphenated_inj (String.ofList_inj.mp h), congrArg Uuid.toText⟩
  have hid : ∀ m n : Int, m.repr = n.repr ↔ m = n := fun m n =>
    ⟨fun h => idText_inj (congrArg String.toList h), congrArg Int.repr⟩
  have hstatus : ∀ s s' : TaskStatus, s.toText = s'.toText ↔ s = s' := by
    intro s s'
    cases s <;> cases s' <;> decide
  have hdate : ∀ d d' : NaiveDate, isoDate d = isoDate d' ↔ d = d' := fun d d' =>
    ⟨isoDate_inj, congrArg isoDate⟩
  -- two families differ in the first field
  cases k <;> cases k' <;> simp [fields, htask, hid, hstatus, hdate] at h ⊢ <;> exact h

/-- **The text tells the key.** -/
theorem text_inj {k k' : NoticeKey} (h : k.text = k'.text) : k = k' := by
  have hsplit : ∀ k : NoticeKey, splitFields ':' k.text = k.fields := fun k =>
    splitFields_intercalate k.fields_free k.fields_ne_nil
  exact fields_inj (by rw [← hsplit k, ← hsplit k', h])

/-- The notification is what its key says, for the user its key names. -/
structure Names (k : NoticeKey) (n : Notification) : Prop where
  key : n.dedupeKey = k.text
  kind : n.notificationType = k.kind
  recipient : ∀ userId, k.recipient? = some userId → n.recipientUserId = userId

/-- A notification has one key. -/
theorem Names.unique {k k' : NoticeKey} {n : Notification} (h : k.Names n) (h' : k'.Names n) : k = k' :=
  text_inj (h.key.symm.trans h'.key)

/-! ## What the program enqueues -/

section

variable {start tag : String} (h : start = tag ++ ":") (a b c d : String)
include h

theorem joined₂ : start ++ a ++ ":" ++ b = (String.singleton ':').intercalate [tag, a, b] := by
  rw [h]
  simp only [String.intercalate_cons_cons, String.intercalate_singleton, String.append_assoc]
  rfl

theorem joined₃ : start ++ a ++ ":" ++ b ++ ":" ++ c = (String.singleton ':').intercalate [tag, a, b, c] := by
  rw [h]
  simp only [String.intercalate_cons_cons, String.intercalate_singleton, String.append_assoc]
  rfl

theorem joined₄ : start ++ a ++ ":" ++ b ++ ":" ++ c ++ ":" ++ d =
    (String.singleton ':').intercalate [tag, a, b, c, d] := by
  rw [h]
  simp only [String.intercalate_cons_cons, String.intercalate_singleton, String.append_assoc]
  rfl

end

theorem names_assignment (task : Task) (userId : Int) (now : Instant) :
    (assigned task.taskUid userId).Names (CreateTaskFromMessage.assignmentNotification task userId now) where
  key := joined₂ (by decide) _ _
  kind := rfl
  recipient _ h := Option.some.inj h

theorem names_reassignment (task : Task) (userId : Int) (now : Instant) :
    (reassigned task.taskUid userId task.version).Names (ReassignTask.assigneeNotification task userId now) where
  key := joined₃ (by decide) _ _ _
  kind := rfl
  recipient _ h := Option.some.inj h

theorem names_participant (task : Task) (next : TaskStatus) (userId : Int) (now : Instant) :
    (status task.taskUid userId next task.version).Names
      (UpdateTaskStatus.participantNotification task next userId now) where
  key := joined₄ (by decide) _ _ _ _
  kind := rfl
  recipient _ h := Option.some.inj h

theorem names_blocker (task : Task) (reason : String) (now : Instant) :
    (blocked task.taskUid task.createdByUserId task.version).Names
      (ReportTaskBlocker.creatorNotification task reason now) where
  key := joined₃ (by decide) _ _ _
  kind := rfl
  recipient _ h := Option.some.inj h

theorem names_comment (task : Task) (body : String) (commentId : Option Int) (userId : Int) (now : Instant) :
    (commented task.taskUid userId (commentId.getD 0)).Names
      (AddTaskComment.commentNotification task body commentId userId now) where
  key := joined₃ (by decide) _ _ _
  kind := rfl
  recipient _ h := Option.some.inj h

theorem names_reminder (task : Task) (userId : Int) (tomorrow : NaiveDate) (now : Instant) :
    (dueTomorrow task.taskUid tomorrow).Names (EnqueueTaskReminders.reminder task userId tomorrow now) where
  key := joined₂ (by decide) _ _
  kind := rfl
  recipient _ h := nomatch h

theorem names_alert (task : Task) (userId days : Int) (now : Instant) :
    (overdue task.taskUid userId days).Names (EnqueueTaskReminders.overdueAlert task userId days now) where
  key := joined₃ (by decide) _ _ _
  kind := rfl
  recipient _ h := Option.some.inj h

theorem names_summary (userId : Int) (today : NaiveDate) (tasks : List Task) (now : Instant) :
    (summary userId today).Names (EnqueueDailySummaries.summary userId today tasks now) where
  key := joined₂ (by decide) _ _
  kind := rfl
  recipient _ h := Option.some.inj h

theorem names_escalation (row : SlaTaskRow) (userId level : Int) (message : String) (now : Instant) :
    (escalated row.taskUid level).Names (UpdateSlaStates.escalationNotification row userId level message now) where
  key := by
    have hlevel : (":level:" : String) = ":" ++ "level" ++ ":" := by decide
    change UpdateSlaStates.slaKey row.taskUid level = _
    unfold UpdateSlaStates.slaKey
    rw [hlevel, ← String.append_assoc, ← String.append_assoc]
    exact joined₃ (by decide) _ _ _
  kind := rfl
  recipient _ h := nomatch h

end NoticeKey

end TaskBot
