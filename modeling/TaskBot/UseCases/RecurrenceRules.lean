import TaskBot.Store.RecurrenceRepository
import TaskBot.Store.TaskRepository

/-!
# Recurrence rules

One tick of the scheduler lists the due rules; for each it creates a task from
the template of the rule and moves the rule to its next run.  The errors of both
calls are logged and dropped.

* `run_processRule`: the work on one rule always goes on to the next, and leaves
  the database `afterRule`;
* `run_execute`: a tick is the fold of `afterRule` over the due rules.
-/

namespace TaskBot

open Sql Calls

/-- What the packages `cron`, `chrono_tz` and `serde_json` answer. -/
structure RecurrenceLibrary where
  /-- `Schedule::from_str`: the error of an expression it refuses. -/
  scheduleError : String → Option String
  /-- `code.parse::<Tz>()` succeeds. -/
  isTimezone : String → Bool
  /-- `schedule.after(&from_local).next()`, by expression and timezone. -/
  nextAfter : String → String → Instant → Option Instant
  /-- `serde_json::from_str` of a template body. -/
  decodeBody : String → Except String TaskTemplateBody

variable (lib : RecurrenceLibrary)

/-- An expression the `cron` package accepts. -/
structure CronExpression where
  raw : String
  valid : lib.scheduleError raw = none

/-- A timezone code `chrono_tz` knows. -/
structure Timezone where
  code : String
  valid : lib.isTimezone code = true

def CronExpression.parse (raw : String) : AppResult (CronExpression lib) :=
  let trimmed := trim raw
  if trimmed = "" then
    .error (.schemaValidation "CRON_EXPRESSION_EMPTY" "cron expression must not be empty" [])
  else
    match h : lib.scheduleError trimmed with
    | some error =>
        .error (.schemaValidation "CRON_EXPRESSION_INVALID" "cron expression is not a valid schedule"
          [("error", .str error)])
    | none => .ok ⟨trimmed, h⟩

/-- `RecurrenceRule::parse_timezone`. -/
def parseTimezone (code : String) : AppResult (Timezone lib) :=
  if h : lib.isTimezone code = true then .ok ⟨code, h⟩
  else
    .error (.schemaValidation "RECURRENCE_RULE_UNKNOWN_TZ" s!"unknown timezone '{code}'"
      [("timezone", .str code)])

variable {lib} in
def CronExpression.nextFireAfter (cron : CronExpression lib) (start : Instant) (timezone : Timezone lib) :
    Option Instant :=
  lib.nextAfter cron.raw timezone.code start

def decodeTemplateBody (raw : String) : AppResult TaskTemplateBody :=
  match lib.decodeBody raw with
  | .ok body => .ok body
  | .error error =>
      .error (.schemaValidation "TEMPLATE_BODY_DECODE_FAILED" "failed to decode template body"
        [("error", .str error)])

/-- No next run when the expression or the timezone is refused. -/
def computeNextRun (cronExpr tzCode : String) (start : Instant) : Option Instant := do
  let cron ← (CronExpression.parse lib cronExpr).toOption
  let tz ← (parseTimezone lib tzCode).toOption
  cron.nextFireAfter start tz

namespace ProcessRecurrenceRules

/-- `MAX_RULES_PER_TICK`. -/
def maxRulesPerTick : Nat := 50

def sourceKey (ruleId : Int) (now : Instant) : String :=
  "recurrence:" ++ toString ruleId ++ ":" ++ toString now.timestamp

/-- The task a rule creates from its template. -/
def ruleTask (uid : Uuid) (now : Instant) (rule : RecurrenceRuleRow) (template : TaskTemplateRow)
    (body : TaskTemplateBody) : Task where
  id := none
  taskUid := uid
  version := 1
  sourceMessageKey := sourceKey rule.id now
  createdByUserId := rule.ownerUserId
  assignedToUserId := none
  assignedToEmployeeId := none
  title := template.title
  description := body.description
  acceptanceCriteria := body.acceptanceCriteria
  expectedResult := body.expectedResult
  deadline := none
  deadlineRaw := none
  originalMessage := s!"Автозадача из шаблона «{template.code}»"
  messageType := .text
  aiModelUsed := ""
  aiResponseRaw := ""
  status := .created
  priority := .medium
  blockedReason := none
  telegramChatId := 0
  telegramMessageId := 0
  telegramTaskMessageId := none
  tags := body.tags
  createdAt := now
  sentAt := none
  startedAt := none
  blockedAt := none
  reviewRequestedAt := none
  completedAt := none
  cancelledAt := none
  updatedAt := now

/-- The next run of the rule, counted from `now`. -/
def nextRun (rule : RecurrenceRuleRow) (now : Instant) : Option Instant :=
  computeNextRun lib rule.cronExpression rule.timezone now

/-- Moves the rule on; an error is only logged. -/
def advance (rule : RecurrenceRuleRow) (now : Instant) : Proc Unit := do
  let _ ← (RecurrenceRepository.advanceRule rule.id now (nextRun lib rule now) now).attempt
  pure ()

def processRule (now : Instant) (uid : Uuid) (rule : RecurrenceRuleRow) : Proc Unit :=
  match rule.templateId with
  | none => advance lib rule now
  | some templateId => do
      match ← (RecurrenceRepository.getTemplate rule.id templateId).attempt with
      | .error _ => pure ()
      | .ok none => advance lib rule now
      | .ok (some template) =>
          match decodeTemplateBody lib template.body with
          | .error _ => advance lib rule now
          | .ok body => do
              let _ ← (TaskRepository.createIfAbsent (ruleTask uid now rule template body)).attempt
              advance lib rule now

/-- `ProcessRecurrenceRulesUseCase::execute`; `uid k` is the identifier drawn for the
`k`-th due rule. -/
def execute (flagEnabled : Bool) (now : Instant) (uid : Nat → Uuid) : Proc Unit :=
  if ¬ flagEnabled then pure ()
  else do
    let dueRules ← RecurrenceRepository.listDue now maxRulesPerTick
    Prog.forEach (fun p => processRule lib now (uid p.2) p.1) dueRules.zipIdx

/-! ## What a tick stores -/

section

variable (plan : Site → Fault AppError)

def afterCreate (task : Task) (db : Db) : Db :=
  if (plan (.taskInsert task.sourceMessageKey)).stores then TaskRepository.inserted task db else db

def afterAdvance (rule : RecurrenceRuleRow) (now : Instant) (db : Db) : Db :=
  if (plan (.ruleAdvance rule.id)).stores then
    RecurrenceRepository.advanced rule.id now (nextRun lib rule now) now db
  else db

/-- The database after the work on one rule. -/
def afterRule (now : Instant) (uid : Uuid) (rule : RecurrenceRuleRow) (db : Db) : Db :=
  match rule.templateId with
  | none => afterAdvance lib plan rule now db
  | some templateId =>
      if plan (.templateFind rule.id templateId) = .none then
        match RecurrenceRepository.findTemplate templateId db with
        | none => afterAdvance lib plan rule now db
        | some r =>
            match decodeTemplateBody lib r.val.body with
            | .error _ => afterAdvance lib plan rule now db
            | .ok body =>
                let task := ruleTask uid now rule (RecurrenceRepository.toTemplateRow r) body
                afterAdvance lib plan rule now (afterCreate plan task db)
      else db

theorem store_createIfAbsent (task : Task) (db : Db) :
    ((TaskRepository.createIfAbsent task).run plan db).2 = afterCreate plan task db := by
  have hinsert : ((TaskRepository.insertTask task).run plan db).2 = afterCreate plan task db :=
    Fault.apply_snd _ _ _
  exact Prog.store_bind_reads plan hinsert fun isNew =>
    .bind (select_reads _ _) fun _ => .bind (.lift _) fun _ => .pure _

theorem run_advance (rule : RecurrenceRuleRow) (now : Instant) (db : Db) :
    (advance lib rule now).run plan db = (.ok (), afterAdvance lib plan rule now db) := by
  unfold advance
  rw [Prog.run_bind_ok plan (Prog.run_attempt plan _ db), RecurrenceRepository.advanceRule_store]
  rfl

theorem run_processRule (now : Instant) (uid : Uuid) (rule : RecurrenceRuleRow) (db : Db) :
    (processRule lib now uid rule).run plan db = (.ok (), afterRule lib plan now uid rule db) := by
  unfold processRule afterRule
  cases ht : rule.templateId with
  | none => exact run_advance lib plan rule now db
  | some templateId =>
    have hlookup := Prog.run_attempt plan (RecurrenceRepository.getTemplate rule.id templateId) db
    unfold RecurrenceRepository.getTemplate at hlookup ⊢
    dsimp only
    by_cases hp : plan (.templateFind rule.id templateId) = .none
    · rw [run_select hp db] at hlookup
      rw [Prog.run_bind_ok plan hlookup, if_pos hp]
      cases RecurrenceRepository.findTemplate templateId db with
      | none => exact run_advance lib plan rule now db
      | some r =>
        dsimp only [Option.map_some, RecurrenceRepository.toTemplateRow]
        cases decodeTemplateBody lib r.val.body with
        | error e => exact run_advance lib plan rule now db
        | ok body =>
          dsimp only
          rw [Prog.run_bind_ok plan (Prog.run_attempt plan _ db), store_createIfAbsent, run_advance]
    · obtain ⟨e, he⟩ := run_select_failed (fun db => .ok
        ((RecurrenceRepository.findTemplate templateId db).map RecurrenceRepository.toTemplateRow)) hp db
      rw [he] at hlookup
      rw [Prog.run_bind_ok plan hlookup, if_neg hp]
      rfl

/-- **A tick**: nothing when the rules cannot be listed, else the due rules in turn. -/
theorem run_execute (now : Instant) (uid : Nat → Uuid) (db : Db) :
    ((execute lib true now uid).run plan db).2 =
      if plan .ruleListDue = .none then
        ((RecurrenceRepository.dueRows now maxRulesPerTick db).map
          RecurrenceRepository.toRuleRow).zipIdx.foldl
            (fun db p => afterRule lib plan now (uid p.2) p.1 db) db
      else db := by
  unfold execute
  rw [if_neg (by decide)]
  let ans := fun db => (RecurrenceRepository.dueRows now maxRulesPerTick db).map
    RecurrenceRepository.toRuleRow
  by_cases hp : plan .ruleListDue = .none
  · have hlist : (RecurrenceRepository.listDue now maxRulesPerTick).run plan db = (.ok (ans db), db) :=
      run_select hp db
    rw [Prog.run_bind_ok plan hlist, if_pos hp,
      Prog.run_forEach plan fun p db => run_processRule lib plan now (uid p.2) p.1 db]
  · obtain ⟨e, he⟩ := run_select_failed (fun db => .ok (ans db)) hp db
    have hlist : (RecurrenceRepository.listDue now maxRulesPerTick).run plan db = (.error e, db) := he
    rw [Prog.run_bind_error plan hlist, if_neg hp]

end

end ProcessRecurrenceRules

end TaskBot
