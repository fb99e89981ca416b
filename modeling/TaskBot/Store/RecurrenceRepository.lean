import TaskBot.Store.Db
import Mathlib.Data.List.Sort

/-!
# Recurrence repository

The due rules in the order of their next run, the active templates, and the
statement that moves a rule to its next run.

* `mem_dueRows`, `dueRows_full`: a due rule is listed, or the list is full of
  rules that run no later;
* `rows_advanced`: what an advance does to the rules.
-/

namespace TaskBot

open Sql Calls

structure RecurrenceRuleRow where
  id : Int
  templateId : Option Int
  ownerUserId : Int
  cronExpression : String
  timezone : String
deriving DecidableEq, Repr

structure TaskTemplateRow where
  id : Int
  code : String
  title : String
  body : String
  createdByUserId : Option Int
deriving DecidableEq, Repr

namespace RecurrenceRepository

def toRuleRow (r : Stored RecurrenceRule) : RecurrenceRuleRow :=
  ⟨r.id, r.val.templateId, r.val.ownerUserId, r.val.cronExpression, r.val.timezone⟩

def toTemplateRow (r : Stored TaskTemplate) : TaskTemplateRow :=
  ⟨r.id, r.val.code, r.val.title, r.val.body, r.val.createdByUserId⟩

/-- `is_active = 1 AND next_run_at IS NOT NULL AND next_run_at <= ?`. -/
def isDue (asOf : Instant) (r : Stored RecurrenceRule) : Bool :=
  r.val.isActive && r.val.nextRunAt.any (· ≤ asOf)

/-- `ORDER BY next_run_at ASC`, on rows where it is not `NULL`. -/
def runsBefore (a b : Stored RecurrenceRule) : Prop := a.val.nextRunAt.getD 0 ≤ b.val.nextRunAt.getD 0

instance : DecidableRel runsBefore := fun a b =>
  inferInstanceAs (Decidable (a.val.nextRunAt.getD 0 ≤ b.val.nextRunAt.getD 0))

instance : Std.Total runsBefore := ⟨fun _ _ => Int.le_total _ _⟩

instance : IsTrans (Stored RecurrenceRule) runsBefore := ⟨fun _ _ _ => Int.le_trans⟩

def sortedDue (asOf : Instant) (db : Db) : List (Stored RecurrenceRule) :=
  (db.rules.rows.filter (isDue asOf)).insertionSort runsBefore

def dueRows (asOf : Instant) (limit : Nat) (db : Db) : List (Stored RecurrenceRule) :=
  (sortedDue asOf db).take limit

def listDue (asOf : Instant) (limit : Nat) : Proc (List RecurrenceRuleRow) :=
  select .ruleListDue fun db => .ok ((dueRows asOf limit db).map toRuleRow)

def findTemplate (templateId : Int) (db : Db) : Option (Stored TaskTemplate) :=
  db.templates.find? fun r => r.id = templateId ∧ r.val.isActive

/-- `ruleId` tells apart two lookups of one template in one run. -/
def getTemplate (ruleId templateId : Int) : Proc (Option TaskTemplateRow) :=
  select (.templateFind ruleId templateId) fun db => .ok ((findTemplate templateId db).map toTemplateRow)

def firedColumns (firedAt : Instant) (nextRunAt : Option Instant) (now : Instant) (r : RecurrenceRule) :
    RecurrenceRule :=
  { r with lastRunAt := some firedAt, nextRunAt, updatedAt := now }

theorem firedColumns_keeps (firedAt : Instant) (nextRunAt : Option Instant) (now : Instant) :
    KeepsKeys (firedColumns firedAt nextRunAt now) := fun _ _ => rfl

/-- The database after `UPDATE recurrence_rules … WHERE id = ?`. -/
def advanced (ruleId : Int) (firedAt : Instant) (nextRunAt : Option Instant) (now : Instant) (db : Db) :
    Db :=
  { db with
    rules := db.rules.modify (fun r => r.id = ruleId) (firedColumns firedAt nextRunAt now)
      (firedColumns_keeps firedAt nextRunAt now) }

def advanceRule (ruleId : Int) (firedAt : Instant) (nextRunAt : Option Instant) (now : Instant) :
    Proc Unit :=
  write (.ruleAdvance ruleId) fun db => ((), advanced ruleId firedAt nextRunAt now db)

/-! ## The due rules -/

variable {asOf : Instant} {limit : Nat} {db : Db} {r : Stored RecurrenceRule}

theorem isDue_iff : isDue asOf r = true ↔
    r.val.isActive = true ∧ ∃ x, r.val.nextRunAt = some x ∧ x ≤ asOf := by
  rw [isDue, Bool.and_eq_true, Option.any_eq_true]
  simp only [decide_eq_true_eq]

theorem mem_sortedDue : r ∈ sortedDue asOf db ↔ r ∈ db.rules.rows ∧ isDue asOf r = true := by
  rw [sortedDue, List.mem_insertionSort, List.mem_filter]

theorem mem_dueRows (h : r ∈ dueRows asOf limit db) : r ∈ db.rules.rows ∧ isDue asOf r = true :=
  mem_sortedDue.mp (List.mem_of_mem_take h)

/-- A rule is listed once. -/
theorem dueRows_nodup (asOf : Instant) (limit : Nat) (db : Db) :
    ((dueRows asOf limit db).map Stored.id).Nodup := by
  have hids : ((db.rules.rows.filter (isDue asOf)).map Stored.id).Nodup := by
    refine List.pairwise_map.mpr ?_
    exact (db.rules.apart.filter (isDue asOf)).imp fun h => h.1
  have hperm := (List.perm_insertionSort runsBefore (db.rules.rows.filter (isDue asOf))).map Stored.id
  have hsorted := hperm.nodup_iff.mpr hids
  exact hsorted.sublist ((List.take_sublist _ _).map _)

/-- **A due rule is listed, or the list is full of rules that run no later.** -/
theorem dueRows_full (hr : r ∈ db.rules.rows) (hdue : isDue asOf r = true)
    (hno : r ∉ dueRows asOf limit db) :
    (dueRows asOf limit db).length = limit ∧ ∀ r' ∈ dueRows asOf limit db, runsBefore r' r := by
  have hmem : r ∈ (sortedDue asOf db).take limit ++ (sortedDue asOf db).drop limit := by
    rw [List.take_append_drop]
    exact mem_sortedDue.mpr ⟨hr, hdue⟩
  have hdrop : r ∈ (sortedDue asOf db).drop limit := (List.mem_append.mp hmem).resolve_left hno
  have hpair : ((sortedDue asOf db).take limit ++ (sortedDue asOf db).drop limit).Pairwise runsBefore := by
    rw [List.take_append_drop]
    exact List.pairwise_insertionSort runsBefore _
  constructor
  · have hpos := List.length_pos_of_mem hdrop
    rw [List.length_drop] at hpos
    rw [dueRows, List.length_take]
    omega
  · intro r' hr'
    exact (List.pairwise_append.mp hpair).2.2 r' hr' r hdrop

/-! ## The statements -/

theorem rows_advanced (ruleId : Int) (firedAt : Instant) (nextRunAt : Option Instant) (now : Instant)
    (db : Db) :
    (advanced ruleId firedAt nextRunAt now db).rules.rows =
      db.rules.rows.map (setWhere (fun r => r.id = ruleId) (firedColumns firedAt nextRunAt now)) := rfl

theorem advanceRule_store (plan : Site → Fault AppError) (ruleId : Int) (firedAt : Instant)
    (nextRunAt : Option Instant) (now : Instant) (db : Db) :
    ((advanceRule ruleId firedAt nextRunAt now).run plan db).2 =
      if (plan (.ruleAdvance ruleId)).stores then advanced ruleId firedAt nextRunAt now db else db :=
  Fault.apply_snd _ _ _

end RecurrenceRepository

end TaskBot
