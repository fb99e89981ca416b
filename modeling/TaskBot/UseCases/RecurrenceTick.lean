import TaskBot.UseCases.RecurrenceRules
import TaskBot.Lib.Cursor

/-!
# A tick as a firing

The next run of a rule and the tasks created for it are a cursor (`cursorOf`).  A
tick of the scheduler works on each due rule in a database that is the same for
this rule, and moves its cursor by at most one firing.

* `afterRule_other`: the work on one rule is nothing to another;
* `exec_cursor`: a tick moves the cursor of a rule by its firing;
* `exec_sameRules`, `exec_uids`: what a tick leaves alone.
-/

namespace TaskBot

open Sql Calls Cursors ProcessRecurrenceRules RecurrenceRepository

/-! ## The schedule of a rule as a cursor -/

def ruleOf (ruleId : Int) (db : Db) : Option (Stored RecurrenceRule) :=
  db.rules.find? fun r => r.id = ruleId

/-- The stored `next_run_at` of the rule. -/
def nextOf (ruleId : Int) (db : Db) : Option Instant := (ruleOf ruleId db).bind fun r => r.val.nextRunAt

/-- How the source keys of the tasks of a rule begin. -/
def keyPrefix (ruleId : Int) : List Char := "recurrence:".toList ++ (idText ruleId ++ [':'])

def isTaskOf (ruleId : Int) (r : Stored TaskColumns) : Bool :=
  (keyPrefix ruleId).isPrefixOf r.val.task.sourceMessageKey.toList

/-- The tasks created for the rule. -/
def tasksOf (ruleId : Int) (db : Db) : List (Stored TaskColumns) :=
  db.tasks.rows.filter (isTaskOf ruleId)

def cursorOf (ruleId : Int) (db : Db) : Cursor Instant :=
  ⟨nextOf ruleId db, (tasksOf ruleId db).map fun r => r.val.task.createdAt⟩

/-- Two databases that agree on a rule, its tasks and the templates. -/
structure SameFor (ruleId : Int) (db db' : Db) : Prop where
  rule : ruleOf ruleId db' = ruleOf ruleId db
  tasks : tasksOf ruleId db' = tasksOf ruleId db
  templates : db'.templates = db.templates

theorem SameFor.refl (ruleId : Int) (db : Db) : SameFor ruleId db db := ⟨rfl, rfl, rfl⟩

theorem SameFor.trans {ruleId : Int} {db db' db'' : Db} (h : SameFor ruleId db db')
    (h' : SameFor ruleId db' db'') : SameFor ruleId db db'' :=
  ⟨h'.rule.trans h.rule, h'.tasks.trans h.tasks, h'.templates.trans h.templates⟩

theorem SameFor.cursor {ruleId : Int} {db db' : Db} (h : SameFor ruleId db db') :
    cursorOf ruleId db' = cursorOf ruleId db := by
  unfold cursorOf nextOf
  rw [h.rule, h.tasks]

theorem idText_prefix (m n : Int) (start l : List Char) :
    start ++ (idText m ++ [':']) <+: start ++ (idText n ++ ':' :: l) ↔ m = n := by
  rw [List.prefix_append_right_inj]
  constructor
  · rintro ⟨t, ht⟩
    rw [List.append_assoc] at ht
    exact idText_colon_inj ht
  · rintro rfl
    exact ⟨l, List.append_assoc (idText m) [':'] l⟩

theorem sourceKey_toList (ruleId : Int) (now : Instant) : (sourceKey ruleId now).toList =
    "recurrence:".toList ++ (idText ruleId ++ ':' :: idText now.timestamp) := by
  have hcolon : ":".toList = [':'] := by decide
  unfold sourceKey idText
  simp only [String.toList_append, List.append_assoc, hcolon, List.cons_append, List.nil_append]

/-- The key of a task tells its rule. -/
theorem isPrefixOf_sourceKey (ruleId ruleId' : Int) (now : Instant) :
    (keyPrefix ruleId).isPrefixOf (sourceKey ruleId' now).toList = true ↔ ruleId = ruleId' := by
  rw [List.isPrefixOf_iff_prefix, sourceKey_toList]
  exact idText_prefix ruleId ruleId' "recurrence:".toList (idText now.timestamp)

theorem tasksOf_inserted {ruleId ruleId' : Int} {now : Instant} {task : Task}
    (hkey : task.sourceMessageKey = sourceKey ruleId' now) (hne : ruleId' ≠ ruleId) (db : Db) :
    tasksOf ruleId (TaskRepository.inserted task db) = tasksOf ruleId db := by
  rcases Table.insertOrIgnore_cases db.tasks (TaskRepository.newColumns task) with ⟨-, h⟩ | ⟨-, h, -⟩
  · unfold tasksOf TaskRepository.inserted
    rw [h]
  · have hno : isTaskOf ruleId ⟨db.tasks.nextId, TaskRepository.newColumns task⟩ = false := by
      refine Bool.eq_false_iff.mpr fun hp => hne ?_
      unfold isTaskOf TaskRepository.newColumns at hp
      rw [hkey] at hp
      exact ((isPrefixOf_sourceKey ruleId ruleId' now).mp hp).symm
    unfold tasksOf TaskRepository.inserted
    rw [h, List.filter_append, List.filter_cons_of_neg (by rw [hno]; decide), List.filter_nil,
      List.append_nil]

theorem ruleOf_advanced (ruleId ruleId' : Int) (firedAt : Instant) (nextRunAt : Option Instant)
    (now : Instant) (db : Db) : ruleOf ruleId (advanced ruleId' firedAt nextRunAt now db) =
      (ruleOf ruleId db).map (setWhere (fun r => r.id = ruleId') (firedColumns firedAt nextRunAt now)) :=
  @Table.find?_modify _ _ _ _ _ _ (firedColumns_keeps firedAt nextRunAt now) fun _ => rfl

theorem ruleOf_id {ruleId : Int} {db : Db} {r : Stored RecurrenceRule} (h : ruleOf ruleId db = some r) :
    r.id = ruleId := of_decide_eq_true (Table.find?_some h).2

/-- The rule with its id is the only one. -/
theorem ruleOf_of_mem {db : Db} {r : Stored RecurrenceRule} (hr : r ∈ db.rules.rows) :
    ruleOf r.id db = some r := by
  refine Table.find?_eq hr (decide_eq_true rfl) fun a b ha hb => .inl ?_
  exact (of_decide_eq_true ha).trans (of_decide_eq_true hb).symm

/-! ## One rule of a tick -/

section

variable (lib : RecurrenceLibrary) (plan : Site → Fault AppError) (now : Instant) (uid : Uuid)
  (rule : RecurrenceRuleRow) (db : Db)

/-- The work on a rule inserts at most a task under its key, and then moves at most this
rule. -/
theorem afterRule_cases : ∃ db₁,
    (db₁ = db ∨ ∃ task, task.taskUid = uid ∧ task.sourceMessageKey = sourceKey rule.id now ∧
      db₁ = TaskRepository.inserted task db) ∧
    (afterRule lib plan now uid rule db = db₁ ∨
      afterRule lib plan now uid rule db = advanced rule.id now (nextRun lib rule now) now db₁) := by
  have hadvance : ∀ db₁, afterAdvance lib plan rule now db₁ = db₁ ∨
      afterAdvance lib plan rule now db₁ = advanced rule.id now (nextRun lib rule now) now db₁ := by
    intro db₁
    unfold afterAdvance
    split
    · exact .inr rfl
    · exact .inl rfl
  unfold afterRule
  cases rule.templateId with
  | none => exact ⟨db, .inl rfl, hadvance db⟩
  | some templateId =>
    dsimp only
    split
    · cases findTemplate templateId db with
      | none => exact ⟨db, .inl rfl, hadvance db⟩
      | some template =>
        dsimp only
        cases decodeTemplateBody lib template.val.body with
        | error e => exact ⟨db, .inl rfl, hadvance db⟩
        | ok body =>
          dsimp only
          refine ⟨_, ?_, hadvance _⟩
          unfold afterCreate
          split
          · exact .inr ⟨_, rfl, rfl, rfl⟩
          · exact .inl rfl
    · exact ⟨db, .inl rfl, .inl rfl⟩

variable {rule}

/-- The work on one rule is nothing to another. -/
theorem afterRule_other {ruleId : Int} (hne : rule.id ≠ ruleId) :
    SameFor ruleId db (afterRule lib plan now uid rule db) := by
  obtain ⟨db₁, hcreate, hadvance⟩ := afterRule_cases lib plan now uid rule db
  have hsame : SameFor ruleId db db₁ := by
    rcases hcreate with rfl | ⟨task, -, hkey, rfl⟩
    · exact .refl ruleId db₁
    · exact ⟨rfl, tasksOf_inserted hkey hne db, rfl⟩
  rcases hadvance with h | h
  · rw [h]
    exact hsame
  · rw [h]
    refine hsame.trans ⟨?_, rfl, rfl⟩
    rw [ruleOf_advanced]
    cases hr : ruleOf ruleId db₁ with
    | none => rfl
    | some r =>
      have hid : ¬ r.id = rule.id := by
        rw [ruleOf_id hr]
        exact fun h => hne h.symm
      simp only [Option.map_some, setWhere, hid, decide_false, Bool.false_eq_true, if_false]

/-- Every task after the work on a rule was there before, or has the identifier it drew. -/
theorem afterRule_uids {r : Stored TaskColumns} (hr : r ∈ (afterRule lib plan now uid rule db).tasks.rows) :
    r ∈ db.tasks.rows ∨ r.val.task.taskUid = uid := by
  obtain ⟨db₁, hcreate, hadvance⟩ := afterRule_cases lib plan now uid rule db
  have hmem : r ∈ db₁.tasks.rows := by
    rcases hadvance with h | h
    · rw [h] at hr
      exact hr
    · rw [h] at hr
      exact hr
  rcases hcreate with rfl | ⟨task, huid, -, rfl⟩
  · exact .inl hmem
  · rcases Table.mem_insert hmem with h | ⟨h, -⟩
    · exact .inl h
    · rw [h]
      exact .inr huid

/-- The rules in turn: nothing changes for a rule that is not among them. -/
theorem foldl_other {ruleId : Int} (uids : Nat → Uuid) (ps : List (RecurrenceRuleRow × Nat))
    (hne : ∀ p ∈ ps, p.1.id ≠ ruleId) :
    SameFor ruleId db (ps.foldl (fun db p => afterRule lib plan now (uids p.2) p.1 db) db) := by
  induction ps generalizing db with
  | nil => exact .refl ruleId db
  | cons p ps ih =>
    have hstep := afterRule_other lib plan now (uids p.2) db (hne p List.mem_cons_self)
    exact hstep.trans (ih _ fun q hq => hne q (List.mem_cons_of_mem p hq))

theorem foldl_uids (uids : Nat → Uuid) (ps : List (RecurrenceRuleRow × Nat)) :
    ∀ r ∈ (ps.foldl (fun db p => afterRule lib plan now (uids p.2) p.1 db) db).tasks.rows,
      r ∈ db.tasks.rows ∨ ∃ p ∈ ps, r.val.task.taskUid = uids p.2 := by
  induction ps generalizing db with
  | nil => exact fun r hr => .inl hr
  | cons p ps ih =>
    intro r hr
    rcases ih _ r hr with h | ⟨q, hq, h⟩
    · rcases afterRule_uids lib plan now (uids p.2) db h with h | h
      · exact .inl h
      · exact .inr ⟨p, List.mem_cons_self, h⟩
    · exact .inr ⟨q, List.mem_cons_of_mem p hq, h⟩

end

/-! ## Ticks -/

/-- One tick: its time, the identifiers it draws, and which of its calls fail. -/
structure Tick where
  now : Instant
  uid : Nat → Uuid
  plan : Site → Fault AppError

namespace Tick

variable (lib : RecurrenceLibrary) (t : Tick) (ruleId : Int) (db : Db)

def exec : Db := ((execute lib true t.now t.uid).run t.plan db).2

/-- The identifiers the tick can draw. -/
def uids : List Uuid := (List.range maxRulesPerTick).map t.uid

/-- The template of the rule is looked up, and the lookup is answered. -/
def looksUp (r : Stored RecurrenceRule) : Bool :=
  r.val.templateId.any fun templateId => t.plan (.templateFind r.id templateId) = .none

/-- The tick comes to create a task of the rule: it lists the rule and finds its template. -/
def handles : Bool :=
  t.plan .ruleListDue = .none &&
    (dueRows t.now maxRulesPerTick db).any fun r => r.id = ruleId && t.looksUp r

/-- The insert takes effect and adds a task: no task of the rule has the key yet. -/
def creates : Bool :=
  (t.plan (.taskInsert (sourceKey ruleId t.now))).stores &&
    !(tasksOf ruleId db).any fun r => r.val.task.sourceMessageKey = sourceKey ruleId t.now

/-- The advance of the rule takes effect. -/
def advances : Bool := (t.plan (.ruleAdvance ruleId)).stores

def firing : Option (Firing Instant) :=
  if t.handles ruleId db then
    some ⟨t.now, t.creates ruleId db,
      if t.advances ruleId then
        some ((ruleOf ruleId db).bind fun r => nextRun lib (toRuleRow r) t.now)
      else none⟩
  else none

end Tick

/-- An active rule with an active template that decodes. -/
def Schedulable (lib : RecurrenceLibrary) (ruleId : Int) (db : Db) : Prop :=
  ∃ r templateId template body, ruleOf ruleId db = some r ∧ r.val.isActive = true ∧
    r.val.templateId = some templateId ∧ findTemplate templateId db = some template ∧
    decodeTemplateBody lib template.val.body = .ok body

section

variable {lib : RecurrenceLibrary} {ruleId : Int} {db : Db} {t : Tick}

/-- The insert of a task with a fresh identifier adds it unless its key is taken. -/
theorem tasksOf_inserted_own {task : Task} (hkey : task.sourceMessageKey = sourceKey ruleId t.now)
    (hfresh : ∀ r ∈ db.tasks.rows, r.val.task.taskUid ≠ task.taskUid) :
    tasksOf ruleId (TaskRepository.inserted task db) =
      if (tasksOf ruleId db).any fun r => r.val.task.sourceMessageKey = sourceKey ruleId t.now then
        tasksOf ruleId db
      else tasksOf ruleId db ++ [TaskRepository.newRow task db] := by
  have hown : ∀ r : Stored TaskColumns, r.val.task.sourceMessageKey = sourceKey ruleId t.now →
      isTaskOf ruleId r = true := by
    intro r hr
    unfold isTaskOf
    rw [hr]
    exact (isPrefixOf_sourceKey ruleId ruleId t.now).mpr rfl
  rcases Table.insertOrIgnore_cases db.tasks (TaskRepository.newColumns task) with
    ⟨⟨r, hr, hc⟩, h⟩ | ⟨hno, h, -⟩
  · have hk : r.val.task.sourceMessageKey = sourceKey ruleId t.now := by
      rw [← hkey]
      exact ((clash_tasks _ _).mp hc).resolve_left (hfresh r hr)
    have hmem : r ∈ tasksOf ruleId db := List.mem_filter.mpr ⟨hr, hown r hk⟩
    rw [if_pos (List.any_eq_true.mpr ⟨r, hmem, decide_eq_true hk⟩)]
    unfold tasksOf TaskRepository.inserted
    rw [h]
  · have hany : ¬ ((tasksOf ruleId db).any fun r =>
        r.val.task.sourceMessageKey = sourceKey ruleId t.now) = true := by
      intro hany
      obtain ⟨r, hr, hk⟩ := List.any_eq_true.mp hany
      have hsame : r.val.task.sourceMessageKey = task.sourceMessageKey :=
        (of_decide_eq_true hk).trans hkey.symm
      have hclash := (clash_tasks r.val (TaskRepository.newColumns task)).mpr (.inr hsame)
      rw [hno r (List.mem_filter.mp hr).1] at hclash
      cases hclash
    rw [if_neg hany]
    unfold tasksOf TaskRepository.inserted
    rw [h, List.filter_append, List.filter_cons_of_pos (hown _ hkey), List.filter_nil]
    rfl

/-- The work on the rule itself, once its template is found: one firing of its cursor. -/
theorem afterRule_own {r : Stored RecurrenceRule} {templateId : Int} {template : Stored TaskTemplate}
    {body : TaskTemplateBody} {uid : Uuid} (hr : ruleOf ruleId db = some r)
    (hid : r.val.templateId = some templateId) (hfind : findTemplate templateId db = some template)
    (hbody : decodeTemplateBody lib template.val.body = .ok body)
    (hlookup : t.plan (.templateFind r.id templateId) = .none)
    (hfresh : ∀ row ∈ db.tasks.rows, row.val.task.taskUid ≠ uid) :
    cursorOf ruleId (afterRule lib t.plan t.now uid (toRuleRow r) db) =
      (cursorOf ruleId db).step (some ⟨t.now, t.creates ruleId db,
        if t.advances ruleId then some (nextRun lib (toRuleRow r) t.now) else none⟩) := by
  have hrid : r.id = ruleId := ruleOf_id hr
  let task := ruleTask uid t.now (toRuleRow r) (toTemplateRow template) body
  have hkey : task.sourceMessageKey = sourceKey ruleId t.now := by rw [← hrid]; rfl
  have hrun : afterRule lib t.plan t.now uid (toRuleRow r) db =
      afterAdvance lib t.plan (toRuleRow r) t.now (afterCreate t.plan task db) := by
    unfold afterRule
    rw [show (toRuleRow r).templateId = some templateId from hid]
    dsimp only
    rw [if_pos (show t.plan (.templateFind (toRuleRow r).id templateId) = .none from hlookup), hfind]
    dsimp only
    rw [hbody]
  -- the tasks after the insert
  have htasks : (tasksOf ruleId (afterCreate t.plan task db)).map (fun r => r.val.task.createdAt) =
      if t.creates ruleId db then (cursorOf ruleId db).made ++ [t.now] else (cursorOf ruleId db).made := by
    unfold afterCreate Tick.creates
    rw [hkey]
    cases (t.plan (.taskInsert (sourceKey ruleId t.now))).stores with
    | false => rfl
    | true =>
      rw [if_pos rfl, tasksOf_inserted_own hkey hfresh, Bool.true_and]
      cases (tasksOf ruleId db).any fun r => r.val.task.sourceMessageKey = sourceKey ruleId t.now with
      | true => rfl
      | false =>
        rw [if_neg Bool.false_ne_true, List.map_append]
        rfl
  have hrule : ruleOf ruleId (afterCreate t.plan task db) = some r := by
    unfold afterCreate
    split
    · exact hr
    · exact hr
  rw [hrun]
  unfold afterAdvance Tick.advances
  rw [show (toRuleRow r).id = ruleId from hrid]
  cases (t.plan (.ruleAdvance ruleId)).stores with
  | false =>
    refine congrArg₂ Cursor.mk ?_ htasks
    change (ruleOf ruleId (afterCreate t.plan task db)).bind _ = (ruleOf ruleId db).bind _
    rw [hrule, hr]
  | true =>
    refine congrArg₂ Cursor.mk ?_ htasks
    change (ruleOf ruleId (advanced ruleId t.now _ t.now (afterCreate t.plan task db))).bind _ = _
    rw [ruleOf_advanced, hrule]
    simp only [Option.map_some, setWhere, hrid, decide_true, if_true, Option.bind_some]
    rfl

/-- Without an answer about the template nothing happens to the rule. -/
theorem afterRule_unanswered {r : Stored RecurrenceRule} {templateId : Int} {uid : Uuid}
    (hid : r.val.templateId = some templateId) (hlookup : t.plan (.templateFind r.id templateId) ≠ .none) :
    afterRule lib t.plan t.now uid (toRuleRow r) db = db := by
  unfold afterRule
  rw [show (toRuleRow r).templateId = some templateId from hid]
  exact if_neg hlookup

/-- The due rules around one of them. -/
theorem dueRows_split {r : Stored RecurrenceRule} (hr : r ∈ dueRows t.now maxRulesPerTick db) :
    ∃ before after k, ((dueRows t.now maxRulesPerTick db).map toRuleRow).zipIdx =
        before ++ (toRuleRow r, k) :: after ∧
      (∀ p ∈ before, p.1.id ≠ r.id) ∧ (∀ p ∈ after, p.1.id ≠ r.id) ∧
      (∀ p ∈ before, p.2 ≠ k ∧ p.2 < maxRulesPerTick) ∧ k < maxRulesPerTick := by
  obtain ⟨l, l', hl⟩ := List.append_of_mem hr
  have hnodup := dueRows_nodup t.now maxRulesPerTick db
  have hlen : (dueRows t.now maxRulesPerTick db).length ≤ maxRulesPerTick := by
    rw [dueRows, List.length_take]
    exact Nat.min_le_left _ _
  rw [hl] at hnodup hlen ⊢
  rw [List.map_append, List.map_cons] at hnodup
  obtain ⟨-, hcons, hdisjoint⟩ := List.nodup_append.mp hnodup
  have hkl : l.length < maxRulesPerTick := by
    rw [List.length_append, List.length_cons] at hlen
    omega
  have hidx : ∀ p ∈ (l.map toRuleRow).zipIdx, p.2 < l.length := by
    intro p hp
    have := List.snd_lt_of_mem_zipIdx hp
    rw [List.length_map] at this
    exact this
  refine ⟨(l.map toRuleRow).zipIdx, (l'.map toRuleRow).zipIdx (l.length + 1), l.length, ?_, ?_, ?_, ?_, hkl⟩
  · rw [List.map_append, List.zipIdx_append, List.map_cons, List.zipIdx_cons, List.length_map, Nat.zero_add]
  · intro p hp he
    obtain ⟨r', hr', hp'⟩ := List.mem_map.mp (List.fst_mem_of_mem_zipIdx hp)
    have hmem : r.id ∈ l.map Stored.id := by
      rw [← he, ← hp']
      exact List.mem_map.mpr ⟨r', hr', rfl⟩
    exact hdisjoint r.id hmem r.id List.mem_cons_self rfl
  · intro p hp he
    obtain ⟨r', hr', hp'⟩ := List.mem_map.mp (List.fst_mem_of_mem_zipIdx hp)
    have hmem : r.id ∈ l'.map Stored.id := by
      rw [← he, ← hp']
      exact List.mem_map.mpr ⟨r', hr', rfl⟩
    exact (List.nodup_cons.mp hcons).1 hmem
  · intro p hp
    have := hidx p hp
    omega

/-- A listed rule is handled when its template is found. -/
theorem handles_listed {r : Stored RecurrenceRule} (hlist : t.plan .ruleListDue = .none)
    (hr : r ∈ dueRows t.now maxRulesPerTick db) : t.handles r.id db = t.looksUp r := by
  unfold Tick.handles
  rw [decide_eq_true hlist, Bool.true_and]
  cases hl : t.looksUp r with
  | true =>
    refine List.any_eq_true.mpr ⟨r, hr, ?_⟩
    rw [hl, decide_eq_true rfl]
    rfl
  | false =>
    refine List.any_eq_false.mpr fun r' hr' => ?_
    rw [Bool.and_eq_true]
    rintro ⟨hid, hl'⟩
    have hsame := ruleOf_of_mem (mem_dueRows hr').1
    rw [of_decide_eq_true hid, ruleOf_of_mem (mem_dueRows hr).1] at hsame
    rw [← Option.some.inj hsame, hl] at hl'
    cases hl'

theorem handles_unlisted (hno : t.plan .ruleListDue = .none →
    ∀ r ∈ dueRows t.now maxRulesPerTick db, r.id ≠ ruleId) : t.handles ruleId db = false := by
  unfold Tick.handles
  by_cases hlist : t.plan .ruleListDue = .none
  · have hany : ((dueRows t.now maxRulesPerTick db).any fun r => r.id = ruleId && t.looksUp r) = false := by
      refine List.any_eq_false.mpr fun r hr => ?_
      rw [decide_eq_false (hno hlist r hr)]
      exact Bool.false_ne_true
    rw [hany, Bool.and_false]
  · rw [decide_eq_false hlist, Bool.false_and]

/-- A tick that does not list the rule is nothing to it. -/
theorem exec_unlisted (hno : t.plan .ruleListDue = .none →
    ∀ r ∈ dueRows t.now maxRulesPerTick db, r.id ≠ ruleId) : SameFor ruleId db (t.exec lib db) := by
  unfold Tick.exec
  rw [run_execute]
  split
  · rename_i hlist
    refine foldl_other lib t.plan t.now db t.uid _ fun p hp => ?_
    obtain ⟨r, hr, hp'⟩ := List.mem_map.mp (List.fst_mem_of_mem_zipIdx hp)
    rw [← hp']
    exact hno hlist r hr
  · exact .refl ruleId db

/-- A tick that lists the rule works on it in a database that is the same for it. -/
theorem exec_listed {r : Stored RecurrenceRule} (hlist : t.plan .ruleListDue = .none)
    (hr : r ∈ dueRows t.now maxRulesPerTick db) (hnodup : t.uids.Nodup)
    (hfresh : ∀ row ∈ db.tasks.rows, row.val.task.taskUid ∉ t.uids) :
    ∃ mid uid, SameFor r.id db mid ∧ (∀ row ∈ mid.tasks.rows, row.val.task.taskUid ≠ uid) ∧
      SameFor r.id (afterRule lib t.plan t.now uid (toRuleRow r) mid) (t.exec lib db) := by
  obtain ⟨before, after, k, hsplit, hbefore, hafter, hidx, hk⟩ := dueRows_split hr
  let mid := before.foldl (fun db p => afterRule lib t.plan t.now (t.uid p.2) p.1 db) db
  refine ⟨mid, t.uid k, foldl_other lib t.plan t.now db t.uid before hbefore, ?_, ?_⟩
  · intro row hrow he
    rcases foldl_uids lib t.plan t.now db t.uid before row hrow with h | ⟨p, hp, h⟩
    · exact hfresh row h (List.mem_map.mpr ⟨k, List.mem_range.mpr hk, he.symm⟩)
    · obtain ⟨hne, hlt⟩ := hidx p hp
      have hinj := List.inj_on_of_nodup_map hnodup
      exact hne (hinj (List.mem_range.mpr hlt) (List.mem_range.mpr hk) (h.symm.trans he))
  · unfold Tick.exec
    rw [run_execute, if_pos hlist, hsplit, List.foldl_append, List.foldl_cons]
    exact foldl_other lib t.plan t.now _ t.uid after hafter

/-- **A tick moves the cursor of a rule by its firing.** -/
theorem exec_cursor (hs : Schedulable lib ruleId db) (hnodup : t.uids.Nodup)
    (hfresh : ∀ r ∈ db.tasks.rows, r.val.task.taskUid ∉ t.uids) :
    cursorOf ruleId (t.exec lib db) = (cursorOf ruleId db).step (t.firing lib ruleId db) := by
  obtain ⟨r, templateId, template, body, hr, -, hid, hfind, hbody⟩ := hs
  have hrid : r.id = ruleId := ruleOf_id hr
  subst hrid
  by_cases hlisted : t.plan .ruleListDue = .none ∧ r ∈ dueRows t.now maxRulesPerTick db
  · obtain ⟨hlist, hmem⟩ := hlisted
    obtain ⟨mid, uid, hmid, hfresh', hlast⟩ := exec_listed hlist hmem hnodup hfresh
    have hlooks : t.looksUp r = decide (t.plan (.templateFind r.id templateId) = .none) := by
      unfold Tick.looksUp
      rw [hid]
      rfl
    rw [hlast.cursor]
    unfold Tick.firing
    rw [handles_listed hlist hmem, hlooks]
    by_cases hlookup : t.plan (.templateFind r.id templateId) = .none
    · have hfind' : findTemplate templateId mid = some template := by
        unfold findTemplate
        rw [hmid.templates]
        exact hfind
      have hcreates : t.creates r.id mid = t.creates r.id db := by
        unfold Tick.creates
        rw [hmid.tasks]
      rw [afterRule_own (hmid.rule.trans hr) hid hfind' hbody hlookup hfresh', hmid.cursor, hcreates, hr,
        decide_eq_true hlookup, if_pos rfl]
      rfl
    · rw [afterRule_unanswered hid hlookup, hmid.cursor, decide_eq_false hlookup,
        if_neg Bool.false_ne_true, step_none]
  · have hno : t.plan .ruleListDue = .none → ∀ r' ∈ dueRows t.now maxRulesPerTick db, r'.id ≠ r.id := by
      intro hlist r' hr' hid'
      have hsame := ruleOf_of_mem (mem_dueRows hr').1
      rw [hid', hr] at hsame
      exact hlisted ⟨hlist, Option.some.inj hsame ▸ hr'⟩
    have hsame : SameFor r.id db (t.exec lib db) := exec_unlisted hno
    unfold Tick.firing
    rw [hsame.cursor, handles_unlisted hno, if_neg Bool.false_ne_true, step_none]

end

/-! ## What ticks leave alone -/

/-- The columns of a rule no tick writes. -/
def fixedColumns (r : Stored RecurrenceRule) : Int × Option Int × Bool :=
  (r.id, r.val.templateId, r.val.isActive)

/-- Same templates, and the same rules but for their schedule. -/
structure SameRules (db db' : Db) : Prop where
  templates : db'.templates = db.templates
  rules : db'.rules.rows.map fixedColumns = db.rules.rows.map fixedColumns

theorem SameRules.refl (db : Db) : SameRules db db := ⟨rfl, rfl⟩

theorem SameRules.trans {db db' db'' : Db} (h : SameRules db db') (h' : SameRules db' db'') :
    SameRules db db'' := ⟨h'.templates.trans h.templates, h'.rules.trans h.rules⟩

theorem SameRules.length {db db' : Db} (h : SameRules db db') :
    db'.rules.rows.length = db.rules.rows.length := by
  have hlen := congrArg List.length h.rules
  rw [List.length_map, List.length_map] at hlen
  exact hlen

/-- The rule a lookup finds keeps its fixed columns. -/
theorem SameRules.ruleOf {db db' : Db} (h : SameRules db db') (ruleId : Int) :
    (ruleOf ruleId db').map fixedColumns = (ruleOf ruleId db).map fixedColumns := by
  have hfind : ∀ db : Db, (TaskBot.ruleOf ruleId db).map fixedColumns =
      (db.rules.rows.map fixedColumns).find? fun c => c.1 = ruleId := by
    intro db
    rw [List.find?_map]
    rfl
  rw [hfind, hfind, h.rules]

theorem SameRules.schedulable {lib : RecurrenceLibrary} {ruleId : Int} {db db' : Db}
    (h : SameRules db db') (hs : Schedulable lib ruleId db) : Schedulable lib ruleId db' := by
  obtain ⟨r, templateId, template, body, hr, hactive, hid, hfind, hbody⟩ := hs
  have hmap := h.ruleOf ruleId
  rw [hr, Option.map_some] at hmap
  obtain ⟨r', hr', hcols⟩ := Option.map_eq_some_iff.mp hmap
  have hid' : r'.val.templateId = r.val.templateId := congrArg (fun c => c.2.1) hcols
  have hactive' : r'.val.isActive = r.val.isActive := congrArg (fun c => c.2.2) hcols
  refine ⟨r', templateId, template, body, hr', hactive'.trans hactive, hid'.trans hid, ?_, hbody⟩
  unfold findTemplate
  rw [h.templates]
  exact hfind

section

variable (lib : RecurrenceLibrary)

theorem afterRule_sameRules (plan : Site → Fault AppError) (now : Instant) (uid : Uuid)
    (rule : RecurrenceRuleRow) (db : Db) : SameRules db (afterRule lib plan now uid rule db) := by
  obtain ⟨db₁, hcreate, hadvance⟩ := afterRule_cases lib plan now uid rule db
  have hsame : SameRules db db₁ := by
    rcases hcreate with rfl | ⟨task, -, -, rfl⟩
    · exact .refl db₁
    · exact ⟨rfl, rfl⟩
  rcases hadvance with h | h
  · rw [h]
    exact hsame
  · rw [h]
    refine hsame.trans ⟨rfl, ?_⟩
    rw [rows_advanced, List.map_map]
    refine List.map_congr_left fun r _ => ?_
    simp only [Function.comp_apply, setWhere]
    split
    · rfl
    · rfl

theorem foldl_sameRules (plan : Site → Fault AppError) (now : Instant) (uids : Nat → Uuid)
    (ps : List (RecurrenceRuleRow × Nat)) (db : Db) :
    SameRules db (ps.foldl (fun db p => afterRule lib plan now (uids p.2) p.1 db) db) := by
  induction ps generalizing db with
  | nil => exact .refl db
  | cons p ps ih => exact (afterRule_sameRules lib plan now (uids p.2) p.1 db).trans (ih _)

theorem exec_sameRules (t : Tick) (db : Db) : SameRules db (t.exec lib db) := by
  unfold Tick.exec
  rw [run_execute]
  split
  · exact foldl_sameRules lib t.plan t.now t.uid _ db
  · exact .refl db

/-- Every task after a tick was there before, or has an identifier the tick drew. -/
theorem exec_uids (t : Tick) {db : Db} {r : Stored TaskColumns} (hr : r ∈ (t.exec lib db).tasks.rows) :
    r ∈ db.tasks.rows ∨ r.val.task.taskUid ∈ t.uids := by
  unfold Tick.exec at hr
  rw [run_execute] at hr
  split at hr
  · rcases foldl_uids lib t.plan t.now db t.uid _ r hr with h | ⟨p, hp, h⟩
    · exact .inl h
    · have hlt := List.snd_lt_of_mem_zipIdx hp
      have hlen : (dueRows t.now maxRulesPerTick db).length ≤ maxRulesPerTick := by
        rw [dueRows, List.length_take]
        exact Nat.min_le_left _ _
      rw [List.length_map] at hlt
      exact .inr (List.mem_map.mpr ⟨p.2, List.mem_range.mpr (by omega), h.symm⟩)
  · exact .inl hr

end

end TaskBot
