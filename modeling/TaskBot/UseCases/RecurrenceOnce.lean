import TaskBot.UseCases.RecurrenceTick

/-!
# One task for each run of a rule

The scheduler creates the task of a due rule and moves the rule on, as two
statements that may both fail.

* `Tick.Harmless`: which failures of a tick the schedule of a rule survives;
* `runTicks_cursor`, `created_eq`: ticks are rounds of the cursor of the rule;
* `calm_leaves`: ticks without failures come to every due rule;
* `one_task_per_run`: any sequence of harmless ticks.
-/

namespace TaskBot

open Sql Calls Cursors ProcessRecurrenceRules RecurrenceRepository

/-! ## Sequences of ticks -/

section

variable (lib : RecurrenceLibrary) (ruleId : Int)

def runTicks (ts : List Tick) (db : Db) : Db := ts.foldl (fun db t => t.exec lib db) db

/-- The tasks the ticks create for the rule while its stored next run is `x`. -/
def created (x : Instant) : List Tick → Db → Nat
  | [], _ => 0
  | t :: ts, db =>
      (if nextOf ruleId db = some x then
        (tasksOf ruleId (t.exec lib db)).length - (tasksOf ruleId db).length
      else 0) + created x ts (t.exec lib db)

/-- The stored next run of the rule is `x` and has come when some tick starts. -/
def BecameDue (x : Instant) : List Tick → Db → Prop
  | [], _ => False
  | t :: ts, db => (nextOf ruleId db = some x ∧ x ≤ t.now) ∨ BecameDue x ts (t.exec lib db)

/-- When the tick comes to create a task of the rule: a run that has its task gets no
second one, and a run without a task is not stepped over. -/
structure Tick.Harmless (t : Tick) (db : Db) : Prop where
  once : t.handles ruleId db = true → (cursorOf ruleId db).served = true → t.creates ruleId db = false
  kept : t.handles ruleId db = true → (cursorOf ruleId db).served = false → t.advances ruleId = true →
    t.creates ruleId db = true

def TicksHarmless : List Tick → Db → Prop
  | [], _ => True
  | t :: ts, db => t.Harmless ruleId db ∧ TicksHarmless ts (t.exec lib db)

/-- No two ticks draw one identifier, and none draws that of a stored task. -/
structure FreshIds (ts : List Tick) (db : Db) : Prop where
  distinct : (ts.flatMap Tick.uids).Nodup
  unused : ∀ r ∈ db.tasks.rows, r.val.task.taskUid ∉ ts.flatMap Tick.uids

def firings : List Tick → Db → List (Option (Firing Instant))
  | [], _ => []
  | t :: ts, db => t.firing lib ruleId db :: firings ts (t.exec lib db)

end

section

variable {lib : RecurrenceLibrary} {ruleId : Int}

/-- `Schedule::after` answers an instant after its argument. -/
def RecurrenceLibrary.FiresAfter (lib : RecurrenceLibrary) : Prop :=
  ∀ expression timezone start next, lib.nextAfter expression timezone start = some next → start < next

theorem nextRun_after (hcron : lib.FiresAfter) {rule : RecurrenceRuleRow} {now next : Instant}
    (h : nextRun lib rule now = some next) : now < next := by
  unfold nextRun computeNextRun at h
  obtain ⟨cron, -, h⟩ := Option.bind_eq_some_iff.mp h
  obtain ⟨tz, -, h⟩ := Option.bind_eq_some_iff.mp h
  exact hcron cron.raw tz.code now next h

theorem firing_eq_some {t : Tick} {db : Db} {f : Firing Instant} (hf : t.firing lib ruleId db = some f) :
    t.handles ruleId db = true ∧ f.now = t.now ∧ f.makes = t.creates ruleId db ∧
      f.moves = if t.advances ruleId then
        some ((ruleOf ruleId db).bind fun r => nextRun lib (toRuleRow r) t.now) else none := by
  unfold Tick.firing at hf
  by_cases hh : t.handles ruleId db = true
  · rw [if_pos hh] at hf
    rw [← Option.some.inj hf]
    exact ⟨hh, rfl, rfl, rfl⟩
  · rw [if_neg hh] at hf
    cases hf

/-- A handled rule is due. -/
theorem due_of_handles {t : Tick} {db : Db} (hh : t.handles ruleId db = true) :
    ∃ x, nextOf ruleId db = some x ∧ x ≤ t.now := by
  unfold Tick.handles at hh
  obtain ⟨r, hr, hid⟩ := List.any_eq_true.mp (Bool.and_eq_true_iff.mp hh).2
  have hrid : r.id = ruleId := of_decide_eq_true (Bool.and_eq_true_iff.mp hid).1
  obtain ⟨hmem, hdue⟩ := mem_dueRows hr
  obtain ⟨-, x, hx, hle⟩ := isDue_iff.mp hdue
  refine ⟨x, ?_, hle⟩
  unfold nextOf
  rw [← hrid, ruleOf_of_mem hmem]
  exact hx

theorem firing_legal (hcron : lib.FiresAfter) {t : Tick} {db : Db} {f : Firing Instant}
    (hf : t.firing lib ruleId db = some f) : f.Legal (cursorOf ruleId db) := by
  obtain ⟨hh, hnow, -, hmoves⟩ := firing_eq_some hf
  refine ⟨by rw [hnow]; exact due_of_handles hh, fun y hy => ?_⟩
  rw [hmoves] at hy
  split at hy
  · obtain ⟨r, -, hnext⟩ := Option.bind_eq_some_iff.mp (Option.some.inj hy)
    rw [hnow]
    exact nextRun_after hcron hnext
  · cases hy

theorem firing_harmless {t : Tick} {db : Db} (h : t.Harmless ruleId db) {f : Firing Instant}
    (hf : t.firing lib ruleId db = some f) : f.Harmless (cursorOf ruleId db) := by
  obtain ⟨hh, -, hmakes, hmoves⟩ := firing_eq_some hf
  refine ⟨fun hs => by rw [hmakes]; exact h.once hh hs, fun hs hm => ?_⟩
  rw [hmakes]
  refine h.kept hh hs ?_
  by_contra hadvances
  rw [if_neg hadvances] at hmoves
  exact hm hmoves

theorem exec_fresh {t : Tick} {ts : List Tick} {db : Db} (h : FreshIds (t :: ts) db) :
    t.uids.Nodup ∧ (∀ r ∈ db.tasks.rows, r.val.task.taskUid ∉ t.uids) ∧ FreshIds ts (t.exec lib db) := by
  obtain ⟨hdistinct, hunused⟩ := h
  rw [List.flatMap_cons] at hdistinct hunused
  obtain ⟨hnodup, hrest, hdisjoint⟩ := List.nodup_append.mp hdistinct
  refine ⟨hnodup, fun r hr hu => hunused r hr (List.mem_append_left _ hu), hrest, fun r hr hu => ?_⟩
  rcases exec_uids lib t hr with h | h
  · exact hunused r h (List.mem_append_right _ hu)
  · exact hdisjoint _ h _ hu rfl

/-! ### Ticks as rounds of the cursor -/

theorem runTicks_cursor : ∀ (ts : List Tick) (db : Db), Schedulable lib ruleId db → FreshIds ts db →
    cursorOf ruleId (runTicks lib ts db) = run (firings lib ruleId ts db) (cursorOf ruleId db) := by
  intro ts
  induction ts with
  | nil => exact fun _ _ _ => rfl
  | cons t ts ih =>
    intro db hs hf
    obtain ⟨hnodup, hunused, hrest⟩ := exec_fresh hf
    have hcursor := exec_cursor hs hnodup hunused
    have htail := ih (t.exec lib db) ((exec_sameRules lib t db).schedulable hs) hrest
    rw [hcursor] at htail
    exact htail

theorem created_eq (x : Instant) : ∀ (ts : List Tick) (db : Db), Schedulable lib ruleId db →
    FreshIds ts db →
      created lib ruleId x ts db = count x (firings lib ruleId ts db) (cursorOf ruleId db) := by
  intro ts
  induction ts with
  | nil => exact fun _ _ _ => rfl
  | cons t ts ih =>
    intro db hs hf
    obtain ⟨hnodup, hunused, hrest⟩ := exec_fresh hf
    have hcursor := exec_cursor hs hnodup hunused
    have htail := ih (t.exec lib db) ((exec_sameRules lib t db).schedulable hs) hrest
    have hlen : ∀ db, (tasksOf ruleId db).length = (cursorOf ruleId db).made.length := fun db =>
      (List.length_map _).symm
    unfold created firings count
    rw [htail, hlen, hlen, hcursor]
    rfl

theorem firings_proper (hcron : lib.FiresAfter) : ∀ (ts : List Tick) (db : Db),
    Schedulable lib ruleId db → FreshIds ts db → TicksHarmless lib ruleId ts db →
      Proper (firings lib ruleId ts db) (cursorOf ruleId db) := by
  intro ts
  induction ts with
  | nil => exact fun _ _ _ _ => trivial
  | cons t ts ih =>
    intro db hs hf hh
    obtain ⟨hnodup, hunused, hrest⟩ := exec_fresh hf
    have htail := ih (t.exec lib db) ((exec_sameRules lib t db).schedulable hs) hrest hh.2
    rw [exec_cursor hs hnodup hunused] at htail
    exact ⟨fun f hf => ⟨firing_legal hcron hf, firing_harmless hh.1 hf⟩, htail⟩

theorem firings_reach {x : Instant} : ∀ (ts : List Tick) (db : Db), Schedulable lib ruleId db →
    FreshIds ts db → BecameDue lib ruleId x ts db →
      Reaches x (firings lib ruleId ts db) (cursorOf ruleId db) := by
  intro ts
  induction ts with
  | nil => exact fun _ _ _ h => h
  | cons t ts ih =>
    intro db hs hf hdue
    obtain ⟨hnodup, hunused, hrest⟩ := exec_fresh hf
    rcases hdue with ⟨hx, -⟩ | hlater
    · exact .inl hx
    · have htail := ih (t.exec lib db) ((exec_sameRules lib t db).schedulable hs) hrest hlater
      rw [exec_cursor hs hnodup hunused] at htail
      exact .inr htail

theorem firings_times : ∀ (ts : List Tick) (db : Db),
    (((firings lib ruleId ts db).filterMap id).map Firing.now).Sublist (ts.map Tick.now) := by
  intro ts
  induction ts with
  | nil => exact fun _ => List.Sublist.refl []
  | cons t ts ih =>
    intro db
    have htail := ih (t.exec lib db)
    unfold firings
    cases hf : t.firing lib ruleId db with
    | none => exact htail.cons t.now
    | some f =>
      have hnow : f.now = t.now := (firing_eq_some hf).2.1
      change (f.now :: _).Sublist (t.now :: _)
      rw [hnow]
      exact htail.cons_cons t.now

/-- In the order of time, from a rule whose run has no task. -/
theorem firings_ordered {ts : List Tick} {db : Db} (htimes : (ts.map Tick.now).Pairwise (· ≤ ·))
    (hserved : (cursorOf ruleId db).served = false) :
    Ordered (firings lib ruleId ts db) (cursorOf ruleId db) := by
  refine ⟨?_, fun f _ x hx y hy => .inl (served_eq_false.mp hserved x hx y hy)⟩
  exact List.pairwise_map.mp (htimes.sublist (firings_times ts db))

/-! ### Ticks without failures -/

/-- The active rules that are due at `x`. -/
def dueCount (x : Instant) (db : Db) : Nat := db.rules.rows.countP (isDue x)

/-- A rule that was moved on from `now` is not due at `x`. -/
theorem isDue_fired {x now : Instant} {next : Option Instant} (hnext : ∀ y, next = some y → x < y)
    (id : Int) (r : Stored RecurrenceRule) :
    isDue x (setWhere (fun r => r.id = id) (firedColumns now next now) r) =
      (isDue x r && decide (r.id ≠ id)) := by
  by_cases hid : r.id = id
  · have hno : next.any (· ≤ x) = false := by
      cases next with
      | none => rfl
      | some y => exact decide_eq_false (not_le_of_gt (hnext y rfl))
    simp only [setWhere, hid, decide_true, if_true, isDue, firedColumns, hno, Bool.and_false, ne_eq,
      not_true_eq_false, decide_false]
  · simp only [setWhere, hid, decide_false, Bool.false_eq_true, if_false, ne_eq, not_false_eq_true,
      decide_true, Bool.and_true]

/-- Without failures the work on a rule moves it on, whatever becomes of its task. -/
theorem afterRule_calm (now : Instant) (uid : Uuid) (rule : RecurrenceRuleRow) (db : Db) :
    (afterRule lib (fun _ => .none) now uid rule db).rules =
      (advanced rule.id now (nextRun lib rule now) now db).rules := by
  unfold afterRule
  cases rule.templateId with
  | none => rfl
  | some templateId =>
    dsimp only
    rw [if_pos rfl]
    cases findTemplate templateId db with
    | none => rfl
    | some template =>
      dsimp only
      cases decodeTemplateBody lib template.val.body with
      | error e => rfl
      | ok body => rfl

/-- Without failures no rule that was worked on stays due at `x`. -/
theorem dueCount_foldl (hcron : lib.FiresAfter) {x now : Instant} (hx : x ≤ now) (uids : Nat → Uuid)
    (ps : List (RecurrenceRuleRow × Nat)) (db : Db) :
    dueCount x (ps.foldl (fun db p => afterRule lib (fun _ => .none) now (uids p.2) p.1 db) db) =
      db.rules.rows.countP fun r => isDue x r && ps.all fun p => decide (r.id ≠ p.1.id) := by
  have key : ∀ db : Db,
      (ps.foldl (fun db p => afterRule lib (fun _ => .none) now (uids p.2) p.1 db) db).rules.rows.countP
          (isDue x) =
        db.rules.rows.countP fun r => isDue x r && ps.all fun p => decide (r.id ≠ p.1.id) := by
    induction ps with
    | nil =>
      intro db
      simp only [List.foldl_nil, List.all_nil, Bool.and_true]
    | cons p ps ih =>
      intro db
      have hnext : ∀ y, nextRun lib p.1 now = some y → x < y := fun y hy =>
        hx.trans_lt (nextRun_after hcron hy)
      rw [List.foldl_cons, ih, afterRule_calm, rows_advanced, List.countP_map]
      refine List.countP_congr fun r _ => ?_
      simp only [Function.comp_apply, isDue_fired hnext, setWhere_id, List.all_cons, Bool.and_assoc]
  exact key db

/-- **Progress**: a tick without failures that does not handle a due rule of the run `x`
leaves fewer rules due at `x`. -/
theorem calm_progress (hcron : lib.FiresAfter) {t : Tick} {db : Db} {x : Instant}
    (hs : Schedulable lib ruleId db) (hcalm : t.plan = fun _ => .none)
    (hx : nextOf ruleId db = some x) (hnow : x ≤ t.now) (hno : t.handles ruleId db = false) :
    dueCount x (t.exec lib db) + maxRulesPerTick ≤ dueCount x db := by
  obtain ⟨r, templateId, -, -, hr, hactive, hid, -, -⟩ := hs
  have hrid : r.id = ruleId := ruleOf_id hr
  have hmem : r ∈ db.rules.rows := (Table.find?_some hr).1
  have hnext : r.val.nextRunAt = some x := by
    unfold nextOf at hx
    rw [hr] at hx
    exact hx
  have hlist : t.plan .ruleListDue = .none := by rw [hcalm]
  have hunlisted : r ∉ dueRows t.now maxRulesPerTick db := by
    intro hin
    have hhandles := handles_listed hlist hin
    rw [hrid, hno] at hhandles
    unfold Tick.looksUp at hhandles
    rw [hid, hcalm] at hhandles
    cases hhandles
  obtain ⟨hfull, hbefore⟩ := dueRows_full hmem (isDue_iff.mpr ⟨hactive, x, hnext, hnow⟩) hunlisted
  let ps := ((dueRows t.now maxRulesPerTick db).map toRuleRow).zipIdx
  -- the listed rules are due at `x`, and none of them is afterwards
  have hsub : dueRows t.now maxRulesPerTick db ⊆
      (db.rules.rows.filter (isDue x)).filter fun r => !ps.all fun p => decide (r.id ≠ p.1.id) := by
    intro r' hr'
    obtain ⟨hmem', hdue'⟩ := mem_dueRows hr'
    obtain ⟨hactive', y, hy, -⟩ := isDue_iff.mp hdue'
    have hle : y ≤ x := by
      have hle := hbefore r' hr'
      unfold runsBefore at hle
      rw [hy, hnext] at hle
      exact hle
    refine List.mem_filter.mpr ⟨List.mem_filter.mpr ⟨hmem', isDue_iff.mpr ⟨hactive', y, hy, hle⟩⟩, ?_⟩
    have hlisted : toRuleRow r' ∈ ps.map Prod.fst := by
      rw [List.zipIdx_map_fst]
      exact List.mem_map.mpr ⟨r', hr', rfl⟩
    obtain ⟨p, hp, hpr⟩ := List.mem_map.mp hlisted
    have hall : (ps.all fun p => decide (r'.id ≠ p.1.id)) = false := by
      refine List.all_eq_false.mpr ⟨p, hp, fun hne => ?_⟩
      rw [hpr] at hne
      exact of_decide_eq_true hne rfl
    rw [hall]
    rfl
  have hnodup := List.Nodup.of_map _ (dueRows_nodup t.now maxRulesPerTick db)
  have hlen := (List.subperm_of_subset hnodup hsub).length_le
  rw [hfull] at hlen
  have hafter : dueCount x (t.exec lib db) =
      db.rules.rows.countP fun r => isDue x r && ps.all fun p => decide (r.id ≠ p.1.id) := by
    unfold Tick.exec
    rw [run_execute, if_pos hlist, hcalm]
    exact dueCount_foldl hcron hnow t.uid ps db
  have hsplit := List.length_eq_length_filter_add (l := db.rules.rows.filter (isDue x))
    fun r => ps.all fun p => decide (r.id ≠ p.1.id)
  have hrest : (db.rules.rows.countP fun r => isDue x r && ps.all fun p => decide (r.id ≠ p.1.id)) =
      ((db.rules.rows.filter (isDue x)).filter fun r => ps.all fun p => decide (r.id ≠ p.1.id)).length := by
    rw [List.countP_eq_length_filter, List.filter_filter]
    simp only [Bool.and_comm]
  have hdue : dueCount x db = (db.rules.rows.filter (isDue x)).length := List.countP_eq_length_filter
  omega

/-- Once past a run, ticks never come back to it. -/
theorem runTicks_past (hcron : lib.FiresAfter) {x : Instant} {ts : List Tick} {db : Db}
    (hs : Schedulable lib ruleId db) (hf : FreshIds ts db) (hh : TicksHarmless lib ruleId ts db)
    (hpast : Past x (cursorOf ruleId db)) : nextOf ruleId (runTicks lib ts db) ≠ some x := by
  have hend := past_run _ _ (firings_proper hcron ts db hs hf hh) hpast
  rw [← runTicks_cursor ts db hs hf] at hend
  intro hx
  exact lt_irrefl x (hend x hx)

/-- **Enough ticks without failures** after `x` leave the run `x` of the rule behind. -/
theorem calm_leaves (hcron : lib.FiresAfter) {x : Instant} : ∀ (ts : List Tick) (db : Db),
    Schedulable lib ruleId db → FreshIds ts db → TicksHarmless lib ruleId ts db →
    (∀ t ∈ ts, t.plan = fun _ => .none) → (∀ t ∈ ts, x ≤ t.now) → nextOf ruleId db = some x →
    dueCount x db ≤ maxRulesPerTick * ts.length → nextOf ruleId (runTicks lib ts db) ≠ some x := by
  intro ts
  induction ts with
  | nil =>
    intro db hs _ _ _ _ hx hcount
    obtain ⟨r, -, -, -, hr, hactive, -⟩ := hs
    have hnext : r.val.nextRunAt = some x := by
      unfold nextOf at hx
      rw [hr] at hx
      exact hx
    have hpos : 0 < dueCount x db := by
      refine List.countP_pos_iff.mpr ⟨r, (Table.find?_some hr).1, ?_⟩
      exact isDue_iff.mpr ⟨hactive, x, hnext, le_refl x⟩
    rw [List.length_nil] at hcount
    omega
  | cons t ts ih =>
    intro db hs hf hh hcalm htimes hx hcount
    have hs' := (exec_sameRules lib t db).schedulable hs
    obtain ⟨hnodup, hunused, hrest⟩ := exec_fresh hf
    have hcursor := exec_cursor hs hnodup hunused
    have hnow : x ≤ t.now := htimes t List.mem_cons_self
    show nextOf ruleId (runTicks lib ts (t.exec lib db)) ≠ some x
    cases hhandles : t.handles ruleId db with
    | true =>
      have hpast : Past x (cursorOf ruleId (t.exec lib db)) := by
        intro z hz
        rw [hcursor] at hz
        unfold Tick.firing Tick.advances at hz
        rw [if_pos hhandles, hcalm t List.mem_cons_self, next_step] at hz
        obtain ⟨r, -, hnext⟩ := Option.bind_eq_some_iff.mp hz
        exact hnow.trans_lt (nextRun_after hcron hnext)
      exact runTicks_past hcron hs' hrest hh.2 hpast
    | false =>
      have hprogress := calm_progress hcron hs (hcalm t List.mem_cons_self) hx hnow hhandles
      have hsame : nextOf ruleId (t.exec lib db) = some x := by
        have hnext := congrArg Cursor.next hcursor
        unfold Tick.firing at hnext
        rw [hhandles, if_neg Bool.false_ne_true, step_none] at hnext
        exact hnext.trans hx
      refine ih (t.exec lib db) hs' hrest hh.2 (fun t' ht' => hcalm t' (List.mem_cons_of_mem t ht'))
        (fun t' ht' => htimes t' (List.mem_cons_of_mem t ht')) hsame ?_
      rw [List.length_cons, Nat.mul_add, Nat.mul_one] at hcount
      omega

/-! ### Ticks in sequence -/

theorem freshIds_left {ts ts' : List Tick} {db : Db} (h : FreshIds (ts ++ ts') db) : FreshIds ts db := by
  obtain ⟨hdistinct, hunused⟩ := h
  rw [List.flatMap_append] at hdistinct hunused
  exact ⟨(List.nodup_append.mp hdistinct).1, fun r hr hu => hunused r hr (List.mem_append_left _ hu)⟩

theorem ticksHarmless_left : ∀ (ts ts' : List Tick) (db : Db),
    TicksHarmless lib ruleId (ts ++ ts') db → TicksHarmless lib ruleId ts db := by
  intro ts
  induction ts with
  | nil => exact fun _ _ _ => trivial
  | cons t ts ih => exact fun ts' db h => ⟨h.1, ih ts' (t.exec lib db) h.2⟩

/-- What the later ticks of a sequence start from. -/
theorem runTicks_right : ∀ (ts ts' : List Tick) (db : Db), FreshIds (ts ++ ts') db →
    TicksHarmless lib ruleId (ts ++ ts') db →
      SameRules db (runTicks lib ts db) ∧ FreshIds ts' (runTicks lib ts db) ∧
        TicksHarmless lib ruleId ts' (runTicks lib ts db) := by
  intro ts
  induction ts with
  | nil => exact fun ts' db hf hh => ⟨.refl db, hf, hh⟩
  | cons t ts ih =>
    intro ts' db hf hh
    obtain ⟨-, -, hrest⟩ := exec_fresh hf
    obtain ⟨hsame, hfresh, hharmless⟩ := ih ts' (t.exec lib db) hrest hh.2
    exact ⟨(exec_sameRules lib t db).trans hsame, hfresh, hharmless⟩

theorem becameDue_append {x : Instant} : ∀ (ts ts' : List Tick) (db : Db),
    BecameDue lib ruleId x ts db → BecameDue lib ruleId x (ts ++ ts') db := by
  intro ts
  induction ts with
  | nil => exact fun _ _ h => h.elim
  | cons t ts ih => exact fun ts' db h => h.imp id (ih ts' (t.exec lib db))

theorem becameDue_time {x : Instant} : ∀ (ts : List Tick) (db : Db), BecameDue lib ruleId x ts db →
    ∃ t ∈ ts, x ≤ t.now := by
  intro ts
  induction ts with
  | nil => exact fun _ h => h.elim
  | cons t ts ih =>
    intro db h
    rcases h with ⟨-, hle⟩ | hlater
    · exact ⟨t, List.mem_cons_self, hle⟩
    · obtain ⟨t', ht', hle⟩ := ih (t.exec lib db) hlater
      exact ⟨t', List.mem_cons_of_mem t ht', hle⟩

end

/-! ## Top theorem -/

/-- **One task for each run.**  Take an active rule with an active template that decodes,
whose stored next run has no task yet, and ticks in the order of time that are harmless
for it.  Then no run of the rule gets two tasks; and once ticks without failures follow,
fifty rules a tick, every run that became due before them has got exactly one. -/
theorem one_task_per_run (lib : RecurrenceLibrary) (ruleId : Int) (db : Db) (before after : List Tick)
    (hcron : lib.FiresAfter) (hs : Schedulable lib ruleId db)
    (hserved : (cursorOf ruleId db).served = false)
    (htimes : ((before ++ after).map Tick.now).Pairwise (· ≤ ·)) (hfresh : FreshIds (before ++ after) db)
    (hharmless : TicksHarmless lib ruleId (before ++ after) db) (x : Instant) :
    created lib ruleId x (before ++ after) db ≤ 1 ∧
      ((∀ t ∈ after, t.plan = fun _ => .none) → db.rules.rows.length ≤ maxRulesPerTick * after.length →
        BecameDue lib ruleId x before db → created lib ruleId x (before ++ after) db = 1) := by
  have hproper := firings_proper hcron (before ++ after) db hs hfresh hharmless
  have hordered : Ordered (firings lib ruleId (before ++ after) db) (cursorOf ruleId db) :=
    firings_ordered htimes hserved
  rw [created_eq x (before ++ after) db hs hfresh]
  refine ⟨count_le_one hproper hordered, fun hcalm hmany hdue => ?_⟩
  have hreach := firings_reach (before ++ after) db hs hfresh (becameDue_append before after db hdue)
  refine count_eq_one hproper hordered hserved hreach ?_
  have hrun : runTicks lib (before ++ after) db = runTicks lib after (runTicks lib before db) :=
    List.foldl_append
  rw [← runTicks_cursor (before ++ after) db hs hfresh, hrun]
  obtain ⟨hsame, hfresh', hharmless'⟩ := runTicks_right before after db hfresh hharmless
  have hs' := hsame.schedulable hs
  have hleft := freshIds_left hfresh
  have htimes' : (before.map Tick.now).Pairwise (· ≤ ·) := by
    rw [List.map_append] at htimes
    exact (List.pairwise_append.mp htimes).1
  have hmid := reaches_run
    (firings_proper hcron before db hs hleft (ticksHarmless_left before after db hharmless))
    (firings_ordered htimes' hserved) hserved (firings_reach before db hs hleft hdue)
  rw [← runTicks_cursor before db hs hleft] at hmid
  rcases hmid with hat | hpast
  · obtain ⟨t₀, ht₀, hle⟩ := becameDue_time before db hdue
    have hnow : ∀ t ∈ after, x ≤ t.now := by
      intro t ht
      rw [List.map_append] at htimes
      have hlater := (List.pairwise_append.mp htimes).2.2 t₀.now (List.mem_map.mpr ⟨t₀, ht₀, rfl⟩) t.now
        (List.mem_map.mpr ⟨t, ht, rfl⟩)
      exact hle.trans hlater
    refine calm_leaves hcron after _ hs' hfresh' hharmless' hcalm hnow hat ?_
    have hcount : dueCount x (runTicks lib before db) ≤ (runTicks lib before db).rules.rows.length :=
      List.countP_le_length
    rw [hsame.length] at hcount
    omega
  · exact runTicks_past hcron hs' hfresh' hharmless' hpast

/-! ## A rule that runs every minute -/

def minute (n : Int) : Instant := n * 60000000000

/-- Every minute, for a template body with a description only. -/
def sampleLibrary : RecurrenceLibrary where
  scheduleError _ := none
  isTimezone _ := true
  nextAfter _ _ start := some (minute (start / 60000000000 + 1))
  decodeBody raw :=
    if raw = "\x7b\"description\":\"Send the report\"\x7d" then .ok ⟨"Send the report", [], "", []⟩
    else .error "expected value at line 1 column 1"

theorem sampleLibrary_firesAfter : sampleLibrary.FiresAfter := by
  intro expression timezone start next h
  have hlater : ∀ s : Int, s < (s / 60000000000 + 1) * 60000000000 := by
    intro s
    omega
  rw [← Option.some.inj h]
  exact hlater start

def sampleRule : RecurrenceRule where
  templateId := some 1
  ownerUserId := 1
  cronExpression := "0 * * * * * *"
  timezone := "Europe/Moscow"
  nextRunAt := some (minute 1)
  lastRunAt := none
  isActive := true
  updatedAt := 0

def sampleTemplate : TaskTemplate where
  code := "report"
  title := "Report"
  body := "\x7b\"description\":\"Send the report\"\x7d"
  createdByUserId := none
  isActive := true

/-- One rule, due in the first minute, and its template. -/
def ruleDb : Db :=
  { Db.empty with
    rules := (Table.empty.insertOrIgnore sampleRule).1
    templates := (Table.empty.insertOrIgnore sampleTemplate).1 }

/-- The `n`-th tick, in the `n`-th minute. -/
def sampleTick (n : Nat) (plan : Site → Fault AppError) : Tick where
  now := minute n
  uid k := ⟨Vector.replicate 16 (UInt8.ofNat (50 * n + k))⟩
  plan

def lockError : AppError := databaseError "database is locked"

/-- The insert and the advance of a rule fail before their effect. -/
def bothFail (site : Site) : Fault AppError :=
  if site = .taskInsert (sourceKey 1 (minute 1)) ∨ site = .ruleAdvance 1 then .before lockError else .none

/-- Both calls of the first tick fail, and the second tick creates the task. -/
theorem one_task_per_run_second_tick :
    created sampleLibrary 1 (minute 1) [sampleTick 1 bothFail, sampleTick 2 fun _ => .none] ruleDb = 1 := by
  refine (one_task_per_run sampleLibrary 1 ruleDb [sampleTick 1 bothFail] [sampleTick 2 fun _ => .none]
    sampleLibrary_firesAfter ?_ (by decide) ?_ ⟨?_, fun r hr => nomatch hr⟩ ?_ (minute 1)).2 ?_ (by decide) ?_
  · exact ⟨⟨1, sampleRule⟩, 1, ⟨1, sampleTemplate⟩, _, rfl, rfl, rfl, rfl, rfl⟩
  · decide
  · refine List.Nodup.of_map (fun u => u.bytes.toList.headD 0) ?_
    decide +kernel
  · exact ⟨⟨by decide, by decide⟩, ⟨by decide, by decide⟩, trivial⟩
  · intro t ht
    rw [List.mem_singleton.mp ht]
    rfl
  · exact .inl ⟨rfl, by decide⟩

/-- The insert fails and the advance is stored: the run of the first minute is skipped.
The insert is stored and the advance fails: the run gets a second task. -/
theorem run_skipped_or_doubled :
    let lost := sampleTick 1 fun site =>
      if site = .taskInsert (sourceKey 1 (minute 1)) then .before lockError else .none
    let stuck := sampleTick 1 fun site => if site = .ruleAdvance 1 then .before lockError else .none
    let calm := sampleTick 2 fun _ => .none
    Schedulable sampleLibrary 1 ruleDb ∧
      (BecameDue sampleLibrary 1 (minute 1) [lost] ruleDb ∧
        created sampleLibrary 1 (minute 1) [lost, calm] ruleDb = 0) ∧
      (BecameDue sampleLibrary 1 (minute 1) [stuck] ruleDb ∧
        created sampleLibrary 1 (minute 1) [stuck, calm] ruleDb = 2) := by
  intro lost stuck calm
  refine ⟨⟨⟨1, sampleRule⟩, 1, ⟨1, sampleTemplate⟩, _, rfl, rfl, rfl, rfl, rfl⟩, ⟨.inl ⟨rfl, by decide⟩, ?_⟩, ⟨.inl ⟨rfl, by decide⟩, ?_⟩⟩
  · decide
  · decide

end TaskBot
