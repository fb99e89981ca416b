import TaskBot.Lib.Ledgers
import TaskBot.UseCases.DailySummaries
import TaskBot.UseCases.MutationAnswers
import TaskBot.UseCases.RecurrenceRules
import TaskBot.UseCases.ReviewGate
import TaskBot.UseCases.SlaStates
import TaskBot.UseCases.TaskComments
import TaskBot.UseCases.TaskReminders

/-!
# The audit trail

Users and workers change the status of a task in one statement and write the entry of the history in another,
all of them at once on one database.  The history is a book kept of the status changes.

* `trail`: the book of one task, `Db.recordedChanges`, and what it is kept of, `statusChange`;
* `update_bind`, `append_bind`: a statement that changes the status owes an entry, the entry settles it;
* `call_settles`: every program settles what it owes;
* `audit_trail_complete`: the history has no change that did not happen, and lacks at most one for each program
  that met a fault or was cut off; what happened leads from the old status to the new one.
-/

namespace TaskBot

open Sql Calls TaskRepository

/-! ## The book -/

/-- A change of the status, as the texts of the old one and the new one. -/
abbrev StatusChange := String × String

def changed (old new : String) : List StatusChange := if old = new then [] else [(old, new)]

@[simp] theorem changed_self (s : String) : changed s s = [] := if_pos rfl

theorem changed_length (old new : String) : (changed old new).length ≤ 1 := by
  unfold changed
  split <;> simp

/-- The status of the task in the row with this id. -/
def Db.statusText (i : Int) (db : Db) : Option String :=
  (db.tasks.find? fun r => r.id = i).map fun r => r.val.task.status.toText

/-- What a step does to the status of the task. -/
def statusChange (i : Int) (db db' : Db) : List StatusChange :=
  match db.statusText i, db'.statusText i with
  | some old, some new => changed old new
  | _, _ => []

/-- The change an entry of the history tells of the task. -/
def AuditLogEntry.change (i : Int) (entry : AuditLogEntry) : List StatusChange :=
  if entry.taskId = i then
    match entry.oldStatus, entry.newStatus with
    | some old, some new => changed old new
    | _, _ => []
  else []

/-- The changes of the task in the history, in order. -/
def Db.recordedChanges (i : Int) (db : Db) : List StatusChange :=
  db.history.rows.flatMap fun r => r.val.change i

/-- Others keep what is known of the tasks, and no task goes away. -/
structure TrailRely (i : Int) (db db' : Db) : Prop where
  follows : Follows db db'
  stays : db.statusText i ≠ none → db'.statusText i ≠ none

/-- The book of the task in row `i`. -/
def trail (i : Int) : Books Db StatusChange where
  book db := db.recordedChanges i
  effects db db' := statusChange i db db'
  rely := TrailRely i

section

variable {i : Int} {db db' : Db}

theorem statusChange_of_eq (h : db'.statusText i = db.statusText i) : statusChange i db db' = [] := by
  unfold statusChange
  rw [h]
  cases db.statusText i with
  | none => rfl
  | some s => exact changed_self s

theorem recordedChanges_append (db : Db) (entry : AuditLogEntry) :
    (db.appendHistory entry).recordedChanges i = db.recordedChanges i ++ entry.change i := by
  unfold Db.recordedChanges
  rw [rows_appendHistory, List.flatMap_append, List.flatMap_singleton]

/-- A lookup by the row finds it, updated. -/
theorem find?_row_modify (t : Table TaskColumns) (q : Stored TaskColumns → Bool) (f : TaskColumns → TaskColumns)
    (hf : KeepsKeys f) :
    ((t.modify q f hf).find? fun r => r.id = i) = (t.find? fun r => r.id = i).map (setWhere q f) :=
  Table.find?_modify fun _ => rfl

/-! ## Quiet steps -/

theorem quiet_of (hfollows : Follows db db') (hstatus : ∀ s, db.statusText i = some s → db'.statusText i = some s)
    (hhistory : db'.history = db.history) : (trail i).Quiet db db' where
  rely := by
    refine ⟨hfollows, fun hne hnone => ?_⟩
    obtain ⟨s, hs⟩ := Option.ne_none_iff_exists'.mp hne
    rw [hstatus s hs] at hnone
    cases hnone
  book := by
    change (↑(db'.recordedChanges i) : Multiset StatusChange) = ↑(db.recordedChanges i)
    unfold Db.recordedChanges
    rw [hhistory]
  effects := by
    change (↑(statusChange i db db') : Multiset StatusChange) = ↑([] : List StatusChange)
    congr 1
    cases hs : db.statusText i with
    | none => simp only [statusChange, hs]
    | some s => exact statusChange_of_eq (by rw [hstatus s hs, hs])

theorem quiet_of_same (htasks : db'.tasks = db.tasks) (hhistory : db'.history = db.history) :
    (trail i).Quiet db db' := by
  refine quiet_of (.of_tasks htasks) (fun s hs => ?_) hhistory
  unfold Db.statusText at hs ⊢
  rw [htasks]
  exact hs

theorem quiet_refl (db : Db) : (trail i).Quiet db db := quiet_of_same rfl rfl

/-- An entry that tells of no change. -/
theorem quiet_append {entry : AuditLogEntry} (h : entry.change i = []) (db : Db) :
    (trail i).Quiet db (db.appendHistory entry) where
  rely := ⟨.of_tasks rfl, fun h => h⟩
  book := by
    change (↑((db.appendHistory entry).recordedChanges i) : Multiset StatusChange) = ↑(db.recordedChanges i)
    rw [recordedChanges_append, h, List.append_nil]
  effects := by
    have hsame : (db.appendHistory entry).statusText i = db.statusText i := rfl
    change (↑(statusChange i db (db.appendHistory entry)) : Multiset StatusChange) = ↑([] : List StatusChange)
    rw [statusChange_of_eq hsame]

/-- A new task is in a row of its own. -/
theorem quiet_inserted (task : Task) (db : Db) : (trail i).Quiet db (inserted task db) := by
  refine quiet_of (fun uid t ht => ⟨t, stored_inserted_some ht, .inl (.refl t)⟩) (fun s hs => ?_) rfl
  obtain ⟨r, hr, rfl⟩ := Option.map_eq_some_iff.mp hs
  exact Option.map_eq_some_iff.mpr ⟨r, Table.find?_insert hr, rfl⟩

/-- The escalation worker writes columns of its own. -/
theorem quiet_sla (taskId : Int) (state : String) (level : Int) (now : Instant) (db : Db) :
    (trail i).Quiet db (SlaRepository.slaUpdated taskId state level now db) := by
  refine quiet_of (.sla taskId state level now db) (fun s hs => ?_) rfl
  obtain ⟨r, hr, rfl⟩ := Option.map_eq_some_iff.mp hs
  unfold Db.statusText
  rw [SlaRepository.tasks_slaUpdated, find?_row_modify, hr]
  simp only [Option.map_some, setWhere]
  split <;> rfl

/-! ## The update of a task -/

/-- What the update of `base` to `task` changes of the task in row `i`. -/
def owedFor (i : Int) (base task : Task) : List StatusChange :=
  if base.id = some i then changed base.status.toText task.status.toText else []

theorem owedFor_length (i : Int) (base task : Task) : (owedFor i base task).length ≤ 1 := by
  unfold owedFor
  split
  · exact changed_length _ _
  · simp

theorem owedFor_same {base task : Task} (h : task.status = base.status) : owedFor i base task = [] := by
  unfold owedFor
  rw [h, changed_self, ite_self]

theorem statusText_of_find {r : Stored TaskColumns} (h : (db.tasks.find? fun r => r.id = i) = some r) :
    db.statusText i = some r.val.task.status.toText := by
  unfold Db.statusText
  rw [h]
  rfl

theorem statusText_updated (task : Task) (db : Db) : (updated task db).statusText i =
    ((db.tasks.find? fun r => r.id = i).map (setWhere (isPrevious task) (updateColumns task))).map
      fun r => r.val.task.status.toText := by
  unfold Db.statusText
  rw [tasks_updated, find?_row_modify]

theorem updated_stays (task : Task) (db : Db) (h : db.statusText i ≠ none) :
    (updated task db).statusText i ≠ none := by
  rw [statusText_updated]
  unfold Db.statusText at h
  cases hr : db.tasks.find? fun r => r.id = i with
  | none => simp [hr] at h
  | some r => simp

/-- **An update that matches** changes the status of the row it matches, and of no other. -/
theorem statusChange_updated {base task : Task} {u : Instant}
    (hb : db.stored task.taskUid = some (base.touch u)) (hv : task.version = base.version + 1) :
    statusChange i db (updated task db) = owedFor i base task := by
  obtain ⟨r, hr, hrow⟩ := Option.map_eq_some_iff.mp hb
  obtain ⟨hmem, huid⟩ := Table.find?_some hr
  rw [decide_eq_true_eq] at huid
  have hid : base.id = some r.id := (congrArg Task.id hrow).symm
  have hstatus : base.status = r.val.task.status := (congrArg Task.status hrow).symm
  have hversion : (toTask r).version = (base.touch u).version := congrArg Task.version hrow
  rw [toTask_version] at hversion
  have hmatch : isPrevious task r = true := by
    have hbase : (base.touch u).version = base.version := rfl
    simp only [isPrevious, decide_eq_true_eq]
    exact ⟨huid, by omega⟩
  cases hi : db.tasks.find? fun r => r.id = i with
  | none =>
    have hne : base.id ≠ some i := by
      rw [hid]
      rintro heq
      have hno := Table.find?_none hi r hmem
      simp [Option.some.inj heq] at hno
    have hnone : db.statusText i = none := by
      unfold Db.statusText
      rw [hi]
      rfl
    simp only [statusChange, hnone, owedFor, if_neg hne]
  | some r' =>
    obtain ⟨hmem', hid'⟩ := Table.find?_some hi
    rw [decide_eq_true_eq] at hid'
    have hnew := statusText_updated (i := i) task db
    rw [hi] at hnew
    simp only [statusChange, statusText_of_find hi, hnew, Option.map_some]
    by_cases hsame : base.id = some i
    · have heq : r' = r := by
        refine Table.eq_of_not_apart hmem' hmem (.inl ?_)
        rw [hid', ← Option.some_inj, ← hid, hsame]
      rw [owedFor, if_pos hsame, heq, hstatus]
      simp only [setWhere, hmatch, if_true]
      rfl
    · have hother : isPrevious task r' = false := by
        refine Bool.eq_false_iff.mpr fun h => hsame ?_
        -- a second row with this uid would be the same row
        have heq : r' = r := by
          refine Table.eq_of_not_apart hmem' hmem (.inr ?_)
          simp only [isPrevious, decide_eq_true_eq] at h
          simp [Keyed.clash, h.1, huid]
        rw [hid, ← heq, hid']
      rw [owedFor, if_neg hsame]
      simp only [setWhere, hother, Bool.false_eq_true, if_false, changed_self]

end

/-! ## Programs that settle what they owe -/

/-- At most one entry is missing, and none without a fault. -/
def SettledBy (faultless : Prop) (d : Multiset StatusChange) : Prop := Multiset.card d ≤ 1 ∧ (faultless → d = 0)

/-- The program ends without debts. -/
def Neutral (i : Int) (faultless : Prop) (P : Db → Prop) {α : Type} (p : Proc α) : Prop :=
  Owes (trail i) faultless 1 P 0 p fun _ d db => P db ∧ d = 0

/-- The program owes `d` and settles it. -/
def Settles (i : Int) (faultless : Prop) (P : Db → Prop) (d : Multiset StatusChange) {α : Type} (p : Proc α) :
    Prop :=
  Owes (trail i) faultless 1 P d p fun _ d' _ => SettledBy faultless d'

/-- No statement of the program changes a status or tells of a change. -/
def LeavesTrail (i : Int) {α : Type} (p : Proc α) : Prop := p.Within (trail i).Quiet

variable {i : Int} {faultless : Prop} {P : Db → Prop} {α β : Type}

theorem settledBy_zero : SettledBy faultless 0 := ⟨by simp, fun _ => rfl⟩

theorem stable_trail (hst : Stable Follows P) : Stable (trail i).rely P :=
  fun db db' hr hp => hst db db' hr.follows hp

namespace Neutral

theorem pure (a : α) : Neutral i faultless P (Pure.pure a : Proc α) := Owes.pure fun _ h => ⟨h, rfl⟩

theorem fail (e : AppError) : Neutral i faultless P (Prog.fail e : Proc α) := Owes.fail fun _ h => ⟨h, rfl⟩

theorem bind {p : Proc α} {f : α → Proc β} (hp : Neutral i faultless P p)
    (hf : ∀ a, Neutral i faultless P (f a)) : Neutral i faultless P (p >>= f) := by
  refine Owes.bind hp (fun a d => ?_) fun _ _ _ h => h
  refine (Owes.of_and_const (c := d = 0) ?_).weaken (fun db h => ⟨h.2, h.1⟩) fun _ _ _ h => h
  rintro rfl
  exact hf a

theorem lift_bind {r : AppResult α} {f : α → Proc β} (hf : ∀ a, r = .ok a → Neutral i faultless P (f a)) :
    Neutral i faultless P (.lift r >>= f) :=
  Owes.lift_bind hf fun _ _ _ h => ⟨h, rfl⟩

theorem of_leavesTrail (hst : Stable Follows P) {p : Proc α} (hp : LeavesTrail i p) : Neutral i faultless P p :=
  Owes.of_within hp quiet_refl (by simp) (stable_trail hst)

theorem settles {p : Proc α} (hp : Neutral i faultless P p) : Settles i faultless P 0 p :=
  hp.weaken (fun _ h => h) fun _ _ _ h => h.2 ▸ settledBy_zero

theorem mono {P' : Db → Prop} {p : Proc α} (hp : Neutral i faultless P' p) (h : ∀ db, P db → P' db)
    (h' : ∀ db, P' db → P db) : Neutral i faultless P p :=
  hp.weaken h fun _ _ db hq => ⟨h' db hq.1, hq.2⟩

end Neutral

namespace Settles

variable {d : Multiset StatusChange}

theorem pure (a : α) : Settles i faultless P 0 (Pure.pure a : Proc α) := (Neutral.pure a).settles

theorem bind_neutral {p : Proc α} {f : α → Proc β} (hp : Neutral i faultless P p)
    (hf : ∀ a, Settles i faultless P 0 (f a)) : Settles i faultless P 0 (p >>= f) := by
  refine Owes.bind hp (fun a d => ?_) fun _ _ _ h => h.2 ▸ settledBy_zero
  refine (Owes.of_and_const (c := d = 0) ?_).weaken (fun db h => ⟨h.2, h.1⟩) fun _ _ _ h => h
  rintro rfl
  exact hf a

theorem lift_bind {r : AppResult α} {f : α → Proc β} (hf : ∀ a, r = .ok a → Settles i faultless P 0 (f a)) :
    Settles i faultless P 0 (.lift r >>= f) :=
  Owes.lift_bind hf fun _ _ _ _ => settledBy_zero

/-- A computation that cannot fail may stand between a change and its entry. -/
theorem lift_bind_ok {r : AppResult α} {a : α} (hr : r = .ok a) {f : α → Proc β}
    (hf : Settles i faultless P d (f a)) : Settles i faultless P d (.lift r >>= f) := by
  rw [hr]
  exact hf

/-- So may a statement that leaves the trail and answers whenever it is answered. -/
theorem write_bind (hst : Stable Follows P) (hd : Multiset.card d ≤ 1) {site : Site} {body : Db → α × Db}
    {f : α → Proc β} (hbody : ∀ db, (trail i).Quiet db (body db).2)
    (hf : ∀ a, Settles i faultless P d (f a)) : Settles i faultless P d (write site body >>= f) := by
  let Q : AppResult α → Multiset StatusChange → Db → Prop := fun r d' db =>
    (d' = d ∧ ∀ err, r = .error err → SettledBy faultless d') ∧ P db
  refine Owes.bind (Q := Q) ?_ (fun a d' => ?_) fun err d' db h => h.1.2 err rfl
  · refine Owes.perform (fun r d' => (Stable.const _ _).and (stable_trail hst)) fun db hp fault hnone => ?_
    have hquiet : (trail i).Quiet db (fault.apply (fun db => (.ok (body db).1, (body db).2)) db).2 := by
      rcases fault.apply_store (fun db => ((.ok (body db).1 : AppResult α), (body db).2)) db with h | h
      · rw [h]
        exact quiet_refl db
      · rw [h]
        exact hbody db
    refine ⟨hquiet.rely, d, hquiet.balanced d, hd, ⟨rfl, fun err herr => ⟨hd, fun hfaultless => ?_⟩⟩, ?_⟩
    · rw [hnone hfaultless] at herr
      cases herr
    · exact stable_trail hst _ _ hquiet.rely hp
  · refine Owes.of_and_const fun hc => ?_
    rw [hc.1]
    exact hf a

/-- **The entry settles the change.** -/
theorem append_bind (hst : Stable Follows P) {entry : AuditLogEntry} {f : AuditLogEntry → Proc β}
    (hd : (↑(entry.change i) : Multiset StatusChange) = d) (hf : ∀ a, Settles i faultless P 0 (f a)) :
    Settles i faultless P d (AuditLogRepository.append entry >>= f) := by
  have hcard : Multiset.card d ≤ 1 := by
    rw [← hd, Multiset.coe_card]
    unfold AuditLogEntry.change
    split
    · split
      · exact changed_length _ _
      · simp
    · simp
  let Q : AppResult AuditLogEntry → Multiset StatusChange → Db → Prop := fun r d' db =>
    ((∀ a, r = .ok a → d' = 0) ∧ ∀ err, r = .error err → SettledBy faultless d') ∧ P db
  refine Owes.bind (Q := Q) ?_ (fun a d' => ?_) fun err d' db h => h.1.2 err rfl
  · refine Owes.perform (fun r d' => (Stable.const _ _).and (stable_trail hst)) fun db hp fault hnone => ?_
    have hrely : (trail i).rely db (db.appendHistory entry) := ⟨.of_tasks rfl, fun h => h⟩
    have hwritten : (trail i).Balanced d 0 db (db.appendHistory entry) := by
      have hsame : statusChange i db (db.appendHistory entry) = [] := statusChange_of_eq rfl
      change (↑((db.appendHistory entry).recordedChanges i) : Multiset StatusChange) + 0 =
        ↑(db.recordedChanges i) + d + ↑(statusChange i db (db.appendHistory entry))
      rw [recordedChanges_append, hsame, ← hd, ← Multiset.coe_add]
      rfl
    cases fault with
    | none =>
      exact ⟨hrely, 0, hwritten, by simp, ⟨fun _ _ => rfl, nofun⟩,
        stable_trail hst _ _ hrely hp⟩
    | before err =>
      refine ⟨(quiet_refl db).rely, d, (quiet_refl db).balanced d, hcard, ⟨nofun, ?_⟩, hp⟩
      exact fun _ _ => ⟨hcard, fun h => nomatch hnone h⟩
    | after err =>
      exact ⟨hrely, 0, hwritten, by simp, ⟨fun _ _ => rfl, fun _ _ => settledBy_zero⟩,
        stable_trail hst _ _ hrely hp⟩
  · refine Owes.of_and_const fun hc => ?_
    rw [hc.1 a rfl]
    exact hf a

end Settles

/-! ## Reading and storing a task -/

/-- What a statement read is known from then on. -/
theorem select_bind {Q : AppResult β → Multiset StatusChange → Db → Prop} {site : Site} {ans : Db → AppResult α}
    {f : α → Proc β} {C : α → Prop} {K : α → Db → Prop} (hst : Stable Follows P)
    (hK : ∀ a, Stable Follows (K a)) (hsel : ∀ db a, ans db = .ok a → C a ∧ K a db)
    (hQ : ∀ err db, P db → Q (.error err) 0 db)
    (hf : ∀ a, C a → Owes (trail i) faultless 1 (fun db => K a db ∧ P db) 0 (f a) Q) :
    Owes (trail i) faultless 1 P 0 (select site ans >>= f) Q := by
  let R : AppResult α → Multiset StatusChange → Db → Prop := fun r d db =>
    d = 0 ∧ P db ∧ ∀ a, r = .ok a → C a ∧ K a db
  refine Owes.bind (Q := R) ?_ (fun a d => ?_) fun err d db h => ?_
  · refine Owes.perform ?_ fun db hp fault _ => ?_
    · intro r d db db' hr h
      refine ⟨h.1, stable_trail hst db db' hr h.2.1, fun a ha => ⟨(h.2.2 a ha).1, ?_⟩⟩
      exact stable_trail (hK a) db db' hr (h.2.2 a ha).2
    · have hstore : (fault.apply (fun db => (ans db, db)) db).2 = db := by
        rcases fault.apply_store (fun db => (ans db, db)) db with h | h <;> exact h
      rw [hstore]
      refine ⟨(quiet_refl db).rely, 0, (quiet_refl db).balanced 0, by simp, rfl, hp, fun a ha => ?_⟩
      cases fault with
      | none => exact hsel db a ha
      | before err => cases ha
      | after err => cases ha
  · refine (Owes.of_and_const (c := d = 0 ∧ C a) (P := fun db => K a db ∧ P db) ?_).weaken
      (fun db h => ⟨⟨h.1, (h.2.2 a rfl).1⟩, (h.2.2 a rfl).2, h.2.1⟩) fun _ _ _ h => h
    rintro ⟨rfl, hc⟩
    exact hf a hc
  · rw [h.1]
    exact hQ err db h.2.1

open Gated in
/-- A read task is known, and has the id of its row. -/
theorem findByUid_bind {Q : AppResult β → Multiset StatusChange → Db → Prop} (hst : Stable Follows P) (uid : Uuid)
    {f : Option Task → Proc β} (hQ : ∀ err db, P db → Q (.error err) 0 db)
    (hf : ∀ found, (∀ t, found = some t → t.id ≠ none) →
      Owes (trail i) faultless 1 (fun db => KnownAnswer found db ∧ P db) 0 (f found) Q) :
    Owes (trail i) faultless 1 P 0 (findByUid uid >>= f) Q := by
  refine select_bind hst knownAnswer_stable (fun db found h => ?_) hQ hf
  cases h
  refine ⟨fun t ht => ?_, fun t ht => .of_stored ht⟩
  obtain ⟨r, -, rfl⟩ := Option.map_eq_some_iff.mp ht
  exact Option.some_ne_none r.id

open Gated in
theorem loadTask_bind (hst : Stable Follows P) (uid : Uuid) {f : Task → Proc β}
    (hf : ∀ t, t.id ≠ none → Settles i faultless (fun db => KnownAnswer (some t) db ∧ P db) 0 (f t)) :
    Settles i faultless P 0 (loadTask uid >>= f) := by
  rw [loadTask, Prog.bind_assoc]
  refine findByUid_bind hst uid (fun _ _ _ => settledBy_zero) fun found hid => ?_
  refine Settles.lift_bind fun t ht => ?_
  cases found with
  | none => cases ht
  | some t' =>
    cases ht
    exact hf t (hid t rfl)

/-- What an update answers, and what is owed then. -/
def UpdateOwes (i : Int) (faultless : Prop) (base task : Task) :
    AppResult Task → Multiset StatusChange → Prop
  | .ok saved, d => saved = task ∧ d = ↑(owedFor i base task)
  | .error _, d => d = 0 ∨ d = ↑(owedFor i base task) ∧ ¬ faultless

theorem UpdateOwes.settledBy {base task : Task} {err : AppError} {d : Multiset StatusChange}
    (h : UpdateOwes i faultless base task (.error err) d) : SettledBy faultless d := by
  rcases h with rfl | ⟨rfl, hfault⟩
  · exact settledBy_zero
  · exact ⟨owedFor_length i base task, fun h => absurd h hfault⟩

/-- An update that keeps the status owes nothing, whatever it answers. -/
theorem UpdateOwes.neutral {base task : Task} (hsame : task.status = base.status) {r : AppResult Task}
    {d : Multiset StatusChange} (h : UpdateOwes i faultless base task r d) : d = 0 := by
  have hnone := owedFor_same (i := i) hsame
  cases r with
  | ok saved =>
    rw [h.2, hnone]
    rfl
  | error err =>
    rcases h with rfl | ⟨rfl, -⟩
    · rfl
    · rw [hnone]
      rfl

/-- **The update of a known task** owes the entry of what it changes. -/
theorem update_owes (hst : Stable Follows P) {base task : Task} (hk : ∀ db, P db → Known base db)
    (hs : task.SameDraft base) (hv : task = base ∨ task.version = base.version + 1) :
    Owes (trail i) faultless 1 P 0 (TaskRepository.update task) fun r d db =>
      UpdateOwes i faultless base task r d ∧ P db := by
  refine Owes.perform (fun r d => (Stable.const _ _).and (stable_trail hst)) fun db hp fault hnone => ?_
  have hidle : ∀ err, (trail i).rely db db ∧ ∃ d, (trail i).Balanced 0 d db db ∧ Multiset.card d ≤ 1 ∧
      UpdateOwes i faultless base task (.error err) d ∧ P db := fun _ =>
    ⟨(quiet_refl db).rely, 0, (quiet_refl db).balanced 0, by simp, .inl rfl, hp⟩
  rcases updateTask_known (hk db hp) hs hv with h | ⟨hv, ⟨u, hb⟩, h, hu⟩
  · cases fault with
    | none =>
      rw [Fault.apply_none, h]
      exact hidle _
    | before err => exact hidle err
    | after err =>
      rw [Fault.apply_after, h]
      exact hidle err
  · have hrely : (trail i).rely db (updated task db) := ⟨follows_updated hv hb hu, updated_stays task db⟩
    have howed : Multiset.card (↑(owedFor i base task) : Multiset StatusChange) ≤ 1 := owedFor_length i base task
    have hbalanced : (trail i).Balanced 0 ↑(owedFor i base task) db (updated task db) := by
      change (↑((updated task db).recordedChanges i) : Multiset StatusChange) + ↑(owedFor i base task) =
        ↑(db.recordedChanges i) + 0 + ↑(statusChange i db (updated task db))
      rw [statusChange_updated hb hv, add_zero]
      rfl
    have hp' := stable_trail hst _ _ hrely hp
    cases fault with
    | none =>
      rw [Fault.apply_none, h]
      exact ⟨hrely, _, hbalanced, howed, ⟨rfl, rfl⟩, hp'⟩
    | before err => exact hidle err
    | after err =>
      rw [Fault.apply_after, h]
      exact ⟨hrely, _, hbalanced, howed, .inr ⟨rfl, fun hf => nomatch hnone hf⟩, hp'⟩

theorem update_bind (hst : Stable Follows P) {base task : Task} (hk : ∀ db, P db → Known base db)
    (hs : task.SameDraft base) (hv : task = base ∨ task.version = base.version + 1) {f : Task → Proc β}
    (hf : Settles i faultless P ↑(owedFor i base task) (f task)) :
    Settles i faultless P 0 (TaskRepository.update task >>= f) := by
  refine Owes.bind (update_owes hst hk hs hv) (fun saved d => ?_) fun err d db h => h.1.settledBy
  refine Owes.of_and_const fun hc => ?_
  obtain ⟨rfl, rfl⟩ := hc
  exact hf

/-! ## Statements beside the trail -/

namespace LeavesTrail

theorem reads {p : Proc α} (h : p.Within Eq) : LeavesTrail i p := h.mono fun db _ he => he ▸ quiet_refl db

theorem writes {site : Site} {body : Db → α × Db} (htasks : ∀ db, (body db).2.tasks = db.tasks)
    (hhistory : ∀ db, (body db).2.history = db.history) : LeavesTrail i (TaskBot.write site body) :=
  write_within fun db => quiet_of_same (htasks db) (hhistory db)

theorem setById (id : Int) (f : Notification → Notification) (hf : KeepsKeys f) :
    LeavesTrail i (NotificationRepository.setById id f hf) := writes (fun _ => rfl) fun _ => rfl

theorem enqueue (slot : Nat) (n : Notification) : LeavesTrail i (NotificationRepository.enqueue slot n) :=
  .bind (writes (fun _ => rfl) fun _ => rfl) fun _ =>
    .bind (reads (select_reads _ _)) fun _ => .bind (.lift _) fun _ => .pure _

theorem append {entry : AuditLogEntry} (h : entry.change i = []) :
    LeavesTrail i (AuditLogRepository.append entry) := write_within (quiet_append h)

theorem create (comment : TaskComment) : LeavesTrail i (CommentRepository.create comment) :=
  writes (fun _ => rfl) fun _ => rfl

theorem upsertFromMessage (user : User) : LeavesTrail i (UserRepository.upsertFromMessage user) := by
  refine .perform fun db => quiet_of_same (UserRepository.upsertUser_tasks user db) ?_
  unfold UserRepository.upsertUser
  split <;> rfl

theorem createIfAbsent (task : Task) : LeavesTrail i (TaskRepository.createIfAbsent task) := by
  refine .bind (write_within (quiet_inserted task)) fun isNew => ?_
  exact .bind (reads (select_reads _ _)) fun found => .bind (.lift _) fun _ => .pure _

theorem participants (clock : Nat → Instant) (actorId : Option Int) (task : Task) (nextStatus : TaskStatus) :
    LeavesTrail i (UpdateTaskStatus.enqueueParticipantNotifications clock actorId task nextStatus) := by
  have hone : ∀ slot now recipient, LeavesTrail i
      (UpdateTaskStatus.notifyParticipant slot actorId task nextStatus now recipient) := by
    intro slot now recipient
    unfold UpdateTaskStatus.notifyParticipant
    split
    · exact .pure _
    · split
      · exact .pure _
      · exact .bind (enqueue _ _) fun _ => .pure _
  exact .bind (hone _ _ _) fun _ => hone _ _ _

theorem creator (task : Task) (reason : String) (actorId : Int) (now : Instant) :
    LeavesTrail i (ReportTaskBlocker.notifyCreator task reason actorId now) := by
  unfold ReportTaskBlocker.notifyCreator
  split
  · exact .pure _
  · exact .bind (enqueue _ _) fun _ => .pure _

theorem newAssignee (task : Task) (now : Instant) : LeavesTrail i (ReassignTask.notifyNewAssignee task now) := by
  unfold ReassignTask.notifyNewAssignee
  split
  · exact .pure _
  · exact .bind (enqueue _ _) fun _ => .pure _

/-- The entry of a creation tells of no change: there was no status before. -/
theorem announce (clock : Nat → Instant) (user : User) (assignee : ResolvedAssignee) (task : Task) :
    LeavesTrail i (CreateTaskFromMessage.announce clock user assignee task) := by
  have hentry : ∀ taskId creatorId assigneeId now,
      (CreateTaskFromMessage.creationEntry task taskId creatorId assigneeId now).change i = [] := by
    intro taskId creatorId assigneeId now
    unfold AuditLogEntry.change CreateTaskFromMessage.creationEntry
    exact ite_self _
  refine .bind (.bind (.lift _) fun _ => .bind (append (hentry _ _ _ _)) fun _ => .pure _) fun _ => ?_
  refine .bind ?_ fun _ => .pure _
  unfold CreateTaskFromMessage.enqueueAssigneeNotification
  split
  · exact .pure _
  · split
    · exact .pure _
    · split
      · exact .pure _
      · exact .bind (enqueue _ _) fun _ => .pure _

theorem createTask (services : CreationServices) (clock : Nat → Instant) (uid : Uuid) (message : IncomingMessage)
    (decision : TaskAssigneeDecision) :
    LeavesTrail i (CreateTaskFromMessage.executeWithAssigneeDecision services clock uid message decision) := by
  refine .bind (.bind (.lift _) fun _ => .bind (.lift _) fun text => ?_) fun prepared => ?_
  · refine .bind (upsertFromMessage _) fun user => .bind (.lift _) fun parsed => ?_
    refine .bind (reads (CreateTaskFromMessage.resolveAssignee_reads _ _ _)) fun resolution => ?_
    cases resolution with
    | clarificationRequired request => exact .pure _
    | resolved assignee => exact .bind (.lift _) fun _ => .bind (.lift _) fun _ => .pure _
  · cases prepared with
    | clarification request => exact .pure _
    | ready user assignee task =>
      refine .bind (createIfAbsent task) fun persisted => ?_
      cases persisted with
      | existing existing => exact .pure _
      | created stored => exact announce clock user assignee stored

theorem comment (clock : Nat → Instant) (actor : User) (uid : Uuid) (body : String) :
    LeavesTrail i (AddTaskComment.execute clock actor uid body) := by
  have hentry : ∀ taskId actorId body now, (AddTaskComment.commentEntry taskId actorId body now).change i = [] := by
    intro taskId actorId body now
    unfold AuditLogEntry.change AddTaskComment.commentEntry
    exact ite_self _
  have hone : ∀ slot actorId task body commentId now recipient, LeavesTrail i
      (AddTaskComment.notifyRecipient slot actorId task body commentId now recipient) := by
    intro slot actorId task body commentId now recipient
    unfold AddTaskComment.notifyRecipient
    split
    · exact .pure _
    · split
      · exact .pure _
      · exact .bind (enqueue _ _) fun _ => .pure _
  refine .bind (.lift _) fun actorId => .bind ?_ fun task => ?_
  · exact .bind (reads (select_reads _ _)) fun _ => .lift _
  · refine .bind (.lift _) fun _ => .bind (.lift _) fun taskId => .bind (.lift _) fun comment => ?_
    refine .bind (create comment) fun stored => ?_
    refine .bind (.bind (append (hentry _ _ _ _)) fun _ => .pure _) fun _ => ?_
    exact .bind (.bind (hone _ _ _ _ _ _ _) fun _ => hone _ _ _ _ _ _ _) fun _ => .pure _

theorem slaTick (flagEnabled : Bool) (now : Instant) (today : NaiveDate) :
    LeavesTrail i (UpdateSlaStates.execute flagEnabled now today) := by
  unfold UpdateSlaStates.execute
  split
  · exact .pure _
  · refine .bind (reads (select_reads _ _)) fun rows => .forEach fun row _ => ?_
    unfold UpdateSlaStates.processTask
    split
    · exact .pure _
    · refine .bind (write_within (quiet_sla _ _ _ _)) fun _ => ?_
      split
      · exact .pure _
      · refine .bind (writes (fun _ => rfl) fun _ => rfl) fun isNew => ?_
        split
        · exact .pure _
        · unfold UpdateSlaStates.notifyAssignee
          split
          · exact .pure _
          · split
            · exact .pure _
            · exact .bind (enqueue _ _).attempt fun _ => .pure _

theorem recurrenceTick (lib : RecurrenceLibrary) (flagEnabled : Bool) (now : Instant) (uid : Nat → Uuid) :
    LeavesTrail i (ProcessRecurrenceRules.execute lib flagEnabled now uid) := by
  have hadvance : ∀ rule, LeavesTrail i (ProcessRecurrenceRules.advance lib rule now) := fun rule =>
    .bind (Prog.Within.attempt (writes (fun _ => rfl) fun _ => rfl)) fun _ => .pure _
  unfold ProcessRecurrenceRules.execute
  split
  · exact .pure _
  · refine .bind (reads (select_reads _ _)) fun rules => .forEach fun rule _ => ?_
    unfold ProcessRecurrenceRules.processRule
    split
    · exact hadvance _
    · refine .bind (Prog.Within.attempt (reads (select_reads _ _))) fun found => ?_
      split
      · exact .pure _
      · exact hadvance _
      · split
        · exact hadvance _
        · exact .bind (createIfAbsent _).attempt fun _ => hadvance _

theorem remindDeadlines (today : NaiveDate) (clock : Nat → Instant) :
    LeavesTrail i (EnqueueTaskReminders.enqueueUpcomingDeadlines today clock) := by
  refine .bind (reads (select_reads _ _)) fun tasks => .forEach fun task _ => ?_
  unfold EnqueueTaskReminders.remindAssignee
  split
  · exact .pure _
  · exact .bind (enqueue _ _) fun _ => .pure _

theorem summarize (today : NaiveDate) (clock : Nat → Instant) :
    LeavesTrail i (EnqueueDailySummaries.execute today clock) := by
  refine .bind (reads (select_reads _ _)) fun users => ?_
  refine .bind (reads (select_reads _ _)) fun tasks => .forEach fun user _ => ?_
  unfold EnqueueDailySummaries.enqueueSummary
  split
  · exact .pure _
  · split
    · exact .pure _
    · exact .bind (enqueue _ _) fun _ => .pure _

/-- The entry of a late link tells of no change. -/
theorem recovered (task : Task) (userId employeeId : Int) (now : Instant) :
    LeavesTrail i (RegisterUser.logRecoveredAssignment task userId employeeId now) := by
  have hentry : ∀ taskId, (RegisterUser.recoveredEntry task taskId userId employeeId now).change i = [] := by
    intro taskId
    unfold AuditLogEntry.change RegisterUser.recoveredEntry
    simp only [changed_self, ite_self]
  exact .bind (.lift _) fun _ => .bind (append (hentry _)) fun _ => .pure _

theorem notice (task : Task) (userId : Int) (now : Instant) :
    LeavesTrail i (RegisterUser.ensureAssignmentNotification task userId now) := by
  refine .bind (.lift _) fun taskId => .bind (reads (select_reads _ _)) fun existing => ?_
  split
  · split
    · exact .pure _
    · split
      · exact setById _ _ _
      · exact .pure _
  · exact .bind (enqueue _ _) fun _ => .pure _

end LeavesTrail

/-! ## Every program settles what it owes -/

/-- An entry that names the task, its status before and its status after settles the update. -/
theorem change_eq_owedFor {entry : AuditLogEntry} {base task : Task} (hid : base.id = some entry.taskId)
    (hold : entry.oldStatus = some base.status.toText) (hnew : entry.newStatus = some task.status.toText) :
    entry.change i = owedFor i base task := by
  unfold AuditLogEntry.change owedFor
  rw [hid, hold, hnew]
  simp only [Option.some_inj]

section

open Gated

variable (hst : Stable Follows P)
include hst

theorem updateStatus_settles (clock : Nat → Instant) (actor : User) (uid : Uuid) (requested : TaskStatus) :
    Settles i faultless P 0 (UpdateTaskStatus.execute clock actor uid requested) := by
  refine loadTask_bind hst uid fun task hid => Settles.lift_bind fun next _ => Settles.lift_bind fun _ _ => ?_
  refine Settles.lift_bind fun updatedTask hup => ?_
  obtain ⟨-, rfl⟩ := Task.transitionTo_ok hup
  obtain ⟨k, hk⟩ := Option.ne_none_iff_exists'.mp hid
  refine update_bind (found_stable hst _) known_of_found (task.advanced_sameDraft next _) (.inr rfl) ?_
  unfold UpdateTaskStatus.logStatusChange
  simp only [Prog.bind_assoc]
  refine Settles.lift_bind_ok (a := k) (by rw [(task.advanced_sameDraft next _).id, hk]; rfl) ?_
  refine Settles.append_bind (found_stable hst _) ?_ fun _ => ?_
  · have hentry : (UpdateTaskStatus.statusEntry actor.id k task.status next (clock 1)).change i =
        owedFor i task (task.advanced next (clock 0)) := change_eq_owedFor hk rfl rfl
    rw [hentry]
  · refine .bind_neutral (.pure _) fun _ => .bind_neutral ?_ fun _ => .pure _
    exact .of_leavesTrail (found_stable hst _) (.participants _ _ _ _)

theorem reportBlocker_settles (clock : Nat → Instant) (actor : User) (uid : Uuid) (reason : String) :
    Settles i faultless P 0 (ReportTaskBlocker.execute clock actor uid reason) := by
  refine Settles.lift_bind fun actorId _ => loadTask_bind hst uid fun task hid => Settles.lift_bind fun _ _ => ?_
  refine Settles.lift_bind fun updatedTask hup => ?_
  obtain ⟨k, hk⟩ := Option.ne_none_iff_exists'.mp hid
  obtain ⟨-, htask⟩ := Task.applyBlocker_ok hup
  have hd : updatedTask.SameDraft task := by
    rw [htask]
    constructor <;> rfl
  have hv : updatedTask.version = task.version + 1 := by
    rw [htask]
    rfl
  have hs : updatedTask.status = .blocked := by
    rw [htask]
    rfl
  refine update_bind (found_stable hst _) known_of_found hd (.inr hv) ?_
  refine Settles.lift_bind_ok (a := k) (by rw [hd.id, hk]; rfl) ?_
  -- the reason fits a comment, so that nothing fails before the entry
  have hcomment : ∃ c, TaskComment.new k actorId .blocker reason (clock 1) = .ok c :=
    ReportTaskBlocker.comment_of_applyBlocker hup
  obtain ⟨comment, hnew⟩ := hcomment
  refine Settles.lift_bind_ok hnew ?_
  have hcard : Multiset.card (↑(owedFor i task updatedTask) : Multiset StatusChange) ≤ 1 :=
    owedFor_length i task updatedTask
  refine Settles.write_bind (found_stable hst _) hcard (fun db => quiet_of_same rfl rfl) fun stored => ?_
  refine Settles.append_bind (found_stable hst _) ?_ fun _ => ?_
  · have hentry : (ReportTaskBlocker.blockerEntry k actorId task.status stored.body (clock 2)).change i =
        owedFor i task updatedTask := change_eq_owedFor hk rfl (by rw [hs]; rfl)
    rw [hentry]
  · exact .bind_neutral (.of_leavesTrail (found_stable hst _) (.creator _ _ _ _)) fun _ => .pure _

theorem reassign_settles (clock : Nat → Instant) (ranking : NameRanking) (actor : User) (uid : Uuid)
    (query : String) (decision : ReassignAssigneeDecision) :
    Settles i faultless P 0 (ReassignTask.executeWithDecision clock ranking actor uid query decision) := by
  refine Settles.lift_bind fun actorId _ => loadTask_bind hst uid fun task hid => Settles.lift_bind fun _ _ => ?_
  refine Settles.bind_neutral (.of_leavesTrail (found_stable hst _)
    (.reads (ReassignTask.resolve_reads _ _ _))) fun resolution => ?_
  cases resolution with
  | clarificationRequired request => exact .pure _
  | resolved resolved =>
    unfold ReassignTask.store
    simp only [Prog.bind_assoc]
    refine Settles.lift_bind fun reassignedTask hup => ?_
    obtain ⟨-, -, hv, -, hd⟩ := Task.reassign_ok hup
    obtain ⟨k, hk⟩ := Option.ne_none_iff_exists'.mp hid
    refine update_bind (found_stable hst _) known_of_found hd (.inr hv) ?_
    refine Settles.lift_bind_ok (a := k) (by rw [hd.id, hk]; rfl) ?_
    refine Settles.append_bind (found_stable hst _) ?_ fun _ => ?_
    · have hentry : (ReassignTask.reassignEntry actorId k task reassignedTask query (clock 1)).change i =
          owedFor i task reassignedTask := change_eq_owedFor hk rfl rfl
      rw [hentry]
    · refine .bind_neutral (.of_leavesTrail (found_stable hst _) (.newAssignee _ _)) fun _ => ?_
      exact .bind_neutral (.pure _) fun _ => .pure _

/-- A delivered assignment marks its task as sent; a conflict is no error, and no change. -/
theorem storeSent_settles {task : Task} (hid : task.id ≠ none) (hs : task.status = .created)
    (hk : ∀ db, P db → Known task db) (now : Instant) :
    Settles i faultless P 0 (ProcessNotifications.storeSent task now) := by
  refine Settles.lift_bind fun updatedTask hup => ?_
  obtain ⟨-, rfl⟩ := Task.transitionTo_ok hup
  obtain ⟨k, hk'⟩ := Option.ne_none_iff_exists'.mp hid
  have hupdate : Owes (trail i) faultless 1 P 0 (TaskRepository.update (task.advanced .sent now)) fun r d db =>
      UpdateOwes i faultless task (task.advanced .sent now) r d ∧ P db :=
    update_owes hst hk (task.advanced_sameDraft .sent now) (.inr rfl)
  let Q : AppResult (AppResult Task) → Multiset StatusChange → Db → Prop := fun r d db =>
    (∃ answer, r = .ok answer ∧ UpdateOwes i faultless task (task.advanced .sent now) answer d) ∧ P db
  refine Owes.bind (Q := Q) (hupdate.attempt fun r d db h => ⟨⟨r, rfl, h.1⟩, h.2⟩) (fun answer d => ?_) ?_
  · refine Owes.of_and_const ?_
    rintro ⟨_, ⟨⟩, howes⟩
    cases answer with
    | ok saved =>
      obtain ⟨rfl, rfl⟩ := howes
      have hsaved : (task.advanced .sent now).id = some k := by rw [(task.advanced_sameDraft .sent now).id, hk']
      simp only [ProcessNotifications.logSent, hsaved]
      refine Settles.append_bind hst ?_ fun _ => .pure _
      have hentry : (ProcessNotifications.sentEntry k now).change i = owedFor i task (task.advanced .sent now) :=
        change_eq_owedFor hk' (by rw [hs]; rfl) rfl
      rw [hentry]
    | error err =>
      simp only
      split
      · exact Owes.pure fun _ _ => howes.settledBy
      · exact Owes.fail fun _ _ => howes.settledBy
  · rintro err d db ⟨⟨_, ⟨⟩, -⟩, -⟩

theorem relatedTask_settles (taskId : Option Int) {f : Option Task → Proc β}
    (hf : ∀ found, (∀ t, found = some t → t.id ≠ none) →
      Settles i faultless (fun db => KnownAnswer found db ∧ P db) 0 (f found)) :
    Settles i faultless P 0 (ProcessNotifications.loadRelatedTask taskId >>= f) := by
  cases taskId with
  | none =>
    have hnone := hf none fun t ht => by cases ht
    have hknown : ∀ db, P db → KnownAnswer none db ∧ P db := fun db h => ⟨(fun t ht => by cases ht), h⟩
    exact Owes.weaken hnone hknown fun _ _ _ h => h
  | some id =>
    refine select_bind hst knownAnswer_stable (fun db found h => ?_) (fun _ _ _ => settledBy_zero) hf
    cases h
    refine ⟨fun t ht => ?_, fun t ht => ?_⟩
    · obtain ⟨r, -, rfl⟩ := Option.map_eq_some_iff.mp ht
      exact Option.some_ne_none r.id
    · obtain ⟨r, hr, rfl⟩ := Option.map_eq_some_iff.mp ht
      exact known_of_row (Table.find?_some hr).1

theorem deliver_settles (clock : Nat → Instant) (send : AppResult Int) (notification : Notification) :
    Settles i faultless P 0 (ProcessNotifications.deliverSingle clock send notification) := by
  have hset : ∀ {P : Db → Prop}, Stable Follows P → ∀ id f hf,
      Settles i faultless P 0 (NotificationRepository.setById id f hf) :=
    fun hst id f hf => (Neutral.of_leavesTrail hst (.setById id f hf)).settles
  unfold ProcessNotifications.deliverSingle
  split
  · exact .pure _
  · refine .bind_neutral (.of_leavesTrail hst (.reads (select_reads _ _))) fun user => ?_
    split
    · exact hset hst _ _ _
    · split
      · exact hset hst _ _ _
      · refine relatedTask_settles hst _ fun found hid => ?_
        have hst' := found_stable hst found
        split
        · refine .bind_neutral (.of_leavesTrail hst' (.setById _ _ _)) fun _ => ?_
          unfold ProcessNotifications.markRelatedTaskAsSent
          split
          · exact .pure _
          · next task =>
            split
            · next hsent => exact storeSent_settles hst' (hid task rfl) hsent.2 known_of_found _
            · exact .pure _
        · split
          · exact hset hst' _ _ _
          · unfold ProcessNotifications.handleTransientFailure
            split <;> exact hset hst' _ _ _

/-! ### A registration keeps every status -/

theorem updateUnlessConflict_neutral {base task : Task} (hk : ∀ db, P db → Known base db)
    (hs : task.SameDraft base) (hv : task = base ∨ task.version = base.version + 1)
    (hsame : task.status = base.status) :
    Neutral i faultless P (RegisterUser.updateUnlessConflict task) := by
  have hupdate : Neutral i faultless P (TaskRepository.update task) :=
    (update_owes hst hk hs hv).weaken (fun _ h => h) fun r d db h => ⟨h.2, h.1.neutral hsame⟩
  refine Neutral.bind (Owes.attempt hupdate fun _ _ _ h => h) fun stored => ?_
  split
  · exact .pure _
  · split
    · exact .pure _
    · exact .fail _

theorem linkTask_neutral (clock : Nat → Instant) {task : Task} (hk : ∀ db, P db → Known task db)
    (userId employeeId : Int) :
    Neutral i faultless P (RegisterUser.linkTaskToRegisteredUser clock task userId employeeId) := by
  refine Neutral.lift_bind fun updatedTask hup => ?_
  obtain ⟨hs, hd, -, hv⟩ := Task.linkRegisteredAssignee_ok hup
  refine .bind (updateUnlessConflict_neutral hst hk hd hv hs) fun stored => ?_
  split
  · exact .pure _
  · refine findByUid_bind hst _ (fun _ _ h => ⟨h, rfl⟩) fun found _ => ?_
    have hst' := found_stable hst found
    refine Owes.weaken (?_ : Neutral i faultless (fun db => KnownAnswer found db ∧ P db) _) (fun _ h => h)
      fun _ _ _ h => ⟨h.1.2, h.2⟩
    split
    · exact .pure _
    · split
      · exact .pure _
      · refine Neutral.lift_bind fun retriedTask hre => ?_
        obtain ⟨hs, hd, -, hv⟩ := Task.linkRegisteredAssignee_ok hre
        exact updateUnlessConflict_neutral hst' known_of_found hd hv hs

theorem recoverTaskBatch_neutral (clock : Nat → Instant) (userId employeeId : Int) (tasks : List Task)
    (hk : ∀ t ∈ tasks, ∀ db, P db → Known t db) (start : Nat) :
    Neutral i faultless P (RegisterUser.recoverTaskBatch clock userId employeeId start tasks) := by
  induction tasks generalizing start with
  | nil => exact .pure _
  | cons task tasks ih =>
    have hrest := ih fun t ht => hk t (List.mem_cons_of_mem task ht)
    refine .bind (linkTask_neutral hst _ (hk task List.mem_cons_self) userId employeeId) fun saved => ?_
    split
    · exact hrest _
    · refine .bind (.of_leavesTrail hst (.recovered _ _ _ _)) fun _ => ?_
      refine .bind (.of_leavesTrail hst (.notice _ _ _)) fun _ => ?_
      exact .bind (hrest _) fun _ => .pure _

omit hst in
theorem recoverBatches_neutral (clock : Nat → Instant) (userId employeeId : Int) (n : Nat) :
    ∀ {P : Db → Prop}, Stable Follows P →
      Neutral i faultless P (RegisterUser.recoverBatches clock userId employeeId n) := by
  induction n with
  | zero => exact fun _ => .pure _
  | succ n ih =>
    intro P hst
    refine select_bind (C := fun _ => True) hst knownTasks_stable (fun db tasks h => ⟨trivial, ?_⟩)
      (fun _ _ h => ⟨h, rfl⟩) fun tasks _ => ?_
    · cases h
      intro t ht
      have hmem := List.mem_mergeSort.mp (List.mem_of_mem_take ht)
      obtain ⟨r, hr, rfl⟩ := List.mem_map.mp hmem
      exact known_of_row (List.mem_filter.mp hr).1
    · have hst' := (knownTasks_stable tasks).and hst
      have hrest : Neutral i faultless (fun db => KnownTasks tasks db ∧ P db)
          (if tasks.isEmpty then pure ()
          else do
            let recoveredCount ← RegisterUser.recoverTaskBatch clock userId employeeId
              (RegisterUser.registrationRecoveryTaskBatchSize *
                (RegisterUser.maxRegistrationRecoveryBatches - (n + 1))) tasks
            if recoveredCount = 0 ∨ tasks.length < RegisterUser.registrationRecoveryTaskBatchSize then pure ()
            else RegisterUser.recoverBatches clock userId employeeId n) := by
        split
        · exact .pure _
        · refine .bind (recoverTaskBatch_neutral hst' clock userId employeeId tasks ?_ _) fun count => ?_
          · exact fun t ht db h => h.1 t ht
          · split
            · exact .pure _
            · exact ih hst'
      exact hrest.weaken (fun _ h => h) fun _ _ _ h => ⟨h.1.2, h.2⟩

theorem register_settles (toLowercase : String → String) (clock : Nat → Instant) (message : IncomingMessage)
    (decision : RegistrationLinkDecision) :
    Settles i faultless P 0 (RegisterUser.executeWithLinkDecision toLowercase clock message decision) := by
  refine .bind_neutral (.of_leavesTrail hst (.reads (RegisterUser.resolveEmployeeForDecision_reads _ _ _)))
    fun employee => ?_
  refine .bind_neutral (.of_leavesTrail hst (.upsertFromMessage _)) fun user => ?_
  refine .bind_neutral ?_ fun _ => .pure _
  unfold RegisterUser.recoverPendingAssignments
  split
  · exact .pure _
  · exact Neutral.lift_bind fun userId _ => recoverBatches_neutral clock userId _ _ hst

end

/-! ## Everything that runs on the database -/

/-- A use case somebody called, or a round of a worker. -/
inductive TrailCall where
  | useCase (call : UseCaseCall)
  | comment (clock : Nat → Instant) (actor : User) (taskUid : Uuid) (body : String)
  | slaTick (flagEnabled : Bool) (now : Instant) (today : NaiveDate)
  | recurrenceTick (lib : RecurrenceLibrary) (flagEnabled : Bool) (now : Instant) (uid : Nat → Uuid)
  | remindDeadlines (today : NaiveDate) (clock : Nat → Instant)
  | summarize (today : NaiveDate) (clock : Nat → Instant)

def TrailCall.program : TrailCall → Proc Unit
  | useCase call => call.program
  | comment clock actor taskUid body => discard (AddTaskComment.execute clock actor taskUid body)
  | slaTick flagEnabled now today => UpdateSlaStates.execute flagEnabled now today
  | recurrenceTick lib flagEnabled now uid => ProcessRecurrenceRules.execute lib flagEnabled now uid
  | remindDeadlines today clock => EnqueueTaskReminders.enqueueUpcomingDeadlines today clock
  | summarize today clock => EnqueueDailySummaries.execute today clock

theorem Settles.discard {p : Proc α} (hp : Settles i faultless P 0 p) :
    Settles i faultless P 0 (TaskBot.discard p) :=
  Owes.bind hp (fun _ _ => Owes.pure fun _ h => h) fun _ _ _ h => h

/-- **Every program settles what it owes**, whatever the others do between its statements. -/
theorem call_settles (i : Int) (faultless : Prop) (call : TrailCall) :
    Settles i faultless (fun _ => True) 0 call.program := by
  have hst : Stable Follows fun _ => True := .const _ _
  have hbeside : ∀ {α : Type} {p : Proc α}, LeavesTrail i p → Settles i faultless (fun _ => True) 0 p :=
    fun hp => (Neutral.of_leavesTrail hst hp).settles
  cases call with
  | useCase call =>
    cases call with
    | createTask services clock uid message decision =>
      exact (hbeside (.createTask services clock uid message decision)).discard
    | updateStatus clock actor uid requested => exact (updateStatus_settles hst clock actor uid requested).discard
    | reportBlocker clock actor uid reason => exact (reportBlocker_settles hst clock actor uid reason).discard
    | reassign clock ranking actor uid query decision =>
      exact (reassign_settles hst clock ranking actor uid query decision).discard
    | register toLowercase clock message decision =>
      exact (register_settles hst toLowercase clock message decision).discard
    | deliver clock send notification => exact deliver_settles hst clock send notification
  | comment clock actor uid body => exact (hbeside (.comment clock actor uid body)).discard
  | slaTick flagEnabled now today => exact hbeside (.slaTick flagEnabled now today)
  | recurrenceTick lib flagEnabled now uid => exact hbeside (.recurrenceTick lib flagEnabled now uid)
  | remindDeadlines today clock => exact hbeside (.remindDeadlines today clock)
  | summarize today clock => exact hbeside (.summarize today clock)

/-! ## The trail of a run -/

def startTrail (db : Db) (calls : List TrailCall) : Pool Site Db AppError TrailCall Unit :=
  ⟨db, calls.map fun call => (call, call.program)⟩

/-- The thread has made all its calls, and met no fault. -/
def Undisturbed (sched : List (Nat × Fault AppError)) (pool : Pool Site Db AppError TrailCall Unit) (k : Nat) :
    Prop :=
  (∃ call r, pool.threads[k]? = some (call, .ret r)) ∧ ∀ fault, (k, fault) ∈ sched → fault = .none

/-- The changes of the status in a run, in order. -/
def statusChanges (i : Int) (acts : List (Act Db TrailCall)) : List StatusChange :=
  acts.flatMap fun a => statusChange i a.before a.after

/-- Each change starts where the one before it ended. -/
def Leads : String → List StatusChange → String → Prop
  | old, [], new => old = new
  | old, c :: changes, new => c.1 = old ∧ Leads c.2 changes new

theorem leads_changed {old mid new : String} {changes : List StatusChange} (h : Leads mid changes new) :
    Leads old (changed old mid ++ changes) new := by
  unfold changed
  split
  · next heq =>
    rw [heq]
    exact h
  · exact ⟨rfl, h⟩

theorem coe_statusChanges (i : Int) (acts : List (Act Db TrailCall)) :
    (↑(statusChanges i acts) : Multiset StatusChange) =
      (acts.map fun a => (trail i).effects a.before a.after).sum := by
  induction acts with
  | nil => rfl
  | cons a acts ih =>
    rw [List.map_cons, List.sum_cons, ← ih]
    rfl

/-- The changes of a run lead from the status at its start to the one at its end. -/
theorem leads_run {i : Int} (sched : List (Nat × Fault AppError)) :
    ∀ {pool : Pool Site Db AppError TrailCall Unit} {old : String}, pool.store.statusText i = some old →
      (∀ a ∈ pool.acts sched, a.before.statusText i ≠ none → a.after.statusText i ≠ none) →
      ∃ new, (pool.exec sched).store.statusText i = some new ∧ Leads old (statusChanges i (pool.acts sched)) new := by
  induction sched with
  | nil => exact fun h _ => ⟨_, h, rfl⟩
  | cons e sched ih =>
    intro pool old hold hstays
    have hrest := fun a ha => hstays a (List.mem_append_right (pool.act e.1 e.2) ha)
    rcases Pool.act_cases pool e.1 e.2 with ⟨who, hact⟩ | ⟨hact, hidle⟩
    · have hafter : (pool.step e.1 e.2).store.statusText i ≠ none := by
        have hmem : ⟨who, pool.store, (pool.step e.1 e.2).store⟩ ∈ pool.acts (e :: sched) :=
          List.mem_append_left _ (by rw [hact]; exact List.mem_singleton.mpr rfl)
        exact hstays _ hmem (by rw [hold]; exact Option.some_ne_none old)
      obtain ⟨mid, hmid⟩ := Option.ne_none_iff_exists'.mp hafter
      obtain ⟨new, hnew, hleads⟩ := ih hmid hrest
      refine ⟨new, hnew, ?_⟩
      have hsplit : statusChanges i (pool.acts (e :: sched)) =
          changed old mid ++ statusChanges i ((pool.step e.1 e.2).acts sched) := by
        have hacts : pool.acts (e :: sched) = pool.act e.1 e.2 ++ (pool.step e.1 e.2).acts sched := rfl
        rw [hacts, hact]
        simp only [statusChanges, List.singleton_append, List.flatMap_cons, statusChange, hold, hmid]
      rw [hsplit]
      exact leads_changed hleads
    · have hacts : pool.acts (e :: sched) = (pool.step e.1 e.2).acts sched := by
        change pool.act e.1 e.2 ++ _ = _
        rw [hact, List.nil_append]
      rw [hacts]
      exact ih (by rw [hidle]; exact hold) hrest

theorem startTrail_owing (i : Int) (db : Db) (calls : List TrailCall) (clean : Nat → Prop) :
    Pool.Owing (trail i) clean 1 (fun k => SettledBy (clean k)) (startTrail db calls) fun _ => 0 := by
  intro k call p hk
  obtain ⟨_, -, hcall⟩ := List.mem_map.mp (List.mem_of_getElem? hk)
  cases hcall
  exact ⟨by simp, fun _ => True, .const _ _, trivial, call_settles i (clean k) call⟩

/-- **The audit trail is complete.**  In every interleaving of any programs with any faults, the history holds
exactly the changes of the status that happened, in some order, but for those that are missing: at most one for
each program that met a fault or has calls left to make.  And the changes lead from the status at the start to
the stored one. -/
theorem audit_trail_complete (i : Int) (db : Db) (calls : List TrailCall) (sched : List (Nat × Fault AppError)) :
    let acts := (startTrail db calls).acts sched
    let last := (startTrail db calls).exec sched
    (∃ (missing : Multiset StatusChange) (disturbed : Finset Nat),
      (↑(last.store.recordedChanges i) + missing : Multiset StatusChange) =
        ↑(db.recordedChanges i) + ↑(statusChanges i acts) ∧
      Multiset.card missing ≤ disturbed.card ∧
      ∀ k ∈ disturbed, k < calls.length ∧ ¬ Undisturbed sched last k) ∧
    ∀ old, db.statusText i = some old →
      ∃ new, last.store.statusText i = some new ∧ Leads old (statusChanges i acts) new := by
  intro acts last
  let clean : Nat → Prop := fun k => ∀ fault, (k, fault) ∈ sched → fault = .none
  have howing := startTrail_owing i db calls clean
  have hclean : ∀ e ∈ sched, clean e.1 → e.2 = .none := fun e he h => h e.2 he
  constructor
  · classical
    obtain ⟨debts, hdebts, hsum⟩ := Pool.books_balance sched hclean howing
    let disturbed := (Finset.range calls.length).filter fun k => ¬ Undisturbed sched last k
    refine ⟨Pool.owed debts last, disturbed, ?_, ?_, fun k hk => ?_⟩
    · rw [coe_statusChanges]
      refine hsum.trans ?_
      have hnone : Pool.owed (fun _ => (0 : Multiset StatusChange)) (startTrail db calls) = 0 :=
        Finset.sum_const_zero
      rw [hnone, add_zero]
      rfl
    · have hcard := hdebts.card_le disturbed fun k hk hnot => ?_
      · rw [mul_one] at hcard
        exact hcard
      · have hlen : last.threads.length = calls.length :=
          (Pool.length_exec sched _).trans (List.length_map _)
        have hundisturbed : Undisturbed sched last k := by
          by_contra hno
          exact hnot (Finset.mem_filter.mpr ⟨Finset.mem_range.mpr (hlen ▸ hk), hno⟩)
        exact ⟨hundisturbed.1, fun d hd => hd.2 hundisturbed.2⟩
    · obtain ⟨hlt, hno⟩ := Finset.mem_filter.mp hk
      exact ⟨Finset.mem_range.mp hlt, hno⟩
  · intro old hold
    exact leads_run sched hold fun a ha => (Pool.acts_rely sched hclean howing a ha).stays

end TaskBot
