import TaskBot.Domain.NormalizedText
import TaskBot.Infrastructure.RetriedRequests
import TaskBot.Store.DirectorySync

/-!
# The sheet of employees

The directory is a sheet of six columns, perhaps with a header in its first row.  A row whose first cell is
blank is passed over, and of the other rows every blank cell is an absent value.

* `read_written`: a sheet written with a header is read back row by row;
* `read_headless`: without one, the first person is lost if one of his cells is the name of a column;
* `sheet_synced`: after the sync of a written sheet everybody on it has a row with his data, and whoever is not
  on it, or no longer, is as before.
-/

namespace TaskBot

open Sql Calls Parsing

namespace GoogleSheetsEmployeeDirectory

/-- `trim_start_matches('@')`. -/
def stripAts (value : String) : String := String.ofList (value.toList.dropWhile (· = '@'))

/-- A cell of the row, unless nothing is left of it. -/
def cell (row : List String) (i : Nat) (clean : String → String) : Option String :=
  (row[i]?.map clean).filter fun value => !value.isEmpty

/-- `eq_ignore_ascii_case("false")`. -/
def isFalse (value : String) : Bool := value.toList.map Char.toLower = "false".toList

/-- `is_active` is on unless the cell says otherwise. -/
def readActive (row : List String) : Bool := (row[5]?.map fun value => !isFalse (trim value)).getD true

def readRow (now : Instant) (row : List String) : Option Employee :=
  (cell row 0 trim).map fun fullName =>
    { id := none
      fullName
      telegramUsername := cell row 1 fun value => stripAts (trim value)
      email := cell row 2 trim
      phone := cell row 3 trim
      department := cell row 4 trim
      isActive := readActive row
      syncedAt := some now
      createdAt := now
      updatedAt := now }

def columnNames : List String :=
  ["full_name", "telegram_username", "email", "phone", "department", "is_active"]

section

variable (toLowercase : String → String)

/-- `value.trim().to_lowercase().replace(' ', "_")`. -/
def normalizedCell (value : String) : String :=
  String.ofList ((toLowercase (trim value)).toList.map fun c => if c = ' ' then '_' else c)

def isHeaderRow (row : List String) : Bool := row.any fun value => normalizedCell toLowercase value ∈ columnNames

/-- What `fetch_employees` makes of the rows. -/
def readRows (now : Instant) (rows : List (List String)) : List Employee :=
  rows.zipIdx.filterMap fun (row, index) => if index = 0 ∧ isHeaderRow toLowercase row then none else readRow now row

theorem readRows_cons (now : Instant) (row : List String) (rows : List (List String)) :
    readRows toLowercase now (row :: rows) =
      (if isHeaderRow toLowercase row then [] else (readRow now row).toList) ++ rows.filterMap (readRow now) := by
  have hrest : ∀ (rows : List (List String)) (n : Nat), (rows.zipIdx (n + 1)).filterMap
      (fun p => if p.2 = 0 ∧ isHeaderRow toLowercase p.1 then none else readRow now p.1) =
        rows.filterMap (readRow now) := by
    intro rows
    induction rows with
    | nil => exact fun _ => rfl
    | cons row rows ih =>
      intro n
      have hlater : ¬ (n + 1 = 0 ∧ isHeaderRow toLowercase row = true) := fun h => nomatch h.1
      rw [List.zipIdx_cons, List.filterMap_cons, List.filterMap_cons, ih, if_neg hlater]
  unfold readRows
  rw [List.zipIdx_cons, List.filterMap_cons]
  have htail := hrest rows 0
  rw [Nat.zero_add] at htail ⊢
  rw [htail]
  by_cases hheader : isHeaderRow toLowercase row = true
  · simp [hheader]
  · simp only [hheader]
    cases readRow now row <;> rfl

end

/-! ## Written sheets -/

/-- A value as it stands in a cell. -/
def Clean (value : String) : Prop := value ≠ "" ∧ trim value = value

/-- The data of an employee of the sheet. -/
structure WellFormed (e : Employee) : Prop where
  fullName : Clean e.fullName
  telegramUsername : ∀ username ∈ e.telegramUsername, Clean username ∧ username.toList.head? ≠ some '@'
  email : ∀ email ∈ e.email, Clean email
  phone : ∀ phone ∈ e.phone, Clean phone
  department : ∀ department ∈ e.department, Clean department

/-- The row of an employee. -/
def writeRow (e : Employee) : List String :=
  [e.fullName, (e.telegramUsername.map fun username => "@" ++ username).getD "", e.email.getD "", e.phone.getD "",
    e.department.getD "", if e.isActive then "TRUE" else "FALSE"]

/-- What is read of an employee: his data, as of now. -/
def stamped (now : Instant) (e : Employee) : Employee :=
  { e with id := none, syncedAt := some now, createdAt := now, updatedAt := now }

theorem cell_clean (row : List String) (i : Nat) {value : Option String} (hrow : row[i]? = some (value.getD ""))
    (hclean : ∀ v ∈ value, Clean v) : cell row i trim = value := by
  unfold cell
  rw [hrow]
  cases value with
  | none => rfl
  | some v =>
    obtain ⟨hne, htrim⟩ := hclean v rfl
    rw [Option.getD_some, Option.map_some, htrim]
    exact Option.filter_eq_some_iff.mpr ⟨rfl, by simpa using hne⟩

/-- A handle with its at-sign is read without it. -/
theorem strip_handle {username : String} (hclean : Clean username) (hat : username.toList.head? ≠ some '@') :
    stripAts (trim ("@" ++ username)) = username := by
  obtain ⟨hne, htrim⟩ := hclean
  have hlist : trimChars username.toList = username.toList := by rw [← toList_trim, htrim]
  have htrimmed : Trimmed username.toList := hlist ▸ trimmed_trimChars username.toList
  have hsome : username.toList ≠ [] := fun h => hne (String.toList_eq_nil_iff.mp h)
  have hhandle : ("@" ++ username).toList = '@' :: username.toList := by
    rw [String.toList_append]
    rfl
  have hbetween : Trimmed ('@' :: username.toList) := by
    refine ⟨(by decide : isWhitespace '@' = false), ?_⟩
    obtain ⟨c, l, hl⟩ := List.exists_cons_of_ne_nil hsome
    have hlast := htrimmed.last
    rw [hl] at hlast ⊢
    rwa [List.getLast?_cons_cons]
  have hdrop : username.toList.dropWhile (· = '@') = username.toList := by
    obtain ⟨c, l, hl⟩ := List.exists_cons_of_ne_nil hsome
    rw [hl] at hat ⊢
    exact List.dropWhile_cons_of_neg (by simpa using hat)
  unfold stripAts
  rw [toList_trim, hhandle, trimChars_of_trimmed hbetween, List.dropWhile_cons_of_pos (by decide), hdrop,
    String.ofList_toList]

theorem cell_handle (row : List String) {value : Option String}
    (hrow : row[1]? = some ((value.map fun username => "@" ++ username).getD ""))
    (hvalue : ∀ username ∈ value, Clean username ∧ username.toList.head? ≠ some '@') :
    cell row 1 (fun value => stripAts (trim value)) = value := by
  unfold cell
  rw [hrow]
  cases value with
  | none => rfl
  | some username =>
    obtain ⟨hclean, hat⟩ := hvalue username rfl
    rw [Option.map_some, Option.map_some, Option.getD_some, strip_handle hclean hat]
    exact Option.filter_eq_some_iff.mpr ⟨rfl, by simpa using hclean.1⟩

theorem readActive_writeRow (e : Employee) : readActive (writeRow e) = e.isActive := by
  have hcell : (writeRow e)[5]? = some (if e.isActive then "TRUE" else "FALSE") := rfl
  unfold readActive
  rw [hcell]
  cases e.isActive <;> decide

/-- **A written row is read back.** -/
theorem readRow_writeRow {e : Employee} (h : WellFormed e) (now : Instant) :
    readRow now (writeRow e) = some (stamped now e) := by
  have hname : cell (writeRow e) 0 trim = some e.fullName :=
    cell_clean (writeRow e) 0 rfl fun _ hv => Option.some.inj hv ▸ h.fullName
  have hhandle := cell_handle (writeRow e) rfl h.telegramUsername
  have hemail := cell_clean (writeRow e) 2 rfl h.email
  have hphone := cell_clean (writeRow e) 3 rfl h.phone
  have hdepartment := cell_clean (writeRow e) 4 rfl h.department
  unfold readRow
  rw [hname, hhandle, hemail, hphone, hdepartment, readActive_writeRow]
  rfl

theorem filterMap_writeRow {es : List Employee} (h : ∀ e ∈ es, WellFormed e) (now : Instant) :
    (es.map writeRow).filterMap (readRow now) = es.map (stamped now) := by
  rw [List.filterMap_map]
  exact List.filterMap_eq_map_iff_forall_eq_some.mpr fun e he => readRow_writeRow (h e he) now

/-- **A sheet with a header is read back**, row by row. -/
theorem read_written (toLowercase : String → String) (now : Instant) (header : List String) {es : List Employee}
    (hheader : isHeaderRow toLowercase header = true) (h : ∀ e ∈ es, WellFormed e) :
    readRows toLowercase now (header :: es.map writeRow) = es.map (stamped now) := by
  rw [readRows_cons, if_pos hheader, List.nil_append, filterMap_writeRow h]

/-- **Without a header** the first person is lost if a cell of his row is the name of a column. -/
theorem read_headless (toLowercase : String → String) (now : Instant) {es : List Employee}
    (h : ∀ e ∈ es, WellFormed e) :
    readRows toLowercase now (es.map writeRow) =
      if (es.head?.any fun e => isHeaderRow toLowercase (writeRow e)) then (es.tail).map (stamped now)
      else es.map (stamped now) := by
  cases es with
  | nil => rfl
  | cons e es =>
    have hrest := filterMap_writeRow (fun a ha => h a (List.mem_cons_of_mem e ha)) now
    rw [List.map_cons, readRows_cons, hrest, readRow_writeRow (h e List.mem_cons_self)]
    by_cases hfirst : isHeaderRow toLowercase (writeRow e) = true
    · rw [if_pos hfirst, List.head?_cons, Option.any_some, if_pos hfirst]
      rfl
    · rw [if_neg hfirst, List.head?_cons, Option.any_some, if_neg hfirst]
      rfl

/-! ## The sync -/

end GoogleSheetsEmployeeDirectory

open EmployeeRepository GoogleSheetsEmployeeDirectory

namespace EmployeeRepository

section

variable {e e' : Employee} {batch : List Employee} {rows rows' : Rows}

/-- No row can be of both. -/
def Strangers (e e' : Employee) : Prop := ∀ r, directoryMatch e r = true → directoryMatch e' r = false

theorem Turn.keeps_strangers (h : Turn e' rows rows') (hother : Strangers e e') (hcarried : Carried e rows) :
    Carried e rows' := by
  obtain ⟨found, hfind, hdata⟩ := hcarried
  rcases h.find hfind with hsame | ⟨hmatch, -⟩
  · exact ⟨found, hsame, hdata⟩
  · rw [hother found (List.find?_some hfind)] at hmatch
    cases hmatch

theorem Run.keeps_strangers (h : Run batch rows rows') (hother : ∀ e' ∈ batch, Strangers e e')
    (hcarried : Carried e rows) : Carried e rows' := by
  induction h with
  | nil => exact hcarried
  | cons hturn _ ih =>
    exact ih (fun e' he' => hother e' (List.mem_cons_of_mem _ he'))
      (hturn.keeps_strangers (hother _ List.mem_cons_self) hcarried)

/-- After a batch of strangers everybody on it has a row with his data. -/
theorem Run.all_carried (h : Run batch rows rows') (hstrangers : batch.Pairwise Strangers) :
    ∀ e ∈ batch, Carried e rows' := by
  induction h with
  | nil => exact nofun
  | cons hturn hrest ih =>
    intro e he
    rw [List.pairwise_cons] at hstrangers
    rcases List.mem_cons.mp he with rfl | he
    · exact hrest.keeps_strangers hstrangers.1 hturn.carried
    · exact ih hstrangers.2 e he

/-- A row that no entry is of is left as it is. -/
theorem Run.keeps_row (h : Run batch rows rows') {r : Stored Employee} (hr : r ∈ rows)
    (hother : ∀ e ∈ batch, directoryMatch e r = false) : r ∈ rows' := by
  induction h with
  | nil => exact hr
  | cons hturn _ ih =>
    refine ih ?_ fun e he => hother e (List.mem_cons_of_mem _ he)
    have hfirst := hother _ List.mem_cons_self
    cases hturn with
    | insert rows id hnone => exact List.mem_append_left _ hr
    | update before r' after hbefore hr' =>
      rcases List.mem_append.mp hr with hr | hr
      · exact List.mem_append_left _ hr
      · rcases List.mem_cons.mp hr with rfl | hr
        · rw [hfirst] at hr'
          cases hr'
        · exact List.mem_append_right _ (List.mem_cons_of_mem _ hr)

end

end EmployeeRepository

/-- **The sync of a written sheet.**  Everybody on it ends with a row that carries his data, and a row of
somebody who is not on it is as before; so who is taken off the sheet stays, and stays active. -/
theorem sheet_synced (toLowercase : String → String) (now : Instant) (header : List String) (es : List Employee)
    (db : Db) (hheader : isHeaderRow toLowercase header = true) (h : ∀ e ∈ es, WellFormed e)
    (hstrangers : es.Pairwise Strangers) :
    let o := (SyncEmployees.execute (.ok (readRows toLowercase now (header :: es.map writeRow)))).run noFaults db
    o.1 = .ok es.length ∧ (∀ e ∈ es, ∃ r ∈ o.2.employees.rows, entryData r.val = entryData (stamped now e)) ∧
      ∀ r ∈ db.employees.rows, (∀ e ∈ es, directoryMatch e r = false) → r ∈ o.2.employees.rows := by
  intro o
  have hrun : o = (.ok (es.map (stamped now)).length, (es.map (stamped now)).foldl upsertEmployee db) := by
    have hread := read_written toLowercase now header hheader h
    have hupsert : (upsertMany (es.map (stamped now))).run noFaults db =
        (.ok (es.map (stamped now)).length, (es.map (stamped now)).foldl upsertEmployee db) := run_write rfl db
    change (SyncEmployees.execute (.ok (readRows toLowercase now (header :: es.map writeRow)))).run noFaults db = _
    rw [hread]
    exact hupsert
  have hbatch := run_batch (es.map (stamped now)) db
  have hstamped : (es.map (stamped now)).Pairwise Strangers := by
    refine List.pairwise_map.mpr (hstrangers.imp fun {e e'} happart r hr => ?_)
    exact happart r hr
  rw [hrun]
  refine ⟨by rw [List.length_map], fun e he => ?_, fun r hr hother => ?_⟩
  · obtain ⟨r, hfind, hdata⟩ := hbatch.all_carried hstamped (stamped now e) (List.mem_map_of_mem he)
    exact ⟨r, List.mem_of_find?_eq_some hfind, hdata⟩
  · refine hbatch.keeps_row hr fun e he => ?_
    obtain ⟨e', he', rfl⟩ := List.mem_map.mp he
    exact hother e' he'

/-- Two people of one name, of whom one has a handle. -/
def sampleStaff : List Employee :=
  [unnamedEntry "Иван Петров" "petrov@firm",
    { unnamedEntry "Иван Петров" "ivan@firm" with telegramUsername := some "ivan", isActive := false }]

/-- Both get rows of their own. -/
theorem staff_synced :
    let o := (SyncEmployees.execute (.ok (readRows id 5 (columnNames :: sampleStaff.map writeRow)))).run noFaults Db.empty
    o.1 = .ok 2 ∧ (∀ e ∈ sampleStaff, ∃ r ∈ o.2.employees.rows, entryData r.val = entryData (stamped 5 e)) ∧
      ∀ r ∈ Db.empty.employees.rows, (∀ e ∈ sampleStaff, directoryMatch e r = false) → r ∈ o.2.employees.rows :=
  sheet_synced id 5 columnNames sampleStaff Db.empty (by decide)
    (by
      simp only [sampleStaff, List.forall_mem_cons]
      refine ⟨⟨⟨by decide, by decide⟩, nofun, ?_, nofun, nofun⟩,
        ⟨⟨by decide, by decide⟩, ?_, ?_, nofun, nofun⟩, fun _ h => nomatch h⟩ <;>
      · rintro _ ⟨⟩
        unfold Clean
        decide)
    (by
      refine List.pairwise_pair.mpr fun r hr => ?_
      have hnone : r.val.telegramUsername = none := (of_decide_eq_true hr).2
      exact decide_eq_false (by simp [hnone]))

end TaskBot
