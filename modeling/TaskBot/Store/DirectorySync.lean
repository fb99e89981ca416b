import Mathlib.Data.List.Count
import TaskBot.Store.RecordRepositories

/-!
# The sync of the directory

`upsert_many` takes the entries of a batch one after the other: an entry overwrites the first row that
it matches, or becomes a row of its own (`Turn`).  An entry with a username matches by username, one
without by name, among the rows without username.

* `Run.unnamed`: of the rows of one name without username a batch rewrites the first one, with its
  last entry of that name.
* `Run.persons`: a batch whose entries have a row leaves every row its id and its person.

    a batch is kept apart ↔ its entries without username that share a name, but the last
                            one, are in the later rows of that name already   (sync_apart_iff)
-/

namespace TaskBot

open Sql Calls

/-- `SyncEmployeesUseCase::execute`, with what the directory answered. -/
def SyncEmployees.execute (directory : AppResult (List Employee)) : Proc Nat := do
  let employees ← .lift directory
  EmployeeRepository.upsertMany employees

namespace EmployeeRepository

abbrev Rows := List (Stored Employee)

/-- The row an entry overwrites. -/
def directoryMatch (e : Employee) (r : Stored Employee) : Bool :=
  match e.telegramUsername with
  | some username => r.val.telegramUsername = some username
  | none => r.val.fullName = e.fullName ∧ r.val.telegramUsername = none

theorem directoryRow_eq (db : Db) (e : Employee) : directoryRow db e = db.employees.find? (directoryMatch e) := by
  unfold directoryRow directoryMatch
  cases e.telegramUsername <;> rfl

/-- The row after an entry has overwritten it. -/
def written (e : Employee) (r : Stored Employee) : Stored Employee := ⟨r.id, directoryColumns e r.val⟩

/-! ## Turns -/

/-- What one entry does to the rows. -/
inductive Turn (e : Employee) : Rows → Rows → Prop where
  | update (before : Rows) (r : Stored Employee) (after : Rows)
      (hbefore : ∀ a ∈ before, directoryMatch e a = false) (hr : directoryMatch e r = true) :
      Turn e (before ++ r :: after) (before ++ written e r :: after)
  | insert (rows : Rows) (id : Int) (hnone : ∀ a ∈ rows, directoryMatch e a = false) :
      Turn e rows (rows ++ [⟨id, { e with id := none }⟩])

/-- What the entries of a batch do, one after the other. -/
inductive Run : List Employee → Rows → Rows → Prop where
  | nil (rows : Rows) : Run [] rows rows
  | cons {e : Employee} {batch : List Employee} {rows rows' rows'' : Rows} (hturn : Turn e rows rows')
      (hrest : Run batch rows' rows'') : Run (e :: batch) rows rows''

theorem turn_upsertEmployee (db : Db) (e : Employee) :
    Turn e db.employees.rows (upsertEmployee db e).employees.rows := by
  unfold upsertEmployee
  rw [directoryRow_eq]
  cases hfind : db.employees.find? (directoryMatch e) with
  | some r =>
    obtain ⟨before, after, hrows, hbefore, hr, hmodified⟩ :=
      @Table.rows_modify_found _ _ _ _ _ (directoryColumns_keeps e) _ hfind
    dsimp only
    rw [hmodified, hrows]
    exact .update before r after hbefore hr
  | none =>
    dsimp only
    rw [rows_insert_of_none fun _ => rfl]
    exact .insert _ _ (Table.find?_none hfind)

theorem run_batch (batch : List Employee) (db : Db) :
    Run batch db.employees.rows (batch.foldl upsertEmployee db).employees.rows := by
  induction batch generalizing db with
  | nil => exact .nil _
  | cons e batch ih => exact .cons (turn_upsertEmployee db e) (ih _)

/-! ## Data and persons -/

/-- What an entry says of an employee: all but the id and the time the row was created. -/
def entryData (e : Employee) : Employee := { e with id := none, createdAt := 0 }

theorem username_entryData (e : Employee) : (entryData e).telegramUsername = e.telegramUsername := rfl

def rowData (rows : Rows) : List Employee := rows.map fun r => entryData r.val

/-- Who the rows are. -/
def persons (rows : Rows) : List (Int × String × Option String) :=
  rows.map fun r => (r.id, r.val.fullName, r.val.telegramUsername)

/-- The entry's person stands in the row it matches. -/
def Present (e : Employee) (rows : Rows) : Prop :=
  ∃ r, rows.find? (directoryMatch e) = some r ∧ r.val.fullName = e.fullName ∧
    r.val.telegramUsername = e.telegramUsername

section

variable {e e' : Employee} {r : Stored Employee} {rows rows' : Rows}

theorem username_of_match (h : directoryMatch e r = true) : r.val.telegramUsername = e.telegramUsername := by
  unfold directoryMatch at h
  cases hname : e.telegramUsername with
  | some username =>
    rw [hname] at h
    exact of_decide_eq_true h
  | none =>
    rw [hname] at h
    exact (of_decide_eq_true h).2

theorem match_self (id : Int) : directoryMatch e ⟨id, { e with id := none }⟩ = true := by
  unfold directoryMatch
  cases e.telegramUsername <;> simp

/-- A row keeps its match of another entry when it is overwritten. -/
theorem match_written (hr : directoryMatch e r = true) : directoryMatch e' (written e r) = directoryMatch e' r := by
  unfold directoryMatch written directoryColumns at *
  cases hname : e.telegramUsername with
  | some username =>
    rw [hname] at hr
    cases e'.telegramUsername with
    | some username' => rfl
    | none =>
      have huser : r.val.telegramUsername = some username := of_decide_eq_true hr
      simp [huser]
  | none =>
    rw [hname] at hr
    have hsame := (of_decide_eq_true hr).1
    cases e'.telegramUsername with
    | some username' => rfl
    | none => simp [hsame]

theorem entryData_written (hr : directoryMatch e r = true) : entryData (written e r).val = entryData e := by
  have hname := username_of_match hr
  unfold entryData written directoryColumns
  simp [hname]

/-! ### One turn -/

theorem find_append (before : Rows) (r : Stored Employee) (after : Rows) {p : Stored Employee → Bool}
    (hbefore : ∀ a ∈ before, p a = false) (hr : p r = true) : (before ++ r :: after).find? p = some r := by
  rw [List.find?_append, List.find?_eq_none.mpr fun a ha => by simp [hbefore a ha], Option.none_or,
    List.find?_cons_of_pos hr]

/-- After its turn an entry's person is present. -/
theorem Turn.present (h : Turn e rows rows') : Present e rows' := by
  cases h with
  | update before r after hbefore hr =>
    have huser := username_of_match hr
    have hmatch := (match_written hr).trans hr
    exact ⟨written e r, find_append before _ after hbefore hmatch, rfl, huser⟩
  | insert rows id hnone => exact ⟨_, find_append rows _ [] hnone (match_self id), rfl, rfl⟩

/-- The row is one of the name, without username. -/
def isUnnamed (name : String) (r : Stored Employee) : Bool :=
  r.val.fullName = name ∧ r.val.telegramUsername = none

/-- An entry without username matches the rows of its name. -/
theorem match_of_unnamed (hnone : e.telegramUsername = none) (r : Stored Employee) :
    directoryMatch e r = isUnnamed e.fullName r := by
  unfold directoryMatch
  rw [hnone]
  rfl

/-- What another entry's turn does to the row an entry matches. -/
theorem Turn.find (h : Turn e' rows rows') {found : Stored Employee}
    (hfind : rows.find? (directoryMatch e) = some found) :
    rows'.find? (directoryMatch e) = some found ∨
      directoryMatch e' found = true ∧ rows'.find? (directoryMatch e) = some (written e' found) := by
  cases h with
  | insert rows id hnone =>
    refine .inl ?_
    rw [List.find?_append, hfind, Option.some_or]
  | update before r after hbefore hr =>
    rw [List.find?_append, List.find?_cons] at hfind
    rw [List.find?_append, List.find?_cons, match_written hr]
    cases hfirst : before.find? (directoryMatch e) with
    | some a =>
      rw [hfirst, Option.some_or] at hfind
      rw [Option.some_or]
      exact .inl hfind
    | none =>
      rw [hfirst, Option.none_or] at hfind
      rw [Option.none_or]
      cases hmatch : directoryMatch e r with
      | false =>
        rw [hmatch] at hfind
        exact .inl hfind
      | true =>
        rw [hmatch] at hfind
        cases hfind
        exact .inr ⟨hr, rfl⟩

/-- The entries have no username in common. -/
def Distinct (e e' : Employee) : Prop := e.telegramUsername = none ∨ e'.telegramUsername ≠ e.telegramUsername

theorem Distinct.symm (h : Distinct e e') : Distinct e' e := by
  rcases h with h | h
  · cases hname : e'.telegramUsername with
    | none => exact .inl hname
    | some username =>
      refine .inr ?_
      rw [h, hname]
      exact nofun
  · exact .inr h.symm

/-- Another entry's turn keeps it present. -/
theorem Turn.keeps_present (h : Turn e' rows rows') (hother : Distinct e e') (hpresent : Present e rows) :
    Present e rows' := by
  obtain ⟨found, hfind, hname, huser⟩ := hpresent
  rcases h.find hfind with hsame | ⟨hmatch, hwritten⟩
  · exact ⟨found, hsame, hname, huser⟩
  · -- both entries match the row, so neither has a username, and they share its name
    have hshared := (username_of_match hmatch).symm.trans huser
    have hnone : e'.telegramUsername = none := by
      rcases hother with hnone | hne
      · exact hshared.trans hnone
      · exact absurd hshared hne
    rw [match_of_unnamed hnone] at hmatch
    exact ⟨_, hwritten, (of_decide_eq_true hmatch).1.symm.trans hname, huser⟩

/-- The row of an entry with a username carries its data. -/
def Carried (e : Employee) (rows : Rows) : Prop :=
  ∃ r, rows.find? (directoryMatch e) = some r ∧ entryData r.val = entryData e

theorem Turn.carried (h : Turn e rows rows') : Carried e rows' := by
  cases h with
  | update before r after hbefore hr =>
    exact ⟨_, find_append before _ after hbefore ((match_written hr).trans hr), entryData_written hr⟩
  | insert rows id hnone => exact ⟨_, find_append rows _ [] hnone (match_self id), rfl⟩

theorem Turn.keeps_carried (h : Turn e' rows rows') (hnamed : e.telegramUsername ≠ none) (hother : Distinct e e')
    (hcarried : Carried e rows) : Carried e rows' := by
  obtain ⟨found, hfind, hdata⟩ := hcarried
  rcases h.find hfind with hsame | ⟨hmatch, -⟩
  · exact ⟨found, hsame, hdata⟩
  · have huser := username_of_match (List.find?_some hfind)
    have hshared := (username_of_match hmatch).symm.trans huser
    rcases hother with hnone | hne
    · exact absurd hnone hnamed
    · exact absurd hshared hne

/-- The turn of a present entry leaves the rows their ids and persons. -/
theorem Turn.persons (h : Turn e rows rows') (hpresent : Present e rows) : persons rows' = persons rows := by
  obtain ⟨found, hfind, hname, -⟩ := hpresent
  cases h with
  | insert rows id hnone =>
    have hmatch := List.find?_some hfind
    rw [hnone found (List.mem_of_find?_eq_some hfind)] at hmatch
    cases hmatch
  | update before r after hbefore hr =>
    rw [find_append before r after hbefore hr] at hfind
    cases hfind
    simp only [EmployeeRepository.persons, List.map_append, List.map_cons, written, directoryColumns, hname]

/-- The data of the rows of one name without username. -/
def unnamedData (name : String) (rows : Rows) : List Employee := rowData (rows.filter (isUnnamed name))

/-- The others match no row of the name without username. -/
theorem not_unnamed_of_match {name : String} (hother : ¬ (e.telegramUsername = none ∧ e.fullName = name))
    (hr : directoryMatch e r = true) : isUnnamed name r = false := by
  rw [Bool.eq_false_iff]
  intro hthere
  obtain ⟨hname, hnone⟩ := of_decide_eq_true hthere
  rw [username_of_match hr] at hnone
  rw [match_of_unnamed hnone] at hr
  exact hother ⟨hnone, (of_decide_eq_true hr).1.symm.trans hname⟩

/-- Of the rows of its name a turn of an entry without username rewrites the first one. -/
theorem Turn.unnamed (h : Turn e rows rows') (name : String) : unnamedData name rows' =
    if e.telegramUsername = none ∧ e.fullName = name then entryData e :: (unnamedData name rows).tail
    else unnamedData name rows := by
  have hnofront : ∀ {l : Rows}, e.telegramUsername = none → e.fullName = name →
      (∀ a ∈ l, directoryMatch e a = false) → l.filter (isUnnamed name) = [] := by
    intro l hnone hname hl
    refine List.filter_eq_nil_iff.mpr fun a ha hthere => ?_
    rw [← hname, ← match_of_unnamed hnone, hl a ha] at hthere
    cases hthere
  cases h with
  | update before r after hbefore hr =>
    have hr' : directoryMatch e (written e r) = true := (match_written hr).trans hr
    unfold unnamedData rowData
    by_cases hmine : e.telegramUsername = none ∧ e.fullName = name
    · obtain ⟨hnone, hname⟩ := hmine
      have hthere : ∀ {a : Stored Employee}, directoryMatch e a = true → isUnnamed name a = true := by
        intro a ha
        rw [← hname, ← match_of_unnamed hnone]
        exact ha
      rw [if_pos ⟨hnone, hname⟩, List.filter_append, List.filter_append, hnofront hnone hname hbefore,
        List.filter_cons_of_pos (hthere hr), List.filter_cons_of_pos (hthere hr')]
      simp only [List.nil_append, List.map_cons, List.tail_cons, entryData_written hr]
    · have haway : ∀ {a : Stored Employee}, directoryMatch e a = true → ¬ isUnnamed name a = true := by
        intro a ha
        rw [not_unnamed_of_match hmine ha]
        exact Bool.false_ne_true
      rw [if_neg hmine, List.filter_append, List.filter_append, List.filter_cons_of_neg (haway hr),
        List.filter_cons_of_neg (haway hr')]
  | insert rows id hnone =>
    have hself := @match_self e id
    unfold unnamedData rowData
    by_cases hmine : e.telegramUsername = none ∧ e.fullName = name
    · obtain ⟨huser, hname⟩ := hmine
      have hthere : isUnnamed name ⟨id, { e with id := none }⟩ = true := by
        rw [← hname, ← match_of_unnamed huser]
        exact hself
      rw [if_pos ⟨huser, hname⟩, List.filter_append, hnofront huser hname hnone, List.filter_cons_of_pos hthere]
      rfl
    · have haway : ¬ isUnnamed name ⟨id, { e with id := none }⟩ = true := by
        rw [not_unnamed_of_match hmine hself]
        exact Bool.false_ne_true
      rw [if_neg hmine, List.filter_append, List.filter_cons_of_neg haway, List.filter_nil, List.append_nil]

end

/-! ### A run -/

section

variable {e : Employee} {batch : List Employee} {rows rows' : Rows}

theorem Run.keeps_present (h : Run batch rows rows') (hother : ∀ e' ∈ batch, Distinct e e')
    (hpresent : Present e rows) : Present e rows' := by
  induction h with
  | nil => exact hpresent
  | cons hturn _ ih =>
    refine ih (fun e' he' => hother e' (List.mem_cons_of_mem _ he')) ?_
    exact hturn.keeps_present (hother _ List.mem_cons_self) hpresent

/-- After a batch the persons of its entries are present. -/
theorem Run.present (h : Run batch rows rows') (hdistinct : batch.Pairwise Distinct) :
    ∀ e ∈ batch, Present e rows' := by
  induction h with
  | nil => exact nofun
  | cons hturn hrest ih =>
    intro e he
    rw [List.pairwise_cons] at hdistinct
    rcases List.mem_cons.mp he with rfl | he
    · exact hrest.keeps_present hdistinct.1 hturn.present
    · exact ih hdistinct.2 e he

theorem Run.keeps_carried (h : Run batch rows rows') (hnamed : e.telegramUsername ≠ none)
    (hother : ∀ e' ∈ batch, Distinct e e') (hcarried : Carried e rows) : Carried e rows' := by
  induction h with
  | nil => exact hcarried
  | cons hturn _ ih =>
    refine ih (fun e' he' => hother e' (List.mem_cons_of_mem _ he')) ?_
    exact hturn.keeps_carried hnamed (hother _ List.mem_cons_self) hcarried

theorem Run.carried (h : Run batch rows rows') (hdistinct : batch.Pairwise Distinct) :
    ∀ e ∈ batch, e.telegramUsername ≠ none → Carried e rows' := by
  induction h with
  | nil => exact nofun
  | cons hturn hrest ih =>
    intro e he hnamed
    rw [List.pairwise_cons] at hdistinct
    rcases List.mem_cons.mp he with rfl | he
    · exact hrest.keeps_carried hnamed hdistinct.1 hturn.carried
    · exact ih hdistinct.2 e he hnamed

/-- A batch of present entries leaves the rows their ids and persons. -/
theorem Run.persons (h : Run batch rows rows') (hdistinct : batch.Pairwise Distinct)
    (hpresent : ∀ e ∈ batch, Present e rows) : persons rows' = persons rows := by
  induction h with
  | nil => rfl
  | cons hturn hrest ih =>
    rw [List.pairwise_cons] at hdistinct
    rw [← hturn.persons (hpresent _ List.mem_cons_self)]
    refine ih hdistinct.2 fun e he => ?_
    exact hturn.keeps_present (hdistinct.1 e he).symm (hpresent e (List.mem_cons_of_mem _ he))

/-- The entries of a name without username. -/
def unnamedEntries (name : String) (batch : List Employee) : List Employee :=
  batch.filter fun e => e.telegramUsername = none ∧ e.fullName = name

/-- The rows of a name after its entries: the first one has the data of the last entry. -/
def rewritten (entries rows : List Employee) : List Employee :=
  match entries.getLast? with
  | some e => entryData e :: rows.tail
  | none => rows

theorem rewritten_cons (e : Employee) (entries rows : List Employee) :
    rewritten (e :: entries) rows = rewritten entries (entryData e :: rows.tail) := by
  unfold rewritten
  rw [List.getLast?_cons]
  cases entries.getLast? <;> rfl

/-- Of the rows of a name a batch rewrites the first one. -/
theorem Run.unnamed (h : Run batch rows rows') (name : String) :
    unnamedData name rows' = rewritten (unnamedEntries name batch) (unnamedData name rows) := by
  induction h with
  | nil => rfl
  | @cons e batch rows rows₁ rows' hturn hrest ih =>
    have hone := hturn.unnamed name
    rw [ih]
    by_cases hmine : e.telegramUsername = none ∧ e.fullName = name
    · have hentries : unnamedEntries name (e :: batch) = e :: unnamedEntries name batch :=
        List.filter_cons_of_pos (decide_eq_true hmine)
      rw [if_pos hmine] at hone
      rw [hentries, rewritten_cons, hone]
    · have hentries : unnamedEntries name (e :: batch) = unnamedEntries name batch :=
        List.filter_cons_of_neg fun hthere => hmine (of_decide_eq_true hthere)
      rw [if_neg hmine] at hone
      rw [hentries, hone]

/-! ## Own rows -/

/-- Each entry has a row of its own with its data. -/
def OwnRows (batch : List Employee) (rows : Rows) : Prop := (batch.map entryData).Subperm (rowData rows)

/-- Entries of one name without username, but the last one, are in the later rows of that name. -/
def EarlierStored (batch : List Employee) (rows : Rows) : Prop :=
  ∀ name, ((unnamedEntries name batch).dropLast.map entryData).Subperm (unnamedData name rows).tail

theorem count_map_filter {l : List Employee} {p : Employee → Bool} {d : Employee}
    (hp : ∀ e, entryData e = d → p e = true) : (l.map entryData).count d = ((l.filter p).map entryData).count d := by
  induction l with
  | nil => rfl
  | cons e l ih =>
    rw [List.map_cons, List.count_cons, ih]
    by_cases he : p e = true
    · rw [List.filter_cons_of_pos he, List.map_cons, List.count_cons]
    · have hne : (entryData e == d) = false := beq_eq_false_iff_ne.mpr fun hsame => he (hp e hsame)
      rw [List.filter_cons_of_neg he, hne]
      rfl

/-- The data of a person without username is looked for among the rows of its name. -/
theorem count_rowData {d : Employee} (hnone : d.telegramUsername = none) (rows : Rows) :
    (rowData rows).count d = (unnamedData d.fullName rows).count d := by
  have hrows : ∀ l : Rows, rowData l = (l.map Stored.val).map entryData := fun l => by
    unfold rowData
    rw [List.map_map]
    rfl
  have hfilter : (rows.filter (isUnnamed d.fullName)).map Stored.val = (rows.map Stored.val).filter fun e =>
      e.fullName = d.fullName ∧ e.telegramUsername = none := by
    rw [List.filter_map]
    rfl
  unfold unnamedData
  rw [hrows, hrows, hfilter]
  refine count_map_filter fun e he => ?_
  subst he
  exact decide_eq_true ⟨rfl, hnone⟩

theorem count_entries {d : Employee} (hnone : d.telegramUsername = none) (batch : List Employee) :
    (batch.map entryData).count d = ((unnamedEntries d.fullName batch).map entryData).count d := by
  refine count_map_filter fun e he => ?_
  subst he
  exact decide_eq_true ⟨hnone, rfl⟩

/-- For the people without username it is a matter of each name. -/
theorem rewritten_count_iff (entries rows : List Employee) (d : Employee) :
    (entries.map entryData).count d ≤ (rewritten entries rows).count d ↔
      (entries.dropLast.map entryData).count d ≤ rows.tail.count d ∨ entries = [] := by
  unfold rewritten
  cases hlast : entries.getLast? with
  | none =>
    rw [List.getLast?_eq_none_iff] at hlast
    subst hlast
    simp
  | some e =>
    have hentries : entries = entries.dropLast ++ [e] := (List.dropLast_append_getLast? e hlast).symm
    have hne : entries ≠ [] := by
      rw [hentries]
      simp
    have hcount : (entries.map entryData).count d =
        (entries.dropLast.map entryData).count d + [entryData e].count d := by
      conv => lhs; rw [hentries, List.map_append, List.count_append]
      rfl
    rw [hcount, or_iff_left hne]
    dsimp only
    rw [List.count_cons, List.count_cons, List.count_nil]
    omega

theorem count_named {d : Employee} (hnamed : d.telegramUsername ≠ none) (hdistinct : batch.Pairwise Distinct) :
    (batch.map entryData).count d ≤ 1 := by
  induction batch with
  | nil => exact Nat.zero_le _
  | cons e batch ih =>
    rw [List.pairwise_cons] at hdistinct
    rw [List.map_cons, List.count_cons]
    split
    · next hsame =>
      have hd : entryData e = d := eq_of_beq hsame
      have hnone : (batch.map entryData).count d = 0 := by
        rw [List.count_eq_zero, List.mem_map]
        rintro ⟨e', he', hd'⟩
        have huser : e.telegramUsername = d.telegramUsername := by rw [← username_entryData, hd]
        have huser' : e'.telegramUsername = d.telegramUsername := by rw [← username_entryData, hd']
        rcases hdistinct.1 e' he' with hnone | hne
        · exact hnamed (huser.symm.trans hnone)
        · exact hne (huser'.trans huser.symm)
      omega
    · exact ih hdistinct.2

theorem mem_of_carried (h : Carried e rows) : entryData e ∈ rowData rows := by
  obtain ⟨r, hfind, hdata⟩ := h
  rw [← hdata]
  exact List.mem_map_of_mem (List.mem_of_find?_eq_some hfind)

/-- **The entries have rows of their own** unless a name without username is shared. -/
theorem Run.ownRows_iff (h : Run batch rows rows') (hdistinct : batch.Pairwise Distinct) :
    OwnRows batch rows' ↔ EarlierStored batch rows := by
  have hcounts : ∀ d : Employee, d.telegramUsername = none →
      ((batch.map entryData).count d ≤ (rowData rows').count d ↔
        ((unnamedEntries d.fullName batch).dropLast.map entryData).count d ≤
          (unnamedData d.fullName rows).tail.count d ∨ unnamedEntries d.fullName batch = []) := by
    intro d hnone
    rw [count_entries hnone, count_rowData hnone, h.unnamed]
    exact rewritten_count_iff _ _ d
  constructor
  · intro hown name
    refine List.subperm_ext_iff.mpr fun d hd => ?_
    obtain ⟨e, he, rfl⟩ := List.mem_map.mp hd
    have hentry := List.mem_of_mem_dropLast he
    obtain ⟨hnone, rfl⟩ := of_decide_eq_true (List.mem_filter.mp hentry).2
    rcases (hcounts (entryData e) hnone).mp (hown.count_le _) with hle | hempty
    · exact hle
    · exact absurd hentry (List.eq_nil_iff_forall_not_mem.mp hempty e)
  · intro hstored
    refine List.subperm_ext_iff.mpr fun d hd => ?_
    obtain ⟨e, he, rfl⟩ := List.mem_map.mp hd
    by_cases hnamed : e.telegramUsername = none
    · exact (hcounts (entryData e) hnamed).mpr (.inl ((hstored e.fullName).count_le _))
    · have hone := @count_named batch (entryData e) hnamed hdistinct
      have hmem := List.count_pos_iff.mpr (mem_of_carried (h.carried hdistinct e he hnamed))
      omega

end

/-! ## The batch -/

/-- The database after the batch. -/
def synced (batch : List Employee) (db : Db) : Db := ((upsertMany batch).run noFaults db).2

theorem run_synced (batch : List Employee) (db : Db) :
    Run batch db.employees.rows (synced batch db).employees.rows := by
  have hrun : (upsertMany batch).run noFaults db = (.ok batch.length, batch.foldl upsertEmployee db) :=
    run_write rfl db
  unfold synced
  rw [hrun]
  exact run_batch batch db

/-- The sync keeps people apart: each entry has a row of its own, and the same batch again adds no row
and changes no row's id or person. -/
structure KeptApart (batch : List Employee) (db : Db) : Prop where
  own : OwnRows batch (synced batch db).employees.rows
  again : persons (synced batch (synced batch db)).employees.rows = persons (synced batch db).employees.rows

/-- **The sync keeps people apart** exactly when the entries without username that share a name, but the
last of them, have later rows of that name already. -/
theorem sync_apart_iff (db : Db) (batch : List Employee)
    (h : (batch.filterMap Employee.telegramUsername).Nodup) :
    KeptApart batch db ↔ EarlierStored batch db.employees.rows := by
  have hdistinct : batch.Pairwise Distinct := by
    refine (List.pairwise_filterMap.mp h).imp fun {e e'} happart => ?_
    cases hname : e.telegramUsername with
    | none => exact .inl hname
    | some username =>
      refine .inr fun hsame => ?_
      rw [hname] at hsame
      exact happart username hname username hsame rfl
  have hfirst := run_synced batch db
  have hagain := (run_synced batch (synced batch db)).persons hdistinct (hfirst.present hdistinct)
  rw [← hfirst.ownRows_iff hdistinct]
  exact ⟨fun hkept => hkept.own, fun hown => ⟨hown, hagain⟩⟩

/-- An entry without username. -/
def unnamedEntry (fullName email : String) : Employee where
  id := none
  fullName := fullName
  telegramUsername := none
  email := some email
  phone := none
  department := none
  isActive := true
  syncedAt := some 0
  createdAt := 0
  updatedAt := 0

theorem two_names_apart :
    ([unnamedEntry "Иван Петров" "petrov@firm", { unnamedEntry "Иван Петров" "ivan@firm" with
      telegramUsername := some "ivan" }].filterMap Employee.telegramUsername).Nodup ∧
    KeptApart [unnamedEntry "Иван Петров" "petrov@firm", { unnamedEntry "Иван Петров" "ivan@firm" with
      telegramUsername := some "ivan" }] Db.empty := by
  refine ⟨by decide, (sync_apart_iff _ _ (by decide)).mpr fun name => ?_⟩
  by_cases hname : "Иван Петров" = name
  · subst hname
    have hone : unnamedEntries "Иван Петров" [unnamedEntry "Иван Петров" "petrov@firm",
        { unnamedEntry "Иван Петров" "ivan@firm" with telegramUsername := some "ivan" }] =
        [unnamedEntry "Иван Петров" "petrov@firm"] := by decide
    rw [hone]
    exact List.nil_subperm
  · have hnone : unnamedEntries name [unnamedEntry "Иван Петров" "petrov@firm",
        { unnamedEntry "Иван Петров" "ivan@firm" with telegramUsername := some "ivan" }] = [] := by
      simp [unnamedEntries, unnamedEntry, hname]
    rw [hnone]
    exact List.nil_subperm

/-- Two people of one name share a row. -/
theorem namesakes_merged :
    ([unnamedEntry "Иван Петров" "petrov@firm", unnamedEntry "Иван Петров" "ivan@firm"].filterMap
      Employee.telegramUsername).Nodup ∧
    ¬ KeptApart [unnamedEntry "Иван Петров" "petrov@firm", unnamedEntry "Иван Петров" "ivan@firm"] Db.empty := by
  refine ⟨by decide, fun hkept => ?_⟩
  have hrows : rowData (synced [unnamedEntry "Иван Петров" "petrov@firm",
      unnamedEntry "Иван Петров" "ivan@firm"] Db.empty).employees.rows =
      [unnamedEntry "Иван Петров" "ivan@firm"] := by decide
  have hlength := hkept.own.length_le
  rw [hrows] at hlength
  exact absurd hlength (by decide)

end EmployeeRepository

end TaskBot
