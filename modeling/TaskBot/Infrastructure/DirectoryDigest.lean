import TaskBot.Infrastructure.DirectorySheet

/-!
# The digest of the directory

The prompt of a task carries the directory: a line for each employee, by name, within a budget of bytes; when
the lines do not fit, a footer says how many are missing.

* `syncs_named`: whatever the syncs wrote, everybody in the rows has a name, so no line is empty;
* `digest_exact`: a digest is whole lines, as many as fit, and the footer counts the others;
* `digest_tells_names`: it depends on nothing but the names and handles of the active employees, and not on
  the order of the rows, as long as no two of them share a name.
-/

namespace TaskBot

open Sql Calls GoogleSheetsEmployeeDirectory

namespace EmployeeDirectoryDigest

def maxDigestBytes : Nat := 8 * 1024

/-- `line`. -/
def digestLine (e : Employee) : String :=
  match e.telegramUsername with
  | some handle => if handle.isEmpty then e.fullName else e.fullName ++ " — @" ++ stripAts handle
  | none => e.fullName

/-- The line behind what is there. -/
def addLine (out line : String) : String := (if out.isEmpty then out else out ++ "\n") ++ line

/-- The loop of `render_digest` from an employee on: what it leaves in `out` and in `truncated`. -/
def renderLines (out : String) : List Employee → String × Nat
  | [] => (out, 0)
  | e :: es =>
      if out.utf8ByteSize + (digestLine e).utf8ByteSize + 1 > maxDigestBytes then (out, (e :: es).length)
      else renderLines (addLine out (digestLine e)) es

def footer (truncated : Nat) : String := "… ещё " ++ toString truncated ++ " сотрудников не вошли в контекст"

def renderDigest (employees : List Employee) : String :=
  let (out, truncated) := renderLines "" employees
  if truncated > 0 then addLine out (footer truncated) else out

def fetchDigest : Proc String := do
  let employees ← EmployeeRepository.listActive
  pure (renderDigest (employees.mergeSort fun a b => a.fullName ≤ b.fullName))

/-! ## Whole lines -/

/-- Lines as a text. -/
def joined (lines : List String) : String := "\n".intercalate lines

theorem joined_concat (lines : List String) (line : String) (h : ∀ l ∈ lines, l ≠ "") :
    joined (lines ++ [line]) = addLine (joined lines) line := by
  have hne : ∀ {a : String} {rest : List String}, a ≠ "" → joined (a :: rest) ≠ "" := by
    intro a rest ha hempty
    cases rest with
    | nil => exact ha (String.intercalate_singleton.symm.trans hempty)
    | cons b rest =>
      unfold joined at hempty
      rw [String.intercalate_cons_cons, String.append_eq_empty_iff, String.append_eq_empty_iff] at hempty
      exact ha hempty.1.1
  induction lines with
  | nil => rfl
  | cons a lines ih =>
    have ha := h a List.mem_cons_self
    have hfull : (joined (a :: lines)).isEmpty = false := by
      simpa using hne ha
    unfold addLine
    rw [hfull]
    cases lines with
    | nil => rfl
    | cons b rest =>
      have hrest := ih fun l hl => h l (List.mem_cons_of_mem a hl)
      have hfull' : (joined (b :: rest)).isEmpty = false := by
        simpa using hne (h b (by simp))
      unfold addLine at hrest
      rw [hfull'] at hrest
      have hcons : ∀ rest' : List String, rest' ≠ [] → joined (a :: rest') = a ++ "\n" ++ joined rest' :=
        fun rest' hr => String.intercalate_cons_of_ne_nil hr
      rw [List.cons_append, hcons _ (by simp), hrest, hcons _ (by simp)]
      simp [String.append_assoc]

/-- **The loop.**  After some lines it adds as many as fit, and counts the others. -/
theorem renderLines_eq (es : List Employee) : ∀ lines : List String, (∀ l ∈ lines, l ≠ "") →
    (∀ e ∈ es, digestLine e ≠ "") → (joined lines).utf8ByteSize ≤ maxDigestBytes →
    ∃ k ≤ es.length, renderLines (joined lines) es = (joined (lines ++ (es.take k).map digestLine), es.length - k) ∧
      (joined (lines ++ (es.take k).map digestLine)).utf8ByteSize ≤ maxDigestBytes ∧
      ∀ e, es[k]? = some e →
        maxDigestBytes < (joined (lines ++ (es.take k).map digestLine)).utf8ByteSize + (digestLine e).utf8ByteSize + 1 := by
  induction es with
  | nil =>
    intro lines _ _ hsize
    refine ⟨0, Nat.le_refl 0, by simp [renderLines], by simpa using hsize, fun e he => by simp at he⟩
  | cons e es ih =>
    intro lines hlines hes hsize
    unfold renderLines
    by_cases hfull : (joined lines).utf8ByteSize + (digestLine e).utf8ByteSize + 1 > maxDigestBytes
    · refine ⟨0, Nat.zero_le _, by rw [if_pos hfull]; simp, by simpa using hsize, fun e' he' => ?_⟩
      obtain rfl : e = e' := by simpa using he'
      simpa using hfull
    · have hnew : joined (lines ++ [digestLine e]) = addLine (joined lines) (digestLine e) :=
        joined_concat lines _ hlines
      have hfits : (joined (lines ++ [digestLine e])).utf8ByteSize ≤ maxDigestBytes := by
        rw [hnew]
        unfold addLine
        have hnewline : "\n".utf8ByteSize = 1 := by decide
        split <;> rw [String.utf8ByteSize_append] <;> [skip; rw [String.utf8ByteSize_append, hnewline]] <;> omega
      obtain ⟨k, hk, hrun, hkfits, hknext⟩ := ih (lines ++ [digestLine e])
        (by
          intro l hl
          rcases List.mem_append.mp hl with hl | hl
          · exact hlines l hl
          · rw [List.mem_singleton.mp hl]
            exact hes e List.mem_cons_self)
        (fun e' he' => hes e' (List.mem_cons_of_mem e he')) hfits
      have hshift : lines ++ ((e :: es).take (k + 1)).map digestLine =
          lines ++ [digestLine e] ++ (es.take k).map digestLine := by simp
      refine ⟨k + 1, Nat.succ_le_succ hk, ?_, ?_, ?_⟩
      · rw [if_neg hfull, ← hnew, hrun, hshift, List.length_cons, Nat.add_sub_add_right]
      · rw [hshift]
        exact hkfits
      · intro e' he'
        rw [hshift]
        exact hknext e' (by simpa using he')

/-! ## The digest -/

/-- **The digest of a list.**  The lines of as many as fit, then a footer for the others if there are any. -/
theorem renderDigest_eq (es : List Employee) (hes : ∀ e ∈ es, digestLine e ≠ "") : ∃ k ≤ es.length,
    renderDigest es =
      joined ((es.take k).map digestLine ++ if k < es.length then [footer (es.length - k)] else []) ∧
    (joined ((es.take k).map digestLine)).utf8ByteSize ≤ maxDigestBytes ∧
    ∀ e, es[k]? = some e →
      maxDigestBytes < (joined ((es.take k).map digestLine)).utf8ByteSize + (digestLine e).utf8ByteSize + 1 := by
  obtain ⟨k, hk, hrun, hsize, hnext⟩ := renderLines_eq es [] (fun _ h => nomatch h) hes (by decide)
  rw [List.nil_append] at hrun hsize hnext
  refine ⟨k, hk, ?_, hsize, hnext⟩
  have hrun' : renderLines "" es = (joined ((es.take k).map digestLine), es.length - k) := hrun
  unfold renderDigest
  rw [hrun']
  by_cases hall : k < es.length
  · have hlines : ∀ l ∈ (es.take k).map digestLine, l ≠ "" := by
      intro l hl
      obtain ⟨e, he, rfl⟩ := List.mem_map.mp hl
      exact hes e (List.mem_of_mem_take he)
    rw [if_pos hall, joined_concat _ _ hlines]
    exact if_pos (Nat.sub_pos_of_lt hall)
  · rw [if_neg hall, List.append_nil]
    exact if_neg (by omega)

theorem digestLine_ne_empty {e : Employee} (h : e.fullName ≠ "") : digestLine e ≠ "" := by
  intro hempty
  unfold digestLine at hempty
  cases hhandle : e.telegramUsername with
  | none =>
    rw [hhandle] at hempty
    exact h hempty
  | some handle =>
    rw [hhandle] at hempty
    by_cases hblank : handle.isEmpty = true
    · exact h ((if_pos hblank).symm.trans hempty)
    · simp [hblank] at hempty

/-- The part of an employee that his line shows. -/
def shownPart (e : Employee) : String × Option String := (e.fullName, e.telegramUsername)

theorem digestLine_congr {e e' : Employee} (h : shownPart e = shownPart e') : digestLine e = digestLine e' := by
  have hname : e.fullName = e'.fullName := congrArg Prod.fst h
  have hhandle : e.telegramUsername = e'.telegramUsername := congrArg Prod.snd h
  unfold digestLine
  rw [hname, hhandle]

theorem renderLines_congr (es : List Employee) : ∀ (es' : List Employee) (out : String),
    es.map shownPart = es'.map shownPart → renderLines out es = renderLines out es' := by
  induction es with
  | nil =>
    intro es' out h
    rw [List.map_eq_nil_iff.mp h.symm]
  | cons e es ih =>
    intro es' out h
    cases es' with
    | nil => cases h
    | cons e' es' =>
      rw [List.map_cons, List.map_cons, List.cons.injEq] at h
      have hlength : es.length = es'.length := by simpa using congrArg List.length h.2
      unfold renderLines
      rw [digestLine_congr h.1, ih es' _ h.2, List.length_cons, List.length_cons, hlength]

theorem renderDigest_congr {es es' : List Employee} (h : es.map shownPart = es'.map shownPart) :
    renderDigest es = renderDigest es' := by
  unfold renderDigest
  rw [renderLines_congr es es' "" h]

/-! ## The prompt's part of a database -/

theorem names_trans (a b c : Employee) (hab : decide (a.fullName ≤ b.fullName) = true)
    (hbc : decide (b.fullName ≤ c.fullName) = true) : decide (a.fullName ≤ c.fullName) = true :=
  decide_eq_true (le_trans (of_decide_eq_true hab) (of_decide_eq_true hbc))

theorem names_total (a b : Employee) :
    (decide (a.fullName ≤ b.fullName) || decide (b.fullName ≤ a.fullName)) = true := by
  simpa using le_total a.fullName b.fullName

theorem activeEmployees_sorted (db : Db) : db.activeEmployees.Pairwise fun a b => a.fullName ≤ b.fullName :=
  (List.pairwise_mergeSort names_trans names_total _).imp of_decide_eq_true

theorem run_fetchDigest (db : Db) : fetchDigest.run noFaults db = (.ok (renderDigest db.activeEmployees), db) := by
  have hsorted : (db.activeEmployees.mergeSort fun a b => a.fullName ≤ b.fullName) = db.activeEmployees :=
    List.mergeSort_of_pairwise (List.pairwise_mergeSort names_trans names_total _)
  unfold fetchDigest
  rw [Prog.run_bind_ok noFaults (run_listActive db), hsorted]
  rfl

/-- The names and handles in the active rows. -/
def shown (db : Db) : List (String × Option String) :=
  (db.employees.rows.filter fun r => r.val.isActive).map fun r => shownPart r.val

theorem activeEmployees_shown (db : Db) : (db.activeEmployees.map shownPart).Perm (shown db) := by
  have hperm := (List.mergeSort_perm ((db.employees.rows.filter fun r => r.val.isActive).map fun r =>
    { r.val with id := some r.id }) fun a b => a.fullName ≤ b.fullName).map shownPart
  rw [List.map_map] at hperm
  exact hperm

/-! ## The syncs behind it -/

/-- Everybody in the rows has a name. -/
def Named (db : Db) : Prop := ∀ r ∈ db.employees.rows, r.val.fullName ≠ ""

theorem readRow_named {now : Instant} {row : List String} {e : Employee} (h : readRow now row = some e) :
    e.fullName ≠ "" := by
  obtain ⟨fullName, hcell, rfl⟩ := Option.map_eq_some_iff.mp h
  have hkept := (Option.filter_eq_some_iff.mp hcell).2
  intro hblank
  have hblank' : fullName = "" := hblank
  rw [hblank'] at hkept
  exact absurd hkept (by decide)

theorem readRows_named {toLowercase : String → String} {now : Instant} {rows : List (List String)} {e : Employee}
    (he : e ∈ readRows toLowercase now rows) : e.fullName ≠ "" := by
  obtain ⟨⟨row, index⟩, -, hread⟩ := List.mem_filterMap.mp he
  dsimp only at hread
  by_cases hheader : index = 0 ∧ isHeaderRow toLowercase row = true
  · rw [if_pos hheader] at hread
    cases hread
  · rw [if_neg hheader] at hread
    exact readRow_named hread

theorem turn_named {e : Employee} {rows rows' : List (Stored Employee)} (hturn : EmployeeRepository.Turn e rows rows')
    (he : e.fullName ≠ "") (h : ∀ r ∈ rows, r.val.fullName ≠ "") : ∀ r ∈ rows', r.val.fullName ≠ "" := by
  intro r hr
  cases hturn with
  | update before r₀ after _ _ =>
    rcases List.mem_append.mp hr with hr | hr
    · exact h r (List.mem_append_left _ hr)
    · rcases List.mem_cons.mp hr with rfl | hr
      · exact he
      · exact h r (List.mem_append_right _ (List.mem_cons_of_mem _ hr))
  | insert _ id _ =>
    rcases List.mem_append.mp hr with hr | hr
    · exact h r hr
    · rw [List.mem_singleton.mp hr]
      exact he

theorem run_named {batch : List Employee} {rows rows' : List (Stored Employee)}
    (hrun : EmployeeRepository.Run batch rows rows') (hbatch : ∀ e ∈ batch, e.fullName ≠ "")
    (h : ∀ r ∈ rows, r.val.fullName ≠ "") : ∀ r ∈ rows', r.val.fullName ≠ "" := by
  induction hrun with
  | nil => exact h
  | cons hturn _ ih =>
    exact ih (fun e he => hbatch e (List.mem_cons_of_mem _ he)) (turn_named hturn (hbatch _ List.mem_cons_self) h)

/-- A sync: when it is, what the sheet answers, and what its statement runs into. -/
structure SyncRun where
  now : Instant
  rows : AppResult (List (List String))
  plan : Site → Fault AppError

/-- The database after the sync. -/
def SyncRun.after (toLowercase : String → String) (db : Db) (s : SyncRun) : Db :=
  ((SyncEmployees.execute (s.rows.map (readRows toLowercase s.now))).run s.plan db).2

theorem SyncRun.named (toLowercase : String → String) (s : SyncRun) {db : Db} (h : Named db) :
    Named (s.after toLowercase db) := by
  obtain ⟨now, rows, plan⟩ := s
  cases rows with
  | error e => exact h
  | ok rows =>
    have hwrite : (SyncEmployees.execute (.ok (readRows toLowercase now rows))).Within
        fun db db' => Named db → Named db' :=
      write_within fun db => run_named (EmployeeRepository.run_batch _ db) fun _ he => readRows_named he
    exact Prog.run_within plan (fun _ h => h) (fun _ _ _ h h' hdb => h' (h hdb)) hwrite db h

theorem syncs_named (toLowercase : String → String) (syncs : List SyncRun) :
    ∀ {db : Db}, Named db → Named (syncs.foldl (SyncRun.after toLowercase) db) := by
  induction syncs with
  | nil => exact fun h => h
  | cons s syncs ih => exact fun h => ih (s.named toLowercase h)

/-- A directory that these entries have been written to. -/
def staff (es : List Employee) : Db := es.foldl EmployeeRepository.upsertEmployee Db.empty

def sampleIvan : Employee := EmployeeRepository.unnamedEntry "Иван Петров" "petrov@firm"

def sampleAnna : Employee :=
  { EmployeeRepository.unnamedEntry "Анна Соколова" "anna@firm" with telegramUsername := some "anna" }

/-- **Names and handles only.**  Databases whose active rows have the same names and handles, whatever their
order and whatever else they hold, give one digest, when no two of the names are the same. -/
theorem digest_tells_names (db db' : Db) (hnames : ((shown db).map Prod.fst).Nodup)
    (hsame : (shown db).Perm (shown db')) :
    (fetchDigest.run noFaults db).1 = (fetchDigest.run noFaults db').1 := by
  have hperm : (db.activeEmployees.map shownPart).Perm (db'.activeEmployees.map shownPart) :=
    (activeEmployees_shown db).trans (hsame.trans (activeEmployees_shown db').symm)
  have hsorted : ∀ db : Db, (db.activeEmployees.map shownPart).Pairwise fun p q => p.1 ≤ q.1 := fun db =>
    List.pairwise_map.mpr (activeEmployees_sorted db)
  have hdistinct : ((db.activeEmployees.map shownPart).map Prod.fst).Nodup :=
    ((activeEmployees_shown db).map Prod.fst).nodup_iff.mpr hnames
  have hshown : db.activeEmployees.map shownPart = db'.activeEmployees.map shownPart :=
    hperm.eq_of_pairwise
      (fun p q hp hq hpq hqp =>
        List.inj_on_of_nodup_map hdistinct hp (hperm.mem_iff.mpr hq) (le_antisymm hpq hqp))
      (hsorted db) (hsorted db')
  rw [run_fetchDigest, run_fetchDigest, renderDigest_congr hshown]

/-- The rows in another order, and one of them with a phone. -/
theorem staffs_alike : (fetchDigest.run noFaults (staff [sampleIvan, sampleAnna])).1 =
    (fetchDigest.run noFaults (staff [sampleAnna, { sampleIvan with phone := some "112" }])).1 :=
  digest_tells_names _ _ (by decide) (by decide)

end EmployeeDirectoryDigest

end TaskBot
