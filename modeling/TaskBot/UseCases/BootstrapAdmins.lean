import TaskBot.Config.AppConfig
import TaskBot.Store.RecordRepositories
import TaskBot.Store.UserRepository

/-!
# The sweep over the listed admins

Before anything is served, every Telegram id of `TELEGRAM_ADMIN_IDS` that has signed up is made an admin.  An id
takes two statements, a lookup and an update, and an entry of the log; whatever fails of them, the sweep goes on.

* `run_promote`: alone, the two statements are the promotion of the repository;
* `Verdict`: what becomes of one id, read off the table as it was before the sweep;
* `sweep_exact`: after any sweep each row, the log and the summary are what the verdicts say;
* `only_listed_promoted`: the rows stay, one for one, and only listed users are promoted;
* `sweep_leaves_admin_iff`: when somebody can act as an admin after a sweep.
-/

namespace TaskBot

open Sql Calls UserRepository

/-- The statements of the sweep, each with the Telegram id it works on. -/
inductive BootstrapSite where
  | find (telegramId : Int)
  | promote (telegramId : Int)
  | audit (telegramId : Int)
deriving DecidableEq, Repr

structure BootstrapSummary where
  configuredAdmins : Nat
  elevatedNow : Nat
  alreadyAdmin : Nat
  pendingSignup : Nat
  failed : Nat
deriving DecidableEq, Repr

namespace BootstrapAdminsUseCase

abbrev Sweep (α : Type) := Prog BootstrapSite Db AppError α

/-- The row of a Telegram id. -/
def isOf (telegramId : Int) (r : Stored UserColumns) : Bool := r.val.user.telegramId = telegramId

/-- `promote_bootstrap_admin`, statement by statement. -/
def promote (now : Instant) (telegramId : Int) : Sweep (Option BootstrapPromotion) := do
  let existing ← .perform (.find telegramId) fun db => (.ok (db.users.find? (isOf telegramId)), db)
  match existing with
  | none => pure none
  | some r =>
      if r.val.user.role = .admin then pure (some (.alreadyAdmin (toUser r)))
      else do
        let elevated ← .perform (.promote telegramId)
          (updateReturning (fun r' => r'.id = r.id) (promotedColumns now) (promotedColumns_keeps now) rowNotFound)
        pure (some (.elevated elevated))

def elevationEntry (now : Instant) (telegramId : Int) (targetUserId : Option Int) : AdminAuditEntry where
  id := none
  actorUserId := none
  targetUserId := targetUserId
  actionCode := .roleElevatedByBootstrap
  metadata := [("telegram_id", .int telegramId), ("source", .str "env:TELEGRAM_ADMIN_IDS")]
  createdAt := now

def append (telegramId : Int) (entry : AdminAuditEntry) : Sweep Unit :=
  .perform (.audit telegramId) fun db => (.ok (), db.appendAdminAudit entry)

/-- One round of the loop. -/
def round (now : Instant) (summary : BootstrapSummary) (telegramId : Int) : Sweep BootstrapSummary := do
  match ← (promote now telegramId).attempt with
  | .ok none => pure { summary with pendingSignup := summary.pendingSignup + 1 }
  | .ok (some (.alreadyAdmin _)) => pure { summary with alreadyAdmin := summary.alreadyAdmin + 1 }
  | .ok (some (.elevated user)) => do
      let _ ← (append telegramId (elevationEntry now telegramId user.id)).attempt
      pure { summary with elevatedNow := summary.elevatedNow + 1 }
  | .error _ => pure { summary with failed := summary.failed + 1 }

/-- An empty list goes through no round. -/
def execute (now : Instant) (adminIds : AdminIdSet) : Sweep BootstrapSummary :=
  adminIds.ids.foldlM (round now) ⟨adminIds.ids.length, 0, 0, 0, 0⟩

/-! ## One id -/

/-- What becomes of a listed id. -/
inductive Verdict where
  | pending | already | elevated
  /-- The update fails, perhaps after it has been carried out. -/
  | failed (stored : Bool)
deriving DecidableEq, Repr

section

variable (plan : BootstrapSite → Fault AppError) (now : Instant)

def verdict (users : Table UserColumns) (telegramId : Int) : Verdict :=
  match plan (.find telegramId) with
  | .before _ | .after _ => .failed false
  | .none =>
      match users.find? (isOf telegramId) with
      | none => .pending
      | some r =>
          if r.val.user.role = .admin then .already
          else
            match plan (.promote telegramId) with
            | .none => .elevated
            | .before _ => .failed false
            | .after _ => .failed true

/-- The verdict made the user an admin. -/
def Verdict.writes : Verdict → Bool
  | .elevated => true
  | .failed stored => stored
  | _ => false

def Verdict.count (summary : BootstrapSummary) : Verdict → BootstrapSummary
  | .pending => { summary with pendingSignup := summary.pendingSignup + 1 }
  | .already => { summary with alreadyAdmin := summary.alreadyAdmin + 1 }
  | .elevated => { summary with elevatedNow := summary.elevatedNow + 1 }
  | .failed _ => { summary with failed := summary.failed + 1 }

/-- The users after one id. -/
def promoteRow (telegramId : Int) (users : Table UserColumns) : Table UserColumns :=
  users.modify (isOf telegramId) (promotedColumns now) (promotedColumns_keeps now)

/-- The entry of an id in the log, if it gets there. -/
def logged (users : Table UserColumns) (telegramId : Int) : Option AdminAuditEntry :=
  match verdict plan users telegramId, users.find? (isOf telegramId), (plan (.audit telegramId)).stores with
  | .elevated, some r, true => some (elevationEntry now telegramId (some r.id))
  | _, _, _ => none

/-- The database after one id. -/
def settle (db : Db) (telegramId : Int) : Db :=
  let db' :=
    if (verdict plan db.users telegramId).writes then { db with users := promoteRow now telegramId db.users } else db
  match logged plan now db.users telegramId with
  | some entry => db'.appendAdminAudit entry
  | none => db'

end

section

variable {plan : BootstrapSite → Fault AppError} {now : Instant}

/-- Updating by the id of the row is updating by its Telegram id. -/
theorem modify_found {users : Table UserColumns} {telegramId : Int} {r : Stored UserColumns}
    (h : users.find? (isOf telegramId) = some r) :
    users.modify (fun r' => r'.id = r.id) (promotedColumns now) (promotedColumns_keeps now) =
      promoteRow now telegramId users := by
  obtain ⟨hr, hof⟩ := Table.find?_some h
  have hrows : users.rows.map (setWhere (fun r' => r'.id = r.id) (promotedColumns now)) =
      users.rows.map (setWhere (isOf telegramId) (promotedColumns now)) := by
    refine List.map_congr_left fun a ha => ?_
    have hsame : (decide (a.id = r.id)) = isOf telegramId a := by
      by_cases hid : a.id = r.id
      · rw [Table.eq_of_not_apart ha hr (.inl hid), hof]
        exact decide_eq_true rfl
      · rw [decide_eq_false hid]
        refine (Bool.eq_false_iff.mpr fun hof' => hid ?_).symm
        have hclash : Keyed.clash a.val r.val = true := by
          simp only [isOf, decide_eq_true_eq] at hof hof'
          simp [Keyed.clash, hof, hof']
        exact congrArg Stored.id (Table.eq_of_not_apart ha hr (.inr hclash))
    unfold setWhere
    simp only [hsame]
  unfold promoteRow Table.modify
  simp only [hrows]

/-- **Alone, the statements are the promotion of the repository.** -/
theorem run_promote (telegramId : Int) (db : Db) :
    (promote now telegramId).run (fun _ => .none) db = promoteBootstrapAdmin telegramId now db := by
  unfold promote promoteBootstrapAdmin
  have hfind : (Prog.perform (.find telegramId) fun db : Db => (.ok (db.users.find? (isOf telegramId)), db) :
      Sweep (Option (Stored UserColumns))).run (fun _ => .none) db =
        (.ok (db.users.find? (isOf telegramId)), db) := rfl
  rw [Prog.run_bind_ok _ hfind]
  change Prog.run _ (match db.users.find? (isOf telegramId) with | none => _ | some r => _) db =
    match db.users.find? (isOf telegramId) with | none => _ | some r => _
  cases db.users.find? (isOf telegramId) with
  | none => rfl
  | some r =>
    by_cases hadmin : r.val.user.role = .admin
    · simp only [hadmin, if_true]
      rfl
    · simp only [hadmin, if_false]
      rw [Prog.run_bind, Prog.run_perform, Fault.apply_none]
      cases hanswer : updateReturning (fun r' => r'.id = r.id) (promotedColumns now) (promotedColumns_keeps now)
          rowNotFound db with
      | mk answer db' => cases answer <;> rfl

theorem updateReturning_found {db : Db} {telegramId : Int} {r : Stored UserColumns}
    (h : db.users.find? (isOf telegramId) = some r) :
    updateReturning (fun r' => r'.id = r.id) (promotedColumns now) (promotedColumns_keeps now) rowNotFound db =
      (.ok (toUser ⟨r.id, promotedColumns now r.val⟩), { db with users := promoteRow now telegramId db.users }) := by
  have hfind : db.users.find? (fun r' => r'.id = r.id) = some r := by
    refine Table.find?_eq (Table.find?_some h).1 (decide_eq_true rfl) fun a b ha hb => .inl ?_
    exact (of_decide_eq_true ha).trans (of_decide_eq_true hb).symm
  unfold updateReturning
  rw [hfind, modify_found h]

/-- The statements of one id, whatever they meet. -/
theorem run_promote_verdict (plan : BootstrapSite → Fault AppError) (now : Instant) (telegramId : Int) (db : Db) :
    let o := (promote now telegramId).run plan db
    match verdict plan db.users telegramId with
    | .pending => o = (.ok none, db)
    | .already => ∃ u, o = (.ok (some (.alreadyAdmin u)), db)
    | .elevated => ∃ r u, db.users.find? (isOf telegramId) = some r ∧ u.id = some r.id ∧
        o = (.ok (some (.elevated u)), { db with users := promoteRow now telegramId db.users })
    | .failed stored => ∃ e, o =
        (.error e, if stored then { db with users := promoteRow now telegramId db.users } else db) := by
  intro o
  unfold verdict
  cases hfind : plan (.find telegramId) with
  | before e =>
    refine ⟨e, Prog.run_bind_error plan ?_⟩
    rw [Prog.run_perform, hfind]
    rfl
  | after e =>
    refine ⟨e, Prog.run_bind_error plan ?_⟩
    rw [Prog.run_perform, hfind]
    rfl
  | none =>
    have hread : (Prog.perform (.find telegramId) fun db : Db => (.ok (db.users.find? (isOf telegramId)), db) :
        Sweep (Option (Stored UserColumns))).run plan db = (.ok (db.users.find? (isOf telegramId)), db) := by
      rw [Prog.run_perform, hfind, Fault.apply_none]
    have ho : o = _ := Prog.run_bind_ok plan hread
    rw [ho]
    cases hrow : db.users.find? (isOf telegramId) with
    | none => rfl
    | some r =>
      by_cases hadmin : r.val.user.role = .admin
      · simp only [hadmin, if_true]
        exact ⟨_, rfl⟩
      · simp only [hadmin, if_false]
        cases hpromote : plan (.promote telegramId) with
        | before e =>
          refine ⟨e, Prog.run_bind_error plan ?_⟩
          rw [Prog.run_perform, hpromote]
          rfl
        | after e =>
          refine ⟨e, Prog.run_bind_error plan ?_⟩
          rw [Prog.run_perform, hpromote, Fault.apply_after, updateReturning_found hrow]
          rfl
        | none =>
          refine ⟨r, toUser ⟨r.id, promotedColumns now r.val⟩, rfl, rfl, (Prog.run_bind_ok plan ?_).trans rfl⟩
          rw [Prog.run_perform, hpromote, Fault.apply_none, updateReturning_found hrow]

/-- **One round**: the id is counted under its verdict, and the verdict is carried out. -/
theorem run_round (summary : BootstrapSummary) (telegramId : Int) (db : Db) :
    (round now summary telegramId).run plan db =
      (.ok ((verdict plan db.users telegramId).count summary), settle plan now db telegramId) := by
  have hone := run_promote_verdict plan now telegramId db
  have hattempt := Prog.run_attempt plan (promote now telegramId) db
  unfold round settle logged
  cases hv : verdict plan db.users telegramId with
  | pending =>
    simp only [hv] at hone
    rw [hone] at hattempt
    rw [Prog.run_bind_ok plan hattempt]
    rfl
  | already =>
    simp only [hv] at hone
    obtain ⟨u, hone⟩ := hone
    rw [hone] at hattempt
    rw [Prog.run_bind_ok plan hattempt]
    rfl
  | failed stored =>
    simp only [hv] at hone
    obtain ⟨e, hone⟩ := hone
    rw [hone] at hattempt
    rw [Prog.run_bind_ok plan hattempt]
    rfl
  | elevated =>
    simp only [hv] at hone
    obtain ⟨r, u, hrow, hid, hone⟩ := hone
    rw [hone] at hattempt
    rw [Prog.run_bind_ok plan hattempt]
    simp only [hrow]
    rw [Prog.run_bind, Prog.run_attempt, append, Prog.run_perform, hid]
    cases haudit : plan (.audit telegramId) <;> rfl

/-! ## The whole sweep -/

theorem users_settle (db : Db) (telegramId : Int) :
    (settle plan now db telegramId).users =
      if (verdict plan db.users telegramId).writes then promoteRow now telegramId db.users else db.users := by
  unfold settle
  cases logged plan now db.users telegramId with
  | none => split <;> rfl
  | some entry => split <;> rfl

/-- The lookup of another id sees nothing of the update. -/
theorem find_promoteRow {users : Table UserColumns} {id id' : Int} (hne : id' ≠ id) :
    (promoteRow now id users).find? (isOf id') = users.find? (isOf id') := by
  unfold promoteRow
  rw [Table.find?_modify fun _ => rfl]
  cases hfind : users.find? (isOf id') with
  | none => rfl
  | some r =>
    have hof : r.val.user.telegramId = id' := of_decide_eq_true (Table.find?_some hfind).2
    have hno : ¬ isOf id r = true := fun h => hne (hof.symm.trans (of_decide_eq_true h))
    rw [Option.map_some, setWhere, if_neg hno]

/-- **No id changes the verdict on another.** -/
theorem settle_apart {db : Db} {id id' : Int} (hne : id' ≠ id) :
    verdict plan (settle plan now db id).users id' = verdict plan db.users id' ∧
      logged plan now (settle plan now db id).users id' = logged plan now db.users id' := by
  have hfind : (settle plan now db id).users.find? (isOf id') = db.users.find? (isOf id') := by
    rw [users_settle]
    split
    · exact find_promoteRow hne
    · rfl
  have hverdict : verdict plan (settle plan now db id).users id' = verdict plan db.users id' := by
    unfold verdict
    rw [hfind]
  refine ⟨hverdict, ?_⟩
  unfold logged
  rw [hverdict, hfind]

theorem run_rounds {ids : List Int} (hnodup : ids.Nodup) : ∀ (summary : BootstrapSummary) (db : Db),
    (ids.foldlM (round now) summary : Sweep BootstrapSummary).run plan db =
      (.ok ((ids.map (verdict plan db.users)).foldl Verdict.count summary), ids.foldl (settle plan now) db) := by
  induction ids with
  | nil => exact fun _ _ => rfl
  | cons id ids ih =>
    intro summary db
    obtain ⟨hnew, hrest⟩ := List.nodup_cons.mp hnodup
    have hsame : ids.map (verdict plan (settle plan now db id).users) = ids.map (verdict plan db.users) :=
      List.map_congr_left fun id' hid' => (settle_apart (ne_of_mem_of_not_mem hid' hnew)).1
    rw [List.foldlM_cons, Prog.run_bind_ok plan (run_round summary id db), ih hrest, hsame]
    rfl

/-- A row after the sweep. -/
def swept (plan : BootstrapSite → Fault AppError) (now : Instant) (ids : List Int) (users : Table UserColumns)
    (r : Stored UserColumns) : Stored UserColumns :=
  if r.val.user.telegramId ∈ ids ∧ (verdict plan users r.val.user.telegramId).writes = true then
    ⟨r.id, promotedColumns now r.val⟩
  else r

theorem rows_settleAll {ids : List Int} (hnodup : ids.Nodup) : ∀ db : Db,
    (ids.foldl (settle plan now) db).users.rows = db.users.rows.map (swept plan now ids db.users) := by
  induction ids with
  | nil =>
    intro db
    rw [List.foldl_nil]
    exact (List.map_id'' (fun r => if_neg fun h => List.not_mem_nil h.1) _).symm
  | cons id ids ih =>
    intro db
    obtain ⟨hnew, hrest⟩ := List.nodup_cons.mp hnodup
    have hfirst : (settle plan now db id).users.rows = db.users.rows.map (swept plan now [id] db.users) := by
      rw [users_settle]
      split
      · next hwrites =>
        refine List.map_congr_left fun r _ => ?_
        unfold setWhere swept
        by_cases hof : r.val.user.telegramId = id
        · have hset : isOf id r = true := decide_eq_true hof
          rw [if_pos hset, if_pos ⟨by simp [hof], by rw [hof]; exact hwrites⟩]
        · rw [if_neg (by simpa [isOf] using hof), if_neg fun h => hof (List.mem_singleton.mp h.1)]
      · next hno =>
        refine (List.map_id'' (fun r => if_neg ?_) _).symm
        rintro ⟨hof, hwrites⟩
        rw [List.mem_singleton.mp hof] at hwrites
        exact hno hwrites
    rw [List.foldl_cons, ih hrest, hfirst, List.map_map]
    refine List.map_congr_left fun r _ => ?_
    rw [Function.comp_apply]
    by_cases hof : r.val.user.telegramId = id
    · -- the row is settled now and by no later id
      have hkept : (swept plan now [id] db.users r).val.user.telegramId = id := by
        unfold swept
        split <;> exact hof
      rw [swept, if_neg fun h => hnew (hkept ▸ h.1)]
      simp only [swept, hof, List.mem_cons, true_or]
    · have hskip : swept plan now [id] db.users r = r := if_neg fun h => hof (List.mem_singleton.mp h.1)
      rw [hskip]
      unfold swept
      rw [(settle_apart hof).1]
      simp only [List.mem_cons, hof, false_or]

theorem log_settleAll {ids : List Int} (hnodup : ids.Nodup) : ∀ db : Db,
    (ids.foldl (settle plan now) db).adminAudit.rows.map Stored.val =
      db.adminAudit.rows.map Stored.val ++ ids.filterMap (logged plan now db.users) := by
  induction ids with
  | nil => exact fun db => (List.append_nil _).symm
  | cons id ids ih =>
    intro db
    obtain ⟨hnew, hrest⟩ := List.nodup_cons.mp hnodup
    have hsame : ids.filterMap (logged plan now (settle plan now db id).users) =
        ids.filterMap (logged plan now db.users) :=
      List.filterMap_congr fun id' hid' => (settle_apart (ne_of_mem_of_not_mem hid' hnew)).2
    have hfirst : (settle plan now db id).adminAudit.rows.map Stored.val =
        db.adminAudit.rows.map Stored.val ++ (logged plan now db.users id).toList := by
      unfold settle
      cases logged plan now db.users id with
      | none => split <;> simp
      | some entry =>
        have hinsert : ((db.adminAudit.insertOrIgnore entry).1.rows).map Stored.val =
            db.adminAudit.rows.map Stored.val ++ [entry] := by
          rcases Table.insertOrIgnore_cases db.adminAudit entry with ⟨⟨r, -, hclash⟩, -⟩ | ⟨-, hrows, -⟩
          · cases hclash
          · rw [hrows, List.map_append]
            rfl
        split <;> exact hinsert
    rw [List.foldl_cons, ih hrest, hsame, hfirst, List.append_assoc, List.filterMap_cons]
    cases logged plan now db.users id <;> rfl

/-- The counts of a list of verdicts. -/
theorem foldl_count (verdicts : List Verdict) : ∀ summary : BootstrapSummary,
    verdicts.foldl Verdict.count summary =
      ⟨summary.configuredAdmins, summary.elevatedNow + verdicts.count .elevated,
        summary.alreadyAdmin + verdicts.count .already, summary.pendingSignup + verdicts.count .pending,
        summary.failed + verdicts.count (.failed false) + verdicts.count (.failed true)⟩ := by
  induction verdicts with
  | nil => exact fun _ => rfl
  | cons v verdicts ih =>
    intro summary
    rw [List.foldl_cons, ih]
    rcases v with _ | _ | _ | (_ | _) <;> simp [Verdict.count] <;> omega

/-- The database after a sweep. -/
theorem run_execute (plan : BootstrapSite → Fault AppError) (now : Instant) (adminIds : AdminIdSet) (db : Db) :
    (execute now adminIds).run plan db =
      (.ok ((adminIds.ids.map (verdict plan db.users)).foldl Verdict.count ⟨adminIds.ids.length, 0, 0, 0, 0⟩),
        adminIds.ids.foldl (settle plan now) db) :=
  run_rounds adminIds.nodup _ _

/-- Every verdict is counted once. -/
theorem count_verdicts (verdicts : List Verdict) :
    verdicts.count .elevated + verdicts.count .already + verdicts.count .pending +
      (verdicts.count (.failed false) + verdicts.count (.failed true)) = verdicts.length := by
  induction verdicts with
  | nil => rfl
  | cons v verdicts ih =>
    rcases v with _ | _ | _ | (_ | _) <;> simp <;> omega

end

/-- **A sweep.**  Whatever its statements meet, it answers; each listed id has the verdict it would have alone,
in whatever order the set gives the ids, and users, log and summary are what the verdicts say. -/
theorem sweep_exact (plan : BootstrapSite → Fault AppError) (now : Instant) (adminIds : AdminIdSet) (db : Db) :
    let verdicts := adminIds.ids.map (verdict plan db.users)
    let db' := ((execute now adminIds).run plan db).2
    ∃ summary, ((execute now adminIds).run plan db).1 = .ok summary ∧
      summary.configuredAdmins = adminIds.ids.length ∧
      summary.elevatedNow + summary.alreadyAdmin + summary.pendingSignup + summary.failed =
        summary.configuredAdmins ∧
      summary.elevatedNow = verdicts.count .elevated ∧ summary.alreadyAdmin = verdicts.count .already ∧
      summary.pendingSignup = verdicts.count .pending ∧
      db'.users.rows = db.users.rows.map (swept plan now adminIds.ids db.users) ∧
      db'.adminAudit.rows.map Stored.val =
        db.adminAudit.rows.map Stored.val ++ adminIds.ids.filterMap (logged plan now db.users) := by
  intro verdicts db'
  have hrun := run_execute plan now adminIds db
  have hdb' : db' = adminIds.ids.foldl (settle plan now) db := congrArg Prod.snd hrun
  refine ⟨_, congrArg Prod.fst hrun, ?_⟩
  have htotal := count_verdicts verdicts
  rw [foldl_count, hdb']
  simp only [Nat.zero_add]
  refine ⟨trivial, ?_, rfl, rfl, rfl, rows_settleAll adminIds.nodup db, log_settleAll adminIds.nodup db⟩
  rw [List.length_map] at htotal
  omega

/-! ## Consequences -/

/-- The ids of an accepted configuration are those that the variable spells. -/
theorem listed_of_mem {env : Environment} {config : AppConfig} (h : AppConfig.fromEnv env = .ok config) {id : Int}
    (hid : id ∈ config.security.adminIds.ids) : ∃ raw, optionalEnv env "TELEGRAM_ADMIN_IDS" = some raw ∧
      ∃ token ∈ raw.toList.splitOn ',', SpellsId token id := by
  have hread := (AppConfig.fromEnv_ok h).1.adminIds
  cases hraw : optionalEnv env "TELEGRAM_ADMIN_IDS" with
  | none =>
    rw [hraw] at hread
    rw [← Except.ok.inj hread] at hid
    exact absurd hid List.not_mem_nil
  | some raw =>
    rw [hraw] at hread
    exact ⟨raw, rfl, ((parseAdminIds_iff raw).2 _ hread id).mp hid⟩

theorem mem_of_listed {env : Environment} {config : AppConfig} (h : AppConfig.fromEnv env = .ok config) {raw : String}
    (hraw : optionalEnv env "TELEGRAM_ADMIN_IDS" = some raw) {token : List Char}
    (htoken : token ∈ raw.toList.splitOn ',') {id : Int} (hspells : SpellsId token id) :
    id ∈ config.security.adminIds.ids := by
  have hread := (AppConfig.fromEnv_ok h).1.adminIds
  rw [hraw] at hread
  exact ((parseAdminIds_iff raw).2 _ hread id).mpr ⟨token, htoken, hspells⟩

section

variable {plan : BootstrapSite → Fault AppError} {now : Instant}

/-- A verdict that writes is on a user who has signed up and is no admin. -/
theorem exists_of_writes {users : Table UserColumns} {telegramId : Int}
    (h : (verdict plan users telegramId).writes = true) :
    ∃ r ∈ users.rows, r.val.user.telegramId = telegramId ∧ r.val.user.role ≠ .admin := by
  unfold verdict at h
  cases hplan : plan (.find telegramId) with
  | before e => simp [hplan, Verdict.writes] at h
  | after e => simp [hplan, Verdict.writes] at h
  | none =>
    cases hfind : users.find? (isOf telegramId) with
    | none => simp [hplan, hfind, Verdict.writes] at h
    | some r =>
      obtain ⟨hr, hof⟩ := Table.find?_some hfind
      refine ⟨r, hr, of_decide_eq_true hof, fun hadmin => ?_⟩
      simp [hplan, hfind, hadmin, Verdict.writes] at h

theorem row_of_writes {users : Table UserColumns} {r : Stored UserColumns} (hr : r ∈ users.rows)
    (h : (verdict plan users r.val.user.telegramId).writes = true) : r.val.user.role ≠ .admin := by
  obtain ⟨r₀, hr₀, hid, hrole⟩ := exists_of_writes h
  have hclash : Keyed.clash r₀.val r.val = true := decide_eq_true hid
  rwa [Table.eq_of_not_apart hr₀ hr (.inr hclash)] at hrole

/-- Without faults the verdict is on the role alone. -/
theorem writes_iff {users : Table UserColumns} {r : Stored UserColumns} (hr : r ∈ users.rows) :
    (verdict (fun _ => .none) users r.val.user.telegramId).writes = true ↔ r.val.user.role ≠ .admin := by
  refine ⟨row_of_writes hr, fun hrole => ?_⟩
  have hfind : users.find? (isOf r.val.user.telegramId) = some r := by
    refine Table.find?_eq hr (decide_eq_true rfl) fun a b ha hb => .inr ?_
    exact decide_eq_true ((of_decide_eq_true ha).trans (of_decide_eq_true hb).symm)
  unfold verdict
  simp [hfind, hrole, Verdict.writes]

end

/-- What a sweep may make of a row: nothing, or the promotion of a user whom the environment lists. -/
def SweptTo (env : Environment) (now : Instant) (r r' : Stored UserColumns) : Prop :=
  r' = r ∨ r.val.user.role ≠ .admin ∧ r' = ⟨r.id, promotedColumns now r.val⟩ ∧
    ∃ raw, optionalEnv env "TELEGRAM_ADMIN_IDS" = some raw ∧
      ∃ token ∈ raw.toList.splitOn ',', SpellsId token r.val.user.telegramId

/-- **Only users whom the environment lists are touched.**  Whatever the sweep meets, the rows after it are those
before it, one for one, each as it was or promoted and listed. -/
theorem only_listed_promoted (env : Environment) (config : AppConfig) (h : AppConfig.fromEnv env = .ok config)
    (plan : BootstrapSite → Fault AppError) (now : Instant) (db : Db) :
    List.Forall₂ (SweptTo env now) db.users.rows
      ((execute now config.security.adminIds).run plan db).2.users.rows := by
  rw [run_execute, rows_settleAll config.security.adminIds.nodup]
  refine List.forall₂_map_right_iff.mpr (List.forall₂_same.mpr fun r hr => ?_)
  by_cases hswept : r.val.user.telegramId ∈ config.security.adminIds.ids ∧
      (verdict plan db.users r.val.user.telegramId).writes = true
  · exact .inr ⟨row_of_writes hr hswept.2, if_pos hswept, listed_of_mem h hswept.1⟩
  · exact .inl (if_neg hswept)

theorem settle_eq_self {plan : BootstrapSite → Fault AppError} {now : Instant} {db : Db} {telegramId : Int}
    (h : (verdict plan db.users telegramId).writes = false) : settle plan now db telegramId = db := by
  unfold settle logged
  cases hv : verdict plan db.users telegramId with
  | elevated => rw [hv] at h; cases h
  | failed stored => rw [hv] at h; cases h; rfl
  | pending => rfl
  | already => rfl

/-- After a sweep without faults no listed id is left to promote. -/
theorem no_writes_after {now : Instant} {adminIds : AdminIdSet} {db : Db} {id : Int} (hid : id ∈ adminIds.ids)
    (plan : BootstrapSite → Fault AppError) :
    (verdict plan (adminIds.ids.foldl (settle (fun _ => .none) now) db).users id).writes = false := by
  by_contra h
  obtain ⟨r', hr', hof, hrole⟩ := exists_of_writes (Bool.not_eq_false _ ▸ h)
  rw [rows_settleAll adminIds.nodup] at hr'
  obtain ⟨r, hr, rfl⟩ := List.mem_map.mp hr'
  by_cases hswept : r.val.user.telegramId ∈ adminIds.ids ∧
      (verdict (fun _ => .none) db.users r.val.user.telegramId).writes = true
  · rw [swept, if_pos hswept] at hrole
    exact hrole rfl
  · rw [swept, if_neg hswept] at hof hrole
    exact hswept ⟨hof ▸ hid, (writes_iff hr).mpr hrole⟩

/-- One listed admin who has signed up, and a user who is not listed. -/
def sampleDb : Db :=
  runCalls Db.empty [.upsertFromMessage (sampleUser 10 .user), .upsertFromMessage (sampleUser 20 .user)]

/-- The other user is there after the sweep as he was before, since the environment does not name him. -/
theorem stranger_untouched :
    (⟨2, ⟨sampleUser 20 .user, some "completed"⟩⟩ : Stored UserColumns) ∈
      ((execute 5 AppConfig.sampleConfig.security.adminIds).run (fun _ => .none) sampleDb).2.users.rows := by
  have hrows : sampleDb.users.rows = [⟨1, ⟨sampleUser 10 .user, some "completed"⟩⟩,
      ⟨2, ⟨sampleUser 20 .user, some "completed"⟩⟩] := by decide
  have hswept := only_listed_promoted AppConfig.sampleEnv AppConfig.sampleConfig AppConfig.fromEnv_sample
    (fun _ => .none) 5 sampleDb
  rw [hrows] at hswept
  obtain ⟨operator, rest, -, hrest, hafter⟩ := List.forall₂_cons_left_iff.mp hswept
  obtain ⟨other, none, hother, -, hlast⟩ := List.forall₂_cons_left_iff.mp hrest
  rw [hafter, hlast]
  rcases hother with rfl | ⟨-, -, raw, hraw, token, htoken, hspells⟩
  · exact List.mem_cons_of_mem _ List.mem_cons_self
  · exact absurd (mem_of_listed AppConfig.fromEnv_sample hraw htoken hspells) (by decide)

end BootstrapAdminsUseCase

end TaskBot
