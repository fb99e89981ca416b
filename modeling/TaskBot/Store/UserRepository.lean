import TaskBot.Store.Db

/-!
# User repository

Every writer of the `users` table.  Each call is one transaction, so a run of
the system is a list of calls (`UserCall`, `runCalls`).

* `active_of_modify`: an update keeps the last active admin active, or spares
  another one;
* `exec_keeps_active`: so does every call, whatever row it rewrites;
* `last_admin_safe`: an active admin never disappears, and a refused demotion or
  deactivation leaves the table as it was.
-/

namespace TaskBot

open Sql Calls

/-- Result of `promote_bootstrap_admin`. -/
inductive BootstrapPromotion where
  | elevated (u : User)
  | alreadyAdmin (u : User)
deriving DecidableEq, Repr

namespace UserRepository

/-! ## Statements -/

def findById (id : Int) : Proc (Option User) :=
  select (.userFindById id) fun db => .ok ((db.users.find? fun r => r.id = id).map toUser)

def findByTelegramId (telegramId : Int) : Proc (Option User) :=
  select (.userFindByTelegramId telegramId) fun db =>
    .ok ((db.users.find? fun r => r.val.user.telegramId = telegramId).map toUser)

/-- SQLite's `lower`: ASCII letters only. -/
def sqlLower (s : String) : String := String.ofList (s.toList.map Char.toLower)

/-- `username.trim_start_matches('@')`. -/
def withoutAt (s : String) : String := String.ofList (s.toList.dropWhile (· = '@'))

def hasUsername (username : String) (r : Stored UserColumns) : Bool :=
  match r.val.user.telegramUsername with
  | some u => sqlLower u = sqlLower (withoutAt username)
  | none => false

def findByUsername (username : String) : Proc (Option User) :=
  select (.userFindByUsername username) fun db => .ok ((db.users.find? (hasUsername username)).map toUser)

/-- `UPDATE users SET f WHERE q RETURNING …`. -/
def updateReturning (q : Stored UserColumns → Bool) (f : UserColumns → UserColumns) (hf : KeepsKeys f)
    (missing : AppError) (db : Db) : AppResult User × Db :=
  match db.users.find? q with
  | none => (.error missing, db)
  | some r => (.ok (toUser ⟨r.id, f r.val⟩), { db with users := db.users.modify q f hf })

/-- `fetch_one` found no row. -/
def rowNotFound : AppError := databaseError "no rows returned by a query that expected to return at least one row"

def userNotFound (userId : Int) : AppError :=
  .notFound "USER_NOT_FOUND" "Target user does not exist" [("user_id", .int userId)]

/-- `DO UPDATE SET` of the upsert: `excluded` is the row that was to be inserted. -/
def mergeFromMessage (excluded : User) (c : UserColumns) : UserColumns :=
  { c with
    user :=
      { c.user with
        lastChatId := excluded.lastChatId
        telegramUsername := excluded.telegramUsername
        fullName := excluded.fullName
        firstName := excluded.firstName.or c.user.firstName
        lastName := excluded.lastName.or c.user.lastName
        linkedEmployeeId := excluded.linkedEmployeeId.or c.user.linkedEmployeeId
        isEmployee := c.user.isEmployee || excluded.isEmployee
        updatedAt := excluded.updatedAt } }

theorem mergeFromMessage_keeps (excluded : User) : KeepsKeys (mergeFromMessage excluded) :=
  fun _ _ => rfl

def upsertUser (user : User) (db : Db) : AppResult User × Db :=
  match db.users.find? fun r => r.val.user.telegramId = user.telegramId with
  | some r =>
      (.ok (toUser ⟨r.id, mergeFromMessage user r.val⟩),
        { db with
          users := db.users.modify (fun r => r.val.user.telegramId = user.telegramId)
            (mergeFromMessage user) (mergeFromMessage_keeps user) })
  | none =>
      let columns : UserColumns := ⟨user, some user.onboardingState.asStorageValue⟩
      (.ok (toUser ⟨db.users.nextId, columns⟩),
        { db with users := (db.users.insertOrIgnore columns).1 })

def upsertFromMessage (user : User) : Proc User :=
  .perform (.userUpsert user.telegramId) (upsertUser user)

def hasTelegramId (telegramId : Int) (r : Stored UserColumns) : Bool := r.val.user.telegramId = telegramId

/-- The upsert rewrites the row with the telegram id, or appends one. -/
theorem upsertUser_cases (user : User) (db : Db) :
    ((∃ r ∈ db.users.rows, r.val.user.telegramId = user.telegramId) ∧
      (upsertUser user db).2.users.rows =
        db.users.rows.map (setWhere (hasTelegramId user.telegramId) (mergeFromMessage user))) ∨
    ((∀ r ∈ db.users.rows, r.val.user.telegramId ≠ user.telegramId) ∧
      (upsertUser user db).2.users.rows =
        db.users.rows ++ [⟨db.users.nextId, ⟨user, some user.onboardingState.asStorageValue⟩⟩]) := by
  unfold upsertUser
  cases hf : db.users.find? fun r => r.val.user.telegramId = user.telegramId with
  | some r =>
    obtain ⟨hr, hq⟩ := Table.find?_some hf
    rw [decide_eq_true_eq] at hq
    exact .inl ⟨⟨r, hr, hq⟩, rfl⟩
  | none =>
    have hnone : ∀ r ∈ db.users.rows, r.val.user.telegramId ≠ user.telegramId := fun r hr =>
      of_decide_eq_false (Table.find?_none hf r hr)
    refine .inr ⟨hnone, ?_⟩
    rcases Table.insertOrIgnore_cases db.users ⟨user, some user.onboardingState.asStorageValue⟩ with
      ⟨⟨r, hr, hc⟩, -⟩ | ⟨-, hrows, -⟩
    · simp only [Keyed.clash, decide_eq_true_eq] at hc
      exact absurd hc (hnone r hr)
    · exact hrows

/-- After the upsert the user has a row with the chat of the message. -/
theorem exists_after_upsert (user : User) (db : Db) :
    ∃ r ∈ (upsertUser user db).2.users.rows,
      r.val.user.telegramId = user.telegramId ∧ r.val.user.lastChatId = user.lastChatId := by
  rcases upsertUser_cases user db with ⟨⟨r, hr, ht⟩, hrows⟩ | ⟨-, hrows⟩
  · rw [hrows]
    refine ⟨_, List.mem_map_of_mem hr, ?_⟩
    have hq : hasTelegramId user.telegramId r = true := decide_eq_true ht
    rw [setWhere, if_pos hq]
    exact ⟨ht, rfl⟩
  · rw [hrows]
    exact ⟨_, List.mem_append_right _ List.mem_cons_self, rfl, rfl⟩

/-- A row after the upsert of a known user: one of another user as it was, or the
row of the user, which keeps its id. -/
theorem mem_upsertUser {user : User} {db : Db}
    (hknown : ∃ r ∈ db.users.rows, r.val.user.telegramId = user.telegramId) {r : Stored UserColumns}
    (hr : r ∈ (upsertUser user db).2.users.rows) :
    r ∈ db.users.rows ∨
      ∃ r₀ ∈ db.users.rows, r₀.id = r.id ∧ r₀.val.user.telegramId = user.telegramId := by
  rcases upsertUser_cases user db with ⟨-, hrows⟩ | ⟨hnone, -⟩
  · rw [hrows] at hr
    obtain ⟨r₀, hr₀, rfl⟩ := List.mem_map.mp hr
    by_cases hq : r₀.val.user.telegramId = user.telegramId
    · exact .inr ⟨r₀, hr₀, by rw [setWhere_id], hq⟩
    · have hno : ¬ hasTelegramId user.telegramId r₀ = true := by simpa [hasTelegramId] using hq
      rw [setWhere, if_neg hno]
      exact .inl hr₀
  · obtain ⟨r₀, hr₀, ht⟩ := hknown
    exact absurd ht (hnone r₀ hr₀)

theorem upsertUser_tasks (user : User) (db : Db) : (upsertUser user db).2.tasks = db.tasks := by
  unfold upsertUser
  split <;> rfl

theorem upsertFromMessage_leavesTasks (user : User) : LeavesTasks (upsertFromMessage user) :=
  .perform (upsertUser_tasks user)

/-- The row `ensure_onboarding_session` inserts; the other columns are the defaults of the schema. -/
def onboardingRow (telegramId chatId : Int) (telegramUsername fallbackFullName : Option String)
    (now : Instant) : UserColumns where
  user :=
    { id := none
      telegramId
      lastChatId := some chatId
      telegramUsername
      fullName := fallbackFullName
      firstName := none
      lastName := none
      linkedEmployeeId := none
      isEmployee := false
      role := .user
      onboardingState := .awaitingFirstName
      onboardingVersion := 0
      timezone := defaultUserTimezone
      quietHoursStartMin := defaultQuietHoursStartMin
      quietHoursEndMin := defaultQuietHoursEndMin
      deactivatedAt := none
      createdAt := now
      updatedAt := now }
  onboardingState := some OnboardingState.awaitingFirstName.asStorageValue

def touchSession (chatId : Int) (telegramUsername : Option String) (now : Instant) (c : UserColumns) :
    UserColumns :=
  { c with user := { c.user with lastChatId := some chatId, telegramUsername, updatedAt := now } }

theorem touchSession_keeps (chatId : Int) (telegramUsername : Option String) (now : Instant) :
    KeepsKeys (touchSession chatId telegramUsername now) := fun _ _ => rfl

def ensureOnboardingSession (telegramId chatId : Int) (telegramUsername fallbackFullName : Option String)
    (now : Instant) (db : Db) : AppResult User × Db :=
  match db.users.find? fun r => r.val.user.telegramId = telegramId with
  | some r =>
      updateReturning (fun r' => r'.id = r.id) (touchSession chatId telegramUsername now)
        (touchSession_keeps chatId telegramUsername now) rowNotFound db
  | none =>
      let columns := onboardingRow telegramId chatId telegramUsername fallbackFullName now
      (.ok (toUser ⟨db.users.nextId, columns⟩),
        { db with users := (db.users.insertOrIgnore columns).1 })

def onboardingConflict (userId expectedVersion : Int) : AppError :=
  .businessRule "USER_ONBOARDING_VERSION_CONFLICT"
    "Onboarding state changed concurrently; restart the step"
    [("user_id", .int userId), ("expected_version", .int expectedVersion)]

/-- `WHERE id = ? AND onboarding_version = ?`. -/
def atVersion (userId expectedVersion : Int) (r : Stored UserColumns) : Bool :=
  r.id = userId ∧ r.val.user.onboardingVersion = expectedVersion

def progressColumns (nextState : OnboardingState) (firstName lastName : Option String) (now : Instant)
    (c : UserColumns) : UserColumns where
  user :=
    { c.user with
      firstName := firstName.or c.user.firstName
      lastName := lastName.or c.user.lastName
      onboardingVersion := c.user.onboardingVersion + 1
      updatedAt := now }
  onboardingState := some nextState.asStorageValue

theorem progressColumns_keeps (nextState : OnboardingState) (firstName lastName : Option String)
    (now : Instant) : KeepsKeys (progressColumns nextState firstName lastName now) := fun _ _ => rfl

def saveOnboardingProgress (userId expectedVersion : Int) (nextState : OnboardingState)
    (firstName lastName : Option String) (now : Instant) : Db → AppResult User × Db :=
  updateReturning (atVersion userId expectedVersion) (progressColumns nextState firstName lastName now)
    (progressColumns_keeps nextState firstName lastName now) (onboardingConflict userId expectedVersion)

def completedColumns (firstName lastName : String) (linkedEmployeeId : Option Int) (now : Instant)
    (c : UserColumns) : UserColumns where
  user :=
    { c.user with
      firstName := some firstName
      lastName := some lastName
      fullName := some (firstName ++ " " ++ lastName)
      linkedEmployeeId := linkedEmployeeId.or c.user.linkedEmployeeId
      isEmployee := c.user.isEmployee || linkedEmployeeId.isSome
      onboardingVersion := c.user.onboardingVersion + 1
      updatedAt := now }
  onboardingState := some OnboardingState.completed.asStorageValue

theorem completedColumns_keeps (firstName lastName : String) (linkedEmployeeId : Option Int)
    (now : Instant) : KeepsKeys (completedColumns firstName lastName linkedEmployeeId now) :=
  fun _ _ => rfl

def completeOnboarding (userId expectedVersion : Int) (firstName lastName : String)
    (linkedEmployeeId : Option Int) (now : Instant) : Db → AppResult User × Db :=
  updateReturning (atVersion userId expectedVersion)
    (completedColumns firstName lastName linkedEmployeeId now)
    (completedColumns_keeps firstName lastName linkedEmployeeId now) (onboardingConflict userId expectedVersion)

/-! ## Roles and activation -/

/-- `role = 'admin' AND deactivated_at IS NULL`. -/
def isActiveAdmin (c : UserColumns) : Bool := c.user.role = .admin ∧ c.user.deactivatedAt = none

def countOtherActiveAdmins (excludingUserId : Int) (db : Db) : Nat :=
  (db.users.rows.filter fun r => isActiveAdmin r.val && r.id ≠ excludingUserId).length

def lastAdminProtected (operation : String) (targetUserId : Int) (currentRole : UserRole)
    (requestedRole : Option UserRole) : AppError :=
  .businessRule "LAST_ADMIN_PROTECTED"
    "Cannot remove the last active administrator; promote another admin first"
    [("operation", .str operation), ("target_user_id", .int targetUserId),
      ("current_role", .str currentRole.toText),
      ("requested_role", jsonOpt (requestedRole.map UserRole.toText))]

def roleColumns (role : UserRole) (now : Instant) (c : UserColumns) : UserColumns :=
  { c with user := { c.user with role, updatedAt := now } }

theorem roleColumns_keeps (role : UserRole) (now : Instant) : KeepsKeys (roleColumns role now) :=
  fun _ _ => rfl

def activationColumns (deactivatedAt : Option Instant) (now : Instant) (c : UserColumns) : UserColumns :=
  { c with user := { c.user with deactivatedAt, updatedAt := now } }

theorem activationColumns_keeps (deactivatedAt : Option Instant) (now : Instant) :
    KeepsKeys (activationColumns deactivatedAt now) := fun _ _ => rfl

def setRole (targetUserId : Int) (newRole : UserRole) (now : Instant) (db : Db) : AppResult User × Db :=
  match db.users.find? fun r => r.id = targetUserId with
  | none => (.error (userNotFound targetUserId), db)
  | some target =>
      if target.val.user.role = .admin ∧ newRole ≠ .admin ∧ target.val.user.deactivatedAt = none ∧
          countOtherActiveAdmins targetUserId db = 0 then
        (.error (lastAdminProtected "set_role" targetUserId target.val.user.role (some newRole)), db)
      else
        updateReturning (fun r => r.id = targetUserId) (roleColumns newRole now)
          (roleColumns_keeps newRole now) rowNotFound db

def deactivate (targetUserId : Int) (now : Instant) (db : Db) : AppResult User × Db :=
  match db.users.find? fun r => r.id = targetUserId with
  | none => (.error (userNotFound targetUserId), db)
  | some target =>
      if target.val.user.role = .admin ∧ target.val.user.deactivatedAt = none ∧
          countOtherActiveAdmins targetUserId db = 0 then
        (.error (lastAdminProtected "deactivate" targetUserId target.val.user.role none), db)
      else
        updateReturning (fun r => r.id = targetUserId) (activationColumns (some now) now)
          (activationColumns_keeps (some now) now) rowNotFound db

def reactivate (targetUserId : Int) (now : Instant) : Db → AppResult User × Db :=
  updateReturning (fun r => r.id = targetUserId) (activationColumns none now)
    (activationColumns_keeps none now) (userNotFound targetUserId)

def promotedColumns (now : Instant) (c : UserColumns) : UserColumns :=
  { c with user := { c.user with role := .admin, deactivatedAt := none, updatedAt := now } }

theorem promotedColumns_keeps (now : Instant) : KeepsKeys (promotedColumns now) := fun _ _ => rfl

def promoteBootstrapAdmin (telegramId : Int) (now : Instant) (db : Db) :
    AppResult (Option BootstrapPromotion) × Db :=
  match db.users.find? fun r => r.val.user.telegramId = telegramId with
  | none => (.ok none, db)
  | some r =>
      if r.val.user.role = .admin then (.ok (some (.alreadyAdmin (toUser r))), db)
      else
        let o := updateReturning (fun r' => r'.id = r.id) (promotedColumns now)
          (promotedColumns_keeps now) rowNotFound db
        (o.1.map fun u => some (.elevated u), o.2)

/-! ## Active admins -/

/-- Some user is an admin who is not deactivated. -/
def HasActiveAdmin (t : Table UserColumns) : Prop := ∃ r ∈ t.rows, isActiveAdmin r.val = true

instance (t : Table UserColumns) : Decidable (HasActiveAdmin t) :=
  inferInstanceAs (Decidable (∃ r ∈ t.rows, isActiveAdmin r.val = true))

section

variable {t : Table UserColumns} {q : Stored UserColumns → Bool} {f : UserColumns → UserColumns}
  (hf : KeepsKeys f)

/-- An update that leaves every matched admin active. -/
theorem active_of_modify (h : HasActiveAdmin t)
    (hkeep : ∀ r ∈ t.rows, q r = true → isActiveAdmin r.val = true → isActiveAdmin (f r.val) = true) :
    HasActiveAdmin (t.modify q f hf) := by
  obtain ⟨r, hr, ha⟩ := h
  refine ⟨setWhere q f r, Table.mem_modify.mpr ⟨r, hr, rfl⟩, ?_⟩
  unfold setWhere
  split
  · next hq => exact hkeep r hr hq ha
  · exact ha

/-- An update that spares an active admin. -/
theorem active_of_spared {r : Stored UserColumns} (hr : r ∈ t.rows) (ha : isActiveAdmin r.val = true)
    (hq : q r = false) : HasActiveAdmin (t.modify q f hf) := by
  refine ⟨setWhere q f r, Table.mem_modify.mpr ⟨r, hr, rfl⟩, ?_⟩
  simp only [setWhere, hq, Bool.false_eq_true, if_false]
  exact ha

theorem active_of_insert (h : HasActiveAdmin t) (c : UserColumns) :
    HasActiveAdmin (t.insertOrIgnore c).1 := by
  obtain ⟨r, hr, ha⟩ := h
  exact ⟨r, Table.mem_insert_of_mem hr, ha⟩

/-- `updateReturning` with an update that leaves admins as they are. -/
theorem active_updateReturning {db : Db} {missing : AppError} (h : HasActiveAdmin db.users)
    (hkeep : ∀ c, isActiveAdmin c = true → isActiveAdmin (f c) = true) :
    HasActiveAdmin (updateReturning q f hf missing db).2.users := by
  unfold updateReturning
  split
  · exact h
  · exact active_of_modify hf h fun r _ _ => hkeep r.val

end

/-- The guard counted another active admin. -/
theorem exists_other_of_count {db : Db} {id : Int} (h : countOtherActiveAdmins id db ≠ 0) :
    ∃ r ∈ db.users.rows, isActiveAdmin r.val = true ∧ r.id ≠ id := by
  obtain ⟨r, hr⟩ := List.exists_mem_of_length_pos (Nat.pos_of_ne_zero h)
  obtain ⟨hr, hq⟩ := List.mem_filter.mp hr
  simp only [Bool.and_eq_true, decide_eq_true_eq] at hq
  exact ⟨r, hr, hq.1, hq.2⟩

/-- **A guarded update of one user**: the target is no active admin, or another one exists. -/
theorem active_of_guard {db : Db} {id : Int} {target : Stored UserColumns} {f : UserColumns → UserColumns}
    (hf : KeepsKeys f) {missing : AppError} (h : HasActiveAdmin db.users)
    (htarget : db.users.find? (fun r => r.id = id) = some target)
    (hguard : isActiveAdmin target.val = true →
      isActiveAdmin (f target.val) = true ∨ countOtherActiveAdmins id db ≠ 0) :
    HasActiveAdmin (updateReturning (fun r => r.id = id) f hf missing db).2.users := by
  unfold updateReturning
  rw [htarget]
  obtain ⟨hmem, hid⟩ := Table.find?_some htarget
  simp only [decide_eq_true_eq] at hid
  have hkeep : (isActiveAdmin target.val = true → isActiveAdmin (f target.val) = true) →
      HasActiveAdmin (db.users.modify (fun r => r.id = id) f hf) := by
    intro hk
    refine active_of_modify hf h fun r hr hq => ?_
    simp only [decide_eq_true_eq] at hq
    rw [Table.eq_of_not_apart hr hmem (.inl (hq.trans hid.symm))]
    exact hk
  by_cases ha : isActiveAdmin target.val = true
  · rcases hguard ha with hk | hc
    · exact hkeep fun _ => hk
    · obtain ⟨r, hr, har, hne⟩ := exists_other_of_count hc
      exact active_of_spared hf hr har (by simp [hne])
  · exact hkeep fun h => absurd h ha

/-! ## Runs -/

/-- A call of the repository with its arguments. -/
inductive UserCall where
  | setRole (actorUserId targetUserId : Int) (newRole : UserRole) (now : Instant)
  | deactivate (actorUserId targetUserId : Int) (now : Instant)
  | reactivate (actorUserId targetUserId : Int) (now : Instant)
  | promoteBootstrapAdmin (telegramId : Int) (now : Instant)
  | upsertFromMessage (user : User)
  | ensureOnboardingSession (telegramId chatId : Int) (telegramUsername fallbackFullName : Option String)
      (now : Instant)
  | saveOnboardingProgress (userId expectedVersion : Int) (nextState : OnboardingState)
      (firstName lastName : Option String) (now : Instant)
  | completeOnboarding (userId expectedVersion : Int) (firstName lastName : String)
      (linkedEmployeeId : Option Int) (now : Instant)
deriving DecidableEq, Repr

/-- The call as a transaction; of an answer only its error is kept. -/
def UserCall.exec (c : UserCall) (db : Db) : AppResult Unit × Db :=
  match c with
  | .setRole _ id role now => forget (UserRepository.setRole id role now db)
  | .deactivate _ id now => forget (UserRepository.deactivate id now db)
  | .reactivate _ id now => forget (UserRepository.reactivate id now db)
  | .promoteBootstrapAdmin tid now => forget (UserRepository.promoteBootstrapAdmin tid now db)
  | .upsertFromMessage user => forget (upsertUser user db)
  | .ensureOnboardingSession tid chat name full now =>
      forget (UserRepository.ensureOnboardingSession tid chat name full now db)
  | .saveOnboardingProgress id v s first last now =>
      forget (UserRepository.saveOnboardingProgress id v s first last now db)
  | .completeOnboarding id v first last link now =>
      forget (UserRepository.completeOnboarding id v first last link now db)
where
  forget {α : Type} (o : AppResult α × Db) : AppResult Unit × Db := (o.1.map fun _ => (), o.2)

/-- A run: the calls one after the other. -/
def runCalls (db : Db) (calls : List UserCall) : Db := calls.foldl (fun db c => (c.exec db).2) db

def UserCall.isDemotion : UserCall → Bool
  | .setRole .. | .deactivate .. => true
  | _ => false

/-- **No call removes the last active admin.** -/
theorem exec_keeps_active (c : UserCall) {db : Db} (h : HasActiveAdmin db.users) :
    HasActiveAdmin (c.exec db).2.users := by
  cases c with
  | setRole actor id role now =>
    simp only [UserCall.exec, UserCall.exec.forget, setRole]
    split
    · exact h
    · next target ht =>
      split
      · exact h
      · next hg =>
        refine active_of_guard (roleColumns_keeps role now) h ht fun ha => ?_
        simp only [isActiveAdmin, decide_eq_true_eq] at ha
        by_cases hr : role = .admin
        · exact .inl (by simp [isActiveAdmin, roleColumns, hr, ha.2])
        · exact .inr fun hc => hg ⟨ha.1, hr, ha.2, hc⟩
  | deactivate actor id now =>
    simp only [UserCall.exec, UserCall.exec.forget, deactivate]
    split
    · exact h
    · next target ht =>
      split
      · exact h
      · next hg =>
        refine active_of_guard (activationColumns_keeps (some now) now) h ht fun ha => .inr fun hc => ?_
        simp only [isActiveAdmin, decide_eq_true_eq] at ha
        exact hg ⟨ha.1, ha.2, hc⟩
  | reactivate actor id now =>
    refine active_updateReturning (activationColumns_keeps none now) h fun c hc => ?_
    simp only [isActiveAdmin, activationColumns, decide_eq_true_eq] at hc ⊢
    exact ⟨hc.1, trivial⟩
  | promoteBootstrapAdmin tid now =>
    simp only [UserCall.exec, UserCall.exec.forget, promoteBootstrapAdmin]
    split
    · exact h
    · split
      · exact h
      · exact active_updateReturning (promotedColumns_keeps now) h fun c _ => by
          simp [isActiveAdmin, promotedColumns]
  | upsertFromMessage user =>
    simp only [UserCall.exec, UserCall.exec.forget, upsertUser]
    split
    · exact active_of_modify (mergeFromMessage_keeps user) h fun _ _ _ ha => ha
    · exact active_of_insert h _
  | ensureOnboardingSession tid chat name full now =>
    simp only [UserCall.exec, UserCall.exec.forget, ensureOnboardingSession]
    split
    · exact active_updateReturning (touchSession_keeps chat name now) h fun _ ha => ha
    · exact active_of_insert h _
  | saveOnboardingProgress id v s first last now =>
    exact active_updateReturning (progressColumns_keeps s first last now) h fun _ ha => ha
  | completeOnboarding id v first last link now =>
    exact active_updateReturning (completedColumns_keeps first last link now) h fun _ ha => ha

theorem runCalls_keeps_active (calls : List UserCall) {db : Db} (h : HasActiveAdmin db.users) :
    HasActiveAdmin (runCalls db calls).users := by
  induction calls generalizing db with
  | nil => exact h
  | cons c calls ih => exact ih (exec_keeps_active c h)

theorem updateReturning_error {q : Stored UserColumns → Bool} {f : UserColumns → UserColumns}
    {hf : KeepsKeys f} {missing e : AppError} {db : Db}
    (h : (updateReturning q f hf missing db).1 = .error e) :
    (updateReturning q f hf missing db).2 = db := by
  unfold updateReturning at h ⊢
  split at h
  · rfl
  · cases h

/-- A refused demotion or deactivation leaves the database as it was. -/
theorem refused_demotion {c : UserCall} (hc : c.isDemotion = true) {db : Db} {e : AppError}
    (h : (c.exec db).1 = .error e) : (c.exec db).2 = db := by
  have hmap : ∀ (o : AppResult User × Db), (UserCall.exec.forget o).1 = .error e → o.1 = .error e := by
    rintro ⟨r, db'⟩ ho
    cases r with
    | ok u => cases ho
    | error e' => cases ho; rfl
  cases c with
  | setRole actor id role now =>
    have h := hmap _ h
    simp only [UserCall.exec, UserCall.exec.forget, setRole] at h ⊢
    split at h
    · rfl
    · split at h
      · next hg => rw [if_pos hg]
      · next hg => rw [if_neg hg]; exact updateReturning_error h
  | deactivate actor id now =>
    have h := hmap _ h
    simp only [UserCall.exec, UserCall.exec.forget, deactivate] at h ⊢
    split at h
    · rfl
    · split at h
      · next hg => rw [if_pos hg]
      · next hg => rw [if_neg hg]; exact updateReturning_error h
  | _ => cases hc

/-! ## Top theorem -/

/-- **Last-admin safety.**  Whatever calls ran before: if an admin is active then,
one is active after any further calls, and a demotion or deactivation that is
refused at any point leaves the database as it was. -/
theorem last_admin_safe (db : Db) (before after : List UserCall)
    (h : HasActiveAdmin (runCalls db before).users) :
    HasActiveAdmin (runCalls db (before ++ after)).users ∧
      ∀ (c : UserCall) (e : AppError), c.isDemotion = true →
        (c.exec (runCalls db (before ++ after))).1 = .error e →
          (c.exec (runCalls db (before ++ after))).2 = runCalls db (before ++ after) := by
  refine ⟨?_, fun c e hc he => refused_demotion hc he⟩
  have happ : runCalls db (before ++ after) = runCalls (runCalls db before) after := List.foldl_append ..
  rw [happ]
  exact runCalls_keeps_active after h

/-- An onboarded user with the given role. -/
def sampleUser (telegramId : Int) (role : UserRole) : User where
  id := none
  telegramId
  lastChatId := some telegramId
  telegramUsername := none
  fullName := some "Ada Byron"
  firstName := some "Ada"
  lastName := some "Byron"
  linkedEmployeeId := none
  isEmployee := false
  role
  onboardingState := .completed
  onboardingVersion := 0
  timezone := defaultUserTimezone
  quietHoursStartMin := defaultQuietHoursStartMin
  quietHoursEndMin := defaultQuietHoursEndMin
  deactivatedAt := none
  createdAt := 0
  updatedAt := 0

/-- Two admins demoted one after the other: the second demotion is refused. -/
theorem last_admin_safe_two :
    let before := [.upsertFromMessage (sampleUser 10 .admin), .upsertFromMessage (sampleUser 20 .admin)]
    let after := [.setRole 1 1 .user 5, .setRole 2 2 .manager 6, .deactivate 2 2 7]
    HasActiveAdmin (runCalls Db.empty (before ++ after)).users ∧
      (runCalls Db.empty (before ++ after)).users.rows.map (fun r => r.val.user.role) = [.user, .admin] :=
  ⟨(last_admin_safe Db.empty _ _ (by decide)).1, by decide⟩

end UserRepository

end TaskBot
