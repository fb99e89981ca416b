import TaskBot.Domain.FeatureFlags
import TaskBot.Policies.RoleAuthorization
import TaskBot.Store.RecordRepositories
import TaskBot.Store.UserRepository

/-!
# The admin panel

Every privileged action asks the gate of the panel first, and leaves an entry in
the log of privileged actions; an entry that cannot be stored undoes nothing.

A toggled flag is written twice, to the table of overrides and to the registry the
process shares, so its program runs on both (`Process`).
-/

namespace TaskBot

open Sql Calls

/-- What the requests of one process share: the database and the flag registry. -/
structure Process where
  db : Db
  sharedFlags : FeatureFlagRegistry

/-- A program of the process that only uses the database. -/
def onDb {α : Type} (p : Proc α) : Prog Site Process AppError α :=
  p.focus Process.db fun db s => { s with db }

theorem run_onDb {α : Type} (plan : Site → Fault AppError) (p : Proc α) (s : Process) :
    (onDb p).run plan s = ((p.run plan s.db).1, { s with db := (p.run plan s.db).2 }) :=
  Prog.run_focus Process.db (fun db s => { s with db }) (fun _ _ => rfl) (fun _ => rfl)
    (fun _ _ _ => rfl) plan p s

namespace AdminUseCase

open RoleAuthorizationPolicy

def targetNotFound (targetUserId : Int) : AppError :=
  .notFound "USER_NOT_FOUND" "Requested user does not exist" [("target_user_id", .int targetUserId)]

def actorUnregistered : AppError := .unauthenticated "Actor must be registered" []

def emitAudit (entry : AdminAuditEntry) : Proc Unit := do
  let _ ← (AdminAuditLogRepository.append entry).attempt

def listActiveAdmins (actor : User) : Proc (List User) := do
  .lift (ensureCanViewAdminPanel actor)
  select .userListActiveAdmins fun db =>
    .ok ((db.users.rows.filter fun r => UserRepository.isActiveAdmin r.val).map toUser)

def getUser (actor : User) (targetUserId : Int) : Proc User := do
  .lift (ensureCanViewAdminPanel actor)
  let found ← UserRepository.findById targetUserId
  .lift (okOrElse found (targetNotFound targetUserId))

def roleChangeEntry (actor target : User) (targetUserId : Int) (nextRole : UserRole) (now : Instant) :
    AdminAuditEntry where
  id := none
  actorUserId := actor.id
  targetUserId := some targetUserId
  actionCode := .roleChangedByAdmin
  metadata := [("previous_role", .str target.role.toText), ("next_role", .str nextRole.toText),
    ("target_telegram_id", .int target.telegramId)]
  createdAt := now

def changeRole (now : Instant) (actor : User) (targetUserId : Int) (nextRole : UserRole) : Proc User := do
  let target ← getUser actor targetUserId
  .lift (ensureCanManageRoles actor target)
  let _ ← .lift (okOrElse actor.id actorUnregistered)
  let updated ← .perform (.userSetRole targetUserId) (UserRepository.setRole targetUserId nextRole now)
  emitAudit (roleChangeEntry actor target targetUserId nextRole now)
  pure updated

def deactivationEntry (actor target : User) (targetUserId : Int) (now : Instant) : AdminAuditEntry where
  id := none
  actorUserId := actor.id
  targetUserId := some targetUserId
  actionCode := .userDeactivatedByAdmin
  metadata := [("target_telegram_id", .int target.telegramId),
    ("previous_role", .str target.role.toText)]
  createdAt := now

def deactivateUser (now : Instant) (actor : User) (targetUserId : Int) : Proc User := do
  let target ← getUser actor targetUserId
  .lift (ensureCanDeactivateUser actor target)
  let _ ← .lift (okOrElse actor.id actorUnregistered)
  let updated ← .perform (.userDeactivate targetUserId) (UserRepository.deactivate targetUserId now)
  emitAudit (deactivationEntry actor target targetUserId now)
  pure updated

def reactivationEntry (actor target : User) (targetUserId : Int) (now : Instant) : AdminAuditEntry where
  id := none
  actorUserId := actor.id
  targetUserId := some targetUserId
  actionCode := .userReactivatedByAdmin
  metadata := [("target_telegram_id", .int target.telegramId)]
  createdAt := now

def reactivateUser (now : Instant) (actor : User) (targetUserId : Int) : Proc User := do
  let target ← getUser actor targetUserId
  .lift (ensureCanAccessAdminPanel actor)
  let _ ← .lift (okOrElse actor.id actorUnregistered)
  let updated ← .perform (.userReactivate targetUserId) (UserRepository.reactivate targetUserId now)
  emitAudit (reactivationEntry actor target targetUserId now)
  pure updated

def listRecentAudit (actor : User) (limit : Nat) : Proc (List AdminAuditEntry) := do
  .lift (ensureCanViewAdminPanel actor)
  AdminAuditLogRepository.listRecent (min (max limit 1) 50)

/-! ## Feature flags -/

def parseFlag (flagKey : String) : AppResult FeatureFlag :=
  match FeatureFlag.fromStr flagKey with
  | .ok flag => .ok flag
  | .error key =>
      .error (.notFound "UNKNOWN_FEATURE_FLAG" "feature flag key is not recognised" [("flag_key", .str key)])

def toggleEntry (actor : User) (flag : FeatureFlag) (enabled : Bool) (now : Instant) :
    AdminAuditEntry where
  id := none
  actorUserId := actor.id
  targetUserId := none
  actionCode := .adminFeatureToggled
  metadata := [("flag_key", .str flag.asKey), ("enabled", .bool enabled)]
  createdAt := now

/-- The write under the lock of the registry. -/
def toggleRegistry (flag : FeatureFlag) (enabled : Bool) : Prog Site Process AppError Unit :=
  .perform (.flagRegistry flag.asKey) fun s =>
    (.ok (), { s with sharedFlags := s.sharedFlags.toggle flag enabled })

def toggleFeatureFlag (now : Instant) (actor : User) (flagKey : String) (enabled : Bool) :
    Prog Site Process AppError Bool := do
  .lift (ensureCanAccessAdminPanel actor)
  let flag ← .lift (parseFlag flagKey)
  let actorId ← .lift (okOrElse actor.id actorUnregistered)
  onDb (FeatureFlagRepository.upsertOverride flag enabled (some actorId) now)
  toggleRegistry flag enabled
  onDb (emitAudit (toggleEntry actor flag enabled now))
  pure enabled

end AdminUseCase

end TaskBot
