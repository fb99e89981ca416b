import TaskBot.Lib.TtlCache
import TaskBot.Presentation.Screens
import TaskBot.UseCases.ListTasks

/-!
# Statistics

A user's own figures are counted on request.  Those of the team are kept for a minute: `global_stats_cached` is a
`TtlCache` whose store is the database on a day.

* `countStats_adds_up`: what the figures are of each other;
* `run_personal`: the figures of a user count the user's list of created tasks;
* `team_stats_recent`: whoever asks at the same time and whatever changes meanwhile, the team's figures are given to
  managers only, and count the team's list as it was not long ago.
-/

namespace TaskBot

open Sql Calls RoleAuthorizationPolicy

def RoleAuthorizationPolicy.ensureCanViewTeamStats (actor : User) : AppResult Unit :=
  if actor.role.isManagerOrAdmin then .ok ()
  else
    .error (.unauthorized "Only managers and admins can view team stats" [("telegram_id", .int actor.telegramId)])

def StatsView.fromStats (stats : TaskStats) : StatsView where
  createdCount := stats.createdCount
  completedCount := stats.completedCount
  activeCount := stats.activeCount
  overdueCount := stats.overdueCount
  averageCompletionHours := stats.averageCompletionHours

namespace CollectStats

open TaskRepository

/-- Sixty seconds, in nanoseconds. -/
def globalStatsTtl : Nat := 60 * 1000000000

def notRegistered (actor : User) : AppError :=
  .unauthenticated "User must be registered before viewing stats" [("telegram_id", .int actor.telegramId)]

/-- `globalStats` is what the cache gives. -/
def collect (averageHours : AverageHours) (today : NaiveDate) (globalStats : Proc TaskStats) (actor : User)
    (actorId : Int) : StatsScope → Proc TaskStats
  | .personal => countStatsForUser averageHours today actorId
  | .team => do
      .lift (ensureCanViewTeamStats actor)
      globalStats

def execute (averageHours : AverageHours) (today : NaiveDate) (globalStats : Proc TaskStats) (actor : User)
    (scope : StatsScope) : Proc StatsView := do
  let actorId ← .lift (okOrElse actor.id (notRegistered actor))
  let stats ← collect averageHours today globalStats actor actorId scope
  pure (.fromStats stats)

/-! ## The figures -/

section

variable {averageHours : AverageHours} {today : NaiveDate} {tasks : List Task} {db : Db} {actor : User}

/-- A task is active, completed or cancelled. -/
theorem countStats_adds_up : (countStats averageHours today tasks).activeCount +
    (countStats averageHours today tasks).completedCount + (tasks.countP fun t => t.status = .cancelled) =
      (countStats averageHours today tasks).createdCount := by
  unfold countStats
  simp only
  induction tasks with
  | nil => rfl
  | cons t tasks ih =>
    cases hstatus : t.status <;> simp [hstatus] at ih ⊢ <;> omega

theorem overdue_le_active : (countStats averageHours today tasks).overdueCount ≤
    (countStats averageHours today tasks).activeCount := by
  refine List.countP_mono_left fun t _ hoverdue => ?_
  cases hstatus : t.status <;> simp [hstatus] at hoverdue ⊢

/-- The figures of a user are those of the list of created tasks. -/
theorem run_personal (globalStats : Proc TaskStats) (hactor : actor.id.isSome) :
    (execute averageHours today globalStats actor .personal).run noFaults db =
      (.ok (.fromStats (countStats averageHours today (ListTasks.listed db actor .createdByMe))), db) := by
  obtain ⟨actorId, hid⟩ := Option.isSome_iff_exists.mp hactor
  have hlisted : ListTasks.listed db actor .createdByMe =
      (db.tasks.rows.map toTask).filter fun t => t.createdByUserId = actorId := by
    unfold ListTasks.listed ListTasks.inScope
    rw [hid]
    refine List.filter_congr fun t _ => ?_
    exact decide_eq_decide.mpr Option.some_inj
  have hcount : (collect averageHours today globalStats actor actorId .personal).run noFaults db = (.ok _, db) :=
    run_select rfl db
  unfold execute
  rw [hid, okOrElse_some, Prog.lift_ok_bind, Prog.run_bind_ok noFaults hcount, hlisted]
  rfl

/-! ## The team's figures -/

/-- What the cache asks for, in a database on a day. -/
def globalStats (averageHours : AverageHours) (store : Db × NaiveDate) : TaskStats :=
  countStats averageHours store.2 (store.1.tasks.rows.map toTask)

theorem run_countStatsGlobal : (countStatsGlobal averageHours today).run noFaults db =
    (.ok (globalStats averageHours (db, today)), db) := run_select rfl db

/-- The requests that wait for the team's figures, the database and the day. -/
abbrev GlobalCache (ν : Type) := TtlCache.State ν (Db × NaiveDate) AppError TaskStats

theorem run_team {plan : Site → Fault AppError} {r : AppResult TaskStats} {view : StatsView}
    (h : ((execute averageHours today (.lift r) actor .team).run plan db).1 = .ok view) :
    actor.role.isManagerOrAdmin = true ∧ ∃ stats, r = .ok stats ∧ view = .fromStats stats := by
  unfold execute at h
  cases hid : actor.id with
  | none =>
    rw [hid] at h
    cases h
  | some actorId =>
    rw [hid, okOrElse_some, Prog.lift_ok_bind] at h
    have hteam : collect averageHours today (.lift r) actor actorId .team =
        (do .lift (ensureCanViewTeamStats actor); .lift r) := rfl
    rw [hteam] at h
    unfold ensureCanViewTeamStats at h
    split at h
    · next hmanager =>
      cases r with
      | error e => cases h
      | ok stats =>
        cases h
        exact ⟨hmanager, stats, rfl, rfl⟩
    · cases h

/-- **The team's figures are recent.**  In every run of the cache, whoever asks and whatever happens to the tasks:
what a request is shown it is shown to a manager or an admin, and it is the count of the team's list as it was at
most a minute, and what a statement may take, before; and the database counts for one request at a time. -/
theorem team_stats_recent {ν : Type} [DecidableEq ν] {patience start : Nat} {db₀ : Db} {today₀ : NaiveDate}
    {s : GlobalCache ν} (averageHours : AverageHours)
    (hrun : TtlCache.Reaches globalStatsTtl patience (globalStats averageHours) (.start start (db₀, today₀)) s) :
    (∀ i r at_, s.phase i = .done r at_ → ∀ (actor : User) (plan : Site → Fault AppError) (day : NaiveDate) (db : Db)
      (view : StatsView), ((execute averageHours day (.lift r) actor .team).run plan db).1 = .ok view →
        actor.role.isManagerOrAdmin = true ∧ ∃ u : GlobalCache ν,
          TtlCache.Reaches globalStatsTtl patience (globalStats averageHours) (.start start (db₀, today₀)) u ∧
          TtlCache.Reaches globalStatsTtl patience (globalStats averageHours) u s ∧
          view = .fromStats (countStats averageHours u.store.2 (ListTasks.listed u.store.1 actor .team)) ∧
          u.now ≤ at_ ∧ at_ < u.now + patience + globalStatsTtl) ∧
    ∀ i j v w t t', s.phase i = .asked v t → s.phase j = .asked w t' → i = j := by
  refine ⟨fun i r at_ hdone actor plan day db view hview => ?_, fun i j v w t t' hi hj => ?_⟩
  · obtain ⟨hmanager, stats, rfl, rfl⟩ := run_team hview
    obtain ⟨t, ⟨u, hreached, hlater, hvalue, rfl⟩, hbefore, hsoon⟩ :=
      TtlCache.answers_recent (by decide) hrun hdone
    refine ⟨hmanager, u, hreached, hlater, ?_, hbefore, hsoon⟩
    have hlisted : ListTasks.listed u.store.1 actor .team = u.store.1.tasks.rows.map toTask :=
      List.filter_eq_self.mpr fun _ _ => rfl
    rw [hlisted, ← hvalue]
    rfl
  · exact (TtlCache.single_flight hrun hi hj).1

end

/-! ## A manager asks twice -/

def sampleManager : User := { UserRepository.sampleUser 40 .manager with id := some 4 }

abbrev noAverage : AverageHours := fun _ => none

/-- The figures of the sample task, which the first request is given and the cache keeps. -/
def keptStats : TaskStats := globalStats noAverage (sampleDb, 0)

/-- The first request finds nothing kept and asks; half a minute later, when the task has gone, the second is
given what is kept. -/
theorem manager_asks : ∃ s : GlobalCache Bool, TtlCache.Reaches globalStatsTtl 0 (globalStats noAverage)
    (.start 0 (sampleDb, 0)) s ∧ s.store = (Db.empty, 0) ∧ s.phase true = .done (.ok keptStats) 30000000000 := by
  exact ⟨_, .tail (.tail (.tail (.tail (.tail (.tail (.single (.enters false rfl rfl)) (.asks false rfl rfl))
    (.keeps false rfl (Nat.le_refl _))) (.changes (Db.empty, 0))) (.passes 30000000000)) (.enters true rfl rfl))
    (.hits true rfl (TtlCache.fresh_of_young rfl (by decide))), rfl, rfl⟩

/-- What the second request is shown is the team's list as it was half a minute before. -/
theorem manager_shown_stats : ∃ s u : GlobalCache Bool,
    s.store.1.tasks.rows = [] ∧ s.phase true = .done (.ok keptStats) 30000000000 ∧
      TtlCache.Reaches globalStatsTtl 0 (globalStats noAverage) u s ∧
      StatsView.fromStats keptStats =
        .fromStats (countStats noAverage u.store.2 (ListTasks.listed u.store.1 sampleManager .team)) ∧
      u.now ≤ 30000000000 := by
  obtain ⟨s, hrun, hstore, hdone⟩ := manager_asks
  obtain ⟨-, u, -, hlater, hview, hbefore, -⟩ := (team_stats_recent noAverage hrun).1 true _ 30000000000 hdone
    sampleManager noFaults 0 sampleDb (.fromStats keptStats) rfl
  exact ⟨s, u, by rw [hstore]; rfl, hdone, hlater, hview, hbefore⟩

end CollectStats

end TaskBot
