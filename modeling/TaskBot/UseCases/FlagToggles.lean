import TaskBot.Lib.RelyGuarantee
import TaskBot.UseCases.Admin

/-!
# Overlapping toggles of one flag

A toggle writes the table of overrides first and the registry of the process second,
and another toggle may run in between.  Each of the two then ends with the value of
the call that wrote it last, and the calls need not be the same.

* `FlagToggle.Phase`: where a call stands, between its awaits;
* `Toggling`: what holds of table, registry and calls after every step;
* `toggles_agree`: once all calls have returned, table and registry agree exactly if
  the last call to write the one and the last to write the other ask for one value.
-/

namespace TaskBot

open Sql Calls

structure FlagToggle where
  now : Instant
  actor : User
  flagKey : String
  enabled : Bool
deriving DecidableEq, Repr

namespace FlagToggle

abbrev Program := Prog Site Process AppError Bool

def program (c : FlagToggle) : Program := AdminUseCase.toggleFeatureFlag c.now c.actor c.flagKey c.enabled

/-- The calls in progress on one process. -/
def start (s : Process) (toggles : List FlagToggle) : Pool Site Process AppError FlagToggle Bool :=
  ⟨s, toggles.map fun c => (c, c.program)⟩

/-! ## Phases of a call -/

/-- What is left when the registry is written. -/
def toLog (flag : FeatureFlag) (c : FlagToggle) : Program := do
  onDb (AdminUseCase.emitAudit (AdminUseCase.toggleEntry c.actor flag c.enabled c.now))
  pure c.enabled

/-- What is left when the override is stored. -/
def toRegister (flag : FeatureFlag) (c : FlagToggle) : Program := do
  AdminUseCase.toggleRegistry flag c.enabled
  toLog flag c

def toStore (flag : FeatureFlag) (c : FlagToggle) (actorId : Int) : Program := do
  onDb (FeatureFlagRepository.upsertOverride flag c.enabled (some actorId) c.now)
  toRegister flag c

inductive Phase (flag : FeatureFlag) (c : FlagToggle) : Program → Prop where
  | toStore (actorId : Int) : Phase flag c (toStore flag c actorId)
  | toRegister : Phase flag c (toRegister flag c)
  | toLog : Phase flag c (toLog flag c)
  | ended (r : AppResult Bool) : Phase flag c (.ret r)

/-- A call is refused at once or is about to store the override. -/
theorem program_phase {flag : FeatureFlag} {c : FlagToggle} (hflag : FeatureFlag.fromStr c.flagKey = .ok flag) :
    (∃ e, c.program = .ret (.error e)) ∨ ∃ actorId, c.program = toStore flag c actorId := by
  unfold program AdminUseCase.toggleFeatureFlag
  have hparse : AdminUseCase.parseFlag c.flagKey = .ok flag := by
    unfold AdminUseCase.parseFlag
    rw [hflag]
  rw [hparse]
  cases RoleAuthorizationPolicy.ensureCanAccessAdminPanel c.actor with
  | error e => exact .inl ⟨e, rfl⟩
  | ok _ =>
    cases okOrElse c.actor.id AdminUseCase.actorUnregistered with
    | error e => exact .inl ⟨e, rfl⟩
    | ok actorId => exact .inr ⟨actorId, rfl⟩

end FlagToggle

/-- The registry has the value of the stored override, if one is stored. -/
def FlagAgrees (flag : FeatureFlag) (s : Process) : Prop :=
  ∀ enabled, s.db.flagOverride flag = some enabled → s.sharedFlags.isEnabled flag = enabled

/-- What the last call at the site asks for. -/
def lastAsked (site : Site) (past : List (Call Site Process AppError FlagToggle)) : Option Bool :=
  (past.filter fun c => c.site = site).getLast?.map fun c => c.who.enabled

theorem lastAsked_append (site : Site) (past : List (Call Site Process AppError FlagToggle))
    (c : Call Site Process AppError FlagToggle) :
    lastAsked site (past ++ [c]) = if c.site = site then some c.who.enabled else lastAsked site past := by
  unfold lastAsked
  by_cases h : c.site = site
  · simp [List.filter_append, h]
  · simp [List.filter_append, h]

/-! ## What every step keeps -/

/-- After the calls `past`: the override and the registry are what was asked for last, and a
stored override has been registered or is about to be. -/
structure Toggling (flag : FeatureFlag) (s : Process) (past : List (Call Site Process AppError FlagToggle))
    (pool : Pool Site Process AppError FlagToggle Bool) : Prop where
  phases : ∀ t ∈ pool.threads, t.1.Phase flag t.2
  stored : pool.store.db.flagOverride flag =
    (lastAsked (.flagUpsert flag.asKey) past).or (s.db.flagOverride flag)
  registry : pool.store.sharedFlags.isEnabled flag =
    (lastAsked (.flagRegistry flag.asKey) past).getD (s.sharedFlags.isEnabled flag)
  waiting : lastAsked (.flagUpsert flag.asKey) past ≠ none ↔
    lastAsked (.flagRegistry flag.asKey) past ≠ none ∨
      ∃ t ∈ pool.threads, t.2.nextSite = some (.flagRegistry flag.asKey)

section

variable {flag : FeatureFlag} {s : Process} {past : List (Call Site Process AppError FlagToggle)}
  {pool : Pool Site Process AppError FlagToggle Bool}

theorem toggling_start (toggles : List FlagToggle)
    (hflag : ∀ c ∈ toggles, FeatureFlag.fromStr c.flagKey = .ok flag) :
    Toggling flag s [] (FlagToggle.start s toggles) := by
  have hphase : ∀ t ∈ (FlagToggle.start s toggles).threads,
      t.1.Phase flag t.2 ∧ t.2.nextSite ≠ some (.flagRegistry flag.asKey) := by
    intro t ht
    obtain ⟨c, hc, rfl⟩ := List.mem_map.mp ht
    rcases FlagToggle.program_phase (hflag c hc) with ⟨e, he⟩ | ⟨actorId, he⟩
    · rw [he]
      exact ⟨.ended _, by simp [Prog.nextSite]⟩
    · rw [he]
      have hnext : (FlagToggle.toStore flag c actorId).nextSite = some (.flagUpsert flag.asKey) := rfl
      exact ⟨.toStore actorId, by rw [hnext]; simp⟩
  refine ⟨fun t ht => (hphase t ht).1, rfl, rfl, ?_⟩
  constructor
  · exact fun h => absurd rfl h
  · rintro (h | ⟨t, ht, hnext⟩)
    · exact absurd rfl h
    · exact absurd hnext (hphase t ht).2

theorem phases_set (h : ∀ t ∈ pool.threads, t.1.Phase flag t.2) {c : FlagToggle} {p : FlagToggle.Program}
    (hp : c.Phase flag p) (i : Nat) : ∀ t ∈ pool.threads.set i (c, p), t.1.Phase flag t.2 := by
  intro t ht
  rcases List.mem_or_eq_of_mem_set ht with ht | rfl
  · exact h t ht
  · exact hp

/-- A thread that does not wait, before its step or after it, is not the one that waits. -/
theorem waiting_set {c : FlagToggle} {p q : FlagToggle.Program} {i : Nat} {site : Site}
    (hi : pool.threads[i]? = some (c, p)) (hp : p.nextSite ≠ some site) (hq : q.nextSite ≠ some site) :
    (∃ t ∈ pool.threads.set i (c, q), t.2.nextSite = some site) ↔
      ∃ t ∈ pool.threads, t.2.nextSite = some site := by
  constructor
  · rintro ⟨t, ht, hnext⟩
    rcases List.mem_or_eq_of_mem_set ht with ht | rfl
    · exact ⟨t, ht, hnext⟩
    · exact absurd hnext hq
  · rintro ⟨t, ht, hnext⟩
    obtain ⟨j, hj⟩ := List.getElem?_of_mem ht
    have hij : i ≠ j := by
      rintro rfl
      rw [hi] at hj
      cases hj
      exact hp hnext
    refine ⟨t, List.mem_of_getElem? (i := j) ?_, hnext⟩
    rw [List.getElem?_set_ne hij, hj]

/-- **One step.**  Storing makes the call wait for the registry, registering ends the wait. -/
theorem Toggling.step (h : Toggling flag s past pool) (i : Nat) :
    Toggling flag s (past ++ pool.call i .none) (pool.step i .none) := by
  cases hi : pool.threads[i]? with
  | none =>
    obtain ⟨hstep, hcall⟩ := Pool.step_none hi .none
    rw [hstep, hcall, List.append_nil]
    exact h
  | some t =>
    obtain ⟨c, p⟩ := t
    have hmem : (c, p) ∈ pool.threads := List.mem_of_getElem? hi
    have hlt : i < pool.threads.length := (List.getElem?_eq_some_iff.mp hi).1
    have hphase : c.Phase flag p := h.phases _ hmem
    cases hphase with
    | ended r =>
      obtain ⟨hstep, hcall⟩ := Pool.step_ret hi .none
      rw [hstep, hcall, List.append_nil]
      exact h
    | toStore actorId =>
      obtain ⟨hstep, hcall⟩ := Pool.step_call hi .none
      rw [hstep, hcall]
      refine ⟨phases_set h.phases .toRegister i, ?_, ?_, ?_⟩
      · rw [lastAsked_append, if_pos rfl]
        exact flagOverride_upsert pool.store.db flag c.enabled (some actorId) c.now
      · rw [lastAsked_append, if_neg (by simp)]
        exact h.registry
      · rw [lastAsked_append, if_pos rfl]
        exact iff_of_true (by simp) (.inr ⟨_, List.mem_set hlt _, rfl⟩)
    | toRegister =>
      obtain ⟨hstep, hcall⟩ := Pool.step_call hi .none
      have hstored : lastAsked (.flagUpsert flag.asKey) past ≠ none := h.waiting.mpr (.inr ⟨_, hmem, rfl⟩)
      rw [hstep, hcall]
      refine ⟨phases_set h.phases .toLog i, ?_, ?_, ?_⟩
      · rw [lastAsked_append, if_neg (by simp)]
        exact h.stored
      · rw [lastAsked_append, if_pos rfl]
        exact FeatureFlagRegistry.isEnabled_toggle pool.store.sharedFlags flag c.enabled
      · rw [lastAsked_append, lastAsked_append, if_neg (by simp), if_pos rfl]
        exact iff_of_true hstored (.inl (by simp))
    | toLog =>
      obtain ⟨hstep, hcall⟩ := Pool.step_call hi .none
      rw [hstep, hcall]
      refine ⟨phases_set h.phases (.ended _) i, ?_, ?_, ?_⟩
      · rw [lastAsked_append, if_neg (by simp)]
        exact h.stored
      · rw [lastAsked_append, if_neg (by simp)]
        exact h.registry
      · rw [lastAsked_append, lastAsked_append, if_neg (by simp), if_neg (by simp), h.waiting]
        have hlog : (FlagToggle.toLog flag c).nextSite = some .adminAuditAppend := rfl
        have hended : (Prog.ret (.ok c.enabled) : FlagToggle.Program).nextSite = none := rfl
        exact or_congr_right
          (waiting_set (q := .ret (.ok c.enabled)) hi (by rw [hlog]; simp) (by rw [hended]; simp)).symm

theorem Toggling.exec (sched : List Nat) : ∀ {past : List (Call Site Process AppError FlagToggle)}
    {pool : Pool Site Process AppError FlagToggle Bool}, Toggling flag s past pool →
      Toggling flag s (past ++ pool.calls (sched.map fun i => (i, .none)))
        (pool.exec (sched.map fun i => (i, .none))) := by
  induction sched with
  | nil =>
    intro past pool h
    rw [List.map_nil, Pool.calls, List.append_nil]
    exact h
  | cons i sched ih =>
    intro past pool h
    have hrest := ih (h.step i)
    rw [List.append_assoc] at hrest
    exact hrest

end

/-- **Once all toggles of the flag have returned, the registry agrees with the table exactly if
the last to store the override and the last to write the registry ask for the same value.** -/
theorem toggles_agree (flag : FeatureFlag) (s : Process) (toggles : List FlagToggle) (sched : List Nat)
    (hflag : ∀ c ∈ toggles, FeatureFlag.fromStr c.flagKey = .ok flag) (hstart : FlagAgrees flag s)
    (hend : ((FlagToggle.start s toggles).exec (sched.map fun i => (i, .none))).Ended) :
    FlagAgrees flag ((FlagToggle.start s toggles).exec (sched.map fun i => (i, .none))).store ↔
      lastAsked (.flagUpsert flag.asKey) ((FlagToggle.start s toggles).calls (sched.map fun i => (i, .none))) =
        lastAsked (.flagRegistry flag.asKey)
          ((FlagToggle.start s toggles).calls (sched.map fun i => (i, .none))) := by
  have h := (toggling_start (s := s) toggles hflag).exec sched
  rw [List.nil_append] at h
  have hwaiting := h.waiting
  have hnobody : ¬ ∃ t ∈ ((FlagToggle.start s toggles).exec (sched.map fun i => (i, .none))).threads,
      t.2.nextSite = some (.flagRegistry flag.asKey) := by
    rintro ⟨t, ht, hnext⟩
    obtain ⟨r, hr⟩ := hend t ht
    rw [hr] at hnext
    cases hnext
  rw [or_iff_left hnobody] at hwaiting
  unfold FlagAgrees
  rw [h.stored, h.registry]
  cases hup : lastAsked (.flagUpsert flag.asKey)
      ((FlagToggle.start s toggles).calls (sched.map fun i => (i, .none))) with
  | none =>
    -- nobody has stored an override, so nobody has registered one
    have hreg := not_not.mp fun hreg => hwaiting.mpr hreg hup
    rw [hreg]
    exact iff_of_true hstart rfl
  | some enabled =>
    obtain ⟨registered, hreg⟩ := Option.ne_none_iff_exists'.mp (hwaiting.mp (by rw [hup]; simp))
    rw [hreg]
    constructor
    · exact fun hagrees => congrArg some (hagrees enabled rfl).symm
    · intro heq enabled' henabled'
      cases henabled'
      exact (Option.some.inj heq).symm

/-! ## Two admins -/

def csvToggle (enabled : Bool) : FlagToggle :=
  ⟨0, { UserRepository.sampleUser 10 .admin with id := some 1 }, "csv_export", enabled⟩

/-- No override yet, and the flag is off. -/
def defaultProcess : Process := ⟨Db.empty, ⟨FeatureFlag.defaultEnabled⟩⟩

/-- Another admin asks for it on. -/
def otherToggle : FlagToggle :=
  ⟨1, { UserRepository.sampleUser 20 .admin with id := some 2 }, "csv_export", true⟩

/-- Two admins toggle at once.  Both store before either registers, the admin who switches on
last in both orders: table and registry end with on. -/
theorem toggles_agree_together :
    let pool := (FlagToggle.start defaultProcess [csvToggle false, otherToggle]).exec
      ([0, 1, 0, 1, 1, 0].map fun i => (i, .none))
    FlagAgrees .csvExport pool.store ∧ pool.store.db.flagOverride .csvExport = some true := by
  intro pool
  have hagrees : FlagAgrees .csvExport pool.store := by
    refine (toggles_agree .csvExport defaultProcess [csvToggle false, otherToggle] [0, 1, 0, 1, 1, 0]
      ?_ ?_ ?_).mpr (by decide)
    · intro c hc
      rcases List.mem_pair.mp hc with rfl | rfl
      · decide
      · decide
    · intro enabled h
      cases h
    · intro t ht
      rcases List.mem_pair.mp ht with rfl | rfl
      · exact ⟨_, rfl⟩
      · exact ⟨_, rfl⟩
  exact ⟨hagrees, by decide⟩

/-- Switched on and off at once: the table is left with off, the registry with on. -/
theorem toggles_cross :
    let pool := (FlagToggle.start defaultProcess [csvToggle true, csvToggle false]).exec
      ([0, 1, 1, 0, 0, 1].map fun i => (i, .none))
    pool.threads.map (fun t => t.2.nextSite) = [none, none] ∧
      pool.store.db.flagOverride .csvExport = some false ∧ pool.store.sharedFlags.isEnabled .csvExport = true ∧
      ¬ FlagAgrees .csvExport pool.store := by
  intro pool
  have hstored : pool.store.db.flagOverride .csvExport = some false := by decide
  have hregistry : pool.store.sharedFlags.isEnabled .csvExport = true := by decide
  refine ⟨by decide, hstored, hregistry, fun h => ?_⟩
  rw [h false hstored] at hregistry
  cases hregistry

end TaskBot
