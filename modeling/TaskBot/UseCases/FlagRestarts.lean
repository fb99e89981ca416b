import TaskBot.UseCases.FlagToggles

/-!
# Feature flags across restarts

A start of the process reads the flags of the environment and applies the stored overrides to them; from
then on toggles write both the table and the registry, and any of their statements may fail.

* `isEnabled_booted`: a started process shows the override of a flag, or what the environment says;
* `FlagLife`: a flag as the admins see it, what is stored and what is shown, and what an event does to it;
* `follows_life`: over any history of toggles and starts the process does the same to every flag;
* `answered_toggle_lasts`: an answered toggle is shown, through all restarts, until another one is stored;
* `restart_changes_nothing`: a restart shows what was shown unless a toggle failed after its write.
-/

namespace TaskBot

open Sql Calls

/-! ## Starting -/

/-- The overrides as they are read, those of unknown keys left out. -/
def Db.overrides (db : Db) : List (FeatureFlag × Bool) :=
  db.flagOverrides.rows.filterMap fun r =>
    match FeatureFlag.fromStr r.val.flagKey with
    | .ok flag => some (flag, r.val.enabled)
    | .error _ => none

/-- `run_application`: the registry a process starts with. -/
def bootRegistry (envValue : Option String) : Proc FeatureFlagRegistry := do
  let overrides ← FeatureFlagRepository.listOverrides
  pure ((FeatureFlagRegistry.fromEnvAndDefaults envValue).applyOverrides overrides)

theorem run_bootRegistry (envValue : Option String) (db : Db) :
    (bootRegistry envValue).run (fun _ => .none) db =
      (.ok ((FeatureFlagRegistry.fromEnvAndDefaults envValue).applyOverrides db.overrides), db) := by
  unfold bootRegistry
  have hread : FeatureFlagRepository.listOverrides.run (fun _ => .none) db = (.ok db.overrides, db) :=
    run_select rfl db
  rw [Prog.run_bind_ok _ hread, Prog.run_pure]

/-- A key that names a flag is the flag's own; reading a key trims it, so a table could hold others. -/
def KeysAsWritten (db : Db) : Prop :=
  ∀ r ∈ db.flagOverrides.rows, ∀ flag, FeatureFlag.fromStr r.val.flagKey = .ok flag → r.val.flagKey = flag.asKey

theorem keysAsWritten_empty : KeysAsWritten Db.empty := fun _ h => absurd h List.not_mem_nil

theorem keysAsWritten_upsert {db : Db} (h : KeysAsWritten db) (flag : FeatureFlag) (enabled : Bool)
    (by_ : Option Int) (now : Instant) : KeysAsWritten (db.upsertOverride ⟨flag.asKey, enabled, by_, now⟩) := by
  intro r hr flag' hkey
  have hcases : r.val.flagKey = flag.asKey ∨ ∃ r₀ ∈ db.flagOverrides.rows, r₀.val.flagKey = r.val.flagKey := by
    simp only [Db.upsertOverride, Table.upsert] at hr
    split at hr
    · obtain ⟨r₀, hr₀, rfl⟩ := Table.mem_modify.mp hr
      refine .inr ⟨r₀, hr₀, ?_⟩
      unfold setWhere
      split <;> rfl
    · rcases Table.mem_insert hr with hr | ⟨rfl, -⟩
      · exact .inr ⟨r, hr, rfl⟩
      · exact .inl rfl
  rcases hcases with hnew | ⟨r₀, hr₀, hsame⟩
  · rw [hnew, FeatureFlag.fromStr_asKey] at hkey
    cases hkey
    exact hnew
  · rw [← hsame] at hkey ⊢
    exact h r₀ hr₀ flag' hkey

theorem asKey_injective {flag flag' : FeatureFlag} (h : flag.asKey = flag'.asKey) : flag = flag' := by
  have hparse := FeatureFlag.fromStr_asKey flag
  rw [h, FeatureFlag.fromStr_asKey] at hparse
  cases hparse
  rfl

/-- The rows have a flag at most once, so the order they are read in does not matter. -/
theorem isEnabled_fold (flag : FeatureFlag) : ∀ (rows : List (Stored FlagOverride)) (registry : FeatureFlagRegistry),
    rows.Pairwise Apart →
    (∀ r ∈ rows, ∀ f, FeatureFlag.fromStr r.val.flagKey = .ok f → r.val.flagKey = f.asKey) →
    (registry.applyOverrides (rows.filterMap fun r =>
      match FeatureFlag.fromStr r.val.flagKey with
      | .ok f => some (f, r.val.enabled)
      | .error _ => none)).isEnabled flag =
    ((rows.find? fun r => r.val.flagKey = flag.asKey).map fun r => r.val.enabled).getD (registry.isEnabled flag) := by
  intro rows
  induction rows with
  | nil => intro registry _ _; rfl
  | cons r rows ih =>
    intro registry hapart hkeys
    obtain ⟨hfirst, hrest⟩ := List.pairwise_cons.mp hapart
    have hkeys' := fun a ha => hkeys a (List.mem_cons_of_mem r ha)
    cases hparse : FeatureFlag.fromStr r.val.flagKey with
    | error key =>
      have hother : ¬ r.val.flagKey = flag.asKey := by
        intro h
        rw [h, FeatureFlag.fromStr_asKey] at hparse
        cases hparse
      rw [List.filterMap_cons_none (by simp only [hparse]), ih registry hrest hkeys',
        List.find?_cons_of_neg (by simpa using hother)]
    | ok f =>
      have hkey : r.val.flagKey = f.asKey := hkeys r List.mem_cons_self f hparse
      rw [List.filterMap_cons_some (b := (f, r.val.enabled)) (by simp only [hparse])]
      change (FeatureFlagRegistry.applyOverrides (registry.toggle f r.val.enabled) _).isEnabled flag = _
      rw [ih (registry.toggle f r.val.enabled) hrest hkeys']
      by_cases hf : flag = f
      · subst hf
        have hnone : rows.find? (fun a => a.val.flagKey = flag.asKey) = none := by
          refine List.find?_eq_none.mpr fun a ha hsame => ?_
          have hclash := (hfirst a ha).2
          simp only [Keyed.clash, decide_eq_false_iff_not] at hclash
          exact hclash (hkey.trans (of_decide_eq_true hsame).symm)
        rw [hnone, List.find?_cons_of_pos (by simpa using hkey)]
        simp
      · have hother : ¬ r.val.flagKey = flag.asKey := fun h => hf (asKey_injective (h.symm.trans hkey))
        rw [List.find?_cons_of_neg (by simpa using hother), FeatureFlagRegistry.isEnabled_toggle_of_ne _ _ hf]

/-- **A started process shows the stored override of a flag, or else what its environment says.** -/
theorem isEnabled_booted {db : Db} (h : KeysAsWritten db) (envValue : Option String) (flag : FeatureFlag) :
    ((FeatureFlagRegistry.fromEnvAndDefaults envValue).applyOverrides db.overrides).isEnabled flag =
      (db.flagOverride flag).getD ((FeatureFlagRegistry.fromEnvAndDefaults envValue).isEnabled flag) :=
  isEnabled_fold flag db.flagOverrides.rows _ db.flagOverrides.apart h

/-! ## Histories -/

/-- What the calls of a toggle meet; the registry is in memory and its write does not fail. -/
structure StoreFaults where
  plan : Site → Fault AppError
  registry : ∀ key, plan (.flagRegistry key) = .none

def StoreFaults.none : StoreFaults := ⟨fun _ => .none, fun _ => rfl⟩

/-- An admin's toggle, or a start in an environment.  A start that cannot read the table serves nobody
and is no event. -/
inductive FlagEvent where
  | toggled (c : FlagToggle) (faults : StoreFaults)
  | started (envValue : Option String)

def Process.start (s : Process) (envValue : Option String) : Process :=
  match ((bootRegistry envValue).run (fun _ => .none) s.db).1 with
  | .ok registry => { s with sharedFlags := registry }
  | .error _ => s

def FlagEvent.step (s : Process) : FlagEvent → Process
  | .toggled c faults => (c.program.run faults.plan s).2
  | .started envValue => s.start envValue

/-- The process after the events. -/
def Process.after (s : Process) (history : List FlagEvent) : Process := history.foldl FlagEvent.step s

theorem start_eq (s : Process) (envValue : Option String) :
    s.start envValue =
      { s with sharedFlags := (FeatureFlagRegistry.fromEnvAndDefaults envValue).applyOverrides s.db.overrides } := by
  unfold Process.start
  rw [run_bootRegistry]

/-! ## What one toggle does -/

/-- The flag that the toggle sets if its statements are carried out. -/
def FlagToggle.target (c : FlagToggle) : Option FeatureFlag :=
  match RoleAuthorizationPolicy.ensureCanAccessAdminPanel c.actor, FeatureFlag.fromStr c.flagKey, c.actor.id with
  | .ok _, .ok flag, some _ => some flag
  | _, _, _ => none

theorem program_of_target {c : FlagToggle} :
    (c.target = none ∧ ∃ e, c.program = .ret (.error e)) ∨
      ∃ flag actorId, c.target = some flag ∧ c.program = FlagToggle.toStore flag c actorId := by
  unfold FlagToggle.target FlagToggle.program AdminUseCase.toggleFeatureFlag AdminUseCase.parseFlag
  cases RoleAuthorizationPolicy.ensureCanAccessAdminPanel c.actor with
  | error e => exact .inl ⟨rfl, e, rfl⟩
  | ok _ =>
    cases FeatureFlag.fromStr c.flagKey with
    | error key => exact .inl ⟨rfl, _, rfl⟩
    | ok flag =>
      cases hid : c.actor.id with
      | none => exact .inl ⟨rfl, _, rfl⟩
      | some actorId => exact .inr ⟨flag, actorId, rfl, rfl⟩

/-- The entry of the log is tried, and whatever becomes of it is answered the same. -/
theorem run_emitAudit (plan : Site → Fault AppError) (entry : AdminAuditEntry) (db : Db) :
    ∃ db', (AdminUseCase.emitAudit entry).run plan db = (.ok (), db') ∧ db'.flagOverrides = db.flagOverrides := by
  have hkeeps : (AdminUseCase.emitAudit entry).Within fun db db' => db'.flagOverrides = db.flagOverrides :=
    .bind (.attempt (write_within fun _ => rfl)) fun _ => .pure ()
  have hstore := Prog.run_within plan (K := fun db db' : Db => db'.flagOverrides = db.flagOverrides)
    (fun _ => rfl) (fun _ _ _ h h' => h'.trans h) hkeeps db
  refine ⟨_, ?_, hstore⟩
  unfold AdminUseCase.emitAudit
  rw [Prog.run_bind, Prog.run_attempt]
  rfl

theorem run_toLog (plan : Site → Fault AppError) (flag : FeatureFlag) (c : FlagToggle) (s : Process) :
    ∃ db', (FlagToggle.toLog flag c).run plan s = (.ok c.enabled, { s with db := db' }) ∧
      db'.flagOverrides = s.db.flagOverrides := by
  obtain ⟨db', hrun, hkept⟩ :=
    run_emitAudit plan (AdminUseCase.toggleEntry c.actor flag c.enabled c.now) s.db
  refine ⟨db', ?_, hkept⟩
  have hlog : (onDb (AdminUseCase.emitAudit (AdminUseCase.toggleEntry c.actor flag c.enabled c.now))).run plan s =
      (.ok (), { s with db := db' }) := by rw [run_onDb, hrun]
  unfold FlagToggle.toLog
  rw [Prog.run_bind_ok plan hlog, Prog.run_pure]

/-- How far a toggle of the flag gets. -/
inductive FlagToggle.Outcome where
  | nothing | stored | answered
deriving DecidableEq, Repr

def FlagToggle.outcome (c : FlagToggle) (faults : StoreFaults) (flag : FeatureFlag) : FlagToggle.Outcome :=
  if c.target = some flag then
    match faults.plan (.flagUpsert flag.asKey) with
    | .none => .answered
    | .before _ => .nothing
    | .after _ => .stored
  else .nothing

/-- A flag as the admins see it: the override that is stored, and what the process shows. -/
structure FlagLife where
  stored : Option Bool
  shown : Bool
deriving DecidableEq, Repr

def FlagLife.step (flag : FeatureFlag) (life : FlagLife) : FlagEvent → FlagLife
  | .toggled c faults =>
      match c.outcome faults flag with
      | .nothing => life
      | .stored => ⟨some c.enabled, life.shown⟩
      | .answered => ⟨some c.enabled, c.enabled⟩
  | .started envValue =>
      ⟨life.stored, life.stored.getD ((FeatureFlagRegistry.fromEnvAndDefaults envValue).isEnabled flag)⟩

def Process.life (s : Process) (flag : FeatureFlag) : FlagLife :=
  ⟨s.db.flagOverride flag, s.sharedFlags.isEnabled flag⟩

theorem flagOverride_upsert_of_ne (db : Db) {flag flag' : FeatureFlag} (hne : flag' ≠ flag) (enabled : Bool)
    (by_ : Option Int) (now : Instant) :
    (db.upsertOverride ⟨flag.asKey, enabled, by_, now⟩).flagOverride flag' = db.flagOverride flag' := by
  have hkey : ¬ flag.asKey = flag'.asKey := fun h => hne (asKey_injective h).symm
  have hsame : (db.upsertOverride ⟨flag.asKey, enabled, by_, now⟩).flagOverrides.find?
      (fun r => r.val.flagKey = flag'.asKey) = db.flagOverrides.find? fun r => r.val.flagKey = flag'.asKey := by
    refine Table.find?_upsert_of_apart (fun _ => rfl) (fun r hr => ?_) fun id => by simpa using hkey
    have hrow : r.val.flagKey = flag'.asKey := of_decide_eq_true hr
    simp only [Keyed.clash, decide_eq_false_iff_not, hrow]
    exact Ne.symm hkey
  rw [Db.flagOverride, hsame, Db.flagOverride]

theorem flagOverride_congr {db db' : Db} (h : db'.flagOverrides = db.flagOverrides) (flag : FeatureFlag) :
    db'.flagOverride flag = db.flagOverride flag := by
  rw [Db.flagOverride, h, Db.flagOverride]

/-- The three ways the statements of a toggle can go. -/
theorem run_toStore (faults : StoreFaults) (flag : FeatureFlag) (c : FlagToggle) (actorId : Int) (s : Process) :
    let db := s.db.upsertOverride ⟨flag.asKey, c.enabled, some actorId, c.now⟩
    match faults.plan (.flagUpsert flag.asKey) with
    | .before e => (FlagToggle.toStore flag c actorId).run faults.plan s = (.error e, s)
    | .after e => (FlagToggle.toStore flag c actorId).run faults.plan s = (.error e, { s with db })
    | .none => ∃ db', (FlagToggle.toStore flag c actorId).run faults.plan s =
        (.ok c.enabled, ⟨db', s.sharedFlags.toggle flag c.enabled⟩) ∧ db'.flagOverrides = db.flagOverrides := by
  intro db
  unfold FlagToggle.toStore
  cases hfault : faults.plan (.flagUpsert flag.asKey) with
  | before e =>
    refine Prog.run_bind_error faults.plan ?_
    rw [run_onDb, FeatureFlagRepository.upsertOverride, run_write_before hfault]
  | after e =>
    refine Prog.run_bind_error faults.plan ?_
    rw [run_onDb, FeatureFlagRepository.upsertOverride, run_write_after hfault]
  | none =>
    have hstored : (onDb (FeatureFlagRepository.upsertOverride flag c.enabled (some actorId) c.now)).run
        faults.plan s = (.ok (), { s with db }) := by
      rw [run_onDb, FeatureFlagRepository.upsertOverride, run_write hfault]
    have hshown : (AdminUseCase.toggleRegistry flag c.enabled).run faults.plan { s with db } =
        (.ok (), ⟨db, s.sharedFlags.toggle flag c.enabled⟩) := by
      unfold AdminUseCase.toggleRegistry
      rw [Prog.run_perform, faults.registry, Fault.apply_none]
    obtain ⟨db', hrun, hkept⟩ := run_toLog faults.plan flag c ⟨db, s.sharedFlags.toggle flag c.enabled⟩
    refine ⟨db', ?_, hkept⟩
    unfold FlagToggle.toRegister
    rw [Prog.run_bind_ok faults.plan hstored, Prog.run_bind_ok faults.plan hshown, hrun]

/-- **One toggle does to every flag what its outcome says.** -/
theorem toggle_life (c : FlagToggle) (faults : StoreFaults) (s : Process) (flag : FeatureFlag) :
    (FlagEvent.step s (.toggled c faults)).life flag = (s.life flag).step flag (.toggled c faults) := by
  simp only [FlagEvent.step, FlagLife.step]
  rcases program_of_target (c := c) with ⟨hnone, e, hprogram⟩ | ⟨target, actorId, htarget, hprogram⟩
  · have hnothing : c.outcome faults flag = .nothing := by
      unfold FlagToggle.outcome
      rw [hnone, if_neg (by simp)]
    rw [hprogram, hnothing]
    rfl
  · have hrun := run_toStore faults target c actorId s
    rw [← hprogram] at hrun
    by_cases hflag : flag = target
    · subst hflag
      have houtcome : c.outcome faults flag = match faults.plan (.flagUpsert flag.asKey) with
          | .none => .answered
          | .before _ => .nothing
          | .after _ => .stored := by
        unfold FlagToggle.outcome
        rw [if_pos htarget]
      rw [houtcome]
      cases hfault : faults.plan (.flagUpsert flag.asKey) with
      | before e =>
        simp only [hfault] at hrun
        rw [hrun]
      | after e =>
        simp only [hfault] at hrun
        rw [hrun]
        simp [Process.life]
      | none =>
        simp only [hfault] at hrun
        obtain ⟨db', hrun, hkept⟩ := hrun
        rw [hrun]
        simp [Process.life, flagOverride_congr hkept flag]
    · have hnothing : c.outcome faults flag = .nothing := by
        unfold FlagToggle.outcome
        rw [htarget, if_neg fun h => hflag (Option.some.inj h).symm]
      rw [hnothing]
      cases hfault : faults.plan (.flagUpsert target.asKey) with
      | before e =>
        simp only [hfault] at hrun
        rw [hrun]
      | after e =>
        simp only [hfault] at hrun
        rw [hrun]
        simp [Process.life, flagOverride_upsert_of_ne _ hflag]
      | none =>
        simp only [hfault] at hrun
        obtain ⟨db', hrun, hkept⟩ := hrun
        rw [hrun]
        simp [Process.life, flagOverride_congr hkept flag, flagOverride_upsert_of_ne _ hflag,
          FeatureFlagRegistry.isEnabled_toggle_of_ne _ _ hflag]

/-- No statement of a toggle stores a key that is not the flag's. -/
theorem toggle_keepsKeys (c : FlagToggle) :
    c.program.Within fun s s' : Process => KeysAsWritten s.db → KeysAsWritten s'.db := by
  rcases program_of_target (c := c) with ⟨-, e, hprogram⟩ | ⟨flag, actorId, -, hprogram⟩
  · rw [hprogram]
    exact .ret _
  · rw [hprogram]
    have hstore : (FeatureFlagRepository.upsertOverride flag c.enabled (some actorId) c.now).Within
        fun db db' => KeysAsWritten db → KeysAsWritten db' :=
      write_within fun _ h => keysAsWritten_upsert h flag c.enabled (some actorId) c.now
    have hlog : (AdminUseCase.emitAudit (AdminUseCase.toggleEntry c.actor flag c.enabled c.now)).Within
        fun db db' => KeysAsWritten db → KeysAsWritten db' :=
      .bind (.attempt (write_within fun _ h => h)) fun _ => .pure ()
    exact .bind (Prog.Within.focus (fun _ _ => rfl) hstore) fun _ =>
      .bind (.perform fun _ h => h) fun _ =>
        .bind (Prog.Within.focus (fun _ _ => rfl) hlog) fun _ => .pure _

/-! ## Histories of toggles and starts -/

theorem event_keepsKeys (e : FlagEvent) {s : Process} (h : KeysAsWritten s.db) :
    KeysAsWritten (e.step s).db := by
  cases e with
  | toggled c faults =>
    exact Prog.run_within faults.plan (K := fun s s' : Process => KeysAsWritten s.db → KeysAsWritten s'.db)
      (fun _ h => h) (fun _ _ _ h h' hs => h' (h hs)) (toggle_keepsKeys c) s h
  | started envValue =>
    simp only [FlagEvent.step, start_eq]
    exact h

/-- **One event does to every flag what `FlagLife.step` says.** -/
theorem event_life (e : FlagEvent) {s : Process} (h : KeysAsWritten s.db) (flag : FeatureFlag) :
    (e.step s).life flag = (s.life flag).step flag e := by
  cases e with
  | toggled c faults => exact toggle_life c faults s flag
  | started envValue =>
    simp only [FlagEvent.step, start_eq, Process.life, FlagLife.step, isEnabled_booted h]

/-- **So does a history.** -/
theorem follows_life (history : List FlagEvent) (flag : FeatureFlag) : ∀ {s : Process}, KeysAsWritten s.db →
    KeysAsWritten (s.after history).db ∧ (s.after history).life flag = history.foldl (·.step flag ·) (s.life flag) := by
  induction history with
  | nil => exact fun h => ⟨h, rfl⟩
  | cons e history ih =>
    intro s h
    have hrest := ih (event_keepsKeys e h)
    rw [event_life e h flag] at hrest
    exact hrest

/-- The event stores an override of the flag. -/
def FlagEvent.Stores (flag : FeatureFlag) : FlagEvent → Prop
  | .toggled c faults => c.outcome faults flag ≠ .nothing
  | .started _ => False

/-- Where nobody stores an override, a flag whose shown value is the stored one stays as it is. -/
theorem life_kept {flag : FeatureFlag} {enabled : Bool} {history : List FlagEvent}
    (h : ∀ e ∈ history, ¬ e.Stores flag) :
    history.foldl (·.step flag ·) (⟨some enabled, enabled⟩ : FlagLife) = ⟨some enabled, enabled⟩ := by
  induction history with
  | nil => rfl
  | cons e history ih =>
    have hstep : (⟨some enabled, enabled⟩ : FlagLife).step flag e = ⟨some enabled, enabled⟩ := by
      cases e with
      | toggled c faults =>
        have hnothing : c.outcome faults flag = .nothing := not_not.mp (h _ List.mem_cons_self)
        simp only [FlagLife.step, hnothing]
      | started envValue => rfl
    rw [List.foldl_cons, hstep]
    exact ih fun e he => h e (List.mem_cons_of_mem _ he)

/-- A call that answers has stored and registered its value. -/
theorem outcome_of_answer {c : FlagToggle} {faults : StoreFaults} {s : Process} {flag : FeatureFlag} {enabled : Bool}
    (hkey : FeatureFlag.fromStr c.flagKey = .ok flag)
    (h : (c.program.run faults.plan s).1 = .ok enabled) : enabled = c.enabled ∧ c.outcome faults flag = .answered := by
  rcases program_of_target (c := c) with ⟨-, e, hprogram⟩ | ⟨target, actorId, htarget, hprogram⟩
  · rw [hprogram] at h
    cases h
  · have hflag : target = flag := by
      unfold FlagToggle.target at htarget
      rw [hkey] at htarget
      split at htarget
      · next heq _ =>
        cases heq
        exact (Option.some.inj htarget).symm
      · cases htarget
    subst hflag
    have hrun := run_toStore faults target c actorId s
    rw [← hprogram] at hrun
    unfold FlagToggle.outcome
    rw [if_pos htarget]
    cases hfault : faults.plan (.flagUpsert target.asKey) with
    | before e =>
      simp only [hfault] at hrun
      rw [hrun] at h
      cases h
    | after e =>
      simp only [hfault] at hrun
      rw [hrun] at h
      cases h
    | none =>
      simp only [hfault] at hrun
      obtain ⟨db', hrun, -⟩ := hrun
      rw [hrun] at h
      exact ⟨(Except.ok.inj h).symm, rfl⟩

/-- **An answered toggle lasts.**  Whatever toggles and starts came before, and whatever follows as long as
no other toggle of the flag is stored, the process shows the value that was asked for, and a start in any
environment shows it again. -/
theorem answered_toggle_lasts (s : Process) (hs : KeysAsWritten s.db) (before later : List FlagEvent)
    (c : FlagToggle) (faults : StoreFaults) (flag : FeatureFlag) (enabled : Bool) (envValue : Option String)
    (hkey : FeatureFlag.fromStr c.flagKey = .ok flag)
    (hanswer : (c.program.run faults.plan (s.after before)).1 = .ok enabled)
    (hlater : ∀ e ∈ later, ¬ e.Stores flag) :
    let s' := s.after (before ++ .toggled c faults :: later)
    s'.sharedFlags.isEnabled flag = enabled ∧ (s'.start envValue).sharedFlags.isEnabled flag = enabled := by
  intro s'
  have hbefore := (follows_life before flag hs).2
  obtain ⟨rfl, hanswered⟩ := outcome_of_answer hkey hanswer
  have hlife : s'.life flag = ⟨some c.enabled, c.enabled⟩ := by
    rw [(follows_life _ flag hs).2, List.foldl_append, List.foldl_cons, ← hbefore]
    simp only [FlagLife.step, hanswered]
    exact life_kept hlater
  refine ⟨congrArg FlagLife.shown hlife, ?_⟩
  have hstart : (s'.start envValue).life flag = (s'.life flag).step flag (.started envValue) :=
    event_life (.started envValue) (follows_life _ flag hs).1 flag
  rw [hlife] at hstart
  exact congrArg FlagLife.shown hstart

/-- A toggle that is answered, and a restart in an environment that does not name the flag. -/
theorem csv_toggle_lasts :
    let s' := defaultProcess.after ([] ++ .toggled (csvToggle true) .none :: [.started none])
    s'.sharedFlags.isEnabled .csvExport = true ∧
      (s'.start (some "task_templates")).sharedFlags.isEnabled .csvExport = true :=
  answered_toggle_lasts defaultProcess keysAsWritten_empty [] [.started none] (csvToggle true) .none .csvExport true
    (some "task_templates") (by decide) rfl fun e he => by
      rw [List.mem_singleton.mp he]
      exact id

/-! ## What a restart changes -/

/-- The event stores an override of the flag that the process does not show. -/
def FlagEvent.Hides (flag : FeatureFlag) : FlagEvent → Prop
  | .toggled c faults => c.outcome faults flag = .stored
  | .started _ => False

def FlagEvent.IsStart : FlagEvent → Prop
  | .toggled _ _ => False
  | .started _ => True

/-- The process shows what a start in this environment would show. -/
def FlagLife.Settled (flag : FeatureFlag) (envValue : Option String) (life : FlagLife) : Prop :=
  life.step flag (.started envValue) = life

theorem settled_step {flag : FeatureFlag} {envValue : Option String} {life : FlagLife} (h : life.Settled flag envValue)
    {e : FlagEvent} (htoggle : ¬ e.IsStart) (hhidden : ¬ e.Hides flag) :
    (life.step flag e).Settled flag envValue := by
  cases e with
  | started _ => exact absurd trivial htoggle
  | toggled c faults =>
    cases houtcome : c.outcome faults flag with
    | nothing =>
      have hsame : life.step flag (.toggled c faults) = life := by simp only [FlagLife.step, houtcome]
      rw [hsame]
      exact h
    | stored => exact absurd houtcome hhidden
    | answered => simp [FlagLife.Settled, FlagLife.step, houtcome]

theorem settled_run {flag : FeatureFlag} {envValue : Option String} (history : List FlagEvent) :
    ∀ {life : FlagLife}, life.Settled flag envValue → (∀ e ∈ history, ¬ e.IsStart) →
      (∀ e ∈ history, ¬ e.Hides flag) → (history.foldl (·.step flag ·) life).Settled flag envValue := by
  induction history with
  | nil => exact fun h _ _ => h
  | cons e history ih =>
    intro life h htoggles hhidden
    exact ih (settled_step h (htoggles e List.mem_cons_self) (hhidden e List.mem_cons_self))
      (fun a ha => htoggles a (List.mem_cons_of_mem e ha)) fun a ha => hhidden a (List.mem_cons_of_mem e ha)

/-- **A restart in the same environment changes nothing** about a flag, unless since the last start a toggle
of it failed after its write. -/
theorem restart_changes_nothing (s : Process) (hs : KeysAsWritten s.db) (envValue : Option String)
    (history : List FlagEvent) (flag : FeatureFlag) (htoggles : ∀ e ∈ history, ¬ e.IsStart)
    (hhidden : ∀ e ∈ history, ¬ e.Hides flag) :
    let s' := (s.start envValue).after history
    (s'.start envValue).sharedFlags.isEnabled flag = s'.sharedFlags.isEnabled flag := by
  intro s'
  obtain ⟨hkeys, hlife⟩ := follows_life history flag (event_keepsKeys (.started envValue) hs)
  have hfirst : ((s.start envValue).life flag).Settled flag envValue := by
    have h : (s.start envValue).life flag = (s.life flag).step flag (.started envValue) :=
      event_life (.started envValue) hs flag
    rw [h]
    rfl
  have hlast : (s'.life flag).Settled flag envValue := by
    change ((s.start envValue).after history).life flag = _ at hlife
    rw [show s'.life flag = _ from hlife]
    exact settled_run history hfirst htoggles hhidden
  exact congrArg FlagLife.shown ((event_life (.started envValue) hkeys flag).trans hlast)

/-- Two toggles since the start, the first of them lost before it was stored. -/
theorem lost_toggle_restarts :
    let lost : StoreFaults := ⟨fun | .flagUpsert _ => .before (databaseError "locked") | _ => .none, fun _ => rfl⟩
    let s' := (defaultProcess.start none).after [.toggled (csvToggle true) lost, .toggled (csvToggle false) .none]
    (s'.start none).sharedFlags.isEnabled .csvExport = s'.sharedFlags.isEnabled .csvExport :=
  restart_changes_nothing defaultProcess keysAsWritten_empty none _ .csvExport
    (fun e he => by
      simp only [List.mem_cons, List.not_mem_nil, or_false] at he
      rcases he with rfl | rfl <;> exact id)
    fun e he => by
      simp only [List.mem_cons, List.not_mem_nil, or_false] at he
      rcases he with rfl | rfl <;> exact fun h => nomatch h

end TaskBot
