import TaskBot.Store.SlaRepository

/-!
# Optimistic locking

Any number of clients read a task, apply one operation of the aggregate and call
`update`; SLA writes go on beside them.  Every statement is atomic, the order is
any.

* `Follows`: what any step may do to a stored task: touch `updated_at`, or store
  a higher version;
* `Known`: what a client keeps knowing about a task it has read;
* `updateTask_known`: an update from a known base stores its argument over
  exactly that base, or answers the conflict and changes nothing;
* `updates_form_chain`: the stored versions of a task form one chain.
-/

namespace TaskBot

open Sql Calls TaskRepository

/-! ## Operations -/

/-- A domain operation with its arguments. -/
inductive TaskOp where
  | transitionTo (nextStatus : TaskStatus) (now : Instant)
  | applyBlocker (reason : String) (now : Instant)
  | reassign (assignedToUserId assignedToEmployeeId : Option Int) (now : Instant)
  | linkRegisteredAssignee (assignedToUserId : Int) (now : Instant)
deriving DecidableEq, Repr

def TaskOp.apply : TaskOp → Task → AppResult Task
  | transitionTo s now, t => t.transitionTo s now
  | applyBlocker reason now, t => t.applyBlocker reason now
  | reassign user employee now, t => t.reassign user employee now
  | linkRegisteredAssignee user now, t => t.linkRegisteredAssignee user now

/-- The task with another `updated_at`: what the SLA worker makes of it. -/
def Task.touch (t : Task) (u : Instant) : Task := { t with updatedAt := u }

/-- The tasks agree in every column but `updated_at`. -/
def SameButUpdatedAt (t t' : Task) : Prop := ∃ u, t' = t.touch u

theorem SameButUpdatedAt.refl (t : Task) : SameButUpdatedAt t t := ⟨t.updatedAt, rfl⟩

theorem SameButUpdatedAt.trans {t t' t'' : Task} (h : SameButUpdatedAt t t')
    (h' : SameButUpdatedAt t' t'') : SameButUpdatedAt t t'' := by
  obtain ⟨u, rfl⟩ := h
  obtain ⟨u', rfl⟩ := h'
  exact ⟨u', rfl⟩

theorem SameButUpdatedAt.version {t t' : Task} (h : SameButUpdatedAt t t') : t'.version = t.version := by
  obtain ⟨u, rfl⟩ := h
  rfl

theorem Task.SameDraft.touch {t t' : Task} (h : t'.SameDraft t) (u : Instant) :
    t'.SameDraft (t.touch u) := by
  obtain ⟨h₁, h₂, h₃, h₄, h₅, h₆, h₇, h₈, h₉, h₁₀, h₁₁, h₁₂⟩ := h
  exact ⟨h₁, h₂, h₃, h₄, h₅, h₆, h₇, h₈, h₉, h₁₀, h₁₁, h₁₂⟩

theorem Task.advanced_sameDraft (t : Task) (s : TaskStatus) (now : Instant) :
    (t.advanced s now).SameDraft t := by constructor <;> rfl

namespace TaskOp

/-- An operation keeps the identity of the task and raises its version by one;
only a link may return the task as it is. -/
theorem apply_ok {op : TaskOp} {t t' : Task} (h : op.apply t = .ok t') :
    t'.SameDraft t ∧ (t' = t ∨ t'.version = t.version + 1) := by
  cases op with
  | transitionTo s now =>
    obtain ⟨-, rfl⟩ := Task.transitionTo_ok h
    exact ⟨t.advanced_sameDraft s now, .inr rfl⟩
  | applyBlocker reason now =>
    obtain ⟨-, rfl⟩ := Task.applyBlocker_ok h
    exact ⟨by constructor <;> rfl, .inr rfl⟩
  | reassign user employee now =>
    obtain ⟨-, -, hv, -, hs⟩ := Task.reassign_ok h
    exact ⟨hs, .inr hv⟩
  | linkRegisteredAssignee user now =>
    obtain ⟨-, hs, -, hv⟩ := Task.linkRegisteredAssignee_ok h
    exact ⟨hs, hv⟩

/-- No operation that raises the version looks at `updated_at`. -/
theorem apply_touch {op : TaskOp} {t t' : Task} (h : op.apply t = .ok t')
    (hv : t'.version = t.version + 1) (u : Instant) : op.apply (t.touch u) = .ok t' := by
  cases op with
  | transitionTo s now => exact h
  | applyBlocker reason now => exact h
  | reassign user employee now => exact h
  | linkRegisteredAssignee user now =>
    simp only [apply, Task.linkRegisteredAssignee] at h ⊢
    have he : (t.touch u).assignedToEmployeeId = t.assignedToEmployeeId := rfl
    have hu : (t.touch u).assignedToUserId = t.assignedToUserId := rfl
    rw [he, hu]
    split at h
    · cases h
    · next he' =>
      rw [if_neg he']
      split at h
      · cases h
        omega
      · next hu' =>
        cases h
        rw [if_neg hu']
        rfl

end TaskOp

/-! ## What stays known of a task -/

/-- Every stored task stays: touched, or at a higher version. -/
def Follows (db db' : Db) : Prop :=
  ∀ uid t, db.stored uid = some t →
    ∃ t', db'.stored uid = some t' ∧ (SameButUpdatedAt t t' ∨ t.version < t'.version)

theorem Follows.of_stored {db db' : Db} (h : ∀ uid, db'.stored uid = db.stored uid) :
    Follows db db' :=
  fun uid t ht => ⟨t, by rw [h, ht], .inl (.refl t)⟩

theorem Follows.refl (db : Db) : Follows db db := .of_stored fun _ => rfl

theorem Follows.of_tasks {db db' : Db} (h : db'.tasks = db.tasks) : Follows db db' :=
  .of_stored (Db.stored_congr h)

theorem Follows.sla (taskId : Int) (state : String) (level : Int) (now : Instant) (db : Db) :
    Follows db (SlaRepository.slaUpdated taskId state level now db) := by
  intro uid t ht
  rcases SlaRepository.stored_slaUpdated ht taskId state level now with h | h
  · exact ⟨t, h, .inl (.refl t)⟩
  · exact ⟨_, h, .inl ⟨now, rfl⟩⟩

/-- The task was read: the stored one is still that version, or a later one. -/
def Known (base : Task) (db : Db) : Prop :=
  ∃ t, db.stored base.taskUid = some t ∧ (SameButUpdatedAt base t ∨ base.version < t.version)

theorem Known.of_stored {db : Db} {uid : Uuid} {base : Task} (h : db.stored uid = some base) :
    Known base db := by
  rw [← Db.stored_taskUid h] at h
  exact ⟨base, h, .inl (.refl base)⟩

/-- **What is known of a read task stays known** under every step. -/
theorem known_stable (base : Task) : Stable Follows (Known base) := by
  rintro db db' hf ⟨t, ht, hk⟩
  obtain ⟨t', ht', hs⟩ := hf _ _ ht
  refine ⟨t', ht', ?_⟩
  rcases hk with hk | hk <;> rcases hs with hs | hs
  · exact .inl (hk.trans hs)
  · exact .inr (by rw [hk.version] at hs; exact hs)
  · exact .inr (by rw [hs.version]; exact hk)
  · exact .inr (by omega)

/-- **An update from a known base** stores its argument over exactly that base,
or answers an error and changes nothing. -/
theorem updateTask_known {db : Db} {base task : Task} (hk : Known base db) (hs : task.SameDraft base)
    (hv : task = base ∨ task.version = base.version + 1) :
    updateTask task db = (.error (versionConflict task), db) ∨
      (task.version = base.version + 1 ∧ (∃ u, db.stored task.taskUid = some (base.touch u)) ∧
        updateTask task db = (.ok task, updated task db) ∧
        (updated task db).stored task.taskUid = some task) := by
  obtain ⟨t, ht, hbt⟩ := hk
  rw [← hs.taskUid] at ht
  by_cases hm : t.version = task.version - 1
  · refine .inr ?_
    rcases hbt with ⟨u, rfl⟩ | hlt
    · have hv' : task.version = base.version + 1 := by
        have : (base.touch u).version = base.version := rfl
        omega
      exact ⟨hv', ⟨u, ht⟩, update_ok ht hm (hs.touch u)⟩
    · rcases hv with rfl | hv <;> omega
  · exact .inl (update_conflict ht hm)

theorem follows_updated {db : Db} {base task : Task}
    (hv : task.version = base.version + 1) {u : Instant}
    (hb : db.stored task.taskUid = some (base.touch u))
    (hu : (updated task db).stored task.taskUid = some task) : Follows db (updated task db) := by
  intro uid t ht
  by_cases he : uid = task.taskUid
  · subst he
    rw [hb] at ht
    cases ht
    refine ⟨task, hu, .inr ?_⟩
    have : (base.touch u).version = base.version := rfl
    omega
  · exact ⟨t, by rw [stored_updated_ne he, ht], .inl (.refl t)⟩

/-! ## Clients -/

/-- One concurrent run: a read, an operation and an update of the task, or a
write of the SLA worker. -/
inductive Client where
  | mutate (uid : Uuid) (op : TaskOp)
  | slaWrite (taskId : Int) (state : String) (lastLevel : Int) (now : Instant)
deriving DecidableEq, Repr

def Client.program : Client → Proc Unit
  | mutate uid op => do
      let found ← findByUid uid
      let task ← .lift (okOrElse found (TaskRepository.taskNotFound uid))
      let nextTask ← .lift (op.apply task)
      let _ ← update nextTask
      pure ()
  | slaWrite taskId state lastLevel now => SlaRepository.updateSlaState taskId state lastLevel now

/-- The operation of a client on the stored task is the step from `t` to `t'`. -/
def SucceededBy (clients : List Client) (uid : Uuid) (t t' : Task) : Prop :=
  ∃ op, Client.mutate uid op ∈ clients ∧ op.apply t = .ok t' ∧ t'.version = t.version + 1

/-- What one step of a client may do: nothing to any task, an SLA touch, or its
operation applied to the task as it is stored. -/
def Guarantee (c : Client) (db db' : Db) : Prop :=
  Follows db db' ∧
    ∀ uid t, db.stored uid = some t → ∃ t', db'.stored uid = some t' ∧
      (SameButUpdatedAt t t' ∨ SucceededBy [c] uid t t')

theorem Guarantee.refl (c : Client) (db : Db) : Guarantee c db db :=
  ⟨.refl db, fun _ t ht => ⟨t, ht, .inl (.refl t)⟩⟩

theorem guarantee_sla (c : Client) (taskId : Int) (state : String) (level : Int) (now : Instant)
    (db : Db) : Guarantee c db (SlaRepository.slaUpdated taskId state level now db) := by
  refine ⟨Follows.sla taskId state level now db, fun uid t ht => ?_⟩
  rcases SlaRepository.stored_slaUpdated ht taskId state level now with h | h
  · exact ⟨t, h, .inl (.refl t)⟩
  · exact ⟨_, h, .inl ⟨now, rfl⟩⟩

/-- The update of a client stores the operation applied to the stored task. -/
theorem guarantee_update {uid : Uuid} {op : TaskOp} {db : Db} {base task : Task}
    (hk : Known base db) (huid : base.taskUid = uid) (hop : op.apply base = .ok task) :
    Guarantee (.mutate uid op) db (updateTask task db).2 := by
  obtain ⟨hs, hv⟩ := TaskOp.apply_ok hop
  rcases updateTask_known hk hs hv with h | ⟨hv, ⟨u, hb⟩, h, hu⟩
  · rw [h]
    exact .refl _ _
  · rw [h]
    refine ⟨follows_updated hv hb hu, fun uid' t ht => ?_⟩
    by_cases he : uid' = task.taskUid
    · subst he
      rw [hb] at ht
      cases ht
      refine ⟨task, hu, .inr ⟨op, ?_, TaskOp.apply_touch hop hv u, hv⟩⟩
      rw [hs.taskUid, huid]
      exact List.mem_singleton.mpr rfl
    · exact ⟨t, by rw [stored_updated_ne he, ht], .inl (.refl t)⟩

/-- **Every client is safe** whatever the others do between its statements. -/
theorem client_safe (c : Client) :
    Safe Follows (Guarantee c) (fun _ => True) c.program fun _ _ => True := by
  cases c with
  | slaWrite taskId state level now =>
    refine Safe.perform (fun _ => .const _ _) fun db _ f => ⟨?_, trivial⟩
    rcases f.apply_store _ db with h | h
    · rw [h]; exact .refl _ _
    · rw [h]; exact guarantee_sla _ _ _ _ _ _
  | mutate uid op =>
    -- after the read, the client knows the task it was given
    let Q : AppResult (Option Task) → Db → Prop := fun r db =>
      ∀ t, r = .ok (some t) → t.taskUid = uid ∧ Known t db
    refine Safe.bind (Q := Q) ?_ ?_ fun _ _ _ => trivial
    · refine Safe.read (.refl _) ?_ ?_ ?_
      · intro r db db' hf h t ht
        exact ⟨(h t ht).1, known_stable t _ _ hf (h t ht).2⟩
      · intro db _ t ht
        have ht : db.stored uid = some t := Except.ok.inj ht
        exact ⟨Db.stored_taskUid ht, .of_stored ht⟩
      · intro e db _ t ht
        cases ht
    · intro found
      refine Safe.lift_bind (fun t hfound => ?_) fun _ _ _ _ => trivial
      refine Safe.lift_bind (fun task hop => ?_) fun _ _ _ _ => trivial
      refine Safe.bind (Q := fun _ _ => True) ?_ (fun _ => .pure fun _ _ => trivial) fun _ _ _ => trivial
      refine Safe.perform (fun _ => .const _ _) fun db hq f => ⟨?_, trivial⟩
      obtain ⟨huid, hk⟩ := hq t (by cases found <;> cases hfound; rfl)
      rcases f.apply_store (updateTask task) db with h | h
      · rw [h]; exact .refl _ _
      · rw [h]; exact guarantee_update hk huid hop

/-! ## Top theorems: the chain of versions -/

/-- All clients about to start on one database. -/
def startClients (db : Db) (clients : List Client) : Pool Site Db AppError Client Unit :=
  ⟨db, clients.map fun c => (c, c.program)⟩

/-- The step stored another version of the task. -/
def movesVersion (uid : Uuid) (a : Act Db Client) : Bool :=
  (a.after.stored uid).map Task.version ≠ (a.before.stored uid).map Task.version

/-- The versions of the task stored in the course of a schedule, in order. -/
def storedVersions (uid : Uuid) (acts : List (Act Db Client)) : List Task :=
  Pool.commits (fun db => db.stored uid) (movesVersion uid) acts

theorem startClients_guarded (db : Db) (clients : List Client) :
    (startClients db clients).Guarded Follows fun c => Guarantee c := by
  intro t ht
  obtain ⟨c, -, rfl⟩ := List.mem_map.mp ht
  exact ⟨fun _ => True, .const _ _, trivial, client_safe c⟩

theorem SucceededBy.mono {c : Client} {clients : List Client} {uid : Uuid} {t t' : Task}
    (hc : c ∈ clients) (h : SucceededBy [c] uid t t') : SucceededBy clients uid t t' := by
  obtain ⟨op, hop, h⟩ := h
  exact ⟨op, by rw [List.mem_singleton.mp hop]; exact hc, h⟩

theorem SucceededBy.of_same {clients : List Client} {uid : Uuid} {t t' t'' : Task}
    (hs : SameButUpdatedAt t t') (h : SucceededBy clients uid t' t'') :
    SucceededBy clients uid t t'' := by
  obtain ⟨u, rfl⟩ := hs
  obtain ⟨op, hop, h, hv⟩ := h
  exact ⟨op, hop, TaskOp.apply_touch h hv t.updatedAt, hv⟩

/-- Every step of a schedule touches the stored task, or is an operation applied to it. -/
theorem acts_move (uid : Uuid) (clients : List Client) (db : Db) (sched : List (Nat × Fault AppError)) :
    ∀ a ∈ (startClients db clients).acts sched,
      Pool.Moves (fun db => db.stored uid) (movesVersion uid) SameButUpdatedAt
        (SucceededBy clients uid) a := by
  intro a ha t ht
  have hwho : a.who ∈ clients := by
    have := Pool.acts_who sched _ a ha
    simpa [startClients, Function.comp_def] using this
  obtain ⟨-, hg⟩ := Pool.acts_guarantee (fun _ _ _ h => h.1) (startClients_guarded db clients) sched a ha
  obtain ⟨t', ht', h⟩ := hg uid t ht
  refine ⟨t', ht', ?_⟩
  have hmove : movesVersion uid a = true ↔ t'.version ≠ t.version := by
    simp [movesVersion, ht, ht']
  rcases h with h | h
  · rw [if_neg]
    · exact h
    · rw [hmove, h.version]
      simp
  · rw [if_pos]
    · exact h.mono hwho
    · obtain ⟨-, -, -, hv⟩ := h
      rw [hmove]
      omega

/-- **The stored versions of a task form a single chain.**  In every interleaving
each stored version is the operation of a client applied to exactly the version
stored before it, one version up; the last one is what is stored, up to
`updated_at`; an update computed from an older version answers an error and
changes nothing; an update that answers has raised the version by one. -/
theorem updates_form_chain (uid : Uuid) (clients : List Client) (db : Db) (t₀ : Task)
    (h : db.stored uid = some t₀) (sched : List (Nat × Fault AppError)) :
    let versions := storedVersions uid ((startClients db clients).acts sched)
    let last := ((startClients db clients).exec sched).store
    List.IsChain (SucceededBy clients uid) (t₀ :: versions) ∧
      (∃ t, last.stored uid = some t ∧ SameButUpdatedAt (versions.getLastD t₀) t ∧
        ∀ base op task, base.taskUid = uid → base.version < t.version → TaskOp.apply op base = .ok task →
          updateTask task last = (.error (versionConflict task), last)) ∧
      ∀ task t' db', updateTask task last = (.ok t', db') →
        ∃ prev, last.stored task.taskUid = some prev ∧ t'.version = prev.version + 1 ∧
          db'.stored task.taskUid = some t' := by
  intro versions last
  obtain ⟨hchain, t, ht, hsame⟩ := Pool.commits_chain
    SameButUpdatedAt (SucceededBy clients uid) (fun _ _ _ => SameButUpdatedAt.trans) SameButUpdatedAt.refl (fun _ _ _ => SucceededBy.of_same)
    sched (startClients db clients) t₀ t₀ h (.refl t₀) (acts_move uid clients db sched)
  refine ⟨hchain, ⟨t, ht, hsame, ?_⟩, ?_⟩
  · intro base op task huid hlt hop
    obtain ⟨hs, hv⟩ := TaskOp.apply_ok hop
    have ht' : last.stored task.taskUid = some t := by rw [hs.taskUid, huid]; exact ht
    refine update_conflict ht' ?_
    rcases hv with rfl | hv <;> omega
  · intro task t' db' hu
    obtain ⟨prev, hp, hv, hst, htv⟩ := update_answer hu
    exact ⟨prev, hp, by omega, hst⟩

/-- Two clients that both read before either writes: one of them stores a version. -/
theorem updates_form_chain_race :
    let clients := [.mutate (sampleUid 1) (.transitionTo .sent 5),
      .mutate (sampleUid 1) (.applyBlocker "waiting" 6), .slaWrite 1 "at_risk" 1 7]
    let acts := (startClients sampleDb clients).acts
      [(0, .none), (1, .none), (2, .none), (1, .none), (0, .none)]
    List.IsChain (SucceededBy clients (sampleUid 1)) (sampleTask :: storedVersions (sampleUid 1) acts) ∧
      (storedVersions (sampleUid 1) acts).map Task.status = [.blocked] :=
  ⟨(updates_form_chain (sampleUid 1) _ sampleDb sampleTask rfl _).1, by decide⟩

end TaskBot
