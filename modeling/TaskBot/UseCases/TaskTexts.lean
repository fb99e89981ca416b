import TaskBot.UseCases.TaskRights

/-!
# The text of a task

`TaskTexts T db db'`: a stored task is still stored, with the text it was created
from, and the text of a new one is in `T`.

    createTask      T is the text of its message        (CreateTaskFromMessage.texts)
    reassignTask    T is empty                          (ReassignTask.texts)
-/

namespace TaskBot

open Sql Calls TaskRepository

structure TaskTexts (T : String → Prop) (db db' : Db) : Prop where
  keeps : ∀ uid t, db.stored uid = some t →
    ∃ t', db'.stored uid = some t' ∧ t'.originalMessage = t.originalMessage
  adds : ∀ uid t', db.stored uid = none → db'.stored uid = some t' → T t'.originalMessage

namespace TaskTexts

variable {T T' : String → Prop} {db db' db'' : Db}

theorem of_tasks (h : db'.tasks = db.tasks) : TaskTexts T db db' where
  keeps uid t ht := ⟨t, (Db.stored_congr h uid).trans ht, rfl⟩
  adds uid _ hnone ht := nomatch hnone.symm.trans ((Db.stored_congr h uid).symm.trans ht)

theorem refl (db : Db) : TaskTexts T db db := of_tasks rfl

theorem trans (h : TaskTexts T db db') (h' : TaskTexts T db' db'') : TaskTexts T db db'' where
  keeps uid t ht := by
    obtain ⟨t', ht', htext⟩ := h.keeps uid t ht
    obtain ⟨t'', ht'', htext'⟩ := h'.keeps uid t' ht'
    exact ⟨t'', ht'', htext'.trans htext⟩
  adds uid t'' hnone ht'' := by
    cases ht' : db'.stored uid with
    | none => exact h'.adds uid t'' ht' ht''
    | some t' =>
      have htext : T t'.originalMessage := h.adds uid t' hnone ht'
      obtain ⟨t₂, ht₂, hsame⟩ := h'.keeps uid t' ht'
      cases ht''.symm.trans ht₂
      rw [hsame]
      exact htext

theorem mono (h : TaskTexts T db db') (hT : ∀ text, T text → T' text) : TaskTexts T' db db' where
  keeps := h.keeps
  adds uid t' hnone ht' := hT _ (h.adds uid t' hnone ht')

/-- No `UPDATE` sets the text. -/
theorem updated (task : Task) (db : Db) : TaskTexts T db (TaskRepository.updated task db) := by
  refine ⟨fun uid t ht => ?_, fun uid t' hnone ht' => ?_⟩
  · obtain ⟨r, rfl, -, hfind⟩ := stored_updated_some task ht
    refine ⟨_, hfind, ?_⟩
    by_cases hq : isPrevious task r = true
    · simp only [setWhere, hq, if_true]
      rfl
    · simp only [setWhere, hq]
      rfl
  · rw [stored_updated_none task hnone] at ht'
    cases ht'

/-- An `INSERT` adds the text of its task. -/
theorem inserted {task : Task} (htext : T task.originalMessage) (db : Db) :
    TaskTexts T db (TaskRepository.inserted task db) where
  keeps uid t ht := ⟨t, stored_inserted_some ht, rfl⟩
  adds uid t' hnone ht' := by
    rw [stored_inserted_none hnone ht']
    exact htext

end TaskTexts

/-! ## Use cases -/

theorem CreateTaskFromMessage.buildTask_originalMessage {services : CreationServices} {clock : Nat → Instant}
    {uid : Uuid} {message : IncomingMessage} {originalText : String} {creator : User}
    {parsedRequest : ParsedTaskRequest} {assignee : ResolvedAssignee} {generated : GeneratedTask}
    {task : Task} (h : buildTask services clock uid message originalText creator parsedRequest assignee
      generated = .ok task) : task.originalMessage = originalText := by
  unfold buildTask at h
  cases hid : requiredUserId creator with
  | error e => rw [hid] at h; cases h
  | ok creatorId =>
    rw [hid] at h
    replace h : Task.new uid _ creatorId _ _ _ _ _ _ _ _ _ _ _ _ = .ok task := h
    unfold Task.new at h
    split at h
    · cases h
    · cases h
      rfl

/-- **A task is created with the text of its message.** -/
theorem CreateTaskFromMessage.texts (services : CreationServices) (clock : Nat → Instant) (uid : Uuid)
    (message : IncomingMessage) (decision : TaskAssigneeDecision) (plan : Site → Fault AppError) (db : Db) :
    TaskTexts (fun text => extractOriginalText services message = .ok text) db
      ((executeWithAssigneeDecision services clock uid message decision).run plan db).2 := by
  have hyields : (executeWithAssigneeDecision services clock uid message decision).Yields
      (TaskTexts fun text => extractOriginalText services message = .ok text) fun _ => True := by
    refine execute_yields TaskTexts.refl (fun _ _ _ h h' => h.trans h') (fun _ _ => .of_tasks)
      fun task hdrafts db => ?_
    obtain ⟨originalText, _, _, _, _, htext, htask⟩ := hdrafts
    refine .inserted ?_ db
    rw [buildTask_originalMessage htask]
    exact htext
  exact (hyields plan db).1

theorem ReassignTask.texts (clock : Nat → Instant) (ranking : NameRanking) (actor : User) (uid : Uuid)
    (assigneeQuery : String) (decision : ReassignAssigneeDecision) (plan : Site → Fault AppError) (db : Db) :
    TaskTexts (fun _ => False) db
      ((executeWithDecision clock ranking actor uid assigneeQuery decision).run plan db).2 :=
  (stores_in_order clock ranking actor uid assigneeQuery decision plan db).relates TaskTexts.refl
    (fun _ _ _ h h' => h.trans h') (fun _ _ => .of_tasks) fun _ m _ _ => .updated m.task db

end TaskBot
