import TaskBot.Lib.Noninterference
import TaskBot.UseCases.ListTasks
import TaskBot.UseCases.SearchTasks
import TaskBot.UseCases.TaskCard
import TaskBot.UseCases.TaskComments

/-!
# Confidentiality

What the lists, the search and the card of a task tell a user depends on the tasks that `ensure_can_view_task` lets
the user view, and on what belongs to them.  `SameTo` is what a viewer cannot tell apart.

    SameTo viewer db db'   →   the queries of the viewer answer the same   (noninterference)

* `list_same`, `search_same`, `card_same`: query by query, from the rules of `Related`;
* `SameTo.updated`, `SameTo.history`, …: what is written for a task out of sight leaves the viewer's sight alone;
* `unseen_work`: however many status updates, blocker reports and comments go on at the same time, on tasks the
  viewer may not view, and whatever fails.

One thing shows: the card of a task out of sight is refused with another error than that of a task that does not
exist.
-/

namespace TaskBot

open Sql Calls TaskRepository RoleAuthorizationPolicy

/-- `ensure_can_view_task` lets the viewer through. -/
def CanView (viewer : User) (t : Task) : Prop := ensureCanViewTask viewer t = .ok ()

instance (viewer : User) : DecidablePred (CanView viewer) := fun t =>
  inferInstanceAs (Decidable (ensureCanViewTask viewer t = .ok ()))

/-- The tasks the viewer may view. -/
def Db.visibleTo (db : Db) (viewer : User) : List Task := (db.tasks.rows.map toTask).filter fun t => CanView viewer t

/-- What belongs to the task is the same. -/
structure SameOfTask (taskId : Int) (db db' : Db) : Prop where
  history : (db'.history.rows.filter fun r => r.val.taskId = taskId) =
    db.history.rows.filter fun r => r.val.taskId = taskId
  comments : (db'.comments.rows.filter fun r => r.val.taskId = taskId) =
    db.comments.rows.filter fun r => r.val.taskId = taskId
  notifications : (db'.notifications.rows.filter fun r => r.val.taskId = some taskId) =
    db.notifications.rows.filter fun r => r.val.taskId = some taskId

/-- To the viewer the databases are the same. -/
structure SameTo (viewer : User) (db db' : Db) : Prop where
  tasks : db'.visibleTo viewer = db.visibleTo viewer
  users : db'.users = db.users
  employees : db'.employees = db.employees
  records : ∀ t ∈ db.visibleTo viewer, ∀ taskId, t.id = some taskId → SameOfTask taskId db db'

section

variable {viewer : User} {db db' db'' : Db} {t : Task} {uid : Uuid}

theorem SameTo.refl (viewer : User) (db : Db) : SameTo viewer db db where
  tasks := rfl
  users := rfl
  employees := rfl
  records _ _ _ _ := ⟨rfl, rfl, rfl⟩

theorem SameTo.trans (h : SameTo viewer db db') (h' : SameTo viewer db' db'') : SameTo viewer db db'' where
  tasks := h'.tasks.trans h.tasks
  users := h'.users.trans h.users
  employees := h'.employees.trans h.employees
  records t ht taskId hid := by
    have hfirst := h.records t ht taskId hid
    have hsecond := h'.records t (h.tasks ▸ ht) taskId hid
    exact ⟨hsecond.history.trans hfirst.history, hsecond.comments.trans hfirst.comments,
      hsecond.notifications.trans hfirst.notifications⟩

theorem mem_visibleTo : t ∈ db.visibleTo viewer ↔ ∃ r ∈ db.tasks.rows, toTask r = t ∧ CanView viewer t := by
  unfold Db.visibleTo
  rw [List.mem_filter, List.mem_map, decide_eq_true_iff]
  constructor
  · rintro ⟨⟨r, hr, ht⟩, hview⟩
    exact ⟨r, hr, ht, hview⟩
  · rintro ⟨r, hr, ht, hview⟩
    exact ⟨⟨r, hr, ht⟩, hview⟩

theorem visible_of_stored (ht : db.stored uid = some t) (hview : CanView viewer t) : t ∈ db.visibleTo viewer := by
  obtain ⟨r, hr, rfl⟩ := Option.map_eq_some_iff.mp ht
  exact mem_visibleTo.mpr ⟨r, (Table.find?_some hr).1, rfl, hview⟩

theorem stored_of_visible (ht : t ∈ db.visibleTo viewer) : db.stored t.taskUid = some t := by
  obtain ⟨r, hr, rfl, -⟩ := mem_visibleTo.mp ht
  exact stored_of_mem hr

/-- A row that is out of sight has its id for itself. -/
theorem id_of_visible (ht : db.stored uid = some t) (hhidden : ¬ CanView viewer t) :
    ∀ t' ∈ db.visibleTo viewer, t'.id ≠ t.id := by
  intro t' ht' hid
  obtain ⟨r', hr', rfl, hview⟩ := mem_visibleTo.mp ht'
  obtain ⟨r, hr, rfl⟩ := Option.map_eq_some_iff.mp ht
  have hsame : r' = r := by
    have hfound : db.tasks.find? (fun a => a.id = r.id) = some r :=
      GetTaskStatus.row_of_id.mpr ⟨(Table.find?_some hr).1, rfl⟩
    have hfound' : db.tasks.find? (fun a => a.id = r.id) = some r' :=
      GetTaskStatus.row_of_id.mpr ⟨hr', Option.some.inj hid⟩
    exact Option.some.inj (hfound'.symm.trans hfound)
  rw [hsame] at hview
  exact hhidden hview

/-! ## The queries -/

/-- The stores of a run of queries, which write nothing. -/
def At (db db' : Db) (s s' : Db) : Prop := s = db ∧ s' = db'

theorem read_same {α : Type} {site : Site} {ans : Db → AppResult α} {E : AppError → AppError → Prop} (hE : ∀ e, E e e)
    (h : ans db' = ans db) : Prog.Related (At db db') E Eq (select site ans) (select site ans) := by
  refine .read hE fun s s' ⟨hs, hs'⟩ => ?_
  rw [hs, hs', h]
  exact .of_eq hE (fun _ => rfl) rfl

/-- The tasks of a scope that is within the viewer's sight. -/
theorem listQuery_same (h : SameTo viewer db db') {scope : Task → Bool}
    (hscope : ∀ t, scope t = true → CanView viewer t) (cursor : Option String) (limit : Nat) :
    listQuery scope cursor limit db' = listQuery scope cursor limit db := by
  have hsight : ∀ d : Db, (d.tasks.rows.map toTask).filter scope = (d.visibleTo viewer).filter scope := by
    intro d
    unfold Db.visibleTo
    rw [List.filter_filter]
    refine List.filter_congr fun t _ => ?_
    by_cases ht : scope t = true
    · rw [ht, decide_eq_true (hscope t ht), Bool.and_true]
    · rw [Bool.eq_false_iff.mpr ht, Bool.false_and]
  unfold listQuery
  rw [hsight db', hsight db, h.tasks]

theorem canView_of_assigned {userId : Int} (hid : viewer.id = some userId) (ht : t.assignedToUserId = some userId) :
    CanView viewer t := ensureCanViewTask_iff.mpr ⟨userId, hid, .inr (.inr ht)⟩

theorem canView_of_created {userId : Int} (hid : viewer.id = some userId) (ht : t.createdByUserId = userId) :
    CanView viewer t := ensureCanViewTask_iff.mpr ⟨userId, hid, .inr (.inl ht.symm)⟩

theorem listAssigned_same (h : SameTo viewer db db') {userId : Int} (hid : viewer.id = some userId)
    (cursor : Option String) (limit : Nat) :
    Prog.Related (At db db') Eq Eq (listAssignedToUser userId cursor limit) (listAssignedToUser userId cursor limit) :=
  read_same (fun _ => rfl) (congrArg Except.ok
    (listQuery_same h (fun _ ht => canView_of_assigned hid (of_decide_eq_true ht)) cursor limit))

theorem listCreated_same (h : SameTo viewer db db') {userId : Int} (hid : viewer.id = some userId)
    (cursor : Option String) (limit : Nat) :
    Prog.Related (At db db') Eq Eq (listCreatedByUser userId cursor limit) (listCreatedByUser userId cursor limit) :=
  read_same (fun _ => rfl) (congrArg Except.ok
    (listQuery_same h (fun _ ht => canView_of_created hid (of_decide_eq_true ht)) cursor limit))

theorem lift_same {α : Type} {E : AppError → AppError → Prop} (hE : ∀ e, E e e) (r : AppResult α) :
    Prog.Related (ι := Site) (At db db') E Eq (.lift r) (.lift r) := .lift (.of_eq hE (fun _ => rfl) rfl)

theorem list_same (h : SameTo viewer db db') (today : NaiveDate) (scope : TaskListScope) (cursor : Option String)
    (limit : Option Nat) : Prog.Related (At db db') Eq Eq (ListTasks.execute today viewer scope cursor limit)
      (ListTasks.execute today viewer scope cursor limit) := by
  refine .bind_same ?_ fun tasks => .pure rfl
  unfold ListTasks.fetchPage
  cases hid : viewer.id with
  | none => exact lift_same (fun _ => rfl) (.error _)
  | some actorId =>
    rw [okOrElse_some, Prog.lift_ok_bind]
    have hteam : Prog.Related (At db db') Eq Eq
        (do .lift (ensureCanViewTeamTasks viewer); listAll cursor (ListTasks.sanitizeLimit limit))
        (do .lift (ensureCanViewTeamTasks viewer); listAll cursor (ListTasks.sanitizeLimit limit)) := by
      cases hmay : ensureCanViewTeamTasks viewer with
      | error e => exact lift_same (fun _ => rfl) (.error e)
      | ok _ =>
        have hmanager : viewer.role.isManagerOrAdmin = true := by
          unfold ensureCanViewTeamTasks at hmay
          split at hmay
          · assumption
          · cases hmay
        have hall : ∀ t, CanView viewer t := fun t => ensureCanViewTask_iff.mpr ⟨actorId, hid, .inl hmanager⟩
        exact read_same (fun _ => rfl) (congrArg Except.ok (listQuery_same h (fun t _ => hall t) _ _))
    cases scope with
    | assignedToMe | focus => exact listAssigned_same h hid _ _
    | createdByMe => exact listCreated_same h hid _ _
    | team | managerInbox => exact hteam

theorem search_same (h : SameTo viewer db db') (toLowercase : String → String) (canonical : String) :
    Prog.Related (At db db') Eq Eq (SearchTasks.execute toLowercase viewer canonical)
      (SearchTasks.execute toLowercase viewer canonical) := by
  unfold SearchTasks.execute
  cases hid : viewer.id with
  | none => exact lift_same (fun _ => rfl) (.error _)
  | some userId =>
    rw [okOrElse_some, Prog.lift_ok_bind]
    exact .bind_same (listAssigned_same h hid _ _) fun assigned =>
      .bind_same (listCreated_same h hid _ _) fun created => .pure rfl

/-! ## The card -/

/-- The viewer is refused what the lookup found, if it found anything. -/
def Denied (viewer : User) (found : Option Task) : Prop := ∀ t, found = some t → ¬ CanView viewer t

/-- The lookups found the same task, which the viewer may view, or nothing for the viewer. -/
def FoundAlike (viewer : User) (db : Db) (found found' : Option Task) : Prop :=
  (∃ t ∈ db.visibleTo viewer, found = some t ∧ found' = some t) ∨ Denied viewer found ∧ Denied viewer found'

theorem found_alike (h : SameTo viewer db db') (uid : Uuid) : FoundAlike viewer db (db.stored uid) (db'.stored uid) := by
  by_cases hvisible : ∃ t ∈ db.visibleTo viewer, t.taskUid = uid
  · obtain ⟨t, ht, rfl⟩ := hvisible
    exact .inl ⟨t, ht, stored_of_visible ht, stored_of_visible (h.tasks ▸ ht)⟩
  · refine .inr ⟨fun t ht hview => hvisible ?_, fun t ht hview => hvisible ?_⟩
    · exact ⟨t, visible_of_stored ht hview, Db.stored_taskUid ht⟩
    · exact ⟨t, h.tasks ▸ visible_of_stored ht hview, Db.stored_taskUid ht⟩

theorem denied_fails {α : Type} {found : Option Task} (h : Denied viewer found) (e : AppError) (f : Task → Unit → Proc α) :
    ∃ e', (do
      let task ← .lift (okOrElse found e)
      let allowed ← .lift (ensureCanViewTask viewer task)
      f task allowed : Proc α) = .fail e' := by
  cases found with
  | none => exact ⟨e, rfl⟩
  | some t =>
    cases hview : ensureCanViewTask viewer t with
    | ok _ => exact absurd hview (h t rfl)
    | error e' =>
      refine ⟨e', ?_⟩
      rw [okOrElse_some, Prog.lift_ok_bind, hview]
      rfl

theorem employeeDisplay_same (h : SameTo viewer db db') (t : Task) : Prog.Related (At db db') (fun _ _ => True) Eq
    (GetTaskStatus.resolveEmployeeDisplay t) (GetTaskStatus.resolveEmployeeDisplay t) := by
  unfold GetTaskStatus.resolveEmployeeDisplay
  split
  · exact .pure rfl
  · refine .bind_same (read_same (fun _ => trivial) ?_) fun _ => .pure rfl
    rw [h.employees]

theorem user_same (h : SameTo viewer db db') (userId : Int) : Prog.Related (At db db') (fun _ _ => True) Eq
    (UserRepository.findById userId) (UserRepository.findById userId) := by
  refine read_same (fun _ => trivial) ?_
  rw [h.users]

theorem assigneeDisplay_same (h : SameTo viewer db db') (t : Task) : Prog.Related (At db db') (fun _ _ => True) Eq
    (GetTaskStatus.resolveAssigneeDisplay t) (GetTaskStatus.resolveAssigneeDisplay t) := by
  unfold GetTaskStatus.resolveAssigneeDisplay
  split
  · exact employeeDisplay_same h t
  · refine .bind_same (user_same h _) fun user => ?_
    cases user with
    | none => exact employeeDisplay_same h t
    | some user => exact .pure rfl

/-- The last notice to a recipient is one of those of the task. -/
theorem latest_same {taskId : Int} (h : SameOfTask taskId db db') (recipient : Int) (kind : NotificationType) :
    Prog.Related (At db db') (fun _ _ => True) Eq
      (NotificationRepository.findLatestForTaskAndRecipient taskId recipient kind)
      (NotificationRepository.findLatestForTaskAndRecipient taskId recipient kind) := by
  have hsplit : ∀ rows : List (Stored Notification), (rows.filter fun r =>
      r.val.taskId = some taskId ∧ r.val.recipientUserId = recipient ∧ r.val.notificationType = kind) =
      (rows.filter fun r => r.val.taskId = some taskId).filter fun r =>
        r.val.recipientUserId = recipient ∧ r.val.notificationType = kind := by
    intro rows
    rw [List.filter_filter]
    refine List.filter_congr fun r _ => ?_
    rw [← Bool.decide_and]
    exact decide_eq_decide.mpr and_comm
  refine read_same (fun _ => trivial) ?_
  simp only [hsplit, h.notifications]

theorem deliveryStatus_same (h : SameTo viewer db db') (ht : t ∈ db.visibleTo viewer) :
    Prog.Related (At db db') (fun _ _ => True) Eq (GetTaskStatus.resolveDeliveryStatus t)
      (GetTaskStatus.resolveDeliveryStatus t) := by
  unfold GetTaskStatus.resolveDeliveryStatus
  simp only
  split
  · exact .pure rfl
  · split
    · exact .pure rfl
    · exact .pure rfl
    · next taskId userId hid _ =>
      refine .bind_same (user_same h _) fun user => ?_
      cases user with
      | none => exact .pure rfl
      | some user => exact .bind_same (latest_same (h.records t ht taskId hid) _ _) fun _ => .pure rfl

theorem card_same (h : SameTo viewer db db') (uid : Uuid) : Prog.Related (At db db') (fun _ _ => True) Eq
    (GetTaskStatus.execute viewer uid) (GetTaskStatus.execute viewer uid) := by
  have hfind : Prog.Related (At db db') (fun _ _ => True) (FoundAlike viewer db) (findByUid uid) (findByUid uid) :=
    .read (fun _ => trivial) fun s s' ⟨hs, hs'⟩ => .ok (by rw [hs, hs']; exact found_alike h uid)
  unfold GetTaskStatus.execute loadTask
  simp only [Prog.bind_assoc]
  refine .bind hfind fun found found' hfound => ?_
  rcases hfound with ⟨t, ht, rfl, rfl⟩ | ⟨hdenied, hdenied'⟩
  · obtain ⟨r, -, rfl, hview⟩ := mem_visibleTo.mp ht
    have hrecords := h.records _ ht r.id rfl
    rw [okOrElse_some, Prog.lift_ok_bind, hview, Prog.lift_ok_bind]
    have hid : ∀ e, (Prog.lift (okOrElse (toTask r).id e) : Proc Int) = .lift (.ok r.id) := fun _ => rfl
    rw [hid, Prog.lift_ok_bind]
    refine .bind_same (read_same (fun _ => trivial) ?_) fun history => ?_
    · simp only [hrecords.history]
    refine .bind_same (read_same (fun _ => trivial) ?_) fun comments => ?_
    · simp only [hrecords.comments]
    exact .bind_same (assigneeDisplay_same h _) fun _ => .bind_same (deliveryStatus_same h ht) fun _ => .pure rfl
  · obtain ⟨e, he⟩ := denied_fails hdenied (taskNotFound uid) _
    obtain ⟨e', he'⟩ := denied_fails hdenied' (taskNotFound uid) _
    rw [he, he']
    exact .lift (.error trivial)

/-- **The queries of a viewer tell nothing of the tasks out of sight**: on databases that are the same to the viewer,
the same statements failing, the lists and the search answer the same, and a card is the same or refused on both. -/
theorem queries_noninterfere (h : SameTo viewer db db') (plan : Site → Fault AppError) :
    (∀ today scope cursor limit, ((ListTasks.execute today viewer scope cursor limit).run plan db).1 =
      ((ListTasks.execute today viewer scope cursor limit).run plan db').1) ∧
    (∀ toLowercase canonical, ((SearchTasks.execute toLowercase viewer canonical).run plan db).1 =
      ((SearchTasks.execute toLowercase viewer canonical).run plan db').1) ∧
    ∀ uid, Agree (fun _ _ => True) Eq ((GetTaskStatus.execute viewer uid).run plan db).1
      ((GetTaskStatus.execute viewer uid).run plan db').1 :=
  ⟨fun today scope cursor limit => (list_same h today scope cursor limit plan db db' ⟨rfl, rfl⟩).1.eq,
    fun toLowercase canonical => (search_same h toLowercase canonical plan db db' ⟨rfl, rfl⟩).1.eq,
    fun uid => (card_same h uid plan db db' ⟨rfl, rfl⟩).1⟩

/-! ## Work on tasks out of sight -/

theorem filter_map_congr {α β : Type} {f g : α → β} {p : β → Bool} {l : List α}
    (h : ∀ a ∈ l, f a = g a ∨ (p (f a) = false ∧ p (g a) = false)) : (l.map f).filter p = (l.map g).filter p := by
  induction l with
  | nil => rfl
  | cons a l ih =>
    have hrest := ih fun b hb => h b (List.mem_cons_of_mem a hb)
    rcases h a List.mem_cons_self with heq | ⟨hf, hg⟩
    · rw [List.map_cons, List.map_cons, heq, List.filter_cons, List.filter_cons, hrest]
    · rw [List.map_cons, List.map_cons, List.filter_cons_of_neg (by rw [hf]; exact Bool.false_ne_true),
        List.filter_cons_of_neg (by rw [hg]; exact Bool.false_ne_true), hrest]

theorem filter_insert_other {α : Type} [Keyed α] {t : Table α} {v : α} {q : Stored α → Bool}
    (h : q ⟨t.nextId, v⟩ = false) : ((t.insertOrIgnore v).1.rows.filter q) = t.rows.filter q := by
  rcases Table.insertOrIgnore_cases t v with ⟨-, hsame⟩ | ⟨-, hrows, -⟩
  · rw [hsame]
  · rw [hrows, List.filter_append, List.filter_singleton, h]
    exact List.append_nil _

/-- No task in sight is like this. -/
def Db.Lacks (db : Db) (viewer : User) (p : Task → Prop) : Prop := ∀ t ∈ db.visibleTo viewer, ¬ p t

theorem SameTo.lacks {p : Task → Prop} (h : SameTo viewer db db') (hlacks : db.Lacks viewer p) : db'.Lacks viewer p := by
  intro t ht
  rw [h.tasks] at ht
  exact hlacks t ht

/-- A new version of a task out of sight that stays out of sight. -/
theorem SameTo.updated {task : Task} (hlacks : db.Lacks viewer fun t => t.taskUid = task.taskUid)
    (hhidden : ¬ CanView viewer task) : SameTo viewer db (TaskRepository.updated task db) where
  tasks := by
    unfold Db.visibleTo TaskRepository.updated Table.modify
    rw [List.map_map]
    refine filter_map_congr fun r hr => ?_
    by_cases hq : isPrevious task r = true
    · right
      have hbefore : ¬ CanView viewer (toTask r) := fun hview =>
        hlacks _ (mem_visibleTo.mpr ⟨r, hr, rfl, hview⟩) (of_decide_eq_true hq).1
      refine ⟨decide_eq_false fun hview => ?_, decide_eq_false hbefore⟩
      rw [Function.comp_apply, setWhere, if_pos hq] at hview
      -- the creator is the stored one, the assignee the new one
      obtain ⟨actorId, hid, hmay⟩ := ensureCanViewTask_iff.mp hview
      rcases hmay with hmanager | hcreator | hassignee
      · exact hbefore (ensureCanViewTask_iff.mpr ⟨actorId, hid, .inl hmanager⟩)
      · exact hbefore (ensureCanViewTask_iff.mpr ⟨actorId, hid, .inr (.inl hcreator)⟩)
      · exact hhidden (ensureCanViewTask_iff.mpr ⟨actorId, hid, .inr (.inr hassignee)⟩)
    · left
      rw [Function.comp_apply, setWhere, if_neg hq]
  users := rfl
  employees := rfl
  records _ _ _ _ := ⟨rfl, rfl, rfl⟩

theorem SameTo.history {entry : AuditLogEntry} (hlacks : db.Lacks viewer fun t => t.id = some entry.taskId) :
    SameTo viewer db (db.appendHistory entry) where
  tasks := rfl
  users := rfl
  employees := rfl
  records t ht k hk := by
    refine ⟨filter_insert_other (decide_eq_false fun hsame => hlacks t ht ?_), rfl, rfl⟩
    exact hk.trans (congrArg some hsame.symm)

theorem SameTo.comments {comment : TaskComment} (hlacks : db.Lacks viewer fun t => t.id = some comment.taskId) :
    SameTo viewer db (db.appendComment comment) where
  tasks := rfl
  users := rfl
  employees := rfl
  records t ht k hk := by
    refine ⟨rfl, filter_insert_other (decide_eq_false fun hsame => hlacks t ht ?_), rfl⟩
    exact hk.trans (congrArg some hsame.symm)

theorem SameTo.notifications {n : Notification} (hlacks : db.Lacks viewer fun t => t.id = n.taskId) :
    SameTo viewer db (db.insertNotification n) where
  tasks := rfl
  users := rfl
  employees := rfl
  records t ht k hk := by
    refine ⟨rfl, rfl, filter_insert_other (decide_eq_false fun hsame => hlacks t ht ?_)⟩
    exact hk.trans hsame.symm

/-- No task in sight is this one, by its identifier or by its row. -/
def OutOfSight (viewer : User) (t : Task) (db : Db) : Prop :=
  db.Lacks viewer fun t' => t'.taskUid = t.taskUid ∨ t'.id = t.id

theorem outOfSight_of_stored (ht : db.stored uid = some t) (hhidden : ¬ CanView viewer t) : OutOfSight viewer t db := by
  intro t' ht' hsame
  rcases hsame with huid | hid
  · have hstored := stored_of_visible ht'
    rw [huid, Db.stored_taskUid ht, ht] at hstored
    rw [Option.some.inj hstored] at hhidden
    exact hhidden (mem_visibleTo.mp ht').choose_spec.2.2
  · exact id_of_visible ht hhidden t' ht' hid

/-- Calls that leave the viewer's sight alone when the task is out of it. -/
def Spares (viewer : User) (t : Task) (s s' : Db) : Prop := OutOfSight viewer t s → SameTo viewer s s'

/-- Whatever else goes on out of the viewer's sight, the program keeps to what is out of it. -/
abbrev Unseen {α : Type} (viewer : User) (P : Db → Prop) (p : Proc α) (Q : AppResult α → Db → Prop) : Prop :=
  Safe (SameTo viewer) (SameTo viewer) P p Q

theorem stable_lacks (viewer : User) (p : Task → Prop) : Stable (SameTo viewer) fun db => db.Lacks viewer p :=
  fun _ _ h hlacks => h.lacks hlacks

theorem unseen_of_spares {α : Type} {p : Proc α} (hp : p.Within (Spares viewer t)) :
    Unseen viewer (OutOfSight viewer t) p fun _ _ => True :=
  (Safe.of_within_from hp (SameTo.refl viewer) (fun _ _ hsight h => h hsight) (fun _ _ h => h)
    (stable_lacks viewer _)).weaken (fun _ h => h) fun _ _ _ => trivial

/-- The task of a load is out of sight, if no task in sight is asked for. -/
theorem unseen_loadTask (viewer : User) (uid : Uuid) :
    Unseen viewer (fun db => db.Lacks viewer fun t => t.taskUid = uid) (loadTask uid) fun r db =>
      ∀ t, r = .ok t → t.taskUid = uid ∧ ¬ CanView viewer t ∧ OutOfSight viewer t db := by
  have hfind : Unseen viewer (fun db => db.Lacks viewer fun t => t.taskUid = uid) (findByUid uid) fun r db =>
      ∀ t, r = .ok (some t) → t.taskUid = uid ∧ ¬ CanView viewer t ∧ OutOfSight viewer t db := by
    refine .read (SameTo.refl viewer) (fun r s s' hs h t ht => ?_) (fun s hlacks t ht => ?_) fun e s _ t ht => by cases ht
    · obtain ⟨huid, hhidden, hsight⟩ := h t ht
      exact ⟨huid, hhidden, hs.lacks hsight⟩
    · have hstored : s.stored uid = some t := Except.ok.inj ht
      have hhidden : ¬ CanView viewer t := fun hview =>
        hlacks t (visible_of_stored hstored hview) (Db.stored_taskUid hstored)
      exact ⟨Db.stored_taskUid hstored, hhidden, outOfSight_of_stored hstored hhidden⟩
  refine hfind.bind (fun found => ?_) fun e s _ t ht => by cases ht
  cases found with
  | none => exact .fail fun s _ t ht => by cases ht
  | some t =>
    refine .pure fun s h t' ht => ?_
    cases ht
    exact h t rfl

/-- A new version of a task out of sight: what the update answers is out of sight too. -/
theorem unseen_update {task : Task} (hhidden : ¬ CanView viewer task) :
    Unseen viewer (fun db => db.Lacks viewer fun t => t.taskUid = task.taskUid) (TaskRepository.update task) fun r db =>
      ∀ saved, r = .ok saved → OutOfSight viewer saved db := by
  have hstep : ∀ s : Db, (s.Lacks viewer fun t => t.taskUid = task.taskUid) →
      SameTo viewer s (updateTask task s).2 ∧ ∀ saved, (updateTask task s).1 = .ok saved →
        OutOfSight viewer saved (updateTask task s).2 := by
    intro s hlacks
    unfold updateTask
    cases hfind : s.tasks.find? (isPrevious task) with
    | none => exact ⟨.refl viewer s, fun saved hsaved => by cases hsaved⟩
    | some r =>
      have hsame := SameTo.updated hlacks hhidden
      refine ⟨hsame, fun saved hsaved => hsame.lacks ?_⟩
      cases hsaved
      obtain ⟨hr, hprevious⟩ := Table.find?_some hfind
      have huid : r.val.task.taskUid = task.taskUid := (of_decide_eq_true hprevious).1
      have hbefore : ¬ CanView viewer (toTask r) := fun hview =>
        hlacks _ (mem_visibleTo.mpr ⟨r, hr, rfl, hview⟩) huid
      have hsight : OutOfSight viewer (toTask r) s := outOfSight_of_stored (stored_of_mem hr) hbefore
      exact hsight
  refine .perform (fun r s s' hs h saved hsaved => hs.lacks (h saved hsaved)) fun s hlacks f => ?_
  obtain ⟨hsame, hsaved⟩ := hstep s hlacks
  cases f with
  | none => exact ⟨hsame, hsaved⟩
  | before e => exact ⟨.refl viewer s, fun saved h => by cases h⟩
  | after e => exact ⟨hsame, fun saved h => by cases h⟩

/-! ## The programs -/

theorem spares_append {entry : AuditLogEntry} (h : t.id = some entry.taskId) :
    (AuditLogRepository.append entry).Within (Spares viewer t) :=
  write_within fun _ hsight => .history fun t' ht' hid => hsight t' ht' (.inr (hid.trans h.symm))

theorem spares_create {comment : TaskComment} (h : t.id = some comment.taskId) :
    (CommentRepository.create comment).Within (Spares viewer t) :=
  write_within fun _ hsight => .comments fun t' ht' hid => hsight t' ht' (.inr (hid.trans h.symm))

theorem spares_reads {α : Type} {p : Proc α} (hp : p.Within Eq) : p.Within (Spares viewer t) :=
  hp.mono fun s _ hsame _ => hsame ▸ .refl viewer s

theorem spares_enqueue (slot : Nat) {n : Notification} (h : t.id = n.taskId) :
    (NotificationRepository.enqueue slot n).Within (Spares viewer t) :=
  .bind (write_within fun _ hsight => .notifications fun t' ht' hid => hsight t' ht' (.inr (hid.trans h.symm))) fun _ =>
    .bind (spares_reads (select_reads _ _)) fun _ => .bind (.lift _) fun _ => .pure _

/-- What a user does to one task. -/
inductive TaskWork where
  | status (clock : Nat → Instant) (actor : User) (uid : Uuid) (requested : TaskStatus)
  | blocker (clock : Nat → Instant) (actor : User) (uid : Uuid) (reason : String)
  | comment (clock : Nat → Instant) (actor : User) (uid : Uuid) (body : String)

namespace TaskWork

def taskUid : TaskWork → Uuid
  | status _ _ uid _ | blocker _ _ uid _ | comment _ _ uid _ => uid

def program : TaskWork → Proc Unit
  | status clock actor uid requested => do let _ ← UpdateTaskStatus.execute clock actor uid requested
  | blocker clock actor uid reason => do let _ ← ReportTaskBlocker.execute clock actor uid reason
  | comment clock actor uid body => do let _ ← AddTaskComment.execute clock actor uid body

end TaskWork

theorem unseen_lift_bind {α β : Type} {r : AppResult α} {f : α → Proc β} {P : Db → Prop}
    (h : ∀ a, r = .ok a → Unseen viewer P (f a) fun _ _ => True) :
    Unseen viewer P (.lift r >>= f) fun _ _ => True := .lift_bind h fun _ _ _ _ => trivial

/-- A load, and what goes on with a task out of sight. -/
theorem unseen_load_bind {α : Type} {f : Task → Proc α}
    (h : ∀ t, t.taskUid = uid → ¬ CanView viewer t → Unseen viewer (OutOfSight viewer t) (f t) fun _ _ => True) :
    Unseen viewer (fun db => db.Lacks viewer fun t => t.taskUid = uid) (loadTask uid >>= f) fun _ _ => True := by
  refine (unseen_loadTask viewer uid).bind (fun t => ?_) fun _ _ _ => trivial
  have hfrom : Unseen viewer (fun s => (t.taskUid = uid ∧ ¬ CanView viewer t) ∧ OutOfSight viewer t s) (f t)
      fun _ _ => True := .of_and_const fun ⟨huid, hhidden⟩ => h t huid hhidden
  exact hfrom.weaken (fun s hs => ⟨⟨(hs t rfl).1, (hs t rfl).2.1⟩, (hs t rfl).2.2⟩) fun _ _ h => h

/-- An update of the loaded task by one of its operations, and what goes on with the new version. -/
theorem unseen_update_bind {α : Type} {task : Task} {f : Task → Proc α} (huid : task.taskUid = t.taskUid)
    (hhidden : ¬ CanView viewer task) (h : ∀ saved, (f saved).Within (Spares viewer saved)) :
    Unseen viewer (OutOfSight viewer t) (TaskRepository.update task >>= f) fun _ _ => True := by
  have hupdate : Unseen viewer (OutOfSight viewer t) (TaskRepository.update task) fun r db =>
      ∀ saved, r = .ok saved → OutOfSight viewer saved db :=
    (unseen_update hhidden).weaken (fun s hsight t' ht' hsame => hsight t' ht' (.inl (hsame.trans huid)))
      fun _ _ h => h
  exact hupdate.bind (fun saved => (unseen_of_spares (h saved)).weaken (fun s hs => hs saved rfl) fun _ _ h => h)
    fun _ _ _ => trivial

theorem unseen_work_bind {α : Type} {p : Proc α} {P : Db → Prop} (h : Unseen viewer P p fun _ _ => True) :
    Unseen viewer P (do let _ ← p) fun _ _ => True :=
  h.bind (fun _ => .pure fun _ _ => trivial) fun _ _ _ => trivial

theorem not_canView_of_draft {task : Task} (hdraft : task.SameDraft t)
    (hassigned : task.assignedToUserId = t.assignedToUserId) (hhidden : ¬ CanView viewer t) : ¬ CanView viewer task := by
  intro hview
  obtain ⟨actorId, hid, hmay⟩ := ensureCanViewTask_iff.mp hview
  rw [hdraft.createdByUserId, hassigned] at hmay
  exact hhidden (ensureCanViewTask_iff.mpr ⟨actorId, hid, hmay⟩)

theorem unseen_status (clock : Nat → Instant) (actor : User) (uid : Uuid) (requested : TaskStatus) :
    Unseen viewer (fun db => db.Lacks viewer fun t => t.taskUid = uid)
      (UpdateTaskStatus.execute clock actor uid requested) fun _ _ => True := by
  refine unseen_load_bind fun t huid hhidden => unseen_lift_bind fun next _ => unseen_lift_bind fun _ _ => ?_
  refine unseen_lift_bind fun task hup => ?_
  obtain ⟨-, rfl⟩ := Task.transitionTo_ok hup
  have hdraft := t.advanced_sameDraft next (clock 0)
  refine unseen_update_bind hdraft.taskUid (not_canView_of_draft hdraft rfl hhidden) fun saved => ?_
  have hone : ∀ slot now recipient, (UpdateTaskStatus.notifyParticipant slot actor.id saved next now recipient).Within
      (Spares viewer saved) := by
    intro slot now recipient
    unfold UpdateTaskStatus.notifyParticipant
    split
    · exact .pure _
    · split
      · exact .pure _
      · exact .bind (spares_enqueue slot rfl) fun _ => .pure _
  cases hid : saved.id with
  | none =>
    unfold UpdateTaskStatus.logStatusChange
    rw [hid]
    exact .fail _
  | some k =>
    unfold UpdateTaskStatus.logStatusChange
    rw [hid, okOrElse_some, Prog.lift_ok_bind]
    exact .bind (.bind (spares_append hid) fun _ => .pure _) fun _ =>
      .bind (.bind (hone _ _ _) fun _ => hone _ _ _) fun _ => .pure _

theorem unseen_blocker (clock : Nat → Instant) (actor : User) (uid : Uuid) (reason : String) :
    Unseen viewer (fun db => db.Lacks viewer fun t => t.taskUid = uid)
      (ReportTaskBlocker.execute clock actor uid reason) fun _ _ => True := by
  refine unseen_lift_bind fun actorId _ => unseen_load_bind fun t huid hhidden => unseen_lift_bind fun _ _ => ?_
  refine unseen_lift_bind fun task hup => ?_
  obtain ⟨-, htask⟩ := Task.applyBlocker_ok hup
  have hdraft : task.SameDraft t := by
    rw [htask]
    constructor <;> rfl
  have hassigned : task.assignedToUserId = t.assignedToUserId := by
    rw [htask]
    rfl
  refine unseen_update_bind hdraft.taskUid (not_canView_of_draft hdraft hassigned hhidden) fun saved => ?_
  cases hid : saved.id with
  | none => exact .fail _
  | some k =>
    rw [okOrElse_some, Prog.lift_ok_bind]
    cases hnew : TaskComment.new k actorId .blocker reason (clock 1) with
    | error e => exact .fail _
    | ok comment =>
      rw [Prog.lift_ok_bind]
      have hcomment : saved.id = some comment.taskId := by rw [TaskComment.new_ok hnew, hid]
      refine .bind (spares_create hcomment) fun stored => .bind (spares_append hid) fun _ => ?_
      refine .bind ?_ fun _ => .pure _
      unfold ReportTaskBlocker.notifyCreator
      split
      · exact .pure _
      · exact .bind (spares_enqueue 0 rfl) fun _ => .pure _

theorem unseen_comment (clock : Nat → Instant) (actor : User) (uid : Uuid) (body : String) :
    Unseen viewer (fun db => db.Lacks viewer fun t => t.taskUid = uid)
      (AddTaskComment.execute clock actor uid body) fun _ _ => True := by
  refine unseen_lift_bind fun actorId _ => unseen_load_bind fun t huid hhidden => unseen_lift_bind fun _ _ => ?_
  refine unseen_lift_bind fun k hk => unseen_lift_bind fun comment hnew => unseen_of_spares ?_
  have hid : t.id = some k := okOrElse_ok hk
  have hcomment : t.id = some comment.taskId := by rw [TaskComment.new_ok hnew, hid]
  have hone : ∀ slot text commentId now recipient,
      (AddTaskComment.notifyRecipient slot actorId t text commentId now recipient).Within (Spares viewer t) := by
    intro slot text commentId now recipient
    unfold AddTaskComment.notifyRecipient
    split
    · exact .pure _
    · split
      · exact .pure _
      · exact .bind (spares_enqueue slot rfl) fun _ => .pure _
  refine .bind (spares_create hcomment) fun stored => ?_
  refine .bind (.bind (spares_append hid) fun _ => .pure _) fun _ => ?_
  exact .bind (.bind (hone _ _ _ _ _) fun _ => hone _ _ _ _ _) fun _ => .pure _

theorem TaskWork.unseen (viewer : User) (work : TaskWork) :
    Unseen viewer (fun db => db.Lacks viewer fun t => t.taskUid = work.taskUid) work.program fun _ _ => True := by
  cases work with
  | status clock actor uid requested => exact unseen_work_bind (unseen_status clock actor uid requested)
  | blocker clock actor uid reason => exact unseen_work_bind (unseen_blocker clock actor uid reason)
  | comment clock actor uid body => exact unseen_work_bind (unseen_comment clock actor uid body)

/-- **Work on tasks out of sight goes unseen.**  However many users update, block and comment tasks the viewer may
not view, in any order of their statements and whatever fails, the viewer's queries answer as if nothing had been
done. -/
theorem unseen_work {κ : Type} {pool : Pool Site Db AppError κ Unit}
    (hwork : ∀ thread ∈ pool.threads, ∃ work : TaskWork, thread.2 = work.program ∧
      ∀ t, pool.store.stored work.taskUid = some t → ¬ CanView viewer t)
    (sched : List (Nat × Fault AppError)) (plan : Site → Fault AppError) :
    (∀ today scope cursor limit, ((ListTasks.execute today viewer scope cursor limit).run plan pool.store).1 =
      ((ListTasks.execute today viewer scope cursor limit).run plan (pool.exec sched).store).1) ∧
    (∀ toLowercase canonical, ((SearchTasks.execute toLowercase viewer canonical).run plan pool.store).1 =
      ((SearchTasks.execute toLowercase viewer canonical).run plan (pool.exec sched).store).1) ∧
    ∀ uid, Agree (fun _ _ => True) Eq ((GetTaskStatus.execute viewer uid).run plan pool.store).1
      ((GetTaskStatus.execute viewer uid).run plan (pool.exec sched).store).1 := by
  have hguarded : pool.Guarded (SameTo viewer) fun _ => SameTo viewer := by
    intro thread hthread
    obtain ⟨work, hprogram, hhidden⟩ := hwork thread hthread
    refine ⟨_, stable_lacks viewer fun t => t.taskUid = work.taskUid, fun t ht huid => ?_, ?_⟩
    · exact hhidden t (huid ▸ stored_of_visible ht) (mem_visibleTo.mp ht).choose_spec.2.2
    · rw [hprogram]
      exact work.unseen viewer
  exact queries_noninterfere (Pool.exec_within hguarded (fun _ _ _ h => h) (SameTo.refl viewer)
    (fun _ _ _ h h' => h.trans h') sched) plan

end

/-- A user who has nothing to do with the sample task. -/
def stranger : User := { UserRepository.sampleUser 30 .user with id := some 3 }

/-- To the stranger the sample task might as well not be there. -/
theorem sample_same_to_stranger : SameTo stranger sampleDb { sampleDb with tasks := .empty } where
  tasks := by decide
  users := rfl
  employees := rfl
  records t ht := by
    have hnone : sampleDb.visibleTo stranger = [] := by decide
    rw [hnone] at ht
    cases ht

theorem stranger_told_nothing :
    ((ListTasks.execute 0 stranger .createdByMe none none).run noFaults sampleDb).1 =
      ((ListTasks.execute 0 stranger .createdByMe none none).run noFaults { sampleDb with tasks := .empty }).1 :=
  (queries_noninterfere sample_same_to_stranger noFaults).1 0 .createdByMe none none

/-- The assignee of the sample task starts it. -/
def startWork : TaskWork :=
  .status (fun _ => 0) { UserRepository.sampleUser 20 .user with id := some 2 } (sampleUid 1) .inProgress

def startedPool : Pool Site Db AppError Unit Unit := ⟨sampleDb, [((), startWork.program)]⟩

theorem start_goes_unseen :
    ((ListTasks.execute 0 stranger .assignedToMe none none).run noFaults startedPool.store).1 =
      ((ListTasks.execute 0 stranger .assignedToMe none none).run noFaults
        (startedPool.exec (List.replicate 8 (0, .none))).store).1 := by
  refine (unseen_work (fun thread hthread => ?_) (List.replicate 8 (0, .none)) noFaults).1 0 .assignedToMe none none
  rw [List.mem_singleton.mp hthread]
  refine ⟨startWork, rfl, fun t ht => ?_⟩
  have hsample : sampleDb.stored (sampleUid 1) = some sampleTask := by decide
  cases hsample.symm.trans ht
  decide

end TaskBot
