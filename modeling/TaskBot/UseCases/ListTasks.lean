import TaskBot.Store.TaskRepository
import TaskBot.Store.UserRepository
import TaskBot.Policies.RoleAuthorization
import TaskBot.UseCases.TaskViews

/-!
# Task lists

A list is asked for page by page; a page puts the tasks it fetched into sections.

    the pages that follow the cursor fetch each task of the list once, in order, and
    what they fetch they show    (list_tasks_complete)

What a section shows is `shown_iff`, and which tasks some section of a list takes in
`covered` and `focus_covered`.
-/

namespace TaskBot

open Sql Calls

namespace ListTasks

def defaultPageSize : Nat := 20
def maxPageSize : Nat := 50
def managerInboxStaleDays : Int := 3

/-! ## Sections -/

def sectionOverdue (task : Task) (today : NaiveDate) : Bool :=
  task.deadline.any (fun deadline => deadline < today) && !task.status.isTerminal

def sectionDueToday (task : Task) (today : NaiveDate) : Bool :=
  task.deadline = some today && !task.status.isTerminal && task.status ≠ .blocked

def sectionInReview (task : Task) (_ : NaiveDate) : Bool := task.status = .inReview

def sectionBlocked (task : Task) (_ : NaiveDate) : Bool := task.status = .blocked

def sectionNew (task : Task) (_ : NaiveDate) : Bool := task.status = .created || task.status = .sent

def sectionInProgress (task : Task) (_ : NaiveDate) : Bool := task.status = .inProgress

def sectionCompleted (task : Task) (_ : NaiveDate) : Bool := task.status = .completed

def sectionCancelled (task : Task) (_ : NaiveDate) : Bool := task.status = .cancelled

def sectionPendingRegistration (task : Task) (_ : NaiveDate) : Bool :=
  task.assignedToEmployeeId.isSome && task.assignedToUserId.isNone

def sectionAttention (task : Task) (today : NaiveDate) : Bool :=
  sectionOverdue task today || task.status = .blocked || (task.status = .created || task.status = .sent) ||
    sectionPendingRegistration task today

def sectionFocusUrgent (task : Task) (today : NaiveDate) : Bool :=
  sectionOverdue task today || sectionDueToday task today

def sectionFocusWaitingForMe (task : Task) (_ : NaiveDate) : Bool :=
  task.status = .created || task.status = .sent

def sectionDeadlineRisk (task : Task) (today : NaiveDate) : Bool :=
  if task.status.isTerminal then false else task.deadline.any fun deadline => deadline ≤ today

def sectionStale (task : Task) (today : NaiveDate) : Bool :=
  if task.status.isTerminal then false
  else managerInboxStaleDays ≤ today - Instant.utcDate task.updatedAt

def taskHighlight (task : Task) (today : NaiveDate) : Option String :=
  if sectionPendingRegistration task today then some "нужен /start от исполнителя"
  else if task.status = .blocked then task.blockedReason
  else if sectionOverdue task today then some "дедлайн уже прошёл"
  else if sectionDueToday task today then some "срок сегодня"
  else if sectionStale task today then some "по задаче давно не было движения"
  else none

abbrev SectionPredicate := Task → NaiveDate → Bool

/-- The line of a list that shows the task. -/
def listItem (today : NaiveDate) (task : Task) : TaskListItem :=
  .fromTask task none none (taskHighlight task today)

/-- A section that would be empty is left out. -/
def buildSection (tasks : List Task) (today : NaiveDate) (descriptor : String × SectionPredicate) :
    Option TaskListSection :=
  let items := (tasks.filter fun task => descriptor.2 task today).map (listItem today)
  if items.isEmpty then none else some ⟨descriptor.1, items⟩

def buildStandardSections (tasks : List Task) (today : NaiveDate)
    (descriptors : List (String × SectionPredicate)) : List TaskListSection :=
  descriptors.filterMap (buildSection tasks today)

def descriptors : TaskListScope → List (String × SectionPredicate)
  | .assignedToMe =>
      [("🔥 Просрочено", sectionOverdue), ("🧪 Ждёт проверки", sectionInReview),
        ("🚧 Есть блокеры", sectionBlocked), ("⏰ На сегодня", sectionDueToday), ("📥 Новые", sectionNew),
        ("▶️ В работе", sectionInProgress), ("✅ Завершено", sectionCompleted),
        ("⛔ Отменено", sectionCancelled)]
  | .createdByMe | .team =>
      [("⚠️ Требует внимания", sectionAttention), ("🧪 На проверке", sectionInReview),
        ("🚧 Есть блокеры", sectionBlocked), ("▶️ В работе", sectionInProgress),
        ("✅ Завершено", sectionCompleted), ("⛔ Отменено", sectionCancelled)]
  | .focus =>
      [("🔥 Горит сейчас", sectionFocusUrgent), ("🧭 Ждёт моего действия", sectionFocusWaitingForMe),
        ("🚧 Заблокировано", sectionBlocked), ("🧪 На проверке", sectionInReview),
        ("▶️ Остальное в работе", sectionInProgress)]
  | .managerInbox =>
      [("🧪 Ждёт решения менеджера", sectionInReview), ("🚧 Нужна помощь с блокером", sectionBlocked),
        ("👋 Исполнитель ещё не подключил бота", sectionPendingRegistration),
        ("🔥 Риск по срокам", sectionDeadlineRisk), ("🕰️ Без движения", sectionStale)]

def buildSections (scope : TaskListScope) (today : NaiveDate) (tasks : List Task) : List TaskListSection :=
  buildStandardSections tasks today (descriptors scope)

/-! ## Pages -/

/-- `limit.unwrap_or(DEFAULT_PAGE_SIZE).clamp(1, MAX_PAGE_SIZE)`. -/
def sanitizeLimit (limit : Option Nat) : Nat := max 1 (min maxPageSize (limit.getD defaultPageSize))

/-- The tasks of a page. -/
def fetch (actor : User) (actorId : Int) (scope : TaskListScope) (cursor : Option String) (pageSize : Nat) :
    Proc (List Task) :=
  match scope with
  | .assignedToMe | .focus => TaskRepository.listAssignedToUser actorId cursor pageSize
  | .createdByMe => TaskRepository.listCreatedByUser actorId cursor pageSize
  | .team | .managerInbox => do
      .lift (RoleAuthorizationPolicy.ensureCanViewTeamTasks actor)
      TaskRepository.listAll cursor pageSize

def notRegistered (actor : User) : AppError :=
  .unauthenticated "User must be registered before listing tasks" [("telegram_id", .int actor.telegramId)]

/-- What `execute` fetches for the page. -/
def fetchPage (actor : User) (scope : TaskListScope) (cursor : Option String) (limit : Option Nat) :
    Proc (List Task) := do
  let actorId ← .lift (okOrElse actor.id (notRegistered actor))
  fetch actor actorId scope cursor (sanitizeLimit limit)

def execute (today : NaiveDate) (actor : User) (scope : TaskListScope) (cursor : Option String)
    (limit : Option Nat) : Proc TaskListPage := do
  let tasks ← fetchPage actor scope cursor limit
  pure ⟨buildSections scope today tasks, tasks.getLast?.map fun task => task.taskUid.toText⟩

/-! ## What a page shows -/

def Shows (page : TaskListPage) (item : TaskListItem) : Prop := ∃ s ∈ page.sections, item ∈ s.tasks

section

variable {tasks : List Task} {today : NaiveDate}

theorem mem_buildSection {descriptor : String × SectionPredicate} {item : TaskListItem} :
    (∃ s, buildSection tasks today descriptor = some s ∧ item ∈ s.tasks) ↔
      ∃ t ∈ tasks, descriptor.2 t today = true ∧ item = listItem today t := by
  have hitems : item ∈ (tasks.filter fun task => descriptor.2 task today).map (listItem today) ↔
      ∃ t ∈ tasks, descriptor.2 t today = true ∧ item = listItem today t := by
    simp only [List.mem_map, List.mem_filter, and_assoc, eq_comm (a := item)]
  rw [← hitems]
  unfold buildSection
  simp only
  constructor
  · rintro ⟨s, hs, hitem⟩
    split at hs
    · cases hs
    · cases hs
      exact hitem
  · intro hitem
    have hfull : ((tasks.filter fun task => descriptor.2 task today).map (listItem today)).isEmpty ≠ true := by
      intro hempty
      rw [List.isEmpty_iff.mp hempty] at hitem
      cases hitem
    exact ⟨_, if_neg hfull, hitem⟩

theorem shown_iff {scope : TaskListScope} {cursor : Option String} {item : TaskListItem} :
    Shows ⟨buildSections scope today tasks, cursor⟩ item ↔
      ∃ d ∈ descriptors scope, ∃ t ∈ tasks, d.2 t today = true ∧ item = listItem today t := by
  constructor
  · rintro ⟨s, hs, hitem⟩
    obtain ⟨d, hd, hbuilt⟩ := List.mem_filterMap.mp hs
    exact ⟨d, hd, mem_buildSection.mp ⟨s, hbuilt, hitem⟩⟩
  · rintro ⟨d, hd, hitem⟩
    obtain ⟨s, hbuilt, hmem⟩ := mem_buildSection.mpr hitem
    exact ⟨s, List.mem_filterMap.mpr ⟨d, hd, hbuilt⟩, hmem⟩

end

/-- The lists that leave out nothing. -/
def IsWhole (scope : TaskListScope) : Prop :=
  scope = .assignedToMe ∨ scope = .createdByMe ∨ scope = .team

/-- Some section takes the task, whatever its status. -/
theorem covered {scope : TaskListScope} (hwhole : IsWhole scope) (t : Task) (today : NaiveDate) :
    ∃ d ∈ descriptors scope, d.2 t today = true := by
  rcases hwhole with rfl | rfl | rfl <;> cases hstatus : t.status <;>
    simp [descriptors, sectionAttention, sectionInReview, sectionBlocked, sectionNew, sectionInProgress,
      sectionCompleted, sectionCancelled, hstatus]

theorem focus_covered (t : Task) (today : NaiveDate) :
    (∃ d ∈ descriptors .focus, d.2 t today = true) ↔ t.status.isTerminal = false := by
  cases hstatus : t.status <;>
    simp [descriptors, sectionFocusUrgent, sectionOverdue, sectionDueToday, sectionFocusWaitingForMe,
      sectionBlocked, sectionInReview, sectionInProgress, TaskStatus.isTerminal, hstatus]

/-! ## Following the cursor -/

def taskKey (t : Task) : String := t.taskUid.toText

/-- `WHERE` of the list. -/
def inScope (actor : User) (scope : TaskListScope) (t : Task) : Bool :=
  match scope with
  | .assignedToMe | .focus => t.assignedToUserId = actor.id
  | .createdByMe => some t.createdByUserId = actor.id
  | .team | .managerInbox => true

/-- The tasks of the list. -/
def listed (db : Db) (actor : User) (scope : TaskListScope) : List Task :=
  (db.tasks.rows.map toTask).filter (inScope actor scope)

structure Permitted (actor : User) (scope : TaskListScope) : Prop where
  registered : actor.id.isSome
  team : scope = .team ∨ scope = .managerInbox → RoleAuthorizationPolicy.ensureCanViewTeamTasks actor = .ok ()

section

variable {db : Db} {actor : User} {scope : TaskListScope}

theorem run_fetchPage (h : Permitted actor scope) (cursor : Option String) (limit : Option Nat) :
    (fetchPage actor scope cursor limit).run noFaults db =
      (.ok (Paging.page taskKey (listed db actor scope) (sanitizeLimit limit) cursor), db) := by
  obtain ⟨actorId, hid⟩ := Option.isSome_iff_exists.mp h.registered
  unfold fetchPage fetch listed
  rw [hid, okOrElse_some, Prog.lift_ok_bind]
  have hall : ∀ limit, (TaskRepository.listAll cursor limit).run noFaults db =
      (.ok (Paging.page taskKey ((db.tasks.rows.map toTask).filter fun _ => true) limit cursor), db) :=
    fun _ => run_select rfl db
  cases scope with
  | assignedToMe | focus =>
    unfold inScope
    rw [hid]
    exact run_select rfl db
  | createdByMe =>
    have hscope : (fun t : Task => decide (some t.createdByUserId = some actorId)) =
        fun t => decide (t.createdByUserId = actorId) := by
      funext t
      exact decide_eq_decide.mpr Option.some_inj
    unfold inScope
    rw [hid]
    simp only
    rw [hscope]
    exact run_select rfl db
  | team =>
    simp only
    rw [h.team (.inl rfl), Prog.lift_ok_bind]
    exact hall _
  | managerInbox =>
    simp only
    rw [h.team (.inr rfl), Prog.lift_ok_bind]
    exact hall _

/-- No two tasks have the same text of an identifier. -/
theorem listed_distinct : (listed db actor scope).Pairwise fun a b => taskKey a ≠ taskKey b := by
  refine List.Pairwise.filter _ (List.pairwise_map.mpr (db.tasks.apart.imp fun {r r'} hapart hkey => ?_))
  have huid : r.val.task.taskUid = r'.val.task.taskUid :=
    Uuid.hyphenated_inj (String.ofList_injective hkey)
  have hclash : Keyed.clash r.val r'.val = true := (clash_tasks _ _).mpr (.inl huid)
  rw [hapart.2] at hclash
  cases hclash

end

theorem sanitizeLimit_pos (limit : Option Nat) : 0 < sanitizeLimit limit :=
  Nat.lt_of_lt_of_le Nat.zero_lt_one (Nat.le_max_left _ _)

/-- What is fetched for the page at the cursor. -/
def fetched (db : Db) (actor : User) (scope : TaskListScope) (limit : Option Nat) (cursor : Option String) :
    List Task :=
  match ((fetchPage actor scope cursor limit).run noFaults db).1 with
  | .ok tasks => tasks
  | .error _ => []

/-- The pages from the first one on, each with its cursor; `days` tells the day each of them is asked for. -/
def followPages (db : Db) (actor : User) (scope : TaskListScope) (limit : Option Nat)
    (days : Option String → NaiveDate) (fuel : Nat) : Option (List (Option String × TaskListPage)) :=
  Paging.follow (fun cursor => ((execute (days cursor) actor scope cursor limit).run noFaults db).1)
    TaskListPage.nextCursor fuel none

/-- The page shows its tasks. -/
structure ShowsFetched (scope : TaskListScope) (today : NaiveDate) (tasks : List Task) (page : TaskListPage) :
    Prop where
  whole : IsWhole scope → ∀ t ∈ tasks, Shows page (listItem today t)
  focus : scope = .focus → ∀ item, Shows page item ↔
    ∃ t ∈ tasks, t.status.isTerminal = false ∧ item = listItem today t

theorem showsFetched (scope : TaskListScope) (today : NaiveDate) (tasks : List Task) (cursor : Option String) :
    ShowsFetched scope today tasks ⟨buildSections scope today tasks, cursor⟩ where
  whole hwhole t ht := by
    obtain ⟨d, hd, htakes⟩ := covered hwhole t today
    exact shown_iff.mpr ⟨d, hd, t, ht, htakes, rfl⟩
  focus hscope item := by
    rw [shown_iff, hscope]
    constructor
    · rintro ⟨d, hd, t, ht, htakes, hitem⟩
      exact ⟨t, ht, (focus_covered t today).mp ⟨d, hd, htakes⟩, hitem⟩
    · rintro ⟨t, ht, hlive, hitem⟩
      obtain ⟨d, hd, htakes⟩ := (focus_covered t today).mpr hlive
      exact ⟨d, hd, t, ht, htakes, hitem⟩

/-! ## Top theorem -/

/-- **A list is complete.**  From some fuel on the pages are the same: what they fetch falls strictly in
the order of the identifiers, it is every task of the list, and each page shows what it fetched. -/
theorem list_tasks_complete (db : Db) (actor : User) (scope : TaskListScope) (limit : Option Nat)
    (days : Option String → NaiveDate) (hpermitted : Permitted actor scope) :
    ∃ visits, (∀ fuel, (listed db actor scope).length < fuel →
        followPages db actor scope limit days fuel = some visits) ∧
      ((visits.flatMap fun v => fetched db actor scope limit v.1).Pairwise fun a b => taskKey b < taskKey a) ∧
      (visits.flatMap fun v => fetched db actor scope limit v.1).Perm (listed db actor scope) ∧
      ∀ v ∈ visits, ShowsFetched scope (days v.1) (fetched db actor scope limit v.1) v.2 := by
  have hfetched : ∀ cursor, fetched db actor scope limit cursor =
      Paging.page taskKey (listed db actor scope) (sanitizeLimit limit) cursor := by
    intro cursor
    unfold fetched
    rw [run_fetchPage hpermitted]
  have hexecute : ∀ cursor, ((execute (days cursor) actor scope cursor limit).run noFaults db).1 =
      .ok ⟨buildSections scope (days cursor) (fetched db actor scope limit cursor),
        (fetched db actor scope limit cursor).getLast?.map taskKey⟩ := by
    intro cursor
    unfold execute
    rw [Prog.run_bind_ok noFaults (run_fetchPage hpermitted cursor limit), hfetched]
    rfl
  have hfetch : ∀ cursor, ∃ page,
      ((execute (days cursor) actor scope cursor limit).run noFaults db).1 = .ok page ∧
        page.nextCursor =
          ((Paging.page taskKey (listed db actor scope) (sanitizeLimit limit) cursor).getLast?).map taskKey :=
    fun cursor => ⟨_, hexecute cursor, by rw [hfetched]⟩
  have hempty : Paging.rest taskKey (listed db actor scope) none =
      Paging.descending taskKey (listed db actor scope) := Paging.rest_none _ _
  have hperm := Paging.descending_perm taskKey (listed db actor scope)
  obtain ⟨visits, hvisits, hrows, hall⟩ := Paging.follow_complete (sanitizeLimit_pos limit) listed_distinct
    hfetch ((listed db actor scope).length + 1) none (by rw [hempty, hperm.length_eq]; omega)
  have htasks : (visits.flatMap fun v => fetched db actor scope limit v.1) =
      Paging.descending taskKey (listed db actor scope) := by
    simp only [hfetched]
    rw [hrows, hempty]
  refine ⟨visits, fun fuel hfuel => ?_, ?_, ?_, fun v hv => ?_⟩
  · exact Paging.follow_le hfuel none hvisits
  · rw [htasks]
    exact Paging.descending_strict listed_distinct
  · rw [htasks]
    exact hperm
  · have hpage := hall v hv
    rw [hexecute] at hpage
    rw [← Except.ok.inj hpage]
    exact showsFetched _ _ _ _

/-- Two more tasks like the sample task. -/
def threeTasks : Db :=
  let second := { sampleTask with taskUid := sampleUid 2, sourceMessageKey := "telegram:10:2" }
  let third := { sampleTask with taskUid := sampleUid 3, sourceMessageKey := "telegram:10:3" }
  TaskRepository.inserted third (TaskRepository.inserted second sampleDb)

def pageReader : User := { UserRepository.sampleUser 2 .user with id := some 2 }

/-- The list of their assignee, two tasks on a page: several pages hold the three of them. -/
theorem sample_list_complete : ∃ visits,
    followPages threeTasks pageReader .focus (some 2) (fun _ => 0) 4 = some visits ∧
    (∀ v ∈ visits, (fetched threeTasks pageReader .focus (some 2) v.1).length ≤ 2) ∧
    (visits.flatMap fun v => fetched threeTasks pageReader .focus (some 2) v.1).length = 3 := by
  have hpermitted : Permitted pageReader .focus := ⟨rfl, nofun⟩
  obtain ⟨visits, hfollow, -, hperm, -⟩ :=
    list_tasks_complete threeTasks pageReader .focus (some 2) (fun _ => 0) hpermitted
  refine ⟨visits, hfollow 4 (by decide), fun v _ => ?_, hperm.length_eq.trans (by decide)⟩
  unfold fetched
  rw [run_fetchPage hpermitted]
  exact List.length_take_le _ _

end ListTasks

end TaskBot
