import TaskBot.Store.UserRepository
import TaskBot.UseCases.SearchTasks
import TaskBot.Lib.TopRows

/-!
# What a search finds

The hint of `/find` offers to look for a title, a description or a code.  The search looks
at the tasks of the caller, those assigned and those created, and shows the 15 that were
updated last; of the codes it reads the identifier, not the public one.

* `mem_dedupByUid`, `nodup_dedupByUid`: the two queues are merged without repeats;
* `top_shown`: what is shown are the last updated of the tasks that match;
* `search_finds_iff`: when these are what the hint offers.
-/

namespace TaskBot

open Sql Calls TopRows

namespace SearchTasks

variable (toLowercase : String → String)

/-- The public code of the task contains the text. -/
def codeMatches (canonical : String) (task : Task) : Bool :=
  task.id.any fun id => contains (toLowercase (formatPublicTaskCode id)) canonical

/-- The tasks assigned to the user or created by the user. -/
def ownTasks (userId : Int) (db : Db) : List Task :=
  (db.tasks.rows.map toTask).filter fun t => t.assignedToUserId = some userId || t.createdByUserId = userId

/-- The items show what the hint offers: of the user's tasks with the text in the title, the
description, the uid or the public code the 15 that were updated last, each once. -/
def Finds (query : SearchQuery) (userId : Int) (db : Db) (items : List TaskListItem) : Prop :=
  ∃ found, items = found.map (fun task => TaskListItem.fromTask task none none none) ∧
    Top Task.updatedAt maxSearchResults ((ownTasks userId db).filter fun t =>
      matchesQuery toLowercase query.canonical t || codeMatches toLowercase query.canonical t) found

/-! ## The merged queues -/

variable {toLowercase}

section

variable {db : Db} {userId : Int} {t t' : Task} {l : List Task}

theorem stored_of_own (ht : t ∈ ownTasks userId db) : db.stored t.taskUid = some t := by
  obtain ⟨r, hr, rfl⟩ := List.mem_map.mp (List.mem_filter.mp ht).1
  exact stored_of_mem hr

theorem nodup_ownTasks (userId : Int) (db : Db) : (ownTasks userId db).Nodup := by
  refine List.Pairwise.filter _ (List.pairwise_map.mpr (db.tasks.apart.imp fun {a b} h heq => h.1 ?_))
  exact Option.some.inj (congrArg Task.id heq)

/-- Of the tasks with one uid the first is kept. -/
theorem exists_of_dedupByUid (ht : t ∈ l) : ∃ t' ∈ dedupByUid l, t'.taskUid = t.taskUid := by
  induction l with
  | nil => cases ht
  | cons a l ih =>
    unfold dedupByUid
    by_cases huid : t.taskUid = a.taskUid
    · exact ⟨a, List.mem_cons_self, huid.symm⟩
    · rcases List.mem_cons.mp ht with rfl | ht
      · exact absurd rfl huid
      · obtain ⟨t', ht', he⟩ := ih ht
        refine ⟨t', List.mem_cons_of_mem _ (List.mem_filter.mpr ⟨ht', ?_⟩), he⟩
        rw [he]
        exact decide_eq_true huid

theorem dedupByUid_sublist (l : List Task) : (dedupByUid l).Sublist l := by
  induction l with
  | nil => exact .slnil
  | cons a l ih =>
    unfold dedupByUid
    exact (List.filter_sublist.trans ih).cons_cons a

theorem nodup_dedupByUid (l : List Task) : (dedupByUid l).Nodup := by
  induction l with
  | nil => exact List.nodup_nil
  | cons a l ih =>
    unfold dedupByUid
    refine List.nodup_cons.mpr ⟨fun hmem => ?_, ih.filter _⟩
    exact of_decide_eq_true (List.mem_filter.mp hmem).2 rfl

/-- A queue that is not cut holds all its tasks. -/
theorem mem_queue {scope : Task → Bool}
    (hlen : ((db.tasks.rows.map toTask).filter scope).length ≤ queueLimit) :
    t ∈ TaskRepository.listQuery scope none queueLimit db ↔ t ∈ (db.tasks.rows.map toTask).filter scope := by
  unfold TaskRepository.listQuery Paging.page
  have hperm := Paging.descending_perm (fun t : Task => t.taskUid.toText)
    ((db.tasks.rows.map toTask).filter scope)
  rw [Paging.rest_none, List.take_of_length_le (by rw [hperm.length_eq]; exact hlen), hperm.mem_iff]

/-- The tasks the search goes through. -/
def merged (userId : Int) (db : Db) : List Task :=
  dedupByUid (TaskRepository.listQuery (fun t => t.assignedToUserId = some userId) none queueLimit db ++
    TaskRepository.listQuery (fun t => t.createdByUserId = userId) none queueLimit db)

theorem merged_perm
    (hassigned : ((db.tasks.rows.map toTask).filter fun t => t.assignedToUserId = some userId).length ≤ queueLimit)
    (hcreated : ((db.tasks.rows.map toTask).filter fun t => t.createdByUserId = userId).length ≤ queueLimit) :
    (merged userId db).Perm (ownTasks userId db) := by
  have hboth : ∀ t, t ∈ TaskRepository.listQuery (fun t => t.assignedToUserId = some userId) none queueLimit db ++
      TaskRepository.listQuery (fun t => t.createdByUserId = userId) none queueLimit db ↔ t ∈ ownTasks userId db := by
    intro t
    unfold ownTasks
    rw [List.mem_append, mem_queue hassigned, mem_queue hcreated, List.mem_filter, List.mem_filter,
      List.mem_filter, Bool.or_eq_true, and_or_left]
  refine (List.perm_ext_iff_of_nodup (nodup_dedupByUid _) (nodup_ownTasks userId db)).mpr fun t => ?_
  constructor
  · exact fun ht => (hboth t).mp ((dedupByUid_sublist _).mem ht)
  · intro ht
    obtain ⟨t', ht', huid⟩ := exists_of_dedupByUid ((hboth t).mpr ht)
    have hstored := stored_of_own ((hboth t').mp ((dedupByUid_sublist _).mem ht'))
    rw [huid, stored_of_own ht] at hstored
    rw [Option.some.inj hstored]
    exact ht'

end

/-! ## What is shown -/

section

variable {db : Db} {userId : Int}

def shown (toLowercase : String → String) (canonical : String) (userId : Int) (db : Db) : List Task :=
  (latestFirst ((merged userId db).filter (matchesQuery toLowercase canonical))).take maxSearchResults

theorem run_execute {actor : User} (hactor : actor.id = some userId) (canonical : String) (db : Db) :
    (execute toLowercase actor canonical).run noFaults db =
      (.ok ((shown toLowercase canonical userId db).map fun task =>
        TaskListItem.fromTask task none none none), db) := by
  have hassigned : (TaskRepository.listAssignedToUser userId none queueLimit).run noFaults db =
      (.ok (TaskRepository.listQuery (fun t => t.assignedToUserId = some userId) none queueLimit db), db) :=
    run_select rfl db
  have hcreated : (TaskRepository.listCreatedByUser userId none queueLimit).run noFaults db =
      (.ok (TaskRepository.listQuery (fun t => t.createdByUserId = userId) none queueLimit db), db) :=
    run_select rfl db
  unfold execute
  rw [hactor]
  unfold okOrElse
  rw [Prog.lift_ok_bind, Prog.run_bind_ok noFaults hassigned, Prog.run_bind_ok noFaults hcreated]
  rfl

/-- **What is shown** are the 15 last updated of the user's tasks that match. -/
theorem top_shown (canonical : String)
    (hassigned : ((db.tasks.rows.map toTask).filter fun t => t.assignedToUserId = some userId).length ≤ queueLimit)
    (hcreated : ((db.tasks.rows.map toTask).filter fun t => t.createdByUserId = userId).length ≤ queueLimit) :
    Top Task.updatedAt maxSearchResults ((ownTasks userId db).filter (matchesQuery toLowercase canonical))
      (shown toLowercase canonical userId db) := by
  have hperm := (merged_perm hassigned hcreated).filter (matchesQuery toLowercase canonical)
  exact (top_take_mergeSort ((nodup_dedupByUid _).filter _)).perm hperm

/-- The items tell the tasks. -/
theorem found_of_items {found found' : List Task} (hfound : ∀ t ∈ found, t ∈ ownTasks userId db)
    (hfound' : ∀ t ∈ found', t ∈ ownTasks userId db)
    (h : found.map (fun task => TaskListItem.fromTask task none none none) =
      found'.map fun task => TaskListItem.fromTask task none none none) : found = found' := by
  have hread : ∀ l : List Task, (∀ t ∈ l, t ∈ ownTasks userId db) →
      (l.map fun task => TaskListItem.fromTask task none none none).map (fun item => db.stored item.taskUid) =
        l.map some := by
    intro l hl
    rw [List.map_map]
    exact List.map_congr_left fun t ht => stored_of_own (hl t ht)
  have hsome : found.map some = found'.map some := by rw [← hread found hfound, h, hread found' hfound']
  exact List.map_injective_iff.mpr (Option.some_injective Task) hsome

end

/-- **When a search finds what the hint offers**: exactly if each task that matches by its
public code alone has 15 others that match, updated no earlier. -/
theorem search_finds_iff (toLowercase : String → String) (actor : User) (userId : Int)
    (hactor : actor.id = some userId) (query : SearchQuery) (db : Db)
    (hassigned : ((db.tasks.rows.map toTask).filter fun t => t.assignedToUserId = some userId).length ≤ queueLimit)
    (hcreated : ((db.tasks.rows.map toTask).filter fun t => t.createdByUserId = userId).length ≤ queueLimit) :
    ∃ items, (execute toLowercase actor query.canonical).run noFaults db = (.ok items, db) ∧
      (Finds toLowercase query userId db items ↔
        ∀ t ∈ ownTasks userId db, codeMatches toLowercase query.canonical t = true →
          matchesQuery toLowercase query.canonical t = false →
            maxSearchResults ≤ ((ownTasks userId db).filter fun t' =>
              decide (t.updatedAt ≤ t'.updatedAt) && matchesQuery toLowercase query.canonical t').length) := by
  have htop := @top_shown toLowercase db userId query.canonical hassigned hcreated
  have hnodup := nodup_ownTasks userId db
  refine ⟨_, run_execute hactor query.canonical db, ?_⟩
  have hfinds : Finds toLowercase query userId db ((shown toLowercase query.canonical userId db).map fun task =>
      TaskListItem.fromTask task none none none) ↔
      Top Task.updatedAt maxSearchResults ((ownTasks userId db).filter fun t =>
        matchesQuery toLowercase query.canonical t || codeMatches toLowercase query.canonical t)
          (shown toLowercase query.canonical userId db) := by
    refine ⟨fun ⟨found, hitems, h⟩ => ?_, fun h => ⟨_, rfl, h⟩⟩
    rw [found_of_items (fun t ht => (List.mem_filter.mp (htop.mem t ht)).1)
      (fun t ht => (List.mem_filter.mp (h.mem t ht)).1) hitems]
    exact h
  rw [hfinds, top_extend_iff htop (hnodup.filter _) (hnodup.filter _) fun t ht => ?_]
  · simp only [List.mem_filter, List.filter_filter, Bool.or_eq_true, not_and, Bool.not_eq_true]
    constructor
    · exact fun h t hown hcode hno => h t ⟨hown, .inr hcode⟩ fun _ => hno
    · intro h t ht hnew
      have hno := hnew ht.1
      exact h t ht.1 (ht.2.resolve_left (by rw [hno]; exact Bool.false_ne_true)) hno
  · obtain ⟨hown, hmatch⟩ := List.mem_filter.mp ht
    exact List.mem_filter.mpr ⟨hown, by rw [hmatch, Bool.true_or]⟩

/-! ## A report, and its code -/

def searcher : User := { UserRepository.sampleUser 2 .user with id := some 2 }

/-- The assignee finds the report by its title. -/
theorem search_finds_report : ∃ items,
    (execute UserRepository.sqlLower searcher "report").run noFaults sampleDb = (.ok items, sampleDb) ∧
      Finds UserRepository.sqlLower ⟨"report"⟩ 2 sampleDb items := by
  obtain ⟨items, hrun, hiff⟩ := search_finds_iff UserRepository.sqlLower searcher 2 rfl ⟨"report"⟩ sampleDb
    (by decide) (by decide)
  refine ⟨items, hrun, hiff.mpr fun t ht _ hno => ?_⟩
  have hown : ownTasks 2 sampleDb = [sampleTask] := by decide
  rw [hown] at ht
  rw [List.mem_singleton.mp ht] at hno
  exact absurd hno (by decide)

/-- The public code that every list shows of the report finds nothing. -/
theorem code_not_found :
    ¬ ∀ (toLowercase : String → String) (actor : User) (userId : Int), actor.id = some userId →
      ∀ (raw : String) (query : SearchQuery), SearchQuery.parse toLowercase raw = .ok query → ∀ db : Db,
        ((db.tasks.rows.map toTask).filter fun t => t.assignedToUserId = some userId).length ≤ queueLimit →
        ((db.tasks.rows.map toTask).filter fun t => t.createdByUserId = userId).length ≤ queueLimit →
          ∃ items, (execute toLowercase actor query.canonical).run noFaults db = (.ok items, db) ∧
            Finds toLowercase query userId db items := by
  intro hclaim
  obtain ⟨items, hrun, hfinds⟩ := hclaim UserRepository.sqlLower searcher 2 rfl "T-0001" ⟨"t-0001"⟩ (by decide)
    sampleDb (by decide) (by decide)
  have htop := @top_shown UserRepository.sqlLower sampleDb 2 "t-0001" (by decide) (by decide)
  have hnone : shown UserRepository.sqlLower "t-0001" 2 sampleDb = [] :=
    List.eq_nil_iff_forall_not_mem.mpr fun t ht => absurd (htop.mem t ht) (by
      rw [show (ownTasks 2 sampleDb).filter (matchesQuery UserRepository.sqlLower "t-0001") = [] by decide]
      exact List.not_mem_nil)
  rw [run_execute rfl, hnone] at hrun
  cases hrun
  obtain ⟨found, hitems, hfound⟩ := hfinds
  have hone : ((ownTasks 2 sampleDb).filter fun t => matchesQuery UserRepository.sqlLower "t-0001" t ||
      codeMatches UserRepository.sqlLower "t-0001" t).length = 1 := by decide
  have hlen := hfound.length
  rw [hone, List.map_eq_nil_iff.mp hitems.symm] at hlen
  exact absurd hlen (by decide)

end SearchTasks

end TaskBot
