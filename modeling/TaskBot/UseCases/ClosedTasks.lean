import TaskBot.UseCases.ListTasks

/-!
# Closed tasks in the lists

A completed or cancelled task asks for nothing: the predicates of the sections look at the deadline
and at the last movement of open tasks only.  The one that looks for an assignee without a user does
not look at the status, and neither does the highlight that goes with it.

    a page lets its closed tasks rest ↔ it is the focus list, or none of its closed tasks
                                         waits for a registration     (closed_at_rest_iff)
-/

namespace TaskBot

open Calls

namespace ListTasks

/-! ## What the list promises -/

/-- The sections of the closed tasks. -/
def closedTitles : List String := ["✅ Завершено", "⛔ Отменено"]

/-- The highlights that ask somebody to act. -/
def callsToAct : List String :=
  ["нужен /start от исполнителя", "дедлайн уже прошёл", "срок сегодня", "по задаче давно не было движения"]

/-- A section keeps to its title, and a line of a closed task asks for nothing. -/
structure SectionAtRest (s : TaskListSection) (item : TaskListItem) : Prop where
  title : s.title ∈ closedTitles
  highlight : ∀ text ∈ item.highlight, text ∉ callsToAct

/-- The closed tasks of the page ask for no attention. -/
def ClosedAtRest (page : TaskListPage) : Prop :=
  ∀ s ∈ page.sections, ∀ item ∈ s.tasks, item.status.isTerminal = true → SectionAtRest s item

/-! ## One closed task -/

section

variable {t : Task} (today : NaiveDate)

theorem overdue_of_closed (hclosed : t.status.isTerminal = true) : sectionOverdue t today = false := by
  simp [sectionOverdue, hclosed]

theorem dueToday_of_closed (hclosed : t.status.isTerminal = true) : sectionDueToday t today = false := by
  simp [sectionDueToday, hclosed]

theorem stale_of_closed (hclosed : t.status.isTerminal = true) : sectionStale t today = false := by
  simp [sectionStale, hclosed]

theorem deadlineRisk_of_closed (hclosed : t.status.isTerminal = true) :
    sectionDeadlineRisk t today = false := by
  simp [sectionDeadlineRisk, hclosed]

theorem closed_iff : t.status.isTerminal = true ↔ t.status = .completed ∨ t.status = .cancelled := by
  cases t.status <;> simp [TaskStatus.isTerminal]

theorem attention_of_closed (hclosed : t.status.isTerminal = true) :
    sectionAttention t today = sectionPendingRegistration t today := by
  have hover := overdue_of_closed today hclosed
  unfold sectionAttention
  rcases closed_iff.mp hclosed with h | h
  · simp [h, hover]
  · simp [h, hover]

/-- The sections of one open status. -/
theorem open_sections_of_closed (hclosed : t.status.isTerminal = true) :
    sectionInReview t today = false ∧ sectionBlocked t today = false ∧ sectionNew t today = false ∧
      sectionFocusWaitingForMe t today = false ∧ sectionInProgress t today = false := by
  rcases closed_iff.mp hclosed with h | h <;>
    simp [sectionInReview, sectionBlocked, sectionNew, sectionFocusWaitingForMe, sectionInProgress, h]

/-- The only highlight a closed task may carry. -/
theorem taskHighlight_of_closed (hclosed : t.status.isTerminal = true) :
    taskHighlight t today =
      if sectionPendingRegistration t today then some "нужен /start от исполнителя" else none := by
  have hblocked : t.status ≠ .blocked := by
    intro h
    rw [h] at hclosed
    cases hclosed
  unfold taskHighlight
  rw [if_neg hblocked, overdue_of_closed today hclosed, dueToday_of_closed today hclosed,
    stale_of_closed today hclosed]
  simp

/-- What takes a closed task is a section of closed tasks, or one that takes whoever waits for a
registration. -/
theorem taken_of_closed {scope : TaskListScope} (hclosed : t.status.isTerminal = true)
    {d : String × SectionPredicate} (hd : d ∈ descriptors scope) (htakes : d.2 t today = true) :
    d.1 ∈ closedTitles ∨ sectionPendingRegistration t today = true := by
  have hover := overdue_of_closed today hclosed
  have hdue := dueToday_of_closed today hclosed
  have hrisk := deadlineRisk_of_closed today hclosed
  have hstale := stale_of_closed today hclosed
  have hattention := attention_of_closed today hclosed
  obtain ⟨hreview, hblocked, hnew, hwaiting, hprogress⟩ := open_sections_of_closed today hclosed
  cases scope with
  | assignedToMe =>
    simp only [descriptors, List.mem_cons, List.not_mem_nil, or_false] at hd
    rcases hd with rfl | rfl | rfl | rfl | rfl | rfl | rfl | rfl <;> simp_all [closedTitles]
  | createdByMe | team =>
    simp only [descriptors, List.mem_cons, List.not_mem_nil, or_false] at hd
    rcases hd with rfl | rfl | rfl | rfl | rfl | rfl <;> simp_all [closedTitles]
  | focus =>
    simp only [descriptors, List.mem_cons, List.not_mem_nil, or_false] at hd
    rcases hd with rfl | rfl | rfl | rfl | rfl <;> simp_all [sectionFocusUrgent]
  | managerInbox =>
    simp only [descriptors, List.mem_cons, List.not_mem_nil, or_false] at hd
    rcases hd with rfl | rfl | rfl | rfl | rfl <;> simp_all

/-- Every list but the focus one shows a task that waits for a registration. -/
theorem pending_taken {scope : TaskListScope} (hscope : scope ≠ .focus)
    (hpending : sectionPendingRegistration t today = true) :
    ∃ d ∈ descriptors scope, d.2 t today = true := by
  cases scope with
  | focus => exact absurd rfl hscope
  | managerInbox =>
    exact ⟨("👋 Исполнитель ещё не подключил бота", sectionPendingRegistration), by simp [descriptors],
      hpending⟩
  | assignedToMe => exact covered (.inl rfl) t today
  | createdByMe => exact covered (.inr (.inl rfl)) t today
  | team => exact covered (.inr (.inr rfl)) t today

end

/-! ## The page -/

theorem listItem_status (today : NaiveDate) (t : Task) : (listItem today t).status = t.status := rfl

theorem listItem_highlight (today : NaiveDate) (t : Task) :
    (listItem today t).highlight = taskHighlight t today := rfl

/-- A line of a page is that of a task its section takes. -/
theorem line_of_page {scope : TaskListScope} {today : NaiveDate} {tasks : List Task}
    {s : TaskListSection} (hs : s ∈ buildSections scope today tasks) {item : TaskListItem}
    (hitem : item ∈ s.tasks) :
    ∃ d ∈ descriptors scope, s.title = d.1 ∧
      ∃ t ∈ tasks, d.2 t today = true ∧ item = listItem today t := by
  obtain ⟨d, hd, hbuilt⟩ := List.mem_filterMap.mp hs
  refine ⟨d, hd, ?_, mem_buildSection.mp ⟨s, hbuilt, hitem⟩⟩
  unfold buildSection at hbuilt
  dsimp only at hbuilt
  split at hbuilt
  · cases hbuilt
  · cases hbuilt
    rfl

/-- **A page lets its closed tasks rest** unless one of them waits for a registration; the focus list
never shows a closed task. -/
theorem closed_at_rest_iff (scope : TaskListScope) (today : NaiveDate) (tasks : List Task)
    (cursor : Option String) :
    ClosedAtRest ⟨buildSections scope today tasks, cursor⟩ ↔
      scope = .focus ∨
        ∀ t ∈ tasks, t.status.isTerminal = true → sectionPendingRegistration t today = false := by
  constructor
  · intro hrest
    by_cases hscope : scope = .focus
    · exact .inl hscope
    · refine .inr fun t ht hclosed => ?_
      cases hpending : sectionPendingRegistration t today with
      | false => rfl
      | true =>
        -- the section that shows the task shows it with the highlight
        obtain ⟨d, hd, htakes⟩ := pending_taken today hscope hpending
        obtain ⟨s, hs, hitem⟩ : Shows ⟨buildSections scope today tasks, cursor⟩ (listItem today t) :=
          shown_iff.mpr ⟨d, hd, t, ht, htakes, rfl⟩
        have hhighlight : (listItem today t).highlight = some "нужен /start от исполнителя" := by
          rw [listItem_highlight, taskHighlight_of_closed today hclosed, if_pos hpending]
        have hquiet := (hrest s hs _ hitem hclosed).highlight _ hhighlight
        exact absurd (by simp [callsToAct]) hquiet
  · intro hcondition s hs item hitem hclosed
    obtain ⟨d, hd, htitle, t, ht, htakes, rfl⟩ := line_of_page hs hitem
    rw [listItem_status] at hclosed
    have hwaits : sectionPendingRegistration t today = false := by
      rcases hcondition with rfl | hnone
      · have hlive := (focus_covered t today).mp ⟨d, hd, htakes⟩
        rw [hclosed] at hlive
        cases hlive
      · exact hnone t ht hclosed
    constructor
    · rw [htitle]
      rcases taken_of_closed today hclosed hd htakes with htitle' | hpending
      · exact htitle'
      · rw [hwaits] at hpending
        cases hpending
    · intro text htext
      rw [listItem_highlight, taskHighlight_of_closed today hclosed, hwaits] at htext
      cases htext

/-- A task that its creator cancelled before the assignee registered. -/
def withdrawnTask : Task :=
  { sampleTask with assignedToUserId := none, assignedToEmployeeId := some 1, status := .cancelled }

def withdrawingCreator : User := { UserRepository.sampleUser 1 .user with id := some 1 }

theorem withdrawn_asks : ∃ page,
    ((execute 0 withdrawingCreator .createdByMe none none).run noFaults (Db.withTask withdrawnTask)).1 = .ok page ∧
      ¬ ClosedAtRest page := by
  have hlisted : listed (Db.withTask withdrawnTask) withdrawingCreator .createdByMe = [withdrawnTask] := by
    decide
  have hpage : Paging.page taskKey [withdrawnTask] (sanitizeLimit none) none = [withdrawnTask] := by
    rw [Paging.page, Paging.rest_none, Paging.descending, List.mergeSort_singleton]
    rfl
  have hfetch := @run_fetchPage (Db.withTask withdrawnTask) withdrawingCreator .createdByMe ⟨rfl, nofun⟩ none none
  rw [hlisted, hpage] at hfetch
  refine ⟨⟨buildSections .createdByMe 0 [withdrawnTask], some withdrawnTask.taskUid.toText⟩, ?_, ?_⟩
  · unfold execute
    rw [Prog.run_bind_ok noFaults hfetch]
    rfl
  · intro hrest
    have htitle := (hrest ⟨"⚠️ Требует внимания", [listItem 0 withdrawnTask]⟩ (by decide) _
      List.mem_cons_self rfl).title
    exact absurd htitle (by decide)

end ListTasks

end TaskBot
