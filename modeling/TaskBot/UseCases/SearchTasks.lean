import TaskBot.Store.TaskRepository
import TaskBot.UseCases.TaskViews

/-!
# Search

The tasks of the caller, assigned or created, whose title, description or
identifier contains the text of the query; the latest first.
-/

namespace TaskBot

open Sql Calls

structure SearchQuery where
  canonical : String
deriving DecidableEq, Repr

def minQueryChars : Nat := 2
def maxQueryChars : Nat := 64

def SearchQuery.parse (toLowercase : String → String) (raw : String) : AppResult SearchQuery :=
  let canonical := toLowercase (trim (String.ofList (raw.toList.filter fun c => !isControl c)))
  if canonical.isEmpty then
    .error (.schemaValidation "SEARCH_QUERY_EMPTY" "search query must not be empty" [])
  else if charsCount canonical < minQueryChars then
    .error (.schemaValidation "SEARCH_QUERY_TOO_SHORT"
      ("query must be at least " ++ toString minQueryChars ++ " characters") [("min", .int minQueryChars)])
  else if maxQueryChars < charsCount canonical then
    .error (.schemaValidation "SEARCH_QUERY_TOO_LONG"
      ("query must be at most " ++ toString maxQueryChars ++ " characters") [("max", .int maxQueryChars)])
  else .ok ⟨canonical⟩

namespace SearchTasks

def maxSearchResults : Nat := 15

/-- How many tasks of each queue are looked at. -/
def queueLimit : Nat := 200

/-- `text.contains(part)`. -/
def contains (text part : String) : Bool := part.toList <:+: text.toList

def matchesQuery (toLowercase : String → String) (canonical : String) (task : Task) : Bool :=
  contains (toLowercase task.title) canonical || contains (toLowercase task.description) canonical ||
    contains (toLowercase task.taskUid.toText) canonical

/-- `filter(|task| seen.insert(task.task_uid))`. -/
def dedupByUid : List Task → List Task
  | [] => []
  | t :: ts => t :: (dedupByUid ts).filter fun t' => t'.taskUid ≠ t.taskUid

/-- `sort_by_key(|task| Reverse(task.updated_at))`, a stable sort. -/
def latestFirst (tasks : List Task) : List Task := tasks.mergeSort fun a b => b.updatedAt ≤ a.updatedAt

/-- `SearchTasksUseCase::execute`, for the canonical text of the query. -/
def execute (toLowercase : String → String) (actor : User) (canonical : String) : Proc (List TaskListItem) := do
  let userId ← .lift (okOrElse actor.id (.forbidden "SEARCH_REQUIRES_PERSISTED_USER"
    "каталог задач доступен только зарегистрированным пользователям" []))
  let assigned ← TaskRepository.listAssignedToUser userId none queueLimit
  let created ← TaskRepository.listCreatedByUser userId none queueLimit
  let merged := dedupByUid (assigned ++ created)
  let results := (latestFirst (merged.filter (matchesQuery toLowercase canonical))).take maxSearchResults
  pure (results.map fun task => TaskListItem.fromTask task none none none)

end SearchTasks

end TaskBot
