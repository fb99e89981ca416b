import TaskBot.Presentation.NotificationButtons
import TaskBot.Presentation.OwnButtons
import TaskBot.UseCases.CollectStats
import TaskBot.UseCases.SearchTasks
import TaskBot.UseCases.TaskCard

/-!
# The queries of the bot

The handlers take their queries as they come; here they are those of the use cases.  They keep what the screens and
the buttons of a notification rely on: details are those of the task that was asked for, and a task its viewer may
view is shown.
-/

namespace TaskBot

open Sql Calls

/-- `parseUuid` reads an identifier, `globalStats` is what the cache of the team's figures gives. -/
def Queries.ofUseCases (parseUuid : String → Option Uuid) (toLowercase : String → String) (today : NaiveDate)
    (averageHours : AverageHours) (globalStats : AppResult TaskStats) : Queries where
  taskStatus db actor uid := ((GetTaskStatus.execute actor uid).run noFaults db).1
  resolveTaskUid db reference := ((GetTaskStatus.resolveTaskUid parseUuid reference).run noFaults db).1
  listTasks db actor scope cursor := ((ListTasks.execute today actor scope cursor none).run noFaults db).1
  collectStats db actor scope :=
    ((CollectStats.execute averageHours today (.lift globalStats) actor scope).run noFaults db).1
  searchTasks db actor query := ((SearchTasks.execute toLowercase actor query.canonical).run noFaults db).1

section

variable {parseUuid : String → Option Uuid} {toLowercase : String → String} {today : NaiveDate}
  {averageHours : AverageHours} {globalStats : AppResult TaskStats}

theorem reads_anything {α : Type} {p : Proc α} (hp : p.Within Eq) (db : Db) : p.Reads db fun _ => True :=
  fun plan => ⟨Prog.run_of_reads plan hp db, fun _ _ => trivial⟩

theorem card_taskUid (actor : User) (uid : Uuid) (db : Db) :
    (GetTaskStatus.execute actor uid).Reads db fun details => details.taskUid = uid := by
  refine (loadTask_stored uid db).bind fun t _ => ?_
  refine (reads_anything (.lift _) db).bind fun _ _ => (reads_anything (.lift _) db).bind fun taskId _ => ?_
  refine (reads_anything (select_reads _ _) db).bind fun history _ => ?_
  refine (reads_anything (select_reads _ _) db).bind fun comments _ => ?_
  refine (reads_anything (GetTaskStatus.resolveAssigneeDisplay_reads t) db).bind fun display _ => ?_
  exact (reads_anything (GetTaskStatus.resolveDeliveryStatus_reads t) db).bind fun line _ => .pure rfl

theorem ofUseCases_sound : (Queries.ofUseCases parseUuid toLowercase today averageHours globalStats).Sound :=
  fun db actor uid details h => (card_taskUid actor uid db noFaults).2 details h

/-- A bot with these queries, whose calls are answered, works. -/
theorem works_ofUseCases {bot : Bot}
    (hqueries : bot.queries = .ofUseCases parseUuid toLowercase today averageHours globalStats)
    (hplans : ∀ k, bot.plans k = noFaults) (hdelivers : bot.telegram.Delivers)
    (hanswers : ∀ n callbackId text, bot.telegram.answerCallbackQuery n callbackId text = .ok ()) : bot.Works where
  plans := hplans
  delivers := hdelivers
  answers := hanswers
  opens db actor uid t ht hview := by
    obtain ⟨details, hrun, -⟩ := GetTaskStatus.run_execute ht hview
    rw [hqueries]
    exact ⟨details, congrArg Prod.fst hrun⟩

end

end TaskBot
