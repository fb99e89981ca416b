import TaskBot.Domain.Message

/-!
# Commands

A text is read as a command word, with the bot's name after it dropped, and a
payload behind the first white space.
-/

namespace TaskBot

inductive BotCommand where
  | start | menu | help
  | newTask (payload : Option String)
  | myTasks (cursor : Option String) | createdTasks (cursor : Option String)
  | teamTasks (cursor : Option String)
  | status (taskUid : String)
  | cancelTask (taskUid : String)
  | stats | teamStats | settings | adminSyncEmployees | admin
  | find (query : Option String)
deriving DecidableEq, Repr

/-- The part of the text in front of the first white space, without a mention of the bot. -/
def commandWord (text : String) : String :=
  String.ofList (((trim text).toList.takeWhile fun c => !isWhitespace c).takeWhile (· ≠ '@'))

/-- What follows, unless it is blank. -/
def commandPayload (text : String) : Option String :=
  let payload := trim (String.ofList ((trim text).toList.dropWhile fun c => !isWhitespace c))
  if payload.isEmpty then none else some payload

def parseCommand (text : String) : Option BotCommand :=
  let payload := commandPayload text
  match commandWord text with
  | "/start" => some .start
  | "/menu" => some .menu
  | "/help" => some .help
  | "/new_task" => some (.newTask payload)
  | "/my_tasks" => some (.myTasks payload)
  | "/created_tasks" => some (.createdTasks payload)
  | "/team_tasks" => some (.teamTasks payload)
  | "/status" => payload.map .status
  | "/cancel_task" => payload.map .cancelTask
  | "/stats" => some .stats
  | "/team_stats" => some .teamStats
  | "/settings" => some .settings
  | "/admin_sync_employees" => some .adminSyncEmployees
  | "/admin" => some .admin
  | "/find" => some (.find payload)
  | _ => none

example : parseCommand "/find@my_bot  important note" = some (.find (some "important note")) := by
  decide +kernel

end TaskBot
