import TaskBot.Domain.Task

/-!
# Task texts

The public code of a task and its Telegram card.
-/

namespace TaskBot

/-- `{value:0width$}` of a number that is not negative. -/
def zeroPadded (width : Nat) (value : Int) : String :=
  let digits := toString value
  String.ofList (List.replicate (width - digits.length) '0') ++ digits

def publicTaskCodeWidth : Nat := 4

def formatPublicTaskCode (taskId : Int) : String := "T-" ++ zeroPadded publicTaskCodeWidth taskId

def formatPublicTaskCodeOrPlaceholder (taskId : Option Int) : String :=
  match taskId with
  | some value => if value > 0 then formatPublicTaskCode value else "T-NEW"
  | none => "T-NEW"

/-- Year, month and day of a day count since 1970-01-01 (proleptic Gregorian). -/
def civilFromDays (days : Int) : Int × Int × Int :=
  let z := days + 719468
  let era := z.fdiv 146097
  let doe := z - era * 146097
  let yoe := (doe - doe / 1460 + doe / 36524 - doe / 146096) / 365
  let doy := doe - (365 * yoe + yoe / 4 - yoe / 100)
  let mp := (5 * doy + 2) / 153
  let d := doy - (153 * mp + 2) / 5 + 1
  let m := if mp < 10 then mp + 3 else mp - 9
  let y := yoe + era * 400 + (if m ≤ 2 then 1 else 0)
  (y, m, d)

/-- `%Y`: a year outside of 0 to 9999 has its sign. -/
def formatYear (year : Int) : String :=
  if 0 ≤ year ∧ year ≤ 9999 then zeroPadded 4 year
  else (if 0 ≤ year then "+" else "-") ++ zeroPadded 4 year.natAbs

/-- `date.format("%d.%m.%Y")`. -/
def formatDate (date : NaiveDate) : String :=
  let (y, m, d) := civilFromDays date
  zeroPadded 2 d ++ "." ++ zeroPadded 2 m ++ "." ++ formatYear y

/-- `date.format("%F")`: the serialised form of a `NaiveDate`, and the text of its column. -/
def isoDate (date : NaiveDate) : String :=
  let (y, m, d) := civilFromDays date
  formatYear y ++ "-" ++ zeroPadded 2 m ++ "-" ++ zeroPadded 2 d

example : formatDate 20563 = "20.04.2026" := by decide

example : isoDate 4020562 = "+12977-12-04" := by decide

/-- `str::lines`: a final line break ends the last line, a `\r` before it is dropped. -/
def strLines (s : String) : List String :=
  let pieces := s.toList.splitOn '\n'
  let lines := if pieces.getLast? = some [] then pieces.dropLast else pieces
  lines.map fun l => String.ofList (if l.getLast? = some '\r' then l.dropLast else l)

def Task.renderForTelegram (t : Task) (assigneeMention : Option String) : String :=
  let mention := match assigneeMention with
    | some m => [m, ""]
    | none => []
  let steps := (strLines t.description).zipIdx.map fun p => toString (p.2 + 1) ++ ". " ++ p.1
  let criteria := if t.acceptanceCriteria.isEmpty then []
    else ["", "Критерии приёма:"] ++ t.acceptanceCriteria.map fun c => "- " ++ c
  let deadline := match t.deadline with
    | some date => formatDate date
    | none => "Срок не указан"
  String.intercalate "\n"
    (mention ++ ["Заголовок: " ++ t.title, "", "Описание (пошагово):"] ++ steps ++
      ["", "Ожидаемый результат: " ++ t.expectedResult] ++ criteria ++
      ["", "Срок выполнения: " ++ deadline])

end TaskBot
