import TaskBot.Domain.Message
import TaskBot.Domain.TaskText
import TaskBot.Lib.Regex

/-!
# Parsing a request

A message names its assignee in front of a comma, and its deadline in one of four phrases, tried in
this order: a date, a day (`завтра`), a period (`через 3 дня`), a weekday.  What is left is the
description.

The Unicode tables of the standard library and of `regex` are left open (`UnicodeTables`).  A date
out of the range of `NaiveDate` is a panic.
-/

namespace TaskBot

open Regex (Pattern Taken)
open Regex.Pattern (literal oneOf)

/-! ## Dates -/

def daysFromCivil (year : Int) (month day : Nat) : Int :=
  let y := if month ≤ 2 then year - 1 else year
  let era := y.fdiv 400
  let yoe := y - era * 400
  let mp : Int := (month + 9) % 12
  let doy := (153 * mp + 2) / 5 + day - 1
  let doe := yoe * 365 + yoe / 4 - yoe / 100 + doy
  era * 146097 + doe - 719468

def isLeapYear (year : Int) : Bool := year % 4 = 0 && (year % 100 ≠ 0 || year % 400 = 0)

def daysInMonth (year : Int) (month : Nat) : Nat :=
  match month with
  | 2 => if isLeapYear year then 29 else 28
  | 4 | 6 | 9 | 11 => 30
  | _ => 31

namespace NaiveDate

def min : Int := -96465292

def max : Int := 95026236

/-- `date.year()`. -/
def year (date : Int) : Int := (civilFromDays date).1

/-- `NaiveDate::from_ymd_opt`. -/
def fromYmdOpt (year : Int) (month day : Nat) : Option Int :=
  if -262143 ≤ year ∧ year ≤ 262142 ∧ 1 ≤ month ∧ month ≤ 12 ∧ 1 ≤ day ∧ day ≤ daysInMonth year month then
    some (daysFromCivil year month day)
  else none

/-- `date.weekday().num_days_from_monday()`. -/
def daysFromMonday (date : Int) : Int := (date + 3) % 7

end NaiveDate

/-- What a call answers, or `none` for a panic. -/
abbrev MayPanic := ExceptT AppError Option

/-- `date + Duration::days(n)`. -/
def addDays (date : NaiveDate) (n : Int) : MayPanic NaiveDate :=
  if NaiveDate.min ≤ date + n ∧ date + n ≤ NaiveDate.max then pure (date + n) else (none : Option _)

/-! ## Characters -/

/-- Simple case folding of the letters that fold to one of a pattern. -/
def foldCase (c : Char) : Char :=
  let n := c.toNat
  if 0x41 ≤ n ∧ n ≤ 0x5A then Char.ofNat (n + 32)
  else if 0x410 ≤ n ∧ n ≤ 0x42F then Char.ofNat (n + 32)
  else if 0x400 ≤ n ∧ n ≤ 0x40F then Char.ofNat (n + 80)
  else
    match n with
    | 0x17F => 's'
    | 0x1C80 => 'в'
    | 0x1C81 => 'д'
    | 0x1C82 => 'о'
    | 0x1C83 => 'с'
    | 0x1C84 | 0x1C85 => 'т'
    | 0x1C86 => 'ъ'
    | _ => c

/-- `to_lowercase` of the letters that a pattern can match. -/
def lowerLetter (c : Char) : Char :=
  let n := c.toNat
  if 0x41 ≤ n ∧ n ≤ 0x5A then Char.ofNat (n + 32)
  else if 0x410 ≤ n ∧ n ≤ 0x42F then Char.ofNat (n + 32)
  else if 0x400 ≤ n ∧ n ≤ 0x40F then Char.ofNat (n + 80)
  else c

/-- Letters of the Russian and the English alphabet, upper case. -/
def isUpperLetter (c : Char) : Bool :=
  let n := c.toNat
  (0x410 ≤ n && n ≤ 0x42F) || n == 0x401 || (0x41 ≤ n && n ≤ 0x5A)

def isLetter (c : Char) : Bool :=
  let n := c.toNat
  isUpperLetter c || (0x430 ≤ n && n ≤ 0x44F) || n == 0x451 || (0x61 ≤ n && n ≤ 0x7A)

/-- Character classes of the standard library and of `regex`: letters, `\w` and `\d`. -/
structure UnicodeTables where
  isAlphabetic : Char → Bool
  isWord : Char → Bool
  isDecimal : Char → Bool
  space_not_word : isWord ' ' = false
  letter_word : ∀ c, isLetter (foldCase c) = true → isWord c = true
  letter_not_decimal : ∀ c, isLetter (foldCase c) = true → isDecimal c = false

namespace Parsing

/-- A word in any letter case, in lower case here. -/
def word (text : String) : Pattern := literal (fun c x => foldCase x == c) text.toList

def letterOf (letters : String) : Pattern := .char fun x => letters.toList.contains (foldCase x)

def whitespaces (least : Nat) : Pattern := .run isWhitespace least none

def isUsernameCharacter (c : Char) : Bool := (c.isAlphanum && c.toNat < 128) || c = '_'

/-- `[А-ЯЁA-Z][А-ЯЁA-Zа-яёa-z]+`. -/
def properName : Pattern := .seq (.char isUpperLetter) (.run isLetter 1 none)

def comma : Pattern := .seq (whitespaces 0) (.seq (.char (· == ',')) (whitespaces 0))

/-- `ASSIGNEE_REGEX`. -/
def assigneeRegex : Pattern :=
  .seq .start (.seq (.group "name" (.seq properName (.optional (.seq (whitespaces 1) properName)))) comma)

/-- `ASSIGNEE_USERNAME_REGEX`. -/
def assigneeUsernameRegex : Pattern :=
  .seq .start (.seq (.char (· == '@'))
    (.seq (.group "username" (.run isUsernameCharacter 5 (some 32))) (.alt comma (whitespaces 1))))

/-- `NO_ASSIGNEE_REGEX`. -/
def noAssigneeRegex : Pattern :=
  .seq .boundary
    (.seq (oneOf [word "без исполнителя", word "без назначения", word "no assignee"]) .boundary)

section

variable (tables : UnicodeTables)

/-- `ABSOLUTE_DEADLINE_REGEX`. -/
def absoluteDeadlineRegex : Pattern :=
  .seq .boundary (.seq (oneOf [word "до", word "к"]) (.seq (whitespaces 1)
    (.seq (.group "day" (.run tables.isDecimal 1 (some 2))) (.seq (.char fun c => c == '.' || c == '/')
      (.seq (.group "month" (.run tables.isDecimal 1 (some 2)))
        (.optional (.seq (.char fun c => c == '.' || c == '/')
          (.group "year" (.run tables.isDecimal 4 (some 4))))))))))

/-- `RELATIVE_DEADLINE_REGEX`. -/
def relativeDeadlineRegex : Pattern :=
  .seq .boundary
    (.seq (.group "raw" (oneOf [word "сегодня", word "завтра", word "послезавтра", word "срочно"])) .boundary)

/-- `IN_PERIOD_REGEX`. -/
def inPeriodRegex : Pattern :=
  .seq .boundary (.seq (word "через") (.seq (whitespaces 1)
    (.seq (.group "value" (.run tables.isDecimal 1 none)) (.seq (whitespaces 1)
      (.seq (.group "unit" (oneOf [.seq (word "дн") (.optional (oneOf [word "ей", word "я"])),
          .seq (word "час") (.optional (oneOf [word "ов", word "а"]))]))
        .boundary)))))

def weekdayName : Pattern :=
  oneOf [.seq (word "понедельник") (.optional (oneOf [word "а", word "у"])),
    .seq (word "вторник") (.optional (oneOf [word "а", word "у"])),
    .seq (word "сред") (letterOf "аеыу"),
    .seq (word "четверг") (.optional (oneOf [word "а", word "у"])),
    .seq (word "пятниц") (letterOf "аеы"),
    .seq (word "суббот") (letterOf "аеыу"),
    .seq (word "воскресень") (letterOf "еяю")]

/-- `WEEKDAY_REGEX`. -/
def weekdayRegex : Pattern :=
  .seq .boundary (.seq (.optional (oneOf [word "до", word "к"])) (.seq (whitespaces 0)
    (.seq (.group "raw" weekdayName) .boundary)))

/-- `regex.captures(text)`. -/
def captures (p : Pattern) (text : String) : Option Taken :=
  (Pattern.find tables.isWord p none text.toList).map Pattern.Found.taken

end

/-! ## Whitespace -/

/-- `WHITESPACE_REGEX.replace_all(…, " ")`: of a run of whitespace the last one stands for all. -/
def replaceWhitespace : List Char → List Char
  | [] => []
  | c :: cs =>
      if isWhitespace c then
        if cs.head?.any isWhitespace then replaceWhitespace cs else ' ' :: replaceWhitespace cs
      else c :: replaceWhitespace cs

def normalizeWhitespace (value : String) : String := String.ofList (replaceWhitespace (trim value).toList)

/-- `value.split_whitespace()`. -/
def splitWhitespace (value : String) : List (List Char) :=
  (value.toList.splitBy fun a b => isWhitespace a == isWhitespace b).filter fun w => !w.all isWhitespace

/-- `value.replacen(fragment, "", 1)`. -/
def removeFirst (fragment : List Char) : List Char → List Char
  | [] => []
  | c :: cs => if fragment <+: c :: cs then (c :: cs).drop fragment.length else c :: removeFirst fragment cs

/-- `value.trim_matches(|symbol| symbol == '.' || symbol == ',')`. -/
def trimPunctuation (value : List Char) : List Char :=
  let isPunctuation := fun c => c == '.' || c == ','
  ((value.dropWhile isPunctuation).reverse.dropWhile isPunctuation).reverse

/-! ## Deadlines -/

abbrev Extracted := Option NaiveDate × Option String

def invalidDeadlineError (field raw : String) : AppError :=
  .schemaValidation "DEADLINE_INVALID" "Deadline cannot be parsed" [("field", .str field), ("raw", .str raw)]

/-- `value.parse::<u32>()` of a text of decimal digits. -/
def parseU32 (value : Option (List Char)) (field : String) : AppResult Nat :=
  match value with
  | none => .error (invalidDeadlineError field "missing deadline value")
  | some digits =>
      let n := Nat.ofDigitChars 10 digits 0
      if digits ≠ [] ∧ digits.all Char.isDigit ∧ n < 2 ^ 32 then .ok n
      else .error (invalidDeadlineError field "invalid deadline value")

/-- The text of a match, `captures[0].trim()`. -/
def matchedText (taken : Taken) : String := trim (String.ofList taken.text)

def parseYear (digits : List Char) (raw : String) : AppResult Int :=
  if digits.all Char.isDigit then .ok (Nat.ofDigitChars 10 digits 0)
  else .error (invalidDeadlineError "year" raw)

def absoluteDate (taken : Taken) (today : NaiveDate) : AppResult Extracted := do
  let raw := matchedText taken
  let day ← parseU32 (taken.group "day") "day"
  let month ← parseU32 (taken.group "month") "month"
  let year ← match taken.group "year" with
    | some digits => parseYear digits raw
    | none => .ok (NaiveDate.year today)
  let deadline ← okOrElse (NaiveDate.fromYmdOpt year month day) (invalidDeadlineError "date" raw)
  pure (some deadline, some raw)

def relativeDate (taken : Taken) (today : NaiveDate) : MayPanic (Option Extracted) :=
  match taken.group "raw" with
  | none => pure none
  | some matched => do
      let raw := String.ofList (matched.map lowerLetter)
      if raw = "сегодня" ∨ raw = "срочно" then pure (some (some today, some raw))
      else if raw = "завтра" then do
        let deadline ← addDays today 1
        pure (some (some deadline, some raw))
      else if raw = "послезавтра" then do
        let deadline ← addDays today 2
        pure (some (some deadline, some raw))
      else pure none

def periodDate (taken : Taken) (today : NaiveDate) : MayPanic Extracted := do
  let raw := matchedText taken
  let value ← ExceptT.mk (some (parseU32 (taken.group "value") "value"))
  let days : Nat :=
    if ['д', 'н'] <+: (taken.group "unit").getD [] then value
    else Nat.max (Nat.min (value + 23) (2 ^ 32 - 1) / 24) 1
  let deadline ← addDays today days
  pure (some deadline, some raw)

/-- Monday is 0. -/
def weekdayFromRussian (value : List Char) : Option Int :=
  let lowered := value.map lowerLetter
  if "понедельник".toList <+: lowered then some 0
  else if "вторник".toList <+: lowered then some 1
  else if "сред".toList <+: lowered then some 2
  else if "четверг".toList <+: lowered then some 3
  else if "пятниц".toList <+: lowered then some 4
  else if "суббот".toList <+: lowered then some 5
  else if "воскресень".toList <+: lowered then some 6
  else none

def daysUntilWeekday (current target : Int) : Int :=
  let distance := (target + 7 - current) % 7
  if distance = 0 then 7 else distance

def weekdayDate (taken : Taken) (today : NaiveDate) : MayPanic Extracted :=
  match taken.group "raw" with
  | none => pure (none, none)
  | some raw =>
      match weekdayFromRussian raw with
      | none => pure (none, none)
      | some target => do
          let deadline ← addDays today (daysUntilWeekday (NaiveDate.daysFromMonday today) target)
          pure (some deadline, some (String.ofList raw))

section

variable (tables : UnicodeTables)

def parseAbsoluteDeadline (text : String) (today : NaiveDate) : MayPanic (Option Extracted) :=
  match captures tables (absoluteDeadlineRegex tables) text with
  | none => pure none
  | some taken => do
      let extracted ← ExceptT.mk (some (absoluteDate taken today))
      pure (some extracted)

def parseRelativeDeadline (text : String) (today : NaiveDate) : MayPanic (Option Extracted) :=
  match captures tables relativeDeadlineRegex text with
  | none => pure none
  | some taken => relativeDate taken today

def parsePeriodDeadline (text : String) (today : NaiveDate) : MayPanic (Option Extracted) :=
  match captures tables (inPeriodRegex tables) text with
  | none => pure none
  | some taken => do
      let extracted ← periodDate taken today
      pure (some extracted)

def parseWeekdayDeadline (text : String) (today : NaiveDate) : MayPanic Extracted :=
  match captures tables weekdayRegex text with
  | none => pure (none, none)
  | some taken => weekdayDate taken today

def extractDeadlineFromText (text : String) (today : NaiveDate) : MayPanic Extracted := do
  let normalized := normalizeWhitespace text
  match ← parseAbsoluteDeadline tables normalized today with
  | some parsed => pure parsed
  | none =>
      match ← parseRelativeDeadline tables normalized today with
      | some parsed => pure parsed
      | none =>
          match ← parsePeriodDeadline tables normalized today with
          | some parsed => pure parsed
          | none => parseWeekdayDeadline tables normalized today

/-! ## Requests -/

/-- The assignee and the fragment that names them. -/
def extractAssignee (normalized : String) : Option (String × String) :=
  let username := (captures tables assigneeUsernameRegex normalized).bind fun taken =>
    (taken.group "username").map fun name => (trim (String.ofList name), String.ofList taken.text)
  let named := (captures tables assigneeRegex normalized).bind fun taken =>
    (taken.group "name").map fun name => (normalizeWhitespace (String.ofList name), String.ofList taken.text)
  username.or named

def buildDescription (normalized : String) (assigneeFragment deadlineFragment : Option String) : String :=
  let without (fragment : Option String) (text : List Char) : List Char :=
    match fragment with
    | some fragment => removeFirst fragment.toList text
    | none => text
  normalizeWhitespace (String.ofList (trimPunctuation
    (without deadlineFragment (without assigneeFragment normalized.toList))))

def minTaskDescriptionLength : Nat := 10

def validateDescription (description : String) : AppResult Unit :=
  if charsCount description < minTaskDescriptionLength then
    .error (.businessRule "TASK_DESCRIPTION_TOO_SHORT" "Task description is too short"
      [("min_length", .int minTaskDescriptionLength)])
  else
    let alphaCount := (description.toList.filter tables.isAlphabetic).length
    let tokenCount := (splitWhitespace description).length
    if alphaCount < minTaskDescriptionLength ∨ tokenCount < 2 then
      .error (.businessRule "TASK_DESCRIPTION_INVALID" "Task description looks incomplete or gibberish"
        [("description", .str description)])
    else .ok ()

def calculateConfidence (hasAssignee hasDeadline : Bool) : Nat :=
  60 + (if hasAssignee then 20 else 0) + (if hasDeadline then 20 else 0)

def parseTaskRequest (text : String) (today : NaiveDate) : MayPanic ParsedTaskRequest := do
  let normalizedMessage := normalizeWhitespace text
  let assignee := extractAssignee tables normalizedMessage
  let explicitUnassigned := (captures tables noAssigneeRegex normalizedMessage).isSome
  let (deadline, deadlineRaw) ← extractDeadlineFromText tables normalizedMessage today
  let description := buildDescription normalizedMessage (assignee.map Prod.snd) deadlineRaw
  ExceptT.mk (some (validateDescription tables description))
  pure
    { assigneeName := assignee.map Prod.fst
      taskDescription := description
      deadline
      deadlineRaw
      explicitUnassigned
      confidenceScore := calculateConfidence assignee.isSome deadline.isSome }

end

end Parsing

end TaskBot
