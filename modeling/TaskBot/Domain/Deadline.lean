import TaskBot.Domain.WorkingCalendar

/-!
# The deadline kernel

A date of the generator comes first, if it can be read and is not past; then what the parser finds
in the text.  A date stands for the end of business of that day in the user's timezone, and a
calendar moves it to a working day.

How `chrono` reads a timestamp or a date is left open (`DateFormats`).
-/

namespace TaskBot

/-- `DateTime::parse_from_rfc3339` and `NaiveDate::parse_from_str(…, "%Y-%m-%d")`. -/
structure DateFormats where
  parseRfc3339 : String → Option Instant
  parseIsoDate : String → Option NaiveDate

inductive DeadlineSource where
  | aiStructured | deterministicText | noneProvided
deriving DecidableEq, Repr

namespace DeadlineResolver

def defaultEndOfBusinessMin : Nat := 18 * 60

structure Deadline where
  utc : Option Instant
  localDate : Option NaiveDate
  rawFragment : Option String
  source : DeadlineSource
  confidence : Nat
deriving DecidableEq, Repr

def Deadline.none : Deadline := ⟨.none, .none, .none, .noneProvided, 0⟩

structure DeadlineInput where
  text : String
  aiIsoHint : Option String
  userTimezone : Tz
  nowUtc : Instant
  calendar : Option WorkingCalendar

def endOfBusinessUtc (date : NaiveDate) (timezone : Tz) (calendar : Option WorkingCalendar) : MayPanic Instant :=
  match LocalTime.at date ((calendar.map WorkingCalendar.workdayEndMin).getD defaultEndOfBusinessMin) with
  | some naive => pure (timezone.instantOf naive)
  | .none => (Option.none : Option _)

/-- The first working day from `offset` days after the day on, of `n` days. -/
def nextWorkingDay (calendar : WorkingCalendar) (day : NaiveDate) : Nat → Int → MayPanic (Option NaiveDate)
  | 0, _ => pure .none
  | n + 1, offset => do
      let candidate ← addDays day offset
      if calendar.isWorkingDay candidate then pure (some candidate)
      else nextWorkingDay calendar day n (offset + 1)

def applyCalendar (candidate : Instant) (input : DeadlineInput) : MayPanic Instant :=
  match input.calendar with
  | .none => pure candidate
  | some calendar =>
      let day := calendar.timezone.localDate candidate
      if calendar.isWorkingDay day then pure candidate
      else do
        match ← nextWorkingDay calendar day 366 1 with
        | some candidateDay => endOfBusinessUtc candidateDay calendar.timezone (some calendar)
        | .none => pure candidate

def deterministicConfidence (raw : Option String) : Nat :=
  match raw with
  | .none => 50
  | some value =>
      let lowered := value.toList.map lowerLetter
      if value.toList.contains '.' ∨ value.toList.contains '/' then 90
      else if lowered ∈ ["сегодня".toList, "завтра".toList, "послезавтра".toList] then 85
      else if value.isEmpty then 50
      else if "через".toList <+: lowered then 75
      else 60

section

variable (tables : UnicodeTables) (formats : DateFormats)

/-- The instant of a hint. -/
def hintInstant (hint : String) (input : DeadlineInput) : MayPanic (Option Instant) :=
  if hint.isEmpty then pure .none
  else
    match formats.parseRfc3339 hint with
    | some instant => pure (some instant)
    | .none =>
        match formats.parseIsoDate hint with
        | some date => do
            let instant ← endOfBusinessUtc date input.userTimezone input.calendar
            pure (some instant)
        | .none => pure .none

def tryAiIso (hint : String) (input : DeadlineInput) : MayPanic (Option Deadline) := do
  match ← hintInstant formats (trim hint) input with
  | .none => pure .none
  | some parsedUtc =>
      if parsedUtc < input.nowUtc then pure .none
      else do
        let clamped ← applyCalendar parsedUtc input
        pure (some
          { utc := some clamped
            localDate := some (input.userTimezone.localDate clamped)
            rawFragment := some (trim hint)
            source := .aiStructured
            confidence := 100 })

def tryDeterministic (input : DeadlineInput) : MayPanic (Option Deadline) := do
  let todayLocal := input.userTimezone.localDate input.nowUtc
  let (date, raw) ← Parsing.extractDeadlineFromText tables input.text todayLocal
  match date with
  | .none => pure .none
  | some date => do
      let endOfBusiness ← endOfBusinessUtc date input.userTimezone input.calendar
      let utc ← applyCalendar endOfBusiness input
      pure (some
        { utc := some utc
          localDate := some (input.userTimezone.localDate utc)
          rawFragment := raw
          source := .deterministicText
          confidence := deterministicConfidence raw })

def resolve (input : DeadlineInput) : MayPanic Deadline := do
  let hinted ← match input.aiIsoHint with
    | some hint => tryAiIso formats hint input
    | .none => pure .none
  match hinted with
  | some resolved => pure resolved
  | .none =>
      match ← tryDeterministic tables input with
      | some resolved => pure resolved
      | .none => pure .none

end

end DeadlineResolver

end TaskBot
