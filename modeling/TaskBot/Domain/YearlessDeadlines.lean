import TaskBot.Domain.CivilDates
import TaskBot.Domain.DeadlinePhrases

/-!
# Deadlines without a year

`до 25.12` is the day of this year, past or not.  Every other phrase without a year counts its days
from today (`yearless_not_past_iff`).
-/

namespace TaskBot

namespace Parsing

open Regex (Taken)

def Phrase.namesYear : Phrase → Bool
  | .date taken => (taken.group "year").isSome
  | .days _ _ | .period _ | .weekday _ _ => false

/-- A day and a month that are over this year. -/
def DayMonthPassed (today : NaiveDate) : Phrase → Prop
  | .date taken => ∃ day month : Nat, parseU32 (taken.group "day") "day" = .ok day ∧
      parseU32 (taken.group "month") "month" = .ok month ∧
      (NaiveDate.fromYmdOpt (NaiveDate.year today) month day).isSome = true ∧
      ((month : Int) < (civilFromDays today).2.1 ∨
        (month : Int) = (civilFromDays today).2.1 ∧ (day : Int) < (civilFromDays today).2.2)
  | .days _ _ | .period _ | .weekday _ _ => False

/-- A day and a month of this year are past when they come before those of today. -/
theorem fromYmdOpt_past_iff {today date : Int} {month day : Nat}
    (h : NaiveDate.fromYmdOpt (NaiveDate.year today) month day = some date) :
    date < today ↔ (month : Int) < (civilFromDays today).2.1 ∨
      (month : Int) = (civilFromDays today).2.1 ∧ (day : Int) < (civilFromDays today).2.2 := by
  obtain ⟨year, thisMonth, thisDay, hparts, hcivil, hdays⟩ := civil_round_trip today
  have hyear : NaiveDate.year today = year := congrArg Prod.fst hparts
  rw [hyear] at h
  obtain ⟨hdate, rfl⟩ := fromYmdOpt_some h
  have horder := daysFromCivil_lt_iff hdate hcivil
  rw [hdays] at horder
  rw [horder, hparts]
  simp only [Int.ofNat_lt, Int.ofNat_inj]

section

variable {tables : UnicodeTables} {today date : Int} {raw : Option String}

theorem absoluteDate_ok_iff {taken : Taken} (hyear : taken.group "year" = none) :
    absoluteDate taken today = .ok (some date, raw) ↔ ∃ day month : Nat,
      parseU32 (taken.group "day") "day" = .ok day ∧ parseU32 (taken.group "month") "month" = .ok month ∧
        NaiveDate.fromYmdOpt (NaiveDate.year today) month day = some date ∧ raw = some (matchedText taken) := by
  unfold absoluteDate
  rw [hyear]
  cases parseU32 (taken.group "day") "day" with
  | error e => exact iff_of_false nofun nofun
  | ok day =>
    cases parseU32 (taken.group "month") "month" with
    | error e => exact iff_of_false nofun nofun
    | ok month =>
      show (okOrElse (NaiveDate.fromYmdOpt (NaiveDate.year today) month day)
        (invalidDeadlineError "date" (matchedText taken)) >>= fun deadline =>
          (.ok (some deadline, some (matchedText taken)) : AppResult Extracted)) = _ ↔ _
      constructor
      · intro h
        cases hdate : NaiveDate.fromYmdOpt (NaiveDate.year today) month day with
        | none =>
          rw [hdate] at h
          cases h
        | some deadline =>
          rw [hdate] at h
          cases h
          exact ⟨day, month, rfl, rfl, hdate, rfl⟩
      · rintro ⟨_, _, hday, hmonth, hdate, rfl⟩
        cases hday
        cases hmonth
        rw [hdate]
        rfl

theorem addDays_ok {n : Int} {phrase : String}
    (h : (do let deadline ← addDays today n; pure (some deadline, some phrase) : MayPanic Extracted).run =
      some (.ok (some date, raw))) : date = today + n := by
  rw [ExceptT.run_bind, addDays_run] at h
  split at h
  · cases h
    rfl
  · cases h

/-- **A deadline without a year is not past, unless it is a day and a month that are over this year.** -/
theorem yearless_not_past_iff (tables : UnicodeTables) (text : String) (today : NaiveDate)
    (hmin : NaiveDate.min ≤ today) (hmax : today ≤ NaiveDate.max)
    (hyear : ∀ phrase, recognize tables (normalizeWhitespace text) = some phrase → phrase.namesYear = false) :
    (∀ date raw, (extractDeadlineFromText tables text today).run = some (.ok (some date, raw)) → today ≤ date) ↔
      ¬ ∃ phrase, recognize tables (normalizeWhitespace text) = some phrase ∧ DayMonthPassed today phrase := by
  rw [extractDeadlineFromText_eq hmin hmax]
  cases hphrase : recognize tables (normalizeWhitespace text) with
  | none => exact iff_of_true (fun date raw h => nomatch h) fun h => Option.some_ne_none _ h.choose_spec.1.symm
  | some phrase =>
    have hthis : (∃ phrase', some phrase = some phrase' ∧ DayMonthPassed today phrase') ↔ DayMonthPassed today phrase := by
      constructor
      · rintro ⟨_, hsame, h⟩
        cases hsame
        exact h
      · exact fun h => ⟨phrase, rfl, h⟩
    have hlater : ∀ n : Int, 0 ≤ n → today ≤ today + n := fun n hn => Int.le_add_of_nonneg_right hn
    rw [hthis]
    cases phrase with
    | days n raw =>
      refine iff_of_true (fun date _ h => ?_) id
      rw [addDays_ok h]
      exact hlater n (Int.natCast_nonneg n)
    | weekday target raw =>
      refine iff_of_true (fun date _ h => ?_) id
      have hdays := daysUntilWeekday_bounds (NaiveDate.daysFromMonday today) target
      rw [addDays_ok h]
      exact hlater _ (by omega)
    | period taken =>
      refine iff_of_true (fun date raw h => ?_) id
      have h : (periodDate taken today).run = some (.ok (some date, raw)) := h
      rw [period_run] at h
      split at h
      · split at h
        · cases h
          exact hlater _ (Int.natCast_nonneg _)
        · cases h
      · cases h
    | date taken =>
      have hnone : taken.group "year" = none := Option.isNone_iff_eq_none.mp (Option.isSome_eq_false_iff.mp (hyear _ hphrase))
      constructor
      · rintro h ⟨day, month, hday, hmonth, hvalid, hpassed⟩
        obtain ⟨date, hdate⟩ := Option.isSome_iff_exists.mp hvalid
        have hread := (absoluteDate_ok_iff hnone).mpr ⟨day, month, hday, hmonth, hdate, rfl⟩
        have hpast := (fromYmdOpt_past_iff hdate).mpr hpassed
        exact absurd (h date _ (congrArg some hread)) (Int.not_le.mpr hpast)
      · intro h date raw hrun
        obtain ⟨day, month, hday, hmonth, hdate, -⟩ := (absoluteDate_ok_iff hnone).mp (Option.some.inj hrun)
        have hvalid : (NaiveDate.fromYmdOpt (NaiveDate.year today) month day).isSome = true := by
          rw [hdate]
          rfl
        exact Int.not_lt.mp fun hpast =>
          h ⟨day, month, hday, hmonth, hvalid, (fromYmdOpt_past_iff hdate).mp hpast⟩

end

end Parsing

/-! ## A sample -/

/-- On 20.04.2026 the 25th of December is ahead. -/
theorem december_not_past : ∃ date raw,
    (Parsing.extractDeadlineFromText plainTables "Сдать отчёт до 25.12" sampleToday).run = some (.ok (some date, raw)) ∧
      sampleToday ≤ date := by
  have hrun : (Parsing.extractDeadlineFromText plainTables "Сдать отчёт до 25.12" sampleToday).run =
      some (.ok (some 20812, some "до 25.12")) := by decide +kernel
  have hphrase : Parsing.recognize plainTables (Parsing.normalizeWhitespace "Сдать отчёт до 25.12") =
      some (.date ⟨"до 25.12".toList, [("day", ['2', '5']), ("month", ['1', '2'])]⟩) := by decide +kernel
  refine ⟨_, _, hrun, (Parsing.yearless_not_past_iff plainTables _ sampleToday (by decide) (by decide) ?_).mpr ?_ _ _ hrun⟩
  · intro phrase h
    cases hphrase.symm.trans h
    rfl
  · rintro ⟨phrase, h, hpassed⟩
    cases hphrase.symm.trans h
    obtain ⟨day, month, -, hmonth, -, hpassed⟩ := hpassed
    cases hmonth
    rcases hpassed with hmonth | ⟨hmonth, -⟩
    · exact absurd hmonth (by decide)
    · exact absurd hmonth (by decide)

/-- The 1st of March is read as that of this year, 50 days ago. -/
theorem march_past : ¬ ∀ (tables : UnicodeTables) (text : String) (today : NaiveDate),
    NaiveDate.min ≤ today → today ≤ NaiveDate.max →
      (∀ phrase, Parsing.recognize tables (Parsing.normalizeWhitespace text) = some phrase → phrase.namesYear = false) →
      ∀ date raw, (Parsing.extractDeadlineFromText tables text today).run = some (.ok (some date, raw)) →
        today ≤ date := by
  intro h
  have hrun : (Parsing.extractDeadlineFromText plainTables "Сдать отчёт до 1.03" sampleToday).run =
      some (.ok (some 20513, some "до 1.03")) := by decide +kernel
  have hyear : ∀ phrase, Parsing.recognize plainTables (Parsing.normalizeWhitespace "Сдать отчёт до 1.03") = some phrase →
      phrase.namesYear = false := by
    decide +kernel
  exact absurd (h plainTables _ sampleToday (by decide) (by decide) hyear _ _ hrun) (by decide)

end TaskBot
