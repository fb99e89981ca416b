import TaskBot.Domain.ClockChanges
import TaskBot.Domain.Deadline
import TaskBot.Domain.DeadlinePhrases

/-!
# Resolved deadlines

With a calendar a date stands for the end of work of a working day.  A timestamp of the generator on
a working day is taken as it is, later than the end of work or not (`resolved_in_workday_iff`).
-/

namespace TaskBot

open MayPanic

namespace WorkingCalendar

/-- A time of a working day, not after the end of work. -/
def BeforeClose (calendar : WorkingCalendar) (t : Instant) : Prop :=
  calendar.isWorkingDay (calendar.timezone.localDate t) = true ∧
    calendar.timezone.toLocal t ≤ calendar.closes (calendar.timezone.localDate t)

end WorkingCalendar

namespace DeadlineResolver

section

variable {calendar : WorkingCalendar} {input : DeadlineInput} {offset : Int}

theorem endOfBusinessUtc_ok {date : Int} {t : Instant} (hend : calendar.workdayEndMin < 1440)
    (h : (endOfBusinessUtc date calendar.timezone (some calendar)).run = some (.ok t)) :
    t = calendar.timezone.instantOf (calendar.closes date) := by
  unfold endOfBusinessUtc at h
  have hat : LocalTime.at date calendar.workdayEndMin = some (calendar.closes date) := if_pos hend
  rw [Option.map_some, Option.getD_some, hat] at h
  cases h
  rfl

theorem localDate_closes (hfixed : calendar.timezone.IsFixed offset) (hend : calendar.workdayEndMin < 1440) (date : Int) :
    calendar.timezone.localDate (calendar.timezone.instantOf (calendar.closes date)) = date := by
  unfold Tz.localDate
  rw [Tz.toLocal_instantOf (hfixed.fromLocal _)]
  exact LocalTime.at_date (if_pos hend)

/-- The end of work of a working day. -/
theorem beforeClose_closes (hfixed : calendar.timezone.IsFixed offset) (hend : calendar.workdayEndMin < 1440)
    {date : Int} (hwork : calendar.isWorkingDay date = true) :
    calendar.BeforeClose (calendar.timezone.instantOf (calendar.closes date)) := by
  unfold WorkingCalendar.BeforeClose
  rw [localDate_closes hfixed hend, Tz.toLocal_instantOf (hfixed.fromLocal _)]
  exact ⟨hwork, le_rfl⟩

/-- The first of the days that is a working day, if one is. -/
theorem nextWorkingDay_ok {day : Int} {n : Nat} {offset : Int} {found : Option NaiveDate}
    (h : (nextWorkingDay calendar day n offset).run = some (.ok found)) :
    match found with
    | some date => calendar.isWorkingDay date = true ∧ ∃ k : Int, offset ≤ k ∧ k < offset + n ∧ date = day + k
    | none => ∀ k : Int, offset ≤ k → k < offset + n → calendar.isWorkingDay (day + k) = false := by
  induction n generalizing offset with
  | zero =>
    cases h
    intro k hle hlt
    omega
  | succ n ih =>
    rw [nextWorkingDay] at h
    obtain ⟨candidate, hcandidate, h⟩ := bind_ok_iff.mp h
    rw [addDays_run] at hcandidate
    split at hcandidate
    · cases hcandidate
      split at h
      · next hwork =>
        cases h
        exact ⟨hwork, offset, Int.le_refl _, by omega, rfl⟩
      · next hrest =>
        have hlater := ih h
        cases found with
        | some date =>
          obtain ⟨hwork, k, hle, hlt, hdate⟩ := hlater
          exact ⟨hwork, k, by omega, by omega, hdate⟩
        | none =>
          intro k hle hlt
          rcases Int.le_iff_eq_or_lt.mp hle with rfl | hnext
          · exact Bool.eq_false_iff.mpr hrest
          · exact hlater k (by omega) (by omega)
    · cases hcandidate

theorem applyCalendar_ok (hcalendar : input.calendar = some calendar) (hfixed : calendar.timezone.IsFixed offset)
    (hend : calendar.workdayEndMin < 1440)
    (hwork : ∀ day : Int, ∃ k : Int, 1 ≤ k ∧ k ≤ 366 ∧ calendar.isWorkingDay (day + k) = true) {t u : Instant}
    (h : (applyCalendar t input).run = some (.ok u)) :
    if calendar.isWorkingDay (calendar.timezone.localDate t) = true then u = t else calendar.BeforeClose u := by
  unfold applyCalendar at h
  rw [hcalendar] at h
  simp only at h
  split at h
  · next hworking =>
    cases h
    rw [if_pos hworking]
  · next hworking =>
    rw [if_neg hworking]
    obtain ⟨found, hfound, h⟩ := bind_ok_iff.mp h
    have hspec := nextWorkingDay_ok hfound
    cases found with
    | some date =>
      rw [endOfBusinessUtc_ok hend h]
      exact beforeClose_closes hfixed hend hspec.1
    | none =>
      obtain ⟨k, hle, hlt, hk⟩ := hwork (calendar.timezone.localDate t)
      have hnone := hspec k hle (by omega)
      rw [hk] at hnone
      cases hnone

/-- A date becomes the end of work of a working day. -/
theorem applyCalendar_date (hcalendar : input.calendar = some calendar) (hfixed : calendar.timezone.IsFixed offset)
    (hend : calendar.workdayEndMin < 1440)
    (hwork : ∀ day : Int, ∃ k : Int, 1 ≤ k ∧ k ≤ 366 ∧ calendar.isWorkingDay (day + k) = true) {date : Int}
    {t u : Instant} (ht : (endOfBusinessUtc date calendar.timezone (some calendar)).run = some (.ok t))
    (h : (applyCalendar t input).run = some (.ok u)) : calendar.BeforeClose u := by
  have hspec := applyCalendar_ok hcalendar hfixed hend hwork h
  split at hspec
  · next hworking =>
    rw [endOfBusinessUtc_ok hend ht, localDate_closes hfixed hend] at hworking
    rw [hspec, endOfBusinessUtc_ok hend ht]
    exact beforeClose_closes hfixed hend hworking
  · exact hspec

/-! ## Deadlines -/

/-- The instant is not after work, and the local date is the one of it. -/
def Kept (calendar : WorkingCalendar) (deadline : Deadline) : Prop :=
  (∀ t, deadline.utc = some t → calendar.BeforeClose t) ∧
    deadline.localDate = deadline.utc.map calendar.timezone.localDate

/-- The hint is a timestamp ahead, on a working day but after the end of work. -/
def LateHint (formats : DateFormats) (calendar : WorkingCalendar) (input : DeadlineInput) : Prop :=
  ∃ hint t, input.aiIsoHint = some hint ∧ (trim hint).isEmpty = false ∧ formats.parseRfc3339 (trim hint) = some t ∧
    input.nowUtc ≤ t ∧ calendar.isWorkingDay (calendar.timezone.localDate t) = true ∧
    calendar.closes (calendar.timezone.localDate t) < calendar.timezone.toLocal t

/-- The deadline of the hint, if there is one. -/
def tryHint (formats : DateFormats) (input : DeadlineInput) : MayPanic (Option Deadline) :=
  match input.aiIsoHint with
  | some hint => tryAiIso formats hint input
  | none => pure none

section

variable {tables : UnicodeTables} {formats : DateFormats}

theorem tryDeterministic_kept (hcalendar : input.calendar = some calendar)
    (htimezone : input.userTimezone = calendar.timezone) (hfixed : calendar.timezone.IsFixed offset)
    (hend : calendar.workdayEndMin < 1440)
    (hwork : ∀ day : Int, ∃ k : Int, 1 ≤ k ∧ k ≤ 366 ∧ calendar.isWorkingDay (day + k) = true) {deadline : Deadline}
    (h : (tryDeterministic tables input).run = some (.ok (some deadline))) : Kept calendar deadline := by
  unfold tryDeterministic at h
  obtain ⟨⟨date, raw⟩, -, h⟩ := bind_ok_iff.mp h
  cases date with
  | none => cases h
  | some date =>
    obtain ⟨endOfBusiness, hbusiness, h⟩ := bind_ok_iff.mp h
    obtain ⟨utc, hutc, h⟩ := bind_ok_iff.mp h
    cases h
    rw [htimezone, hcalendar] at hbusiness
    refine ⟨?_, ?_⟩
    · rintro t ht
      cases ht
      exact applyCalendar_date hcalendar hfixed hend hwork hbusiness hutc
    · rw [htimezone]
      rfl

theorem tryAiIso_kept (hcalendar : input.calendar = some calendar)
    (htimezone : input.userTimezone = calendar.timezone) (hfixed : calendar.timezone.IsFixed offset)
    (hend : calendar.workdayEndMin < 1440)
    (hwork : ∀ day : Int, ∃ k : Int, 1 ≤ k ∧ k ≤ 366 ∧ calendar.isWorkingDay (day + k) = true) {hint : String}
    (hhint : input.aiIsoHint = some hint) (hlate : ¬ LateHint formats calendar input) {deadline : Deadline}
    (h : (tryAiIso formats hint input).run = some (.ok (some deadline))) : Kept calendar deadline := by
  unfold tryAiIso at h
  obtain ⟨instant, hinstant, h⟩ := bind_ok_iff.mp h
  cases instant with
  | none => cases h
  | some parsedUtc =>
    simp only at h
    split at h
    · cases h
    · next hahead =>
      obtain ⟨clamped, hclamped, h⟩ := bind_ok_iff.mp h
      cases h
      refine ⟨?_, ?_⟩
      · rintro t ht
        cases ht
        unfold hintInstant at hinstant
        split at hinstant
        · cases hinstant
        · next hempty =>
          cases hread : formats.parseRfc3339 (trim hint) with
          | some t =>
            rw [hread] at hinstant
            cases hinstant
            have hspec := applyCalendar_ok hcalendar hfixed hend hwork hclamped
            split at hspec
            · next hworking =>
              rw [hspec]
              refine ⟨hworking, not_lt.mp fun hafter => hlate ?_⟩
              exact ⟨hint, parsedUtc, hhint, Bool.eq_false_iff.mpr hempty, hread, not_lt.mp hahead, hworking, hafter⟩
            · exact hspec
          | none =>
            rw [hread] at hinstant
            cases hdate : formats.parseIsoDate (trim hint) with
            | none =>
              rw [hdate] at hinstant
              cases hinstant
            | some date =>
              rw [hdate] at hinstant
              obtain ⟨instant, hbusiness, hinstant⟩ := bind_ok_iff.mp hinstant
              cases hinstant
              rw [htimezone, hcalendar] at hbusiness
              exact applyCalendar_date hcalendar hfixed hend hwork hbusiness hclamped
      · rw [htimezone]
        rfl

/-- What the hint leaves to the text. -/
def orText (tables : UnicodeTables) (input : DeadlineInput) : Option Deadline → MayPanic Deadline
  | some resolved => pure resolved
  | none => tryDeterministic tables input >>= fun resolved => pure (resolved.getD Deadline.none)

/-- The hint comes before the text. -/
theorem resolve_eq : resolve tables formats input = tryHint formats input >>= orText tables input := by
  unfold resolve tryHint
  cases input.aiIsoHint with
  | some hint =>
    refine bind_congr fun hinted => ?_
    cases hinted with
    | some resolved => rfl
    | none =>
      refine bind_congr fun resolved => ?_
      cases resolved <;> rfl
  | none =>
    refine bind_congr fun resolved => ?_
    cases resolved with
    | some resolved => rfl
    | none =>
      refine bind_congr fun resolved => ?_
      cases resolved <;> rfl

/-- A late hint is returned as it is. -/
theorem resolve_late (tables : UnicodeTables) (hcalendar : input.calendar = some calendar) (hlate : LateHint formats calendar input) :
    ∃ deadline t, (resolve tables formats input).run = some (.ok deadline) ∧ deadline.utc = some t ∧
      ¬ calendar.BeforeClose t := by
  obtain ⟨hint, t, hhint, hempty, hread, hahead, hworking, hafter⟩ := hlate
  have hinstant : hintInstant formats (trim hint) input = pure (some t) := by
    unfold hintInstant
    rw [hempty, hread]
    rfl
  have hsame : applyCalendar t input = pure t := by
    unfold applyCalendar
    rw [hcalendar]
    exact if_pos hworking
  have hnow : ¬ t < input.nowUtc := not_lt.mpr hahead
  refine ⟨⟨some t, some (input.userTimezone.localDate t), some (trim hint), .aiStructured, 100⟩, t, ?_, rfl,
    fun hkept => absurd hkept.2 (not_le.mpr hafter)⟩
  rw [resolve_eq, tryHint, hhint]
  simp only [tryAiIso, hinstant, pure_bind, hnow, if_false, hsame]
  rfl

/-- **A deadline is not after work**, unless it is a timestamp of the generator on a working day after work. -/
theorem resolved_in_workday_iff (tables : UnicodeTables) (formats : DateFormats) (input : DeadlineInput)
    (calendar : WorkingCalendar) (offset : Int) (hcalendar : input.calendar = some calendar)
    (htimezone : input.userTimezone = calendar.timezone) (hfixed : calendar.timezone.IsFixed offset)
    (hend : calendar.workdayEndMin < 1440)
    (hwork : ∀ day : Int, ∃ k : Int, 1 ≤ k ∧ k ≤ 366 ∧ calendar.isWorkingDay (day + k) = true) :
    (∀ deadline, (resolve tables formats input).run = some (.ok deadline) → Kept calendar deadline) ↔
      ¬ LateHint formats calendar input := by
  constructor
  · intro h hlate
    obtain ⟨deadline, t, hrun, hutc, hafter⟩ := resolve_late tables hcalendar hlate
    exact hafter ((h deadline hrun).1 t hutc)
  · intro hlate deadline h
    rw [resolve_eq] at h
    obtain ⟨hinted, hhinted, h⟩ := bind_ok_iff.mp h
    cases hinted with
    | some resolved =>
      cases h
      unfold tryHint at hhinted
      cases hhint : input.aiIsoHint with
      | none =>
        rw [hhint] at hhinted
        cases hhinted
      | some hint =>
        rw [hhint] at hhinted
        exact tryAiIso_kept hcalendar htimezone hfixed hend hwork hhint hlate hhinted
    | none =>
      obtain ⟨resolved, hresolved, h⟩ := bind_ok_iff.mp h
      cases resolved with
      | some resolved =>
        cases h
        exact tryDeterministic_kept hcalendar htimezone hfixed hend hwork hresolved
      | none =>
        cases h
        exact ⟨nofun, rfl⟩

end

end

end DeadlineResolver

/-! ## A sample -/

theorem standardCalendar_works (day : Int) :
    ∃ k : Int, 1 ≤ k ∧ k ≤ 366 ∧ standardCalendar.isWorkingDay (day + k) = true := by
  refine ⟨7 - (day + 3) % 7, by omega, by omega, ?_⟩
  have hmonday : NaiveDate.daysFromMonday (day + (7 - (day + 3) % 7)) = 0 := by
    unfold NaiveDate.daysFromMonday
    omega
  show standardCalendar.workdayMask.testBit (NaiveDate.daysFromMonday _).toNat = true
  rw [hmonday]
  rfl

/-- The timestamp of 20.04.2026 21:00 in Moscow. -/
def sampleFormats : DateFormats where
  parseRfc3339 s := if s = "2026-04-20T21:00:00+03:00" then some (mondayNoon + 540 * nanosPerMinute) else none
  parseIsoDate _ := none

/-- On 20.04.2026 at noon, with a hint or without. -/
def sampleInput (hint : Option String) : DeadlineResolver.DeadlineInput :=
  ⟨"Сдать отчёт завтра", hint, moscowTime, mondayNoon, some standardCalendar⟩

theorem resolved_in_workday_tomorrow : standardCalendar.workdayEndMin < 1440 ∧ ∀ deadline,
    (DeadlineResolver.resolve plainTables sampleFormats (sampleInput none)).run = some (.ok deadline) →
      DeadlineResolver.Kept standardCalendar deadline :=
  ⟨by decide, (DeadlineResolver.resolved_in_workday_iff plainTables sampleFormats (sampleInput none) standardCalendar
    10800000000000 rfl rfl (Tz.fixed_isFixed _ (by decide)) (by decide) standardCalendar_works).mpr
      fun h => nomatch h.choose_spec.choose_spec.1⟩

/-- 21:00 of a working day stays, three hours after the end of work. -/
theorem hint_after_work : ¬ ∀ (tables : UnicodeTables) (formats : DateFormats) (input : DeadlineResolver.DeadlineInput)
    (calendar : WorkingCalendar) (offset : Int), input.calendar = some calendar →
      input.userTimezone = calendar.timezone → calendar.timezone.IsFixed offset → calendar.workdayEndMin < 1440 →
        (∀ day : Int, ∃ k : Int, 1 ≤ k ∧ k ≤ 366 ∧ calendar.isWorkingDay (day + k) = true) →
          ∀ deadline, (DeadlineResolver.resolve tables formats input).run = some (.ok deadline) →
            DeadlineResolver.Kept calendar deadline := by
  intro h
  have hlate : DeadlineResolver.LateHint sampleFormats standardCalendar (sampleInput (some "2026-04-20T21:00:00+03:00")) :=
    ⟨_, mondayNoon + 540 * nanosPerMinute, rfl, by decide, by decide, by decide, by decide, by decide⟩
  obtain ⟨deadline, t, hrun, hutc, hafter⟩ := DeadlineResolver.resolve_late plainTables rfl hlate
  exact hafter ((h plainTables sampleFormats _ standardCalendar 10800000000000 rfl rfl (Tz.fixed_isFixed _ (by decide))
    (by decide) standardCalendar_works deadline hrun).1 t hutc)

end TaskBot
