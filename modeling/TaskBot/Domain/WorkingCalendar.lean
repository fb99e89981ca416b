import Mathlib.Data.Int.Order.Basic
import TaskBot.Domain.Parsing

/-!
# Working calendars

A timezone is what `chrono_tz` knows of it, left open: the wall clock of an instant, and the
instants of a wall clock, of which there may be one, two or none.
-/

namespace TaskBot

/-! ## Timezones -/

/-- A wall clock without timezone, in nanoseconds since the epoch. -/
abbrev LocalTime := Int

def nanosPerMinute : Int := 60000000000

def nanosPerDay : Int := 86400000000000

/-- `naive.date()`. -/
def LocalTime.date (t : LocalTime) : NaiveDate := t.fdiv nanosPerDay

/-- `date.and_hms_opt(minutes / 60, minutes % 60, 0)`. -/
def LocalTime.at (date : NaiveDate) (minutes : Nat) : Option LocalTime :=
  if minutes < 1440 then some (date * nanosPerDay + minutes * nanosPerMinute) else none

theorem LocalTime.at_date {date : NaiveDate} {minutes : Nat} {t : LocalTime} (h : LocalTime.at date minutes = some t) :
    LocalTime.date t = date := by
  unfold LocalTime.at at h
  split at h
  · cases h
    have hday : ∀ d : Int, (d * 86400000000000 + minutes * 60000000000) / 86400000000000 = d := by
      intro d
      omega
    exact (Int.fdiv_eq_ediv_of_nonneg _ (by decide)).trans (hday date)
  · cases h

inductive LocalResult where
  | single (t : Instant)
  | ambiguous (earliest latest : Instant)
  | none
deriving DecidableEq, Repr

/-- A local time stands for the instants that show it: for one, for two or for none. -/
structure Tz where
  toLocal : Instant → LocalTime
  fromLocal : LocalTime → LocalResult
  fromLocal_shows : ∀ t, match fromLocal t with
    | .single i => ∀ j, toLocal j = t ↔ j = i
    | .ambiguous earliest latest => earliest < latest ∧ toLocal earliest = t ∧ toLocal latest = t
    | .none => ∀ j, toLocal j ≠ t
  /-- The distance from UTC is less than a day. -/
  near_utc : ∀ i, i - nanosPerDay < toLocal i ∧ toLocal i < i + nanosPerDay

namespace Tz

variable {tz : Tz}

/-- `instant.with_timezone(&timezone).date_naive()`. -/
def localDate (tz : Tz) (t : Instant) : NaiveDate := LocalTime.date (tz.toLocal t)

/-- The one instant of the wall clock, or the one that shows it in UTC. -/
def instantOf (tz : Tz) (t : LocalTime) : Instant :=
  match tz.fromLocal t with
  | .single i => i
  | .ambiguous _ _ | .none => t

theorem single_iff {t : LocalTime} {i : Instant} (h : tz.fromLocal t = .single i) (j : Instant) :
    tz.toLocal j = t ↔ j = i := by
  have hlaw := tz.fromLocal_shows t
  rw [h] at hlaw
  exact hlaw j

theorem instantOf_of_single {t : LocalTime} {i : Instant} (h : tz.fromLocal t = .single i) : tz.instantOf t = i := by
  unfold instantOf
  rw [h]

/-- A time that is skipped or shown twice is read as UTC. -/
theorem instantOf_of_not_single {t : LocalTime} (h : ∀ i, tz.fromLocal t ≠ .single i) : tz.instantOf t = t := by
  unfold instantOf
  split
  · next i hi => exact absurd hi (h i)
  · rfl
  · rfl

theorem toLocal_instantOf {t : LocalTime} {i : Instant} (h : tz.fromLocal t = .single i) :
    tz.toLocal (tz.instantOf t) = t := by
  rw [instantOf_of_single h]
  exact (single_iff h i).mpr rfl

/-- The clock keeps one distance from UTC. -/
def IsFixed (tz : Tz) (offset : Int) : Prop := ∀ i, tz.toLocal i = i + offset

theorem IsFixed.fromLocal {offset : Int} (h : tz.IsFixed offset) (t : LocalTime) :
    tz.fromLocal t = .single (t - offset) := by
  have hshows : tz.toLocal (t - offset) = t := by
    rw [h]
    exact Int.sub_add_cancel t offset
  have hlaw := tz.fromLocal_shows t
  cases hr : tz.fromLocal t with
  | single i =>
    rw [hr] at hlaw
    rw [(hlaw _).mp hshows]
  | ambiguous earliest latest =>
    rw [hr] at hlaw
    obtain ⟨hlt, he, hl⟩ := hlaw
    rw [h] at he hl
    have hsame : ∀ a b o t : Int, a + o = t → b + o = t → ¬ a < b := by
      intro a b o t ha hb
      omega
    exact absurd hlt (hsame _ _ _ _ he hl)
  | none =>
    rw [hr] at hlaw
    exact absurd hshows (hlaw _)

theorem IsFixed.instantOf {offset : Int} (h : tz.IsFixed offset) (t : LocalTime) : tz.instantOf t = t - offset :=
  instantOf_of_single (h.fromLocal t)

/-- The clock shows the time at one instant, less before it and more after it. -/
def PassesOnce (tz : Tz) (t : LocalTime) : Prop :=
  ∃ i, tz.fromLocal t = .single i ∧ (∀ j, j < i → tz.toLocal j < t) ∧ ∀ j, i < j → t < tz.toLocal j

namespace PassesOnce

variable {t : LocalTime}

theorem shows (h : tz.PassesOnce t) : tz.toLocal (tz.instantOf t) = t := by
  obtain ⟨i, hi, -⟩ := h
  exact toLocal_instantOf hi

theorem le_iff (h : tz.PassesOnce t) (j : Instant) : tz.instantOf t ≤ j ↔ t ≤ tz.toLocal j := by
  have hshows := h.shows
  obtain ⟨i, hi, hbefore, hafter⟩ := h
  rw [instantOf_of_single hi] at hshows ⊢
  constructor
  · intro hle
    rcases Int.le_iff_eq_or_lt.mp hle with heq | hlt
    · rw [← heq, hshows]
    · exact le_of_lt (hafter j hlt)
  · intro hle
    by_contra hlt
    exact absurd (hbefore j (not_le.mp hlt)) (not_lt.mpr hle)

theorem ge_iff (h : tz.PassesOnce t) (j : Instant) : j ≤ tz.instantOf t ↔ tz.toLocal j ≤ t := by
  have hshows := h.shows
  obtain ⟨i, hi, hbefore, hafter⟩ := h
  rw [instantOf_of_single hi] at hshows ⊢
  constructor
  · intro hle
    rcases Int.le_iff_eq_or_lt.mp hle with heq | hlt
    · rw [heq, hshows]
    · exact le_of_lt (hbefore j hlt)
  · intro hle
    by_contra hlt
    exact absurd (hafter j (not_le.mp hlt)) (not_lt.mpr hle)

end PassesOnce

theorem IsFixed.passesOnce {offset : Int} (h : tz.IsFixed offset) (t : LocalTime) : tz.PassesOnce t := by
  have hbefore : ∀ j t : Int, j < t - offset ↔ j + offset < t := by
    intro j t
    omega
  have hafter : ∀ j t : Int, t - offset < j ↔ t < j + offset := by
    intro j t
    omega
  refine ⟨_, h.fromLocal t, fun j hj => ?_, fun j hj => ?_⟩
  · rw [h]
    exact (hbefore j t).mp hj
  · rw [h]
    exact (hafter j t).mp hj

/-- One change of the clock, from one distance from UTC to another. -/
def change (moment before after : Int) (hb : -nanosPerDay < before ∧ before < nanosPerDay)
    (ha : -nanosPerDay < after ∧ after < nanosPerDay) : Tz where
  toLocal := fun (i : Int) => if i < moment then i + before else i + after
  fromLocal := fun (t : Int) =>
    if t - before < moment then
      if moment ≤ t - after then .ambiguous (t - before) (t - after) else .single (t - before)
    else if moment ≤ t - after then .single (t - after) else .none
  fromLocal_shows := by
    intro (t : Int)
    by_cases h₁ : t - before < moment
    · by_cases h₂ : moment ≤ t - after
      · have hlt : t - before < t - after := by omega
        have hlate : ¬ t - after < moment := by omega
        simp [h₁, h₂, hlt, hlate]
      · simp only [h₁, h₂, if_true, if_false]
        intro (j : Int)
        show (if j < moment then j + before else j + after) = t ↔ j = t - before
        split <;> omega
    · by_cases h₂ : moment ≤ t - after
      · simp only [h₁, h₂, if_true, if_false]
        intro (j : Int)
        show (if j < moment then j + before else j + after) = t ↔ j = t - after
        split <;> omega
      · simp only [h₁, h₂, if_false]
        intro (j : Int)
        show (if j < moment then j + before else j + after) ≠ t
        split <;> omega
  near_utc := by
    intro (i : Int)
    show i - nanosPerDay < (if i < moment then i + before else i + after) ∧
      (if i < moment then i + before else i + after) < i + nanosPerDay
    split <;> omega

/-- A fixed distance from UTC. -/
def fixed (offset : Int) (h : -nanosPerDay < offset ∧ offset < nanosPerDay) : Tz := change 0 offset offset h h

theorem fixed_isFixed (offset : Int) (h : -nanosPerDay < offset ∧ offset < nanosPerDay) :
    (fixed offset h).IsFixed offset := fun _ => ite_self _

end Tz

/-! ## Calendars -/

/-- The days are lists here; the source has sets. -/
structure WorkingCalendar where
  code : String
  timezone : Tz
  workdayMask : Nat
  workdayStartMin : Nat
  workdayEndMin : Nat
  holidays : List NaiveDate
  extraWorkingDays : List NaiveDate
  mask_nonempty : workdayMask ≠ 0
  start_in_day : workdayStartMin < 1440
  end_in_day : workdayEndMin ≤ 1440
  start_before_end : workdayStartMin < workdayEndMin

namespace WorkingCalendar

def new (code : String) (timezone : Tz) (workdayMask workdayStartMin workdayEndMin : Nat)
    (holidays extraWorkingDays : List NaiveDate) : AppResult WorkingCalendar :=
  if hmask : workdayMask = 0 then
    .error (.schemaValidation "WORKING_CALENDAR_EMPTY_MASK" "workday_mask must select at least one weekday"
      [("workday_mask", .int workdayMask)])
  else if hday : 1440 ≤ workdayStartMin ∨ 1440 < workdayEndMin then
    .error (.schemaValidation "WORKING_CALENDAR_MINUTE_OUT_OF_RANGE"
      "workday_start_min/workday_end_min must lie in [0, 1440]"
      [("workday_start_min", .int workdayStartMin), ("workday_end_min", .int workdayEndMin)])
  else if hwindow : workdayEndMin ≤ workdayStartMin then
    .error (.schemaValidation "WORKING_CALENDAR_INVERTED_WINDOW"
      "workday_end_min must be strictly greater than workday_start_min"
      [("workday_start_min", .int workdayStartMin), ("workday_end_min", .int workdayEndMin)])
  else .ok
    { code, timezone, workdayMask, workdayStartMin, workdayEndMin, holidays, extraWorkingDays
      mask_nonempty := hmask
      start_in_day := by omega
      end_in_day := by omega
      start_before_end := by omega }

/-- `new` accepts the fields of every calendar. -/
theorem new_fields (calendar : WorkingCalendar) :
    new calendar.code calendar.timezone calendar.workdayMask calendar.workdayStartMin calendar.workdayEndMin
      calendar.holidays calendar.extraWorkingDays = .ok calendar := by
  obtain ⟨code, timezone, mask, startMin, endMin, holidays, extra, hmask, hstart, hend, hwindow⟩ := calendar
  unfold new
  rw [dif_neg hmask, dif_neg (show ¬ (1440 ≤ startMin ∨ 1440 < endMin) by omega),
    dif_neg (show ¬ endMin ≤ startMin by omega)]

/-- Extra working days come before holidays, and holidays before the mask. -/
def isWorkingDay (calendar : WorkingCalendar) (date : NaiveDate) : Bool :=
  if date ∈ calendar.extraWorkingDays then true
  else if date ∈ calendar.holidays then false
  else calendar.workdayMask.testBit (NaiveDate.daysFromMonday date).toNat

end WorkingCalendar

end TaskBot
