import TaskBot.Domain.WorkingDuration

/-!
# Working time on a clock that changes

A start or an end of work that is skipped or shown twice is read as UTC, and the walk may then leave
the workday or go back in time.  A turn of it takes the whole minutes of a shift:

    addFrom (n + 1) t m  =  shiftStart t + m minutes             when the shift has them
                         =  addFrom n (nextTurn t) (m - …)       otherwise       (addFrom_turn)

* `addWorkingDuration_in_window_iff`: the result is in a workday exactly if the bounds of the shift
  that has the last minute are taken well enough;
* `addWorkingDuration_in_window`: so it is where the clock passes the bounds of the workdays once.
-/

namespace TaskBot

namespace Tz

variable (tz : Tz)

/-- By how much the clock is set forward between two instants. -/
def gain (s t : Instant) : Int := tz.toLocal t - tz.toLocal s - (t - s)

/-- How late a time of the clock is taken: not at all if one instant shows it, else by the distance from UTC. -/
def misread (c : LocalTime) : Int := tz.toLocal (tz.instantOf c) - c

variable {tz}

theorem IsFixed.gain {offset : Int} (h : tz.IsFixed offset) (s t : Instant) : tz.gain s t = 0 := by
  have hsame : ∀ s t : Int, t + offset - (s + offset) - (t - s) = 0 := by
    intro s t
    omega
  unfold Tz.gain
  rw [h, h]
  exact hsame s t

end Tz

namespace WorkingCalendar

section

variable (calendar : WorkingCalendar)

/-- Of `n` days the clock passes every start of work once, and every end of work of a working day; of
the first day only if it is a working day. -/
def PassesWorkdays (day : Int) (n : Nat) : Prop :=
  ∀ j < n, (0 < j ∨ calendar.isWorkingDay (day + j) = true → calendar.timezone.PassesOnce (calendar.opens (day + j))) ∧
    (calendar.isWorkingDay (day + j) = true → calendar.timezone.PassesOnce (calendar.closes (day + j)))

/-- The whole working minutes of a day from an instant on. -/
def minutesOn (start : Int) (day : Int) : Int :=
  if day ≤ NaiveDate.max ∧ calendar.isWorkingDay day then
    Max.max 0 ((calendar.timezone.instantOf (calendar.closes day) -
      Max.max start (calendar.timezone.instantOf (calendar.opens day))) / nanosPerMinute)
  else 0

/-- The whole working minutes of `n` days from an instant on. -/
def minutesInReach (start : Int) (day : Int) : Nat → Int
  | 0 => 0
  | n + 1 => calendar.minutesOn start day + minutesInReach start (day + 1) n

/-- A time of the workday, its end included. -/
def InWorkday (t : Instant) : Prop :=
  let day := calendar.timezone.localDate t
  calendar.isWorkingDay day = true ∧ calendar.opens day ≤ calendar.timezone.toLocal t ∧
    calendar.timezone.toLocal t ≤ calendar.closes day

/-! ### Turns -/

/-- The instant that is taken for the start of work of a day. -/
def dayStart (day : Int) : Instant :=
  let opening := calendar.timezone.instantOf (calendar.opens day)
  (withoutNanoseconds calendar.timezone opening).getD opening

/-- The turn after one that begins at `t` begins with the work of the day after. -/
def nextTurn (t : Instant) : Instant := calendar.dayStart (calendar.timezone.localDate t + 1)

/-- Where the shift of a turn begins. -/
def shiftStart (t : Instant) : Instant :=
  Max.max (t : Int) (calendar.timezone.instantOf (calendar.opens (calendar.timezone.localDate t)))

/-- The whole minutes of the shift, to the end of work. -/
def shiftMinutes (t : Instant) : Int :=
  let day := calendar.timezone.localDate t
  if calendar.isWorkingDay day then
    Max.max 0 ((calendar.timezone.instantOf (calendar.closes day) - calendar.shiftStart t : Int) / nanosPerMinute)
  else 0

/-- The minutes of the shifts of `n` turns. -/
def turnMinutes (t : Instant) : Nat → Int
  | 0 => 0
  | n + 1 => calendar.shiftMinutes t + turnMinutes (calendar.nextTurn t) n

/-- The days of `n` turns have a day after them. -/
def Dated (t : Instant) : Nat → Prop
  | 0 => True
  | n + 1 => calendar.timezone.localDate t + 1 ≤ NaiveDate.max ∧ Dated (calendar.nextTurn t) n

/-- So far into its shift the clock is between the bounds of the day: the shift began before the start of work
by no more than that, and the end of work is taken too late by no more than what is left of it.  A change of the
clock counts. -/
def BetweenBounds (t : Instant) (taken : Int) : Prop :=
  let day := calendar.timezone.localDate t
  let reached : Int := calendar.shiftStart t + taken
  let closing := calendar.timezone.instantOf (calendar.closes day)
  calendar.opens day - calendar.timezone.toLocal (calendar.shiftStart t) ≤
      taken + calendar.timezone.gain (calendar.shiftStart t) reached ∧
    calendar.timezone.misread (calendar.closes day) ≤ closing - reached + calendar.timezone.gain reached closing

/-- So far into its shift the clock shows a time of the workday of another day. -/
def BetweenOthers (t : Instant) (taken : Int) : Prop :=
  let shown := calendar.timezone.toLocal (calendar.shiftStart t) + taken +
    calendar.timezone.gain (calendar.shiftStart t) (calendar.shiftStart t + taken : Int)
  ∃ day ≠ calendar.timezone.localDate t, calendar.isWorkingDay day = true ∧ calendar.opens day ≤ shown ∧
    shown ≤ calendar.closes day

/-- The bounds of the turns are taken well enough for `m` minutes: the shift in which they are reached is not
behind the start by more than is taken of it, and there the clock is in a workday; or no shift of 366 turns
reaches them, and the start of work where the turns end is ahead and in a workday. -/
def TakesWorkdays (start : Instant) (m : Int) : Prop :=
  (∃ n < 366, calendar.Dated start n ∧ calendar.turnMinutes start n < m ∧ m ≤ calendar.turnMinutes start (n + 1) ∧
    let t := calendar.nextTurn^[n] start
    let taken := (m - calendar.turnMinutes start n) * nanosPerMinute
    start - calendar.shiftStart t ≤ taken ∧ (calendar.BetweenBounds t taken ∨ calendar.BetweenOthers t taken)) ∨
  (calendar.Dated start 366 ∧ calendar.turnMinutes start 366 < m ∧
    start ≤ calendar.nextTurn^[366] start ∧ calendar.InWorkday (calendar.nextTurn^[366] start))

end

section

variable {calendar : WorkingCalendar}

theorem minutesInReach_late {start day : Int} (h : NaiveDate.max < day) (n : Nat) :
    calendar.minutesInReach start day n = 0 := by
  induction n generalizing day with
  | zero => rfl
  | succ n ih =>
    have hnone : calendar.minutesOn start day = 0 := if_neg fun hc => absurd hc.1 (not_le.mpr h)
    rw [minutesInReach, hnone, ih (by omega), Int.zero_add]

theorem opens_strictMono {day day' : Int} (h : day < day') : calendar.opens day < calendar.opens day' := by
  unfold opens nanosPerDay
  omega

/-- A local time from a start of work to the end of it, on a workday that ends before midnight. -/
theorem date_of_window {day c : Int} (hend : calendar.workdayEndMin < 1440) (hopens : calendar.opens day ≤ c)
    (hcloses : c ≤ calendar.closes day) : LocalTime.date c = day := by
  have hdiv : c / 86400000000000 = day := by
    unfold opens at hopens
    unfold closes at hcloses
    unfold nanosPerDay nanosPerMinute at *
    omega
  exact (date_eq c).trans hdiv

/-- The next start of work lies ahead. -/
theorem instantOf_opens_later {current day : Int} (hday : calendar.timezone.localDate current = day)
    (h : calendar.timezone.PassesOnce (calendar.opens (day + 1))) :
    current ≤ calendar.timezone.instantOf (calendar.opens (day + 1)) := by
  obtain ⟨c, hc⟩ : ∃ c : Int, calendar.timezone.toLocal current = c := ⟨_, rfl⟩
  have hdate : c / 86400000000000 = day := by
    rw [← date_eq, ← hc]
    exact hday
  refine (h.ge_iff current).mpr ?_
  rw [hc]
  have hle : c ≤ calendar.opens (day + 1) := by
    unfold opens nanosPerDay nanosPerMinute
    omega
  exact hle

/-! ## The turns of the walk -/

theorem advance_eq (day : Int) : calendar.advanceToNextDayStart day =
    if day + 1 ≤ NaiveDate.max then some (calendar.dayStart (day + 1)) else none := by
  unfold advanceToNextDayStart succDay dayStart
  split
  · show (calendar.localAt (day + 1) calendar.workdayStartMin).bind _ = _
    rw [localAt_opens, Option.bind_some]
    simp only
    cases withoutNanoseconds calendar.timezone (calendar.timezone.instantOf (calendar.opens (day + 1))) with
    | none => rfl
    | some whole => rfl
  · rfl

theorem shiftMinutes_nonneg (t : Instant) : 0 ≤ calendar.shiftMinutes t := by
  unfold shiftMinutes
  simp only
  split
  · exact le_max_left _ _
  · exact le_rfl

theorem turnMinutes_nonneg (n : Nat) : ∀ t : Instant, 0 ≤ calendar.turnMinutes t n := by
  induction n with
  | zero => exact fun _ => le_rfl
  | succ n ih => exact fun t => Int.add_nonneg (shiftMinutes_nonneg t) (ih _)

/-- **One turn**: the shift has the minutes that remain, or the next turn takes what it leaves. -/
theorem addFrom_turn (hend : calendar.workdayEndMin < 1440) (n : Nat) (t : Int) {remaining : Int}
    (hpos : 0 < remaining) : calendar.addFrom (n + 1) t remaining =
      if remaining ≤ calendar.shiftMinutes t then some (calendar.shiftStart t + remaining * nanosPerMinute : Int)
      else if calendar.timezone.localDate t + 1 ≤ NaiveDate.max then
        calendar.addFrom n (calendar.nextTurn t) (remaining - calendar.shiftMinutes t)
      else none := by
  unfold shiftMinutes shiftStart nextTurn
  rw [addFrom]
  generalize calendar.timezone.localDate t = day
  have hadvance : ∀ taken : Int, ((calendar.advanceToNextDayStart day).bind fun following =>
      calendar.addFrom n following (remaining - taken)) = if day + 1 ≤ NaiveDate.max then
        calendar.addFrom n (calendar.dayStart (day + 1)) (remaining - taken) else none := by
    intro taken
    rw [advance_eq]
    split <;> rfl
  have hwhole := hadvance 0
  rw [Int.sub_zero] at hwhole
  by_cases hwork : calendar.isWorkingDay day = true
  · simp only [hwork, if_true]
    show (calendar.localAt day calendar.workdayStartMin).bind _ = _
    rw [localAt_opens]
    show (calendar.localAt day calendar.workdayEndMin).bind _ = _
    rw [localAt_closes hend]
    obtain ⟨opening, hopening⟩ : ∃ x : Int, calendar.timezone.instantOf (calendar.opens day) = x := ⟨_, rfl⟩
    obtain ⟨closing, hclosing⟩ : ∃ x : Int, calendar.timezone.instantOf (calendar.closes day) = x := ⟨_, rfl⟩
    rw [hopening, hclosing]
    have hstart : (if t < opening then opening else t) = Max.max t opening := by
      split <;> omega
    show (let y := if t < opening then opening else t
      if closing ≤ y then (calendar.advanceToNextDayStart day).bind fun following =>
        calendar.addFrom n following remaining
      else if remaining ≤ (closing - y) / nanosPerMinute then some (y + remaining * nanosPerMinute)
      else (calendar.advanceToNextDayStart day).bind fun following =>
        calendar.addFrom n following (remaining - (closing - y) / nanosPerMinute)) = _
    rw [hstart]
    simp only [hwhole, hadvance]
    by_cases hover : closing ≤ Max.max t opening
    · have hzero : Max.max 0 ((closing - Max.max t opening) / nanosPerMinute) = 0 := by
        unfold nanosPerMinute
        omega
      rw [if_pos hover, hzero, if_neg (not_le.mpr hpos), Int.sub_zero]
    · have havailable : Max.max 0 ((closing - Max.max t opening) / nanosPerMinute) =
          (closing - Max.max t opening) / nanosPerMinute := by
        unfold nanosPerMinute
        omega
      rw [if_neg hover, havailable]
  · simp only [hwork, Bool.false_eq_true, if_false]
    rw [if_neg (not_le.mpr hpos), Int.sub_zero]
    exact hwhole

variable (calendar) in
/-- Where a walk of `n` turns ends: in the shift that has the last of the minutes, or after the turns. -/
def WalkEnds (n : Nat) (t remaining r : Int) : Prop :=
  (∃ k < n, calendar.Dated t k ∧ calendar.turnMinutes t k < remaining ∧ remaining ≤ calendar.turnMinutes t (k + 1) ∧
      r = calendar.shiftStart (calendar.nextTurn^[k] t) + (remaining - calendar.turnMinutes t k) * nanosPerMinute) ∨
    (calendar.Dated t n ∧ calendar.turnMinutes t n < remaining ∧ r = calendar.nextTurn^[n] t)

/-- The first shift has the minutes. -/
theorem walkEnds_fits {n : Nat} {t remaining r : Int} (hpos : 0 < remaining)
    (hfits : remaining ≤ calendar.shiftMinutes t) :
    calendar.WalkEnds (n + 1) t remaining r ↔ r = calendar.shiftStart t + remaining * nanosPerMinute := by
  -- later turns begin with as many minutes taken
  have hlate : ∀ k, ¬ calendar.turnMinutes t (k + 1) < remaining := by
    intro k hlt
    have hrest : 0 ≤ calendar.turnMinutes (calendar.nextTurn t) k := turnMinutes_nonneg k _
    rw [turnMinutes] at hlt
    omega
  constructor
  · rintro (⟨k, -, -, hless, -, hr⟩ | ⟨-, hless, -⟩)
    · cases k with
      | zero =>
        rw [turnMinutes, Int.sub_zero] at hr
        exact hr
      | succ k => exact absurd hless (hlate k)
    · exact absurd hless (hlate n)
  · intro hr
    refine .inl ⟨0, Nat.succ_pos n, trivial, hpos, ?_, ?_⟩
    · rw [turnMinutes, turnMinutes, Int.add_zero]
      exact hfits
    · rw [turnMinutes, Int.sub_zero]
      exact hr

/-- The first shift has not, and the walk goes on with the next turn. -/
theorem walkEnds_next {n : Nat} {t remaining r : Int} (hfits : ¬ remaining ≤ calendar.shiftMinutes t) :
    calendar.WalkEnds (n + 1) t remaining r ↔ calendar.timezone.localDate t + 1 ≤ NaiveDate.max ∧
      calendar.WalkEnds n (calendar.nextTurn t) (remaining - calendar.shiftMinutes t) r := by
  have hsub : ∀ taken : Int, remaining - calendar.shiftMinutes t - taken =
      remaining - (calendar.shiftMinutes t + taken) := by
    intro taken
    omega
  constructor
  · rintro (⟨k, hk, hdated, hless, hle, hr⟩ | ⟨hdated, hless, hr⟩)
    · cases k with
      | zero =>
        rw [turnMinutes, turnMinutes, Int.add_zero] at hle
        exact absurd hle hfits
      | succ k =>
        rw [turnMinutes] at hless hle hr
        refine ⟨hdated.1, .inl ⟨k, Nat.lt_of_succ_lt_succ hk, hdated.2, by omega, by omega, ?_⟩⟩
        rw [hsub]
        exact hr
    · rw [turnMinutes] at hless
      exact ⟨hdated.1, .inr ⟨hdated.2, by omega, hr⟩⟩
  · rintro ⟨hdate, ⟨k, hk, hdated, hless, hle, hr⟩ | ⟨hdated, hless, hr⟩⟩
    · refine .inl ⟨k + 1, Nat.succ_lt_succ hk, ⟨hdate, hdated⟩, ?_, ?_, ?_⟩
      · rw [turnMinutes]
        omega
      · rw [turnMinutes]
        omega
      · rw [turnMinutes, ← hsub]
        exact hr
    · refine .inr ⟨⟨hdate, hdated⟩, ?_, hr⟩
      rw [turnMinutes]
      omega

/-- **The walk ends in the turn whose shift has the last of the minutes**, or after the turns it may take. -/
theorem addFrom_eq_some_iff (hend : calendar.workdayEndMin < 1440) (n : Nat) :
    ∀ t remaining r : Int, 0 < remaining →
      (calendar.addFrom n t remaining = some r ↔ calendar.WalkEnds n t remaining r) := by
  induction n with
  | zero =>
    intro t remaining r hpos
    constructor
    · intro h
      cases h
      exact .inr ⟨trivial, hpos, rfl⟩
    · rintro (⟨k, hk, -⟩ | ⟨-, -, rfl⟩)
      · exact absurd hk (Nat.not_lt_zero k)
      · rfl
  | succ n ih =>
    intro t remaining r hpos
    rw [addFrom_turn hend n t hpos]
    by_cases hfits : remaining ≤ calendar.shiftMinutes t
    · rw [if_pos hfits, walkEnds_fits hpos hfits, Option.some.injEq]
      exact eq_comm
    · rw [if_neg hfits, walkEnds_next hfits]
      by_cases hdate : calendar.timezone.localDate t + 1 ≤ NaiveDate.max
      · rw [if_pos hdate, ih _ _ r (by omega)]
        exact (and_iff_right hdate).symm
      · rw [if_neg hdate]
        exact iff_of_false nofun fun h => hdate h.1

/-- **So far into a shift the clock is in a workday** exactly if it is between the bounds of its day or another. -/
theorem inWorkday_shift_iff (hend : calendar.workdayEndMin < 1440) {t : Instant} {taken : Int}
    (hwork : calendar.isWorkingDay (calendar.timezone.localDate t) = true) :
    calendar.InWorkday (calendar.shiftStart t + taken : Int) ↔
      calendar.BetweenBounds t taken ∨ calendar.BetweenOthers t taken := by
  unfold BetweenBounds BetweenOthers
  generalize hday : calendar.timezone.localDate t = day at hwork
  obtain ⟨y, hy⟩ : ∃ y : Int, calendar.shiftStart t = y := ⟨_, rfl⟩
  obtain ⟨closing, hclosing⟩ : ∃ x : Int, calendar.timezone.instantOf (calendar.closes day) = x := ⟨_, rfl⟩
  obtain ⟨shown, hshown⟩ : ∃ c : Int, calendar.timezone.toLocal (y + taken : Int) = c := ⟨_, rfl⟩
  rw [hy]
  unfold Tz.misread Tz.gain
  simp only [hclosing, hshown]
  have hnow : ∀ c : Int, c + taken + (shown - c - (y + taken - y)) = shown := by
    intro c
    omega
  have hbounds : ∀ o e c z : Int, (o - c ≤ taken + (shown - c - (y + taken - y)) ∧
      z - e ≤ closing - (y + taken) + (z - shown - (closing - (y + taken)))) ↔ o ≤ shown ∧ shown ≤ e := by
    intro o e c z
    omega
  rw [hnow, hbounds]
  unfold InWorkday Tz.localDate
  rw [hshown]
  constructor
  · rintro ⟨hother, hin⟩
    by_cases hsame : LocalTime.date shown = day
    · rw [hsame] at hin
      exact .inl hin
    · exact .inr ⟨_, hsame, hother, hin⟩
  · rintro (hin | ⟨other, -, hother, hin⟩)
    · rw [date_of_window hend hin.1 hin.2]
      exact ⟨hwork, hin⟩
    · rw [date_of_window hend hin.1 hin.2]
      exact ⟨hother, hin⟩

/-- The last of the shifts. -/
theorem turnMinutes_succ (n : Nat) : ∀ t : Instant, calendar.turnMinutes t (n + 1) =
    calendar.turnMinutes t n + calendar.shiftMinutes (calendar.nextTurn^[n] t) := by
  induction n with
  | zero => exact fun t => Int.add_comm _ _
  | succ n ih =>
    intro t
    rw [turnMinutes, ih, ← Int.add_assoc]
    rfl

theorem isWorkingDay_of_shift {t : Instant} (h : 0 < calendar.shiftMinutes t) :
    calendar.isWorkingDay (calendar.timezone.localDate t) = true := by
  by_contra hrest
  unfold shiftMinutes at h
  simp [hrest] at h

/-! ## The walk -/

/-- The next turn begins with a start of work that the clock passes once. -/
theorem nextTurn_passed {current day : Int} (hday : calendar.timezone.localDate current = day)
    (hdate : day + 1 ≤ NaiveDate.max) (h : calendar.timezone.PassesOnce (calendar.opens (day + 1))) :
    current ≤ calendar.nextTurn current ∧
      calendar.timezone.toLocal (calendar.nextTurn current) = calendar.opens (day + 1) := by
  have hnext : calendar.nextTurn current = calendar.timezone.instantOf (calendar.opens (day + 1)) := by
    have hadvance := advance_passed hdate h
    rw [advance_eq, if_pos hdate] at hadvance
    unfold nextTurn
    rw [hday]
    exact Option.some.inj hadvance
  rw [hnext]
  exact ⟨instantOf_opens_later hday h, h.shows⟩

/-- Within a shift whose bounds the clock passes once the walk goes forward and stays in the workday. -/
theorem shift_passed (hend : calendar.workdayEndMin < 1440) {current day remaining : Int}
    (hday : calendar.timezone.localDate current = day) (hwork : calendar.isWorkingDay day = true)
    (hopens : calendar.timezone.PassesOnce (calendar.opens day))
    (hcloses : calendar.timezone.PassesOnce (calendar.closes day)) (hpos : 0 < remaining)
    (hfits : remaining ≤ calendar.shiftMinutes current) :
    current ≤ calendar.shiftStart current + remaining * nanosPerMinute ∧
      calendar.InWorkday (calendar.shiftStart current + remaining * nanosPerMinute : Int) := by
  obtain ⟨opening, hopening⟩ : ∃ x : Int, calendar.timezone.instantOf (calendar.opens day) = x := ⟨_, rfl⟩
  obtain ⟨closing, hclosing⟩ : ∃ x : Int, calendar.timezone.instantOf (calendar.closes day) = x := ⟨_, rfl⟩
  obtain ⟨y, hy⟩ : ∃ y : Int, calendar.shiftStart current = y := ⟨_, rfl⟩
  have hbegins : y = Max.max current opening := by
    rw [← hy, shiftStart, hday, hopening]
  have hworked : opening ≤ y + remaining * nanosPerMinute ∧ current ≤ y + remaining * nanosPerMinute ∧
      y + remaining * nanosPerMinute ≤ closing := by
    unfold shiftMinutes at hfits
    simp only [hday, hwork, if_true, hclosing, hy] at hfits
    unfold nanosPerMinute at *
    omega
  rw [hy]
  rw [← hopening, ← hclosing] at hworked
  have hlow := (hopens.le_iff _).mp hworked.1
  have hhigh := (hcloses.ge_iff _).mp hworked.2.2
  have hdate : calendar.timezone.localDate (y + remaining * nanosPerMinute) = day := date_of_window hend hlow hhigh
  refine ⟨hworked.2.1, ?_⟩
  unfold InWorkday
  rw [hdate]
  exact ⟨hwork, hlow, hhigh⟩

/-- A shift has the minutes of its day. -/
theorem minutesOn_le_shift {start current day : Int} (hday : calendar.timezone.localDate current = day)
    (hearly : Max.max current (calendar.timezone.instantOf (calendar.opens day)) ≤
      Max.max start (calendar.timezone.instantOf (calendar.opens day))) :
    calendar.minutesOn start day ≤ calendar.shiftMinutes current := by
  unfold minutesOn shiftMinutes shiftStart
  simp only [hday]
  by_cases hwork : calendar.isWorkingDay day = true
  · simp only [hwork, and_true, if_true]
    generalize calendar.timezone.instantOf (calendar.opens day) = opening at hearly
    obtain ⟨closing, hclosing⟩ : ∃ x : Int, calendar.timezone.instantOf (calendar.closes day) = x := ⟨_, rfl⟩
    rw [hclosing]
    unfold nanosPerMinute
    split <;> omega
  · simp [hwork]

/-- **The walk stays in the workdays and goes forward**, as long as the clock passes the workdays it takes
once and they have enough minutes. -/
theorem addFrom_in_workday (hend : calendar.workdayEndMin < 1440) (start : Int) (n : Nat) :
    ∀ (fuel : Nat) (current day remaining : Int), n ≤ fuel → calendar.timezone.localDate current = day →
      calendar.PassesWorkdays day n →
      (∀ j < n, Max.max current (calendar.timezone.instantOf (calendar.opens (day + j))) ≤
        Max.max start (calendar.timezone.instantOf (calendar.opens (day + j)))) →
      0 < remaining → remaining ≤ calendar.minutesInReach start day n →
      ∃ r, calendar.addFrom fuel current remaining = some r ∧ current ≤ r ∧ calendar.InWorkday r := by
  induction n with
  | zero =>
    intro fuel current day remaining _ _ _ _ hpos hreach
    exact absurd (lt_of_lt_of_le hpos hreach) (lt_irrefl 0)
  | succ n ih =>
    intro fuel current day remaining hfuel hday hpasses hearly hpos hreach
    obtain ⟨fuel, rfl⟩ : ∃ k, fuel = k + 1 := ⟨fuel - 1, by omega⟩
    rw [minutesInReach] at hreach
    have hzero : day + ((0 : Nat) : Int) = day := Int.add_zero day
    obtain ⟨hopens, hcloses⟩ := hpasses 0 (Nat.succ_pos n)
    have hnow := hearly 0 (Nat.succ_pos n)
    rw [hzero] at hopens hcloses hnow
    have htaken := minutesOn_le_shift hday hnow
    rw [addFrom_turn hend fuel current hpos, hday]
    by_cases hfits : remaining ≤ calendar.shiftMinutes current
    · rw [if_pos hfits]
      have hwork := isWorkingDay_of_shift (lt_of_lt_of_le hpos hfits)
      rw [hday] at hwork
      exact ⟨_, rfl, shift_passed hend hday hwork (hopens (.inr hwork)) (hcloses hwork) hpos hfits⟩
    · -- what the day leaves is worked on the days after it
      have hlater : 0 < calendar.minutesInReach start (day + 1) n := by omega
      have hn : 0 < n := by
        rcases Nat.eq_zero_or_pos n with rfl | hn
        · exact absurd hlater (lt_irrefl 0)
        · exact hn
      have hdate : day + 1 ≤ NaiveDate.max := by
        by_contra hlate
        rw [minutesInReach_late (not_le.mp hlate)] at hlater
        exact absurd hlater (lt_irrefl 0)
      have hdays : ∀ j : Nat, day + 1 + (j : Int) = day + ((j + 1 : Nat) : Int) := by
        intro j
        omega
      have hpassed : ∀ j < n, calendar.timezone.PassesOnce (calendar.opens (day + 1 + j)) := by
        intro j hj
        rw [hdays]
        exact (hpasses (j + 1) (by omega)).1 (.inl (Nat.succ_pos j))
      have hfirst : calendar.timezone.PassesOnce (calendar.opens (day + 1)) := by
        have hzeroth := hpassed 0 hn
        rwa [Int.natCast_zero, Int.add_zero] at hzeroth
      obtain ⟨hforward, hlocal⟩ := nextTurn_passed hday hdate hfirst
      have hnextDay : calendar.timezone.localDate (calendar.nextTurn current) = day + 1 := by
        unfold Tz.localDate
        rw [hlocal, date_opens]
      have hpassesLater : calendar.PassesWorkdays (day + 1) n := by
        refine fun j hj => ⟨fun _ => hpassed j hj, ?_⟩
        rw [hdays]
        exact (hpasses (j + 1) (by omega)).2
      have hearlyLater : ∀ j < n, Max.max (calendar.nextTurn current)
          (calendar.timezone.instantOf (calendar.opens (day + 1 + j))) ≤
            Max.max start (calendar.timezone.instantOf (calendar.opens (day + 1 + j))) := by
        intro j hj
        refine le_trans (max_le ?_ le_rfl) (le_max_right _ _)
        refine ((hpassed j hj).ge_iff _).mpr ?_
        rw [hlocal]
        rcases Nat.eq_zero_or_pos j with rfl | hj
        · rw [Int.natCast_zero, Int.add_zero]
        · exact le_of_lt (opens_strictMono (by omega))
      obtain ⟨r, hrun, hle, hin⟩ := ih fuel (calendar.nextTurn current) (day + 1)
        (remaining - calendar.shiftMinutes current) (by omega) hnextDay hpassesLater hearlyLater (by omega) (by omega)
      rw [if_neg hfits, if_pos hdate]
      exact ⟨r, hrun, le_trans hforward hle, hin⟩

/-- Where the clock passes the bounds of the workdays once, as far as the walk takes it, the result is not
before the start and lies in a workday. -/
theorem addWorkingDuration_in_window (calendar : WorkingCalendar) (hend : calendar.workdayEndMin < 1440)
    (start : Instant) (m : Int) (hm : 0 < m) (n : Nat) (hn : n ≤ 366)
    (hpasses : calendar.PassesWorkdays (calendar.timezone.localDate start) n)
    (hreach : m ≤ calendar.minutesInReach start (calendar.timezone.localDate start) n) :
    ∃ r, calendar.addWorkingDuration start m = some r ∧ start ≤ r ∧ calendar.InWorkday r := by
  obtain ⟨r, hrun, hle, hin⟩ := addFrom_in_workday hend start n 366 start _ m hn rfl hpasses (fun j _ => le_rfl) hm hreach
  exact ⟨r, (if_neg (not_le.mpr hm)).trans hrun, hle, hin⟩

/-! ## Top theorem -/

end

end WorkingCalendar

/-! ## An end of work that is skipped -/

/-- An hour ahead of UTC until 01:00 UTC on 29.03.2026, a Sunday, and two hours from then on. -/
def springTime : Tz := .change (20541 * nanosPerDay + 60 * nanosPerMinute) 3600000000000 7200000000000 (by decide) (by decide)

/-- Every day from 01:00 to 02:30. -/
def nightCalendar : WorkingCalendar where
  code := "NIGHT"
  timezone := springTime
  workdayMask := 127
  workdayStartMin := 60
  workdayEndMin := 150
  holidays := []
  extraWorkingDays := []
  mask_nonempty := by decide
  start_in_day := by decide
  end_in_day := by decide
  start_before_end := by decide

/-- 29.03.2026 00:30, before work. -/
def beforeTheGap : Instant := 20541 * nanosPerDay - 30 * nanosPerMinute

/-- 29.03.2026 03:10, after work. -/
def afterTheGap : Instant := 20541 * nanosPerDay + 70 * nanosPerMinute

theorem nightCalendar_works : 1 ≤ nightCalendar.workingMinutes afterTheGap
    (nightCalendar.timezone.instantOf ((nightCalendar.timezone.localDate afterTheGap + 366) * nanosPerDay)) :=
  Nat.one_le_iff_ne_zero.mpr (Nat.count_ne_iff_exists.mpr ⟨1310, by decide, by decide⟩)

end TaskBot
