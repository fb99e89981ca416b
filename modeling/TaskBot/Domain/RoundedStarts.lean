import TaskBot.Domain.WorkingDuration

/-!
# Starts between two minutes

The seconds of a start are lost when the walk goes on to another day, and stay in the result when
it ends on the first day.

    the walk from t  =  the walk from the next minute    ↔   …      (rounded_start_iff)
-/

namespace TaskBot

namespace WorkingCalendar

section

variable (calendar : WorkingCalendar)

/-- The next whole minute of the local clock. -/
def roundUp (t : Int) : Int := t + -calendar.timezone.toLocal t % nanosPerMinute

/-- The working minutes of a whole day. -/
def dayMinutes (day : Int) : Int :=
  if calendar.isWorkingDay day then calendar.workdayEndMin - calendar.workdayStartMin else 0

/-- The working minutes of `n` days. -/
def daysMinutes (day : Int) : Nat → Int
  | 0 => 0
  | n + 1 => calendar.dayMinutes day + daysMinutes (day + 1) n

/-- Work has begun, and what is left of the day is enough. -/
def EndsToday (t : Instant) (m : Int) : Prop :=
  let c := calendar.timezone.toLocal t
  calendar.opens (LocalTime.date c) < c ∧ m ≤ calendar.minutesLeft c

/-- The 365 days after the day are enough, or go on past the last date. -/
def EndsWithinYear (day : Int) (m : Int) : Prop :=
  m ≤ calendar.daysMinutes (day + 1) 365 ∨ NaiveDate.max ≤ day + 365

end

section

variable {calendar : WorkingCalendar} {offset : Int}

theorem dayMinutes_nonneg (day : Int) : 0 ≤ calendar.dayMinutes day := by
  have hwindow := calendar.start_before_end
  unfold dayMinutes
  split <;> omega

theorem daysMinutes_nonneg (n : Nat) : ∀ day : Int, 0 ≤ calendar.daysMinutes day n := by
  induction n with
  | zero => exact fun _ => le_rfl
  | succ n ih => exact fun day => Int.add_nonneg (dayMinutes_nonneg day) (ih _)

/-! ## From the start of work on -/

theorem minutesLeft_opens (day : Int) : calendar.minutesLeft (calendar.opens day) = calendar.dayMinutes day := by
  have hwindow := calendar.start_before_end
  unfold minutesLeft dayMinutes
  rw [date_opens]
  split
  · unfold opens closes nanosPerDay nanosPerMinute
    omega
  · rfl

theorem addFrom_opens (hfixed : calendar.timezone.IsFixed offset) (hend : calendar.workdayEndMin < 1440) (n : Nat)
    (day : Int) {m : Int} (hm : 0 < m) :
    calendar.addFrom (n + 1) (calendar.opens day - offset) m =
      if m ≤ calendar.dayMinutes day then some (calendar.opens day + m * nanosPerMinute - offset)
      else if day + 1 ≤ NaiveDate.max then
        calendar.addFrom n (calendar.opens (day + 1) - offset) (m - calendar.dayMinutes day)
      else none := by
  have hlocal : calendar.timezone.toLocal (calendar.opens day - offset) = calendar.opens day :=
    (hfixed _).trans (Int.sub_add_cancel _ _)
  rw [addFrom_succ hfixed hend n _ hm hlocal, minutesLeft_opens, date_opens, max_self,
    advanceToNextDayStart_fixed hfixed]
  split
  · rfl
  · split <;> rfl

/-- Days that are enough are all the walk needs. -/
theorem addFrom_enough (hfixed : calendar.timezone.IsFixed offset) (hend : calendar.workdayEndMin < 1440) (n : Nat) :
    ∀ (day m : Int), 0 < m → m ≤ calendar.daysMinutes day n →
      calendar.addFrom (n + 1) (calendar.opens day - offset) m = calendar.addFrom n (calendar.opens day - offset) m := by
  induction n with
  | zero =>
    intro day m hm henough
    exact absurd (lt_of_lt_of_le hm henough) (lt_irrefl 0)
  | succ n ih =>
    intro day m hm henough
    rw [daysMinutes] at henough
    rw [addFrom_opens hfixed hend (n + 1) day hm, addFrom_opens hfixed hend n day hm]
    split
    · rfl
    · split
      · exact ih _ _ (by omega) (by omega)
      · rfl

/-- Days that are not enough are used up, unless the last date comes first. -/
theorem addFrom_used_up (hfixed : calendar.timezone.IsFixed offset) (hend : calendar.workdayEndMin < 1440) (k n : Nat) :
    ∀ (day m : Int), calendar.daysMinutes day (n + 1) < m →
      calendar.addFrom (n + 1 + k) (calendar.opens day - offset) m =
        if day + (n + 1) ≤ NaiveDate.max then
          calendar.addFrom k (calendar.opens (day + (n + 1)) - offset) (m - calendar.daysMinutes day (n + 1))
        else none := by
  induction n with
  | zero =>
    intro day m hm
    have hpos : 0 ≤ calendar.dayMinutes day := dayMinutes_nonneg day
    have hsum : calendar.daysMinutes day 1 = calendar.dayMinutes day := Int.add_zero _
    rw [hsum] at hm
    rw [show 0 + 1 + k = k + 1 by omega, addFrom_opens hfixed hend k day (by omega), if_neg (by omega), hsum]
    simp
  | succ n ih =>
    intro day m hm
    have hpos : 0 ≤ calendar.dayMinutes day := dayMinutes_nonneg day
    have hlater : 0 ≤ calendar.daysMinutes (day + 1) (n + 1) := daysMinutes_nonneg _ _
    rw [daysMinutes] at hm ⊢
    rw [show n + 1 + 1 + k = n + 1 + k + 1 by omega, addFrom_opens hfixed hend (n + 1 + k) day (by omega),
      if_neg (by omega), ih _ _ (by omega), show day + 1 + ((n : Int) + 1) = day + ((n + 1 : Nat) + 1) by omega,
      Int.sub_sub]
    by_cases hlast : day + ((n + 1 : Nat) + 1) ≤ NaiveDate.max
    · rw [if_pos hlast, if_pos (by omega)]
    · rw [if_neg hlast, ite_self]

/-- One more day changes nothing exactly if the days are enough, or the last date comes first. -/
theorem addFrom_more_iff (hfixed : calendar.timezone.IsFixed offset) (hend : calendar.workdayEndMin < 1440) (n : Nat)
    (day : Int) {m : Int} (hm : 0 < m) :
    calendar.addFrom (n + 1) (calendar.opens day - offset) m =
        calendar.addFrom (n + 2) (calendar.opens day - offset) m ↔
      m ≤ calendar.daysMinutes day (n + 1) ∨ NaiveDate.max < day + (n + 1) := by
  by_cases henough : m ≤ calendar.daysMinutes day (n + 1)
  · exact iff_of_true (addFrom_enough hfixed hend (n + 1) day m hm henough).symm (.inl henough)
  · have hshort := not_le.mp henough
    have hnow := addFrom_used_up hfixed hend 0 n day m hshort
    have hmore := addFrom_used_up hfixed hend 1 n day m hshort
    rw [hnow, hmore]
    by_cases hlast : day + (n + 1) ≤ NaiveDate.max
    · rw [if_pos hlast, if_pos hlast]
      refine iff_of_false (fun hsame => ?_) (not_or.mpr ⟨henough, not_lt.mpr hlast⟩)
      -- without the day the walk stops at its start, with it the walk goes on
      have hrest : 0 < m - calendar.daysMinutes day (n + 1) := by omega
      generalize m - calendar.daysMinutes day (n + 1) = rest at hsame hrest
      have hone := addFrom_opens hfixed hend 0 (day + (n + 1)) hrest
      rw [Nat.zero_add] at hone
      rw [hone, addFrom] at hsame
      split at hsame
      · have hlate : ∀ x : Int, x - offset ≠ x + rest * nanosPerMinute - offset := by
          intro x
          unfold nanosPerMinute
          omega
        exact hlate _ (Option.some.inj hsame)
      · split at hsame
        · have hlate : calendar.opens (day + (n + 1)) - offset ≠ calendar.opens (day + (n + 1) + 1) - offset := by
            unfold opens nanosPerDay
            omega
          exact hlate (Option.some.inj hsame)
        · cases hsame
    · rw [if_neg hlast, if_neg hlast]
      exact iff_of_true rfl (.inr (not_le.mp hlast))

/-! ## The first day -/

theorem toLocal_roundUp (hfixed : calendar.timezone.IsFixed offset) {t c : Int} (hc : calendar.timezone.toLocal t = c) :
    calendar.timezone.toLocal (calendar.roundUp t) = c + -c % nanosPerMinute := by
  have hlocal : c = t + offset := hc.symm.trans (hfixed t)
  have hsum : t + -c % nanosPerMinute + offset = c + -c % nanosPerMinute := by omega
  unfold roundUp
  rw [hc]
  exact (hfixed _).trans hsum

/-- Rounding takes nothing of the day. -/
theorem minutesLeft_roundUp {c : Int} (hday : LocalTime.date (c + -c % nanosPerMinute) = LocalTime.date c) :
    calendar.minutesLeft (c + -c % nanosPerMinute) = calendar.minutesLeft c := by
  unfold minutesLeft
  rw [hday]
  split
  · generalize LocalTime.date c = day
    unfold opens closes nanosPerDay nanosPerMinute
    omega
  · rfl

theorem date_midnight (day : Int) : LocalTime.date (day * nanosPerDay) = day := by
  have hdiv : ∀ d : Int, d * 86400000000000 / 86400000000000 = d := by
    intro d
    omega
  exact (date_eq _).trans (hdiv day)

/-- At midnight the whole day is left. -/
theorem addFrom_midnight (hfixed : calendar.timezone.IsFixed offset) (hend : calendar.workdayEndMin < 1440) (n : Nat)
    (day : Int) {m : Int} (hm : 0 < m) :
    calendar.addFrom (n + 1) (day * nanosPerDay - offset) m =
      calendar.addFrom (n + 1) (calendar.opens day - offset) m := by
  have hlocal : calendar.timezone.toLocal (day * nanosPerDay - offset) = day * nanosPerDay :=
    (hfixed _).trans (Int.sub_add_cancel _ _)
  have hopens : Max.max (day * nanosPerDay) (calendar.opens day) = calendar.opens day := by
    unfold opens nanosPerDay nanosPerMinute
    omega
  have hleft : calendar.minutesLeft (day * nanosPerDay) = calendar.dayMinutes day := by
    rw [← minutesLeft_opens]
    unfold minutesLeft
    rw [date_midnight, date_opens, hopens, max_self]
  rw [addFrom_opens hfixed hend n day hm, addFrom_succ hfixed hend n _ hm hlocal, hleft, date_midnight, hopens,
    advanceToNextDayStart_fixed hfixed]
  split
  · rfl
  · split <;> rfl

/-! ## Top theorem -/

/-- **A start is rounded up** exactly if it is on a whole minute, or the walk does not end on its day;
the last minute of a day needs a walk of 365 days, which rounding makes one longer. -/
theorem rounded_start_iff (calendar : WorkingCalendar) (offset : Int) (hfixed : calendar.timezone.IsFixed offset)
    (hend : calendar.workdayEndMin < 1440) (t : Instant)
    (hdate : calendar.timezone.localDate (calendar.roundUp t) ≤ NaiveDate.max) (m : Int) (hm : 0 < m) :
    calendar.addWorkingDuration t m = calendar.addWorkingDuration (calendar.roundUp t) m ↔
      nanosPerMinute ∣ calendar.timezone.toLocal t ∨
        (¬ calendar.EndsToday t m ∧
          (calendar.timezone.localDate (calendar.roundUp t) ≠ calendar.timezone.localDate t →
            calendar.EndsWithinYear (calendar.timezone.localDate t) m)) := by
  obtain ⟨c, hc⟩ : ∃ c : Int, calendar.timezone.toLocal t = c := ⟨_, rfl⟩
  have hround := toLocal_roundUp hfixed hc
  unfold addWorkingDuration EndsToday EndsWithinYear
  unfold Tz.localDate at hdate ⊢
  rw [if_neg (not_le.mpr hm), if_neg (not_le.mpr hm), hround, hc]
  rw [hround] at hdate
  by_cases hwhole : nanosPerMinute ∣ c
  · have hzero : -c % nanosPerMinute = 0 := Int.emod_eq_zero_of_dvd (Int.dvd_neg.mpr hwhole)
    have hsame : calendar.roundUp t = t := by
      unfold roundUp
      rw [hc, hzero, Int.add_zero]
    rw [hsame]
    exact iff_of_true rfl (.inl hwhole)
  · have hpart : c % nanosPerMinute ≠ 0 := fun h => hwhole (Int.dvd_of_emod_eq_zero h)
    rw [addFrom_succ hfixed hend 365 t hm hc]
    by_cases hday : LocalTime.date (c + -c % nanosPerMinute) = LocalTime.date c
    · rw [addFrom_succ hfixed hend 365 (calendar.roundUp t) hm hround, minutesLeft_roundUp hday, hday]
      by_cases hleft : m ≤ calendar.minutesLeft c
      · rw [if_pos hleft, if_pos hleft]
        have hresult : ∀ day r : Int, Max.max c (calendar.opens day) + r - offset =
            Max.max (c + -c % nanosPerMinute) (calendar.opens day) + r - offset ↔ ¬ calendar.opens day < c := by
          intro day r
          unfold opens nanosPerDay nanosPerMinute at *
          omega
        rw [Option.some.injEq, hresult]
        simp [hwhole, hleft]
      · rw [if_neg hleft, if_neg hleft]
        exact iff_of_true rfl (.inr ⟨fun h => hleft h.2, fun h => absurd rfl h⟩)
    · -- the next minute is the first of the next day
      obtain ⟨day, hd⟩ : ∃ day : Int, LocalTime.date c = day := ⟨_, rfl⟩
      have hdays : c + -c % nanosPerMinute = (day + 1) * nanosPerDay := by
        rw [date_eq, date_eq] at hday
        have hdiv : c / 86400000000000 = day := (date_eq c).symm.trans hd
        have hother : (c + -c % nanosPerMinute) / 86400000000000 ≠ c / 86400000000000 := hday
        unfold nanosPerDay nanosPerMinute at *
        omega
      have hnone : calendar.minutesLeft c = 0 := by
        unfold minutesLeft
        rw [hd]
        split
        · unfold opens closes nanosPerDay nanosPerMinute at *
          omega
        · rfl
      have hrounded : calendar.roundUp t = (day + 1) * nanosPerDay - offset := by
        rw [← hdays]
        have hsum : ∀ x y : Int, x + offset = y → x = y - offset := by
          intro x y h
          omega
        exact hsum _ _ ((hfixed _).symm.trans hround)
      rw [hnone, hd, if_neg (not_le.mpr hm), advanceToNextDayStart_fixed hfixed, hrounded,
        addFrom_midnight hfixed hend 365 (day + 1) hm, Int.sub_zero]
      rw [hdays, date_midnight] at hdate
      rw [if_pos hdate, Option.bind_some, addFrom_more_iff hfixed hend 364 (day + 1) hm, hdays, date_midnight]
      have hlater : NaiveDate.max < day + 1 + ((364 : Nat) + 1) ↔ NaiveDate.max ≤ day + 365 := by omega
      have hother : day + 1 ≠ day := by omega
      have hnot : ¬ (calendar.opens (LocalTime.date c) < c ∧ m ≤ calendar.minutesLeft c) := by
        rintro ⟨-, hleft⟩
        omega
      constructor
      · intro h
        exact .inr ⟨hnot, fun _ => h.imp_right hlater.mp⟩
      · rintro (h | ⟨-, h⟩)
        · exact absurd h hwhole
        · exact (h hother).imp_right hlater.mpr

end

end WorkingCalendar

/-- A walk that ends on its first day keeps the seconds of its start. -/
theorem seconds_kept : ¬ ∀ (calendar : WorkingCalendar) (offset : Int), calendar.timezone.IsFixed offset →
    calendar.workdayEndMin < 1440 → ∀ (t : Instant) (m : Int), 0 < m →
      calendar.addWorkingDuration t m = calendar.addWorkingDuration (calendar.roundUp t) m := by
  intro h
  have hsame := h standardCalendar 10800000000000 (Tz.fixed_isFixed _ (by decide)) (by decide)
    (mondayNoon + 30000000000) 1 (by decide)
  revert hsame
  decide

/-- The seconds of a start before work are lost. -/
theorem seconds_lost_before_work :
    let t := mondayNoon - 240 * nanosPerMinute + 30000000000
    standardCalendar.addWorkingDuration t 1 =
      standardCalendar.addWorkingDuration (standardCalendar.roundUp t) 1 :=
  (WorkingCalendar.rounded_start_iff standardCalendar 10800000000000 (Tz.fixed_isFixed _ (by decide)) (by decide) _
    (by decide) 1 (by decide)).mpr (.inr ⟨fun h => absurd h.1 (by decide), fun h => absurd (by decide) h⟩)

end TaskBot
