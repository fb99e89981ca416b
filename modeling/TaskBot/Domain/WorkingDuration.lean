import TaskBot.Domain.WorkingCalendar
import Mathlib.Data.Nat.Count
import Mathlib.Order.Bounds.Defs

/-!
# Working time

`addWorkingDuration` walks from day to day and takes the working minutes of each, 366 days at most.
On a clock that keeps its distance from UTC one turn takes what is left of the day:

    addFrom (n + 1) current m  =  current + …             when the day has m minutes left
                               =  addFrom n next (m - left)  otherwise      (addFrom_succ)

and so the whole walk ends with the m-th working minute (`addWorkingDuration_exact`).
-/

namespace TaskBot

namespace WorkingCalendar

def nanosPerSecond : Int := 1000000000

/-- `date.succ_opt()`. -/
def succDay (day : NaiveDate) : Option NaiveDate := if day + 1 ≤ NaiveDate.max then some (day + 1) else none

/-- `instant.with_nanosecond(0)`, which asks for the local time again. -/
def withoutNanoseconds (tz : Tz) (t : Instant) : Option Instant :=
  match tz.fromLocal (tz.toLocal t - tz.toLocal t % nanosPerSecond) with
  | .single i => some i
  | .ambiguous _ _ | .none => none

section

variable (calendar : WorkingCalendar)

/-- A minute from 24:00 on is a panic. -/
def localAt (date : NaiveDate) (minuteOfDay : Nat) : Option Instant :=
  (LocalTime.at date minuteOfDay).map calendar.timezone.instantOf

def advanceToNextDayStart (day : NaiveDate) : Option Instant := do
  let nextDay ← succDay day
  let start ← calendar.localAt nextDay calendar.workdayStartMin
  match withoutNanoseconds calendar.timezone start with
  | some whole => some whole
  | none => calendar.localAt nextDay calendar.workdayStartMin

/-- The loop over the days, at most `n` of them. -/
def addFrom : Nat → Instant → Int → Option Instant
  | 0, current, _ => some current
  | n + 1, current, remaining =>
      let day := calendar.timezone.localDate current
      if calendar.isWorkingDay day then do
        let startOfWindow ← calendar.localAt day calendar.workdayStartMin
        let endOfWindow ← calendar.localAt day calendar.workdayEndMin
        let current : Int := if current < startOfWindow then startOfWindow else current
        if endOfWindow ≤ current then do
          let next ← calendar.advanceToNextDayStart day
          addFrom n next remaining
        else
          let minutesAvailable := (endOfWindow - current) / nanosPerMinute
          if remaining ≤ minutesAvailable then some (current + remaining * nanosPerMinute)
          else do
            let next ← calendar.advanceToNextDayStart day
            addFrom n next (remaining - minutesAvailable)
      else do
        let next ← calendar.advanceToNextDayStart day
        addFrom n next remaining

/-- `none` is a panic. -/
def addWorkingDuration (start : Instant) (workingMinutes : Int) : Option Instant :=
  if workingMinutes ≤ 0 then some start else calendar.addFrom 366 start workingMinutes

/-! ## Working minutes -/

/-- The local times at which work starts and ends on a day. -/
def opens (day : Int) : Int := day * nanosPerDay + calendar.workdayStartMin * nanosPerMinute

def closes (day : Int) : Int := day * nanosPerDay + calendar.workdayEndMin * nanosPerMinute

/-- The minute that begins at the instant is one of a working day, from its start to its end. -/
def isWorkingMinute (t : Instant) : Bool :=
  let day := calendar.timezone.localDate t
  day ≤ NaiveDate.max && calendar.isWorkingDay day && calendar.opens day ≤ calendar.timezone.toLocal t &&
    calendar.timezone.toLocal t < calendar.closes day

/-- The working minutes in `[start, finish)`, counted from `start`. -/
def workingMinutes (start finish : Instant) : Nat :=
  Nat.count (fun k => calendar.isWorkingMinute (start + k * nanosPerMinute)) ((finish - start) / nanosPerMinute).toNat

/-- The working minutes that are left of the day at a local time. -/
def minutesLeft (c : Int) : Int :=
  if calendar.isWorkingDay (LocalTime.date c) then
    Max.max 0 ((calendar.closes (LocalTime.date c) - Max.max c (calendar.opens (LocalTime.date c))) / nanosPerMinute)
  else 0

end

/-! ## One day -/

section

variable {calendar : WorkingCalendar} {offset : Int}

theorem date_opens (day : Int) : LocalTime.date (calendar.opens day) = day :=
  LocalTime.at_date (if_pos calendar.start_in_day)

theorem localAt_opens (day : Int) :
    calendar.localAt day calendar.workdayStartMin = some (calendar.timezone.instantOf (calendar.opens day)) :=
  congrArg (Option.map calendar.timezone.instantOf) (if_pos calendar.start_in_day)

theorem localAt_closes (hend : calendar.workdayEndMin < 1440) (day : Int) :
    calendar.localAt day calendar.workdayEndMin = some (calendar.timezone.instantOf (calendar.closes day)) :=
  congrArg (Option.map calendar.timezone.instantOf) (if_pos hend)

/-- A start of work that is passed once is where the next day begins. -/
theorem advance_passed {day : Int} (hdate : day + 1 ≤ NaiveDate.max)
    (h : calendar.timezone.PassesOnce (calendar.opens (day + 1))) :
    calendar.advanceToNextDayStart day = some (calendar.timezone.instantOf (calendar.opens (day + 1))) := by
  have hshows := h.shows
  obtain ⟨i, hi, -⟩ := h
  have hwhole : calendar.opens (day + 1) % nanosPerSecond = 0 := by
    unfold opens nanosPerDay nanosPerMinute nanosPerSecond
    omega
  have hagain : withoutNanoseconds calendar.timezone (calendar.timezone.instantOf (calendar.opens (day + 1))) =
      some (calendar.timezone.instantOf (calendar.opens (day + 1))) := by
    unfold withoutNanoseconds
    rw [hshows, hwhole, Int.sub_zero, hi, Tz.instantOf_of_single hi]
  unfold advanceToNextDayStart succDay
  rw [if_pos hdate]
  show (calendar.localAt (day + 1) calendar.workdayStartMin).bind _ = _
  rw [localAt_opens]
  show (match withoutNanoseconds calendar.timezone (calendar.timezone.instantOf (calendar.opens (day + 1))) with
    | some whole => some whole
    | none => _) = _
  rw [hagain]

theorem advanceToNextDayStart_fixed (hfixed : calendar.timezone.IsFixed offset) (day : Int) :
    calendar.advanceToNextDayStart day =
      if day + 1 ≤ NaiveDate.max then some (calendar.opens (day + 1) - offset) else none := by
  split
  · next h => rw [advance_passed h (hfixed.passesOnce _), hfixed.instantOf]
  · next h =>
    unfold advanceToNextDayStart succDay
    rw [if_neg h]
    rfl

/-! ### One turn -/

theorem date_eq (c : LocalTime) : LocalTime.date c = (c : Int) / 86400000000000 :=
  Int.fdiv_eq_ediv_of_nonneg _ (by decide)

/-- **One turn takes what is left of the day**, or ends in it. -/
theorem addFrom_succ (hfixed : calendar.timezone.IsFixed offset) (hend : calendar.workdayEndMin < 1440) (n : Nat)
    (current : Int) {remaining : Int} (hpos : 0 < remaining) {c : Int}
    (hc : calendar.timezone.toLocal current = c) :
    calendar.addFrom (n + 1) current remaining =
      if remaining ≤ calendar.minutesLeft c then
        some (Max.max c (calendar.opens (LocalTime.date c)) + remaining * nanosPerMinute - offset)
      else (calendar.advanceToNextDayStart (LocalTime.date c)).bind fun following =>
        calendar.addFrom n following (remaining - calendar.minutesLeft c) := by
  have hday : calendar.timezone.localDate current = LocalTime.date c := by rw [← hc]; rfl
  have hcurrent : c = current + offset := hc.symm.trans (hfixed current)
  generalize hd : LocalTime.date c = day
  unfold minutesLeft
  rw [addFrom, hday, hd]
  by_cases hwork : calendar.isWorkingDay day = true
  · rw [if_pos hwork, if_pos hwork]
    show (calendar.localAt day calendar.workdayStartMin).bind _ = _
    rw [localAt_opens, hfixed.instantOf]
    show (calendar.localAt day calendar.workdayEndMin).bind _ = _
    rw [localAt_closes hend, hfixed.instantOf]
    generalize calendar.opens day = s
    generalize calendar.closes day = e
    have hstart : (if current < s - offset then s - offset else current) = Max.max c s - offset := by
      split <;> omega
    show (let y := if current < s - offset then s - offset else current
      if e - offset ≤ y then (calendar.advanceToNextDayStart day).bind fun following =>
        calendar.addFrom n following remaining
      else if remaining ≤ (e - offset - y) / nanosPerMinute then some (y + remaining * nanosPerMinute)
      else (calendar.advanceToNextDayStart day).bind fun following =>
        calendar.addFrom n following (remaining - (e - offset - y) / nanosPerMinute)) = _
    rw [hstart]
    simp only
    have hleft : ∀ y : Int, e - offset - (y - offset) = e - y := by
      intro y
      omega
    by_cases hlate : e ≤ Max.max c s
    · have hzero : Max.max 0 ((e - Max.max c s) / nanosPerMinute) = 0 := by
        unfold nanosPerMinute
        omega
      rw [if_pos (by omega), hzero, Int.sub_zero, if_neg (not_le.mpr hpos)]
    · have havailable : Max.max 0 ((e - Max.max c s) / nanosPerMinute) = (e - Max.max c s) / nanosPerMinute := by
        unfold nanosPerMinute
        omega
      have hsum : Max.max c s - offset + remaining * nanosPerMinute =
          Max.max c s + remaining * nanosPerMinute - offset := by omega
      rw [if_neg (by omega), hleft, havailable, hsum]
  · rw [if_neg hwork, if_neg hwork, Int.sub_zero, if_neg (not_le.mpr hpos)]
    rfl

/-! ## Minute by minute -/

/-- The minute `s` of the local clock is a working minute. -/
def WorksAt (calendar : WorkingCalendar) (s : Int) : Prop :=
  s / 1440 ≤ NaiveDate.max ∧ calendar.isWorkingDay (s / 1440) = true ∧
    calendar.workdayStartMin ≤ s % 1440 ∧ s % 1440 < calendar.workdayEndMin

instance (s : Int) : Decidable (calendar.WorksAt s) := by
  unfold WorksAt
  infer_instance

theorem date_minute (s : Int) : LocalTime.date (s * nanosPerMinute) = s / 1440 := by
  have hminutes : ∀ x : Int, x * 60000000000 / 86400000000000 = x / 1440 := by
    intro x
    omega
  exact (date_eq _).trans (hminutes s)

theorem isWorkingMinute_iff {t : Instant} {s : Int} (h : calendar.timezone.toLocal t = s * nanosPerMinute) :
    calendar.isWorkingMinute t = true ↔ calendar.WorksAt s := by
  unfold isWorkingMinute WorksAt Tz.localDate
  rw [h, date_minute]
  have hopens : calendar.opens (s / 1440) ≤ s * nanosPerMinute ↔ calendar.workdayStartMin ≤ s % 1440 := by
    unfold opens nanosPerDay nanosPerMinute
    omega
  have hcloses : s * nanosPerMinute < calendar.closes (s / 1440) ↔ s % 1440 < calendar.workdayEndMin := by
    unfold closes nanosPerDay nanosPerMinute
    omega
  simp only [Bool.and_eq_true, decide_eq_true_eq, hopens, hcloses, and_assoc]

theorem minutesLeft_minute (s : Int) : calendar.minutesLeft (s * nanosPerMinute) =
    if calendar.isWorkingDay (s / 1440) then
      Max.max 0 (calendar.workdayEndMin - Max.max (s % 1440) calendar.workdayStartMin)
    else 0 := by
  unfold minutesLeft
  rw [date_minute]
  split
  · unfold opens closes nanosPerDay nanosPerMinute
    omega
  · rfl

/-- The working minutes among the first `n` from `s` on. -/
def worked (calendar : WorkingCalendar) (s : Int) (n : Nat) : Nat := Nat.count (fun k => calendar.WorksAt (s + k)) n

theorem worked_add (s : Int) (a b : Nat) : calendar.worked s (a + b) = calendar.worked s a + calendar.worked (s + a) b := by
  unfold worked
  rw [Nat.count_add]
  congr 2
  funext k
  rw [Int.natCast_add, Int.add_assoc]

@[simp] theorem worked_zero (s : Int) : calendar.worked s 0 = 0 := rfl

theorem worked_eq_zero {s : Int} {n : Nat} (h : ∀ k < n, ¬ calendar.WorksAt (s + k)) : calendar.worked s n = 0 :=
  Nat.count_iff_forall_not.mpr h

/-- Where a predicate holds from `a` on, for `l` places. -/
theorem count_window {p : Nat → Prop} [DecidablePred p] {a l n : Nat} (h : ∀ k < n, (p k ↔ a ≤ k ∧ k < a + l))
    (hn : a + l ≤ n) : (∀ j ≤ l, Nat.count p (a + j) = j) ∧ Nat.count p n = l := by
  have hlead : Nat.count p a = 0 := by
    rw [Nat.count_iff_forall_not]
    intro k hk hp
    have := (h k (by omega)).mp hp
    omega
  have hinside : ∀ j ≤ l, Nat.count p (a + j) = j := by
    intro j hj
    rw [Nat.count_add, hlead, Nat.zero_add, Nat.count_iff_forall]
    intro k hk
    exact (h _ (by omega)).mpr (by omega)
  refine ⟨hinside, ?_⟩
  obtain ⟨rest, rfl⟩ := Nat.exists_eq_add_of_le hn
  have hrest : Nat.count (fun k => p (a + l + k)) rest = 0 := by
    rw [Nat.count_iff_forall_not]
    intro k hk hp
    have := (h _ (by omega)).mp hp
    omega
  rw [Nat.count_add, hinside l le_rfl, hrest, Nat.add_zero]

/-- The working minutes of the rest of a day lie together. -/
theorem worksAt_rest {s : Int} (hdate : s / 1440 ≤ NaiveDate.max) (hend : calendar.workdayEndMin < 1440) :
    let a := (Max.max (s % 1440) calendar.workdayStartMin - s % 1440).toNat
    let l := (calendar.minutesLeft (s * nanosPerMinute)).toNat
    (∀ k < (1440 - s % 1440).toNat, (calendar.WorksAt (s + k) ↔ a ≤ k ∧ k < a + l)) ∧
      a + l ≤ (1440 - s % 1440).toNat := by
  intro a l
  have hl : l = (if calendar.isWorkingDay (s / 1440) then
      Max.max 0 (calendar.workdayEndMin - Max.max (s % 1440) (calendar.workdayStartMin : Int)) else 0).toNat :=
    congrArg Int.toNat (minutesLeft_minute s)
  constructor
  · intro k hk
    have hday : (s + k) / 1440 = s / 1440 := by omega
    have hminute : (s + k) % 1440 = s % 1440 + k := by omega
    unfold WorksAt
    rw [hday, hminute, hl]
    split
    · next hwork =>
      simp only [hdate, hwork, true_and]
      omega
    · next hwork =>
      simp only [hwork, Bool.false_eq_true, false_and, and_false, false_iff]
      omega
  · have hstart := calendar.start_in_day
    rw [hl]
    split <;> omega

/-- **The walk ends with the working minute of that number**, when there is one in the days it may take. -/
theorem addFrom_exact (hfixed : calendar.timezone.IsFixed offset) (hend : calendar.workdayEndMin < 1440) (n : Nat) :
    ∀ (s : Int) (current : Int) (remaining : Nat), calendar.timezone.toLocal current = s * nanosPerMinute →
      0 < remaining → remaining ≤ calendar.worked s ((s / 1440 + n) * 1440 - s).toNat →
      ∃ k : Nat, calendar.addFrom n current remaining = some (current + (k + 1) * nanosPerMinute) ∧
        calendar.WorksAt (s + k) ∧ calendar.worked s k + 1 = remaining := by
  induction n with
  | zero =>
    intro s current remaining _ hpos hreach
    have hnone : ((s / 1440 + (0 : Nat)) * 1440 - s).toNat = 0 := by omega
    rw [hnone, worked_zero] at hreach
    omega
  | succ n ih =>
    intro s current remaining hlocal hpos hreach
    have hcurrent : s * nanosPerMinute = current + offset := hlocal.symm.trans (hfixed current)
    -- past the last date nothing is worked
    have hdate : s / 1440 ≤ NaiveDate.max := by
      by_contra hlate
      have hzero : calendar.worked s ((s / 1440 + (n + 1 : Nat)) * 1440 - s).toNat = 0 := by
        refine worked_eq_zero ?_
        rintro k - ⟨hle, -⟩
        omega
      omega
    obtain ⟨hrest, hfits⟩ := @worksAt_rest calendar s hdate hend
    generalize ha : (Max.max (s % 1440) (calendar.workdayStartMin : Int) - s % 1440).toNat = a at hrest hfits
    generalize hl : (calendar.minutesLeft (s * nanosPerMinute)).toNat = l at hrest hfits
    generalize hn₀ : (1440 - s % 1440).toNat = n₀ at hrest hfits
    obtain ⟨hinside, hwhole⟩ := count_window hrest hfits
    have hleft : calendar.minutesLeft (s * nanosPerMinute) = l := by
      rw [← hl, minutesLeft_minute]
      split <;> omega
    rw [addFrom_succ hfixed hend n current (by omega) hlocal, date_minute, hleft]
    by_cases hday : (remaining : Int) ≤ l
    · refine ⟨a + (remaining - 1), ?_, (hrest _ (by omega)).mpr (by omega), ?_⟩
      · have hfirst : Max.max (s * nanosPerMinute) (calendar.opens (s / 1440)) = (s + a) * nanosPerMinute := by
          unfold opens nanosPerDay nanosPerMinute
          omega
        have hsum : (s + a) * nanosPerMinute + remaining * nanosPerMinute - offset =
            current + ((a + (remaining - 1) : Nat) + 1) * nanosPerMinute := by
          unfold nanosPerMinute at hcurrent ⊢
          omega
        rw [if_pos hday, hfirst, hsum]
      · have hcount : calendar.worked s (a + (remaining - 1)) = remaining - 1 := hinside _ (by omega)
        omega
    · -- what is not worked today is worked from the next day on
      have hdays : ((s / 1440 + (n + 1 : Nat)) * 1440 - s).toNat = n₀ + 1440 * n := by omega
      have htoday : calendar.worked s n₀ = l := hwhole
      rw [hdays, worked_add, htoday] at hreach
      have hn : n ≠ 0 := by
        rintro rfl
        rw [Nat.mul_zero, worked_zero] at hreach
        omega
      generalize hs' : s + n₀ + calendar.workdayStartMin = s'
      have hstart := calendar.start_in_day
      have hlead : calendar.worked (s + n₀) calendar.workdayStartMin = 0 := by
        refine worked_eq_zero ?_
        rintro k hk ⟨-, -, hopen, -⟩
        omega
      have hsplit : 1440 * n = calendar.workdayStartMin + ((s' / 1440 + n) * 1440 - s').toNat := by omega
      rw [hsplit, worked_add, hlead, Nat.zero_add, hs'] at hreach
      have hnext : s / 1440 + 1 ≤ NaiveDate.max := by
        by_contra hlate
        have hzero : calendar.worked s' ((s' / 1440 + n) * 1440 - s').toNat = 0 := by
          refine worked_eq_zero ?_
          rintro k - ⟨hle, -⟩
          omega
        omega
      have hopens : calendar.opens (s / 1440 + 1) = s' * nanosPerMinute := by
        unfold opens nanosPerDay nanosPerMinute
        omega
      have hlocal' : calendar.timezone.toLocal (calendar.opens (s / 1440 + 1) - offset) = s' * nanosPerMinute :=
        (hfixed _).trans ((Int.sub_add_cancel _ _).trans hopens)
      obtain ⟨k, hrun, hwork, hcount⟩ := ih s' _ (remaining - l) hlocal' (by omega) (by omega)
      refine ⟨n₀ + (calendar.workdayStartMin + k), ?_, ?_, ?_⟩
      · rw [if_neg hday, advanceToNextDayStart_fixed hfixed, if_pos hnext, Option.bind_some,
          show ((remaining : Int) - l) = (remaining - l : Nat) by omega, hrun, hopens]
        have hsum : s' * nanosPerMinute - offset + (k + 1) * nanosPerMinute =
            current + ((n₀ + (calendar.workdayStartMin + k) : Nat) + 1) * nanosPerMinute := by
          unfold nanosPerMinute at hcurrent ⊢
          omega
        rw [hsum]
      · rw [show s + ((n₀ + (calendar.workdayStartMin + k) : Nat) : Int) = s' + k by omega]
        exact hwork
      · rw [worked_add, worked_add, htoday, hlead, hs']
        omega

theorem workingMinutes_eq (hfixed : calendar.timezone.IsFixed offset) {s start : Int}
    (hlocal : calendar.timezone.toLocal start = s * nanosPerMinute) (finish : Int) :
    calendar.workingMinutes start finish = calendar.worked s ((finish - start) / nanosPerMinute).toNat := by
  have hstart : s * nanosPerMinute = start + offset := hlocal.symm.trans (hfixed start)
  have hsame : ∀ k : Nat, calendar.isWorkingMinute (start + k * nanosPerMinute) = true ↔ calendar.WorksAt (s + k) := by
    intro k
    refine isWorkingMinute_iff ((hfixed _).trans ?_)
    have hsum : start + k * nanosPerMinute + offset = (s + k) * nanosPerMinute := by
      unfold nanosPerMinute at hstart ⊢
      omega
    exact hsum
  unfold workingMinutes worked
  simp only [hsame]

/-! ## Top theorem -/

/-- **Working time is exact**: on a fixed clock the result is the least instant with that many working
minutes before it, when the days the loop may take have so many. -/
theorem addWorkingDuration_exact (calendar : WorkingCalendar) (offset : Int)
    (hfixed : calendar.timezone.IsFixed offset) (hend : calendar.workdayEndMin < 1440) (start : Instant)
    (hwhole : nanosPerMinute ∣ calendar.timezone.toLocal start) (m : Int) (hm : 0 < m)
    (hreach : m ≤ calendar.workingMinutes start
      (calendar.timezone.instantOf ((calendar.timezone.localDate start + 366) * nanosPerDay))) :
    ∃ r, calendar.addWorkingDuration start m = some r ∧
      IsLeast {finish | (calendar.workingMinutes start finish : Int) = m} r := by
  obtain ⟨s, hs⟩ := hwhole
  have hlocal : calendar.timezone.toLocal start = s * nanosPerMinute := hs.trans (Int.mul_comm _ _)
  have hstart : s * nanosPerMinute = start + offset := hlocal.symm.trans (hfixed start)
  obtain ⟨remaining, rfl⟩ := Int.eq_ofNat_of_zero_le hm.le
  have hday : calendar.timezone.localDate start = s / 1440 := by
    unfold Tz.localDate
    rw [hlocal, date_minute]
  have hspan : ((s / 1440 + 366) * nanosPerDay - offset - start) / nanosPerMinute = (s / 1440 + (366 : Nat)) * 1440 - s := by
    unfold nanosPerDay nanosPerMinute at *
    omega
  rw [hday, hfixed.instantOf, workingMinutes_eq hfixed hlocal, hspan] at hreach
  obtain ⟨k, hrun, hwork, hcount⟩ :=
    addFrom_exact hfixed hend 366 s start remaining hlocal (Int.ofNat_lt.mp hm) (Int.ofNat_le.mp hreach)
  have hminutes : ∀ (x : Int) (n : Nat), (x + (n + 1) * nanosPerMinute - x) / nanosPerMinute = n + 1 := by
    intro x n
    unfold nanosPerMinute
    omega
  have hearlier : ∀ x y : Int, y < x + (k + 1) * nanosPerMinute → ((y - x) / nanosPerMinute).toNat ≤ k := by
    intro x y hlt
    unfold nanosPerMinute at *
    omega
  refine ⟨_, (if_neg (not_le.mpr hm)).trans hrun, ?_, ?_⟩
  · show (calendar.workingMinutes start _ : Int) = remaining
    rw [workingMinutes_eq hfixed hlocal, hminutes, show ((k : Int) + 1).toNat = k + 1 from rfl, worked,
      Nat.count_succ_eq_succ_count_iff.mpr hwork]
    exact congrArg Int.ofNat hcount
  · intro finish hfinish
    have hsame : calendar.worked s ((finish - start) / nanosPerMinute).toNat = remaining := by
      rw [← workingMinutes_eq hfixed hlocal]
      exact Int.ofNat.inj hfinish
    by_contra hearly
    have hmono : calendar.worked s ((finish - start) / nanosPerMinute).toNat ≤ calendar.worked s k :=
      Nat.count_monotone _ (hearlier _ _ (not_le.mp hearly))
    omega

end

end WorkingCalendar

/-! ## A sample -/

/-- Three hours ahead of UTC. -/
def moscowTime : Tz := .fixed 10800000000000 (by decide)

/-- Monday to Friday, from 09:00 to 18:00. -/
def standardCalendar : WorkingCalendar where
  code := "RU_STANDARD"
  timezone := moscowTime
  workdayMask := 31
  workdayStartMin := 540
  workdayEndMin := 1080
  holidays := []
  extraWorkingDays := []
  mask_nonempty := by decide
  start_in_day := by decide
  end_in_day := by decide
  start_before_end := by decide

/-- 20.04.2026 12:00 in Moscow, a Monday. -/
def mondayNoon : Instant := 20563 * nanosPerDay + 540 * nanosPerMinute

theorem addWorkingDuration_monday : ∃ r, standardCalendar.addWorkingDuration mondayNoon 2 = some r ∧
    IsLeast {finish | (standardCalendar.workingMinutes mondayNoon finish : Int) = 2} r := by
  refine WorkingCalendar.addWorkingDuration_exact standardCalendar 10800000000000 (Tz.fixed_isFixed _ (by decide)) (by decide) _
    (by decide) 2 (by decide) (Int.ofNat_le.mpr ?_)
  refine le_trans ?_ (Nat.count_monotone _ (show 2 ≤ _ by decide))
  decide

end TaskBot
