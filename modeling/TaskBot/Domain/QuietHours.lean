import TaskBot.Domain.ClockChanges

/-!
# Quiet hours

A window of minutes of the local day in which nothing is delivered, over midnight when it starts
after its end, none when the two are equal.  What falls into it waits for the end of the window:

    nextDeliverableAt now  =  the instant of endOfWindow now        (nextDeliverableAt_quiet)

What decides whether that is the earliest instant outside of the window is how the clock is set
meanwhile: by how much it is past the end of the window (`pastEnd`), against the length of the day's
free time (`next_deliverable_earliest_iff`).
-/

namespace TaskBot

def minutesInDay : Int := 24 * 60

/-- `local.hour() * 60 + local.minute()`. -/
def LocalTime.minuteOfDay (t : LocalTime) : Int := (t : Int) % nanosPerDay / nanosPerMinute

namespace NotificationPreferences

def inMinuteRange (value : Int) : Bool := 0 ≤ value && value < minutesInDay

end NotificationPreferences

open NotificationPreferences in
structure NotificationPreferences where
  timezone : Tz
  quietStartMin : Int
  quietEndMin : Int
  start_in_range : inMinuteRange quietStartMin = true
  end_in_range : inMinuteRange quietEndMin = true

namespace NotificationPreferences

/-- How a timezone name is read is left open. -/
def new (parseTz : String → Option Tz) (timezoneCode : String) (quietStartMin quietEndMin : Int) :
    AppResult NotificationPreferences :=
  match parseTz timezoneCode with
  | none => .error (.schemaValidation "NOTIFICATION_PREFERENCES_UNKNOWN_TZ" ("unknown timezone '" ++ timezoneCode ++ "'")
      [("timezone", .str timezoneCode)])
  | some timezone =>
      if hrange : inMinuteRange quietStartMin = true ∧ inMinuteRange quietEndMin = true then
        .ok ⟨timezone, quietStartMin, quietEndMin, hrange.1, hrange.2⟩
      else .error (.schemaValidation "NOTIFICATION_PREFERENCES_MINUTE_OUT_OF_RANGE" "quiet hours must lie in [0, 1440)"
        [("quiet_start_min", .int quietStartMin), ("quiet_end_min", .int quietEndMin)])

def insideWindow (minuteOfDay start endMin : Int) : Bool :=
  if start < endMin then start ≤ minuteOfDay && minuteOfDay < endMin
  else start ≤ minuteOfDay || minuteOfDay < endMin

def minutesUntilEndOfWindow (currentMinute start endMin : Int) : Int :=
  if start < endMin then Max.max (endMin - currentMinute) 1
  else if start ≤ currentMinute then minutesInDay - currentMinute + endMin
  else Max.max (endMin - currentMinute) 1

section

variable (preferences : NotificationPreferences)

def quietHoursDisabled : Bool := preferences.quietStartMin == preferences.quietEndMin

def isInQuietHours (now : Instant) : Bool :=
  if preferences.quietHoursDisabled then false
  else
    insideWindow (LocalTime.minuteOfDay (preferences.timezone.toLocal now)) preferences.quietStartMin
      preferences.quietEndMin

/-- `none` is a panic. -/
def nextDeliverableAt (now : Instant) : Option Instant :=
  if !preferences.isInQuietHours now then some now
  else do
    let currentMinute := LocalTime.minuteOfDay (preferences.timezone.toLocal now)
    let minutesToAdvance :=
      minutesUntilEndOfWindow currentMinute preferences.quietStartMin preferences.quietEndMin
    let candidateMinuteOfDay := (currentMinute + minutesToAdvance) % minutesInDay
    let today := preferences.timezone.localDate now
    let dateLocal ← if minutesInDay ≤ currentMinute + minutesToAdvance then WorkingCalendar.succDay today else some today
    let naive ← LocalTime.at dateLocal candidateMinuteOfDay.toNat
    some (preferences.timezone.instantOf naive)

/-! ## The end of the window -/

/-- The day on which the window ends that is open now. -/
def dayOfEnd (now : Instant) : Int :=
  if preferences.quietEndMin ≤ LocalTime.minuteOfDay (preferences.timezone.toLocal now) then
    preferences.timezone.localDate now + 1
  else preferences.timezone.localDate now

/-- The local time at which the window ends that is open now. -/
def endOfWindow (now : Instant) : Int :=
  preferences.dayOfEnd now * nanosPerDay + preferences.quietEndMin * nanosPerMinute

/-! ## How the clock is set meanwhile -/

/-- The part of a day that lies outside of the window. -/
def freeTime : Int :=
  (if preferences.quietStartMin < preferences.quietEndMin then
    minutesInDay - (preferences.quietEndMin - preferences.quietStartMin)
  else preferences.quietStartMin - preferences.quietEndMin) * nanosPerMinute

/-- What the window that is open now has left by the clock. -/
def timeLeft (now : Instant) : Int := preferences.endOfWindow now - preferences.timezone.toLocal now

/-- By how much the clock is past the end of the window: the time since now and what it has been set forward
since, less what the window had left. -/
def pastEnd (now t : Instant) : Int :=
  (t - now : Int) + preferences.timezone.gain now t - preferences.timeLeft now

/-- From now on the clock stays in quiet hours until `t`, and either that is the one instant at which it is at the
end of the window; or it is there never or more than once, `t` is the end of the window in UTC, and the clock has
just been set out of quiet hours. -/
def LeavesOnTime (now : Instant) : Prop :=
  ∃ t : Instant, now ≤ t ∧
    (∀ t' : Instant, now ≤ t' → t' < t → preferences.freeTime ≤ preferences.pastEnd now t' % nanosPerDay) ∧
    ((∀ t' : Instant, preferences.pastEnd now t' = 0 ↔ t' = t) ∨
      ((¬ ∃! t' : Instant, preferences.pastEnd now t' = 0) ∧
        (t - now : Int) = preferences.timeLeft now + (preferences.timezone.toLocal now - now) ∧
        preferences.pastEnd now t % nanosPerDay < preferences.freeTime))

end

section

variable {preferences : NotificationPreferences} {now : Instant}

theorem inMinuteRange_iff (value : Int) : inMinuteRange value = true ↔ 0 ≤ value ∧ value < minutesInDay := by
  unfold inMinuteRange
  rw [Bool.and_eq_true, decide_eq_true_eq, decide_eq_true_eq]

theorem isInQuietHours_iff (t : Instant) : preferences.isInQuietHours t = true ↔
    preferences.quietStartMin ≠ preferences.quietEndMin ∧
      insideWindow (LocalTime.minuteOfDay (preferences.timezone.toLocal t)) preferences.quietStartMin
        preferences.quietEndMin = true := by
  unfold isInQuietHours quietHoursDisabled
  by_cases h : preferences.quietStartMin = preferences.quietEndMin
  · simp [h]
  · simp [h]

theorem insideWindow_iff (minute start endMin : Int) : insideWindow minute start endMin = true ↔
    if start < endMin then start ≤ minute ∧ minute < endMin else start ≤ minute ∨ minute < endMin := by
  unfold insideWindow
  split
  · rw [Bool.and_eq_true, decide_eq_true_eq, decide_eq_true_eq]
  · rw [Bool.or_eq_true, decide_eq_true_eq, decide_eq_true_eq]

/-- The window ends `endMin` minutes into this day or the next. -/
theorem minutesUntil_inside {minute start endMin : Int} (h : insideWindow minute start endMin = true) : minute + minutesUntilEndOfWindow minute start endMin =
      if endMin ≤ minute then minutesInDay + endMin else endMin := by
  rw [insideWindow_iff] at h
  unfold minutesUntilEndOfWindow minutesInDay
  split at h <;> split <;> omega

/-- **In quiet hours the answer is the instant of the end of the window.** -/
theorem nextDeliverableAt_quiet (h : preferences.isInQuietHours now = true) : preferences.nextDeliverableAt now =
    if preferences.dayOfEnd now = preferences.timezone.localDate now ∨ preferences.dayOfEnd now ≤ NaiveDate.max then
      some (preferences.timezone.instantOf (preferences.endOfWindow now))
    else none := by
  have hadvance := minutesUntil_inside ((isInQuietHours_iff now).mp h).2
  obtain ⟨hend, hlast⟩ := (inMinuteRange_iff _).mp preferences.end_in_range
  have hat : ∀ date, LocalTime.at date preferences.quietEndMin.toNat =
      some (date * nanosPerDay + preferences.quietEndMin * nanosPerMinute) := by
    intro date
    unfold LocalTime.at
    unfold minutesInDay at hlast
    rw [if_pos (by omega), Int.toNat_of_nonneg hend]
  unfold nextDeliverableAt endOfWindow dayOfEnd
  rw [h]
  simp only [hadvance, Bool.not_true, Bool.false_eq_true, if_false]
  by_cases hlate : preferences.quietEndMin ≤ LocalTime.minuteOfDay (preferences.timezone.toLocal now)
  · have hcandidate : (minutesInDay + preferences.quietEndMin) % minutesInDay = preferences.quietEndMin := by
      unfold minutesInDay at *
      omega
    have hnext : minutesInDay ≤ minutesInDay + preferences.quietEndMin := by omega
    obtain ⟨today, hd⟩ : ∃ today : Int, preferences.timezone.localDate now = today := ⟨_, rfl⟩
    have hother : today + 1 ≠ today := by omega
    simp only [hlate, if_true, hcandidate, hnext, hat, hd, hother, false_or]
    unfold WorkingCalendar.succDay
    split <;> rfl
  · have hcandidate : preferences.quietEndMin % minutesInDay = preferences.quietEndMin :=
      Int.emod_eq_of_lt hend hlast
    have hsame : ¬ minutesInDay ≤ preferences.quietEndMin := not_le.mpr hlast
    simp only [hlate, if_false, hcandidate, hsame, hat, true_or, if_true]
    rfl

/-- The clock is past the end of the window by what it shows more. -/
theorem pastEnd_eq (now t : Instant) :
    preferences.pastEnd now t = preferences.timezone.toLocal t - preferences.endOfWindow now := by
  have hsum : ∀ s t c c' e : Int, t - s + (c' - c - (t - s)) - (e - c) = c' - e := by
    intro s t c c' e
    omega
  exact hsum _ _ _ _ _

theorem pastEnd_eq_zero_iff (now t : Instant) :
    preferences.pastEnd now t = 0 ↔ preferences.timezone.toLocal t = preferences.endOfWindow now := by
  rw [pastEnd_eq]
  exact Int.sub_eq_zero

/-- **Quiet hours are what lies past the free time of the day.** -/
theorem quiet_iff_pastEnd (hne : preferences.quietStartMin ≠ preferences.quietEndMin) (now t : Instant) :
    preferences.isInQuietHours t = true ↔ preferences.freeTime ≤ preferences.pastEnd now t % nanosPerDay := by
  obtain ⟨hstart, hstart'⟩ := (inMinuteRange_iff _).mp preferences.start_in_range
  obtain ⟨hend, hend'⟩ := (inMinuteRange_iff _).mp preferences.end_in_range
  have hpast : preferences.pastEnd now t = _ := pastEnd_eq now t
  obtain ⟨past, hp⟩ : ∃ x : Int, preferences.pastEnd now t = x := ⟨_, rfl⟩
  obtain ⟨c, hc⟩ : ∃ x : Int, preferences.timezone.toLocal t = x := ⟨_, rfl⟩
  rw [hp, hc, endOfWindow] at hpast
  rw [isInQuietHours_iff, insideWindow_iff, hp, hc, freeTime]
  have hminute : LocalTime.minuteOfDay c = c % 86400000000000 / 60000000000 := rfl
  rw [hminute]
  unfold minutesInDay nanosPerDay nanosPerMinute at *
  generalize preferences.quietStartMin = start at *
  generalize preferences.quietEndMin = finish at *
  generalize preferences.dayOfEnd now = day at *
  split <;> omega

/-- What is earliest when it is quiet until then. -/
theorem isLeast_iff (hne : preferences.quietStartMin ≠ preferences.quietEndMin) (t : Instant) :
    IsLeast {t | now ≤ t ∧ preferences.isInQuietHours t = false} t ↔
      now ≤ t ∧ preferences.pastEnd now t % nanosPerDay < preferences.freeTime ∧
        ∀ t' : Instant, now ≤ t' → t' < t → preferences.freeTime ≤ preferences.pastEnd now t' % nanosPerDay := by
  have hout : ∀ t', preferences.isInQuietHours t' = false ↔
      preferences.pastEnd now t' % nanosPerDay < preferences.freeTime := by
    intro t'
    rw [← not_le, ← quiet_iff_pastEnd hne, Bool.eq_false_iff]
  constructor
  · rintro ⟨⟨hle, hfree⟩, hleast⟩
    refine ⟨hle, (hout t).mp hfree, fun t' hle' hlt => ?_⟩
    by_contra hearly
    exact absurd (hleast ⟨hle', (hout t').mpr (not_le.mp hearly)⟩) (not_le.mpr hlt)
  · rintro ⟨hle, hfree, hquiet⟩
    refine ⟨⟨hle, (hout t).mpr hfree⟩, fun t' ht' => ?_⟩
    by_contra hlt
    exact absurd (hquiet t' ht'.1 (not_le.mp hlt)) (not_le.mpr ((hout t').mp ht'.2))

/-- A day has some free time. -/
theorem freeTime_pos (hne : preferences.quietStartMin ≠ preferences.quietEndMin) : 0 < preferences.freeTime := by
  obtain ⟨hstart, -⟩ := (inMinuteRange_iff _).mp preferences.start_in_range
  obtain ⟨-, hend⟩ := (inMinuteRange_iff _).mp preferences.end_in_range
  unfold freeTime
  unfold minutesInDay nanosPerMinute at *
  split <;> omega

/-- No instant, or two, are at the end of a window that has no instant of its own. -/
theorem not_existsUnique_end (h : ∀ i, preferences.timezone.fromLocal (preferences.endOfWindow now) ≠ .single i) :
    ¬ ∃! t : Instant, preferences.pastEnd now t = 0 := by
  rintro ⟨t, ht, hunique⟩
  simp only [pastEnd_eq_zero_iff] at ht hunique
  have hlaw := preferences.timezone.fromLocal_shows (preferences.endOfWindow now)
  cases hr : preferences.timezone.fromLocal (preferences.endOfWindow now) with
  | single i => exact h i hr
  | ambiguous earliest latest =>
    rw [hr] at hlaw
    obtain ⟨hlt, he, hl⟩ := hlaw
    rw [hunique _ he, hunique _ hl] at hlt
    exact lt_irrefl _ hlt
  | none =>
    rw [hr] at hlaw
    exact hlaw t ht

/-- The end of the window in UTC, reckoned from now. -/
theorem utc_end_iff (now t : Instant) : (t - now : Int) = preferences.timeLeft now +
    (preferences.timezone.toLocal now - now) ↔ t = preferences.endOfWindow now := by
  have hsum : ∀ s t c e : Int, t - s = e - c + (c - s) ↔ t = e := by
    intro s t c e
    omega
  exact hsum _ _ _ _

/-- **The clock leaves the window on time** exactly if the instant that is taken for its end is the first one
outside of quiet hours. -/
theorem leavesOnTime_iff (hne : preferences.quietStartMin ≠ preferences.quietEndMin) (now : Instant) :
    preferences.LeavesOnTime now ↔
      IsLeast {t | now ≤ t ∧ preferences.isInQuietHours t = false}
        (preferences.timezone.instantOf (preferences.endOfWindow now)) := by
  rw [isLeast_iff hne]
  by_cases hsingle : ∃ i, preferences.timezone.fromLocal (preferences.endOfWindow now) = .single i
  · obtain ⟨i, hi⟩ := hsingle
    have honce : ∀ t', preferences.pastEnd now t' = 0 ↔ t' = i := fun t' =>
      (pastEnd_eq_zero_iff now t').trans (Tz.single_iff hi t')
    rw [Tz.instantOf_of_single hi]
    constructor
    · rintro ⟨t, hle, huntil, hthere | ⟨hnot, -⟩⟩
      · obtain rfl : i = t := (hthere i).mp ((honce i).mpr rfl)
        refine ⟨hle, ?_, huntil⟩
        rw [(honce i).mpr rfl]
        exact freeTime_pos hne
      · exact absurd ⟨i, (honce i).mpr rfl, fun t' ht' => (honce t').mp ht'⟩ hnot
    · exact fun ⟨hle, _, huntil⟩ => ⟨i, hle, huntil, .inl honce⟩
  · have hnone : ∀ i, preferences.timezone.fromLocal (preferences.endOfWindow now) ≠ .single i :=
      fun i hi => hsingle ⟨i, hi⟩
    have hnot := not_existsUnique_end hnone
    rw [Tz.instantOf_of_not_single hnone]
    constructor
    · rintro ⟨t, hle, huntil, hthere | ⟨-, ht, hfree⟩⟩
      · exact absurd ⟨t, (hthere t).mpr rfl, fun t' ht' => (hthere t').mp ht'⟩ hnot
      · obtain rfl := (utc_end_iff now t).mp ht
        exact ⟨hle, hfree, huntil⟩
    · rintro ⟨hle, hfree, huntil⟩
      exact ⟨preferences.endOfWindow now, hle, huntil, .inr ⟨hnot, (utc_end_iff now _).mpr rfl, hfree⟩⟩

/-! ## Top theorem -/

/-- The window that is open now ends within a day. -/
theorem timeLeft_bounds (now : Instant) :
    0 < preferences.timeLeft now ∧ preferences.timeLeft now ≤ nanosPerDay := by
  obtain ⟨hend, hend'⟩ := (inMinuteRange_iff _).mp preferences.end_in_range
  obtain ⟨c, hc⟩ : ∃ c : Int, preferences.timezone.toLocal now = c := ⟨_, rfl⟩
  have hminute : LocalTime.minuteOfDay c = c % 86400000000000 / 60000000000 := rfl
  unfold timeLeft endOfWindow dayOfEnd Tz.localDate
  rw [hc, hminute, WorkingCalendar.date_eq]
  unfold minutesInDay nanosPerDay nanosPerMinute at *
  split <;> omega

/-- A fixed clock leaves the window on time. -/
theorem leavesOnTime_of_fixed {offset : Int} (hfixed : preferences.timezone.IsFixed offset)
    (hquiet : preferences.isInQuietHours now = true) : preferences.LeavesOnTime now := by
  have hne := ((isInQuietHours_iff now).mp hquiet).1
  have hfree := freeTime_pos hne
  obtain ⟨hpos, hday⟩ : 0 < preferences.timeLeft now ∧ preferences.timeLeft now ≤ nanosPerDay := timeLeft_bounds now
  obtain ⟨left, hleft⟩ : ∃ x : Int, preferences.timeLeft now = x := ⟨_, rfl⟩
  have hpast : ∀ t : Int, preferences.pastEnd now t = t - now - left := by
    intro t
    unfold pastEnd
    rw [hfixed.gain, hleft, Int.add_zero]
  have hnow := (quiet_iff_pastEnd hne now now).mp hquiet
  rw [hpast, Int.sub_self, Int.zero_sub] at hnow
  rw [hleft] at hpos hday
  have hbefore : ∀ past : Int, -left ≤ past → past < 0 → preferences.freeTime ≤ past % nanosPerDay := by
    unfold nanosPerDay at hday hnow ⊢
    omega
  have hahead : ∀ n t : Int, (n ≤ t ↔ -left ≤ t - n - left) ∧ (t < n + left ↔ t - n - left < 0) ∧
      (t - n - left = 0 ↔ t = n + left) := by
    intro n t
    omega
  refine ⟨(now + left : Int), Int.le_add_of_nonneg_right hpos.le, fun (t : Int) hle hlt => ?_, .inl fun (t : Int) => ?_⟩
  · rw [hpast]
    exact hbefore _ ((hahead now t).1.mp hle) ((hahead now t).2.1.mp hlt)
  · rw [hpast]
    exact (hahead now t).2.2

end

end NotificationPreferences

/-! ## Samples -/

/-- From 22:00 to 08:00 in Moscow. -/
def moscowNights : NotificationPreferences := ⟨moscowTime, 1320, 480, by decide, by decide⟩

/-- From 22:00 to 02:30, a time that the clock skips in spring. -/
def springNights : NotificationPreferences := ⟨springTime, 1320, 150, by decide, by decide⟩

end TaskBot
