import TaskBot.Domain.ResolvedDeadlines

/-!
# Days that end at 24:00

`WorkingCalendar::new` accepts a workday that ends at minute 1440, and no time of day can be made of
it.  Whatever needs the end of such a day is a panic, and nothing else is
(`calendar_returns_iff`).
-/

namespace TaskBot

open MayPanic

namespace Tz

variable (tz : Tz)

theorem near_self (t : Int) : t - nanosPerDay < t ∧ t < t + nanosPerDay := by
  unfold nanosPerDay
  omega

/-- What stands for a local time shows one less than a day away. -/
theorem toLocal_instantOf_near (t : Int) :
    t - nanosPerDay < tz.toLocal (tz.instantOf t) ∧ tz.toLocal (tz.instantOf t) < t + nanosPerDay := by
  by_cases hsingle : ∃ i, tz.fromLocal t = .single i
  · obtain ⟨i, hi⟩ := hsingle
    rw [toLocal_instantOf hi]
    exact near_self t
  · rw [instantOf_of_not_single fun i hi => hsingle ⟨i, hi⟩]
    exact tz.near_utc t

/-- And lies less than a day away in UTC. -/
theorem instantOf_near (t : Int) : t - nanosPerDay < tz.instantOf t ∧ tz.instantOf t < t + nanosPerDay := by
  by_cases hsingle : ∃ i, tz.fromLocal t = .single i
  · obtain ⟨i, hi⟩ := hsingle
    have hnear := tz.near_utc i
    have hbounds : ∀ i : Int, i - nanosPerDay < t ∧ t < i + nanosPerDay → t - nanosPerDay < i ∧ i < t + nanosPerDay := by
      intro i h
      omega
    rw [(single_iff hi i).mpr rfl] at hnear
    rw [instantOf_of_single hi]
    exact hbounds i hnear
  · rw [instantOf_of_not_single fun i hi => hsingle ⟨i, hi⟩]
    exact near_self t

end Tz

namespace WorkingCalendar

/-- One of the days that a walk of `n` turns goes to is a working day. -/
def MeetsWorkday (calendar : WorkingCalendar) : Nat → Instant → Prop
  | 0, _ => False
  | n + 1, current =>
      calendar.isWorkingDay (calendar.timezone.localDate current) = true ∨
        ∃ following, calendar.advanceToNextDayStart (calendar.timezone.localDate current) = some following ∧
          MeetsWorkday calendar n following

variable {calendar : WorkingCalendar}

theorem withoutNanoseconds_le {tz : Tz} {t i : Instant} (h : withoutNanoseconds tz t = some i) :
    (tz.toLocal i : Int) ≤ tz.toLocal t := by
  unfold withoutNanoseconds at h
  split at h
  · next hsingle =>
    cases h
    rw [(Tz.single_iff hsingle i).mpr rfl]
    have hle : ∀ c : Int, c - c % nanosPerSecond ≤ c := by
      intro c
      unfold nanosPerSecond
      omega
    exact hle _
  · cases h
  · cases h

/-- A turn takes the walk two days further at most. -/
theorem advance_near {day : Int} (h : day + 1 ≤ NaiveDate.max) :
    ∃ following day' : Int, calendar.advanceToNextDayStart day = some following ∧
      calendar.timezone.localDate following = day' ∧ day' ≤ day + 2 := by
  have hstart := calendar.start_in_day
  refine ⟨_, _, (advance_eq day).trans (if_pos h), rfl, ?_⟩
  have hnear := (Tz.toLocal_instantOf_near calendar.timezone (calendar.opens (day + 1))).2
  have hdate : ∀ c : Int, c < calendar.opens (day + 1) + nanosPerDay → LocalTime.date c ≤ day + 2 := by
    intro c hc
    have hdiv : c / 86400000000000 ≤ day + 2 := by
      unfold opens nanosPerDay nanosPerMinute at hc
      omega
    exact (date_eq c).trans_le hdiv
  simp only [dayStart]
  cases hwhole : withoutNanoseconds calendar.timezone (calendar.timezone.instantOf (calendar.opens (day + 1))) with
  | none => exact hdate _ hnear
  | some whole => exact hdate _ (lt_of_le_of_lt (withoutNanoseconds_le hwhole) hnear)

/-! ## The walk -/

/-- A workday that ends before midnight is no reason to panic. -/
theorem addFrom_returns (hend : calendar.workdayEndMin < 1440) (n : Nat) :
    ∀ current remaining day : Int, calendar.timezone.localDate current = day → day + 2 * n ≤ NaiveDate.max →
      ∃ r, calendar.addFrom n current remaining = some r := by
  induction n with
  | zero => exact fun current _ _ _ _ => ⟨current, rfl⟩
  | succ n ih =>
    intro current remaining day hday hdate
    obtain ⟨following, day', hadvance, hday', hnear⟩ := @advance_near calendar day (by omega)
    have hrest : ∀ remaining, ∃ r, ((calendar.advanceToNextDayStart day).bind fun following =>
        calendar.addFrom n following remaining) = some r := by
      intro remaining
      rw [hadvance, Option.bind_some]
      exact ih following remaining day' hday' (by omega)
    rw [addFrom, hday]
    by_cases hwork : calendar.isWorkingDay day = true
    · rw [if_pos hwork]
      show ∃ r, (calendar.localAt day calendar.workdayStartMin).bind _ = some r
      rw [localAt_opens]
      show ∃ r, (calendar.localAt day calendar.workdayEndMin).bind _ = some r
      rw [localAt_closes hend]
      simp only [Option.bind_some]
      generalize (if current < calendar.timezone.instantOf (calendar.opens day) then
        calendar.timezone.instantOf (calendar.opens day) else current) = y
      split
      · exact hrest remaining
      · split
        · exact ⟨_, rfl⟩
        · exact hrest _
    · rw [if_neg hwork]
      exact hrest remaining

/-- A workday that ends at midnight is. -/
theorem addFrom_midnight_returns_iff (hend : ¬ calendar.workdayEndMin < 1440) (n : Nat) :
    ∀ current remaining day : Int, calendar.timezone.localDate current = day → day + 2 * n ≤ NaiveDate.max →
      ((∃ r, calendar.addFrom n current remaining = some r) ↔ ¬ calendar.MeetsWorkday n current) := by
  induction n with
  | zero => exact fun current _ _ _ _ => iff_of_true ⟨current, rfl⟩ id
  | succ n ih =>
    intro current remaining day hday hdate
    obtain ⟨following, day', hadvance, hday', hnear⟩ := @advance_near calendar day (by omega)
    rw [addFrom, MeetsWorkday, hday]
    by_cases hwork : calendar.isWorkingDay day = true
    · -- there is no time of day for the end of work
      have hnone : calendar.localAt day calendar.workdayEndMin = none :=
        congrArg (Option.map calendar.timezone.instantOf) (if_neg hend)
      rw [if_pos hwork]
      refine iff_of_false ?_ fun h => h (.inl hwork)
      rintro ⟨r, hr⟩
      have hr : (calendar.localAt day calendar.workdayStartMin).bind _ = some r := hr
      rw [localAt_opens] at hr
      have hr : (calendar.localAt day calendar.workdayEndMin).bind _ = some r := hr
      rw [hnone] at hr
      cases hr
    · rw [if_neg hwork, hadvance]
      refine (ih following remaining day' hday' (by omega)).trans (not_congr ?_)
      constructor
      · exact fun h => .inr ⟨following, rfl, h⟩
      · rintro (h | ⟨_, hsame, h⟩)
        · exact absurd h hwork
        · cases hsame
          exact h

end WorkingCalendar

namespace DeadlineResolver

/-! ## Hints -/

inductive Hint where
  | timestamp (t : Instant)
  | date (date : NaiveDate)

/-- What the hint of the generator says, if it can be read. -/
def readHint (formats : DateFormats) (input : DeadlineInput) : Option Hint :=
  input.aiIsoHint.bind fun hint =>
    if (trim hint).isEmpty then none
    else
      match formats.parseRfc3339 (trim hint) with
      | some t => some (.timestamp t)
      | none => (formats.parseIsoDate (trim hint)).map .date

/-- The date and those around it that a calendar may look at. -/
def InRange (date : Int) : Prop := NaiveDate.min + 1 ≤ date ∧ date + 368 ≤ NaiveDate.max

/-- No date of the input is out of range. -/
structure DatesInRange (tables : UnicodeTables) (formats : DateFormats) (input : DeadlineInput) : Prop where
  text : Returns (Parsing.extractDeadlineFromText tables input.text (input.userTimezone.localDate input.nowUtc))
  textDate : ∀ date raw,
    (Parsing.extractDeadlineFromText tables input.text (input.userTimezone.localDate input.nowUtc)).run =
      some (.ok (some date, raw)) → InRange date
  hintDate : ∀ date, readHint formats input = some (.date date) → InRange date
  hintTimestamp : ∀ t, readHint formats input = some (.timestamp t) → InRange t.utcDate

/-- A calendar makes a free day to a working day after it. -/
def Rolls (calendar : WorkingCalendar) (t : Instant) : Prop :=
  calendar.isWorkingDay (calendar.timezone.localDate t) = false ∧
    ∃ k : Int, 1 ≤ k ∧ k ≤ 366 ∧ calendar.isWorkingDay (calendar.timezone.localDate t + k) = true

/-- The answer needs the end of a workday. -/
def NeedsDayEnd (tables : UnicodeTables) (formats : DateFormats) (input : DeadlineInput) (calendar : WorkingCalendar) :
    Prop :=
  let textDate := ∃ date raw,
    (Parsing.extractDeadlineFromText tables input.text (input.userTimezone.localDate input.nowUtc)).run =
      some (.ok (some date, raw))
  match readHint formats input with
  | some (.date _) => True
  | some (.timestamp t) => if t < input.nowUtc then textDate else Rolls calendar t
  | none => textDate

section

variable {calendar : WorkingCalendar} {tables : UnicodeTables} {formats : DateFormats} {input : DeadlineInput}

theorem endOfBusiness_returns_iff (date : Int) (timezone : Tz) (calendar? : Option WorkingCalendar) :
    Returns (endOfBusinessUtc date timezone calendar?) ↔
      ∀ calendar, calendar? = some calendar → calendar.workdayEndMin < 1440 := by
  cases calendar? with
  | none => exact iff_of_true ⟨_, rfl⟩ nofun
  | some calendar =>
    unfold endOfBusinessUtc LocalTime.at
    by_cases hend : calendar.workdayEndMin < 1440
    · rw [Option.map_some, Option.getD_some, if_pos hend]
      refine iff_of_true ⟨_, rfl⟩ ?_
      rintro _ ⟨⟩
      exact hend
    · rw [Option.map_some, Option.getD_some, if_neg hend]
      exact iff_of_false (fun h => nomatch h.choose_spec) fun h => hend (h calendar rfl)

theorem nextWorkingDay_returns {day : Int} (n : Nat) (offset : Int) (hmin : NaiveDate.min ≤ day + offset)
    (hmax : day + offset + n ≤ NaiveDate.max + 1) : ∃ found, (nextWorkingDay calendar day n offset).run = some (.ok found) := by
  induction n generalizing offset with
  | zero => exact ⟨none, rfl⟩
  | succ n ih =>
    rw [nextWorkingDay, ExceptT.run_bind, addDays_run, if_pos (by omega)]
    show ∃ found, (if calendar.isWorkingDay (day + offset) = true then pure (some (day + offset))
      else nextWorkingDay calendar day n (offset + 1)).run = some (.ok found)
    split
    · exact ⟨_, rfl⟩
    · exact ih (offset + 1) (by omega) (by omega)

theorem applyCalendar_returns_iff {t : Instant}
    (hday : ∀ calendar, input.calendar = some calendar → ∀ day : Int, calendar.timezone.localDate t = day →
      NaiveDate.min ≤ day + 1 ∧ day + 366 ≤ NaiveDate.max) :
    Returns (applyCalendar t input) ↔
      ∀ calendar, input.calendar = some calendar → calendar.workdayEndMin < 1440 ∨ ¬ Rolls calendar t := by
  unfold applyCalendar
  cases hcalendar : input.calendar with
  | none => exact iff_of_true ⟨_, rfl⟩ nofun
  | some calendar =>
    obtain ⟨day, hd⟩ : ∃ day : Int, calendar.timezone.localDate t = day := ⟨_, rfl⟩
    obtain ⟨hmin, hmax⟩ := hday calendar hcalendar day hd
    have hone : (∀ calendar', some calendar = some calendar' → calendar'.workdayEndMin < 1440 ∨ ¬ Rolls calendar' t) ↔
        calendar.workdayEndMin < 1440 ∨ ¬ Rolls calendar t :=
      ⟨fun h => h calendar rfl, by rintro h _ ⟨⟩; exact h⟩
    rw [hone]
    unfold Rolls
    simp only [hd]
    by_cases hwork : calendar.isWorkingDay day = true
    · rw [if_pos hwork]
      refine iff_of_true ⟨_, rfl⟩ (.inr fun hrolls => ?_)
      rw [hwork] at hrolls
      cases hrolls.1
    · rw [if_neg hwork]
      obtain ⟨found, hfound⟩ := @nextWorkingDay_returns calendar day 366 1 hmin (by omega)
      have hspec := nextWorkingDay_ok hfound
      have hreturns : Returns (nextWorkingDay calendar day 366 1) := ⟨_, hfound⟩
      refine returns_bind_iff.trans ?_
      rw [and_iff_right hreturns, hfound]
      simp only [Option.some.injEq, Except.ok.injEq, forall_eq']
      cases found with
      | none =>
        refine iff_of_true ⟨_, rfl⟩ (.inr ?_)
        rintro ⟨-, k, hle, hlt, hk⟩
        have hnone := hspec k hle (by omega)
        rw [hk] at hnone
        cases hnone
      | some date =>
        obtain ⟨hdate, k, hle, hlt, rfl⟩ := hspec
        have hrolls : calendar.isWorkingDay day = false ∧
            ∃ k : Int, 1 ≤ k ∧ k ≤ 366 ∧ calendar.isWorkingDay (day + k) = true :=
          ⟨Bool.eq_false_iff.mpr hwork, k, hle, by omega, hdate⟩
        refine (endOfBusiness_returns_iff _ _ _).trans ?_
        rw [or_iff_left (not_not_intro hrolls)]
        exact ⟨fun h => h calendar rfl, by rintro h _ ⟨⟩; exact h⟩

/-! ## The resolver -/

/-- An instant ahead is moved to a working day. -/
def finishHint (input : DeadlineInput) (raw : String) (t : Instant) : MayPanic (Option Deadline) :=
  if t < input.nowUtc then pure none
  else applyCalendar t input >>= fun clamped =>
    pure (some ⟨some clamped, some (input.userTimezone.localDate clamped), some raw, .aiStructured, 100⟩)

theorem tryHint_eq : tryHint formats input =
    match readHint formats input with
    | some (.timestamp t) => finishHint input (trim (input.aiIsoHint.getD "")) t
    | some (.date date) => endOfBusinessUtc date input.userTimezone input.calendar >>=
        finishHint input (trim (input.aiIsoHint.getD ""))
    | none => pure none := by
  unfold tryHint readHint
  cases input.aiIsoHint with
  | none => rfl
  | some hint =>
    simp only [Option.bind_some, Option.getD_some]
    unfold tryAiIso hintInstant
    by_cases hempty : (trim hint).isEmpty = true
    · rw [if_pos hempty, if_pos hempty]
      rfl
    · rw [if_neg hempty, if_neg hempty]
      cases formats.parseRfc3339 (trim hint) with
      | some t => rfl
      | none =>
        cases formats.parseIsoDate (trim hint) with
        | none => rfl
        | some date =>
          simp only [bind_assoc, pure_bind, Option.map_some]
          rfl

/-- The end of business of a date is at most two days from it on any clock. -/
theorem endOfBusiness_day {date : Int} {timezone timezone' : Tz} {calendar? : Option WorkingCalendar} {t : Instant}
    (h : (endOfBusinessUtc date timezone calendar?).run = some (.ok t)) {day : Int} (hday : timezone'.localDate t = day) :
    date - 2 ≤ day ∧ day ≤ date + 2 := by
  unfold endOfBusinessUtc LocalTime.at at h
  split at h
  · next naive hnaive =>
    cases h
    split at hnaive
    · next hminute =>
      generalize (calendar?.map WorkingCalendar.workdayEndMin).getD defaultEndOfBusinessMin = minute at hminute hnaive
      obtain ⟨n, hn⟩ : ∃ n : Int, date * nanosPerDay + minute * nanosPerMinute = n := ⟨_, rfl⟩
      rw [hn] at hnaive
      obtain rfl : n = naive := Option.some.inj hnaive
      obtain ⟨i, hi⟩ : ∃ i : Int, timezone.instantOf n = i := ⟨_, rfl⟩
      obtain ⟨c, hc⟩ : ∃ c : Int, timezone'.toLocal i = c := ⟨_, rfl⟩
      have hutc : n - nanosPerDay < i ∧ i < n + nanosPerDay := hi ▸ timezone.instantOf_near n
      have hlocal : i - nanosPerDay < c ∧ c < i + nanosPerDay := hc ▸ timezone'.near_utc i
      have hdate : day = c / 86400000000000 := by
        rw [← hday, Tz.localDate, hi, hc, WorkingCalendar.date_eq]
      unfold nanosPerDay nanosPerMinute at *
      omega
    · cases hnaive
  · cases h

/-- A day near a date in range, and the days after it that the calendar looks at. -/
theorem near_inRange {date day : Int} (h : InRange date) (hnear : date - 2 ≤ day ∧ day ≤ date + 2) :
    NaiveDate.min ≤ day + 1 ∧ day + 366 ≤ NaiveDate.max := by
  unfold InRange at h
  omega

theorem applyCalendar_business_returns {date : Int} {t : Instant} (hdate : InRange date)
    (h : (endOfBusinessUtc date input.userTimezone input.calendar).run = some (.ok t))
    (hends : ∀ calendar, input.calendar = some calendar → calendar.workdayEndMin < 1440) : Returns (applyCalendar t input) := by
  refine (applyCalendar_returns_iff fun calendar _ day hday => ?_).mpr fun calendar hcalendar => .inl (hends calendar hcalendar)
  exact near_inRange hdate (endOfBusiness_day h hday)

theorem applyCalendar_timestamp_returns_iff {t : Instant} (ht : InRange t.utcDate) :
    Returns (applyCalendar t input) ↔
      ∀ calendar, input.calendar = some calendar → calendar.workdayEndMin < 1440 ∨ ¬ Rolls calendar t := by
  refine applyCalendar_returns_iff fun calendar _ day hday => ?_
  obtain ⟨i, hi⟩ : ∃ i : Int, t = i := ⟨_, rfl⟩
  obtain ⟨c, hc⟩ : ∃ c : Int, calendar.timezone.toLocal i = c := ⟨_, rfl⟩
  have hlocal : i - nanosPerDay < c ∧ c < i + nanosPerDay := hc ▸ calendar.timezone.near_utc i
  have hutc : t.utcDate = i / 86400000000000 := by
    rw [hi]
    exact Int.fdiv_eq_ediv_of_nonneg _ (by decide)
  have hdate : day = c / 86400000000000 := by
    rw [← hday, Tz.localDate, hi, hc, WorkingCalendar.date_eq]
  rw [hutc] at ht
  refine near_inRange ht ?_
  unfold nanosPerDay at hlocal
  omega

theorem tryDeterministic_returns (hrange : DatesInRange tables formats input)
    (hends : ∀ calendar, input.calendar = some calendar → calendar.workdayEndMin < 1440) :
    Returns (tryDeterministic tables input) := by
  refine returns_bind_iff.mpr ⟨hrange.text, ?_⟩
  rintro ⟨date, raw⟩ hextracted
  cases date with
  | none => exact returns_pure _
  | some date =>
    refine returns_bind_iff.mpr ⟨(endOfBusiness_returns_iff _ _ _).mpr hends, fun t ht => ?_⟩
    refine returns_bind_iff.mpr ⟨?_, fun _ _ => returns_pure _⟩
    exact applyCalendar_business_returns (hrange.textDate date raw hextracted) ht hends

theorem finishHint_returns_iff (raw : String) (t : Instant) :
    Returns (finishHint input raw t) ↔ t < input.nowUtc ∨ Returns (applyCalendar t input) := by
  unfold finishHint
  split
  · next hpast => exact iff_of_true (returns_pure _) (.inl hpast)
  · next hahead =>
    rw [or_iff_right hahead]
    exact returns_bind_iff.trans (and_iff_left fun _ _ => returns_pure _)

/-- Where every workday ends before midnight nothing panics. -/
theorem resolve_returns (hrange : DatesInRange tables formats input)
    (hends : ∀ calendar, input.calendar = some calendar → calendar.workdayEndMin < 1440) :
    Returns (resolve tables formats input) := by
  rw [resolve_eq, tryHint_eq]
  refine returns_bind_iff.mpr ⟨?_, fun hinted _ => ?_⟩
  · cases hhint : readHint formats input with
    | none => exact returns_pure _
    | some hint =>
      cases hint with
      | timestamp t =>
        refine (finishHint_returns_iff _ t).mpr (.inr ?_)
        exact (applyCalendar_timestamp_returns_iff (hrange.hintTimestamp t hhint)).mpr fun calendar hcalendar =>
          .inl (hends calendar hcalendar)
      | date date =>
        refine returns_bind_iff.mpr ⟨(endOfBusiness_returns_iff _ _ _).mpr hends, fun t ht => ?_⟩
        refine (finishHint_returns_iff _ t).mpr (.inr ?_)
        exact applyCalendar_business_returns (hrange.hintDate date hhint) ht hends
  · cases hinted with
    | some resolved => exact returns_pure _
    | none =>
      exact returns_bind_iff.mpr ⟨tryDeterministic_returns hrange hends, fun _ _ => returns_pure _⟩

/-- A text with a date needs the end of a workday. -/
theorem tryDeterministic_midnight_returns_iff (hrange : DatesInRange tables formats input)
    (hcalendar : input.calendar = some calendar) (hend : ¬ calendar.workdayEndMin < 1440) :
    Returns (tryDeterministic tables input) ↔ ¬ ∃ date raw,
      (Parsing.extractDeadlineFromText tables input.text (input.userTimezone.localDate input.nowUtc)).run =
        some (.ok (some date, raw)) := by
  refine returns_bind_iff.trans ?_
  rw [and_iff_right hrange.text]
  constructor
  · rintro h ⟨date, raw, hextracted⟩
    have hbusiness := (returns_bind_iff.mp (h _ hextracted)).1
    exact hend ((endOfBusiness_returns_iff _ _ _).mp hbusiness calendar hcalendar)
  · rintro h ⟨date, raw⟩ hextracted
    cases date with
    | none => exact returns_pure _
    | some date => exact absurd ⟨date, raw, hextracted⟩ h

/-- A workday that ends at midnight is a panic where its end is needed. -/
theorem resolve_midnight_returns_iff (hrange : DatesInRange tables formats input)
    (hcalendar : input.calendar = some calendar) (hend : ¬ calendar.workdayEndMin < 1440) :
    Returns (resolve tables formats input) ↔ ¬ NeedsDayEnd tables formats input calendar := by
  have htext := tryDeterministic_midnight_returns_iff hrange hcalendar hend
  have hnext : Returns (tryDeterministic tables input >>= fun resolved => pure (resolved.getD Deadline.none)) ↔
      Returns (tryDeterministic tables input) := returns_bind_iff.trans (and_iff_left fun _ _ => returns_pure _)
  have hafter : ∀ hinted, Returns (orText tables input hinted) ↔
      (hinted = none → Returns (tryDeterministic tables input)) := by
    intro hinted
    cases hinted with
    | none => exact hnext.trans ⟨fun h _ => h, fun h => h rfl⟩
    | some resolved => exact iff_of_true (returns_pure _) nofun
  have hfallback : (Returns (pure none : MayPanic (Option Deadline)) ∧ ∀ hinted,
      (pure none : MayPanic (Option Deadline)).run = some (.ok hinted) → hinted = none →
        Returns (tryDeterministic tables input)) ↔ Returns (tryDeterministic tables input) :=
    ⟨fun h => h.2 none rfl rfl, fun h => ⟨returns_pure _, fun _ _ _ => h⟩⟩
  rw [resolve_eq]
  refine (returns_bind_iff.trans (and_congr_right fun _ => forall_congr' fun hinted =>
    imp_congr_right fun _ => hafter hinted)).trans ?_
  rw [tryHint_eq]
  unfold NeedsDayEnd
  cases hhint : readHint formats input with
  | none => exact hfallback.trans htext
  | some hint =>
    cases hint with
    | date date =>
      refine iff_of_false (fun h => ?_) (not_not_intro trivial)
      have hbusiness := (returns_bind_iff.mp h.1).1
      exact hend ((endOfBusiness_returns_iff _ _ _).mp hbusiness calendar hcalendar)
    | timestamp t =>
      have hread := (applyCalendar_timestamp_returns_iff (hrange.hintTimestamp t hhint)).trans
        ⟨fun h => (h calendar hcalendar).resolve_left hend, fun h calendar' hsame => .inr (by cases hcalendar.symm.trans hsame; exact h)⟩
      simp only
      split
      · next hpast =>
        have hnone : ∀ raw, finishHint input raw t = pure none := fun raw => if_pos hpast
        rw [hnone]
        exact hfallback.trans htext
      · next hahead =>
        refine Iff.trans (and_iff_left fun hinted hrun hnone => ?_)
          (((finishHint_returns_iff _ t).trans (or_iff_right hahead)).trans hread)
        unfold finishHint at hrun
        rw [if_neg hahead, hnone] at hrun
        obtain ⟨_, -, hrun⟩ := bind_ok_iff.mp hrun
        cases hrun

/-! ## Top theorem -/

/-- **Calendars panic where the end of a day of 24:00 is needed**, and nowhere else. -/
theorem calendar_returns_iff (calendar : WorkingCalendar) (start : Instant)
    (hlast : start < daysFromCivil 2201 1 1 * nanosPerDay) (m : Int) (tables : UnicodeTables) (formats : DateFormats) (input : DeadlineInput)
    (hrange : DatesInRange tables formats input) :
    ((∃ r, calendar.addWorkingDuration start m = some r) ↔
      m ≤ 0 ∨ calendar.workdayEndMin < 1440 ∨ ¬ calendar.MeetsWorkday 366 start) ∧
    (Returns (resolve tables formats input) ↔ ∀ calendar, input.calendar = some calendar →
      calendar.workdayEndMin < 1440 ∨ ¬ NeedsDayEnd tables formats input calendar) := by
  constructor
  · obtain ⟨day, hday⟩ : ∃ day : Int, calendar.timezone.localDate start = day := ⟨_, rfl⟩
    have hdate : day + 2 * (366 : Nat) ≤ NaiveDate.max := by
      have hyear : daysFromCivil 2201 1 1 = 84371 := by decide
      obtain ⟨i, hi⟩ : ∃ i : Int, start = i := ⟨_, rfl⟩
      obtain ⟨c, hc⟩ : ∃ c : Int, calendar.timezone.toLocal i = c := ⟨_, rfl⟩
      have hlocal : i - nanosPerDay < c ∧ c < i + nanosPerDay := hc ▸ calendar.timezone.near_utc i
      have hdiv : day = c / 86400000000000 := by
        rw [← hday, Tz.localDate, hi, hc, WorkingCalendar.date_eq]
      rw [hyear, hi] at hlast
      have hlast : i < 84371 * 86400000000000 := hlast
      unfold nanosPerDay at hlocal
      unfold NaiveDate.max
      omega
    unfold WorkingCalendar.addWorkingDuration
    split
    · next hm => exact iff_of_true ⟨_, rfl⟩ (.inl hm)
    · next hm =>
      rw [or_iff_right hm]
      by_cases hend : calendar.workdayEndMin < 1440
      · exact iff_of_true (WorkingCalendar.addFrom_returns hend 366 start m day hday hdate) (.inl hend)
      · rw [or_iff_right hend]
        exact WorkingCalendar.addFrom_midnight_returns_iff hend 366 start m day hday hdate
  · by_cases hends : ∀ calendar, input.calendar = some calendar → calendar.workdayEndMin < 1440
    · exact iff_of_true (resolve_returns hrange hends) fun calendar hcalendar => .inl (hends calendar hcalendar)
    · push Not at hends
      obtain ⟨calendar, hcalendar, hend⟩ := hends
      refine (resolve_midnight_returns_iff hrange hcalendar (not_lt.mpr hend)).trans ?_
      constructor
      · rintro h calendar' hsame
        cases hcalendar.symm.trans hsame
        exact .inr h
      · exact fun h => (h calendar hcalendar).resolve_left (not_lt.mpr hend)

end

end DeadlineResolver

/-! ## A sample -/

/-- Every day from 09:00 to 24:00. -/
def lateCalendar : WorkingCalendar where
  code := "LATE"
  timezone := moscowTime
  workdayMask := 127
  workdayStartMin := 540
  workdayEndMin := 1440
  holidays := []
  extraWorkingDays := []
  mask_nonempty := nightCalendar.mask_nonempty
  start_in_day := standardCalendar.start_in_day
  end_in_day := by decide
  start_before_end := standardCalendar.start_in_day

theorem datesInRange_tomorrow : DeadlineResolver.DatesInRange plainTables sampleFormats (sampleInput none) where
  text := ⟨.ok (some 20564, some "завтра"), by decide +kernel⟩
  textDate date raw h := by
    have hrun : (Parsing.extractDeadlineFromText plainTables "Сдать отчёт завтра" (moscowTime.localDate mondayNoon)).run =
        some (.ok (some 20564, some "завтра")) := by decide +kernel
    cases hrun.symm.trans h
    exact ⟨by decide, by decide⟩
  hintDate _ h := nomatch h
  hintTimestamp _ h := nomatch h

theorem calendar_returns_standard :
    ((∃ r, standardCalendar.addWorkingDuration mondayNoon 2 = some r) ↔
      (2 : Int) ≤ 0 ∨ standardCalendar.workdayEndMin < 1440 ∨ ¬ standardCalendar.MeetsWorkday 366 mondayNoon) ∧
    (MayPanic.Returns (DeadlineResolver.resolve plainTables sampleFormats (sampleInput none)) ↔
      ∀ calendar, (sampleInput none).calendar = some calendar → calendar.workdayEndMin < 1440 ∨
        ¬ DeadlineResolver.NeedsDayEnd plainTables sampleFormats (sampleInput none) calendar) :=
  DeadlineResolver.calendar_returns_iff standardCalendar mondayNoon (by decide) 2 plainTables sampleFormats
    (sampleInput none) datesInRange_tomorrow

/-- A minute of work on a day until 24:00. -/
theorem lateCalendar_panics : ¬ ∀ (calendar : WorkingCalendar) (start : Instant),
    daysFromCivil 1970 1 1 * nanosPerDay ≤ start → start < daysFromCivil 2201 1 1 * nanosPerDay →
      ∀ (m : Int) (tables : UnicodeTables) (formats : DateFormats) (input : DeadlineResolver.DeadlineInput),
        DeadlineResolver.DatesInRange tables formats input →
          (∃ r, calendar.addWorkingDuration start m = some r) ∧
            MayPanic.Returns (DeadlineResolver.resolve tables formats input) := by
  intro h
  obtain ⟨⟨r, hr⟩, -⟩ := h lateCalendar mondayNoon (by decide) (by decide) 1 plainTables sampleFormats (sampleInput none)
    datesInRange_tomorrow
  have hpanic : lateCalendar.addWorkingDuration mondayNoon 1 = none := by decide
  rw [hpanic] at hr
  cases hr

end TaskBot
