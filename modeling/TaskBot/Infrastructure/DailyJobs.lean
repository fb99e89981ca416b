import TaskBot.Domain.Base

/-!
# Daily jobs

The two reminders and the summary are each run by a loop that wakes at every tick of a timer and
compares hour and date.  The loop remembers the day of the last run, not of the last success: the job
answers nothing, its error goes to the log.  So a day has one run, at the first tick of the hour
(`runsOn_eq`), and the day is lost if that run fails (`daily_job`).
-/

namespace TaskBot

/-- `now.hour()`. -/
def Instant.utcHour (t : Instant) : Int := (t.fdiv 3600000000000).fmod 24

/-- A tick of the timer, and what the job would answer if it were run then. -/
structure TimerTick where
  now : Instant
  outcome : AppResult Unit

structure DailyJob where
  targetHourUtc : Nat
  /-- What is logged when the job fails. -/
  failed : String

/-! ### The three jobs -/

def deadlineReminders (dailyDeadlineReminderHourUtc : Nat) : DailyJob :=
  ⟨dailyDeadlineReminderHourUtc, "deadline_reminders_failed"⟩

def overdueReminders (dailyOverdueScanHourUtc : Nat) : DailyJob := ⟨dailyOverdueScanHourUtc, "overdue_reminders_failed"⟩

def dailySummaries (dailySummaryHourUtc : Nat) : DailyJob := ⟨dailySummaryHourUtc, "daily_summary_enqueue_failed"⟩

namespace DailyJob

/-- A run of the job. -/
structure Run where
  tick : TimerTick
  /-- The code of the error and the event, in the log. -/
  logged : Option (String × String)

variable (job : DailyJob)

/-- `job_factory().await`: the answer is not passed on. -/
def runJob (tick : TimerTick) : Run :=
  match tick.outcome with
  | .ok () => ⟨tick, none⟩
  | .error e => ⟨tick, some (e.code, job.failed)⟩

def isDue (lastRunDate : Option NaiveDate) (now : Instant) : Bool :=
  now.utcHour = job.targetHourUtc ∧ lastRunDate ≠ some now.utcDate

/-- The loop of `spawn_daily_job`, up to the end of the ticks: the runs it makes. -/
def loop : Option NaiveDate → List TimerTick → List Run
  | _, [] => []
  | lastRunDate, tick :: ticks =>
      if job.isDue lastRunDate tick.now then
        job.runJob tick :: loop (some tick.now.utcDate) ticks
      else loop lastRunDate ticks

def spawnDailyJob (ticks : List TimerTick) : List Run := job.loop none ticks

/-! ## The runs of a day -/

/-- The tick is within the target hour of the day. -/
def InHour (day : NaiveDate) (tick : TimerTick) : Prop := tick.now.utcDate = day ∧ tick.now.utcHour = job.targetHourUtc

instance (day : NaiveDate) (tick : TimerTick) : Decidable (job.InHour day tick) := inferInstanceAs (Decidable (_ ∧ _))

/-- The runs of a day. -/
def runsOn (ticks : List TimerTick) (day : NaiveDate) : List Run :=
  (job.spawnDailyJob ticks).filter fun run => run.tick.now.utcDate = day

def Run.succeeded (run : Run) : Bool := run.tick.outcome.isOk

/-- The times do not go back. -/
def Chronological (ticks : List TimerTick) : Prop := ticks.Pairwise fun t t' => t.now ≤ t'.now

end DailyJob

theorem Instant.utcDate_le {t t' : Int} (h : t ≤ t') : Instant.utcDate t ≤ Instant.utcDate t' := by
  unfold Instant.utcDate
  rw [Int.fdiv_eq_ediv_of_nonneg _ (by decide), Int.fdiv_eq_ediv_of_nonneg _ (by decide)]
  exact Int.ediv_le_ediv (by decide) h

namespace DailyJob

variable {job : DailyJob} {ticks : List TimerTick} {lastRunDate : Option NaiveDate} {day : NaiveDate}

theorem runJob_tick (tick : TimerTick) : (job.runJob tick).tick = tick := by
  unfold runJob
  split <;> rfl

/-- After a run on a day the ticks are of that day or of later ones. -/
def NotBefore (lastRunDate : Option NaiveDate) (ticks : List TimerTick) : Prop :=
  ∀ date : Int, lastRunDate = some date → ∀ t ∈ ticks, date ≤ t.now.utcDate

/-- **A day has a run at the first tick of its hour, and no other.** -/
theorem filter_loop (hchron : Chronological ticks) (hlast : NotBefore lastRunDate ticks) :
    ((job.loop lastRunDate ticks).filter fun run => run.tick.now.utcDate = day) =
      if lastRunDate = some day then [] else ((ticks.find? fun t => job.InHour day t).map job.runJob).toList := by
  induction ticks generalizing lastRunDate with
  | nil => simp [loop]
  | cons t ts ih =>
    obtain ⟨hnext, hts⟩ := List.pairwise_cons.mp hchron
    have hlater : NotBefore (some t.now.utcDate) ts := by
      rintro date ⟨⟩ t' ht'
      exact Instant.utcDate_le (hnext t' ht')
    have hkept : NotBefore lastRunDate ts := fun date hdate t' ht' => hlast date hdate t' (List.mem_cons_of_mem _ ht')
    unfold loop
    by_cases hdue : job.isDue lastRunDate t.now = true
    · rw [if_pos hdue]
      obtain ⟨hhour, hnew⟩ := of_decide_eq_true hdue
      by_cases hday : t.now.utcDate = day
      · -- the run of the day
        have hin : job.InHour day t := ⟨hday, hhour⟩
        have hrun : lastRunDate ≠ some day := fun h => hnew (h.trans (congrArg some hday.symm))
        rw [List.filter_cons_of_pos (by simpa [runJob_tick] using hday), ih hts hlater, if_pos (congrArg some hday),
          if_neg hrun, List.find?_cons_of_pos (by simpa using hin)]
        rfl
      · have hout : ¬ job.InHour day t := fun h => hday h.1
        rw [List.filter_cons_of_neg (by simpa [runJob_tick] using hday), ih hts hlater,
          if_neg fun h => hday (Option.some.inj h), List.find?_cons_of_neg (by simpa using hout)]
        by_cases hsame : lastRunDate = some day
        · -- the day has had its run and is over
          have hover : ∀ t' ∈ ts, ¬ job.InHour day t' := fun t' ht' h =>
            hday (Int.le_antisymm (h.1 ▸ Instant.utcDate_le (hnext t' ht')) (hlast day hsame t List.mem_cons_self))
          have hnone : (ts.find? fun t => job.InHour day t) = none :=
            List.find?_eq_none.mpr fun t' ht' => by simpa using hover t' ht'
          rw [if_pos hsame, hnone]
          rfl
        · rw [if_neg hsame]
    · rw [if_neg hdue, ih hts hkept]
      by_cases hsame : lastRunDate = some day
      · rw [if_pos hsame, if_pos hsame]
      · have hout : ¬ job.InHour day t := by
          rintro ⟨hday, hhour⟩
          refine hdue (decide_eq_true ⟨hhour, fun h => hsame ?_⟩)
          rw [h, hday]
        rw [if_neg hsame, if_neg hsame, List.find?_cons_of_neg (by simpa using hout)]

theorem runsOn_eq (hchron : Chronological ticks) :
    job.runsOn ticks day = ((ticks.find? fun t => job.InHour day t).map job.runJob).toList := by
  have hstart : NotBefore none ticks := fun date hdate => nomatch hdate
  have hnever : ¬ (none : Option NaiveDate) = some day := fun h => nomatch h
  unfold runsOn spawnDailyJob
  rw [filter_loop hchron hstart, if_neg hnever]

/-- **A daily job runs at the first tick of its hour only, and what comes of that run is what the day
gets.** -/
theorem daily_job (job : DailyJob) (ticks : List TimerTick) (day : NaiveDate) (hchron : Chronological ticks) :
    ((job.runsOn ticks day).filter Run.succeeded).length ≤ 1 ∧
      job.runsOn ticks day = ((ticks.find? fun t => job.InHour day t).map job.runJob).toList ∧
      ∀ past tick rest, ticks = past ++ tick :: rest → job.InHour day tick →
        ((∃ run ∈ job.runsOn (past ++ [tick]) day, run.succeeded = true) ↔
          ∃ first, (ticks.find? fun t => job.InHour day t) = some first ∧ first.outcome.isOk = true) := by
  refine ⟨?_, runsOn_eq hchron, ?_⟩
  · rw [runsOn_eq hchron]
    refine (List.length_filter_le _ _).trans ?_
    cases ticks.find? fun t => job.InHour day t with
    | none => exact Nat.zero_le 1
    | some first => exact Nat.le_refl 1
  · rintro past tick rest rfl htick
    have hchron' : Chronological (past ++ [tick]) := by
      have hsplit : past ++ tick :: rest = (past ++ [tick]) ++ rest := by rw [List.append_assoc]; rfl
      unfold Chronological at hchron
      rw [hsplit] at hchron
      exact (List.pairwise_append.mp hchron).1
    have hfirst : ((past ++ [tick]).find? fun t => job.InHour day t) =
        (past ++ tick :: rest).find? fun t => job.InHour day t := by
      rw [List.find?_append, List.find?_append, List.find?_cons_of_pos (by simpa using htick),
        List.find?_cons_of_pos (by simpa using htick)]
    rw [runsOn_eq hchron', hfirst]
    cases (past ++ tick :: rest).find? fun t => job.InHour day t with
    | none => simp
    | some first => simp [Run.succeeded, runJob_tick]

end DailyJob

open DailyJob

/-- Nine o'clock on 20.04.2026, and a minute later. -/
def nineOClock : Instant := 20563 * 86400000000000 + 9 * 3600000000000

/-- The database is locked at nine and free again a minute later. -/
def lockedAtNine : List TimerTick :=
  [⟨nineOClock, .error (.internal "DATABASE_LOCKED" "database is locked" [])⟩, ⟨nineOClock + 60000000000, .ok ()⟩]

theorem chronological_lockedAtNine : Chronological lockedAtNine := by
  unfold Chronological lockedAtNine
  decide

theorem lost_reminders : ¬ ∃ run ∈ (deadlineReminders 9).runsOn lockedAtNine 20563, run.succeeded = true := by
  intro hsome
  obtain ⟨first, hfirst, hok⟩ := ((daily_job (deadlineReminders 9) lockedAtNine 20563 chronological_lockedAtNine).2.2
    (lockedAtNine.take 1) ⟨nineOClock + 60000000000, .ok ()⟩ [] rfl (by decide)).mp hsome
  have hfailed : ∀ t ∈ lockedAtNine.find? fun t => (deadlineReminders 9).InHour 20563 t, t.outcome.isOk = false := by
    decide
  exact Bool.false_ne_true ((hfailed first hfirst).symm.trans hok)

theorem failed_run_is_not_tried_again : ¬ ∀ (job : DailyJob) (ticks : List TimerTick) (day : NaiveDate), Chronological ticks →
    ((job.runsOn ticks day).filter Run.succeeded).length ≤ 1 ∧
      ∀ past tick rest, ticks = past ++ tick :: rest → job.InHour day tick → tick.outcome.isOk = true →
        ∃ run ∈ job.runsOn (past ++ [tick]) day, run.succeeded = true := by
  intro h
  obtain ⟨run, hrun, hok⟩ := (h (deadlineReminders 9) lockedAtNine 20563 chronological_lockedAtNine).2
    (lockedAtNine.take 1) ⟨nineOClock + 60000000000, .ok ()⟩ [] rfl (by decide) rfl
  have hall : ∀ run ∈ (deadlineReminders 9).runsOn lockedAtNine 20563, run.succeeded = false := by
    rw [runsOn_eq chronological_lockedAtNine]
    decide
  exact Bool.false_ne_true ((hall run hrun).symm.trans hok)

end TaskBot
