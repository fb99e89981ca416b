import TaskBot.Domain.NormalizedText

/-!
# Deadline phrases

`extractDeadlineFromText` recognizes one phrase of the normalized text and reads its date:

    extractDeadlineFromText text today  =  Phrase.deadline (recognize (normalizeWhitespace text)) today

A number of days in the phrase is as long as the text likes, and what ends past the last date is a
panic (`extraction_returns_iff`).
-/

namespace TaskBot

theorem bind_eq_ok {α β : Type} {x : AppResult α} {f : α → AppResult β} {b : β} (h : x >>= f = .ok b) :
    ∃ a, x = .ok a ∧ f a = .ok b := by
  cases x with
  | error e => cases h
  | ok a => exact ⟨a, rfl, h⟩

/-! ## Panics -/

namespace MayPanic

variable {α β : Type}

/-- The call does not panic. -/
def Returns (x : MayPanic α) : Prop := ∃ answer, x.run = some answer

theorem returns_pure (a : α) : Returns (pure a) := ⟨.ok a, rfl⟩

/-- What is computed without a date. -/
theorem returns_answer (answer : AppResult α) : Returns (ExceptT.mk (some answer)) := ⟨answer, rfl⟩

theorem returns_bind_iff {x : MayPanic α} {f : α → MayPanic β} :
    Returns (x >>= f) ↔ Returns x ∧ ∀ a, x.run = some (.ok a) → Returns (f a) := by
  unfold Returns
  rw [ExceptT.run_bind]
  cases x.run with
  | none => simp
  | some answer =>
    cases answer with
    | error e => simp
    | ok a => simp

theorem bind_ok_iff {x : MayPanic α} {f : α → MayPanic β} {b : β} :
    (x >>= f).run = some (.ok b) ↔ ∃ a, x.run = some (.ok a) ∧ (f a).run = some (.ok b) := by
  rw [ExceptT.run_bind]
  cases x.run with
  | none => simp
  | some answer =>
    cases answer with
    | error e => simp
    | ok a => simp

theorem run_bind_ok {x : MayPanic α} {a : α} (h : x.run = some (.ok a)) (f : α → MayPanic β) :
    (x >>= f).run = (f a).run := by
  rw [ExceptT.run_bind, h]
  rfl

theorem run_bind_error {x : MayPanic α} {e : AppError} (h : x.run = some (.error e)) (f : α → MayPanic β) :
    (x >>= f).run = some (.error e) := by
  rw [ExceptT.run_bind, h]
  rfl

end MayPanic

open MayPanic

theorem addDays_run (date n : Int) : (addDays date n).run =
    if NaiveDate.min ≤ date + n ∧ date + n ≤ NaiveDate.max then some (.ok (date + n)) else none := by
  unfold addDays
  split <;> rfl

namespace Parsing

open Regex (Taken)

/-! ## Phrases -/

inductive Phrase where
  /-- `до 25.12` -/
  | date (taken : Taken)
  /-- `завтра` -/
  | days (n : Nat) (raw : String)
  /-- `через 3 дня` -/
  | period (taken : Taken)
  /-- `до пятницы` -/
  | weekday (target : Int) (raw : String)
deriving DecidableEq, Repr

def relativeDays (raw : String) : Option Nat :=
  if raw = "сегодня" ∨ raw = "срочно" then some 0
  else if raw = "завтра" then some 1
  else if raw = "послезавтра" then some 2
  else none

def relativePhrase (taken : Taken) : Option Phrase :=
  (taken.group "raw").bind fun matched =>
    let raw := String.ofList (matched.map lowerLetter)
    (relativeDays raw).map fun n => .days n raw

def weekdayPhrase (taken : Taken) : Option Phrase :=
  (taken.group "raw").bind fun raw => (weekdayFromRussian raw).map fun target => .weekday target (String.ofList raw)

/-- The days of a period; hours are rounded up to days. -/
def roundedHours (value : Nat) : Nat := Nat.max (Nat.min (value + 23) (2 ^ 32 - 1) / 24) 1

def isDayUnit (taken : Taken) : Bool := ['д', 'н'] <+: (taken.group "unit").getD []

def periodDays (taken : Taken) (value : Nat) : Nat := if isDayUnit taken then value else roundedHours value

/-- The date of a phrase. -/
def Phrase.deadline (today : NaiveDate) : Phrase → MayPanic Extracted
  | .date taken => ExceptT.mk (some (absoluteDate taken today))
  | .days n raw => do
      let deadline ← addDays today n
      pure (some deadline, some raw)
  | .period taken => periodDate taken today
  | .weekday target raw => do
      let deadline ← addDays today (daysUntilWeekday (NaiveDate.daysFromMonday today) target)
      pure (some deadline, some raw)

section

variable (tables : UnicodeTables)

/-- The phrase of a normalized text. -/
def recognize (normalized : String) : Option Phrase :=
  match captures tables (absoluteDeadlineRegex tables) normalized with
  | some taken => some (.date taken)
  | none =>
      match (captures tables relativeDeadlineRegex normalized).bind relativePhrase with
      | some phrase => some phrase
      | none =>
          match captures tables (inPeriodRegex tables) normalized with
          | some taken => some (.period taken)
          | none => (captures tables weekdayRegex normalized).bind weekdayPhrase

end

/-! ## The recognized phrase gives the date -/

section

variable {tables : UnicodeTables} {today : Int}

theorem addDays_zero (hmin : NaiveDate.min ≤ today) (hmax : today ≤ NaiveDate.max) :
    addDays today 0 = pure today := by
  unfold addDays
  rw [Int.add_zero, if_pos ⟨hmin, hmax⟩]

theorem relativeDate_eq (hmin : NaiveDate.min ≤ today) (hmax : today ≤ NaiveDate.max) (taken : Taken) :
    relativeDate taken today =
      match relativePhrase taken with
      | some phrase => phrase.deadline today >>= fun extracted => pure (some extracted)
      | none => pure none := by
  unfold relativeDate relativePhrase
  cases taken.group "raw" with
  | none => rfl
  | some matched =>
    simp only [Option.bind_some]
    generalize String.ofList (matched.map lowerLetter) = raw
    unfold relativeDays
    split
    · simp only [Option.map_some, Phrase.deadline, Int.natCast_zero, addDays_zero hmin hmax]
      rfl
    · split
      · simp only [Option.map_some, Phrase.deadline, bind_assoc, pure_bind]
        rfl
      · split
        · simp only [Option.map_some, Phrase.deadline, bind_assoc, pure_bind]
          rfl
        · rfl

theorem weekdayDate_eq (taken : Taken) :
    weekdayDate taken today =
      match weekdayPhrase taken with
      | some phrase => phrase.deadline today
      | none => pure (none, none) := by
  unfold weekdayDate weekdayPhrase
  cases taken.group "raw" with
  | none => rfl
  | some raw =>
    simp only [Option.bind_some]
    cases weekdayFromRussian raw <;> rfl

/-- **The date is the one of the recognized phrase.** -/
theorem extractDeadlineFromText_eq (hmin : NaiveDate.min ≤ today) (hmax : today ≤ NaiveDate.max) (text : String) :
    extractDeadlineFromText tables text today =
      match recognize tables (normalizeWhitespace text) with
      | some phrase => phrase.deadline today
      | none => pure (none, none) := by
  unfold extractDeadlineFromText recognize
  generalize normalizeWhitespace text = normalized
  have habsolute : parseAbsoluteDeadline tables normalized today =
      match captures tables (absoluteDeadlineRegex tables) normalized with
      | some taken => (Phrase.date taken).deadline today >>= fun extracted => pure (some extracted)
      | none => pure none := by
    unfold parseAbsoluteDeadline
    cases captures tables (absoluteDeadlineRegex tables) normalized <;> rfl
  have hrelative : parseRelativeDeadline tables normalized today =
      match (captures tables relativeDeadlineRegex normalized).bind relativePhrase with
      | some phrase => phrase.deadline today >>= fun extracted => pure (some extracted)
      | none => pure none := by
    unfold parseRelativeDeadline
    cases captures tables relativeDeadlineRegex normalized with
    | none => rfl
    | some taken => exact relativeDate_eq hmin hmax taken
  have hperiod : parsePeriodDeadline tables normalized today =
      match captures tables (inPeriodRegex tables) normalized with
      | some taken => (Phrase.period taken).deadline today >>= fun extracted => pure (some extracted)
      | none => pure none := by
    unfold parsePeriodDeadline
    cases captures tables (inPeriodRegex tables) normalized <;> rfl
  have hweekday : parseWeekdayDeadline tables normalized today =
      match (captures tables weekdayRegex normalized).bind weekdayPhrase with
      | some phrase => phrase.deadline today
      | none => pure (none, none) := by
    unfold parseWeekdayDeadline
    cases captures tables weekdayRegex normalized with
    | none => rfl
    | some taken => exact weekdayDate_eq taken
  simp only [habsolute, hrelative, hperiod, hweekday]
  cases captures tables (absoluteDeadlineRegex tables) normalized with
  | some taken => simp only [bind_assoc, pure_bind, bind_pure]
  | none =>
    simp only [pure_bind]
    cases (captures tables relativeDeadlineRegex normalized).bind relativePhrase with
    | some phrase => simp only [bind_assoc, pure_bind, bind_pure]
    | none =>
      simp only [pure_bind]
      cases captures tables (inPeriodRegex tables) normalized with
      | some taken => simp only [bind_assoc, pure_bind, bind_pure]
      | none => simp only [pure_bind]

/-! ## Past the last date -/

/-- The period ends past the last date. -/
def PastLastDate (today : NaiveDate) : Phrase → Prop
  | .period taken => ∃ value, parseU32 (taken.group "value") "value" = .ok value ∧
      NaiveDate.max < today + periodDays taken value
  | .date _ | .days _ _ | .weekday _ _ => False

theorem returns_addDays (date n : Int) :
    Returns (addDays date n) ↔ NaiveDate.min ≤ date + n ∧ date + n ≤ NaiveDate.max := by
  unfold Returns
  rw [addDays_run]
  split
  · next h => exact iff_of_true ⟨_, rfl⟩ h
  · next h => exact iff_of_false (fun hreturns => Option.some_ne_none _ hreturns.choose_spec.symm) h

theorem days_le {tables : UnicodeTables} {normalized raw : String} {n : Nat}
    (h : recognize tables normalized = some (.days n raw)) : n ≤ 2 := by
  unfold recognize at h
  split at h
  · cases h
  · split at h
    · next hphrase =>
      cases h
      obtain ⟨taken, -, hphrase⟩ := Option.bind_eq_some_iff.mp hphrase
      obtain ⟨matched, -, hphrase⟩ := Option.bind_eq_some_iff.mp hphrase
      obtain ⟨n, hdays, hphrase⟩ := Option.map_eq_some_iff.mp hphrase
      cases hphrase
      unfold relativeDays at hdays
      split at hdays
      · cases hdays
        decide
      · split at hdays
        · cases hdays
          decide
        · split at hdays
          · cases hdays
            decide
          · cases hdays
    · split at h
      · cases h
      · obtain ⟨taken, -, hphrase⟩ := Option.bind_eq_some_iff.mp h
        obtain ⟨raw, -, hphrase⟩ := Option.bind_eq_some_iff.mp hphrase
        obtain ⟨target, -, hphrase⟩ := Option.map_eq_some_iff.mp hphrase
        cases hphrase

theorem daysUntilWeekday_bounds (current target : Int) :
    1 ≤ daysUntilWeekday current target ∧ daysUntilWeekday current target ≤ 7 := by
  unfold daysUntilWeekday
  simp only
  split <;> omega

theorem period_run (taken : Taken) (today : Int) : (periodDate taken today).run =
    match parseU32 (taken.group "value") "value" with
    | .ok value =>
        if NaiveDate.min ≤ today + periodDays taken value ∧ today + periodDays taken value ≤ NaiveDate.max then
          some (.ok (some (today + periodDays taken value), some (matchedText taken)))
        else none
    | .error e => some (.error e) := by
  unfold periodDate
  rw [ExceptT.run_bind]
  simp only [ExceptT.run_mk]
  cases parseU32 (taken.group "value") "value" with
  | error e => rfl
  | ok value =>
    have hunit : (if ['д', 'н'] <+: (taken.group "unit").getD [] then value
        else Nat.max (Nat.min (value + 23) (2 ^ 32 - 1) / 24) 1) = periodDays taken value := by
      unfold periodDays isDayUnit roundedHours
      simp only [decide_eq_true_eq]
    show (addDays today _ >>= fun deadline => pure (some deadline, some (matchedText taken))).run = _
    rw [hunit, ExceptT.run_bind, addDays_run]
    simp only
    split <;> rfl

theorem returns_deadline_iff {normalized : String} {phrase : Phrase}
    (hphrase : recognize tables normalized = some phrase) (hmin : NaiveDate.min ≤ today)
    (hmax : today + 7 ≤ NaiveDate.max) : Returns (phrase.deadline today) ↔ ¬ PastLastDate today phrase := by
  cases phrase with
  | date taken => exact iff_of_true (returns_answer _) id
  | days n raw =>
    have hn := days_le hphrase
    refine iff_of_true (returns_bind_iff.mpr ⟨(returns_addDays today n).mpr ?_, fun _ _ => returns_pure _⟩) id
    omega
  | weekday target raw =>
    have hdays := daysUntilWeekday_bounds (NaiveDate.daysFromMonday today) target
    refine iff_of_true (returns_bind_iff.mpr ⟨(returns_addDays today _).mpr ?_, fun _ _ => returns_pure _⟩) id
    omega
  | period taken =>
    show Returns (periodDate taken today) ↔ ¬ ∃ value, _ ∧ _
    unfold Returns
    rw [period_run]
    cases parseU32 (taken.group "value") "value" with
    | error e => simp
    | ok value =>
      have hdays : NaiveDate.min ≤ today + periodDays taken value := by omega
      by_cases hlast : today + periodDays taken value ≤ NaiveDate.max
      · simp [hdays, hlast]
      · simp [hlast, Int.not_le.mp hlast]

theorem returns_extract_iff (hmin : NaiveDate.min ≤ today) (hmax : today + 7 ≤ NaiveDate.max) (text : String) :
    Returns (extractDeadlineFromText tables text today) ↔
      ¬ ∃ phrase, recognize tables (normalizeWhitespace text) = some phrase ∧ PastLastDate today phrase := by
  rw [extractDeadlineFromText_eq hmin (by omega)]
  cases hphrase : recognize tables (normalizeWhitespace text) with
  | none => exact iff_of_true (returns_pure _) fun h => Option.some_ne_none _ h.choose_spec.1.symm
  | some phrase =>
    refine (returns_deadline_iff hphrase hmin hmax).trans (not_congr ⟨fun h => ⟨phrase, rfl, h⟩, ?_⟩)
    rintro ⟨_, hsame, h⟩
    cases hsame
    exact h

/-- Apart from the deadline nothing of a request can panic. -/
theorem returns_parseTaskRequest_iff (text : String) :
    Returns (parseTaskRequest tables text today) ↔
      Returns (extractDeadlineFromText tables (normalizeWhitespace text) today) := by
  unfold parseTaskRequest
  refine returns_bind_iff.trans (and_iff_left fun extracted _ => returns_bind_iff.mpr ⟨returns_answer _, fun _ _ => ?_⟩)
  exact returns_pure _

/-- **Deadline extraction panics on a period past the last date, and only there.** -/
theorem extraction_returns_iff (tables : UnicodeTables) (text : String) (today : NaiveDate)
    (hmin : NaiveDate.min ≤ today) (hmax : today + 7 ≤ NaiveDate.max) :
    (Returns (extractDeadlineFromText tables text today) ∧ Returns (parseTaskRequest tables text today)) ↔
      ¬ ∃ phrase, recognize tables (normalizeWhitespace text) = some phrase ∧ PastLastDate today phrase := by
  rw [returns_parseTaskRequest_iff, returns_extract_iff hmin hmax, returns_extract_iff hmin hmax,
    normalizeWhitespace_twice, and_self]

end

end Parsing

/-! ## A sample -/

/-- The tables of the Russian and the English alphabet and of the Arabic digits. -/
def plainTables : UnicodeTables where
  isAlphabetic := isLetter
  isWord c := isLetter (foldCase c) || c.isDigit || c == '_'
  isDecimal := Char.isDigit
  space_not_word := by decide
  letter_word c h := by rw [h]; rfl
  letter_not_decimal c h := by
    rw [Bool.eq_false_iff]
    intro hdigit
    have hall : ∀ n ∈ List.range' 48 10, isLetter (foldCase (Char.ofNat n)) = false := by decide
    have hrange : 48 ≤ c.toNat ∧ c.toNat < 48 + 10 := by
      simp only [Char.isDigit, Bool.and_eq_true, decide_eq_true_eq, ge_iff_le, UInt32.le_iff_toNat_le] at hdigit
      exact ⟨hdigit.1, Nat.lt_succ_of_le hdigit.2⟩
    have hnone := hall _ (List.mem_range'_1.mpr hrange)
    rw [Char.ofNat_toNat, h] at hnone
    cases hnone

/-- 20.04.2026. -/
def sampleToday : NaiveDate := 20563

theorem extraction_returns_tomorrow :
    MayPanic.Returns (Parsing.extractDeadlineFromText plainTables "Сдать отчёт завтра" sampleToday) ∧
      MayPanic.Returns (Parsing.parseTaskRequest plainTables "Сдать отчёт завтра" sampleToday) :=
  (Parsing.extraction_returns_iff plainTables _ sampleToday (by decide) (by decide)).mpr (by
    have htomorrow : Parsing.recognize plainTables (Parsing.normalizeWhitespace "Сдать отчёт завтра") =
        some (.days 1 "завтра") := by decide +kernel
    rintro ⟨phrase, hphrase, hpast⟩
    cases htomorrow.symm.trans hphrase
    exact hpast)

theorem extraction_panics : ¬ ∀ (tables : UnicodeTables) (text : String) (today : NaiveDate),
    NaiveDate.min ≤ today → today + 7 ≤ NaiveDate.max →
      MayPanic.Returns (Parsing.extractDeadlineFromText tables text today) ∧
        MayPanic.Returns (Parsing.parseTaskRequest tables text today) := by
  intro h
  obtain ⟨answer, hanswer⟩ := (h plainTables "через 4294967295 дней" sampleToday (by decide) (by decide)).1
  have hpanic : (Parsing.extractDeadlineFromText plainTables "через 4294967295 дней" sampleToday).run = none := by
    decide +kernel
  rw [hpanic] at hanswer
  cases hanswer

end TaskBot
