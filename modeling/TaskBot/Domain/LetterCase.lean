import TaskBot.Domain.DeadlinePhrases
import TaskBot.Lib.SimilarTexts

/-!
# Letter case

The patterns do not tell the cases of a letter apart, and so texts that differ in the case of Russian
letters have the same phrase (`recognize_similar`).  Only the unit of a period is then compared as it
stands (`outcome_same_iff`).
-/

namespace TaskBot

open List (Forall₂)
open Regex (Taken Pattern Blind)

/-! ## Russian letters -/

def isRussian (c : Char) : Bool :=
  let n := c.toNat
  (0x410 ≤ n && n ≤ 0x44F) || n == 0x401 || n == 0x451

/-- The same character, or the same Russian letter in another case. -/
def SameButCase (c d : Char) : Prop := c = d ∨ isRussian c = true ∧ isRussian d = true ∧ lowerLetter c = lowerLetter d

theorem russian_induction {p : Char → Prop}
    (h : ∀ n ∈ List.range' 0x401 81, isRussian (Char.ofNat n) = true → p (Char.ofNat n)) {c : Char}
    (hc : isRussian c = true) : p c := by
  have hrange : 0x401 ≤ c.toNat ∧ c.toNat < 0x401 + 81 := by
    unfold isRussian at hc
    simp only [Bool.or_eq_true, Bool.and_eq_true, decide_eq_true_eq, beq_iff_eq] at hc
    omega
  rw [← Char.ofNat_toNat c] at hc ⊢
  exact h _ (List.mem_range'_1.mpr hrange) hc

/-- A pattern folds a Russian letter to its lower case. -/
theorem foldCase_russian {c : Char} (h : isRussian c = true) : foldCase c = lowerLetter c :=
  russian_induction (p := fun c => foldCase c = lowerLetter c) (by decide) h

theorem isLetter_russian {c : Char} (h : isRussian c = true) : isLetter (foldCase c) = true :=
  russian_induction (p := fun c => isLetter (foldCase c) = true) (by decide) h

/-- A class that says the same of every Russian letter. -/
theorem blind_of_constant {p : Char → Bool} {b : Bool} (h : ∀ c, isRussian c = true → p c = b) : Blind SameButCase p := by
  rintro c d (rfl | ⟨hc, hd, -⟩)
  · rfl
  · rw [h c hc, h d hd]

theorem foldCase_same {c d : Char} (h : SameButCase c d) : foldCase c = foldCase d := by
  rcases h with rfl | ⟨hc, hd, h⟩
  · rfl
  · rw [foldCase_russian hc, foldCase_russian hd, h]

theorem lowerLetter_same {c d : Char} (h : SameButCase c d) : lowerLetter c = lowerLetter d := by
  rcases h with rfl | ⟨-, -, h⟩
  · rfl
  · exact h

theorem blind_of_fold (p : Char → Bool) : Blind SameButCase fun c => p (foldCase c) := fun _ _ h =>
  congrArg p (foldCase_same h)

theorem blind_isWhitespace : Blind SameButCase isWhitespace :=
  blind_of_constant (b := false) fun _ => russian_induction (p := fun c => isWhitespace c = false) (by decide)

theorem blind_isDigit : Blind SameButCase Char.isDigit :=
  blind_of_constant (b := false) fun _ => russian_induction (p := fun c => c.isDigit = false) (by decide)

/-! ## The same text but for the case -/

/-- The texts differ in the case of Russian letters only. -/
def SameTextButCase (x y : String) : Prop := Forall₂ SameButCase x.toList y.toList

namespace Parsing

theorem trimChars_similar {l l' : List Char} (h : Forall₂ SameButCase l l') : Forall₂ SameButCase (trimChars l) (trimChars l') := by
  have hdrop : ∀ {l l' : List Char}, Forall₂ SameButCase l l' →
      Forall₂ SameButCase (l.dropWhile isWhitespace) (l'.dropWhile isWhitespace) := by
    intro l l' h
    induction h with
    | nil => exact .nil
    | cons hc hrest ih =>
      rw [List.dropWhile, List.dropWhile, blind_isWhitespace _ _ hc]
      split
      · exact ih
      · exact .cons hc hrest
  exact List.rel_reverse (hdrop (List.rel_reverse (hdrop h)))

theorem replaceWhitespace_similar {l l' : List Char} (h : Forall₂ SameButCase l l') :
    Forall₂ SameButCase (replaceWhitespace l) (replaceWhitespace l') := by
  induction h with
  | nil => exact .nil
  | cons hc hrest ih =>
    rw [replaceWhitespace, replaceWhitespace, blind_isWhitespace _ _ hc]
    have hhead : ∀ {l l' : List Char}, Forall₂ SameButCase l l' →
        l.head?.any isWhitespace = l'.head?.any isWhitespace := by
      intro l l' h
      cases h with
      | nil => rfl
      | cons hc _ => exact blind_isWhitespace _ _ hc
    rw [hhead hrest]
    split
    · split
      · exact ih
      · exact .cons (.inl rfl) ih
    · exact .cons hc ih

theorem normalizeWhitespace_similar {x y : String} (h : SameTextButCase x y) :
    SameTextButCase (normalizeWhitespace x) (normalizeWhitespace y) := by
  unfold SameTextButCase
  rw [toList_normalizeWhitespace, toList_normalizeWhitespace]
  exact replaceWhitespace_similar (trimChars_similar h)

/-! ## The patterns -/

theorem blind_word (text : String) : (word text).Blind SameButCase := by
  unfold word
  induction text.toList with
  | nil => exact trivial
  | cons c cs ih => exact ⟨blind_of_fold (· == c), ih⟩

theorem blind_letterOf (letters : String) : (letterOf letters).Blind SameButCase :=
  blind_of_fold letters.toList.contains

theorem blind_oneOf {ps : List Pattern} (h : ∀ p ∈ ps, p.Blind SameButCase) : (Pattern.oneOf ps).Blind SameButCase := by
  induction ps with
  | nil => exact fun _ _ _ => rfl
  | cons p ps ih =>
    have hps := ih fun q hq => h q (List.mem_cons_of_mem _ hq)
    cases ps with
    | nil => exact h p List.mem_cons_self
    | cons q qs => exact ⟨h p List.mem_cons_self, hps⟩

theorem blind_words (texts : List String) : (Pattern.oneOf (texts.map word)).Blind SameButCase := by
  refine blind_oneOf fun p hp => ?_
  obtain ⟨text, -, rfl⟩ := List.mem_map.mp hp
  exact blind_word text

section

variable (tables : UnicodeTables)

theorem blind_isWord : Blind SameButCase tables.isWord :=
  blind_of_constant fun c hc => tables.letter_word c (isLetter_russian hc)

theorem blind_isDecimal : Blind SameButCase tables.isDecimal :=
  blind_of_constant fun c hc => tables.letter_not_decimal c (isLetter_russian hc)

theorem blind_separator : Blind SameButCase fun c => c == '.' || c == '/' :=
  blind_of_constant (b := false) fun _ => russian_induction (p := fun c => (c == '.' || c == '/') = false) (by decide)

theorem blind_absoluteDeadlineRegex : (absoluteDeadlineRegex tables).Blind SameButCase :=
  ⟨trivial, blind_words ["до", "к"], blind_isWhitespace, blind_isDecimal tables, blind_separator,
    blind_isDecimal tables, blind_separator, blind_isDecimal tables⟩

theorem blind_relativeDeadlineRegex : relativeDeadlineRegex.Blind SameButCase :=
  ⟨trivial, blind_words ["сегодня", "завтра", "послезавтра", "срочно"], trivial⟩

theorem blind_inPeriodRegex : (inPeriodRegex tables).Blind SameButCase :=
  ⟨trivial, blind_word "через", blind_isWhitespace, blind_isDecimal tables, blind_isWhitespace,
    ⟨⟨blind_word "дн", blind_words ["ей", "я"]⟩, blind_word "час", blind_words ["ов", "а"]⟩, trivial⟩

theorem blind_weekdayRegex : weekdayRegex.Blind SameButCase :=
  ⟨trivial, blind_words ["до", "к"], blind_isWhitespace,
    blind_oneOf (by
      simp only [List.forall_mem_cons]
      exact ⟨⟨blind_word _, blind_words ["а", "у"]⟩, ⟨blind_word _, blind_words ["а", "у"]⟩,
        ⟨blind_word _, blind_letterOf _⟩, ⟨blind_word _, blind_words ["а", "у"]⟩, ⟨blind_word _, blind_letterOf _⟩,
        ⟨blind_word _, blind_letterOf _⟩, ⟨blind_word _, blind_letterOf _⟩, nofun⟩), trivial⟩

/-! ## The recognized phrases -/

variable {x y : String}

theorem captures_similar (tables : UnicodeTables) {p : Pattern} (hp : p.Blind SameButCase) (h : SameTextButCase x y) :
    Option.Rel (Taken.Similar SameButCase) (captures tables p x) (captures tables p y) := by
  have hfound : Option.Rel (Pattern.Found.Similar SameButCase) (Pattern.find tables.isWord p none x.toList)
      (Pattern.find tables.isWord p none y.toList) :=
    Pattern.find_similar hp (blind_isWord tables) ⟨rfl, rfl⟩ h
  unfold captures
  generalize Pattern.find tables.isWord p none x.toList = f at hfound
  generalize Pattern.find tables.isWord p none y.toList = f' at hfound
  cases hfound with
  | none => exact .none
  | some hf => exact .some hf.taken

/-- The phrases differ in the case of letters only. -/
inductive SamePhrase : Phrase → Phrase → Prop where
  | date {taken taken' : Taken} (h : taken.Similar SameButCase taken') : SamePhrase (.date taken) (.date taken')
  | days (n : Nat) (raw : String) : SamePhrase (.days n raw) (.days n raw)
  | period {taken taken' : Taken} (h : taken.Similar SameButCase taken') : SamePhrase (.period taken) (.period taken')
  | weekday (target : Int) (raw raw' : String) : SamePhrase (.weekday target raw) (.weekday target raw')

theorem lowered_same {l l' : List Char} (h : Forall₂ SameButCase l l') : l.map lowerLetter = l'.map lowerLetter := by
  induction h with
  | nil => rfl
  | cons hc _ ih => rw [List.map_cons, List.map_cons, lowerLetter_same hc, ih]

theorem relativePhrase_similar {taken taken' : Taken} (h : taken.Similar SameButCase taken') :
    Option.Rel SamePhrase (relativePhrase taken) (relativePhrase taken') := by
  have hraw := h.group "raw"
  unfold relativePhrase
  generalize taken.group "raw" = raw at hraw
  generalize taken'.group "raw" = raw' at hraw
  cases hraw with
  | none => exact .none
  | @some raw raw' hraw =>
    simp only [Option.bind_some, lowered_same hraw]
    cases relativeDays (String.ofList (raw'.map lowerLetter)) with
    | none => exact .none
    | some n => exact .some (.days n _)

theorem weekdayPhrase_similar {taken taken' : Taken} (h : taken.Similar SameButCase taken') :
    Option.Rel SamePhrase (weekdayPhrase taken) (weekdayPhrase taken') := by
  have hraw := h.group "raw"
  unfold weekdayPhrase
  generalize taken.group "raw" = raw at hraw
  generalize taken'.group "raw" = raw' at hraw
  cases hraw with
  | none => exact .none
  | @some raw raw' hraw =>
    have hweekday : weekdayFromRussian raw = weekdayFromRussian raw' := by
      unfold weekdayFromRussian
      rw [lowered_same hraw]
    simp only [Option.bind_some, hweekday]
    cases weekdayFromRussian raw' with
    | none => exact .none
    | some target => exact .some (.weekday target _ _)

/-- **Texts that differ in case have the same phrase.** -/
theorem recognize_similar (tables : UnicodeTables) (h : SameTextButCase x y) : Option.Rel SamePhrase (recognize tables x) (recognize tables y) := by
  have habsolute := captures_similar tables (blind_absoluteDeadlineRegex tables) h
  have hrelative := captures_similar tables blind_relativeDeadlineRegex h
  have hperiod := captures_similar tables (blind_inPeriodRegex tables) h
  have hweekday := captures_similar tables blind_weekdayRegex h
  unfold recognize
  generalize captures tables (absoluteDeadlineRegex tables) x = o at habsolute
  generalize captures tables (absoluteDeadlineRegex tables) y = o' at habsolute
  cases habsolute with
  | some h => exact .some (.date h)
  | none =>
    have hphrase : Option.Rel SamePhrase ((captures tables relativeDeadlineRegex x).bind relativePhrase)
        ((captures tables relativeDeadlineRegex y).bind relativePhrase) := by
      generalize captures tables relativeDeadlineRegex x = o at hrelative
      generalize captures tables relativeDeadlineRegex y = o' at hrelative
      cases hrelative with
      | none => exact .none
      | some h => exact relativePhrase_similar h
    generalize (captures tables relativeDeadlineRegex x).bind relativePhrase = o at hphrase
    generalize (captures tables relativeDeadlineRegex y).bind relativePhrase = o' at hphrase
    cases hphrase with
    | some h => exact .some h
    | none =>
      generalize captures tables (inPeriodRegex tables) x = o at hperiod
      generalize captures tables (inPeriodRegex tables) y = o' at hperiod
      cases hperiod with
      | some h => exact .some (.period h)
      | none =>
        generalize captures tables weekdayRegex x = o at hweekday
        generalize captures tables weekdayRegex y = o' at hweekday
        cases hweekday with
        | none => exact .none
        | some h => exact weekdayPhrase_similar h

/-! ## Outcomes -/

/-- A date, no date, an error, or `none` for a panic. -/
def outcome (x : MayPanic Extracted) : Option (Except Unit (Option NaiveDate)) :=
  x.run.map fun answer =>
    match answer with
    | .ok extracted => .ok extracted.1
    | .error _ => .error ()

theorem digits_same {l l' : List Char} (h : Forall₂ SameButCase l l') :
    l.all Char.isDigit = l'.all Char.isDigit ∧ (l.all Char.isDigit = true → l = l') := by
  induction h with
  | nil => exact ⟨rfl, fun _ => rfl⟩
  | @cons c d _ _ hc _ ih =>
    rw [List.all_cons, List.all_cons, blind_isDigit _ _ hc, ih.1]
    refine ⟨rfl, fun hall => ?_⟩
    obtain ⟨hdigit, hrest⟩ := Bool.and_eq_true_iff.mp hall
    have hsame : c = d := by
      rcases hc with rfl | ⟨-, hd, -⟩
      · rfl
      · have hnone : d.isDigit = false := russian_induction (p := fun c => c.isDigit = false) (by decide) hd
        rw [hnone] at hdigit
        cases hdigit
    rw [hsame, ih.2 (ih.1.trans hrest)]

theorem parseU32_same {value value' : Option (List Char)} (h : Option.Rel (Forall₂ SameButCase) value value')
    (field : String) : parseU32 value field = parseU32 value' field := by
  cases h with
  | none => rfl
  | @some l l' h =>
    obtain ⟨hall, hsame⟩ := digits_same h
    by_cases hdigits : l.all Char.isDigit = true
    · rw [hsame hdigits]
    · have hdigits' : ¬ l'.all Char.isDigit = true := by rwa [← hall]
      unfold parseU32
      simp only
      rw [if_neg fun hc => hdigits hc.2.1, if_neg fun hc => hdigits' hc.2.1]

theorem outcome_date {taken taken' : Taken} (h : taken.Similar SameButCase taken') (today : NaiveDate) :
    outcome ((Phrase.date taken).deadline today) = outcome ((Phrase.date taken').deadline today) := by
  show outcome (ExceptT.mk (some (absoluteDate taken today))) = outcome (ExceptT.mk (some (absoluteDate taken' today)))
  have hyear := h.group "year"
  unfold absoluteDate
  rw [parseU32_same (h.group "day"), parseU32_same (h.group "month")]
  cases parseU32 (taken'.group "day") "day" with
  | error e => rfl
  | ok day =>
    cases parseU32 (taken'.group "month") "month" with
    | error e => rfl
    | ok month =>
      have hdate : ∀ (year : Int) (raw raw' : String),
          outcome (ExceptT.mk (some (okOrElse (NaiveDate.fromYmdOpt year month day) (invalidDeadlineError "date" raw) >>=
            fun deadline => .ok (some deadline, some raw)))) =
          outcome (ExceptT.mk (some (okOrElse (NaiveDate.fromYmdOpt year month day) (invalidDeadlineError "date" raw') >>=
            fun deadline => .ok (some deadline, some raw')))) := by
        intro year raw raw'
        cases NaiveDate.fromYmdOpt year month day <;> rfl
      generalize taken.group "year" = year at hyear
      generalize taken'.group "year" = year' at hyear
      cases hyear with
      | none => exact hdate _ _ _
      | @some digits digits' hdigits =>
        obtain ⟨hall, hsame⟩ := digits_same hdigits
        by_cases hdecimal : digits.all Char.isDigit = true
        · cases hsame hdecimal
          have hok : ∀ raw, parseYear digits raw = .ok ((Nat.ofDigitChars 10 digits 0 : Nat) : Int) :=
            fun raw => if_pos hdecimal
          simp only [hok]
          exact hdate _ _ _
        · have hdecimal' : ¬ digits'.all Char.isDigit = true := by rwa [← hall]
          have herror : ∀ raw, parseYear digits raw = .error (invalidDeadlineError "year" raw) :=
            fun raw => if_neg hdecimal
          have herror' : ∀ raw, parseYear digits' raw = .error (invalidDeadlineError "year" raw) :=
            fun raw => if_neg hdecimal'
          simp only [herror, herror']
          rfl

theorem outcome_period (taken : Taken) (today : Int) : outcome ((Phrase.period taken).deadline today) =
    match parseU32 (taken.group "value") "value" with
    | .ok value =>
        if NaiveDate.min ≤ today + periodDays taken value ∧ today + periodDays taken value ≤ NaiveDate.max then
          some (.ok (some (today + periodDays taken value)))
        else none
    | .error _ => some (.error ()) := by
  show (periodDate taken today).run.map _ = _
  rw [period_run]
  cases parseU32 (taken.group "value") "value" with
  | error e => rfl
  | ok value =>
    simp only
    split <;> rfl

theorem outcome_weekday (target today : Int) (raw : String) : outcome ((Phrase.weekday target raw).deadline today) =
    let n := daysUntilWeekday (NaiveDate.daysFromMonday today) target
    if NaiveDate.min ≤ today + n ∧ today + n ≤ NaiveDate.max then some (.ok (some (today + n))) else none := by
  unfold outcome Phrase.deadline
  simp only
  rw [ExceptT.run_bind, addDays_run]
  split <;> rfl

/-- One text has a day unit in lower case and the other has not, and days and hours differ. -/
def CaseMatters (today : Int) (phrase phrase' : Option Phrase) : Prop :=
  ∃ taken taken' value, phrase = some (.period taken) ∧ phrase' = some (.period taken') ∧
    parseU32 (taken.group "value") "value" = .ok value ∧ isDayUnit taken ≠ isDayUnit taken' ∧ value ≠ 1 ∧
    (today + value ≤ NaiveDate.max ∨ today + roundedHours value ≤ NaiveDate.max)

theorem days_hours_iff (today : Int) (value : Nat) :
    (value = roundedHours value ∨ NaiveDate.max < today + value ∧ NaiveDate.max < today + roundedHours value) ↔
      ¬ (value ≠ 1 ∧ (today + value ≤ NaiveDate.max ∨ today + roundedHours value ≤ NaiveDate.max)) := by
  have hhours : roundedHours value = Max.max (Min.min (value + 23) 4294967295 / 24) 1 := rfl
  omega

theorem outcome_units_iff {today : Int} (hmin : NaiveDate.min ≤ today) (n n' : Nat) :
    ((if NaiveDate.min ≤ today + n ∧ today + n ≤ NaiveDate.max then some (.ok (some (today + n))) else none :
      Option (Except Unit (Option Int))) =
        if NaiveDate.min ≤ today + n' ∧ today + n' ≤ NaiveDate.max then some (.ok (some (today + n'))) else none) ↔
      (n = n' ∨ NaiveDate.max < today + n ∧ NaiveDate.max < today + n') := by
  have hlow : ∀ k : Nat, NaiveDate.min ≤ today + k := fun k => by omega
  simp only [hlow, true_and]
  by_cases hn : today + n ≤ NaiveDate.max <;> by_cases hn' : today + n' ≤ NaiveDate.max
  · rw [if_pos hn, if_pos hn']
    simp only [Option.some.injEq, Except.ok.injEq]
    omega
  · rw [if_pos hn, if_neg hn']
    simp only [reduceCtorEq, false_iff]
    omega
  · rw [if_neg hn, if_pos hn']
    simp only [reduceCtorEq, false_iff]
    omega
  · rw [if_neg hn, if_neg hn']
    simp only [true_iff]
    omega

/-- **Only the unit of a period depends on the case**: extraction says the same of both texts unless one has
the day unit in lower case and the other has not. -/
theorem outcome_same_iff (tables : UnicodeTables) (x y : String) (h : SameTextButCase x y) (today : NaiveDate)
    (hmin : NaiveDate.min ≤ today) (hmax : today ≤ NaiveDate.max) :
    outcome (extractDeadlineFromText tables x today) = outcome (extractDeadlineFromText tables y today) ↔
      ¬ CaseMatters today (recognize tables (normalizeWhitespace x)) (recognize tables (normalizeWhitespace y)) := by
  rw [extractDeadlineFromText_eq hmin hmax, extractDeadlineFromText_eq hmin hmax]
  have hphrase := recognize_similar tables (normalizeWhitespace_similar h)
  generalize recognize tables (normalizeWhitespace x) = o at hphrase
  generalize recognize tables (normalizeWhitespace y) = o' at hphrase
  have hother : ∀ {phrase phrase' : Option Phrase}, (∀ taken, phrase ≠ some (.period taken)) →
      ¬ CaseMatters today phrase phrase' := by
    rintro phrase phrase' hne ⟨taken, -, -, hperiod, -⟩
    exact hne taken hperiod
  cases hphrase with
  | none => exact iff_of_true rfl (hother nofun)
  | some hphrase =>
    cases hphrase with
    | date h => exact iff_of_true (outcome_date h today) (hother nofun)
    | days n raw => exact iff_of_true rfl (hother nofun)
    | weekday target raw raw' =>
      refine iff_of_true ?_ (hother nofun)
      rw [outcome_weekday, outcome_weekday]
    | @period taken taken' h =>
      have hmatters : CaseMatters today (some (.period taken)) (some (.period taken')) ↔
          ∃ value, parseU32 (taken.group "value") "value" = .ok value ∧ isDayUnit taken ≠ isDayUnit taken' ∧ value ≠ 1 ∧
            (today + value ≤ NaiveDate.max ∨ today + roundedHours value ≤ NaiveDate.max) := by
        constructor
        · rintro ⟨_, _, value, hsame, hsame', hmatters⟩
          cases hsame
          cases hsame'
          exact ⟨value, hmatters⟩
        · rintro ⟨value, hmatters⟩
          exact ⟨taken, taken', value, rfl, rfl, hmatters⟩
      rw [hmatters]
      simp only [outcome_period, parseU32_same (h.group "value")]
      cases parseU32 (taken'.group "value") "value" with
      | error e => exact iff_of_true rfl nofun
      | ok value =>
        refine (outcome_units_iff hmin _ _).trans ?_
        have hdiffer := days_hours_iff today value
        have hread : (∃ value', (.ok value : AppResult Nat) = .ok value' ∧ isDayUnit taken ≠ isDayUnit taken' ∧ value' ≠ 1 ∧
            (today + value' ≤ NaiveDate.max ∨ today + roundedHours value' ≤ NaiveDate.max)) ↔
            isDayUnit taken ≠ isDayUnit taken' ∧ value ≠ 1 ∧
              (today + value ≤ NaiveDate.max ∨ today + roundedHours value ≤ NaiveDate.max) := by
          constructor
          · rintro ⟨_, hsame, hmatters⟩
            cases hsame
            exact hmatters
          · exact fun hmatters => ⟨value, rfl, hmatters⟩
        rw [hread]
        unfold periodDays
        cases isDayUnit taken with
        | false =>
          cases isDayUnit taken' with
          | false => exact iff_of_true (.inl rfl) fun hc => hc.1 rfl
          | true =>
            rw [eq_comm, and_comm] at hdiffer
            simpa using hdiffer
        | true =>
          cases isDayUnit taken' with
          | false => simpa using hdiffer
          | true => exact iff_of_true (.inl rfl) fun hc => hc.1 rfl

end

end Parsing

/-! ## A sample -/

instance (c d : Char) : Decidable (SameButCase c d) := by
  unfold SameButCase
  infer_instance

instance (x y : String) : Decidable (SameTextButCase x y) := by
  unfold SameTextButCase
  infer_instance

theorem outcome_same_tomorrow :
    Parsing.outcome (Parsing.extractDeadlineFromText plainTables "Отчёт ЗАВТРА" sampleToday) =
      Parsing.outcome (Parsing.extractDeadlineFromText plainTables "отчёт завтра" sampleToday) := by
  have htomorrow : Parsing.recognize plainTables (Parsing.normalizeWhitespace "Отчёт ЗАВТРА") = some (.days 1 "завтра") := by
    decide +kernel
  refine (Parsing.outcome_same_iff plainTables _ _ (by decide +kernel) sampleToday (by decide) (by decide)).mpr ?_
  rintro ⟨taken, -, -, hperiod, -⟩
  cases htomorrow.symm.trans hperiod

/-- Two days in capital letters are read as two hours. -/
theorem days_in_capitals : ¬ ∀ (tables : UnicodeTables) (x y : String), SameTextButCase x y →
    ∀ today : NaiveDate, NaiveDate.min ≤ today → today ≤ NaiveDate.max →
      Parsing.outcome (Parsing.extractDeadlineFromText tables x today) =
        Parsing.outcome (Parsing.extractDeadlineFromText tables y today) := by
  intro h
  have hsame := h plainTables "через 2 дня" "через 2 ДНЯ" (by decide +kernel) sampleToday (by decide) (by decide)
  revert hsame
  decide +kernel

end TaskBot
