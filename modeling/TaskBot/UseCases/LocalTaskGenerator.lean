import TaskBot.Domain.CivilDates
import TaskBot.Domain.DeadlinePhrases
import TaskBot.UseCases.TaskCreation

/-!
# The local task generator

Without a model a task is drafted from the text of its request: the first sentence is the title, and
the parts between commas, semicolons and line breaks are the steps.  Every text is cut to its limit;
the number of steps is not.

    generateTask request = .ok …  ↔  the description has at most seven parts   (local_generator_iff)
-/

namespace TaskBot

namespace LocalTaskGenerator

open Parsing MayPanic
open Regex (Taken)

def localTaskGeneratorModel : String := "local-rule-based-generator"

/-! ## The draft -/

def truncateChars (value : String) (limit : Nat) : String := String.ofList (value.toList.take limit)

/-- `value.split(separators)`. -/
def splitAt (separators : List Char) (value : String) : List String :=
  (value.toList.splitOnP fun c => separators.contains c).map String.ofList

def buildTitle (description : String) : String :=
  let firstSentence := (((splitAt ['.', '!', '?'] description).map trim).find? fun value =>
    !value.isEmpty).getD description
  truncateChars firstSentence maxTaskTitleLength

def stepSeparators : List Char := [',', ';', '\n']

def buildSteps (description : String) : List String :=
  let items := (((splitAt stepSeparators description).map trim).filter fun value => !value.isEmpty).map
    fun value => truncateChars value maxTaskStepLength
  if items.isEmpty then [truncateChars (trim description) maxTaskStepLength] else items

def buildExpectedResult (parsedRequest : ParsedTaskRequest) (assigneeDisplay : Option String) : String :=
  let assignee := match assigneeDisplay with
    | some display => ["Исполнитель: " ++ display ++ "."]
    | none => []
  let deadline := match parsedRequest.deadline with
    | some date => ["Срок: " ++ formatDate date ++ "."]
    | none => []
  truncateChars
    (String.intercalate " " ("Задача выполнена и готова к проверке." :: (assignee ++ deadline)))
    maxTaskExpectedResultLength

def buildAcceptanceCriteria (parsedRequest : ParsedTaskRequest) : List String :=
  "Результат можно проверить по факту выполнения." ::
    match parsedRequest.deadline with
    | some date => ["Срок соблюдён: " ++ formatDate date ++ "."]
    | none => []

def structuredTask (parsedRequest : ParsedTaskRequest) (assignee : Option Employee) : StructuredTaskDraft where
  title := buildTitle parsedRequest.taskDescription
  expectedResult := buildExpectedResult parsedRequest
    ((assignee.map Employee.fullName).or parsedRequest.assigneeName)
  steps := buildSteps parsedRequest.taskDescription
  acceptanceCriteria := buildAcceptanceCriteria parsedRequest
  deadlineIso := parsedRequest.deadline.map isoDate
  refused := false
  refusalReason := none

/-- `prettyJson` is the serializer of the draft. -/
def generateTask (prettyJson : StructuredTaskDraft → String) (parsedRequest : ParsedTaskRequest)
    (assignee : Option Employee) : AppResult GeneratedTask := do
  let draft := structuredTask parsedRequest assignee
  draft.validateBusinessRules
  pure ⟨draft, localTaskGeneratorModel, prettyJson draft⟩

/-! ## Lengths -/

theorem charsCount_truncateChars (value : String) (limit : Nat) :
    charsCount (truncateChars value limit) = min limit (charsCount value) := by
  unfold charsCount truncateChars
  rw [String.toList_ofList, List.length_take]

theorem charsCount_append (a b : String) : charsCount (a ++ b) = charsCount a + charsCount b := by
  unfold charsCount
  rw [String.toList_append, List.length_append]

theorem charsCount_pos_iff (value : String) : 0 < charsCount value ↔ value.isEmpty = false := by
  unfold charsCount
  rw [List.length_pos_iff, Bool.eq_false_iff]
  refine not_congr ?_
  rw [String.toList_eq_nil_iff, String.isEmpty_iff]

/-- A joined text is at least as long as its first part. -/
theorem charsCount_intercalate (separator part : String) (parts : List String) :
    charsCount part ≤ charsCount (String.intercalate separator (part :: parts)) := by
  unfold charsCount
  rw [String.toList_intercalate]
  cases parts with
  | nil => simp
  | cons next parts =>
    simp only [List.map_cons, List.intercalate_cons_cons, List.length_append]
    omega

theorem charsCount_zeroPadded {value : Int} (h : IsI64 value) {width : Nat} (hwidth : width ≤ 20) :
    charsCount (zeroPadded width value) ≤ 20 := by
  have hdigits := length_idText_le h
  unfold idText at hdigits
  unfold zeroPadded charsCount
  simp only [String.toList_append, String.toList_ofList, List.length_append, List.length_replicate,
    ← String.length_toList]
  omega

/-- Far beyond what a `NaiveDate` can be. -/
def NearDate (date : Int) : Prop := -100000000 ≤ date ∧ date ≤ 100000000

theorem charsCount_formatDate {date : Int} (h : NearDate date) : charsCount (formatDate date) ≤ 63 := by
  obtain ⟨year, month, day, hdate, hcivil, hdays⟩ := civil_round_trip date
  have hmonth : month ≤ 12 := hcivil.2.1
  have hday : day ≤ 31 := hcivil.2.2.2.trans (length_of_month_le year month)
  have hyear : -1000000 ≤ year ∧ year ≤ 1000000 := by
    unfold NearDate at h
    rw [daysFromCivil_eq] at hdays
    unfold marchStart at hdays
    split at hdays <;> omega
  have hyearText : charsCount (formatYear year) ≤ 21 := by
    have hdigits := @charsCount_zeroPadded year (by unfold IsI64; omega) 4 (by decide)
    have hsigned := @charsCount_zeroPadded year.natAbs (by unfold IsI64; omega) 4 (by decide)
    have hplus : charsCount "+" = 1 := by decide
    have hminus : charsCount "-" = 1 := by decide
    unfold formatYear
    split
    · omega
    · rw [charsCount_append]
      split <;> omega
  have hmonthText := @charsCount_zeroPadded month (by unfold IsI64; omega) 2 (by decide)
  have hdayText := @charsCount_zeroPadded day (by unfold IsI64; omega) 2 (by decide)
  have hdot : charsCount "." = 1 := by decide
  unfold formatDate
  rw [hdate]
  simp only [charsCount_append, hdot]
  omega

/-! ## The texts of the draft -/

section

variable {description : String}

theorem buildTitle_fits (h : description.isEmpty = false) :
    0 < charsCount (buildTitle description) ∧ charsCount (buildTitle description) ≤ maxTaskTitleLength := by
  unfold buildTitle
  rw [charsCount_truncateChars]
  have hlimit : 0 < maxTaskTitleLength := by decide
  have hsentence : 0 < charsCount ((((splitAt ['.', '!', '?'] description).map trim).find? fun value =>
      !value.isEmpty).getD description) := by
    rw [charsCount_pos_iff]
    cases hfind : ((splitAt ['.', '!', '?'] description).map trim).find? fun value => !value.isEmpty with
    | none => exact h
    | some sentence =>
      have hfull := List.find?_some hfind
      rw [Bool.not_eq_true'] at hfull
      exact hfull
  omega

theorem buildExpectedResult_fits (parsedRequest : ParsedTaskRequest) (assigneeDisplay : Option String) :
    0 < charsCount (buildExpectedResult parsedRequest assigneeDisplay) ∧
      charsCount (buildExpectedResult parsedRequest assigneeDisplay) ≤ maxTaskExpectedResultLength := by
  unfold buildExpectedResult
  rw [charsCount_truncateChars]
  have hlimit : 0 < maxTaskExpectedResultLength := by decide
  have hstart : 0 < charsCount "Задача выполнена и готова к проверке." := by decide
  constructor
  · exact Nat.lt_min.mpr ⟨hlimit, hstart.trans_le (charsCount_intercalate _ _ _)⟩
  · exact Nat.min_le_left _ _

/-- The parts of a text between commas, semicolons and line breaks that are not blank. -/
def stepParts (description : String) : List (List Char) :=
  (description.toList.splitOnP fun c => stepSeparators.contains c).filter fun part => !part.all isWhitespace

theorem isEmpty_trim (part : List Char) : (trim (String.ofList part)).isEmpty = part.all isWhitespace := by
  rw [Bool.eq_iff_iff, String.isEmpty_iff, ← String.toList_eq_nil_iff, toList_trim, String.toList_ofList]
  unfold trimChars
  rw [List.reverse_eq_nil_iff, List.dropWhile_eq_nil_iff, List.all_eq_true]
  constructor
  · intro h c hc
    by_contra hink
    have hkept : c ∈ part.dropWhile isWhitespace := by
      have hsplit := List.takeWhile_append_dropWhile (p := isWhitespace) (l := part)
      rw [← hsplit, List.mem_append] at hc
      rcases hc with hc | hc
      · exact absurd (List.mem_takeWhile_imp hc) hink
      · exact hc
    exact hink (h c (List.mem_reverse.mpr hkept))
  · intro h c hc
    exact h c ((List.dropWhile_suffix isWhitespace).subset (List.mem_reverse.mp hc))

/-- The steps are the parts that are not blank, or the whole text if there are none. -/
theorem length_buildSteps (description : String) :
    (buildSteps description).length = max 1 (stepParts description).length := by
  have hitems : ((((splitAt stepSeparators description).map trim).filter fun value => !value.isEmpty).map
      fun value => truncateChars value maxTaskStepLength).length = (stepParts description).length := by
    unfold splitAt stepParts
    rw [List.length_map, List.map_map, List.filter_map, List.length_map]
    refine congrArg List.length (List.filter_congr fun part _ => ?_)
    rw [Function.comp_apply, Function.comp_apply, isEmpty_trim]
  unfold buildSteps
  dsimp only
  split
  · next hempty =>
    rw [List.isEmpty_iff] at hempty
    rw [hempty] at hitems
    rw [← hitems]
    rfl
  · next hfull =>
    rw [hitems]
    have hpos : 0 < (stepParts description).length := by
      rw [← hitems, List.length_pos_iff]
      simpa using hfull
    omega

theorem buildSteps_fit : ∀ step ∈ buildSteps description, charsCount step ≤ maxTaskStepLength := by
  intro step hstep
  have hcut : ∃ value, step = truncateChars value maxTaskStepLength := by
    unfold buildSteps at hstep
    dsimp only at hstep
    split at hstep
    · exact ⟨_, List.mem_singleton.mp hstep⟩
    · obtain ⟨value, -, rfl⟩ := List.mem_map.mp hstep
      exact ⟨value, rfl⟩
  obtain ⟨value, rfl⟩ := hcut
  rw [charsCount_truncateChars]
  exact Nat.min_le_left _ _

theorem buildAcceptanceCriteria_fit {parsedRequest : ParsedTaskRequest}
    (hdate : ∀ date ∈ parsedRequest.deadline, NearDate date) :
    (buildAcceptanceCriteria parsedRequest).length ≤ maxAcceptanceCriteria ∧
      ∀ criterion ∈ buildAcceptanceCriteria parsedRequest,
        charsCount criterion ≤ maxTaskAcceptanceCriterionLength := by
  have hplain : charsCount "Результат можно проверить по факту выполнения." ≤
      maxTaskAcceptanceCriterionLength := by decide
  unfold buildAcceptanceCriteria
  cases hdeadline : parsedRequest.deadline with
  | none =>
    refine ⟨by decide, fun criterion hcriterion => ?_⟩
    rw [List.mem_singleton.mp hcriterion]
    exact hplain
  | some date =>
    refine ⟨Nat.le_of_ble_eq_true rfl, fun criterion hcriterion => ?_⟩
    rcases List.mem_cons.mp hcriterion with rfl | hcriterion
    · exact hplain
    · have hlength := charsCount_formatDate (hdate date hdeadline)
      have hbefore : charsCount "Срок соблюдён: " = 15 := by decide
      have hdot : charsCount "." = 1 := by decide
      rw [List.mem_singleton.mp hcriterion, charsCount_append, charsCount_append, hbefore, hdot]
      unfold maxTaskAcceptanceCriterionLength
      omega

end

/-! ## Parsed requests -/

/-- A date that is written out is one that exists. -/
theorem absoluteDate_exists {taken : Taken} {today date : Int} {raw : Option String}
    (h : absoluteDate taken today = .ok (some date, raw)) :
    ∃ year month day, NaiveDate.fromYmdOpt year month day = some date := by
  unfold absoluteDate at h
  obtain ⟨day, -, h⟩ := bind_eq_ok h
  obtain ⟨month, -, h⟩ := bind_eq_ok h
  have hread : ∃ year, okOrElse (NaiveDate.fromYmdOpt year month day)
      (invalidDeadlineError "date" (matchedText taken)) = .ok date := by
    cases hyear : taken.group "year" with
    | none =>
      rw [hyear] at h
      obtain ⟨year, -, h⟩ := bind_eq_ok h
      obtain ⟨deadline, hdeadline, h⟩ := bind_eq_ok h
      cases h
      exact ⟨_, hdeadline⟩
    | some digits =>
      rw [hyear] at h
      obtain ⟨year, -, h⟩ := bind_eq_ok h
      obtain ⟨deadline, hdeadline, h⟩ := bind_eq_ok h
      cases h
      exact ⟨_, hdeadline⟩
  obtain ⟨year, hdate⟩ := hread
  refine ⟨year, month, day, ?_⟩
  cases hvalid : NaiveDate.fromYmdOpt year month day with
  | none =>
    rw [hvalid] at hdate
    cases hdate
  | some _ =>
    rw [hvalid] at hdate
    cases hdate
    rfl

theorem near_of_naiveDate {date : Int} (h : NaiveDate.min ≤ date ∧ date ≤ NaiveDate.max) : NearDate date := by
  unfold NaiveDate.min NaiveDate.max at h
  unfold NearDate
  omega

theorem near_of_fromYmdOpt {year date : Int} {month day : Nat}
    (h : NaiveDate.fromYmdOpt year month day = some date) : NearDate date := by
  unfold NaiveDate.fromYmdOpt at h
  split at h
  · next hvalid =>
    obtain ⟨hmin, hmax, -, hmonth, -, hday⟩ := hvalid
    have hlength := length_of_month_le year month
    have hdate := Option.some.inj h
    rw [daysFromCivil_eq] at hdate
    unfold marchStart at hdate
    unfold NearDate
    split at hdate <;> omega
  · cases h

theorem extracted_near {tables : UnicodeTables} {text : String} {today date : Int} {raw : Option String}
    (hmin : NaiveDate.min ≤ today) (hmax : today ≤ NaiveDate.max)
    (h : (extractDeadlineFromText tables text today).run = some (.ok (some date, raw))) : NearDate date := by
  have hadded : ∀ {n : Int} {phrase : String},
      (do let deadline ← addDays today n; pure (some deadline, some phrase) : MayPanic Extracted).run =
        some (.ok (some date, raw)) → NearDate date := by
    intro n phrase h
    obtain ⟨deadline, hdeadline, h⟩ := bind_ok_iff.mp h
    cases h
    rw [addDays_run] at hdeadline
    split at hdeadline
    · next hrange =>
      cases hdeadline
      exact near_of_naiveDate hrange
    · cases hdeadline
  rw [extractDeadlineFromText_eq hmin hmax] at h
  cases hphrase : recognize tables (normalizeWhitespace text) with
  | none =>
    rw [hphrase] at h
    cases h
  | some phrase =>
    rw [hphrase] at h
    cases phrase with
    | date taken =>
      obtain ⟨year, month, day, hdate⟩ := absoluteDate_exists (Option.some.inj h)
      exact near_of_fromYmdOpt hdate
    | days n raw' => exact hadded h
    | weekday target raw' => exact hadded h
    | period taken =>
      have hrun : (periodDate taken today).run = some (.ok (some date, raw)) := h
      rw [period_run] at hrun
      split at hrun
      · split at hrun
        · next hrange =>
          cases hrun
          exact near_of_naiveDate hrange
        · cases hrun
      · cases hrun

/-- What a parsed request is known to be. -/
theorem parsed_request {tables : UnicodeTables} {text : String} {today : Int} {request : ParsedTaskRequest}
    (hmin : NaiveDate.min ≤ today) (hmax : today ≤ NaiveDate.max)
    (h : (parseTaskRequest tables text today).run = some (.ok request)) :
    validateDescription tables request.taskDescription = .ok () ∧ ∀ date ∈ request.deadline, NearDate date := by
  unfold parseTaskRequest at h
  obtain ⟨⟨deadline, raw⟩, hdeadline, h⟩ := bind_ok_iff.mp h
  obtain ⟨⟨⟩, hvalid, h⟩ := bind_ok_iff.mp h
  have hrequest := Except.ok.inj (Option.some.inj h)
  rw [← hrequest]
  refine ⟨Option.some.inj hvalid, fun date hdate => ?_⟩
  rw [Option.mem_def] at hdate
  dsimp only at hdate
  rw [hdate] at hdeadline
  exact extracted_near hmin hmax hdeadline

theorem description_of_valid {tables : UnicodeTables} {description : String}
    (h : validateDescription tables description = .ok ()) : description.isEmpty = false := by
  unfold validateDescription at h
  rw [← charsCount_pos_iff]
  split at h
  · cases h
  · next hlong =>
    unfold minTaskDescriptionLength at hlong
    omega

/-! ## Acceptance -/

theorem find_long_none {texts : List String} {limit : Nat} (h : ∀ text ∈ texts, charsCount text ≤ limit) :
    (texts.map charsCount).find? (· > limit) = none := by
  rw [List.find?_eq_none]
  intro n hn
  obtain ⟨text, htext, rfl⟩ := List.mem_map.mp hn
  have hfits := h text htext
  simpa using hfits

/-- The texts of a draft are within their limits. -/
structure TextsFit (d : StructuredTaskDraft) : Prop where
  kept : d.refused = false
  title : 0 < charsCount d.title ∧ charsCount d.title ≤ maxTaskTitleLength
  result : 0 < charsCount d.expectedResult ∧ charsCount d.expectedResult ≤ maxTaskExpectedResultLength
  steps : ∀ step ∈ d.steps, charsCount step ≤ maxTaskStepLength
  criteriaCount : d.acceptanceCriteria.length ≤ maxAcceptanceCriteria
  criteria : ∀ criterion ∈ d.acceptanceCriteria, charsCount criterion ≤ maxTaskAcceptanceCriterionLength

/-- What is left to check of such a draft is the number of its steps. -/
theorem TextsFit.validate_iff {d : StructuredTaskDraft} (h : TextsFit d) :
    d.validateBusinessRules = .ok () ↔ minTaskSteps ≤ d.steps.length ∧ d.steps.length ≤ maxTaskSteps := by
  have hfields : d.invalidFields = [] := by
    have htitle := h.title
    have hresult := h.result
    unfold maxTaskTitleLength at htitle
    unfold StructuredTaskDraft.invalidFields
    rw [if_neg (by omega), if_neg (by omega)]
    rfl
  have hrefused : ¬ d.refused = true := by
    rw [h.kept]
    exact Bool.false_ne_true
  unfold StructuredTaskDraft.validateBusinessRules
  rw [if_neg hrefused, if_neg (not_not_intro hfields)]
  by_cases hcount : minTaskSteps ≤ d.steps.length ∧ d.steps.length ≤ maxTaskSteps
  · rw [if_neg (not_not_intro hcount), if_neg (Nat.not_lt.mpr h.criteriaCount),
      if_neg (Nat.not_lt.mpr h.title.2), if_neg (Nat.not_lt.mpr h.result.2), find_long_none h.steps,
      find_long_none h.criteria]
    exact iff_of_true rfl hcount
  · rw [if_pos hcount]
    exact iff_of_false nofun hcount

section

variable {request : ParsedTaskRequest}

/-- Every text is cut to its limit. -/
theorem textsFit_structuredTask (assignee : Option Employee)
    (hdescription : request.taskDescription.isEmpty = false) (hdate : ∀ date ∈ request.deadline, NearDate date) :
    TextsFit (structuredTask request assignee) where
  kept := rfl
  title := buildTitle_fits hdescription
  result := buildExpectedResult_fits request _
  steps := buildSteps_fit
  criteriaCount := (buildAcceptanceCriteria_fit hdate).1
  criteria := (buildAcceptanceCriteria_fit hdate).2

/-- The number of steps is not cut. -/
theorem validate_structuredTask_iff (assignee : Option Employee)
    (hdescription : request.taskDescription.isEmpty = false) (hdate : ∀ date ∈ request.deadline, NearDate date) :
    (structuredTask request assignee).validateBusinessRules = .ok () ↔
      (stepParts request.taskDescription).length ≤ maxTaskSteps := by
  rw [(textsFit_structuredTask assignee hdescription hdate).validate_iff]
  show minTaskSteps ≤ (buildSteps request.taskDescription).length ∧
    (buildSteps request.taskDescription).length ≤ maxTaskSteps ↔ _
  rw [length_buildSteps]
  unfold minTaskSteps maxTaskSteps
  omega

theorem generateTask_ok_iff (prettyJson : StructuredTaskDraft → String) (assignee : Option Employee) :
    (∃ generated, generateTask prettyJson request assignee = .ok generated ∧
        generated.structuredTask.validateBusinessRules = .ok ()) ↔
      (structuredTask request assignee).validateBusinessRules = .ok () := by
  unfold generateTask
  constructor
  · rintro ⟨generated, hrun, -⟩
    obtain ⟨⟨⟩, hvalid, -⟩ := bind_eq_ok hrun
    exact hvalid
  · intro hvalid
    refine ⟨⟨structuredTask request assignee, localTaskGeneratorModel,
      prettyJson (structuredTask request assignee)⟩, ?_, hvalid⟩
    dsimp only
    rw [hvalid]
    rfl

end

/-- **The local generator drafts every parsed request of at most seven parts**, and no other one: the
steps are not cut to their number. -/
theorem local_generator_iff (tables : UnicodeTables) (prettyJson : StructuredTaskDraft → String) (text : String)
    (today : NaiveDate) (hmin : NaiveDate.min ≤ today) (hmax : today ≤ NaiveDate.max)
    (request : ParsedTaskRequest) (h : (parseTaskRequest tables text today).run = some (.ok request))
    (assignee : Option Employee) :
    (∃ generated, generateTask prettyJson request assignee = .ok generated ∧
        generated.structuredTask.validateBusinessRules = .ok ()) ↔
      (stepParts request.taskDescription).length ≤ maxTaskSteps := by
  obtain ⟨hvalid, hdate⟩ := parsed_request hmin hmax h
  rw [generateTask_ok_iff]
  exact validate_structuredTask_iff assignee (description_of_valid hvalid) hdate

def plainRequest (description : String) : ParsedTaskRequest where
  assigneeName := none
  taskDescription := description
  deadline := none
  deadlineRaw := none
  explicitUnassigned := false
  confidenceScore := 60

theorem report_drafted :
    (parseTaskRequest plainTables "Подготовить отчёт, отправить директору" sampleToday).run =
      some (.ok (plainRequest "Подготовить отчёт, отправить директору")) ∧
    ∃ generated, generateTask (fun _ => "{}") (plainRequest "Подготовить отчёт, отправить директору") none =
        .ok generated ∧ generated.structuredTask.validateBusinessRules = .ok () := by
  have hparsed : (parseTaskRequest plainTables "Подготовить отчёт, отправить директору" sampleToday).run =
      some (.ok (plainRequest "Подготовить отчёт, отправить директору")) := by decide +kernel
  exact ⟨hparsed, (local_generator_iff plainTables _ _ sampleToday (by decide) (by decide) _ hparsed none).mpr
    (by decide +kernel)⟩

/-- Eight things to buy. -/
def shoppingList : String := "Купить хлеб, молоко, сыр, масло, яйца, соль, сахар, чай"

theorem shopping_refused :
    (parseTaskRequest plainTables shoppingList sampleToday).run = some (.ok (plainRequest shoppingList)) ∧
    generateTask (fun _ => "{}") (plainRequest shoppingList) none =
      .error (.businessRule "TASK_STEPS_INVALID" "Task must contain between 1 and 7 concrete steps"
        [("count", .int 8)]) ∧
    ¬ ∃ generated, generateTask (fun _ => "{}") (plainRequest shoppingList) none = .ok generated ∧
        generated.structuredTask.validateBusinessRules = .ok () := by
  have hrefused : generateTask (fun _ => "{}") (plainRequest shoppingList) none =
      .error (.businessRule "TASK_STEPS_INVALID" "Task must contain between 1 and 7 concrete steps"
        [("count", .int 8)]) := by decide +kernel
  refine ⟨by decide +kernel, hrefused, ?_⟩
  rintro ⟨generated, hrun, -⟩
  rw [hrefused] at hrun
  cases hrun

end LocalTaskGenerator

end TaskBot
