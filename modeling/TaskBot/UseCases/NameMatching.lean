import Mathlib.Algebra.Order.Ring.Rat
import Mathlib.Tactic.Linarith
import TaskBot.UseCases.AssigneeResolution

/-!
# Name matching

A text against the directory, tier by tier: the username, the full name, for a single
word the first name and its beginnings, and last what is merely similar.  How similar
two texts are is a parameter (`similarity`, an exact fraction), as is the lowercasing
of the standard library.

    a text that meets an exact criterion is given to the first employee who meets it,
    unless the criterion is the first name and several do          (ranking_named)
    a text that meets none is given to an employee without asking exactly if that
    employee alone is similar to it, and by 95 %                   (ranking_unnamed)
-/

namespace TaskBot

inductive EmployeeMatchOutcome where
  | unique (found : EmployeeMatch)
  | ambiguous (candidates : List EmployeeMatch)
  | notFound
deriving DecidableEq, Repr

namespace NameMatching

def highConfidenceThreshold : Nat := 95
def suggestedConfidenceThreshold : Nat := 75
def prefixMatchConfidence : Nat := 78
def minPrefixQueryLen : Nat := 2

/-- `MIN_EMPLOYEE_MATCH_CONFIDENCE`. -/
def minEmployeeMatchConfidence : Rat := 4 / 5

/-- `split_whitespace`. -/
def splitWhitespace (value : String) : List String :=
  ((value.toList.splitBy fun a b => isWhitespace a == isWhitespace b).filter fun w =>
    !w.all isWhitespace).map String.ofList

inductive EmployeeQueryKind where
  | username | firstName | fullName
deriving DecidableEq, Repr

/-- `(similarity * 100.0).round() as u8`. -/
def confidence (similarity : Rat) : Nat := min 255 (similarity * 100 + 1 / 2).floor.toNat

/-- `compare_matches`: the surer first, then by name. -/
def compareMatches (left right : EmployeeMatch) : Bool :=
  right.confidence < left.confidence ||
    (right.confidence = left.confidence && left.employee.fullName ≤ right.employee.fullName)

def resolveExactMatches : List EmployeeMatch → Option EmployeeMatchOutcome
  | [] => none
  | [m] => some (.unique m)
  | ms => some (.ambiguous ms)

def resolveSuggestions (found : List EmployeeMatch) : EmployeeMatchOutcome :=
  if found.isEmpty then .notFound else .ambiguous found

/-- What a list of candidates comes to. -/
def rankCandidates (candidates : List EmployeeMatch) : RankedOutcome :=
  match candidates.filter fun m => suggestedConfidenceThreshold ≤ m.confidence with
  | [] => .notFound
  | [top] => if highConfidenceThreshold ≤ top.confidence then .unique top else .suggested top []
  | top :: next :: rest =>
      if highConfidenceThreshold ≤ top.confidence && next.confidence < suggestedConfidenceThreshold then
        .unique top
      else if suggestedConfidenceThreshold ≤ top.confidence then .suggested top (next :: rest)
      else .ambiguous (top :: next :: rest)

def rankOutcome : EmployeeMatchOutcome → RankedOutcome
  | .unique top =>
      if highConfidenceThreshold ≤ top.confidence then .unique top
      else if suggestedConfidenceThreshold ≤ top.confidence then .suggested top []
      else .notFound
  | .ambiguous candidates => rankCandidates candidates
  | .notFound => .notFound

section

variable (toLowercase : String → String) (similarity : String → String → Rat)

def normalizeName (value : String) : String :=
  collapseWhitespace (String.ofList ((toLowercase (trim value)).toList.map fun c => if c = 'ё' then 'е' else c))

def normalizeUsername (value : String) : String := toLowercase (UserRepository.withoutAt (trim value))

def classifyQuery (value : String) : EmployeeQueryKind :=
  if (trimStart value).toList.head? = some '@' then .username
  else if (splitWhitespace (normalizeName toLowercase value)).length ≤ 1 then .firstName
  else .fullName

def firstName (e : Employee) : String :=
  ((splitWhitespace e.fullName).head?.map (normalizeName toLowercase)).getD ""

def collectMatches (employees : List Employee) (normalizedQuery : String) (strategy : MatchStrategy)
    (extractor : Employee → String) : List EmployeeMatch :=
  ((employees.filterMap fun e =>
    let s := similarity normalizedQuery (extractor e)
    if s < minEmployeeMatchConfidence then none else some ⟨e, confidence s, strategy⟩).mergeSort
      compareMatches).take 3

/-- The first name begins with the query and is longer. -/
def isPrefixMatch (normalizedQuery : String) (e : Employee) : Bool :=
  normalizedQuery.toList.isPrefixOf (firstName toLowercase e).toList &&
    charsCount normalizedQuery < charsCount (firstName toLowercase e)

def prefixMatches (employees : List Employee) (normalizedQuery : String) : List EmployeeMatch :=
  if minPrefixQueryLen ≤ charsCount normalizedQuery then
    (employees.filter (isPrefixMatch toLowercase normalizedQuery)).map fun e =>
      ⟨e, prefixMatchConfidence, .prefixFirstName⟩
  else []

/-- The tiers of a single word: the first name, its beginnings, what is similar to it. -/
def matchFirstName (employees : List Employee) (normalizedQuery : String) : EmployeeMatchOutcome :=
  match resolveExactMatches ((employees.filter fun e => firstName toLowercase e = normalizedQuery).map fun e =>
      ⟨e, 100, .exactFirstName⟩) with
  | some outcome => outcome
  | none =>
      match prefixMatches toLowercase employees normalizedQuery with
      | [m] => .unique m
      | [] => resolveSuggestions (collectMatches similarity employees normalizedQuery .suggestedFirstName
          (firstName toLowercase))
      | ms => .ambiguous (ms.mergeSort compareMatches)

def matchEmployeeName (query : String) (employees : List Employee) : EmployeeMatchOutcome :=
  let normalizedQuery := normalizeName toLowercase query
  let normalizedUsernameQuery := normalizeUsername toLowercase query
  match employees.find? fun e =>
      e.telegramUsername.map (normalizeUsername toLowercase) = some normalizedUsernameQuery with
  | some e => .unique ⟨e, 100, .exactUsername⟩
  | none =>
      match employees.find? fun e => normalizeName toLowercase e.fullName = normalizedQuery with
      | some e => .unique ⟨e, 100, .exactFullName⟩
      | none =>
          if classifyQuery toLowercase query = .firstName then
            matchFirstName toLowercase similarity employees normalizedQuery
          else
            resolveSuggestions (collectMatches similarity employees normalizedQuery .suggestedFullName
              fun e => normalizeName toLowercase e.fullName)

/-- `rank_outcome(match_employee_name(query, employees))`. -/
def ranking : NameRanking := fun query employees =>
  rankOutcome (matchEmployeeName toLowercase similarity query employees)

end

/-! ## What the ranking makes of candidates -/

section

variable {candidates : List EmployeeMatch} {m : EmployeeMatch}

theorem rankCandidates_unique : rankCandidates candidates = .unique m ↔
    (candidates.filter fun m => suggestedConfidenceThreshold ≤ m.confidence) = [m] ∧
      highConfidenceThreshold ≤ m.confidence := by
  unfold rankCandidates
  cases hkept : candidates.filter fun m => suggestedConfidenceThreshold ≤ m.confidence with
  | nil => simp
  | cons top others =>
    cases others with
    | nil =>
      by_cases hhigh : highConfidenceThreshold ≤ top.confidence
      · simp only [hhigh, if_true, RankedOutcome.unique.injEq, List.cons.injEq, and_true]
        exact ⟨fun h => ⟨h, h ▸ hhigh⟩, fun h => h.1⟩
      · simp only [hhigh, if_false, reduceCtorEq, false_iff, List.cons.injEq, and_true, not_and]
        rintro rfl
        exact hhigh
    | cons next rest =>
      -- the second of the candidates that are left is sure enough to be one
      have hnext : suggestedConfidenceThreshold ≤ next.confidence := by
        have hmem : next ∈ candidates.filter fun m => suggestedConfidenceThreshold ≤ m.confidence := by
          rw [hkept]
          exact List.mem_cons_of_mem _ List.mem_cons_self
        exact of_decide_eq_true (List.mem_filter.mp hmem).2
      have hlow : ¬ next.confidence < suggestedConfidenceThreshold := Nat.not_lt.mpr hnext
      simp only [hlow, decide_false, Bool.and_false, Bool.false_eq_true, if_false, List.cons.injEq,
        reduceCtorEq, and_false, false_and, iff_false]
      split <;> simp

theorem rankCandidates_notFound : rankCandidates candidates = .notFound ↔
    (candidates.filter fun m => suggestedConfidenceThreshold ≤ m.confidence) = [] := by
  unfold rankCandidates
  cases candidates.filter fun m => suggestedConfidenceThreshold ≤ m.confidence with
  | nil => simp
  | cons top others =>
    cases others with
    | nil => simp only [reduceCtorEq, iff_false]; split <;> simp
    | cons next rest =>
      simp only [reduceCtorEq, iff_false]
      split
      · simp
      · split <;> simp

/-- The user is shown candidates. -/
def Suggests : RankedOutcome → Prop
  | .suggested _ _ => True
  | .ambiguous _ => True
  | .unique _ => False
  | .notFound => False

theorem suggests_of {r : RankedOutcome} (hunique : ∀ m, r ≠ .unique m) (hfound : r ≠ .notFound) :
    Suggests r := by
  cases r with
  | unique m => exact absurd rfl (hunique m)
  | suggested top rest => trivial
  | ambiguous candidates => trivial
  | notFound => exact absurd rfl hfound

/-- Several sure enough candidates are shown to the user. -/
theorem suggests_of_many {n : Nat}
    (hsure : ∀ m ∈ candidates, suggestedConfidenceThreshold ≤ m.confidence)
    (hmany : candidates.length = n + 2) : Suggests (rankCandidates candidates) := by
  have hkept : (candidates.filter fun m => suggestedConfidenceThreshold ≤ m.confidence) = candidates :=
    List.filter_eq_self.mpr fun m hm => decide_eq_true (hsure m hm)
  refine suggests_of (fun m h => ?_) fun h => ?_
  · have hone := (rankCandidates_unique.mp h).1
    rw [hkept] at hone
    rw [hone] at hmany
    cases hmany
  · rw [rankCandidates_notFound, hkept] at h
    rw [h] at hmany
    cases hmany

theorem confidence_sure {s : Rat} (h : minEmployeeMatchConfidence ≤ s) :
    suggestedConfidenceThreshold ≤ confidence s := by
  have hfloor : (75 : Int) ≤ (s * 100 + 1 / 2).floor := by
    rw [Rat.le_floor_iff]
    unfold minEmployeeMatchConfidence at h
    push_cast
    linarith
  unfold suggestedConfidenceThreshold confidence
  omega

end

/-! ## What is merely similar -/

section

variable (similarity : String → String → Rat) {employees : List Employee} {q : String}
  {strategy : MatchStrategy} {key : Employee → String} {m : EmployeeMatch}

/-- The employees whose key is similar enough. -/
def similarTo (employees : List Employee) (q : String) (key : Employee → String) : List Employee :=
  employees.filter fun e => minEmployeeMatchConfidence ≤ similarity q (key e)

theorem collectMatches_eq : collectMatches similarity employees q strategy key =
    (((similarTo similarity employees q key).map fun e =>
      ⟨e, confidence (similarity q (key e)), strategy⟩).mergeSort compareMatches).take 3 := by
  unfold collectMatches similarTo
  rw [← List.filterMap_eq_map, List.filterMap_filter]
  congr 3
  funext e
  by_cases h : similarity q (key e) < minEmployeeMatchConfidence
  · simp [h, Rat.not_le.mpr h]
  · simp [h, Rat.not_lt.mp h]

theorem collectMatches_sure (hm : m ∈ collectMatches similarity employees q strategy key) :
    suggestedConfidenceThreshold ≤ m.confidence := by
  rw [collectMatches_eq] at hm
  have hmem := (List.mergeSort_perm _ _).mem_iff.mp (List.mem_of_mem_take hm)
  obtain ⟨e, he, rfl⟩ := List.mem_map.mp hmem
  exact confidence_sure (of_decide_eq_true (List.mem_filter.mp he).2)

theorem collectMatches_length (employees : List Employee) (q : String) (strategy : MatchStrategy)
    (key : Employee → String) : (collectMatches similarity employees q strategy key).length =
      min 3 (similarTo similarity employees q key).length := by
  rw [collectMatches_eq, List.length_take, (List.mergeSort_perm _ _).length_eq, List.length_map]

/-- Suggestions name one employee without asking only if there is one, and similar by 95 %. -/
theorem rank_suggestions_unique :
    rankOutcome (resolveSuggestions (collectMatches similarity employees q strategy key)) = .unique m ↔
      ∃ e, similarTo similarity employees q key = [e] ∧
        highConfidenceThreshold ≤ confidence (similarity q (key e)) ∧
        m = ⟨e, confidence (similarity q (key e)), strategy⟩ := by
  have hkept : (collectMatches similarity employees q strategy key).filter
      (fun m => suggestedConfidenceThreshold ≤ m.confidence) =
      collectMatches similarity employees q strategy key :=
    List.filter_eq_self.mpr fun m hm => decide_eq_true (collectMatches_sure similarity hm)
  have hrank : rankOutcome (resolveSuggestions (collectMatches similarity employees q strategy key)) =
      .unique m ↔ collectMatches similarity employees q strategy key = [m] ∧
        highConfidenceThreshold ≤ m.confidence := by
    unfold resolveSuggestions
    by_cases hnone : (collectMatches similarity employees q strategy key).isEmpty = true
    · rw [if_pos hnone, List.isEmpty_iff.mp hnone]
      simp [rankOutcome]
    · rw [if_neg hnone]
      show rankCandidates _ = .unique m ↔ _
      rw [rankCandidates_unique, hkept]
  rw [hrank]
  constructor
  · rintro ⟨hone, hhigh⟩
    have hlen := collectMatches_length similarity employees q strategy key
    rw [hone, List.length_singleton] at hlen
    obtain ⟨e, he⟩ := List.length_eq_one_iff.mp (show (similarTo similarity employees q key).length = 1 by omega)
    rw [collectMatches_eq, he] at hone
    obtain rfl : ⟨e, confidence (similarity q (key e)), strategy⟩ = m := by simpa using hone
    exact ⟨e, he, hhigh, rfl⟩
  · rintro ⟨e, he, hhigh, rfl⟩
    refine ⟨?_, hhigh⟩
    rw [collectMatches_eq, he]
    simp

/-- Suggestions there are are shown, or name one employee. -/
theorem rank_suggestions_found (h : similarTo similarity employees q key ≠ []) :
    rankOutcome (resolveSuggestions (collectMatches similarity employees q strategy key)) ≠ .notFound := by
  have hlen := collectMatches_length similarity employees q strategy key
  have hpos := List.length_pos_of_ne_nil h
  have hfull : (collectMatches similarity employees q strategy key).isEmpty = false := by
    cases hc : collectMatches similarity employees q strategy key with
    | nil =>
      rw [hc, List.length_nil] at hlen
      omega
    | cons m ms => rfl
  unfold resolveSuggestions
  rw [hfull, if_neg Bool.false_ne_true]
  show rankCandidates _ ≠ .notFound
  rw [ne_eq, rankCandidates_notFound, List.filter_eq_self.mpr fun m hm =>
    decide_eq_true (collectMatches_sure similarity hm)]
  intro hnil
  rw [hnil] at hfull
  cases hfull

end

/-! ## Tier by tier -/

/-- What a text can name an employee by. -/
inductive Criterion where
  | username | fullName | firstName
deriving DecidableEq, Repr

section

variable (toLowercase : String → String)

def Criterion.meets (query : String) : Criterion → Employee → Bool
  | .username, e =>
      e.telegramUsername.map (normalizeUsername toLowercase) = some (normalizeUsername toLowercase query)
  | .fullName, e => normalizeName toLowercase e.fullName = normalizeName toLowercase query
  | .firstName, e => NameMatching.firstName toLowercase e = normalizeName toLowercase query

/-- The employees of the directory the text names by the criterion. -/
def meeting (query : String) (employees : List Employee) (c : Criterion) : List Employee :=
  employees.filter (c.meets toLowercase query)

/-- The first criterion that some employee meets; a first name is looked for if the text is a single word. -/
def criterionUsed (query : String) (employees : List Employee) : Option Criterion :=
  if meeting toLowercase query employees .username ≠ [] then some .username
  else if meeting toLowercase query employees .fullName ≠ [] then some .fullName
  else if classifyQuery toLowercase query = .firstName ∧ meeting toLowercase query employees .firstName ≠ [] then
    some .firstName
  else none

/-- What a text is compared with when it names nobody. -/
def similarKey (query : String) (e : Employee) : String :=
  if classifyQuery toLowercase query = .firstName then firstName toLowercase e
  else normalizeName toLowercase e.fullName

variable (similarity : String → String → Rat)

/-- The text names nobody and begins no first name, and one employee alone is similar
to it, by 95 % when rounded. -/
structure LoneSimilar (query : String) (employees : List Employee) (e : Employee) : Prop where
  unnamed : criterionUsed toLowercase query employees = none
  unbegun : classifyQuery toLowercase query = .firstName →
    prefixMatches toLowercase employees (normalizeName toLowercase query) = []
  alone : similarTo similarity employees (normalizeName toLowercase query) (similarKey toLowercase query) = [e]
  high : highConfidenceThreshold ≤
    confidence (similarity (normalizeName toLowercase query) (similarKey toLowercase query e))

variable {toLowercase similarity} {query : String} {employees rest : List Employee} {e : Employee}

theorem find_username (query : String) (employees : List Employee) :
    (employees.find? fun e =>
      e.telegramUsername.map (normalizeUsername toLowercase) = some (normalizeUsername toLowercase query)) =
        (meeting toLowercase query employees .username).head? := (List.head?_filter ..).symm

theorem find_fullName (query : String) (employees : List Employee) :
    (employees.find? fun e => normalizeName toLowercase e.fullName = normalizeName toLowercase query) =
      (meeting toLowercase query employees .fullName).head? := (List.head?_filter ..).symm

theorem ranking_username (h : meeting toLowercase query employees .username = e :: rest) :
    ranking toLowercase similarity query employees = .unique ⟨e, 100, .exactUsername⟩ := by
  unfold ranking matchEmployeeName
  simp only [find_username, h]
  rfl

theorem ranking_fullName (hnone : meeting toLowercase query employees .username = [])
    (h : meeting toLowercase query employees .fullName = e :: rest) :
    ranking toLowercase similarity query employees = .unique ⟨e, 100, .exactFullName⟩ := by
  unfold ranking matchEmployeeName
  simp only [find_username, hnone, find_fullName, h]
  rfl

/-- Behind the exact usernames and full names. -/
theorem ranking_rest (husername : meeting toLowercase query employees .username = [])
    (hname : meeting toLowercase query employees .fullName = []) :
    ranking toLowercase similarity query employees = rankOutcome
      (if classifyQuery toLowercase query = .firstName then
        matchFirstName toLowercase similarity employees (normalizeName toLowercase query)
      else
        resolveSuggestions (collectMatches similarity employees (normalizeName toLowercase query)
          .suggestedFullName fun e => normalizeName toLowercase e.fullName)) := by
  unfold ranking matchEmployeeName
  simp only [find_username, husername, find_fullName, hname, List.head?_nil]

/-- One first name names its employee, several are shown. -/
theorem ranking_firstName (husername : meeting toLowercase query employees .username = [])
    (hname : meeting toLowercase query employees .fullName = [])
    (hkind : classifyQuery toLowercase query = .firstName) :
    (meeting toLowercase query employees .firstName = [e] →
      ranking toLowercase similarity query employees = .unique ⟨e, 100, .exactFirstName⟩) ∧
    (2 ≤ (meeting toLowercase query employees .firstName).length →
      Suggests (ranking toLowercase similarity query employees)) := by
  have hfilter : (employees.filter fun e => firstName toLowercase e = normalizeName toLowercase query) =
      meeting toLowercase query employees .firstName := rfl
  rw [ranking_rest husername hname, if_pos hkind, matchFirstName, hfilter]
  constructor
  · intro hone
    rw [hone]
    rfl
  · intro hmany
    cases hmeet : meeting toLowercase query employees .firstName with
    | nil => rw [hmeet] at hmany; cases hmany
    | cons e₁ others =>
      cases others with
      | nil => rw [hmeet, List.length_singleton] at hmany; omega
      | cons e₂ rest =>
        show Suggests (rankCandidates ((e₁ :: e₂ :: rest).map fun e => ⟨e, 100, .exactFirstName⟩))
        refine suggests_of_many (n := rest.length) (fun m hm => ?_) (by simp)
        obtain ⟨e, -, rfl⟩ := List.mem_map.mp hm
        show 75 ≤ 100
        decide

theorem criterionUsed_none : criterionUsed toLowercase query employees = none ↔
    meeting toLowercase query employees .username = [] ∧ meeting toLowercase query employees .fullName = [] ∧
      (classifyQuery toLowercase query = .firstName → meeting toLowercase query employees .firstName = []) := by
  unfold criterionUsed
  by_cases husername : meeting toLowercase query employees .username = []
  · by_cases hname : meeting toLowercase query employees .fullName = []
    · by_cases hfirst : classifyQuery toLowercase query = .firstName ∧
          meeting toLowercase query employees .firstName ≠ []
      · simp [husername, hname, hfirst]
      · rw [if_neg (not_not.mpr husername), if_neg (not_not.mpr hname), if_neg hfirst]
        exact iff_of_true rfl ⟨husername, hname, fun hkind => by_contra fun hne => hfirst ⟨hkind, hne⟩⟩
    · simp [husername, hname]
  · simp [husername]

theorem prefixMatches_confidence {q : String} {m : EmployeeMatch}
    (hm : m ∈ prefixMatches toLowercase employees q) : m.confidence = prefixMatchConfidence := by
  unfold prefixMatches at hm
  split at hm
  · obtain ⟨e, -, rfl⟩ := List.mem_map.mp hm
    rfl
  · cases hm

/-- A single word that is no first name: its beginnings of first names are shown, and only
where there are none what is similar counts. -/
theorem ranking_begun (hunnamed : criterionUsed toLowercase query employees = none)
    (hkind : classifyQuery toLowercase query = .firstName) :
    (prefixMatches toLowercase employees (normalizeName toLowercase query) ≠ [] →
      Suggests (ranking toLowercase similarity query employees)) ∧
    (prefixMatches toLowercase employees (normalizeName toLowercase query) = [] →
      ranking toLowercase similarity query employees = rankOutcome (resolveSuggestions
        (collectMatches similarity employees (normalizeName toLowercase query) .suggestedFirstName
          (firstName toLowercase)))) := by
  obtain ⟨husername, hname, hfirst⟩ := criterionUsed_none.mp hunnamed
  have hfilter : (employees.filter fun e => firstName toLowercase e = normalizeName toLowercase query) = [] :=
    hfirst hkind
  rw [ranking_rest husername hname, if_pos hkind, matchFirstName, hfilter]
  have hconf : ∀ m ∈ prefixMatches toLowercase employees (normalizeName toLowercase query),
      m.confidence = prefixMatchConfidence := fun m hm => prefixMatches_confidence hm
  simp only [List.map_nil, resolveExactMatches]
  cases hfound : prefixMatches toLowercase employees (normalizeName toLowercase query) with
  | nil => exact ⟨fun h => absurd rfl h, fun _ => rfl⟩
  | cons m others =>
    refine ⟨fun _ => ?_, fun h => by cases h⟩
    rw [hfound] at hconf
    cases others with
    | nil =>
      have hm : m.confidence = 78 := hconf m List.mem_cons_self
      have hrank : rankOutcome (.unique m) = .suggested m [] := by
        rw [rankOutcome, if_neg (by rw [hm]; decide), if_pos (by rw [hm]; decide)]
      simp only [hrank]
      trivial
    | cons m' others =>
      show Suggests (rankCandidates ((m :: m' :: others).mergeSort compareMatches))
      have hperm := List.mergeSort_perm (m :: m' :: others) compareMatches
      refine suggests_of_many (n := others.length) (fun m'' hm => ?_) (by rw [hperm.length_eq]; rfl)
      rw [hconf m'' (hperm.mem_iff.mp hm)]
      show 75 ≤ 78
      decide

/-- **A text that names nobody** is given to an employee without asking exactly if that
employee alone is similar to it. -/
theorem ranking_unnamed (hunnamed : criterionUsed toLowercase query employees = none) :
    (∃ m, ranking toLowercase similarity query employees = .unique m ∧ m.employee = e) ↔
      LoneSimilar toLowercase similarity query employees e := by
  obtain ⟨husername, hname, -⟩ := criterionUsed_none.mp hunnamed
  have hsuggestions : ∀ strategy key, similarKey toLowercase query = key →
      (classifyQuery toLowercase query = .firstName →
        prefixMatches toLowercase employees (normalizeName toLowercase query) = []) →
      ((∃ m, rankOutcome (resolveSuggestions (collectMatches similarity employees
        (normalizeName toLowercase query) strategy key)) = .unique m ∧ m.employee = e) ↔
          LoneSimilar toLowercase similarity query employees e) := by
    rintro strategy key rfl hbegun
    simp only [rank_suggestions_unique]
    constructor
    · rintro ⟨m, ⟨e', halone, hhigh, rfl⟩, rfl⟩
      exact ⟨hunnamed, hbegun, halone, hhigh⟩
    · rintro ⟨-, -, halone, hhigh⟩
      exact ⟨_, ⟨e, halone, hhigh, rfl⟩, rfl⟩
  by_cases hkind : classifyQuery toLowercase query = .firstName
  · by_cases hbegun : prefixMatches toLowercase employees (normalizeName toLowercase query) = []
    · rw [(ranking_begun hunnamed hkind).2 hbegun]
      exact hsuggestions _ _ (funext fun e => if_pos hkind) fun _ => hbegun
    · refine iff_of_false ?_ fun h => hbegun (h.unbegun hkind)
      rintro ⟨m, hm, -⟩
      have hshown : Suggests (ranking toLowercase similarity query employees) :=
        (ranking_begun hunnamed hkind).1 hbegun
      rw [hm] at hshown
      exact hshown
  · rw [ranking_rest husername hname, if_neg hkind]
    exact hsuggestions _ _ (funext fun e => if_neg hkind) fun h => absurd h hkind

/-- Where somebody is similar the text is not left as unknown. -/
theorem ranking_found (hunnamed : criterionUsed toLowercase query employees = none)
    (hsimilar : similarTo similarity employees (normalizeName toLowercase query)
      (similarKey toLowercase query) ≠ []) :
    ranking toLowercase similarity query employees ≠ .notFound := by
  obtain ⟨husername, hname, -⟩ := criterionUsed_none.mp hunnamed
  by_cases hkind : classifyQuery toLowercase query = .firstName
  · have hkey : similarKey toLowercase query = firstName toLowercase := funext fun e => if_pos hkind
    by_cases hbegun : prefixMatches toLowercase employees (normalizeName toLowercase query) = []
    · rw [(ranking_begun hunnamed hkind).2 hbegun]
      rw [hkey] at hsimilar
      exact rank_suggestions_found similarity hsimilar
    · intro hnone
      have hshown : Suggests (ranking toLowercase similarity query employees) :=
        (ranking_begun hunnamed hkind).1 hbegun
      rw [hnone] at hshown
      exact hshown
  · have hkey : similarKey toLowercase query = fun e => normalizeName toLowercase e.fullName :=
      funext fun e => if_neg hkind
    rw [ranking_rest husername hname, if_neg hkind]
    rw [hkey] at hsimilar
    exact rank_suggestions_found similarity hsimilar

theorem meeting_of_used {c : Criterion} (hused : criterionUsed toLowercase query employees = some c) :
    ∃ e rest, meeting toLowercase query employees c = e :: rest := by
  unfold criterionUsed at hused
  refine List.exists_cons_of_ne_nil ?_
  split at hused
  · next h => cases hused; exact h
  · split at hused
    · next h => cases hused; exact h
    · split at hused
      · next h => cases hused; exact h.2
      · cases hused

/-- **A text that names somebody** is given to the first employee who meets the criterion;
several first names are shown. -/
theorem ranking_named (similarity : String → String → Rat) {c : Criterion}
    (hused : criterionUsed toLowercase query employees = some c)
    (hmeet : meeting toLowercase query employees c = e :: rest) :
    (rest = [] ∨ c ≠ .firstName → ∃ m, ranking toLowercase similarity query employees = .unique m ∧
      m.employee = e) ∧
    (rest ≠ [] → c = .firstName → Suggests (ranking toLowercase similarity query employees)) := by
  unfold criterionUsed at hused
  by_cases husername : meeting toLowercase query employees .username = []
  · rw [if_neg (not_not.mpr husername)] at hused
    by_cases hname : meeting toLowercase query employees .fullName = []
    · rw [if_neg (not_not.mpr hname)] at hused
      split at hused
      · next hfirst =>
        cases hused
        refine ⟨fun hor => ?_, fun hrest _ => ?_⟩
        · rw [hor.resolve_right fun h => h rfl] at hmeet
          exact ⟨_, (ranking_firstName husername hname hfirst.1).1 hmeet, rfl⟩
        · have hpos := List.length_pos_of_ne_nil hrest
          refine (ranking_firstName (e := e) husername hname hfirst.1).2 ?_
          rw [hmeet, List.length_cons]
          omega
      · cases hused
    · rw [if_pos hname] at hused
      cases hused
      exact ⟨fun _ => ⟨_, ranking_fullName husername hmeet, rfl⟩, fun _ h => by cases h⟩
  · rw [if_pos husername] at hused
    cases hused
    exact ⟨fun _ => ⟨_, ranking_username hmeet, rfl⟩, fun _ h => by cases h⟩

/-- Whoever is given the task without asking is in the directory. -/
theorem ranking_mem {m : EmployeeMatch} (h : ranking toLowercase similarity query employees = .unique m) :
    m.employee ∈ employees := by
  cases hused : criterionUsed toLowercase query employees with
  | none =>
    have hlone := (ranking_unnamed hused).mp ⟨m, h, rfl⟩
    have hmem : m.employee ∈ similarTo similarity employees (normalizeName toLowercase query)
        (similarKey toLowercase query) := by
      rw [hlone.alone]
      exact List.mem_singleton_self _
    exact (List.mem_filter.mp hmem).1
  | some c =>
    obtain ⟨e, rest, hmeet⟩ := meeting_of_used hused
    obtain ⟨hgiven, hshown⟩ := ranking_named similarity hused hmeet
    have hmem : e ∈ meeting toLowercase query employees c := by
      rw [hmeet]
      exact List.mem_cons_self
    by_cases hsole : rest = [] ∨ c ≠ .firstName
    · obtain ⟨m', hm', rfl⟩ := hgiven hsole
      cases h.symm.trans hm'
      exact (List.mem_filter.mp hmem).1
    · have hsuggests := hshown (fun hrest => hsole (.inl hrest)) (not_not.mp fun hc => hsole (.inr hc))
      rw [h] at hsuggests
      exact hsuggests.elim

end

end NameMatching

end TaskBot
