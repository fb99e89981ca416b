import TaskBot.Domain.Base

/-!
# Person names

The pair of names the onboarding collects.  A part is normalised (control
characters dropped, runs of whitespace collapsed) and then checked: not empty, at
most 64 characters, letters, digits, spaces, hyphens and apostrophes only.

What counts as a letter or a digit is the Unicode table of the standard library,
left open here (`CharClass`).
-/

namespace TaskBot

/-- `char::is_alphabetic` and `char::is_numeric`. -/
structure CharClass where
  isAlphabetic : Char → Bool
  isNumeric : Char → Bool

def maxPersonNamePartLength : Nat := 64
def minPersonNamePartLength : Nat := 1

structure PersonName where
  first : String
  last : String
deriving DecidableEq, Repr

namespace PersonName

def normalizePart (value : String) : String :=
  collapseWhitespace (String.ofList (value.toList.filter fun c => !isControl c))

variable (chars : CharClass)

/-- The last character is the apostrophe. -/
def isAllowedNameCharacter (c : Char) : Bool :=
  chars.isAlphabetic c || chars.isNumeric c || c == ' ' || c == '-' || c == Char.ofNat 39

def validatePart (field normalized : String) : AppResult Unit :=
  if charsCount normalized < minPersonNamePartLength then
    .error (.schemaValidation "PERSON_NAME_EMPTY" (field ++ " must not be empty") [("field", .str field)])
  else if charsCount normalized > maxPersonNamePartLength then
    .error (.schemaValidation "PERSON_NAME_TOO_LONG" (field ++ " exceeds the supported length")
      [("field", .str field), ("limit", .int maxPersonNamePartLength)])
  else if ¬ normalized.toList.all (isAllowedNameCharacter chars) then
    .error (.schemaValidation "PERSON_NAME_INVALID_CHARACTERS"
      (field ++ " contains characters that are not allowed") [("field", .str field)])
  else .ok ()

def parseFirstOnly (firstRaw : String) : AppResult String := do
  let first := normalizePart firstRaw
  validatePart chars "first_name" first
  pure first

/-- The first name is taken as it is: the step before has checked it. -/
def parseLastWithFirst (first lastRaw : String) : AppResult PersonName := do
  let last := normalizePart lastRaw
  validatePart chars "last_name" last
  pure ⟨first, last⟩

def parse (firstRaw lastRaw : String) : AppResult PersonName := do
  let first := normalizePart firstRaw
  let last := normalizePart lastRaw
  validatePart chars "first_name" first
  validatePart chars "last_name" last
  pure ⟨first, last⟩

/-- A part that passes the check is not empty. -/
theorem validatePart_ok {field normalized : String} (h : validatePart chars field normalized = .ok ()) :
    normalized.isEmpty = false := by
  unfold validatePart at h
  split at h
  · cases h
  · next hmin =>
    cases he : normalized.isEmpty with
    | false => rfl
    | true =>
      rw [String.isEmpty_iff.mp he] at hmin
      exact absurd (by decide) hmin

/-- An accepted name has passed the check of its field. -/
theorem parseFirstOnly_valid {raw first : String} (h : parseFirstOnly chars raw = .ok first) :
    validatePart chars "first_name" first = .ok () := by
  unfold parseFirstOnly at h
  cases hv : validatePart chars "first_name" (normalizePart raw) with
  | error e =>
    simp only [hv] at h
    cases h
  | ok u =>
    simp only [hv] at h
    cases h
    exact hv

theorem parseLastWithFirst_valid {first raw : String} {name : PersonName}
    (h : parseLastWithFirst chars first raw = .ok name) :
    name.first = first ∧ validatePart chars "last_name" name.last = .ok () := by
  unfold parseLastWithFirst at h
  cases hv : validatePart chars "last_name" (normalizePart raw) with
  | error e =>
    simp only [hv] at h
    cases h
  | ok u =>
    simp only [hv] at h
    cases h
    exact ⟨rfl, hv⟩

theorem parseFirstOnly_ok {raw first : String} (h : parseFirstOnly chars raw = .ok first) :
    first.isEmpty = false := validatePart_ok chars (parseFirstOnly_valid chars h)

theorem parseLastWithFirst_ok {first raw : String} {name : PersonName}
    (h : parseLastWithFirst chars first raw = .ok name) :
    name.first = first ∧ name.last.isEmpty = false := by
  obtain ⟨hfirst, hvalid⟩ := parseLastWithFirst_valid chars h
  exact ⟨hfirst, validatePart_ok chars hvalid⟩

/-- A hyphen is a name in every alphabet. -/
theorem parse_hyphen : parseFirstOnly chars "-" = .ok "-" ∧
    ∀ first, parseLastWithFirst chars first "-" = .ok ⟨first, "-"⟩ := by
  have hnormal : normalizePart "-" = "-" := by decide
  have hvalid : ∀ field, validatePart chars field "-" = .ok () := by
    intro field
    have hall : ("-" : String).toList.all (isAllowedNameCharacter chars) = true := by
      simp [isAllowedNameCharacter]
    unfold validatePart
    rw [if_neg (by decide), if_neg (by decide), if_neg (not_not_intro hall)]
  constructor
  · unfold parseFirstOnly
    simp only [hnormal, hvalid]
    rfl
  · intro first
    unfold parseLastWithFirst
    simp only [hnormal, hvalid]
    rfl

/-! ## Trigrams -/

/-- `[T]::windows(3)`. -/
def windows3 : List Char → List (List Char)
  | a :: b :: c :: rest => [a, b, c] :: windows3 (b :: c :: rest)
  | _ => []

variable (toLowercase : String → String)

def canonicalForTrigrams (value : String) : String :=
  let replaced := (toLowercase value).toList.map fun c => if c = 'ё' then 'е' else c
  let kept := replaced.filter fun c => chars.isAlphabetic c || chars.isNumeric c || isWhitespace c
  collapseWhitespace (String.ofList kept)

/-- The sliding windows over the name; a name of less than three characters is its own trigram. -/
def trigrams (name : PersonName) : List String :=
  let canonical := canonicalForTrigrams chars toLowercase (name.first ++ " " ++ name.last)
  if canonical.toList.length < 3 then [canonical]
  else (windows3 canonical.toList).map String.ofList

theorem windows3_ne_nil {cs : List Char} (h : 3 ≤ cs.length) : windows3 cs ≠ [] := by
  match cs with
  | [] | [_] | [_, _] => simp at h
  | a :: b :: c :: rest => exact List.cons_ne_nil _ _

/-- Every name has a trigram. -/
theorem trigrams_ne_nil (name : PersonName) : trigrams chars toLowercase name ≠ [] := by
  unfold trigrams
  dsimp only
  split
  · exact List.cons_ne_nil _ _
  · next hlong =>
    intro hnil
    exact windows3_ne_nil (Nat.le_of_not_lt hlong) (List.map_eq_nil_iff.mp hnil)

end PersonName

end TaskBot
