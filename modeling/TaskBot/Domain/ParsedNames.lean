import TaskBot.Domain.PersonName
import TaskBot.Lib.Words

/-!
# Names parsed in one step or in two

The onboarding asks for the first name and then for the last one; a directory gives both at once.
Either way leads to the same name (`parse_eq`), and an accepted name is read again as it is
(`parsed_names`): its parts are words with single spaces between them, which `normalizePart` leaves
alone.
-/

namespace TaskBot

open Words

namespace PersonName

/-! ## A part -/

theorem toList_collapseWhitespace (value : String) :
    (collapseWhitespace value).toList = [' '].intercalate (words isWhitespace value.toList) := by
  unfold collapseWhitespace
  dsimp only
  rw [String.toList_intercalate, List.map_map]
  have hid : String.toList ∘ String.ofList = id := funext fun l => String.toList_ofList
  rw [hid, List.map_id]
  rfl

theorem toList_normalizePart (value : String) : (normalizePart value).toList =
    [' '].intercalate (words isWhitespace (value.toList.filter fun c => !isControl c)) := by
  unfold normalizePart
  rw [toList_collapseWhitespace, String.toList_ofList]

theorem singleSpaced_normalizePart (value : String) : SingleSpaced isWhitespace ' ' (normalizePart value).toList := by
  rw [toList_normalizePart]
  exact singleSpaced_intercalate isWhitespace_space (proper_words _ _)

/-- A second pass changes nothing. -/
theorem normalizePart_twice (value : String) : normalizePart (normalizePart value) = normalizePart value := by
  have hfilter : ((normalizePart value).toList.filter fun c => !isControl c) = (normalizePart value).toList := by
    rw [toList_normalizePart]
    exact filter_intercalate_words (by decide) value.toList
  refine String.toList_injective ?_
  rw [toList_normalizePart, hfilter, toList_normalizePart,
    words_intercalate isWhitespace_space (proper_words _ _)]

variable (chars : CharClass)

/-- What every part of an accepted name is. -/
structure ValidPart (part : String) : Prop where
  nonempty : part ≠ ""
  length : charsCount part ≤ maxPersonNamePartLength
  allowed : ∀ c ∈ part.toList, isAllowedNameCharacter chars c = true
  spaced : SingleSpaced isWhitespace ' ' part.toList

theorem validatePart_ok_iff {field part : String} : validatePart chars field part = .ok () ↔
    minPersonNamePartLength ≤ charsCount part ∧ charsCount part ≤ maxPersonNamePartLength ∧
      ∀ c ∈ part.toList, isAllowedNameCharacter chars c = true := by
  unfold validatePart
  split
  · next hmin => exact iff_of_false (fun h => nomatch h) fun h => absurd hmin (Nat.not_lt.mpr h.1)
  · next hmin =>
    rw [and_iff_right (Nat.not_lt.mp hmin)]
    split
    · next hmax => exact iff_of_false (fun h => nomatch h) fun h => absurd hmax (Nat.not_lt.mpr h.1)
    · next hmax =>
      rw [and_iff_right (Nat.not_lt.mp hmax)]
      split
      · next hall => exact iff_of_false (fun h => nomatch h) fun h => hall (List.all_eq_true.mpr h)
      · next hall => exact iff_of_true rfl (List.all_eq_true.mp (not_not.mp hall))

/-- An accepted part is valid, and read again as it is. -/
theorem validPart_of_ok {field raw : String} (h : validatePart chars field (normalizePart raw) = .ok ()) :
    ValidPart chars (normalizePart raw) := by
  obtain ⟨-, hmax, hall⟩ := (validatePart_ok_iff chars).mp h
  refine ⟨fun hempty => ?_, hmax, hall, singleSpaced_normalizePart raw⟩
  have hne := validatePart_ok chars h
  rw [hempty] at hne
  cases hne

/-! ## Both ways -/

/-- **In one step or in two, the answer is the same, an error too.** -/
theorem parse_eq (firstRaw lastRaw : String) : parse chars firstRaw lastRaw =
    parseFirstOnly chars firstRaw >>= fun first => parseLastWithFirst chars first lastRaw := by
  unfold parse parseFirstOnly parseLastWithFirst
  simp only [bind_assoc, pure_bind]

theorem parse_ok_iff {firstRaw lastRaw : String} {name : PersonName} : parse chars firstRaw lastRaw = .ok name ↔
    name = ⟨normalizePart firstRaw, normalizePart lastRaw⟩ ∧
      validatePart chars "first_name" (normalizePart firstRaw) = .ok () ∧
      validatePart chars "last_name" (normalizePart lastRaw) = .ok () := by
  unfold parse
  dsimp only
  cases validatePart chars "first_name" (normalizePart firstRaw) with
  | error e => exact iff_of_false (fun h => nomatch h) fun h => nomatch h.2.1
  | ok u =>
    cases validatePart chars "last_name" (normalizePart lastRaw) with
    | error e => exact iff_of_false (fun h => nomatch h) fun h => nomatch h.2.2
    | ok u' =>
      refine ⟨fun h => ⟨(Except.ok.inj h).symm, rfl, rfl⟩, fun h => ?_⟩
      rw [h.1]
      rfl

/-- **The steps agree with the whole, and an accepted name is a fixed point.** -/
theorem parsed_names (x y : String) (n : PersonName) :
    (parse chars x y = .ok n ↔ ∃ f, parseFirstOnly chars x = .ok f ∧ parseLastWithFirst chars f y = .ok n) ∧
      (parse chars x y = .ok n →
        ValidPart chars n.first ∧ ValidPart chars n.last ∧ parse chars n.first n.last = .ok n) := by
  constructor
  · rw [parse_eq]
    cases parseFirstOnly chars x with
    | error e =>
      have hrefused : ∀ k : String → AppResult PersonName, (.error e : AppResult String) >>= k = .error e := fun _ => rfl
      rw [hrefused]
      constructor
      · intro h
        cases h
      · rintro ⟨f, h, -⟩
        cases h
    | ok f =>
      have haccepted : ∀ k : String → AppResult PersonName, (.ok f : AppResult String) >>= k = k f := fun _ => rfl
      rw [haccepted]
      constructor
      · exact fun h => ⟨f, rfl, h⟩
      · rintro ⟨g, hg, h⟩
        rw [Except.ok.inj hg]
        exact h
  · intro h
    obtain ⟨rfl, hfirst, hlast⟩ := (parse_ok_iff chars).mp h
    have hvalid := validPart_of_ok chars hfirst
    have hvalid' := validPart_of_ok chars hlast
    refine ⟨hvalid, hvalid', (parse_ok_iff chars).mpr ?_⟩
    simp only [normalizePart_twice, true_and]
    exact ⟨hfirst, hlast⟩

end PersonName

open PersonName

/-- The letters and digits of ASCII. -/
def plainChars : CharClass := ⟨Char.isAlpha, Char.isDigit⟩

theorem parsed_dupont : ValidPart plainChars "Jean Paul" ∧ ValidPart plainChars "Dupont" ∧
    parse plainChars "Jean Paul" "Dupont" = .ok ⟨"Jean Paul", "Dupont"⟩ :=
  (parsed_names plainChars " Jean\n  Paul" "Dupont" ⟨"Jean Paul", "Dupont"⟩).2 (by decide)

end TaskBot
