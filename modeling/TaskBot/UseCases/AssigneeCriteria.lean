import TaskBot.UseCases.NameMatching
import TaskBot.UseCases.OnboardingLinks

/-!
# Who is assigned without asking

The resolver takes the one the ranking names and asks otherwise.  Only the first names
are counted: of several employees with the text as username or as full name the first
is taken, and a lone similar name counts as the name from 95 % on.

* `unambiguous_iff`: when an employee is taken only as the one who meets the criterion;
* `never_guesses_iff`: when an employee is taken only by their own name.
-/

namespace TaskBot

open Sql Calls NameMatching

namespace AssigneeResolver

section

variable (toLowercase : String → String) (similarity : String → String → Rat)
  (db : Db) (query : String) (purpose : AssigneeResolutionPurpose)

def answer : AppResult AssigneeResolution :=
  ((resolveWithPurpose (ranking toLowercase similarity) query purpose).run noFaults db).1

/-- The employee is taken without asking. -/
def ResolvesTo (e : Employee) : Prop :=
  ∃ user, answer toLowercase similarity db query purpose = .ok (.resolved ⟨user, some e⟩)

def Asks : Prop :=
  ∃ request, answer toLowercase similarity db query purpose = .ok (.clarificationRequired request)

/-- The criterion the text is matched by. -/
def textCriterion : Option Criterion :=
  if (trim query).isEmpty then none else criterionUsed toLowercase (trim query) db.activeEmployees

/-- One active employee alone is similar to the text. -/
def GuessedAs (e : Employee) : Prop :=
  (trim query).isEmpty = false ∧ LoneSimilar toLowercase similarity (trim query) db.activeEmployees e

variable {toLowercase similarity db query purpose} {e : Employee}

theorem not_asks_of_resolvesTo (h : ResolvesTo toLowercase similarity db query purpose e) :
    ¬ Asks toLowercase similarity db query purpose := by
  obtain ⟨user, huser⟩ := h
  rintro ⟨request, hrequest⟩
  rw [huser] at hrequest
  cases hrequest

theorem answer_suggests (hempty : (trim query).isEmpty = false)
    (hshown : Suggests (ranking toLowercase similarity (trim query) db.activeEmployees)) :
    Asks toLowercase similarity db query purpose := by
  unfold Asks answer resolveWithPurpose
  simp only [hempty, Bool.false_eq_true, if_false]
  rw [Prog.run_bind_ok noFaults (run_listActive db)]
  cases hrank : ranking toLowercase similarity (trim query) db.activeEmployees with
  | unique m => rw [hrank] at hshown; exact hshown.elim
  | suggested top rest => exact ⟨_, rfl⟩
  | ambiguous candidates => exact ⟨_, rfl⟩
  | notFound => rw [hrank] at hshown; exact hshown.elim

theorem namedEmployee_some {ranking : NameRanking} : namedEmployee ranking query db = some e ↔
    (trim query).isEmpty = false ∧ ∃ m, ranking (trim query) db.activeEmployees = .unique m ∧ m.employee = e := by
  unfold namedEmployee
  cases (trim query).isEmpty with
  | true => simp
  | false => cases ranking (trim query) db.activeEmployees <;> simp

/-- **An employee is taken without asking** exactly if the ranking names them. -/
theorem resolvesTo_iff : ResolvesTo toLowercase similarity db query purpose e ↔
    (trim query).isEmpty = false ∧
      ∃ m, ranking toLowercase similarity (trim query) db.activeEmployees = .unique m ∧ m.employee = e := by
  obtain ⟨resolution, hrun, hassigns⟩ :=
    run_resolveWithPurpose (ranking toLowercase similarity) query purpose db
  rw [← namedEmployee_some]
  unfold ResolvesTo answer
  rw [hrun]
  cases hnamed : namedEmployee (ranking toLowercase similarity) query db with
  | none =>
    rw [hnamed] at hassigns
    constructor
    · rintro ⟨user, huser⟩
      exact absurd (Except.ok.inj huser) (hassigns user e)
    · intro h
      cases h
  | some e' =>
    rw [hnamed] at hassigns
    rw [show resolution = _ from hassigns]
    constructor
    · rintro ⟨user, huser⟩
      cases huser
      rfl
    · intro h
      cases h
      exact ⟨_, rfl⟩

theorem textCriterion_some {c : Criterion} : textCriterion toLowercase db query = some c ↔
    (trim query).isEmpty = false ∧ criterionUsed toLowercase (trim query) db.activeEmployees = some c := by
  unfold textCriterion
  cases (trim query).isEmpty <;> simp

/-- Who is taken without a criterion is guessed. -/
theorem guessed_iff (hunnamed : textCriterion toLowercase db query = none) :
    ResolvesTo toLowercase similarity db query purpose e ↔ GuessedAs toLowercase similarity db query e := by
  rw [resolvesTo_iff]
  refine and_congr_right fun hempty => ranking_unnamed ?_
  unfold textCriterion at hunnamed
  rw [hempty, if_neg Bool.false_ne_true] at hunnamed
  exact hunnamed

/-- Who is taken by a criterion is the first to meet it. -/
theorem named_iff {c : Criterion} {e' : Employee} {rest : List Employee}
    (hnamed : textCriterion toLowercase db query = some c)
    (hmeet : meeting toLowercase (trim query) db.activeEmployees c = e' :: rest) :
    ResolvesTo toLowercase similarity db query purpose e ↔ e = e' ∧ (rest = [] ∨ c ≠ .firstName) := by
  obtain ⟨hempty, hused⟩ := textCriterion_some.mp hnamed
  obtain ⟨htaken, hshown⟩ := ranking_named similarity hused hmeet
  rw [resolvesTo_iff]
  by_cases hor : rest = [] ∨ c ≠ .firstName
  · obtain ⟨m, hrank, rfl⟩ := htaken hor
    constructor
    · rintro ⟨-, m', hrank', rfl⟩
      rw [hrank] at hrank'
      cases hrank'
      exact ⟨rfl, hor⟩
    · rintro ⟨rfl, -⟩
      exact ⟨hempty, m, hrank, rfl⟩
  · refine iff_of_false ?_ fun h => hor h.2
    rintro ⟨-, m, hrank, -⟩
    have hmany := hshown (fun h => hor (.inl h)) (by_contra fun h => hor (.inr h))
    rw [hrank] at hmany
    exact hmany

/-! ## One who meets the criterion -/

variable (toLowercase similarity db query purpose)

/-- An employee is taken only as the one who meets the criterion that was used; of several
who meet it the user is asked to choose. -/
structure Unambiguous : Prop where
  one : ∀ e, ResolvesTo toLowercase similarity db query purpose e →
    ∃ c, textCriterion toLowercase db query = some c ∧
      meeting toLowercase (trim query) db.activeEmployees c = [e]
  many : ∀ c, textCriterion toLowercase db query = some c →
    2 ≤ (meeting toLowercase (trim query) db.activeEmployees c).length →
      Asks toLowercase similarity db query purpose

/-- **Assignment is unambiguous exactly if** no two active employees carry the username, or
the full name, the text is matched by, and nobody is guessed. -/
theorem unambiguous_iff : Unambiguous toLowercase similarity db query purpose ↔
    (∀ c, textCriterion toLowercase db query = some c → c ≠ .firstName →
      (meeting toLowercase (trim query) db.activeEmployees c).length = 1) ∧
    ∀ e, ¬ GuessedAs toLowercase similarity db query e := by
  constructor
  · intro h
    refine ⟨fun c hc hfirst => ?_, fun e hguess => ?_⟩
    · obtain ⟨e, rest, hmeet⟩ := meeting_of_used (textCriterion_some.mp hc).2
      have htaken : ResolvesTo toLowercase similarity db query purpose e :=
        (named_iff hc hmeet).mpr ⟨rfl, .inr hfirst⟩
      by_contra hlen
      have hmany := h.many c hc (by rw [hmeet, List.length_cons] at hlen ⊢; omega)
      exact not_asks_of_resolvesTo htaken hmany
    · have hunnamed : textCriterion toLowercase db query = none := by
        unfold textCriterion
        rw [hguess.1, if_neg Bool.false_ne_true]
        exact hguess.2.unnamed
      obtain ⟨c, hc, -⟩ := h.one e ((guessed_iff hunnamed).mpr hguess)
      rw [hunnamed] at hc
      cases hc
  · rintro ⟨hsingle, hguess⟩
    refine ⟨fun e htaken => ?_, fun c hc hmany => ?_⟩
    · cases hc : textCriterion toLowercase db query with
      | none => exact absurd ((guessed_iff hc).mp htaken) (hguess e)
      | some c =>
        obtain ⟨e', rest, hmeet⟩ := meeting_of_used (textCriterion_some.mp hc).2
        obtain ⟨rfl, hor⟩ := (named_iff hc hmeet).mp htaken
        refine ⟨c, rfl, ?_⟩
        rw [hmeet]
        rcases hor with rfl | hfirst
        · rfl
        · have hlen := hsingle c hc hfirst
          rw [hmeet, List.length_cons, Nat.add_eq_right, List.length_eq_zero_iff] at hlen
          rw [hlen]
    · obtain ⟨hempty, hused⟩ := textCriterion_some.mp hc
      obtain ⟨e, rest, hmeet⟩ := meeting_of_used hused
      by_cases hfirst : c = .firstName
      · refine answer_suggests hempty ((ranking_named similarity hused hmeet).2 ?_ hfirst)
        rintro rfl
        rw [hmeet, List.length_singleton] at hmany
        omega
      · have hlen := hsingle c hc hfirst
        omega

/-! ## Nobody is guessed -/

/-- The text is the username, the full name or the first name of the employee. -/
def Named (e : Employee) : Prop := ∃ c : Criterion, c.meets toLowercase (trim query) e = true

/-- An employee is taken only by their own name; who is merely similar is shown. -/
structure NeverGuesses : Prop where
  named : ∀ e, ResolvesTo toLowercase similarity db query purpose e → Named toLowercase query e
  shown : (trim query).isEmpty = false → textCriterion toLowercase db query = none →
    ∀ e ∈ similarTo similarity db.activeEmployees (normalizeName toLowercase (trim query))
      (similarKey toLowercase (trim query)), ¬ Named toLowercase query e →
        Asks toLowercase similarity db query purpose

/-- **No employee is guessed exactly if** no one who is alone similar to the text, by 95 %,
has another name. -/
theorem never_guesses_iff : NeverGuesses toLowercase similarity db query purpose ↔
    ∀ e, GuessedAs toLowercase similarity db query e → Named toLowercase query e := by
  constructor
  · intro h e hguess
    have hunnamed : textCriterion toLowercase db query = none := by
      unfold textCriterion
      rw [hguess.1, if_neg Bool.false_ne_true]
      exact hguess.2.unnamed
    exact h.named e ((guessed_iff hunnamed).mpr hguess)
  · intro h
    refine ⟨fun e htaken => ?_, fun hempty hunnamed e hsimilar hother => ?_⟩
    · cases hc : textCriterion toLowercase db query with
      | none => exact h e ((guessed_iff hc).mp htaken)
      | some c =>
        obtain ⟨e', rest, hmeet⟩ := meeting_of_used (textCriterion_some.mp hc).2
        obtain ⟨rfl, -⟩ := (named_iff hc hmeet).mp htaken
        have hmem : e ∈ meeting toLowercase (trim query) db.activeEmployees c := by
          rw [hmeet]
          exact List.mem_cons_self
        exact ⟨c, (List.mem_filter.mp hmem).2⟩
    · have hused : criterionUsed toLowercase (trim query) db.activeEmployees = none := by
        unfold textCriterion at hunnamed
        rw [hempty, if_neg Bool.false_ne_true] at hunnamed
        exact hunnamed
      refine answer_suggests hempty (suggests_of (fun m hrank => ?_) (ranking_found hused ?_))
      · have halone := (ranking_unnamed hused).mp ⟨m, hrank, rfl⟩
        rw [halone.alone] at hsimilar
        rw [List.mem_singleton.mp hsimilar] at hother
        exact hother (h m.employee ⟨hempty, halone⟩)
      · intro hnil
        rw [hnil] at hsimilar
        cases hsimilar

end

/-! ## Edit distance -/

/-- A row of the table of distances, from the one above it. -/
def distanceRow (x : Char) : Nat → Nat → List (Char × Nat) → List Nat
  | _, _, [] => []
  | left, corner, (y, above) :: rest =>
      let d := min (left + 1) (min (corner + if x = y then 0 else 1) (above + 1))
      d :: distanceRow x d above rest

/-- `levenshtein`, by the letters of the first text. -/
def levenshtein : Nat → List Nat → List Char → List Char → Nat
  | i, row, [], _ => row.getLast?.getD i
  | i, row, x :: xs, ys => levenshtein (i + 1) (distanceRow x (i + 1) i (ys.zip row)) xs ys

/-- `normalized_levenshtein`. -/
def normalizedLevenshtein (a b : String) : Rat :=
  let longest := max (charsCount a) (charsCount b)
  if longest = 0 then 1
  else 1 - (levenshtein 0 ((List.range (charsCount b)).map (· + 1)) a.toList b.toList : Nat) / (longest : Nat)

/-- An active employee without a username. -/
def colleague (id : Option Int) (fullName : String) : Employee :=
  ⟨id, fullName, none, none, none, none, true, none, 0, 0⟩

def directoryOf (names : List String) : Db :=
  { Db.empty with employees := names.foldl (fun t name => (t.insertOrIgnore (colleague none name)).1) .empty }

/-- Of two colleagues with one name the first is taken. -/
theorem namesake_taken : ¬ Unambiguous UserRepository.sqlLower normalizedLevenshtein
    (directoryOf ["Maria Ivanova", "Maria Ivanova"]) "Maria Ivanova" .taskCreation := by
  intro h
  have hactive : (directoryOf ["Maria Ivanova", "Maria Ivanova"]).activeEmployees =
      [colleague (some 1) "Maria Ivanova", colleague (some 2) "Maria Ivanova"] :=
    List.mergeSort_of_pairwise (by decide)
  have hcriterion : textCriterion UserRepository.sqlLower
      (directoryOf ["Maria Ivanova", "Maria Ivanova"]) "Maria Ivanova" = some .fullName := by
    unfold textCriterion
    rw [hactive]
    decide +kernel
  have hmeet : meeting UserRepository.sqlLower (trim "Maria Ivanova")
      (directoryOf ["Maria Ivanova", "Maria Ivanova"]).activeEmployees .fullName =
      [colleague (some 1) "Maria Ivanova", colleague (some 2) "Maria Ivanova"] := by
    rw [hactive]
    decide +kernel
  have htaken : ResolvesTo UserRepository.sqlLower normalizedLevenshtein
      (directoryOf ["Maria Ivanova", "Maria Ivanova"]) "Maria Ivanova" .taskCreation
      (colleague (some 1) "Maria Ivanova") := (named_iff hcriterion hmeet).mpr ⟨rfl, .inr (by decide)⟩
  refine not_asks_of_resolvesTo htaken (h.many .fullName hcriterion ?_)
  rw [hmeet]
  decide

/-- One wrong letter in a long name is no matter. -/
theorem misspelled_taken : ¬ NeverGuesses UserRepository.sqlLower normalizedLevenshtein
    (directoryOf ["Konstantin Aleksandrov"]) "Konstantin Aleksandrow" .taskCreation := by
  intro h
  have hactive : (directoryOf ["Konstantin Aleksandrov"]).activeEmployees =
      [colleague (some 1) "Konstantin Aleksandrov"] := List.mergeSort_of_pairwise (by decide)
  have hguess : GuessedAs UserRepository.sqlLower normalizedLevenshtein (directoryOf ["Konstantin Aleksandrov"])
      "Konstantin Aleksandrow" (colleague (some 1) "Konstantin Aleksandrov") := by
    refine ⟨by decide, ⟨?_, ?_, ?_, ?_⟩⟩
    · rw [hactive]
      decide +kernel
    · decide +kernel
    · rw [hactive]
      decide +kernel
    · decide +kernel
  have hcriterion : textCriterion UserRepository.sqlLower (directoryOf ["Konstantin Aleksandrov"])
      "Konstantin Aleksandrow" = none := by
    unfold textCriterion
    rw [hactive]
    decide +kernel
  obtain ⟨c, hc⟩ := h.named _ ((guessed_iff hcriterion).mpr hguess)
  cases c <;> exact absurd hc (by decide +kernel)

end AssigneeResolver

end TaskBot
