import TaskBot.Domain.CivilDates
import TaskBot.Domain.NormalizedText

/-!
# Task references

What a user types to name a task: the public code a card shows, in any case and with blanks around it, or the
identifier.

* `parsePublicTaskCode_iff`: which texts are codes, and of which number;
* `spells_displayed`: the displayed code is one, however its letter is written.
-/

namespace TaskBot

open Parsing

inductive TaskReference where
  | publicId (taskId : Int)
  | uid (taskUid : Uuid)
deriving DecidableEq, Repr

/-- `i64::MAX`. -/
def maxI64 : Nat := 2 ^ 63 - 1

/-- Digits as a number, when there are some. -/
def digitsValue (digits : List Char) : Option Nat :=
  if digits ≠ [] ∧ digits.all Char.isDigit then some (Nat.ofDigitChars 10 digits 0) else none

/-- `str::parse::<i64>`. -/
def parseI64 : List Char → Option Int
  | '-' :: digits => (digitsValue digits).bind fun n => if n ≤ maxI64 + 1 then some (-(n : Int)) else none
  | '+' :: digits => (digitsValue digits).bind fun n => if n ≤ maxI64 then some (n : Int) else none
  | digits => (digitsValue digits).bind fun n => if n ≤ maxI64 then some (n : Int) else none

/-- What is left after `T` and `-`. -/
def stripCodePrefix : List Char → Option (List Char)
  | 'T' :: '-' :: numericPart => some numericPart
  | _ => none

def parsePublicTaskCode (value : String) : Option Int :=
  let normalized := (trim value).toList.map Char.toUpper
  (stripCodePrefix normalized).bind fun numericPart =>
    if numericPart.isEmpty then none
    else (parseI64 numericPart).filter fun taskId => taskId > 0

/-- `parseUuid` is the reader of identifiers of the UUID library. -/
def parseTaskReference (parseUuid : String → Option Uuid) (value : String) : Option TaskReference :=
  let trimmed := trim value
  if trimmed.isEmpty then none
  else ((parsePublicTaskCode trimmed).map .publicId).or ((parseUuid trimmed).map .uid)

/-! ## Which texts are codes -/

/-- `T-` or `t-`, perhaps a plus sign, and the digits of the number; blanks around do not count. -/
structure SpellsCode (value : String) (taskId : Int) : Prop where
  positive : 0 < taskId
  fits : taskId ≤ maxI64
  spelled : ∃ letter sign digits, (letter = 'T' ∨ letter = 't') ∧ (sign = [] ∨ sign = ['+']) ∧
    (trim value).toList = letter :: '-' :: (sign ++ digits) ∧ digitsValue digits = some taskId.toNat

theorem digitsValue_eq_some {digits : List Char} {n : Nat} : digitsValue digits = some n ↔
    digits ≠ [] ∧ digits.all Char.isDigit ∧ Nat.ofDigitChars 10 digits 0 = n := by
  unfold digitsValue
  split
  · next h => simp [h]
  · next h =>
    constructor
    · intro hn
      cases hn
    · rintro ⟨h₁, h₂, -⟩
      exact absurd ⟨h₁, h₂⟩ h

theorem digitsValue_cons_none {c : Char} (h : c.isDigit = false) (l : List Char) : digitsValue (c :: l) = none := by
  unfold digitsValue
  rw [if_neg]
  simp [h]

/-- Only a text without a minus sign has a positive number. -/
theorem parseI64_pos {l : List Char} {taskId : Int} (hpos : 0 < taskId) : parseI64 l = some taskId ↔
    taskId ≤ maxI64 ∧ ∃ sign digits, (sign = [] ∨ sign = ['+']) ∧ l = sign ++ digits ∧
      digitsValue digits = some taskId.toNat := by
  have hvalue : ∀ digits, ((digitsValue digits).bind fun n => if n ≤ maxI64 then some (n : Int) else none) =
      some taskId ↔ taskId ≤ maxI64 ∧ digitsValue digits = some taskId.toNat := by
    intro digits
    cases digitsValue digits with
    | none => simp
    | some n =>
      simp only [Option.bind_some, Option.some_inj]
      split
      · simp only [Option.some_inj]
        omega
      · simp only [reduceCtorEq, false_iff, not_and]
        omega
  constructor
  · intro h
    unfold parseI64 at h
    split at h
    · next digits =>
      obtain ⟨n, -, hn⟩ := Option.bind_eq_some_iff.mp h
      split at hn
      · simp only [Option.some_inj] at hn
        omega
      · cases hn
    · next digits =>
      obtain ⟨hle, hdigits⟩ := (hvalue digits).mp h
      exact ⟨hle, ['+'], digits, .inr rfl, rfl, hdigits⟩
    · obtain ⟨hle, hdigits⟩ := (hvalue l).mp h
      exact ⟨hle, [], l, .inl rfl, rfl, hdigits⟩
  · rintro ⟨hle, sign, digits, hsign, hl, hdigits⟩
    rcases hsign with rfl | rfl
    · rw [hl, List.nil_append]
      unfold parseI64
      split
      · rw [digitsValue_cons_none (by decide)] at hdigits
        cases hdigits
      · rw [digitsValue_cons_none (by decide)] at hdigits
        cases hdigits
      · exact (hvalue digits).mpr ⟨hle, hdigits⟩
    · rw [hl]
      exact (hvalue digits).mpr ⟨hle, hdigits⟩

/-! ### Letters -/

theorem toNat_toUpper (c : Char) :
    c.toUpper.toNat = if 97 ≤ c.toNat ∧ c.toNat ≤ 122 then c.toNat - 32 else c.toNat := by
  have hrange : ('a'.val ≤ c.val ∧ c.val ≤ 'z'.val) ↔ (97 ≤ c.toNat ∧ c.toNat ≤ 122) := Iff.rfl
  have hfits : c.toNat < 2 ^ 32 := c.val.toNat_lt
  unfold Char.toUpper
  split
  · next h =>
    rw [if_pos (hrange.mp h)]
    have hnat := hrange.mp h
    change (c.val + ('A'.val - 'a'.val)).toNat = c.toNat - 32
    have hshift : ('A'.val - 'a'.val).toNat = 2 ^ 32 - 32 := by decide
    rw [UInt32.toNat_add, hshift]
    change (c.toNat + (2 ^ 32 - 32)) % 2 ^ 32 = c.toNat - 32
    omega
  · next h => rw [if_neg fun hnat => h (hrange.mpr hnat)]

/-- A character outside the alphabet stands only for itself. -/
theorem toUpper_eq_iff {c x : Char} (hx : x.toNat < 65 ∨ 122 < x.toNat) : c.toUpper = x ↔ c = x := by
  rw [← Char.toNat_inj, ← Char.toNat_inj, toNat_toUpper]
  split <;> omega

theorem toUpper_eq_letter {c : Char} : c.toUpper = 'T' ↔ c = 'T' ∨ c = 't' := by
  have hT : 'T'.toNat = 84 := rfl
  have ht : 't'.toNat = 116 := rfl
  rw [← Char.toNat_inj, ← Char.toNat_inj, ← Char.toNat_inj, toNat_toUpper, hT, ht]
  split <;> omega

theorem map_toUpper_eq_digits {l digits : List Char} (hdigits : ∀ c ∈ digits, c.isDigit) :
    l.map Char.toUpper = digits ↔ l = digits := by
  induction digits generalizing l with
  | nil => exact List.map_eq_nil_iff
  | cons d digits ih =>
    have hd : d.toNat < 65 ∨ 122 < d.toNat := by
      have h := hdigits d List.mem_cons_self
      simp only [Char.isDigit, Bool.and_eq_true, decide_eq_true_eq] at h
      have h57 : d.toNat ≤ 57 := h.2
      omega
    have hrest := fun {l} => @ih l fun c hc => hdigits c (List.mem_cons_of_mem d hc)
    cases l with
    | nil => simp
    | cons c l => rw [List.map_cons, List.cons.injEq, List.cons.injEq, toUpper_eq_iff hd, hrest]

theorem stripCodePrefix_eq_some {l rest : List Char} : stripCodePrefix l = some rest ↔ l = 'T' :: '-' :: rest := by
  unfold stripCodePrefix
  split
  · simp
  · next hno =>
    constructor
    · intro h
      cases h
    · rintro rfl
      exact absurd rfl (hno rest)

theorem digitsValue_digits {digits : List Char} {n : Nat} (h : digitsValue digits = some n) :
    ∀ c ∈ digits, c.isDigit :=
  List.all_eq_true.mp (digitsValue_eq_some.mp h).2.1

/-- **Which texts are codes**: those that spell the number. -/
theorem parsePublicTaskCode_iff {value : String} {taskId : Int} :
    parsePublicTaskCode value = some taskId ↔ SpellsCode value taskId := by
  unfold parsePublicTaskCode
  constructor
  · intro h
    obtain ⟨numericPart, hstrip, hparse⟩ := Option.bind_eq_some_iff.mp h
    split at hparse
    · cases hparse
    · obtain ⟨hparse, hpos⟩ := Option.filter_eq_some_iff.mp hparse
      rw [decide_eq_true_eq] at hpos
      obtain ⟨hfits, sign, digits, hsign, rfl, hdigits⟩ := (parseI64_pos hpos).mp hparse
      rw [stripCodePrefix_eq_some] at hstrip
      refine ⟨hpos, hfits, ?_⟩
      -- the letters before the upper case are the same but for the first
      obtain ⟨letter, tail, htext, hletter, htail⟩ := List.map_eq_cons_iff.mp hstrip
      obtain ⟨dash, rest, rfl, hdash, hrest⟩ := List.map_eq_cons_iff.mp htail
      obtain ⟨front, back, rfl, hfront, hback⟩ := List.map_eq_append_iff.mp hrest
      have hdash' : dash = '-' := (toUpper_eq_iff (by decide)).mp hdash
      have hback' : back = digits := (map_toUpper_eq_digits (digitsValue_digits hdigits)).mp hback
      have hfront' : front = sign := by
        rcases hsign with rfl | rfl
        · exact List.map_eq_nil_iff.mp hfront
        · obtain ⟨c, l, rfl, hc, hl⟩ := List.map_eq_cons_iff.mp hfront
          rw [(toUpper_eq_iff (by decide)).mp hc, List.map_eq_nil_iff.mp hl]
      subst hdash' hback' hfront'
      exact ⟨letter, front, back, toUpper_eq_letter.mp hletter, hsign, htext, hdigits⟩
  · rintro ⟨hpos, hfits, letter, sign, digits, hletter, hsign, htext, hdigits⟩
    have hupper : (trim value).toList.map Char.toUpper = 'T' :: '-' :: (sign ++ digits) := by
      have hsign' : sign.map Char.toUpper = sign := by
        rcases hsign with rfl | rfl
        · rfl
        · decide
      rw [htext, List.map_cons, List.map_cons, List.map_append, toUpper_eq_letter.mpr hletter, hsign',
        (map_toUpper_eq_digits (digitsValue_digits hdigits)).mpr rfl]
      rfl
    have hne : (sign ++ digits).isEmpty = false := by
      have hnil := (digitsValue_eq_some.mp hdigits).1
      simp [hnil]
    have hstrip : stripCodePrefix ('T' :: '-' :: (sign ++ digits)) = some (sign ++ digits) := rfl
    simp only [hupper, hstrip, Option.bind_some, hne, Bool.false_eq_true, if_false]
    rw [(parseI64_pos hpos).mpr ⟨hfits, sign, digits, hsign, rfl, hdigits⟩]
    simp [hpos]

theorem SpellsCode.unique {value : String} {m n : Int} (h : SpellsCode value m) (h' : SpellsCode value n) : m = n := by
  have hm := parsePublicTaskCode_iff.mpr h
  rw [parsePublicTaskCode_iff.mpr h'] at hm
  exact (Option.some.inj hm).symm

theorem isWhitespace_of_isDigit {c : Char} (h : c.isDigit) : isWhitespace c = false := by
  simp only [Char.isDigit, Bool.and_eq_true, decide_eq_true_eq] at h
  have h48 : 48 ≤ c.toNat := h.1
  have h57 : c.toNat ≤ 57 := h.2
  simp only [isWhitespace, Bool.or_eq_false_iff, Bool.and_eq_false_iff, beq_eq_false_iff_ne, decide_eq_false_iff_not]
  omega

/-! ## What a card shows -/

/-- The text is the shown one, in any case and with blanks around it. -/
def TypedLike (shown typed : String) : Prop :=
  ∃ lead text trail, typed.toList = lead ++ (text ++ trail) ∧ (∀ c ∈ lead, isWhitespace c = true) ∧
    (∀ c ∈ trail, isWhitespace c = true) ∧ text.map Char.toUpper = shown.toList

/-- **A displayed code is read back**, however it is typed. -/
theorem spells_displayed {taskId : Int} (hpos : 0 < taskId) (hfits : taskId ≤ maxI64) {typed : String}
    (h : TypedLike (formatPublicTaskCodeOrPlaceholder (some taskId)) typed) : SpellsCode typed taskId := by
  obtain ⟨lead, text, trail, htyped, hlead, htrail, htext⟩ := h
  obtain ⟨zeros, hpadded⟩ := toList_zeroPadded publicTaskCodeWidth taskId
  let digits := List.replicate zeros '0' ++ Nat.toDigits 10 taskId.toNat
  have hshown : (formatPublicTaskCodeOrPlaceholder (some taskId)).toList = 'T' :: '-' :: digits := by
    have hprefix : "T-".toList = ['T', '-'] := by decide
    unfold formatPublicTaskCodeOrPlaceholder formatPublicTaskCode
    simp only [gt_iff_lt, if_pos hpos, String.toList_append, hpadded, hprefix, idText_eq, if_pos (Int.le_of_lt hpos)]
    rfl
  have hall : ∀ c ∈ digits, c.isDigit := fun c hc => isDigit_of_mem_zeros hc
  have hne : digits ≠ [] := by
    have h : Nat.toDigits 10 taskId.toNat ≠ [] := Nat.toDigits_ne_nil
    simp [digits, h]
  rw [hshown] at htext
  obtain ⟨letter, tail, rfl, hletter, htail⟩ := List.map_eq_cons_iff.mp htext
  obtain ⟨dash, rest, rfl, hdash, hrest⟩ := List.map_eq_cons_iff.mp htail
  have hrest' : rest = digits := (map_toUpper_eq_digits hall).mp hrest
  have hdash' : dash = '-' := (toUpper_eq_iff (by decide)).mp hdash
  subst hdash' hrest'
  have htrimmed : Trimmed (letter :: '-' :: digits) := by
    constructor
    · rw [List.head?_cons, Option.any_some]
      rcases toUpper_eq_letter.mp hletter with rfl | rfl
      · decide
      · decide
    · obtain ⟨front, last, hsplit⟩ := (List.eq_nil_or_concat digits).resolve_left hne
      have hlast : last.isDigit := hall last (by rw [hsplit]; simp)
      have hgetLast : (letter :: '-' :: digits).getLast? = some last := by
        rw [hsplit, List.concat_eq_append]
        exact List.getLast?_concat (l := letter :: '-' :: front)
      rw [hgetLast, Option.any_some, isWhitespace_of_isDigit hlast]
  refine ⟨hpos, hfits, letter, [], digits, toUpper_eq_letter.mp hletter, .inl rfl, ?_, ?_⟩
  · rw [toList_trim, htyped, trimChars_between hlead htrail htrimmed]
    rfl
  · exact digitsValue_eq_some.mpr ⟨hne, List.all_eq_true.mpr hall, ofDigitChars_zeros _ _⟩

/-- A displayed identifier is no code: it begins with a hexadecimal digit. -/
theorem not_spells_uid (u : Uuid) (taskId : Int) {value : String} (h : trim value = u.toText) :
    ¬ SpellsCode value taskId := by
  rintro ⟨-, -, letter, sign, digits, hletter, -, htext, -⟩
  rw [h] at htext
  have hmem : letter ∈ u.hyphenated := by
    have hlist : u.toText.toList = u.hyphenated := String.toList_ofList
    rw [← hlist, htext]
    exact List.mem_cons_self
  have hno : ∀ n < 16, hexDigit n ≠ 'T' ∧ hexDigit n ≠ 't' := by decide
  rcases Uuid.mem_hyphenated hmem with rfl | ⟨n, hn, rfl⟩
  · rcases hletter with h | h <;> cases h
  · exact hletter.elim (hno n hn).1 (hno n hn).2

/-- **What a reference names**: a code comes first, and only a text that is none is read as an identifier. -/
theorem parseTaskReference_iff (parseUuid : String → Option Uuid) (value : String) (reference : TaskReference) :
    parseTaskReference parseUuid value = some reference ↔ trim value ≠ "" ∧
      match reference with
      | .publicId taskId => SpellsCode value taskId
      | .uid u => (∀ taskId, ¬ SpellsCode value taskId) ∧ parseUuid (trim value) = some u := by
  have hcode : ∀ taskId, parsePublicTaskCode (trim value) = some taskId ↔ SpellsCode value taskId := by
    intro taskId
    have hsame : parsePublicTaskCode (trim value) = parsePublicTaskCode value := by
      unfold parsePublicTaskCode
      rw [trim_trim]
    rw [hsame, parsePublicTaskCode_iff]
  have hempty : (trim value).isEmpty = true ↔ trim value = "" := by simp
  unfold parseTaskReference
  by_cases hblank : trim value = ""
  · simp only [hempty.mpr hblank, if_true]
    simp [hblank]
  · simp only [Bool.eq_false_iff.mpr (mt hempty.mp hblank), Bool.false_eq_true, if_false, ne_eq, hblank,
      not_false_eq_true, true_and]
    cases hparse : parsePublicTaskCode (trim value) with
    | some n =>
      have hspells := (hcode n).mp hparse
      simp only [Option.map_some, Option.some_or, Option.some_inj]
      cases reference with
      | publicId taskId =>
        simp only [TaskReference.publicId.injEq]
        exact ⟨fun h => h ▸ hspells, fun h => hspells.unique h⟩
      | uid u =>
        simp only [reduceCtorEq, false_iff, not_and]
        exact fun hno => absurd hspells (hno n)
    | none =>
      have hno : ∀ taskId, ¬ SpellsCode value taskId := by
        intro taskId hspells
        rw [(hcode taskId).mpr hspells] at hparse
        cases hparse
      simp only [Option.map_none, Option.none_or, Option.map_eq_some_iff]
      cases reference with
      | publicId taskId => simp [hno taskId]
      | uid u =>
        simp only [TaskReference.uid.injEq, exists_eq_right]
        exact ⟨fun h => ⟨hno, h⟩, fun h => h.2⟩

end TaskBot
