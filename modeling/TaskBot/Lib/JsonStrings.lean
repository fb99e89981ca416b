import Mathlib.Data.List.Basic

/-!
# Arrays of strings as JSON

`print` writes the array without blanks, with the short escapes and `\u00..` for the other control characters,
all other characters as they are; `parse` reads such texts.

* `readChar_escapeChar`, `readText_escape`: one character, and one string, are read back;
* `parse_print`: so is the array.
-/

namespace JsonStrings

def quote : Char := Char.ofNat 34

def backslash : Char := Char.ofNat 92

/-- The characters with an escape of one letter. -/
def shorts : List (Char × Char) :=
  [(quote, quote), (backslash, backslash), (Char.ofNat 8, 'b'), (Char.ofNat 9, 't'), (Char.ofNat 10, 'n'),
    (Char.ofNat 12, 'f'), (Char.ofNat 13, 'r')]

def escapeChar (c : Char) : List Char :=
  match shorts.lookup c with
  | some e => [backslash, e]
  | none =>
      if c.toNat < 32 then
        [backslash, 'u', '0', '0', Nat.digitChar (c.toNat / 16), Nat.digitChar (c.toNat % 16)]
      else [c]

def printText (s : String) : List Char := quote :: (s.toList.flatMap escapeChar ++ [quote])

def printItems : List String → List Char
  | [] => [']']
  | [s] => printText s ++ [']']
  | s :: l => printText s ++ ',' :: printItems l

def print (l : List String) : String := String.ofList ('[' :: printItems l)

/-- The control character with these two digits. -/
def control (high low : Char) : Option Char :=
  ((List.range 32).find? fun n => Nat.digitChar (n / 16) = high && Nat.digitChar (n % 16) = low).map Char.ofNat

/-- What follows a backslash. -/
def readEscape : List Char → Option (Char × List Char)
  | 'u' :: '0' :: '0' :: high :: low :: rest => (control high low).map fun c => (c, rest)
  | e :: rest => (shorts.find? fun p => p.2 = e).map fun p => (p.1, rest)
  | [] => none

def readChar : List Char → Option (Char × List Char)
  | [] => none
  | c :: rest => if c = backslash then readEscape rest else if c = quote then none else some (c, rest)

/-- The rest of a string, up to its closing quote; there are at most `fuel` characters. -/
def readText : Nat → List Char → Option (List Char × List Char)
  | 0, _ => none
  | fuel + 1, l =>
      if l.head? = some quote then some ([], l.tail)
      else do
        let (c, rest) ← readChar l
        let (cs, rest) ← readText fuel rest
        some (c :: cs, rest)

/-- The rest of an array. -/
def readItems : Nat → List Char → Option (List String)
  | 0, _ => none
  | _ + 1, [']'] => some []
  | fuel + 1, c :: l =>
      if c = quote then do
        let (s, rest) ← readText (l.length + 1) l
        match rest with
        | ',' :: rest => (readItems fuel rest).map (String.ofList s :: ·)
        | [']'] => some [String.ofList s]
        | _ => none
      else none
  | _ + 1, [] => none

def parse (text : String) : Option (List String) :=
  match text.toList with
  | '[' :: l => readItems (l.length + 1) l
  | _ => none

/-! ## What is printed is read back -/

theorem readEscape_short (rest : List Char) : ∀ p ∈ shorts, readEscape (p.2 :: rest) = some (p.1, rest) := by
  have hletter : ∀ p ∈ shorts, p.2 ≠ 'u' ∧ shorts.find? (fun p' => p'.2 = p.2) = some p := by decide
  intro p hp
  obtain ⟨hu, hfind⟩ := hletter p hp
  unfold readEscape
  split
  · next heq => exact absurd (List.cons.inj heq).1 hu
  · next heq =>
    obtain ⟨rfl, rfl⟩ := List.cons.inj heq
    rw [hfind]
    rfl
  · next heq => cases heq

theorem control_digits : ∀ n < 32, control (Nat.digitChar (n / 16)) (Nat.digitChar (n % 16)) = some (Char.ofNat n) := by
  decide

theorem readChar_escapeChar (c : Char) (rest : List Char) : readChar (escapeChar c ++ rest) = some (c, rest) := by
  unfold escapeChar
  cases hshort : shorts.lookup c with
  | some e =>
    obtain ⟨l, l', hl, -⟩ := List.lookup_eq_some_iff.mp hshort
    have hmem : (c, e) ∈ shorts := by
      rw [hl]
      exact List.mem_append_right _ List.mem_cons_self
    show readChar (backslash :: e :: rest) = _
    rw [readChar, if_pos rfl]
    exact readEscape_short rest (c, e) hmem
  | none =>
    have hplain : ∀ p ∈ shorts, c ≠ p.1 := by
      intro p hp hc
      have hnone := List.lookup_eq_none_iff.mp hshort p hp
      exact absurd hc (by simpa using hnone)
    simp only
    by_cases hcontrol : c.toNat < 32
    · rw [if_pos hcontrol]
      show (control _ _).map (fun c => (c, rest)) = _
      rw [control_digits _ hcontrol, Char.ofNat_toNat]
      rfl
    · have hback : c ≠ backslash := hplain (backslash, backslash) (by decide)
      have hquote : c ≠ quote := hplain (quote, quote) (by decide)
      rw [if_neg hcontrol]
      show readChar (c :: rest) = _
      rw [readChar, if_neg hback, if_neg hquote]

/-- No character is escaped by a quote first. -/
theorem head_escapeChar (c : Char) (rest : List Char) : (escapeChar c ++ rest).head? ≠ some quote := by
  intro h
  have hread := readChar_escapeChar c rest
  cases hl : escapeChar c ++ rest with
  | nil =>
    rw [hl] at h
    cases h
  | cons d l =>
    rw [hl] at h hread
    cases h
    have hne : quote ≠ backslash := by decide
    rw [readChar, if_neg hne, if_pos rfl] at hread
    cases hread

theorem readText_escape (s rest : List Char) : ∀ fuel, s.length < fuel →
    readText fuel (s.flatMap escapeChar ++ quote :: rest) = some (s, rest) := by
  induction s with
  | nil =>
    intro fuel hfuel
    obtain ⟨fuel, rfl⟩ := Nat.exists_eq_succ_of_ne_zero (by omega : fuel ≠ 0)
    rfl
  | cons c s ih =>
    intro fuel hfuel
    obtain ⟨fuel, rfl⟩ := Nat.exists_eq_succ_of_ne_zero (by omega : fuel ≠ 0)
    have hs : s.length < fuel := by simpa using hfuel
    rw [List.flatMap_cons, List.append_assoc, readText, if_neg (head_escapeChar c _), readChar_escapeChar]
    show (do
      let (cs, rest) ← readText fuel (s.flatMap escapeChar ++ quote :: rest)
      some (c :: cs, rest)) = _
    rw [ih fuel hs]
    rfl

theorem length_le_escape (s : List Char) : s.length ≤ (s.flatMap escapeChar).length := by
  induction s with
  | nil => exact Nat.le_refl 0
  | cons c s ih =>
    have hone : 1 ≤ (escapeChar c).length := by
      unfold escapeChar
      split
      · simp
      · split <;> simp
    rw [List.flatMap_cons, List.length_append, List.length_cons]
    omega

/-- One string of an array. -/
theorem readItems_printText (s : String) (rest : List Char) (fuel : Nat) :
    readItems (fuel + 1) (printText s ++ rest) =
      match rest with
      | ',' :: rest => (readItems fuel rest).map (s :: ·)
      | [']'] => some [s]
      | _ => none := by
  have htext : readText ((s.toList.flatMap escapeChar ++ quote :: rest).length + 1)
      (s.toList.flatMap escapeChar ++ quote :: rest) = some (s.toList, rest) := by
    refine readText_escape s.toList rest _ ?_
    have hlen := length_le_escape s.toList
    rw [List.length_append]
    omega
  have hsplit : printText s ++ rest = quote :: (s.toList.flatMap escapeChar ++ quote :: rest) := by
    simp [printText]
  rw [hsplit]
  show (if quote = quote then _ else _) = _
  rw [if_pos rfl, htext]
  simp only [Option.bind_eq_bind, Option.bind_some, String.ofList_toList]

theorem readItems_printItems (l : List String) : ∀ fuel, l.length < fuel → readItems fuel (printItems l) = some l := by
  induction l with
  | nil =>
    intro fuel hfuel
    obtain ⟨fuel, rfl⟩ := Nat.exists_eq_succ_of_ne_zero (by omega : fuel ≠ 0)
    rfl
  | cons s l ih =>
    intro fuel hfuel
    obtain ⟨fuel, rfl⟩ := Nat.exists_eq_succ_of_ne_zero (by omega : fuel ≠ 0)
    have hl : l.length < fuel := by simpa using hfuel
    cases l with
    | nil => exact readItems_printText s [']'] fuel
    | cons s' l =>
      show readItems (fuel + 1) (printText s ++ ',' :: printItems (s' :: l)) = _
      rw [readItems_printText]
      show (readItems fuel (printItems (s' :: l))).map (s :: ·) = _
      rw [ih fuel hl]
      rfl

theorem length_lt_printItems (l : List String) : l.length < (printItems l).length := by
  induction l with
  | nil => decide
  | cons s l ih =>
    cases l with
    | nil => simp [printItems, printText]
    | cons s' l =>
      show (s' :: l).length + 1 < (printText s ++ ',' :: printItems (s' :: l)).length
      simp only [List.length_append, List.length_cons] at ih ⊢
      omega

/-- **A printed array is read back.** -/
theorem parse_print (l : List String) : parse (print l) = some l := by
  unfold parse print
  rw [String.toList_ofList]
  have hlen := length_lt_printItems l
  exact readItems_printItems l _ (by omega)

end JsonStrings
