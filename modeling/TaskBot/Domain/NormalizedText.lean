import TaskBot.Domain.Parsing
import TaskBot.Lib.Blocks

/-!
# Normalized text

`normalizeWhitespace` trims a text and makes one space of each run of whitespace.  A second pass
changes nothing (`normalizeWhitespace_twice`).
-/

namespace TaskBot

namespace Parsing

open Blocks

/-! ## Trimmed texts -/

/-- The text neither begins nor ends with whitespace. -/
structure Trimmed (x : List Char) : Prop where
  head : x.head?.any isWhitespace = false
  last : x.getLast?.any isWhitespace = false

def trimChars (l : List Char) : List Char := ((l.dropWhile isWhitespace).reverse.dropWhile isWhitespace).reverse

theorem toList_trim (s : String) : (trim s).toList = trimChars s.toList := String.toList_ofList

theorem trimmed_trimChars (l : List Char) : Trimmed (trimChars l) :=
  ⟨(stripped_strip isWhitespace l).head, (stripped_strip isWhitespace l).last⟩

theorem trimChars_between {lead t trail : List Char} (hlead : ∀ c ∈ lead, isWhitespace c = true)
    (htrail : ∀ c ∈ trail, isWhitespace c = true) (ht : Trimmed t) : trimChars (lead ++ (t ++ trail)) = t :=
  strip_between hlead htrail ⟨ht.head, ht.last⟩

theorem trimChars_of_trimmed {t : List Char} (ht : Trimmed t) : trimChars t = t :=
  strip_of_stripped ⟨ht.head, ht.last⟩

/-! ### Runs of whitespace -/

theorem replaceWhitespace_head (l : List Char) :
    (replaceWhitespace l).head?.any isWhitespace = l.head?.any isWhitespace := by
  induction l with
  | nil => rfl
  | cons c l ih =>
    unfold replaceWhitespace
    split
    · next hc =>
      split
      · next hl => rw [ih, hl]; exact hc.symm
      · exact hc.symm
    · rfl

/-- Two texts between which no run of whitespace goes on. -/
theorem replaceWhitespace_append {x y : List Char}
    (h : x.getLast?.any isWhitespace = false ∨ y.head?.any isWhitespace = false) :
    replaceWhitespace (x ++ y) = replaceWhitespace x ++ replaceWhitespace y := by
  induction x with
  | nil => rfl
  | cons c x ih =>
    cases x with
    | nil =>
      show replaceWhitespace (c :: y) = replaceWhitespace [c] ++ replaceWhitespace y
      rw [replaceWhitespace, replaceWhitespace]
      by_cases hc : isWhitespace c = true
      · have hy : y.head?.any isWhitespace = false := by
          rcases h with hlast | hy
          · rw [show isWhitespace c = false from hlast] at hc
            cases hc
          · exact hy
        rw [if_pos hc, hy, if_pos hc]
        rfl
      · rw [if_neg hc, if_neg hc]
        rfl
    | cons d x =>
      have hrest : replaceWhitespace (d :: x ++ y) = replaceWhitespace (d :: x) ++ replaceWhitespace y := by
        refine ih (h.imp_left fun hlast => ?_)
        rwa [List.getLast?_cons_cons] at hlast
      show replaceWhitespace (c :: (d :: x ++ y)) = replaceWhitespace (c :: d :: x) ++ replaceWhitespace y
      rw [replaceWhitespace, replaceWhitespace, hrest]
      show (if isWhitespace c then if isWhitespace d then _ else _ else _) =
        (if isWhitespace c then if isWhitespace d then _ else _ else _) ++ replaceWhitespace y
      split
      · split
        · rfl
        · rfl
      · rfl

theorem replaceWhitespace_ne_nil (c : Char) (l : List Char) : replaceWhitespace (c :: l) ≠ [] := by
  induction l generalizing c with
  | nil =>
    rw [replaceWhitespace]
    split <;> exact List.cons_ne_nil _ _
  | cons d l ih =>
    rw [replaceWhitespace]
    split
    · split
      · exact ih d
      · exact List.cons_ne_nil _ _
    · exact List.cons_ne_nil _ _

theorem replaceWhitespace_last (l : List Char) :
    (replaceWhitespace l).getLast?.any isWhitespace = l.getLast?.any isWhitespace := by
  induction l with
  | nil => rfl
  | cons c l ih =>
    cases l with
    | nil =>
      rw [replaceWhitespace]
      split
      · next hc => exact hc.symm
      · rfl
    | cons d l =>
      obtain ⟨e, kept, hkept⟩ := List.exists_cons_of_ne_nil (replaceWhitespace_ne_nil d l)
      rw [hkept] at ih
      rw [replaceWhitespace, List.getLast?_cons_cons, ← ih, hkept]
      split
      · split
        · rfl
        · rw [List.getLast?_cons_cons]
      · rw [List.getLast?_cons_cons]

theorem head_replaceWhitespace {l : List Char} (h : l.head?.any isWhitespace = false) :
    (replaceWhitespace l).head? = l.head? := by
  cases l with
  | nil => rfl
  | cons c l =>
    have hc : isWhitespace c = false := h
    rw [replaceWhitespace, if_neg (Bool.eq_false_iff.mp hc)]
    rfl

theorem last_replaceWhitespace {l : List Char} (h : l.getLast?.any isWhitespace = false) :
    (replaceWhitespace l).getLast? = l.getLast? := by
  rcases List.eq_nil_or_concat l with rfl | ⟨l, c, rfl⟩
  · rfl
  · rw [List.concat_eq_append, List.getLast?_concat] at h ⊢
    have hc : isWhitespace c = false := h
    have hone : [c].head?.any isWhitespace = false := hc
    rw [replaceWhitespace_append (.inr hone), replaceWhitespace, if_neg (Bool.eq_false_iff.mp hc)]
    exact List.getLast?_concat

theorem replaceWhitespace_twice (l : List Char) : replaceWhitespace (replaceWhitespace l) = replaceWhitespace l := by
  induction l with
  | nil => rfl
  | cons c l ih =>
    by_cases hc : isWhitespace c = true
    · rw [replaceWhitespace, if_pos hc]
      cases hl : l.head?.any isWhitespace with
      | true => exact ih
      | false =>
        show replaceWhitespace (' ' :: replaceWhitespace l) = ' ' :: replaceWhitespace l
        rw [replaceWhitespace, if_pos isWhitespace_space, replaceWhitespace_head, hl, ih]
        rfl
    · rw [replaceWhitespace, if_neg hc, replaceWhitespace, if_neg hc, ih]

/-! ### The whole text -/

theorem trimmed_replaceWhitespace {l : List Char} (h : Trimmed l) : Trimmed (replaceWhitespace l) where
  head := (replaceWhitespace_head l).trans h.head
  last := (replaceWhitespace_last l).trans h.last

theorem toList_normalizeWhitespace (s : String) :
    (normalizeWhitespace s).toList = replaceWhitespace (trimChars s.toList) := by
  unfold normalizeWhitespace
  rw [String.toList_ofList, toList_trim]

theorem normalizeWhitespace_twice (s : String) :
    normalizeWhitespace (normalizeWhitespace s) = normalizeWhitespace s := by
  refine String.toList_injective ?_
  rw [toList_normalizeWhitespace, toList_normalizeWhitespace,
    trimChars_of_trimmed (trimmed_replaceWhitespace (trimmed_trimChars _)), replaceWhitespace_twice]

end Parsing

end TaskBot
