import TaskBot.Domain.DeadlineSpans
import TaskBot.Domain.NormalizedText

/-!
# Tidied texts

A fragment is removed at its first place (`removeFirst`).  When that is not the place of the mention it
was kept for, other letters are left, or two words are joined, or a word is left cut, so the result
differs from the text around the mention also when both are tidied (`Mention.removed_at`).

Dots and commas are trimmed before the whitespace, so what is left can keep one at an end (`CleanEnds`).
-/

namespace TaskBot

namespace Parsing

open Regex Regex.Pattern Blocks

/-! ## The first place of a fragment -/

section

variable {fragment : List Char}

theorem removeFirst_start {l : List Char} (h : fragment <+: l) : removeFirst fragment l = l.drop fragment.length := by
  cases l with
  | nil => rw [List.drop_nil]; rfl
  | cons c l => exact if_pos h

theorem removeFirst_of_absent {l : List Char} (h : ¬ fragment <:+: l) : removeFirst fragment l = l := by
  induction l with
  | nil => rfl
  | cons c l ih =>
    rw [removeFirst, if_neg fun hc => h hc.isInfix, ih fun hl => h (List.infix_cons hl)]

/-- The first place is emptied. -/
theorem exists_removeFirst (hne : fragment ≠ []) {l : List Char} (h : fragment <:+: l) :
    ∃ x y, l = x ++ (fragment ++ y) ∧ removeFirst fragment l = x ++ y ∧
      ∀ x' y', l = x' ++ (fragment ++ y') → x.length ≤ x'.length := by
  induction l with
  | nil => exact absurd (List.infix_nil.mp h) hne
  | cons c l ih =>
    by_cases hc : fragment <+: c :: l
    · obtain ⟨y, hy⟩ := hc
      refine ⟨[], y, hy.symm, ?_, fun _ _ _ => Nat.zero_le _⟩
      rw [removeFirst_start ⟨y, hy⟩, ← hy, List.drop_left]
      rfl
    · obtain ⟨x, y, rfl, hremoved, hfirst⟩ := ih ((List.infix_cons_iff.mp h).resolve_left hc)
      refine ⟨c :: x, y, rfl, ?_, fun x' y' hplace => ?_⟩
      · rw [removeFirst, if_neg hc, hremoved]
        rfl
      · cases x' with
        | nil => exact absurd ⟨y', hplace.symm⟩ hc
        | cons d x' =>
          exact Nat.succ_le_succ (hfirst x' y' (List.cons.inj hplace).2)

theorem removeFirst_first (hne : fragment ≠ []) {a b : List Char}
    (hfirst : ∀ x y, a ++ (fragment ++ b) = x ++ (fragment ++ y) → a.length ≤ x.length) :
    removeFirst fragment (a ++ (fragment ++ b)) = a ++ b := by
  obtain ⟨x, y, hplace, hremoved, hx⟩ := exists_removeFirst hne ⟨a, b, List.append_assoc _ _ _⟩
  have hlength : a.length = x.length := Nat.le_antisymm (hfirst x y hplace) (hx a b rfl)
  obtain ⟨rfl, hrest⟩ := List.append_inj hplace hlength
  rw [hremoved, List.append_cancel_left hrest]

theorem count_le_removeFirst (hne : fragment ≠ []) (c : Char) (t : List Char) :
    t.count c ≤ (removeFirst fragment t).count c + fragment.count c := by
  by_cases h : fragment <:+: t
  · obtain ⟨x, y, rfl, hremoved, -⟩ := exists_removeFirst hne h
    rw [hremoved, List.count_append, List.count_append, List.count_append]
    omega
  · rw [removeFirst_of_absent h]
    exact Nat.le_add_right _ _

end

/-! ## Tidied texts -/

def isSeparator (c : Char) : Bool := isWhitespace c || c == '.' || c == ','

/-- Without separators at the ends, and with one space for a run of whitespace. -/
def tidied (l : List Char) : List Char := replaceWhitespace (strip isSeparator l)

theorem count_replaceWhitespace {c : Char} (hc : isWhitespace c = false) (l : List Char) :
    (replaceWhitespace l).count c = l.count c := by
  have hother : ∀ {d : Char}, isWhitespace d = true → ∀ l : List Char, (d :: l).count c = l.count c := by
    intro d hd l
    refine List.count_cons_of_ne ?_
    rintro rfl
    rw [hd] at hc
    cases hc
  induction l with
  | nil => rfl
  | cons d l ih =>
    rw [replaceWhitespace]
    split
    · next hd =>
      split
      · rw [ih, hother hd]
      · rw [hother isWhitespace_space, ih, hother hd]
    · rw [List.count_cons, List.count_cons, ih]

theorem count_tidied {c : Char} (hc : isSeparator c = false) (l : List Char) : (tidied l).count c = l.count c := by
  have hwhite : isWhitespace c = false := by
    unfold isSeparator at hc
    rw [Bool.or_assoc] at hc
    exact (Bool.or_eq_false_iff.mp hc).1
  unfold tidied
  rw [count_replaceWhitespace hwhite, count_strip hc]

section

variable {tables : UnicodeTables} (hclasses : UsualClasses tables)

include hclasses

theorem separator_not_word {c : Char} (hc : isSeparator c = true) : tables.isWord c = false := by
  unfold isSeparator at hc
  rw [Bool.or_eq_true, Bool.or_eq_true, beq_iff_eq, beq_iff_eq] at hc
  rcases hc with (hwhite | rfl) | rfl
  · exact hclasses.whitespace_not_word c hwhite
  · exact hclasses.dot_not_word
  · exact hclasses.comma_not_word

theorem word_not_separator {c : Char} (hc : tables.isWord c = true) : isSeparator c = false := by
  rw [Bool.eq_false_iff]
  exact fun hsep => Bool.false_ne_true ((separator_not_word hclasses hsep).symm.trans hc)

theorem any_of_whitespace {o o' : Option Char} (h : o.any isWhitespace = o'.any isWhitespace)
    (hsame : o'.any isWhitespace = false → o = o') : o.any tables.isWord = o'.any tables.isWord := by
  cases hwhite : o'.any isWhitespace with
  | false => rw [hsame hwhite]
  | true =>
    have hnone : ∀ {o : Option Char}, o.any isWhitespace = true → o.any tables.isWord = false := by
      intro o ho
      cases o with
      | none => rfl
      | some c => exact hclasses.whitespace_not_word c ho
    rw [hnone hwhite, hnone (h.trans hwhite)]

theorem joins_replaceWhitespace (l : List Char) : joins tables.isWord (replaceWhitespace l) = joins tables.isWord l := by
  induction l with
  | nil => rfl
  | cons c l ih =>
    rw [replaceWhitespace]
    split
    · next hc =>
      have hword := hclasses.whitespace_not_word c hc
      split
      · rw [ih, joins, hword]
        rfl
      · rw [joins, joins, hword, tables.space_not_word, ih]
        rfl
    · rw [joins, joins, any_of_whitespace hclasses (replaceWhitespace_head l) head_replaceWhitespace, ih]

theorem joins_tidied (l : List Char) : joins tables.isWord (tidied l) = joins tables.isWord l := by
  unfold tidied
  rw [joins_replaceWhitespace hclasses, joins_strip fun _ => separator_not_word hclasses]

/-- Before one end a text that ends a word is told from one that does not. -/
theorem tidied_append_ne {l l' b : List Char} (hb : b.head?.any tables.isWord = true)
    (hl : l.getLast?.any tables.isWord = true) (hl' : l'.getLast?.any tables.isWord = false) :
    tidied (l ++ b) ≠ tidied (l' ++ b) := by
  cases b with
  | nil => cases hb
  | cons c b =>
    have hc : isSeparator c = false := word_not_separator hclasses hb
    have hfirst : (c :: b).head?.any isSeparator = false := hc
    have hone : [c].getLast?.any isSeparator = false := hc
    have hend : (c :: b).rdropWhile isSeparator = c :: b.rdropWhile isSeparator := rdropWhile_append_of_last hone
    have hsplit : ∀ l : List Char, tidied (l ++ c :: b) =
        replaceWhitespace (l.dropWhile isSeparator) ++ replaceWhitespace (c :: b.rdropWhile isSeparator) := by
      intro l
      unfold tidied
      rw [strip_append (List.cons_ne_nil c b) hfirst, hend]
      exact replaceWhitespace_append (.inr (hclasses.not_whitespace hb))
    have hlast : ∀ l : List Char, (replaceWhitespace l).getLast?.any tables.isWord = l.getLast?.any tables.isWord :=
      fun l => any_of_whitespace hclasses (replaceWhitespace_last l) last_replaceWhitespace
    intro h
    rw [hsplit, hsplit] at h
    have hsame := congrArg (fun x => x.getLast?.any tables.isWord) (List.append_cancel_right h)
    simp only [hlast, last_any_dropWhile fun _ => word_not_separator hclasses] at hsame
    rw [hl, hl'] at hsame
    cases hsame

/-! ## What is removed elsewhere -/

/-- Only what is kept of a span as it stands, and stands nowhere before it, leaves the text around the span. -/
theorem Mention.removed_at {text a b span fragment : List Char} (h : Mention tables text a span b fragment)
    (htidied : tidied (removeFirst fragment text) = tidied (a ++ b)) :
    fragment = span ∧ ∀ x y, text = x ++ (fragment ++ y) → a.length ≤ x.length := by
  have hne : fragment ≠ [] := by
    rintro rfl
    cases h.head
  have hsame : span = fragment := by
    by_contra hdiffer
    obtain ⟨c, hword, hless⟩ := h.differs hdiffer
    have hcount := congrArg (List.count c) htidied
    have hsep := word_not_separator hclasses hword
    rw [count_tidied hsep, count_tidied hsep, List.count_append] at hcount
    have htext := congrArg (List.count c) h.eq
    rw [List.count_append, List.count_append] at htext
    have hremoved := count_le_removeFirst hne c text
    omega
  subst hsame
  refine ⟨rfl, ?_⟩
  have hpresent : span <:+: text := ⟨a, b, (List.append_assoc _ _ _).trans h.eq.symm⟩
  obtain ⟨x, y, hplace, hremoved, hfirst⟩ := exists_removeFirst hne hpresent
  rcases Nat.lt_or_ge x.length a.length with hlt | hge
  · have hplaces : x ++ (span ++ y) = a ++ (span ++ b) := hplace.symm.trans h.eq
    rw [hremoved] at htidied
    cases hb : b.head?.any tables.isWord with
    | false =>
      -- the earlier place is beside a word, this one is not
      have hjoins := joins_lt_of_alone h.head h.last hplaces (h.earlier rfl x y hplace hlt) h.alone hb
      rw [← joins_tidied hclasses, htidied, joins_tidied hclasses] at hjoins
      exact absurd hjoins (Nat.lt_irrefl _)
    | true =>
      -- the word that follows is left behind another word
      obtain ⟨z, rfl, hlast⟩ := exists_before_end hne hplaces hlt
      have hword : (x ++ z).getLast?.any tables.isWord = true := by
        rw [hlast]
        exact h.last
      rw [← List.append_assoc] at htidied
      exact absurd htidied (tidied_append_ne hclasses hb hword h.alone)
  · exact fun x' y' hplace' => hge.trans (hfirst x' y' hplace')

theorem tidied_removeFirst_iff {text fragment : List Char} (hhead : fragment.head?.any tables.isWord = true) :
    tidied (removeFirst fragment text) = tidied text ↔ ¬ fragment <:+: text := by
  constructor
  · intro htidied h
    cases fragment with
    | nil => cases hhead
    | cons c fragment =>
      obtain ⟨x, y, rfl, hremoved, -⟩ := exists_removeFirst (List.cons_ne_nil c fragment) h
      have hcount := congrArg (List.count c) htidied
      have hsep : isSeparator c = false := word_not_separator hclasses hhead
      rw [hremoved, count_tidied hsep, count_tidied hsep, List.count_append, List.count_append, List.count_append,
        List.count_cons_self] at hcount
      omega
  · intro h
    rw [removeFirst_of_absent h]

end

/-! ## Trimming in two steps -/

def isPunctuation (c : Char) : Bool := c == '.' || c == ','

/-- Without dots and commas, and then without whitespace, the text neither begins nor ends with a dot or a
comma. -/
def CleanEnds (l : List Char) : Prop := Stripped isPunctuation (strip isWhitespace (strip isPunctuation l))

theorem any_isSeparator (o : Option Char) : o.any isSeparator = (o.any isWhitespace || o.any isPunctuation) := by
  cases o with
  | none => rfl
  | some c => exact Bool.or_assoc _ _ _

theorem any_isSeparator_eq_false {o : Option Char} :
    o.any isSeparator = false ↔ o.any isWhitespace = false ∧ o.any isPunctuation = false := by
  rw [any_isSeparator, Bool.or_eq_false_iff]

theorem cleanEnds_iff {l : List Char} :
    CleanEnds l ↔ Stripped isSeparator (strip isWhitespace (strip isPunctuation l)) := by
  have hwhite := stripped_strip isWhitespace (strip isPunctuation l)
  constructor
  · intro h
    exact ⟨any_isSeparator_eq_false.mpr ⟨hwhite.head, h.head⟩, any_isSeparator_eq_false.mpr ⟨hwhite.last, h.last⟩⟩
  · intro h
    exact ⟨(any_isSeparator_eq_false.mp h.head).2, (any_isSeparator_eq_false.mp h.last).2⟩

/-- The two steps leave what one would, when the second leaves nothing for the first. -/
theorem CleanEnds.strip_eq {l : List Char} (h : CleanEnds l) :
    strip isSeparator l = strip isWhitespace (strip isPunctuation l) := by
  have hsep : ∀ {c}, isPunctuation c = true ∨ isWhitespace c = true → isSeparator c = true := by
    intro c hc
    rw [show isSeparator c = _ from any_isSeparator (some c), Bool.or_eq_true]
    exact hc.symm
  have hends := cleanEnds_iff.mp h
  obtain ⟨lead, trail, hl, hlead, htrail⟩ := exists_strip isPunctuation l
  obtain ⟨lead', trail', hl', hlead', htrail'⟩ := exists_strip isWhitespace (strip isPunctuation l)
  generalize strip isWhitespace (strip isPunctuation l) = kept at hends hl'
  have hall : l = (lead ++ lead') ++ (kept ++ (trail' ++ trail)) := by
    rw [hl, hl']
    simp only [List.append_assoc]
  rw [hall]
  refine strip_between (fun c hc => hsep ?_) (fun c hc => hsep ?_) hends
  · exact (List.mem_append.mp hc).imp (hlead c) (hlead' c)
  · exact (List.mem_append.mp hc).symm.imp (htrail c) (htrail' c)

/-- What is trimmed in two steps is tidied when no dot or comma is left at its ends. -/
theorem trimmed_eq_tidied_iff (l l' : List Char) :
    replaceWhitespace (strip isWhitespace (strip isPunctuation l)) = tidied l' ↔ tidied l = tidied l' ∧ CleanEnds l := by
  constructor
  · intro h
    have hwhite := stripped_strip isWhitespace (strip isPunctuation l)
    have hstripped := stripped_strip isSeparator l'
    have hhead := congrArg List.head? h
    have hlast := congrArg List.getLast? h
    unfold tidied at hhead hlast
    rw [head_replaceWhitespace hwhite.head,
      head_replaceWhitespace (any_isSeparator_eq_false.mp hstripped.head).1] at hhead
    rw [last_replaceWhitespace hwhite.last,
      last_replaceWhitespace (any_isSeparator_eq_false.mp hstripped.last).1] at hlast
    have hends : CleanEnds l := cleanEnds_iff.mpr ⟨hhead ▸ hstripped.head, hlast ▸ hstripped.last⟩
    refine ⟨?_, hends⟩
    rw [← h]
    unfold tidied
    rw [hends.strip_eq]
  · rintro ⟨h, hends⟩
    rw [← h]
    unfold tidied
    rw [hends.strip_eq]

end Parsing

end TaskBot
