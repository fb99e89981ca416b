import TaskBot.Domain.DeadlinePhrases
import TaskBot.Lib.Blocks
import TaskBot.Lib.Spellings

/-!
# Deadline spans

Where a deadline stands in a text (`locate`), and what the parser keeps of it (`Phrase.fragment`): a
date or a period as it stands, a day in lower case, a weekday without its preposition.

A span is told from any other place of the same text (`Mention`): it stands alone, and no earlier
place of the kept text does, since the search would have found it.
-/

namespace TaskBot

namespace Parsing

open Regex Regex.Pattern Blocks MayPanic

/-- The classes of word characters and digits, as far as separators go. -/
structure UsualClasses (tables : UnicodeTables) : Prop where
  decimal_word : ∀ c, tables.isDecimal c = true → tables.isWord c = true
  whitespace_not_word : ∀ c, isWhitespace c = true → tables.isWord c = false
  dot_not_word : tables.isWord '.' = false
  comma_not_word : tables.isWord ',' = false

theorem UsualClasses.comma_not_decimal {tables : UnicodeTables} (h : UsualClasses tables) :
    tables.isDecimal ',' = false := by
  rw [Bool.eq_false_iff]
  exact fun hcomma => Bool.false_ne_true (h.comma_not_word.symm.trans (h.decimal_word _ hcomma))

/-- What is kept of a phrase. -/
def Phrase.fragment : Phrase → String
  | .date taken | .period taken => matchedText taken
  | .days _ raw | .weekday _ raw => raw

section

variable (tables : UnicodeTables)

/-- The phrase of a normalized text, and where it is found. -/
def locate (normalized : String) : Option (Found × Phrase) :=
  let find (p : Pattern) := Pattern.find tables.isWord p none normalized.toList
  match find (absoluteDeadlineRegex tables) with
  | some found => some (found, .date found.taken)
  | none =>
      match (find relativeDeadlineRegex).bind fun found => (relativePhrase found.taken).map (found, ·) with
      | some located => some located
      | none =>
          match find (inPeriodRegex tables) with
          | some found => some (found, .period found.taken)
          | none => (find weekdayRegex).bind fun found => (weekdayPhrase found.taken).map (found, ·)

end

/-- The matched text without whitespace at its ends. -/
def spanText (found : Found) : List Char := strip isWhitespace found.taken.text

/-- Where it begins. -/
def spanStart (found : Found) : Nat := found.skipped.length + (found.taken.text.takeWhile isWhitespace).length

/-- What a phrase begins with. -/
def openings : List Char := ['в', 'д', 'з', 'к', 'п', 'с', 'ч']

def Opened (t : List Char) : Prop := ∃ c rest, t = c :: rest ∧ foldCase c ∈ openings

/-- A text as the phrases spell it. -/
structure Worded (tables : UnicodeTables) (t : List Char) : Prop where
  opened : Opened t
  last : t.getLast?.any tables.isWord = true
  comma : ',' ∉ t

/-- A phrase in a text, and what is kept of it. -/
structure Mention (tables : UnicodeTables) (text before span after fragment : List Char) : Prop where
  eq : text = before ++ (span ++ after)
  worded : Worded tables span
  head : fragment.head?.any tables.isWord = true
  last : fragment.getLast?.any tables.isWord = true
  alone : before.getLast?.any tables.isWord = false
  differs : span ≠ fragment → ∃ c, tables.isWord c = true ∧ fragment.count c < span.count c
  earlier : span = fragment → ∀ x y, text = x ++ (span ++ y) → x.length < before.length →
    x.getLast?.any tables.isWord = true ∨ y.head?.any tables.isWord = true

/-! ## Words -/

theorem isLetter_of_opening {c : Char} (hc : c ∈ openings) : isLetter c = true := by
  have hall : openings.all isLetter = true := by decide
  exact List.all_eq_true.mp hall c hc

theorem Opened.append {x : List Char} (h : Opened x) (y : List Char) : Opened (x ++ y) := by
  obtain ⟨c, rest, rfl, hc⟩ := h
  exact ⟨c, rest ++ y, rfl, hc⟩

theorem Opened.ne_nil {t : List Char} (h : Opened t) : t ≠ [] := by
  obtain ⟨c, rest, rfl, -⟩ := h
  exact List.cons_ne_nil c rest

theorem Opened.head (tables : UnicodeTables) {t : List Char} (h : Opened t) : t.head?.any tables.isWord = true := by
  obtain ⟨c, rest, rfl, hc⟩ := h
  exact tables.letter_word c (isLetter_of_opening hc)

def Letterish (c : Char) : Prop := isLetter (foldCase c) = true

theorem last_any_of_forall {p : Char → Bool} {l : List Char} (hne : l ≠ []) (h : ∀ c ∈ l, p c = true) :
    l.getLast?.any p = true := by
  rw [List.getLast?_eq_some_getLast hne]
  exact h _ (List.getLast_mem hne)

theorem spells_word {text : String} {t : List Char} (h : (word text).Spells t) : t.map foldCase = text.toList := by
  have hpairs := spells_literal_iff.mp h
  clear h
  generalize text.toList = cs at hpairs
  induction hpairs with
  | nil => rfl
  | cons hc _ ih => rw [List.map_cons, ih, beq_iff_eq.mp hc]

theorem over_word {text : String} (htext : text.toList.all isLetter = true) : (word text).Over Letterish := by
  refine over_literal fun c hc x hx => ?_
  unfold Letterish
  rw [beq_iff_eq.mp hx]
  exact List.all_eq_true.mp htext c hc

theorem over_letterOf {letters : String} (hletters : letters.toList.all isLetter = true) :
    (letterOf letters).Over Letterish :=
  fun _ hx => List.all_eq_true.mp hletters _ (List.contains_iff_mem.mp hx)

theorem opened_word {text : String} {t : List Char} (htext : text.toList.head?.any openings.contains = true)
    (h : (word text).Spells t) : Opened t := by
  rw [← spells_word h] at htext
  cases t with
  | nil => cases htext
  | cons c t => exact ⟨c, t, rfl, List.contains_iff_mem.mp htext⟩

section

variable {tables : UnicodeTables} {text : List Char} {f : Found} {after : List Char} {inner : Pattern}

/-- No earlier place of the text stands alone. -/
theorem beside_word (hinner : inner.closed = true) (h : Leftmost tables.isWord (.seq .boundary inner) none text f after)
    {t x y : List Char} (ht : inner.Spells t) (hhead : t.head?.any tables.isWord = true)
    (hlast : t.getLast?.any tables.isWord = true) (htext : text = x ++ (t ++ y)) (hx : x.length < f.skipped.length) :
    x.getLast?.any tables.isWord = true ∨ y.head?.any tables.isWord = true := by
  by_contra hnone
  rw [not_or, Bool.not_eq_true, Bool.not_eq_true] at hnone
  have hbefore : ∀ l : List Char, before none l = l.getLast? := fun _ => Option.or_none
  have hend : (before (before none x) t).any tables.isWord ≠ y.head?.any tables.isWord := by
    rw [← before_append, hnone.2, hbefore, last_any_append hlast]
    exact Bool.noConfusion
  have hstart : (before none x).any tables.isWord ≠ (t ++ y).head?.any tables.isWord := by
    rw [hbefore, hnone.1, head_any_append hhead]
    exact Bool.noConfusion
  obtain ⟨m, hm, -⟩ := exists_of_spells hinner ht hend
  have hmatch := mem_boundary_iff.mpr ⟨hstart, hm⟩
  rw [h.earlier x (t ++ y) htext hx] at hmatch
  cases hmatch

/-- A match begins where no word ends. -/
theorem alone_of_match (h : Leftmost tables.isWord (.seq .boundary inner) none text f after)
    (hhead : (f.taken.text ++ after).head?.any tables.isWord = true) : f.skipped.getLast?.any tables.isWord = false := by
  have hboundary := (mem_boundary_iff.mp h.taken).1
  rw [show before none f.skipped = f.skipped.getLast? from Option.or_none, hhead] at hboundary
  simpa using hboundary

/-! ## The four phrases -/

variable {prev : Option Char} {s : List Char} {m : Taken}

theorem last_of_digits (hclasses : UsualClasses tables) {t : List Char} {least : Nat} {most : Option Nat}
    (hleast : 0 < least) (h : (Pattern.run tables.isDecimal least most).Spells t) :
    t.getLast?.any tables.isWord = true :=
  last_any_of_forall (List.ne_nil_of_length_pos (Nat.lt_of_lt_of_le hleast h.2.1))
    fun c hc => hclasses.decimal_word c (h.1 c hc)

theorem last_of_letters {t : List Char} (hne : t ≠ []) (h : ∀ c ∈ t, Letterish c) :
    t.getLast?.any tables.isWord = true :=
  last_any_of_forall hne fun c hc => tables.letter_word c (h c hc)

theorem opened_preposition {t : List Char} (h : (oneOf [word "до", word "к"]).Spells t) : Opened t :=
  h.elim (opened_word (by decide)) (opened_word (by decide))

theorem date_worded (hclasses : UsualClasses tables)
    (h : m ∈ ends tables.isWord (absoluteDeadlineRegex tables) prev s) : Worded tables m.text := by
  have hcomma : (absoluteDeadlineRegex tables).avoids ',' = true := by
    simp only [absoluteDeadlineRegex, avoids, oneOf, whitespaces, hclasses.comma_not_decimal]
    decide
  have hnone := not_mem_of_avoids hcomma h
  obtain ⟨prep, r, ht, hprep, spaces, r₁, rfl, -, day, r₂, rfl, -, dot, r₃, rfl, -, month, r₄, rfl, hmonth, htail⟩ :=
    spells_of_mem (mem_boundary_iff.mp h).2
  rw [ht] at hnone ⊢
  refine ⟨(opened_preposition hprep).append _, ?_, hnone⟩
  refine last_any_append (last_any_append (last_any_append (last_any_append ?_)))
  rcases htail with ⟨dot, year, rfl, -, hyear⟩ | rfl
  · exact last_any_append (last_any_append (last_of_digits hclasses (by decide) hyear))
  · rw [List.append_nil]
    exact last_of_digits hclasses (by decide) hmonth

theorem day_worded (h : m ∈ ends tables.isWord relativeDeadlineRegex prev s) :
    Worded tables m.text ∧ (∀ c ∈ m.text, Letterish c) ∧ m.group "raw" = some m.text := by
  have hnone := not_mem_of_avoids (c := ',') (by decide) h
  obtain ⟨ma, hma, mb, hmb, rfl⟩ := mem_seq (mem_boundary_iff.mp h).2
  obtain ⟨mw, hmw, rfl⟩ := List.mem_map.mp hma
  have hend : mb.text = [] := spells_of_mem hmb
  have htext : (Taken.append (mw.named "raw") mb).text = mw.text := by
    show mw.text ++ mb.text = mw.text
    rw [hend, List.append_nil]
  have hone : ∀ w ∈ ["сегодня", "завтра", "послезавтра", "срочно"], (word w).Spells mw.text →
      Opened mw.text ∧ ∀ c ∈ mw.text, Letterish c := by
    intro w hw hspells
    have hwords : ∀ w ∈ ["сегодня", "завтра", "послезавтра", "срочно"],
        w.toList.head?.any openings.contains = true ∧ w.toList.all isLetter = true := by decide
    exact ⟨opened_word (hwords w hw).1 hspells, (over_word (hwords w hw).2).forall_mem hspells⟩
  have hword : Opened mw.text ∧ ∀ c ∈ mw.text, Letterish c := by
    rcases spells_of_mem hmw with hw | hw | hw | hw
    · exact hone _ (by decide) hw
    · exact hone _ (by decide) hw
    · exact hone _ (by decide) hw
    · exact hone _ (by decide) hw
  rw [htext] at hnone ⊢
  exact ⟨⟨hword.1, last_of_letters hword.1.ne_nil hword.2, hnone⟩, hword.2, rfl⟩

theorem period_worded (hclasses : UsualClasses tables) (h : m ∈ ends tables.isWord (inPeriodRegex tables) prev s) :
    Worded tables m.text := by
  have hcomma : (inPeriodRegex tables).avoids ',' = true := by
    simp only [inPeriodRegex, avoids, oneOf, whitespaces, hclasses.comma_not_decimal]
    decide
  have hnone := not_mem_of_avoids hcomma h
  obtain ⟨through, r, ht, hthrough, spaces, r₁, rfl, -, value, r₂, rfl, -, spaces', r₃, rfl, -, unit, r₄, rfl, hunit, rfl⟩ :=
    spells_of_mem (mem_boundary_iff.mp h).2
  have hunits : (oneOf [.seq (word "дн") (.optional (oneOf [word "ей", word "я"])),
      .seq (word "час") (.optional (oneOf [word "ов", word "а"]))]).Over Letterish :=
    ⟨⟨over_word (by decide), over_word (by decide), over_word (by decide)⟩,
      over_word (by decide), over_word (by decide), over_word (by decide)⟩
  have hne : unit ≠ [] := by
    rcases hunit with ⟨stem, ending, rfl, hstem, -⟩ | ⟨stem, ending, rfl, hstem, -⟩
    · exact List.append_ne_nil_of_left_ne_nil ((opened_word (by decide) hstem).ne_nil) _
    · exact List.append_ne_nil_of_left_ne_nil ((opened_word (by decide) hstem).ne_nil) _
  rw [ht] at hnone ⊢
  refine ⟨(opened_word (by decide) hthrough).append _, ?_, hnone⟩
  rw [List.append_nil]
  exact last_any_append (last_any_append (last_any_append (last_any_append
    (last_of_letters hne (hunits.forall_mem hunit)))))

/-- The parts of a weekday. -/
structure WeekdayParts (m : Taken) (prep spaces raw : List Char) : Prop where
  text : m.text = prep ++ (spaces ++ raw)
  prep : prep = [] ∨ Opened prep
  spaces : ∀ c ∈ spaces, isWhitespace c = true
  spells : weekdayName.Spells raw
  opened : Opened raw
  letters : ∀ c ∈ raw, Letterish c
  group : m.group "raw" = some raw

theorem exists_weekdayParts (h : m ∈ ends tables.isWord weekdayRegex prev s) :
    ∃ prep spaces raw, WeekdayParts m prep spaces raw := by
  obtain ⟨mp, hmp, m₁, hm₁, rfl⟩ := mem_seq (mem_boundary_iff.mp h).2
  obtain ⟨ms, hms, m₂, hm₂, rfl⟩ := mem_seq hm₁
  obtain ⟨m₃, hm₃, mb, hmb, rfl⟩ := mem_seq hm₂
  obtain ⟨mr, hmr, rfl⟩ := List.mem_map.mp hm₃
  have hend : mb.text = [] := spells_of_mem hmb
  have hspells := spells_of_mem hmr
  have hletters : weekdayName.Over Letterish :=
    ⟨⟨over_word (by decide), over_word (by decide), over_word (by decide)⟩,
      ⟨over_word (by decide), over_word (by decide), over_word (by decide)⟩,
      ⟨over_word (by decide), over_letterOf (by decide)⟩,
      ⟨over_word (by decide), over_word (by decide), over_word (by decide)⟩,
      ⟨over_word (by decide), over_letterOf (by decide)⟩,
      ⟨over_word (by decide), over_letterOf (by decide)⟩,
      over_word (by decide), over_letterOf (by decide)⟩
  have hstem : ∀ {w : String} {p : Pattern}, w.toList.head?.any openings.contains = true →
      (Pattern.seq (word w) p).Spells mr.text → Opened mr.text := by
    rintro w p hw ⟨stem, ending, ht, hstem, -⟩
    rw [ht]
    exact (opened_word hw hstem).append ending
  refine ⟨mp.text, ms.text, mr.text, ?_, ?_, (spells_of_mem hms).1, hspells, ?_, hletters.forall_mem hspells, ?_⟩
  · show mp.text ++ (ms.text ++ (mr.text ++ mb.text)) = _
    rw [hend, List.append_nil]
  · rcases spells_of_mem hmp with hprep | hprep
    · exact .inr (opened_preposition hprep)
    · exact .inl hprep
  · rcases hspells with hw | hw | hw | hw | hw | hw | hw
    · exact hstem (by decide) hw
    · exact hstem (by decide) hw
    · exact hstem (by decide) hw
    · exact hstem (by decide) hw
    · exact hstem (by decide) hw
    · exact hstem (by decide) hw
    · exact hstem (by decide) hw
  · have hnone : mp.groups = [] ∧ ms.groups = [] := ⟨groups_eq_nil (by decide) hmp, groups_eq_nil (by decide) hms⟩
    show (mp.groups ++ (ms.groups ++ _)).lookup "raw" = _
    rw [hnone.1, hnone.2]
    rfl

/-! ## Mentions -/

theorem UsualClasses.not_whitespace (hclasses : UsualClasses tables) {c : Char} (hc : tables.isWord c = true) :
    isWhitespace c = false := by
  rw [Bool.eq_false_iff]
  exact fun hwhite => Bool.false_ne_true ((hclasses.whitespace_not_word c hwhite).symm.trans hc)

theorem UsualClasses.any_not_whitespace (hclasses : UsualClasses tables) {o : Option Char}
    (h : o.any tables.isWord = true) : o.any isWhitespace = false := by
  cases o with
  | none => rfl
  | some c => exact hclasses.not_whitespace h

theorem Worded.stripped (hclasses : UsualClasses tables) {t : List Char} (h : Worded tables t) :
    Stripped isWhitespace t :=
  ⟨hclasses.any_not_whitespace (h.opened.head tables), hclasses.any_not_whitespace h.last⟩

theorem takeWhile_of_head {l y : List Char} (hl : ∀ c ∈ l, isWhitespace c = true)
    (hy : y.head?.any isWhitespace = false) : (l ++ y).takeWhile isWhitespace = l := by
  rw [List.takeWhile_append_of_pos hl]
  cases y with
  | nil => exact List.append_nil l
  | cons c y =>
    have hc : isWhitespace c = false := hy
    rw [List.takeWhile_cons_of_neg (Bool.eq_false_iff.mp hc), List.append_nil]

/-- What stands before the span. -/
def beforeSpan (found : Found) : List Char := found.skipped ++ found.taken.text.takeWhile isWhitespace

theorem length_beforeSpan (found : Found) : (beforeSpan found).length = spanStart found := List.length_append

theorem Worded.span (hclasses : UsualClasses tables) (h : Worded tables f.taken.text) :
    beforeSpan f = f.skipped ∧ spanText f = f.taken.text := by
  have hstripped := h.stripped hclasses
  refine ⟨?_, strip_of_stripped hstripped⟩
  have hnone := @takeWhile_of_head [] _ (fun _ hc => nomatch hc) hstripped.head
  unfold beforeSpan
  rw [show f.taken.text.takeWhile isWhitespace = [] from hnone, List.append_nil]

/-- A match that is kept as it is. -/
theorem mention_of_match (hclasses : UsualClasses tables) (hinner : inner.closed = true)
    (h : Leftmost tables.isWord (.seq .boundary inner) none text f after) (hworded : Worded tables f.taken.text) :
    Mention tables text (beforeSpan f) (spanText f) after f.taken.text := by
  obtain ⟨hbefore, hspan⟩ := hworded.span hclasses
  have hhead := hworded.opened.head tables
  rw [hbefore, hspan]
  refine ⟨h.eq, hworded, hhead, hworded.last, alone_of_match h (head_any_append hhead), fun hne => absurd rfl hne,
    fun _ x y hxy hx => ?_⟩
  exact beside_word hinner h (spells_of_mem (mem_boundary_iff.mp h.taken).2) hhead hworded.last hxy hx

theorem relativePhrase_some {phrase : Phrase} (h : relativePhrase m = some phrase) :
    ∃ matched n, m.group "raw" = some matched ∧ phrase = .days n (String.ofList (matched.map lowerLetter)) ∧
      String.ofList (matched.map lowerLetter) ∈ ["сегодня", "завтра", "послезавтра", "срочно"] := by
  obtain ⟨matched, hmatched, h⟩ := Option.bind_eq_some_iff.mp h
  obtain ⟨n, hn, rfl⟩ := Option.map_eq_some_iff.mp h
  refine ⟨matched, n, hmatched, rfl, ?_⟩
  unfold relativeDays at hn
  split at hn
  · next hraw =>
    rcases hraw with hraw | hraw
    · rw [hraw]
      decide
    · rw [hraw]
      decide
  · split at hn
    · next hraw =>
      rw [hraw]
      decide
    · split at hn
      · next hraw =>
        rw [hraw]
        decide
      · cases hn

/-- A day is kept in lower case. -/
theorem day_mention (hclasses : UsualClasses tables)
    (h : Leftmost tables.isWord relativeDeadlineRegex none text f after) {phrase : Phrase}
    (hphrase : relativePhrase f.taken = some phrase) :
    Mention tables text (beforeSpan f) (spanText f) after phrase.fragment.toList := by
  obtain ⟨hworded, hletters, hgroup⟩ := day_worded h.taken
  have hmention := mention_of_match hclasses (by decide) h hworded
  obtain ⟨matched, n, hmatched, rfl, hraw⟩ := relativePhrase_some hphrase
  obtain rfl : f.taken.text = matched := Option.some.inj (hgroup.symm.trans hmatched)
  rw [(hworded.span hclasses).2] at hmention ⊢
  have hday : ∀ w ∈ ["сегодня", "завтра", "послезавтра", "срочно"],
      w.toList.all (fun c => isLetter c && foldCase c == c && lowerLetter c == c) = true := by decide
  show Mention tables text (beforeSpan f) f.taken.text after (String.ofList (f.taken.text.map lowerLetter)).toList
  have hall := hday _ hraw
  rw [String.toList_ofList] at hall ⊢
  have hlower : ∀ c ∈ f.taken.text.map lowerLetter, (isLetter c = true ∧ foldCase c = c) ∧ lowerLetter c = c := by
    intro c hc
    have hc := List.all_eq_true.mp hall c hc
    rwa [Bool.and_eq_true, Bool.and_eq_true, beq_iff_eq, beq_iff_eq] at hc
  have hfragment : ∀ c ∈ f.taken.text.map lowerLetter, tables.isWord c = true := by
    intro c hc
    refine tables.letter_word c ?_
    rw [(hlower c hc).1.2]
    exact (hlower c hc).1.1
  have hne : f.taken.text.map lowerLetter ≠ [] := List.map_eq_nil_iff.not.mpr hworded.opened.ne_nil
  refine { hmention with
    head := ?_
    last := last_any_of_forall hne hfragment
    differs := fun hdiffer => ?_
    earlier := fun _ => hmention.earlier rfl }
  · rw [List.head?_eq_some_head hne]
    exact hfragment _ (List.head_mem hne)
  · -- a letter that changes is in no word of the list
    obtain ⟨c, hc, hchange⟩ : ∃ c ∈ f.taken.text, lowerLetter c ≠ c := by
      by_contra hnone
      refine hdiffer ((List.map_congr_left fun c hc => ?_).trans (List.map_id _)).symm
      exact not_not.mp fun hchange => hnone ⟨c, hc, hchange⟩
    refine ⟨c, tables.letter_word c (hletters c hc), ?_⟩
    rw [List.count_eq_zero.mpr fun hmem => hchange (hlower c hmem).2]
    exact List.count_pos_iff.mpr hc

theorem closed_weekday : Pattern.closed (.seq (.optional (oneOf [word "до", word "к"])) (.seq (whitespaces 0)
    (.seq (.group "raw" weekdayName) .boundary))) = true := by decide

/-- A weekday without a preposition is kept as it is. -/
theorem bare_weekday_mention (hclasses : UsualClasses tables)
    (h : Leftmost tables.isWord weekdayRegex none text f after) {spaces raw : List Char}
    (hparts : WeekdayParts f.taken [] spaces raw) (hcomma : ',' ∉ f.taken.text) :
    Mention tables text (beforeSpan f) (spanText f) after raw := by
  have ht : f.taken.text = spaces ++ raw := hparts.text
  have hhead := hparts.opened.head tables
  have hlast : raw.getLast?.any tables.isWord = true := last_of_letters hparts.opened.ne_nil hparts.letters
  have hworded : Worded tables raw := ⟨hparts.opened, hlast, fun hc => hcomma (ht ▸ List.mem_append_right _ hc)⟩
  have hstripped := hworded.stripped hclasses
  have hspan : spanText f = raw := by
    have hbetween : strip isWhitespace (spaces ++ (raw ++ [])) = raw :=
      strip_between hparts.spaces (fun _ hc => nomatch hc) hstripped
    rw [List.append_nil, ← ht] at hbetween
    exact hbetween
  have hbefore : beforeSpan f = f.skipped ++ spaces := by
    unfold beforeSpan
    rw [ht, takeWhile_of_head hparts.spaces hstripped.head]
  have htext : text = f.skipped ++ (spaces ++ (raw ++ after)) := by
    rw [h.eq, ht, List.append_assoc]
  rw [hbefore, hspan]
  refine ⟨by rw [htext, List.append_assoc], hworded, hhead, hlast, ?_, fun hne => absurd rfl hne,
    fun _ x y hxy hx => ?_⟩
  · by_cases hnone : spaces = []
    · rw [hnone, List.append_nil]
      refine alone_of_match h ?_
      rw [ht, hnone]
      exact head_any_append hhead
    · rw [List.getLast?_append_of_ne_nil _ hnone]
      exact last_any_eq_false fun c hc => hclasses.whitespace_not_word c (hparts.spaces c hc)
  · by_cases hearly : x.length < f.skipped.length
    · refine beside_word closed_weekday h ?_ hhead hlast hxy hearly
      exact ⟨[], raw, rfl, .inr rfl, [], raw, rfl, ⟨nofun, Nat.le_refl 0, nofun⟩,
        raw, [], (List.append_nil raw).symm, hparts.spells, rfl⟩
    · -- the place would be in the whitespace before the span
      have hplaces : x ++ (raw ++ y) = f.skipped ++ (spaces ++ (raw ++ after)) := hxy.symm.trans htext
      obtain ⟨z, rfl⟩ : f.skipped <+: x :=
        List.prefix_of_prefix_length_le ⟨_, hplaces.symm⟩ ⟨_, rfl⟩ (Nat.not_lt.mp hearly)
      rw [List.append_assoc] at hplaces
      rw [List.length_append, List.length_append, Nat.add_lt_add_iff_left] at hx
      have hrest := List.append_cancel_left hplaces
      obtain ⟨w, rfl⟩ : z <+: spaces := List.prefix_of_prefix_length_le ⟨_, hrest⟩ ⟨_, rfl⟩ (Nat.le_of_lt hx)
      rw [List.append_assoc] at hrest
      have hfirst := congrArg List.head? (List.append_cancel_left hrest)
      cases w with
      | nil =>
        rw [List.append_nil] at hx
        exact absurd hx (Nat.lt_irrefl _)
      | cons c w =>
        have hc := hparts.spaces c (List.mem_append_right _ List.mem_cons_self)
        have hword := head_any_append (y := y) hhead
        rw [hfirst] at hword
        exact absurd ((hclasses.whitespace_not_word c hc).symm.trans hword) Bool.false_ne_true

/-- Of a weekday with a preposition only the weekday is kept. -/
theorem weekday_mention (hclasses : UsualClasses tables) (h : Leftmost tables.isWord weekdayRegex none text f after)
    {phrase : Phrase} (hphrase : weekdayPhrase f.taken = some phrase) :
    Mention tables text (beforeSpan f) (spanText f) after phrase.fragment.toList := by
  obtain ⟨prep, spaces, raw, hparts⟩ := exists_weekdayParts h.taken
  have hcomma := not_mem_of_avoids (c := ',') (by decide) h.taken
  obtain ⟨matched, hmatched, hphrase⟩ := Option.bind_eq_some_iff.mp hphrase
  obtain ⟨target, -, rfl⟩ := Option.map_eq_some_iff.mp hphrase
  obtain rfl : raw = matched := Option.some.inj (hparts.group.symm.trans hmatched)
  show Mention tables text (beforeSpan f) (spanText f) after (String.ofList raw).toList
  rw [String.toList_ofList]
  rcases hparts.prep with rfl | hprep
  · exact bare_weekday_mention hclasses h hparts hcomma
  · have hlast : raw.getLast?.any tables.isWord = true := last_of_letters hparts.opened.ne_nil hparts.letters
    have hworded : Worded tables f.taken.text := by
      refine ⟨?_, ?_, hcomma⟩
      · rw [hparts.text]
        exact hprep.append _
      · rw [hparts.text]
        exact last_any_append (last_any_append hlast)
    have hmention := mention_of_match hclasses closed_weekday h hworded
    have hspan := (hworded.span hclasses).2
    obtain ⟨c, rest, rfl, hc⟩ := hprep
    have hcount : raw.count c < (spanText f).count c := by
      rw [hspan, hparts.text, List.count_append, List.count_append, List.count_cons_self]
      omega
    refine { hmention with
      head := hparts.opened.head tables
      last := hlast
      differs := fun _ => ⟨c, ?_, hcount⟩
      earlier := fun hsame => ?_ }
    · exact tables.letter_word c (isLetter_of_opening hc)
    · rw [hsame] at hcount
      exact absurd hcount (Nat.lt_irrefl _)

theorem matchedText_toList (hclasses : UsualClasses tables) (h : Worded tables f.taken.text) :
    (matchedText f.taken).toList = f.taken.text := by
  unfold matchedText
  rw [toList_trim, String.toList_ofList]
  exact (h.span hclasses).2

/-- **A deadline is a mention of what is kept of it.** -/
theorem locate_mention (hclasses : UsualClasses tables) {normalized : String} {phrase : Phrase}
    (h : locate tables normalized = some (f, phrase)) :
    ∃ after, Mention tables normalized.toList (beforeSpan f) (spanText f) after phrase.fragment.toList := by
  unfold locate at h
  simp only at h
  split at h
  · next hfound =>
    cases h
    obtain ⟨after, hmatch⟩ := find_spec hfound
    have hworded := date_worded hclasses hmatch.taken
    refine ⟨after, ?_⟩
    rw [show (Phrase.date f.taken).fragment.toList = f.taken.text from matchedText_toList hclasses hworded]
    exact mention_of_match hclasses rfl hmatch hworded
  · split at h
    · next hday =>
      cases h
      obtain ⟨found, hfound, hphrase⟩ := Option.bind_eq_some_iff.mp hday
      obtain ⟨phrase, hphrase, hsame⟩ := Option.map_eq_some_iff.mp hphrase
      cases hsame
      obtain ⟨after, hmatch⟩ := find_spec hfound
      exact ⟨after, day_mention hclasses hmatch hphrase⟩
    · split at h
      · next hfound =>
        cases h
        obtain ⟨after, hmatch⟩ := find_spec hfound
        have hworded := period_worded hclasses hmatch.taken
        refine ⟨after, ?_⟩
        rw [show (Phrase.period f.taken).fragment.toList = f.taken.text from matchedText_toList hclasses hworded]
        exact mention_of_match hclasses rfl hmatch hworded
      · obtain ⟨found, hfound, hphrase⟩ := Option.bind_eq_some_iff.mp h
        obtain ⟨phrase, hphrase, hsame⟩ := Option.map_eq_some_iff.mp hphrase
        cases hsame
        obtain ⟨after, hmatch⟩ := find_spec hfound
        exact ⟨after, weekday_mention hclasses hmatch hphrase⟩

/-- The phrase that is found is the recognized one. -/
theorem locate_recognize (tables : UnicodeTables) (normalized : String) :
    (locate tables normalized).map Prod.snd = recognize tables normalized := by
  have hphrase : ∀ (o : Option Found) (p : Taken → Option Phrase),
      (o.bind fun found => (p found.taken).map (found, ·)).map Prod.snd = (o.map Found.taken).bind p := by
    intro o p
    cases o with
    | none => rfl
    | some found =>
      show ((p found.taken).map _).map _ = p found.taken
      cases p found.taken <;> rfl
  unfold locate recognize captures
  simp only
  cases find tables.isWord (absoluteDeadlineRegex tables) none normalized.toList with
  | some found => rfl
  | none =>
    have hday := hphrase (find tables.isWord relativeDeadlineRegex none normalized.toList) relativePhrase
    rw [Option.map_none, ← hday]
    cases (find tables.isWord relativeDeadlineRegex none normalized.toList).bind _ with
    | some located => rfl
    | none =>
      cases find tables.isWord (inPeriodRegex tables) none normalized.toList with
      | some found => rfl
      | none => exact hphrase _ weekdayPhrase

/-! ## What an extraction keeps -/

variable {today : NaiveDate} {extracted : Extracted} {answer : Option Extracted} {normalized : String}

theorem absoluteDate_raw (h : absoluteDate m today = .ok extracted) : extracted.2 = some (matchedText m) := by
  unfold absoluteDate at h
  obtain ⟨day, -, h⟩ := bind_eq_ok h
  obtain ⟨month, -, h⟩ := bind_eq_ok h
  have hraw : ∀ year, (okOrElse (NaiveDate.fromYmdOpt year month day) (invalidDeadlineError "date" (matchedText m)) >>=
      fun deadline => (pure (some deadline, some (matchedText m)) : AppResult Extracted)) = .ok extracted →
      extracted.2 = some (matchedText m) := by
    intro year h
    obtain ⟨deadline, -, h⟩ := bind_eq_ok h
    cases h
    rfl
  cases hyear : m.group "year" with
  | none =>
    rw [hyear] at h
    obtain ⟨year, -, h⟩ := bind_eq_ok h
    exact hraw year h
  | some digits =>
    rw [hyear] at h
    obtain ⟨year, -, h⟩ := bind_eq_ok h
    exact hraw year h

theorem absoluteDeadline_raw (h : (parseAbsoluteDeadline tables normalized today).run = some (.ok answer)) :
    answer.map Prod.snd =
      (captures tables (absoluteDeadlineRegex tables) normalized).map fun taken => some (matchedText taken) := by
  unfold parseAbsoluteDeadline at h
  cases htaken : captures tables (absoluteDeadlineRegex tables) normalized with
  | none =>
    rw [htaken] at h
    cases h
    rfl
  | some taken =>
    rw [htaken] at h
    obtain ⟨extracted, hextracted, h⟩ := bind_ok_iff.mp h
    cases h
    exact congrArg some (absoluteDate_raw (Option.some.inj hextracted))

theorem periodDeadline_raw (h : (parsePeriodDeadline tables normalized today).run = some (.ok answer)) :
    answer.map Prod.snd =
      (captures tables (inPeriodRegex tables) normalized).map fun taken => some (matchedText taken) := by
  unfold parsePeriodDeadline at h
  cases htaken : captures tables (inPeriodRegex tables) normalized with
  | none =>
    rw [htaken] at h
    cases h
    rfl
  | some taken =>
    rw [htaken] at h
    obtain ⟨extracted, hextracted, h⟩ := bind_ok_iff.mp h
    obtain ⟨value, -, hdate⟩ := bind_ok_iff.mp hextracted
    obtain ⟨deadline, -, hdate⟩ := bind_ok_iff.mp hdate
    cases hdate
    cases h
    rfl

theorem relativeDate_raw (h : (relativeDate m today).run = some (.ok answer)) :
    answer.map Prod.snd = (relativePhrase m).map fun phrase => some phrase.fragment := by
  unfold relativeDate at h
  unfold relativePhrase
  cases hgroup : m.group "raw" with
  | none =>
    rw [hgroup] at h
    cases h
    rfl
  | some matched =>
    rw [hgroup] at h
    simp only [Option.bind_some, relativeDays] at h ⊢
    split at h
    · next hnow =>
      rw [if_pos hnow]
      cases h
      rfl
    · next hnow =>
      rw [if_neg hnow]
      split at h
      · next htomorrow =>
        rw [if_pos htomorrow]
        obtain ⟨deadline, -, h⟩ := bind_ok_iff.mp h
        cases h
        rfl
      · next htomorrow =>
        rw [if_neg htomorrow]
        split at h
        · next hlater =>
          rw [if_pos hlater]
          obtain ⟨deadline, -, h⟩ := bind_ok_iff.mp h
          cases h
          rfl
        · next hlater =>
          rw [if_neg hlater]
          cases h
          rfl

theorem relativeDeadline_raw (h : (parseRelativeDeadline tables normalized today).run = some (.ok answer)) :
    answer.map Prod.snd =
      ((captures tables relativeDeadlineRegex normalized).bind relativePhrase).map fun phrase => some phrase.fragment := by
  unfold parseRelativeDeadline at h
  cases htaken : captures tables relativeDeadlineRegex normalized with
  | none =>
    rw [htaken] at h
    cases h
    rfl
  | some taken =>
    rw [htaken] at h
    exact relativeDate_raw h

theorem weekdayDate_raw (h : (weekdayDate m today).run = some (.ok extracted)) :
    extracted.2 = (weekdayPhrase m).map Phrase.fragment := by
  unfold weekdayDate at h
  unfold weekdayPhrase
  cases hgroup : m.group "raw" with
  | none =>
    rw [hgroup] at h
    cases h
    rfl
  | some raw =>
    rw [hgroup] at h
    simp only [Option.bind_some] at h ⊢
    cases htarget : weekdayFromRussian raw with
    | none =>
      rw [htarget] at h
      cases h
      rfl
    | some target =>
      rw [htarget] at h
      obtain ⟨deadline, -, h⟩ := bind_ok_iff.mp h
      cases h
      rfl

theorem weekdayDeadline_raw (h : (parseWeekdayDeadline tables normalized today).run = some (.ok extracted)) :
    extracted.2 = ((captures tables weekdayRegex normalized).bind weekdayPhrase).map Phrase.fragment := by
  unfold parseWeekdayDeadline at h
  cases htaken : captures tables weekdayRegex normalized with
  | none =>
    rw [htaken] at h
    cases h
    rfl
  | some taken =>
    rw [htaken] at h
    exact weekdayDate_raw h

theorem extract_raw {text : String} (h : (extractDeadlineFromText tables text today).run = some (.ok extracted)) :
    extracted.2 = (recognize tables (normalizeWhitespace text)).map Phrase.fragment := by
  unfold extractDeadlineFromText at h
  unfold recognize
  simp only at h
  generalize normalizeWhitespace text = normalized at h
  obtain ⟨answer, habsolute, h⟩ := bind_ok_iff.mp h
  have hdate := absoluteDeadline_raw habsolute
  cases answer with
  | some parsed =>
    cases h
    obtain ⟨taken, htaken, hraw⟩ := Option.map_eq_some_iff.mp hdate.symm
    rw [htaken]
    exact hraw.symm
  | none =>
    rw [Option.map_eq_none_iff.mp hdate.symm]
    obtain ⟨answer, hrelative, h⟩ := bind_ok_iff.mp h
    have hday := relativeDeadline_raw hrelative
    cases answer with
    | some parsed =>
      cases h
      obtain ⟨phrase, hphrase, hraw⟩ := Option.map_eq_some_iff.mp hday.symm
      rw [hphrase]
      exact hraw.symm
    | none =>
      rw [Option.map_eq_none_iff.mp hday.symm]
      obtain ⟨answer, hparse, h⟩ := bind_ok_iff.mp h
      have hperiod := periodDeadline_raw hparse
      cases answer with
      | some parsed =>
        cases h
        obtain ⟨taken, htaken, hraw⟩ := Option.map_eq_some_iff.mp hperiod.symm
        rw [htaken]
        exact hraw.symm
      | none =>
        rw [Option.map_eq_none_iff.mp hperiod.symm]
        exact weekdayDeadline_raw h

end

end Parsing

end TaskBot
