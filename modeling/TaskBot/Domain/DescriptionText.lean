import TaskBot.Domain.TidiedTexts

/-!
# Description texts

The description of a request is its text without the assignee and without the first place of the kept
text of its deadline.  It is the text without the two spans exactly when the deadline is kept as it
stands, nothing like it stands before it, and no dot or comma is left behind a blank
(`description_iff`).
-/

namespace TaskBot

namespace Parsing

open Regex Regex.Pattern Blocks MayPanic

/-! ## The assignee -/

/-- The text of an assignee, and the separators behind it. -/
structure Named (tables : UnicodeTables) (t : List Char) : Prop where
  last : t.getLast?.any tables.isWord = false
  /-- Behind its last comma nothing opens a phrase. -/
  apart : ∃ x y, t = x ++ y ∧ (x = [] ∨ x.getLast? = some ',') ∧ ∀ c ∈ y, foldCase c ∉ openings

theorem username_not_opening {c : Char} (hc : isUsernameCharacter c = true) : foldCase c ∉ openings := by
  have hascii : ∀ n ∈ List.range 128, foldCase (Char.ofNat n) ∉ openings := by decide +kernel
  have hlt : c.toNat < 128 := by
    unfold isUsernameCharacter at hc
    simp only [Bool.or_eq_true, Bool.and_eq_true, decide_eq_true_eq] at hc
    rcases hc with ⟨-, hlt⟩ | rfl
    · exact hlt
    · decide
  have hnone := hascii c.toNat (List.mem_range.mpr hlt)
  rwa [Char.ofNat_toNat] at hnone

section

variable {tables : UnicodeTables}

/-- An anchored match is at the start of the text. -/
theorem captures_start {p : Pattern} {text : String} {m : Taken} (h : captures tables (.seq .start p) text = some m) :
    m ∈ ends tables.isWord (.seq .start p) none text.toList := by
  obtain ⟨f, hf, rfl⟩ := Option.map_eq_some_iff.mp h
  obtain ⟨after, hmatch⟩ := find_spec hf
  have hnone : f.skipped = [] := by
    have hstart := (mem_start_iff.mp hmatch.taken).1
    unfold before at hstart
    exact List.getLast?_eq_none_iff.mp (Option.or_eq_none_iff.mp hstart).1
  have htaken := hmatch.taken
  rw [hmatch.eq, hnone]
  rwa [hnone] at htaken

section

variable (hclasses : UsualClasses tables)

include hclasses

theorem whitespace_not_opening {c : Char} (hc : isWhitespace c = true) : foldCase c ∉ openings := by
  intro hopening
  have hword := tables.letter_word c (isLetter_of_opening hopening)
  rw [hclasses.whitespace_not_word c hc] at hword
  cases hword

/-- A comma with whitespace around it. -/
theorem named_of_comma {x t : List Char} (h : comma.Spells t) : Named tables (x ++ t) := by
  obtain ⟨lead, r, rfl, -, _, trail, rfl, ⟨c, hc, rfl⟩, htrail⟩ := h
  obtain rfl : c = ',' := beq_iff_eq.mp hc
  have hsplit : x ++ (lead ++ ([','] ++ trail)) = (x ++ lead ++ [',']) ++ trail := by
    simp only [List.append_assoc]
  rw [hsplit]
  refine ⟨?_, _, _, rfl, .inr List.getLast?_concat, fun c hc => whitespace_not_opening hclasses (htrail.1 c hc)⟩
  by_cases hne : trail = []
  · rw [hne, List.append_nil, List.getLast?_concat]
    exact hclasses.comma_not_word
  · rw [List.getLast?_append_of_ne_nil _ hne]
    exact last_any_eq_false fun c hc => hclasses.whitespace_not_word c (htrail.1 c hc)

theorem named_of_username {s : List Char} {m : Taken}
    (h : m ∈ ends tables.isWord assigneeUsernameRegex none s) : Named tables m.text := by
  obtain ⟨_, r, ht, ⟨c, hc, rfl⟩, name, r', rfl, hname, hend⟩ := spells_of_mem (mem_start_iff.mp h).2
  obtain rfl : c = '@' := beq_iff_eq.mp hc
  rw [ht]
  rcases hend with hcomma | hspaces
  · rw [← List.append_assoc]
    exact named_of_comma hclasses hcomma
  · have hne : r' ≠ [] := List.ne_nil_of_length_pos hspaces.2.1
    refine ⟨?_, [], _, rfl, .inl rfl, ?_⟩
    · rw [List.getLast?_append_of_ne_nil _ (List.append_ne_nil_of_right_ne_nil _ hne),
        List.getLast?_append_of_ne_nil _ hne]
      exact last_any_eq_false fun c hc => hclasses.whitespace_not_word c (hspaces.1 c hc)
    · intro c hc
      rcases List.mem_cons.mp hc with rfl | hc
      · decide
      · rcases List.mem_append.mp (show c ∈ name ++ r' from hc) with hc | hc
        · exact username_not_opening (hname.1 c hc)
        · exact whitespace_not_opening hclasses (hspaces.1 c hc)

theorem named_of_name {s : List Char} {m : Taken}
    (h : m ∈ ends tables.isWord assigneeRegex none s) : Named tables m.text := by
  obtain ⟨name, t, ht, -, hcomma⟩ := spells_of_mem (mem_start_iff.mp h).2
  rw [ht]
  exact named_of_comma hclasses hcomma

theorem extractAssignee_named {normalized : String}
    {assignee : String × String} (h : extractAssignee tables normalized = some assignee) :
    assignee.2.toList <+: normalized.toList ∧ Named tables assignee.2.toList := by
  unfold extractAssignee at h
  rcases Option.or_eq_some_iff.mp h with h | ⟨-, h⟩
  · obtain ⟨m, hm, h⟩ := Option.bind_eq_some_iff.mp h
    obtain ⟨name, -, rfl⟩ := Option.map_eq_some_iff.mp h
    have hmem := captures_start hm
    rw [String.toList_ofList]
    exact ⟨ text_prefix hmem, named_of_username hclasses hmem⟩
  · obtain ⟨m, hm, h⟩ := Option.bind_eq_some_iff.mp h
    obtain ⟨name, -, rfl⟩ := Option.map_eq_some_iff.mp h
    have hmem := captures_start hm
    rw [String.toList_ofList]
    exact ⟨ text_prefix hmem, named_of_name hclasses hmem⟩

end

end

/-! ## The text that is left -/

/-- The span of the assignee, from the start of the text. -/
def assigneeLength (tables : UnicodeTables) (normalized : String) : Nat :=
  ((extractAssignee tables normalized).map fun assignee => assignee.2.toList.length).getD 0

def spanEnd (found : Found) : Nat := spanStart found + (spanText found).length

section

variable (tables : UnicodeTables)

/-- The text without the span of the assignee and the span of the deadline. -/
def textLeft (normalized : String) : List Char :=
  let text := normalized.toList
  let behind := assigneeLength tables normalized
  match locate tables normalized with
  | none => text.drop behind
  | some (found, _) => (text.take (spanStart found)).drop behind ++ text.drop (Nat.max behind (spanEnd found))

/-- The kept text of the deadline is its span, and stands nowhere before it; of a span within the assignee
it stands nowhere behind the assignee. -/
structure RemovedInPlace (normalized : String) : Prop where
  within : ∀ found phrase, locate tables normalized = some (found, phrase) →
    spanEnd found ≤ assigneeLength tables normalized →
      ¬ phrase.fragment.toList <:+: normalized.toList.drop (assigneeLength tables normalized)
  behind : ∀ found phrase, locate tables normalized = some (found, phrase) →
    assigneeLength tables normalized < spanEnd found → phrase.fragment.toList = spanText found ∧
      ∀ i, assigneeLength tables normalized ≤ i → i < spanStart found →
        ¬ phrase.fragment.toList <+: normalized.toList.drop i

end

/-- The text without the first place of a fragment. -/
def without (fragment : Option String) (text : List Char) : List Char :=
  match fragment with
  | some fragment => removeFirst fragment.toList text
  | none => text

/-- The text as `buildDescription` has it before it is trimmed. -/
def parserLeft (tables : UnicodeTables) (normalized : String) : List Char :=
  without ((locate tables normalized).map fun located => located.2.fragment)
    (without ((extractAssignee tables normalized).map Prod.snd) normalized.toList)

section

variable {tables : UnicodeTables}

/-- The assignee stands at the start of the text. -/
theorem exists_assignee (hclasses : UsualClasses tables) (normalized : String) :
    ∃ named rest, normalized.toList = named ++ rest ∧ named.length = assigneeLength tables normalized ∧
      Named tables named ∧ without ((extractAssignee tables normalized).map Prod.snd) normalized.toList = rest := by
  unfold assigneeLength
  cases hassignee : extractAssignee tables normalized with
  | none => exact ⟨[], normalized.toList, rfl, rfl, ⟨rfl, [], [], rfl, .inl rfl, fun _ hc => nomatch hc⟩, rfl⟩
  | some assignee =>
    obtain ⟨⟨rest, hrest⟩, hnamed⟩ := extractAssignee_named hclasses hassignee
    refine ⟨_, rest, hrest.symm, rfl, hnamed, ?_⟩
    show removeFirst assignee.2.toList normalized.toList = rest
    rw [removeFirst_start ⟨rest, hrest⟩, ← hrest, List.drop_left]

/-- A span that goes past the assignee begins behind it. -/
theorem Mention.behind_named {text named rest a b span fragment : List Char} (h : Mention tables text a span b fragment)
    (hnamed : Named tables named) (htext : text = named ++ rest) (hpast : named.length < a.length + span.length) :
    named.length ≤ a.length := by
  by_contra hlt
  rw [Nat.not_le] at hlt
  have hboth : a ++ (span ++ b) = named ++ rest := h.eq.symm.trans htext
  obtain ⟨x, y, rfl, hx, hy⟩ := hnamed.apart
  rw [List.length_append] at hlt hpast
  rcases Nat.lt_or_ge a.length x.length with hbefore | hbehind
  · -- the last comma is in the span
    have hcomma : x.getLast? = some ',' := by
      refine hx.resolve_left ?_
      rintro rfl
      exact absurd hbefore (Nat.not_lt_zero _)
    have hat : (a ++ (span ++ b))[x.length - 1]? = some ',' := by
      rw [hboth, List.append_assoc, List.getElem?_append_left (by omega), ← List.getLast?_eq_getElem?, hcomma]
    rw [List.getElem?_append_right (by omega), List.getElem?_append_left (by omega)] at hat
    exact h.worded.comma (List.mem_of_getElem? hat)
  · -- the span begins with a separator
    obtain ⟨c, t, rfl, hc⟩ := h.worded.opened
    have hat : (x ++ y ++ rest)[a.length]? = some c := by
      rw [← hboth, List.getElem?_append_right (Nat.le_refl _), Nat.sub_self]
      rfl
    rw [List.append_assoc, List.getElem?_append_right hbehind, List.getElem?_append_left (by omega)] at hat
    exact hy c (List.mem_of_getElem? hat) hc

/-- The mention in the text behind the assignee. -/
theorem Mention.behind {text named rest a b span fragment : List Char} (h : Mention tables text a span b fragment)
    (hnamed : Named tables named) (htext : text = named ++ rest) (hpast : named.length < a.length + span.length) :
    ∃ a', a = named ++ a' ∧ Mention tables rest a' span b fragment := by
  have hle := h.behind_named hnamed htext hpast
  obtain ⟨a', rfl⟩ : named <+: a :=
    List.prefix_of_prefix_length_le ⟨rest, htext.symm⟩ ⟨span ++ b, h.eq.symm⟩ hle
  refine ⟨a', rfl, { h with eq := ?_, alone := ?_, earlier := fun hsame x y hplace hx => ?_ }⟩
  · have hboth := htext.symm.trans h.eq
    rw [List.append_assoc] at hboth
    exact List.append_cancel_left hboth
  · by_contra hlast
    have hmore := last_any_append (x := named) (Bool.not_eq_false _ ▸ hlast)
    exact Bool.false_ne_true (h.alone.symm.trans hmore)
  · have hbeside := h.earlier hsame (named ++ x) y (by rw [htext, hplace, List.append_assoc])
      (by rw [List.length_append, List.length_append]; omega)
    refine hbeside.imp_left fun hlast => ?_
    cases x with
    | nil =>
      rw [List.append_nil, hnamed.last] at hlast
      cases hlast
    | cons c x => rwa [List.getLast?_append_of_ne_nil _ (List.cons_ne_nil c x)] at hlast

/-- A place behind the assignee, by its number in the text. -/
theorem first_place_iff {named rest a' fragment : List Char} :
    (∀ i, named.length ≤ i → i < named.length + a'.length → ¬ fragment <+: (named ++ rest).drop i) ↔
      ∀ x y, rest = x ++ (fragment ++ y) → a'.length ≤ x.length := by
  constructor
  · rintro h x y rfl
    by_contra hlt
    refine h (named.length + x.length) (Nat.le_add_right _ _) (by omega) ?_
    rw [← List.drop_drop, List.drop_left, List.drop_left]
    exact List.prefix_append _ _
  · intro h i hi hlt hplace
    obtain ⟨k, rfl⟩ := Nat.exists_eq_add_of_le hi
    rw [← List.drop_drop, List.drop_left] at hplace
    obtain ⟨y, hy⟩ := hplace
    have hle := h (rest.take k) y (by rw [hy, List.take_append_drop])
    have htake : (rest.take k).length ≤ k := List.length_take_le _ _
    omega

/-! ## Where it is removed -/

section

variable {normalized : String} {named rest : List Char} {f : Found} {phrase : Phrase}

section

variable (htext : normalized.toList = named ++ rest) (hlength : named.length = assigneeLength tables normalized)

include htext hlength

theorem drop_assignee : normalized.toList.drop (assigneeLength tables normalized) = rest := by
  rw [htext, ← hlength, List.drop_left]

theorem textLeft_of_none (hlocate : locate tables normalized = none) : textLeft tables normalized = rest := by
  unfold textLeft
  rw [hlocate]
  exact drop_assignee htext hlength

variable (hlocate : locate tables normalized = some (f, phrase))

include hlocate

theorem textLeft_of_some : textLeft tables normalized =
    ((named ++ rest).take (spanStart f)).drop named.length ++ (named ++ rest).drop (Nat.max named.length (spanEnd f)) := by
  unfold textLeft
  rw [hlocate, htext, hlength]

theorem textLeft_within (hwithin : spanEnd f ≤ named.length) : textLeft tables normalized = rest := by
  have hnone : ((named ++ rest).take (spanStart f)).drop named.length = [] := by
    refine List.drop_eq_nil_of_le ((List.length_take_le _ _).trans ?_)
    exact (Nat.le_add_right _ _).trans hwithin
  rw [textLeft_of_some htext hlength hlocate, hnone, List.nil_append,
    show Nat.max named.length (spanEnd f) = named.length from Nat.max_eq_left hwithin, List.drop_left]

theorem removedInPlace_within (hwithin : spanEnd f ≤ named.length) :
    RemovedInPlace tables normalized ↔ ¬ phrase.fragment.toList <:+: rest := by
  constructor
  · intro h
    have hrest := h.within f phrase hlocate (hlength ▸ hwithin)
    rwa [drop_assignee htext hlength] at hrest
  · refine fun h => ⟨fun found' phrase' h' _ => ?_, fun found' phrase' h' hpast => ?_⟩
    · cases hlocate.symm.trans h'
      rwa [drop_assignee htext hlength]
    · cases hlocate.symm.trans h'
      rw [← hlength] at hpast
      exact absurd hwithin (Nat.not_le.mpr hpast)

variable {a after : List Char} (hbefore : beforeSpan f = named ++ a)

include hbefore

omit htext hlength hlocate in
theorem spanStart_behind : spanStart f = named.length + a.length := by
  rw [← length_beforeSpan, hbefore, List.length_append]

theorem textLeft_behind (hpast : named.length < spanEnd f) (hrest : rest = a ++ (spanText f ++ after)) :
    textLeft tables normalized = a ++ after := by
  have hstart := spanStart_behind hbefore
  have hbeforeSpan : ((named ++ rest).take (spanStart f)).drop named.length = a := by
    rw [hstart, hrest, ← List.append_assoc, ← List.length_append, List.take_left, List.drop_left]
  have hend : Nat.max named.length (spanEnd f) = (named ++ a ++ spanText f).length := by
    rw [show Nat.max named.length (spanEnd f) = spanEnd f from Nat.max_eq_right (Nat.le_of_lt hpast)]
    unfold spanEnd
    rw [hstart, List.length_append, List.length_append]
  have hafterSpan : (named ++ rest).drop (Nat.max named.length (spanEnd f)) = after := by
    rw [hend, hrest, ← List.append_assoc, ← List.append_assoc, List.drop_left]
  rw [textLeft_of_some htext hlength hlocate, hbeforeSpan, hafterSpan]

theorem removedInPlace_behind (hpast : named.length < spanEnd f) :
    RemovedInPlace tables normalized ↔ phrase.fragment.toList = spanText f ∧
      ∀ x y, rest = x ++ (phrase.fragment.toList ++ y) → a.length ≤ x.length := by
  rw [← first_place_iff, ← htext, ← spanStart_behind hbefore, hlength]
  constructor
  · intro h
    exact h.behind f phrase hlocate (hlength ▸ hpast)
  · refine fun h => ⟨fun found' phrase' h' hwithin => ?_, fun found' phrase' h' _ => ?_⟩
    · cases hlocate.symm.trans h'
      rw [← hlength] at hwithin
      exact absurd hwithin (Nat.not_le.mpr hpast)
    · cases hlocate.symm.trans h'
      exact h

end

/-- A kept span that stands nowhere before is what is removed. -/
theorem Mention.removeFirst_eq {text a span after fragment : List Char} (h : Mention tables text a span after fragment)
    (hsame : fragment = span) (hfirst : ∀ x y, text = x ++ (fragment ++ y) → a.length ≤ x.length) :
    removeFirst fragment text = a ++ after := by
  subst hsame
  have heq := h.eq
  subst heq
  exact removeFirst_first h.worded.opened.ne_nil hfirst

/-- What the parser leaves is what is left around the spans exactly when it removes in place. -/
theorem removedInPlace_spec (hclasses : UsualClasses tables) (normalized : String) :
    (tidied (parserLeft tables normalized) = tidied (textLeft tables normalized) ↔ RemovedInPlace tables normalized) ∧
      (RemovedInPlace tables normalized → parserLeft tables normalized = textLeft tables normalized) := by
  obtain ⟨named, rest, htext, hlength, hnamed, hrest⟩ := exists_assignee hclasses normalized
  have hleft : parserLeft tables normalized =
      without ((locate tables normalized).map fun located => located.2.fragment) rest := by
    unfold parserLeft
    rw [hrest]
  cases hlocate : locate tables normalized with
  | none =>
    rw [hlocate] at hleft
    have hsame : parserLeft tables normalized = textLeft tables normalized :=
      hleft.trans (textLeft_of_none htext hlength hlocate).symm
    have hnowhere : ∀ located, locate tables normalized ≠ some located := fun located h =>
      Option.some_ne_none located (h.symm.trans hlocate)
    have hplace : RemovedInPlace tables normalized :=
      ⟨fun _ _ h => absurd h (hnowhere _), fun _ _ h => absurd h (hnowhere _)⟩
    exact ⟨iff_of_true (congrArg tidied hsame) hplace, fun _ => hsame⟩
  | some located =>
    obtain ⟨f, phrase⟩ := located
    obtain ⟨after, hmention⟩ := locate_mention hclasses hlocate
    rw [hlocate] at hleft
    have hleft : parserLeft tables normalized = removeFirst phrase.fragment.toList rest := hleft
    rw [hleft]
    rcases Nat.lt_or_ge named.length (spanEnd f) with hpast | hwithin
    · have hlonger : named.length < (beforeSpan f).length + (spanText f).length := by
        rw [length_beforeSpan]
        exact hpast
      obtain ⟨a, hbefore, hbehind⟩ := hmention.behind hnamed htext hlonger
      rw [textLeft_behind htext hlength hlocate hbefore hpast hbehind.eq,
        removedInPlace_behind htext hlength hlocate hbefore hpast]
      have hremoved := fun h => hbehind.removeFirst_eq (And.left h) (And.right h)
      exact ⟨⟨hbehind.removed_at hclasses, fun h => congrArg tidied (hremoved h)⟩, hremoved⟩
    · rw [textLeft_within htext hlength hlocate hwithin, removedInPlace_within htext hlength hlocate hwithin]
      exact ⟨tidied_removeFirst_iff hclasses hmention.head, removeFirst_of_absent⟩

end

/-! ## The description -/

theorem toList_buildDescription (normalized : String) (assignee deadline : Option String) :
    (buildDescription normalized assignee deadline).toList = replaceWhitespace (strip isWhitespace
      (strip isPunctuation (without deadline (without assignee normalized.toList)))) := by
  unfold buildDescription
  rw [toList_normalizeWhitespace, String.toList_ofList]
  rfl

/-- The description of a request that is parsed. -/
theorem toList_taskDescription {text : String} {today : NaiveDate} {request : ParsedTaskRequest}
    (h : (parseTaskRequest tables text today).run = some (.ok request)) :
    request.taskDescription.toList = replaceWhitespace (strip isWhitespace (strip isPunctuation
      (parserLeft tables (normalizeWhitespace text)))) := by
  unfold parseTaskRequest at h
  obtain ⟨⟨deadline, raw⟩, hextract, h⟩ := bind_ok_iff.mp h
  obtain ⟨_, -, h⟩ := bind_ok_iff.mp h
  have hrequest := Except.ok.inj (Option.some.inj h)
  have hraw : raw = (locate tables (normalizeWhitespace text)).map fun located => located.2.fragment := by
    have hrecognized := extract_raw hextract
    rw [normalizeWhitespace_twice, ← locate_recognize, Option.map_map] at hrecognized
    exact hrecognized
  subst hrequest
  dsimp only
  rw [toList_buildDescription, hraw]
  rfl

/-- **The description is the text without the two spans exactly when the deadline is removed in place and no
dot or comma is left behind a blank.** -/
theorem description_iff (hclasses : UsualClasses tables) (text : String) (today : NaiveDate) (request : ParsedTaskRequest)
    (h : (parseTaskRequest tables text today).run = some (.ok request)) :
    request.taskDescription = String.ofList (tidied (textLeft tables (normalizeWhitespace text))) ↔
      RemovedInPlace tables (normalizeWhitespace text) ∧ CleanEnds (textLeft tables (normalizeWhitespace text)) := by
  obtain ⟨hplace, hleft⟩ := removedInPlace_spec hclasses (normalizeWhitespace text)
  rw [← String.toList_inj, String.toList_ofList, toList_taskDescription h, trimmed_eq_tidied_iff, hplace]
  exact and_congr_right fun hremoved => by rw [hleft hremoved]

end

end Parsing

/-! ## Samples -/

theorem usualClasses_plainTables : Parsing.UsualClasses plainTables where
  decimal_word c h := by
    show (isLetter (foldCase c) || c.isDigit || c == '_') = true
    rw [show c.isDigit = true from h, Bool.or_true, Bool.true_or]
  whitespace_not_word c h := by
    have hcodes : c.toNat ∈ List.range' 0x09 5 ++ List.range' 0x2000 11 ++
        [0x20, 0x85, 0xA0, 0x1680, 0x2028, 0x2029, 0x202F, 0x205F, 0x3000] := by
      simp only [isWhitespace, Bool.or_eq_true, Bool.and_eq_true, decide_eq_true_eq, beq_iff_eq] at h
      simp only [List.mem_append, List.mem_range'_1, List.mem_cons, List.not_mem_nil, or_false]
      omega
    have hnone : ∀ n ∈ List.range' 0x09 5 ++ List.range' 0x2000 11 ++
        [0x20, 0x85, 0xA0, 0x1680, 0x2028, 0x2029, 0x202F, 0x205F, 0x3000],
        plainTables.isWord (Char.ofNat n) = false := by decide
    have hc := hnone _ hcodes
    rwa [Char.ofNat_toNat] at hc
  dot_not_word := by decide
  comma_not_word := by decide

theorem locate_tomorrow : Parsing.locate plainTables (Parsing.normalizeWhitespace "Сдать отчёт завтра") =
    some (⟨⟨"завтра".toList, [("raw", "завтра".toList)]⟩, "Сдать отчёт ".toList⟩, .days 1 "завтра") := by
  decide +kernel

theorem tomorrow_removed : ∃ request,
    (Parsing.parseTaskRequest plainTables "Сдать отчёт завтра" sampleToday).run = some (.ok request) ∧
      request.taskDescription =
        String.ofList (Parsing.tidied (Parsing.textLeft plainTables (Parsing.normalizeWhitespace "Сдать отчёт завтра"))) := by
  have hrun : (Parsing.parseTaskRequest plainTables "Сдать отчёт завтра" sampleToday).run =
      some (.ok ⟨none, "Сдать отчёт", some 20564, some "завтра", false, 80⟩) := by decide +kernel
  have hassignee : Parsing.assigneeLength plainTables (Parsing.normalizeWhitespace "Сдать отчёт завтра") = 0 := by
    decide +kernel
  refine ⟨_, hrun, (Parsing.description_iff usualClasses_plainTables _ _ _ hrun).mpr ⟨⟨?_, ?_⟩, ?_, ?_⟩⟩
  · intro found phrase h hin
    cases locate_tomorrow.symm.trans h
    rw [hassignee] at hin
    exact absurd hin (by decide)
  · intro found phrase h _
    cases locate_tomorrow.symm.trans h
    refine ⟨by decide, fun i _ hi => ?_⟩
    have hnowhere : ∀ i < 12, ¬ "завтра".toList <+: (Parsing.normalizeWhitespace "Сдать отчёт завтра").toList.drop i := by
      decide +kernel
    exact hnowhere i hi
  · decide +kernel
  · decide +kernel

/-- A day with a capital letter stays. -/
theorem capital_stays : ¬ ∀ (tables : UnicodeTables), Parsing.UsualClasses tables → ∀ (text : String) (today : NaiveDate)
    (request : ParsedTaskRequest), (Parsing.parseTaskRequest tables text today).run = some (.ok request) →
      request.taskDescription = String.ofList (Parsing.tidied (Parsing.textLeft tables (Parsing.normalizeWhitespace text))) := by
  intro h
  have hrun : (Parsing.parseTaskRequest plainTables "Сдать отчёт Завтра" sampleToday).run =
      some (.ok ⟨none, "Сдать отчёт Завтра", some 20564, some "завтра", false, 80⟩) := by decide +kernel
  have hleft : String.ofList (Parsing.tidied
      (Parsing.textLeft plainTables (Parsing.normalizeWhitespace "Сдать отчёт Завтра"))) = "Сдать отчёт" := by decide +kernel
  have hsame := (h plainTables usualClasses_plainTables _ _ _ hrun).trans hleft
  exact absurd hsame (by decide)

end TaskBot
