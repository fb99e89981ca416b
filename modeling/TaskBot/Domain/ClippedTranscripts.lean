import TaskBot.Domain.VoiceTranscript
import TaskBot.Lib.Words

/-!
# Clipped transcripts

A text over the budget is cut behind the last sentence end of the last 160 bytes of the budget, or
else before their last blank, or else where the budget ends (`clip_cases`).  A sentence end is a mark,
whatever follows it, and the 160 bytes are 80 Cyrillic letters: the cut is between two words only when
the mark stands before a blank, or a blank is that near (`clip_between_words_iff`).
-/

namespace TaskBot

open Words

namespace NormalizedTranscript

/-! ## Bytes -/

theorem byteLength_append (x y : List Char) : byteLength (x ++ y) = byteLength x + byteLength y := by
  unfold byteLength
  rw [List.map_append, List.sum_append]

theorem byteLength_cons (c : Char) (x : List Char) : byteLength (c :: x) = c.utf8Size + byteLength x := by
  unfold byteLength
  rw [List.map_cons, List.sum_cons]

theorem charIndices_append (start : Nat) (x y : List Char) :
    charIndices start (x ++ y) = charIndices start x ++ charIndices (start + byteLength x) y := by
  induction x generalizing start with
  | nil => rfl
  | cons c x ih =>
    show (start, c) :: charIndices (start + c.utf8Size) (x ++ y) = _
    rw [ih, byteLength_cons, Nat.add_assoc]
    rfl

theorem charIndices_map (start : Nat) (x : List Char) : (charIndices start x).map Prod.snd = x := by
  induction x generalizing start with
  | nil => rfl
  | cons c x ih => exact congrArg (c :: ·) (ih _)

theorem charIndices_bounds {start : Nat} {x : List Char} {p : Nat × Char} (h : p ∈ charIndices start x) :
    start ≤ p.1 ∧ p.1 < start + byteLength x := by
  induction x generalizing start with
  | nil => cases h
  | cons c x ih =>
    have hpos := c.utf8Size_pos
    rw [byteLength_cons]
    rcases List.mem_cons.mp h with rfl | h
    · show start ≤ start ∧ start < _
      omega
    · have hrest := ih h
      omega

/-- A slice ends where a character does. -/
theorem slicePrefix_append (x y : List Char) : slicePrefix (byteLength x) (x ++ y) = x := by
  unfold slicePrefix
  rw [charIndices_append, Nat.zero_add, List.takeWhile_append_of_pos]
  · have hstop : (charIndices (byteLength x) y).takeWhile (fun p => p.1 < byteLength x) = [] := by
      cases y with
      | nil => rfl
      | cons c y => exact List.takeWhile_cons_of_neg (by simp)
    rw [hstop, List.append_nil, charIndices_map]
  · intro p hp
    have hlt := (charIndices_bounds hp).2
    rw [Nat.zero_add] at hlt
    exact decide_eq_true hlt

theorem charIndices_eq_append {start : Nat} {window : List Char} {as bs : List (Nat × Char)} {p : Nat × Char}
    (h : charIndices start window = as ++ p :: bs) :
    ∃ x y, window = x ++ p.2 :: y ∧ p.1 = start + byteLength x ∧ as = charIndices start x ∧
      bs = charIndices (start + byteLength x + p.2.utf8Size) y := by
  induction window generalizing start as with
  | nil => exact absurd h.symm (List.append_ne_nil_of_right_ne_nil _ (List.cons_ne_nil _ _))
  | cons c window ih =>
    cases as with
    | nil =>
      obtain ⟨rfl, rfl⟩ := List.cons.inj h
      exact ⟨[], window, rfl, rfl, rfl, rfl⟩
    | cons a as =>
      obtain ⟨rfl, hrest⟩ := List.cons.inj h
      obtain ⟨x, y, rfl, hp, rfl, rfl⟩ := ih hrest
      refine ⟨c :: x, y, rfl, ?_, rfl, ?_⟩
      · rw [hp, byteLength_cons, Nat.add_assoc]
      · rw [byteLength_cons, Nat.add_assoc start]

/-! ## The cut -/

/-- `window` is `x`, the character and `y`, and the character starts in the last 160 bytes. -/
structure Near (window x : List Char) (c : Char) (y : List Char) : Prop where
  eq : window = x ++ c :: y
  bytes : byteLength (c :: y) ≤ 160

/-- The last of the near characters that are of the kind. -/
structure LastNear (kind : Char → Bool) (window x : List Char) (c : Char) (y : List Char) : Prop where
  near : Near window x c y
  found : kind c = true
  last : ∀ d ∈ y, kind d = false

/-- No near character is of the kind. -/
def NoneNear (kind : Char → Bool) (window : List Char) : Prop := ∀ x c y, Near window x c y → kind c = false

/-- The search from the end of the window. -/
def lastIndex (kind : Char → Bool) (window : List Char) : Option (Nat × Char) :=
  (charIndices 0 window).reverse.find? fun p => byteLength window - 160 ≤ p.1 ∧ kind p.2

theorem near_iff {window x y : List Char} {c : Char} (h : window = x ++ c :: y) :
    byteLength window - 160 ≤ byteLength x ↔ byteLength (c :: y) ≤ 160 := by
  rw [h, byteLength_append]
  omega

theorem lastIndex_some {kind : Char → Bool} {window : List Char} {p : Nat × Char}
    (h : lastIndex kind window = some p) :
    ∃ x y, LastNear kind window x p.2 y ∧ p.1 = byteLength x := by
  obtain ⟨hp, as, bs, hsplit, has⟩ := List.find?_eq_some_iff_append.mp h
  obtain ⟨hback, hkind⟩ := of_decide_eq_true hp
  have hwindow : charIndices 0 window = bs.reverse ++ p :: as.reverse := by
    rw [← List.reverse_reverse (charIndices 0 window), hsplit, List.reverse_append, List.reverse_cons,
      List.append_assoc]
    rfl
  obtain ⟨x, y, hxy, hx, -, hy⟩ := charIndices_eq_append hwindow
  rw [Nat.zero_add] at hx hy
  rw [hx] at hback
  refine ⟨x, y, ⟨⟨hxy, (near_iff hxy).mp hback⟩, hkind, fun d hd => ?_⟩, hx⟩
  -- what stands behind it has been tried before
  have hd' : d ∈ (as.reverse).map Prod.snd := by
    rw [hy, charIndices_map]
    exact hd
  obtain ⟨q, hq, rfl⟩ := List.mem_map.mp hd'
  have hlater := (charIndices_bounds (hy ▸ hq)).1
  have hnot := has q (List.mem_reverse.mp hq)
  by_contra hkind
  have hfound : byteLength window - 160 ≤ q.1 ∧ kind q.2 = true := ⟨by omega, by simpa using hkind⟩
  rw [decide_eq_true hfound] at hnot
  cases hnot

theorem lastIndex_none {kind : Char → Bool} {window : List Char} (h : lastIndex kind window = none) :
    NoneNear kind window := by
  intro x c y hnear
  have hmem : (byteLength x, c) ∈ charIndices 0 window := by
    rw [hnear.eq, charIndices_append, Nat.zero_add]
    exact List.mem_append_right _ List.mem_cons_self
  have hnot := List.find?_eq_none.mp h _ (List.mem_reverse.mpr hmem)
  by_contra hkind
  exact hnot (decide_eq_true ⟨(near_iff hnear.eq).mpr hnear.bytes, by simpa using hkind⟩)

theorem breakpoint_eq (window : List Char) : breakpoint window =
    match lastIndex isSentenceEnd window with
    | some p => p.1 + p.2.utf8Size
    | none =>
        match lastIndex isWhitespace window with
        | some p => p.1
        | none => byteLength window := rfl

/-- Where the window is cut: the part before the cut and the part behind it. -/
inductive Cut (window : List Char) : List Char → List Char → Prop where
  /-- Behind the last sentence end. -/
  | sentence {x y : List Char} {e : Char} (h : LastNear isSentenceEnd window x e y) : Cut window (x ++ [e]) y
  /-- Before the last blank. -/
  | blank {x y : List Char} {c : Char} (hnone : NoneNear isSentenceEnd window)
      (h : LastNear isWhitespace window x c y) : Cut window x (c :: y)
  /-- Where the budget ends. -/
  | budget (hnone : NoneNear isSentenceEnd window) (hblank : NoneNear isWhitespace window) : Cut window window []

theorem exists_cut (window : List Char) :
    ∃ x y, Cut window x y ∧ window = x ++ y ∧ breakpoint window = byteLength x := by
  rw [breakpoint_eq]
  cases hend : lastIndex isSentenceEnd window with
  | some p =>
    obtain ⟨x, y, hlast, hx⟩ := lastIndex_some hend
    refine ⟨x ++ [p.2], y, .sentence hlast, ?_, ?_⟩
    · rw [List.append_assoc]
      exact hlast.near.eq
    · rw [byteLength_append, byteLength_cons, ← hx]
      rfl
  | none =>
    cases hblank : lastIndex isWhitespace window with
    | some p =>
      obtain ⟨x, y, hlast, hx⟩ := lastIndex_some hblank
      exact ⟨x, p.2 :: y, .blank (lastIndex_none hend) hlast, hlast.near.eq, hx⟩
    | none => exact ⟨window, [], .budget (lastIndex_none hend) (lastIndex_none hblank), (List.append_nil _).symm, rfl⟩

/-! ## Between two words -/

theorem LastNear.unique {kind : Char → Bool} {window x y x' y' : List Char} {c c' : Char}
    (h : LastNear kind window x c y) (h' : LastNear kind window x' c' y') : x = x' := by
  have hle : ∀ {x y x' y' : List Char} {c c' : Char}, LastNear kind window x c y → LastNear kind window x' c' y' →
      x.length ≤ x'.length := by
    intro x y x' y' c c' h h'
    by_contra hlt
    -- otherwise the one stands in what follows the other
    have hmem : c ∈ y' := by
      have hsplit := h'.near.eq.symm.trans h.near.eq
      obtain ⟨m, hm⟩ : (x' ++ [c']) <+: x := by
        refine List.prefix_of_prefix_length_le ⟨y', ?_⟩ ⟨c :: y, hsplit.symm⟩ ?_
        · rw [List.append_assoc]
          rfl
        · rw [List.length_append, List.length_singleton]
          omega
      rw [← hm, List.append_assoc, List.append_assoc] at hsplit
      have hrest : y' = m ++ c :: y := (List.cons.inj (List.append_cancel_left hsplit)).2
      rw [hrest]
      exact List.mem_append_right _ List.mem_cons_self
    exact Bool.false_ne_true ((h'.last c hmem).symm.trans h.found)
  have hlength : x.length = x'.length := Nat.le_antisymm (hle h h') (hle h' h)
  exact (List.append_inj (h.near.eq.symm.trans h'.near.eq) hlength).1

/-- The last character is near. -/
theorem near_last {window x : List Char} {c : Char} (h : window = x ++ [c]) : Near window x c [] := by
  refine ⟨h, ?_⟩
  have hsize := c.utf8Size_le_four
  rw [byteLength_cons]
  show c.utf8Size + 0 ≤ 160
  omega

theorem trimEnd_of_last {x : List Char} (h : x.getLast?.any isWhitespace = false) : trimEnd x = x := by
  unfold trimEnd
  cases hx : x.reverse with
  | nil => exact (List.reverse_eq_nil_iff.mp hx).symm
  | cons c r =>
    rw [← List.head?_reverse, hx] at h
    have hc : ¬ isWhitespace c = true := Bool.eq_false_iff.mp h
    rw [List.dropWhile_cons_of_neg hc, ← hx, List.reverse_reverse]

/-- What is kept of a single-spaced text does not end in a blank. -/
theorem Cut.last_kept {text window x y : List Char} (htext : SingleSpaced isWhitespace ' ' text) (hwindow : window <+: text)
    (hcut : Cut window x y) : x.getLast?.any isWhitespace = false := by
  cases hcut with
  | @sentence x y e h =>
    have he : isSentenceEnd e = true := h.found
    rw [List.getLast?_append_of_ne_nil _ (List.cons_ne_nil _ _)]
    show isWhitespace e = false
    unfold isSentenceEnd at he
    rcases of_decide_eq_true he with rfl | rfl | rfl <;> decide
  | @blank x y c hnone h =>
    obtain ⟨rest, hrest⟩ := hwindow
    have hchain := htext.single
    rw [← hrest, h.near.eq, List.append_assoc, List.isChain_append] at hchain
    cases hlast : x.getLast? with
    | none => rfl
    | some d =>
      rcases hchain.2.2 d hlast c rfl with hd | hc
      · exact hd
      · exact absurd (hc.symm.trans h.found) Bool.false_ne_true
  | budget hnone hblank =>
    rcases List.eq_nil_or_concat window with rfl | ⟨x, c, hx⟩
    · rfl
    · rw [List.concat_eq_append] at hx
      have hc := hblank x c [] (near_last hx)
      rw [hx, List.getLast?_append_of_ne_nil _ (List.cons_ne_nil _ _)]
      exact hc

/-- The characters of the text within the budget. -/
def budgetWindow (text : String) (budget : Nat) : List Char := text.toList.take budget

/-- The text behind the budget. -/
def overBudget (text : String) (budget : Nat) : List Char := text.toList.drop budget

/-- The last 160 characters of the budget. -/
def lastChars (text : String) (budget : Nat) : List Char :=
  (budgetWindow text budget).drop ((budgetWindow text budget).length - 160)

/-- A text that fits stays as it is, of any other a part is kept that ends between two words. -/
structure ClipsBetweenWords (text : String) (budget : Nat) : Prop where
  unchanged : clipToBudget text budget = (text, false) ↔ charsCount text ≤ budget
  clipped : budget < charsCount text → ∃ kept rest, text.toList = kept ++ rest ∧
    clipToBudget text budget = (String.ofList (kept ++ ['…']), true) ∧
    kept.getLast?.any isWhitespace = false ∧ charsCount (clipToBudget text budget).1 ≤ budget + 1 ∧
    ((∃ c ∈ lastChars text budget, isWhitespace c = true) → rest.head?.any isWhitespace = true)

/-- Of the near characters the last sentence end, if there is one, stands before a blank; else one of
them is a blank, or the budget ends before one. -/
structure BreaksAtBlank (text : String) (budget : Nat) : Prop where
  sentence : ∀ x e y, LastNear isSentenceEnd (budgetWindow text budget) x e y →
    (text.toList.drop (x.length + 1)).head?.any isWhitespace = true
  blank : NoneNear isSentenceEnd (budgetWindow text budget) →
    (∃ x c y, Near (budgetWindow text budget) x c y ∧ isWhitespace c = true) ∨
      (overBudget text budget).head?.any isWhitespace = true

theorem toList_eq (text : String) (budget : Nat) : text.toList = budgetWindow text budget ++ overBudget text budget :=
  (List.take_append_drop _ _).symm

/-- The cut is before a blank. -/
theorem Cut.breaks_iff {text : String} {budget : Nat} {x y : List Char} (hcut : Cut (budgetWindow text budget) x y) :
    (y ++ overBudget text budget).head?.any isWhitespace = true ↔ BreaksAtBlank text budget := by
  have htext := toList_eq text budget
  cases hcut with
  | @sentence x y e h =>
    have hrest : text.toList.drop (x.length + 1) = y ++ overBudget text budget := by
      rw [htext, h.near.eq, List.append_assoc, ← List.drop_drop, List.drop_left]
      rfl
    constructor
    · intro hblank
      refine ⟨fun x' e' y' h' => ?_, fun hnone => ?_⟩
      · rw [← h.unique h', hrest]
        exact hblank
      · exact absurd ((hnone x e y h.near).symm.trans h.found) Bool.false_ne_true
    · intro hbreaks
      rw [← hrest]
      exact hbreaks.sentence x e y h
  | @blank x y c hnone h =>
    refine iff_of_true h.found ⟨fun x' e' y' h' => ?_, fun _ => .inl ⟨x, c, y, h.near, h.found⟩⟩
    exact absurd ((hnone x' e' y' h'.near).symm.trans h'.found) Bool.false_ne_true
  | budget hnone hblank =>
    rw [List.nil_append]
    constructor
    · intro hover
      refine ⟨fun x' e' y' h' => ?_, fun _ => .inr hover⟩
      exact absurd ((hnone x' e' y' h'.near).symm.trans h'.found) Bool.false_ne_true
    · intro hbreaks
      refine (hbreaks.blank hnone).resolve_left ?_
      rintro ⟨x, c, y, hnear, hc⟩
      exact absurd ((hblank x c y hnear).symm.trans hc) Bool.false_ne_true

/-- **The text is cut between two words exactly when no blank is within the last 160 characters of the
budget or the near characters give such a cut.** -/
theorem clip_between_words_iff (text : String) (budget : Nat) (htext : SingleSpaced isWhitespace ' ' text.toList) :
    ClipsBetweenWords text budget ↔
      charsCount text ≤ budget ∨ (∀ c ∈ lastChars text budget, isWhitespace c = false) ∨ BreaksAtBlank text budget := by
  by_cases hfits : charsCount text ≤ budget
  · refine iff_of_true ⟨iff_of_true (clipToBudget_of_le hfits) hfits, fun hlong => ?_⟩ (.inl hfits)
    exact absurd hfits (Nat.not_le.mpr hlong)
  · have hlong : budget < charsCount text := Nat.not_le.mp hfits
    obtain ⟨x, y, hcut, hwindow, hbreak⟩ := exists_cut (budgetWindow text budget)
    have hsplit : text.toList = x ++ (y ++ overBudget text budget) := by
      rw [← List.append_assoc, ← hwindow]
      exact toList_eq text budget
    have hlast := hcut.last_kept htext ⟨overBudget text budget, (toList_eq text budget).symm⟩
    have hclip : clipToBudget text budget = (String.ofList (x ++ ['…']), true) := by
      unfold clipToBudget
      rw [if_neg hfits]
      show (String.ofList (trimEnd (slicePrefix (breakpoint (budgetWindow text budget)) text.toList) ++ _), true) = _
      rw [hbreak, hsplit, slicePrefix_append, trimEnd_of_last hlast]
    have hlength : x.length ≤ budget := by
      have htake : (budgetWindow text budget).length ≤ budget := List.length_take_le _ _
      rw [hwindow, List.length_append] at htake
      omega
    have hcount : charsCount (clipToBudget text budget).1 ≤ budget + 1 := by
      rw [hclip]
      unfold charsCount
      rw [String.toList_ofList, List.length_append, List.length_singleton]
      omega
    rw [or_iff_right hfits, ← hcut.breaks_iff]
    constructor
    · intro h
      obtain ⟨kept, rest, hkept, hanswer, -, -, hblank⟩ := h.clipped hlong
      have hsame : kept = x := by
        have htexts := congrArg (fun p => p.1.toList) (hanswer.symm.trans hclip)
        simp only [String.toList_ofList] at htexts
        exact List.append_cancel_right htexts
      obtain rfl : rest = y ++ overBudget text budget := by
        rw [hsame, hsplit] at hkept
        exact (List.append_cancel_left hkept).symm
      by_cases hany : ∃ c ∈ lastChars text budget, isWhitespace c = true
      · exact .inr (hblank hany)
      · refine .inl fun c hc => ?_
        by_contra hws
        exact hany ⟨c, hc, by simpa using hws⟩
    · intro h
      refine ⟨iff_of_false ?_ hfits, fun _ => ⟨x, _, hsplit, hclip, hlast, hcount, ?_⟩⟩
      · rw [hclip]
        intro hsame
        cases congrArg Prod.snd hsame
      · rintro ⟨c, hc, hws⟩
        exact h.resolve_left fun hnone => Bool.false_ne_true ((hnone c hc).symm.trans hws)

end NormalizedTranscript

open NormalizedTranscript

/-- Words of a sample, with spaces between them. -/
theorem singleSpaced_words {ws : List (List Char)} (h : ws.all (fun w => !w.isEmpty && !w.any isWhitespace) = true) :
    SingleSpaced isWhitespace ' ' ([' '].intercalate ws) := by
  refine singleSpaced_intercalate (by decide) fun w hw => ?_
  have hword := List.all_eq_true.mp h w hw
  simp only [Bool.and_eq_true, Bool.not_eq_true', List.isEmpty_eq_false_iff, List.any_eq_false] at hword
  exact ⟨hword.1, fun c hc => by simpa using hword.2 c hc⟩

theorem singleSpaced_report : SingleSpaced isWhitespace ' ' "Сдать отчёт в пятницу".toList := by
  have htext : "Сдать отчёт в пятницу".toList =
      [' '].intercalate ["Сдать".toList, "отчёт".toList, "в".toList, "пятницу".toList] := by decide
  rw [htext]
  exact singleSpaced_words (by decide)

theorem report_breaks_at_blank : BreaksAtBlank "Сдать отчёт в пятницу" 8 where
  sentence x e y h := by
    have hnone : (budgetWindow "Сдать отчёт в пятницу" 8).any isSentenceEnd = false := by decide
    exact absurd h.found (List.any_eq_false.mp hnone e (h.near.eq ▸ List.mem_append_right _ List.mem_cons_self))
  blank _ := .inl ⟨"Сдать".toList, ' ', "от".toList, ⟨by decide, by decide +kernel⟩, by decide⟩

theorem report_clipped_between_words : ClipsBetweenWords "Сдать отчёт в пятницу" 8 :=
  (clip_between_words_iff _ 8 singleSpaced_report).mpr (.inr (.inr report_breaks_at_blank))

theorem number_is_split : ¬ ∀ (text : String) (budget : Nat), 0 < budget → SingleSpaced isWhitespace ' ' text.toList →
    ClipsBetweenWords text budget := by
  intro h
  have hspaced : SingleSpaced isWhitespace ' ' "Версия 3.14 готова".toList := by
    have htext : "Версия 3.14 готова".toList =
        [' '].intercalate ["Версия".toList, "3.14".toList, "готова".toList] := by decide
    rw [htext]
    exact singleSpaced_words (by decide)
  have hclipped : clipToBudget "Версия 3.14 готова" 9 = (String.ofList ("Версия 3.".toList ++ ['…']), true) := by decide
  obtain ⟨kept, rest, hkept, hanswer, -, -, hblank⟩ := (h _ 9 (by decide) hspaced).clipped (by decide)
  have hsame : kept = "Версия 3.".toList := by
    have htexts := congrArg (fun p => p.1.toList) (hanswer.symm.trans hclipped)
    simp only [String.toList_ofList] at htexts
    exact List.append_cancel_right htexts
  have hrest : rest = "14 готова".toList := by
    rw [hsame, show "Версия 3.14 готова".toList = "Версия 3.".toList ++ "14 готова".toList by decide] at hkept
    exact (List.append_cancel_left hkept).symm
  have hbreak := hblank ⟨' ', by decide, by decide⟩
  rw [hrest] at hbreak
  exact absurd hbreak (by decide)

end TaskBot
