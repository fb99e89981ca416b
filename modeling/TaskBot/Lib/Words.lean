import Mathlib.Data.List.SplitBy

/-!
# Words

A text is cut into words at its gaps.  Elements that are not kept go away, and the gap they may have
been goes with them:

    words gap (l.filter keep) = clean keep (words gap l)  ↔  ¬ Glued gap keep l
                                                              (words_filter_eq_iff)

Both sides are read off one scan from the right (`scan`) that sorts each element into a letter, a gap
or nothing.  Written with one separator between them, the words are the same again
(`words_intercalate`), and no gap is next to another (`singleSpaced_intercalate`).
-/

namespace Words

variable {α : Type}

/-- The runs without a gap. -/
def words (gap : α → Bool) (l : List α) : List (List α) :=
  (l.splitBy fun a b => gap a == gap b).filter fun w => !w.all gap

/-- Each word without what is not kept. -/
def clean (keep : α → Bool) (ws : List (List α)) : List (List α) :=
  (ws.map (List.filter keep)).filter fun w => !w.isEmpty

/-- A kept letter. -/
def Letter (gap keep : α → Bool) (c : α) : Prop := keep c = true ∧ gap c = false

/-- Two kept letters with nothing kept between them, where a gap has been. -/
def Glued (gap keep : α → Bool) (l : List α) : Prop :=
  ∃ x a m b y, l = x ++ a :: (m ++ b :: y) ∧ Letter gap keep a ∧ Letter gap keep b ∧
    (∀ c ∈ m, keep c = false) ∧ ∃ c ∈ m, gap c = true

/-! ## The scan -/

inductive Kind where
  | letter | gap | nothing
deriving DecidableEq, Repr

/-- The word that begins the rest of the text, if one does, and the words after it. -/
abbrev Scan (α : Type) := List α × List (List α)

def flush (s : Scan α) : List (List α) := if s.1.isEmpty then s.2 else s.1 :: s.2

@[simp] theorem flush_nil (ws : List (List α)) : flush (([], ws) : Scan α) = ws := rfl

@[simp] theorem flush_cons (c : α) (w : List α) (ws : List (List α)) : flush ((c :: w, ws) : Scan α) = (c :: w) :: ws :=
  rfl

def scan (kind : α → Kind) : List α → Scan α
  | [] => ([], [])
  | c :: l =>
      match kind c with
      | .letter => (c :: (scan kind l).1, (scan kind l).2)
      | .gap => ([], flush (scan kind l))
      | .nothing => scan kind l

section

variable {kind : α → Kind} {c : α}

theorem scan_letter (h : kind c = .letter) (l : List α) :
    scan kind (c :: l) = (c :: (scan kind l).1, (scan kind l).2) := by
  rw [scan, h]

theorem scan_gap (h : kind c = .gap) (l : List α) : scan kind (c :: l) = ([], flush (scan kind l)) := by
  rw [scan, h]

theorem scan_nothing (h : kind c = .nothing) (l : List α) : scan kind (c :: l) = scan kind l := by
  rw [scan, h]

end

/-- Gaps and letters. -/
def plain (gap : α → Bool) (c : α) : Kind := if gap c then .gap else .letter

/-- What is not kept is nothing. -/
def kept (gap keep : α → Bool) (c : α) : Kind := if keep c then plain gap c else .nothing

/-- What is not kept may still be a gap. -/
def noticed (gap keep : α → Bool) (c : α) : Kind := if gap c then .gap else if keep c then .letter else .nothing

/-! ## Words by the scan -/

section

variable {gap keep : α → Bool}

/-- An element that goes on with the first run. -/
theorem exists_splitBy_cons {r : α → α → Bool} {a b : α} (h : r a b = true) (l : List α) :
    ∃ g gs, (b :: l).splitBy r = (b :: g) :: gs ∧ (a :: b :: l).splitBy r = (a :: b :: g) :: gs := by
  obtain ⟨run, gs, hgroups⟩ := List.exists_cons_of_ne_nil (List.splitBy_ne_nil (r := r).mpr (List.cons_ne_nil b l))
  obtain ⟨hflat, hnil, hchain, hborders⟩ := List.splitBy_eq_iff.mp hgroups
  obtain ⟨d, g, rfl⟩ : ∃ d g, run = d :: g := by
    cases run with
    | nil => exact absurd List.mem_cons_self hnil
    | cons d g => exact ⟨d, g, rfl⟩
  obtain ⟨rfl, -⟩ := List.cons.inj hflat
  refine ⟨g, gs, hgroups, List.splitBy_eq_iff.mpr ⟨by rw [hflat]; rfl, ?_, ?_, ?_⟩⟩
  · intro hmem
    rcases List.mem_cons.mp hmem with hmem | hmem
    · cases hmem
    · exact hnil (List.mem_cons_of_mem _ hmem)
  · intro m hm
    rcases List.mem_cons.mp hm with rfl | hm
    · exact List.IsChain.cons_cons h (hchain _ List.mem_cons_self)
    · exact hchain m (List.mem_cons_of_mem _ hm)
  · cases gs with
    | nil => exact List.isChain_singleton _
    | cons g' gs =>
      rw [List.isChain_cons_cons] at hborders ⊢
      obtain ⟨⟨_, hg', hborder⟩, hrest⟩ := hborders
      refine ⟨⟨List.cons_ne_nil _ _, hg', ?_⟩, hrest⟩
      rw [List.getLast_cons (List.cons_ne_nil _ _)]
      exact hborder

theorem splitBy_one (r : α → α → Bool) (a : α) : [a].splitBy r = [[a]] := rfl

/-- A run that begins with a gap is all gap. -/
theorem all_gap {d : α} {g : List α} (h : (d :: g).IsChain fun a b => gap a == gap b) (hd : gap d = true) :
    (d :: g).all gap = true := by
  induction g generalizing d with
  | nil => simp [hd]
  | cons e g ih =>
    rw [List.isChain_cons_cons] at h
    have he : gap e = true := (beq_iff_eq.mp h.1).symm.trans hd
    rw [List.all_cons, hd, ih h.2 he]
    rfl

theorem words_nil (gap : α → Bool) : words gap [] = [] := rfl

theorem words_cons_gap {c : α} (hc : gap c = true) (l : List α) : words gap (c :: l) = words gap l := by
  unfold words
  cases l with
  | nil =>
    rw [splitBy_one]
    simp [hc]
  | cons d l =>
    cases hd : gap d with
    | true =>
      obtain ⟨g, gs, hrest, hall⟩ := @exists_splitBy_cons α (fun a b => gap a == gap b) c d (by rw [hc, hd]; rfl) l
      have hchain := List.isChain_of_mem_splitBy (hrest ▸ List.mem_cons_self : d :: g ∈ (d :: l).splitBy _)
      have hrun : (d :: g).all gap = true := all_gap hchain hd
      have hlong : (c :: d :: g).all gap = true := by
        rw [List.all_cons, hc, hrun]
        rfl
      rw [hrest, hall, List.filter_cons_of_neg (by rw [hlong]; decide), List.filter_cons_of_neg (by rw [hrun]; decide)]
    | false =>
      rw [← List.singleton_append, List.splitBy_append_cons l (by simp [hc, hd]), splitBy_one]
      simp [hc]

/-- A letter in front of a gap, or of nothing. -/
theorem words_cons_letter {c : α} (hc : gap c = false) {l : List α} (hl : ∀ d ∈ l.head?, gap d = true) :
    words gap (c :: l) = [c] :: words gap l := by
  unfold words
  cases l with
  | nil =>
    rw [splitBy_one]
    simp [hc]
  | cons d l =>
    have hd : gap d = true := hl d (Option.mem_some.mpr rfl)
    rw [← List.singleton_append, List.splitBy_append_cons l (by simp [hc, hd]), splitBy_one]
    simp [hc]

/-- A letter in front of a letter. -/
theorem exists_words_cons {c d : α} (hc : gap c = false) (hd : gap d = false) (l : List α) :
    ∃ w ws, words gap (d :: l) = (d :: w) :: ws ∧ words gap (c :: d :: l) = (c :: d :: w) :: ws := by
  obtain ⟨g, gs, hrest, hall⟩ := @exists_splitBy_cons α (fun a b => gap a == gap b) c d (by rw [hc, hd]; rfl) l
  refine ⟨g, gs.filter fun w => !w.all gap, ?_, ?_⟩
  · rw [words, hrest, List.filter_cons_of_pos (by simp [hd])]
  · rw [words, hall, List.filter_cons_of_pos (by simp [hc])]

/-- **The scan gives the words.** -/
theorem words_eq (gap : α → Bool) (l : List α) : words gap l = flush (scan (plain gap) l) := by
  induction l with
  | nil => rfl
  | cons c l ih =>
    cases hc : gap c with
    | true => rw [scan_gap (by rw [plain, hc]; rfl), flush_nil, ← ih, words_cons_gap hc]
    | false =>
      rw [scan_letter (by rw [plain, hc]; rfl), flush_cons]
      cases l with
      | nil => exact words_cons_letter hc fun d hd => nomatch hd
      | cons d l =>
        cases hd : gap d with
        | true =>
          rw [scan_gap (by rw [plain, hd]; rfl)] at ih ⊢
          have hgap : ∀ e ∈ (d :: l).head?, gap e = true := by
            rintro _ ⟨⟩
            exact hd
          rw [words_cons_letter hc hgap, ih]
          rfl
        | false =>
          rw [scan_letter (by rw [plain, hd]; rfl)] at ih ⊢
          obtain ⟨w, ws, hrest, hall⟩ := exists_words_cons hc hd l
          rw [hrest, flush_cons] at ih
          obtain ⟨hword, hwords⟩ := List.cons.inj ih
          rw [hall, hword, hwords]

/-! ## What is not kept -/

/-- Filtered first, the elements are nothing. -/
theorem words_filter (gap keep : α → Bool) (l : List α) :
    words gap (l.filter keep) = flush (scan (kept gap keep) l) := by
  rw [words_eq]
  congr 1
  induction l with
  | nil => rfl
  | cons c l ih =>
    cases hk : keep c with
    | false =>
      rw [List.filter_cons_of_neg (by rw [hk]; decide), ih, scan_nothing (by rw [kept, hk]; rfl)]
    | true =>
      have hkind : kept gap keep c = plain gap c := by
        rw [kept, hk]
        rfl
      rw [List.filter_cons_of_pos hk, scan, scan, hkind, ih]

theorem clean_flush (keep : α → Bool) (s : Scan α) :
    clean keep (flush s) = flush (s.1.filter keep, clean keep s.2) := by
  obtain ⟨w, ws⟩ := s
  cases w with
  | nil => rfl
  | cons c w =>
    rw [flush_cons]
    unfold clean
    rw [List.map_cons, List.filter_cons]
    unfold flush
    cases ((c :: w).filter keep).isEmpty <;> rfl

/-- Split first, they may still be gaps. -/
theorem clean_words (gap keep : α → Bool) (l : List α) :
    clean keep (words gap l) = flush (scan (noticed gap keep) l) := by
  have hscan : ((scan (plain gap) l).1.filter keep, clean keep (scan (plain gap) l).2) = scan (noticed gap keep) l := by
    induction l with
    | nil => rfl
    | cons c l ih =>
      cases hc : gap c with
      | true =>
        rw [scan_gap (by rw [plain, hc]; rfl), scan_gap (by rw [noticed, hc]; rfl), ← ih, ← clean_flush]
        rfl
      | false =>
        rw [scan_letter (by rw [plain, hc]; rfl)]
        cases hk : keep c with
        | true =>
          rw [scan_letter (by rw [noticed, hc, hk]; rfl), ← ih, List.filter_cons_of_pos hk]
        | false =>
          rw [scan_nothing (by rw [noticed, hc, hk]; rfl), ← ih, List.filter_cons_of_neg (by rw [hk]; decide)]
  rw [words_eq, clean_flush, hscan]

/-! ## Words with a separator between them -/

/-- No gaps but single separators, and none at the ends. -/
structure SingleSpaced (gap : α → Bool) (sep : α) (l : List α) : Prop where
  separators : ∀ c ∈ l, gap c = true → c = sep
  single : l.IsChain fun a b => gap a = false ∨ gap b = false
  head : l.head?.any gap = false
  last : l.getLast?.any gap = false

/-- Words: none is empty, and no gap is in them. -/
def Proper (gap : α → Bool) (ws : List (List α)) : Prop := ∀ w ∈ ws, w ≠ [] ∧ ∀ c ∈ w, gap c = false

theorem Proper.flush {w : List α} {ws : List (List α)} (hw : ∀ c ∈ w, gap c = false) (hws : Proper gap ws) :
    Proper gap (flush (w, ws)) := by
  cases w with
  | nil => exact hws
  | cons c w =>
    intro v hv
    rcases List.mem_cons.mp hv with rfl | hv
    · exact ⟨List.cons_ne_nil _ _, hw⟩
    · exact hws v hv

theorem proper_words (gap : α → Bool) (l : List α) : Proper gap (words gap l) := by
  have hscan : (∀ c ∈ (scan (plain gap) l).1, gap c = false) ∧ Proper gap (scan (plain gap) l).2 := by
    induction l with
    | nil => exact ⟨fun _ h => (nomatch h), fun _ h => (nomatch h)⟩
    | cons c l ih =>
      cases hc : gap c with
      | true =>
        rw [scan_gap (by rw [plain, hc]; rfl)]
        exact ⟨fun _ h => (nomatch h), .flush ih.1 ih.2⟩
      | false =>
        rw [scan_letter (by rw [plain, hc]; rfl)]
        refine ⟨fun d hd => ?_, ih.2⟩
        rcases List.mem_cons.mp hd with rfl | hd
        · exact hc
        · exact ih.1 d hd
  rw [words_eq]
  exact .flush hscan.1 hscan.2

theorem words_append {w l : List α} (hne : w ≠ []) (hw : ∀ c ∈ w, gap c = false) (hl : ∀ d ∈ l.head?, gap d = true) :
    words gap (w ++ l) = w :: words gap l := by
  induction w with
  | nil => exact absurd rfl hne
  | cons c w ih =>
    have hc := hw c List.mem_cons_self
    cases w with
    | nil => exact words_cons_letter hc hl
    | cons d w =>
      have hrest := ih (List.cons_ne_nil d w) fun e he => hw e (List.mem_cons_of_mem _ he)
      obtain ⟨v, vs, hfirst, hall⟩ := exists_words_cons hc (hw d (List.mem_cons_of_mem _ List.mem_cons_self)) (w ++ l)
      obtain ⟨hv, hvs⟩ := List.cons.inj (hfirst.symm.trans hrest)
      show words gap (c :: d :: (w ++ l)) = _
      rw [hall, hv, hvs]

/-- **The words are read back.** -/
theorem words_intercalate {sep : α} (hsep : gap sep = true) {ws : List (List α)} (h : Proper gap ws) :
    words gap ([sep].intercalate ws) = ws := by
  induction ws with
  | nil => rfl
  | cons w ws ih =>
    obtain ⟨hne, hw⟩ := h w List.mem_cons_self
    have hrest := ih fun v hv => h v (List.mem_cons_of_mem _ hv)
    cases ws with
    | nil =>
      have hone := words_append (l := []) hne hw fun _ hd => nomatch hd
      rw [List.append_nil] at hone
      rw [List.intercalate_singleton, hone, words_nil]
    | cons v ws =>
      rw [List.intercalate_cons_cons, List.append_assoc, words_append hne hw (by rintro _ ⟨⟩; exact hsep),
        List.singleton_append, words_cons_gap hsep, hrest]

theorem mem_of_mem_words {l w : List α} {c : α} (hw : w ∈ words gap l) (hc : c ∈ w) : c ∈ l := by
  have hflat := List.flatten_splitBy (fun a b => gap a == gap b) l
  rw [← hflat]
  exact List.mem_flatten.mpr ⟨w, (List.mem_filter.mp hw).1, hc⟩

theorem mem_intercalate {sep c : α} {ws : List (List α)} (hc : c ∈ [sep].intercalate ws) :
    c = sep ∨ ∃ w ∈ ws, c ∈ w := by
  induction ws with
  | nil => cases hc
  | cons w ws ih =>
    cases ws with
    | nil =>
      rw [List.intercalate_singleton] at hc
      exact .inr ⟨w, List.mem_cons_self, hc⟩
    | cons v ws =>
      rw [List.intercalate_cons_cons, List.append_assoc, List.singleton_append] at hc
      rcases List.mem_append.mp hc with hc | hc
      · exact .inr ⟨w, List.mem_cons_self, hc⟩
      · rcases List.mem_cons.mp hc with hc | hc
        · exact .inl hc
        · exact (ih hc).imp_right fun ⟨u, hu, hcu⟩ => ⟨u, List.mem_cons_of_mem _ hu, hcu⟩

/-- What is kept stays kept when its words are written with a kept separator. -/
theorem filter_intercalate_words {keep gap : α → Bool} {sep : α} (hsep : keep sep = true) (l : List α) :
    ([sep].intercalate (words gap (l.filter keep))).filter keep = [sep].intercalate (words gap (l.filter keep)) := by
  rw [List.filter_eq_self]
  intro c hc
  rcases mem_intercalate hc with rfl | ⟨w, hw, hcw⟩
  · exact hsep
  · exact (List.mem_filter.mp (mem_of_mem_words hw hcw)).2

theorem SingleSpaced.word {sep : α} {w : List α} (hw : ∀ c ∈ w, gap c = false) : SingleSpaced gap sep w where
  separators c hc hgap := absurd ((hw c hc).symm.trans hgap) Bool.false_ne_true
  single := by
    induction w with
    | nil => exact List.isChain_nil
    | cons c w ih =>
      cases w with
      | nil => exact List.isChain_singleton c
      | cons d w =>
        exact List.isChain_cons_cons.mpr
          ⟨.inl (hw c List.mem_cons_self), ih fun e he => hw e (List.mem_cons_of_mem _ he)⟩
  head := by
    cases w with
    | nil => rfl
    | cons c w => exact hw c List.mem_cons_self
  last := by
    cases hlast : w.getLast? with
    | none => rfl
    | some c => exact hw c (List.mem_of_getLast? hlast)

/-- One more word in front. -/
theorem SingleSpaced.cons_word {sep : α} {w l : List α} (hne : w ≠ []) (hw : ∀ c ∈ w, gap c = false)
    (hl : SingleSpaced gap sep l) (hl' : l ≠ []) : SingleSpaced gap sep (w ++ sep :: l) where
  separators c hc hgap := by
    rcases List.mem_append.mp hc with hc | hc
    · exact absurd ((hw c hc).symm.trans hgap) Bool.false_ne_true
    · rcases List.mem_cons.mp hc with rfl | hc
      · rfl
      · exact hl.separators c hc hgap
  single := by
    refine List.isChain_append.mpr ⟨(@SingleSpaced.word α gap sep w hw).single, ?_, fun c hc _ _ => .inl ?_⟩
    · obtain ⟨d, rest, rfl⟩ := List.exists_cons_of_ne_nil hl'
      exact List.isChain_cons_cons.mpr ⟨.inr hl.head, hl.single⟩
    · exact hw c (List.mem_of_getLast? hc)
  head := by
    obtain ⟨c, rest, rfl⟩ := List.exists_cons_of_ne_nil hne
    exact hw c List.mem_cons_self
  last := by
    obtain ⟨d, rest, rfl⟩ := List.exists_cons_of_ne_nil hl'
    rw [List.getLast?_append_of_ne_nil _ (List.cons_ne_nil _ _), List.getLast?_cons_cons]
    exact hl.last

theorem intercalate_ne_nil {sep : α} (hsep : gap sep = true) {ws : List (List α)} (h : Proper gap ws) (hne : ws ≠ []) :
    [sep].intercalate ws ≠ [] := by
  intro hnil
  have hread := words_intercalate hsep h
  rw [hnil, words_nil] at hread
  exact hne hread.symm

theorem singleSpaced_intercalate {sep : α} (hsep : gap sep = true) {ws : List (List α)} (h : Proper gap ws) :
    SingleSpaced gap sep ([sep].intercalate ws) := by
  induction ws with
  | nil => exact .word fun _ h => nomatch h
  | cons w ws ih =>
    obtain ⟨hne, hw⟩ := h w List.mem_cons_self
    have htail : Proper gap ws := fun v hv => h v (List.mem_cons_of_mem _ hv)
    cases ws with
    | nil =>
      rw [List.intercalate_singleton]
      exact .word hw
    | cons v ws =>
      rw [List.intercalate_cons_cons, List.append_assoc, List.singleton_append]
      exact .cons_word hne hw (ih htail) (intercalate_ne_nil hsep htail (List.cons_ne_nil v ws))

/-! ## Glued words -/

/-- Of what is kept a letter comes first. -/
def Leads (gap keep : α → Bool) (l : List α) : Prop :=
  ∃ m b y, l = m ++ b :: y ∧ Letter gap keep b ∧ ∀ c ∈ m, keep c = false

/-- It comes after a gap that is not kept. -/
def Late (gap keep : α → Bool) (l : List α) : Prop :=
  ∃ m b y, l = m ++ b :: y ∧ Letter gap keep b ∧ (∀ c ∈ m, keep c = false) ∧ ∃ c ∈ m, gap c = true

section

variable {c : α} {l : List α}

theorem Late.leads (h : Late gap keep l) : Leads gap keep l := by
  obtain ⟨m, b, y, hl, hb, hm, -⟩ := h
  exact ⟨m, b, y, hl, hb, hm⟩

theorem leads_nothing (hk : keep c = false) : Leads gap keep (c :: l) ↔ Leads gap keep l := by
  constructor
  · rintro ⟨_ | ⟨d, m⟩, b, y, hl, hb, hm⟩
    · cases hl
      cases hk.symm.trans hb.1
    · cases hl
      exact ⟨m, b, y, rfl, hb, fun e he => hm e (List.mem_cons_of_mem _ he)⟩
  · rintro ⟨m, b, y, rfl, hb, hm⟩
    refine ⟨c :: m, b, y, rfl, hb, fun e he => ?_⟩
    rcases List.mem_cons.mp he with rfl | he
    · exact hk
    · exact hm e he

theorem leads_kept (hk : keep c = true) : Leads gap keep (c :: l) ↔ gap c = false := by
  constructor
  · rintro ⟨_ | ⟨d, m⟩, b, y, hl, hb, hm⟩
    · cases hl
      exact hb.2
    · cases hl
      cases hk.symm.trans (hm c List.mem_cons_self)
  · exact fun hc => ⟨[], c, l, rfl, ⟨hk, hc⟩, fun _ h => nomatch h⟩

theorem not_late_kept (hk : keep c = true) : ¬ Late gap keep (c :: l) := by
  rintro ⟨_ | ⟨d, m⟩, b, y, hl, -, hm, e, he, -⟩
  · cases he
  · cases hl
    cases hk.symm.trans (hm c List.mem_cons_self)

theorem late_gap (hk : keep c = false) (hc : gap c = true) : Late gap keep (c :: l) ↔ Leads gap keep l := by
  refine ⟨fun h => (leads_nothing hk).mp h.leads, fun h => ?_⟩
  obtain ⟨m, b, y, hl, hb, hm⟩ := (leads_nothing hk).mpr h
  cases m with
  | nil =>
    cases hl
    cases hk.symm.trans hb.1
  | cons d m =>
    cases hl
    exact ⟨c :: m, b, y, rfl, hb, hm, c, List.mem_cons_self, hc⟩

theorem late_nothing (hk : keep c = false) (hc : gap c = false) : Late gap keep (c :: l) ↔ Late gap keep l := by
  constructor
  · rintro ⟨_ | ⟨d, m⟩, b, y, hl, hb, hm, e, he, hgap⟩
    · cases he
    · cases hl
      refine ⟨m, b, y, rfl, hb, fun e he => hm e (List.mem_cons_of_mem _ he), e, ?_, hgap⟩
      rcases List.mem_cons.mp he with rfl | he
      · cases hc.symm.trans hgap
      · exact he
  · rintro ⟨m, b, y, rfl, hb, hm, e, he, hgap⟩
    refine ⟨c :: m, b, y, rfl, hb, fun e he => ?_, e, List.mem_cons_of_mem _ he, hgap⟩
    rcases List.mem_cons.mp he with rfl | he
    · exact hk
    · exact hm e he

theorem glued_cons : Glued gap keep (c :: l) ↔ Letter gap keep c ∧ Late gap keep l ∨ Glued gap keep l := by
  constructor
  · rintro ⟨_ | ⟨d, x⟩, a, m, b, y, hl, ha, hb, hm⟩
    · cases hl
      exact .inl ⟨ha, m, b, y, rfl, hb, hm⟩
    · cases hl
      exact .inr ⟨x, a, m, b, y, rfl, ha, hb, hm⟩
  · rintro (⟨hc, m, b, y, rfl, hb, hm⟩ | ⟨x, a, m, b, y, rfl, ha, hb, hm⟩)
    · exact ⟨[], c, m, b, y, rfl, hc, hb, hm⟩
    · exact ⟨c :: x, a, m, b, y, rfl, ha, hb, hm⟩

end

theorem glued_cons_of_not_letter {c : α} (hc : ¬ Letter gap keep c) (l : List α) :
    Glued gap keep (c :: l) ↔ Glued gap keep l := by
  rw [glued_cons]
  exact or_iff_right fun h => hc h.1

/-- Both scans in the middle of a word, or neither. -/
theorem same_flush {s s' : Scan α} (h : s.1 = [] ↔ s'.1 = []) : s.1 = s'.1 ∧ s.2 = s'.2 ↔ flush s = flush s' := by
  obtain ⟨w, ws⟩ := s
  obtain ⟨w', ws'⟩ := s'
  cases w with
  | nil =>
    obtain rfl : w' = [] := h.mp rfl
    exact and_iff_right rfl
  | cons c w =>
    cases w' with
    | nil => cases h.mpr rfl
    | cons c' w' => exact (List.cons.injEq _ _ _ _).symm.to_iff

/-- How the two scans of a text stand to each other. -/
structure Compared (gap keep : α → Bool) (l : List α) : Prop where
  leads : (scan (kept gap keep) l).1 = [] ↔ ¬ Leads gap keep l
  late : (scan (noticed gap keep) l).1 = [] ↔ ¬ Leads gap keep l ∨ Late gap keep l
  same : flush (scan (kept gap keep) l) = flush (scan (noticed gap keep) l) ↔ ¬ Glued gap keep l

theorem compared (gap keep : α → Bool) (l : List α) : Compared gap keep l := by
  induction l with
  | nil =>
    have hnone : ¬ Leads gap keep [] := by
      rintro ⟨m, b, y, hl, -⟩
      simp at hl
    have hglued : ¬ Glued gap keep [] := by
      rintro ⟨x, a, m, b, y, hl, -⟩
      simp at hl
    exact ⟨iff_of_true rfl hnone, iff_of_true rfl (.inl hnone), iff_of_true rfl hglued⟩
  | cons c l ih =>
    cases hk : keep c with
    | false =>
      have hskip : scan (kept gap keep) (c :: l) = scan (kept gap keep) l := scan_nothing (by rw [kept, hk]; rfl) l
      have hletter : ¬ Letter gap keep c := fun h => Bool.false_ne_true (hk.symm.trans h.1)
      have hglued : Glued gap keep (c :: l) ↔ Glued gap keep l := glued_cons_of_not_letter hletter l
      cases hc : gap c with
      | true =>
        -- the gap is gone for the one scan only
        have hgap : scan (noticed gap keep) (c :: l) = ([], flush (scan (noticed gap keep) l)) :=
          scan_gap (by rw [noticed, hc]; rfl) l
        refine ⟨?_, ?_, ?_⟩
        · rw [hskip, leads_nothing hk]
          exact ih.leads
        · rw [hgap, leads_nothing hk, late_gap hk hc]
          exact iff_of_true rfl (em' _)
        · rw [hskip, hgap, flush_nil, hglued]
          exact ih.same
      | false =>
        have hnothing : scan (noticed gap keep) (c :: l) = scan (noticed gap keep) l :=
          scan_nothing (by rw [noticed, hc, hk]; rfl) l
        refine ⟨?_, ?_, ?_⟩
        · rw [hskip, leads_nothing hk]
          exact ih.leads
        · rw [hnothing, leads_nothing hk, late_nothing hk hc]
          exact ih.late
        · rw [hskip, hnothing, hglued]
          exact ih.same
    | true =>
      cases hc : gap c with
      | true =>
        have hnot : ¬ Leads gap keep (c :: l) := fun h => Bool.false_ne_true (((leads_kept hk).mp h).symm.trans hc)
        have hkept : scan (kept gap keep) (c :: l) = ([], flush (scan (kept gap keep) l)) :=
          scan_gap (by rw [kept, hk, plain, hc]; rfl) l
        have hgap : scan (noticed gap keep) (c :: l) = ([], flush (scan (noticed gap keep) l)) :=
          scan_gap (by rw [noticed, hc]; rfl) l
        have hletter : ¬ Letter gap keep c := fun h => Bool.false_ne_true (h.2.symm.trans hc)
        refine ⟨?_, ?_, ?_⟩
        · rw [hkept]
          exact iff_of_true rfl hnot
        · rw [hgap]
          exact iff_of_true rfl (.inl hnot)
        · rw [hkept, hgap, glued_cons_of_not_letter hletter]
          exact ih.same
      | false =>
        have hkept : scan (kept gap keep) (c :: l) = (c :: (scan (kept gap keep) l).1, (scan (kept gap keep) l).2) :=
          scan_letter (by rw [kept, hk, plain, hc]; rfl) l
        have hnoticed : scan (noticed gap keep) (c :: l) =
            (c :: (scan (noticed gap keep) l).1, (scan (noticed gap keep) l).2) :=
          scan_letter (by rw [noticed, hc, hk]; rfl) l
        have hleads : Leads gap keep (c :: l) := (leads_kept hk).mpr hc
        have hsplit : ∀ {w w' : List α} {ws ws' : List (List α)},
            (c :: w) :: ws = (c :: w') :: ws' ↔ w = w' ∧ ws = ws' := by
          intro w w' ws ws'
          rw [List.cons.injEq, List.cons.injEq, eq_self, true_and]
        refine ⟨?_, ?_, ?_⟩
        · rw [hkept]
          exact iff_of_false (List.cons_ne_nil _ _) (not_not_intro hleads)
        · rw [hnoticed]
          exact iff_of_false (List.cons_ne_nil _ _) (not_or_intro (not_not_intro hleads) (not_late_kept hk))
        · have hglued : Glued gap keep (c :: l) ↔ Late gap keep l ∨ Glued gap keep l :=
            glued_cons.trans (or_congr_left (and_iff_right ⟨hk, hc⟩))
          rw [hkept, hnoticed, flush_cons, flush_cons, hsplit, hglued, not_or, ← ih.same]
          have hfirst := ih.leads
          have hfirst' := ih.late
          by_cases hlate : Late gap keep l
          · -- the scan that lost the gap goes on with a word, the other one begins it anew
            have hopen : (scan (kept gap keep) l).1 ≠ [] := fun h => (hfirst.mp h) hlate.leads
            have hclosed : (scan (noticed gap keep) l).1 = [] := hfirst'.mpr (.inr hlate)
            refine iff_of_false (fun h => ?_) (fun h => h.1 hlate)
            exact hopen (h.1.trans hclosed)
          · have hsame : (scan (kept gap keep) l).1 = [] ↔ (scan (noticed gap keep) l).1 = [] := by
              rw [hfirst, hfirst', or_iff_left hlate]
            rw [and_iff_right hlate]
            exact same_flush hsame

/-- **Filtering first glues two words together where a gap between them is not kept, and only there.** -/
theorem words_filter_eq_iff (gap keep : α → Bool) (l : List α) :
    words gap (l.filter keep) = clean keep (words gap l) ↔ ¬ Glued gap keep l := by
  rw [words_filter, clean_words]
  exact (compared gap keep l).same

end

end Words
