import TaskBot.Domain.NormalizedText
import TaskBot.Domain.VoiceTranscript
import TaskBot.Lib.Words

/-!
# The words of a transcript

The normalised transcript is the words of what is kept of it, with single spaces between them
(`toList_normaliseWhitespace`).  A tab is a control character and is dropped, so the words beside it
are glued together unless something else keeps them apart (`normalised_words_iff`).
-/

namespace TaskBot

open Words
open Parsing (splitWhitespace)

namespace NormalizedTranscript

/-- A control character that is no line break. -/
def isDropped (c : Char) : Bool := isControl c && c != '\n' && c != '\r'

def isKept (c : Char) : Bool := !isDropped c

theorem collapse_dropped {c : Char} (h : isKept c = false) (prevSpace : Bool) (cs : List Char) :
    collapse prevSpace (c :: cs) = collapse prevSpace cs := by
  rw [collapse, if_pos]
  simpa [isKept, isDropped, and_assoc] using h

theorem collapse_kept {c : Char} (h : isKept c = true) (prevSpace : Bool) (cs : List Char) :
    collapse prevSpace (c :: cs) =
      if isWhitespace c then if prevSpace then collapse true cs else ' ' :: collapse true cs
      else c :: collapse false cs := by
  rw [collapse, if_neg]
  intro hdropped
  have hnot : isDropped c = true := by simp [isDropped, hdropped]
  rw [isKept, hnot] at h
  cases h

/-! ## The loop -/

/-- The blank that is left behind the last word. -/
def Trail (ws : List (List Char)) (tail : List Char) : Prop := tail = [] ∨ tail = [' '] ∧ ws ≠ []

/-- What follows a word. -/
def Follows (ws : List (List Char)) (rest : List Char) : Prop :=
  rest = [] ∧ ws = [] ∨ ∃ tail, rest = ' ' :: ([' '].intercalate ws ++ tail) ∧ Trail ws tail

theorem Follows.trail {w : List Char} {ws : List (List Char)} {rest : List Char} (h : Follows ws rest) :
    ∃ tail, w ++ rest = [' '].intercalate (w :: ws) ++ tail ∧ Trail (w :: ws) tail := by
  rcases h with ⟨rfl, rfl⟩ | ⟨tail, rfl, htail⟩
  · exact ⟨[], by rw [List.intercalate_singleton], .inl rfl⟩
  · cases ws with
    | nil =>
      obtain rfl : tail = [] := htail.resolve_right fun h => h.2 rfl
      exact ⟨[' '], by rw [List.intercalate_singleton]; rfl, .inr ⟨rfl, List.cons_ne_nil _ _⟩⟩
    | cons v ws =>
      refine ⟨tail, ?_, htail.imp_right fun h => ⟨h.1, List.cons_ne_nil _ _⟩⟩
      rw [List.intercalate_cons_cons, List.append_assoc, List.append_assoc]
      rfl

/-- What the loop writes behind a blank, and in a word. -/
theorem collapse_eq (cs : List Char) :
    (∃ tail, collapse true cs = [' '].intercalate (flush (scan (plain isWhitespace) (cs.filter isKept))) ++ tail ∧
      Trail (flush (scan (plain isWhitespace) (cs.filter isKept))) tail) ∧
    ∃ rest, collapse false cs = (scan (plain isWhitespace) (cs.filter isKept)).1 ++ rest ∧
      Follows (scan (plain isWhitespace) (cs.filter isKept)).2 rest := by
  induction cs with
  | nil => exact ⟨⟨[], rfl, .inl rfl⟩, [], rfl, .inl ⟨rfl, rfl⟩⟩
  | cons c cs ih =>
    cases hkept : isKept c with
    | false =>
      rw [List.filter_cons_of_neg (by rw [hkept]; decide), collapse_dropped hkept, collapse_dropped hkept]
      exact ih
    | true =>
      rw [List.filter_cons_of_pos hkept, collapse_kept hkept, collapse_kept hkept]
      obtain ⟨⟨tail, hblank, htail⟩, rest, hword, hrest⟩ := ih
      cases hc : isWhitespace c with
      | true =>
        rw [scan_gap (by rw [plain, hc]; rfl), flush_nil]
        exact ⟨⟨tail, hblank, htail⟩, ' ' :: collapse true cs, rfl, .inr ⟨tail, by rw [hblank], htail⟩⟩
      | false =>
        rw [scan_letter (by rw [plain, hc]; rfl), flush_cons]
        refine ⟨?_, rest, ?_, hrest⟩
        · obtain ⟨tail, hjoined, htail⟩ := hrest.trail (w := c :: (scan (plain isWhitespace) (cs.filter isKept)).1)
          exact ⟨tail, by rw [← hjoined]; exact congrArg (c :: ·) hword, htail⟩
        · exact congrArg (c :: ·) hword

/-- **A normalised transcript is its kept words with single spaces between them.** -/
theorem toList_normaliseWhitespace (raw : String) : (normaliseWhitespace raw).toList =
    [' '].intercalate (words isWhitespace (raw.toList.filter isKept)) := by
  have hproper := proper_words isWhitespace (raw.toList.filter isKept)
  have hspaced := singleSpaced_intercalate isWhitespace_space hproper
  obtain ⟨⟨tail, hblank, htail⟩, -⟩ := collapse_eq raw.toList
  rw [← words_eq] at hblank htail
  unfold normaliseWhitespace
  rw [Parsing.toList_trim, String.toList_ofList, hblank]
  generalize words isWhitespace (raw.toList.filter isKept) = ws at htail hspaced hproper
  have htrimmed : Parsing.Trimmed ([' '].intercalate ws) := ⟨hspaced.head, hspaced.last⟩
  rcases htail with rfl | ⟨rfl, -⟩
  · rw [List.append_nil]
    exact Parsing.trimChars_of_trimmed htrimmed
  · have htrail : ∀ c ∈ [' '], isWhitespace c = true := fun c hc => List.mem_singleton.mp hc ▸ isWhitespace_space
    have hlead : ∀ c ∈ ([] : List Char), isWhitespace c = true := fun _ h => absurd h List.not_mem_nil
    exact Parsing.trimChars_between hlead htrail htrimmed

/-! ## The words -/

/-- In a word nothing but control characters is dropped. -/
theorem isKept_eq {c : Char} (hc : isWhitespace c = false) : isKept c = !isControl c := by
  have hbreak : (c == '\n') = false ∧ (c == '\r') = false := by
    constructor <;>
    · refine beq_eq_false_iff_ne.mpr ?_
      rintro rfl
      exact absurd hc (by decide)
  simp [isKept, isDropped, bne, hbreak.1, hbreak.2]

theorem clean_control (s : String) :
    clean (fun c => !isControl c) (splitWhitespace s) = clean isKept (words isWhitespace s.toList) := by
  have hproper := proper_words isWhitespace s.toList
  show clean _ (words isWhitespace s.toList) = _
  unfold clean
  congr 1
  refine List.map_congr_left fun w hw => List.filter_congr fun c hc => ?_
  rw [isKept_eq ((hproper w hw).2 c hc)]

theorem splitWhitespace_normalise (s : String) :
    splitWhitespace (normaliseWhitespace s) = words isWhitespace (s.toList.filter isKept) := by
  show words isWhitespace (normaliseWhitespace s).toList = _
  rw [toList_normaliseWhitespace]
  exact words_intercalate isWhitespace_space (proper_words _ _)

/-- Nothing that is dropped is left. -/
theorem filter_normalise (s : String) : (normaliseWhitespace s).toList.filter isKept = (normaliseWhitespace s).toList := by
  rw [toList_normaliseWhitespace]
  exact filter_intercalate_words (by decide) s.toList

theorem singleSpaced_normalise (s : String) : SingleSpaced isWhitespace ' ' (normaliseWhitespace s).toList := by
  rw [toList_normaliseWhitespace]
  exact singleSpaced_intercalate isWhitespace_space (proper_words _ _)

theorem normaliseWhitespace_twice (s : String) :
    normaliseWhitespace (normaliseWhitespace s) = normaliseWhitespace s := by
  refine String.toList_injective ?_
  rw [toList_normaliseWhitespace, filter_normalise]
  show [' '].intercalate (splitWhitespace (normaliseWhitespace s)) = _
  rw [splitWhitespace_normalise, toList_normaliseWhitespace]

/-- **The words are those of the transcript, without their control characters, unless two of them stood
with a dropped blank between them and no other.** -/
theorem normalised_words_iff (s : String) :
    (splitWhitespace (normaliseWhitespace s) = clean (fun c => !isControl c) (splitWhitespace s) ∧
        SingleSpaced isWhitespace ' ' (normaliseWhitespace s).toList ∧
        normaliseWhitespace (normaliseWhitespace s) = normaliseWhitespace s) ↔
      ¬ Glued isWhitespace isKept s.toList := by
  rw [splitWhitespace_normalise, clean_control, words_filter_eq_iff]
  exact and_iff_left ⟨singleSpaced_normalise s, normaliseWhitespace_twice s⟩

end NormalizedTranscript

open NormalizedTranscript

theorem tab_glues_words : ¬ ∀ s : String,
    splitWhitespace (normaliseWhitespace s) = clean (fun c => !isControl c) (splitWhitespace s) ∧
      SingleSpaced isWhitespace ' ' (normaliseWhitespace s).toList ∧
      normaliseWhitespace (normaliseWhitespace s) = normaliseWhitespace s := by
  intro h
  have hwords := (h "Сдать\tотчёт").1
  revert hwords
  decide

end TaskBot
