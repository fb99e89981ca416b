import TaskBot.Domain.Base

/-!
# Voice transcripts

What a speech service answers is normalised before anything else sees it: control
characters are dropped (line breaks count as blanks), runs of blanks collapse to
one space, and a long text is cut at the last end of a sentence or the last blank
within 160 bytes of the budget.
-/

namespace TaskBot

def maxTranscriptLength : Nat := 6000

structure NormalizedTranscript where
  text : String
  originalLength : Nat
  truncated : Bool
deriving DecidableEq, Repr

namespace NormalizedTranscript

/-- The loop of `normalise_whitespace`; the flag says that a blank would repeat the last one. -/
def collapse : Bool → List Char → List Char
  | _, [] => []
  | prevSpace, c :: cs =>
      if isControl c ∧ c ≠ '\n' ∧ c ≠ '\r' then collapse prevSpace cs
      else if isWhitespace c then
        if prevSpace then collapse true cs else ' ' :: collapse true cs
      else c :: collapse false cs

def normaliseWhitespace (raw : String) : String := trim (String.ofList (collapse true raw.toList))

/-- `char_indices`: every character with the byte it starts at, from `start` on. -/
def charIndices (start : Nat) : List Char → List (Nat × Char)
  | [] => []
  | c :: cs => (start, c) :: charIndices (start + c.utf8Size) cs

/-- `len` of a text in bytes. -/
def byteLength (cs : List Char) : Nat := (cs.map Char.utf8Size).sum

/-- `text[..byteEnd]` for a byte at which a character starts. -/
def slicePrefix (byteEnd : Nat) (cs : List Char) : List Char :=
  ((charIndices 0 cs).takeWhile fun p => p.1 < byteEnd).map Prod.snd

def trimEnd (cs : List Char) : List Char := (cs.reverse.dropWhile isWhitespace).reverse

def isSentenceEnd (c : Char) : Bool := c = '.' ∨ c = '!' ∨ c = '?'

/-- The byte a long text is cut at: behind the last sentence end, or else at the last blank,
of the last 160 bytes of the window; without either, at its end. -/
def breakpoint (window : List Char) : Nat :=
  let backoffLimit := byteLength window - 160
  let indices := (charIndices 0 window).reverse
  match indices.find? fun p => backoffLimit ≤ p.1 ∧ isSentenceEnd p.2 with
  | some p => p.1 + p.2.utf8Size
  | none =>
      match indices.find? fun p => backoffLimit ≤ p.1 ∧ isWhitespace p.2 with
      | some p => p.1
      | none => byteLength window

def clipToBudget (text : String) (maxChars : Nat) : String × Bool :=
  if charsCount text ≤ maxChars then (text, false)
  else
    let clipped := trimEnd (slicePrefix (breakpoint (text.toList.take maxChars)) text.toList)
    (String.ofList (clipped ++ ['…']), true)

def fromRaw (raw : String) : AppResult NormalizedTranscript :=
  let normalised := normaliseWhitespace raw
  if normalised.isEmpty then
    .error (.businessRule "TRANSCRIPTION_EMPTY" "Voice message could not be transcribed into text" [])
  else
    let clipped := clipToBudget normalised maxTranscriptLength
    .ok ⟨clipped.1, charsCount normalised, clipped.2⟩

/-- A text within the budget is taken as it is. -/
theorem clipToBudget_of_le {text : String} {maxChars : Nat} (h : charsCount text ≤ maxChars) :
    clipToBudget text maxChars = (text, false) := if_pos h

/-- What is cut off ends in an ellipsis. -/
theorem clipToBudget_isEmpty {text : String} (maxChars : Nat) (h : text.isEmpty = false) :
    (clipToBudget text maxChars).1.isEmpty = false := by
  unfold clipToBudget
  split
  · exact h
  · refine Bool.eq_false_iff.mpr fun he => ?_
    have hnil := congrArg String.toList (String.isEmpty_iff.mp he)
    rw [String.toList_ofList] at hnil
    exact List.append_ne_nil_of_right_ne_nil _ (List.cons_ne_nil _ _) hnil

/-- **An accepted transcript is never empty.** -/
theorem fromRaw_ok {raw : String} {transcript : NormalizedTranscript} (h : fromRaw raw = .ok transcript) :
    transcript.text.isEmpty = false := by
  unfold fromRaw at h
  simp only at h
  split at h
  · cases h
  · next hne =>
    have htext := congrArg NormalizedTranscript.text (Except.ok.inj h)
    simp only at htext
    rw [← htext]
    exact clipToBudget_isEmpty maxTranscriptLength (Bool.eq_false_iff.mpr hne)

example : normaliseWhitespace "  Сдать  отчёт\n\nк пятнице   " = "Сдать отчёт к пятнице" := by decide

end NormalizedTranscript

end TaskBot
