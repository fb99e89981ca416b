import Mathlib.Data.List.Basic
import Mathlib.Data.List.TakeWhile

/-!
# Regular expressions, the leftmost match first

A pattern lists what it can take at a place, the preferred way first (`ends`), as a backtracking
matcher tries it.  A search takes the first way of the first place that has one (`find`).

    find p prev (x ++ y)  =  find p … y, with x before it       when no match starts in x
                                                              (find_append)

What is a word character is left open (`isWord`); only `boundary` asks for it.
-/

namespace Regex

/-- What has been taken, and the groups in it. -/
structure Taken where
  text : List Char
  groups : List (String × List Char)
deriving DecidableEq, Repr

namespace Taken

def nothing : Taken := ⟨[], []⟩

def append (m m' : Taken) : Taken := ⟨m.text ++ m'.text, m.groups ++ m'.groups⟩

def named (name : String) (m : Taken) : Taken := ⟨m.text, (name, m.text) :: m.groups⟩

/-- The text of a group. -/
def group (m : Taken) (name : String) : Option (List Char) := m.groups.lookup name

end Taken

inductive Pattern where
  | empty
  /-- The start of the text. -/
  | start
  /-- A word begins or ends here. -/
  | boundary
  | char (p : Char → Bool)
  /-- As many as possible, not fewer than `least` and not more than `most`. -/
  | run (p : Char → Bool) (least : Nat) (most : Option Nat)
  | seq (a b : Pattern)
  | alt (a b : Pattern)
  | optional (a : Pattern)
  | group (name : String) (a : Pattern)

/-- The character before the place, once `text` has been taken. -/
def before (prev : Option Char) (text : List Char) : Option Char := text.getLast?.or prev

@[simp] theorem before_nil (prev : Option Char) : before prev [] = prev := rfl

theorem before_append (prev : Option Char) (x y : List Char) :
    before prev (x ++ y) = before (before prev x) y := by
  unfold before
  rw [List.getLast?_append, Option.or_assoc]

theorem before_cons (prev : Option Char) (c : Char) (x : List Char) : before prev (c :: x) = before (some c) x :=
  before_append prev [c] x

namespace Pattern

def literal (same : Char → Char → Bool) : List Char → Pattern
  | [] => empty
  | c :: cs => seq (char (same c)) (literal same cs)

def oneOf : List Pattern → Pattern
  | [] => char fun _ => false
  | [p] => p
  | p :: ps => alt p (oneOf ps)

section

variable (isWord : Char → Bool)

/-- The ways to match at a place, the preferred one first. -/
def ends : Pattern → Option Char → List Char → List Taken
  | empty, _, _ => [.nothing]
  | start, prev, _ => if prev.isNone then [.nothing] else []
  | boundary, prev, s => if prev.any isWord = s.head?.any isWord then [] else [.nothing]
  | char _, _, [] => []
  | char p, _, c :: _ => if p c then [⟨[c], []⟩] else []
  | run p least most, _, s =>
      let longest := (s.takeWhile p).take (most.getD s.length)
      (List.range (longest.length + 1 - least)).map fun k => ⟨longest.take (longest.length - k), []⟩
  | seq a b, prev, s => (ends a prev s).flatMap fun m =>
      (ends b (before prev m.text) (s.drop m.text.length)).map m.append
  | alt a b, prev, s => ends a prev s ++ ends b prev s
  | optional a, prev, s => ends a prev s ++ [.nothing]
  | group name a, prev, s => (ends a prev s).map (Taken.named name)

/-- A match in a text. -/
structure Found where
  taken : Taken
  skipped : List Char
deriving DecidableEq, Repr

def Found.after (x : List Char) (f : Found) : Found := ⟨f.taken, x ++ f.skipped⟩

/-- The leftmost match. -/
def find (p : Pattern) : Option Char → List Char → Option Found
  | prev, [] => (ends isWord p prev []).head?.map fun m => ⟨m, []⟩
  | prev, c :: cs =>
      match (ends isWord p prev (c :: cs)).head? with
      | some m => some ⟨m, []⟩
      | none => (find p (some c) cs).map (Found.after [c])

/-- No match starts in `x`, when `y` follows it. -/
def clear (p : Pattern) : Option Char → List Char → List Char → Bool
  | _, [], _ => true
  | prev, c :: x, y => (ends isWord p prev (c :: x ++ y)).isEmpty && clear p (some c) x y

/-- No match takes the character. -/
def avoids (c : Char) : Pattern → Bool
  | empty | start | boundary => true
  | char p | run p _ _ => !p c
  | seq a b | alt a b => a.avoids c && b.avoids c
  | optional a | group _ a => a.avoids c

/-- Nothing in the pattern is a group. -/
def groupless : Pattern → Bool
  | empty | start | boundary | char _ | run _ _ _ => true
  | seq a b | alt a b => a.groupless && b.groupless
  | optional a => a.groupless
  | group _ _ => false

variable {isWord}

/-! ## Searching in two parts -/

theorem find_append {p : Pattern} {prev : Option Char} {x y : List Char}
    (h : clear isWord p prev x y = true) :
    find isWord p prev (x ++ y) = (find isWord p (before prev x) y).map (Found.after x) := by
  induction x generalizing prev with
  | nil =>
    rw [List.nil_append, before_nil]
    cases find isWord p prev y <;> rfl
  | cons c x ih =>
    obtain ⟨hnone, hrest⟩ := Bool.and_eq_true_iff.mp h
    have hends : ends isWord p prev (c :: (x ++ y)) = [] := List.isEmpty_iff.mp hnone
    rw [List.cons_append, find, hends, ih hrest, before_cons, Option.map_map]
    cases find isWord p (before (some c) x) y <;> rfl

/-! ## What is taken -/

theorem mem_run {p : Char → Bool} {least : Nat} {most : Option Nat} {prev : Option Char} {s : List Char} {m : Taken}
    (h : m ∈ ends isWord (run p least most) prev s) :
    m.text <+: s.takeWhile p ∧ least ≤ m.text.length ∧ m.groups = [] := by
  unfold ends at h
  simp only [List.mem_map, List.mem_range] at h
  obtain ⟨k, hk, rfl⟩ := h
  refine ⟨(List.take_prefix _ _).trans (List.take_prefix _ _), ?_, rfl⟩
  rw [List.length_take]
  omega

theorem mem_seq {a b : Pattern} {prev : Option Char} {s : List Char} {m : Taken} (h : m ∈ ends isWord (seq a b) prev s) :
    ∃ ma ∈ ends isWord a prev s, ∃ mb ∈ ends isWord b (before prev ma.text) (s.drop ma.text.length),
      m = ma.append mb := by
  obtain ⟨ma, hma, h⟩ := List.mem_flatMap.mp h
  obtain ⟨mb, hmb, rfl⟩ := List.mem_map.mp h
  exact ⟨ma, hma, mb, hmb, rfl⟩

theorem text_prefix {p : Pattern} {prev : Option Char} {s : List Char} {m : Taken} (h : m ∈ ends isWord p prev s) :
    m.text <+: s := by
  induction p generalizing prev s m with
  | empty =>
    rw [List.mem_singleton.mp h]
    exact List.nil_prefix
  | start =>
    unfold ends at h
    split at h
    · rw [List.mem_singleton.mp h]
      exact List.nil_prefix
    · cases h
  | boundary =>
    unfold ends at h
    split at h
    · cases h
    · rw [List.mem_singleton.mp h]
      exact List.nil_prefix
  | char p =>
    cases s with
    | nil => cases h
    | cons c s =>
      unfold ends at h
      split at h
      · rw [List.mem_singleton.mp h]
        exact ⟨s, rfl⟩
      · cases h
  | run p least most => exact (mem_run h).1.trans (List.takeWhile_prefix p)
  | seq a b iha ihb =>
    obtain ⟨ma, hma, mb, hmb, rfl⟩ := mem_seq h
    obtain ⟨rest, hrest⟩ := iha hma
    have hb := ihb hmb
    rw [← hrest, List.drop_left] at hb
    rw [← hrest]
    exact (List.prefix_append_right_inj _).mpr hb
  | alt a b iha ihb =>
    rcases List.mem_append.mp h with h | h
    · exact iha h
    · exact ihb h
  | optional a ih =>
    rcases List.mem_append.mp h with h | h
    · exact ih h
    · rw [List.mem_singleton.mp h]
      exact List.nil_prefix
  | group name a ih =>
    obtain ⟨ma, hma, rfl⟩ := List.mem_map.mp h
    exact ih (m := ma) hma

theorem not_mem_of_avoids {c : Char} {p : Pattern} (hp : p.avoids c = true) {prev : Option Char} {s : List Char}
    {m : Taken} (h : m ∈ ends isWord p prev s) : c ∉ m.text := by
  have hnil : ∀ {m : Taken}, m ∈ [Taken.nothing] → c ∉ m.text := by
    intro m hm
    rw [List.mem_singleton.mp hm]
    exact List.not_mem_nil
  induction p generalizing prev s m with
  | empty => exact hnil h
  | start =>
    unfold ends at h
    split at h
    · exact hnil h
    · cases h
  | boundary =>
    unfold ends at h
    split at h
    · cases h
    · exact hnil h
  | char p =>
    cases s with
    | nil => cases h
    | cons d s =>
      unfold ends at h
      split at h
      · next hd =>
        rw [List.mem_singleton.mp h]
        intro hc
        rw [List.mem_singleton.mp hc] at hp
        rw [avoids, hd] at hp
        cases hp
      · cases h
  | run p least most =>
    intro hc
    have hpc := List.mem_takeWhile_imp ((mem_run h).1.subset hc)
    rw [avoids, hpc] at hp
    cases hp
  | seq a b iha ihb =>
    obtain ⟨ha, hb⟩ := Bool.and_eq_true_iff.mp hp
    obtain ⟨ma, hma, mb, hmb, rfl⟩ := mem_seq h
    intro hc
    rcases List.mem_append.mp hc with hc | hc
    · exact iha ha hma hc
    · exact ihb hb hmb hc
  | alt a b iha ihb =>
    obtain ⟨ha, hb⟩ := Bool.and_eq_true_iff.mp hp
    rcases List.mem_append.mp h with h | h
    · exact iha ha h
    · exact ihb hb h
  | optional a ih =>
    rcases List.mem_append.mp h with h | h
    · exact ih hp h
    · exact hnil h
  | group name a ih =>
    obtain ⟨ma, hma, rfl⟩ := List.mem_map.mp h
    exact ih (m := ma) hp hma

theorem groups_eq_nil {p : Pattern} (hp : p.groupless = true) {prev : Option Char} {s : List Char} {m : Taken}
    (h : m ∈ ends isWord p prev s) : m.groups = [] := by
  have hnil : ∀ {m : Taken}, m ∈ [Taken.nothing] → m.groups = [] := by
    intro m hm
    rw [List.mem_singleton.mp hm]
    rfl
  induction p generalizing prev s m with
  | empty => exact hnil h
  | start =>
    unfold ends at h
    split at h
    · exact hnil h
    · cases h
  | boundary =>
    unfold ends at h
    split at h
    · cases h
    · exact hnil h
  | char p =>
    cases s with
    | nil => cases h
    | cons c s =>
      unfold ends at h
      split at h
      · rw [List.mem_singleton.mp h]
      · cases h
  | run p least most => exact (mem_run h).2.2
  | seq a b iha ihb =>
    obtain ⟨ha, hb⟩ := Bool.and_eq_true_iff.mp hp
    obtain ⟨ma, hma, mb, hmb, rfl⟩ := mem_seq h
    unfold Taken.append
    rw [iha ha hma, ihb hb hmb]
    rfl
  | alt a b iha ihb =>
    obtain ⟨ha, hb⟩ := Bool.and_eq_true_iff.mp hp
    rcases List.mem_append.mp h with h | h
    · exact iha ha h
    · exact ihb hb h
  | optional a ih =>
    rcases List.mem_append.mp h with h | h
    · exact ih hp h
    · exact hnil h
  | group name a => cases hp

end

end Pattern

end Regex
