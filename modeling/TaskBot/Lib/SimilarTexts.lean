import Mathlib.Data.List.Forall2
import TaskBot.Lib.Regex

/-!
# Matching similar texts

Two texts are similar when a relation on characters holds place by place.  A pattern whose
character classes do not tell related characters apart matches similar texts at the same places and
takes similar groups (`find_similar`).
-/

namespace Regex

open List (Forall₂)

/-! ## Similar matches -/

section

variable (R : Char → Char → Prop)

structure Taken.Similar (m m' : Taken) : Prop where
  text : Forall₂ R m.text m'.text
  groups : Forall₂ (fun g g' => g.1 = g'.1 ∧ Forall₂ R g.2 g'.2) m.groups m'.groups

structure Pattern.Found.Similar (f f' : Pattern.Found) : Prop where
  taken : f.taken.Similar R f'.taken
  skipped : Forall₂ R f.skipped f'.skipped

/-- The class does not tell related characters apart. -/
def Blind (p : Char → Bool) : Prop := ∀ c d, R c d → p c = p d

/-- No class of the pattern does. -/
def Pattern.Blind : Pattern → Prop
  | empty | start | boundary => True
  | char p | run p _ _ => Regex.Blind R p
  | seq a b | alt a b => Blind a ∧ Blind b
  | optional a | group _ a => Blind a

/-- The places before and after which the patterns look alike. -/
structure SamePlace (isWord : Char → Bool) (prev prev' : Option Char) : Prop where
  isNone : prev.isNone = prev'.isNone
  word : prev.any isWord = prev'.any isWord

end

variable {R : Char → Char → Prop} {isWord : Char → Bool}

namespace Taken.Similar

variable {m m' n n' : Taken}

theorem nothing : Taken.nothing.Similar R Taken.nothing := ⟨.nil, .nil⟩

theorem append (h : m.Similar R m') (hn : n.Similar R n') : (m.append n).Similar R (m'.append n') :=
  ⟨List.rel_append h.text hn.text, List.rel_append h.groups hn.groups⟩

theorem named (h : m.Similar R m') (name : String) : (m.named name).Similar R (m'.named name) :=
  ⟨h.text, .cons ⟨rfl, h.text⟩ h.groups⟩

/-- The groups of a name are similar. -/
theorem group (h : m.Similar R m') (name : String) : Option.Rel (Forall₂ R) (m.group name) (m'.group name) := by
  obtain ⟨-, hgroups⟩ := h
  unfold Taken.group
  generalize m.groups = groups at hgroups
  generalize m'.groups = groups' at hgroups
  induction hgroups with
  | nil => exact .none
  | @cons g g' _ _ hg _ ih =>
    obtain ⟨key, value⟩ := g
    obtain ⟨key', value'⟩ := g'
    obtain ⟨rfl, hvalue⟩ := hg
    rw [List.lookup_cons, List.lookup_cons]
    cases name == key with
    | true => exact .some hvalue
    | false => exact ih

end Taken.Similar

theorem before_similar {prev prev' : Option Char} (hword : Blind R isWord) (h : SamePlace isWord prev prev')
    {x x' : List Char} (hx : Forall₂ R x x') : SamePlace isWord (before prev x) (before prev' x') := by
  induction hx generalizing prev prev' with
  | nil => exact h
  | cons hc _ ih =>
    rw [before_cons, before_cons]
    exact ih ⟨rfl, hword _ _ hc⟩

theorem takeWhile_similar {p : Char → Bool} (hp : Blind R p) {s s' : List Char} (hs : Forall₂ R s s') :
    Forall₂ R (s.takeWhile p) (s'.takeWhile p) := by
  induction hs with
  | nil => exact .nil
  | cons hc _ ih =>
    rw [List.takeWhile, List.takeWhile, hp _ _ hc]
    split
    · exact .cons hc ih
    · exact .nil

namespace Pattern

theorem ends_similar {p : Pattern} (hp : p.Blind R) (hword : Regex.Blind R isWord) {prev prev' : Option Char}
    (h : SamePlace isWord prev prev') {s s' : List Char} (hs : Forall₂ R s s') :
    Forall₂ (Taken.Similar R) (ends isWord p prev s) (ends isWord p prev' s') := by
  induction p generalizing prev prev' s s' with
  | empty => exact .cons .nothing .nil
  | start =>
    rw [ends, ends, h.isNone]
    split
    · exact .cons .nothing .nil
    · exact .nil
  | boundary =>
    have hhead : s.head?.any isWord = s'.head?.any isWord := by
      cases hs with
      | nil => rfl
      | cons hc _ => exact hword _ _ hc
    rw [ends, ends, h.word, hhead]
    split
    · exact .nil
    · exact .cons .nothing .nil
  | char p =>
    cases hs with
    | nil => exact .nil
    | cons hc _ =>
      rw [ends, ends, hp _ _ hc]
      split
      · exact .cons ⟨.cons hc .nil, .nil⟩ .nil
      · exact .nil
  | run p least most =>
    have hlongest : Forall₂ R ((s.takeWhile p).take (most.getD s.length)) ((s'.takeWhile p).take (most.getD s'.length)) := by
      rw [hs.length_eq]
      exact List.forall₂_take _ (takeWhile_similar hp hs)
    rw [ends, ends]
    simp only [hlongest.length_eq]
    refine List.rel_map ?_ (List.forall₂_same.mpr fun k _ => Eq.refl k)
    rintro k _ rfl
    exact ⟨List.forall₂_take _ hlongest, .nil⟩
  | seq a b iha ihb =>
    rw [ends, ends]
    refine List.rel_flatMap (iha hp.1 h hs) ?_
    intro m m' hm
    refine List.rel_map (fun n n' hn => hm.append hn) ?_
    rw [hm.text.length_eq]
    exact ihb hp.2 (before_similar hword h hm.text) (List.forall₂_drop _ hs)
  | alt a b iha ihb => exact List.rel_append (iha hp.1 h hs) (ihb hp.2 h hs)
  | optional a ih => exact List.rel_append (ih hp h hs) (.cons .nothing .nil)
  | group name a ih => exact List.rel_map (fun m m' hm => hm.named name) (ih hp h hs)

theorem head_similar {l l' : List Taken} (h : Forall₂ (Taken.Similar R) l l') :
    Option.Rel (Taken.Similar R) l.head? l'.head? := by
  cases h with
  | nil => exact .none
  | cons hm _ => exact .some hm

/-- **Similar texts are matched at the same place.** -/
theorem find_similar {p : Pattern} (hp : p.Blind R) (hword : Regex.Blind R isWord) {prev prev' : Option Char}
    (h : SamePlace isWord prev prev') {s s' : List Char} (hs : Forall₂ R s s') :
    Option.Rel (Found.Similar R) (find isWord p prev s) (find isWord p prev' s') := by
  induction hs generalizing prev prev' with
  | nil =>
    rw [find, find]
    have hhead := head_similar (ends_similar hp hword h .nil)
    generalize (ends isWord p prev []).head? = o at hhead
    generalize (ends isWord p prev' []).head? = o' at hhead
    cases hhead with
    | none => exact .none
    | some hm => exact .some ⟨hm, .nil⟩
  | @cons c c' cs cs' hc hs ih =>
    rw [find, find]
    have hhead := head_similar (ends_similar hp hword h (.cons hc hs))
    generalize (ends isWord p prev (c :: cs)).head? = o at hhead
    generalize (ends isWord p prev' (c' :: cs')).head? = o' at hhead
    cases hhead with
    | some hm => exact .some ⟨hm, .nil⟩
    | none =>
      have hrest := @ih (some c) (some c') ⟨rfl, hword _ _ hc⟩
      generalize find isWord p (some c) cs = f at hrest
      generalize find isWord p (some c') cs' = f' at hrest
      cases hrest with
      | none => exact .none
      | some hf => exact .some ⟨hf.taken, .cons hc hf.skipped⟩

end Pattern

end Regex
