import Mathlib.Data.List.Forall2
import TaskBot.Lib.Regex

/-!
# The texts of a pattern

A match spells its text, whatever stands around it (`Spells`).  A pattern that looks around at its
end only takes each of its texts wherever a word ends with it or a word begins behind it:

    m ∈ ends p prev s  →  Spells p m.text                                  (spells_of_mem)
    Spells p t  →  ∃ m ∈ ends p prev (t ++ rest), m.text = t          (exists_of_spells)

No match starts before the leftmost one (`find_spec`).
-/

namespace Regex

namespace Pattern

/-- The texts the pattern takes, wherever its boundaries are. -/
def Spells : Pattern → List Char → Prop
  | empty, t | start, t | boundary, t => t = []
  | char p, t => ∃ c, p c = true ∧ t = [c]
  | run p least most, t => (∀ c ∈ t, p c = true) ∧ least ≤ t.length ∧ ∀ n ∈ most, t.length ≤ n
  | seq a b, t => ∃ x y, t = x ++ y ∧ Spells a x ∧ Spells b y
  | alt a b, t => Spells a t ∨ Spells b t
  | optional a, t => Spells a t ∨ t = []
  | group _ a, t => Spells a t

/-- The pattern does not look around. -/
def free : Pattern → Bool
  | start | boundary => false
  | empty | char _ | run _ _ _ => true
  | seq a b | alt a b => a.free && b.free
  | optional a | group _ a => a.free

/-- The pattern looks around at its end at most. -/
def closed : Pattern → Bool
  | boundary => true
  | seq a b => a.free && b.closed
  | p => p.free

/-- Every character that the pattern takes is of the kind. -/
def Over (q : Char → Prop) : Pattern → Prop
  | empty | start | boundary => True
  | char p | run p _ _ => ∀ c, p c = true → q c
  | seq a b | alt a b => a.Over q ∧ b.Over q
  | optional a | group _ a => a.Over q

section

variable {isWord : Char → Bool} {q : Char → Prop} {p : Pattern} {prev : Option Char} {s t : List Char} {m : Taken}

/-! ## Matches and texts -/

theorem spells_of_mem (h : m ∈ ends isWord p prev s) : Spells p m.text := by
  have hnil : ∀ {m : Taken}, m ∈ [Taken.nothing] → m.text = [] := by
    intro m hm
    rw [List.mem_singleton.mp hm]
    rfl
  induction p generalizing prev s m with
  | empty => exact hnil h
  | start =>
    unfold ends at h
    split at h
    · exact hnil h
    · cases h
  | boundary =>
    unfold ends at h
    split at h
    · cases h
    · exact hnil h
  | char p =>
    cases s with
    | nil => cases h
    | cons c s =>
      unfold ends at h
      split at h
      · next hc => exact ⟨c, hc, congrArg Taken.text (List.mem_singleton.mp h)⟩
      · cases h
  | run p least most =>
    obtain ⟨hlongest, hleast, -⟩ := mem_run h
    refine ⟨fun c hc => List.mem_takeWhile_imp (hlongest.subset hc), hleast, fun n hn => ?_⟩
    unfold ends at h
    obtain ⟨k, -, rfl⟩ := List.mem_map.mp h
    rw [Option.mem_def.mp hn]
    simp only [List.length_take, Option.getD_some]
    omega
  | seq a b iha ihb =>
    obtain ⟨ma, hma, mb, hmb, rfl⟩ := mem_seq h
    exact ⟨ma.text, mb.text, rfl, iha hma, ihb hmb⟩
  | alt a b iha ihb => exact (List.mem_append.mp h).imp iha ihb
  | optional a ih => exact (List.mem_append.mp h).imp ih hnil
  | group name a ih =>
    obtain ⟨ma, hma, rfl⟩ := List.mem_map.mp h
    exact ih (m := ma) hma

theorem Over.forall_mem (hp : p.Over q) (h : Spells p t) : ∀ c ∈ t, q c := by
  induction p generalizing t with
  | empty | start | boundary =>
    rw [show t = [] from h]
    exact fun _ hc => nomatch hc
  | char p =>
    obtain ⟨c, hc, rfl⟩ := h
    intro d hd
    rw [List.mem_singleton.mp hd]
    exact hp c hc
  | run p least most => exact fun c hc => hp c (h.1 c hc)
  | seq a b iha ihb =>
    obtain ⟨x, y, rfl, hx, hy⟩ := h
    exact fun c hc => (List.mem_append.mp hc).elim (iha hp.1 hx c) (ihb hp.2 hy c)
  | alt a b iha ihb => exact h.elim (iha hp.1) (ihb hp.2)
  | optional a ih =>
    rcases h with h | rfl
    · exact ih hp h
    · exact fun _ hc => nomatch hc
  | group name a ih => exact ih hp h

theorem over_literal {same : Char → Char → Bool} {cs : List Char} (h : ∀ c ∈ cs, ∀ x, same c x = true → q x) :
    (literal same cs).Over q := by
  induction cs with
  | nil => trivial
  | cons c cs ih => exact ⟨h c List.mem_cons_self, ih fun d hd => h d (List.mem_cons_of_mem c hd)⟩

theorem exists_of_free (hp : p.free = true) (h : Spells p t) (prev : Option Char) (rest : List Char) :
    ∃ m ∈ ends isWord p prev (t ++ rest), m.text = t := by
  induction p generalizing prev t rest with
  | empty => exact ⟨.nothing, List.mem_singleton_self _, h.symm⟩
  | start | boundary => cases hp
  | char p =>
    obtain ⟨c, hc, rfl⟩ := h
    refine ⟨⟨[c], []⟩, ?_, rfl⟩
    show _ ∈ if p c then _ else _
    rw [if_pos hc]
    exact List.mem_singleton_self _
  | run p least most =>
    obtain ⟨hall, hleast, hmost⟩ := h
    have hlongest : t <+: ((t ++ rest).takeWhile p).take (most.getD (t ++ rest).length) := by
      rw [List.takeWhile_append_of_pos hall]
      refine List.prefix_take_iff.mpr ⟨List.prefix_append _ _, ?_⟩
      cases most with
      | none => exact (List.prefix_append t rest).length_le
      | some n => exact hmost n rfl
    unfold ends
    simp only
    generalize ((t ++ rest).takeWhile p).take (most.getD (t ++ rest).length) = longest at hlongest
    have hlength := hlongest.length_le
    refine ⟨⟨t, []⟩, List.mem_map.mpr ⟨longest.length - t.length, List.mem_range.mpr ?_, ?_⟩, rfl⟩
    · omega
    · rw [Nat.sub_sub_self hlength, ← List.prefix_iff_eq_take.mp hlongest]
  | seq a b iha ihb =>
    obtain ⟨ha, hb⟩ := Bool.and_eq_true_iff.mp hp
    obtain ⟨x, y, rfl, hx, hy⟩ := h
    obtain ⟨ma, hma, rfl⟩ := iha ha hx prev (y ++ rest)
    obtain ⟨mb, hmb, rfl⟩ := ihb hb hy (before prev ma.text) rest
    refine ⟨ma.append mb, List.mem_flatMap.mpr ⟨ma, ?_, List.mem_map.mpr ⟨mb, ?_, rfl⟩⟩, rfl⟩
    · rwa [List.append_assoc]
    · rwa [List.append_assoc, List.drop_left]
  | alt a b iha ihb =>
    obtain ⟨ha, hb⟩ := Bool.and_eq_true_iff.mp hp
    rcases h with h | h
    · obtain ⟨m, hm, ht⟩ := iha ha h prev rest
      exact ⟨m, List.mem_append_left _ hm, ht⟩
    · obtain ⟨m, hm, ht⟩ := ihb hb h prev rest
      exact ⟨m, List.mem_append_right _ hm, ht⟩
  | optional a ih =>
    rcases h with h | rfl
    · obtain ⟨m, hm, ht⟩ := ih hp h prev rest
      exact ⟨m, List.mem_append_left _ hm, ht⟩
    · exact ⟨.nothing, List.mem_append_right _ (List.mem_singleton_self _), rfl⟩
  | group name a ih =>
    obtain ⟨m, hm, ht⟩ := ih hp h prev rest
    exact ⟨m.named name, List.mem_map_of_mem hm, ht⟩

theorem exists_of_spells (hp : p.closed = true) (h : Spells p t) {rest : List Char}
    (hend : (before prev t).any isWord ≠ rest.head?.any isWord) :
    ∃ m ∈ ends isWord p prev (t ++ rest), m.text = t := by
  induction p generalizing prev t with
  | boundary =>
    obtain rfl : t = [] := h
    refine ⟨.nothing, ?_, rfl⟩
    rw [before_nil] at hend
    show _ ∈ if prev.any isWord = rest.head?.any isWord then _ else _
    rw [if_neg hend]
    exact List.mem_singleton_self _
  | seq a b iha ihb =>
    obtain ⟨ha, hb⟩ := Bool.and_eq_true_iff.mp hp
    obtain ⟨x, y, rfl, hx, hy⟩ := h
    rw [before_append] at hend
    obtain ⟨ma, hma, rfl⟩ : ∃ m ∈ ends isWord a prev (x ++ (y ++ rest)), m.text = x :=
      exists_of_free ha hx prev (y ++ rest)
    obtain ⟨mb, hmb, rfl⟩ := ihb hb hy hend
    refine ⟨ma.append mb, List.mem_flatMap.mpr ⟨ma, ?_, List.mem_map.mpr ⟨mb, ?_, rfl⟩⟩, rfl⟩
    · rwa [List.append_assoc]
    · rwa [List.append_assoc, List.drop_left]
  | _ => exact exists_of_free hp h prev rest

theorem mem_boundary_iff : m ∈ ends isWord (seq boundary p) prev s ↔
    prev.any isWord ≠ s.head?.any isWord ∧ m ∈ ends isWord p prev s := by
  rw [ends, ends]
  split
  · next hsame => exact iff_of_false List.not_mem_nil fun h => h.1 hsame
  · next hdiffer =>
    have hnothing : Taken.nothing.append = id := rfl
    rw [List.flatMap_singleton, hnothing, List.map_id]
    exact (and_iff_right hdiffer).symm

theorem mem_start_iff : m ∈ ends isWord (seq start p) prev s ↔ prev = none ∧ m ∈ ends isWord p prev s := by
  rw [ends, ends]
  cases prev with
  | none =>
    have hnothing : Taken.nothing.append = id := rfl
    rw [Option.isNone_none, if_pos rfl, List.flatMap_singleton, hnothing, List.map_id]
    exact (and_iff_right rfl).symm
  | some c => exact iff_of_false List.not_mem_nil fun h => Option.some_ne_none c h.1

theorem spells_literal_iff {same : Char → Char → Bool} {cs : List Char} :
    Spells (literal same cs) t ↔ List.Forall₂ (fun c x => same c x = true) cs t := by
  induction cs generalizing t with
  | nil => exact List.forall₂_nil_left_iff.symm
  | cons c cs ih =>
    constructor
    · rintro ⟨_, y, rfl, ⟨x, hx, rfl⟩, hy⟩
      exact .cons hx (ih.mp hy)
    · intro h
      cases h with
      | @cons _ x _ y hx hy => exact ⟨[x], y, rfl, ⟨x, hx, rfl⟩, ih.mpr hy⟩

/-! ## The leftmost match -/

/-- The match and the text after it. -/
structure Leftmost (isWord : Char → Bool) (p : Pattern) (prev : Option Char) (s : List Char) (f : Found)
    (after : List Char) : Prop where
  eq : s = f.skipped ++ (f.taken.text ++ after)
  taken : f.taken ∈ ends isWord p (before prev f.skipped) (f.taken.text ++ after)
  earlier : ∀ x y, s = x ++ y → x.length < f.skipped.length → ends isWord p (before prev x) y = []

theorem leftmost_here (h : (ends isWord p prev s).head? = some m) : ∃ after, Leftmost isWord p prev s ⟨m, []⟩ after := by
  have hm := List.mem_of_head? h
  obtain ⟨after, rfl⟩ : m.text <+: s := text_prefix hm
  exact ⟨after, rfl, hm, fun x y _ hx => absurd hx (Nat.not_lt_zero _)⟩

theorem find_spec {f : Found} (h : find isWord p prev s = some f) : ∃ after, Leftmost isWord p prev s f after := by
  induction s generalizing prev f with
  | nil =>
    obtain ⟨m, hm, rfl⟩ := Option.map_eq_some_iff.mp h
    exact leftmost_here hm
  | cons c s ih =>
    rw [find] at h
    split at h
    · next m hm =>
      cases h
      exact leftmost_here hm
    · next hnone =>
      obtain ⟨f, hf, rfl⟩ := Option.map_eq_some_iff.mp h
      obtain ⟨after, hrest⟩ := ih hf
      refine ⟨after, congrArg (c :: ·) hrest.eq, ?_, fun x y hxy hx => ?_⟩
      · show _ ∈ ends isWord p (before prev (c :: f.skipped)) _
        rw [before_cons]
        exact hrest.taken
      · cases x with
        | nil =>
          obtain rfl : c :: s = y := hxy
          exact List.head?_eq_none_iff.mp hnone
        | cons d x =>
          cases hxy
          rw [before_cons]
          exact hrest.earlier x y rfl (Nat.lt_of_succ_lt_succ hx)

end

end Pattern

end Regex
