import Mathlib.Data.List.Pairwise

/-!
# Tables with an autoincrement id and unique columns

A `Table α` is the list of its rows in insertion order, each a value under its
id.  The column type says when two values hold a common value in a unique column
(`Keyed.clash`); the table carries that no two of its rows do, so a table that
breaks a constraint cannot be built.  The statements are

* `insertOrIgnore`: append under the next id, or nothing when a row clashes;
* `modify`: rewrite the rows that match, keeping ids and unique columns;
* `upsert`: rewrite the row that clashes, or append.

`Exclusive` is the uniqueness of a column the schema does not declare unique, and
`exclusive_modify_iff` and `exclusive_insert_iff` say when a statement keeps it.
`find?_modify` and `find?_insert` say what a later lookup sees; `find?_eq` says a
lookup by id or by a unique column finds the only row there is.
-/

namespace Sql

/-- A row: its id and its other columns. -/
structure Stored (α : Type) where
  id : Int
  val : α
deriving DecidableEq, Repr

class Keyed (α : Type) where
  /-- The values agree in some unique column. -/
  clash : α → α → Bool
  clash_comm : ∀ a b, clash a b = clash b a

/-- Columns without a unique constraint. -/
abbrev Keyed.none (α : Type) : Keyed α := ⟨fun _ _ => false, fun _ _ => rfl⟩

variable {α : Type}

/-- `SET f WHERE q` on one row. -/
def setWhere (q : Stored α → Bool) (f : α → α) (r : Stored α) : Stored α :=
  if q r then ⟨r.id, f r.val⟩ else r

@[simp] theorem setWhere_id (q : Stored α → Bool) (f : α → α) (r : Stored α) :
    (setWhere q f r).id = r.id := by
  unfold setWhere
  split <;> rfl

variable [Keyed α]

open Keyed (clash clash_comm)

/-- The two rows may stand in one table. -/
def Apart (a b : Stored α) : Prop := a.id ≠ b.id ∧ clash a.val b.val = false

instance : Std.Symm (Apart : Stored α → Stored α → Prop) :=
  ⟨fun a b h => ⟨fun e => h.1 e.symm, by rw [clash_comm]; exact h.2⟩⟩

/-- The update keeps the unique columns. -/
def KeepsKeys (f : α → α) : Prop := ∀ a c, clash (f a) c = clash a c

structure Table (α : Type) [Keyed α] where
  rows : List (Stored α)
  /-- The next id `AUTOINCREMENT` gives; ids are never reused. -/
  nextId : Int
  fresh : ∀ r ∈ rows, r.id < nextId
  apart : rows.Pairwise Apart

namespace Table

def empty : Table α := ⟨[], 1, by simp, .nil⟩

def find? (t : Table α) (q : Stored α → Bool) : Option (Stored α) := t.rows.find? q

/-! ## Update -/

theorem clash_setWhere {f : α → α} (hf : KeepsKeys f) (q : Stored α → Bool) (r : Stored α) (c : α) :
    clash (setWhere q f r).val c = clash r.val c := by
  unfold setWhere
  split
  · exact hf r.val c
  · rfl

/-- `UPDATE … SET f WHERE q`. -/
def modify (t : Table α) (q : Stored α → Bool) (f : α → α) (hf : KeepsKeys f) : Table α where
  rows := t.rows.map (setWhere q f)
  nextId := t.nextId
  fresh := by
    intro r hr
    obtain ⟨r₀, hr₀, rfl⟩ := List.mem_map.mp hr
    rw [setWhere_id]
    exact t.fresh r₀ hr₀
  apart := by
    refine List.pairwise_map.mpr (t.apart.imp fun {a b} h => ⟨?_, ?_⟩)
    · rw [setWhere_id, setWhere_id]; exact h.1
    · rw [clash_setWhere hf, clash_comm, clash_setWhere hf, clash_comm]; exact h.2

variable {t : Table α} {q p : Stored α → Bool} {f : α → α} {hf : KeepsKeys f}

theorem mem_modify {r : Stored α} : r ∈ (t.modify q f hf).rows ↔
    ∃ r₀ ∈ t.rows, setWhere q f r₀ = r := List.mem_map

@[simp] theorem nextId_modify : (t.modify q f hf).nextId = t.nextId := rfl

/-- A lookup by something the update keeps finds the same row, updated. -/
theorem find?_modify (hp : ∀ r : Stored α, p ⟨r.id, f r.val⟩ = p r) :
    (t.modify q f hf).find? p = (t.find? p).map (setWhere q f) := by
  have hcomp : p ∘ setWhere q f = p := by
    funext r
    simp only [Function.comp_apply, setWhere]
    split
    · exact hp r
    · rfl
  unfold find? modify
  rw [List.find?_map, hcomp]

/-- An update that settles a row that counted, and unsettles none, lowers the count. -/
theorem countP_modify_lt {r : Stored α} (hr : r ∈ t.rows) (hp : p r = true) (hq : q r = true)
    (hdone : ∀ a, q a = true → p ⟨a.id, f a.val⟩ = false) :
    (t.modify q f hf).rows.countP p < t.rows.countP p := by
  have hle : ∀ a, (p ∘ setWhere q f) a = true → p a = true := by
    intro a ha
    rw [Function.comp_apply, setWhere] at ha
    split at ha
    · next hqa => rw [hdone a hqa] at ha; cases ha
    · exact ha
  have hlost : (p ∘ setWhere q f) r = false := by
    rw [Function.comp_apply, setWhere, if_pos hq]
    exact hdone r hq
  obtain ⟨l, l', hl⟩ := List.append_of_mem hr
  have hfront := List.countP_mono_left (p := p ∘ setWhere q f) (q := p) (l := l) fun a _ => hle a
  have hback := List.countP_mono_left (p := p ∘ setWhere q f) (q := p) (l := l') fun a _ => hle a
  unfold modify
  simp only [hl, List.countP_map, List.countP_append, List.countP_cons, hlost, hp]
  simp only [Bool.false_eq_true, if_false, if_true]
  omega

/-- An update of the first row that a lookup finds leaves the rows around it. -/
theorem rows_modify_found {r : Stored α} (h : t.find? p = some r) :
    ∃ before after, t.rows = before ++ r :: after ∧ (∀ a ∈ before, p a = false) ∧ p r = true ∧
      (t.modify (fun a => a.id = r.id) f hf).rows = before ++ ⟨r.id, f r.val⟩ :: after := by
  obtain ⟨hr, before, after, hrows, hbefore⟩ := List.find?_eq_some_iff_append.mp h
  have hapart := t.apart
  rw [hrows, List.pairwise_append, List.pairwise_cons] at hapart
  obtain ⟨-, ⟨hafter, -⟩, hcross⟩ := hapart
  have hkept : ∀ l : List (Stored α), (∀ a ∈ l, a.id ≠ r.id) →
      l.map (setWhere (fun a => a.id = r.id) f) = l := by
    intro l hl
    conv => rhs; rw [← List.map_id l]
    refine List.map_congr_left fun a ha => ?_
    simp [setWhere, hl a ha]
  refine ⟨before, after, hrows, fun a ha => by simpa using hbefore a ha, hr, ?_⟩
  show t.rows.map (setWhere (fun a => a.id = r.id) f) = _
  rw [hrows, List.map_append, List.map_cons, hkept before fun a ha => (hcross a ha r List.mem_cons_self).1,
    hkept after fun a ha => (hafter a ha).1.symm, setWhere, if_pos (decide_eq_true rfl)]

/-! ## Insert -/

/-- `INSERT OR IGNORE`: the table, and whether a row was added. -/
def insertOrIgnore (t : Table α) (v : α) : Table α × Bool :=
  if h : ∃ r ∈ t.rows, clash r.val v = true then (t, false)
  else
    ({ rows := t.rows ++ [⟨t.nextId, v⟩]
       nextId := t.nextId + 1
       fresh := by
         intro r hr
         rcases List.mem_append.mp hr with hr | hr
         · have := t.fresh r hr
           omega
         · rw [List.mem_singleton.mp hr]
           exact Int.lt_succ t.nextId
       apart := by
         refine List.pairwise_append.mpr ⟨t.apart, List.pairwise_singleton _ _, ?_⟩
         intro a ha b hb
         rw [List.mem_singleton.mp hb]
         refine ⟨?_, Bool.eq_false_iff.mpr fun hc => h ⟨a, ha, hc⟩⟩
         have := t.fresh a ha
         exact Int.ne_of_lt this }, true)

variable {v : α}

/-- Either some row clashes and nothing happens, or the row is appended. -/
theorem insertOrIgnore_cases (t : Table α) (v : α) :
    ((∃ r ∈ t.rows, clash r.val v = true) ∧ t.insertOrIgnore v = (t, false)) ∨
    ((∀ r ∈ t.rows, clash r.val v = false) ∧ (t.insertOrIgnore v).1.rows = t.rows ++ [⟨t.nextId, v⟩] ∧
      (t.insertOrIgnore v).1.nextId = t.nextId + 1 ∧ (t.insertOrIgnore v).2 = true) := by
  by_cases h : ∃ r ∈ t.rows, clash r.val v = true
  · exact .inl ⟨h, dif_pos h⟩
  · refine .inr ⟨fun r hr => Bool.eq_false_iff.mpr fun hc => h ⟨r, hr, hc⟩, ?_⟩
    unfold insertOrIgnore
    rw [dif_neg h]
    exact ⟨rfl, rfl, rfl⟩

theorem insertOrIgnore_clash {r : Stored α} (hr : r ∈ t.rows) (hc : clash r.val v = true) :
    t.insertOrIgnore v = (t, false) := dif_pos ⟨r, hr, hc⟩

theorem mem_insert_of_mem {r : Stored α} (hr : r ∈ t.rows) : r ∈ (t.insertOrIgnore v).1.rows := by
  rcases insertOrIgnore_cases t v with ⟨-, h⟩ | ⟨-, h, -⟩
  · rw [h]; exact hr
  · rw [h]; exact List.mem_append_left _ hr

/-- A row after an insert was there before, or is the new one. -/
theorem mem_insert {r : Stored α} (hr : r ∈ (t.insertOrIgnore v).1.rows) :
    r ∈ t.rows ∨ (r = ⟨t.nextId, v⟩ ∧ (t.insertOrIgnore v).2 = true) := by
  rcases insertOrIgnore_cases t v with ⟨-, h⟩ | ⟨-, h, -, h'⟩
  · rw [h] at hr; exact .inl hr
  · rw [h] at hr
    rcases List.mem_append.mp hr with hr | hr
    · exact .inl hr
    · exact .inr ⟨List.mem_singleton.mp hr, h'⟩

/-- After an insert some row agrees with the value in a unique column, or is it. -/
theorem exists_after_insert (t : Table α) (v : α) :
    ∃ r ∈ (t.insertOrIgnore v).1.rows, clash r.val v = true ∨ r.val = v := by
  rcases insertOrIgnore_cases t v with ⟨⟨r, hr, hc⟩, h⟩ | ⟨-, h, -⟩
  · exact ⟨r, by rw [h]; exact hr, .inl hc⟩
  · exact ⟨⟨t.nextId, v⟩, by rw [h]; exact List.mem_append_right _ (List.mem_singleton.mpr rfl), .inr rfl⟩

/-- A lookup that found a row before the insert still finds it. -/
theorem find?_insert {r : Stored α} (h : t.find? q = some r) :
    (t.insertOrIgnore v).1.find? q = some r := by
  rcases insertOrIgnore_cases t v with ⟨-, h'⟩ | ⟨-, h', -⟩
  · rw [h']; exact h
  · unfold find? at h ⊢
    rw [h', List.find?_append, h]
    rfl

/-- A lookup that found nothing finds the row that is inserted. -/
theorem find?_insert_of_none (h : t.find? q = none) (hnew : ∀ r ∈ t.rows, clash r.val v = false)
    (hq : q ⟨t.nextId, v⟩ = true) : (t.insertOrIgnore v).1.find? q = some ⟨t.nextId, v⟩ := by
  rcases insertOrIgnore_cases t v with ⟨⟨r, hr, hc⟩, -⟩ | ⟨-, hrows, -⟩
  · rw [hnew r hr] at hc
    cases hc
  · unfold find? at h ⊢
    rw [hrows, List.find?_append, h]
    exact List.find?_cons_of_pos hq

/-! ## Lookup -/

/-- Two rows of the table with the same id, or that clash, are the same row. -/
theorem eq_of_not_apart {a b : Stored α} (ha : a ∈ t.rows) (hb : b ∈ t.rows)
    (h : a.id = b.id ∨ clash a.val b.val = true) : a = b := by
  by_contra hne
  have hap : Apart a b := t.apart.forall ha hb hne
  rcases h with h | h
  · exact hap.1 h
  · rw [hap.2] at h; cases h

theorem find?_some {r : Stored α} (h : t.find? q = some r) : r ∈ t.rows ∧ q r = true :=
  ⟨List.mem_of_find?_eq_some h, List.find?_some h⟩

theorem find?_none (h : t.find? q = none) : ∀ r ∈ t.rows, q r = false := by
  intro r hr
  exact Bool.eq_false_iff.mpr (List.find?_eq_none.mp h r hr)

/-- **A lookup by a key finds the only row with it.** -/
theorem find?_eq {r : Stored α} (hr : r ∈ t.rows) (hq : q r = true)
    (hkey : ∀ a b, q a = true → q b = true → a.id = b.id ∨ clash a.val b.val = true) :
    t.find? q = some r := by
  cases h : t.find? q with
  | none => rw [find?_none h r hr] at hq; cases hq
  | some r' =>
    obtain ⟨hr', hq'⟩ := find?_some h
    rw [eq_of_not_apart hr' hr (hkey r' r hq' hq)]

/-! ## Upsert -/

/-- `INSERT … ON CONFLICT DO UPDATE SET f`. -/
def upsert (t : Table α) (v : α) (f : α → α) (hf : KeepsKeys f) : Table α :=
  if t.rows.any fun r => clash r.val v then t.modify (fun r => clash r.val v) f hf
  else (t.insertOrIgnore v).1

/-- A lookup by the key of the value finds what the upsert has written. -/
theorem find?_upsert (f : α → α) (hf : KeepsKeys f) (hv : clash v v = true) :
    ∃ r, (t.upsert v f hf).find? (fun r => clash r.val v) = some r ∧
      (r.val = v ∨ ∃ r₀ ∈ t.rows, r.val = f r₀.val) := by
  unfold upsert
  by_cases hany : (t.rows.any fun r => clash r.val v) = true
  · rw [if_pos hany]
    have hkeeps : ∀ r : Stored α, clash (f r.val) v = clash r.val v := fun r => hf r.val v
    rw [find?_modify hkeeps]
    cases hfind : t.find? fun r => clash r.val v with
    | none =>
      obtain ⟨r, hr, hc⟩ := List.any_eq_true.mp hany
      have hno := find?_none hfind r hr
      rw [hno] at hc
      cases hc
    | some r₀ =>
      obtain ⟨hr₀, hc⟩ := find?_some hfind
      refine ⟨_, rfl, .inr ⟨r₀, hr₀, ?_⟩⟩
      rw [setWhere, if_pos hc]
  · rw [if_neg hany]
    rcases insertOrIgnore_cases t v with ⟨⟨r, hr, hc⟩, -⟩ | ⟨hnone, hrows, -⟩
    · exact absurd (List.any_eq_true.mpr ⟨r, hr, hc⟩) hany
    · refine ⟨⟨t.nextId, v⟩, ?_, .inl rfl⟩
      have hfirst : t.rows.find? (fun r => clash r.val v) = none :=
        List.find?_eq_none.mpr fun r hr => by rw [hnone r hr]; exact Bool.false_ne_true
      rw [find?, hrows, List.find?_append, hfirst, Option.none_or, List.find?_singleton, if_pos hv]

/-- A lookup by another key sees nothing of the upsert. -/
theorem find?_upsert_of_apart (hp : ∀ r : Stored α, p ⟨r.id, f r.val⟩ = p r)
    (hapart : ∀ r : Stored α, p r = true → clash r.val v = false)
    (hnew : ∀ id, p ⟨id, v⟩ = false) :
    (t.upsert v f hf).find? p = t.find? p := by
  unfold upsert
  by_cases hany : (t.rows.any fun r => clash r.val v) = true
  · rw [if_pos hany, find?_modify hp]
    cases hfind : t.find? p with
    | none => rfl
    | some r =>
      have hno : ¬ clash r.val v = true := by
        rw [hapart r (find?_some hfind).2]
        exact Bool.false_ne_true
      rw [Option.map_some, setWhere, if_neg hno]
  · rw [if_neg hany]
    rcases insertOrIgnore_cases t v with ⟨-, hsame⟩ | ⟨-, hrows, -⟩
    · rw [hsame]
    · have hlast : ¬ p ⟨t.nextId, v⟩ = true := by
        rw [hnew]
        exact Bool.false_ne_true
      rw [find?, hrows, List.find?_append, List.find?_singleton, if_neg hlast, Option.or_none]
      rfl

/-! ## Columns that are not declared unique -/

variable {κ : Type} {c : α → Option κ}

/-- No two rows hold the same value in the column. -/
def Exclusive (c : α → Option κ) (t : Table α) : Prop :=
  ∀ a ∈ t.rows, ∀ b ∈ t.rows, ∀ k, c a.val = some k → c b.val = some k → a = b

theorem exclusive_of_length_le_one (h : t.rows.length ≤ 1) : t.Exclusive c := by
  intro a ha b hb k _ _
  obtain ⟨i, hi, rfl⟩ := List.getElem_of_mem ha
  obtain ⟨j, hj, rfl⟩ := List.getElem_of_mem hb
  have hij : i = j := by omega
  subst hij
  rfl

/-- Two rows with one value. -/
theorem not_exclusive_of_ids {i j : Int} (hne : i ≠ j) {k : κ}
    (h : t.rows.map (fun r => (r.id, c r.val)) = [(i, some k), (j, some k)]) : ¬ t.Exclusive c := by
  intro hex
  have hfst : (i, some k) ∈ t.rows.map fun r => (r.id, c r.val) := by rw [h]; exact List.mem_cons_self
  have hsnd : (j, some k) ∈ t.rows.map fun r => (r.id, c r.val) := by
    rw [h]; exact List.mem_cons_of_mem _ List.mem_cons_self
  obtain ⟨a, ha, hia⟩ := List.mem_map.mp hfst
  obtain ⟨b, hb, hjb⟩ := List.mem_map.mp hsnd
  obtain ⟨hid, hk⟩ := Prod.mk.inj hia
  obtain ⟨hid', hk'⟩ := Prod.mk.inj hjb
  exact hne (by rw [← hid, ← hid', hex a ha b hb k hk hk'])

/-- No row but the own one holds the value in the column. -/
def Free (c : α → Option κ) (t : Table α) (own : Stored α → Bool) (value : Option κ) : Prop :=
  ∀ r ∈ t.rows, own r = false → ∀ k, value = some k → c r.val ≠ some k

theorem exclusive_modify_of_keeps (hf : KeepsKeys f) (h : t.Exclusive c) (hc : ∀ v, c (f v) = c v) :
    (t.modify q f hf).Exclusive c := by
  have hval : ∀ r : Stored α, c (setWhere q f r).val = c r.val := by
    intro r
    unfold setWhere
    split
    · exact hc r.val
    · rfl
  intro a ha b hb k hak hbk
  obtain ⟨a₀, ha₀, rfl⟩ := List.mem_map.mp ha
  obtain ⟨b₀, hb₀, rfl⟩ := List.mem_map.mp hb
  rw [hval] at hak hbk
  rw [h a₀ ha₀ b₀ hb₀ k hak hbk]

/-- **An update of one row keeps the column exclusive exactly if the new value is free.** -/
theorem exclusive_modify_iff (hf : KeepsKeys f) (h : t.Exclusive c) {r₀ : Stored α} (hr₀ : r₀ ∈ t.rows)
    {own : Stored α → Bool} (hq : ∀ r ∈ t.rows, q r = true ↔ r = r₀)
    (hown : ∀ r ∈ t.rows, own r = true ↔ r = r₀) :
    (t.modify q f hf).Exclusive c ↔ t.Free c own (c (f r₀.val)) := by
  have hset : setWhere q f r₀ = ⟨r₀.id, f r₀.val⟩ := if_pos ((hq r₀ hr₀).mpr rfl)
  have hother : ∀ r ∈ t.rows, r ≠ r₀ → setWhere q f r = r := fun r hr hne =>
    if_neg fun hqr => hne ((hq r hr).mp hqr)
  constructor
  · intro hex r hr hno k hk hrk
    have hne : r ≠ r₀ := fun he => by
      rw [(hown r hr).mpr he] at hno
      cases hno
    have hmem₀ : setWhere q f r₀ ∈ (t.modify q f hf).rows := List.mem_map_of_mem hr₀
    have hmem : setWhere q f r ∈ (t.modify q f hf).rows := List.mem_map_of_mem hr
    rw [hset] at hmem₀
    rw [hother r hr hne] at hmem
    have hsame := hex _ hmem₀ r hmem k hk hrk
    exact hne (eq_of_not_apart hr hr₀ (.inl (by rw [← hsame])))
  · intro hfree
    have hclash : ∀ r ∈ t.rows, r ≠ r₀ → ∀ k, c (f r₀.val) = some k → c r.val ≠ some k := fun r hr hne =>
      hfree r hr (Bool.eq_false_iff.mpr fun ho => hne ((hown r hr).mp ho))
    intro a ha b hb k hak hbk
    obtain ⟨a₀, ha₀, rfl⟩ := List.mem_map.mp ha
    obtain ⟨b₀, hb₀, rfl⟩ := List.mem_map.mp hb
    by_cases hea : a₀ = r₀
    · by_cases heb : b₀ = r₀
      · rw [hea, heb]
      · rw [hea, hset] at hak
        rw [hother b₀ hb₀ heb] at hbk
        exact absurd hbk (hclash b₀ hb₀ heb k hak)
    · rw [hother a₀ ha₀ hea] at hak ⊢
      by_cases heb : b₀ = r₀
      · rw [heb, hset] at hbk
        exact absurd hak (hclash a₀ ha₀ hea k hbk)
      · rw [hother b₀ hb₀ heb] at hbk ⊢
        exact h a₀ ha₀ b₀ hb₀ k hak hbk

/-- So does an insert. -/
theorem exclusive_insert_iff (h : t.Exclusive c) {own : Stored α → Bool}
    (hnew : ∀ r ∈ t.rows, clash r.val v = false) (hown : ∀ r ∈ t.rows, own r = false) :
    (t.insertOrIgnore v).1.Exclusive c ↔ t.Free c own (c v) := by
  have hrows : (t.insertOrIgnore v).1.rows = t.rows ++ [⟨t.nextId, v⟩] := by
    rcases insertOrIgnore_cases t v with ⟨⟨r, hr, hc⟩, -⟩ | ⟨-, hrows, -⟩
    · rw [hnew r hr] at hc
      cases hc
    · exact hrows
  have hlast : ∀ r ∈ t.rows, r ≠ ⟨t.nextId, v⟩ := fun r hr he => by
    have hlt := t.fresh r hr
    rw [he] at hlt
    exact Int.lt_irrefl _ hlt
  unfold Exclusive
  rw [hrows]
  constructor
  · intro hex r hr _ k hk hrk
    refine hlast r hr (hex r (List.mem_append_left _ hr) _ ?_ k hrk hk)
    exact List.mem_append_right _ List.mem_cons_self
  · intro hfree a ha b hb k hak hbk
    rcases List.mem_append.mp ha with ha | ha
    · rcases List.mem_append.mp hb with hb | hb
      · exact h a ha b hb k hak hbk
      · rw [List.mem_singleton.mp hb] at hbk
        exact absurd hak (hfree a ha (hown a ha) k hbk)
    · rw [List.mem_singleton.mp ha] at hak ⊢
      rcases List.mem_append.mp hb with hb | hb
      · exact absurd hbk (hfree b hb (hown b hb) k hak)
      · rw [List.mem_singleton.mp hb]

/-- A value the own row keeps needs no check. -/
theorem free_or_iff (h : t.Exclusive c) {r₀ : Stored α} (hr₀ : r₀ ∈ t.rows) {own : Stored α → Bool}
    (hown : own r₀ = true) (value : Option κ) :
    t.Free c own (value.or (c r₀.val)) ↔ t.Free c own value := by
  cases value with
  | some k => rfl
  | none =>
    refine iff_of_true (fun r hr hno k hk hrk => ?_) fun r hr hno k hk => nomatch hk
    rw [h r hr r₀ hr₀ k hrk hk, hown] at hno
    cases hno

end Table

end Sql
