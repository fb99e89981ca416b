import TaskBot.Lib.Table

/-!
# Tables whose values are stored in another form

An `Encoding` takes a value to the form it is stored in and keeps which values clash; `Table.encoded` is the
table with every row in that form.  A statement on the stored form does to `t.encoded E` what the
statement on the values does to `t`:

* `find?_encoded`, `filter_encoded`: lookups;
* `insert_encoded`, `modify_encoded`: writes.
-/

namespace Sql

open Keyed (clash)

variable {α β : Type}

def Stored.map (f : α → β) (r : Stored α) : Stored β := ⟨r.id, f r.val⟩

@[simp] theorem Stored.map_id (f : α → β) (r : Stored α) : (r.map f).id = r.id := rfl

@[simp] theorem Stored.map_val (f : α → β) (r : Stored α) : (r.map f).val = f r.val := rfl

variable [Keyed α] [Keyed β]

/-- How a value is stored. -/
structure Encoding (α β : Type) [Keyed α] [Keyed β] where
  encode : α → β
  clash_encode : ∀ a b, clash (encode a) (encode b) = clash a b

namespace Table

theorem ext_rows {t t' : Table α} (hrows : t.rows = t'.rows) (hnext : t.nextId = t'.nextId) : t = t' := by
  cases t
  cases t'
  cases hrows
  cases hnext
  rfl

variable (E : Encoding α β)

def encoded (t : Table α) : Table β where
  rows := t.rows.map (Stored.map E.encode)
  nextId := t.nextId
  fresh := by
    intro r hr
    obtain ⟨r₀, hr₀, rfl⟩ := List.mem_map.mp hr
    exact t.fresh r₀ hr₀
  apart := by
    refine List.pairwise_map.mpr (t.apart.imp fun {a b} h => ⟨h.1, ?_⟩)
    rw [Stored.map_val, Stored.map_val, E.clash_encode]
    exact h.2

@[simp] theorem rows_encoded (t : Table α) : (t.encoded E).rows = t.rows.map (Stored.map E.encode) := rfl

@[simp] theorem nextId_encoded (t : Table α) : (t.encoded E).nextId = t.nextId := rfl

@[simp] theorem encoded_empty : (empty : Table α).encoded E = empty := rfl

variable {E} {t : Table α}

theorem find?_encoded {q : Stored β → Bool} {p : Stored α → Bool} (hq : ∀ r, q (r.map E.encode) = p r) :
    (t.encoded E).find? q = (t.find? p).map (Stored.map E.encode) := by
  have hcomp : q ∘ Stored.map E.encode = p := funext hq
  unfold find?
  rw [rows_encoded, List.find?_map, hcomp]

theorem filter_encoded {q : Stored β → Bool} {p : Stored α → Bool} (hq : ∀ r, q (r.map E.encode) = p r) :
    (t.encoded E).rows.filter q = (t.rows.filter p).map (Stored.map E.encode) := by
  have hcomp : q ∘ Stored.map E.encode = p := funext hq
  rw [rows_encoded, List.filter_map, hcomp]

theorem insert_encoded (v : α) :
    (t.encoded E).insertOrIgnore (E.encode v) = ((t.insertOrIgnore v).1.encoded E, (t.insertOrIgnore v).2) := by
  have hclash : ∀ r : Stored α, clash (r.map E.encode).val (E.encode v) = clash r.val v := fun r =>
    E.clash_encode r.val v
  rcases insertOrIgnore_cases t v with ⟨⟨r, hr, hc⟩, hsame⟩ | ⟨hnone, hrows, hnext, hadded⟩
  · rw [hsame, insertOrIgnore_clash (List.mem_map_of_mem hr) ((hclash r).trans hc)]
  · rcases insertOrIgnore_cases (t.encoded E) (E.encode v) with ⟨⟨r', hr', hc⟩, -⟩ | ⟨-, hrows', hnext', hadded'⟩
    · obtain ⟨r, hr, rfl⟩ := List.mem_map.mp hr'
      rw [hclash, hnone r hr] at hc
      cases hc
    · refine Prod.ext (ext_rows ?_ ?_) (hadded'.trans hadded.symm)
      · rw [hrows', rows_encoded, rows_encoded, hrows, List.map_append]
        rfl
      · rw [hnext', nextId_encoded, nextId_encoded, hnext]

theorem modify_encoded {q : Stored β → Bool} {p : Stored α → Bool} {g : β → β} (hg : KeepsKeys g) {f : α → α}
    (hf : KeepsKeys f) (hq : ∀ r, q (r.map E.encode) = p r) (hgf : ∀ a, g (E.encode a) = E.encode (f a)) :
    (t.encoded E).modify q g hg = (t.modify p f hf).encoded E := by
  refine ext_rows ?_ rfl
  show (t.rows.map (Stored.map E.encode)).map (setWhere q g) = (t.rows.map (setWhere p f)).map (Stored.map E.encode)
  rw [List.map_map, List.map_map]
  refine List.map_congr_left fun r _ => ?_
  simp only [Function.comp_apply, setWhere, hq]
  by_cases hp : p r = true
  · rw [if_pos hp, if_pos hp]
    exact congrArg (Stored.mk r.id) (hgf r.val)
  · rw [if_neg hp, if_neg hp]

end Table

end Sql
