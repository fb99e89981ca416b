import Mathlib.Algebra.Order.Field.Basic
import Mathlib.Algebra.Field.Rat
import Mathlib.Algebra.Order.Ring.Rat
import Mathlib.Data.List.Dedup
import Mathlib.Data.List.Perm.Subperm
import TaskBot.Domain.PersonName
import TaskBot.Store.Db

/-!
# The trigram index of person names

`person_trigrams` holds the distinct trigrams of each owner; a query counts how many of its own
trigrams an owner shares and divides by the length of the query.

* `holds_index`: after any calls an owner holds the trigrams of the name it was last indexed with.
* `sharing_le`: what an owner shares is at most the number of distinct trigrams of the query.

    a score is right ↔ the owner is not indexed with the queried name, or no trigram
                       of the name occurs twice                     (trigram_scores_iff)
-/

namespace TaskBot

/-! ## The table -/

inductive PersonTrigramOwnerKind where
  | employee | user
deriving DecidableEq, Repr

structure TrigramOwner where
  kind : PersonTrigramOwnerKind
  id : Int
deriving DecidableEq, Repr

/-- A row of `person_trigrams`; the `CHECK` on the kind admits the two codes only. -/
structure TrigramRow where
  owner : TrigramOwner
  trigram : String
deriving DecidableEq, Repr

/-- The table with its unique index on the owner and the trigram. -/
structure PersonTrigrams where
  rows : List TrigramRow
  unique : rows.Nodup

structure PersonTrigramCandidate where
  owner : TrigramOwner
  sharedTrigrams : Nat
  score : Rat
deriving DecidableEq

namespace PersonTrigrams

def empty : PersonTrigrams := ⟨[], List.nodup_nil⟩

def delete (owner : TrigramOwner) (table : PersonTrigrams) : PersonTrigrams :=
  ⟨table.rows.filter fun row => row.owner ≠ owner, table.unique.filter _⟩

theorem nodup_snoc {row : TrigramRow} {table : PersonTrigrams} (h : row ∉ table.rows) :
    (table.rows ++ [row]).Nodup := by
  rw [← List.concat_eq_append]
  exact table.unique.concat h

/-- An `INSERT` that would break the unique index fails. -/
def insert (row : TrigramRow) (table : PersonTrigrams) : AppResult PersonTrigrams :=
  if h : row ∈ table.rows then .error (databaseError "UNIQUE constraint failed")
  else .ok ⟨table.rows ++ [row], nodup_snoc h⟩

/-- The loop of `upsert`; `seen` are the trigrams it has inserted. -/
def insertDistinct (owner : TrigramOwner) :
    List String → List String → PersonTrigrams → AppResult PersonTrigrams
  | [], _, table => .ok table
  | trigram :: rest, seen, table =>
      if trigram ∈ seen then insertDistinct owner rest seen table
      else do
        let table' ← table.insert ⟨owner, trigram⟩
        insertDistinct owner rest (trigram :: seen) table'

/-- The owner's trigrams are replaced in one transaction. -/
def upsert (owner : TrigramOwner) (trigrams : List String) (table : PersonTrigrams) :
    AppResult PersonTrigrams :=
  insertDistinct owner trigrams [] (table.delete owner)

/-! ## The query -/

def minTopMatches : Nat := 1
def maxTopMatches : Nat := 50

/-- `COUNT(*)` of the group of an owner. -/
def sharing (table : PersonTrigrams) (queryTrigrams : List String) (owner : TrigramOwner) : Nat :=
  ((table.rows.filter fun row => row.trigram ∈ queryTrigrams).filter fun row => row.owner = owner).length

/-- `GROUP BY owner_kind, owner_id`. -/
def groups (table : PersonTrigrams) (queryTrigrams : List String) : List (TrigramOwner × Nat) :=
  (((table.rows.filter fun row => row.trigram ∈ queryTrigrams).map TrigramRow.owner).dedup).map fun owner =>
    (owner, table.sharing queryTrigrams owner)

/-- `ORDER BY shared DESC`: which of two owners with as many shared trigrams comes first is up to
the database. -/
structure Ranking where
  order : List (TrigramOwner × Nat) → List (TrigramOwner × Nat)
  perm : ∀ groups, (order groups).Perm groups
  descending : ∀ groups, (order groups).Pairwise fun a b => b.2 ≤ a.2

def candidate (querySize : Nat) (group : TrigramOwner × Nat) : PersonTrigramCandidate :=
  ⟨group.1, group.2, if querySize = 0 then 0 else (group.2 : Rat) / querySize⟩

def topMatches (ranking : Ranking) (table : PersonTrigrams) (queryTrigrams : List String) (limit : Nat) :
    List PersonTrigramCandidate :=
  if queryTrigrams.isEmpty then []
  else
    let effectiveLimit := max minTopMatches (min limit maxTopMatches)
    ((ranking.order (table.groups queryTrigrams)).take effectiveLimit).map (candidate queryTrigrams.length)

/-! ## Writing -/

section Writing

variable {owner : TrigramOwner} {table : PersonTrigrams}

theorem mem_delete {row : TrigramRow} :
    row ∈ (table.delete owner).rows ↔ row ∈ table.rows ∧ row.owner ≠ owner := by
  simp [delete]

theorem insert_new {row : TrigramRow} (hrow : row ∉ table.rows) :
    ∃ table', table.insert row = .ok table' ∧ ∀ r, r ∈ table'.rows ↔ r = row ∨ r ∈ table.rows := by
  refine ⟨_, dif_neg hrow, fun r => ?_⟩
  rw [List.mem_append, List.mem_singleton, or_comm]

/-- The loop never meets the unique index: what the owner has is what it has seen. -/
theorem insertDistinct_ok {seen : List String} (hseen : ∀ g, ⟨owner, g⟩ ∈ table.rows ↔ g ∈ seen)
    (trigrams : List String) :
    ∃ table', insertDistinct owner trigrams seen table = .ok table' ∧
      ∀ row, row ∈ table'.rows ↔ row ∈ table.rows ∨ row.owner = owner ∧ row.trigram ∈ trigrams := by
  induction trigrams generalizing seen table with
  | nil => exact ⟨table, rfl, fun row => by simp⟩
  | cons trigram rest ih =>
    by_cases hmem : trigram ∈ seen
    · obtain ⟨table', hrun, hrows⟩ := ih hseen
      refine ⟨table', ?_, fun row => ?_⟩
      · rw [insertDistinct, if_pos hmem]
        exact hrun
      · rw [hrows, List.mem_cons]
        constructor
        · rintro (h | ⟨howner, h⟩)
          · exact .inl h
          · exact .inr ⟨howner, .inr h⟩
        · rintro (h | ⟨rfl, htrigram | h⟩)
          · exact .inl h
          · subst htrigram
            exact .inl ((hseen row.trigram).mpr hmem)
          · exact .inr ⟨rfl, h⟩
    · have hnew : (⟨owner, trigram⟩ : TrigramRow) ∉ table.rows := fun h => hmem ((hseen trigram).mp h)
      obtain ⟨table₁, hinsert, hrows₁⟩ := insert_new hnew
      have hseen₁ : ∀ g, ⟨owner, g⟩ ∈ table₁.rows ↔ g ∈ trigram :: seen := by
        intro g
        rw [hrows₁, hseen, List.mem_cons]
        simp
      obtain ⟨table', hrun, hrows⟩ := ih hseen₁
      refine ⟨table', ?_, fun row => ?_⟩
      · rw [insertDistinct, if_neg hmem, hinsert]
        exact hrun
      · rw [hrows, hrows₁, List.mem_cons]
        constructor
        · rintro ((rfl | h) | ⟨howner, h⟩)
          · exact .inr ⟨rfl, .inl rfl⟩
          · exact .inl h
          · exact .inr ⟨howner, .inr h⟩
        · rintro (h | ⟨rfl, htrigram | h⟩)
          · exact .inl (.inr h)
          · subst htrigram
            exact .inl (.inl rfl)
          · exact .inr ⟨rfl, h⟩

/-- `upsert` succeeds, and the owner holds the distinct trigrams it was given. -/
theorem upsert_ok (owner : TrigramOwner) (trigrams : List String) (table : PersonTrigrams) :
    ∃ table', table.upsert owner trigrams = .ok table' ∧ ∀ row, row ∈ table'.rows ↔
      row ∈ table.rows ∧ row.owner ≠ owner ∨ row.owner = owner ∧ row.trigram ∈ trigrams := by
  have hnone : ∀ g, ⟨owner, g⟩ ∈ (table.delete owner).rows ↔ g ∈ ([] : List String) := by
    intro g
    rw [mem_delete]
    simp
  obtain ⟨table', hrun, hrows⟩ := insertDistinct_ok hnone trigrams
  refine ⟨table', hrun, fun row => ?_⟩
  rw [hrows, mem_delete]

end Writing

/-! ## Runs -/

section Runs

variable (chars : CharClass) (toLowercase : String → String)

/-- A call that changes the index. -/
inductive Call where
  | upsert (owner : TrigramOwner) (name : PersonName)
  | delete (owner : TrigramOwner)
deriving DecidableEq, Repr

/-- A call that fails leaves the table as it was. -/
def Call.apply (table : PersonTrigrams) : Call → PersonTrigrams
  | .upsert owner name =>
      match table.upsert owner (name.trigrams chars toLowercase) with
      | .ok table' => table'
      | .error _ => table
  | .delete owner => table.delete owner

/-- The index after the calls. -/
def index (calls : List Call) : PersonTrigrams := calls.foldl (Call.apply chars toLowercase) empty

/-- The name an owner is indexed with after one more call. -/
def Call.names (owner : TrigramOwner) (name : Option PersonName) : Call → Option PersonName
  | .upsert owner' name' => if owner' = owner then some name' else name
  | .delete owner' => if owner' = owner then none else name

/-- The name an owner is indexed with. -/
def indexed (calls : List Call) (owner : TrigramOwner) : Option PersonName :=
  calls.foldl (Call.names owner) none

/-- An owner holds the trigrams of its name. -/
def Holds (table : PersonTrigrams) (names : TrigramOwner → Option PersonName) : Prop :=
  ∀ row, row ∈ table.rows ↔
    ∃ name, names row.owner = some name ∧ row.trigram ∈ name.trigrams chars toLowercase

variable {chars toLowercase}

theorem Holds.apply {table : PersonTrigrams} {names : TrigramOwner → Option PersonName}
    (h : Holds chars toLowercase table names) (call : Call) :
    Holds chars toLowercase (call.apply chars toLowercase table) fun owner =>
      call.names owner (names owner) := by
  intro row
  cases call with
  | upsert owner name =>
    obtain ⟨table', hrun, hrows⟩ := upsert_ok owner (name.trigrams chars toLowercase) table
    simp only [Call.apply, Call.names, hrun]
    rw [hrows, h row]
    by_cases howner : owner = row.owner
    · subst howner
      simp
    · simp [howner, Ne.symm howner]
  | delete owner =>
    simp only [Call.apply, Call.names]
    rw [mem_delete, h row]
    by_cases howner : owner = row.owner
    · subst howner
      simp
    · simp [howner, Ne.symm howner]

/-- After any calls an owner holds the trigrams of the name it was last indexed with. -/
theorem holds_index (calls : List Call) :
    Holds chars toLowercase (index chars toLowercase calls) (indexed calls) := by
  induction calls using List.reverseRecOn with
  | nil => intro row; simp [index, indexed, empty]
  | append_singleton calls call ih =>
    have hstep := ih.apply call
    unfold index indexed
    simp only [List.foldl_append, List.foldl_cons, List.foldl_nil]
    exact hstep

end Runs

/-! ## Scores -/

section Scores

variable {table : PersonTrigrams} {query : List String} {owner : TrigramOwner}

/-- The trigrams an owner shares with the query. -/
def sharedWith (table : PersonTrigrams) (query : List String) (owner : TrigramOwner) : List String :=
  ((table.rows.filter fun row => row.trigram ∈ query).filter fun row => row.owner = owner).map
    TrigramRow.trigram

theorem length_sharedWith : (sharedWith table query owner).length = table.sharing query owner :=
  List.length_map _

theorem mem_sharedWith {g : String} : g ∈ sharedWith table query owner ↔ ⟨owner, g⟩ ∈ table.rows ∧ g ∈ query := by
  simp only [sharedWith, List.mem_map, List.mem_filter, decide_eq_true_eq]
  constructor
  · rintro ⟨row, ⟨⟨hrow, hquery⟩, rfl⟩, rfl⟩
    exact ⟨hrow, hquery⟩
  · rintro ⟨hrow, hquery⟩
    exact ⟨⟨owner, g⟩, ⟨⟨hrow, hquery⟩, rfl⟩, rfl⟩

theorem nodup_sharedWith : (sharedWith table query owner).Nodup := by
  refine List.Nodup.map_on ?_ ((table.unique.filter _).filter _)
  intro row hrow row' hrow' htrigram
  have howner := of_decide_eq_true (List.mem_filter.mp hrow).2
  have howner' := of_decide_eq_true (List.mem_filter.mp hrow').2
  cases row
  cases row'
  simp_all

/-- An owner shares at most the distinct trigrams of the query. -/
theorem sharing_le (table : PersonTrigrams) (query : List String) (owner : TrigramOwner) :
    table.sharing query owner ≤ query.dedup.length := by
  rw [← length_sharedWith]
  refine (nodup_sharedWith.subperm fun g hg => ?_).length_le
  exact List.mem_dedup.mpr (mem_sharedWith.mp hg).2

/-- An owner that holds exactly the trigrams of the query shares each of them once. -/
theorem sharing_of_same (h : ∀ g, ⟨owner, g⟩ ∈ table.rows ↔ g ∈ query) :
    table.sharing query owner = query.dedup.length := by
  rw [← length_sharedWith]
  refine ((List.perm_ext_iff_of_nodup nodup_sharedWith query.nodup_dedup).mpr fun g => ?_).length_eq
  rw [mem_sharedWith, h, and_self, List.mem_dedup]

theorem length_dedup_eq_iff : query.dedup.length = query.length ↔ query.Nodup := by
  constructor
  · intro hlength
    exact List.dedup_eq_self.mp (query.dedup_sublist.eq_of_length hlength)
  · intro hnodup
    rw [List.dedup_eq_self.mpr hnodup]

/-- A candidate carries what its owner shares with the query, as a part of the query. -/
theorem of_mem_topMatches {ranking : Ranking} {limit : Nat} {c : PersonTrigramCandidate}
    (h : c ∈ topMatches ranking table query limit) :
    0 < query.length ∧ c.score = (table.sharing query c.owner : Rat) / query.length := by
  unfold topMatches at h
  split at h
  · cases h
  · next hquery =>
    have hpos : 0 < query.length := List.length_pos_iff.mpr fun hnil => hquery (by rw [hnil]; rfl)
    obtain ⟨group, hgroup, rfl⟩ := List.mem_map.mp h
    have hmem := (ranking.perm _).mem_iff.mp (List.mem_of_mem_take hgroup)
    obtain ⟨owner, -, rfl⟩ := List.mem_map.mp hmem
    refine ⟨hpos, ?_⟩
    unfold candidate
    rw [if_neg (Nat.ne_of_gt hpos)]

end Scores

/-- What a score is to be: a part of the query, and all of it for an owner with the queried name. -/
structure ScoredRight (calls : List Call) (name : PersonName) (c : PersonTrigramCandidate) : Prop where
  nonneg : 0 ≤ c.score
  le_one : c.score ≤ 1
  own : indexed calls c.owner = some name → c.score = 1

/-- **The scores.**  A candidate of a name's query is scored right unless its owner is indexed with
that name and some trigram of the name occurs twice: the owner holds it once and the query counts it
twice. -/
theorem trigram_scores_iff (chars : CharClass) (toLowercase : String → String) (ranking : Ranking)
    (calls : List Call) (name : PersonName) (limit : Nat) (c : PersonTrigramCandidate)
    (h : c ∈ topMatches ranking (index chars toLowercase calls) (name.trigrams chars toLowercase) limit) :
    ScoredRight calls name c ↔
      (indexed calls c.owner = some name → (name.trigrams chars toLowercase).Nodup) := by
  obtain ⟨hpos, hscore⟩ := of_mem_topMatches h
  have hposRat : (0 : Rat) < (name.trigrams chars toLowercase).length := Nat.cast_pos.mpr hpos
  have hle := (sharing_le (index chars toLowercase calls) (name.trigrams chars toLowercase) c.owner).trans
    (List.dedup_sublist _).length_le
  have hown : indexed calls c.owner = some name →
      (c.score = 1 ↔ (name.trigrams chars toLowercase).Nodup) := by
    intro hindexed
    have hsame : ∀ g, ⟨c.owner, g⟩ ∈ (index chars toLowercase calls).rows ↔
        g ∈ name.trigrams chars toLowercase := by
      intro g
      rw [holds_index calls ⟨c.owner, g⟩, hindexed]
      simp
    rw [hscore, sharing_of_same hsame, div_eq_one_iff_eq hposRat.ne', Nat.cast_inj]
    exact length_dedup_eq_iff
  constructor
  · intro hright hindexed
    exact (hown hindexed).mp (hright.own hindexed)
  · intro hcondition
    refine ⟨?_, ?_, fun hindexed => (hown hindexed).mpr (hcondition hindexed)⟩
    · rw [hscore]
      exact div_nonneg (Nat.cast_nonneg _) (Nat.cast_nonneg _)
    · rw [hscore, div_le_one hposRat, Nat.cast_le]
      exact hle

/-! ## Two names -/

/-- Latin names. -/
def latinChars : CharClass := ⟨Char.isAlpha, Char.isDigit⟩

def latinLowercase (s : String) : String := String.ofList (s.toList.map Char.toLower)

/-- Ties stay in the order of the groups. -/
def stableRanking : Ranking where
  order groups := groups.mergeSort fun a b => b.2 ≤ a.2
  perm _ := List.mergeSort_perm _ _
  descending groups := by
    refine (List.pairwise_mergeSort (fun a b c hab hbc => ?_) (fun a b => ?_) groups).imp fun h =>
      of_decide_eq_true h
    · rw [decide_eq_true_iff] at hab hbc ⊢
      omega
    · rw [Bool.or_eq_true, decide_eq_true_iff, decide_eq_true_iff]
      omega

/-- The only owner that shares a trigram is returned. -/
theorem mem_topMatches_single {table : PersonTrigrams} {query : List String} {group : TrigramOwner × Nat}
    (limit : Nat) (hquery : query ≠ []) (hgroups : table.groups query = [group]) :
    candidate query.length group ∈ topMatches stableRanking table query limit := by
  have hlimit : [group].take (max minTopMatches (min limit maxTopMatches)) = [group] := by
    refine List.take_of_length_le ?_
    unfold minTopMatches
    simp
  unfold topMatches stableRanking
  rw [if_neg (by simpa using hquery), hgroups]
  simp only [List.mergeSort_singleton]
  rw [hlimit]
  exact List.mem_singleton_self _

def ivanPetrov : PersonName := ⟨"Ivan", "Petrov"⟩
def annaAnna : PersonName := ⟨"Anna", "Anna"⟩

def seventhUser : TrigramOwner := ⟨.user, 7⟩

theorem ivan_scored : ∃ c ∈ topMatches stableRanking
      (index latinChars latinLowercase [.upsert seventhUser ivanPetrov])
      (ivanPetrov.trigrams latinChars latinLowercase) 5,
    ScoredRight [.upsert seventhUser ivanPetrov] ivanPetrov c := by
  have hgroups : (index latinChars latinLowercase [.upsert seventhUser ivanPetrov]).groups
      (ivanPetrov.trigrams latinChars latinLowercase) = [(seventhUser, 9)] := by decide +kernel
  have hmem := mem_topMatches_single 5 (PersonName.trigrams_ne_nil _ _ _) hgroups
  exact ⟨_, hmem, (trigram_scores_iff _ _ _ _ _ _ _ hmem).mpr fun _ => by decide +kernel⟩

/-- Seven trigrams, five of them distinct. -/
theorem anna_underscored : PersonName.parse latinChars "Anna" "Anna" = .ok annaAnna ∧
    ¬ ∀ c ∈ topMatches stableRanking
        (index latinChars latinLowercase [.upsert seventhUser annaAnna])
        (annaAnna.trigrams latinChars latinLowercase) 5,
      ScoredRight [.upsert seventhUser annaAnna] annaAnna c := by
  have hgroups : (index latinChars latinLowercase [.upsert seventhUser annaAnna]).groups
      (annaAnna.trigrams latinChars latinLowercase) = [(seventhUser, 5)] := by decide +kernel
  have hlength : (annaAnna.trigrams latinChars latinLowercase).length = 7 := by decide +kernel
  have hmem := mem_topMatches_single 5 (PersonName.trigrams_ne_nil _ _ _) hgroups
  refine ⟨by decide, fun hall => ?_⟩
  have hscore := (hall _ hmem).own rfl
  rw [hlength] at hscore
  exact absurd hscore (by decide +kernel)

end PersonTrigrams

end TaskBot
