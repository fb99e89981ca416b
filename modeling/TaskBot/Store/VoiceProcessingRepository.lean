import TaskBot.Domain.VoiceProcessing
import TaskBot.Store.UserRepository

/-!
# Voice processing repository

The attempts by their file, each moved by a compare-and-swap on its state, and the
scrub of what old attempts still hold of a transcript.

* `VoiceCall.rows_run`: what each call does to the rows, in one rule;
* `voice_lifecycle_iff`: in a run of calls the attempts keep their lifecycle
  exactly while no call but `mark_transcribed` finishes one.

`transition_state` writes no completion time, and the scrub looks for one: an
attempt that failed keeps its error code for ever.
-/

namespace TaskBot

open Sql

instance : Keyed VoiceProcessingRecord where
  clash a b := a.fileUniqueId = b.fileUniqueId
  clash_comm _ _ := decide_eq_decide.mpr eq_comm

/-- The rows of `voice_processing_records`. -/
abbrev VoiceTable := Table VoiceProcessingRecord

inductive VoiceTransitionOutcome where
  | transitioned (record : VoiceProcessingRecord)
  | staleExpectedState
  | notFound
  | invalidTransition
deriving DecidableEq, Repr

namespace VoiceProcessingRepository

/-- `WHERE file_unique_id = ?`. -/
def byKey (fileUniqueId : String) (r : Stored VoiceProcessingRecord) : Bool :=
  r.val.fileUniqueId = fileUniqueId

def rowToRecord (r : Stored VoiceProcessingRecord) : VoiceProcessingRecord :=
  { r.val with id := some r.id, attemptCount := r.val.attemptCount % 2 ^ 32 }

def fetchByKey (fileUniqueId : String) (t : VoiceTable) : Option VoiceProcessingRecord :=
  (t.find? (byKey fileUniqueId)).map rowToRecord

/-- The row of `INSERT`: no error, no hash, no completion time, whatever the record has. -/
def inserted (record : VoiceProcessingRecord) : VoiceProcessingRecord :=
  { record with id := none, lastErrorCode := none, transcriptPreviewHash := none, completedAt := none }

def getOrCreateQueued (record : VoiceProcessingRecord) (t : VoiceTable) :
    AppResult VoiceProcessingRecord × VoiceTable :=
  match t.find? (byKey record.fileUniqueId) with
  | some row => (.ok (rowToRecord row), t)
  | none =>
      let t' := (t.insertOrIgnore (inserted record)).1
      (okOrElse (fetchByKey record.fileUniqueId t') UserRepository.rowNotFound, t')

/-- The columns of the update in `transition_state`. -/
def moved (next : VoiceProcessingState) (errorCode : Option String) (now : Instant)
    (c : VoiceProcessingRecord) : VoiceProcessingRecord :=
  { c with state := next, attemptCount := c.attemptCount + 1, lastErrorCode := errorCode, updatedAt := now }

/-- The columns of the update in `mark_transcribed`. -/
def finished (transcriptPreviewHash : String) (now : Instant) (c : VoiceProcessingRecord) :
    VoiceProcessingRecord :=
  { c with
    state := .transcribed, transcriptPreviewHash := some transcriptPreviewHash,
    completedAt := some now, updatedAt := now }

/-- The columns of the update in `purge_stale_payloads`. -/
def scrubbed (c : VoiceProcessingRecord) : VoiceProcessingRecord :=
  { c with transcriptPreviewHash := none, lastErrorCode := none }

theorem moved_keeps (next : VoiceProcessingState) (errorCode : Option String) (now : Instant) :
    KeepsKeys (moved next errorCode now) := fun _ _ => rfl

theorem finished_keeps (transcriptPreviewHash : String) (now : Instant) :
    KeepsKeys (finished transcriptPreviewHash now) := fun _ _ => rfl

theorem scrubbed_keeps : KeepsKeys scrubbed := fun _ _ => rfl

def transitionState (fileUniqueId : String) (expected next : VoiceProcessingState)
    (errorCode : Option String) (now : Instant) (t : VoiceTable) :
    AppResult VoiceTransitionOutcome × VoiceTable :=
  if expected.canTransitionTo next = false then (.ok .invalidTransition, t)
  else
    match t.find? (byKey fileUniqueId) with
    | none => (.ok .notFound, t)
    | some row =>
        if row.val.state.asCode ≠ expected.asCode then (.ok .staleExpectedState, t)
        else
          let t' := t.modify (byKey fileUniqueId) (moved next errorCode now) (moved_keeps next errorCode now)
          ((okOrElse (fetchByKey fileUniqueId t') UserRepository.rowNotFound).map .transitioned, t')

def markTranscribed (fileUniqueId transcriptPreviewHash : String) (now : Instant) (t : VoiceTable) :
    AppResult VoiceTransitionOutcome × VoiceTable :=
  match t.find? (byKey fileUniqueId) with
  | none => (.ok .notFound, t)
  | some row =>
      if row.val.state.asCode ≠ VoiceProcessingState.transcribing.asCode then (.ok .staleExpectedState, t)
      else
        let t' := t.modify (byKey fileUniqueId) (finished transcriptPreviewHash now)
          (finished_keeps transcriptPreviewHash now)
        ((okOrElse (fetchByKey fileUniqueId t') UserRepository.rowNotFound).map .transitioned, t')

/-- The `WHERE` of `purge_stale_payloads`. -/
def isStale (olderThan : Instant) (r : Stored VoiceProcessingRecord) : Bool :=
  r.val.completedAt.any (· < olderThan) && r.val.state.isTerminal
    && (r.val.transcriptPreviewHash.isSome || r.val.lastErrorCode.isSome)

/-- Answers how many rows were scrubbed. -/
def purgeStalePayloads (olderThan : Instant) (t : VoiceTable) : Nat × VoiceTable :=
  (t.rows.countP (isStale olderThan), t.modify (isStale olderThan) scrubbed scrubbed_keeps)

end VoiceProcessingRepository

/-! ## Runs of calls -/

open VoiceProcessingRepository

inductive VoiceCall where
  | getOrCreateQueued (record : VoiceProcessingRecord)
  | transitionState (fileUniqueId : String) (expected next : VoiceProcessingState)
      (errorCode : Option String) (now : Instant)
  | markTranscribed (fileUniqueId transcriptPreviewHash : String) (now : Instant)
  | purgeStalePayloads (olderThan : Instant)
deriving DecidableEq, Repr

namespace VoiceCall

/-- The table after the call. -/
def run : VoiceCall → VoiceTable → VoiceTable
  | .getOrCreateQueued record, t => (VoiceProcessingRepository.getOrCreateQueued record t).2
  | .transitionState fileUniqueId expected next errorCode now, t =>
      (VoiceProcessingRepository.transitionState fileUniqueId expected next errorCode now t).2
  | .markTranscribed fileUniqueId transcriptPreviewHash now, t =>
      (VoiceProcessingRepository.markTranscribed fileUniqueId transcriptPreviewHash now t).2
  | .purgeStalePayloads olderThan, t => (VoiceProcessingRepository.purgeStalePayloads olderThan t).2

/-- The instant the call stamps its row with. -/
def instant : VoiceCall → Option Instant
  | .getOrCreateQueued record => some record.updatedAt
  | .transitionState _ _ _ _ now => some now
  | .markTranscribed _ _ now => some now
  | .purgeStalePayloads _ => none

/-- The rows the call rewrites. -/
def selects : VoiceCall → Stored VoiceProcessingRecord → Bool
  | .getOrCreateQueued _, _ => false
  | .transitionState fileUniqueId expected next _ _, r =>
      expected.canTransitionTo next && byKey fileUniqueId r && r.val.state = expected
  | .markTranscribed fileUniqueId _ _, r => byKey fileUniqueId r && r.val.state = .transcribing
  | .purgeStalePayloads olderThan, r => isStale olderThan r

def columns : VoiceCall → VoiceProcessingRecord → VoiceProcessingRecord
  | .getOrCreateQueued _, c => c
  | .transitionState _ _ next errorCode now, c => moved next errorCode now c
  | .markTranscribed _ transcriptPreviewHash now, c => finished transcriptPreviewHash now c
  | .purgeStalePayloads _, c => scrubbed c

/-- A row after the call. -/
def turned (c : VoiceCall) : Stored VoiceProcessingRecord → Stored VoiceProcessingRecord :=
  setWhere c.selects c.columns

/-- The row the call appends. -/
def Adds (c : VoiceCall) (t : VoiceTable) (r : Stored VoiceProcessingRecord) : Prop :=
  ∃ record, c = .getOrCreateQueued record ∧ t.find? (byKey record.fileUniqueId) = none ∧
    r = ⟨t.nextId, inserted record⟩

@[simp] theorem turned_id (c : VoiceCall) (r : Stored VoiceProcessingRecord) : (c.turned r).id = r.id :=
  setWhere_id _ _ _

theorem turned_key (c : VoiceCall) (r : Stored VoiceProcessingRecord) :
    (c.turned r).val.fileUniqueId = r.val.fileUniqueId := by
  unfold turned setWhere
  split
  · cases c <;> rfl
  · rfl

theorem turned_of_selects {c : VoiceCall} {r : Stored VoiceProcessingRecord} (h : c.selects r = true) :
    c.turned r = ⟨r.id, c.columns r.val⟩ := if_pos h

theorem turned_of_not {c : VoiceCall} {r : Stored VoiceProcessingRecord} (h : ¬ c.selects r = true) :
    c.turned r = r := if_neg h

/-- A key is that of one row. -/
theorem find?_byKey {t : VoiceTable} {r : Stored VoiceProcessingRecord} (hr : r ∈ t.rows) {key : String}
    (hkey : byKey key r = true) : t.find? (byKey key) = some r := by
  refine Table.find?_eq hr hkey fun a b ha hb => .inr ?_
  simp only [byKey, decide_eq_true_eq] at ha hb
  exact decide_eq_true (ha.trans hb.symm)

/-- An update by key that checks the state of the row it found rewrites the rows in that state. -/
theorem map_byKey {t : VoiceTable} {row : Stored VoiceProcessingRecord} {key : String}
    {state : VoiceProcessingState} (f : VoiceProcessingRecord → VoiceProcessingRecord)
    (hrow : t.find? (byKey key) = some row) :
    t.rows.map (setWhere (fun r => byKey key r && r.val.state = state) f) =
      if row.val.state = state then t.rows.map (setWhere (byKey key) f) else t.rows := by
  have honly : ∀ r ∈ t.rows, byKey key r = true → r = row := by
    intro r hr hkey
    have hfind := find?_byKey hr hkey
    rw [hrow] at hfind
    exact (Option.some.inj hfind).symm
  split
  · next hstate =>
    refine List.map_congr_left fun r hr => ?_
    unfold setWhere
    by_cases hkey : byKey key r = true
    · rw [honly r hr hkey, if_pos (by simp [hstate, (Table.find?_some hrow).2]),
        if_pos (Table.find?_some hrow).2]
    · simp [hkey]
  · next hstate =>
    rw [List.map_congr_left (g := id), List.map_id]
    intro r hr
    refine if_neg fun h => ?_
    obtain ⟨hkey, hst⟩ := Bool.and_eq_true_iff.mp h
    rw [honly r hr hkey] at hst
    exact hstate (of_decide_eq_true hst)

theorem map_byKey_none {t : VoiceTable} {key : String} {state : VoiceProcessingState}
    (f : VoiceProcessingRecord → VoiceProcessingRecord) (hnone : t.find? (byKey key) = none) :
    t.rows.map (setWhere (fun r => byKey key r && r.val.state = state) f) = t.rows := by
  rw [List.map_congr_left (g := id), List.map_id]
  intro r hr
  exact if_neg (by simp [Table.find?_none hnone r hr])

theorem map_selects_none {t : VoiceTable} {c : VoiceCall} (h : ∀ r ∈ t.rows, ¬ c.selects r = true) :
    t.rows.map c.turned = t.rows := by
  have hid : ∀ r ∈ t.rows, c.turned r = id r := fun r hr => turned_of_not (h r hr)
  rw [List.map_congr_left hid, List.map_id]

/-- What every call but `get_or_create_queued` makes of the rows. -/
theorem rows_run {c : VoiceCall} (hc : ∀ record, c ≠ .getOrCreateQueued record) (t : VoiceTable) :
    (c.run t).rows = t.rows.map c.turned := by
  cases c with
  | getOrCreateQueued record => exact absurd rfl (hc record)
  | purgeStalePayloads olderThan => rfl
  | transitionState key expected next errorCode now =>
    simp only [run, VoiceProcessingRepository.transitionState]
    by_cases hallowed : expected.canTransitionTo next = true
    · rw [if_neg (by simp [hallowed])]
      have hturned : t.rows.map (transitionState key expected next errorCode now).turned =
          t.rows.map (setWhere (fun r => byKey key r && r.val.state = expected) (moved next errorCode now)) := by
        refine List.map_congr_left fun r _ => ?_
        simp [turned, setWhere, selects, columns, hallowed]
      rw [hturned]
      cases hfind : t.find? (byKey key) with
      | none => exact (map_byKey_none _ hfind).symm
      | some row =>
        rw [map_byKey _ hfind]
        simp only [ne_eq, VoiceProcessingState.asCode_inj]
        by_cases hstate : row.val.state = expected
        · rw [if_neg (not_not.mpr hstate), if_pos hstate]
          rfl
        · rw [if_pos hstate, if_neg hstate]
    · rw [if_pos (by simpa using hallowed), map_selects_none]
      intro r _ h
      exact hallowed (by simp only [selects, Bool.and_eq_true] at h; exact h.1.1)
  | markTranscribed key hash now =>
    simp only [run, VoiceProcessingRepository.markTranscribed]
    have hturned : t.rows.map (markTranscribed key hash now).turned =
        t.rows.map (setWhere (fun r => byKey key r && r.val.state = .transcribing) (finished hash now)) := rfl
    rw [hturned]
    cases hfind : t.find? (byKey key) with
    | none => exact (map_byKey_none _ hfind).symm
    | some row =>
      rw [map_byKey _ hfind]
      simp only [ne_eq, VoiceProcessingState.asCode_inj]
      by_cases hstate : row.val.state = .transcribing
      · rw [if_neg (not_not.mpr hstate), if_pos hstate]
        rfl
      · rw [if_pos hstate, if_neg hstate]

/-- What a call makes of the table: every row turned, and perhaps one more. -/
theorem mem_run {c : VoiceCall} {t : VoiceTable} {r : Stored VoiceProcessingRecord} :
    r ∈ (c.run t).rows ↔ (∃ r₀ ∈ t.rows, c.turned r₀ = r) ∨ c.Adds t r := by
  by_cases hc : ∃ record, c = .getOrCreateQueued record
  · obtain ⟨record, rfl⟩ := hc
    have hturned : ∀ r₀, (getOrCreateQueued record).turned r₀ = r₀ := fun r₀ => turned_of_not Bool.false_ne_true
    simp only [hturned, exists_eq_right]
    simp only [run, VoiceProcessingRepository.getOrCreateQueued]
    cases hfind : t.find? (byKey record.fileUniqueId) with
    | some row =>
      refine ⟨.inl, ?_⟩
      rintro (h | ⟨_, hrec, hnone, -⟩)
      · exact h
      · cases hrec
        rw [hfind] at hnone
        cases hnone
    | none =>
      rcases Table.insertOrIgnore_cases t (inserted record) with ⟨⟨r₀, hr₀, hclash⟩, -⟩ | ⟨-, hrows, -⟩
      · have hno := Table.find?_none hfind r₀ hr₀
        have hapart : Keyed.clash r₀.val (inserted record) = false := hno
        rw [hapart] at hclash
        cases hclash
      · simp only [hrows, List.mem_append, List.mem_singleton]
        refine or_congr_right ⟨fun h => ⟨record, rfl, hfind, h⟩, ?_⟩
        rintro ⟨_, hrec, -, h⟩
        cases hrec
        exact h
  · have hcreate : ¬ c.Adds t r := fun ⟨record, h, _⟩ => hc ⟨record, h⟩
    rw [rows_run (fun record h => hc ⟨record, h⟩), List.mem_map, or_iff_left hcreate]

/-- The call finishes an attempt by a statement that writes no completion time. -/
def FinishesUnmarked (t : VoiceTable) : VoiceCall → Prop
  | .getOrCreateQueued record =>
      record.state.isTerminal = true ∧ t.find? (byKey record.fileUniqueId) = none
  | .transitionState fileUniqueId expected next _ _ =>
      next.isTerminal = true ∧ expected.canTransitionTo next = true ∧
        ∃ r ∈ t.rows, byKey fileUniqueId r = true ∧ r.val.state = expected
  | .markTranscribed _ _ _ => False
  | .purgeStalePayloads _ => False

/-- The call makes the attempt a finished one at this instant. -/
def Finishes (c : VoiceCall) (t : VoiceTable) (id : Int) (now : Instant) : Prop :=
  (∀ r ∈ t.rows, r.id = id → r.val.state.isTerminal = false) ∧
    (∃ r ∈ (c.run t).rows, r.id = id ∧ r.val.state.isTerminal = true) ∧ c.instant = some now

variable {c : VoiceCall} {t : VoiceTable} {r : Stored VoiceProcessingRecord}

/-- A finished attempt is left in its state, with its completion time. -/
theorem turned_of_terminal (c : VoiceCall) (h : r.val.state.isTerminal = true) :
    (c.turned r).val.state = r.val.state ∧ (c.turned r).val.completedAt = r.val.completedAt := by
  by_cases hsel : c.selects r = true
  · rw [turned_of_selects hsel]
    cases c with
    | getOrCreateQueued record => exact ⟨rfl, rfl⟩
    | purgeStalePayloads olderThan => exact ⟨rfl, rfl⟩
    | transitionState key expected next errorCode now =>
      -- The expected state allows a move, so it is not terminal.
      simp only [selects, Bool.and_eq_true, decide_eq_true_eq] at hsel
      rw [hsel.2, VoiceProcessingState.not_terminal_of_canTransitionTo hsel.1.1] at h
      cases h
    | markTranscribed key hash now =>
      simp only [selects, Bool.and_eq_true, decide_eq_true_eq] at hsel
      rw [hsel.2] at h
      cases h
  · rw [turned_of_not hsel]
    exact ⟨rfl, rfl⟩

/-- What becomes of an attempt that is not finished, while nothing finishes unmarked. -/
theorem turned_of_open (hr : r ∈ t.rows) (hopen : r.val.state.isTerminal = false)
    (hc : ¬ c.FinishesUnmarked t) :
    ((c.turned r).val.state.isTerminal = false ∧ (c.turned r).val.completedAt = r.val.completedAt) ∨
      ∃ key hash now, c = .markTranscribed key hash now ∧ c.turned r = ⟨r.id, finished hash now r.val⟩ := by
  by_cases hsel : c.selects r = true
  · rw [turned_of_selects hsel]
    cases c with
    | getOrCreateQueued record => exact .inl ⟨hopen, rfl⟩
    | purgeStalePayloads olderThan => exact .inl ⟨hopen, rfl⟩
    | transitionState key expected next errorCode now =>
      simp only [selects, Bool.and_eq_true, decide_eq_true_eq] at hsel
      refine .inl ⟨?_, rfl⟩
      by_contra hterm
      exact hc ⟨by simpa [columns, moved] using hterm, hsel.1.1, r, hr, hsel.1.2, hsel.2⟩
    | markTranscribed key hash now => exact .inr ⟨key, hash, now, rfl, rfl⟩
  · rw [turned_of_not hsel]
    exact .inl ⟨hopen, rfl⟩

/-- Whether a call finishes an attempt of the table is to be seen in its row. -/
theorem finishes_iff (hr : r ∈ t.rows) {now : Instant} :
    c.Finishes t r.id now ↔
      r.val.state.isTerminal = false ∧ (c.turned r).val.state.isTerminal = true ∧ c.instant = some now := by
  have honly : ∀ r' ∈ t.rows, r'.id = r.id → r' = r := fun r' hr' hid =>
    Table.eq_of_not_apart hr' hr (.inl hid)
  constructor
  · rintro ⟨hopen, ⟨r₁, hr₁, hid, hterm⟩, hnow⟩
    refine ⟨hopen r hr rfl, ?_, hnow⟩
    rcases mem_run.mp hr₁ with ⟨r₀, hr₀, rfl⟩ | ⟨record, -, -, rfl⟩
    · rw [turned_id] at hid
      rw [honly r₀ hr₀ hid] at hterm
      exact hterm
    · have hfresh := t.fresh r hr
      have hnext : t.nextId = r.id := hid
      omega
  · rintro ⟨hopen, hterm, hnow⟩
    exact ⟨fun r' hr' hid => by rw [honly r' hr' hid]; exact hopen,
      ⟨c.turned r, mem_run.mpr (.inl ⟨r, hr, rfl⟩), turned_id c r, hterm⟩, hnow⟩

/-- The hash of an attempt goes by a purge only. -/
theorem turned_hash (c : VoiceCall) (h : (c.turned r).val.transcriptPreviewHash = none) :
    r.val.transcriptPreviewHash = none ∨
      ∃ olderThan, c = .purgeStalePayloads olderThan ∧ isStale olderThan r = true := by
  by_cases hsel : c.selects r = true
  · cases c with
    | getOrCreateQueued record => cases hsel
    | purgeStalePayloads olderThan => exact .inr ⟨olderThan, rfl, hsel⟩
    | transitionState key expected next errorCode now =>
      rw [turned_of_selects hsel] at h
      exact .inl h
    | markTranscribed key hash now =>
      rw [turned_of_selects hsel] at h
      cases h
  · rw [turned_of_not hsel] at h
    exact .inl h

theorem nextId_run (c : VoiceCall) (t : VoiceTable) : t.nextId ≤ (c.run t).nextId := by
  by_cases hc : ∃ record, c = .getOrCreateQueued record
  · obtain ⟨record, rfl⟩ := hc
    simp only [run, VoiceProcessingRepository.getOrCreateQueued]
    cases t.find? (byKey record.fileUniqueId) with
    | some row => exact Int.le_refl _
    | none =>
      show t.nextId ≤ (t.insertOrIgnore (inserted record)).1.nextId
      rcases Table.insertOrIgnore_cases t (inserted record) with ⟨-, h⟩ | ⟨-, -, h, -⟩
      · exact Int.le_of_eq (congrArg (fun inserted => Table.nextId inserted.1) h).symm
      · omega
  · cases c with
    | getOrCreateQueued record => exact absurd ⟨record, rfl⟩ hc
    | purgeStalePayloads olderThan => exact Int.le_refl _
    | transitionState key expected next errorCode now =>
      simp only [run, VoiceProcessingRepository.transitionState]
      split
      · exact Int.le_refl _
      · split
        · exact Int.le_refl _
        · split <;> exact Int.le_refl _
    | markTranscribed key hash now =>
      simp only [run, VoiceProcessingRepository.markTranscribed]
      split
      · exact Int.le_refl _
      · split <;> exact Int.le_refl _

end VoiceCall

/-- The table after the calls, from the empty one. -/
def voiceRun (calls : List VoiceCall) : VoiceTable := calls.foldl (fun t c => c.run t) Table.empty

/-- Some call of the run finished the attempt at this instant. -/
def FinishedAt (calls : List VoiceCall) (id : Int) (now : Instant) : Prop :=
  ∃ before c after, calls = before ++ c :: after ∧ VoiceCall.Finishes c (voiceRun before) id now

/-- Some purge of the run took what the attempt held. -/
def Purged (calls : List VoiceCall) (id : Int) : Prop :=
  ∃ before olderThan after, calls = before ++ .purgeStalePayloads olderThan :: after ∧
    ∃ r ∈ (voiceRun before).rows, r.id = id ∧ isStale olderThan r = true

/-- What the states and the scrub promise of the attempts after the calls. -/
structure VoiceLifecycle (calls : List VoiceCall) : Prop where
  sticky : ∀ before after, calls = before ++ after → ∀ r ∈ (voiceRun before).rows,
    r.val.state.isTerminal = true →
      ∃ r' ∈ (voiceRun calls).rows, r'.id = r.id ∧ r'.val.fileUniqueId = r.val.fileUniqueId ∧
        r'.val.state = r.val.state
  completed : ∀ r ∈ (voiceRun calls).rows, r.val.state.isTerminal = true → r.val.completedAt.isSome = true
  hashed : ∀ r ∈ (voiceRun calls).rows, r.val.state = .transcribed → ¬ Purged calls r.id →
    r.val.transcriptPreviewHash.isSome = true
  scrubs : ∀ olderThan, ∀ r ∈ (voiceRun calls).rows, r.val.state.isTerminal = true →
    ∀ now, FinishedAt calls r.id now → now < olderThan →
      ⟨r.id, scrubbed r.val⟩ ∈ (purgeStalePayloads olderThan (voiceRun calls)).2.rows
  spares : ∀ olderThan, ∀ r ∈ (voiceRun calls).rows,
    (r.val.state.isTerminal = true → ∀ now, FinishedAt calls r.id now → ¬ now < olderThan) →
      r ∈ (purgeStalePayloads olderThan (voiceRun calls)).2.rows

/-! ## The invariant of the runs that finish nothing unmarked -/

section Runs

variable {calls : List VoiceCall} {c : VoiceCall}

theorem voiceRun_snoc (calls : List VoiceCall) (c : VoiceCall) :
    voiceRun (calls ++ [c]) = c.run (voiceRun calls) := by
  simp [voiceRun]

/-- An element of a list extended at its end is in the list, or is the last. -/
theorem split_of_snoc {α : Type} {xs before after : List α} {x y : α} (h : xs ++ [x] = before ++ y :: after) :
    (∃ mid, xs = before ++ y :: mid) ∨ (xs = before ∧ x = y) := by
  cases after using List.reverseRecOn with
  | nil =>
    obtain ⟨hxs, hx⟩ := List.append_inj' h rfl
    exact .inr ⟨hxs, List.singleton_injective hx⟩
  | append_singleton mid z _ =>
    have h' : xs ++ [x] = (before ++ y :: mid) ++ [z] := by rw [h, List.append_assoc, List.cons_append]
    exact .inl ⟨mid, (List.append_inj' h' rfl).1⟩

theorem finishedAt_snoc {id : Int} {now : Instant} :
    FinishedAt (calls ++ [c]) id now ↔ FinishedAt calls id now ∨ c.Finishes (voiceRun calls) id now := by
  constructor
  · rintro ⟨before, c', after, h, hfin⟩
    rcases split_of_snoc h with ⟨mid, hcalls⟩ | ⟨hcalls, hc⟩
    · exact .inl ⟨before, c', mid, hcalls, hfin⟩
    · rw [hcalls, hc]
      exact .inr hfin
  · rintro (⟨before, c', after, rfl, hfin⟩ | hfin)
    · exact ⟨before, c', after ++ [c], by simp, hfin⟩
    · exact ⟨calls, c, [], rfl, hfin⟩

theorem purged_snoc {id : Int} : Purged (calls ++ [c]) id ↔
    Purged calls id ∨ ∃ olderThan, c = .purgeStalePayloads olderThan ∧
      ∃ r ∈ (voiceRun calls).rows, r.id = id ∧ isStale olderThan r = true := by
  constructor
  · rintro ⟨before, olderThan, after, h, hrow⟩
    rcases split_of_snoc h with ⟨mid, hcalls⟩ | ⟨hcalls, hc⟩
    · exact .inl ⟨before, olderThan, mid, hcalls, hrow⟩
    · rw [hcalls]
      exact .inr ⟨olderThan, hc, hrow⟩
  · rintro (⟨before, olderThan, after, rfl, hrow⟩ | ⟨olderThan, rfl, hrow⟩)
    · exact ⟨before, olderThan, after ++ [c], by simp, hrow⟩
    · exact ⟨calls, olderThan, [], rfl, hrow⟩

/-- In every run an attempt that is not finished has no completion time. -/
theorem completedAt_of_open (calls : List VoiceCall) :
    ∀ r ∈ (voiceRun calls).rows, r.val.state.isTerminal = false → r.val.completedAt = none := by
  induction calls using List.reverseRecOn with
  | nil => intro r hr; cases hr
  | append_singleton calls c ih =>
    intro r hr hopen
    rw [voiceRun_snoc] at hr
    rcases VoiceCall.mem_run.mp hr with ⟨r₀, hr₀, rfl⟩ | ⟨record, -, -, rfl⟩
    · have hopen₀ : r₀.val.state.isTerminal = false := by
        cases hterm : r₀.val.state.isTerminal with
        | false => rfl
        | true => rw [(VoiceCall.turned_of_terminal c hterm).1, hterm] at hopen; cases hopen
      by_cases hsel : c.selects r₀ = true
      · rw [VoiceCall.turned_of_selects hsel] at hopen ⊢
        cases c with
        | markTranscribed key hash now => cases hopen
        | _ => exact ih r₀ hr₀ hopen₀
      · rw [VoiceCall.turned_of_not hsel]
        exact ih r₀ hr₀ hopen₀
    · rfl

/-- The completion times are those of the finishing calls. -/
structure VoiceLedger (calls : List VoiceCall) : Prop where
  finished_iff : ∀ r ∈ (voiceRun calls).rows, ∀ now,
    FinishedAt calls r.id now ↔ r.val.completedAt = some now
  stored : ∀ id now, FinishedAt calls id now → id < (voiceRun calls).nextId
  terminal_iff : ∀ r ∈ (voiceRun calls).rows, r.val.state.isTerminal = r.val.completedAt.isSome
  hashed : ∀ r ∈ (voiceRun calls).rows, r.val.state = .transcribed →
    r.val.transcriptPreviewHash = none → Purged calls r.id

namespace VoiceLedger

theorem nil : VoiceLedger [] where
  finished_iff _ hr := by cases hr
  stored := by
    rintro id now ⟨before, c, after, h, -⟩
    exact absurd h (by simp)
  terminal_iff _ hr := by cases hr
  hashed _ hr := by cases hr

theorem finished_iff_snoc (h : VoiceLedger calls) (hc : ¬ c.FinishesUnmarked (voiceRun calls)) :
    ∀ r ∈ (c.run (voiceRun calls)).rows, ∀ now,
      FinishedAt (calls ++ [c]) r.id now ↔ r.val.completedAt = some now := by
  intro r hr now
  rw [finishedAt_snoc]
  rcases VoiceCall.mem_run.mp hr with ⟨r₀, hr₀, rfl⟩ | ⟨record, rfl, hfree, rfl⟩
  · rw [VoiceCall.turned_id, h.finished_iff r₀ hr₀ now, VoiceCall.finishes_iff hr₀]
    cases hterm : r₀.val.state.isTerminal with
    | true =>
      rw [(VoiceCall.turned_of_terminal c hterm).2]
      simp
    | false =>
      rcases VoiceCall.turned_of_open hr₀ hterm hc with ⟨hopen, hsame⟩ | ⟨key, hash, at_, rfl, hturned⟩
      · rw [hopen, hsame]
        simp
      · rw [hturned, completedAt_of_open calls r₀ hr₀ hterm]
        simp [finished, VoiceCall.instant, VoiceProcessingState.isTerminal]
  · -- A row that is new was not finished, and is not by this call.
    refine ⟨?_, fun hnone => absurd hnone (by simp [inserted])⟩
    rintro (hfin | ⟨-, ⟨r₁, hr₁, hid, hterm⟩, -⟩)
    · exact absurd (h.stored _ _ hfin) (Int.lt_irrefl _)
    · rcases VoiceCall.mem_run.mp hr₁ with ⟨r₀, hr₀, rfl⟩ | ⟨record', hrec, -, rfl⟩
      · have hfresh := (voiceRun calls).fresh r₀ hr₀
        rw [VoiceCall.turned_id] at hid
        have hnext : r₀.id = (voiceRun calls).nextId := hid
        omega
      · cases hrec
        exact absurd ⟨hterm, hfree⟩ hc

theorem terminal_iff_snoc (h : VoiceLedger calls) (hc : ¬ c.FinishesUnmarked (voiceRun calls)) :
    ∀ r ∈ (c.run (voiceRun calls)).rows, r.val.state.isTerminal = r.val.completedAt.isSome := by
  intro r hr
  rcases VoiceCall.mem_run.mp hr with ⟨r₀, hr₀, rfl⟩ | ⟨record, rfl, hfree, rfl⟩
  · cases hterm : r₀.val.state.isTerminal with
    | true =>
      obtain ⟨hstate, hat⟩ := VoiceCall.turned_of_terminal c hterm
      rw [hstate, hat]
      exact h.terminal_iff r₀ hr₀
    | false =>
      rcases VoiceCall.turned_of_open hr₀ hterm hc with ⟨hopen, hsame⟩ | ⟨key, hash, at_, rfl, hturned⟩
      · rw [hopen, hsame, completedAt_of_open calls r₀ hr₀ hterm]
        rfl
      · rw [hturned]
        rfl
  · by_contra hterm
    exact hc ⟨by simpa [inserted] using hterm, hfree⟩

theorem hashed_snoc (h : VoiceLedger calls) (hc : ¬ c.FinishesUnmarked (voiceRun calls)) :
    ∀ r ∈ (c.run (voiceRun calls)).rows, r.val.state = .transcribed →
      r.val.transcriptPreviewHash = none → Purged (calls ++ [c]) r.id := by
  intro r hr hstate hhash
  rcases VoiceCall.mem_run.mp hr with ⟨r₀, hr₀, rfl⟩ | ⟨record, rfl, hfree, rfl⟩
  · rw [VoiceCall.turned_id, purged_snoc]
    cases hterm : r₀.val.state.isTerminal with
    | true =>
      rw [(VoiceCall.turned_of_terminal c hterm).1] at hstate
      rcases VoiceCall.turned_hash c hhash with hnone | ⟨olderThan, rfl, hstale⟩
      · exact .inl (h.hashed r₀ hr₀ hstate hnone)
      · exact .inr ⟨olderThan, rfl, r₀, hr₀, rfl, hstale⟩
    | false =>
      rcases VoiceCall.turned_of_open hr₀ hterm hc with ⟨hopen, -⟩ | ⟨key, hash, at_, rfl, hturned⟩
      · rw [hstate] at hopen
        cases hopen
      · rw [hturned] at hhash
        cases hhash
  · have hrecord : record.state = .transcribed := hstate
    exact absurd ⟨by rw [hrecord]; rfl, hfree⟩ hc

/-- **A call that finishes nothing unmarked keeps the ledger.** -/
theorem snoc (h : VoiceLedger calls) (hc : ¬ c.FinishesUnmarked (voiceRun calls)) :
    VoiceLedger (calls ++ [c]) where
  finished_iff := by rw [voiceRun_snoc]; exact h.finished_iff_snoc hc
  stored := by
    intro id now hfin
    rw [voiceRun_snoc]
    rcases finishedAt_snoc.mp hfin with hfin | ⟨-, ⟨r, hr, rfl, -⟩, -⟩
    · exact Int.lt_of_lt_of_le (h.stored id now hfin) (c.nextId_run (voiceRun calls))
    · exact (c.run (voiceRun calls)).fresh r hr
  terminal_iff := by rw [voiceRun_snoc]; exact h.terminal_iff_snoc hc
  hashed := by rw [voiceRun_snoc]; exact h.hashed_snoc hc

theorem of_run : ∀ calls : List VoiceCall,
    (∀ before c, before ++ [c] <+: calls → ¬ c.FinishesUnmarked (voiceRun before)) → VoiceLedger calls := by
  intro calls
  induction calls using List.reverseRecOn with
  | nil => exact fun _ => nil
  | append_singleton calls c ih =>
    intro h
    have hprefix : VoiceLedger calls :=
      ih fun before c' hpre => h before c' (hpre.trans (List.prefix_append calls [c]))
    exact hprefix.snoc (h calls c List.prefix_rfl)

end VoiceLedger

/-! ## The lifecycle -/

/-- A finished attempt stays in its state over every run of calls. -/
theorem voiceRun_sticky (before after : List VoiceCall) : ∀ r ∈ (voiceRun before).rows,
    r.val.state.isTerminal = true →
      ∃ r' ∈ (voiceRun (before ++ after)).rows, r'.id = r.id ∧
        r'.val.fileUniqueId = r.val.fileUniqueId ∧ r'.val.state = r.val.state := by
  intro r hr hterm
  induction after using List.reverseRecOn with
  | nil => exact ⟨r, by rw [List.append_nil]; exact hr, rfl, rfl, rfl⟩
  | append_singleton after c ih =>
    obtain ⟨r', hr', hid, hkey, hstate⟩ := ih
    rw [← List.append_assoc, voiceRun_snoc]
    refine ⟨c.turned r', VoiceCall.mem_run.mpr (.inl ⟨r', hr', rfl⟩), ?_, ?_, ?_⟩
    · rw [VoiceCall.turned_id, hid]
    · rw [← hkey]
      exact VoiceCall.turned_key c r'
    · rw [← hstate]
      exact (VoiceCall.turned_of_terminal c (by rw [hstate]; exact hterm)).1

theorem mem_purge (olderThan : Instant) {t : VoiceTable} {r : Stored VoiceProcessingRecord} (hr : r ∈ t.rows) :
    setWhere (isStale olderThan) scrubbed r ∈ (purgeStalePayloads olderThan t).2.rows :=
  List.mem_map.mpr ⟨r, hr, rfl⟩

theorem scrubbed_of_empty {c : VoiceProcessingRecord} (hhash : c.transcriptPreviewHash = none)
    (herror : c.lastErrorCode = none) : scrubbed c = c := by
  cases c
  cases hhash
  cases herror
  rfl

theorem VoiceLedger.lifecycle (h : VoiceLedger calls) : VoiceLifecycle calls where
  sticky := by
    rintro before after rfl
    exact voiceRun_sticky before after
  completed := by
    intro r hr hterm
    rw [← h.terminal_iff r hr]
    exact hterm
  hashed := by
    intro r hr hstate hkept
    by_contra hnone
    exact hkept (h.hashed r hr hstate (by simpa using hnone))
  scrubs := by
    intro olderThan r hr hterm now hfin hnow
    have hmem := mem_purge olderThan hr
    by_cases hstale : isStale olderThan r = true
    · rw [setWhere, if_pos hstale] at hmem
      exact hmem
    · -- Nothing is left to take.
      have hempty : scrubbed r.val = r.val := by
        simp only [isStale, (h.finished_iff r hr now).mp hfin, hterm, Option.any_some, hnow, decide_true,
          Bool.true_and, Bool.or_eq_true, not_or, Option.isSome_iff_ne_none, ne_eq, not_not] at hstale
        exact scrubbed_of_empty hstale.1 hstale.2
      rw [setWhere, if_neg hstale] at hmem
      rw [hempty]
      exact hmem
  spares := by
    intro olderThan r hr hlater
    have hmem := mem_purge olderThan hr
    rw [setWhere, if_neg] at hmem
    · exact hmem
    · intro hstale
      simp only [isStale, Bool.and_eq_true] at hstale
      obtain ⟨⟨hold, hterm⟩, -⟩ := hstale
      obtain ⟨now, hat, hnow⟩ := Option.any_eq_true _ _ |>.mp hold
      exact hlater hterm now ((h.finished_iff r hr now).mpr hat) (of_decide_eq_true hnow)

/-- A call that finishes an attempt unmarked leaves it without a completion time. -/
theorem exists_unmarked (hc : c.FinishesUnmarked (voiceRun calls)) :
    ∃ r ∈ (voiceRun (calls ++ [c])).rows, r.val.state.isTerminal = true ∧ r.val.completedAt = none := by
  rw [voiceRun_snoc]
  cases c with
  | getOrCreateQueued record =>
    obtain ⟨hterm, hfree⟩ := hc
    exact ⟨_, VoiceCall.mem_run.mpr (.inr ⟨record, rfl, hfree, rfl⟩), hterm, rfl⟩
  | transitionState key expected next errorCode now =>
    obtain ⟨hterm, hallowed, r, hr, hkey, hstate⟩ := hc
    have hsel : (VoiceCall.transitionState key expected next errorCode now).selects r = true := by
      simp [VoiceCall.selects, hallowed, hkey, hstate]
    have hopen : r.val.state.isTerminal = false := by
      rw [hstate]
      exact VoiceProcessingState.not_terminal_of_canTransitionTo hallowed
    refine ⟨_, VoiceCall.mem_run.mpr (.inl ⟨r, hr, VoiceCall.turned_of_selects hsel⟩), hterm, ?_⟩
    exact completedAt_of_open calls r hr hopen
  | markTranscribed key hash now => exact hc.elim
  | purgeStalePayloads olderThan => exact hc.elim

/-- **The attempts keep their lifecycle exactly while every one that is finished is
finished by `mark_transcribed`.** -/
theorem voice_lifecycle_iff (calls : List VoiceCall) :
    (∀ before, before <+: calls → VoiceLifecycle before) ↔
      ∀ before c, before ++ [c] <+: calls → ¬ c.FinishesUnmarked (voiceRun before) := by
  constructor
  · intro h before c hpre hc
    obtain ⟨r, hr, hterm, hnone⟩ := exists_unmarked hc
    have hsome := (h _ hpre).completed r hr hterm
    rw [hnone] at hsome
    cases hsome
  · intro h before hpre
    exact (VoiceLedger.of_run before fun prev c hprev => h prev c (hprev.trans hpre)).lifecycle

/-- A voice message that could not be transcribed, with what the service said of it. -/
def failedVoice : List VoiceCall :=
  [.getOrCreateQueued (.queued "AgADBAAD" 42 99 none 0),
    .transitionState "AgADBAAD" .queued .failed (some "STT_QUOTA_EXCEEDED") 1]

/-- It has no completion time, and no purge takes its error code. -/
theorem failed_voice_kept :
    ¬ VoiceLifecycle failedVoice ∧ ((purgeStalePayloads 100 (voiceRun failedVoice)).2.rows.map fun r =>
      (r.val.state, r.val.completedAt, r.val.lastErrorCode)) = [(.failed, none, some "STT_QUOTA_EXCEEDED")] := by
  refine ⟨fun h => ?_, by decide⟩
  have hrow := h.completed ⟨1, moved .failed (some "STT_QUOTA_EXCEEDED") 1
    (inserted (.queued "AgADBAAD" 42 99 none 0))⟩ (by decide) rfl
  cases hrow

end Runs

end TaskBot
