import TaskBot.UseCases.Onboarding

/-!
# What onboarding does to the row of a user

`Profile` is the part of a user onboarding is about: the state and the two names.
On profiles the dialog is a small machine (`Profile.step`), and without failures
the use case follows it:

    db.profile message.senderId = some p →
      the profile after handleText is p.step chars text      (profile_handleText)

Registration, which ends the dialog, keeps every profile.
-/

namespace TaskBot

open Sql Calls

/-! ## Profiles -/

structure Profile where
  state : OnboardingState
  firstName : Option String
  lastName : Option String
deriving DecidableEq, Repr

def User.profile (u : User) : Profile := ⟨u.onboardingState, u.firstName, u.lastName⟩

/-- Completed, with both names. -/
def Profile.isOnboarded (p : Profile) : Bool :=
  p.state.isTerminal && User.nonEmpty p.firstName && User.nonEmpty p.lastName

/-- The row of an account. -/
def Db.account (db : Db) (telegramId : Int) : Option (Stored UserColumns) :=
  db.users.find? fun r => r.val.user.telegramId = telegramId

def Db.profile (db : Db) (telegramId : Int) : Option Profile :=
  (db.account telegramId).map fun r => (toUser r).profile

theorem Db.profile_of_account {db : Db} {telegramId : Int} {r : Stored UserColumns}
    (h : db.account telegramId = some r) : db.profile telegramId = some (toUser r).profile := by
  rw [Db.profile, h]
  rfl

theorem Db.account_of_profile {db : Db} {telegramId : Int} {p : Profile}
    (h : db.profile telegramId = some p) :
    ∃ r, db.account telegramId = some r ∧ (toUser r).profile = p := Option.map_eq_some_iff.mp h

/-! ## Statements on one row -/

theorem telegramId_of_keeps {f : UserColumns → UserColumns} (hf : KeepsKeys f) (c : UserColumns) :
    (f c).user.telegramId = c.user.telegramId := by
  have h := hf c c
  simpa [Keyed.clash] using h

section

variable {db : Db} {telegramId : Int} {r : Stored UserColumns} {q : Stored UserColumns → Bool}
  {f : UserColumns → UserColumns}

theorem account_modify (hf : KeepsKeys f) :
    (db.users.modify q f hf).find? (fun r => r.val.user.telegramId = telegramId) =
      (db.account telegramId).map (setWhere q f) :=
  Table.find?_modify fun r => by rw [telegramId_of_keeps hf]

/-- `UPDATE … WHERE q RETURNING …` when `q` picks the row of the account. -/
theorem updateReturning_account (hf : KeepsKeys f) (missing : AppError)
    (hr : db.account telegramId = some r) (hq : q r = true) (hid : ∀ r', q r' = true → r'.id = r.id) :
    ∃ db', UserRepository.updateReturning q f hf missing db = (.ok (toUser ⟨r.id, f r.val⟩), db') ∧
      db'.account telegramId = some ⟨r.id, f r.val⟩ ∧ db'.employees = db.employees := by
  have hmem := (Table.find?_some hr).1
  have hfind : db.users.find? q = some r :=
    Table.find?_eq hmem hq fun a b ha hb => .inl (by rw [hid a ha, hid b hb])
  refine ⟨{ db with users := db.users.modify q f hf }, ?_, ?_, rfl⟩
  · unfold UserRepository.updateReturning
    rw [hfind]
  · show (db.users.modify q f hf).find? _ = _
    rw [account_modify, hr]
    show some (setWhere q f r) = _
    rw [setWhere, if_pos hq]

end

section

variable {db : Db} {message : IncomingMessage} {telegramId : Int} {r : Stored UserColumns}

theorem run_findAccount (db : Db) (telegramId : Int) :
    (UserRepository.findByTelegramId telegramId).run noFaults db =
      (.ok ((db.account telegramId).map toUser), db) := run_select rfl db

/-- `/start` again touches the chat and the username only. -/
theorem run_ensureSession (hr : db.account message.senderId = some r) :
    ∃ u db', (UserRepository.ensureSession message).run noFaults db = (.ok u, db') ∧
      db'.profile message.senderId = some (toUser r).profile := by
  obtain ⟨db', hrun, hacc, -⟩ := updateReturning_account
    (UserRepository.touchSession_keeps message.chatId message.senderUsername message.timestamp)
    UserRepository.rowNotFound hr (decide_eq_true (rfl : r.id = r.id)) fun _ h => of_decide_eq_true h
  have hprofile := Db.profile_of_account hacc
  refine ⟨toUser ⟨r.id, UserRepository.touchSession message.chatId message.senderUsername
    message.timestamp r.val⟩, db', ?_, hprofile⟩
  rw [← hrun]
  show UserRepository.ensureOnboardingSession _ _ _ _ _ db = _
  unfold UserRepository.ensureOnboardingSession
  rw [show db.users.find? _ = some r from hr]

theorem atVersion_self (r : Stored UserColumns) :
    UserRepository.atVersion r.id r.val.user.onboardingVersion r = true := decide_eq_true ⟨rfl, rfl⟩

theorem id_of_atVersion {userId version : Int} {r : Stored UserColumns}
    (h : UserRepository.atVersion userId version r = true) : r.id = userId := (of_decide_eq_true h).1

/-- A step is stored at the version that was read. -/
theorem run_saveProgress (hr : db.account telegramId = some r) (next : OnboardingState)
    (first last : Option String) (now : Instant) :
    ∃ db', (UserRepository.saveProgress r.id (toUser r).onboardingVersion next first last now).run noFaults db =
        (.ok (toUser ⟨r.id, UserRepository.progressColumns next first last now r.val⟩), db') ∧
      db'.account telegramId = some ⟨r.id, UserRepository.progressColumns next first last now r.val⟩ ∧
      db'.employees = db.employees :=
  updateReturning_account
    (UserRepository.progressColumns_keeps next first last now)
    (UserRepository.onboardingConflict r.id r.val.user.onboardingVersion) hr (atVersion_self r)
    fun _ h => id_of_atVersion h

theorem run_complete (hr : db.account telegramId = some r) (first last : String)
    (link : Option Int) (now : Instant) :
    ∃ db', (UserRepository.complete r.id (toUser r).onboardingVersion first last link now).run noFaults db =
        (.ok (toUser ⟨r.id, UserRepository.completedColumns first last link now r.val⟩), db') ∧
      db'.account telegramId = some ⟨r.id, UserRepository.completedColumns first last link now r.val⟩ ∧
      db'.employees = db.employees :=
  updateReturning_account
    (UserRepository.completedColumns_keeps first last link now)
    (UserRepository.onboardingConflict r.id r.val.user.onboardingVersion) hr (atVersion_self r)
    fun _ h => id_of_atVersion h

theorem profile_progress (r : Stored UserColumns) (next : OnboardingState) (first last : Option String)
    (now : Instant) : (toUser ⟨r.id, UserRepository.progressColumns next first last now r.val⟩).profile =
      ⟨next, first.or r.val.user.firstName, last.or r.val.user.lastName⟩ := by
  simp [User.profile, toUser, UserRepository.progressColumns]

theorem profile_completed (r : Stored UserColumns) (first last : String) (link : Option Int) (now : Instant) :
    (toUser ⟨r.id, UserRepository.completedColumns first last link now r.val⟩).profile =
      ⟨.completed, some first, some last⟩ := by
  simp [User.profile, toUser, UserRepository.completedColumns]

end

/-! ## Registration keeps the profiles -/

/-- Who has a profile has the same one afterwards. -/
def SameProfiles (db db' : Db) : Prop :=
  ∀ telegramId p, db.profile telegramId = some p → db'.profile telegramId = some p

theorem SameProfiles.refl (db : Db) : SameProfiles db db := fun _ _ => id

theorem SameProfiles.trans (db₁ db₂ db₃ : Db) (h : SameProfiles db₁ db₂) (h' : SameProfiles db₂ db₃) :
    SameProfiles db₁ db₃ := fun telegramId p hp => h' telegramId p (h telegramId p hp)

theorem SameProfiles.of_users {db db' : Db} (h : db'.users = db.users) : SameProfiles db db' := by
  intro telegramId p hp
  unfold Db.profile Db.account
  rw [h]
  exact hp

/-- No statement of the program moves a profile. -/
def KeepsProfiles {α : Type} (p : Proc α) : Prop := p.Within SameProfiles

theorem KeepsProfiles.of_reads {α : Type} {p : Proc α} (h : p.Within Eq) : KeepsProfiles p :=
  h.mono fun db _ he => he ▸ .refl db

/-- A message carries no onboarding names, so its upsert leaves them. -/
theorem upsertUser_sameProfiles {user : User} (hfirst : user.firstName = none)
    (hlast : user.lastName = none) (db : Db) : SameProfiles db (UserRepository.upsertUser user db).2 := by
  intro telegramId p hp
  obtain ⟨r, hr, rfl⟩ := Db.account_of_profile hp
  unfold UserRepository.upsertUser
  split
  · have hkept : ∀ r : Stored UserColumns, ∀ q, (toUser (setWhere q
        (UserRepository.mergeFromMessage user) r)).profile = (toUser r).profile := by
      intro r q
      unfold setWhere
      split
      · simp [User.profile, toUser, UserRepository.mergeFromMessage, hfirst, hlast]
      · rfl
    show ((db.users.modify _ _ (UserRepository.mergeFromMessage_keeps user)).find? _).map _ = _
    rw [account_modify, hr]
    exact congrArg some (hkept r _)
  · exact Db.profile_of_account (Table.find?_insert hr)

namespace RegisterUser

theorem executeWithLinkDecision_keepsProfiles (toLowercase : String → String) (clock : Nat → Instant)
    (message : IncomingMessage) (decision : RegistrationLinkDecision) :
    KeepsProfiles (executeWithLinkDecision toLowercase clock message decision) := by
  have hresolve := resolveEmployeeForDecision_reads toLowercase message decision
  refine .bind (KeepsProfiles.of_reads hresolve) fun employee => ?_
  refine .bind (.perform (upsertUser_sameProfiles rfl rfl)) fun actor => .bind ?_ fun _ => .pure _
  exact (recoverPendingAssignments_writes clock actor employee).mono fun _ _ h => .of_users h.users

/-- A known user who does not ask for `/start` is never asked to choose. -/
theorem run_previewLinking_known {db : Db} {message : IncomingMessage} {r : Stored UserColumns}
    (toLowercase : String → String) (hr : db.account message.senderId = some r)
    (hstart : message.isExplicitStartCommand = false) :
    ∃ decision, (previewLinking toLowercase message).run noFaults db = (.ok (.ready decision), db) := by
  have hfound := run_findAccount db message.senderId
  rw [hr] at hfound
  unfold previewLinking
  rw [Prog.run_bind_ok noFaults hfound]
  split
  · exact ⟨_, rfl⟩
  · rw [if_pos ⟨rfl, by simp [hstart]⟩]
    exact ⟨_, rfl⟩

end RegisterUser

/-! ## The dialog on profiles -/

/-- What a text does to the profile of a user who does not start over. -/
def Profile.step (chars : CharClass) (text : String) (p : Profile) : Profile :=
  if charsCount text > maxPersonNamePartLength then p
  else
    match p.state with
    | .awaitingFirstName =>
        match PersonName.parseFirstOnly chars text with
        | .ok first => ⟨.awaitingLastName, some first, p.lastName⟩
        | .error _ => p
    | .awaitingLastName =>
        match PersonName.parseLastWithFirst chars (p.firstName.getD "") text with
        | .ok name => ⟨.completed, some name.first, some name.last⟩
        | .error _ => p
    | .awaitingEmployeeLink | .completed => p

namespace Onboarding

section

variable {chars : CharClass} {toLowercase : String → String} {clock : Nat → Instant}
  {message : IncomingMessage} {db : Db} {r : Stored UserColumns}

theorem lift_userId {α : Type} (r : Stored UserColumns) (e : AppError) (f : Int → Proc α) :
    (Prog.lift (okOrElse (toUser r).id e) >>= f) = f r.id := rfl

theorem run_requireActiveSession (hr : db.account message.senderId = some r) :
    (requireActiveSession message.senderId).run noFaults db = (.ok (toUser r), db) := by
  have hfound := run_findAccount db message.senderId
  rw [hr] at hfound
  unfold requireActiveSession
  rw [Prog.run_bind_ok noFaults hfound]
  rfl

/-- `/start` leaves the profile as it is. -/
theorem profile_handleStart (hr : db.account message.senderId = some r) :
    ((handleStart message).run noFaults db).2.profile message.senderId = some (toUser r).profile := by
  obtain ⟨u, db', hrun, hprofile⟩ := run_ensureSession hr
  unfold handleStart
  rw [Prog.run_bind_ok noFaults hrun]
  exact hprofile

theorem profile_stepFirstName (hr : db.account message.senderId = some r)
    (hstate : (toUser r).onboardingState = .awaitingFirstName) (text : String) :
    ((stepFirstName chars message (toUser r) text).run noFaults db).2.profile message.senderId =
      some ((toUser r).profile.step chars text) := by
  have hp := Db.profile_of_account hr
  have hst : (toUser r).profile.state = .awaitingFirstName := hstate
  unfold stepFirstName Profile.step
  by_cases hlen : charsCount text > maxPersonNamePartLength
  · rw [if_pos hlen, if_pos hlen]
    exact hp
  · rw [if_neg hlen, if_neg hlen, hst]
    cases PersonName.parseFirstOnly chars text with
    | error e => exact hp
    | ok first =>
      obtain ⟨db', hrun, hacc, -⟩ :=
        run_saveProgress hr .awaitingLastName (some first) none message.timestamp
      show ((Prog.lift _ >>= _ : Proc OnboardingOutcome).run noFaults db).2.profile _ = _
      rw [lift_userId, Prog.run_bind_ok noFaults hrun]
      show db'.profile message.senderId = _
      rw [Db.profile_of_account hacc, profile_progress]
      rfl

/-- The row is completed before the registration runs, whatever that comes to. -/
theorem profile_finish (hr : db.account message.senderId = some r) (first last : String)
    (decision : RegistrationLinkDecision) :
    ((finish toLowercase clock message (toUser r) first last decision).run noFaults db).2.profile
      message.senderId = some ⟨.completed, some first, some last⟩ := by
  obtain ⟨db', hrun, hacc, -⟩ := run_complete hr first last (linkOf decision) message.timestamp
  have hprofile : db'.profile message.senderId = some ⟨.completed, some first, some last⟩ := by
    rw [Db.profile_of_account hacc, profile_completed]
  have hkeeps : KeepsProfiles (do
      let _ ← RegisterUser.executeWithLinkDecision toLowercase clock message decision
      pure (OnboardingOutcome.completed (toUser ⟨r.id, UserRepository.completedColumns first last
        (linkOf decision) message.timestamp r.val⟩))) :=
    .bind (RegisterUser.executeWithLinkDecision_keepsProfiles toLowercase clock message decision)
      fun _ => .pure _
  have hafter := Prog.run_within noFaults SameProfiles.refl SameProfiles.trans hkeeps db'
    message.senderId _ hprofile
  unfold finish
  rw [lift_userId, Prog.run_bind_ok noFaults hrun]
  exact hafter

theorem profile_stepLastName (hr : db.account message.senderId = some r)
    (hstart : message.isExplicitStartCommand = false)
    (hstate : (toUser r).onboardingState = .awaitingLastName) (text : String) :
    ((stepLastName chars toLowercase clock message (toUser r) text).run noFaults db).2.profile
      message.senderId = some ((toUser r).profile.step chars text) := by
  have hp := Db.profile_of_account hr
  have hst : (toUser r).profile.state = .awaitingLastName := hstate
  have hfirst : (toUser r).profile.firstName = (toUser r).firstName := rfl
  unfold stepLastName Profile.step
  by_cases hlen : charsCount text > maxPersonNamePartLength
  · rw [if_pos hlen, if_pos hlen]
    exact hp
  · rw [if_neg hlen, if_neg hlen, hst, hfirst]
    cases PersonName.parseLastWithFirst chars ((toUser r).firstName.getD "") text with
    | error e => exact hp
    | ok name =>
      obtain ⟨db', hrun, hacc, -⟩ :=
        run_saveProgress hr .awaitingEmployeeLink none (some name.last) message.timestamp
      obtain ⟨decision, hpreview⟩ := RegisterUser.run_previewLinking_known toLowercase hacc hstart
      show ((Prog.lift _ >>= _ : Proc OnboardingOutcome).run noFaults db).2.profile _ = _
      rw [lift_userId, Prog.run_bind_ok noFaults hrun, Prog.run_bind_ok noFaults hpreview]
      exact profile_finish hacc name.first name.last decision

/-- **The use case follows the machine on profiles.** -/
theorem profile_handleText {p : Profile} (hp : db.profile message.senderId = some p)
    (hstart : message.isExplicitStartCommand = false) (text : String) :
    ((handleText chars toLowercase clock message text).run noFaults db).2.profile message.senderId =
      some (p.step chars text) := by
  obtain ⟨r, hr, rfl⟩ := Db.account_of_profile hp
  have hstay : (toUser r).profile.state = .awaitingEmployeeLink ∨ (toUser r).profile.state = .completed →
      (toUser r).profile.step chars text = (toUser r).profile := by
    intro hst
    unfold Profile.step
    rcases hst with hst | hst <;> rw [hst] <;> exact ite_self _
  unfold handleText
  rw [Prog.run_bind_ok noFaults (run_requireActiveSession hr)]
  split
  · next hst => exact profile_stepFirstName hr hst text
  · next hst => exact profile_stepLastName hr hstart hst text
  · next hst =>
    rw [hstay (.inl hst)]
    exact hp
  · next hst =>
    rw [hstay (.inr hst)]
    exact hp

end

end Onboarding

end TaskBot
