import TaskBot.UseCases.EnteredNames

/-!
# Onboarding over interleaved updates

Several updates of one user may be in work at once, and each step of the dialog reads the
row, decides and writes at the version it has read.  `Progress` is what the dialog reads and
writes of a row.

    Step.Moves s p p'      the step `s` takes the progress `p` to `p'`
    acts_move              every act of a run makes no step, or one its use case may make
    onboarding_monotone    so the dialog only moves forward, if every press of a link button
                           finds the dialog waiting for it

`handleLinkSelection` does not look at the state: called late it would write to a completed row.  Its
caller lets no press through to it but while the dialog waits for the link.
-/

namespace TaskBot

open Sql Calls UserRepository

namespace Onboarding

/-! ## Progress -/

structure Progress where
  id : Int
  state : OnboardingState
  version : Int
  firstName : Option String
  lastName : Option String
  linkedEmployeeId : Option Int
deriving DecidableEq, Repr

def progressOf (r : Stored UserColumns) : Progress where
  id := r.id
  state := (toUser r).onboardingState
  version := r.val.user.onboardingVersion
  firstName := r.val.user.firstName
  lastName := r.val.user.lastName
  linkedEmployeeId := r.val.user.linkedEmployeeId

/-- How far the dialog of an account is, if it has been opened. -/
def progress (telegramId : Int) (db : Db) : Option Progress := (db.account telegramId).map progressOf

/-- The stored name has passed the validation of its field. -/
def ValidName (chars : CharClass) (field : String) (name : Option String) : Prop :=
  ∀ n, name = some n → PersonName.validatePart chars field n = .ok ()

/-- The names are validated, and those of the steps before are there. -/
structure Progress.Sound (chars : CharClass) (p : Progress) : Prop where
  first : ValidName chars "first_name" p.firstName
  last : ValidName chars "last_name" p.lastName
  hasFirst : p.state = .awaitingLastName ∨ p.state = .awaitingEmployeeLink → p.firstName.isSome = true
  hasLast : p.state = .awaitingEmployeeLink → p.lastName.isSome = true

/-! ## Steps -/

inductive Step where
  | start | firstName | lastName | finish
deriving DecidableEq, Repr

/-- What a step of the dialog does. -/
inductive Step.Moves (chars : CharClass) : Step → Option Progress → Option Progress → Prop where
  | start (id : Int) : Moves chars .start none (some ⟨id, .awaitingFirstName, 0, none, none, none⟩)
  | firstName (p : Progress) {name : String} (hstate : p.state = .awaitingFirstName)
      (hname : PersonName.validatePart chars "first_name" name = .ok ()) :
      Moves chars .firstName (some p)
        (some { p with state := .awaitingLastName, version := p.version + 1, firstName := some name })
  | lastName (p : Progress) {name : String} (hstate : p.state = .awaitingLastName)
      (hname : PersonName.validatePart chars "last_name" name = .ok ()) :
      Moves chars .lastName (some p)
        (some { p with state := .awaitingEmployeeLink, version := p.version + 1, lastName := some name })
  | finish (p : Progress) (hstate : p.state = .awaitingEmployeeLink) (link : Option Int) :
      Moves chars .finish (some p)
        (some { p with state := .completed, version := p.version + 1, linkedEmployeeId := link })

/-- The place of a state in the dialog. -/
def stateRank : OnboardingState → Nat
  | .awaitingFirstName => 1
  | .awaitingLastName => 2
  | .awaitingEmployeeLink => 3
  | .completed => 4

def rank : Option Progress → Nat
  | none => 0
  | some p => stateRank p.state

section

variable {chars : CharClass} {s : Step} {p p' : Option Progress} {q : Progress}

/-- **A step is one state forward.** -/
theorem Step.Moves.rank (h : s.Moves chars p p') : rank p' = rank p + 1 := by
  cases h with
  | start id => rfl
  | firstName q hstate _ | lastName q hstate _ | finish q hstate _ =>
    show _ = stateRank q.state + 1
    rw [hstate]
    rfl

theorem Step.Moves.sound (h : s.Moves chars p p') (hsound : ∀ q, p = some q → q.Sound chars) :
    ∀ q, p' = some q → q.Sound chars := by
  intro q hq
  cases h with
  | start id =>
    cases hq
    constructor <;> nofun
  | firstName q₀ hstate hname =>
    cases hq
    have hq₀ := hsound q₀ rfl
    refine ⟨fun n hn => ?_, hq₀.last, fun _ => rfl, nofun⟩
    cases hn
    exact hname
  | lastName q₀ hstate hname =>
    cases hq
    have hq₀ := hsound q₀ rfl
    refine ⟨hq₀.first, fun n hn => ?_, fun _ => hq₀.hasFirst (.inl hstate), fun _ => rfl⟩
    cases hn
    exact hname
  | finish q₀ hstate link =>
    cases hq
    have hq₀ := hsound q₀ rfl
    exact ⟨hq₀.first, hq₀.last, nofun, nofun⟩

theorem Step.Moves.awaits (h : Step.Moves chars .finish p p') :
    ∃ q, p = some q ∧ q.state = .awaitingEmployeeLink := by
  cases h with
  | finish q hstate link => exact ⟨q, rfl, hstate⟩

/-- A step keeps the row, raises its version, and does not start from a completed row. -/
theorem Step.Moves.version (h : s.Moves chars (some q) p') :
    q.state ≠ .completed ∧ ∃ q', p' = some q' ∧ q'.id = q.id ∧ q'.version = q.version + 1 := by
  cases h with
  | firstName _ hstate _ => exact ⟨by rw [hstate]; nofun, _, rfl, rfl, rfl⟩
  | lastName _ hstate _ => exact ⟨by rw [hstate]; nofun, _, rfl, rfl, rfl⟩
  | finish _ hstate link => exact ⟨by rw [hstate]; nofun, _, rfl, rfl, rfl⟩

end

/-! ## What a use case may do -/

/-- The steps a use case may make. -/
def May : IdentityCall → Step → Prop
  | .startOnboarding _, s => s = .start
  | .answerOnboarding .., s => s ≠ .start
  | .selectLink .., s => s = .finish
  | .register .., _ | .upsertMessage _, _ => False

section

variable (chars : CharClass) (telegramId : Int)

/-- The dialog is as it was, or one step further. -/
def Advances (db db' : Db) : Prop :=
  progress telegramId db' = progress telegramId db ∨
    ∃ s, Step.Moves chars s (progress telegramId db) (progress telegramId db')

/-- The dialog is as it was, or one step of the use case further. -/
def StepsBy (call : IdentityCall) (db db' : Db) : Prop :=
  progress telegramId db' = progress telegramId db ∨
    ∃ s, May call s ∧ Step.Moves chars s (progress telegramId db) (progress telegramId db')

/-- The progress `p` was read: the row has it still, or has a higher version by now. -/
def Seen (p : Progress) (db : Db) : Prop :=
  ∃ p', progress telegramId db = some p' ∧ p'.id = p.id ∧
    (p' = p ∨ (p.version < p'.version ∧ p.state ≠ .completed))

end

section

variable {chars : CharClass} {telegramId : Int} {call : IdentityCall} {p p' : Progress} {db : Db}

theorem StepsBy.refl (db : Db) : StepsBy chars telegramId call db db := .inl rfl

theorem StepsBy.advances {db db' : Db} (h : StepsBy chars telegramId call db db') : Advances chars telegramId db db' := by
  rcases h with h | ⟨s, -, h⟩
  · exact .inl h
  · exact .inr ⟨s, h⟩

theorem progress_congr {db db' : Db} (h : db'.users = db.users) : progress telegramId db' = progress telegramId db := by
  unfold progress Db.account
  rw [h]

theorem seen_self (h : progress telegramId db = some p) : Seen telegramId p db := ⟨p, h, rfl, .inl rfl⟩

/-- **What was read stays true**: the version only goes up. -/
theorem seen_stable : Stable (Advances chars telegramId) (Seen telegramId p) := by
  rintro db db' hstep ⟨q, hq, hid, hseen⟩
  rcases hstep with h | ⟨s, h⟩
  · exact ⟨q, h.trans hq, hid, hseen⟩
  · rw [hq] at h
    obtain ⟨hnot, q', hq', hid', hversion⟩ := h.version
    refine ⟨q', hq', hid'.trans hid, .inr ?_⟩
    rcases hseen with rfl | ⟨hlt, hstate⟩
    · exact ⟨by omega, hnot⟩
    · exact ⟨by omega, hstate⟩

/-- A completed dialog stays as it is. -/
theorem Seen.completed (h : Seen telegramId p db) (hstate : p.state = .completed) :
    progress telegramId db = some p := by
  obtain ⟨q, hq, -, rfl | ⟨-, hno⟩⟩ := h
  · exact hq
  · exact absurd hstate hno

/-- An update at the version that was read goes ahead from what was read, or fails. -/
theorem guardedUpdate (h : Seen telegramId p db) {f : UserColumns → UserColumns} (hf : KeepsKeys f)
    (missing : AppError) :
    (∃ r, progressOf r = p ∧
      (updateReturning (atVersion p.id p.version) f hf missing db).1 = .ok (toUser ⟨r.id, f r.val⟩) ∧
      progress telegramId db = some p ∧
      progress telegramId (updateReturning (atVersion p.id p.version) f hf missing db).2 =
        some (progressOf ⟨r.id, f r.val⟩)) ∨
    updateReturning (atVersion p.id p.version) f hf missing db = (.error missing, db) := by
  obtain ⟨q, hq, hid, hseen⟩ := h
  obtain ⟨r, hr, rfl⟩ := Option.map_eq_some_iff.mp hq
  cases hfind : db.users.find? (atVersion p.id p.version) with
  | none =>
    refine .inr ?_
    unfold updateReturning
    rw [hfind]
  | some r' =>
    obtain ⟨hr', hmatch⟩ := Table.find?_some hfind
    obtain ⟨hid', hversion⟩ := of_decide_eq_true hmatch
    obtain rfl : r' = r :=
      Table.eq_of_not_apart hr' (Table.find?_some hr).1 (.inl (hid'.trans hid.symm))
    have hp : progressOf r' = p := by
      rcases hseen with h | ⟨hlt, -⟩
      · exact h
      · have hsame : (progressOf r').version = p.version := hversion
        omega
    obtain ⟨db', hrun, hacc, -⟩ := updateReturning_account hf missing hr hmatch fun r'' h'' =>
      (of_decide_eq_true h'').1.trans hid'.symm
    refine .inl ⟨r', hp, by rw [hrun], by rw [hq, hp], ?_⟩
    rw [hrun]
    unfold progress
    rw [hacc]
    rfl

/-- **A guarded update makes its step from the progress that was read, or none.** -/
theorem guardedUpdate_safe {s : Step} (hmay : May call s) (hmoves : Step.Moves chars s (some p) (some p'))
    {f : UserColumns → UserColumns} (hf : KeepsKeys f) (site : Site) (missing : AppError)
    (hto : ∀ r, progressOf r = p → progressOf ⟨r.id, f r.val⟩ = p') :
    Safe (Advances chars telegramId) (StepsBy chars telegramId call) (Seen telegramId p)
      (Prog.perform site (updateReturning (atVersion p.id p.version) f hf missing))
      fun answer db => ∀ u, answer = .ok u → (∃ r, u = toUser r ∧ progressOf r = p') ∧ Seen telegramId p' db := by
  refine Safe.perform (fun answer db db' hstep h u hu => ⟨(h u hu).1, seen_stable _ _ hstep (h u hu).2⟩) ?_
  intro db hseen fault
  have hfailed : ∀ (e : AppError) (db : Db) (u : User), Except.error e = Except.ok u →
      (∃ r, u = toUser r ∧ progressOf r = p') ∧ Seen telegramId p' db := by
    intro e db u hu
    cases hu
  rcases guardedUpdate hseen hf missing with ⟨r, hr, hanswer, hbefore, hafter⟩ | hrefused
  · have hstep : StepsBy chars telegramId call db (updateReturning (atVersion p.id p.version) f hf missing db).2 := by
      refine .inr ⟨s, hmay, ?_⟩
      rw [hbefore, hafter, hto r hr]
      exact hmoves
    cases fault with
    | none =>
      refine ⟨hstep, fun u hu => ⟨⟨_, ?_, hto r hr⟩, seen_self (by rw [← hto r hr]; exact hafter)⟩⟩
      exact (Except.ok.inj (hanswer.symm.trans hu)).symm
    | before e => exact ⟨.refl db, hfailed _ _⟩
    | after e => exact ⟨hstep, hfailed _ _⟩
  · cases fault with
    | none =>
      rw [Fault.apply_none, hrefused]
      exact ⟨.refl db, hfailed _ _⟩
    | before e => exact ⟨.refl db, hfailed _ _⟩
    | after e =>
      rw [Fault.apply_after, hrefused]
      exact ⟨.refl db, hfailed _ _⟩

end

/-! ## The use cases -/

/-- What a user that was read says about the dialog. -/
def userProgress (u : User) : Progress :=
  ⟨u.id.getD 0, u.onboardingState, u.onboardingVersion, u.firstName, u.lastName, u.linkedEmployeeId⟩

section

variable {chars : CharClass} {telegramId : Int} {call : IdentityCall} {message : IncomingMessage}

/-- The dialog, if there is one, is sound. -/
def SoundAt (chars : CharClass) (telegramId : Int) (db : Db) : Prop :=
  ∀ p, progress telegramId db = some p → p.Sound chars

theorem soundAt_stable : Stable (Advances chars telegramId) (SoundAt chars telegramId) := by
  rintro db db' (h | ⟨s, h⟩) hsound
  · unfold SoundAt
    rw [h]
    exact hsound
  · exact h.sound hsound

/-- The row of the session is read; `K` is what the condition says about it. -/
theorem requireActiveSession_safeIf {C : Site → Fault AppError → Db → Prop} {K : Progress → Prop}
    (hC : ∀ f db p, C (.userFindByTelegramId telegramId) f db → progress telegramId db = some p → K p) :
    SafeIf C (Advances chars telegramId) (StepsBy chars telegramId call) (SoundAt chars telegramId)
      (requireActiveSession telegramId) fun answer db => ∀ u, answer = .ok u →
        (∃ r, u = toUser r ∧ (progressOf r).Sound chars ∧ K (progressOf r)) ∧
          Seen telegramId (userProgress u) db := by
  let Q : AppResult (Option User) → Db → Prop := fun answer db => ∀ u, answer = .ok (some u) →
    (∃ r, u = toUser r ∧ (progressOf r).Sound chars ∧ K (progressOf r)) ∧ Seen telegramId (userProgress u) db
  have hstable : ∀ answer, Stable (Advances chars telegramId) (Q answer) := by
    intro answer db db' hstep h u hu
    exact ⟨(h u hu).1, seen_stable _ _ hstep (h u hu).2⟩
  refine SafeIf.bind (Q := Q) (SafeIf.read .refl hstable ?_ ?_) ?_ ?_
  · intro db hsound hmeets u hu
    obtain ⟨r, hr, rfl⟩ := Option.map_eq_some_iff.mp (Except.ok.inj hu)
    have hp : progress telegramId db = some (progressOf r) := congrArg (Option.map progressOf) hr
    exact ⟨⟨r, rfl, hsound _ hp, hC _ _ _ hmeets hp⟩, seen_self hp⟩
  · intro e db _ u hu
    cases hu
  · intro found
    refine SafeIf.of_safe (Safe.ret fun db h u hu => ?_) fun _ _ hg => hg
    cases found with
    | none => cases hu
    | some v =>
      cases hu
      exact h _ rfl
  · intro e db _ u hu
    cases hu

/-- The opening of the dialog. -/
theorem ensureSession_steps (hsender : message.senderId = telegramId) (db : Db) :
    StepsBy chars telegramId (.startOnboarding message) db
      (ensureOnboardingSession message.senderId message.chatId message.senderUsername (some message.senderName)
        message.timestamp db).2 := by
  subst hsender
  unfold ensureOnboardingSession
  cases hfind : db.users.find? fun r => r.val.user.telegramId = message.senderId with
  | some r =>
    obtain ⟨db', hrun, hacc, -⟩ := updateReturning_account
      (touchSession_keeps message.chatId message.senderUsername message.timestamp) rowNotFound
      (show db.account message.senderId = some r from hfind) (decide_eq_true (rfl : r.id = r.id))
      fun _ h => of_decide_eq_true h
    refine .inl ?_
    simp only
    rw [hrun]
    unfold progress
    rw [hacc, show db.account message.senderId = some r from hfind]
    rfl
  | none =>
    refine .inr ⟨.start, rfl, ?_⟩
    have hnone : progress message.senderId db = none := congrArg (Option.map progressOf) hfind
    let columns := onboardingRow message.senderId message.chatId message.senderUsername (some message.senderName)
      message.timestamp
    have hopened : (db.users.insertOrIgnore columns).1.find? (fun r => r.val.user.telegramId = message.senderId) =
        some ⟨db.users.nextId, columns⟩ :=
      Table.find?_insert_of_none hfind (fun r hr => Table.find?_none hfind r hr) (decide_eq_true rfl)
    have hafter : progress message.senderId { db with users := (db.users.insertOrIgnore columns).1 } =
        some ⟨db.users.nextId, .awaitingFirstName, 0, none, none, none⟩ := congrArg (Option.map progressOf) hopened
    rw [hnone]
    exact hafter ▸ Step.Moves.start db.users.nextId

/-- An upsert that writes no other link leaves the dialog as it is. -/
theorem progress_upsert {user : User} {p : Progress} {db : Db} (hid : user.telegramId = telegramId)
    (hfirst : user.firstName = none) (hlast : user.lastName = none)
    (hlink : ∀ k, user.linkedEmployeeId = some k → p.linkedEmployeeId = some k)
    (hp : progress telegramId db = some p) : progress telegramId (upsertUser user db).2 = some p := by
  subst hid
  obtain ⟨r, hr, rfl⟩ := Option.map_eq_some_iff.mp hp
  have hfind : db.users.find? (fun r => r.val.user.telegramId = user.telegramId) = some r := hr
  have hown : hasTelegramId user.telegramId r = true := (Table.find?_some hr).2
  have hmerged : progressOf ⟨r.id, mergeFromMessage user r.val⟩ = progressOf r := by
    have hkept : user.linkedEmployeeId.or r.val.user.linkedEmployeeId = r.val.user.linkedEmployeeId := by
      cases hnew : user.linkedEmployeeId with
      | none => rfl
      | some k => exact (hlink k hnew).symm
    show Progress.mk _ _ _ (user.firstName.or r.val.user.firstName) (user.lastName.or r.val.user.lastName)
      (user.linkedEmployeeId.or r.val.user.linkedEmployeeId) = _
    rw [hfirst, hlast, hkept]
    rfl
  have hafter : (upsertUser user db).2.account user.telegramId = some ⟨r.id, mergeFromMessage user r.val⟩ := by
    unfold upsertUser
    rw [hfind]
    show (db.users.modify _ _ (mergeFromMessage_keeps user)).find? _ = _
    rw [account_modify, hr]
    show some (setWhere (hasTelegramId user.telegramId) _ r) = _
    rw [setWhere, if_pos hown]
  unfold progress
  rw [hafter]
  exact congrArg some hmerged

/-- **The registration at the end of the dialog** leaves the completed row linked as it is. -/
theorem registration_safe {p : Progress} {decision : RegistrationLinkDecision} (toLowercase : String → String)
    (clock : Nat → Instant) (hsender : message.senderId = telegramId) (hstate : p.state = .completed)
    (hauto : decision ≠ .auto) (hlink : ∀ k, linkOf decision = some k → p.linkedEmployeeId = some k) :
    Safe (Advances chars telegramId) (StepsBy chars telegramId call) (Seen telegramId p)
      (RegisterUser.executeWithLinkDecision toLowercase clock message decision) fun _ _ => True := by
  -- the employee, if one is found, is the one the row is linked to
  let Q : AppResult (Option Employee) → Db → Prop := fun answer db =>
    (∀ e, answer = .ok e → ∀ k, e.bind Employee.id = some k → p.linkedEmployeeId = some k) ∧ Seen telegramId p db
  have hstable : ∀ answer, Stable (Advances chars telegramId) (Q answer) := fun answer =>
    Stable.and (.const _ _) seen_stable
  have hresolve : Safe (Advances chars telegramId) (StepsBy chars telegramId call) (Seen telegramId p)
      (RegisterUser.resolveEmployeeForDecision toLowercase message decision) Q := by
    cases decision with
    | auto => exact absurd rfl hauto
    | continueUnlinked =>
      refine Safe.pure fun db hseen => ⟨fun e he k hk => ?_, hseen⟩
      cases he
      cases hk
    | employeeId id =>
      refine Safe.read .refl hstable (fun db hseen => ⟨fun e he k hk => ?_, hseen⟩) fun e db hseen =>
        ⟨fun _ he => (by cases he), hseen⟩
      cases he
      obtain ⟨e, hfound, hid⟩ := Option.bind_eq_some_iff.mp hk
      obtain ⟨r, hr, rfl⟩ := Option.map_eq_some_iff.mp hfound
      have hsame : r.id = id := of_decide_eq_true (Table.find?_some hr).2
      cases hid
      exact hlink r.id (by rw [hsame]; rfl)
  unfold RegisterUser.executeWithLinkDecision
  refine Safe.bind hresolve (fun employee => ?_) fun _ _ _ => trivial
  refine Safe.of_and_const fun hemployee => ?_
  have hpersist : Safe (Advances chars telegramId) (StepsBy chars telegramId call) (Seen telegramId p)
      (RegisterUser.persistUser message employee) fun _ => Seen telegramId p := by
    refine Safe.perform (fun _ => seen_stable) fun db hseen f => ?_
    have hp := hseen.completed hstate
    have hkept : progress telegramId (upsertUser { User.fromMessage message .user employee.isSome with
        linkedEmployeeId := employee.bind Employee.id } db).2 = some p :=
      progress_upsert hsender rfl rfl (hemployee employee rfl) hp
    rcases f.apply_store (upsertUser { User.fromMessage message .user employee.isSome with
        linkedEmployeeId := employee.bind Employee.id }) db with h | h
    · rw [h]
      exact ⟨.refl db, hseen⟩
    · rw [h]
      exact ⟨.inl (hkept.trans hp.symm), seen_self hkept⟩
  refine Safe.bind hpersist (fun actor => ?_) fun _ _ _ => trivial
  have hrecover : Safe (Advances chars telegramId) (StepsBy chars telegramId call) (Seen telegramId p)
      (RegisterUser.recoverPendingAssignments clock actor employee) fun _ => Seen telegramId p :=
    Safe.of_within (RegisterUser.recoverPendingAssignments_writes clock actor employee) .refl
      (fun db db' h => .inl (progress_congr h.users)) (fun _ _ h => h.advances) seen_stable
  exact Safe.bind hrecover (fun _ => Safe.pure fun _ _ => trivial) fun _ _ _ => trivial

/-- The end of the dialog, from the progress that was read. -/
theorem finish_safe {r : Stored UserColumns} {first last : String} {decision : RegistrationLinkDecision}
    (toLowercase : String → String) (clock : Nat → Instant) (hsender : message.senderId = telegramId)
    (hmay : May call .finish) (hstate : (progressOf r).state = .awaitingEmployeeLink)
    (hfirst : (progressOf r).firstName = some first) (hlast : (progressOf r).lastName = some last)
    (hauto : decision ≠ .auto) :
    Safe (Advances chars telegramId) (StepsBy chars telegramId call) (Seen telegramId (progressOf r))
      (finish toLowercase clock message (toUser r) first last decision) fun _ _ => True := by
  let done : Progress := { progressOf r with
    state := .completed
    version := (progressOf r).version + 1
    linkedEmployeeId := (linkOf decision).or (progressOf r).linkedEmployeeId }
  have hcomplete : Safe (Advances chars telegramId) (StepsBy chars telegramId call) (Seen telegramId (progressOf r))
      (complete r.id (toUser r).onboardingVersion first last (linkOf decision) message.timestamp)
      fun answer db => ∀ u, answer = .ok u → (∃ r', u = toUser r' ∧ progressOf r' = done) ∧
        Seen telegramId done db := by
    refine guardedUpdate_safe hmay (.finish _ hstate _) (completedColumns_keeps first last (linkOf decision) _) _ _
      fun r' hr' => ?_
    have hto : progressOf ⟨r'.id, completedColumns first last (linkOf decision) message.timestamp r'.val⟩ =
        { progressOf r' with
          state := .completed
          version := (progressOf r').version + 1
          firstName := some first
          lastName := some last
          linkedEmployeeId := (linkOf decision).or (progressOf r').linkedEmployeeId } := by
      simp [progressOf, toUser, completedColumns]
    rw [hto, hr', ← hfirst, ← hlast]
  unfold finish
  rw [lift_userId]
  refine Safe.bind hcomplete (fun completedUser => ?_) fun _ _ _ => trivial
  have hregister : Safe (Advances chars telegramId) (StepsBy chars telegramId call) (Seen telegramId done)
      (RegisterUser.executeWithLinkDecision toLowercase clock message decision) fun _ _ => True :=
    registration_safe toLowercase clock hsender rfl hauto fun k hk => by
      show (linkOf decision).or _ = _
      rw [hk]
      rfl
  refine Safe.weaken ?_ (fun db h => (h completedUser rfl).2) fun _ _ h => h
  exact Safe.bind hregister (fun _ => Safe.pure fun _ _ => trivial) fun _ _ _ => trivial

/-- The decision the registration is ready for names an employee, or none. -/
theorem previewLinking_safe {p : Progress} (toLowercase : String → String) :
    Safe (Advances chars telegramId) (StepsBy chars telegramId call) (Seen telegramId p)
      (RegisterUser.previewLinking toLowercase message) fun answer db =>
        (∀ decision, answer = .ok (.ready decision) → decision ≠ .auto) ∧ Seen telegramId p db := by
  have hread : ∀ {α : Type} {site : Site} {ans : Db → AppResult α}, Safe (Advances chars telegramId)
      (StepsBy chars telegramId call) (Seen telegramId p) (select site ans) fun _ => Seen telegramId p :=
    Safe.read .refl (fun _ => seen_stable) (fun _ h => h) fun _ _ h => h
  have hready : ∀ {decision : RegistrationLinkDecision}, decision ≠ .auto →
      Safe (Advances chars telegramId) (StepsBy chars telegramId call) (Seen telegramId p)
        (pure (.ready decision) : Proc RegistrationLinkPreview) fun answer db =>
          (∀ decision, answer = .ok (.ready decision) → decision ≠ .auto) ∧ Seen telegramId p db := by
    intro decision hauto
    refine Safe.pure fun db hseen => ⟨fun decision' h => ?_, hseen⟩
    cases h
    exact hauto
  have hfailed : ∀ (e : AppError) (db : Db), Seen telegramId p db →
      (∀ decision, Except.error e = Except.ok (RegistrationLinkPreview.ready decision) → decision ≠ .auto) ∧
        Seen telegramId p db := by
    intro e db hseen
    refine ⟨fun decision h => ?_, hseen⟩
    cases h
  unfold RegisterUser.previewLinking
  refine Safe.bind hread (fun existingUser => ?_) hfailed
  split
  · exact hready nofun
  split
  · exact hready nofun
  refine Safe.bind hread (fun employees => ?_) hfailed
  split
  · next employee _ =>
    refine Safe.ret fun db hseen => ⟨fun decision h => ?_, hseen⟩
    unfold RegisterUser.readyFor at h
    split at h
    · cases h
      nofun
    · cases h
  · refine Safe.pure fun db hseen => ⟨fun decision h => ?_, hseen⟩
    cases h
  · exact hready nofun

/-- The first name is stored over the progress that was read. -/
theorem stepFirstName_safe {r : Stored UserColumns} (hmay : May call .firstName)
    (hstate : (progressOf r).state = .awaitingFirstName) (text : String) :
    Safe (Advances chars telegramId) (StepsBy chars telegramId call) (Seen telegramId (progressOf r))
      (stepFirstName chars message (toUser r) text) fun _ _ => True := by
  unfold stepFirstName
  split
  · exact Safe.pure fun _ _ => trivial
  split
  · exact Safe.pure fun _ _ => trivial
  · next first hfirst =>
    rw [lift_userId]
    have hsave : Safe (Advances chars telegramId) (StepsBy chars telegramId call) (Seen telegramId (progressOf r))
        (saveProgress r.id (toUser r).onboardingVersion .awaitingLastName (some first) none message.timestamp) _ :=
      guardedUpdate_safe hmay (.firstName _ hstate (PersonName.parseFirstOnly_valid chars hfirst))
        (progressColumns_keeps .awaitingLastName (some first) none _) _ _ fun r' hr' => by
          rw [← hr']
          simp [progressOf, toUser, progressColumns]
    exact Safe.bind hsave (fun _ => Safe.pure fun _ _ => trivial) fun _ _ _ => trivial

/-- The last name is stored over the progress that was read, and the dialog ends from there. -/
theorem stepLastName_safe {r : Stored UserColumns} (toLowercase : String → String) (clock : Nat → Instant)
    (hsender : message.senderId = telegramId) (hlast : May call .lastName) (hfinish : May call .finish)
    (hstate : (progressOf r).state = .awaitingLastName) (hsound : (progressOf r).Sound chars) (text : String) :
    Safe (Advances chars telegramId) (StepsBy chars telegramId call) (Seen telegramId (progressOf r))
      (stepLastName chars toLowercase clock message (toUser r) text) fun _ _ => True := by
  obtain ⟨first, hfirst⟩ := Option.isSome_iff_exists.mp (hsound.hasFirst (.inl hstate))
  unfold stepLastName
  split
  · exact Safe.pure fun _ _ => trivial
  split
  · exact Safe.pure fun _ _ => trivial
  · next name hname =>
    obtain ⟨hsame, hvalid⟩ := PersonName.parseLastWithFirst_valid chars hname
    have hnamed : name.first = first := by
      rw [hsame, show (toUser r).firstName = some first from hfirst]
      rfl
    let named : Progress := { progressOf r with
      state := .awaitingEmployeeLink
      version := (progressOf r).version + 1
      lastName := some name.last }
    have hsave : Safe (Advances chars telegramId) (StepsBy chars telegramId call) (Seen telegramId (progressOf r))
        (saveProgress r.id (toUser r).onboardingVersion .awaitingEmployeeLink none (some name.last) message.timestamp)
        fun answer db => ∀ u, answer = .ok u → (∃ r', u = toUser r' ∧ progressOf r' = named) ∧
          Seen telegramId named db :=
      guardedUpdate_safe hlast (.lastName _ hstate hvalid)
        (progressColumns_keeps .awaitingEmployeeLink none (some name.last) _) _ _ fun r' hr' => by
          show _ = Progress.mk _ _ _ _ _ _
          rw [← hr']
          simp [progressOf, toUser, progressColumns]
    rw [lift_userId]
    refine Safe.bind hsave (fun updated => ?_) fun _ _ _ => trivial
    refine Safe.weaken (P := fun db => (∃ r', updated = toUser r' ∧ progressOf r' = named) ∧
      Seen telegramId named db) ?_ (fun db h => h updated rfl) fun _ _ h => h
    refine Safe.of_and_const ?_
    rintro ⟨r', rfl, hr'⟩
    rw [← hr']
    refine Safe.bind (previewLinking_safe toLowercase) (fun preview => ?_) fun _ _ _ => trivial
    refine Safe.of_and_const fun hauto => ?_
    split
    · next decision =>
      refine finish_safe toLowercase clock hsender hfinish ?_ ?_ ?_ (hauto decision rfl)
      · rw [hr']
      · rw [hr', hnamed]
        exact hfirst
      · rw [hr']
    · exact Safe.pure fun _ _ => trivial

end

/-! ## Programs -/

/-- A use case of the dialog of the user, with this alphabet. -/
def Serves (chars : CharClass) (telegramId : Int) : IdentityCall → Prop
  | .startOnboarding message => message.senderId = telegramId
  | .answerOnboarding chars' _ _ message _ => chars' = chars ∧ message.senderId = telegramId
  | .selectLink _ _ message _ => message.senderId = telegramId
  | .register .. | .upsertMessage _ => False

/-- A press of a link button that reads the row finds the dialog waiting for the link, or finds a
name missing. -/
def SelectsInTime (telegramId : Int) (call : IdentityCall) (site : Site) (_ : Fault AppError) (db : Db) : Prop :=
  ∀ toLowercase clock message selection, call = .selectLink toLowercase clock message selection →
    site = .userFindByTelegramId telegramId → ∀ p, progress telegramId db = some p →
      p.state = .awaitingEmployeeLink ∨ p.firstName = none ∨ p.lastName = none

section

variable {chars : CharClass} {telegramId : Int}

/-- A sound row that was read, as the thread knows it. -/
theorem handleText_safe {C : Site → Fault AppError → Db → Prop} {message : IncomingMessage}
    {call : IdentityCall} (toLowercase : String → String) (clock : Nat → Instant)
    (hsender : message.senderId = telegramId) (hmay : ∀ s, s ≠ .start → May call s) (text : String) :
    SafeIf C (Advances chars telegramId) (StepsBy chars telegramId call) (SoundAt chars telegramId)
      (handleText chars toLowercase clock message text) fun _ _ => True := by
  subst hsender
  unfold handleText
  refine SafeIf.bind (requireActiveSession_safeIf (K := fun _ => True) fun _ _ _ _ _ => trivial)
    (fun user => SafeIf.of_safe ?_ fun _ _ hg => hg) fun _ _ _ => trivial
  refine Safe.weaken (P := fun db => (∃ r, user = toUser r ∧ (progressOf r).Sound chars ∧ True) ∧
    Seen message.senderId (userProgress user) db) ?_ (fun db h => h user rfl) fun _ _ h => h
  refine Safe.of_and_const ?_
  rintro ⟨r, rfl, hsound, -⟩
  split
  · next hstate => exact stepFirstName_safe (hmay _ nofun) hstate text
  · next hstate => exact stepLastName_safe toLowercase clock rfl (hmay _ nofun) (hmay _ nofun) hstate hsound text
  · exact Safe.pure fun _ _ => trivial
  · exact Safe.pure fun _ _ => trivial

/-- **A press of a link button that is in time** ends the dialog from where it waits, or does nothing. -/
theorem handleLinkSelection_safe {message : IncomingMessage} (toLowercase : String → String)
    (clock : Nat → Instant) (selection : OnboardingLinkSelection) (hsender : message.senderId = telegramId) :
    SafeIf (SelectsInTime telegramId (.selectLink toLowercase clock message selection)) (Advances chars telegramId)
      (StepsBy chars telegramId (.selectLink toLowercase clock message selection)) (SoundAt chars telegramId)
      (handleLinkSelection toLowercase clock message selection) fun _ _ => True := by
  subst hsender
  let K : Progress → Prop := fun p => p.state = .awaitingEmployeeLink ∨ p.firstName = none ∨ p.lastName = none
  unfold handleLinkSelection
  refine SafeIf.bind (requireActiveSession_safeIf (K := K) fun _ _ p hmeets hp =>
    hmeets toLowercase clock message selection rfl rfl p hp)
    (fun user => SafeIf.of_safe ?_ fun _ _ hg => hg) fun _ _ _ => trivial
  refine Safe.weaken (P := fun db => (∃ r, user = toUser r ∧ (progressOf r).Sound chars ∧ K (progressOf r)) ∧
    Seen message.senderId (userProgress user) db) ?_ (fun db h => h user rfl) fun _ _ h => h
  refine Safe.of_and_const ?_
  rintro ⟨r, rfl, hsound, hintime⟩
  refine Safe.lift_bind (fun first hfirst => ?_) fun _ _ _ _ => trivial
  refine Safe.lift_bind (fun last hlast => ?_) fun _ _ _ _ => trivial
  have hfirst' : (progressOf r).firstName = some first := okOrElse_ok hfirst
  have hlast' : (progressOf r).lastName = some last := okOrElse_ok hlast
  have hstate : (progressOf r).state = .awaitingEmployeeLink := by
    rcases hintime with h | h | h
    · exact h
    · cases h.symm.trans hfirst'
    · cases h.symm.trans hlast'
  refine finish_safe toLowercase clock rfl rfl hstate hfirst' hlast' ?_
  cases selection <;> nofun

theorem program_safe {call : IdentityCall} (h : Serves chars telegramId call) :
    SafeIf (SelectsInTime telegramId call) (Advances chars telegramId) (StepsBy chars telegramId call)
      (SoundAt chars telegramId) call.program fun _ _ => True := by
  have hend : ∀ {α : Type} {p : Proc α}, SafeIf (SelectsInTime telegramId call) (Advances chars telegramId)
      (StepsBy chars telegramId call) (SoundAt chars telegramId) p (fun _ _ => True) →
        SafeIf (SelectsInTime telegramId call) (Advances chars telegramId) (StepsBy chars telegramId call)
          (SoundAt chars telegramId) (discard p) fun _ _ => True := fun hp =>
    SafeIf.bind hp (fun _ => SafeIf.of_safe (Safe.pure fun _ _ => trivial) fun _ _ hg => hg) fun _ _ _ => trivial
  cases call with
  | startOnboarding message =>
    refine hend (SafeIf.of_safe (Safe.bind (Q := fun _ _ => True) (Safe.perform (fun _ => .const _ _) fun db _ f => ?_)
      (fun _ => Safe.pure fun _ _ => trivial) fun _ _ _ => trivial) fun _ _ hg => hg)
    rcases f.apply_store (ensureOnboardingSession message.senderId message.chatId message.senderUsername
      (some message.senderName) message.timestamp) db with he | he
    · rw [he]
      exact ⟨.refl db, trivial⟩
    · rw [he]
      exact ⟨ensureSession_steps h db, trivial⟩
  | answerOnboarding chars' toLowercase clock message text =>
    obtain ⟨rfl, hsender⟩ := h
    have hmay : ∀ s, s ≠ .start → May (.answerOnboarding chars' toLowercase clock message text) s := fun _ hs => hs
    exact hend (handleText_safe toLowercase clock hsender hmay text)
  | selectLink toLowercase clock message selection =>
    exact hend (handleLinkSelection_safe toLowercase clock selection h)
  | register _ _ _ _ => cases h
  | upsertMessage _ => cases h

end

/-! ## Top theorem -/

/-- The progress of the dialog after the acts that move it, in order. -/
def storedProgress (telegramId : Int) (acts : List (Act Db IdentityCall)) : List (Option Progress) :=
  Pool.commits (fun db => some (progress telegramId db))
    (fun a => progress telegramId a.after ≠ progress telegramId a.before) acts

section

variable (chars : CharClass) (telegramId : Int) (db : Db) (calls : List IdentityCall)
  (hcalls : ∀ c ∈ calls, Serves chars telegramId c) (hsound : SoundAt chars telegramId db)
  (sched : List (Nat × Fault AppError))
  (hintime : ∀ c ∈ (IdentityCall.start db calls).calls sched, SelectsInTime telegramId c.who c.site c.fault c.store)

include hcalls hsound hintime

/-- **Every act of a run makes no step, or one its use case may make.** -/
theorem acts_move : ∀ a ∈ (IdentityCall.start db calls).acts sched,
    StepsBy chars telegramId a.who a.before a.after := by
  refine Pool.acts_guaranteeIf (C := SelectsInTime telegramId) (R := Advances chars telegramId)
    (G := StepsBy chars telegramId) (fun _ _ _ h => h.advances) sched (fun t ht => ?_) hintime
  obtain ⟨call, hcall, rfl⟩ := List.mem_map.mp ht
  exact ⟨SoundAt chars telegramId, soundAt_stable, hsound, program_safe (hcalls call hcall)⟩

end

/-! ## A link button pressed twice -/

def pressesLink (selection : OnboardingLinkSelection) : IdentityCall :=
  .selectLink sqlLower (fun _ => 0) (typedBy "JD" "") selection

def isPress : IdentityCall → Bool
  | .selectLink .. => true
  | _ => false

/-- The names are entered, and the link keyboard is pressed twice. -/
def enteringAndPressing : List IdentityCall :=
  entering "JD" ++ [pressesLink .continueWithoutLink, pressesLink (.pickEmployee 1)]

/-- The last-name step fails when the name is stored, and the first press ends the dialog. -/
def untilFirstPress : List (Nat × Fault AppError) :=
  [(0, .none), (1, .none), (1, .none), (2, .none), (2, .none), (2, .before (databaseError "offline")), (3, .none),
    (3, .none), (3, .none)]

theorem entering_serves : ∀ c ∈ enteringAndPressing, Serves asciiChars 10 c := by
  intro c hc
  unfold enteringAndPressing entering at hc
  simp only [List.cons_append, List.nil_append, List.mem_cons, List.not_mem_nil, or_false] at hc
  rcases hc with rfl | rfl | rfl | rfl | rfl
  · rfl
  · exact ⟨rfl, rfl⟩
  · exact ⟨rfl, rfl⟩
  · rfl
  · rfl

theorem nobody_sound : SoundAt asciiChars 10 directoryWithJean := fun _ h => by cases h

end Onboarding

end TaskBot
