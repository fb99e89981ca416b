import TaskBot.Store.Identity
import TaskBot.UseCases.CreationRetry
import TaskBot.UseCases.Onboarding

/-!
# Identity over interleaved registrations

Registrations, the steps of the onboarding dialog, the choice of an employee and the
upsert every message makes write `users` from many chats at once, statement by
statement.

* `call_dialogWrites`: each of their statements leaves the users alone or is one of the
  calls of the user repository;
* `Brings`: the employees a call may link its account to;
* `identity_exclusive`: links and usernames stay exclusive, and denote one user each,
  throughout a run whose accounts bring nothing that another row holds.

Telegram lets a username have one account at an instant (`HeldOnce`).  A row keeps the
username of the last message of its account, so this does not keep the rows apart.
-/

namespace TaskBot

open Sql Calls UserRepository

/-- The use cases that write who a user is, with their arguments. -/
inductive IdentityCall where
  | register (toLowercase : String → String) (clock : Nat → Instant) (message : IncomingMessage)
      (decision : RegistrationLinkDecision)
  | startOnboarding (message : IncomingMessage)
  | answerOnboarding (chars : CharClass) (toLowercase : String → String) (clock : Nat → Instant)
      (message : IncomingMessage) (text : String)
  | selectLink (toLowercase : String → String) (clock : Nat → Instant) (message : IncomingMessage)
      (selection : OnboardingLinkSelection)
  | upsertMessage (message : IncomingMessage)

namespace IdentityCall

/-- The message the call is about. -/
def message : IdentityCall → IncomingMessage
  | register _ _ message _ | startOnboarding message | answerOnboarding _ _ _ message _
  | selectLink _ _ message _ | upsertMessage message => message

/-- The employee the call names. -/
def named : IdentityCall → Option Int
  | register _ _ _ (.employeeId id) | selectLink _ _ _ (.pickEmployee id) => some id
  | _ => none

/-- The lower-casing with which the call looks its account up in the directory, if it does. -/
def lookup : IdentityCall → Option (String → String)
  | register toLowercase _ _ .auto | answerOnboarding _ toLowercase _ _ _ => some toLowercase
  | _ => none

def program : IdentityCall → Proc Unit
  | register toLowercase clock message decision =>
      discard (RegisterUser.executeWithLinkDecision toLowercase clock message decision)
  | startOnboarding message => discard (Onboarding.handleStart message)
  | answerOnboarding chars toLowercase clock message text =>
      discard (Onboarding.handleText chars toLowercase clock message text)
  | selectLink toLowercase clock message selection =>
      discard (Onboarding.handleLinkSelection toLowercase clock message selection)
  | upsertMessage message => discard (CreateTaskFromMessage.registerCreator message)

/-- The calls in progress on one database. -/
def start (db : Db) (calls : List IdentityCall) : Pool Site Db AppError IdentityCall Unit :=
  ⟨db, calls.map fun call => (call, call.program)⟩

end IdentityCall

/-- Two messages of one instant whose usernames are one are of one account. -/
def HeldOnce (messages : List IncomingMessage) : Prop :=
  ∀ m ∈ messages, ∀ m' ∈ messages, m.timestamp = m'.timestamp → m.senderUsername ≠ none →
    m.senderUsername.map sqlLower = m'.senderUsername.map sqlLower → m.senderId = m'.senderId

/-! ## What a statement does to the users -/

/-- The calls these use cases make: a message carries no onboarding names, and a row that is there
is completed by `completeOnboarding` only. -/
def UserRepository.UserCall.OfDialog : UserCall → Prop
  | .upsertFromMessage user => user.firstName = none ∧ user.lastName = none
  | .saveOnboardingProgress _ _ next _ _ _ => next ≠ .completed
  | .ensureOnboardingSession .. | .completeOnboarding .. => True
  | .setRole .. | .deactivate .. | .reactivate .. | .promoteBootstrapAdmin .. => False

/-- The users are as they were, or as one such call leaves them. -/
def DialogWrites (db db' : Db) : Prop :=
  db'.users = db.users ∨ ∃ c : UserCall, c.OfDialog ∧ db'.users = (c.exec db).2.users

theorem dialogWrites_of_reads {α : Type} {p : Proc α} (h : p.Within Eq) : p.Within DialogWrites :=
  .of_reads h fun _ => .inl rfl

theorem upsertFromMessage_dialogWrites {user : User} (hfirst : user.firstName = none)
    (hlast : user.lastName = none) : (upsertFromMessage user).Within DialogWrites :=
  .perform fun _ => .inr ⟨.upsertFromMessage user, ⟨hfirst, hlast⟩, rfl⟩

theorem saveProgress_dialogWrites (userId version : Int) (next : OnboardingState) (hnext : next ≠ .completed)
    (first last : Option String) (now : Instant) :
    (saveProgress userId version next first last now).Within DialogWrites :=
  .perform fun _ => .inr ⟨.saveOnboardingProgress userId version next first last now, hnext, rfl⟩

theorem executeWithLinkDecision_dialogWrites (toLowercase : String → String) (clock : Nat → Instant)
    (message : IncomingMessage) (decision : RegistrationLinkDecision) :
    (RegisterUser.executeWithLinkDecision toLowercase clock message decision).Within DialogWrites := by
  have hresolve := RegisterUser.resolveEmployeeForDecision_reads toLowercase message decision
  refine .bind (dialogWrites_of_reads hresolve) fun employee => ?_
  refine .bind (upsertFromMessage_dialogWrites rfl rfl) fun actor => ?_
  have hrecover := RegisterUser.recoverPendingAssignments_writes clock actor employee
  exact .bind (hrecover.mono fun _ _ h => .inl h.users) fun _ => .pure _

theorem finish_dialogWrites (toLowercase : String → String) (clock : Nat → Instant) (message : IncomingMessage)
    (user : User) (first last : String) (decision : RegistrationLinkDecision) :
    (Onboarding.finish toLowercase clock message user first last decision).Within DialogWrites := by
  refine .bind (.lift _) fun userId => ?_
  refine .bind (.perform fun _ => .inr ⟨.completeOnboarding .., trivial, rfl⟩) fun completedUser => ?_
  exact .bind (executeWithLinkDecision_dialogWrites toLowercase clock message decision) fun _ => .pure _

theorem requireActiveSession_reads (telegramId : Int) :
    (Onboarding.requireActiveSession telegramId).Within Eq :=
  .bind (select_reads _ _) fun _ => .lift _

theorem handleText_dialogWrites (chars : CharClass) (toLowercase : String → String) (clock : Nat → Instant)
    (message : IncomingMessage) (text : String) :
    (Onboarding.handleText chars toLowercase clock message text).Within DialogWrites := by
  refine .bind (dialogWrites_of_reads (requireActiveSession_reads _)) fun user => ?_
  split
  · unfold Onboarding.stepFirstName
    split
    · exact .pure _
    · split
      · exact .pure _
      · refine .bind (.lift _) fun userId => .bind ?_ fun _ => .pure _
        exact saveProgress_dialogWrites userId _ .awaitingLastName nofun _ _ _
  · unfold Onboarding.stepLastName
    split
    · exact .pure _
    · split
      · exact .pure _
      · have hsave := saveProgress_dialogWrites
        refine .bind (.lift _) fun userId => .bind (hsave userId _ .awaitingEmployeeLink nofun _ _ _) fun updated => ?_
        have hpreview := RegisterUser.previewLinking_reads toLowercase message
        refine .bind (dialogWrites_of_reads hpreview) fun preview => ?_
        split
        · exact finish_dialogWrites ..
        · exact .pure _
  · exact .pure _
  · exact .pure _

theorem handleLinkSelection_dialogWrites (toLowercase : String → String) (clock : Nat → Instant)
    (message : IncomingMessage) (selection : OnboardingLinkSelection) :
    (Onboarding.handleLinkSelection toLowercase clock message selection).Within DialogWrites := by
  refine .bind (dialogWrites_of_reads (requireActiveSession_reads _)) fun user => ?_
  exact .bind (.lift _) fun first => .bind (.lift _) fun last => finish_dialogWrites ..

/-- **Every statement of a call is one of the user repository's, as far as the users go.** -/
theorem call_dialogWrites (call : IdentityCall) : call.program.Within DialogWrites := by
  cases call with
  | register toLowercase clock message decision =>
    exact .bind (executeWithLinkDecision_dialogWrites toLowercase clock message decision) fun _ => .pure _
  | startOnboarding message =>
    refine .bind (.bind (.perform fun db => .inr ?_) fun _ => .pure _) fun _ => .pure _
    exact ⟨.ensureOnboardingSession message.senderId message.chatId message.senderUsername
      (some message.senderName) message.timestamp, trivial, rfl⟩
  | answerOnboarding chars toLowercase clock message text =>
    exact .bind (handleText_dialogWrites chars toLowercase clock message text) fun _ => .pure _
  | selectLink toLowercase clock message selection =>
    exact .bind (handleLinkSelection_dialogWrites toLowercase clock message selection) fun _ => .pure _
  | upsertMessage message => exact .bind (upsertFromMessage_dialogWrites rfl rfl) fun _ => .pure _

/-- An act of a run leaves the users alone, or makes one such call. -/
theorem acts_dialogWrites {db : Db} {calls : List IdentityCall} {sched : List (Nat × Fault AppError)} :
    ∀ a ∈ (IdentityCall.start db calls).acts sched, DialogWrites a.before a.after := by
  intro a ha
  have hwithin : ∀ t ∈ (IdentityCall.start db calls).threads, t.2.Within DialogWrites := by
    intro t ht
    obtain ⟨call, -, rfl⟩ := List.mem_map.mp ht
    exact call_dialogWrites call
  rcases Pool.acts_within hwithin sched a ha with he | he
  · exact .inl (congrArg Db.users he)
  · exact he

/-! ## What accounts bring -/

/-- A statement of a run, with the store it comes to. -/
abbrev IdentityStatement := Call Site Db AppError IdentityCall

/-- In the run the call has read the row of its account in `db`. -/
def ReadsAccount (run : List IdentityStatement) (call : IdentityCall) (db : Db) : Prop :=
  ∃ fault, ⟨call, .userFindByTelegramId call.message.senderId, fault, db⟩ ∈ run

/-- What the call may link its account to: the employee it names; or, where it looks the account up,
the link it has read, or else the one employee of the directory its message fits. -/
inductive Brings (run : List IdentityStatement) (call : IdentityCall) (id : Int) : Prop where
  | named (h : call.named = some id)
  | own (hlookup : call.lookup ≠ none) {db : Db} (hread : ReadsAccount run call db) {r : Stored UserColumns}
      (hr : r ∈ db.users.rows) (htid : r.val.user.telegramId = call.message.senderId) (hlink : linkKey r.val = some id)
  | fits {toLowercase : String → String} (hlookup : call.lookup = some toLowercase) {db : Db}
      (hread : ReadsAccount run call db)
      (hopen : ∀ r ∈ db.users.rows, r.val.user.telegramId = call.message.senderId →
        linkKey r.val = none ∧ call.message.isExplicitStartCommand = true) {employee : Employee}
      (hfits : RegisterUser.resolveRegistrationMatch toLowercase call.message db.activeEmployees = .unique employee)
      (hid : employee.id = some id)

/-- What the account of the statement brings is held by no other row. -/
def BringsFree (run : List IdentityStatement) (s : IdentityStatement) : Prop :=
  s.fault.stores = true →
    match s.site with
    | .userUpsert telegramId =>
        s.store.users.Free nameKey (hasTelegramId telegramId) (s.who.message.senderUsername.map sqlLower) ∧
          ∀ id, Brings run s.who id → s.store.users.Free linkKey (hasTelegramId telegramId) (some id)
    | .userEnsureSession telegramId =>
        s.store.users.Free nameKey (hasTelegramId telegramId) (s.who.message.senderUsername.map sqlLower)
    | .userComplete userId =>
        ∀ id, Brings run s.who id → s.store.users.Free linkKey (fun r => r.id = userId) (some id)
    | _ => True

/-! ## Statements that keep identities apart -/

/-- The directory stays, and identities that were exclusive still are. -/
structure KeepsApart (db db' : Db) : Prop where
  directory : db'.employees = db.employees
  exclusive : ExclusiveIdentity db.users → ExclusiveIdentity db'.users

section

variable {run : List IdentityStatement} {call : IdentityCall} {directory : Table Employee} {α : Type}

/-- The program is run by the call, in a run whose accounts bring nothing that is held. -/
def KeepsIdentities (run : List IdentityStatement) (call : IdentityCall) (directory : Table Employee)
    (p : Proc α) (tells : α → Prop) : Prop :=
  SafeIf (fun site fault db => ⟨call, site, fault, db⟩ ∈ run ∧ BringsFree run ⟨call, site, fault, db⟩)
    (fun db db' => db'.employees = db.employees) KeepsApart (fun db => db.employees = directory) p
    fun r db => db.employees = directory ∧ ∀ a, r = .ok a → tells a

namespace KeepsIdentities

theorem stable {p : Prop} : Stable (fun db db' : Db => db'.employees = db.employees)
    fun db => db.employees = directory ∧ p :=
  fun _ _ hsame h => ⟨hsame.trans h.1, h.2⟩

variable {tells : α → Prop}

theorem lift {r : AppResult α} (h : ∀ a, r = .ok a → tells a) :
    KeepsIdentities run call directory (.lift r) tells :=
  SafeIf.ret fun _ hdb => ⟨hdb, h⟩

theorem pure {a : α} (h : tells a) : KeepsIdentities run call directory (pure a) tells := by
  refine lift fun a' ha => ?_
  cases ha
  exact h

theorem fail {e : AppError} : KeepsIdentities run call directory (.fail e) tells := lift nofun

theorem bind {β : Type} {P : β → Prop} {p : Proc β} {f : β → Proc α}
    (hp : KeepsIdentities run call directory p P)
    (hf : ∀ b, P b → KeepsIdentities run call directory (f b) tells) :
    KeepsIdentities run call directory (p >>= f) tells := by
  refine SafeIf.bind hp (fun b => ?_) fun e db h => ⟨h.1, nofun⟩
  have hrest : SafeIf _ _ KeepsApart (fun db => P b ∧ db.employees = directory) (f b) _ :=
    SafeIf.of_and_const (hf b)
  exact hrest.weaken (fun db h => ⟨h.2 b rfl, h.1⟩) fun _ _ h => h

/-- A statement that reads, and what its answer tells. -/
theorem read {site : Site} {ans : Db → AppResult α}
    (h : ∀ db, db.employees = directory → ⟨call, site, .none, db⟩ ∈ run → ∀ a, ans db = .ok a → tells a) :
    KeepsIdentities run call directory (select site ans) tells := by
  refine SafeIf.read (fun db => ⟨rfl, id⟩) (fun r => stable) ?_ ?_
  · exact fun db hdb hcall => ⟨hdb, h db hdb hcall.1⟩
  · exact fun e db hdb => ⟨hdb, nofun⟩

/-- **A call of the repository**, where what it writes is free. -/
theorem statement {site : Site} {body : Db → AppResult α × Db} (c : UserCall)
    (hexec : ∀ db, (body db).2.users = (c.exec db).2.users)
    (hdirectory : ∀ db, (body db).2.employees = db.employees)
    (hfree : ∀ db fault, Fault.stores fault = true → BringsFree run ⟨call, site, fault, db⟩ →
      c.KeepsIdentity db.users) :
    KeepsIdentities run call directory (.perform site body) fun _ => True := by
  refine SafeIf.perform (fun r => stable) fun db hdb fault hcall => ?_
  rw [Fault.apply_snd]
  split
  · next hstores =>
    refine ⟨⟨hdirectory db, fun h => ?_⟩, (hdirectory db).trans hdb, fun _ _ => trivial⟩
    rw [hexec]
    exact (exec_exclusive_iff c h).mpr (hfree db fault hstores hcall.2)
  · exact ⟨⟨rfl, id⟩, hdb, fun _ _ => trivial⟩

/-- A program that leaves users and directory alone. -/
theorem of_within {p : Proc α} {K : Db → Db → Prop} (hp : p.Within K)
    (hK : ∀ db db', K db db' → db'.users = db.users ∧ db'.employees = db.employees) :
    KeepsIdentities run call directory p fun _ => True := by
  have hapart : ∀ db db', db'.users = db.users ∧ db'.employees = db.employees → KeepsApart db db' := by
    rintro db db' ⟨husers, hemployees⟩
    refine ⟨hemployees, fun h => ?_⟩
    rw [husers]
    exact h
  refine SafeIf.weaken (SafeIf.of_safe (Safe.of_within hp (fun db => (⟨rfl, id⟩ : KeepsApart db db))
    (fun db db' h => hapart db db' (hK db db' h)) (fun _ _ h => h.directory) ?_) fun _ _ h => h)
    (fun _ h => h) fun r db hdb => ⟨hdb, fun _ _ => trivial⟩
  exact fun _ _ hsame h => hsame.trans h

theorem of_reads {p : Proc α} (hp : p.Within Eq) : KeepsIdentities run call directory p fun _ => True :=
  of_within hp fun _ _ h => by
    rw [h]
    exact ⟨rfl, rfl⟩

end KeepsIdentities

end

/-! ## The use cases -/

theorem free_of_brought {t : Table UserColumns} {own : Stored UserColumns → Bool} {link : Option Int}
    (h : ∀ id, link = some id → t.Free linkKey own (some id)) : t.Free linkKey own link := by
  intro r hr hno id hid
  exact h id hid r hr hno id rfl

section

variable {run : List IdentityStatement} {call : IdentityCall} {directory : Table Employee}

/-- The answer of a lookup is the row the call has read. -/
theorem findAccount_keeps : KeepsIdentities run call directory
    (UserRepository.findByTelegramId call.message.senderId) fun found =>
      ∃ db, ReadsAccount run call db ∧ db.employees = directory ∧
        found = (db.users.find? (hasTelegramId call.message.senderId)).map toUser := by
  refine KeepsIdentities.read fun db hdb hcall found hfound => ?_
  cases hfound
  exact ⟨db, ⟨_, hcall⟩, hdb, rfl⟩

/-- The preview of a link names what the call brings. -/
theorem previewLinking_keeps (call : IdentityCall) {toLowercase : String → String}
    (hlookup : call.lookup = some toLowercase) :
    KeepsIdentities run call directory (RegisterUser.previewLinking toLowercase call.message)
      fun preview => ∀ id, preview = .ready (.employeeId id) → Brings run call id := by
  refine .bind findAccount_keeps fun found hfound => ?_
  obtain ⟨db, hread, hdb, hfound⟩ := hfound
  cases hlink : found.bind User.linkedEmployeeId with
  | some linked =>
    refine .pure fun id hid => ?_
    cases hid
    cases hrow : db.users.find? (hasTelegramId call.message.senderId) with
    | none =>
      rw [hfound, hrow] at hlink
      cases hlink
    | some r =>
      obtain ⟨hr, htid⟩ := Table.find?_some hrow
      rw [hfound, hrow] at hlink
      exact .own (by simp [hlookup]) hread hr (of_decide_eq_true htid) hlink
  | none =>
    simp only
    split
    · exact .pure fun id hid => nomatch hid
    · next hasks =>
      have hopen : ∀ r ∈ db.users.rows, r.val.user.telegramId = call.message.senderId →
          linkKey r.val = none ∧ call.message.isExplicitStartCommand = true := by
        intro r hr htid
        have hrow : db.users.find? (hasTelegramId call.message.senderId) = some r :=
          Table.find?_eq hr (decide_eq_true htid) fun a b ha hb =>
            .inr (decide_eq_true ((of_decide_eq_true ha).trans (of_decide_eq_true hb).symm))
        rw [hrow] at hfound
        subst hfound
        refine ⟨hlink, ?_⟩
        by_contra hplain
        exact hasks ⟨rfl, hplain⟩
      refine .bind (P := fun employees => employees = db.activeEmployees) ?_ fun employees hemployees => ?_
      · refine .read fun db' hdb' _ employees hanswer => ?_
        cases hanswer
        exact activeEmployees_congr (hdb'.trans hdb.symm)
      · subst hemployees
        cases hfits : RegisterUser.resolveRegistrationMatch toLowercase call.message db.activeEmployees with
        | unique employee =>
          refine .lift fun preview hready id hid => ?_
          subst hid
          unfold RegisterUser.readyFor at hready
          split at hready
          · next id' hid' =>
            cases hready
            exact .fits hlookup hread hopen hfits hid'
          · cases hready
        | ambiguous candidates => exact .pure fun id hid => nomatch hid
        | notFound => exact .pure fun id hid => nomatch hid

/-- What a decision names, the call brings. -/
structure Decides (run : List IdentityStatement) (call : IdentityCall) (toLowercase : String → String)
    (decision : RegistrationLinkDecision) : Prop where
  names : ∀ id, decision = .employeeId id → Brings run call id
  auto : decision = .auto → call.lookup = some toLowercase

theorem resolveEmployee_keeps {toLowercase : String → String} {decision : RegistrationLinkDecision}
    (hdecides : Decides run call toLowercase decision) :
    KeepsIdentities run call directory
      (RegisterUser.resolveEmployeeForDecision toLowercase call.message decision)
      fun employee => ∀ id, employee.bind Employee.id = some id → Brings run call id := by
  have hfind : ∀ id, Brings run call id → KeepsIdentities run call directory (EmployeeRepository.findById id)
      fun employee => ∀ id, employee.bind Employee.id = some id → Brings run call id := by
    refine fun id hbrings => .read fun db _ _ employee hanswer id' hid' => ?_
    cases hanswer
    cases hrow : db.employees.find? fun r => r.id = id with
    | none =>
      rw [hrow] at hid'
      cases hid'
    | some r =>
      rw [hrow] at hid'
      obtain ⟨-, hid⟩ := Table.find?_some hrow
      cases hid'
      rw [of_decide_eq_true hid]
      exact hbrings
  cases decision with
  | continueUnlinked => exact .pure fun id hid => nomatch hid
  | employeeId id => exact hfind id (hdecides.names id rfl)
  | auto =>
    refine .bind (previewLinking_keeps call (hdecides.auto rfl)) fun preview hpreview => ?_
    cases preview with
    | ready decision =>
      cases decision with
      | employeeId id => exact hfind id (hpreview id rfl)
      | continueUnlinked => exact .pure fun id hid => nomatch hid
      | auto => exact .fail
    | clarificationRequired request => exact .fail

theorem upsert_keeps {user : User} (hname : user.telegramUsername = call.message.senderUsername)
    (hlink : ∀ id, user.linkedEmployeeId = some id → Brings run call id) :
    KeepsIdentities run call directory (upsertFromMessage user) fun _ => True := by
  refine .statement (.upsertFromMessage user) (fun _ => rfl) (fun db => ?_) fun db fault hstores hfree => ?_
  · unfold upsertUser
    split <;> rfl
  · obtain ⟨hfreeName, hfreeLink⟩ := hfree hstores
    refine ⟨free_of_brought fun id hid => hfreeLink id (hlink id hid), ?_⟩
    rw [hname]
    exact hfreeName

theorem executeWithLinkDecision_keeps {toLowercase : String → String} {decision : RegistrationLinkDecision}
    (hdecides : Decides run call toLowercase decision) (clock : Nat → Instant) :
    KeepsIdentities run call directory
      (RegisterUser.executeWithLinkDecision toLowercase clock call.message decision) fun _ => True := by
  refine .bind (resolveEmployee_keeps hdecides) fun employee hemployee => ?_
  refine .bind (upsert_keeps rfl hemployee) fun actor _ => ?_
  refine .bind (.of_within (RegisterUser.recoverPendingAssignments_writes clock actor employee) ?_) fun _ _ =>
    .pure trivial
  exact fun _ _ h => ⟨h.users, h.employees⟩

theorem updateReturning_employees (q : Stored UserColumns → Bool) (f : UserColumns → UserColumns) (hf : KeepsKeys f)
    (missing : AppError) (db : Db) : (updateReturning q f hf missing db).2.employees = db.employees := by
  unfold updateReturning
  split <;> rfl

theorem saveProgress_keeps (userId version : Int) (next : OnboardingState) (first last : Option String)
    (now : Instant) : KeepsIdentities run call directory (saveProgress userId version next first last now)
      fun _ => True :=
  .statement (.saveOnboardingProgress userId version next first last now) (fun _ => rfl)
    (updateReturning_employees _ _ _ _) fun _ _ _ _ => trivial

theorem finish_keeps (call : IdentityCall) {toLowercase : String → String} {decision : RegistrationLinkDecision}
    (hdecides : Decides run call toLowercase decision) (clock : Nat → Instant) (user : User) (first last : String) :
    KeepsIdentities run call directory
      (Onboarding.finish toLowercase clock call.message user first last decision) fun _ => True := by
  refine .bind (P := fun _ => True) (.lift fun _ _ => trivial) fun userId _ => ?_
  refine .bind (P := fun _ => True) ?_ fun completedUser _ =>
    .bind (executeWithLinkDecision_keeps hdecides clock) fun _ _ => .pure trivial
  refine .statement (.completeOnboarding userId user.onboardingVersion first last (Onboarding.linkOf decision)
    call.message.timestamp) (fun _ => rfl) (updateReturning_employees _ _ _ _) fun db fault hstores hfree _ => ?_
  refine free_of_brought fun id hid => hfree hstores id ?_
  cases decision with
  | employeeId id' =>
    cases hid
    exact hdecides.names id rfl
  | auto | continueUnlinked => cases hid

/-- **Every use case keeps the identities apart**, where what its account brings is held by no other row. -/
theorem call_keeps : KeepsIdentities run call directory call.program fun _ => True := by
  have hbound : ∀ {α : Type} {p : Proc α}, KeepsIdentities run call directory p (fun _ => True) →
      KeepsIdentities run call directory (discard p) fun _ => True :=
    fun hp => .bind hp fun _ _ => .pure trivial
  cases call with
  | register toLowercase clock message decision =>
    refine hbound (executeWithLinkDecision_keeps ⟨fun id hid => .named ?_, fun hauto => ?_⟩ clock)
    · rw [hid]
      rfl
    · rw [hauto]
      rfl
  | startOnboarding message =>
    refine hbound (.bind (P := fun _ => True) ?_ fun _ _ => .pure trivial)
    refine .statement (.ensureOnboardingSession message.senderId message.chatId message.senderUsername
      (some message.senderName) message.timestamp) (fun _ => rfl) (fun db => ?_) fun _ _ hstores hfree => hfree hstores
    unfold ensureOnboardingSession
    split
    · exact updateReturning_employees _ _ _ _ db
    · rfl
  | answerOnboarding chars toLowercase clock message text =>
    refine hbound (.bind (.of_reads (requireActiveSession_reads _)) fun user _ => ?_)
    split
    · unfold Onboarding.stepFirstName
      split
      · exact .pure trivial
      · split
        · exact .pure trivial
        · refine .bind (P := fun _ => True) (.lift fun _ _ => trivial) fun userId _ => ?_
          exact .bind (saveProgress_keeps ..) fun _ _ => .pure trivial
    · unfold Onboarding.stepLastName
      split
      · exact .pure trivial
      · split
        · exact .pure trivial
        · refine .bind (P := fun _ => True) (.lift fun _ _ => trivial) fun userId _ => ?_
          refine .bind (saveProgress_keeps ..) fun updated _ => ?_
          refine .bind (previewLinking_keeps (.answerOnboarding chars toLowercase clock message text) rfl)
            fun preview hpreview => ?_
          cases preview with
          | ready decision =>
            refine finish_keeps (.answerOnboarding chars toLowercase clock message text)
              ⟨fun id hid => ?_, fun _ => rfl⟩ ..
            exact hpreview id (congrArg _ hid)
          | clarificationRequired request => exact .pure trivial
    · exact .pure trivial
    · exact .pure trivial
  | selectLink toLowercase clock message selection =>
    refine hbound (.bind (.of_reads (requireActiveSession_reads _)) fun user _ => ?_)
    refine .bind (P := fun _ => True) (.lift fun _ _ => trivial) fun first _ => ?_
    refine .bind (P := fun _ => True) (.lift fun _ _ => trivial) fun last _ => ?_
    refine finish_keeps (.selectLink toLowercase clock message selection) ?_ ..
    cases selection with
    | pickEmployee id =>
      refine ⟨fun id' hid' => ?_, nofun⟩
      cases hid'
      exact .named rfl
    | continueWithoutLink => exact ⟨nofun, nofun⟩
  | upsertMessage message => exact hbound (upsert_keeps rfl nofun)

end

/-! ## Runs -/

/-- **Identities stay exclusive throughout a run whose accounts bring nothing that another row holds**, and
a username that a row carries denotes that row. -/
theorem identity_exclusive (db : Db) (calls : List IdentityCall) (sched : List (Nat × Fault AppError))
    (h : ExclusiveIdentity db.users)
    (hfree : ∀ s ∈ (IdentityCall.start db calls).calls sched,
      BringsFree ((IdentityCall.start db calls).calls sched) s) :
    ∀ a ∈ (IdentityCall.start db calls).acts sched, ExclusiveIdentity a.after.users ∧
      ∀ username, ∀ r ∈ a.after.users.rows, hasUsername username r = true →
        a.after.users.find? (hasUsername username) = some r := by
  have hguarded : (IdentityCall.start db calls).GuardedIf
      (fun call site fault db' => ⟨call, site, fault, db'⟩ ∈ (IdentityCall.start db calls).calls sched ∧
        BringsFree ((IdentityCall.start db calls).calls sched) ⟨call, site, fault, db'⟩)
      (fun db db' => db'.employees = db.employees) fun _ => KeepsApart := by
    intro t ht
    obtain ⟨call, -, rfl⟩ := List.mem_map.mp ht
    exact ⟨fun db' => db'.employees = db.employees, fun _ _ hsame h => hsame.trans h, rfl,
      call_keeps.weaken (fun _ h => h) fun _ _ _ => trivial⟩
  have hkeeps : ∀ a ∈ (IdentityCall.start db calls).acts sched, KeepsApart a.before a.after :=
    Pool.acts_guaranteeIf (fun _ _ _ h => h.directory) sched hguarded fun s hs => ⟨hs, hfree s hs⟩
  have hexclusive : ∀ a ∈ (IdentityCall.start db calls).acts sched, ExclusiveIdentity a.after.users :=
    (Pool.acts_keep (I := fun db : Db => ExclusiveIdentity db.users) sched h fun a ha => (hkeeps a ha).exclusive).1
  exact fun a ha => ⟨hexclusive a ha, fun _ _ hr hname => findByUsername_denotes (hexclusive a ha) hr hname⟩

/-! ## A username that changes hands -/

def directoryWithIvan : Db :=
  { Db.empty with
    employees := (Table.empty.insertOrIgnore ⟨none, "Ivan", some "ivan", none, none, none, true, none, 0, 0⟩).1 }

/-- `/start` of an account that holds the username of the employee. -/
def ivanStarts (telegramId : Int) (timestamp : Instant) : IncomingMessage :=
  { sampleMessage with
    chatId := telegramId
    senderId := telegramId
    senderUsername := some "ivan"
    content := .command "/start"
    timestamp }

def ivanRegisters (telegramId : Int) (timestamp : Instant) : IdentityCall :=
  .register id (fun _ => timestamp) (ivanStarts telegramId timestamp) .auto

/-- The store when the accounts have registered one after the other. -/
def bothRegistered : Db :=
  let pool := IdentityCall.start directoryWithIvan [ivanRegisters 10 0, ivanRegisters 20 60]
  (pool.exec (List.replicate 6 (0, .none) ++ List.replicate 6 (1, .none))).store

/-- The username is given up before another account takes it. -/
def handedOver : List IdentityCall :=
  [ivanRegisters 10 0, .register id (fun _ => 60) { ivanStarts 10 60 with senderUsername := none } .auto,
    .register id (fun _ => 120) (ivanStarts 20 120) .continueUnlinked]

def oneByOne : List (Nat × Fault AppError) :=
  List.replicate 6 (0, .none) ++ List.replicate 6 (1, .none) ++ List.replicate 6 (2, .none)

/-- An upsert that finds the other rows unlinked, or brings no employee, and without its username. -/
def isClear (s : IdentityStatement) : Bool :=
  match s.site with
  | .userUpsert telegramId => ∀ r ∈ s.store.users.rows, hasTelegramId telegramId r = false →
      (nameKey r.val = none ∨ nameKey r.val ≠ s.who.message.senderUsername.map sqlLower) ∧
        (linkKey r.val = none ∨ s.who.named = none ∧ s.who.lookup.isNone = true)
  | .userEnsureSession _ | .userComplete _ => false
  | _ => true

theorem bringsFree_of_isClear {run : List IdentityStatement} {s : IdentityStatement} (h : isClear s = true) :
    BringsFree run s := by
  intro _
  revert h
  unfold isClear
  cases s.site with
  | userUpsert telegramId =>
    intro h
    have hothers := of_decide_eq_true h
    refine ⟨fun r hr hother name hname => ?_, fun id hbrings r hr hother id' _ => ?_⟩
    · rcases (hothers r hr hother).1 with hnone | hne
      · rw [hnone]
        exact nofun
      · rwa [hname] at hne
    · rcases (hothers r hr hother).2 with hunlinked | ⟨hnamed, hlookup⟩
      · rw [hunlinked]
        exact nofun
      · rw [Option.isNone_iff_eq_none] at hlookup
        cases hbrings with
        | named h => cases hnamed.symm.trans h
        | own h => exact absurd hlookup h
        | fits h => cases hlookup.symm.trans h
  | userEnsureSession telegramId => exact nofun
  | userComplete userId => exact nofun
  | _ => exact fun _ => trivial

/-- Two accounts carry the username one after the other, and never both. -/
theorem handedOver_exclusive :
    (∀ a ∈ (IdentityCall.start directoryWithIvan handedOver).acts oneByOne, ExclusiveIdentity a.after.users) ∧
      ((IdentityCall.start directoryWithIvan handedOver).exec oneByOne).store.users.rows.map (fun r =>
          (r.val.user.telegramId, linkKey r.val, nameKey r.val)) = [(10, some 1, none), (20, none, some "ivan")] := by
  have hempty : directoryWithIvan.users.rows.length ≤ 1 := by decide
  have hexclusive : ExclusiveIdentity directoryWithIvan.users :=
    ⟨Table.exclusive_of_length_le_one hempty, Table.exclusive_of_length_le_one hempty⟩
  have hclear : ∀ s ∈ (IdentityCall.start directoryWithIvan handedOver).calls oneByOne, isClear s = true := by
    decide +kernel
  have hkept := identity_exclusive directoryWithIvan handedOver oneByOne hexclusive fun s hs =>
    bringsFree_of_isClear (hclear s hs)
  exact ⟨fun a ha => (hkept a ha).1, by decide +kernel⟩

/-- Account 10 gives the username up, account 20 takes it and registers a minute later: both are
linked to the employee, and both carry the username. -/
theorem username_changes_hands :
    HeldOnce [ivanStarts 10 0, ivanStarts 20 60] ∧ ExclusiveIdentity directoryWithIvan.users ∧
      ¬ bothRegistered.users.Exclusive linkKey ∧ ¬ bothRegistered.users.Exclusive nameKey := by
  have hempty : directoryWithIvan.users.rows.length ≤ 1 := by decide
  refine ⟨by unfold HeldOnce; decide, ⟨Table.exclusive_of_length_le_one hempty, Table.exclusive_of_length_le_one hempty⟩, ?_, ?_⟩
  · exact Table.not_exclusive_of_ids (i := 1) (j := 2) (k := 1) (by decide) (by decide +kernel)
  · exact Table.not_exclusive_of_ids (i := 1) (j := 2) (k := "ivan") (by decide) (by decide +kernel)

end TaskBot
