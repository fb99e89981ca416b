import TaskBot.UseCases.KnownUsers

/-!
# The link at the end of onboarding

The last-name step asks the registration for a link.  By then the user has a row, and for a
row without a link the registration looks into the directory only when the message is an
explicit `/start`:

    LinkedAsMatched …   ↔   the message is `/start`, or nobody in the directory matches
                                                              (linked_as_matched_iff)
-/

namespace TaskBot

open Sql Calls

theorem mem_activeEmployees {db : Db} {employee : Employee} (h : employee ∈ db.activeEmployees) :
    ∃ r ∈ db.employees.rows, employee = { r.val with id := some r.id } ∧ r.val.isActive = true := by
  have hmem := (List.mergeSort_perm _ _).mem_iff.mp h
  obtain ⟨r, hr, rfl⟩ := List.mem_map.mp hmem
  obtain ⟨hr, hactive⟩ := List.mem_filter.mp hr
  exact ⟨r, hr, rfl, hactive⟩

/-- An entry of the active directory is found by its id. -/
theorem find_activeEmployee {db : Db} {employee : Employee} (h : employee ∈ db.activeEmployees) :
    ∃ id, employee.id = some id ∧
      (EmployeeRepository.findById id).run noFaults db = (.ok (some employee), db) := by
  obtain ⟨r, hr, rfl, -⟩ := mem_activeEmployees h
  have hfind : db.employees.find? (fun r' => r'.id = r.id) = some r :=
    Table.find?_eq hr (decide_eq_true rfl) fun a b ha hb =>
      .inl ((of_decide_eq_true ha).trans (of_decide_eq_true hb).symm)
  refine ⟨r.id, rfl, ?_⟩
  show (Except.ok ((db.employees.find? fun r' => r'.id = r.id).map fun r => { r.val with id := some r.id }), db) = _
  rw [hfind]
  rfl

namespace RegisterUser

/-! ## The matcher -/

section

variable {toLowercase : String → String} {message : IncomingMessage} {employees : List Employee}

theorem resolve_notFound_iff : resolveRegistrationMatch toLowercase message employees = .notFound ↔
    exactUsernameMatches message employees = [] ∧ exactFullNameMatches toLowercase message employees = [] := by
  unfold resolveRegistrationMatch
  constructor
  · intro h
    split at h
    · cases h
    · cases h
    · next husername =>
      refine ⟨husername, ?_⟩
      split at h
      · cases h
      · cases h
      · next hname => exact hname
  · rintro ⟨husername, hname⟩
    rw [husername]
    simp only
    rw [hname]

/-- The one who is matched is in the directory. -/
theorem resolve_unique_mem {employee : Employee}
    (h : resolveRegistrationMatch toLowercase message employees = .unique employee) : employee ∈ employees := by
  have husername : ∀ e ∈ exactUsernameMatches message employees, e ∈ employees := by
    intro e he
    unfold exactUsernameMatches at he
    split at he
    · cases he
    · simp only at he
      split at he
      · cases he
      · exact (List.mem_filter.mp he).1
  have hname : ∀ e ∈ exactFullNameMatches toLowercase message employees, e ∈ employees := by
    intro e he
    unfold exactFullNameMatches at he
    simp only at he
    split at he
    · cases he
    · exact (List.mem_filter.mp he).1
  unfold resolveRegistrationMatch at h
  split at h
  · next e hone =>
    cases h
    exact husername employee (hone ▸ List.mem_singleton.mpr rfl)
  · cases h
  · split at h
    · next e hone =>
      cases h
      exact hname employee (hone ▸ List.mem_singleton.mpr rfl)
    · cases h
    · cases h

end

/-- What the registration makes of the match when it looks into the directory. -/
def previewOf : RegistrationEmployeeMatch → AppResult RegistrationLinkPreview
  | .unique employee => readyFor employee
  | .ambiguous candidates =>
      .ok (.clarificationRequired
        { message := registrationAmbiguousMessage
          candidates := candidates.map .fromMatch
          allowContinueUnlinked := true })
  | .notFound => .ok (.ready .continueUnlinked)

/-- **`/start` of a user without a link** looks into the directory. -/
theorem run_previewLinking_start {db : Db} {message : IncomingMessage} {r : Stored UserColumns}
    (toLowercase : String → String) (hr : db.account message.senderId = some r)
    (hunlinked : r.val.user.linkedEmployeeId = none) (hstart : message.isExplicitStartCommand = true) :
    (previewLinking toLowercase message).run noFaults db =
      (previewOf (resolveRegistrationMatch toLowercase message db.activeEmployees), db) := by
  have hfound := run_findAccount db message.senderId
  rw [hr] at hfound
  have hnone : (toUser r).linkedEmployeeId = none := hunlinked
  unfold previewLinking
  rw [Prog.run_bind_ok noFaults hfound]
  simp only [Option.map_some, Option.bind_some, hnone]
  rw [if_neg fun h => h.2 hstart, Prog.run_bind_ok noFaults (run_listActive db)]
  cases resolveRegistrationMatch toLowercase message db.activeEmployees <;> rfl

end RegisterUser

open RegisterUser

/-- The dialog is over, and the user is linked so. -/
def CompletedWith (message : IncomingMessage) (link : Option Int) (o : AppResult OnboardingOutcome × Db) : Prop :=
  ∃ user, o.1 = .ok (.completed user) ∧ user.linkedEmployeeId = link ∧
    (o.2.account message.senderId).map (fun r => r.val.user.linkedEmployeeId) = some link

/-- The outcome of the step is the one the matcher gives for the sender. -/
def LinkedAsMatched (toLowercase : String → String) (message : IncomingMessage) (db : Db)
    (o : AppResult OnboardingOutcome × Db) : Prop :=
  match resolveRegistrationMatch toLowercase message db.activeEmployees with
  | .unique employee => CompletedWith message employee.id o
  | .ambiguous candidates => ∃ user clarification, o.1 = .ok (.askEmployeeLink user clarification) ∧
      clarification.candidates = candidates.map .fromMatch
  | .notFound => CompletedWith message none o

/-- Who completes without a link is linked as matched exactly if nobody matches. -/
theorem linkedAsMatched_unlinked_iff {toLowercase : String → String} {message : IncomingMessage} {db : Db}
    {o : AppResult OnboardingOutcome × Db} (h : CompletedWith message none o) :
    LinkedAsMatched toLowercase message db o ↔
      resolveRegistrationMatch toLowercase message db.activeEmployees = .notFound := by
  obtain ⟨user, hanswer, huser, hrow⟩ := h
  unfold LinkedAsMatched
  cases hmatch : resolveRegistrationMatch toLowercase message db.activeEmployees with
  | unique employee =>
    obtain ⟨id, hid, -⟩ := find_activeEmployee (resolve_unique_mem hmatch)
    refine iff_of_false ?_ nofun
    rintro ⟨_, -, -, hlinked⟩
    rw [hrow, hid] at hlinked
    cases hlinked
  | ambiguous candidates =>
    refine iff_of_false ?_ nofun
    rintro ⟨_, _, hasked, -⟩
    cases hanswer.symm.trans hasked
  | notFound => exact iff_of_true ⟨user, hanswer, huser, hrow⟩ rfl

namespace Onboarding

/-! ## The step -/

section

variable (toLowercase : String → String) (clock : Nat → Instant)
variable {chars : CharClass} {message : IncomingMessage} {db : Db} {r : Stored UserColumns} {text : String}
  {name : PersonName}

/-- The row with the last name: what is left of the step runs on it. -/
theorem run_lastName (hr : db.account message.senderId = some r)
    (hstate : (toUser r).onboardingState = .awaitingLastName) (hlen : charsCount text ≤ maxPersonNamePartLength)
    (hname : PersonName.parseLastWithFirst chars (r.val.user.firstName.getD "") text = .ok name) :
    ∃ db₁ r₁, db₁.account message.senderId = some r₁ ∧ db₁.employees = db.employees ∧
      r₁.val.user.linkedEmployeeId = r.val.user.linkedEmployeeId ∧
      (handleText chars toLowercase clock message text).run noFaults db =
        (do
          let preview ← previewLinking toLowercase message
          match preview with
          | .ready decision => finish toLowercase clock message (toUser r₁) name.first name.last decision
          | .clarificationRequired clarification =>
              pure (.askEmployeeLink (toUser r₁)
                { message := clarification.message
                  candidates := clarification.candidates
                  allowContinueUnlinked := clarification.allowContinueUnlinked }) :
            Proc OnboardingOutcome).run noFaults db₁ := by
  obtain ⟨db₁, hrun, hacc, hemployees⟩ :=
    run_saveProgress hr .awaitingEmployeeLink none (some name.last) message.timestamp
  refine ⟨db₁, _, hacc, hemployees, rfl, ?_⟩
  have hfirst : PersonName.parseLastWithFirst chars ((toUser r).firstName.getD "") text = .ok name := hname
  unfold handleText
  rw [Prog.run_bind_ok noFaults (run_requireActiveSession hr)]
  simp only [hstate]
  unfold stepLastName
  rw [if_neg (Nat.not_lt.mpr hlen), hfirst]
  show (Prog.lift _ >>= _ : Proc OnboardingOutcome).run noFaults db = _
  rw [lift_userId]
  exact Prog.run_bind_ok noFaults hrun

/-- **The end of the dialog** links the row as decided. -/
theorem finish_completedWith {decision : RegistrationLinkDecision} {employee : Option Employee}
    (first last : String) (hr : db.account message.senderId = some r)
    (hunlinked : r.val.user.linkedEmployeeId = none) (hlink : employee.bind Employee.id = linkOf decision)
    (hresolve : ∀ db', db'.employees = db.employees →
      (resolveEmployeeForDecision toLowercase message decision).run noFaults db' = (.ok employee, db')) :
    CompletedWith message (linkOf decision)
      ((finish toLowercase clock message (toUser r) first last decision).run noFaults db) := by
  obtain ⟨db₁, hrun, hacc, hemployees⟩ := run_complete hr first last (linkOf decision) message.timestamp
  obtain ⟨db₂, hregister, hacc₂, -⟩ := run_registration toLowercase clock hacc (hresolve db₁ hemployees)
  unfold finish
  rw [lift_userId, Prog.run_bind_ok noFaults hrun, Prog.run_bind_ok noFaults hregister]
  have hcompleted : (linkOf decision).or r.val.user.linkedEmployeeId = linkOf decision := by
    rw [hunlinked, Option.or_none]
  refine ⟨_, rfl, hcompleted, ?_⟩
  show (db₂.account message.senderId).map _ = _
  rw [hacc₂]
  show some ((employee.bind Employee.id).or ((linkOf decision).or r.val.user.linkedEmployeeId)) = _
  rw [hcompleted, hlink, Option.or_self]

/-- An entry of the active directory is linked. -/
theorem finish_linked {employee : Employee} {id : Int} (first last : String)
    (hr : db.account message.senderId = some r) (hunlinked : r.val.user.linkedEmployeeId = none)
    (hmem : employee ∈ db.activeEmployees) (hid : employee.id = some id) :
    CompletedWith message (some id)
      ((finish toLowercase clock message (toUser r) first last (.employeeId id)).run noFaults db) := by
  have hlink : (some employee).bind Employee.id = linkOf (.employeeId id) := hid
  refine finish_completedWith toLowercase clock first last hr hunlinked hlink fun db' he => ?_
  rw [← activeEmployees_congr he] at hmem
  obtain ⟨id', hid', hfind⟩ := find_activeEmployee hmem
  cases hid.symm.trans hid'
  exact hfind

/-! ## Top theorem -/

/-- **When the link is the matched one.**  The last-name step of a sender without a link has the outcome
the matcher gives exactly if the message is an explicit `/start`, or nobody in the directory has the
username or the name of the sender. -/
theorem linked_as_matched_iff (hr : db.account message.senderId = some r)
    (hstate : (toUser r).onboardingState = .awaitingLastName) (hunlinked : r.val.user.linkedEmployeeId = none)
    (hlen : charsCount text ≤ maxPersonNamePartLength)
    (hname : PersonName.parseLastWithFirst chars (r.val.user.firstName.getD "") text = .ok name) :
    LinkedAsMatched toLowercase message db ((handleText chars toLowercase clock message text).run noFaults db) ↔
      message.isExplicitStartCommand = true ∨
        (exactUsernameMatches message db.activeEmployees = [] ∧
          exactFullNameMatches toLowercase message db.activeEmployees = []) := by
  obtain ⟨db₁, r₁, hr₁, hemployees, hlink, hrun⟩ := run_lastName toLowercase clock hr hstate hlen hname
  rw [hunlinked] at hlink
  have hactive := activeEmployees_congr hemployees
  rw [hrun, ← resolve_notFound_iff]
  have hcontinue : CompletedWith message none ((finish toLowercase clock message (toUser r₁) name.first name.last
      .continueUnlinked).run noFaults db₁) :=
    finish_completedWith toLowercase clock name.first name.last hr₁ hlink rfl fun _ _ => rfl
  by_cases hstart : message.isExplicitStartCommand = true
  · have hpreview := run_previewLinking_start toLowercase hr₁ hlink hstart
    rw [hactive] at hpreview
    refine iff_of_true ?_ (.inl hstart)
    unfold LinkedAsMatched
    cases hmatch : resolveRegistrationMatch toLowercase message db.activeEmployees with
    | unique employee =>
      have hmem : employee ∈ db₁.activeEmployees := by
        rw [hactive]
        exact resolve_unique_mem hmatch
      obtain ⟨id, hid, -⟩ := find_activeEmployee hmem
      have hready : previewOf (.unique employee) = .ok (.ready (.employeeId id)) := by
        show readyFor employee = _
        unfold readyFor
        rw [hid]
      rw [hmatch, hready] at hpreview
      rw [Prog.run_bind_ok noFaults hpreview]
      show CompletedWith message employee.id _
      rw [hid]
      exact finish_linked toLowercase clock name.first name.last hr₁ hlink hmem hid
    | ambiguous candidates =>
      rw [hmatch] at hpreview
      rw [Prog.run_bind_ok noFaults hpreview]
      exact ⟨_, _, rfl, rfl⟩
    | notFound =>
      rw [hmatch] at hpreview
      rw [Prog.run_bind_ok noFaults hpreview]
      exact hcontinue
  · have hno : message.isExplicitStartCommand = false := Bool.eq_false_iff.mpr hstart
    have hpreview := run_previewLinking_row toLowercase hr₁ hno
    have hdecision : rowDecision r₁ = .continueUnlinked := by
      unfold rowDecision
      rw [hlink]
    rw [hdecision] at hpreview
    rw [Prog.run_bind_ok noFaults hpreview, or_iff_right hstart]
    exact linkedAsMatched_unlinked_iff hcontinue

end

end Onboarding

/-! ## A name in the directory -/

def directoryWithJean : Db :=
  { Db.empty with
    employees := (Table.empty.insertOrIgnore
      ⟨none, "Jean Dupont", none, none, none, none, true, none, 0, 0⟩).1 }

def asciiChars : CharClass := ⟨Char.isAlpha, Char.isDigit⟩

/-- The text of a sender Telegram displays as `name`. -/
def typedBy (name text : String) : IncomingMessage :=
  { sampleMessage with senderName := name, content := .text text }

/-- The sender has sent `/start` and a first name. -/
def firstNameGiven (name : String) : Db :=
  let started := ((Onboarding.handleStart (typedBy name "/start")).run noFaults directoryWithJean).2
  ((Onboarding.handleText asciiChars UserRepository.sqlLower (fun _ => 0) (typedBy name "Jean") "Jean").run
    noFaults started).2

theorem firstNameGiven_row (name : String) : ∃ r, (firstNameGiven name).account 10 = some r ∧
    r.val.user.firstName = some "Jean" ∧ (toUser r).onboardingState = .awaitingLastName ∧
      r.val.user.linkedEmployeeId = none := ⟨_, rfl, rfl, rfl, rfl⟩

/-- The last name is accepted. -/
theorem lastName_parsed {first : Option String} (h : first = some "Jean") :
    PersonName.parseLastWithFirst asciiChars (first.getD "") "Dupont" = .ok ⟨"Jean", "Dupont"⟩ := by
  rw [h]
  decide

/-- A sender nobody in the directory is like stays without a link, as matched. -/
theorem stranger_linked_as_matched : LinkedAsMatched UserRepository.sqlLower (typedBy "JD" "Dupont")
    (firstNameGiven "JD") ((Onboarding.handleText asciiChars UserRepository.sqlLower (fun _ => 0)
      (typedBy "JD" "Dupont") "Dupont").run noFaults (firstNameGiven "JD")) := by
  obtain ⟨r, hr, hfirst, hstate, hunlinked⟩ := firstNameGiven_row "JD"
  exact (Onboarding.linked_as_matched_iff UserRepository.sqlLower (fun _ => 0) hr hstate hunlinked (by decide)
    (lastName_parsed hfirst)).mpr (.inr ⟨by decide +kernel, by decide +kernel⟩)

/-- The directory has the sender, who stays without a link all the same. -/
theorem namesake_not_linked : ¬ ∀ (chars : CharClass) (toLowercase : String → String) (clock : Nat → Instant)
    (message : IncomingMessage) (text : String) (db : Db) (r : Stored UserColumns) (name : PersonName),
      db.account message.senderId = some r → (toUser r).onboardingState = .awaitingLastName →
        r.val.user.linkedEmployeeId = none → message.textPayload = some text →
          charsCount text ≤ maxPersonNamePartLength →
            PersonName.parseLastWithFirst chars (r.val.user.firstName.getD "") text = .ok name →
              LinkedAsMatched toLowercase message db
                ((Onboarding.handleText chars toLowercase clock message text).run noFaults db) := by
  intro hall
  obtain ⟨r, hr, hfirst, hstate, hunlinked⟩ := firstNameGiven_row "Jean Dupont"
  have hlinked := hall asciiChars UserRepository.sqlLower (fun _ => 0) (typedBy "Jean Dupont" "Dupont") "Dupont"
    (firstNameGiven "Jean Dupont") r ⟨"Jean", "Dupont"⟩ hr hstate hunlinked rfl (by decide) (lastName_parsed hfirst)
  have hmatch : resolveRegistrationMatch UserRepository.sqlLower (typedBy "Jean Dupont" "Dupont")
      (firstNameGiven "Jean Dupont").activeEmployees =
        .unique ⟨some 1, "Jean Dupont", none, none, none, none, true, none, 0, 0⟩ := by decide +kernel
  unfold LinkedAsMatched at hlinked
  rw [hmatch] at hlinked
  obtain ⟨-, -, -, hrow⟩ := hlinked
  cases hrow

end TaskBot
