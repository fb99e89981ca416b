import TaskBot.Store.RecordRepositories
import TaskBot.Store.UserRepository

/-!
# Assignee resolution

From a name, a `@username` or an employee id to a user and an employee, or to a
question to the user.  How a name is ranked against the directory is a parameter
(`NameRanking`); nothing here writes to the database.
-/

namespace TaskBot

open Sql Calls

inductive MatchStrategy where
  | exactUsername | exactFullName | exactFirstName | prefixFirstName | suggestedFirstName
  | suggestedFullName
deriving DecidableEq, Repr

structure EmployeeMatch where
  employee : Employee
  confidence : Nat
  strategy : MatchStrategy
deriving DecidableEq, Repr

inductive RankedOutcome where
  | unique (candidate : EmployeeMatch)
  | suggested (top : EmployeeMatch) (rest : List EmployeeMatch)
  | ambiguous (candidates : List EmployeeMatch)
  | notFound
deriving DecidableEq, Repr

/-- `rank_outcome(match_employee_name(query, employees))`. -/
abbrev NameRanking := String → List Employee → RankedOutcome

structure EmployeeCandidateView where
  employeeId : Option Int
  fullName : String
  telegramUsername : Option String
  confidence : Nat
deriving DecidableEq, Repr

def EmployeeCandidateView.fromMatch (m : EmployeeMatch) : EmployeeCandidateView :=
  ⟨m.employee.id, m.employee.fullName, m.employee.telegramUsername, m.confidence⟩

structure ClarificationRequest where
  message : String
  requestedQuery : Option String
  allowUnassigned : Bool
  candidates : List EmployeeCandidateView
  taskBodyPreview : Option String
deriving DecidableEq, Repr

def maxClarificationTaskBodyPreviewChars : Nat := 400

def formatTaskBodyPreviewForClarification (taskDescription fallbackFullText : String) : String :=
  let body := trim taskDescription
  let source := if body.isEmpty then trim fallbackFullText else body
  if charsCount source ≤ maxClarificationTaskBodyPreviewChars then source
  else String.ofList (source.toList.take maxClarificationTaskBodyPreviewChars) ++ "…"

structure ResolvedAssignee where
  user : Option User
  employee : Option Employee
deriving DecidableEq, Repr

inductive AssigneeResolution where
  | resolved (r : ResolvedAssignee)
  | clarificationRequired (request : ClarificationRequest)
deriving DecidableEq, Repr

inductive AssigneeResolutionPurpose where
  | taskCreation | reassignment
deriving DecidableEq, Repr

namespace AssigneeResolver

def looksLikeUsername (value : String) : Bool :=
  let normalized := (trim value).toList.dropWhile (· = '@')
  5 ≤ normalized.length && normalized.length ≤ 32 &&
    normalized.all fun c => (c.isAlphanum && c.toNat < 128) || c = '_'

/-- `value.split_whitespace().count() >= 2`. -/
def looksLikeFullName (value : String) : Bool :=
  2 ≤ ((value.toList.splitBy fun a b => isWhitespace a == isWhitespace b).filter fun w =>
    !w.all isWhitespace).length

def clarificationMessage (query : String) : String :=
  if looksLikeFullName query then
    "Нашёл похожих сотрудников, но не могу безопасно назначить задачу автоматически. Выберите правильного человека явно, чтобы задача не ушла не тому."
  else
    "С этим именем есть несколько сотрудников. Выберите точного исполнителя явно, чтобы задача не ушла не тому."

def suggestedMessage (candidateName : String) : String :=
  "Похоже, вы имели в виду — " ++ candidateName ++
    ". Подтвердите, если это правильный исполнитель, или выберите другого человека."

def noMatchMessage (query : String) : String :=
  if looksLikeFullName query then
    "Не могу безопасно сопоставить это полное имя. Проверьте написание, выберите подходящего сотрудника или создайте задачу без исполнителя."
  else
    "Не могу безопасно определить исполнителя. Укажите @username или точное полное имя, либо создайте задачу без исполнителя."

def unknownUsernameMessage : String :=
  "Не вижу этого @username среди зарегистрированных пользователей. Попросите коллегу открыть бота через /start или выберите нужного сотрудника ниже."

def clarificationRequest (query : String) (purpose : AssigneeResolutionPurpose) (message : String)
    (candidates : List EmployeeCandidateView) : AssigneeResolution :=
  .clarificationRequired
    { message
      requestedQuery := some query
      allowUnassigned := purpose = .taskCreation
      candidates
      taskBodyPreview := none }

def resolveUserFromEmployee (employee : Employee) : Proc (Option User) :=
  match employee.telegramUsername with
  | none => pure none
  | some username => UserRepository.findByUsername (UserRepository.withoutAt username)

def resolveEmployeeId (employeeId : Int) : Proc ResolvedAssignee := do
  let employee ← EmployeeRepository.findById employeeId
  match employee with
  | some e => do
      let user ← resolveUserFromEmployee e
      pure ⟨user, some e⟩
  | none => pure ⟨none, none⟩

def resolveUsername (query : String) (purpose : AssigneeResolutionPurpose) : Proc AssigneeResolution :=
  if looksLikeUsername query then do
    let user ← UserRepository.findByUsername (UserRepository.withoutAt query)
    match user with
    | some u => pure (.resolved ⟨some u, none⟩)
    | none => pure (clarificationRequest query purpose unknownUsernameMessage [])
  else pure (clarificationRequest query purpose (noMatchMessage query) [])

def resolveWithPurpose (ranking : NameRanking) (query : String) (purpose : AssigneeResolutionPurpose) :
    Proc AssigneeResolution := do
  let normalizedQuery := trim query
  if normalizedQuery.isEmpty then pure (.resolved ⟨none, none⟩)
  else
    let employees ← EmployeeRepository.listActive
    match ranking normalizedQuery employees with
    | .unique candidate => do
        let user ← resolveUserFromEmployee candidate.employee
        pure (.resolved ⟨user, some candidate.employee⟩)
    | .suggested top rest =>
        pure (clarificationRequest normalizedQuery purpose (suggestedMessage top.employee.fullName)
          ((top :: rest).map .fromMatch))
    | .ambiguous candidates =>
        pure (clarificationRequest normalizedQuery purpose (clarificationMessage normalizedQuery)
          (candidates.map .fromMatch))
    | .notFound => resolveUsername normalizedQuery purpose

def resolveForCreation (ranking : NameRanking) (query : String) : Proc AssigneeResolution :=
  resolveWithPurpose ranking query .taskCreation

def resolveForReassignment (ranking : NameRanking) (query : String) : Proc AssigneeResolution :=
  resolveWithPurpose ranking query .reassignment

/-! ## Resolution only reads -/

theorem resolveUserFromEmployee_reads (employee : Employee) :
    (resolveUserFromEmployee employee).Within Eq := by
  unfold resolveUserFromEmployee
  split
  · exact .pure _
  · exact select_reads _ _

theorem resolveEmployeeId_reads (employeeId : Int) : (resolveEmployeeId employeeId).Within Eq := by
  refine .bind (select_reads _ _) fun employee => ?_
  cases employee with
  | none => exact .pure _
  | some e => exact .bind (resolveUserFromEmployee_reads e) fun _ => .pure _

theorem resolveUsername_reads (query : String) (purpose : AssigneeResolutionPurpose) :
    (resolveUsername query purpose).Within Eq := by
  unfold resolveUsername
  split
  · refine .bind (select_reads _ _) fun user => ?_
    cases user <;> exact .pure _
  · exact .pure _

theorem resolveWithPurpose_reads (ranking : NameRanking) (query : String)
    (purpose : AssigneeResolutionPurpose) : (resolveWithPurpose ranking query purpose).Within Eq := by
  unfold resolveWithPurpose
  simp only
  split
  · exact .pure _
  · refine .bind (select_reads _ _) fun employees => ?_
    split
    · exact .bind (resolveUserFromEmployee_reads _) fun _ => .pure _
    · exact .pure _
    · exact .pure _
    · exact resolveUsername_reads _ _

/-! ## Resolution ends at its first error -/

theorem resolveUserFromEmployee_strict (employee : Employee) :
    (resolveUserFromEmployee employee).Strict := by
  unfold resolveUserFromEmployee
  split
  · exact .pure _
  · exact .perform _ _

theorem resolveEmployeeId_strict (employeeId : Int) : (resolveEmployeeId employeeId).Strict := by
  refine .bind (.perform _ _) fun employee => ?_
  cases employee with
  | none => exact .pure _
  | some e => exact .bind (resolveUserFromEmployee_strict e) fun _ => .pure _

theorem resolveUsername_strict (query : String) (purpose : AssigneeResolutionPurpose) :
    (resolveUsername query purpose).Strict := by
  unfold resolveUsername
  split
  · refine .bind (.perform _ _) fun user => ?_
    cases user <;> exact .pure _
  · exact .pure _

theorem resolveWithPurpose_strict (ranking : NameRanking) (query : String)
    (purpose : AssigneeResolutionPurpose) : (resolveWithPurpose ranking query purpose).Strict := by
  unfold resolveWithPurpose
  simp only
  split
  · exact .pure _
  · refine .bind (.perform _ _) fun employees => ?_
    split
    · exact .bind (resolveUserFromEmployee_strict _) fun _ => .pure _
    · exact .pure _
    · exact .pure _
    · exact resolveUsername_strict _ _

/-! ## What the lookups yield -/

end AssigneeResolver

/-- The entry of the directory under the id. -/
def Db.employee (db : Db) (id : Int) : Option Employee :=
  (db.employees.find? fun r => r.id = id).map fun r => { r.val with id := some r.id }

/-- The account under the username of the entry. -/
def Db.accountNamed (db : Db) (employee : Employee) : Option User :=
  employee.telegramUsername.bind fun username =>
    (db.users.find? (UserRepository.hasUsername (UserRepository.withoutAt username))).map toUser

theorem employee_id {db : Db} {id : Int} {employee : Employee} (h : db.employee id = some employee) :
    employee.id = some id := by
  obtain ⟨r, hr, rfl⟩ := Option.map_eq_some_iff.mp h
  have hid : r.id = id := of_decide_eq_true (Table.find?_some hr).2
  exact congrArg some hid

namespace AssigneeResolver

/-- Looking a user up never fails. -/
theorem run_resolveUserFromEmployee (employee : Employee) (db : Db) :
    (resolveUserFromEmployee employee).run noFaults db = (.ok (db.accountNamed employee), db) := by
  unfold resolveUserFromEmployee Db.accountNamed
  cases employee.telegramUsername with
  | none => rfl
  | some username => exact run_select rfl db

/-- An id is taken as it is found, active or not. -/
theorem run_resolveEmployeeId (id : Int) (db : Db) : (resolveEmployeeId id).run noFaults db =
    (.ok ⟨(db.employee id).bind db.accountNamed, db.employee id⟩, db) := by
  have hfind : (EmployeeRepository.findById id).run noFaults db = (.ok (db.employee id), db) := run_select rfl db
  unfold resolveEmployeeId
  rw [Prog.run_bind_ok noFaults hfind]
  cases db.employee id with
  | none => rfl
  | some e =>
    simp only
    rw [Prog.run_bind_ok noFaults (run_resolveUserFromEmployee e db)]
    rfl

/-- The employee a text is resolved to without asking. -/
def namedEmployee (ranking : NameRanking) (query : String) (db : Db) : Option Employee :=
  if (trim query).isEmpty then none
  else
    match ranking (trim query) db.activeEmployees with
    | .unique candidate => some candidate.employee
    | _ => none

/-- The resolution assigns the employee, with the account of that username. -/
def Assigns (db : Db) (employee : Option Employee) (resolution : AssigneeResolution) : Prop :=
  match employee with
  | some e => resolution = .resolved ⟨db.accountNamed e, some e⟩
  | none => ∀ user e, resolution ≠ .resolved ⟨user, some e⟩

theorem assigns_clarification (db : Db) (query : String) (purpose : AssigneeResolutionPurpose) (message : String)
    (candidates : List EmployeeCandidateView) :
    Assigns db none (clarificationRequest query purpose message candidates) := fun _ _ h => nomatch h

theorem run_resolveUsername (query : String) (purpose : AssigneeResolutionPurpose) (db : Db) :
    ∃ resolution, (resolveUsername query purpose).run noFaults db = (.ok resolution, db) ∧
      Assigns db none resolution := by
  unfold resolveUsername
  split
  · have hfind : (UserRepository.findByUsername (UserRepository.withoutAt query)).run noFaults db =
        (.ok ((db.users.find? (UserRepository.hasUsername (UserRepository.withoutAt query))).map toUser), db) :=
      run_select rfl db
    rw [Prog.run_bind_ok noFaults hfind]
    cases (db.users.find? (UserRepository.hasUsername (UserRepository.withoutAt query))).map toUser with
    | none => exact ⟨_, rfl, assigns_clarification db _ _ _ _⟩
    | some u => exact ⟨_, rfl, fun _ _ h => nomatch h⟩
  · exact ⟨_, rfl, assigns_clarification db _ _ _ _⟩

/-- **A text** is resolved to the employee the ranking names, or to no employee. -/
theorem run_resolveWithPurpose (ranking : NameRanking) (query : String) (purpose : AssigneeResolutionPurpose)
    (db : Db) : ∃ resolution, (resolveWithPurpose ranking query purpose).run noFaults db = (.ok resolution, db) ∧
      Assigns db (namedEmployee ranking query db) resolution := by
  unfold resolveWithPurpose namedEmployee
  simp only
  split
  · exact ⟨_, rfl, fun _ _ h => nomatch h⟩
  · rw [Prog.run_bind_ok noFaults (run_listActive db)]
    cases ranking (trim query) db.activeEmployees with
    | unique candidate =>
      simp only
      rw [Prog.run_bind_ok noFaults (run_resolveUserFromEmployee candidate.employee db)]
      exact ⟨_, rfl, rfl⟩
    | suggested top rest => exact ⟨_, rfl, assigns_clarification db _ _ _ _⟩
    | ambiguous candidates => exact ⟨_, rfl, assigns_clarification db _ _ _ _⟩
    | notFound => exact run_resolveUsername _ _ db

/-! ## Who is resolved -/

/-- The user, if any, is a row of the table. -/
def Registered (db : Db) (user : Option User) : Prop :=
  ∀ u, user = some u → ∃ r ∈ db.users.rows, u = toUser r

theorem registered_none (db : Db) : Registered db none := fun _ h => nomatch h

theorem findByUsername_registered (username : String) (db : Db) :
    (UserRepository.findByUsername username).Reads db (Registered db) := by
  refine .perform fun found h u hu => ?_
  cases h
  obtain ⟨r, hr, rfl⟩ := Option.map_eq_some_iff.mp hu
  exact ⟨r, (Table.find?_some hr).1, rfl⟩

theorem resolveUserFromEmployee_registered (employee : Employee) (db : Db) :
    (resolveUserFromEmployee employee).Reads db (Registered db) := by
  unfold resolveUserFromEmployee
  split
  · exact .pure (registered_none db)
  · exact findByUsername_registered _ db

theorem resolveEmployeeId_registered (employeeId : Int) (db : Db) :
    (resolveEmployeeId employeeId).Reads db fun resolved => Registered db resolved.user := by
  have hfind : (EmployeeRepository.findById employeeId).Reads db fun _ => True :=
    .perform fun _ _ => trivial
  refine hfind.bind fun employee _ => ?_
  cases employee with
  | none => exact .pure (registered_none db)
  | some e => exact (resolveUserFromEmployee_registered e db).bind fun user hu => .pure hu

/-- The user of a resolution is a row of the table. -/
def Resolves (db : Db) (resolution : AssigneeResolution) : Prop :=
  ∀ resolved, resolution = .resolved resolved → Registered db resolved.user

theorem resolves_clarification (db : Db) (query : String) (purpose : AssigneeResolutionPurpose)
    (message : String) (candidates : List EmployeeCandidateView) :
    Resolves db (clarificationRequest query purpose message candidates) := fun _ h => nomatch h

theorem resolves_user {db : Db} {user : Option User} (h : Registered db user)
    (employee : Option Employee) : Resolves db (.resolved ⟨user, employee⟩) := by
  intro resolved hr
  cases hr
  exact h

theorem resolveUsername_resolves (query : String) (purpose : AssigneeResolutionPurpose) (db : Db) :
    (resolveUsername query purpose).Reads db (Resolves db) := by
  unfold resolveUsername
  split
  · refine (findByUsername_registered _ db).bind fun user hu => ?_
    split
    · exact .pure (resolves_user hu none)
    · exact .pure (resolves_clarification db _ _ _ _)
  · exact .pure (resolves_clarification db _ _ _ _)

theorem resolveWithPurpose_resolves (ranking : NameRanking) (query : String)
    (purpose : AssigneeResolutionPurpose) (db : Db) :
    (resolveWithPurpose ranking query purpose).Reads db (Resolves db) := by
  have hlist : EmployeeRepository.listActive.Reads db fun _ => True := .perform fun _ _ => trivial
  unfold resolveWithPurpose
  simp only
  split
  · exact .pure (resolves_user (registered_none db) none)
  · refine hlist.bind fun employees _ => ?_
    split
    · exact (resolveUserFromEmployee_registered _ db).bind fun user hu => .pure (resolves_user hu _)
    · exact .pure (resolves_clarification db _ _ _ _)
    · exact .pure (resolves_clarification db _ _ _ _)
    · exact resolveUsername_resolves _ _ db

end AssigneeResolver

end TaskBot
