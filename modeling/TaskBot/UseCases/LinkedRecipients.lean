import TaskBot.Store.Identity
import TaskBot.UseCases.TaskMutations
import TaskBot.UseCases.TaskCreation

/-!
# The account of an employee

A user is linked to an employee by `linked_employee_id`, and registration may set the link by
username, by name or by choice.  The resolver does not read the link: it looks for the account
with the username the directory has.

    YieldsLinked …   ↔   the linked account is the first with that username
                                                              (linked_recipient_iff)
-/

namespace TaskBot

open Sql Calls UserRepository

/-- The first account with the username of the entry, letter case aside. -/
def Db.FirstNamed (db : Db) (employee : Employee) (r : Stored UserColumns) : Prop :=
  ∃ username before after, employee.telegramUsername = some username ∧
    db.users.rows = before ++ r :: after ∧ hasUsername (withoutAt username) r = true ∧
    ∀ r' ∈ before, hasUsername (withoutAt username) r' = false

/-- The accounts linked to the employee are the first with the username of the entry. -/
def Db.NamesLinked (db : Db) (employee : Option Employee) : Prop :=
  ∀ e id, employee = some e → e.id = some id →
    ∀ r ∈ db.users.rows, r.val.user.linkedEmployeeId = some id → db.FirstNamed e r

theorem accountNamed_iff {db : Db} {employee : Employee} {r : Stored UserColumns} (hr : r ∈ db.users.rows) :
    db.accountNamed employee = some (toUser r) ↔ db.FirstNamed employee r := by
  unfold Db.accountNamed
  constructor
  · intro h
    obtain ⟨username, hname, hfound⟩ := Option.bind_eq_some_iff.mp h
    obtain ⟨r', hr', hsame⟩ := Option.map_eq_some_iff.mp hfound
    -- an account is told by its id
    have hid : r'.id = r.id := Option.some.inj (congrArg User.id hsame)
    have heq : r' = r := Table.eq_of_not_apart (Table.find?_some hr').1 hr (.inl hid)
    rw [heq] at hr'
    obtain ⟨hq, before, after, hrows, hbefore⟩ := List.find?_eq_some_iff_append.mp hr'
    exact ⟨username, before, after, hname, hrows, hq, fun r' hr' => by simpa using hbefore r' hr'⟩
  · rintro ⟨username, before, after, hname, hrows, hq, hbefore⟩
    have hfind : db.users.find? (hasUsername (withoutAt username)) = some r :=
      List.find?_eq_some_iff_append.mpr ⟨hq, before, after, hrows, fun r' hr' => by simpa using hbefore r' hr'⟩
    rw [hname, Option.bind_some, hfind]
    rfl

/-- An employee who is resolved comes with the account that is linked to them. -/
def YieldsLinked (db : Db) (o : AppResult AssigneeResolution) : Prop :=
  ∀ user e id, o = .ok (.resolved ⟨user, some e⟩) → e.id = some id →
    ∀ r ∈ db.users.rows, r.val.user.linkedEmployeeId = some id → user = some (toUser r)

theorem yieldsLinked_iff {db : Db} {employee : Option Employee} {resolution : AssigneeResolution}
    (h : AssigneeResolver.Assigns db employee resolution) :
    YieldsLinked db (.ok resolution) ↔ db.NamesLinked employee := by
  cases employee with
  | none =>
    constructor
    · rintro - e id h
      cases h
    · rintro - user e id hresolved
      exact absurd (Except.ok.inj hresolved) (h user e)
  | some employee =>
    rw [show resolution = _ from h]
    constructor
    · intro hyields e id he hid r hr hlink
      cases he
      exact (accountNamed_iff hr).mp (hyields _ employee id rfl hid r hr hlink)
    · intro hnames user e id hresolved hid r hr hlink
      cases hresolved
      exact (accountNamed_iff hr).mpr (hnames employee id rfl hid r hr hlink)

/-- An id is resolved to its entry. -/
theorem assigns_employee (id : Int) (db : Db) : AssigneeResolver.Assigns db (db.employee id)
    (.resolved ⟨(db.employee id).bind db.accountNamed, db.employee id⟩) := by
  cases db.employee id with
  | none => exact fun _ _ h => nomatch h
  | some e => exact rfl

/-! ## Both purposes -/

namespace CreateTaskFromMessage

/-- The employee a creation assigns. -/
def decidedEmployee (ranking : NameRanking) (parsedRequest : ParsedTaskRequest) (db : Db) :
    TaskAssigneeDecision → Option Employee
  | .createUnassigned => none
  | .employeeId id => db.employee id
  | .auto =>
      if parsedRequest.explicitUnassigned then none
      else parsedRequest.assigneeName.bind fun query => AssigneeResolver.namedEmployee ranking query db

theorem run_resolveAssignee (ranking : NameRanking) (parsedRequest : ParsedTaskRequest)
    (decision : TaskAssigneeDecision) (db : Db) :
    ∃ resolution, (resolveAssignee ranking parsedRequest decision).run noFaults db = (.ok resolution, db) ∧
      AssigneeResolver.Assigns db (decidedEmployee ranking parsedRequest db decision) resolution := by
  cases decision with
  | createUnassigned => exact ⟨_, rfl, fun _ _ h => nomatch h⟩
  | employeeId id =>
    exact ⟨_, Prog.run_bind_ok noFaults (AssigneeResolver.run_resolveEmployeeId id db), assigns_employee id db⟩
  | auto =>
    unfold resolveAssignee decidedEmployee
    simp only
    split
    · exact ⟨_, rfl, fun _ _ h => nomatch h⟩
    · cases parsedRequest.assigneeName with
      | none => exact ⟨_, rfl, fun _ _ h => nomatch h⟩
      | some query => exact AssigneeResolver.run_resolveWithPurpose ranking query .taskCreation db

end CreateTaskFromMessage

namespace ReassignTask

/-- The employee a reassignment assigns. -/
def decidedEmployee (ranking : NameRanking) (query : String) (db : Db) : ReassignAssigneeDecision → Option Employee
  | .employeeId id => db.employee id
  | .auto => AssigneeResolver.namedEmployee ranking query db

theorem run_resolve (ranking : NameRanking) (query : String) (decision : ReassignAssigneeDecision) (db : Db) :
    ∃ resolution, (resolve ranking query decision).run noFaults db = (.ok resolution, db) ∧
      AssigneeResolver.Assigns db (decidedEmployee ranking query db decision) resolution := by
  cases decision with
  | employeeId id =>
    exact ⟨_, Prog.run_bind_ok noFaults (AssigneeResolver.run_resolveEmployeeId id db), assigns_employee id db⟩
  | auto => exact AssigneeResolver.run_resolveWithPurpose ranking query .reassignment db

end ReassignTask

/-! ## Top theorem -/

/-- **The linked account is the recipient**, in a creation and in a reassignment alike, exactly
if it is the first with the username of the employee. -/
theorem linked_recipient_iff (ranking : NameRanking) (parsedRequest : ParsedTaskRequest) (query : String)
    (decision : TaskAssigneeDecision) (decision' : ReassignAssigneeDecision) (db : Db) :
    (YieldsLinked db ((CreateTaskFromMessage.resolveAssignee ranking parsedRequest decision).run noFaults db).1 ↔
      db.NamesLinked (CreateTaskFromMessage.decidedEmployee ranking parsedRequest db decision)) ∧
    (YieldsLinked db ((ReassignTask.resolve ranking query decision').run noFaults db).1 ↔
      db.NamesLinked (ReassignTask.decidedEmployee ranking query db decision')) := by
  obtain ⟨resolution, hrun, hassigns⟩ :=
    CreateTaskFromMessage.run_resolveAssignee ranking parsedRequest decision db
  obtain ⟨resolution', hrun', hassigns'⟩ := ReassignTask.run_resolve ranking query decision' db
  rw [hrun, hrun']
  exact ⟨yieldsLinked_iff hassigns, yieldsLinked_iff hassigns'⟩

/-- Grace has registered and is linked, and the directory has no username of hers. -/
def linkedWithoutUsername : Db :=
  { Db.empty with
    users := (Table.empty.insertOrIgnore
      ⟨{ sampleUser 10 .user with linkedEmployeeId := some 1 }, some "completed"⟩).1
    employees := (Table.empty.insertOrIgnore ⟨none, "Grace", none, none, none, none, true, none, 0, 0⟩).1 }

/-- A task of hers waits for her registration. -/
theorem linked_not_found : ¬ ∀ (db : Db), ExclusiveIdentity db.users → ∀ id : Int,
    YieldsLinked db ((ReassignTask.resolve (fun _ _ => .notFound) "" (.employeeId id)).run noFaults db).1 := by
  intro h
  have hexclusive : ExclusiveIdentity linkedWithoutUsername.users :=
    ⟨Table.exclusive_of_length_le_one (by decide), Table.exclusive_of_length_le_one (by decide)⟩
  have hnone := h linkedWithoutUsername hexclusive 1 none _ 1 rfl rfl _ List.mem_cons_self rfl
  cases hnone

end TaskBot
