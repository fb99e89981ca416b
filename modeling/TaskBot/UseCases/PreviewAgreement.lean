import TaskBot.Domain.CivilDates
import TaskBot.Domain.ResolvedDeadlines
import TaskBot.UseCases.ExplicitAssignee
import TaskBot.UseCases.NameMatching
import TaskBot.UseCases.OnboardingLinks
import TaskBot.UseCases.TaskPreview

/-!
# The preview and the creation

A preview reads the deadline in the timezone of a user made from the message, the default one; the
creation reads it in the timezone of the stored row.  Both resolve the same assignee, but a creation
registers the sender first.

* `sought`: what a request asks for, from the directory alone; `Sought.answer`: what comes of it
  with the accounts there are;
* `dueDate`: the day a text is due on, read in a timezone;
* `preview_agrees_iff`: where the two agree.
-/

namespace TaskBot

open Sql Calls TaskRepository

/-- What the use case takes from other packages. -/
structure Packages where
  tables : UnicodeTables
  formats : DateFormats
  /-- `name.parse::<chrono_tz::Tz>()`. -/
  parseTz : String → Option Tz
  toLowercase : String → String
  similarity : String → String → Rat

namespace CreateTaskFromMessage

/-! ## Deadlines -/

/-- The timezone of a name, else the default one, else UTC. -/
def timezoneOf (packages : Packages) (timezone : String) : Tz :=
  ((packages.parseTz timezone).or (packages.parseTz defaultUserTimezone)).getD (.fixed 0 (by decide))

/-- An error of the kernel is no deadline. -/
def orNoDeadline : AppResult DeadlineResolver.Deadline → Deadline
  | .ok deadline => ⟨deadline.localDate, deadline.rawFragment⟩
  | .error _ => ⟨none, none⟩

def resolveDeadline (packages : Packages) (originalText timezone : String) (aiIsoHint : Option String)
    (nowUtc : Instant) : Option Deadline :=
  (DeadlineResolver.resolve packages.tables packages.formats
    ⟨originalText, aiIsoHint, timezoneOf packages timezone, nowUtc, none⟩).run.map orNoDeadline

/-- Where the parser and the kernel return, the services answer what they answer. -/
structure Serves (services : CreationServices) (packages : Packages) : Prop where
  ranking : services.ranking = NameMatching.ranking packages.toLowercase packages.similarity
  parseTaskRequest : ∀ text today answer,
    (Parsing.parseTaskRequest packages.tables text today).run = some answer →
      services.parseTaskRequest text today = answer
  resolveDeadline : ∀ text timezone hint now deadline,
    resolveDeadline packages text timezone hint now = some deadline →
      services.resolveDeadline text timezone hint now = deadline

/-- The end of business of a date in the timezone. -/
def closeOf (zone : Tz) (date : Int) : Instant :=
  zone.instantOf (date * nanosPerDay + DeadlineResolver.defaultEndOfBusinessMin * nanosPerMinute)

section

variable (packages : Packages) (text : String) (now : Instant)

/-- The day whose end of business the text names, read in the timezone. -/
def namedDay (zone : Tz) : Option NaiveDate :=
  match (Parsing.extractDeadlineFromText packages.tables text (zone.localDate now)).run with
  | some (.ok (some date, _)) => some (zone.localDate (closeOf zone date))
  | _ => none

/-- What the parser makes of the text. -/
def requestOf : Option ParsedTaskRequest :=
  match (Parsing.parseTaskRequest packages.tables text (Instant.utcDate now)).run with
  | some (.ok request) => some request
  | _ => none

/-- The day the text is due on: the one it names in the timezone, else the one of the parser. -/
def dueDate (timezone : String) : Option NaiveDate :=
  (namedDay packages text now (timezoneOf packages timezone)).or
    ((requestOf packages text now).bind ParsedTaskRequest.deadline)

/-- No date of the text is beyond the dates there are. -/
structure StaysInRange (timezone : String) : Prop where
  request : MayPanic.Returns (Parsing.parseTaskRequest packages.tables text (Instant.utcDate now))
  deadline : MayPanic.Returns (Parsing.extractDeadlineFromText packages.tables text
    ((timezoneOf packages timezone).localDate now))

end

section

variable {packages : Packages} {text : String} {now : Instant}

/-- Without hint the text decides. -/
theorem run_resolve_text {tables : UnicodeTables} {formats : DateFormats} {input : DeadlineResolver.DeadlineInput}
    (h : input.aiIsoHint = none) : (DeadlineResolver.resolve tables formats input).run =
      (DeadlineResolver.tryDeterministic tables input >>= fun resolved =>
        pure (resolved.getD DeadlineResolver.Deadline.none)).run := by
  have hnone : (DeadlineResolver.tryHint formats input).run = some (.ok none) := by
    unfold DeadlineResolver.tryHint
    rw [h]
    rfl
  rw [DeadlineResolver.resolve_eq, MayPanic.run_bind_ok hnone]
  rfl

theorem run_endOfBusiness (zone : Tz) (date : Int) :
    (DeadlineResolver.endOfBusinessUtc date zone none).run = some (.ok (closeOf zone date)) := rfl

/-- Without hint and calendar the kernel answers the named day. -/
theorem resolveDeadline_named {timezone : String}
    (h : MayPanic.Returns (Parsing.extractDeadlineFromText packages.tables text
      ((timezoneOf packages timezone).localDate now))) :
    ∃ deadline, resolveDeadline packages text timezone none now = some deadline ∧
      deadline.localDate = namedDay packages text now (timezoneOf packages timezone) := by
  obtain ⟨answer, hanswer⟩ := h
  unfold resolveDeadline namedDay
  rw [run_resolve_text rfl, hanswer]
  unfold DeadlineResolver.tryDeterministic
  cases answer with
  | error e =>
    rw [MayPanic.run_bind_error (MayPanic.run_bind_error hanswer _)]
    exact ⟨_, rfl, rfl⟩
  | ok extracted =>
    obtain ⟨date, raw⟩ := extracted
    rw [bind_assoc, MayPanic.run_bind_ok hanswer]
    cases date with
    | none => exact ⟨_, rfl, rfl⟩
    | some date =>
      rw [bind_assoc, MayPanic.run_bind_ok (run_endOfBusiness _ date)]
      exact ⟨_, rfl, rfl⟩

end

/-! ## Assignees -/

/-- The question to the user about a name. -/
def question (query message : String) (candidates : List EmployeeCandidateView) : ClarificationRequest :=
  ⟨message, some query, true, candidates, none⟩

/-- What a request asks for: an entry of the directory, or an account, or an answer of the user. -/
inductive Sought where
  | nobody
  | employee (found : Employee)
  | username (name : String) (unknown : ClarificationRequest)
  | answer (request : ClarificationRequest)

/-- What a name asks for. -/
def soughtName (ranking : NameRanking) (employees : List Employee) (query : String) : Sought :=
  if query.isEmpty then .nobody
  else
    match ranking query employees with
    | .unique candidate => .employee candidate.employee
    | .suggested top rest =>
        .answer (question query (AssigneeResolver.suggestedMessage top.employee.fullName)
          ((top :: rest).map .fromMatch))
    | .ambiguous candidates =>
        .answer (question query (AssigneeResolver.clarificationMessage query) (candidates.map .fromMatch))
    | .notFound =>
        if AssigneeResolver.looksLikeUsername query then
          .username (UserRepository.withoutAt query)
            (question query AssigneeResolver.unknownUsernameMessage [])
        else .answer (question query (AssigneeResolver.noMatchMessage query) [])

def sought (ranking : NameRanking) (employees : List Employee) (request : ParsedTaskRequest) : Sought :=
  match request.explicitUnassigned, request.assigneeName with
  | false, some query => soughtName ranking employees (trim query)
  | _, _ => .nobody

end CreateTaskFromMessage

/-- The account a username finds. -/
def Db.accountUnder (db : Db) (username : String) : Option User :=
  (db.users.find? (UserRepository.hasUsername username)).map toUser

namespace CreateTaskFromMessage

/-- What comes of it with the accounts there are. -/
def Sought.resolution (account : String → Option User) : Sought → AssigneeResolution
  | .nobody => .resolved ⟨none, none⟩
  | .employee found =>
      .resolved ⟨found.telegramUsername.bind fun username => account (UserRepository.withoutAt username), some found⟩
  | .username name unknown =>
      match account name with
      | some user => .resolved ⟨some user, none⟩
      | none => .clarificationRequired unknown
  | .answer request => .clarificationRequired request

/-- What a preview shows of what is asked for. -/
def Previews (interpretation : AssigneeInterpretation) (asked : Sought) (db : Db) : Prop :=
  interpretation = interpretAssignee (asked.resolution db.accountUnder) ∨ interpretation = .none ∧ asked = .nobody

section

variable {account : String → Option User} {name : String}

theorem resolution_known {user : User} (h : account name = some user) (unknown : ClarificationRequest) :
    (Sought.username name unknown).resolution account = .resolved ⟨some user, none⟩ := by
  simp only [Sought.resolution, h]

theorem resolution_unknown (h : account name = none) (unknown : ClarificationRequest) :
    (Sought.username name unknown).resolution account = .clarificationRequired unknown := by
  simp only [Sought.resolution, h]

end

section

variable (ranking : NameRanking) (db : Db)

theorem run_resolveForCreation (query : String) :
    (AssigneeResolver.resolveForCreation ranking query).run noFaults db =
      (.ok ((soughtName ranking db.activeEmployees (trim query)).resolution db.accountUnder), db) := by
  unfold AssigneeResolver.resolveForCreation AssigneeResolver.resolveWithPurpose soughtName
  simp only
  split
  · rfl
  · rw [Prog.run_bind_ok noFaults (run_listActive db)]
    cases ranking (trim query) db.activeEmployees with
    | unique candidate =>
      simp only
      rw [Prog.run_bind_ok noFaults (AssigneeResolver.run_resolveUserFromEmployee candidate.employee db)]
      rfl
    | suggested top rest => rfl
    | ambiguous candidates => rfl
    | notFound =>
      simp only
      unfold AssigneeResolver.resolveUsername
      split
      · have hfind : (UserRepository.findByUsername (UserRepository.withoutAt (trim query))).run noFaults db =
            (.ok (db.accountUnder (UserRepository.withoutAt (trim query))), db) := run_select rfl db
        rw [Prog.run_bind_ok noFaults hfind]
        cases haccount : db.accountUnder (UserRepository.withoutAt (trim query)) with
        | none =>
          rw [resolution_unknown haccount]
          rfl
        | some user =>
          rw [resolution_known haccount]
          rfl
      · rfl

/-- The assignee of a creation. -/
theorem run_resolveAuto (request : ParsedTaskRequest) :
    (resolveAssignee ranking request .auto).run noFaults db =
      (.ok ((sought ranking db.activeEmployees request).resolution db.accountUnder), db) := by
  unfold resolveAssignee sought
  cases request.explicitUnassigned with
  | true => rfl
  | false =>
    cases request.assigneeName with
    | none => rfl
    | some query =>
      simp only [Bool.false_eq_true, if_false]
      exact run_resolveForCreation ranking db query

/-- The assignee of a preview is that of the resolution, or nobody is shown where nobody is asked for. -/
theorem run_previewAssignee (request : ParsedTaskRequest) :
    ∃ interpretation, (previewAssignee ranking request).run noFaults db = (.ok interpretation, db) ∧
      Previews interpretation (sought ranking db.activeEmployees request) db := by
  unfold previewAssignee sought
  cases request.explicitUnassigned with
  | true => exact ⟨.none, rfl, .inr ⟨rfl, rfl⟩⟩
  | false =>
    cases request.assigneeName with
    | none => exact ⟨.none, rfl, .inr ⟨rfl, rfl⟩⟩
    | some query => exact ⟨_, Prog.run_bind_ok noFaults (run_resolveForCreation ranking db query), .inl rfl⟩

end

/-! ## The creation -/

/-- The users, the directory and the tasks stay as they are. -/
structure LeavesPeople (db db' : Db) : Prop where
  users : db'.users = db.users
  employees : db'.employees = db.employees
  tasks : db'.tasks = db.tasks

theorem LeavesPeople.refl (db : Db) : LeavesPeople db db := ⟨rfl, rfl, rfl⟩

theorem LeavesPeople.trans {db db' db'' : Db} (h : LeavesPeople db db') (h' : LeavesPeople db' db'') :
    LeavesPeople db db'' :=
  ⟨h'.users.trans h.users, h'.employees.trans h.employees, h'.tasks.trans h.tasks⟩

theorem enqueueAssigneeNotification_leavesPeople (task : Task) (user : Option User) (hasEmployeeMatch : Bool)
    (now : Instant) : (enqueueAssigneeNotification task user hasEmployeeMatch now).Within LeavesPeople := by
  unfold enqueueAssigneeNotification
  split
  · exact .pure _
  · split
    · exact .pure _
    · split
      · exact .pure _
      · refine .bind (.bind (write_within fun _ => ⟨rfl, rfl, rfl⟩) fun _ => ?_) fun _ => .pure _
        exact .bind (.of_reads (select_reads _ _) LeavesPeople.refl) fun _ => .bind (.lift _) fun _ => .pure _

/-- An inserted task is answered as created. -/
theorem announce_yields (clock : Nat → Instant) (creator : User) (assignee : ResolvedAssignee) (task : Task) :
    Prog.Yields LeavesPeople (announce clock creator assignee task) fun outcome =>
      ∃ summary, outcome = .created summary := by
  have htrans : ∀ db db' db'', LeavesPeople db db' → LeavesPeople db' db'' → LeavesPeople db db'' :=
    fun _ _ _ => LeavesPeople.trans
  have hlog : (logTaskCreation task creator.id (assignee.user.bind User.id) (clock 3)).Within LeavesPeople :=
    .bind (.lift _) fun _ => .bind (write_within fun _ => ⟨rfl, rfl, rfl⟩) fun _ => .pure _
  refine .bind htrans (.of_within LeavesPeople.refl htrans hlog) fun _ _ => ?_
  refine .bind htrans (.of_within LeavesPeople.refl htrans
    (enqueueAssigneeNotification_leavesPeople _ _ _ _)) fun _ _ => ?_
  exact .pure LeavesPeople.refl ⟨_, rfl⟩

section

variable {services : CreationServices} {clock : Nat → Instant} {uid : Uuid} {message : IncomingMessage}
  {originalText : String} {creator : User} {request : ParsedTaskRequest} {assignee : ResolvedAssignee} {db db' : Db}
  {summary : TaskCreationSummary}

/-- A known sender is registered with the timezone of the row. -/
theorem run_registerCreator_known {row : Stored UserColumns} (hrow : db.account message.senderId = some row) :
    ∃ creator creatorId, creator.id = some creatorId ∧ creator.timezone = row.val.user.timezone ∧
      (registerCreator message).run noFaults db = (.ok creator, registered message db) := by
  have hfind : (db.users.find? fun r =>
      r.val.user.telegramId = (User.fromMessage message .user false).telegramId) = some row := hrow
  show ∃ creator creatorId, creator.id = some creatorId ∧ creator.timezone = row.val.user.timezone ∧
    UserRepository.upsertUser (.fromMessage message .user false) db = (.ok creator, registered message db)
  unfold registered UserRepository.upsertUser
  rw [hfind]
  exact ⟨toUser ⟨row.id, UserRepository.mergeFromMessage (.fromMessage message .user false) row.val⟩, row.id,
    rfl, rfl, rfl⟩

/-- An answer says that the task was there, or it is stored now. -/
theorem persist_ok {task : Task} {outcome : TaskCreationOutcome}
    (h : (persist clock creator assignee task).run noFaults db = (.ok outcome, db')) :
    (¬ IsNew task db ∧ ∃ summary, outcome = .duplicateFound summary) ∨
      (∃ summary, outcome = .created summary) ∧ db'.stored task.taskUid = some (toTask (newRow task db)) ∧
        db'.users = db.users ∧ db'.employees = db.employees := by
  unfold persist at h
  by_cases hnew : IsNew task db
  · rw [Prog.run_bind_ok noFaults (run_createIfAbsent_new hnew rfl rfl)] at h
    obtain ⟨hpeople, hcreated⟩ := announce_yields clock creator assignee (toTask (newRow task db)) noFaults
      (inserted task db)
    have hdb' : ((announce clock creator assignee (toTask (newRow task db))).run noFaults
        (inserted task db)).2 = db' := congrArg Prod.snd h
    rw [hdb'] at hpeople
    refine .inr ⟨hcreated outcome (congrArg Prod.fst h), ?_, hpeople.users, hpeople.employees⟩
    rw [Db.stored_congr hpeople.tasks, stored_inserted hnew]
  · obtain ⟨hsame, hanswer⟩ := run_createIfAbsent_existing noFaults hnew
    cases hr : ((createIfAbsent task).run noFaults db).1 with
    | error e =>
      rw [Prog.run_bind_error noFaults (Prod.ext hr hsame)] at h
      cases h
    | ok p =>
      obtain ⟨r, -, -, rfl⟩ := hanswer p hr
      rw [Prog.run_bind_ok noFaults (Prod.ext hr hsame)] at h
      cases h
      exact .inl ⟨hnew, _, rfl⟩

theorem buildTask_fields {generated : GeneratedTask} {task : Task}
    (h : buildTask services clock uid message originalText creator request assignee generated = .ok task) :
    task.taskUid = uid ∧ task.assignedToUserId = assignee.user.bind User.id ∧
      task.assignedToEmployeeId = assignee.employee.bind Employee.id ∧
      task.deadline = (services.resolveDeadline originalText creator.timezone
        generated.structuredTask.deadlineIso (clock 1)).localDate.or request.deadline := by
  unfold buildTask at h
  cases hid : requiredUserId creator with
  | error e =>
    rw [hid] at h
    cases h
  | ok creatorId =>
    rw [hid] at h
    unfold Task.new at h
    cases hrules : generated.structuredTask.validateBusinessRules with
    | error e =>
      rw [hrules] at h
      cases h
    | ok u =>
      rw [hrules] at h
      cases h
      exact ⟨rfl, rfl, rfl, rfl⟩

/-- What a creation does once the assignee is resolved. -/
def settle (services : CreationServices) (clock : Nat → Instant) (uid : Uuid) (message : IncomingMessage)
    (originalText : String) (creator : User) (request : ParsedTaskRequest) :
    AssigneeResolution → Proc TaskCreationOutcome
  | .clarificationRequired unclear =>
      pure (.clarificationRequired { unclear with
        taskBodyPreview := some (formatTaskBodyPreviewForClarification request.taskDescription originalText) })
  | .resolved assignee => do
      let generated ← .lift (services.generateTask request assignee.employee)
      let task ← .lift (buildTask services clock uid message originalText creator request assignee generated)
      persist clock creator assignee task

theorem validatePayloadLength_voice {voice : VoiceAttachment} (hcontent : message.content = .voice voice) :
    message.validatePayloadLength = .ok () := by
  unfold IncomingMessage.validatePayloadLength IncomingMessage.textPayload
  rw [hcontent]

theorem extractOriginalText_voice {voice : VoiceAttachment} (hcontent : message.content = .voice voice)
    (htext : services.transcribe voice = .ok originalText) :
    extractOriginalText services message = .ok originalText := by
  unfold extractOriginalText
  rw [hcontent]
  exact htext

theorem run_execute {voice : VoiceAttachment} (hcontent : message.content = .voice voice)
    (htext : services.transcribe voice = .ok originalText)
    (hrequest : services.parseTaskRequest originalText (Instant.utcDate (clock 0)) = .ok request)
    (hregister : (registerCreator message).run noFaults db = (.ok creator, registered message db)) :
    (executeWithAssigneeDecision services clock uid message .auto).run noFaults db =
      (settle services clock uid message originalText creator request
        ((sought services.ranking db.activeEmployees request).resolution
          (registered message db).accountUnder)).run noFaults (registered message db) := by
  have hresolve := run_resolveAuto services.ranking (registered message db) request
  rw [activeEmployees_congr (registered_employees message db)] at hresolve
  unfold executeWithAssigneeDecision prepare draftTask
  simp only [Prog.bind_assoc, validatePayloadLength_voice hcontent, extractOriginalText_voice hcontent htext,
    hrequest, Prog.lift_ok_bind]
  rw [Prog.run_bind_ok noFaults hregister, Prog.run_bind_ok noFaults hresolve]
  cases (sought services.ranking db.activeEmployees request).resolution (registered message db).accountUnder with
  | clarificationRequired unclear => rfl
  | resolved assignee =>
    simp only [Prog.bind_assoc]
    rfl

/-- The generator gives no hint. -/
def GivesNoHint (services : CreationServices) : Prop :=
  ∀ request employee generated, services.generateTask request employee = .ok generated →
    generated.structuredTask.deadlineIso = none

/-- The task as the preview should show it. -/
structure Drafted (services : CreationServices) (now : Instant) (originalText timezone : String)
    (request : ParsedTaskRequest) (assignee : ResolvedAssignee) (t : Task) : Prop where
  user : t.assignedToUserId = assignee.user.bind User.id
  employee : t.assignedToEmployeeId = assignee.employee.bind Employee.id
  deadline : t.deadline = (services.resolveDeadline originalText timezone none now).localDate.or request.deadline

/-- With an assignee nothing is asked, and a task that is created is the one drafted. -/
theorem settle_ok (hhint : GivesNoHint services) {outcome : TaskCreationOutcome}
    (h : (settle services clock uid message originalText creator request (.resolved assignee)).run noFaults db =
      (.ok outcome, db')) :
    (∃ summary, outcome = .duplicateFound summary) ∨ (∃ summary, outcome = .created summary) ∧
      (∃ t, db'.stored uid = some t ∧
        Drafted services (clock 1) originalText creator.timezone request assignee t) ∧
      db'.users = db.users ∧ db'.employees = db.employees := by
  simp only [settle] at h
  cases hgenerated : services.generateTask request assignee.employee with
  | error e =>
    rw [hgenerated] at h
    cases h
  | ok generated =>
    rw [hgenerated, Prog.lift_ok_bind] at h
    cases htask : buildTask services clock uid message originalText creator request assignee generated with
    | error e =>
      rw [htask] at h
      cases h
    | ok task =>
      rw [htask, Prog.lift_ok_bind] at h
      obtain ⟨huid, huser, hemployee, hdeadline⟩ := buildTask_fields htask
      rw [hhint _ _ _ hgenerated] at hdeadline
      rcases persist_ok h with ⟨-, hold⟩ | ⟨hcreated, hstored, hpeople⟩
      · exact .inl hold
      · rw [huid] at hstored
        exact .inr ⟨hcreated, ⟨_, hstored, huser, hemployee, hdeadline⟩, hpeople⟩

end

end CreateTaskFromMessage

/-! ## What is shown -/

/-- The assignee of a task. -/
def Db.assigneeOf (db : Db) (t : Task) : ResolvedAssignee :=
  ⟨t.assignedToUserId.bind fun id => (db.users.find? fun r => r.id = id).map toUser,
    t.assignedToEmployeeId.bind db.employee⟩

/-- How the account of a username is shown. -/
def Db.shownUnder (db : Db) (username : String) : Option String :=
  (db.accountUnder username).map fun user => CreateTaskFromMessage.assigneeDisplay ⟨some user, none⟩

theorem employee_of_active {db : Db} {employee : Employee} (h : employee ∈ db.activeEmployees) :
    employee.id.bind db.employee = some employee := by
  obtain ⟨id, hid, hfind⟩ := find_activeEmployee h
  have hrun : (EmployeeRepository.findById id).run noFaults db = (.ok (db.employee id), db) := run_select rfl db
  rw [hid]
  exact Except.ok.inj (congrArg Prod.fst (hrun.symm.trans hfind))

theorem account_of_registered {db : Db} {user : Option User} (h : AssigneeResolver.Registered db user) :
    ((user.bind User.id).bind fun id => (db.users.find? fun r => r.id = id).map toUser) = user := by
  cases user with
  | none => rfl
  | some u =>
    obtain ⟨r, hr, rfl⟩ := h u rfl
    have hfind : db.users.find? (fun r' => r'.id = r.id) = some r :=
      Table.find?_eq hr (decide_eq_true rfl) fun a b ha hb =>
        .inl ((of_decide_eq_true ha).trans (of_decide_eq_true hb).symm)
    show (db.users.find? fun r' => r'.id = r.id).map toUser = some (toUser r)
    rw [hfind]
    rfl

namespace CreateTaskFromMessage

/-- The preview asks who is meant. -/
def AsksBefore (preview : AppResult TaskInterpretationPreview) : Prop :=
  ∃ p unclear, preview = .ok p ∧ p.assignee = .clarificationRequired unclear

/-- So does the creation. -/
def AsksInstead (created : AppResult TaskCreationOutcome) : Prop :=
  ∃ unclear, created = .ok (.clarificationRequired unclear)

def ShowsAssignee : AssigneeInterpretation → ResolvedAssignee → Prop
  | .none, assignee => assignee = ⟨none, none⟩
  | .resolved display _, assignee => display = assigneeDisplay assignee
  | .clarificationRequired _, _ => False

/-- The deadline label and the assignee of the preview are those of the stored task. -/
def ShowsTask (uid : Uuid) (preview : AppResult TaskInterpretationPreview) (db : Db) : Prop :=
  ∃ p t, preview = .ok p ∧ db.stored uid = some t ∧ p.deadlineLabel = t.deadline.map formatDate ∧
    ShowsAssignee p.assignee (db.assigneeOf t)

/-- The username that is looked up, of a text that names nobody in the directory. -/
def Sought.lookedUp : Sought → Option String
  | .username name _ => some name
  | .nobody | .employee _ | .answer _ => none

/-- What the text asks for. -/
def soughtBy (packages : Packages) (text : String) (now : Instant) (db : Db) : Sought :=
  match requestOf packages text now with
  | some request =>
      sought (NameMatching.ranking packages.toLowercase packages.similarity) db.activeEmployees request
  | none => .nobody

theorem accountUnder_registered (db : Db) (username : String) :
    AssigneeResolver.Registered db (db.accountUnder username) := by
  intro u hu
  obtain ⟨r, hr, rfl⟩ := Option.map_eq_some_iff.mp hu
  exact ⟨r, (Table.find?_some hr).1, rfl⟩

section

variable {packages : Packages} {db : Db} {assignee : ResolvedAssignee} {asked : Sought}

theorem resolution_registered (h : asked.resolution db.accountUnder = .resolved assignee) :
    AssigneeResolver.Registered db assignee.user := by
  cases asked with
  | nobody =>
    cases h
    exact AssigneeResolver.registered_none db
  | employee found =>
    cases h
    intro u hu
    obtain ⟨username, -, hu⟩ := Option.bind_eq_some_iff.mp hu
    exact accountUnder_registered db _ u hu
  | username name unknown =>
    cases haccount : db.accountUnder name with
    | none =>
      rw [resolution_unknown haccount] at h
      cases h
    | some user =>
      rw [resolution_known haccount] at h
      cases h
      rw [← haccount]
      exact accountUnder_registered db name
  | answer unclear => cases h

/-- An employee that is found is in the directory. -/
theorem sought_employee {request : ParsedTaskRequest} {employees : List Employee} {found : Employee}
    (h : sought (NameMatching.ranking packages.toLowercase packages.similarity) employees request =
      .employee found) : found ∈ employees := by
  unfold sought at h
  split at h
  · unfold soughtName at h
    split at h
    · cases h
    · split at h
      · next candidate hunique =>
        cases h
        exact NameMatching.ranking_mem hunique
      · cases h
      · cases h
      · split at h <;> cases h
  · cases h

/-- Whoever is resolved for a task is found again by the ids of the task. -/
theorem assigneeOf_drafted {services : CreationServices} {now : Instant} {originalText timezone : String}
    {request : ParsedTaskRequest} {t : Task} {db' : Db}
    (hdrafted : Drafted services now originalText timezone request assignee t)
    (hresolved : asked.resolution db.accountUnder = .resolved assignee)
    (hfound : ∀ found, asked = .employee found → found ∈ db.activeEmployees) (husers : db'.users = db.users)
    (hemployees : db'.employees = db.employees) : db'.assigneeOf t = assignee := by
  have huser := account_of_registered (resolution_registered hresolved)
  have hemployee : (assignee.employee.bind Employee.id).bind db.employee = assignee.employee := by
    cases asked with
    | nobody =>
      cases hresolved
      rfl
    | employee found =>
      cases hresolved
      exact employee_of_active (hfound found rfl)
    | username name unknown =>
      cases haccount : db.accountUnder name with
      | none =>
        rw [resolution_unknown haccount] at hresolved
        cases hresolved
      | some user =>
        rw [resolution_known haccount] at hresolved
        cases hresolved
        rfl
    | answer unclear => cases hresolved
  have hlookup : db'.employee = db.employee := by
    funext id
    unfold Db.employee
    rw [hemployees]
  unfold Db.assigneeOf
  rw [hdrafted.user, hdrafted.employee, husers, hlookup, huser, hemployee]

variable {interpretation : AssigneeInterpretation} {db₁ : Db}

/-- The preview asks where the username finds nobody. -/
theorem previews_asks (h : Previews interpretation asked db) :
    (∃ unclear, interpretation = .clarificationRequired unclear) ↔
      ∃ unclear, asked.resolution db.accountUnder = .clarificationRequired unclear := by
  rcases h with rfl | ⟨rfl, rfl⟩
  · cases asked.resolution db.accountUnder with
    | resolved assignee => exact iff_of_false nofun nofun
    | clarificationRequired unclear => exact iff_of_true ⟨_, rfl⟩ ⟨_, rfl⟩
  · exact iff_of_false nofun nofun

/-- Both ask, unless a username finds somebody for one of them only. -/
theorem asks_iff (db db₁ : Db) (asked : Sought) :
    ((∃ unclear, asked.resolution db.accountUnder = .clarificationRequired unclear) ↔
        ∃ unclear, asked.resolution db₁.accountUnder = .clarificationRequired unclear) ↔
      ∀ name, asked.lookedUp = some name →
        ((db.accountUnder name).isSome ↔ (db₁.accountUnder name).isSome) := by
  have hasks : ∀ (db : Db) name unknown,
      (∃ unclear, (Sought.username name unknown).resolution db.accountUnder = .clarificationRequired unclear) ↔
        ¬ (db.accountUnder name).isSome := by
    intro db name unknown
    cases haccount : db.accountUnder name with
    | none =>
      rw [resolution_unknown haccount]
      exact iff_of_true ⟨_, rfl⟩ nofun
    | some user =>
      rw [resolution_known haccount]
      exact iff_of_false nofun fun h => h rfl
  cases asked with
  | nobody => exact iff_of_true (iff_of_false nofun nofun) nofun
  | employee found => exact iff_of_true (iff_of_false nofun nofun) nofun
  | username name unknown =>
    rw [hasks, hasks, not_iff_not]
    exact ⟨fun h name' hname => Option.some.inj hname ▸ h, fun h => h name rfl⟩
  | answer unclear => exact iff_of_true (iff_of_true ⟨_, rfl⟩ ⟨_, rfl⟩) nofun

/-- The assignee that is shown is the one resolved later, unless the username is shown otherwise. -/
theorem shows_iff (h : Previews interpretation asked db)
    (hresolved : asked.resolution db₁.accountUnder = .resolved assignee) :
    ShowsAssignee interpretation assignee ↔
      ∀ name, asked.lookedUp = some name → db.shownUnder name = db₁.shownUnder name := by
  rcases h with rfl | ⟨rfl, rfl⟩
  · cases asked with
    | nobody =>
      cases hresolved
      exact iff_of_true rfl nofun
    | employee found =>
      cases hresolved
      exact iff_of_true rfl nofun
    | username name unknown =>
      have hall : (∀ name', (Sought.username name unknown).lookedUp = some name' →
          db.shownUnder name' = db₁.shownUnder name') ↔ db.shownUnder name = db₁.shownUnder name :=
        ⟨fun h => h name rfl, fun h name' hname => Option.some.inj hname ▸ h⟩
      rw [hall]
      unfold Db.shownUnder
      cases hlater : db₁.accountUnder name with
      | none =>
        rw [resolution_unknown hlater] at hresolved
        cases hresolved
      | some user' =>
        rw [resolution_known hlater] at hresolved
        cases hresolved
        cases hbefore : db.accountUnder name with
        | none =>
          rw [resolution_unknown hbefore]
          exact iff_of_false id nofun
        | some user =>
          rw [resolution_known hbefore]
          exact ⟨congrArg some, Option.some.inj⟩
    | answer unclear => cases hresolved
  · cases hresolved
    exact iff_of_true rfl nofun

end

/-! ## Top theorem -/

section

variable {packages : Packages} {services : CreationServices} {message : IncomingMessage} {voice : VoiceAttachment}
  {text : String} {now : Instant} {db : Db}

theorem run_previewInterpretation {request : ParsedTaskRequest} (hcontent : message.content = .voice voice)
    (htext : services.transcribe voice = .ok text)
    (hrequest : services.parseTaskRequest text (Instant.utcDate now) = .ok request) :
    ∃ interpretation, Previews interpretation (sought services.ranking db.activeEmployees request) db ∧
      (previewInterpretation services (fun _ => now) message).run noFaults db =
        (.ok ⟨request.taskDescription, ((services.resolveDeadline text defaultUserTimezone none now).localDate.or
          request.deadline).map formatDate, interpretation⟩, db) := by
  obtain ⟨interpretation, hrun, hpreviews⟩ := run_previewAssignee services.ranking db request
  refine ⟨interpretation, hpreviews, ?_⟩
  unfold previewInterpretation
  rw [extractOriginalText_voice hcontent htext, Prog.lift_ok_bind, hrequest, Prog.lift_ok_bind]
  simp only
  rw [Prog.run_bind_ok noFaults hrun, Option.map_or]
  rfl

theorem soughtBy_request {request : ParsedTaskRequest} (hserves : Serves services packages)
    (hrequest : requestOf packages text now = some request) (db : Db) :
    soughtBy packages text now db = sought services.ranking db.activeEmployees request := by
  unfold soughtBy
  simp only [hrequest, hserves.ranking]

theorem asksBefore_ok {p : TaskInterpretationPreview} :
    AsksBefore (.ok p) ↔ ∃ unclear, p.assignee = .clarificationRequired unclear := by
  constructor
  · rintro ⟨p', unclear, hp, hunclear⟩
    cases hp
    exact ⟨unclear, hunclear⟩
  · rintro ⟨unclear, hunclear⟩
    exact ⟨p, unclear, rfl, hunclear⟩

/-- Labels are alike only of the same day. -/
theorem showsTask_ok {uid : Uuid} {t : Task} {due : Option NaiveDate} {description : String}
    {interpretation : AssigneeInterpretation} (ht : db.stored uid = some t) :
    ShowsTask uid (.ok ⟨description, due.map formatDate, interpretation⟩) db ↔
      ShowsAssignee interpretation (db.assigneeOf t) ∧ due = t.deadline := by
  constructor
  · rintro ⟨p, t', hp, ht', hlabel, hassignee⟩
    cases hp
    cases ht.symm.trans ht'
    exact ⟨hassignee, Option.map_injective (fun _ _ => formatDate_inj) hlabel⟩
  · rintro ⟨hassignee, hdue⟩
    exact ⟨_, t, rfl, ht, congrArg (Option.map formatDate) hdue, hassignee⟩

/-- A text that is no request has neither a preview nor a task. -/
theorem run_unparsed (clock : Nat → Instant) {uid : Uuid} {e : AppError} {creator : User}
    (hcontent : message.content = .voice voice) (htext : services.transcribe voice = .ok text)
    (hparse : services.parseTaskRequest text (Instant.utcDate (clock 0)) = .error e)
    (hregister : (registerCreator message).run noFaults db = (.ok creator, registered message db)) :
    (previewInterpretation services clock message).run noFaults db = (.error e, db) ∧
      (executeWithAssigneeDecision services clock uid message .auto).run noFaults db =
        (.error e, registered message db) := by
  have hextract := extractOriginalText_voice hcontent htext
  constructor
  · unfold previewInterpretation
    rw [hextract, Prog.lift_ok_bind, hparse]
    rfl
  · unfold executeWithAssigneeDecision prepare draftTask
    simp only [Prog.bind_assoc, validatePayloadLength_voice hcontent, hextract, Prog.lift_ok_bind]
    rw [Prog.run_bind_ok noFaults hregister, hparse]
    rfl

/-- The creation asks what the resolution asks. -/
theorem settle_asks {clock : Nat → Instant} {uid : Uuid} {creator : User} {request : ParsedTaskRequest}
    {resolution : AssigneeResolution} (hhint : GivesNoHint services) :
    AsksInstead ((settle services clock uid message text creator request resolution).run noFaults db).1 ↔
      ∃ unclear, resolution = .clarificationRequired unclear := by
  cases resolution with
  | clarificationRequired unclear => exact iff_of_true ⟨_, rfl⟩ ⟨_, rfl⟩
  | resolved assignee =>
    refine iff_of_false ?_ nofun
    rintro ⟨unclear, hasks⟩
    rcases settle_ok hhint (Prod.ext hasks rfl) with ⟨summary, hold⟩ | ⟨⟨summary, hnew⟩, -⟩
    · cases hold
    · cases hnew

/-! ### Two runs of one message -/

section

variable {row : Stored UserColumns} {uid : Uuid} (hserves : Serves services packages) (hhint : GivesNoHint services)
  (hcontent : message.content = .voice voice) (htext : services.transcribe voice = .ok text)
  (hrow : db.account message.senderId = some row) (hdefault : StaysInRange packages text now defaultUserTimezone)
  (hstored : StaysInRange packages text now row.val.user.timezone)

include hserves in
/-- The deadline of a run, read in the timezone of its user. -/
theorem deadline_due {timezone : String} {request : ParsedTaskRequest} (hrange : StaysInRange packages text now timezone)
    (hrequest : requestOf packages text now = some request) :
    (services.resolveDeadline text timezone none now).localDate.or request.deadline =
      dueDate packages text now timezone := by
  obtain ⟨deadline, hdeadline, hnamed⟩ := resolveDeadline_named hrange.deadline
  rw [hserves.resolveDeadline _ _ _ _ _ hdeadline, hnamed]
  unfold dueDate
  rw [hrequest]
  rfl

include hserves hdefault in
/-- The parser of the services answers what the text is. -/
theorem parseTaskRequest_answer : (∃ e, services.parseTaskRequest text (Instant.utcDate now) = .error e ∧
      requestOf packages text now = none) ∨
    ∃ request, services.parseTaskRequest text (Instant.utcDate now) = .ok request ∧
      requestOf packages text now = some request := by
  obtain ⟨answer, hanswer⟩ := hdefault.request
  have hparse := hserves.parseTaskRequest _ _ _ hanswer
  unfold requestOf
  rw [hanswer]
  cases answer with
  | error e => exact .inl ⟨e, hparse, rfl⟩
  | ok request => exact .inr ⟨request, hparse, rfl⟩

include hserves hcontent htext hrow hdefault in
/-- No request for both of them. -/
theorem both_fail (uid : Uuid) (hrequest : requestOf packages text now = none) :
    ∃ e, (previewInterpretation services (fun _ => now) message).run noFaults db = (.error e, db) ∧
      (executeWithAssigneeDecision services (fun _ => now) uid message .auto).run noFaults db =
        (.error e, registered message db) := by
  obtain ⟨creator, creatorId, -, -, hregister⟩ := run_registerCreator_known hrow
  rcases parseTaskRequest_answer hserves hdefault with ⟨e, hparse, -⟩ | ⟨request, -, hsome⟩
  · exact ⟨e, run_unparsed (fun _ => now) hcontent htext hparse hregister⟩
  · rw [hrequest] at hsome
    cases hsome

include hserves hcontent htext hrow hdefault in
/-- Both resolve what a request asks for. -/
theorem both_resolve (uid : Uuid) {request : ParsedTaskRequest} (hrequest : requestOf packages text now = some request) :
    ∃ creator interpretation, creator.timezone = row.val.user.timezone ∧
      Previews interpretation (soughtBy packages text now db) db ∧
      (previewInterpretation services (fun _ => now) message).run noFaults db =
        (.ok ⟨request.taskDescription, (dueDate packages text now defaultUserTimezone).map formatDate,
          interpretation⟩, db) ∧
      (executeWithAssigneeDecision services (fun _ => now) uid message .auto).run noFaults db =
        (settle services (fun _ => now) uid message text creator request
          ((soughtBy packages text now db).resolution (registered message db).accountUnder)).run noFaults
            (registered message db) := by
  obtain ⟨creator, creatorId, -, hzone, hregister⟩ := run_registerCreator_known hrow
  rcases parseTaskRequest_answer hserves hdefault with ⟨e, -, hnone⟩ | ⟨request', hparse, hsome⟩
  · rw [hrequest] at hnone
    cases hnone
  · cases hrequest.symm.trans hsome
    obtain ⟨interpretation, hpreviews, hpreview⟩ :=
      @run_previewInterpretation services message voice text now db request hcontent htext hparse
    rw [← soughtBy_request hserves hrequest] at hpreviews
    rw [deadline_due hserves hdefault hrequest] at hpreview
    refine ⟨creator, interpretation, hzone, hpreviews, hpreview, ?_⟩
    rw [run_execute hcontent htext hparse hregister, soughtBy_request hserves hrequest]

include hserves hhint hcontent htext hrow hdefault in
theorem asks_alike_iff :
    (AsksBefore ((previewInterpretation services (fun _ => now) message).run noFaults db).1 ↔
        AsksInstead ((executeWithAssigneeDecision services (fun _ => now) uid message .auto).run noFaults db).1) ↔
      ∀ name, (soughtBy packages text now db).lookedUp = some name →
        ((db.accountUnder name).isSome ↔ ((registered message db).accountUnder name).isSome) := by
  cases hrequest : requestOf packages text now with
  | none =>
    obtain ⟨e, hpreview, hcreated⟩ := both_fail hserves hcontent htext hrow hdefault uid hrequest
    have hnobody : (soughtBy packages text now db).lookedUp = none := by
      unfold soughtBy
      rw [hrequest]
      rfl
    rw [hpreview, hcreated, hnobody]
    refine iff_of_true (iff_of_false ?_ ?_) ?_
    · rintro ⟨p, unclear, hp, -⟩
      cases hp
    · rintro ⟨unclear, hunclear⟩
      cases hunclear
    · intro name hname
      cases hname
  | some request =>
    obtain ⟨creator, interpretation, -, hpreviews, hpreview, hcreated⟩ :=
      both_resolve hserves hcontent htext hrow hdefault uid hrequest
    rw [hpreview, hcreated, settle_asks hhint, asksBefore_ok, previews_asks hpreviews, asks_iff]

include hserves hhint hcontent htext hrow hdefault hstored in
theorem shows_created_iff {summary : TaskCreationSummary} {db' : Db}
    (hcreated : (executeWithAssigneeDecision services (fun _ => now) uid message .auto).run noFaults db =
      (.ok (.created summary), db')) :
    ShowsTask uid ((previewInterpretation services (fun _ => now) message).run noFaults db).1 db' ↔
      (∀ name, (soughtBy packages text now db).lookedUp = some name →
        db.shownUnder name = (registered message db).shownUnder name) ∧
      dueDate packages text now defaultUserTimezone = dueDate packages text now row.val.user.timezone := by
  cases hrequest : requestOf packages text now with
  | none =>
    obtain ⟨e, -, hfailed⟩ := both_fail hserves hcontent htext hrow hdefault uid hrequest
    cases hcreated.symm.trans hfailed
  | some request =>
    obtain ⟨creator, interpretation, hzone, hpreviews, hpreview, hrun⟩ :=
      both_resolve hserves hcontent htext hrow hdefault uid hrequest
    rw [hcreated] at hrun
    cases hresolved : (soughtBy packages text now db).resolution (registered message db).accountUnder with
    | clarificationRequired unclear =>
      rw [hresolved] at hrun
      cases hrun
    | resolved assignee =>
      rw [hresolved] at hrun
      rcases settle_ok hhint hrun.symm with ⟨duplicate, hold⟩ | ⟨-, ⟨t, ht, hdrafted⟩, husers, hemployees⟩
      · cases hold
      · have hfound : ∀ found, soughtBy packages text now db = .employee found →
            found ∈ (registered message db).activeEmployees := by
          intro found hfound
          rw [soughtBy_request hserves hrequest, hserves.ranking] at hfound
          rw [activeEmployees_congr (registered_employees message db)]
          exact sought_employee hfound
        have hassignee := assigneeOf_drafted hdrafted hresolved hfound husers hemployees
        have hdeadline := hdrafted.deadline
        rw [hzone, deadline_due hserves hstored hrequest] at hdeadline
        rw [hpreview, showsTask_ok ht, hassignee, hdeadline, shows_iff hpreviews hresolved]

end

end

/-! ## Top theorem -/

/-- **The preview agrees with the creation**: both ask who is meant exactly if a username that is looked
up finds somebody both before and after the sender is registered, or neither time; and the preview shows
the task that is created exactly if it shows the account of that username alike and the text is due on the
same day in the default timezone and in that of the creator. -/
theorem preview_agrees_iff (packages : Packages) (services : CreationServices) (message : IncomingMessage)
    (voice : VoiceAttachment) (text : String) (now : Instant) (uid : Uuid) (db : Db) (row : Stored UserColumns)
    (hserves : Serves services packages) (hhint : GivesNoHint services) (hcontent : message.content = .voice voice)
    (htext : services.transcribe voice = .ok text) (hrow : db.account message.senderId = some row)
    (hdefault : StaysInRange packages text now defaultUserTimezone)
    (hstored : StaysInRange packages text now row.val.user.timezone) :
    let preview := (previewInterpretation services (fun _ => now) message).run noFaults db
    let created := (executeWithAssigneeDecision services (fun _ => now) uid message .auto).run noFaults db
    let lookedUp := (soughtBy packages text now db).lookedUp
    ((AsksBefore preview.1 ↔ AsksInstead created.1) ↔ ∀ name, lookedUp = some name →
      ((db.accountUnder name).isSome ↔ ((registered message db).accountUnder name).isSome)) ∧
    ∀ summary, created.1 = .ok (.created summary) → (ShowsTask uid preview.1 created.2 ↔
      (∀ name, lookedUp = some name → db.shownUnder name = (registered message db).shownUnder name) ∧
        dueDate packages text now defaultUserTimezone = dueDate packages text now row.val.user.timezone) :=
  ⟨asks_alike_iff hserves hhint hcontent htext hrow hdefault, fun _ hcreated =>
    shows_created_iff hserves hhint hcontent htext hrow hdefault hstored (Prod.ext hcreated rfl)⟩

end CreateTaskFromMessage

/-! ## One in the morning in Vladivostok -/

def samplePackages : Packages where
  tables := plainTables
  formats := sampleFormats
  parseTz name :=
    if name = defaultUserTimezone then some moscowTime
    else if name = "Asia/Vladivostok" then some (.fixed 36000000000000 (by decide))
    else none
  toLowercase := id
  similarity _ _ := 0

/-- Services over the parser and the kernel, with one transcript. -/
def transcriptServices (text : String) : CreationServices where
  transcribe _ := .ok text
  parseTaskRequest text today :=
    (Parsing.parseTaskRequest samplePackages.tables text today).run.getD (.error (databaseError "out of range"))
  ranking := NameMatching.ranking samplePackages.toLowercase samplePackages.similarity
  generateTask := sampleServices.generateTask
  resolveDeadline text timezone hint now :=
    (CreateTaskFromMessage.resolveDeadline samplePackages text timezone hint now).getD ⟨none, none⟩

theorem transcriptServices_serve (text : String) :
    CreateTaskFromMessage.Serves (transcriptServices text) samplePackages where
  ranking := rfl
  parseTaskRequest text today answer h := by
    unfold transcriptServices
    dsimp only
    rw [h, Option.getD_some]
  resolveDeadline text timezone hint now deadline h := by
    unfold transcriptServices
    dsimp only
    rw [h, Option.getD_some]

theorem transcriptServices_noHint (text : String) :
    CreateTaskFromMessage.GivesNoHint (transcriptServices text) := by
  intro request employee generated h
  have hanswer : sampleServices.generateTask request employee = .ok generated := h
  unfold sampleServices at hanswer
  rw [← Except.ok.inj hanswer]

def voiceMessage : IncomingMessage :=
  { sampleMessage with content := .voice ⟨"file", "unique", 4, none, none⟩ }

/-- Their sender, in a timezone. -/
def senderIn (timezone : String) : Db :=
  { Db.empty with
    users := (Table.empty.insertOrIgnore
      ⟨{ UserRepository.sampleUser 10 .user with timezone }, some "completed"⟩).1 }

/-- Six in the evening in Moscow, the day after in Vladivostok. -/
def mondayEvening : Instant := mondayNoon + 360 * nanosPerMinute

/-- "Submit the report tomorrow". -/
def report : String := "Сдать отчёт завтра"

def reportRequest : ParsedTaskRequest := ⟨none, "Сдать отчёт", some 20564, some "завтра", false, 80⟩

theorem report_parsed :
    (Parsing.parseTaskRequest samplePackages.tables report 20563).run = some (.ok reportRequest) := by
  decide +kernel

theorem report_inRange {now : Instant} {timezone : String} (hnow : Instant.utcDate now = 20563)
    (hlocal : (CreateTaskFromMessage.timezoneOf samplePackages timezone).localDate now = 20563 ∨
      (CreateTaskFromMessage.timezoneOf samplePackages timezone).localDate now = 20564) :
    CreateTaskFromMessage.StaysInRange samplePackages report now timezone := by
  constructor
  · rw [hnow]
    exact ⟨_, report_parsed⟩
  · rcases hlocal with hlocal | hlocal
    · rw [hlocal]
      exact ⟨.ok (some 20564, some "завтра"), by decide +kernel⟩
    · rw [hlocal]
      exact ⟨.ok (some 20565, some "завтра"), by decide +kernel⟩

theorem report_asked {now : Instant} (hnow : Instant.utcDate now = 20563) (db : Db) :
    (CreateTaskFromMessage.soughtBy samplePackages report now db).lookedUp = none := by
  unfold CreateTaskFromMessage.soughtBy CreateTaskFromMessage.requestOf
  rw [hnow, report_parsed]
  rfl

/-- The task of the message. -/
theorem report_created {now : Instant} (hnow : Instant.utcDate now = 20563) (timezone : String) :
    ∃ summary, ((CreateTaskFromMessage.executeWithAssigneeDecision (transcriptServices report)
      (fun _ => now) (sampleUid 1) voiceMessage .auto).run noFaults (senderIn timezone)).1 =
        .ok (.created summary) := by
  have hparse : (transcriptServices report).parseTaskRequest report (Instant.utcDate now) = .ok reportRequest := by
    rw [hnow]
    exact (transcriptServices_serve report).parseTaskRequest _ _ _ report_parsed
  have hrow : (senderIn timezone).account voiceMessage.senderId = some _ := rfl
  obtain ⟨creator, creatorId, hid, -, hregister⟩ := CreateTaskFromMessage.run_registerCreator_known hrow
  rw [CreateTaskFromMessage.run_execute rfl rfl hparse hregister]
  show ∃ summary, ((CreateTaskFromMessage.settle (transcriptServices report) (fun _ => now) (sampleUid 1) voiceMessage
    report creator reportRequest (.resolved ⟨none, none⟩)).run noFaults (registered voiceMessage (senderIn timezone))).1 =
      .ok (.created summary)
  obtain ⟨generated, hgenerated⟩ : ∃ generated,
      (transcriptServices report).generateTask reportRequest none = .ok generated := ⟨_, rfl⟩
  obtain ⟨task, htask⟩ : ∃ task, CreateTaskFromMessage.buildTask (transcriptServices report) (fun _ => now)
      (sampleUid 1) voiceMessage report creator reportRequest ⟨none, none⟩ generated = .ok task := by
    cases hgenerated
    unfold CreateTaskFromMessage.buildTask CreateTaskFromMessage.requiredUserId
    rw [hid]
    exact ⟨_, rfl⟩
  have hnew : TaskRepository.IsNew task (registered voiceMessage (senderIn timezone)) := by
    intro r hr
    rw [(registered_frame voiceMessage (senderIn timezone)).1] at hr
    cases hr
  obtain ⟨⟨outcome, hok⟩, -⟩ := @CreateTaskFromMessage.run_persist_new (fun _ => now)
    (registered voiceMessage (senderIn timezone)) creator ⟨none, none⟩ task hnew
  simp only [CreateTaskFromMessage.settle, hgenerated, htask, Prog.lift_ok_bind]
  rcases CreateTaskFromMessage.persist_ok (Prod.ext hok rfl) with ⟨hold, -⟩ | ⟨⟨summary, hcreated⟩, -⟩
  · exact absurd hnew hold
  · exact ⟨summary, hcreated ▸ hok⟩

/-- At noon in Moscow it is the same day in Vladivostok. -/
theorem report_shown_at_noon : ∃ summary db',
    (CreateTaskFromMessage.executeWithAssigneeDecision (transcriptServices report) (fun _ => mondayNoon)
      (sampleUid 1) voiceMessage .auto).run noFaults (senderIn "Asia/Vladivostok") = (.ok (.created summary), db') ∧
    CreateTaskFromMessage.ShowsTask (sampleUid 1) ((CreateTaskFromMessage.previewInterpretation
      (transcriptServices report) (fun _ => mondayNoon) voiceMessage).run noFaults (senderIn "Asia/Vladivostok")).1 db' := by
  obtain ⟨summary, hcreated⟩ := @report_created mondayNoon (by decide) "Asia/Vladivostok"
  refine ⟨summary, _, Prod.ext hcreated rfl, ((CreateTaskFromMessage.preview_agrees_iff samplePackages
    (transcriptServices report) voiceMessage _ report mondayNoon (sampleUid 1) (senderIn "Asia/Vladivostok") _
    (transcriptServices_serve report) (transcriptServices_noHint report) rfl rfl rfl
    (report_inRange (by decide) (by decide)) (report_inRange (by decide) (by decide))).2 summary hcreated).mpr ⟨?_, ?_⟩⟩
  · intro name hname
    rw [report_asked (by decide)] at hname
    cases hname
  · decide +kernel

/-- "Tomorrow" is shown as the 21st, and stored as the 22nd. -/
theorem preview_a_day_early : ¬ ∀ (packages : Packages) (services : CreationServices) (message : IncomingMessage)
    (voice : VoiceAttachment) (text : String) (now : Instant) (uid : Uuid) (db : Db) (row : Stored UserColumns),
    CreateTaskFromMessage.Serves services packages → CreateTaskFromMessage.GivesNoHint services →
    message.content = .voice voice → services.transcribe voice = .ok text →
    db.account message.senderId = some row →
    CreateTaskFromMessage.StaysInRange packages text now defaultUserTimezone →
    CreateTaskFromMessage.StaysInRange packages text now row.val.user.timezone →
    let preview := (CreateTaskFromMessage.previewInterpretation services (fun _ => now) message).run noFaults db
    let created := (CreateTaskFromMessage.executeWithAssigneeDecision services (fun _ => now) uid message .auto).run
      noFaults db
    (CreateTaskFromMessage.AsksBefore preview.1 ↔ CreateTaskFromMessage.AsksInstead created.1) ∧
      ∀ summary, created.1 = .ok (.created summary) →
        CreateTaskFromMessage.ShowsTask uid preview.1 created.2 := by
  intro h
  obtain ⟨summary, hcreated⟩ := @report_created mondayEvening (by decide) "Asia/Vladivostok"
  have hdefault : CreateTaskFromMessage.StaysInRange samplePackages report mondayEvening defaultUserTimezone :=
    report_inRange (by decide) (by decide)
  have hstored : CreateTaskFromMessage.StaysInRange samplePackages report mondayEvening "Asia/Vladivostok" :=
    report_inRange (by decide) (by decide)
  have hshown := (h samplePackages (transcriptServices report) voiceMessage _ report mondayEvening (sampleUid 1)
    (senderIn "Asia/Vladivostok") _ (transcriptServices_serve report) (transcriptServices_noHint report) rfl rfl rfl
    hdefault hstored).2 summary hcreated
  have hdue := ((CreateTaskFromMessage.shows_created_iff (transcriptServices_serve report)
    (transcriptServices_noHint report) rfl rfl rfl hdefault hstored (Prod.ext hcreated rfl)).mp hshown).2
  revert hdue
  decide +kernel

end TaskBot
