import TaskBot.Presentation.OnboardingGate
import TaskBot.Store.DirectorySync
import TaskBot.UseCases.TaskRights

/-!
# What the dispatcher asks the use cases for

`RuntimeCall` lists the calls that may write, `program` is what each of them runs,
and `rights` what it may do to the tasks:

    (c.program application clock).run plan s   moves the tasks within   c.rights      (moves)
-/

namespace TaskBot

open Sql Calls

/-- What the use cases work with.  `newTaskUid` is the identifier the next task gets, `directory`
the answer of the employee directory. -/
structure Application where
  services : CreationServices
  chars : CharClass
  toLowercase : String → String
  directory : AppResult (List Employee)
  newTaskUid : Uuid

inductive RuntimeCall where
  | onboardingGate (message : IncomingMessage)
  | register (message : IncomingMessage) (decision : RegistrationLinkDecision)
  | selectLink (message : IncomingMessage) (selection : OnboardingLinkSelection)
  | createTask (message : IncomingMessage) (decision : TaskAssigneeDecision)
  | updateTaskStatus (actor : User) (taskUid : Uuid) (nextStatus : TaskStatus)
  | addTaskComment (actor : User) (taskUid : Uuid) (body : String)
  | reportTaskBlocker (actor : User) (taskUid : Uuid) (reason : String)
  | reassignTask (actor : User) (taskUid : Uuid) (query : String) (decision : ReassignAssigneeDecision)
  | syncEmployees
  | changeRole (actor : User) (targetUserId : Int) (nextRole : UserRole)
  | deactivateUser (actor : User) (targetUserId : Int)
  | reactivateUser (actor : User) (targetUserId : Int)
  | toggleFeatureFlag (actor : User) (flagKey : String) (enabled : Bool)
  | recordSecurityEvent (entry : SecurityAuditEntry)
deriving DecidableEq, Repr

namespace RuntimeCall

@[reducible] def Answer : RuntimeCall → Type
  | onboardingGate _ => OnboardingGateResult × Option GateReply
  | register _ _ => User
  | selectLink _ _ => OnboardingOutcome
  | createTask _ _ => TaskCreationOutcome
  | updateTaskStatus _ _ _ => TaskStatusSummary
  | addTaskComment _ _ _ => String
  | reportTaskBlocker _ _ _ => TaskStatusSummary
  | reassignTask _ _ _ _ => ReassignTaskOutcome
  | syncEmployees => Nat
  | changeRole _ _ _ | deactivateUser _ _ | reactivateUser _ _ => User
  | toggleFeatureFlag _ _ _ => Bool
  | recordSecurityEvent _ => SecurityAuditEntry

def program (app : Application) (clock : Nat → Instant) :
    (c : RuntimeCall) → Prog Site Process AppError c.Answer
  | onboardingGate message =>
      onDb (runOnboardingGate app.chars app.toLowercase (fun _ => clock) message)
  | register message decision =>
      onDb (RegisterUser.executeWithLinkDecision app.toLowercase clock message decision)
  | selectLink message selection =>
      onDb (Onboarding.handleLinkSelection app.toLowercase clock message selection)
  | createTask message decision =>
      onDb (CreateTaskFromMessage.executeWithAssigneeDecision app.services clock app.newTaskUid message
        decision)
  | updateTaskStatus actor taskUid nextStatus =>
      onDb (UpdateTaskStatus.execute clock actor taskUid nextStatus)
  | addTaskComment actor taskUid body => onDb (AddTaskComment.execute clock actor taskUid body)
  | reportTaskBlocker actor taskUid reason =>
      onDb (ReportTaskBlocker.execute clock actor taskUid reason)
  | reassignTask actor taskUid query decision =>
      onDb (ReassignTask.executeWithDecision clock app.services.ranking actor taskUid query decision)
  | syncEmployees => onDb (SyncEmployees.execute app.directory)
  | changeRole actor targetUserId nextRole =>
      onDb (AdminUseCase.changeRole (clock 0) actor targetUserId nextRole)
  | deactivateUser actor targetUserId => onDb (AdminUseCase.deactivateUser (clock 0) actor targetUserId)
  | reactivateUser actor targetUserId => onDb (AdminUseCase.reactivateUser (clock 0) actor targetUserId)
  | toggleFeatureFlag actor flagKey enabled =>
      AdminUseCase.toggleFeatureFlag (clock 0) actor flagKey enabled
  | recordSecurityEvent entry => onDb (SecurityAuditLogRepository.append entry)

/-- What the call may do to the tasks. -/
def rights : RuntimeCall → TaskRights
  | onboardingGate _ | register _ _ | selectLink _ _ => .linking
  | createTask message _ => CreateTaskFromMessage.rights message
  | updateTaskStatus _ taskUid nextStatus => .onTask taskUid (nextStatus = .cancelled)
  | reportTaskBlocker _ taskUid _ | reassignTask _ taskUid _ _ => .onTask taskUid False
  | addTaskComment _ _ _ | syncEmployees | changeRole _ _ _ | deactivateUser _ _ | reactivateUser _ _
  | toggleFeatureFlag _ _ _ | recordSecurityEvent _ => .none

end RuntimeCall

/-! ## What the calls do -/

theorem gateFor_moves (chars : CharClass) (toLowercase : String → String)
    (clock : IncomingMessage → Nat → Instant) (existing : Option User) (message : IncomingMessage) :
    MovesTasks .linking (gateFor chars toLowercase clock existing message) fun _ => True := by
  unfold gateFor
  split
  · exact .answer _
  · split
    · have hstart : MovesTasks .linking (Onboarding.handleStart message) fun _ => True :=
        .leaves (Onboarding.handleStart_leavesTasks message)
      exact .bind hstart.attempt fun _ _ => .answer _
    · split
      · exact .bind (Onboarding.handleText_moves _ _ _ _ _).attempt fun _ _ => .answer _
      · exact .answer _

theorem runOnboardingGate_moves (chars : CharClass) (toLowercase : String → String)
    (clock : IncomingMessage → Nat → Instant) (message : IncomingMessage) :
    MovesTasks .linking (runOnboardingGate chars toLowercase clock message) fun _ => True := by
  have hprobe : LeavesTasks (UserRepository.findByTelegramId message.senderId) :=
    .of_reads (UserRepository.findByTelegramId_reads _)
  refine .leaves_bind hprobe.attempt fun probed => ?_
  split <;> exact gateFor_moves _ _ _ _ _

/-- A toggle writes two flags and a log entry. -/
theorem AdminUseCase.toggleFeatureFlag_leavesTasks (now : Instant) (actor : User) (flagKey : String)
    (enabled : Bool) : (toggleFeatureFlag now actor flagKey enabled).Within fun s s' =>
      s'.db.tasks = s.db.tasks := by
  have hdb : ∀ {α : Type} {p : Proc α}, LeavesTasks p → (onDb p).Within fun s s' =>
      s'.db.tasks = s.db.tasks := fun hp => hp.focus fun _ _ => rfl
  have hupsert : ∀ flag actorId,
      LeavesTasks (FeatureFlagRepository.upsertOverride flag enabled actorId now) :=
    fun _ _ => write_within fun _ => rfl
  refine .bind (.lift _) fun _ => .bind (.lift _) fun flag => .bind (.lift _) fun actorId => ?_
  refine .bind (hdb (hupsert _ _)) fun _ => .bind (.perform fun s => rfl) fun _ => ?_
  exact .bind (hdb (emitAudit_leavesTasks _)) fun _ => .pure _

namespace RuntimeCall

/-- **Whatever fails, a call stays within its rights.** -/
theorem moves (app : Application) (clock : Nat → Instant) (plan : Site → Fault AppError) (s : Process)
    (c : RuntimeCall) : TaskMoves c.rights s.db ((c.program app clock).run plan s).2.db := by
  have hdb : ∀ {α : Type} {R : TaskRights} {p : Proc α}, MovesTasks R p (fun _ => True) →
      TaskMoves R s.db ((onDb p).run plan s).2.db := by
    intro α R p hp
    rw [run_onDb]
    exact (hp plan s.db).1
  cases c with
  | onboardingGate message => exact hdb (runOnboardingGate_moves _ _ _ _)
  | register message decision => exact hdb (RegisterUser.moves _ _ _ _)
  | selectLink message selection => exact hdb (Onboarding.handleLinkSelection_moves _ _ _ _)
  | createTask message decision => exact hdb (CreateTaskFromMessage.moves _ _ _ _ _)
  | updateTaskStatus actor taskUid nextStatus => exact hdb (UpdateTaskStatus.moves _ _ _ _)
  | addTaskComment actor taskUid body => exact hdb (.leaves (AddTaskComment.leavesTasks _ _ _ _))
  | reportTaskBlocker actor taskUid reason => exact hdb (ReportTaskBlocker.moves _ _ _ _)
  | reassignTask actor taskUid query decision => exact hdb (ReassignTask.moves _ _ _ _ _ _)
  | syncEmployees =>
    exact hdb (.lift_bind fun _ _ => .leaves (EmployeeRepository.upsertMany_leavesTasks _))
  | changeRole actor targetUserId nextRole =>
    exact hdb (.leaves (AdminUseCase.changeRole_leavesTasks _ _ _ _))
  | deactivateUser actor targetUserId =>
    exact hdb (.leaves (AdminUseCase.deactivateUser_leavesTasks _ _ _))
  | reactivateUser actor targetUserId =>
    exact hdb (.leaves (AdminUseCase.reactivateUser_leavesTasks _ _ _))
  | toggleFeatureFlag actor flagKey enabled =>
    have hwithin := AdminUseCase.toggleFeatureFlag_leavesTasks (clock 0) actor flagKey enabled
    have hrun := Prog.run_within (K := fun (s s' : Process) => s'.db.tasks = s.db.tasks) plan
      (fun _ => rfl) (fun _ _ _ h h' => h'.trans h) hwithin s
    exact .of_tasks hrun
  | recordSecurityEvent entry =>
    have happend : LeavesTasks (SecurityAuditLogRepository.append entry) := write_within fun _ => rfl
    exact hdb (.leaves happend)

end RuntimeCall

end TaskBot
