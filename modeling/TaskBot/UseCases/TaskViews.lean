import TaskBot.Domain.Records
import TaskBot.UseCases.TaskCreation

/-!
# What a screen shows of a task

The views the use cases hand to the presentation layer: a page of a task list and
the details of one task with the actions its viewer may take.
-/

namespace TaskBot

inductive TaskActionView where
  | startProgress | submitForReview | approveReview | returnToWork | cancel | reportBlocker
  | addComment | reassign
deriving DecidableEq, Repr

structure TaskListSection where
  title : String
  tasks : List TaskListItem
deriving DecidableEq, Repr

structure TaskListPage where
  sections : List TaskListSection
  nextCursor : Option String
deriving DecidableEq, Repr

structure TaskCommentView where
  kind : CommentKind
  body : String
  createdAt : String
deriving DecidableEq, Repr

structure TaskStatusDetails where
  taskUid : Uuid
  publicCode : String
  title : String
  status : TaskStatus
  deadline : Option String
  expectedResult : String
  descriptionLines : List String
  acceptanceCriteria : List String
  historyEntries : List String
  assigneeDisplay : Option String
  deliveryStatus : Option DeliveryStatus
  blockedReason : Option String
  comments : List TaskCommentView
  availableActions : List TaskActionView
deriving DecidableEq, Repr

structure StatsView where
  createdCount : Int
  completedCount : Int
  activeCount : Int
  overdueCount : Int
  averageCompletionHours : Option Int
deriving DecidableEq, Repr

inductive TaskListScope where
  | assignedToMe | createdByMe | team | focus | managerInbox
deriving DecidableEq, Repr

/-! ## The order of the actions -/

/-- `next_best_action`: the first action of the priority list that is offered, else the first one. -/
def nextBestAction (actions : List TaskActionView) : Option TaskActionView :=
  let actionPriority : List TaskActionView :=
    [.startProgress, .submitForReview, .approveReview, .reportBlocker, .reassign]
  (actionPriority.find? (· ∈ actions)).or actions.head?

def isDangerousAction (action : TaskActionView) : Bool := action = .cancel

end TaskBot
