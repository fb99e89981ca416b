import TaskBot.UseCases.TaskCreation

/-!
# The preview of a task

What a text would be understood as, without storing anything: the description,
the deadline and the assignee.  The generator is not asked.
-/

namespace TaskBot

open Sql Calls

inductive AssigneeInterpretation where
  | none
  | resolved (display : String) (deliveryStatus : DeliveryStatus)
  | clarificationRequired (request : ClarificationRequest)
deriving DecidableEq, Repr

structure TaskInterpretationPreview where
  description : String
  deadlineLabel : Option String
  assignee : AssigneeInterpretation
deriving DecidableEq, Repr

/-- `Deadline::local_label`. -/
def Deadline.localLabel (d : Deadline) : Option String := d.localDate.map formatDate

namespace CreateTaskFromMessage

def messageTypeLabel : MessageContent → String
  | .text _ => "text"
  | .voice _ => "voice"
  | .command _ => "command"

def transcribeVoiceMessage (services : CreationServices) (message : IncomingMessage) :
    AppResult String :=
  match message.content with
  | .voice voice => services.transcribe voice
  | content =>
      .error (.businessRule "VOICE_MESSAGE_REQUIRED"
        "Voice transcription preview requires a voice message"
        [("message_type", .str (messageTypeLabel content))])

def previewDeliveryStatus (resolved : ResolvedAssignee) : DeliveryStatus :=
  let hasDirectUser := resolved.user.any fun user => user.lastChatId.isSome
  if resolved.employee.isNone ∧ resolved.user.isNone then .creatorOnly
  else if hasDirectUser then .pendingDelivery
  else .pendingAssigneeRegistration

/-- The employee's name, else the user's `@username`, else the user's name. -/
def assigneeDisplay (resolved : ResolvedAssignee) : String :=
  match resolved.employee with
  | some employee => employee.fullName
  | none =>
      let named := resolved.user.bind fun user =>
        (user.telegramUsername.map fun username => "@" ++ username).or user.fullName
      named.getD "Unassigned"

def interpretAssignee : AssigneeResolution → AssigneeInterpretation
  | .resolved resolved => .resolved (assigneeDisplay resolved) (previewDeliveryStatus resolved)
  | .clarificationRequired request => .clarificationRequired request

def previewAssignee (ranking : NameRanking) (parsedRequest : ParsedTaskRequest) :
    Proc AssigneeInterpretation :=
  match parsedRequest.explicitUnassigned, parsedRequest.assigneeName with
  | false, some query => do
      let resolution ← AssigneeResolver.resolveForCreation ranking query
      pure (interpretAssignee resolution)
  | _, _ => pure .none

/-- The deadline is read in the timezone of a user made from the message. -/
def previewInterpretation (services : CreationServices) (clock : Nat → Instant)
    (message : IncomingMessage) : Proc TaskInterpretationPreview := do
  let originalText ← .lift (extractOriginalText services message)
  let parsedRequest ← .lift (services.parseTaskRequest originalText (Instant.utcDate (clock 0)))
  let creatorForPreview := User.fromMessage message .user false
  let deadline := services.resolveDeadline originalText creatorForPreview.timezone none (clock 1)
  let assignee ← previewAssignee services.ranking parsedRequest
  pure ⟨parsedRequest.taskDescription, deadline.localLabel.or (parsedRequest.deadline.map formatDate),
    assignee⟩

/-- **A preview stores nothing.** -/
theorem previewInterpretation_reads (services : CreationServices) (clock : Nat → Instant)
    (message : IncomingMessage) : (previewInterpretation services clock message).Within Eq := by
  refine .bind (.lift _) fun originalText => .bind (.lift _) fun parsedRequest => .bind ?_ fun _ => .pure _
  unfold previewAssignee
  split
  · exact .bind (AssigneeResolver.resolveWithPurpose_reads _ _ _) fun _ => .pure _
  · exact .pure _

end CreateTaskFromMessage

end TaskBot
