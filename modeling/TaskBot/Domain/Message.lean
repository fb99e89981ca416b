import TaskBot.Domain.Task
import TaskBot.Domain.User

/-!
# Incoming messages

What a chat update carries into the use cases.  `sourceMessageKey` is the
idempotency key of a creation: the same chat and message give the same key.
-/

namespace TaskBot

structure VoiceAttachment where
  fileId : String
  fileUniqueId : String
  durationSeconds : Nat
  mimeType : Option String
  fileSizeBytes : Option Nat
deriving DecidableEq, Repr

inductive MessageContent where
  | text (text : String)
  | voice (voice : VoiceAttachment)
  | command (text : String)
deriving DecidableEq, Repr

structure IncomingMessage where
  messageId : Int
  chatId : Int
  senderId : Int
  senderName : String
  senderUsername : Option String
  content : MessageContent
  timestamp : Instant
  sourceMessageKeyOverride : Option String
  /-- The text came from a confirmed voice transcription. -/
  isVoiceOrigin : Bool
deriving DecidableEq, Repr

structure ParsedTaskRequest where
  assigneeName : Option String
  taskDescription : String
  deadline : Option NaiveDate
  deadlineRaw : Option String
  explicitUnassigned : Bool
  confidenceScore : Nat
deriving DecidableEq, Repr

def maxMessageLength : Nat := 2000

namespace IncomingMessage

def sourceMessageKey (m : IncomingMessage) : String :=
  match m.sourceMessageKeyOverride with
  | some key => key
  | none => "telegram:" ++ toString m.chatId ++ ":" ++ toString m.messageId

def textPayload (m : IncomingMessage) : Option String :=
  match m.content with
  | .text text | .command text => some text
  | .voice _ => none

def validatePayloadLength (m : IncomingMessage) : AppResult Unit :=
  match m.textPayload with
  | some payload =>
      if charsCount payload > maxMessageLength then
        .error (.schemaValidation "MESSAGE_TOO_LONG" "Message exceeds the supported length"
          [("limit", .int maxMessageLength)])
      else .ok ()
  | none => .ok ()

/-- An explicit `/start` asks for the employee link once more. -/
def isExplicitStartCommand (m : IncomingMessage) : Bool :=
  match m.textPayload with
  | some payload => "/start".toList.isPrefixOf (trimStart payload).toList
  | none => false

end IncomingMessage

/-- `User::from_message`: the row a message asks for, names from onboarding left out. -/
def User.fromMessage (m : IncomingMessage) (role : UserRole) (isEmployee : Bool) : User where
  id := none
  telegramId := m.senderId
  lastChatId := some m.chatId
  telegramUsername := m.senderUsername
  fullName := some m.senderName
  firstName := none
  lastName := none
  linkedEmployeeId := none
  isEmployee
  role
  onboardingState := .completed
  onboardingVersion := 0
  timezone := defaultUserTimezone
  quietHoursStartMin := defaultQuietHoursStartMin
  quietHoursEndMin := defaultQuietHoursEndMin
  deactivatedAt := none
  createdAt := m.timestamp
  updatedAt := m.timestamp

def taskMessageType (content : MessageContent) (isVoiceOrigin : Bool) : MessageType :=
  if isVoiceOrigin then .voice
  else
    match content with
    | .voice _ => .voice
    | .text _ | .command _ => .text

end TaskBot
