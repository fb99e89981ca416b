import TaskBot.Domain.PersonName
import TaskBot.UseCases.Registration

/-!
# Onboarding

The dialog of the first run: first name, last name, link to an employee.  Each
step is stored before the next prompt is sent, so a run that fails in between
leaves the row in the state of the last step.

`handleText` answers a text while the link is awaited with a retry prompt;
`handleLinkSelection` is what a press of the link keyboard is meant to reach.
-/

namespace TaskBot

open Sql Calls

inductive OnboardingLinkSelection where
  | pickEmployee (id : Int)
  | continueWithoutLink
deriving DecidableEq, Repr

structure OnboardingEmployeeLinkClarification where
  message : String
  candidates : List EmployeeCandidateView
  allowContinueUnlinked : Bool
deriving DecidableEq, Repr

inductive OnboardingRetryReason where
  | firstNameInvalid | lastNameInvalid | linkSelectionExpected | tooLong
deriving DecidableEq, Repr

inductive OnboardingOutcome where
  | askFirstName (user : User)
  | askLastName (user : User)
  | askEmployeeLink (user : User) (clarification : OnboardingEmployeeLinkClarification)
  | completed (user : User)
  | retryPrompt (reason : OnboardingRetryReason)
deriving DecidableEq, Repr

namespace UserRepository

def ensureSession (message : IncomingMessage) : Proc User :=
  .perform (.userEnsureSession message.senderId)
    (ensureOnboardingSession message.senderId message.chatId message.senderUsername
      (some message.senderName) message.timestamp)

def saveProgress (userId expectedVersion : Int) (nextState : OnboardingState)
    (firstName lastName : Option String) (now : Instant) : Proc User :=
  .perform (.userSaveProgress userId)
    (saveOnboardingProgress userId expectedVersion nextState firstName lastName now)

def complete (userId expectedVersion : Int) (firstName lastName : String)
    (linkedEmployeeId : Option Int) (now : Instant) : Proc User :=
  .perform (.userComplete userId)
    (completeOnboarding userId expectedVersion firstName lastName linkedEmployeeId now)

end UserRepository

namespace Onboarding

def invalidStateError (user : User) : AppError :=
  .internal "ONBOARDING_STATE_INVALID" "Cannot complete onboarding without captured first/last name"
    [("user_id", jsonInt user.id), ("state", .str user.onboardingState.asStorageValue)]

def sessionMissing (telegramId : Int) : AppError :=
  .notFound "USER_NOT_FOUND" "Onboarding session does not exist; send /start first"
    [("telegram_id", .int telegramId)]

def requireActiveSession (telegramId : Int) : Proc User := do
  let found ← UserRepository.findByTelegramId telegramId
  .lift (okOrElse found (sessionMissing telegramId))

def outcomeFor (user : User) : OnboardingOutcome :=
  match user.onboardingState with
  | .awaitingFirstName => .askFirstName user
  | .awaitingLastName => .askLastName user
  | .awaitingEmployeeLink =>
      .askEmployeeLink user
        { message := "Выберите себя из списка сотрудников"
          candidates := []
          allowContinueUnlinked := true }
  | .completed => .completed user

def handleStart (message : IncomingMessage) : Proc OnboardingOutcome := do
  let user ← UserRepository.ensureSession message
  pure (outcomeFor user)

/-- The employee a decision names. -/
def linkOf : RegistrationLinkDecision → Option Int
  | .employeeId id => some id
  | _ => none

variable (chars : CharClass) (toLowercase : String → String) (clock : Nat → Instant)
  (message : IncomingMessage)

def stepFirstName (user : User) (text : String) : Proc OnboardingOutcome :=
  if charsCount text > maxPersonNamePartLength then pure (.retryPrompt .tooLong)
  else
    match PersonName.parseFirstOnly chars text with
    | .error _ => pure (.retryPrompt .firstNameInvalid)
    | .ok first => do
        let userId ← .lift (okOrElse user.id (invalidStateError user))
        let updated ← UserRepository.saveProgress userId user.onboardingVersion .awaitingLastName
          (some first) none message.timestamp
        pure (.askLastName updated)

/-- The end of the dialog: the row is completed, then the registration runs as for any message. -/
def finish (user : User) (first last : String) (decision : RegistrationLinkDecision) :
    Proc OnboardingOutcome := do
  let userId ← .lift (okOrElse user.id (invalidStateError user))
  let completedUser ← UserRepository.complete userId user.onboardingVersion first last
    (linkOf decision) message.timestamp
  let _ ← RegisterUser.executeWithLinkDecision toLowercase clock message decision
  pure (.completed completedUser)

def stepLastName (user : User) (text : String) : Proc OnboardingOutcome :=
  if charsCount text > maxPersonNamePartLength then pure (.retryPrompt .tooLong)
  else
    match PersonName.parseLastWithFirst chars (user.firstName.getD "") text with
    | .error _ => pure (.retryPrompt .lastNameInvalid)
    | .ok name => do
        let userId ← .lift (okOrElse user.id (invalidStateError user))
        let updated ← UserRepository.saveProgress userId user.onboardingVersion .awaitingEmployeeLink
          none (some name.last) message.timestamp
        let preview ← RegisterUser.previewLinking toLowercase message
        match preview with
        | .ready decision => finish toLowercase clock message updated name.first name.last decision
        | .clarificationRequired clarification =>
            pure (.askEmployeeLink updated
              { message := clarification.message
                candidates := clarification.candidates
                allowContinueUnlinked := clarification.allowContinueUnlinked })

def handleText (text : String) : Proc OnboardingOutcome := do
  let user ← requireActiveSession message.senderId
  match user.onboardingState with
  | .awaitingFirstName => stepFirstName chars message user text
  | .awaitingLastName => stepLastName chars toLowercase clock message user text
  | .awaitingEmployeeLink => pure (.retryPrompt .linkSelectionExpected)
  | .completed => pure (.completed user)

def handleLinkSelection (selection : OnboardingLinkSelection) : Proc OnboardingOutcome := do
  let user ← requireActiveSession message.senderId
  let decision : RegistrationLinkDecision :=
    match selection with
    | .pickEmployee id => .employeeId id
    | .continueWithoutLink => .continueUnlinked
  let first ← .lift (okOrElse user.firstName (invalidStateError user))
  let last ← .lift (okOrElse user.lastName (invalidStateError user))
  finish toLowercase clock message user first last decision

end Onboarding

end TaskBot
