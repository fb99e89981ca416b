import TaskBot.Domain.Base

/-!
# Users and employees

`User` as the application sees it.  `OnboardingState.fromStorageValue` reads the
raw column: a `NULL` or an unknown text counts as completed, so that a legacy row
is not sent through onboarding again; `User.isOnboarded` asks for both names too.
-/

namespace TaskBot

inductive UserRole where
  | user | manager | admin
deriving DecidableEq, Repr

namespace UserRole

def isAdmin (r : UserRole) : Bool := r = admin

def isManagerOrAdmin (r : UserRole) : Bool := r = manager ∨ r = admin

def toText : UserRole → String
  | user => "user"
  | manager => "manager"
  | admin => "admin"

end UserRole

inductive OnboardingState where
  | awaitingFirstName | awaitingLastName | awaitingEmployeeLink | completed
deriving DecidableEq, Repr

namespace OnboardingState

def asStorageValue : OnboardingState → String
  | awaitingFirstName => "awaiting_first_name"
  | awaitingLastName => "awaiting_last_name"
  | awaitingEmployeeLink => "awaiting_employee_link"
  | completed => "completed"

def fromStorageValue : Option String → OnboardingState
  | some "awaiting_first_name" => awaitingFirstName
  | some "awaiting_last_name" => awaitingLastName
  | some "awaiting_employee_link" => awaitingEmployeeLink
  | _ => completed

def isTerminal (s : OnboardingState) : Bool := s = completed

@[simp] theorem fromStorageValue_asStorageValue (s : OnboardingState) :
    fromStorageValue (some s.asStorageValue) = s := by cases s <;> rfl

end OnboardingState

structure User where
  id : Option Int
  telegramId : Int
  lastChatId : Option Int
  telegramUsername : Option String
  fullName : Option String
  firstName : Option String
  lastName : Option String
  linkedEmployeeId : Option Int
  isEmployee : Bool
  role : UserRole
  onboardingState : OnboardingState
  onboardingVersion : Int
  timezone : String
  quietHoursStartMin : Int
  quietHoursEndMin : Int
  deactivatedAt : Option Instant
  createdAt : Instant
  updatedAt : Instant
deriving DecidableEq, Repr

def defaultUserTimezone : String := "Europe/Moscow"
def defaultQuietHoursStartMin : Int := 22 * 60
def defaultQuietHoursEndMin : Int := 8 * 60

namespace User

/-- `as_deref().is_some_and(|v| !v.is_empty())`. -/
def nonEmpty (o : Option String) : Bool :=
  match o with
  | some s => !s.isEmpty
  | none => false

def isOnboarded (u : User) : Bool :=
  u.onboardingState.isTerminal && nonEmpty u.firstName && nonEmpty u.lastName

/-- `DisplayName` as text: the onboarding names before the Telegram ones. -/
def displayName (u : User) : String :=
  if nonEmpty u.firstName ∧ nonEmpty u.lastName then
    u.firstName.getD "" ++ " " ++ u.lastName.getD ""
  else if nonEmpty u.firstName then u.firstName.getD ""
  else if nonEmpty u.fullName then u.fullName.getD ""
  else if nonEmpty u.telegramUsername then "@" ++ u.telegramUsername.getD ""
  else "Пользователь"

end User

structure Employee where
  id : Option Int
  fullName : String
  telegramUsername : Option String
  email : Option String
  phone : Option String
  department : Option String
  isActive : Bool
  syncedAt : Option Instant
  createdAt : Instant
  updatedAt : Instant
deriving DecidableEq, Repr

end TaskBot
