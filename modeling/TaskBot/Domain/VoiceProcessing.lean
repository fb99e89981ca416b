import TaskBot.Domain.Base

/-!
# Voice processing

One attempt at turning a voice message into a task, by the `file_unique_id`
Telegram gives the file:

    queued ──► transcribing ──► transcribed
       │             │
       └─────────────┴───► failed
-/

namespace TaskBot

inductive VoiceProcessingState where
  | queued | transcribing | transcribed | failed
deriving DecidableEq, Repr

namespace VoiceProcessingState

def asCode : VoiceProcessingState → String
  | queued => "queued"
  | transcribing => "transcribing"
  | transcribed => "transcribed"
  | failed => "failed"

def isTerminal (state : VoiceProcessingState) : Bool := state = transcribed ∨ state = failed

def canTransitionTo : VoiceProcessingState → VoiceProcessingState → Bool
  | queued, transcribing => true
  | queued, failed => true
  | transcribing, transcribed => true
  | transcribing, failed => true
  -- Terminal states are sticky.
  | _, _ => false

theorem asCode_inj {a b : VoiceProcessingState} : a.asCode = b.asCode ↔ a = b := by
  cases a <;> cases b <;> decide

theorem not_terminal_of_canTransitionTo {a b : VoiceProcessingState} (h : a.canTransitionTo b = true) :
    a.isTerminal = false := by
  revert h
  cases a <;> cases b <;> decide

end VoiceProcessingState

structure VoiceProcessingRecord where
  id : Option Int
  fileUniqueId : String
  chatId : Int
  telegramUserId : Int
  userId : Option Int
  state : VoiceProcessingState
  attemptCount : Nat
  lastErrorCode : Option String
  transcriptPreviewHash : Option String
  completedAt : Option Instant
  createdAt : Instant
  updatedAt : Instant
deriving DecidableEq, Repr

/-- The first row of an attempt. -/
def VoiceProcessingRecord.queued (fileUniqueId : String) (chatId telegramUserId : Int) (userId : Option Int)
    (now : Instant) : VoiceProcessingRecord where
  id := none
  fileUniqueId
  chatId
  telegramUserId
  userId
  state := .queued
  attemptCount := 0
  lastErrorCode := none
  transcriptPreviewHash := none
  completedAt := none
  createdAt := now
  updatedAt := now

end TaskBot
