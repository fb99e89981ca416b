import TaskBot.Presentation.Keyboards
import TaskBot.UseCases.OnboardingProfile

/-!
# The onboarding gate

Every update of a chat runs through `runOnboardingGate` first.  While the gate
answers anything but `notApplicable`, no other handler sees the update, and in
particular not the press of a button: a press arrives as a command whose text is
its callback data, and the gate takes it for a text.

* `profile_gate`: on profiles the gate is the machine `Profile.gated`;
* `gate_opens_iff`: from which rows the user can get past the gate at all.

A row that awaits the employee link stays there, and a completed row without
names, such as one from before the onboarding, is answered with the completion
screen for ever.
-/

namespace TaskBot

open Sql Calls

/-! ## The gate -/

inductive OnboardingGateResult where
  | justCompleted | inProgress | notApplicable
deriving DecidableEq, Repr

inductive OnboardingNextAction where
  | awaitText | awaitCallback | completed
deriving DecidableEq, Repr

/-- What the gate sends: a screen of the dialog, the welcome text, or an error. -/
inductive GateReply where
  | outcome (o : OnboardingOutcome)
  | welcome
  | error (e : AppError)
deriving DecidableEq, Repr

/-- `render_outcome` as far as the gate reads it. -/
def nextAction : OnboardingOutcome → OnboardingNextAction
  | .askFirstName _ | .askLastName _ => .awaitText
  | .askEmployeeLink _ _ => .awaitCallback
  | .completed _ => .completed
  | .retryPrompt _ => .awaitText

/-- The buttons of the reply: only the link screen has any. -/
def GateReply.buttons : GateReply → List TelegramCallback
  | .outcome (.askEmployeeLink _ clarification) =>
      (registrationLinkKeyboard clarification.candidates clarification.allowContinueUnlinked).flatten
  | _ => []

def settleOutcome (r : AppResult OnboardingOutcome) : OnboardingGateResult × Option GateReply :=
  match r with
  | .ok o =>
      (match nextAction o with
        | .completed => .justCompleted
        | .awaitText | .awaitCallback => .inProgress, some (.outcome o))
  | .error e => (.inProgress, some (.error e))

section

variable (chars : CharClass) (toLowercase : String → String) (clock : IncomingMessage → Nat → Instant)

/-- The gate for the row the probe has found. -/
def gateFor (existing : Option User) (message : IncomingMessage) :
    Proc (OnboardingGateResult × Option GateReply) :=
  if existing.any User.isOnboarded then pure (.notApplicable, none)
  else if existing.isNone ∨ message.isExplicitStartCommand then do
    let outcomeResult ← (Onboarding.handleStart message).attempt
    pure (settleOutcome outcomeResult)
  else
    match message.textPayload with
    | some text => do
        let outcomeResult ←
          (Onboarding.handleText chars toLowercase (clock message) message text).attempt
        pure (settleOutcome outcomeResult)
    | none => pure (.inProgress, some .welcome)

/-- A probe that fails counts as "no row". -/
def runOnboardingGate (message : IncomingMessage) : Proc (OnboardingGateResult × Option GateReply) := do
  let probed ← (UserRepository.findByTelegramId message.senderId).attempt
  match probed with
  | .ok existing => gateFor chars toLowercase clock existing message
  | .error _ => gateFor chars toLowercase clock none message

/-! ## The gate on profiles -/

/-- What an update of the user does to the profile. -/
def Profile.gated (message : IncomingMessage) (p : Profile) : Profile :=
  if p.isOnboarded ∨ message.isExplicitStartCommand then p
  else
    match message.textPayload with
    | some text => p.step chars text
    | none => p

theorem settleOutcome_consumes (r : AppResult OnboardingOutcome) :
    (settleOutcome r).1 ≠ .notApplicable := by
  unfold settleOutcome
  split
  · split <;> nofun
  · nofun

theorem run_settled (plan : Site → Fault AppError) (q : Proc OnboardingOutcome) (db : Db) :
    (q.attempt >>= fun outcomeResult => pure (settleOutcome outcomeResult)).run plan db =
      (.ok (settleOutcome (q.run plan db).1), (q.run plan db).2) := by
  rw [Prog.run_bind_ok plan (Prog.run_attempt plan q db)]
  rfl

/-- **The gate follows the machine, and lets exactly the onboarded pass.** -/
theorem profile_gate {db : Db} (message : IncomingMessage) {p : Profile}
    (hp : db.profile message.senderId = some p) :
    ∃ o, ((runOnboardingGate chars toLowercase clock message).run noFaults db).1 = .ok o ∧
      (o.1 = .notApplicable ↔ p.isOnboarded = true) ∧
      ((runOnboardingGate chars toLowercase clock message).run noFaults db).2.profile message.senderId =
        some (p.gated chars message) := by
  obtain ⟨r, hr, rfl⟩ := Db.account_of_profile hp
  have hprobe : (UserRepository.findByTelegramId message.senderId).attempt.run noFaults db =
      (.ok (.ok (some (toUser r))), db) := by
    rw [Prog.run_attempt, run_findAccount, hr]
    rfl
  have hgate : (runOnboardingGate chars toLowercase clock message).run noFaults db =
      (gateFor chars toLowercase clock (some (toUser r)) message).run noFaults db :=
    Prog.run_bind_ok noFaults hprobe
  have hany : (some (toUser r)).any User.isOnboarded = (toUser r).profile.isOnboarded := rfl
  rw [hgate]
  unfold gateFor Profile.gated
  rw [hany]
  by_cases hon : (toUser r).profile.isOnboarded = true
  · rw [if_pos hon, if_pos (.inl hon)]
    exact ⟨_, rfl, iff_of_true rfl hon, hp⟩
  rw [if_neg hon]
  by_cases hstart : message.isExplicitStartCommand = true
  · rw [if_pos (.inr hstart), if_pos (.inr hstart), run_settled]
    exact ⟨_, rfl, iff_of_false (settleOutcome_consumes _) hon, Onboarding.profile_handleStart hr⟩
  have hexists : ¬ ((some (toUser r)).isNone = true ∨ message.isExplicitStartCommand = true) :=
    fun h => h.elim nofun hstart
  rw [if_neg hexists, if_neg fun h => h.elim hon hstart]
  cases message.textPayload with
  | none => exact ⟨_, rfl, iff_of_false nofun hon, hp⟩
  | some text =>
    have hno : message.isExplicitStartCommand = false := Bool.eq_false_iff.mpr hstart
    simp only [run_settled]
    exact ⟨_, rfl, iff_of_false (settleOutcome_consumes _) hon,
      Onboarding.profile_handleText hp hno text⟩

/-! ## Chats -/

/-- The database, and the buttons the bot has offered in the chat so far. -/
structure Chat where
  db : Db
  offered : List TelegramCallback

/-- `to_incoming_message`: a text that starts with a slash is a command. -/
def typed (text : String) : MessageContent :=
  if "/".toList.isPrefixOf text.toList then .command text else .text text

/-- The user types a text or presses a button the bot has offered. -/
def Chat.Admits (telegramId : Int) (c : Chat) (message : IncomingMessage) : Prop :=
  message.senderId = telegramId ∧
    ((∃ text, message.content = typed text) ∨
      ∃ callback ∈ c.offered, message.content = .command (encodeCallback callback))

/-- The chat after an update, as long as the gate consumes it. -/
def Chat.receive (c : Chat) (message : IncomingMessage) : Chat :=
  let o := (runOnboardingGate chars toLowercase clock message).run noFaults c.db
  let buttons :=
    match o.1 with
    | .ok (_, some reply) => reply.buttons
    | _ => []
  ⟨o.2, c.offered ++ buttons⟩

/-- The gate lets every update of the user pass. -/
def Chat.Open (telegramId : Int) (c : Chat) : Prop :=
  ∀ message : IncomingMessage, message.senderId = telegramId →
    ∃ o, ((runOnboardingGate chars toLowercase clock message).run noFaults c.db).1 = .ok o ∧
      o.1 = .notApplicable

/-- The user sends these updates one after the other while the gate is shut, and the chat ends
as `c'`. -/
inductive Chat.Leads (telegramId : Int) : Chat → List IncomingMessage → Chat → Prop where
  | done (c : Chat) : Leads telegramId c [] c
  | next {c c' : Chat} {message : IncomingMessage} {messages : List IncomingMessage}
      (hshut : ¬ c.Open chars toLowercase clock telegramId) (hadmits : c.Admits telegramId message)
      (hrest : Leads telegramId (c.receive chars toLowercase clock message) messages c') :
      Leads telegramId c (message :: messages) c'

/-! ## Who gets past the gate -/

/-- The names that are needed later are there already, or are still asked for. -/
def Profile.CanFinish (p : Profile) : Prop :=
  match p.state with
  | .awaitingFirstName => True
  | .awaitingLastName => User.nonEmpty p.firstName = true
  | .awaitingEmployeeLink => False
  | .completed => User.nonEmpty p.firstName = true ∧ User.nonEmpty p.lastName = true

theorem Profile.canFinish_of_onboarded {p : Profile} (h : p.isOnboarded = true) : p.CanFinish := by
  simp only [Profile.isOnboarded, OnboardingState.isTerminal, Bool.and_eq_true, decide_eq_true_eq] at h
  unfold Profile.CanFinish
  rw [h.1.1]
  exact ⟨h.1.2, h.2⟩

/-- **No text leads out of a dead end.** -/
theorem Profile.step_deadEnd {p : Profile} (h : ¬ p.CanFinish) (text : String) :
    ¬ (p.step chars text).CanFinish := by
  unfold Profile.step
  by_cases hlen : charsCount text > maxPersonNamePartLength
  · rw [if_pos hlen]
    exact h
  rw [if_neg hlen]
  obtain ⟨state, firstName, lastName⟩ := p
  cases state with
  | awaitingFirstName => exact absurd trivial h
  | awaitingLastName =>
    have hempty : ¬ User.nonEmpty firstName = true := h
    cases hparse : PersonName.parseLastWithFirst chars (firstName.getD "") text with
    | error e =>
      simp only
      exact h
    | ok name =>
      simp only
      intro hfinish
      have hname := (PersonName.parseLastWithFirst_ok chars hparse).1
      have hfirst : User.nonEmpty (some name.first) = true := hfinish.1
      -- a missing first name is stored as the empty text
      rw [hname] at hfirst
      cases firstName with
      | none => cases hfirst
      | some first => exact hempty hfirst
  | awaitingEmployeeLink => exact h
  | completed => exact h

theorem Profile.gated_deadEnd {p : Profile} (h : ¬ p.CanFinish) (message : IncomingMessage) :
    ¬ (p.gated chars message).CanFinish := by
  unfold Profile.gated
  split
  · exact h
  · split
    · exact Profile.step_deadEnd chars h _
    · exact h

/-- A message of the user with nothing but a text. -/
def textFrom (telegramId : Int) (text : String) : IncomingMessage where
  messageId := 0
  chatId := telegramId
  senderId := telegramId
  senderName := "Пользователь"
  senderUsername := none
  content := .text text
  timestamp := 0
  sourceMessageKeyOverride := none
  isVoiceOrigin := false

theorem open_iff {c : Chat} {telegramId : Int} {p : Profile} (hp : c.db.profile telegramId = some p) :
    c.Open chars toLowercase clock telegramId ↔ p.isOnboarded = true := by
  constructor
  · intro hopen
    obtain ⟨o, hrun, hiff, -⟩ := profile_gate chars toLowercase clock (textFrom telegramId "") hp
    obtain ⟨o', hrun', hpass⟩ := hopen (textFrom telegramId "") rfl
    rw [hrun] at hrun'
    cases hrun'
    exact hiff.mp hpass
  · rintro hon message rfl
    obtain ⟨o, hrun, hiff, -⟩ := profile_gate chars toLowercase clock message hp
    exact ⟨o, hrun, hiff.mpr hon⟩

theorem profile_receive {c : Chat} {telegramId : Int} {p : Profile} {message : IncomingMessage}
    (hp : c.db.profile telegramId = some p) (hm : message.senderId = telegramId) :
    (c.receive chars toLowercase clock message).db.profile telegramId =
      some (p.gated chars message) := by
  subst hm
  obtain ⟨o, -, -, hprofile⟩ := profile_gate chars toLowercase clock message hp
  exact hprofile

/-- **Once in a dead end, always in one**, whatever the user sends. -/
theorem leads_deadEnd {c c' : Chat} {telegramId : Int} {messages : List IncomingMessage}
    (h : Chat.Leads chars toLowercase clock telegramId c messages c') {p : Profile}
    (hp : c.db.profile telegramId = some p) (hdead : ¬ p.CanFinish) :
    ∃ p', c'.db.profile telegramId = some p' ∧ ¬ p'.CanFinish := by
  induction h generalizing p with
  | done c => exact ⟨p, hp, hdead⟩
  | next _ hadmits _ ih =>
    exact ih (profile_receive chars toLowercase clock hp hadmits.1)
      (Profile.gated_deadEnd chars hdead _)

theorem deadEnd_never_open {c c' : Chat} {telegramId : Int} {messages : List IncomingMessage}
    (h : Chat.Leads chars toLowercase clock telegramId c messages c') {p : Profile}
    (hp : c.db.profile telegramId = some p) (hdead : ¬ p.CanFinish) :
    ¬ c'.Open chars toLowercase clock telegramId := by
  obtain ⟨p', hp', hdead'⟩ := leads_deadEnd chars toLowercase clock h hp hdead
  intro hopen
  exact hdead' (Profile.canFinish_of_onboarded ((open_iff chars toLowercase clock hp').mp hopen))

/-! ## A way through -/

theorem gated_hyphen {p : Profile} (telegramId : Int) (h : p.state ≠ .completed) :
    p.gated chars (textFrom telegramId "-") = p.step chars "-" := by
  have hstart : (textFrom telegramId "-").isExplicitStartCommand = false := by
    show "/start".toList.isPrefixOf (trimStart "-").toList = false
    decide
  have hon : ¬ p.isOnboarded = true := by
    intro hon
    simp only [Profile.isOnboarded, OnboardingState.isTerminal, Bool.and_eq_true, decide_eq_true_eq] at hon
    exact h hon.1.1
  unfold Profile.gated
  rw [if_neg fun hor => hor.elim hon (by rw [hstart]; nofun)]
  rfl

theorem step_hyphen_first {p : Profile} (h : p.state = .awaitingFirstName) :
    p.step chars "-" = ⟨.awaitingLastName, some "-", p.lastName⟩ := by
  unfold Profile.step
  rw [if_neg (by decide), h, (PersonName.parse_hyphen chars).1]

theorem step_hyphen_last {p : Profile} (h : p.state = .awaitingLastName) :
    p.step chars "-" = ⟨.completed, some (p.firstName.getD ""), some "-"⟩ := by
  unfold Profile.step
  rw [if_neg (by decide), h, (PersonName.parse_hyphen chars).2]

theorem shut_of_state {c : Chat} {telegramId : Int} {p : Profile}
    (hp : c.db.profile telegramId = some p) (h : p.state ≠ .completed) :
    ¬ c.Open chars toLowercase clock telegramId := by
  rw [open_iff chars toLowercase clock hp]
  intro hon
  simp only [Profile.isOnboarded, OnboardingState.isTerminal, Bool.and_eq_true, decide_eq_true_eq] at hon
  exact h hon.1.1

theorem reaches_open_last {c : Chat} {telegramId : Int} {p : Profile}
    (hp : c.db.profile telegramId = some p) (hstate : p.state = .awaitingLastName)
    (hfirst : User.nonEmpty p.firstName = true) : ∃ c',
      Chat.Leads chars toLowercase clock telegramId c [textFrom telegramId "-"] c' ∧
      c'.Open chars toLowercase clock telegramId := by
  have hstep := profile_receive chars toLowercase clock hp (rfl : (textFrom telegramId "-").senderId = _)
  have hne : p.state ≠ .completed := by
    rw [hstate]
    nofun
  rw [gated_hyphen chars telegramId hne, step_hyphen_last chars hstate] at hstep
  have hshut := shut_of_state chars toLowercase clock hp hne
  refine ⟨_, .next hshut ⟨rfl, .inl ⟨"-", rfl⟩⟩ (.done _), (open_iff chars toLowercase clock hstep).mpr ?_⟩
  obtain ⟨first, hsome⟩ : ∃ first, p.firstName = some first := by
    cases h : p.firstName with
    | none => rw [h] at hfirst; cases hfirst
    | some first => exact ⟨first, rfl⟩
  rw [hsome] at hfirst ⊢
  simp only [Profile.isOnboarded, OnboardingState.isTerminal, Option.getD_some, hfirst]
  decide

/-- Two hyphens are enough. -/
theorem reaches_open {c : Chat} {telegramId : Int} {p : Profile} (hp : c.db.profile telegramId = some p)
    (hfinish : p.CanFinish) : ∃ messages c',
      Chat.Leads chars toLowercase clock telegramId c messages c' ∧
      c'.Open chars toLowercase clock telegramId := by
  unfold Profile.CanFinish at hfinish
  cases hstate : p.state with
  | awaitingFirstName =>
    have hstep := profile_receive chars toLowercase clock hp
      (rfl : (textFrom telegramId "-").senderId = _)
    have hne : p.state ≠ .completed := by
      rw [hstate]
      nofun
    rw [gated_hyphen chars telegramId hne, step_hyphen_first chars hstate] at hstep
    have hshut := shut_of_state chars toLowercase clock hp hne
    obtain ⟨c', hleads, hopen⟩ := reaches_open_last chars toLowercase clock hstep rfl rfl
    exact ⟨_, c', .next hshut ⟨rfl, .inl ⟨"-", rfl⟩⟩ hleads, hopen⟩
  | awaitingLastName =>
    rw [hstate] at hfinish
    obtain ⟨c', hleads, hopen⟩ := reaches_open_last chars toLowercase clock hp hstate hfinish
    exact ⟨_, c', hleads, hopen⟩
  | awaitingEmployeeLink =>
    rw [hstate] at hfinish
    exact hfinish.elim
  | completed =>
    rw [hstate] at hfinish
    refine ⟨[], c, .done c, (open_iff chars toLowercase clock hp).mpr ?_⟩
    simp only [Profile.isOnboarded, hstate, hfinish.1, hfinish.2]
    decide

end

/-! ## Top theorem -/

/-- **Who gets past the gate.**  Whatever the user has been offered: some sequence of texts and
presses opens the gate exactly if the row still asks for the names that are missing. -/
theorem gate_opens_iff (chars : CharClass) (toLowercase : String → String)
    (clock : IncomingMessage → Nat → Instant) (telegramId : Int) (c : Chat) (r : Stored UserColumns)
    (hr : c.db.account telegramId = some r) :
    (∃ messages c', Chat.Leads chars toLowercase clock telegramId c messages c' ∧
      c'.Open chars toLowercase clock telegramId) ↔ (toUser r).profile.CanFinish := by
  have hp := Db.profile_of_account hr
  constructor
  · rintro ⟨messages, c', hleads, hopen⟩
    by_contra hdead
    exact deadEnd_never_open chars toLowercase clock hleads hp hdead hopen
  · exact reaches_open chars toLowercase clock hp

/-- A database with one user. -/
def soleUser (columns : UserColumns) : Db :=
  { Db.empty with users := (Table.empty.insertOrIgnore columns).1 }

theorem account_soleUser (columns : UserColumns) :
    (soleUser columns).account columns.user.telegramId = some ⟨1, columns⟩ := by
  have hrows : (Table.empty.insertOrIgnore columns).1.rows = [⟨1, columns⟩] := by
    rcases Table.insertOrIgnore_cases Table.empty columns with ⟨⟨r, hr, -⟩, -⟩ | ⟨-, hrows, -⟩
    · cases hr
    · exact hrows
  unfold soleUser Db.account Table.find?
  rw [hrows]
  simp

/-- A newcomer who has sent `/start` gets through. -/
theorem gate_opens_for_newcomer :
    ∃ messages c', Chat.Leads ⟨Char.isAlpha, Char.isDigit⟩ id (fun m _ => m.timestamp) 7
        ⟨soleUser (UserRepository.onboardingRow 7 7 none none 0), []⟩ messages c' ∧
      c'.Open ⟨Char.isAlpha, Char.isDigit⟩ id (fun m _ => m.timestamp) 7 :=
  (gate_opens_iff _ _ _ 7 ⟨soleUser (UserRepository.onboardingRow 7 7 none none 0), []⟩ _
    (account_soleUser _)).mpr trivial

/-- A row from before the onboarding: no state, no names. -/
def legacyRow : UserColumns :=
  ⟨(UserRepository.onboardingRow 7 7 none (some "Анна Петрова") 0).user, none⟩

/-- Its user never gets past the gate. -/
theorem legacy_user_locked_out :
    ¬ ∀ (chars : CharClass) (toLowercase : String → String) (clock : IncomingMessage → Nat → Instant)
      (telegramId : Int) (c : Chat), (c.db.account telegramId).isSome →
        ∃ messages c', Chat.Leads chars toLowercase clock telegramId c messages c' ∧
          c'.Open chars toLowercase clock telegramId := by
  intro h
  have hrow := account_soleUser legacyRow
  obtain ⟨messages, c', hleads, hopen⟩ := h ⟨Char.isAlpha, Char.isDigit⟩ id (fun m _ => m.timestamp) 7
    ⟨soleUser legacyRow, []⟩ (by rw [show (soleUser legacyRow).account 7 = _ from hrow]; rfl)
  refine deadEnd_never_open _ _ _ hleads (Db.profile_of_account hrow) ?_ hopen
  exact fun hfinish => absurd hfinish.1 (by decide)

end TaskBot
