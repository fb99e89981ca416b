import Mathlib.Data.List.Nodup
import TaskBot.Domain.DeadlinePhrases
import TaskBot.Domain.TaskReferences
import TaskBot.Infrastructure.DailyJobs

/-!
# Configuration

The settings are read from the environment once, when the process starts.  A variable that is not set or is
blank counts as absent; one that is set must be readable, or the process does not start.

* `parseAdminIds_iff`: which lists of admins are accepted, and whom they name;
* `adminIds_written`: a list that is written down is read back;
* `fromEnv_ok`: what holds of every configuration that is accepted;
* `daily_jobs_run_iff`: whether an accepted configuration runs its daily jobs every day.
-/

namespace TaskBot

open Parsing

/-- The variables of the process. -/
abbrev Environment := String → Option String

/-- `NonZeroU32`. -/
structure NonZeroU32 where
  value : Nat
  positive : 0 < value
  fits : value < 2 ^ 32
deriving DecidableEq, Repr

/-- `AdminIdSet`: the ids in the order in which the set gives them. -/
structure AdminIdSet where
  ids : List Int
  nodup : ids.Nodup
deriving DecidableEq, Repr

namespace AdminIdSet

def empty : AdminIdSet := ⟨[], .nil⟩

def insert (set : AdminIdSet) (id : Int) : AdminIdSet := ⟨set.ids.insert id, set.nodup.insert⟩

def contains (set : AdminIdSet) (telegramId : Int) : Bool := telegramId ∈ set.ids

@[simp] theorem mem_insert {set : AdminIdSet} {id id' : Int} :
    id' ∈ (set.insert id).ids ↔ id' = id ∨ id' ∈ set.ids := List.mem_insert_iff

end AdminIdSet

structure DatabaseConfig where
  databaseUrl : String
deriving DecidableEq, Repr

structure TelegramConfig where
  botToken : String
deriving DecidableEq, Repr

structure GoogleSheetsConfig where
  spreadsheetId : String
  range : String
  apiKey : Option String
  bearerToken : Option String
deriving DecidableEq, Repr

structure GeminiConfig where
  apiKey : String
  model : String
deriving DecidableEq, Repr

structure OpenAiConfig where
  apiKey : String
  transcriptionModel : String
deriving DecidableEq, Repr

structure HttpServerConfig where
  bindAddress : String
deriving DecidableEq, Repr

structure ObservabilityConfig where
  logLevel : String
deriving DecidableEq, Repr

structure SchedulerConfig where
  employeeSyncIntervalMinutes : NonZeroU32
  notificationPollIntervalSeconds : NonZeroU32
  reminderTickSeconds : NonZeroU32
  dailyDeadlineReminderHourUtc : Nat
  dailyOverdueScanHourUtc : Nat
  dailySummaryHourUtc : Nat
deriving DecidableEq, Repr

structure BotBehaviorConfig where
  rateLimitPerMinute : NonZeroU32
deriving DecidableEq, Repr

structure SecurityConfig where
  adminIds : AdminIdSet
  adminNonceTtlSeconds : NonZeroU32
deriving DecidableEq, Repr

structure FeatureFlagsConfig where
  envValue : Option String
deriving DecidableEq, Repr

structure AppConfig where
  database : DatabaseConfig
  telegram : TelegramConfig
  googleSheets : GoogleSheetsConfig
  gemini : GeminiConfig
  openai : OpenAiConfig
  httpServer : HttpServerConfig
  observability : ObservabilityConfig
  scheduler : SchedulerConfig
  bot : BotBehaviorConfig
  security : SecurityConfig
  features : FeatureFlagsConfig
deriving DecidableEq, Repr

/-! ## Reading one variable -/

section

variable (env : Environment)

def optionalEnv (name : String) : Option String := ((env name).map trim).filter fun value => !value.isEmpty

def requiredEnv (name : String) : AppResult String :=
  okOrElse (optionalEnv env name)
    (.schemaValidation "ENV_MISSING" ("Environment variable " ++ name ++ " is required") [("name", .str name)])

/-- `str::parse::<u32>`. -/
def parseU32Text : List Char → Option Nat
  | '+' :: digits => (digitsValue digits).filter fun n => n < 2 ^ 32
  | digits => (digitsValue digits).filter fun n => n < 2 ^ 32

def optionalU32 (name : String) (default : Nat) : AppResult Nat :=
  match optionalEnv env name with
  | some value =>
      okOrElse (parseU32Text value.toList)
        (.schemaValidation "ENV_NUMBER_INVALID" ("Environment variable " ++ name ++ " must be a positive integer")
          [("name", .str name), ("value", .str value)])
  | none => .ok default

/-- `NonZeroU32::new`. -/
def NonZeroU32.new (value : Nat) : Option NonZeroU32 :=
  if h : 0 < value ∧ value < 2 ^ 32 then some ⟨value, h.1, h.2⟩ else none

def nonZeroU32 (name : String) (default : Nat) : AppResult NonZeroU32 := do
  let value ← optionalU32 env name default
  okOrElse (NonZeroU32.new value)
    (.schemaValidation "ENV_NON_ZERO_REQUIRED" ("Environment variable " ++ name ++ " must be greater than zero")
      [("name", .str name), ("value", .int value)])

end

/-! ## The list of admins -/

def adminIdsInvalid (message token : String) : AppError :=
  .schemaValidation "ADMIN_IDS_INVALID" message [("token", .str token)]

/-- One round of the loop over the tokens. -/
def addAdminId (ids : AdminIdSet) (token : List Char) : AppResult AdminIdSet :=
  let trimmed := trim (String.ofList token)
  if trimmed.isEmpty then .ok ids
  else
    match parseI64 trimmed.toList with
    | none =>
        .error (adminIdsInvalid "TELEGRAM_ADMIN_IDS must be a comma-separated list of integer Telegram user IDs" trimmed)
    | some parsed =>
        if parsed ≤ 0 then
          .error (adminIdsInvalid "TELEGRAM_ADMIN_IDS entries must be positive Telegram user IDs" trimmed)
        else .ok (ids.insert parsed)

def parseAdminIds : Option String → AppResult AdminIdSet
  | none => .ok .empty
  | some raw => (raw.toList.splitOn ',').foldlM addAdminId .empty

/-! ## The configuration -/

namespace AppConfig

/-- The rules beyond the fields; `validate()` itself checks nothing of `AppConfig`, which marks no field. -/
def validateWithRules (config : AppConfig) : AppResult Unit :=
  if config.googleSheets.apiKey.isNone ∧ config.googleSheets.bearerToken.isNone then
    .error (.schemaValidation "GOOGLE_SHEETS_AUTH_MISSING"
      "Either GOOGLE_SHEETS_API_KEY or GOOGLE_SHEETS_BEARER_TOKEN must be configured"
      [("spreadsheet_id", .str config.googleSheets.spreadsheetId)])
  else if config.scheduler.dailyDeadlineReminderHourUtc > 23 ∨ config.scheduler.dailyOverdueScanHourUtc > 23 ∨
      config.scheduler.dailySummaryHourUtc > 23 then
    .error (.schemaValidation "SCHEDULER_HOUR_INVALID" "Scheduler hour must be in the 0..=23 range"
      [("deadline_hour", .int config.scheduler.dailyDeadlineReminderHourUtc),
        ("overdue_hour", .int config.scheduler.dailyOverdueScanHourUtc),
        ("daily_summary_hour", .int config.scheduler.dailySummaryHourUtc)])
  else .ok ()

/-- The configuration as it is read, before the rules. -/
def read (env : Environment) : AppResult AppConfig := do
  let databaseUrl ← requiredEnv env "DATABASE_URL"
  let botToken ← requiredEnv env "TELEGRAM_BOT_TOKEN"
  let spreadsheetId ← requiredEnv env "GOOGLE_SHEETS_ID"
  let geminiKey ← requiredEnv env "GOOGLE_GEMINI_API_KEY"
  let openaiKey ← requiredEnv env "OPENAI_API_KEY"
  let employeeSyncIntervalMinutes ← nonZeroU32 env "EMPLOYEE_SYNC_INTERVAL_MINUTES" 60
  let notificationPollIntervalSeconds ← nonZeroU32 env "NOTIFICATION_POLL_INTERVAL_SECONDS" 30
  let reminderTickSeconds ← nonZeroU32 env "REMINDER_TICK_SECONDS" 60
  let dailyDeadlineReminderHourUtc ← optionalU32 env "DEADLINE_REMINDER_HOUR_UTC" 9
  let dailyOverdueScanHourUtc ← optionalU32 env "OVERDUE_SCAN_HOUR_UTC" 10
  let dailySummaryHourUtc ← optionalU32 env "DAILY_SUMMARY_HOUR_UTC" 8
  let rateLimitPerMinute ← nonZeroU32 env "RATE_LIMIT_PER_MINUTE" 20
  let adminIds ← parseAdminIds (optionalEnv env "TELEGRAM_ADMIN_IDS")
  let adminNonceTtlSeconds ← nonZeroU32 env "ADMIN_NONCE_TTL_SECONDS" 120
  pure {
    database := { databaseUrl }
    telegram := { botToken }
    googleSheets := {
      spreadsheetId
      range := (optionalEnv env "GOOGLE_SHEETS_RANGE").getD "Employees!A:F"
      apiKey := optionalEnv env "GOOGLE_SHEETS_API_KEY"
      bearerToken := optionalEnv env "GOOGLE_SHEETS_BEARER_TOKEN" }
    gemini := { apiKey := geminiKey, model := (optionalEnv env "GOOGLE_GEMINI_MODEL").getD "gemini-2.5-flash" }
    openai := {
      apiKey := openaiKey
      transcriptionModel := (optionalEnv env "OPENAI_TRANSCRIPTION_MODEL").getD "gpt-4o-mini-transcribe" }
    httpServer := { bindAddress := (optionalEnv env "BIND_ADDRESS").getD "0.0.0.0:8080" }
    observability := { logLevel := (optionalEnv env "RUST_LOG").getD "info,telegram_task_bot=debug" }
    scheduler := {
      employeeSyncIntervalMinutes, notificationPollIntervalSeconds, reminderTickSeconds
      dailyDeadlineReminderHourUtc, dailyOverdueScanHourUtc, dailySummaryHourUtc }
    bot := { rateLimitPerMinute }
    security := { adminIds, adminNonceTtlSeconds }
    features := { envValue := optionalEnv env "FEATURE_FLAGS" } }

/-- `env` is what `dotenvy` leaves in the environment of the process. -/
def fromEnv (env : Environment) : AppResult AppConfig := do
  let config ← read env
  config.validateWithRules
  pure config

end AppConfig

/-! ## What is accepted of one variable -/

/-- Digits, perhaps after a plus sign. -/
def SpellsNumber (text : List Char) (n : Nat) : Prop :=
  ∃ sign digits, (sign = [] ∨ sign = ['+']) ∧ text = sign ++ digits ∧ digitsValue digits = some n

theorem parseU32Text_iff {text : List Char} {n : Nat} :
    parseU32Text text = some n ↔ n < 2 ^ 32 ∧ SpellsNumber text n := by
  have hvalue : ∀ digits, (digitsValue digits).filter (fun n => n < 2 ^ 32) = some n ↔
      n < 2 ^ 32 ∧ digitsValue digits = some n := by
    intro digits
    rw [Option.filter_eq_some_iff, decide_eq_true_eq]
    exact and_comm
  constructor
  · intro h
    unfold parseU32Text at h
    split at h
    · next digits =>
      obtain ⟨hfits, hdigits⟩ := (hvalue digits).mp h
      exact ⟨hfits, ['+'], digits, .inr rfl, rfl, hdigits⟩
    · obtain ⟨hfits, hdigits⟩ := (hvalue text).mp h
      exact ⟨hfits, [], text, .inl rfl, rfl, hdigits⟩
  · rintro ⟨hfits, sign, digits, hsign, htext, hdigits⟩
    rcases hsign with rfl | rfl
    · rw [htext, List.nil_append]
      unfold parseU32Text
      split
      · rw [digitsValue_cons_none (by decide)] at hdigits
        cases hdigits
      · exact (hvalue digits).mpr ⟨hfits, hdigits⟩
    · rw [htext]
      exact (hvalue digits).mpr ⟨hfits, hdigits⟩

theorem optionalU32_ok {env : Environment} {name : String} {default n : Nat} :
    optionalU32 env name default = .ok n ↔
      (optionalEnv env name = none ∧ n = default) ∨
        ∃ value, optionalEnv env name = some value ∧ n < 2 ^ 32 ∧ SpellsNumber value.toList n := by
  unfold optionalU32
  cases henv : optionalEnv env name with
  | none => simp [eq_comm]
  | some value =>
    simp only [reduceCtorEq, false_and, Option.some.injEq, exists_eq_left', false_or, ← parseU32Text_iff]
    cases parseU32Text value.toList with
    | none => simp [okOrElse]
    | some m => simp [okOrElse]

theorem nonZeroU32_ok {env : Environment} {name : String} {default : Nat} {n : NonZeroU32} :
    nonZeroU32 env name default = .ok n ↔ optionalU32 env name default = .ok n.value := by
  unfold nonZeroU32
  cases optionalU32 env name default with
  | error e => exact ⟨(nomatch ·), (nomatch ·)⟩
  | ok value =>
    change okOrElse (NonZeroU32.new value) _ = .ok n ↔ _
    unfold NonZeroU32.new
    constructor
    · intro h
      split at h
      · cases h
        rfl
      · cases h
    · intro h
      cases h
      rw [dif_pos ⟨n.positive, n.fits⟩]
      rfl

/-! ### The admins -/

/-- The token is blank, or is a positive id with blanks around it. -/
def BlankToken (token : List Char) : Prop := trim (String.ofList token) = ""

def SpellsId (token : List Char) (id : Int) : Prop :=
  0 < id ∧ id ≤ maxI64 ∧ SpellsNumber (trim (String.ofList token)).toList id.toNat

theorem blankToken_nil : BlankToken [] := rfl

theorem not_blank_of_spells {token : List Char} {id : Int} (h : SpellsId token id) : ¬ BlankToken token := by
  obtain ⟨-, -, sign, digits, -, htext, hdigits⟩ := h
  intro hblank
  rw [show trim (String.ofList token) = "" from hblank] at htext
  have hnil : sign ++ digits = [] := htext.symm
  rw [(List.append_eq_nil_iff.mp hnil).2] at hdigits
  cases hdigits

/-- What one token does to the list. -/
theorem addAdminId_ok {ids ids' : AdminIdSet} {token : List Char} :
    addAdminId ids token = .ok ids' ↔
      (BlankToken token ∧ ids' = ids) ∨ ∃ id, SpellsId token id ∧ ids' = ids.insert id := by
  unfold addAdminId
  by_cases hblank : BlankToken token
  · have hempty : (trim (String.ofList token)).isEmpty = true := by
      rw [show trim (String.ofList token) = "" from hblank]
      rfl
    simp only [hempty, if_true]
    constructor
    · intro h
      cases h
      exact .inl ⟨hblank, rfl⟩
    · rintro (⟨-, rfl⟩ | ⟨id, hid, -⟩)
      · rfl
      · exact absurd hblank (not_blank_of_spells hid)
  · have hsome : ¬ (trim (String.ofList token)).isEmpty = true := fun h => hblank (String.isEmpty_iff.mp h)
    simp only [hsome, hblank, false_and, false_or]
    cases hparse : parseI64 (trim (String.ofList token)).toList with
    | none =>
      constructor
      · intro h
        cases h
      · rintro ⟨id, ⟨hpos, hspells⟩, -⟩
        rw [(parseI64_pos hpos).mpr hspells] at hparse
        cases hparse
    | some parsed =>
      by_cases hpos : parsed ≤ 0
      · simp only [hpos, if_true]
        constructor
        · intro h
          cases h
        · rintro ⟨id, ⟨hid, hspells⟩, -⟩
          rw [(parseI64_pos hid).mpr hspells] at hparse
          cases hparse
          omega
      · simp only [hpos, if_false]
        have hparsed : 0 < parsed := by omega
        constructor
        · intro h
          cases h
          exact ⟨parsed, ⟨hparsed, (parseI64_pos hparsed).mp hparse⟩, rfl⟩
        · rintro ⟨id, ⟨hid, hspells⟩, rfl⟩
          rw [(parseI64_pos hid).mpr hspells] at hparse
          cases hparse
          rfl

/-- **The loop over the tokens.**  Every token must be blank or an id, and the ids are added. -/
theorem foldlM_addAdminId (tokens : List (List Char)) : ∀ {ids ids' : AdminIdSet},
    tokens.foldlM addAdminId ids = .ok ids' →
      (∀ token ∈ tokens, BlankToken token ∨ ∃ id, SpellsId token id) ∧
        ∀ id, id ∈ ids'.ids ↔ id ∈ ids.ids ∨ ∃ token ∈ tokens, SpellsId token id := by
  induction tokens with
  | nil =>
    intro ids ids' h
    cases h
    simp
  | cons token tokens ih =>
    intro ids ids' h
    rw [List.foldlM_cons] at h
    obtain ⟨next, hfirst, hrest⟩ := bind_eq_ok h
    obtain ⟨hall, hmem⟩ := ih hrest
    rcases addAdminId_ok.mp hfirst with ⟨hblank, rfl⟩ | ⟨id, hspells, rfl⟩
    · refine ⟨List.forall_mem_cons.mpr ⟨.inl hblank, hall⟩, fun id => ?_⟩
      rw [hmem, List.exists_mem_cons_iff, or_iff_right (a := SpellsId token id)]
      exact fun hid => not_blank_of_spells hid hblank
    · refine ⟨List.forall_mem_cons.mpr ⟨.inr ⟨id, hspells⟩, hall⟩, fun id' => ?_⟩
      have hone : SpellsId token id' ↔ id' = id := by
        constructor
        · intro h
          have hparse := (parseI64_pos h.1).mpr h.2
          rw [(parseI64_pos hspells.1).mpr hspells.2] at hparse
          exact (Option.some.inj hparse).symm
        · rintro rfl
          exact hspells
      rw [hmem, List.exists_mem_cons_iff, AdminIdSet.mem_insert, hone]
      grind

theorem foldlM_addAdminId_isOk (tokens : List (List Char))
    (h : ∀ token ∈ tokens, BlankToken token ∨ ∃ id, SpellsId token id) :
    ∀ ids, ∃ ids', tokens.foldlM addAdminId ids = .ok ids' := by
  induction tokens with
  | nil => exact fun ids => ⟨ids, rfl⟩
  | cons token tokens ih =>
    intro ids
    have hfirst : ∃ next, addAdminId ids token = .ok next := by
      rcases h token List.mem_cons_self with hblank | ⟨id, hid⟩
      · exact ⟨ids, addAdminId_ok.mpr (.inl ⟨hblank, rfl⟩)⟩
      · exact ⟨ids.insert id, addAdminId_ok.mpr (.inr ⟨id, hid, rfl⟩)⟩
    obtain ⟨next, hnext⟩ := hfirst
    rw [List.foldlM_cons, hnext]
    exact ih (fun t ht => h t (List.mem_cons_of_mem token ht)) next

/-- **Which lists of admins are accepted**, and whom an accepted one names. -/
theorem parseAdminIds_iff (raw : String) :
    ((∃ set, parseAdminIds (some raw) = .ok set) ↔
      ∀ token ∈ raw.toList.splitOn ',', BlankToken token ∨ ∃ id, SpellsId token id) ∧
    ∀ set, parseAdminIds (some raw) = .ok set →
      ∀ id, id ∈ set.ids ↔ ∃ token ∈ raw.toList.splitOn ',', SpellsId token id := by
  refine ⟨⟨?_, fun h => foldlM_addAdminId_isOk _ h .empty⟩, ?_⟩
  · rintro ⟨set, hset⟩
    exact (foldlM_addAdminId _ hset).1
  · intro set hset id
    rw [(foldlM_addAdminId _ hset).2 id, AdminIdSet.empty, or_iff_right List.not_mem_nil]

/-- An id as an operator writes it, with blanks of its own on both sides. -/
def writtenId (before after : Int → List Char) (id : Int) : List Char := before id ++ (idText id ++ after id)

/-- The ids as an operator writes them, separated by commas. -/
def AdminIdSet.written (set : AdminIdSet) (before after : Int → List Char) : String :=
  String.ofList ([','].intercalate (set.ids.map (writtenId before after)))

section

variable {before after : Int → List Char} {id : Int} (hbefore : ∀ id, ∀ c ∈ before id, isWhitespace c = true)
  (hafter : ∀ id, ∀ c ∈ after id, isWhitespace c = true)

include hbefore hafter

theorem spellsId_written (hpos : 0 < id) (hfits : id ≤ maxI64) (id' : Int) :
    SpellsId (writtenId before after id) id' ↔ id' = id := by
  have hdigits : idText id = Nat.toDigits 10 id.toNat := by
    rw [idText_eq, if_pos (Int.le_of_lt hpos)]
  have hall : ∀ c ∈ Nat.toDigits 10 id.toNat, c.isDigit = true := fun c hc =>
    Nat.isDigit_of_mem_toDigits (by decide) (by decide) hc
  have hne : Nat.toDigits 10 id.toNat ≠ [] := Nat.toDigits_ne_nil
  have htrimmed : Trimmed (idText id) := by
    rw [hdigits]
    constructor
    · obtain ⟨first, rest, hsplit⟩ := List.exists_cons_of_ne_nil hne
      rw [hsplit, List.head?_cons, Option.any_some]
      exact isWhitespace_of_isDigit (hall first (by simp [hsplit]))
    · obtain ⟨front, last, hsplit⟩ := (List.eq_nil_or_concat (Nat.toDigits 10 id.toNat)).resolve_left hne
      rw [hsplit, List.concat_eq_append, List.getLast?_concat, Option.any_some]
      exact isWhitespace_of_isDigit (hall last (by simp [hsplit]))
  have htrim : (trim (String.ofList (writtenId before after id))).toList = idText id := by
    unfold writtenId
    rw [toList_trim, String.toList_ofList, trimChars_between (hbefore id) (hafter id) htrimmed]
  have hvalue : digitsValue (idText id) = some id.toNat := by
    rw [hdigits]
    refine digitsValue_eq_some.mpr ⟨hne, List.all_eq_true.mpr hall, ?_⟩
    exact ofDigitChars_zeros 0 id.toNat
  have hspells : SpellsId (writtenId before after id) id :=
    ⟨hpos, hfits, [], idText id, .inl rfl, by rw [htrim, List.nil_append], hvalue⟩
  constructor
  · rintro ⟨hpos', hrest⟩
    have hparse := (parseI64_pos hpos').mpr hrest
    rw [(parseI64_pos hpos).mpr hspells.2] at hparse
    exact (Option.some.inj hparse).symm
  · rintro rfl
    exact hspells

/-- A token holds no comma. -/
theorem comma_not_mem_writtenId (id : Int) : ',' ∉ writtenId before after id := by
  unfold writtenId
  rw [List.mem_append, List.mem_append]
  rintro (hcomma | hcomma | hcomma)
  · exact absurd (hbefore id ',' hcomma) (by decide)
  · rcases isDigit_of_mem_idText hcomma with h | h
    · revert h
      decide
    · revert h
      decide
  · exact absurd (hafter id ',' hcomma) (by decide)

/-- The tokens of a written list; an empty list is one blank token. -/
theorem tokens_written (set : AdminIdSet) :
    (set.written before after).toList.splitOn ',' =
      if set.ids = [] then [[]] else set.ids.map (writtenId before after) := by
  unfold AdminIdSet.written
  rw [String.toList_ofList]
  split
  · next hnil =>
    rw [hnil]
    rfl
  · next hne =>
    refine List.splitOn_intercalate ',' ?_ (by simpa using hne)
    intro token htoken
    obtain ⟨id, -, rfl⟩ := List.mem_map.mp htoken
    exact comma_not_mem_writtenId hbefore hafter id

end

/-- **A list of admins that is written down is read back**, whatever blanks stand around the commas. -/
theorem adminIds_written (set : AdminIdSet) (hids : ∀ id ∈ set.ids, 0 < id ∧ id ≤ maxI64)
    {before after : Int → List Char} (hbefore : ∀ id, ∀ c ∈ before id, isWhitespace c = true)
    (hafter : ∀ id, ∀ c ∈ after id, isWhitespace c = true) :
    ∃ set', parseAdminIds (some (set.written before after)) = .ok set' ∧ ∀ id, id ∈ set'.ids ↔ id ∈ set.ids := by
  have htokens := tokens_written hbefore hafter set
  have hone : ∀ id ∈ set.ids, ∀ id', SpellsId (writtenId before after id) id' ↔ id' = id := fun id hid =>
    spellsId_written hbefore hafter (hids id hid).1 (hids id hid).2
  have hspells : ∀ id,
      (∃ token ∈ (set.written before after).toList.splitOn ',', SpellsId token id) ↔ id ∈ set.ids := by
    intro id
    rw [htokens]
    split
    · next hnil =>
      rw [hnil]
      simp only [List.mem_singleton, exists_eq_left, List.not_mem_nil, iff_false]
      exact fun h => not_blank_of_spells h blankToken_nil
    · simp only [List.mem_map, exists_exists_and_eq_and]
      constructor
      · rintro ⟨id', hid', h⟩
        rwa [(hone id' hid' id).mp h]
      · intro hid
        exact ⟨id, hid, (hone id hid id).mpr rfl⟩
  obtain ⟨haccepted, hmem⟩ := parseAdminIds_iff (set.written before after)
  obtain ⟨set', hset'⟩ := haccepted.mpr (by
    intro token htoken
    rw [htokens] at htoken
    split at htoken
    · rw [List.mem_singleton.mp htoken]
      exact .inl blankToken_nil
    · obtain ⟨id, hid, rfl⟩ := List.mem_map.mp htoken
      exact .inr ⟨id, (hone id hid id).mpr rfl⟩)
  exact ⟨set', hset', fun id => (hmem set' hset' id).trans (hspells id)⟩

/-- Two admins, with a blank behind the first and two before the second: «30 ,  10». -/
theorem two_admins_written :
    let before := fun id : Int => if id = 10 then [' ', ' '] else []
    let after := fun id : Int => if id = 30 then [' '] else []
    AdminIdSet.written ⟨[30, 10], by decide⟩ before after = "30 ,  10" ∧
      ∃ set', parseAdminIds (some (AdminIdSet.written ⟨[30, 10], by decide⟩ before after)) = .ok set' ∧
        ∀ id, id ∈ set'.ids ↔ id ∈ [30, 10] := by
  intro before after
  have hbefore : ∀ id, ∀ c ∈ before id, isWhitespace c = true := by
    intro id c hc
    have hblank : c = ' ' := by
      simp only [before] at hc
      split at hc
      · simpa using hc
      · cases hc
    rw [hblank]
    exact isWhitespace_space
  have hafter : ∀ id, ∀ c ∈ after id, isWhitespace c = true := by
    intro id c hc
    have hblank : c = ' ' := by
      simp only [after] at hc
      split at hc
      · simpa using hc
      · cases hc
    rw [hblank]
    exact isWhitespace_space
  exact ⟨by decide +kernel, adminIds_written ⟨[30, 10], by decide⟩ (by decide) hbefore hafter⟩

/-! ## What is accepted as a whole -/

namespace AppConfig

/-- The variables without which there is no configuration. -/
def requiredNames : List String :=
  ["DATABASE_URL", "TELEGRAM_BOT_TOKEN", "GOOGLE_SHEETS_ID", "GOOGLE_GEMINI_API_KEY", "OPENAI_API_KEY"]

/-- The variables of positive numbers. -/
def intervalNames : List String :=
  ["EMPLOYEE_SYNC_INTERVAL_MINUTES", "NOTIFICATION_POLL_INTERVAL_SECONDS", "REMINDER_TICK_SECONDS",
    "RATE_LIMIT_PER_MINUTE", "ADMIN_NONCE_TTL_SECONDS"]

def hourNames : List String := ["DEADLINE_REMINDER_HOUR_UTC", "OVERDUE_SCAN_HOUR_UTC", "DAILY_SUMMARY_HOUR_UTC"]

/-- The environments with which the process starts. -/
structure Startable (env : Environment) : Prop where
  required : ∀ name ∈ requiredNames, ∃ value, optionalEnv env name = some value
  sheets : (optionalEnv env "GOOGLE_SHEETS_API_KEY").isSome ∨ (optionalEnv env "GOOGLE_SHEETS_BEARER_TOKEN").isSome
  intervals : ∀ name ∈ intervalNames, ∀ value, optionalEnv env name = some value →
    ∃ n, 0 < n ∧ n < 2 ^ 32 ∧ SpellsNumber value.toList n
  hours : ∀ name ∈ hourNames, ∀ value, optionalEnv env name = some value → ∃ n ≤ 23, SpellsNumber value.toList n
  admins : ∀ raw, optionalEnv env "TELEGRAM_ADMIN_IDS" = some raw →
    ∀ token ∈ raw.toList.splitOn ',', BlankToken token ∨ ∃ id, SpellsId token id

theorem requiredEnv_ok {env : Environment} {name value : String} :
    requiredEnv env name = .ok value ↔ optionalEnv env name = some value := by
  unfold requiredEnv
  cases optionalEnv env name with
  | none => simp
  | some v => simp

/-- The values the configuration is made of. -/
structure ReadFrom (env : Environment) (config : AppConfig) : Prop where
  required : ∀ name ∈ requiredNames, ∃ value, optionalEnv env name = some value
  apiKey : config.googleSheets.apiKey = optionalEnv env "GOOGLE_SHEETS_API_KEY"
  bearerToken : config.googleSheets.bearerToken = optionalEnv env "GOOGLE_SHEETS_BEARER_TOKEN"
  employeeSync : nonZeroU32 env "EMPLOYEE_SYNC_INTERVAL_MINUTES" 60 = .ok config.scheduler.employeeSyncIntervalMinutes
  notificationPoll :
    nonZeroU32 env "NOTIFICATION_POLL_INTERVAL_SECONDS" 30 = .ok config.scheduler.notificationPollIntervalSeconds
  reminderTick : nonZeroU32 env "REMINDER_TICK_SECONDS" 60 = .ok config.scheduler.reminderTickSeconds
  deadlineHour : optionalU32 env "DEADLINE_REMINDER_HOUR_UTC" 9 = .ok config.scheduler.dailyDeadlineReminderHourUtc
  overdueHour : optionalU32 env "OVERDUE_SCAN_HOUR_UTC" 10 = .ok config.scheduler.dailyOverdueScanHourUtc
  summaryHour : optionalU32 env "DAILY_SUMMARY_HOUR_UTC" 8 = .ok config.scheduler.dailySummaryHourUtc
  rateLimit : nonZeroU32 env "RATE_LIMIT_PER_MINUTE" 20 = .ok config.bot.rateLimitPerMinute
  adminIds : parseAdminIds (optionalEnv env "TELEGRAM_ADMIN_IDS") = .ok config.security.adminIds
  nonceTtl : nonZeroU32 env "ADMIN_NONCE_TTL_SECONDS" 120 = .ok config.security.adminNonceTtlSeconds

theorem read_ok {env : Environment} {config : AppConfig} (h : read env = .ok config) : ReadFrom env config := by
  unfold read at h
  obtain ⟨databaseUrl, hdatabase, h⟩ := bind_eq_ok h
  obtain ⟨botToken, hbot, h⟩ := bind_eq_ok h
  obtain ⟨spreadsheetId, hsheet, h⟩ := bind_eq_ok h
  obtain ⟨geminiKey, hgemini, h⟩ := bind_eq_ok h
  obtain ⟨openaiKey, hopenai, h⟩ := bind_eq_ok h
  obtain ⟨sync, hsync, h⟩ := bind_eq_ok h
  obtain ⟨poll, hpoll, h⟩ := bind_eq_ok h
  obtain ⟨tick, htick, h⟩ := bind_eq_ok h
  obtain ⟨deadline, hdeadline, h⟩ := bind_eq_ok h
  obtain ⟨overdue, hoverdue, h⟩ := bind_eq_ok h
  obtain ⟨summary, hsummary, h⟩ := bind_eq_ok h
  obtain ⟨rate, hrate, h⟩ := bind_eq_ok h
  obtain ⟨admins, hadmins, h⟩ := bind_eq_ok h
  obtain ⟨ttl, httl, h⟩ := bind_eq_ok h
  cases h
  refine ⟨?_, rfl, rfl, hsync, hpoll, htick, hdeadline, hoverdue, hsummary, hrate, hadmins, httl⟩
  simp only [requiredNames, List.forall_mem_cons, ← requiredEnv_ok]
  exact ⟨⟨_, hdatabase⟩, ⟨_, hbot⟩, ⟨_, hsheet⟩, ⟨_, hgemini⟩, ⟨_, hopenai⟩, by simp⟩

theorem validateWithRules_ok {config : AppConfig} : config.validateWithRules = .ok () ↔
    (config.googleSheets.apiKey.isSome ∨ config.googleSheets.bearerToken.isSome) ∧
      config.scheduler.dailyDeadlineReminderHourUtc ≤ 23 ∧ config.scheduler.dailyOverdueScanHourUtc ≤ 23 ∧
      config.scheduler.dailySummaryHourUtc ≤ 23 := by
  unfold validateWithRules
  split
  · next hnone => simp [Option.isNone_iff_eq_none.mp hnone.1, Option.isNone_iff_eq_none.mp hnone.2]
  · next hsome =>
    have hauth : config.googleSheets.apiKey.isSome ∨ config.googleSheets.bearerToken.isSome := by
      simpa only [not_and_or, Bool.not_eq_true, Option.isNone_eq_false_iff] using hsome
    simp only [hauth, true_and]
    split <;> simp <;> omega

theorem fromEnv_ok {env : Environment} {config : AppConfig} (h : fromEnv env = .ok config) :
    ReadFrom env config ∧ config.validateWithRules = .ok () := by
  unfold fromEnv at h
  obtain ⟨read, hread, h⟩ := bind_eq_ok h
  obtain ⟨_, hrules, h⟩ := bind_eq_ok h
  cases h
  exact ⟨read_ok hread, hrules⟩

/-- A number of the environment and its default. -/
theorem spells_of_nonZero {env : Environment} {name : String} {default : Nat} {n : NonZeroU32}
    (h : nonZeroU32 env name default = .ok n) {value : String} (henv : optionalEnv env name = some value) :
    ∃ n, 0 < n ∧ n < 2 ^ 32 ∧ SpellsNumber value.toList n := by
  rcases optionalU32_ok.mp (nonZeroU32_ok.mp h) with ⟨hnone, -⟩ | ⟨value', hvalue', -, hspells⟩
  · rw [henv] at hnone
    cases hnone
  · rw [henv] at hvalue'
    cases hvalue'
    exact ⟨n.value, n.positive, n.fits, hspells⟩

theorem spells_of_hour {env : Environment} {name : String} {default hour : Nat} (hhour : hour ≤ 23)
    (h : optionalU32 env name default = .ok hour) {value : String} (henv : optionalEnv env name = some value) :
    ∃ n ≤ 23, SpellsNumber value.toList n := by
  rcases optionalU32_ok.mp h with ⟨hnone, -⟩ | ⟨value', hvalue', -, hspells⟩
  · rw [henv] at hnone
    cases hnone
  · rw [henv] at hvalue'
    cases hvalue'
    exact ⟨hour, hhour, hspells⟩

theorem optionalU32_of_spells {env : Environment} {name : String} {default : Nat} {P : Nat → Prop}
    (hfits : ∀ n, P n → n < 2 ^ 32) (hdefault : P default)
    (h : ∀ value, optionalEnv env name = some value → ∃ n, P n ∧ SpellsNumber value.toList n) :
    ∃ n, P n ∧ optionalU32 env name default = .ok n := by
  cases henv : optionalEnv env name with
  | none => exact ⟨default, hdefault, optionalU32_ok.mpr (.inl ⟨henv, rfl⟩)⟩
  | some value =>
    obtain ⟨n, hn, hspells⟩ := h value henv
    exact ⟨n, hn, optionalU32_ok.mpr (.inr ⟨value, henv, hfits n hn, hspells⟩)⟩

/-- **Which environments are accepted.** -/
theorem fromEnv_iff (env : Environment) : (∃ config, fromEnv env = .ok config) ↔ Startable env := by
  constructor
  · rintro ⟨config, h⟩
    obtain ⟨hread, hrules⟩ := fromEnv_ok h
    obtain ⟨hauth, hdeadline, hoverdue, hsummary⟩ := validateWithRules_ok.mp hrules
    rw [hread.apiKey, hread.bearerToken] at hauth
    refine ⟨hread.required, hauth, ?_, ?_, ?_⟩
    · simp only [intervalNames, List.forall_mem_cons]
      exact ⟨fun _ => spells_of_nonZero hread.employeeSync, fun _ => spells_of_nonZero hread.notificationPoll,
        fun _ => spells_of_nonZero hread.reminderTick, fun _ => spells_of_nonZero hread.rateLimit,
        fun _ => spells_of_nonZero hread.nonceTtl, by simp⟩
    · simp only [hourNames, List.forall_mem_cons]
      exact ⟨fun _ => spells_of_hour hdeadline hread.deadlineHour, fun _ => spells_of_hour hoverdue hread.overdueHour,
        fun _ => spells_of_hour hsummary hread.summaryHour, by simp⟩
    · intro raw hraw
      have hadmins := hread.adminIds
      rw [hraw] at hadmins
      exact (parseAdminIds_iff raw).1.mp ⟨_, hadmins⟩
  · intro h
    have hrequired : ∀ name ∈ requiredNames, ∃ value, requiredEnv env name = .ok value := fun name hname => by
      obtain ⟨value, hvalue⟩ := h.required name hname
      exact ⟨value, requiredEnv_ok.mpr hvalue⟩
    have hinterval : ∀ name ∈ intervalNames, ∀ default : NonZeroU32, ∃ n, nonZeroU32 env name default.value = .ok n := by
      intro name hname default
      obtain ⟨n, ⟨hpos, hfits⟩, hn⟩ := optionalU32_of_spells (P := fun n => 0 < n ∧ n < 2 ^ 32)
        (fun _ hn => hn.2) ⟨default.positive, default.fits⟩ fun value hvalue => by
          obtain ⟨n, hpos, hfits, hspells⟩ := h.intervals name hname value hvalue
          exact ⟨n, ⟨hpos, hfits⟩, hspells⟩
      exact ⟨⟨n, hpos, hfits⟩, nonZeroU32_ok.mpr hn⟩
    have hhour : ∀ name ∈ hourNames, ∀ default ≤ 23, ∃ n ≤ 23, optionalU32 env name default = .ok n :=
      fun name hname default hdefault =>
        optionalU32_of_spells (P := (· ≤ 23)) (fun n hn => by omega) hdefault (h.hours name hname)
    have hadmins : ∃ set, parseAdminIds (optionalEnv env "TELEGRAM_ADMIN_IDS") = .ok set := by
      cases henv : optionalEnv env "TELEGRAM_ADMIN_IDS" with
      | none => exact ⟨.empty, rfl⟩
      | some raw => exact (parseAdminIds_iff raw).1.mpr (h.admins raw henv)
    simp only [requiredNames, List.forall_mem_cons] at hrequired
    obtain ⟨⟨url, hurl⟩, ⟨bot, hbot⟩, ⟨sheet, hsheet⟩, ⟨gemini, hgemini⟩, ⟨openai, hopenai⟩, -⟩ := hrequired
    simp only [intervalNames, List.forall_mem_cons] at hinterval
    obtain ⟨hsync, hpoll, htick, hrate, httl, -⟩ := hinterval
    obtain ⟨sync, hsync⟩ := hsync ⟨60, by decide, by decide⟩
    obtain ⟨poll, hpoll⟩ := hpoll ⟨30, by decide, by decide⟩
    obtain ⟨tick, htick⟩ := htick ⟨60, by decide, by decide⟩
    obtain ⟨rate, hrate⟩ := hrate ⟨20, by decide, by decide⟩
    obtain ⟨ttl, httl⟩ := httl ⟨120, by decide, by decide⟩
    simp only [hourNames, List.forall_mem_cons] at hhour
    obtain ⟨hdeadline, hoverdue, hsummary, -⟩ := hhour
    obtain ⟨deadline, hdeadlineHour, hdeadline⟩ := hdeadline 9 (by decide)
    obtain ⟨overdue, hoverdueHour, hoverdue⟩ := hoverdue 10 (by decide)
    obtain ⟨summary, hsummaryHour, hsummary⟩ := hsummary 8 (by decide)
    obtain ⟨admins, hadmins⟩ := hadmins
    have hread : ∃ config, read env = .ok config ∧ config.validateWithRules = .ok () := by
      unfold read
      simp only [hurl, hbot, hsheet, hgemini, hopenai, hsync, hpoll, htick, hdeadline, hoverdue, hsummary, hrate,
        hadmins, httl]
      exact ⟨_, rfl, validateWithRules_ok.mpr ⟨h.sheets, hdeadlineHour, hoverdueHour, hsummaryHour⟩⟩
    obtain ⟨config, hread, hrules⟩ := hread
    refine ⟨config, ?_⟩
    unfold fromEnv
    rw [hread]
    change (config.validateWithRules >>= fun _ => pure config) = _
    rw [hrules]
    rfl

/-! ## The daily jobs of an accepted configuration -/

def dailyJobs (config : AppConfig) : List DailyJob :=
  [deadlineReminders config.scheduler.dailyDeadlineReminderHourUtc,
    overdueReminders config.scheduler.dailyOverdueScanHourUtc, dailySummaries config.scheduler.dailySummaryHourUtc]

end AppConfig

/-- The time of a tick, in nanoseconds. -/
def TimerTick.nanos (t : TimerTick) : Int := t.now

namespace DailyJob

/-- When the target hour of the day begins. -/
def hourStart (job : DailyJob) (day : NaiveDate) : Int := day * 86400000000000 + job.targetHourUtc * 3600000000000

theorem inHour_iff {job : DailyJob} (hhour : job.targetHourUtc ≤ 23) {day : NaiveDate} {tick : TimerTick} :
    job.InHour day tick ↔ job.hourStart day ≤ tick.nanos ∧ tick.nanos < job.hourStart day + 3600000000000 := by
  have hfacts : ∀ now day hour : Int, 0 ≤ hour → hour ≤ 23 →
      ((now.fdiv 86400000000000 = day ∧ (now.fdiv 3600000000000).fmod 24 = hour) ↔
        day * 86400000000000 + hour * 3600000000000 ≤ now ∧
          now < day * 86400000000000 + hour * 3600000000000 + 3600000000000) := by
    intro now day hour h0 h23
    rw [Int.fdiv_eq_ediv_of_nonneg _ (by decide), Int.fdiv_eq_ediv_of_nonneg _ (by decide),
      Int.fmod_eq_emod_of_nonneg _ (by decide)]
    omega
  exact hfacts tick.now day job.targetHourUtc (by omega) (by omega)

/-- Between two ticks no more than the interval passes. -/
def Ticking (seconds : Nat) (ticks : List TimerTick) : Prop :=
  ticks.IsChain fun t t' => t.nanos ≤ t'.nanos ∧ t'.nanos ≤ t.nanos + (seconds : Int) * 1000000000

/-- The process was up before the hour of the day began, and is so afterwards. -/
def Covers (job : DailyJob) (day : NaiveDate) (ticks : List TimerTick) : Prop :=
  (∃ t ∈ ticks, t.nanos ≤ job.hourStart day) ∧ ∃ t ∈ ticks, job.hourStart day ≤ t.nanos

theorem chronological_of_ticking {seconds : Nat} {ticks : List TimerTick} (h : Ticking seconds ticks) :
    Chronological ticks := by
  have htrans : IsTrans TimerTick fun t t' => t.now ≤ t'.now := ⟨fun _ _ _ h h' => Int.le_trans h h'⟩
  exact List.IsChain.pairwise (List.IsChain.imp (fun _ _ hstep => hstep.1) h)

/-- A timer that goes past an instant ticks soon after it. -/
theorem exists_tick_after {seconds : Nat} (hpos : 0 < seconds) {start : Int} {ticks : List TimerTick}
    (h : Ticking seconds ticks) (hbefore : ∃ t ∈ ticks, t.nanos ≤ start) (hafter : ∃ t ∈ ticks, start ≤ t.nanos) :
    ∃ t ∈ ticks, start ≤ t.nanos ∧ t.nanos < start + (seconds : Int) * 1000000000 := by
  induction ticks with
  | nil =>
    obtain ⟨t, ht, -⟩ := hbefore
    exact absurd ht List.not_mem_nil
  | cons t ticks ih =>
    have hfirst : t.nanos ≤ start := by
      obtain ⟨t', ht', hle⟩ := hbefore
      rcases List.mem_cons.mp ht' with rfl | ht'
      · exact hle
      · exact Int.le_trans ((List.pairwise_cons.mp (chronological_of_ticking h)).1 t' ht') hle
    by_cases hstart : start ≤ t.nanos
    · exact ⟨t, List.mem_cons_self, hstart, by omega⟩
    · obtain ⟨last, hlast, hge⟩ := hafter
      have hlast' : last ∈ ticks := (List.mem_cons.mp hlast).resolve_left fun he => hstart (he ▸ hge)
      cases ticks with
      | nil => exact absurd hlast' List.not_mem_nil
      | cons next rest =>
        obtain ⟨hstep, hrest⟩ := List.isChain_cons_cons.mp h
        by_cases hnext : start ≤ next.nanos
        · exact ⟨next, by simp, hnext, by omega⟩
        · obtain ⟨found, hfound, hwindow⟩ :=
            ih hrest ⟨next, List.mem_cons_self, by omega⟩ ⟨last, hlast', hge⟩
          exact ⟨found, List.mem_cons_of_mem t hfound, hwindow⟩

/-- A timer that ticks every hour at least runs the job on every day. -/
theorem one_run_of_ticking {job : DailyJob} (hhour : job.targetHourUtc ≤ 23) {seconds : Nat} (hpos : 0 < seconds)
    (hseconds : seconds ≤ 3600) {ticks : List TimerTick} {day : NaiveDate} (hticks : Ticking seconds ticks)
    (hcovers : job.Covers day ticks) : (job.runsOn ticks day).length = 1 := by
  obtain ⟨tick, htick, hstart, hend⟩ := exists_tick_after hpos hticks hcovers.1 hcovers.2
  have hin : job.InHour day tick := (inHour_iff hhour).mpr ⟨hstart, by omega⟩
  rw [runsOn_eq (chronological_of_ticking hticks)]
  cases hfind : ticks.find? fun t => job.InHour day t with
  | none => exact absurd (decide_eq_true hin) (List.find?_eq_none.mp hfind tick htick)
  | some first => rfl

/-- A timer that is slower can step over the hour. -/
theorem no_run_of_slow {job : DailyJob} (hhour : job.targetHourUtc ≤ 23) {seconds : Nat} (hseconds : 3600 < seconds)
    (day : NaiveDate) : ∃ ticks, Ticking seconds ticks ∧ job.Covers day ticks ∧ job.runsOn ticks day = [] := by
  let next : TimerTick := ⟨job.hourStart day + 3600000000000, .ok ()⟩
  let first : TimerTick := ⟨job.hourStart day + 3600000000000 - (seconds : Int) * 1000000000, .ok ()⟩
  have hticks : Ticking seconds [first, next] := by
    refine List.isChain_cons_cons.mpr ⟨?_, List.IsChain.singleton _⟩
    simp only [TimerTick.nanos, first, next]
    omega
  have hout : ∀ t ∈ [first, next], ¬ job.InHour day t := by
    simp only [List.mem_cons, List.not_mem_nil, or_false, forall_eq_or_imp, forall_eq, inHour_iff hhour,
      TimerTick.nanos, first, next]
    omega
  refine ⟨[first, next], hticks, ?_, ?_⟩
  · simp only [Covers, List.mem_cons, List.not_mem_nil, or_false, exists_eq_or_imp, exists_eq_left,
      TimerTick.nanos, first, next]
    omega
  · have hnone : ([first, next].find? fun t => job.InHour day t) = none :=
      List.find?_eq_none.mpr fun t ht => by simpa using hout t ht
    rw [runsOn_eq (chronological_of_ticking hticks), hnone]
    rfl

end DailyJob

namespace AppConfig

open DailyJob

/-- **An accepted configuration runs each of its daily jobs once on every day**, whenever the process is
started, exactly if its timer ticks every hour at least; nothing checks that it does. -/
theorem daily_jobs_run_iff (env : Environment) (config : AppConfig) (h : fromEnv env = .ok config) (job : DailyJob)
    (hjob : job ∈ config.dailyJobs) :
    (∀ ticks day, Ticking config.scheduler.reminderTickSeconds.value ticks → job.Covers day ticks →
      (job.runsOn ticks day).length = 1) ↔ config.scheduler.reminderTickSeconds.value ≤ 3600 := by
  obtain ⟨-, hdeadline, hoverdue, hsummary⟩ := validateWithRules_ok.mp (fromEnv_ok h).2
  have hhour : job.targetHourUtc ≤ 23 := by
    simp only [dailyJobs, List.mem_cons, List.not_mem_nil, or_false] at hjob
    rcases hjob with rfl | rfl | rfl
    · exact hdeadline
    · exact hoverdue
    · exact hsummary
  constructor
  · intro hruns
    by_contra hslow
    obtain ⟨ticks, hticks, hcovers, hnone⟩ := no_run_of_slow hhour (Nat.lt_of_not_le hslow) 0
    have hone := hruns ticks 0 hticks hcovers
    rw [hnone] at hone
    cases hone
  · intro hseconds ticks day hticks hcovers
    exact one_run_of_ticking hhour config.scheduler.reminderTickSeconds.positive hseconds hticks hcovers

/-- The environment of the example file, with a list of admins and a slow timer. -/
def sampleEnv : Environment := fun name =>
  [("TELEGRAM_BOT_TOKEN", "token"), ("GOOGLE_SHEETS_ID", "replace_me"), ("GOOGLE_SHEETS_API_KEY", "local_placeholder"),
    ("GOOGLE_GEMINI_API_KEY", "replace_me"), ("OPENAI_API_KEY", "replace_me"),
    ("DATABASE_URL", "sqlite://./data/app.db"), ("REMINDER_TICK_SECONDS", "7200"),
    ("TELEGRAM_ADMIN_IDS", " 10, 30,"), ("DAILY_SUMMARY_HOUR_UTC", "")].lookup name

def sampleConfig : AppConfig where
  database := ⟨"sqlite://./data/app.db"⟩
  telegram := ⟨"token"⟩
  googleSheets := ⟨"replace_me", "Employees!A:F", some "local_placeholder", none⟩
  gemini := ⟨"replace_me", "gemini-2.5-flash"⟩
  openai := ⟨"replace_me", "gpt-4o-mini-transcribe"⟩
  httpServer := ⟨"0.0.0.0:8080"⟩
  observability := ⟨"info,telegram_task_bot=debug"⟩
  scheduler := ⟨⟨60, by decide, by decide⟩, ⟨30, by decide, by decide⟩, ⟨7200, by decide, by decide⟩, 9, 10, 8⟩
  bot := ⟨⟨20, by decide, by decide⟩⟩
  security := ⟨⟨[30, 10], by decide⟩, ⟨120, by decide, by decide⟩⟩
  features := ⟨none⟩

theorem fromEnv_sample : fromEnv sampleEnv = .ok sampleConfig := by
  rfl

/-- Every two hours is too slow: the overdue tasks may be passed over. -/
theorem slow_timer_accepted :
    (∀ ticks day, Ticking 7200 ticks → (overdueReminders 10).Covers day ticks →
      ((overdueReminders 10).runsOn ticks day).length = 1) ↔ 7200 ≤ 3600 :=
  daily_jobs_run_iff sampleEnv sampleConfig fromEnv_sample (overdueReminders 10) (by simp [dailyJobs, sampleConfig])

end AppConfig

end TaskBot
