import TaskBot.Presentation.Callbacks

/-!
# Reading callbacks back

`parseCallback` reads the text of a pressed button: first the older format, which
only notifications write, then the format of `encodeCallback`.  The identifiers are
read by what the runtime has for them:

    read.ReadsBack → Codable c → parseCallback read (encodeCallback c) = some c    (parse_encode)

`Codable` excludes a colon within an argument, and a cursor that is the placeholder.
`displayReader` is a reader of the texts that identifiers are displayed with.
-/

namespace TaskBot

open Fields

/-! ## Code tables -/

def parseOriginCode : String → Option TaskListOrigin
  | "assigned" => some .assigned
  | "created" => some .created
  | "team" => some .team
  | "focus" => some .focus
  | "manager_inbox" => some .managerInbox
  | _ => none

def parseTaskCardMode : String → Option TaskCardMode
  | "compact" => some .compact
  | "expanded" => some .expanded
  | _ => none

def parseTaskStatus : String → Option TaskStatus
  | "created" => some .created
  | "sent" => some .sent
  | "in_progress" => some .inProgress
  | "blocked" => some .blocked
  | "in_review" => some .inReview
  | "completed" => some .completed
  | "cancelled" => some .cancelled
  | _ => none

def parseCursor (value : String) : Option String := if value = emptyCursor then none else some value

def parseDraftField : String → Option DraftEditField
  | "assignee" => some .assignee
  | "description" => some .description
  | "deadline" => some .deadline
  | _ => none

def AdminRoleOption.fromCode : String → Option AdminRoleOption
  | "u" => some user
  | "m" => some manager
  | "a" => some admin
  | _ => none

/-! ## Parsing -/

/-- `Uuid::parse_str` and `str::parse::<i64>`. -/
structure IdReader where
  uuid : String → Option Uuid
  i64 : String → Option Int

/-- What is displayed is read back. -/
structure IdReader.ReadsBack (read : IdReader) : Prop where
  uuid : ∀ u : Uuid, read.uuid u.toText = some u
  i64 : ∀ n, IsI64 n → read.i64 (toString n) = some n

section

variable (read : IdReader)

/-- The match of `parse_callback_modern`, on the parts between the colons. -/
def parseModernFields : List String → Option TelegramCallback
  | ["m", "home"] => some .menuHome
  | ["m", "help"] => some .menuHelp
  | ["m", "settings"] => some .menuSettings
  | ["m", "stats"] => some .menuStats
  | ["m", "team_stats"] => some .menuTeamStats
  | ["m", "create"] => some .menuCreate
  | ["m", "sync"] => some .menuSyncEmployees
  | ["l", scope, cursor] => do
      let origin ← parseOriginCode scope
      some (.listTasks origin (parseCursor cursor))
  | ["t", "open", origin, taskUid] => do
      let origin ← parseOriginCode origin
      let taskUid ← read.uuid taskUid
      some (.openTask taskUid origin .compact)
  | ["t", "open", origin, taskUid, mode] => do
      let origin ← parseOriginCode origin
      let taskUid ← read.uuid taskUid
      let mode ← parseTaskCardMode mode
      some (.openTask taskUid origin mode)
  | ["t", "status", origin, taskUid, status] => do
      let origin ← parseOriginCode origin
      let taskUid ← read.uuid taskUid
      let nextStatus ← parseTaskStatus status
      some (.updateTaskStatus taskUid nextStatus origin)
  | ["t", "cancel_confirm", origin, taskUid] => do
      let origin ← parseOriginCode origin
      let taskUid ← read.uuid taskUid
      some (.confirmTaskCancel taskUid origin)
  | ["t", "cancel_execute", origin, taskUid] => do
      let origin ← parseOriginCode origin
      let taskUid ← read.uuid taskUid
      some (.executeTaskCancel taskUid origin)
  | ["i", "comment", origin, taskUid] => do
      let origin ← parseOriginCode origin
      let taskUid ← read.uuid taskUid
      some (.startTaskCommentInput taskUid origin)
  | ["i", "blocker", origin, taskUid] => do
      let origin ← parseOriginCode origin
      let taskUid ← read.uuid taskUid
      some (.startTaskBlockerInput taskUid origin)
  | ["i", "reassign", origin, taskUid] => do
      let origin ← parseOriginCode origin
      let taskUid ← read.uuid taskUid
      some (.startTaskReassignInput taskUid origin)
  | ["i", "delivery_help", origin, taskUid] => do
      let origin ← parseOriginCode origin
      let taskUid ← read.uuid taskUid
      some (.showDeliveryHelp taskUid origin)
  | ["c", "quick"] => some .startQuickCreate
  | ["c", "guided"] => some .startGuidedCreate
  | ["c", "voice_confirm"] => some .voiceCreateConfirm
  | ["c", "voice_edit"] => some .voiceCreateEdit
  | ["c", "voice_back"] => some .voiceCreateBack
  | ["c", "voice_cancel"] => some .voiceCreateCancel
  | ["c", "register_employee", employeeId] => do
      let employeeId ← read.i64 employeeId
      some (.registrationPickEmployee employeeId)
  | ["c", "register_unlinked"] => some .registrationContinueUnlinked
  | ["c", "clarify_employee", employeeId] => do
      let employeeId ← read.i64 employeeId
      some (.clarificationPickEmployee employeeId)
  | ["c", "clarify_unassigned"] => some .clarificationCreateUnassigned
  | ["d", "skip_assignee"] => some .draftSkipAssignee
  | ["d", "skip_deadline"] => some .draftSkipDeadline
  | ["d", "submit"] => some .draftSubmit
  | ["d", "edit", field] => do
      let field ← parseDraftField field
      some (.draftEdit field)
  | ["d", "assignee_pick", employeeId] => do
      let employeeId ← read.i64 employeeId
      some (.guidedAssigneeConfirm employeeId)
  | ["a", "menu"] => some .adminMenu
  | ["a", "users"] => some .adminUsers
  | ["a", "user", userId] => do
      let userId ← read.i64 userId
      some (.adminUserDetails userId)
  | ["a", "role", userId, roleCode] => do
      let userId ← read.i64 userId
      let nextRole ← AdminRoleOption.fromCode roleCode
      some (.adminUserPrepareRoleChange userId nextRole)
  | ["a", "deact", userId] => do
      let userId ← read.i64 userId
      some (.adminUserPrepareDeactivate userId)
  | ["a", "react", userId] => do
      let userId ← read.i64 userId
      some (.adminUserPrepareReactivate userId)
  | ["a", "confirm", nonce] => some (.adminConfirmNonce nonce)
  | ["a", "cancel"] => some .adminCancelPending
  | ["a", "audit"] => some .adminAudit
  | ["a", "sec_audit"] => some .adminSecurityAudit
  | ["a", "feat"] => some .adminFeatures
  | ["a", "ftog", flagKey] => some (.adminToggleFeature flagKey)
  | _ => none

def parseCallbackModern (value : String) : Option TelegramCallback :=
  parseModernFields read (splitFields ':' value)

/-- The match of `parse_legacy_callback`. -/
def parseLegacyFields : List String → Option TelegramCallback
  | ["status", taskUid, status] => do
      let taskUid ← read.uuid taskUid
      let nextStatus ← parseTaskStatus status
      some (.updateTaskStatus taskUid nextStatus .assigned)
  | ["open", taskUid] => do
      let taskUid ← read.uuid taskUid
      some (.openTask taskUid .assigned .compact)
  | ["block", taskUid] => do
      let taskUid ← read.uuid taskUid
      some (.startTaskBlockerInput taskUid .assigned)
  | _ => none

def parseLegacyCallback (value : String) : Option TelegramCallback :=
  parseLegacyFields read (splitFields ':' value)

def parseCallback (value : String) : Option TelegramCallback :=
  (parseLegacyCallback read value).or (parseCallbackModern read value)

end

/-! ## Lemmas -/

/-- The arguments can be told apart again: ids are those of the code, and the texts are free of the
separator and of the placeholder. -/
def Codable : TelegramCallback → Prop
  | .listTasks _ (some cursor) => Free ':' cursor ∧ cursor ≠ emptyCursor
  | .registrationPickEmployee id | .clarificationPickEmployee id | .guidedAssigneeConfirm id => IsI64 id
  | .adminUserDetails id | .adminUserPrepareRoleChange id _ => IsI64 id
  | .adminUserPrepareDeactivate id | .adminUserPrepareReactivate id => IsI64 id
  | .adminConfirmNonce nonce => Free ':' nonce
  | .adminToggleFeature key => Free ':' key
  | _ => True

@[simp] theorem parse_originCode (origin : TaskListOrigin) : parseOriginCode (originCode origin) = some origin := by
  cases origin <;> rfl

@[simp] theorem parse_taskCardModeCode (mode : TaskCardMode) :
    parseTaskCardMode (taskCardModeCode mode) = some mode := by
  cases mode <;> rfl

@[simp] theorem parse_taskStatusCode (status : TaskStatus) :
    parseTaskStatus (taskStatusCode status) = some status := by
  cases status <;> rfl

@[simp] theorem parse_draftFieldCode (field : DraftEditField) :
    parseDraftField (draftFieldCode field) = some field := by
  cases field <;> rfl

@[simp] theorem fromCode_asCode (role : AdminRoleOption) : AdminRoleOption.fromCode role.asCode = some role := by
  cases role <;> rfl

theorem originCode_free (origin : TaskListOrigin) : Free ':' (originCode origin) := by
  cases origin <;> decide

theorem parse_cursor {cursor : Option String} (h : ∀ c, cursor = some c → c ≠ emptyCursor) :
    parseCursor (cursor.getD emptyCursor) = cursor := by
  cases cursor with
  | none => rfl
  | some c =>
    unfold parseCursor
    rw [Option.getD_some, if_neg (h c rfl)]

section

variable {read : IdReader} {callback : TelegramCallback}

/-- No field contains the separator. -/
theorem callbackFields_free (h : Codable callback) : AllFree ':' (callbackFields callback) := by
  have hgroup : ∀ {group verb : String} {rest : List String}, Free ':' group → Free ':' verb →
      AllFree ':' rest → AllFree ':' (group :: verb :: rest) := fun hgroup hverb hrest =>
    .cons hgroup (.cons hverb hrest)
  cases callback with
  | listTasks origin cursor =>
    refine hgroup (by decide) (originCode_free origin) (.cons ?_ .nil)
    cases cursor with
    | none => decide
    | some cursor => exact h.1
  | openTask uid origin mode =>
    have hmode : Free ':' (taskCardModeCode mode) := by cases mode <;> decide
    exact hgroup (by decide) (by decide)
      (.cons (originCode_free origin) (.cons uid.toText_free (.cons hmode .nil)))
  | updateTaskStatus uid next origin =>
    have hnext : Free ':' (taskStatusCode next) := by cases next <;> decide
    exact hgroup (by decide) (by decide)
      (.cons (originCode_free origin) (.cons uid.toText_free (.cons hnext .nil)))
  | confirmTaskCancel uid origin | executeTaskCancel uid origin | startTaskCommentInput uid origin
  | startTaskBlockerInput uid origin | startTaskReassignInput uid origin | showDeliveryHelp uid origin =>
    exact hgroup (by decide) (by decide) (.cons (originCode_free origin) (.cons uid.toText_free .nil))
  | registrationPickEmployee id | clarificationPickEmployee id | guidedAssigneeConfirm id
  | adminUserDetails id | adminUserPrepareDeactivate id | adminUserPrepareReactivate id =>
    exact hgroup (by decide) (by decide) (.cons (idText_free id) .nil)
  | adminUserPrepareRoleChange id role =>
    have hrole : Free ':' role.asCode := by cases role <;> decide
    exact hgroup (by decide) (by decide) (.cons (idText_free id) (.cons hrole .nil))
  | draftEdit field => cases field <;> decide
  | adminConfirmNonce text | adminToggleFeature text => exact hgroup (by decide) (by decide) (.cons h .nil)
  | _ => decide

theorem callbackFields_ne_nil (callback : TelegramCallback) : callbackFields callback ≠ [] := by
  cases callback <;> exact List.cons_ne_nil _ _

/-- **Splitting undoes writing.** -/
theorem splitFields_encode (h : Codable callback) :
    splitFields ':' (encodeCallback callback) = callbackFields callback :=
  splitFields_intercalate (callbackFields_free h) (callbackFields_ne_nil callback)

/-- A callback about a task, in one of its lists. -/
theorem parse_taskFields (hread : read.ReadsBack) (make : Uuid → TaskListOrigin → TelegramCallback)
    (uid : Uuid) (origin : TaskListOrigin) :
    (do
      let origin ← parseOriginCode (originCode origin)
      let uid ← read.uuid uid.toText
      some (make uid origin)) = some (make uid origin) := by
  rw [parse_originCode, hread.uuid]
  rfl

/-- A callback with an id. -/
theorem parse_idField (hread : read.ReadsBack) (make : Int → TelegramCallback) {id : Int} (hid : IsI64 id) :
    (do
      let id ← read.i64 (toString id)
      some (make id)) = some (make id) := by
  rw [hread.i64 id hid]
  rfl

/-- **The fields of a callback are read as this callback.** -/
theorem parseModernFields_callbackFields (hread : read.ReadsBack) (h : Codable callback) :
    parseModernFields read (callbackFields callback) = some callback := by
  cases callback with
  | listTasks origin cursor =>
    have hcursor : parseCursor (cursor.getD emptyCursor) = cursor := parse_cursor fun c hc => by
      rw [hc] at h
      exact h.2
    show (do
      let origin ← parseOriginCode (originCode origin)
      some (TelegramCallback.listTasks origin (parseCursor (cursor.getD emptyCursor)))) = _
    rw [parse_originCode, hcursor]
    rfl
  | openTask uid origin mode =>
    show (do
      let origin ← parseOriginCode (originCode origin)
      let uid ← read.uuid uid.toText
      let mode ← parseTaskCardMode (taskCardModeCode mode)
      some (TelegramCallback.openTask uid origin mode)) = _
    rw [parse_originCode, hread.uuid, parse_taskCardModeCode]
    rfl
  | updateTaskStatus uid next origin =>
    show (do
      let origin ← parseOriginCode (originCode origin)
      let uid ← read.uuid uid.toText
      let next ← parseTaskStatus (taskStatusCode next)
      some (TelegramCallback.updateTaskStatus uid next origin)) = _
    rw [parse_originCode, hread.uuid, parse_taskStatusCode]
    rfl
  | confirmTaskCancel uid origin => exact parse_taskFields hread .confirmTaskCancel uid origin
  | executeTaskCancel uid origin => exact parse_taskFields hread .executeTaskCancel uid origin
  | startTaskCommentInput uid origin => exact parse_taskFields hread .startTaskCommentInput uid origin
  | startTaskBlockerInput uid origin => exact parse_taskFields hread .startTaskBlockerInput uid origin
  | startTaskReassignInput uid origin => exact parse_taskFields hread .startTaskReassignInput uid origin
  | showDeliveryHelp uid origin => exact parse_taskFields hread .showDeliveryHelp uid origin
  | registrationPickEmployee id => exact parse_idField hread .registrationPickEmployee h
  | clarificationPickEmployee id => exact parse_idField hread .clarificationPickEmployee h
  | guidedAssigneeConfirm id => exact parse_idField hread .guidedAssigneeConfirm h
  | adminUserDetails id => exact parse_idField hread .adminUserDetails h
  | adminUserPrepareDeactivate id => exact parse_idField hread .adminUserPrepareDeactivate h
  | adminUserPrepareReactivate id => exact parse_idField hread .adminUserPrepareReactivate h
  | adminUserPrepareRoleChange id role =>
    show (do
      let id ← read.i64 (toString id)
      let role ← AdminRoleOption.fromCode role.asCode
      some (TelegramCallback.adminUserPrepareRoleChange id role)) = _
    rw [hread.i64 id h, fromCode_asCode]
    rfl
  | draftEdit field => cases field <;> rfl
  | _ => rfl

/-- The older format starts with a verb, the newer one with the letter of a group. -/
theorem parseLegacyFields_callbackFields (callback : TelegramCallback) :
    parseLegacyFields read (callbackFields callback) = none := by
  cases callback <;> rfl

end

/-! ## Reading what is displayed -/

def hexValue (c : Char) : Option Nat :=
  if '0' ≤ c ∧ c ≤ '9' then some (c.toNat - 48)
  else if 'a' ≤ c ∧ c ≤ 'f' then some (c.toNat - 87)
  else none

def readHexBytes : List Char → Option (List UInt8)
  | [] => some []
  | high :: low :: rest => do
      let high ← hexValue high
      let low ← hexValue low
      let bytes ← readHexBytes rest
      some (UInt8.ofNat (16 * high + low) :: bytes)
  | [_] => none

def readUuid (text : String) : Option Uuid :=
  match readHexBytes (text.toList.filter (· ≠ '-')) with
  | some bytes => if h : bytes.length = 16 then some ⟨⟨bytes.toArray, h⟩⟩ else none
  | none => none

def readDigits (digits : List Char) : Option Nat :=
  if digits ≠ [] ∧ digits.all Char.isDigit then some (Nat.ofDigitChars 10 digits 0) else none

def readNumber (text : String) : Option Int :=
  if text.toList.head? = some '-' then (readDigits text.toList.tail).map fun n : Nat => -(n : Int)
  else (readDigits text.toList).map Int.ofNat

/-- A reader of displayed identifiers. -/
def displayReader : IdReader := ⟨readUuid, readNumber⟩

theorem hexValue_hexDigit : ∀ n < 16, hexValue (hexDigit n) = some n := by decide

theorem readHexBytes_hexBytes (l : List UInt8) : readHexBytes (hexBytes l) = some l := by
  induction l with
  | nil => rfl
  | cons b l ih =>
    have hb := b.toNat_lt
    have hbyte : UInt8.ofNat (16 * (b.toNat / 16) + b.toNat % 16) = b := by
      rw [Nat.div_add_mod, UInt8.ofNat_toNat]
    show (do
      let high ← hexValue (hexDigit (b.toNat / 16))
      let low ← hexValue (hexDigit (b.toNat % 16))
      let bytes ← readHexBytes (hexBytes l)
      some (UInt8.ofNat (16 * high + low) :: bytes)) = _
    rw [hexValue_hexDigit _ (by omega), hexValue_hexDigit _ (by omega), ih]
    show some (UInt8.ofNat (16 * (b.toNat / 16) + b.toNat % 16) :: l) = _
    rw [hbyte]

theorem readUuid_toText (u : Uuid) : readUuid u.toText = some u := by
  have hread : readHexBytes (u.toText.toList.filter (· ≠ '-')) = some u.bytes.toList := by
    rw [Uuid.toText, String.toList_ofList, u.hyphenated_digits, readHexBytes_hexBytes]
  unfold readUuid
  rw [hread]
  simp only
  rw [dif_pos u.bytes.length_toList]
  have hsame : (⟨u.bytes.toList.toArray, u.bytes.length_toList⟩ : Vector UInt8 16) = u.bytes :=
    Vector.toList_inj.mp rfl
  rw [hsame]

theorem readDigits_toDigits (n : Nat) : readDigits (Nat.toDigits 10 n) = some n := by
  have hdigits : Nat.toDigits 10 n ≠ [] ∧ (Nat.toDigits 10 n).all Char.isDigit = true :=
    ⟨Nat.toDigits_ne_nil, List.all_eq_true.mpr fun _ hc => Nat.isDigit_of_mem_toDigits (by decide) (by decide) hc⟩
  unfold readDigits
  rw [if_pos hdigits, Nat.ofDigitChars_ten_toDigits]

theorem readNumber_toString (n : Int) : readNumber (toString n) = some n := by
  have htext : (toString n).toList = idText n := rfl
  unfold readNumber
  rw [htext, idText_eq]
  by_cases hn : 0 ≤ n
  · have hhead : (Nat.toDigits 10 n.toNat).head? ≠ some '-' := by
      intro hhead
      have hmem : '-' ∈ Nat.toDigits 10 n.toNat := List.mem_of_mem_head? hhead
      exact absurd (Nat.isDigit_of_mem_toDigits (by decide) (by decide) hmem) (by decide)
    rw [if_pos hn, if_neg hhead, readDigits_toDigits, Option.map_some, Int.ofNat_eq_natCast,
      Int.toNat_of_nonneg hn]
  · rw [if_neg hn, List.head?_cons, if_pos rfl, List.tail_cons, readDigits_toDigits, Option.map_some]
    congr
    omega

theorem displayReader_readsBack : displayReader.ReadsBack := by
  unfold displayReader
  exact ⟨readUuid_toText, fun n _ => readNumber_toString n⟩

/-! ## Top theorem -/

/-- **Every callback is read back.**  The older format does not get in the way, and no two callbacks have
one text. -/
theorem parse_encode (read : IdReader) (hread : read.ReadsBack) (callback : TelegramCallback)
    (h : Codable callback) :
    parseCallback read (encodeCallback callback) = some callback ∧
      parseLegacyCallback read (encodeCallback callback) = none ∧
        ∀ other, Codable other → encodeCallback other = encodeCallback callback → other = callback := by
  have hmodern : ∀ c, Codable c → parseCallbackModern read (encodeCallback c) = some c := by
    intro c hc
    unfold parseCallbackModern
    rw [splitFields_encode hc, parseModernFields_callbackFields hread hc]
  have hlegacy : parseLegacyCallback read (encodeCallback callback) = none := by
    unfold parseLegacyCallback
    rw [splitFields_encode h, parseLegacyFields_callbackFields]
  refine ⟨?_, hlegacy, fun other hother hsame => ?_⟩
  · unfold parseCallback
    rw [hlegacy, Option.none_or, hmodern callback h]
  · have hread' := hmodern other hother
    rw [hsame, hmodern callback h] at hread'
    exact (Option.some.inj hread').symm

theorem parse_encode_page : parseCallback displayReader (encodeCallback (.listTasks .team (some "next"))) =
    some (.listTasks .team (some "next")) :=
  (parse_encode displayReader displayReader_readsBack (.listTasks .team (some "next"))
    ⟨by decide, by decide⟩).1

end TaskBot
