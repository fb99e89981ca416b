import TaskBot.Presentation.Keyboards

/-!
# The length of callback data

What a button carries lies in the range of its type (`InRange`), and the text of a
callback in range is measured field by field.
-/

namespace TaskBot

open Fields

/-! ## The ranges of the arguments -/

def InRange : TelegramCallback → Prop
  | .listTasks _ cursor => ∀ c, cursor = some c → ∃ uid : Uuid, c = uid.toText
  | .updateTaskStatus _ next _ => ∃ action, actionToStatus action = some next
  | .registrationPickEmployee id | .clarificationPickEmployee id | .guidedAssigneeConfirm id => IsI64 id
  | .adminUserDetails id | .adminUserPrepareRoleChange id _ => IsI64 id
  | .adminUserPrepareDeactivate id | .adminUserPrepareReactivate id => IsI64 id
  | .adminConfirmNonce nonce => ∃ uid : Uuid, nonce = uid.simple
  | .adminToggleFeature key => ∃ flag : FeatureFlag, key = flag.asKey
  | _ => True

/-- Every button of the rows is in range. -/
def RowsInRange (rows : List (List TelegramCallback)) : Prop := ∀ row ∈ rows, ∀ cb ∈ row, InRange cb

namespace RowsInRange

theorem append {rows rows' : List (List TelegramCallback)} (h : RowsInRange rows)
    (h' : RowsInRange rows') : RowsInRange (rows ++ rows') := by
  intro row hrow
  rcases List.mem_append.mp hrow with hrow | hrow
  · exact h row hrow
  · exact h' row hrow

theorem guard {c : Prop} [Decidable c] {rows rows' : List (List TelegramCallback)}
    (h : RowsInRange rows) (h' : RowsInRange rows') : RowsInRange (if c then rows else rows') := by
  split
  · exact h
  · exact h'

theorem nil : RowsInRange [] := fun _ h => nomatch h

theorem single {cb : TelegramCallback} (h : InRange cb) : RowsInRange [[cb]] := by
  intro row hrow d hd
  rw [List.mem_singleton.mp hrow] at hd
  rw [List.mem_singleton.mp hd]
  exact h

theorem candidateRows {candidates : List EmployeeCandidateView} {pick : Int → TelegramCallback}
    (hc : ∀ c ∈ candidates, ∀ id, c.employeeId = some id → IsI64 id)
    (hpick : ∀ id, IsI64 id → InRange (pick id)) : RowsInRange (TaskBot.candidateRows candidates pick) := by
  intro row hrow cb hcb
  obtain ⟨c, hmem, hsome⟩ := List.mem_filterMap.mp hrow
  obtain ⟨id, hid, rfl⟩ := Option.map_eq_some_iff.mp hsome
  rw [List.mem_singleton.mp hcb]
  exact hpick id (hc c hmem id hid)

end RowsInRange

theorem actionButton_inRange (action : TaskActionView) (details : TaskStatusDetails)
    (origin : TaskListOrigin) : InRange (actionButton action details origin) := by
  have hstatus : ∀ a h, InRange (actionButton.statusButton details origin a h) := fun a h =>
    ⟨a, (Option.some_get h).symm⟩
  cases action
  case startProgress => exact hstatus _ _
  case submitForReview => exact hstatus _ _
  case approveReview => exact hstatus _ _
  case returnToWork => exact hstatus _ _
  all_goals trivial

/-- What a task card is made of. -/
theorem taskDetailKeyboard_all {P : TelegramCallback → Prop} {details : TaskStatusDetails}
    {origin : TaskListOrigin} (mode : TaskCardMode) (haction : ∀ action, P (actionButton action details origin))
    (hhelp : P (.showDeliveryHelp details.taskUid origin))
    (hopen : ∀ mode, P (.openTask details.taskUid origin mode)) (hback : P (backCallback origin))
    (hhome : P .menuHome) : ∀ row ∈ taskDetailKeyboard details origin mode, ∀ cb ∈ row, P cb := by
  have hbuttons : ∀ (actions : List TaskActionView), ∀ cb ∈ actions.map (fun action =>
      actionButton action details origin), P cb := by
    intro actions cb hcb
    obtain ⟨action, -, rfl⟩ := List.mem_map.mp hcb
    exact haction action
  have hsingle : ∀ {cb}, P cb → ∀ row ∈ [[cb]], ∀ cb' ∈ row, P cb' := fun h =>
    List.forall_mem_singleton.mpr (List.forall_mem_singleton.mpr h)
  have hsecondary : ∀ row ∈ chunks2 ((secondaryActions details).map fun action =>
      actionButton action details origin), ∀ cb ∈ row, P cb := by
    intro row hrow cb hcb
    refine hbuttons (secondaryActions details) cb ?_
    rw [← flatten_chunks2 ((secondaryActions details).map _)]
    exact List.mem_flatten.mpr ⟨row, hrow, hcb⟩
  have htoggle : P (taskViewToggleButton details origin mode) := by
    cases mode with
    | compact => exact hopen .expanded
    | expanded => exact hopen .compact
  refine List.forall_mem_append.mpr ⟨List.forall_mem_append.mpr ⟨List.forall_mem_append.mpr
    ⟨List.forall_mem_append.mpr ⟨?_, hsecondary⟩, ?_⟩, ?_⟩, ?_⟩
  · split
    · exact hsingle (haction _)
    · exact List.forall_mem_nil _
  · split
    · exact List.forall_mem_nil _
    · exact List.forall_mem_singleton.mpr (hbuttons (dangerousActions details))
  · split
    · exact hsingle hhelp
    · exact List.forall_mem_nil _
  · exact List.forall_mem_cons.mpr ⟨List.forall_mem_singleton.mpr htoggle,
      List.forall_mem_cons.mpr ⟨List.forall_mem_singleton.mpr hback, hsingle hhome⟩⟩

theorem taskDetailKeyboard_inRange (details : TaskStatusDetails) (origin : TaskListOrigin)
    (mode : TaskCardMode) : RowsInRange (taskDetailKeyboard details origin mode) := by
  refine taskDetailKeyboard_all mode (fun action => actionButton_inRange action details origin) trivial
    (fun _ => trivial) ?_ trivial
  intro cursor hcursor
  cases hcursor

theorem taskListKeyboard_inRange {origin : TaskListOrigin} {page : TaskListPage}
    (h : ∀ cursor, page.nextCursor = some cursor → ∃ uid : Uuid, cursor = uid.toText) :
    RowsInRange (taskListKeyboard origin page) := by
  refine .append (.append ?_ ?_) (.single trivial)
  · intro row hrow cb hcb
    obtain ⟨task, -, rfl⟩ := List.mem_map.mp hrow
    rw [List.mem_singleton.mp hcb]
    trivial
  · split
    · next cursor hcursor =>
      refine .single ?_
      intro c hc
      cases hc
      exact h cursor hcursor
    · exact .nil

theorem adminUsersKeyboard_inRange {users : List User}
    (h : ∀ u ∈ users, ∀ id, u.id = some id → IsI64 id) : RowsInRange (adminUsersKeyboard users) := by
  refine .append ?_ (by simp [RowsInRange, InRange])
  intro row hrow cb hcb
  obtain ⟨u, hu, hsome⟩ := List.mem_filterMap.mp hrow
  obtain ⟨id, hid, rfl⟩ := Option.map_eq_some_iff.mp hsome
  rw [List.mem_singleton.mp hcb]
  exact h u hu id hid

theorem roleRow_inRange {target : User} {userId : Int} (h : IsI64 userId) :
    ∀ cb ∈ roleRow target userId, InRange cb := by
  intro cb hcb
  obtain ⟨role, -, hsome⟩ := List.mem_filterMap.mp hcb
  split at hsome
  · cases hsome
  · cases hsome
    exact h

theorem adminUserDetailsKeyboard_inRange {target : User} (h : ∀ id, target.id = some id → IsI64 id) :
    RowsInRange (adminUserDetailsKeyboard target) := by
  unfold adminUserDetailsKeyboard
  split
  · exact .single trivial
  · next userId hid =>
    have hrole : RowsInRange [roleRow target userId] := by
      intro row hrow cb hcb
      rw [List.mem_singleton.mp hrow] at hcb
      exact roleRow_inRange (h userId hid) cb hcb
    have hactive : ∀ {cb : TelegramCallback}, InRange cb = IsI64 userId → RowsInRange [[cb]] :=
      fun hcb => .single (hcb ▸ h userId hid)
    refine .append (.append (.guard .nil hrole) (.guard (hactive rfl) (hactive rfl))) ?_
    simp [RowsInRange, InRange]

theorem adminFeaturesKeyboard_inRange (flags : List (FeatureFlag × Bool)) :
    RowsInRange (adminFeaturesKeyboard flags) := by
  refine .append ?_ (by simp [RowsInRange, InRange])
  intro row hrow cb hcb
  obtain ⟨flag, -, rfl⟩ := List.mem_map.mp hrow
  rw [List.mem_singleton.mp hcb]
  exact ⟨flag.1, rfl⟩

theorem mainMenuKeyboard_inRange (actor : User) : RowsInRange (mainMenuKeyboard actor) := by
  refine .append (.append (.append ?_ (.guard ?_ .nil)) ?_) (.guard (.single trivial) .nil)
  all_goals simp [RowsInRange, listCallback, InRange]

/-- The keyboards hand only values in range to `encode_callback`. -/
theorem Keyboard.rows_inRange {k : Keyboard} (h : k.Valid) : RowsInRange k.rows := by
  cases k
  case mainMenu actor => exact mainMenuKeyboard_inRange actor
  case guidedAssigneeSuggestions candidates =>
    exact .append (.candidateRows h fun _ hid => hid) (by simp [RowsInRange, InRange])
  case clarification request =>
    refine .append (.append (.candidateRows h fun _ hid => hid) (.guard (.single trivial) .nil)) ?_
    simp [RowsInRange, InRange]
  case registrationLink candidates allow =>
    exact .append (.candidateRows h fun _ hid => hid) (.guard (.single trivial) .nil)
  case outcome o => cases o <;> simp [RowsInRange, rows, outcomeKeyboard, InRange]
  case createdTaskFollowup summary allow =>
    refine .append (.append (.single trivial) (.guard (.single trivial) .nil)) ?_
    simp [RowsInRange, InRange]
  case taskList origin page => exact taskListKeyboard_inRange h
  case taskDetail details origin mode => exact taskDetailKeyboard_inRange details origin mode
  case adminUsers users => exact adminUsersKeyboard_inRange h
  case adminUserDetails target => exact adminUserDetailsKeyboard_inRange h
  case adminConfirmation nonce =>
    have hnonce : InRange (.adminConfirmNonce nonce) := h
    simp [RowsInRange, rows, adminConfirmationKeyboard, hnonce]
    simp [InRange]
  case adminFeatures flags => exact adminFeaturesKeyboard_inRange flags
  all_goals simp [RowsInRange, rows, createMenuKeyboard, quickCaptureKeyboard, guidedAssigneeKeyboard,
    guidedDeadlineKeyboard, guidedConfirmationKeyboard, voiceConfirmationKeyboard, voiceEditKeyboard,
    adminMenuKeyboard, adminBackKeyboard, cancelConfirmationKeyboard, deliveryHelpKeyboard, InRange]

theorem Buildable.inRange {cb : TelegramCallback} (h : Buildable cb) : InRange cb := by
  obtain ⟨k, hk, row, hrow, hcb⟩ := h
  exact k.rows_inRange hk row hrow cb hcb

/-! ## Measuring -/

/-- The bytes of the data: those of the fields and a colon before each but the first. -/
theorem encodeCallback_byteSize {cb : TelegramCallback} {s : String} {l : List String}
    (h : callbackFields cb = s :: l) :
    (encodeCallback cb).utf8ByteSize =
      s.utf8ByteSize + (l.map fun t => 1 + t.utf8ByteSize).sum := by
  rw [encodeCallback, h]
  clear h
  induction l generalizing s with
  | nil => rw [byteSize_intercalate_singleton]; rfl
  | cons t l ih =>
    have hcolon : (":" : String).utf8ByteSize = 1 := by decide
    rw [byteSize_intercalate_cons, ih, hcolon, List.map_cons, List.sum_cons]
    omega

theorem taskFields_byteSize {cb : TelegramCallback} {group verb : String} {origin : TaskListOrigin}
    {uid : Uuid} {rest : List String}
    (h : callbackFields cb = group :: verb :: originCode origin :: uid.toText :: rest) :
    (encodeCallback cb).utf8ByteSize = group.utf8ByteSize + verb.utf8ByteSize +
      (originCode origin).utf8ByteSize + 39 + (rest.map fun t => 1 + t.utf8ByteSize).sum := by
  rw [encodeCallback_byteSize h]
  simp only [List.map_cons, List.sum_cons, Uuid.toText_byteSize]
  omega

theorem argument_byteSize {cb : TelegramCallback} {group verb arg : String} {rest : List String}
    (h : callbackFields cb = group :: verb :: arg :: rest) :
    (encodeCallback cb).utf8ByteSize = group.utf8ByteSize + verb.utf8ByteSize + 2 + arg.utf8ByteSize +
      (rest.map fun t => 1 + t.utf8ByteSize).sum := by
  rw [encodeCallback_byteSize h]
  simp only [List.map_cons, List.sum_cons]
  omega

/-- An id has at most 20 bytes; the verb and what follows the id leave room for them. -/
theorem id_fits {cb : TelegramCallback} {group verb : String} {id : Int} {rest : List String}
    (h : callbackFields cb = group :: verb :: toString id :: rest) (hid : IsI64 id)
    (hroom : group.utf8ByteSize + verb.utf8ByteSize + (rest.map fun t => 1 + t.utf8ByteSize).sum ≤ 42) :
    (encodeCallback cb).utf8ByteSize ≤ 64 := by
  have hsize := idText_byteSize_le hid
  rw [argument_byteSize h]
  omega

theorem listTasks_fits {origin : TaskListOrigin} {cursor : Option String}
    (h : InRange (.listTasks origin cursor)) :
    (encodeCallback (.listTasks origin cursor)).utf8ByteSize ≤ 64 := by
  have hcursor : (cursor.getD emptyCursor).utf8ByteSize ≤ 36 := by
    cases cursor with
    | none => decide
    | some c =>
      obtain ⟨uid, rfl⟩ := h c rfl
      exact Nat.le_of_eq uid.toText_byteSize
  have hfield : callbackGroupList.utf8ByteSize + (originCode origin).utf8ByteSize ≤ 14 := by
    cases origin <;> decide
  rw [argument_byteSize rfl]
  show callbackGroupList.utf8ByteSize + (originCode origin).utf8ByteSize + 2 +
    (cursor.getD emptyCursor).utf8ByteSize + 0 ≤ 64
  omega

/-! ## The limit -/

/-- The callbacks whose data Telegram accepts. -/
def ShortEnough : TelegramCallback → Prop
  | .openTask _ origin _ | .confirmTaskCancel _ origin | .executeTaskCancel _ origin
  | .showDeliveryHelp _ origin => origin ≠ .managerInbox
  | .updateTaskStatus _ next origin =>
    origin ≠ .managerInbox ∧ (next = .inProgress → origin ≠ .assigned ∧ origin ≠ .created)
  | _ => True

/-- `callback_data` is short enough exactly for these callbacks. -/
theorem callback_data_fits_iff (callback : TelegramCallback) (h : Buildable callback) :
    (encodeCallback callback).utf8ByteSize ≤ 64 ↔ ShortEnough callback := by
  have hrange := h.inRange
  have hfits : ∀ {n : Nat}, n ≤ 64 → (n ≤ 64 ↔ True) := fun hn => iff_true_intro hn
  cases callback
  case openTask uid origin mode =>
    rw [taskFields_byteSize rfl]
    show _ ↔ origin ≠ .managerInbox
    cases origin <;> cases mode <;> decide
  case updateTaskStatus uid next origin =>
    obtain ⟨action, haction⟩ := hrange
    rw [taskFields_byteSize rfl]
    show _ ↔ origin ≠ .managerInbox ∧ (next = .inProgress → origin ≠ .assigned ∧ origin ≠ .created)
    cases action <;> cases haction <;> cases origin <;> decide
  case confirmTaskCancel uid origin =>
    rw [taskFields_byteSize rfl]
    show _ ↔ origin ≠ .managerInbox
    cases origin <;> decide
  case executeTaskCancel uid origin =>
    rw [taskFields_byteSize rfl]
    show _ ↔ origin ≠ .managerInbox
    cases origin <;> decide
  case showDeliveryHelp uid origin =>
    rw [taskFields_byteSize rfl]
    show _ ↔ origin ≠ .managerInbox
    cases origin <;> decide
  case startTaskCommentInput uid origin =>
    rw [taskFields_byteSize rfl]
    exact hfits (by cases origin <;> decide)
  case startTaskBlockerInput uid origin =>
    rw [taskFields_byteSize rfl]
    exact hfits (by cases origin <;> decide)
  case startTaskReassignInput uid origin =>
    rw [taskFields_byteSize rfl]
    exact hfits (by cases origin <;> decide)
  case listTasks origin cursor => exact hfits (listTasks_fits hrange)
  case registrationPickEmployee id => exact hfits (id_fits rfl hrange (by decide))
  case clarificationPickEmployee id => exact hfits (id_fits rfl hrange (by decide))
  case guidedAssigneeConfirm id => exact hfits (id_fits rfl hrange (by decide))
  case adminUserDetails id => exact hfits (id_fits rfl hrange (by decide))
  case adminUserPrepareRoleChange id role =>
    exact hfits (id_fits rfl hrange (by cases role <;> decide))
  case adminUserPrepareDeactivate id => exact hfits (id_fits rfl hrange (by decide))
  case adminUserPrepareReactivate id => exact hfits (id_fits rfl hrange (by decide))
  case adminConfirmNonce nonce =>
    obtain ⟨uid, rfl⟩ := hrange
    refine hfits ?_
    rw [argument_byteSize rfl, uid.simple_byteSize]
    decide
  case adminToggleFeature key =>
    obtain ⟨flag, rfl⟩ := hrange
    refine hfits ?_
    rw [argument_byteSize rfl]
    cases flag <;> decide
  case draftEdit field => exact hfits (by cases field <;> decide)
  all_goals exact hfits (by decide)

/-- A task sent to its assignee, with the actions `available_actions` offers there. -/
def sentTaskDetails : TaskStatusDetails where
  taskUid := ⟨.replicate 16 0⟩
  publicCode := "T-0001"
  title := "Отчёт"
  status := .sent
  deadline := none
  expectedResult := "Отчёт готов"
  descriptionLines := ["Отчёт"]
  acceptanceCriteria := []
  historyEntries := []
  assigneeDisplay := some "Анна Петрова"
  deliveryStatus := some .deliveredToAssignee
  blockedReason := none
  comments := []
  availableActions := [.startProgress, .submitForReview, .reportBlocker, .cancel, .addComment]

theorem sentTask_button {cb : TelegramCallback} (origin : TaskListOrigin)
    (h : cb = .updateTaskStatus sentTaskDetails.taskUid .inProgress origin ∨
      cb = .updateTaskStatus sentTaskDetails.taskUid .inReview origin) : Buildable cb := by
  refine ⟨.taskDetail sentTaskDetails origin .compact, trivial, ?_⟩
  rcases h with rfl | rfl
  · exact ⟨_, .head _, .head _⟩
  · exact ⟨_, .tail _ (.head _), .head _⟩

/-- In review there are 64 bytes. -/
theorem callback_data_fits_in_review :
    (encodeCallback (.updateTaskStatus sentTaskDetails.taskUid .inReview .assigned)).utf8ByteSize ≤ 64 :=
  (callback_data_fits_iff _ (sentTask_button .assigned (.inr rfl))).mpr ⟨by decide, nofun⟩

/-- The first button of the card of a new task in "my tasks" has 66 bytes. -/
theorem start_progress_too_long :
    ¬ ∀ callback, Buildable callback → (encodeCallback callback).utf8ByteSize ≤ 64 := by
  intro h
  have hshort := h _ (sentTask_button .assigned (.inl rfl))
  rw [taskFields_byteSize rfl] at hshort
  exact absurd hshort (by decide)

end TaskBot
