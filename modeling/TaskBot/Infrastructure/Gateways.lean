import TaskBot.Infrastructure.CircuitBreaker
import TaskBot.UseCases.TaskCreation

/-!
# Clients of outer services

Gemini, the transcription service and the employee directory are each asked through a client with a
circuit breaker of its own.  The three requests go the same way (`Gateway.performRequest`): the breaker
is asked, the service answers, the breaker is told.

What the breaker is told is less than what happens.  A status of failure is recorded, a success too; a
request that got no answer, or one that cannot be read, returns before that.  So the breaker stops the
requests to a failing service if it fails with a status (`stops_calling`), and never for its other
failures (`transport_errors_go_on`).
-/

namespace TaskBot

open CircuitBreaker

/-! ## Requests -/

/-- What comes of a request that is sent: an error of the transport, or a status and the body, which may
not be the JSON the client reads. -/
inductive HttpReply (β : Type) where
  | failed (error : String)
  | answered (status : Nat) (json : Except String β)

/-- `StatusCode::is_success`. -/
def isSuccessStatus (status : Nat) : Bool := 200 ≤ status && status < 300

/-- What the clients differ in. -/
structure Gateway (β α : Type) where
  serviceName : String
  requestFailed : String → AppError
  httpStatus : Nat → AppError
  /-- The answer that a body with a status of success gives. -/
  read : Except String β → AppResult α

structure Request (β : Type) where
  sentAt : Instant
  answeredAt : Instant
  reply : HttpReply β

structure Performed (α : Type) where
  answer : AppResult α
  contacted : Bool
  breaker : CircuitBreaker

variable {β α : Type}

def Gateway.performRequest (g : Gateway β α) (b : CircuitBreaker) (r : Request β) : Performed α :=
  match b.ensureClosed g.serviceName r.sentAt with
  | .error e => ⟨.error e, false, b⟩
  | .ok () =>
      match r.reply with
      | .failed error => ⟨.error (g.requestFailed error), true, b⟩
      | .answered status json =>
          if isSuccessStatus status then
            match g.read json with
            | .error e => ⟨.error e, true, b⟩
            | .ok a => ⟨.ok a, true, b.recordSuccess⟩
          else ⟨.error (g.httpStatus status), true, b.recordFailure r.answeredAt⟩

/-! ### The three clients -/

/-- `GeminiTaskGenerator::perform_request`: of the body the texts of the parts of the candidates are read,
and the first one is decoded. -/
def gemini (model : String) (decode : String → Except String StructuredTaskDraft) :
    Gateway (List (List String)) GeneratedTask where
  serviceName := "gemini"
  requestFailed error := .network "GEMINI_REQUEST_FAILED" "Gemini request failed" [("error", .str error)]
  httpStatus status :=
    .network "GEMINI_HTTP_STATUS" "Gemini returned a non-success status code" [("status", .int status)]
  read
    | .error error =>
        .error (.network "GEMINI_RESPONSE_INVALID" "Gemini response is not valid JSON" [("error", .str error)])
    | .ok candidates => do
        let rawResponse ← okOrElse (candidates.head?.bind List.head?)
          (.network "GEMINI_RESPONSE_EMPTY" "Gemini response did not contain task JSON" [])
        let structuredTask ← (decode rawResponse).mapError fun error =>
          .schemaValidation "GEMINI_SCHEMA_INVALID" "Gemini response does not match the expected schema"
            [("error", .str error), ("raw_response", .str rawResponse)]
        structuredTask.validateBusinessRules
        pure ⟨structuredTask, model, rawResponse⟩

/-- `OpenAiTranscriptionClient::transcribe_bytes`. -/
def openAiTranscription : Gateway String String where
  serviceName := "openai_transcription"
  requestFailed error :=
    .network "OPENAI_TRANSCRIPTION_FAILED" "Failed to request transcription from OpenAI" [("error", .str error)]
  httpStatus status :=
    .network "OPENAI_TRANSCRIPTION_HTTP_STATUS" "OpenAI transcription API returned a non-success status"
      [("status", .int status)]
  read
    | .error error =>
        .error (.network "OPENAI_TRANSCRIPTION_RESPONSE_INVALID" "OpenAI transcription response is invalid"
          [("error", .str error)])
    | .ok text =>
        if (trim text).isEmpty then
          .error (.businessRule "TRANSCRIPTION_EMPTY" "Voice message could not be transcribed into text" [])
        else .ok (trim text)

/-- `GoogleSheetsEmployeeDirectory::fetch_rows`. -/
def googleSheets : Gateway (Option (List (List String))) (List (List String)) where
  serviceName := "google_sheets"
  requestFailed error :=
    .network "GOOGLE_SHEETS_REQUEST_FAILED" "Failed to request employees from Google Sheets" [("error", .str error)]
  httpStatus status :=
    .network "GOOGLE_SHEETS_HTTP_STATUS" "Google Sheets returned a non-success status code" [("status", .int status)]
  read
    | .error error =>
        .error (.network "GOOGLE_SHEETS_RESPONSE_INVALID" "Google Sheets response is invalid" [("error", .str error)])
    | .ok values => .ok (values.getD [])

namespace Gateway

variable (g : Gateway β α)

/-! ## Runs -/

/-- The breaker after the requests, one after the other. -/
def breakerAfter (requests : List (Request β)) : CircuitBreaker :=
  requests.foldl (fun b r => (g.performRequest b r).breaker) .new

/-- What became of each request. -/
def performed : CircuitBreaker → List (Request β) → List (Request β × Performed α)
  | _, [] => []
  | b, r :: rs => (r, g.performRequest b r) :: performed (g.performRequest b r).breaker rs

/-- The requests that the service was sent. -/
def sent (requests : List (Request β)) : List (Request β × Performed α) :=
  (g.performed .new requests).filter fun p => p.2.contacted

/-- When the unsuccessful requests since the last success ended. -/
def unsuccessfulInARow (requests : List (Request β)) : List Instant :=
  ((g.sent requests).rtakeWhile fun p => !p.2.answer.isOk).map fun p => p.1.answeredAt

/-- No request begins before the one before it has ended. -/
def Chronological (requests : List (Request β)) : Prop :=
  (∀ r ∈ requests, r.sentAt ≤ r.answeredAt) ∧ requests.IsChain fun r r' => r.answeredAt ≤ r'.sentAt

/-- After five unsuccessful requests in a row the next one within 60 seconds is refused; after fewer it is
sent. -/
def StopsCalling (requests : List (Request β)) : Prop :=
  ∀ next : Request β,
    (5 ≤ (g.unsuccessfulInARow requests).length →
      (∀ last, (g.unsuccessfulInARow requests).getLast? = some last → next.sentAt < last + 60 * 1000000000) →
      (g.performRequest (g.breakerAfter requests) next).contacted = false ∧
        (g.performRequest (g.breakerAfter requests) next).answer = .error (breakerOpen g.serviceName)) ∧
    ((g.unsuccessfulInARow requests).length < 5 →
      (g.performRequest (g.breakerAfter requests) next).contacted = true)

/-- The reply is a success, or a failure with a status. -/
def Counted : HttpReply β → Prop
  | .failed _ => False
  | .answered status json => isSuccessStatus status = true → (g.read json).isOk = true

/-! ## One request -/

/-- What can come of a request. -/
inductive Outcome (b : CircuitBreaker) (r : Request β) : Performed α → Prop where
  | refused (h : b.ensureClosed g.serviceName r.sentAt = .error (breakerOpen g.serviceName)) :
      Outcome b r ⟨.error (breakerOpen g.serviceName), false, b⟩
  | success (h : b.ensureClosed g.serviceName r.sentAt = .ok ()) (a : α) : Outcome b r ⟨.ok a, true, b.recordSuccess⟩
  | status (h : b.ensureClosed g.serviceName r.sentAt = .ok ()) (e : AppError) :
      Outcome b r ⟨.error e, true, b.recordFailure r.answeredAt⟩
  /-- The breaker is told nothing. -/
  | uncounted (h : b.ensureClosed g.serviceName r.sentAt = .ok ()) (hreply : ¬ g.Counted r.reply) (e : AppError) :
      Outcome b r ⟨.error e, true, b⟩

theorem outcome (b : CircuitBreaker) (r : Request β) : g.Outcome b r (g.performRequest b r) := by
  unfold performRequest
  cases hclosed : b.ensureClosed g.serviceName r.sentAt with
  | error e =>
    obtain rfl := ensureClosed_error hclosed
    exact .refused hclosed
  | ok u =>
    dsimp only
    cases hreply : r.reply with
    | failed error => exact .uncounted hclosed (by rw [hreply]; exact id) _
    | answered status json =>
      dsimp only
      split
      · next hstatus =>
        cases hread : g.read json with
        | error e =>
          refine .uncounted hclosed (fun hcounted => ?_) e
          rw [hreply] at hcounted
          have hok := hcounted hstatus
          rw [hread] at hok
          cases hok
        | ok a => exact .success hclosed a
      · exact .status hclosed _

/-! ## All requests -/

variable {g} {requests : List (Request β)} {r : Request β}

theorem performed_concat (b : CircuitBreaker) (requests : List (Request β)) (r : Request β) :
    g.performed b (requests ++ [r]) = g.performed b requests ++
      [(r, g.performRequest (requests.foldl (fun b r => (g.performRequest b r).breaker) b) r)] := by
  induction requests generalizing b with
  | nil => rfl
  | cons r' rs ih =>
    rw [List.cons_append, performed, performed, ih]
    rfl

theorem breakerAfter_concat : g.breakerAfter (requests ++ [r]) = (g.performRequest (g.breakerAfter requests) r).breaker :=
  List.foldl_concat _ _ _ _

theorem sent_concat : g.sent (requests ++ [r]) =
    if (g.performRequest (g.breakerAfter requests) r).contacted then
      g.sent requests ++ [(r, g.performRequest (g.breakerAfter requests) r)]
    else g.sent requests := by
  unfold sent
  rw [performed_concat, List.filter_append]
  show _ ++ [(r, g.performRequest (g.breakerAfter requests) r)].filter _ = _
  rw [List.filter_singleton]
  cases (g.performRequest (g.breakerAfter requests) r).contacted with
  | true => rfl
  | false => exact List.append_nil _

/-- What one more request does to the row of failures. -/
theorem unsuccessfulInARow_concat : g.unsuccessfulInARow (requests ++ [r]) =
    if (g.performRequest (g.breakerAfter requests) r).contacted then
      if (g.performRequest (g.breakerAfter requests) r).answer.isOk then []
      else g.unsuccessfulInARow requests ++ [r.answeredAt]
    else g.unsuccessfulInARow requests := by
  unfold unsuccessfulInARow
  rw [sent_concat]
  split
  · rw [List.rtakeWhile_concat]
    cases (g.performRequest (g.breakerAfter requests) r).answer.isOk with
    | true => rfl
    | false => exact List.map_append
  · rfl

/-- Every reply to a request that was sent is one the breaker is told of. -/
def AllCounted (g : Gateway β α) (requests : List (Request β)) : Prop := ∀ p ∈ g.sent requests, g.Counted p.1.reply

theorem performed_map_fst (b : CircuitBreaker) (requests : List (Request β)) :
    (g.performed b requests).map Prod.fst = requests := by
  induction requests generalizing b with
  | nil => rfl
  | cons r rs ih => exact congrArg (r :: ·) (ih _)

theorem allCounted_of_forall (h : ∀ r ∈ requests, g.Counted r.reply) : g.AllCounted requests := by
  intro p hp
  refine h p.1 ?_
  rw [← performed_map_fst (g := g) .new requests]
  exact List.mem_map_of_mem (List.mem_filter.mp hp).1

/-- **As long as the breaker is told of every failure, it knows the row of failures.** -/
theorem knowsFailures_after (h : g.AllCounted requests) :
    KnowsFailures (g.breakerAfter requests) (g.unsuccessfulInARow requests) := by
  induction requests using List.reverseRecOn with
  | nil => exact ⟨rfl, rfl⟩
  | append_singleton requests r ih =>
    have hsent : ∀ p ∈ g.sent requests, p ∈ g.sent (requests ++ [r]) := by
      intro p hp
      rw [sent_concat]
      split
      · exact List.mem_append_left _ hp
      · exact hp
    have hbefore := ih fun p hp => h p (hsent p hp)
    have hlast : (g.performRequest (g.breakerAfter requests) r).contacted = true → g.Counted r.reply := by
      intro hcontacted
      refine h (r, g.performRequest (g.breakerAfter requests) r) ?_
      rw [sent_concat, if_pos hcontacted]
      exact List.mem_append_right _ List.mem_cons_self
    have hone := g.outcome (g.breakerAfter requests) r
    rw [breakerAfter_concat, unsuccessfulInARow_concat]
    generalize g.performRequest (g.breakerAfter requests) r = p at hone hlast
    cases hone with
    | refused hopen => exact hbefore
    | success hclosed a => exact ⟨rfl, rfl⟩
    | status hclosed e => exact hbefore.recordFailure r.answeredAt
    | uncounted hclosed hreply e => exact absurd (hlast rfl) hreply

/-- **A service that fails with a status is left alone after five failures.** -/
theorem stops_calling (g : Gateway β α) (requests : List (Request β)) (h : g.AllCounted requests) :
    g.StopsCalling requests := by
  intro next
  have hknown := (knowsFailures_after h).ensureClosed g.serviceName next.sentAt
  have hone := g.outcome (g.breakerAfter requests) next
  generalize g.performRequest (g.breakerAfter requests) next = p at hone
  -- the breaker lets the request through exactly when it is not tripped
  have hthrough : (g.breakerAfter requests).ensureClosed g.serviceName next.sentAt = .ok () →
      ¬ Tripped (g.unsuccessfulInARow requests) next.sentAt := by
    intro hclosed htripped
    rw [hknown.mpr htripped] at hclosed
    cases hclosed
  constructor
  · intro henough hsoon
    have htripped : Tripped (g.unsuccessfulInARow requests) next.sentAt := by
      refine ⟨henough, ?_⟩
      cases hlast : (g.unsuccessfulInARow requests).getLast? with
      | none =>
        rw [List.getLast?_eq_none_iff.mp hlast] at henough
        cases henough
      | some last => exact ⟨last, rfl, hsoon last hlast⟩
    cases hone with
    | refused hopen => exact ⟨rfl, rfl⟩
    | success hclosed a => exact absurd htripped (hthrough hclosed)
    | status hclosed e => exact absurd htripped (hthrough hclosed)
    | uncounted hclosed hreply e => exact absurd htripped (hthrough hclosed)
  · intro hfew
    cases hone with
    | refused hopen => exact absurd (hknown.mp hopen).1 (Nat.not_le.mpr hfew)
    | success hclosed a => rfl
    | status hclosed e => rfl
    | uncounted hclosed hreply e => rfl

end Gateway

/-! ## Samples -/

/-- A request that is sent and answered within a moment. -/
def fromSecond (β : Type) (second : Int) (reply : HttpReply β) : Request β :=
  ⟨second * 1000000000, second * 1000000000, reply⟩

/-- Five replies, a second each. -/
def fiveOf (β : Type) (reply : HttpReply β) : List (Request β) := [0, 1, 2, 3, 4].map fun n => fromSecond β n reply

theorem sheets_left_alone : googleSheets.StopsCalling (fiveOf _ (.answered 503 (.error "no body"))) :=
  googleSheets.stops_calling _ (Gateway.allCounted_of_forall fun r hr => by
    obtain ⟨n, -, rfl⟩ := List.mem_map.mp hr
    exact fun hstatus => absurd hstatus (by decide))

theorem chronological_fiveOf (β : Type) (reply : HttpReply β) : Gateway.Chronological (fiveOf β reply) := by
  constructor
  · intro r hr
    obtain ⟨n, -, rfl⟩ := List.mem_map.mp hr
    exact Int.le_refl _
  · have htimes : [0, 1, 2, 3, 4].IsChain fun n m : Int => n * 1000000000 ≤ m * 1000000000 := by decide
    exact List.isChain_map_of_isChain (fun n => fromSecond β n reply) (fun _ _ h => h) htimes

/-- A service that does not answer is asked on. -/
theorem unanswered_is_asked (g : Gateway β α) : ¬ g.StopsCalling (fiveOf β (.failed "timeout")) := by
  intro h
  have hbreaker : g.breakerAfter (fiveOf β (.failed "timeout")) = .new := rfl
  have hrow : g.unsuccessfulInARow (fiveOf β (.failed "timeout")) =
      [0, 1, 2, 3, 4].map fun n : Int => n * 1000000000 := rfl
  have hnext := (h (fromSecond β 5 (.failed "timeout"))).1
  rw [hbreaker, hrow] at hnext
  have hsoon : ∀ last, ([0, 1, 2, 3, 4].map fun n : Int => n * 1000000000).getLast? = some last →
      (5 : Int) * 1000000000 < last + 60 * 1000000000 := by
    intro last hlast
    cases hlast
    decide
  exact Bool.false_ne_true ((hnext (by decide) hsoon).1.symm.trans rfl)

theorem transport_errors_go_on :
    (¬ ∀ requests, Gateway.Chronological requests →
        (gemini "gemini-2.5-flash" fun _ => .error "expected value").StopsCalling requests) ∧
      (¬ ∀ requests, Gateway.Chronological requests → openAiTranscription.StopsCalling requests) ∧
      ¬ ∀ requests, Gateway.Chronological requests → googleSheets.StopsCalling requests :=
  ⟨fun h => unanswered_is_asked _ (h _ (chronological_fiveOf _ _)),
    fun h => unanswered_is_asked _ (h _ (chronological_fiveOf _ _)),
    fun h => unanswered_is_asked _ (h _ (chronological_fiveOf _ _))⟩

end TaskBot
