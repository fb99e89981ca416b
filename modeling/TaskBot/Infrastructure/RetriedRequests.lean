import TaskBot.Infrastructure.Gateways

/-!
# Retries behind a circuit breaker

A client asks its service up to three times for one answer, and sleeps for longer each time.  Each attempt
asks the breaker first, and the retries and the breaker do not know of each other.

* `retryLoop_cases`: when an attempt is the last one;
* `sent_spaced`: what a service that answers with a status of failure only is sent, whoever asks;
* `outage_budget`: so however often a client fetches, and retries, such a service gets five requests, and
  then at most one every 60 seconds.
-/

namespace TaskBot

open CircuitBreaker

/-! ## The loop -/

/-- `should_retry`. -/
def AppError.shouldRetry (e : AppError) : Bool :=
  match e.kind with
  | .network | .timeout | .internal => true
  | _ => false

def maxExternalRetryAttempts : Nat := 3

def retryStateInvalid : AppError :=
  .internal "RETRY_STATE_INVALID" "Retry loop finished without preserving the last error" []

section

variable {σ α : Type} (operation : σ → AppResult α × σ) (sleep : Nat → σ → σ)

/-- The loop of `retry_with_backoff` with the attempts that are left; the delay is in milliseconds. -/
def retryLoop : Nat → Nat → Option AppError → σ → AppResult α × σ
  | 0, _, lastError, s => (.error (lastError.getD retryStateInvalid), s)
  | left + 1, delay, _, s =>
      match operation s with
      | (.ok value, s') => (.ok value, s')
      | (.error error, s') =>
          if error.shouldRetry ∧ 0 < left then retryLoop left (2 * delay) (some error) (sleep delay s')
          else (.error error, s')

def retryWithBackoff (s : σ) : AppResult α × σ := retryLoop operation sleep maxExternalRetryAttempts 250 none s

variable {operation sleep}

/-- **The loop rule.**  What attempts and sleeps keep holds before the last attempt, whose answer is the answer
of the loop. -/
theorem retryLoop_keeps {I : σ → Prop} {R : AppResult α × σ → Prop} (hasked : ∀ s, I s → I (operation s).2)
    (hslept : ∀ delay s, I s → I (sleep delay s)) (hlast : ∀ s, I s → R (operation s)) (left : Nat) :
    ∀ delay lastError s, I s → R (retryLoop operation sleep (left + 1) delay lastError s) := by
  induction left with
  | zero =>
    intro delay lastError s h
    have hone := hlast s h
    cases hop : operation s with
    | mk answer s' =>
      rw [hop] at hone
      simp only [retryLoop, hop, Nat.lt_irrefl, and_false, if_false]
      cases answer <;> exact hone
  | succ left ih =>
    intro delay lastError s h
    have hone := hlast s h
    have hkept := hasked s h
    cases hop : operation s with
    | mk answer s' =>
      rw [hop] at hone hkept
      rw [retryLoop, hop]
      cases answer with
      | ok value => exact hone
      | error e =>
        by_cases hretry : e.shouldRetry = true ∧ 0 < left + 1
        · simp only [if_pos hretry]
          exact ih _ _ _ (hslept _ _ hkept)
        · simp only [if_neg hretry]
          exact hone

end

/-! ## What a failing service is sent -/

namespace Gateway

variable {β α : Type} {g : Gateway β α} {requests : List (Request β)}

/-- The service answers with a status that is no success. -/
def FailsWithStatus : HttpReply β → Prop
  | .failed _ => False
  | .answered status _ => isSuccessStatus status = false

theorem counted_of_fails {reply : HttpReply β} (h : FailsWithStatus reply) : g.Counted reply := by
  cases reply with
  | failed error => exact absurd h id
  | answered status json => exact fun hstatus => absurd (hstatus.symm.trans h) Bool.true_eq_false.mp

/-- One request to a failing service is refused or fails. -/
theorem fails (b : CircuitBreaker) {r : Request β} (h : FailsWithStatus r.reply) :
    (g.performRequest b r).answer.isOk = false := by
  unfold performRequest
  cases b.ensureClosed g.serviceName r.sentAt with
  | error e => rfl
  | ok u =>
    dsimp only
    cases hreply : r.reply with
    | failed error => rfl
    | answered status json =>
      rw [hreply] at h
      simp only [show isSuccessStatus status = false from h]
      rfl

/-- In an outage the row of failures is all that was sent. -/
theorem unsuccessful_eq_sent (h : ∀ r ∈ requests, FailsWithStatus r.reply) :
    g.unsuccessfulInARow requests = (g.sent requests).map fun p => p.1.answeredAt := by
  induction requests using List.reverseRecOn with
  | nil => rfl
  | append_singleton requests r ih =>
    have hbefore := ih fun r' hr' => h r' (List.mem_append_left _ hr')
    have hfails := fails (g := g) (g.breakerAfter requests) (h r (List.mem_append_right _ List.mem_cons_self))
    rw [unsuccessfulInARow_concat, sent_concat, hbefore, hfails]
    split
    · rw [if_neg Bool.false_ne_true, List.map_append]
      rfl
    · rfl

/-- A request is sent if the breaker lets it through. -/
theorem closed_of_contacted {b : CircuitBreaker} {r : Request β} (h : (g.performRequest b r).contacted = true) :
    b.ensureClosed g.serviceName r.sentAt = .ok () := by
  unfold performRequest at h
  cases hclosed : b.ensureClosed g.serviceName r.sentAt with
  | ok u => rfl
  | error e =>
    rw [hclosed] at h
    cases h

/-- The later of two requests is sent 60 seconds after the earlier one has failed. -/
def MinuteApart (p p' : Request β × Performed α) : Prop :=
  openUntil p.1.answeredAt ≤ p'.1.sentAt

/-- **What a failing service is sent**, whoever asks and when: from the fifth request on, one in 60 seconds. -/
theorem sent_spaced (h : ∀ r ∈ requests, FailsWithStatus r.reply) :
    ((g.sent requests).drop 4).IsChain MinuteApart := by
  induction requests using List.reverseRecOn with
  | nil => exact .nil
  | append_singleton requests r ih =>
    have hfails : ∀ r' ∈ requests, FailsWithStatus r'.reply := fun r' hr' => h r' (List.mem_append_left _ hr')
    have hbefore := ih hfails
    rw [sent_concat]
    split
    · next hcontacted =>
      rw [List.drop_append]
      by_cases hfew : (g.sent requests).length < 4
      · have hnone : [(r, g.performRequest (g.breakerAfter requests) r)].drop (4 - (g.sent requests).length) = [] :=
          List.drop_eq_nil_of_le (by simp; omega)
        rw [hnone, List.append_nil]
        exact hbefore
      · have hall : 4 - (g.sent requests).length = 0 := by omega
        rw [hall, List.drop_zero]
        refine List.isChain_append.mpr ⟨hbefore, .singleton _, fun p hp p' hp' => ?_⟩
        obtain rfl : (r, g.performRequest (g.breakerAfter requests) r) = p' := by simpa using hp'
        -- the breaker knows all that was sent
        have hknown := (knowsFailures_after (allCounted_of_forall (g := g) fun r' hr' =>
          counted_of_fails (hfails r' hr'))).ensureClosed g.serviceName r.sentAt
        rw [unsuccessful_eq_sent hfails, closed_of_contacted hcontacted] at hknown
        have hnot : ¬ Tripped ((g.sent requests).map fun p => p.1.answeredAt) r.sentAt :=
          fun htripped => nomatch hknown.mpr htripped
        rw [List.getLast?_drop] at hp
        split at hp
        · cases hp
        · next hmany =>
          refine Int.not_lt.mp fun hsoon => hnot ⟨?_, p.1.answeredAt, ?_, hsoon⟩
          · rw [List.length_map]
            exact Nat.lt_of_not_le hmany
          · rw [List.getLast?_map, Option.mem_def.mp hp]
            rfl
    · exact hbefore

/-- Requests that are 60 seconds apart take their time. -/
theorem time_of_spaced {sent : List (Request β × Performed α)} (h : sent.IsChain MinuteApart)
    (horder : ∀ p ∈ sent, p.1.sentAt ≤ p.1.answeredAt) {finish : Int} (hfinish : ∀ p ∈ sent, p.1.answeredAt ≤ finish) :
    ∀ start : Int, (∀ p ∈ sent.head?, start ≤ p.1.sentAt) → sent ≠ [] →
      start + ((sent.length : Int) - 1) * 60000000000 ≤ finish := by
  have hstep : ∀ start sentAt answeredAt finish n : Int, start ≤ sentAt → sentAt ≤ answeredAt →
      answeredAt + 60 * 1000000000 + (n - 1) * 60000000000 ≤ finish → start + (n + 1 - 1) * 60000000000 ≤ finish := by
    omega
  induction sent with
  | nil => exact fun _ _ hne => absurd rfl hne
  | cons p sent ih =>
    intro start hstart _
    have hp : start ≤ p.1.sentAt := hstart p rfl
    have hanswered := horder p List.mem_cons_self
    cases sent with
    | nil =>
      have hend := hfinish p List.mem_cons_self
      have hone : ∀ a b c d : Int, a ≤ b → b ≤ c → c ≤ d → a + (((0 + 1 : Nat) : Int) - 1) * 60000000000 ≤ d := by
        omega
      exact hone _ _ _ _ hp hanswered hend
    | cons q rest =>
      obtain ⟨happart, hrest⟩ := List.isChain_cons_cons.mp h
      have htail := ih hrest (fun a ha => horder a (List.mem_cons_of_mem p ha))
        (fun a ha => hfinish a (List.mem_cons_of_mem p ha)) (openUntil p.1.answeredAt)
        (fun a ha => by
          obtain rfl : q = a := by simpa using ha
          exact happart) (by simp)
      exact hstep start p.1.sentAt p.1.answeredAt finish _ hp hanswered htail

end Gateway

/-! ## A client over time -/

/-- A client: the time on its clock, its breaker, and the requests it has tried. -/
structure ServiceClient (β : Type) where
  now : Instant
  breaker : CircuitBreaker
  requests : List (Request β)

namespace ServiceClient

open Gateway

variable {β α : Type}

section

variable (g : Gateway β α) (service : Nat → Int × HttpReply β)

/-- One attempt; `service` tells how long the n-th request takes and what comes of it. -/
def attempt (c : ServiceClient β) : AppResult α × ServiceClient β :=
  let r : Request β :=
    { sentAt := c.now
      answeredAt := c.now + (service c.requests.length).1
      reply := (service c.requests.length).2 }
  let p := g.performRequest c.breaker r
  (p.answer, ⟨r.answeredAt, p.breaker, c.requests ++ [r]⟩)

/-- `sleep(delay)`. -/
def sleep (delay : Nat) (c : ServiceClient β) : ServiceClient β := { c with now := c.now + (delay : Int) * 1000000 }

/-- What a caller gets: `retry_with_backoff(|| self.perform_request(…))`. -/
def fetch (c : ServiceClient β) : AppResult α × ServiceClient β := retryWithBackoff (attempt g service) sleep c

/-- Nobody asks for so long, and then somebody does. -/
def life (c : ServiceClient β) (idle : List Nat) : ServiceClient β :=
  idle.foldl (fun c pause => (fetch g service { c with now := c.now + (pause : Int) }).2) c

/-- A client that was started at the time. -/
def started (now : Instant) : ServiceClient β := ⟨now, .new, []⟩

/-- What a client keeps: its requests are one after the other and from `start` on, its breaker was told of them,
and the replies are those of the service. -/
structure Sound (start : Instant) (c : ServiceClient β) : Prop where
  breaker : c.breaker = g.breakerAfter c.requests
  order : ∀ r ∈ c.requests, start ≤ r.sentAt ∧ r.sentAt ≤ r.answeredAt ∧ r.answeredAt ≤ c.now
  replies : ∀ r ∈ c.requests, ∃ n, r.reply = (service n).2
  started : start ≤ c.now

end

variable {g : Gateway β α} {service : Nat → Int × HttpReply β} {start : Instant} {c : ServiceClient β}

theorem Sound.attempt (h : Sound g service start c) (hlatency : ∀ n, 0 ≤ (service n).1) :
    Sound g service start (attempt g service c).2 := by
  have hlater : ∀ a b : Int, 0 ≤ b → a ≤ a + b := by omega
  have hnow : c.now ≤ c.now + (service c.requests.length).1 := hlater _ _ (hlatency _)
  refine ⟨?_, ?_, ?_, Int.le_trans h.started hnow⟩
  · simp only [ServiceClient.attempt, breakerAfter_concat, ← h.breaker]
  · intro r hr
    rcases List.mem_append.mp hr with hr | hr
    · obtain ⟨hstart, hanswered, hend⟩ := h.order r hr
      exact ⟨hstart, hanswered, Int.le_trans hend hnow⟩
    · rw [List.mem_singleton.mp hr]
      exact ⟨h.started, hnow, Int.le_refl _⟩
  · intro r hr
    rcases List.mem_append.mp hr with hr | hr
    · exact h.replies r hr
    · rw [List.mem_singleton.mp hr]
      exact ⟨_, rfl⟩

theorem Sound.wait (h : Sound g service start c) (pause : Nat) :
    Sound g service start { c with now := c.now + (pause : Int) } := by
  have hlater : ∀ a : Int, a ≤ a + (pause : Int) := by omega
  refine ⟨h.breaker, fun r hr => ?_, h.replies, Int.le_trans h.started (hlater _)⟩
  obtain ⟨hstart, hanswered, hend⟩ := h.order r hr
  exact ⟨hstart, hanswered, Int.le_trans hend (hlater _)⟩

theorem Sound.sleep (h : Sound g service start c) (delay : Nat) : Sound g service start (sleep delay c) := by
  have hwait := h.wait (delay * 1000000)
  rw [Int.natCast_mul] at hwait
  exact hwait

/-- A fetch keeps it: the loop rule. -/
theorem Sound.fetch (h : Sound g service start c) (hlatency : ∀ n, 0 ≤ (service n).1) :
    Sound g service start (fetch g service c).2 :=
  retryLoop_keeps (I := Sound g service start) (R := fun o => Sound g service start o.2)
    (fun _ h => h.attempt hlatency) (fun delay _ h => h.sleep delay) (fun _ h => h.attempt hlatency) 2 250 none c h

theorem Sound.life (hlatency : ∀ n, 0 ≤ (service n).1) (idle : List Nat) : ∀ {c : ServiceClient β},
    Sound g service start c → Sound g service start (life g service c idle) := by
  induction idle with
  | nil => exact fun h => h
  | cons pause idle ih => exact fun h => ih ((h.wait pause).fetch hlatency)

/-- **The budget of an outage.**  A service that answers every request with a status of failure gets, of a
client that fetches from it as often as it likes and tries each time up to three times, five requests and
then at most one every 60 seconds. -/
theorem outage_budget (g : Gateway β α) (service : Nat → Int × HttpReply β) (hlatency : ∀ n, 0 ≤ (service n).1)
    (houtage : ∀ n, FailsWithStatus (service n).2) (start : Instant) (idle : List Nat) :
    let c := (started start).life g service idle
    (((g.sent c.requests).length : Int) - 5) * 60000000000 ≤ (c.now : Int) - start ∧
      ∀ pause : Nat, (fetch g service { c with now := c.now + (pause : Int) }).1.isOk = false := by
  intro c
  have hsound : Sound g service start c :=
    Sound.life hlatency idle
      ⟨rfl, fun _ h => absurd h List.not_mem_nil, fun _ h => absurd h List.not_mem_nil, Int.le_refl _⟩
  have hfails : ∀ r ∈ c.requests, FailsWithStatus r.reply := fun r hr => by
    obtain ⟨n, hn⟩ := hsound.replies r hr
    rw [hn]
    exact houtage n
  constructor
  · have hmem : ∀ p ∈ g.sent c.requests, p.1 ∈ c.requests := by
      intro p hp
      rw [← performed_map_fst (g := g) .new c.requests]
      exact List.mem_map_of_mem (List.mem_filter.mp hp).1
    have hdrop : ∀ p ∈ (g.sent c.requests).drop 4, p.1 ∈ c.requests := fun p hp => hmem p (List.mem_of_mem_drop hp)
    have hlong : ∀ n start now : Int, start ≤ now → (n ≤ 4 ∨ start + (n - 4 - 1) * 60000000000 ≤ now) →
        (n - 5) * 60000000000 ≤ now - start := by
      omega
    refine hlong _ _ _ hsound.started ?_
    by_cases hfew : (g.sent c.requests).length ≤ 4
    · exact .inl (by exact_mod_cast hfew)
    · refine .inr ?_
      have htime := time_of_spaced (sent_spaced hfails) (fun p hp => (hsound.order _ (hdrop p hp)).2.1)
        (fun p hp => (hsound.order _ (hdrop p hp)).2.2) start
        (fun p hp => (hsound.order _ (hdrop p (List.mem_of_mem_head? hp))).1) (by
          intro hnil
          have := List.drop_eq_nil_iff.mp hnil
          exact hfew this)
      rw [List.length_drop, Int.natCast_sub (Nat.le_of_not_le hfew)] at htime
      exact htime
  · intro pause
    refine retryLoop_keeps (I := fun _ => True) (R := fun o => o.1.isOk = false) (fun _ _ => trivial)
      (fun _ _ _ => trivial) (fun s _ => ?_) 2 250 none _ trivial
    exact fails _ (houtage _)

/-- Three fetches from a sheet that is down: nine attempts, five requests. -/
theorem sheets_down :
    let c := (started 0).life googleSheets (fun _ => (0, .answered 503 (.error "no body"))) [0, 0, 0]
    (((googleSheets.sent c.requests).length : Int) - 5) * 60000000000 ≤ (c.now : Int) - 0 ∧
      ∀ pause : Nat, (fetch googleSheets (fun _ => (0, .answered 503 (.error "no body")))
        { c with now := c.now + (pause : Int) }).1.isOk = false :=
  outage_budget googleSheets (fun _ => (0, .answered 503 (.error "no body"))) (fun _ => Int.le_refl 0)
    (fun _ => rfl) 0 [0, 0, 0]

end ServiceClient

end TaskBot
