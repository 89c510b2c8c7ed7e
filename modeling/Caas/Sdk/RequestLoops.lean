import Caas.Js.Value

/-!
# The request loops of the backend SDKs

`CaasNodeSdk.request` and `CaasPythonSdk._request`: a circuit breaker in front of a loop
that classifies every failure and tries again where the settings let it. Each source
keeps its own classification, its own exits and its own way of handling what it throws.

Times are exact; the Python source counts in seconds what the other counts in
milliseconds. How long a loop waits between two attempts is left out, whether Python's
`time.sleep` refuses to wait is not.
-/

namespace Caas.Sdk

open Js

inductive SdkErrorCode where
  | networkError
  | timeoutError
  | authError
  | validationError
  | throttleError
  | notFoundError
  | serverError
  | circuitOpen
  | unknownError
deriving DecidableEq

/-- An error as callers tell it from others; its text and its details are left out. -/
structure SdkError where
  code : SdkErrorCode
  status : Option Nat := none
  retryable : Bool
  /-- Of a throttling, in the unit of the SDK. -/
  retryAfter : Option ℚ := none
deriving DecidableEq

section Errors

def sdkNetworkError : SdkError := { code := .networkError, retryable := true }

def sdkTimeoutError : SdkError := { code := .timeoutError, retryable := true }

def sdkCircuitOpenError : SdkError := { code := .circuitOpen, retryable := false }

def sdkAuthError (status : Nat) : SdkError :=
  { code := .authError, status := some status, retryable := false }

def sdkValidationError (status : Nat) : SdkError :=
  { code := .validationError, status := some status, retryable := false }

def sdkThrottleError (retryAfter : Option ℚ) : SdkError :=
  { code := .throttleError, status := some 429, retryable := true, retryAfter }

def sdkServerError (status : Nat) : SdkError :=
  { code := .serverError, status := some status, retryable := true }

def sdkUnknownError (status : Option Nat) : SdkError :=
  { code := .unknownError, status, retryable := false }

end Errors

inductive CircuitState where
  | closed
  | opened
  | halfOpen
deriving DecidableEq

/-- The class `CircuitBreaker` of both SDKs. -/
structure CircuitBreaker where
  state : CircuitState := .closed
  failures : Nat := 0
  lastFailureTime : ℚ := 0
  threshold : Number
  reset : Number
deriving DecidableEq

namespace CircuitBreaker

/-- The state is the one left behind; the reading half-opens a breaker that has waited. -/
def getState (breaker : CircuitBreaker) (now : ℚ) : CircuitBreaker :=
  if breaker.state = .opened ∧
      Number.atLeast (.finite (now - breaker.lastFailureTime)) breaker.reset then
    { breaker with state := .halfOpen }
  else breaker

def recordSuccess (breaker : CircuitBreaker) : CircuitBreaker :=
  { breaker with failures := 0, state := .closed }

def recordFailure (breaker : CircuitBreaker) (now : ℚ) : CircuitBreaker :=
  let failed := { breaker with failures := breaker.failures + 1, lastFailureTime := now }
  if Number.atLeast (.int failed.failures) breaker.threshold then { failed with state := .opened }
  else failed

def allowRequest (breaker : CircuitBreaker) (now : ℚ) : CircuitBreaker × Bool :=
  let after := breaker.getState now
  (after, after.state = .closed ∨ after.state = .halfOpen)

end CircuitBreaker

structure RetrySettings where
  maxRetries : Int
  retryableStatuses : List Nat
  retryOnNetworkError : Bool

/-- Callers that send an idempotency key send one that is not empty. -/
structure Request where
  method : String
  idempotent : Bool
  idempotencyKey : Option { key : String // key ≠ "" }

/-- What comes of one attempt to fetch. The body of a response is JSON. -/
inductive FetchOutcome where
  | response (status : Nat) (retryAfter : Option ℚ)
  | timeout
  | connectionError
deriving DecidableEq

/-- An outcome with the reading of the clock that follows it. -/
structure Answer where
  outcome : FetchOutcome
  now : ℚ

inductive RequestResult where
  | json
  | noContent
  | error (error : SdkError)
  /-- An exception that is no error of the SDK. -/
  | uncaught
deriving DecidableEq

structure Finished where
  attempts : Nat
  result : RequestResult
  breaker : CircuitBreaker

/-- The same with one more attempt before. -/
def Finished.afterAttempt (finished : Finished) : Finished :=
  { finished with attempts := finished.attempts + 1 }

def bodyOf (status : Nat) : RequestResult := if status = 204 then .noContent else .json

def nonIdempotent : List String := ["POST", "PATCH"]

def Request.canRetry (request : Request) : Bool :=
  request.idempotent || !nonIdempotent.contains request.method.toUpper ||
    request.idempotencyKey.isSome

def RetrySettings.maxAttempts (settings : RetrySettings) (canRetry : Bool) : Int :=
  if canRetry then settings.maxRetries + 1 else 1

/-- The answers to the attempts that a loop may make. -/
def RetrySettings.answersTo (settings : RetrySettings) (canRetry : Bool) (answers : Nat → Answer) :
    List Answer :=
  (List.range (settings.maxAttempts canRetry).toNat).map answers

/-- How the body of a `for` loop ends: the function returns or throws, or the loop goes on,
with or without what follows the `try` statement. -/
inductive Completion where
  | returned (status : Nat)
  | thrown (error : SdkError)
  | continued
  | fell

/-- A `try` statement that is over, with the variables it writes. -/
structure Tried where
  breaker : CircuitBreaker
  lastErr : Option SdkError
  completion : Completion

namespace NodeSdk

/-- `parseInt` of a numeral. -/
def parseInt (seconds : ℚ) : Int := if 0 ≤ seconds then seconds.floor else seconds.ceil

def classifyHttpError (status : Nat) (retryAfter : Option ℚ) : SdkError :=
  if status = 401 ∨ status = 403 then sdkAuthError status
  else if status = 400 ∨ status = 422 then sdkValidationError status
  else if status = 429 then
    sdkThrottleError (retryAfter.map fun seconds => (parseInt seconds * 1000 : Int))
  else if status = 404 then
    { code := .notFoundError, status := some 404, retryable := false }
  else if 500 ≤ status then sdkServerError status
  else sdkUnknownError status

/-- What the `try` block throws; fetch rejects with an `AbortError` on a timeout. -/
inductive Thrown where
  | sdk (error : SdkError)
  | abortError
  | other

/-- How the `try` block ends. -/
inductive TryCompletion where
  | returned (status : Nat)
  | thrown (error : Thrown)
  | continued
  | fell

variable (settings : RetrySettings) (canRetry : Bool)

def tryBlock (breaker : CircuitBreaker) (lastErr : Option SdkError) (answer : Answer) :
    CircuitBreaker × Option SdkError × TryCompletion :=
  match answer.outcome with
  | .timeout => (breaker, lastErr, .thrown .abortError)
  | .connectionError => (breaker, lastErr, .thrown .other)
  | .response status retryAfter =>
    if 200 ≤ status ∧ status ≤ 299 then (breaker.recordSuccess, lastErr, .returned status)
    else
      let err := classifyHttpError status retryAfter
      if !err.retryable || !settings.retryableStatuses.contains status then
        (breaker.recordFailure answer.now, lastErr, .thrown (.sdk err))
      else if err.code = .throttleError ∧ err.retryAfter.any (· ≠ 0) then
        (breaker, some err, .continued)
      else (breaker, some err, .fell)

/-- The `catch` clause also sees what the `try` block itself has thrown. -/
def catchClause (breaker : CircuitBreaker) (lastErr : Option SdkError) (now : ℚ) : Thrown → Tried
  | .sdk error =>
    if !error.retryable then ⟨breaker.recordFailure now, lastErr, .thrown error⟩
    else ⟨breaker, some error, .fell⟩
  | .abortError => network sdkTimeoutError
  | .other => network sdkNetworkError
where
  network (netErr : SdkError) : Tried :=
    if !canRetry || !settings.retryOnNetworkError then
      ⟨breaker.recordFailure now, some netErr, .thrown netErr⟩
    else ⟨breaker, some netErr, .fell⟩

def tryStatement (breaker : CircuitBreaker) (lastErr : Option SdkError) (answer : Answer) :
    Tried :=
  match tryBlock settings breaker lastErr answer with
  | (after, lastErr, .thrown error) =>
    catchClause settings canRetry after lastErr answer.now error
  | (after, lastErr, .returned status) => ⟨after, lastErr, .returned status⟩
  | (after, lastErr, .continued) => ⟨after, lastErr, .continued⟩
  | (after, lastErr, .fell) => ⟨after, lastErr, .fell⟩

/-- The loop over the answers to its attempts, and what follows it at `ended`. -/
def loop (ended : ℚ) (breaker : CircuitBreaker) (lastErr : Option SdkError) :
    List Answer → Finished
  | [] => ⟨0, .error (lastErr.getD (sdkUnknownError none)), breaker.recordFailure ended⟩
  | answer :: rest =>
    let tried := tryStatement settings canRetry breaker lastErr answer
    match tried.completion with
    | .returned status => ⟨1, bodyOf status, tried.breaker⟩
    | .thrown error => ⟨1, .error error, tried.breaker⟩
    | .continued | .fell => (loop ended tried.breaker tried.lastErr rest).afterAttempt

def request (request : Request) (breaker : CircuitBreaker) (now ended : ℚ)
    (answers : Nat → Answer) : Finished :=
  let (breaker, allowed) := breaker.allowRequest now
  if !allowed then ⟨0, .error sdkCircuitOpenError, breaker⟩
  else
    loop settings request.canRetry ended breaker none
      (settings.answersTo request.canRetry answers)

end NodeSdk

/-- Where Python's waiting raises an exception: `time.sleep` on a number of seconds, and the
pause after an attempt, with its computation. -/
structure PythonRuntime where
  sleepRaises : ℚ → Bool
  pauseRaises : Nat → Bool

namespace PythonSdk

def classifyHttpError (status : Nat) (retryAfter : Option ℚ) : SdkError :=
  if status = 401 ∨ status = 403 then sdkAuthError status
  else if status = 400 ∨ status = 422 then sdkValidationError status
  else if status = 429 then sdkThrottleError retryAfter
  else if 500 ≤ status then sdkServerError status
  else sdkUnknownError status

def defaultRetryableStatuses : List Nat := [429, 500, 502, 503, 504]

/-- `retryable_statuses or DEFAULT_RETRYABLE_STATUSES`. -/
def retryableStatuses (settings : RetrySettings) : List Nat :=
  if settings.retryableStatuses = [] then defaultRetryableStatuses
  else settings.retryableStatuses

/-- What the `try` block raises; an error of the SDK passes through. -/
inductive Raised where
  | sdk (error : SdkError)
  | timeout
  | connectionError
  | other

/-- How the `try` block ends. -/
inductive TryCompletion where
  | returned (status : Nat)
  | raised (exception : Raised)
  | continued
  | fell

variable (settings : RetrySettings) (runtime : PythonRuntime) (canRetry : Bool)

def tryBlock (breaker : CircuitBreaker) (lastErr : Option SdkError) (answer : Answer) :
    CircuitBreaker × Option SdkError × TryCompletion :=
  match answer.outcome with
  | .timeout => (breaker, lastErr, .raised .timeout)
  | .connectionError => (breaker, lastErr, .raised .connectionError)
  | .response status retryAfter =>
    if status < 400 then (breaker.recordSuccess, lastErr, .returned status)
    else
      let err := classifyHttpError status retryAfter
      if !err.retryable || !(retryableStatuses settings).contains status then
        (breaker.recordFailure answer.now, lastErr, .raised (.sdk err))
      else if err.code = .throttleError ∧ err.retryAfter.any (· ≠ 0) then
        if err.retryAfter.any runtime.sleepRaises then (breaker, some err, .raised .other)
        else (breaker, some err, .continued)
      else (breaker, some err, .fell)

def exceptClauses (breaker : CircuitBreaker) (lastErr : Option SdkError) (now : ℚ) : Raised → Tried
  | .sdk error => ⟨breaker, lastErr, .thrown error⟩
  | .timeout => network sdkTimeoutError (!canRetry || !settings.retryOnNetworkError)
  | .connectionError => network sdkNetworkError (!canRetry || !settings.retryOnNetworkError)
  | .other => network sdkNetworkError (!canRetry)
where
  network (error : SdkError) (fatal : Bool) : Tried :=
    if fatal then ⟨breaker.recordFailure now, some error, .thrown error⟩
    else ⟨breaker, some error, .fell⟩

def tryStatement (breaker : CircuitBreaker) (lastErr : Option SdkError) (answer : Answer) :
    Tried :=
  match tryBlock settings runtime breaker lastErr answer with
  | (after, lastErr, .raised exception) =>
    exceptClauses settings canRetry after lastErr answer.now exception
  | (after, lastErr, .returned status) => ⟨after, lastErr, .returned status⟩
  | (after, lastErr, .continued) => ⟨after, lastErr, .continued⟩
  | (after, lastErr, .fell) => ⟨after, lastErr, .fell⟩

/-- The loop from its attempt of number `attempt` on; there is no pause after the last. -/
def loop (ended : ℚ) (attempt : Nat) (breaker : CircuitBreaker) (lastErr : Option SdkError) :
    List Answer → Finished
  | [] => ⟨0, .error (lastErr.getD (sdkUnknownError none)), breaker.recordFailure ended⟩
  | answer :: rest =>
    let tried := tryStatement settings runtime canRetry breaker lastErr answer
    let next := (loop ended (attempt + 1) tried.breaker tried.lastErr rest).afterAttempt
    match tried.completion with
    | .returned status => ⟨1, bodyOf status, tried.breaker⟩
    | .thrown error => ⟨1, .error error, tried.breaker⟩
    | .continued => next
    | .fell =>
      if rest ≠ [] ∧ runtime.pauseRaises attempt then ⟨1, .uncaught, tried.breaker⟩ else next

def request (request : Request) (breaker : CircuitBreaker) (now ended : ℚ)
    (answers : Nat → Answer) : Finished :=
  let (breaker, allowed) := breaker.allowRequest now
  if !allowed then ⟨0, .error sdkCircuitOpenError, breaker⟩
  else
    loop settings runtime request.canRetry ended 0 breaker none
      (settings.answersTo request.canRetry answers)

end PythonSdk

end Caas.Sdk
