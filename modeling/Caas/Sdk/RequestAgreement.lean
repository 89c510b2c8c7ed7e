import Caas.Sdk.RequestLoops

/-!
# Where the request loops agree

The Node loop catches the errors that it throws itself: a failure that ends the request
counts twice, and one outside the configured statuses is tried again. `HandledAlike`
reads off the outcomes whether the two loops come to such a point, and
`requests_agree_iff` says that nothing else tells them apart.
-/

namespace Caas.Sdk

open Js

/-- A result as callers tell it from others. -/
inductive ResultKind where
  | json
  | noContent
  | error (code : SdkErrorCode)
  | uncaught
deriving DecidableEq

def RequestResult.kind : RequestResult → ResultKind
  | .json => .json
  | .noContent => .noContent
  | .error reported => .error reported.code
  | .uncaught => .uncaught

/-- Two requests made the same attempts, ended alike and left their breakers alike. -/
structure Agree (node python : Finished) : Prop where
  attempts : node.attempts = python.attempts
  kind : node.result.kind = python.result.kind
  failures : node.breaker.failures = python.breaker.failures
  state : node.breaker.state = python.breaker.state

instance (node python : Finished) : Decidable (Agree node python) :=
  decidable_of_iff
    (node.attempts = python.attempts ∧ node.result.kind = python.result.kind ∧
      node.breaker.failures = python.breaker.failures ∧
      node.breaker.state = python.breaker.state)
    ⟨fun ⟨attempts, kind, failures, state⟩ => ⟨attempts, kind, failures, state⟩,
      fun agree => ⟨agree.attempts, agree.kind, agree.failures, agree.state⟩⟩

/-- A status that stands for a passing trouble of the server. -/
def Retryable (status : Nat) : Prop := status = 429 ∨ 500 ≤ status

instance (status : Nat) : Decidable (Retryable status) := inferInstanceAs (Decidable (_ ∨ _))

theorem Retryable.not_lt {status : Nat} (retryable : Retryable status) : ¬ status < 400 := by
  unfold Retryable at retryable
  omega

theorem Retryable.not_ok {status : Nat} (retryable : Retryable status) :
    ¬ (200 ≤ status ∧ status ≤ 299) := by
  unfold Retryable at retryable
  omega

/-- The code that both SDKs give to a retryable status. -/
def retryableCode (status : Nat) : SdkErrorCode :=
  if status = 429 then .throttleError else .serverError

/-- A throttled response that asks for a wait. -/
def AsksToWait (status : Nat) (retryAfter : Option ℚ) : Prop :=
  status = 429 ∧ retryAfter.any (· ≠ 0) = true

instance (status : Nat) (retryAfter : Option ℚ) : Decidable (AsksToWait status retryAfter) :=
  inferInstanceAs (Decidable (_ ∧ _))

section Classification

variable (status : Nat) (retryAfter : Option ℚ)

theorem NodeSdk.retryable_classifyHttpError :
    (NodeSdk.classifyHttpError status retryAfter).retryable = decide (Retryable status) := by
  rw [Bool.eq_iff_iff, decide_eq_true_iff]
  unfold NodeSdk.classifyHttpError Retryable
  repeat' split
  all_goals
    simp only [sdkAuthError, sdkValidationError, sdkThrottleError, sdkServerError,
      sdkUnknownError, Bool.false_eq_true, true_iff, false_iff]
    omega

theorem PythonSdk.retryable_classifyHttpError :
    (PythonSdk.classifyHttpError status retryAfter).retryable = decide (Retryable status) := by
  rw [Bool.eq_iff_iff, decide_eq_true_iff]
  unfold PythonSdk.classifyHttpError Retryable
  repeat' split
  all_goals
    simp only [sdkAuthError, sdkValidationError, sdkThrottleError, sdkServerError,
      sdkUnknownError, Bool.false_eq_true, true_iff, false_iff]
    omega

variable {status} (retryable : Retryable status)

include retryable in
theorem NodeSdk.code_classifyHttpError :
    (NodeSdk.classifyHttpError status retryAfter).code = retryableCode status := by
  unfold NodeSdk.classifyHttpError retryableCode
  unfold Retryable at retryable
  repeat' split
  all_goals first | rfl | omega

include retryable in
theorem PythonSdk.code_classifyHttpError :
    (PythonSdk.classifyHttpError status retryAfter).code = retryableCode status := by
  unfold PythonSdk.classifyHttpError retryableCode
  unfold Retryable at retryable
  repeat' split
  all_goals first | rfl | omega

omit retryable in
/-- An error carries the header of a throttled response only. -/
theorem PythonSdk.retryAfter_classifyHttpError :
    (PythonSdk.classifyHttpError status retryAfter).retryAfter =
      if status = 429 then retryAfter else none := by
  unfold PythonSdk.classifyHttpError
  repeat' split
  all_goals first | rfl | omega

end Classification

section Statements

variable {settings : RetrySettings} {runtime : PythonRuntime} {canRetry : Bool}
  {breaker : CircuitBreaker} {lastErr : Option SdkError} {status : Nat} {retryAfter : Option ℚ}
  {now : ℚ}

@[simp] theorem CircuitBreaker.failures_recordFailure (breaker : CircuitBreaker) (now : ℚ) :
    (breaker.recordFailure now).failures = breaker.failures + 1 := by
  simp only [recordFailure]
  split <;> rfl

namespace NodeSdk

theorem tryStatement_ok (ok : 200 ≤ status ∧ status ≤ 299) :
    tryStatement settings canRetry breaker lastErr ⟨.response status retryAfter, now⟩ =
      ⟨breaker.recordSuccess, lastErr, .returned status⟩ := by
  simp [tryStatement, tryBlock, ok]

theorem tryStatement_fatal (failed : ¬ (200 ≤ status ∧ status ≤ 299)) (fatal : ¬ Retryable status) :
    tryStatement settings canRetry breaker lastErr ⟨.response status retryAfter, now⟩ =
      ⟨(breaker.recordFailure now).recordFailure now, lastErr,
        .thrown (classifyHttpError status retryAfter)⟩ := by
  simp [tryStatement, tryBlock, catchClause, failed, retryable_classifyHttpError, fatal]

theorem tryStatement_unlisted (retryable : Retryable status)
    (unlisted : status ∉ settings.retryableStatuses) :
    tryStatement settings canRetry breaker lastErr ⟨.response status retryAfter, now⟩ =
      ⟨breaker.recordFailure now, some (classifyHttpError status retryAfter), .fell⟩ := by
  simp [tryStatement, tryBlock, catchClause, retryable.not_ok, retryable_classifyHttpError,
    retryable, unlisted]

/-- A retryable failure of a configured status is tried again, with its own wait or after
the usual pause. -/
theorem tryStatement_listed (retryable : Retryable status)
    (listed : status ∈ settings.retryableStatuses) :
    ∃ completion, (completion = .continued ∨ completion = .fell) ∧
      tryStatement settings canRetry breaker lastErr ⟨.response status retryAfter, now⟩ =
        ⟨breaker, some (classifyHttpError status retryAfter), completion⟩ := by
  by_cases waits : (classifyHttpError status retryAfter).code = .throttleError ∧
      (classifyHttpError status retryAfter).retryAfter.any (· ≠ 0) = true
  · refine ⟨.continued, .inl rfl, ?_⟩
    simp only [tryStatement, tryBlock, retryable.not_ok, retryable_classifyHttpError, retryable,
      listed, List.contains_eq_mem, if_pos waits]
    rfl
  · refine ⟨.fell, .inr rfl, ?_⟩
    simp only [tryStatement, tryBlock, retryable.not_ok, retryable_classifyHttpError, retryable,
      listed, List.contains_eq_mem, if_neg waits]
    rfl

end NodeSdk

namespace PythonSdk

theorem tryStatement_ok (ok : status < 400) :
    tryStatement settings runtime canRetry breaker lastErr ⟨.response status retryAfter, now⟩ =
      ⟨breaker.recordSuccess, lastErr, .returned status⟩ := by
  simp [tryStatement, tryBlock, ok]

theorem tryStatement_final (failed : ¬ status < 400)
    (final : ¬ (Retryable status ∧ status ∈ retryableStatuses settings)) :
    tryStatement settings runtime canRetry breaker lastErr ⟨.response status retryAfter, now⟩ =
      ⟨breaker.recordFailure now, lastErr, .thrown (classifyHttpError status retryAfter)⟩ := by
  by_cases retryable : Retryable status
  · have unlisted : status ∉ retryableStatuses settings := fun listed =>
      final ⟨retryable, listed⟩
    simp [tryStatement, tryBlock, exceptClauses, failed, retryable_classifyHttpError, unlisted]
  · simp [tryStatement, tryBlock, exceptClauses, failed, retryable_classifyHttpError, retryable]

variable (retryable : Retryable status) (listed : status ∈ retryableStatuses settings)

include retryable in
theorem asksToWait_iff : ((classifyHttpError status retryAfter).code = .throttleError ∧
        (classifyHttpError status retryAfter).retryAfter.any (· ≠ 0) = true) ↔
      AsksToWait status retryAfter := by
  rw [code_classifyHttpError retryAfter retryable, retryAfter_classifyHttpError]
  unfold AsksToWait retryableCode
  by_cases throttled : status = 429 <;> simp [throttled]

theorem classifyHttpError_of_asks (asks : AsksToWait status retryAfter) :
    (classifyHttpError status retryAfter).code = .throttleError ∧
      (classifyHttpError status retryAfter).retryAfter = retryAfter := by
  obtain ⟨rfl, _⟩ := asks
  exact ⟨rfl, rfl⟩

include retryable listed in
/-- Without a header to wait for, a listed failure leads to the pause. -/
theorem tryStatement_listed (plain : ¬ AsksToWait status retryAfter) :
    tryStatement settings runtime canRetry breaker lastErr ⟨.response status retryAfter, now⟩ =
      ⟨breaker, some (classifyHttpError status retryAfter), .fell⟩ := by
  simp only [tryStatement, tryBlock, if_neg retryable.not_lt, retryable_classifyHttpError,
    retryable, listed, List.contains_eq_mem, asksToWait_iff retryable, if_neg plain]
  rfl

include retryable listed in
theorem tryStatement_waits (asks : AsksToWait status retryAfter)
    (allowed : ¬ retryAfter.any runtime.sleepRaises = true) :
    tryStatement settings runtime canRetry breaker lastErr ⟨.response status retryAfter, now⟩ =
      ⟨breaker, some (classifyHttpError status retryAfter), .continued⟩ := by
  obtain ⟨code, wait⟩ := classifyHttpError_of_asks asks
  have waits : (classifyHttpError status retryAfter).code = .throttleError ∧
      retryAfter.any (· ≠ 0) = true := ⟨code, asks.2⟩
  simp only [tryStatement, tryBlock, if_neg retryable.not_lt, retryable_classifyHttpError,
    retryable, listed, List.contains_eq_mem, wait, if_pos waits, if_neg allowed]
  rfl

include retryable listed in
/-- A wait that Python refuses counts as a network error. -/
theorem tryStatement_refuses (asks : AsksToWait status retryAfter)
    (refused : retryAfter.any runtime.sleepRaises = true) :
    tryStatement settings runtime canRetry breaker lastErr ⟨.response status retryAfter, now⟩ =
      if canRetry then ⟨breaker, some sdkNetworkError, .fell⟩
      else ⟨breaker.recordFailure now, some sdkNetworkError, .thrown sdkNetworkError⟩ := by
  obtain ⟨code, wait⟩ := classifyHttpError_of_asks asks
  have waits : (classifyHttpError status retryAfter).code = .throttleError ∧
      retryAfter.any (· ≠ 0) = true := ⟨code, asks.2⟩
  simp only [tryStatement, tryBlock, if_neg retryable.not_lt, retryable_classifyHttpError,
    retryable, listed, List.contains_eq_mem, wait, if_pos waits, if_pos refused]
  cases canRetry <;> rfl

end PythonSdk

/-- An outcome without a response, as an error of both SDKs. -/
def networkErrorOf : FetchOutcome → Option SdkError
  | .timeout => some sdkTimeoutError
  | .connectionError => some sdkNetworkError
  | .response _ _ => none

theorem tryStatement_network {outcome : FetchOutcome} {error : SdkError}
    (network : networkErrorOf outcome = some error) :
    NodeSdk.tryStatement settings canRetry breaker lastErr ⟨outcome, now⟩ =
        (if canRetry && settings.retryOnNetworkError then ⟨breaker, some error, .fell⟩
        else ⟨breaker.recordFailure now, some error, .thrown error⟩) ∧
      PythonSdk.tryStatement settings runtime canRetry breaker lastErr ⟨outcome, now⟩ =
        (if canRetry && settings.retryOnNetworkError then ⟨breaker, some error, .fell⟩
        else ⟨breaker.recordFailure now, some error, .thrown error⟩) := by
  cases outcome with
  | response => cases network
  | timeout | connectionError =>
    cases network
    simp only [NodeSdk.tryStatement, NodeSdk.tryBlock, NodeSdk.catchClause,
      NodeSdk.catchClause.network, PythonSdk.tryStatement, PythonSdk.tryBlock,
      PythonSdk.exceptClauses, PythonSdk.exceptClauses.network]
    cases canRetry <;> cases settings.retryOnNetworkError <;> exact ⟨rfl, rfl⟩

end Statements

section Loops

variable (settings : RetrySettings) (runtime : PythonRuntime) (canRetry : Bool)

/-- No outcome that the loops come to, from the attempt of the given number on, leads them
apart: a response is successful, or a listed one of a retryable class; Python's wait for the
last one is not refused; and neither is a pause before a further attempt. -/
def HandledAlike : Nat → List FetchOutcome → Prop
  | _, [] => True
  | attempt, .response status retryAfter :: rest =>
    (200 ≤ status ∧ status ≤ 299) ∨
      (Retryable status ∧ status ∈ settings.retryableStatuses ∧
        (rest = [] → AsksToWait status retryAfter → ¬ retryAfter.any runtime.sleepRaises = true) ∧
        (rest ≠ [] → runtime.pauseRaises attempt = true →
          AsksToWait status retryAfter ∧ ¬ retryAfter.any runtime.sleepRaises = true) ∧
        HandledAlike (attempt + 1) rest)
  | attempt, _ :: rest =>
    canRetry = true → settings.retryOnNetworkError = true →
      (rest ≠ [] → ¬ runtime.pauseRaises attempt = true) ∧ HandledAlike (attempt + 1) rest

variable {settings runtime canRetry}

theorem agree_afterAttempt (node python : Finished) :
    Agree node.afterAttempt python.afterAttempt ↔ Agree node python := by
  constructor
  · rintro ⟨attempts, kind, failures, state⟩
    exact ⟨Nat.succ.inj attempts, kind, failures, state⟩
  · rintro ⟨attempts, kind, failures, state⟩
    exact ⟨congrArg (· + 1) attempts, kind, failures, state⟩

theorem NodeSdk.loop_attempts_pos {ended : ℚ} {breaker : CircuitBreaker}
    {lastErr : Option SdkError} (answer : Answer) (rest : List Answer) :
    0 < (NodeSdk.loop settings canRetry ended breaker lastErr (answer :: rest)).attempts := by
  unfold NodeSdk.loop
  dsimp only
  split <;> exact Nat.succ_pos _

variable {ended : ℚ} {attempt : Nat} {breaker : CircuitBreaker} {lastErr lastErr' : Option SdkError}

theorem not_agree_of_unlisted {error : SdkError} {rest : List Answer} {now : ℚ} : ¬ Agree
      (NodeSdk.loop settings canRetry ended (breaker.recordFailure now) lastErr rest).afterAttempt
      ⟨1, .error error, breaker.recordFailure now⟩ := by
  rintro ⟨attempts, _, failures, _⟩
  cases rest with
  | nil => simp [NodeSdk.loop, Finished.afterAttempt] at failures
  | cons answer later =>
    have made := @NodeSdk.loop_attempts_pos settings canRetry ended (breaker.recordFailure now)
      lastErr answer later
    simp only [Finished.afterAttempt, Nat.add_eq_right] at attempts
    omega

theorem NodeSdk.loop_ne_uncaught {answers : List Answer} :
    (NodeSdk.loop settings canRetry ended breaker lastErr answers).result ≠ .uncaught := by
  induction answers generalizing breaker lastErr with
  | nil => exact nofun
  | cons answer rest ih =>
    unfold NodeSdk.loop
    dsimp only
    split
    · unfold bodyOf
      split <;> exact nofun
    · exact nofun
    · exact ih
    · exact ih

section Steps

variable {status : Nat} {retryAfter : Option ℚ} {now : ℚ} {rest : List Answer}

theorem NodeSdk.loop_listed (retryable : Retryable status)
    (listed : status ∈ settings.retryableStatuses) :
    NodeSdk.loop settings canRetry ended breaker lastErr
        (⟨.response status retryAfter, now⟩ :: rest) = (NodeSdk.loop settings canRetry ended breaker
        (some (classifyHttpError status retryAfter)) rest).afterAttempt := by
  obtain ⟨completion, goesOn, tried⟩ := @tryStatement_listed settings canRetry breaker lastErr
    status retryAfter now retryable listed
  rw [NodeSdk.loop, tried]
  rcases goesOn with rfl | rfl <;> rfl

theorem PythonSdk.loop_fell {answer : Answer} {after : CircuitBreaker} {error : SdkError}
    (tried : PythonSdk.tryStatement settings runtime canRetry breaker lastErr answer =
      ⟨after, some error, .fell⟩) :
    PythonSdk.loop settings runtime canRetry ended attempt breaker lastErr (answer :: rest) =
      if rest ≠ [] ∧ runtime.pauseRaises attempt then ⟨1, .uncaught, after⟩
      else (PythonSdk.loop settings runtime canRetry ended (attempt + 1) after (some error)
        rest).afterAttempt := by
  rw [PythonSdk.loop, tried]

theorem not_agree_of_pause {answers : List Answer} :
    ¬ Agree (NodeSdk.loop settings canRetry ended breaker lastErr answers).afterAttempt
      ⟨1, .uncaught, breaker⟩ := by
  rintro ⟨_, kind, _, _⟩
  have own := @NodeSdk.loop_ne_uncaught settings canRetry ended breaker lastErr answers
  simp only [Finished.afterAttempt] at kind
  cases ended : (NodeSdk.loop settings canRetry ended breaker lastErr answers).result with
  | uncaught => exact own ended
  | json | noContent | error => rw [ended] at kind; cases kind

theorem agree_fell_iff {python : Finished} :
    Agree (NodeSdk.loop settings canRetry ended breaker lastErr rest).afterAttempt
        (if rest ≠ [] ∧ runtime.pauseRaises attempt then ⟨1, .uncaught, breaker⟩
          else python.afterAttempt) ↔
      (rest ≠ [] → ¬ runtime.pauseRaises attempt = true) ∧
        Agree (NodeSdk.loop settings canRetry ended breaker lastErr rest) python := by
  by_cases raises : rest ≠ [] ∧ runtime.pauseRaises attempt = true
  · rw [if_pos raises]
    refine iff_of_false not_agree_of_pause ?_
    rintro ⟨quiet, _⟩
    exact quiet raises.1 raises.2
  · rw [if_neg raises, agree_afterAttempt]
    exact (and_iff_right fun more pauses => raises ⟨more, pauses⟩).symm

theorem not_agree_of_refused {python : CircuitBreaker} (retryable : Retryable status)
    (throttled : status = 429) : ¬ Agree (NodeSdk.loop settings canRetry ended breaker
        (some (NodeSdk.classifyHttpError status retryAfter)) []).afterAttempt
      ⟨1, .error sdkNetworkError, python⟩ := by
  rintro ⟨_, kind, _, _⟩
  have code := NodeSdk.code_classifyHttpError retryAfter retryable
  simp only [NodeSdk.loop, Finished.afterAttempt, Option.getD_some, RequestResult.kind, code,
    retryableCode, if_pos throttled] at kind
  cases kind

theorem not_agree_of_final (statuses : settings.retryableStatuses ≠ [])
    (failed : ¬ (200 ≤ status ∧ status ≤ 299))
    (final : ¬ (Retryable status ∧ status ∈ settings.retryableStatuses)) : ¬ Agree
      (NodeSdk.loop settings canRetry ended breaker lastErr
        (⟨.response status retryAfter, now⟩ :: rest))
      (PythonSdk.loop settings runtime canRetry ended attempt breaker lastErr'
        (⟨.response status retryAfter, now⟩ :: rest)) := by
  have configured : PythonSdk.retryableStatuses settings = settings.retryableStatuses :=
    if_neg statuses
  by_cases redirected : status < 400
  · -- Python takes a redirection for a success.
    have fatal : ¬ Retryable status := fun retryable => retryable.not_lt redirected
    rw [NodeSdk.loop, NodeSdk.tryStatement_fatal failed fatal, PythonSdk.loop,
      PythonSdk.tryStatement_ok redirected]
    rintro ⟨_, kind, _, _⟩
    simp only [bodyOf] at kind
    split at kind <;> cases kind
  · rw [PythonSdk.loop, PythonSdk.tryStatement_final redirected (configured ▸ final)]
    by_cases retryable : Retryable status
    · have unlisted : status ∉ settings.retryableStatuses := fun listed =>
        final ⟨retryable, listed⟩
      rw [NodeSdk.loop, NodeSdk.tryStatement_unlisted retryable unlisted]
      exact not_agree_of_unlisted
    · rw [NodeSdk.loop, NodeSdk.tryStatement_fatal failed retryable]
      rintro ⟨_, _, failures, _⟩
      simp at failures

theorem agree_network_iff {outcome : FetchOutcome} {error : SdkError} {Alike : Prop}
    (failed : networkErrorOf outcome = some error)
    (later : Agree (NodeSdk.loop settings canRetry ended breaker (some error) rest)
        (PythonSdk.loop settings runtime canRetry ended (attempt + 1) breaker (some error) rest) ↔
      Alike) : Agree (NodeSdk.loop settings canRetry ended breaker lastErr (⟨outcome, now⟩ :: rest))
        (PythonSdk.loop settings runtime canRetry ended attempt breaker lastErr'
          (⟨outcome, now⟩ :: rest)) ↔ (canRetry = true → settings.retryOnNetworkError = true →
        (rest ≠ [] → ¬ runtime.pauseRaises attempt = true) ∧ Alike) := by
  have node := (@tryStatement_network settings runtime canRetry breaker lastErr now outcome error
    failed).1
  have python := (@tryStatement_network settings runtime canRetry breaker lastErr' now outcome
    error failed).2
  by_cases retries : (canRetry && settings.retryOnNetworkError) = true
  · rw [if_pos retries] at node python
    rw [NodeSdk.loop, node, PythonSdk.loop_fell python, agree_fell_iff, later]
    simp only [Bool.and_eq_true] at retries
    simp [retries]
  · rw [if_neg retries] at node python
    rw [NodeSdk.loop, node, PythonSdk.loop, python]
    refine iff_of_true ⟨rfl, rfl, rfl, rfl⟩ fun can configured => ?_
    exact absurd (by rw [can, configured]; rfl) retries

section Listed

variable (statuses : settings.retryableStatuses ≠ []) (retryable : Retryable status)
  (listed : status ∈ settings.retryableStatuses)

include statuses retryable listed

/-- A wait that Python refuses ends the agreement at the last attempt; before it Python comes to
its pause. -/
theorem agree_refused_iff {Alike : Prop} (asks : AsksToWait status retryAfter)
    (refused : retryAfter.any runtime.sleepRaises = true) (alone : canRetry = false → rest = [])
    (later : rest ≠ [] → (Agree (NodeSdk.loop settings canRetry ended breaker
          (some (NodeSdk.classifyHttpError status retryAfter)) rest)
        (PythonSdk.loop settings runtime canRetry ended (attempt + 1) breaker
          (some sdkNetworkError) rest) ↔ Alike)) : Agree
        (NodeSdk.loop settings canRetry ended breaker lastErr
          (⟨.response status retryAfter, now⟩ :: rest))
        (PythonSdk.loop settings runtime canRetry ended attempt breaker lastErr'
          (⟨.response status retryAfter, now⟩ :: rest)) ↔
      rest ≠ [] ∧ ¬ runtime.pauseRaises attempt = true ∧ Alike := by
  have configured : PythonSdk.retryableStatuses settings = settings.retryableStatuses :=
    if_neg statuses
  have tried := @PythonSdk.tryStatement_refuses settings runtime canRetry breaker lastErr' status
    retryAfter now retryable (configured.symm ▸ listed) asks refused
  rw [NodeSdk.loop_listed retryable listed]
  by_cases last : rest = []
  · subst last
    refine iff_of_false ?_ fun alike => alike.1 rfl
    cases canRetry with
    | false =>
      rw [PythonSdk.loop, tried]
      exact not_agree_of_refused retryable asks.1
    | true =>
      rw [PythonSdk.loop_fell tried]
      exact not_agree_of_refused retryable asks.1
  · rw [if_pos (Bool.eq_true_of_not_eq_false (last ∘ alone))] at tried
    rw [PythonSdk.loop_fell tried, agree_fell_iff, later last]
    simp [last]

/-- After a failure that both SDKs try again the loops agree when Python's wait and its pause
are not refused, and what follows agrees. -/
theorem agree_listed_iff {Alike : Prop} (alone : canRetry = false → rest = [])
    (later : ∀ error : SdkError, (rest = [] → error.code = retryableCode status) → (Agree
        (NodeSdk.loop settings canRetry ended breaker
          (some (NodeSdk.classifyHttpError status retryAfter)) rest)
        (PythonSdk.loop settings runtime canRetry ended (attempt + 1) breaker
          (some error) rest) ↔ Alike)) : Agree (NodeSdk.loop settings canRetry ended breaker lastErr
          (⟨.response status retryAfter, now⟩ :: rest))
        (PythonSdk.loop settings runtime canRetry ended attempt breaker lastErr'
          (⟨.response status retryAfter, now⟩ :: rest)) ↔
      (rest = [] → AsksToWait status retryAfter → ¬ retryAfter.any runtime.sleepRaises = true) ∧
      (rest ≠ [] → runtime.pauseRaises attempt = true →
        AsksToWait status retryAfter ∧ ¬ retryAfter.any runtime.sleepRaises = true) ∧ Alike := by
  have configured : PythonSdk.retryableStatuses settings = settings.retryableStatuses :=
    if_neg statuses
  have same := later (PythonSdk.classifyHttpError status retryAfter) fun _ =>
    PythonSdk.code_classifyHttpError retryAfter retryable
  by_cases asks : AsksToWait status retryAfter
  · by_cases refused : retryAfter.any runtime.sleepRaises = true
    · rw [agree_refused_iff statuses retryable listed asks refused alone fun more =>
        later sdkNetworkError fun none => absurd none more]
      by_cases last : rest = []
      · simp [last, asks, refused]
      · simp [last, asks, refused]
    · rw [NodeSdk.loop_listed retryable listed, PythonSdk.loop,
        PythonSdk.tryStatement_waits retryable (configured.symm ▸ listed) asks refused]
      rw [agree_afterAttempt, same]
      simp [asks, refused]
  · rw [NodeSdk.loop_listed retryable listed, PythonSdk.loop_fell
      (PythonSdk.tryStatement_listed retryable (configured.symm ▸ listed) asks), agree_fell_iff,
      same]
    simp [asks]

end Listed

end Steps

/-- Two loops that go on agree if their remaining answers are handled alike. -/
theorem loops_agree_iff (statuses : settings.retryableStatuses ≠ []) {answers : List Answer}
    (single : canRetry = false → answers.length ≤ 1)
    (same : answers = [] → lastErr.map (·.code) = lastErr'.map (·.code)) :
    Agree (NodeSdk.loop settings canRetry ended breaker lastErr answers)
        (PythonSdk.loop settings runtime canRetry ended attempt breaker lastErr' answers) ↔
      HandledAlike settings runtime canRetry attempt (answers.map (·.outcome)) := by
  induction answers generalizing attempt breaker lastErr lastErr' with
  | nil =>
    have kind : ResultKind.error (lastErr.getD (sdkUnknownError none)).code =
        .error (lastErr'.getD (sdkUnknownError none)).code := by
      cases lastErr <;> cases lastErr' <;> simp_all
    exact iff_of_true ⟨rfl, kind, rfl, rfl⟩ trivial
  | cons answer rest ih =>
    obtain ⟨outcome, now⟩ := answer
    have alone : canRetry = false → rest = [] := fun once => by
      simpa using single once
    have shorter : canRetry = false → rest.length ≤ 1 := fun once => by simp [alone once]
    cases outcome with
    | response status retryAfter =>
      simp only [List.map_cons, HandledAlike, ne_eq, List.map_eq_nil_iff]
      by_cases ok : 200 ≤ status ∧ status ≤ 299
      · refine iff_of_true ?_ (.inl ok)
        rw [NodeSdk.loop, NodeSdk.tryStatement_ok ok, PythonSdk.loop,
          PythonSdk.tryStatement_ok (show status < 400 by omega)]
        exact ⟨rfl, rfl, rfl, rfl⟩
      rw [or_iff_right ok]
      by_cases tryAgain : Retryable status ∧ status ∈ settings.retryableStatuses
      · obtain ⟨retryable, listed⟩ := tryAgain
        rw [and_iff_right retryable, and_iff_right listed]
        refine agree_listed_iff statuses retryable listed alone fun error code =>
          ih shorter fun none => ?_
        rw [Option.map_some, Option.map_some, code none,
          NodeSdk.code_classifyHttpError retryAfter retryable]
      · refine iff_of_false (not_agree_of_final statuses ok tryAgain) ?_
        rintro ⟨retryable, listed, _⟩
        exact tryAgain ⟨retryable, listed⟩
    | timeout | connectionError =>
      simp only [List.map_cons, HandledAlike, ne_eq, List.map_eq_nil_iff]
      exact agree_network_iff rfl (ih shorter fun _ => rfl)

end Loops

def RetrySettings.outcomes (settings : RetrySettings) (request : Request)
    (answers : Nat → Answer) : List FetchOutcome :=
  (settings.answersTo request.canRetry answers).map (·.outcome)

/-- The requests agree exactly where the breaker refuses them or all is handled alike. -/
theorem requests_agree_iff {settings : RetrySettings} (runtime : PythonRuntime)
    (request : Request) (breaker : CircuitBreaker) (now ended : ℚ) (answers : Nat → Answer)
    (statuses : settings.retryableStatuses ≠ []) :
    Agree (NodeSdk.request settings request breaker now ended answers)
        (PythonSdk.request settings runtime request breaker now ended answers) ↔
      (breaker.allowRequest now).2 = false ∨
        HandledAlike settings runtime request.canRetry 0 (settings.outcomes request answers) := by
  have single : request.canRetry = false →
      (settings.answersTo request.canRetry answers).length ≤ 1 := by
    intro once
    simp [RetrySettings.answersTo, RetrySettings.maxAttempts, once]
  unfold NodeSdk.request PythonSdk.request
  cases allowed : (breaker.allowRequest now).2 with
  | false =>
    refine iff_of_true ?_ (.inl rfl)
    simp only [allowed]
    exact ⟨rfl, rfl, rfl, rfl⟩
  | true =>
    simp only [allowed, Bool.not_true, Bool.false_eq_true, if_false, reduceCtorEq, false_or]
    exact loops_agree_iff statuses single fun _ => rfl

section Runs

def sampleBreaker : CircuitBreaker := { threshold := .int 5, reset := .int 30000 }

def sampleSettings : RetrySettings where
  maxRetries := 3
  retryableStatuses := [429, 500, 502, 503, 504]
  retryOnNetworkError := true

/-- Python waits for any time that is not negative. -/
def sampleRuntime : PythonRuntime where
  sleepRaises seconds := seconds < 0
  pauseRaises _ := false

def healthRequest : Request := { method := "GET", idempotent := true, idempotencyKey := none }

/-- The service is unavailable, then throttles, then answers. -/
def recovery : Nat → Answer
  | 0 => ⟨.response 503 none, 10⟩
  | 1 => ⟨.response 429 (some 2), 20⟩
  | _ => ⟨.response 200 none, 30⟩

theorem requests_agree_on_recovery : sampleSettings.retryableStatuses ≠ [] ∧
      Agree (NodeSdk.request sampleSettings healthRequest sampleBreaker 0 40 recovery)
        (PythonSdk.request sampleSettings sampleRuntime healthRequest sampleBreaker 0 40
          recovery) := by
  have statuses : sampleSettings.retryableStatuses ≠ [] := by decide
  refine ⟨statuses, (requests_agree_iff sampleRuntime healthRequest sampleBreaker 0 40 recovery
    statuses).mpr (.inr ?_)⟩
  have outcomes : sampleSettings.outcomes healthRequest recovery =
      [.response 503 none, .response 429 (some 2), .response 200 none, .response 200 none] := by
    decide +kernel
  rw [outcomes]
  simp [HandledAlike, Retryable, AsksToWait, sampleSettings, sampleRuntime]

/-- One rejected key counts as two failures in Node and as one in Python. -/
theorem requests_differ_on_rejection : ¬ Agree
      (NodeSdk.request sampleSettings healthRequest sampleBreaker 0 20
        fun _ => ⟨.response 401 none, 10⟩)
      (PythonSdk.request sampleSettings sampleRuntime healthRequest sampleBreaker 0 20
        fun _ => ⟨.response 401 none, 10⟩) := by
  decide +kernel

end Runs

end Caas.Sdk
