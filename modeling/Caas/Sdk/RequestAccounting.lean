import Caas.Sdk.RequestAgreement

/-!
# What a Node request counts

`CaasNodeSdk.request` once more, with the calls that it makes on its circuit breaker in their
order, and with bodies that may fail to arrive. Carried out on a breaker, the calls give the
request of the loops that are compared with Python's (`request_replay`).

Its `catch` clause counts what its `try` block has counted already, and tries again what that
block was not to try again; `accounts_iff` says when neither happens.
-/

namespace Caas.Sdk

open Js

inductive BreakerCall where
  | recordSuccess
  | recordFailure (now : ℚ)
deriving DecidableEq

def BreakerCall.perform (breaker : CircuitBreaker) : BreakerCall → CircuitBreaker
  | .recordSuccess => breaker.recordSuccess
  | .recordFailure now => breaker.recordFailure now

/-- Whether the body of a response arrives; reading it can be aborted. -/
inductive BodyReading where
  | arrives
  | fails (aborted : Bool)
deriving DecidableEq

/-- What comes of one attempt to fetch. -/
inductive Reply where
  | response (status : Nat) (retryAfter : Option ℚ) (body : BodyReading)
  | timeout
  | connectionError
deriving DecidableEq

def Reply.status? : Reply → Option Nat
  | .response status _ _ => some status
  | .timeout | .connectionError => none

/-- The outcome of an attempt whose body arrives. -/
def FetchOutcome.reply : FetchOutcome → Reply
  | .response status retryAfter => .response status retryAfter .arrives
  | .timeout => .timeout
  | .connectionError => .connectionError

/-- A reply with the reading of the clock that follows it. -/
structure TimedReply where
  reply : Reply
  now : ℚ

def Answer.timedReply (answer : Answer) : TimedReply := ⟨answer.outcome.reply, answer.now⟩

/-- A request that is over, with its calls on the breaker. -/
structure Accounted where
  attempts : Nat
  result : RequestResult
  calls : List BreakerCall
deriving DecidableEq

/-- The same with one more attempt before, and what it has called. -/
def Accounted.after (calls : List BreakerCall) (accounted : Accounted) : Accounted :=
  ⟨accounted.attempts + 1, accounted.result, calls ++ accounted.calls⟩

namespace CaasNodeSdk

/-- What the caller gets of a successful response. -/
def returned (status : Nat) : BodyReading → RequestResult
  | .arrives => bodyOf status
  | .fails _ => if status = 204 then .noContent else .uncaught

inductive TryCompletion where
  | returned (result : RequestResult)
  | thrown (error : NodeSdk.Thrown)
  | continued
  | fell

inductive Completion where
  | returned (result : RequestResult)
  | thrown (error : SdkError)
  | continued
  | fell

/-- A `try` statement that is over, with its calls on the breaker. -/
structure Tried where
  calls : List BreakerCall
  lastErr : Option SdkError
  completion : Completion

variable (settings : RetrySettings) (canRetry : Bool)

def tryBlock (lastErr : Option SdkError) (timed : TimedReply) :
    List BreakerCall × Option SdkError × TryCompletion :=
  match timed.reply with
  | .timeout => ([], lastErr, .thrown .abortError)
  | .connectionError => ([], lastErr, .thrown .other)
  | .response status retryAfter body =>
    if 200 ≤ status ∧ status ≤ 299 then
      ([.recordSuccess], lastErr, .returned (returned status body))
    else
      match body with
      | .fails aborted => ([], lastErr, .thrown (if aborted then .abortError else .other))
      | .arrives =>
        let err := NodeSdk.classifyHttpError status retryAfter
        if !err.retryable || !settings.retryableStatuses.contains status then
          ([.recordFailure timed.now], lastErr, .thrown (.sdk err))
        else if err.code = .throttleError ∧ err.retryAfter.any (· ≠ 0) then
          ([], some err, .continued)
        else ([], some err, .fell)

/-- The `catch` clause, after the calls of the `try` block. -/
def catchClause (calls : List BreakerCall) (lastErr : Option SdkError) (now : ℚ) :
    NodeSdk.Thrown → Tried
  | .sdk error =>
    if !error.retryable then ⟨calls ++ [.recordFailure now], lastErr, .thrown error⟩
    else ⟨calls, some error, .fell⟩
  | .abortError => network sdkTimeoutError
  | .other => network sdkNetworkError
where
  network (netErr : SdkError) : Tried :=
    if !canRetry || !settings.retryOnNetworkError then
      ⟨calls ++ [.recordFailure now], some netErr, .thrown netErr⟩
    else ⟨calls, some netErr, .fell⟩

def tryStatement (lastErr : Option SdkError) (timed : TimedReply) : Tried :=
  match tryBlock settings lastErr timed with
  | (calls, lastErr, .thrown error) =>
    catchClause settings canRetry calls lastErr timed.now error
  | (calls, lastErr, .returned result) => ⟨calls, lastErr, .returned result⟩
  | (calls, lastErr, .continued) => ⟨calls, lastErr, .continued⟩
  | (calls, lastErr, .fell) => ⟨calls, lastErr, .fell⟩

/-- The loop over the replies to its attempts, and what follows it at `ended`. -/
def loop (ended : ℚ) (lastErr : Option SdkError) : List TimedReply → Accounted
  | [] => ⟨0, .error (lastErr.getD (sdkUnknownError none)), [.recordFailure ended]⟩
  | timed :: rest =>
    let tried := tryStatement settings canRetry lastErr timed
    match tried.completion with
    | .returned result => ⟨1, result, tried.calls⟩
    | .thrown error => ⟨1, .error error, tried.calls⟩
    | .continued | .fell => (loop ended tried.lastErr rest).after tried.calls

/-- The replies to the attempts that a loop may make. -/
def repliesTo (replies : Nat → TimedReply) : List TimedReply :=
  (List.range (settings.maxAttempts canRetry).toNat).map replies

/-- A request that the breaker admits is a loop; another makes no attempt and no call. -/
def request (request : Request) (breaker : CircuitBreaker) (now ended : ℚ)
    (replies : Nat → TimedReply) : Accounted :=
  if !(breaker.allowRequest now).2 then ⟨0, .error sdkCircuitOpenError, []⟩
  else
    loop settings request.canRetry ended none (repliesTo settings request.canRetry replies)

section Attempts

variable {settings canRetry} {ended now : ℚ} {lastErr : Option SdkError} {status : Nat}
  {retryAfter : Option ℚ} {body : BodyReading} {rest : List TimedReply}

theorem loop_ok (ok : 200 ≤ status ∧ status ≤ 299) :
    loop settings canRetry ended lastErr (⟨.response status retryAfter body, now⟩ :: rest) =
      ⟨1, returned status body, [.recordSuccess]⟩ := by
  simp [loop, tryStatement, tryBlock, ok]

theorem loop_fatal (failed : ¬ (200 ≤ status ∧ status ≤ 299)) (fatal : ¬ Retryable status) :
    loop settings canRetry ended lastErr (⟨.response status retryAfter .arrives, now⟩ :: rest) =
      ⟨1, .error (NodeSdk.classifyHttpError status retryAfter),
        [.recordFailure now, .recordFailure now]⟩ := by
  simp [loop, tryStatement, tryBlock, catchClause, failed, NodeSdk.retryable_classifyHttpError,
    fatal]

theorem loop_unlisted (retryable : Retryable status)
    (unlisted : status ∉ settings.retryableStatuses) :
    loop settings canRetry ended lastErr (⟨.response status retryAfter .arrives, now⟩ :: rest) =
      (loop settings canRetry ended (some (NodeSdk.classifyHttpError status retryAfter)) rest).after
        [.recordFailure now] := by
  simp [loop, tryStatement, tryBlock, catchClause, retryable.not_ok,
    NodeSdk.retryable_classifyHttpError, retryable, unlisted]

theorem loop_listed (retryable : Retryable status) (listed : status ∈ settings.retryableStatuses) :
    loop settings canRetry ended lastErr (⟨.response status retryAfter .arrives, now⟩ :: rest) =
      (loop settings canRetry ended (some (NodeSdk.classifyHttpError status retryAfter)) rest).after
        [] := by
  rw [loop]
  by_cases waits : (NodeSdk.classifyHttpError status retryAfter).code = .throttleError ∧
      (NodeSdk.classifyHttpError status retryAfter).retryAfter.any (· ≠ 0) = true
  · simp only [tryStatement, tryBlock, retryable.not_ok, NodeSdk.retryable_classifyHttpError,
      retryable, listed, List.contains_eq_mem, if_pos waits]
    rfl
  · simp only [tryStatement, tryBlock, retryable.not_ok, NodeSdk.retryable_classifyHttpError,
      retryable, listed, List.contains_eq_mem, if_neg waits]
    rfl

/-- What a reply without a response, or one whose failed response cannot be read, becomes. -/
def netErr : Reply → Option SdkError
  | .timeout => some sdkTimeoutError
  | .connectionError => some sdkNetworkError
  | .response _ _ .arrives => none
  | .response status _ (.fails aborted) =>
    if 200 ≤ status ∧ status ≤ 299 then none
    else some (if aborted then sdkTimeoutError else sdkNetworkError)

theorem tryStatement_netErr {reply : Reply} {error : SdkError} (lost : netErr reply = some error) :
    tryStatement settings canRetry lastErr ⟨reply, now⟩ =
      if canRetry && settings.retryOnNetworkError then ⟨[], some error, .fell⟩
      else ⟨[.recordFailure now], some error, .thrown error⟩ := by
  have caught (netErr : SdkError) :
      catchClause.network settings canRetry [] now netErr =
        if canRetry && settings.retryOnNetworkError then ⟨[], some netErr, .fell⟩
        else ⟨[.recordFailure now], some netErr, .thrown netErr⟩ := by
    rw [catchClause.network]
    cases canRetry <;> cases settings.retryOnNetworkError <;> rfl
  cases reply with
  | timeout | connectionError =>
    cases lost
    exact caught _
  | response status retryAfter body =>
    cases body with
    | arrives => cases lost
    | fails aborted =>
      rw [netErr] at lost
      split at lost
      · cases lost
      · next failed =>
        simp only [tryStatement, tryBlock, if_neg failed]
        cases aborted with
        | false | true => cases lost; exact caught _

theorem loop_netErr {reply : Reply} {error : SdkError} (lost : netErr reply = some error) :
    loop settings canRetry ended lastErr (⟨reply, now⟩ :: rest) =
      if canRetry && settings.retryOnNetworkError then
        (loop settings canRetry ended (some error) rest).after []
      else ⟨1, .error error, [.recordFailure now]⟩ := by
  rw [loop, tryStatement_netErr lost]
  cases canRetry && settings.retryOnNetworkError <;> rfl

end Attempts

end CaasNodeSdk

section Replay

open CaasNodeSdk

/-- The request with its calls carried out on a breaker. -/
def Accounted.finished (breaker : CircuitBreaker) (accounted : Accounted) : Finished :=
  ⟨accounted.attempts, accounted.result, accounted.calls.foldl BreakerCall.perform breaker⟩

theorem Accounted.finished_after {breaker : CircuitBreaker} {calls : List BreakerCall}
    {accounted : Accounted} : (accounted.after calls).finished breaker =
      (accounted.finished (calls.foldl BreakerCall.perform breaker)).afterAttempt := by
  rw [finished, after, List.foldl_append]
  rfl

variable {settings : RetrySettings} {canRetry : Bool} {ended : ℚ}

theorem NodeSdk.loop_network {breaker : CircuitBreaker} {lastErr : Option SdkError}
    {outcome : FetchOutcome} {now : ℚ} {error : SdkError} {rest : List Answer}
    (network : networkErrorOf outcome = some error) :
    NodeSdk.loop settings canRetry ended breaker lastErr (⟨outcome, now⟩ :: rest) =
      if canRetry && settings.retryOnNetworkError then
        (NodeSdk.loop settings canRetry ended breaker (some error) rest).afterAttempt
      else ⟨1, .error error, breaker.recordFailure now⟩ := by
  rw [NodeSdk.loop, (@tryStatement_network settings sampleRuntime canRetry breaker lastErr now
    outcome error network).1]
  cases canRetry && settings.retryOnNetworkError <;> rfl

/-- A loop over bodies that arrive leaves the breaker as the loop that is given one. -/
theorem loop_replay (breaker : CircuitBreaker) (lastErr : Option SdkError) (answers : List Answer) :
    NodeSdk.loop settings canRetry ended breaker lastErr answers =
      (CaasNodeSdk.loop settings canRetry ended lastErr
        (answers.map Answer.timedReply)).finished breaker := by
  induction answers generalizing breaker lastErr with
  | nil => rfl
  | cons answer rest ih =>
    obtain ⟨outcome, now⟩ := answer
    rw [List.map_cons]
    cases outcome with
    | response status retryAfter =>
      by_cases ok : 200 ≤ status ∧ status ≤ 299
      · rw [NodeSdk.loop, NodeSdk.tryStatement_ok ok, Answer.timedReply, FetchOutcome.reply,
          loop_ok ok]
        rfl
      by_cases retryable : Retryable status
      · by_cases listed : status ∈ settings.retryableStatuses
        · rw [NodeSdk.loop_listed retryable listed, Answer.timedReply, FetchOutcome.reply,
            loop_listed retryable listed, Accounted.finished_after, ih]
          rfl
        · rw [NodeSdk.loop, NodeSdk.tryStatement_unlisted retryable listed, Answer.timedReply,
            FetchOutcome.reply, loop_unlisted retryable listed, Accounted.finished_after]
          exact congrArg Finished.afterAttempt (ih _ _)
      · rw [NodeSdk.loop, NodeSdk.tryStatement_fatal ok retryable, Answer.timedReply,
          FetchOutcome.reply, loop_fatal ok retryable]
        rfl
    | timeout | connectionError =>
      rw [NodeSdk.loop_network rfl, Answer.timedReply, FetchOutcome.reply, loop_netErr rfl]
      split
      · rw [Accounted.finished_after]
        exact congrArg Finished.afterAttempt (ih _ _)
      · rfl

theorem request_replay (request : Request) (breaker : CircuitBreaker) (now ended : ℚ)
    (answers : Nat → Answer) : NodeSdk.request settings request breaker now ended answers =
      (CaasNodeSdk.request settings request breaker now ended
        fun attempt => (answers attempt).timedReply).finished (breaker.allowRequest now).1 := by
  unfold NodeSdk.request CaasNodeSdk.request
  cases allowed : (breaker.allowRequest now).2 with
  | false =>
    simp only [allowed]
    rfl
  | true =>
    simp only [allowed, Bool.not_true, Bool.false_eq_true, if_false]
    rw [loop_replay, RetrySettings.answersTo, List.map_map]
    rfl

end Replay

namespace CaasNodeSdk

variable (settings : RetrySettings) (canRetry : Bool)

/-- The request counts once on its breaker, and is tried again as the settings say. -/
structure Accounts (request : Request) (replies : Nat → TimedReply) (accounted : Accounted) :
    Prop where
  recorded : accounted.calls.length = 1
  listed : ∀ attempt, attempt + 1 < accounted.attempts →
    ∀ status ∈ (replies attempt).reply.status?, status ∈ settings.retryableStatuses
  bounded : accounted.attempts ≤ settings.maxRetries + 1
  single : request.canRetry = false → accounted.attempts = 1

/-- No reply that the loop comes to is a failure that it does not try again: one that can be read
is of a retryable class and listed. One that cannot be read is listed if another attempt follows
it. -/
def TriedAgain : List Reply → Prop
  | [] => True
  | .response status _ .arrives :: rest =>
    (200 ≤ status ∧ status ≤ 299) ∨
      (Retryable status ∧ status ∈ settings.retryableStatuses ∧ TriedAgain rest)
  | .response status _ (.fails _) :: rest =>
    (200 ≤ status ∧ status ≤ 299) ∨
      (canRetry = true → settings.retryOnNetworkError = true →
        (rest ≠ [] → status ∈ settings.retryableStatuses) ∧ TriedAgain rest)
  | .timeout :: rest | .connectionError :: rest =>
    canRetry = true → settings.retryOnNetworkError = true → TriedAgain rest

variable {settings canRetry} {ended : ℚ} {lastErr : Option SdkError}

structure LoopAccounts (settings : RetrySettings) (replies : List TimedReply)
    (accounted : Accounted) : Prop where
  recorded : accounted.calls.length = 1
  listed : ∀ attempt, attempt + 1 < accounted.attempts → ∀ timed ∈ replies[attempt]?,
    ∀ status ∈ timed.reply.status?, status ∈ settings.retryableStatuses

theorem loop_attempts_le (replies : List TimedReply) :
    (loop settings canRetry ended lastErr replies).attempts ≤ replies.length := by
  induction replies generalizing lastErr with
  | nil => exact Nat.le_refl 0
  | cons timed rest ih =>
    rw [loop]
    split
    · exact Nat.succ_le_succ (Nat.zero_le _)
    · exact Nat.succ_le_succ (Nat.zero_le _)
    · exact Nat.succ_le_succ ih
    · exact Nat.succ_le_succ ih

theorem one_le_loop_attempts {timed : TimedReply} {rest : List TimedReply} :
    1 ≤ (loop settings canRetry ended lastErr (timed :: rest)).attempts := by
  rw [loop]
  split <;> exact Nat.le_add_left 1 _

theorem one_le_loop_calls (replies : List TimedReply) :
    1 ≤ (loop settings canRetry ended lastErr replies).calls.length := by
  induction replies generalizing lastErr with
  | nil => exact Nat.le_refl 1
  | cons timed rest ih =>
    have goesOn (calls : List BreakerCall) (error : SdkError) :
        1 ≤ ((loop settings canRetry ended (some error) rest).after calls).calls.length := by
      rw [Accounted.after, List.length_append]
      exact Nat.le_trans ih (Nat.le_add_left _ _)
    obtain ⟨reply, now⟩ := timed
    cases lost : netErr reply with
    | some error =>
      rw [loop_netErr lost]
      split
      · exact goesOn [] error
      · exact Nat.le_refl 1
    | none =>
      cases reply with
      | timeout | connectionError => cases lost
      | response status retryAfter body =>
        by_cases ok : 200 ≤ status ∧ status ≤ 299
        · rw [loop_ok ok]
          exact Nat.le_refl 1
        cases body with
        | fails aborted =>
          rw [netErr, if_neg ok] at lost
          cases lost
        | arrives =>
          by_cases retryable : Retryable status
          · by_cases listed : status ∈ settings.retryableStatuses
            · rw [loop_listed retryable listed]
              exact goesOn [] _
            · rw [loop_unlisted retryable listed]
              exact goesOn _ _
          · rw [loop_fatal ok retryable]
            exact Nat.le_add_left 1 1

section Steps

variable {timed : TimedReply} {rest : List TimedReply} {accounted : Accounted}

theorem loopAccounts_one {result : RequestResult} {calls : List BreakerCall} :
    LoopAccounts settings (timed :: rest) ⟨1, result, calls⟩ ↔ calls.length = 1 :=
  ⟨fun accounts => accounts.recorded, fun recorded =>
    ⟨recorded, fun _ more => absurd more (by simp)⟩⟩

/-- An attempt that calls nothing leaves the judgement to the rest, and its own status must be
listed if the loop does not end with it. -/
theorem loopAccounts_after : LoopAccounts settings (timed :: rest) (accounted.after []) ↔
      (0 < accounted.attempts →
        ∀ status ∈ timed.reply.status?, status ∈ settings.retryableStatuses) ∧
      LoopAccounts settings rest accounted := by
  constructor
  · rintro ⟨recorded, listed⟩
    refine ⟨fun more => listed 0 (Nat.succ_lt_succ more) timed rfl, recorded, ?_⟩
    intro attempt more
    exact listed (attempt + 1) (Nat.succ_lt_succ more)
  · rintro ⟨first, recorded, listed⟩
    refine ⟨recorded, ?_⟩
    rintro (_ | attempt) more other here
    · cases here
      exact first (Nat.lt_of_succ_lt_succ more)
    · exact listed attempt (Nat.lt_of_succ_lt_succ more) other here

theorem loop_attempts_pos_iff :
    0 < (loop settings canRetry ended lastErr rest).attempts ↔ rest ≠ [] := by
  cases rest with
  | nil => exact iff_of_false (Nat.lt_irrefl 0) (not_not_intro rfl)
  | cons timed later => exact iff_of_true one_le_loop_attempts (List.cons_ne_nil _ _)

end Steps

/-- A loop counts once, and retries nothing that is not listed, where all is tried again. -/
theorem loop_accounts_iff (replies : List TimedReply) :
    LoopAccounts settings replies (loop settings canRetry ended lastErr replies) ↔
      TriedAgain settings canRetry (replies.map (·.reply)) := by
  induction replies generalizing lastErr with
  | nil => exact iff_of_true ⟨rfl, fun _ more => absurd more (Nat.not_lt_zero _)⟩ trivial
  | cons timed rest ih =>
    obtain ⟨reply, now⟩ := timed
    have lost_iff {error : SdkError} (lost : netErr reply = some error) :
        LoopAccounts settings (⟨reply, now⟩ :: rest)
            (loop settings canRetry ended lastErr (⟨reply, now⟩ :: rest)) ↔
          (canRetry = true → settings.retryOnNetworkError = true →
            (rest ≠ [] → ∀ status ∈ reply.status?, status ∈ settings.retryableStatuses) ∧
              TriedAgain settings canRetry (rest.map (·.reply))) := by
      rw [loop_netErr lost]
      split
      · next again =>
        rw [loopAccounts_after, loop_attempts_pos_iff, ih]
        rw [Bool.and_eq_true] at again
        rw [eq_true again.1, eq_true again.2, true_implies, true_implies]
      · next final =>
        rw [loopAccounts_one]
        refine iff_of_true rfl fun can configured => absurd ?_ final
        rw [can, configured]
        rfl
    cases reply with
    | timeout | connectionError =>
      rw [lost_iff rfl, List.map_cons, TriedAgain]
      simp [Reply.status?]
    | response status retryAfter body =>
      by_cases ok : 200 ≤ status ∧ status ≤ 299
      · rw [loop_ok ok, loopAccounts_one, List.map_cons]
        cases body <;> exact iff_of_true rfl (.inl ok)
      cases body with
      | fails aborted =>
        rw [lost_iff (by rw [netErr, if_neg ok]), List.map_cons, TriedAgain, or_iff_right ok]
        simp [Reply.status?]
      | arrives =>
        rw [List.map_cons, TriedAgain, or_iff_right ok]
        by_cases retryable : Retryable status
        · by_cases listed : status ∈ settings.retryableStatuses
          · rw [loop_listed retryable listed, loopAccounts_after, ih, and_iff_right retryable,
              and_iff_right listed]
            refine and_iff_right fun _ other here => ?_
            cases here
            exact listed
          · -- It is counted here and once more at least.
            rw [loop_unlisted retryable listed]
            refine iff_of_false (fun accounts => ?_) fun again => listed again.2.1
            have more := @one_le_loop_calls settings canRetry ended
              (some (NodeSdk.classifyHttpError status retryAfter)) rest
            have once := accounts.recorded
            rw [Accounted.after, List.length_append, List.length_singleton] at once
            omega
        · rw [loop_fatal ok retryable, loopAccounts_one]
          exact iff_of_false (by simp) fun again => retryable again.1

section Requests

variable {request : Request} {replies : Nat → TimedReply}

theorem attempts_sound_iff :
    ((loop settings canRetry ended lastErr (repliesTo settings canRetry replies)).attempts ≤
        settings.maxRetries + 1 ∧ (canRetry = false →
        (loop settings canRetry ended lastErr (repliesTo settings canRetry replies)).attempts = 1)) ↔
      if canRetry then -1 ≤ settings.maxRetries else 0 ≤ settings.maxRetries := by
  have few := @loop_attempts_le settings canRetry ended lastErr
    (repliesTo settings canRetry replies)
  rw [repliesTo, List.length_map, List.length_range, RetrySettings.maxAttempts] at few
  cases canRetry with
  | true =>
    rw [if_pos rfl, and_iff_left (by simp)]
    rw [if_pos rfl] at few
    simp only [repliesTo, RetrySettings.maxAttempts, if_true] at few ⊢
    omega
  | false =>
    have once : (loop settings false ended lastErr (repliesTo settings false replies)).attempts =
        1 := Nat.le_antisymm few one_le_loop_attempts
    rw [once, and_iff_left fun _ => rfl, if_neg Bool.false_ne_true]
    omega

theorem getElem?_repliesTo {attempt : Nat}
    (made : attempt < (repliesTo settings canRetry replies).length) :
    (repliesTo settings canRetry replies)[attempt]? = some (replies attempt) := by
  rw [repliesTo, List.length_map, List.length_range] at made
  rw [repliesTo, List.getElem?_map, List.getElem?_range made, Option.map_some]

def allowedReplies (settings : RetrySettings) (request : Request) (replies : Nat → TimedReply) :
    List Reply :=
  (repliesTo settings request.canRetry replies).map (·.reply)

/-- A request that the breaker admits accounts for itself exactly if its settings are sound and
every failure that it comes to is one to be tried again. -/
theorem accounts_iff (request : Request) (breaker : CircuitBreaker) (now ended : ℚ)
    (replies : Nat → TimedReply) (admitted : (breaker.allowRequest now).2 = true) :
    Accounts settings request replies
        (CaasNodeSdk.request settings request breaker now ended replies) ↔
      (if request.canRetry then -1 ≤ settings.maxRetries else 0 ≤ settings.maxRetries) ∧
        TriedAgain settings request.canRetry (allowedReplies settings request replies) := by
  have made : CaasNodeSdk.request settings request breaker now ended replies =
      loop settings request.canRetry ended none (repliesTo settings request.canRetry replies) := by
    rw [CaasNodeSdk.request, admitted]
    rfl
  have here {attempt : Nat} (more : attempt + 1 < (loop settings request.canRetry ended none
      (repliesTo settings request.canRetry replies)).attempts) :=
    @getElem?_repliesTo settings request.canRetry replies attempt
      (Nat.lt_of_succ_lt (Nat.lt_of_lt_of_le more (loop_attempts_le _)))
  rw [made, ← @attempts_sound_iff settings request.canRetry ended none replies, allowedReplies,
    ← @loop_accounts_iff settings request.canRetry ended none]
  constructor
  · rintro ⟨recorded, listed, bounded, single⟩
    refine ⟨⟨bounded, single⟩, recorded, fun attempt more timed there => ?_⟩
    rw [here more] at there
    cases there
    exact listed attempt more
  · rintro ⟨⟨bounded, single⟩, recorded, listed⟩
    exact ⟨recorded, fun attempt more => listed attempt more _ (here more), bounded, single⟩

/-- A recovery accounts for itself: its two failures are listed. -/
theorem recovery_accounts :
    Accounts sampleSettings healthRequest (fun attempt => (recovery attempt).timedReply)
      (CaasNodeSdk.request sampleSettings healthRequest sampleBreaker 0 40
        fun attempt => (recovery attempt).timedReply) := by
  refine (accounts_iff healthRequest sampleBreaker 0 40 _ (by decide +kernel)).mpr
    ⟨by decide, ?_⟩
  have outcomes : allowedReplies sampleSettings healthRequest
        (fun attempt => (recovery attempt).timedReply) =
      [.response 503 none .arrives, .response 429 (some 2) .arrives, .response 200 none .arrives,
        .response 200 none .arrives] := by
    decide +kernel
  rw [outcomes]
  simp [TriedAgain, Retryable, sampleSettings]

/-- A rejected key is counted twice, by a request that the breaker admits. -/
theorem rejection_counts_twice : (sampleBreaker.allowRequest 0).2 = true ∧
      ¬ Accounts sampleSettings healthRequest (fun _ => ⟨.response 401 none .arrives, 10⟩)
        (CaasNodeSdk.request sampleSettings healthRequest sampleBreaker 0 20
          fun _ => ⟨.response 401 none .arrives, 10⟩) := by
  refine ⟨by decide +kernel, fun accounts => ?_⟩
  have twice : (CaasNodeSdk.request sampleSettings healthRequest sampleBreaker 0 20
      fun _ => ⟨.response 401 none .arrives, 10⟩).calls.length = 2 := by decide +kernel
  rw [accounts.recorded] at twice
  cases twice

end Requests

end CaasNodeSdk

end Caas.Sdk
