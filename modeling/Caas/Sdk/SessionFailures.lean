import Caas.Sdk.WebRequests
import Caas.Sdk.WebSdkCore

/-!
# Session calls that fail

`createSession` and `refreshSession` from their start to their end, while nothing else happens:
the state machine is moved, the request is made, and its result is dealt with. A refusal leaves
the machine unauthenticated; a network error, and a body that cannot be read, leave it where the
start of the call has put it (`failures_settle_iff`).
-/

namespace Caas.Sdk

open Js

inductive SessionMethod where
  | createSession
  | refreshSession
deriving DecidableEq

namespace SessionMethod

open WebSdkCore

variable {ν : Type}

def endpoint : SessionMethod → String
  | .createSession => "/api/v1/sdk/session"
  | .refreshSession => "/api/v1/sdk/refresh"

/-- Both send an idempotency key. -/
def context (method : SessionMethod) : RequestContext := ⟨method.endpoint, false, true⟩

def contacts (options : SdkCoreOptions) (core : WebSdkCore) : SessionMethod → Bool
  | .createSession => !(options.browser && !options.allowBrowserApiKey)
  | .refreshSession => ((core.sessionTokens.map (·.refreshToken)).filter (· ≠ "")).isSome

def started : SessionMethod → WebSdkCore.Input
  | .createSession => .createSession
  | .refreshSession => .refreshSession

def answered (answer : SessionAnswer) : SessionMethod → WebSdkCore.Input
  | .createSession => .createAnswered answer
  | .refreshSession => .refreshAnswered answer

/-- Tokens that are missing are empty. -/
def tokensOf (data : Json ν) : SessionTokenBundle :=
  ⟨(data.stringMember? "access_token").getD "", (data.stringMember? "refresh_token").getD ""⟩

/-- The tokens of a body, or `none` when reading it throws: `createSession` reads fields of it,
which `null` does not have. -/
def readBody (body : Option (Json ν)) : SessionMethod → Option SessionTokenBundle
  | .createSession =>
    match body with
    | none | some .null => none
    | some data => some (tokensOf data)
  | .refreshSession => body.map tokensOf

/-- What the call makes of the result of its request. -/
def answerOf (method : SessionMethod) :
    Except (RequestError ν) (WebResponse ν) → SessionAnswer
  | .error _ => .failed
  | .ok response =>
    if !response.ok then
      let sdkError := toSdkError response method.endpoint
      .refused ⟨sdkError.message, sdkError.code, response.status⟩
    else
      match readBody response.body method with
      | none => .failed
      | some tokens => .accepted tokens

/-- The whole call, with what it made of the result, once it is over. -/
def call (options : SdkCoreOptions) (config : HttpRetryConfig) (method : SessionMethod)
    (core : WebSdkCore) (outcomes : List (FetchAttempt ν)) : Option (WebSdkCore × SessionAnswer) :=
  match fetchWithRetry config (some "POST") method.context outcomes with
  | (_, .inl _) => none
  | (_, .inr result) =>
    let answer := method.answerOf result
    some ((machine options).run core [method.started, method.answered answer], answer)

end SessionMethod

def SessionAnswer.rejects : SessionAnswer → Bool
  | .failed | .refused _ => true
  | .accepted _ => false

namespace SessionMethod

open WebSdkCore

variable {ν : Type}

/-- If the call rejects, the state machine is unauthenticated afterwards. -/
def Settles (options : SdkCoreOptions) (config : HttpRetryConfig) (method : SessionMethod)
    (core : WebSdkCore) (outcomes : List (FetchAttempt ν)) : Prop :=
  ∀ after answer, method.call options config core outcomes = some (after, answer) →
    answer.rejects = true → after.state = .unauthenticated

def event : SessionMethod → EventType
  | .createSession => .bootstrap
  | .refreshSession => .refresh

/-- A last outcome that is dealt with: a refusal, or a body that can be read. -/
def DealtWith (method : SessionMethod) : FetchAttempt ν → Prop
  | .response response => response.ok = true → (readBody response.body method).isSome = true
  | .networkError _ => False

/-- A state that the start of the call leaves unauthenticated. -/
def StaysOut (method : SessionMethod) (core : WebSdkCore) : Prop :=
  method = .refreshSession ∧ core.state = .unauthenticated

variable {options : SdkCoreOptions} {config : HttpRetryConfig} {method : SessionMethod}
  {core : WebSdkCore} {outcomes : List (FetchAttempt ν)}

theorem transitions_authRequired (state : SdkConnectionState) :
    (transitions state .authRequired).getD state = .unauthenticated := by
  cases state <;> rfl

theorem transitions_event :
    (transitions core.state method.event).getD core.state = .unauthenticated ↔
      method.StaysOut core := by
  unfold StaysOut
  cases method <;> cases core.state <;> decide

/-- The number of requests of the method that are under way. -/
def pending (core : WebSdkCore) : SessionMethod → Nat
  | .createSession => core.creating
  | .refreshSession => core.refreshing

theorem react_started (contacts : method.contacts options core = true) :
    (react options method.started core).1.state =
        (transitions core.state method.event).getD core.state ∧
      method.pending (react options method.started core).1 = method.pending core + 1 := by
  cases method with
  | createSession =>
    have allowed : (options.browser && !options.allowBrowserApiKey) = false := by
      rwa [SessionMethod.contacts, Bool.not_eq_true'] at contacts
    simp only [started, react, WebSdkCore.createSession, allowed, Bool.false_eq_true, if_false]
    exact ⟨rfl, rfl⟩
  | refreshSession =>
    have refreshes : ((core.sessionTokens.map (·.refreshToken)).filter (· ≠ "")).isSome = true :=
      contacts
    simp only [started, react, WebSdkCore.refreshSession]
    rw [if_pos refreshes]
    exact ⟨rfl, rfl⟩

theorem onSessionAnswer_state (errorType : String) (answer : SessionAnswer) :
    (onSessionAnswer errorType answer core).1.state =
      match answer with
      | .failed => core.state
      | .refused _ => .unauthenticated
      | .accepted _ => (transitions core.state .connect).getD core.state := by
  cases answer with
  | refused error => exact transitions_authRequired core.state
  | failed | accepted tokens => rfl

theorem react_answered (pending : method.pending core ≠ 0) (answer : SessionAnswer) :
    (react options (method.answered answer) core).1.state =
      match answer with
      | .failed => core.state
      | .refused _ => .unauthenticated
      | .accepted _ => (transitions core.state .connect).getD core.state := by
  cases method with
  | createSession =>
    have creating : core.creating ≠ 0 := pending
    simp only [answered, react, createAnswered]
    rw [if_neg creating]
    exact onSessionAnswer_state "session_create_error" answer
  | refreshSession =>
    have refreshing : core.refreshing ≠ 0 := pending
    simp only [answered, react, refreshAnswered]
    rw [if_neg refreshing]
    exact onSessionAnswer_state "token_refresh_error" answer

theorem state_run (contacts : method.contacts options core = true) {answer : SessionAnswer}
    (rejects : answer.rejects = true) :
    ((machine options).run core [method.started, method.answered answer]).state =
      if answer = .failed then (transitions core.state method.event).getD core.state
      else .unauthenticated := by
  obtain ⟨begun, pending⟩ := react_started contacts
  have ended := @react_answered options method (react options method.started core).1
    (by rw [pending]; exact Nat.succ_ne_zero _) answer
  refine ended.trans ?_
  cases answer with
  | failed => exact begun
  | refused error => rfl
  | accepted tokens => cases rejects

/-- A call rejects unless its last outcome is a success with a body that can be read, and without
telling the state machine only if that outcome is not dealt with. -/
theorem answerOf_failed_iff {outcome : FetchAttempt ν} :
    method.answerOf (resultOf method.context.endpoint outcome) = .failed ↔
      ¬ method.DealtWith outcome := by
  cases outcome with
  | networkError cause => exact iff_of_true rfl id
  | response response =>
    simp only [resultOf, answerOf, DealtWith]
    cases response.ok with
    | false => simp
    | true => cases readBody response.body method <;> simp

/-- A call that contacts the gateway settles if and only if its last outcome is dealt with, or its
start has left the state machine unauthenticated. -/
theorem failures_settle_iff (contacts : method.contacts options core = true) :
    Settles options config method core outcomes ↔
      ∀ outcome, LastOutcome (getRetryConfig config) true outcomes outcome →
        method.DealtWith outcome ∨ method.StaysOut core := by
  have retryable : canRetry (some "POST") method.context = true := by
    rw [canRetry, context, Bool.or_true]
  have finishes := @exists_fetchWithRetry_iff ν config (some "POST") method.context outcomes
  rw [retryable] at finishes
  constructor
  · intro settles outcome last
    by_contra neither
    push Not at neither
    obtain ⟨calls, ended⟩ := finishes.mpr ⟨outcome, last, rfl⟩
    have failed := answerOf_failed_iff.mpr neither.1
    have after := settles _ .failed (by rw [call, ended, ← failed]) rfl
    rw [failed, state_run contacts rfl, if_pos rfl, transitions_event] at after
    exact neither.2 after
  · intro dealt after answer called rejects
    unfold call at called
    split at called
    · cases called
    · next calls result ended =>
      cases called
      obtain ⟨outcome, last, rfl⟩ := finishes.mp ⟨calls, ended⟩
      rw [state_run contacts rejects]
      split
      · next failed =>
        exact transitions_event.mpr
          ((dealt outcome last).resolve_left (answerOf_failed_iff.mp failed))
      · rfl

section Sample

def sampleOptions : SdkCoreOptions where
  socketBaseUrl := "wss://caas"
  socketFactory := fun _ => ⟨true, fun _ => none⟩

def unreachable : List (FetchAttempt Empty) := List.replicate 3 (.networkError "ECONNREFUSED")

def unauthorized : FetchAttempt Empty :=
  .response ⟨401, some (.object [("code", .string "invalid_api_key")])⟩

/-- A fresh SDK that cannot reach the gateway stays in `token-refresh`. -/
theorem unreachable_gateway_sticks :
    ((createSession.call sampleOptions {} {} unreachable).map fun ended =>
        (ended.1.state, ended.2)) = some (.tokenRefresh, .failed) ∧
      ¬ ∀ (options : SdkCoreOptions) (config : HttpRetryConfig) (method : SessionMethod)
        (core : WebSdkCore) (outcomes : List (FetchAttempt Empty)),
        method.contacts options core = true → Settles options config method core outcomes := by
  have sticks : ((createSession.call sampleOptions {} {} unreachable).map fun ended =>
      (ended.1.state, ended.2)) = some (.tokenRefresh, .failed) := by decide +kernel
  refine ⟨sticks, fun settle => ?_⟩
  obtain ⟨⟨after, answer⟩, called, ended⟩ := Option.map_eq_some_iff.mp sticks
  obtain ⟨left, failed⟩ := Prod.mk.inj ended
  have settled := settle sampleOptions {} createSession {} unreachable rfl after answer called
    (congrArg SessionAnswer.rejects failed)
  cases left.symm.trans settled

/-- A refused session leaves it unauthenticated. -/
theorem unauthorized_settles :
    Settles sampleOptions {} createSession {} [unauthorized] := by
  refine (failures_settle_iff rfl).mpr ?_
  rintro outcome ⟨made, here, -, -⟩
  rcases made with _ | made
  · rw [List.getElem?_cons_zero, Option.mem_some_iff] at here
    rw [← here]
    exact .inl nofun
  · rw [List.getElem?_cons_succ, List.getElem?_nil] at here
    cases here

end Sample

end SessionMethod

end Caas.Sdk
