import Caas.Js.Value
import Caas.Machine.Transducer

/-!
# Two circuit breakers

The breaker that the fallback controller of the flexible datastore keeps per provider,
and the one of the MongoDB service. They reset their counters at different moments and
guard the opening differently; `Agrees` is what they nevertheless have in common, and
`breakers_agree` that no caller can tell them apart.

Each reading of the clock is an argument of the call that makes it.
-/

namespace Caas.Resilience

open Js

inductive CircuitState where
  | closed
  | opened
  | halfOpen
deriving DecidableEq

structure CircuitBreakerConfig where
  failureThreshold : Number
  resetTimeoutMs : Number
  halfOpenMaxAttempts : Number

structure CircuitBreakerConfigPatch where
  failureThreshold : Option Number := none
  resetTimeoutMs : Option Number := none
  halfOpenMaxAttempts : Option Number := none

/-- `DEFAULT_CB_CONFIG`. -/
def defaultCbConfig : CircuitBreakerConfig where
  failureThreshold := .finite 5
  resetTimeoutMs := .finite 30000
  halfOpenMaxAttempts := .finite 2

/-- The breaker of `fallback-controller.ts`. -/
structure ProviderCircuitBreaker where
  state : CircuitState := .closed
  failures : Nat := 0
  successes : Nat := 0
  lastFailureTime : Int := 0
  config : CircuitBreakerConfig

namespace ProviderCircuitBreaker

def new (config : CircuitBreakerConfigPatch) : ProviderCircuitBreaker where
  config :=
    { failureThreshold := config.failureThreshold.getD defaultCbConfig.failureThreshold
      resetTimeoutMs := config.resetTimeoutMs.getD defaultCbConfig.resetTimeoutMs
      halfOpenMaxAttempts :=
        config.halfOpenMaxAttempts.getD defaultCbConfig.halfOpenMaxAttempts }

/-- The state is the one left behind; the reading half-opens a breaker that has waited. -/
def getState (breaker : ProviderCircuitBreaker) (now : Int) : ProviderCircuitBreaker :=
  if breaker.state = .opened ∧
      Number.atLeast (.int (now - breaker.lastFailureTime)) breaker.config.resetTimeoutMs then
    { breaker with state := .halfOpen, successes := 0 }
  else breaker

def allowRequest (breaker : ProviderCircuitBreaker) (now : Int) : ProviderCircuitBreaker × Bool :=
  let after := breaker.getState now
  (after, after.state = .closed ∨ after.state = .halfOpen)

def recordSuccess (breaker : ProviderCircuitBreaker) : ProviderCircuitBreaker :=
  match breaker.state with
  | .halfOpen =>
    if Number.atLeast (.int (breaker.successes + 1)) breaker.config.halfOpenMaxAttempts then
      { breaker with state := .closed, failures := 0, successes := 0 }
    else { breaker with successes := breaker.successes + 1 }
  | .closed => { breaker with failures := 0 }
  | .opened => breaker

def recordFailure (breaker : ProviderCircuitBreaker) (now : Int) : ProviderCircuitBreaker :=
  let failed := { breaker with failures := breaker.failures + 1, lastFailureTime := now }
  if breaker.state = .halfOpen then { failed with state := .opened }
  else if Number.atLeast (.int failed.failures) breaker.config.failureThreshold then
    { failed with state := .opened }
  else failed

def reset (breaker : ProviderCircuitBreaker) : ProviderCircuitBreaker :=
  { breaker with state := .closed, failures := 0, successes := 0 }

end ProviderCircuitBreaker

structure CircuitBreakerOptions where
  failureThreshold : Option Number := none
  successThreshold : Option Number := none
  timeout : Option Number := none

/-- The breaker of `circuit-breaker.ts`. -/
structure CircuitBreaker where
  state : CircuitState := .closed
  failureCount : Nat := 0
  successCount : Nat := 0
  lastFailureTime : Option Int := none
  failureThreshold : Number
  successThreshold : Number
  timeout : Number

namespace CircuitBreaker

def new (options : CircuitBreakerOptions) : CircuitBreaker where
  failureThreshold := Number.orElse options.failureThreshold (.int 5)
  successThreshold := Number.orElse options.successThreshold (.int 2)
  timeout := Number.orElse options.timeout (.int 60000)

def «open» (breaker : CircuitBreaker) : CircuitBreaker :=
  { breaker with state := .opened, successCount := 0 }

def close (breaker : CircuitBreaker) : CircuitBreaker :=
  { breaker with state := .closed, failureCount := 0, successCount := 0 }

def halfOpen (breaker : CircuitBreaker) : CircuitBreaker :=
  { breaker with state := .halfOpen, successCount := 0 }

def recordSuccess (breaker : CircuitBreaker) : CircuitBreaker :=
  match breaker.state with
  | .halfOpen =>
    let succeeded := { breaker with successCount := breaker.successCount + 1 }
    if Number.atLeast (.int succeeded.successCount) breaker.successThreshold then succeeded.close
    else succeeded
  | .closed => { breaker with failureCount := 0 }
  | .opened => breaker

def recordFailure (breaker : CircuitBreaker) (now : Int) : CircuitBreaker :=
  let failed :=
    { breaker with failureCount := breaker.failureCount + 1, lastFailureTime := some now }
  match breaker.state with
  | .halfOpen => failed.open
  | .closed =>
    if Number.atLeast (.int failed.failureCount) breaker.failureThreshold then failed.open
    else failed
  | .opened => failed

/-- The timeout has elapsed; a time of 0 counts as none. -/
def elapsed (breaker : CircuitBreaker) (now : Int) : Bool :=
  breaker.lastFailureTime.any fun lastFailureTime =>
    lastFailureTime ≠ 0 && Number.atLeast (.int (now - lastFailureTime)) breaker.timeout

def isOpen (breaker : CircuitBreaker) (now : Int) : CircuitBreaker × Bool :=
  if breaker.state = .opened then
    if breaker.elapsed now then (breaker.halfOpen, false) else (breaker, true)
  else (breaker, false)

def reset (breaker : CircuitBreaker) : CircuitBreaker := breaker.close

end CircuitBreaker

/-- A call on a breaker; an admission check asks whether a request may go out. -/
inductive BreakerCall where
  | admission (now : Int)
  | recordSuccess
  | recordFailure (now : Int)
  | reset

def BreakerCall.Positive : BreakerCall → Prop
  | .admission now | .recordFailure now => 0 < now
  | .recordSuccess | .reset => True

/-- The provider's breaker under its calls, with the answers to admission checks. -/
def ProviderCircuitBreaker.machine :
    Transducer ProviderCircuitBreaker BreakerCall (Option Bool) where
  step breaker
    | .admission now => (breaker.allowRequest now).map id some
    | .recordSuccess => (breaker.recordSuccess, none)
    | .recordFailure now => (breaker.recordFailure now, none)
    | .reset => (breaker.reset, none)

/-- The other breaker; here an answer says that the circuit is open. -/
def CircuitBreaker.machine : Transducer CircuitBreaker BreakerCall (Option Bool) where
  step breaker
    | .admission now => (breaker.isOpen now).map id some
    | .recordSuccess => (breaker.recordSuccess, none)
    | .recordFailure now => (breaker.recordFailure now, none)
    | .reset => (breaker.reset, none)

/-- What the two breakers have in common. The time of the last failure matters only while
the circuit is open, and the successes only while it is half open. -/
structure Agrees (provider : ProviderCircuitBreaker) (circuit : CircuitBreaker) : Prop where
  failureThreshold : provider.config.failureThreshold = circuit.failureThreshold
  attempts : provider.config.halfOpenMaxAttempts = circuit.successThreshold
  timeout : provider.config.resetTimeoutMs = circuit.timeout
  state : provider.state = circuit.state
  failures : provider.failures = circuit.failureCount
  waiting : provider.state = .opened →
    circuit.lastFailureTime = some provider.lastFailureTime ∧ provider.lastFailureTime ≠ 0
  probing : provider.state = .halfOpen → provider.successes = circuit.successCount

namespace Agrees

variable {provider : ProviderCircuitBreaker} {circuit : CircuitBreaker} {now : Int}

section

variable (agrees : Agrees provider circuit)
include agrees

theorem reset : Agrees provider.reset circuit.reset where
  failureThreshold := agrees.failureThreshold
  attempts := agrees.attempts
  timeout := agrees.timeout
  state := rfl
  failures := rfl
  waiting opened := nomatch opened
  probing halfOpen := nomatch halfOpen

theorem halfOpen :
    Agrees { provider with state := .halfOpen, successes := 0 } circuit.halfOpen where
  failureThreshold := agrees.failureThreshold
  attempts := agrees.attempts
  timeout := agrees.timeout
  state := rfl
  failures := agrees.failures
  waiting opened := nomatch opened
  probing _ := rfl

theorem elapsed (opened : provider.state = .opened) : circuit.elapsed now =
      Number.atLeast (.int (now - provider.lastFailureTime)) provider.config.resetTimeoutMs := by
  obtain ⟨time, positive⟩ := agrees.waiting opened
  simp [CircuitBreaker.elapsed, time, positive, agrees.timeout]

theorem admission (now : Int) : Agrees (provider.allowRequest now).1 (circuit.isOpen now).1 ∧
      (provider.allowRequest now).2 = !(circuit.isOpen now).2 := by
  unfold ProviderCircuitBreaker.allowRequest ProviderCircuitBreaker.getState CircuitBreaker.isOpen
  rw [← agrees.state]
  by_cases opened : provider.state = .opened
  · rw [agrees.elapsed opened]
    by_cases waited : Number.atLeast (.int (now - provider.lastFailureTime))
        provider.config.resetTimeoutMs = true
    · simpa [opened, waited] using agrees.halfOpen
    · simpa [opened, waited] using agrees
  · cases state : provider.state with
    | opened => exact absurd state opened
    | closed | halfOpen => simpa [state] using agrees

theorem recordSuccess :
    Agrees provider.recordSuccess circuit.recordSuccess := by
  cases state : provider.state with
  | opened =>
    have same : circuit.state = .opened := agrees.state ▸ state
    simpa only [ProviderCircuitBreaker.recordSuccess, CircuitBreaker.recordSuccess, state, same]
      using agrees
  | closed =>
    have same : circuit.state = .closed := agrees.state ▸ state
    simp only [ProviderCircuitBreaker.recordSuccess, CircuitBreaker.recordSuccess, state, same]
    exact
      { agrees with
        state := rfl
        failures := rfl
        waiting := fun opened => nomatch opened
        probing := fun halfOpen => nomatch halfOpen }
  | halfOpen =>
    have same : circuit.state = .halfOpen := agrees.state ▸ state
    have count := agrees.probing state
    simp only [ProviderCircuitBreaker.recordSuccess, CircuitBreaker.recordSuccess, state, same,
      count, agrees.attempts, Nat.cast_add, Nat.cast_one]
    split
    · exact agrees.reset
    · exact
        { agrees with
          state := rfl
          waiting := fun opened => nomatch opened
          probing := fun _ => rfl }

/-- A failure opens both circuits or neither; its time is that of the failure. -/
theorem recordFailure (positive : 0 < now) :
    Agrees (provider.recordFailure now) (circuit.recordFailure now) := by
  have failed : Agrees
      { provider with failures := provider.failures + 1, lastFailureTime := now }
      { circuit with failureCount := circuit.failureCount + 1, lastFailureTime := some now } :=
    { agrees with
      failures := congrArg (· + 1) agrees.failures
      waiting := fun _ => ⟨rfl, positive.ne'⟩ }
  have opens : Agrees
      { provider with failures := provider.failures + 1, lastFailureTime := now, state := .opened }
      { circuit with
        failureCount := circuit.failureCount + 1, lastFailureTime := some now
        state := .opened, successCount := 0 } :=
    { failed with
      state := rfl
      waiting := fun _ => ⟨rfl, positive.ne'⟩
      probing := fun halfOpen => nomatch halfOpen }
  cases state : provider.state with
  | halfOpen =>
    have same : circuit.state = .halfOpen := agrees.state ▸ state
    simpa only [ProviderCircuitBreaker.recordFailure, CircuitBreaker.recordFailure, state, same,
      CircuitBreaker.open, if_pos] using opens
  | closed =>
    have same : circuit.state = .closed := agrees.state ▸ state
    simp only [ProviderCircuitBreaker.recordFailure, CircuitBreaker.recordFailure, state, same,
      agrees.failures, agrees.failureThreshold, CircuitBreaker.open, reduceCtorEq, if_false]
    rw [agrees.failures] at opens failed
    split
    · exact opens
    · simpa only [state, same] using failed
  | opened =>
    -- The provider's breaker may open once more; the other stays as it is.
    have same : circuit.state = .opened := agrees.state ▸ state
    have stays : Agrees
        { provider with
          failures := provider.failures + 1, lastFailureTime := now, state := .opened }
        { circuit with failureCount := circuit.failureCount + 1, lastFailureTime := some now } :=
      { opens with
        state := same.symm
        probing := fun halfOpen => nomatch halfOpen }
    simp only [ProviderCircuitBreaker.recordFailure, CircuitBreaker.recordFailure, state, same,
      reduceCtorEq, ite_self]
    simpa only [same] using stays

end

end Agrees

theorem Agrees.step {provider : ProviderCircuitBreaker} {circuit : CircuitBreaker}
    {call : BreakerCall} (agrees : Agrees provider circuit) (positive : call.Positive) :
    Agrees (ProviderCircuitBreaker.machine.step provider call).1
        (CircuitBreaker.machine.step circuit call).1 ∧
      (ProviderCircuitBreaker.machine.step provider call).2 =
        (CircuitBreaker.machine.step circuit call).2.map not := by
  cases call with
  | admission now =>
    obtain ⟨after, answer⟩ := agrees.admission now
    exact ⟨after, congrArg some answer⟩
  | recordSuccess => exact ⟨agrees.recordSuccess, rfl⟩
  | recordFailure now => exact ⟨agrees.recordFailure positive, rfl⟩
  | reset => exact ⟨agrees.reset, rfl⟩

theorem Agrees.new {failureThreshold attempts timeout : Number}
    (failures : failureThreshold.atLeast (.finite 1) = true)
    (successes : attempts.atLeast (.finite 1) = true)
    (resets : timeout.atLeast (.finite 1) = true) :
    Agrees (.new ⟨failureThreshold, timeout, attempts⟩) (.new ⟨failureThreshold, attempts, timeout⟩)
    where
  failureThreshold := (Number.orElse_of_one_le failures).symm
  attempts := (Number.orElse_of_one_le successes).symm
  timeout := (Number.orElse_of_one_le resets).symm
  state := rfl
  failures := rfl
  waiting opened := nomatch opened
  probing halfOpen := nomatch halfOpen

/-- The two breakers give the same answer to every admission check. -/
theorem breakers_agree {failureThreshold attempts timeout : Number} {calls : List BreakerCall}
    (failures : failureThreshold.atLeast (.finite 1) = true)
    (successes : attempts.atLeast (.finite 1) = true) (resets : timeout.atLeast (.finite 1) = true)
    (clock : ∀ call ∈ calls, call.Positive) : ProviderCircuitBreaker.machine.outputs
        (.new { failureThreshold, resetTimeoutMs := timeout, halfOpenMaxAttempts := attempts })
        calls =
      (CircuitBreaker.machine.outputs
        (.new { failureThreshold, successThreshold := attempts, timeout }) calls).map
          (Option.map not) := by
  have related := Agrees.new failures successes resets
  have same : (ProviderCircuitBreaker.machine.outputs _ calls).map id =
      (CircuitBreaker.machine.outputs _ calls).map (Option.map not) :=
    (Transducer.simulation (fun _ _ _ => Agrees.step) related clock).2
  rwa [List.map_id] at same

/-- Two failures open both circuits, which admit a request again a second later. -/
theorem breakers_agree_on_recovery : ProviderCircuitBreaker.machine.outputs
        (.new { failureThreshold := some (.int 2), resetTimeoutMs := some (.int 1000),
                halfOpenMaxAttempts := some (.int 1) })
        [.recordFailure 10, .recordFailure 20, .admission 30, .admission 1020] =
      [none, none, some false, some true] ∧
    (CircuitBreaker.machine.outputs
        (.new { failureThreshold := some (.int 2), successThreshold := some (.int 1),
                timeout := some (.int 1000) })
        [.recordFailure 10, .recordFailure 20, .admission 30, .admission 1020]).map
          (Option.map not) =
      [none, none, some false, some true] := by
  have same := @breakers_agree (.int 2) (.int 1) (.int 1000)
    [.recordFailure 10, .recordFailure 20, .admission 30, .admission 1020]
    (by decide +kernel) (by decide +kernel) (by decide +kernel)
    (by simp [BreakerCall.Positive])
  have answers : ProviderCircuitBreaker.machine.outputs
        (.new { failureThreshold := some (.int 2), resetTimeoutMs := some (.int 1000),
                halfOpenMaxAttempts := some (.int 1) })
        [.recordFailure 10, .recordFailure 20, .admission 30, .admission 1020] =
      [none, none, some false, some true] := by decide +kernel
  exact ⟨answers, same ▸ answers⟩

end Caas.Resilience
