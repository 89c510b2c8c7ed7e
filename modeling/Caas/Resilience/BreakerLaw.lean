import Caas.Resilience.CircuitBreakers

/-!
# The law of the provider's breaker

What a call does to the breaker, told by the calls before it instead of by its counters: which
failure opens it, when it lets a request through, which success closes it. The counters survive
some of the changes of state and the half-opening happens in a query, so `Explains` says in which
states which of them counts what; `breaker_law` is the law for every call of every run.
-/

namespace Caas.Resilience

open Js

/-- The reading of the clock that a call makes. -/
def BreakerCall.time? : BreakerCall → Option Int
  | .admission now | .recordFailure now => some now
  | .recordSuccess | .reset => none

namespace ProviderCircuitBreaker

/-- A call, with the state that it found. -/
structure Visit where
  found : CircuitState
  call : BreakerCall

/-- The visits up to the end of a run, the latest first. -/
def visits (breaker : ProviderCircuitBreaker) (past : List Visit) : List BreakerCall → List Visit
  | [] => past
  | call :: rest => visits (machine.step breaker call).1 (⟨breaker.state, call⟩ :: past) rest

/-- How many failures a breaker that is closed has seen since it closed, or since the last
success if that is later. -/
def failuresInARow : List Visit → Nat
  | ⟨.closed, .recordFailure _⟩ :: earlier => failuresInARow earlier + 1
  | ⟨.closed, .admission _⟩ :: earlier => failuresInARow earlier
  | _ => 0

/-- How many successes a breaker that is half open has seen since it half-opened. -/
def successesInARow : List Visit → Nat
  | ⟨.halfOpen, .recordSuccess⟩ :: earlier => successesInARow earlier + 1
  | ⟨.halfOpen, .admission _⟩ :: earlier => successesInARow earlier
  | _ => 0

def lastFailure : List Visit → Option Int
  | [] => none
  | ⟨_, .recordFailure now⟩ :: _ => some now
  | _ :: earlier => lastFailure earlier

/-- The count is the first that is not below the limit. -/
def Reaches (count : Nat) (limit : Number) : Prop :=
  Number.atLeast (.int count) limit = true ∧ Number.atLeast (.int (count - 1)) limit = false

theorem reaches_int {count limit : Nat} (positive : 1 ≤ count) :
    Reaches count (.int limit) ↔ count = limit := by
  simp only [Reaches, Number.atLeast, Number.int, Number.lessThan, Option.some.injEq,
    decide_eq_true_eq, decide_eq_false_iff_not]
  norm_cast
  omega

/-- A request is refused as long as the timeout has not passed since the last failure. -/
def WaitsOut (config : CircuitBreakerConfig) (past : List Visit) (call : BreakerCall)
    (answer : Option Bool) : Prop :=
  ∀ now, call = .admission now → ∃ last, lastFailure past = some last ∧
    (answer = some false ↔ ¬ Number.atLeast (.int (now - last)) config.resetTimeoutMs)

/-- What a call does to a breaker that it finds in a state, given the visits before it. -/
def Lawful (config : CircuitBreakerConfig) (past : List Visit) (call : BreakerCall)
    (left : CircuitState) (answer : Option Bool) : (found : CircuitState) → Prop
  | .closed =>
    (left = .opened ↔ (∃ now, call = .recordFailure now) ∧
      Reaches (failuresInARow past + 1) config.failureThreshold) ∧
    left ≠ .halfOpen ∧ answer ≠ some false
  | .opened =>
    WaitsOut config past call answer ∧
    (left = .halfOpen ↔ answer = some true) ∧ (left = .closed ↔ call = .reset)
  | .halfOpen =>
    WaitsOut config past call answer ∧
    (left = .closed ↔ call = .reset ∨
      call = .recordSuccess ∧ Reaches (successesInARow past + 1) config.halfOpenMaxAttempts) ∧
    (left = .opened ↔ ∃ now, call = .recordFailure now)

/-- What the fields of a breaker say about the visits that led to it. -/
structure Explains (config : CircuitBreakerConfig) (past : List Visit)
    (breaker : ProviderCircuitBreaker) : Prop where
  keeps : breaker.config = config
  failures : breaker.state = .closed → breaker.failures = failuresInARow past ∧
    Number.atLeast (.int breaker.failures) config.failureThreshold = false
  successes : breaker.state = .halfOpen → breaker.successes = successesInARow past ∧
    Number.atLeast (.int breaker.successes) config.halfOpenMaxAttempts = false
  failed : breaker.state ≠ .closed → lastFailure past = some breaker.lastFailureTime
  waited : breaker.state = .halfOpen → ∃ now ∈ past.filterMap (·.call.time?),
    Number.atLeast (.int (now - breaker.lastFailureTime)) config.resetTimeoutMs = true

section Steps

variable {config : CircuitBreakerConfig} {past : List Visit} {breaker : ProviderCircuitBreaker}

theorem not_atLeast_zero {limit : Number} (positive : limit.atLeast (.finite 1) = true) :
    Number.atLeast (.int (0 : Nat)) limit = false := by
  cases limit with
  | nan | negInfinity => exact absurd positive (by decide)
  | infinity => decide
  | finite value =>
    simp only [Number.atLeast, Number.int, Number.lessThan, Option.some.injEq,
      decide_eq_false_iff_not, decide_eq_true_eq, not_lt] at positive ⊢
    simpa using lt_of_lt_of_le one_pos positive

section

variable (explains : Explains config past breaker)
include explains

theorem Explains.reset (threshold : config.failureThreshold.atLeast (.finite 1) = true) :
    Explains config (⟨breaker.state, .reset⟩ :: past) breaker.reset where
  keeps := explains.keeps
  failures _ := ⟨by cases breaker.state <;> rfl, not_atLeast_zero threshold⟩
  successes := by rintro ⟨⟩
  failed notClosed := absurd rfl notClosed
  waited := by rintro ⟨⟩

/-- A query changes nothing but that it half-opens a breaker that has waited. -/
theorem Explains.getState (now : Int)
    (attempts : config.halfOpenMaxAttempts.atLeast (.finite 1) = true) :
    Explains config (⟨breaker.state, .admission now⟩ :: past) (breaker.getState now) := by
  unfold ProviderCircuitBreaker.getState
  split
  · next waited =>
    rw [explains.keeps] at waited
    exact
      { keeps := explains.keeps
        failures := by rintro ⟨⟩
        successes := fun _ => ⟨by rw [waited.1]; rfl, not_atLeast_zero attempts⟩
        failed := fun _ => explains.failed (by simp [waited.1])
        waited := fun _ => ⟨now, List.mem_cons_self, waited.2⟩ }
  · exact
      { keeps := explains.keeps
        failures := fun closed => by
          rw [closed]
          exact explains.failures closed
        successes := fun halfOpen => by
          rw [halfOpen]
          exact explains.successes halfOpen
        failed := explains.failed
        waited := fun halfOpen => by
          obtain ⟨time, earlier, long⟩ := explains.waited halfOpen
          exact ⟨time, List.mem_cons_of_mem now earlier, long⟩ }

theorem Explains.recordSuccess (threshold : config.failureThreshold.atLeast (.finite 1) = true) :
    Explains config (⟨breaker.state, .recordSuccess⟩ :: past) breaker.recordSuccess := by
  obtain ⟨state, failures, successes, lastFailureTime, own⟩ := breaker
  obtain rfl : own = config := explains.keeps
  cases state with
  | closed =>
    exact
      { keeps := rfl
        failures := fun _ => ⟨rfl, not_atLeast_zero threshold⟩
        successes := by rintro ⟨⟩
        failed := fun notClosed => absurd rfl notClosed
        waited := by rintro ⟨⟩ }
  | opened => exact { explains with failures := by rintro ⟨⟩
                                    successes := by rintro ⟨⟩ }
  | halfOpen =>
    have counted := (explains.successes rfl).1
    simp only [ProviderCircuitBreaker.recordSuccess]
    split
    · exact
        { keeps := rfl
          failures := fun _ => ⟨rfl, not_atLeast_zero threshold⟩
          successes := by rintro ⟨⟩
          failed := fun notClosed => absurd rfl notClosed
          waited := by rintro ⟨⟩ }
    · next few =>
      exact
        { keeps := rfl
          failures := by rintro ⟨⟩
          successes := fun _ => ⟨congrArg (· + 1) counted, Bool.eq_false_iff.mpr few⟩
          failed := explains.failed
          waited := explains.waited }

theorem Explains.recordFailure (now : Int) :
    Explains config (⟨breaker.state, .recordFailure now⟩ :: past) (breaker.recordFailure now) := by
  obtain rfl := explains.keeps
  have opened : Explains breaker.config (⟨breaker.state, .recordFailure now⟩ :: past)
      { breaker with
        failures := breaker.failures + 1, lastFailureTime := now, state := .opened } :=
    { keeps := rfl
      failures := by rintro ⟨⟩
      successes := by rintro ⟨⟩
      failed := fun _ => rfl
      waited := by rintro ⟨⟩ }
  unfold ProviderCircuitBreaker.recordFailure
  dsimp only
  split
  · exact opened
  · next notHalfOpen =>
    split
    · exact opened
    · next few =>
      exact
        { keeps := rfl
          failures := fun closed => by
            have counted := (explains.failures closed).1
            rw [closed]
            exact ⟨congrArg (· + 1) counted, Bool.eq_false_iff.mpr few⟩
          successes := fun halfOpen => absurd halfOpen notHalfOpen
          failed := fun _ => rfl
          waited := fun halfOpen => absurd halfOpen notHalfOpen }

theorem Explains.step (threshold : config.failureThreshold.atLeast (.finite 1) = true)
    (attempts : config.halfOpenMaxAttempts.atLeast (.finite 1) = true) (call : BreakerCall) :
    Explains config (⟨breaker.state, call⟩ :: past) (machine.step breaker call).1 := by
  cases call with
  | admission now => exact explains.getState now attempts
  | recordSuccess => exact explains.recordSuccess threshold
  | recordFailure now => exact explains.recordFailure now
  | reset => exact explains.reset threshold

theorem Explains.run (threshold : config.failureThreshold.atLeast (.finite 1) = true)
    (attempts : config.halfOpenMaxAttempts.atLeast (.finite 1) = true) (calls : List BreakerCall) :
    Explains config (visits breaker past calls) (machine.run breaker calls) := by
  induction calls generalizing past breaker with
  | nil => exact explains
  | cons call rest ih => exact ih (explains.step threshold attempts call)

end

theorem explains_new {patch : CircuitBreakerConfigPatch}
    (threshold : (new patch).config.failureThreshold.atLeast (.finite 1) = true) :
    Explains (new patch).config [] (new patch) where
  keeps := rfl
  failures _ := ⟨rfl, not_atLeast_zero threshold⟩
  successes := by rintro ⟨⟩
  failed notClosed := absurd rfl notClosed
  waited := by rintro ⟨⟩

theorem map_call_visits (breaker : ProviderCircuitBreaker) (past : List Visit)
    (calls : List BreakerCall) :
    (visits breaker past calls).map (·.call) = calls.reverse ++ past.map (·.call) := by
  induction calls generalizing breaker past with
  | nil => rfl
  | cons call rest ih =>
    rw [visits, ih, List.reverse_cons, List.append_assoc]
    rfl

theorem reaches_succ {count : Nat} {limit : Number}
    (below : Number.atLeast (.int count) limit = false) :
    Reaches (count + 1) limit ↔ Number.atLeast (.int (count + 1)) limit = true := by
  have before : ((count + 1 : Nat) : Int) - 1 = count := by omega
  rw [Reaches, before, Nat.cast_succ]
  exact and_iff_left below

theorem atLeast_of_le {short long : Int} {limit : Number} (le : short ≤ long)
    (enough : Number.atLeast (.int short) limit = true) :
    Number.atLeast (.int long) limit = true := by
  cases limit with
  | nan | infinity => exact absurd enough (by simp [Number.atLeast, Number.int, Number.lessThan])
  | negInfinity => rfl
  | finite value =>
    simp only [Number.atLeast, Number.int, Number.lessThan, Option.some.injEq,
      decide_eq_false_iff_not, decide_eq_true_eq, not_lt] at enough ⊢
    exact enough.trans (Int.cast_le.mpr le)

section

variable (explains : Explains config past breaker)
include explains

theorem Explains.waitsOut {now : Int} {answer : Bool} (notClosed : breaker.state ≠ .closed)
    (refused : answer = false ↔
      ¬ Number.atLeast (.int (now - breaker.lastFailureTime)) config.resetTimeoutMs) :
    WaitsOut config past (.admission now) (some answer) := by
  rintro _ ⟨⟩
  exact ⟨_, explains.failed notClosed, Option.some_inj.trans refused⟩

theorem Explains.lawful_admission {now : Int}
    (clock : ∀ earlier ∈ past.filterMap (·.call.time?), earlier ≤ now) :
    Lawful config past (.admission now) (breaker.allowRequest now).1.state
      (some (breaker.allowRequest now).2) breaker.state := by
  obtain ⟨state, failures, successes, last, own⟩ := breaker
  obtain rfl : own = config := explains.keeps
  cases state with
  | closed =>
    refine ⟨iff_of_false (by rintro ⟨⟩) ?_, by rintro ⟨⟩, by rintro ⟨⟩⟩
    rintro ⟨⟨_, ⟨⟩⟩, _⟩
  | opened =>
    by_cases long : Number.atLeast (.int (now - last)) own.resetTimeoutMs = true
    · have probing : ProviderCircuitBreaker.allowRequest
          ⟨.opened, failures, successes, last, own⟩ now =
            (⟨.halfOpen, failures, 0, last, own⟩, true) := by
        simp [ProviderCircuitBreaker.allowRequest, ProviderCircuitBreaker.getState, long]
      rw [probing]
      exact ⟨explains.waitsOut (by simp) (iff_of_false (by simp) (not_not_intro long)),
        iff_of_true rfl rfl, by simp⟩
    · have waiting : ProviderCircuitBreaker.allowRequest
          ⟨.opened, failures, successes, last, own⟩ now =
            (⟨.opened, failures, successes, last, own⟩, false) := by
        simp [ProviderCircuitBreaker.allowRequest, ProviderCircuitBreaker.getState, long]
      rw [waiting]
      exact ⟨explains.waitsOut (by simp) (iff_of_true rfl long),
        by simp, by simp⟩
  | halfOpen =>
    -- The breaker half-opened at an earlier reading, when the timeout had passed already.
    obtain ⟨time, member, long⟩ := explains.waited rfl
    have later := atLeast_of_le (sub_le_sub_right (clock time member) last) long
    refine ⟨explains.waitsOut (by simp) (iff_of_false (by rintro ⟨⟩) (not_not_intro later)),
      iff_of_false (by rintro ⟨⟩) ?_, iff_of_false (by rintro ⟨⟩) (by rintro ⟨_, ⟨⟩⟩)⟩
    rintro (⟨⟨⟩⟩ | ⟨⟨⟩, _⟩)

theorem Explains.lawful_recordSuccess :
    Lawful config past .recordSuccess breaker.recordSuccess.state none breaker.state := by
  obtain ⟨state, failures, successes, last, own⟩ := breaker
  obtain rfl : own = config := explains.keeps
  cases state with
  | closed =>
    refine ⟨iff_of_false (by rintro ⟨⟩) ?_, by rintro ⟨⟩, by rintro ⟨⟩⟩
    rintro ⟨⟨_, ⟨⟩⟩, _⟩
  | opened => exact ⟨by rintro _ ⟨⟩, iff_of_false (by rintro ⟨⟩) (by rintro ⟨⟩),
      iff_of_false (by rintro ⟨⟩) (by rintro ⟨⟩)⟩
  | halfOpen =>
    obtain ⟨counted, few⟩ := explains.successes rfl
    have reaches := reaches_succ few
    subst counted
    have tells : ProviderCircuitBreaker.recordSuccess
        ⟨.halfOpen, failures, successesInARow past, last, own⟩ =
          if Number.atLeast (.int (successesInARow past + 1)) own.halfOpenMaxAttempts then
            ⟨.closed, 0, 0, last, own⟩
          else ⟨.halfOpen, failures, successesInARow past + 1, last, own⟩ := rfl
    rw [tells]
    split
    · next enough =>
      exact ⟨by rintro _ ⟨⟩, iff_of_true rfl (.inr ⟨rfl, reaches.mpr enough⟩), by simp⟩
    · next still =>
      refine ⟨by rintro _ ⟨⟩, iff_of_false (by simp) ?_, by simp⟩
      rintro (⟨⟨⟩⟩ | ⟨_, enough⟩)
      exact still (reaches.mp enough)

theorem Explains.lawful_recordFailure (now : Int) :
    Lawful config past (.recordFailure now) (breaker.recordFailure now).state none
      breaker.state := by
  obtain ⟨state, failures, successes, last, own⟩ := breaker
  obtain rfl : own = config := explains.keeps
  cases state with
  | closed =>
    obtain ⟨counted, few⟩ := explains.failures rfl
    have reaches := reaches_succ few
    subst counted
    have tells : ProviderCircuitBreaker.recordFailure
        ⟨.closed, failuresInARow past, successes, last, own⟩ now =
          if Number.atLeast (.int (failuresInARow past + 1)) own.failureThreshold then
            ⟨.opened, failuresInARow past + 1, successes, now, own⟩
          else ⟨.closed, failuresInARow past + 1, successes, now, own⟩ := rfl
    rw [tells]
    split
    · next enough =>
      exact ⟨iff_of_true rfl ⟨⟨now, rfl⟩, reaches.mpr enough⟩, by simp, by simp⟩
    · next still =>
      exact ⟨iff_of_false (by simp) fun opens => still (reaches.mp opens.2), by simp, by simp⟩
  | opened =>
    have stays : (ProviderCircuitBreaker.recordFailure
        ⟨.opened, failures, successes, last, own⟩ now).state = .opened := by
      simp only [ProviderCircuitBreaker.recordFailure, reduceCtorEq, if_false]
      split <;> rfl
    rw [stays]
    exact ⟨by rintro _ ⟨⟩, by simp, by simp⟩
  | halfOpen =>
    refine ⟨by rintro _ ⟨⟩, iff_of_false (by rintro ⟨⟩) ?_, iff_of_true rfl ⟨now, rfl⟩⟩
    rintro (⟨⟨⟩⟩ | ⟨⟨⟩, _⟩)

end

theorem lawful_reset (found : CircuitState) :
    Lawful config past .reset breaker.reset.state none found := by
  cases found with
  | closed =>
    refine ⟨iff_of_false (by rintro ⟨⟩) ?_, by rintro ⟨⟩, by rintro ⟨⟩⟩
    rintro ⟨⟨_, ⟨⟩⟩, _⟩
  | opened =>
    exact ⟨by rintro _ ⟨⟩, iff_of_false (by rintro ⟨⟩) (by rintro ⟨⟩), iff_of_true rfl rfl⟩
  | halfOpen =>
    refine ⟨by rintro _ ⟨⟩, iff_of_true rfl (.inl rfl), iff_of_false (by rintro ⟨⟩) ?_⟩
    rintro ⟨_, ⟨⟩⟩

theorem Explains.lawful (explains : Explains config past breaker) {call : BreakerCall}
    (clock : ∀ earlier ∈ past.filterMap (·.call.time?), ∀ now ∈ call.time?, earlier ≤ now) :
    Lawful config past call (machine.step breaker call).1.state (machine.step breaker call).2
      breaker.state := by
  cases call with
  | admission now =>
    exact explains.lawful_admission fun earlier member => clock earlier member now rfl
  | recordSuccess => exact explains.lawful_recordSuccess
  | recordFailure now => exact explains.lawful_recordFailure now
  | reset => exact lawful_reset breaker.state

end Steps

/-- Whatever calls there were, the next one does what the law says. -/
theorem breaker_law {patch : CircuitBreakerConfigPatch} {calls : List BreakerCall}
    {call : BreakerCall}
    (threshold : (new patch).config.failureThreshold.atLeast (.finite 1) = true)
    (attempts : (new patch).config.halfOpenMaxAttempts.atLeast (.finite 1) = true)
    (clock : ((calls ++ [call]).filterMap (·.time?)).Pairwise (· ≤ ·)) :
    let breaker := machine.run (new patch) calls
    Lawful (new patch).config (visits (new patch) [] calls) call
      (machine.step breaker call).1.state (machine.step breaker call).2 breaker.state := by
  have explains := (explains_new threshold).run threshold attempts calls
  refine explains.lawful fun earlier member now reading => ?_
  have times : (visits (new patch) [] calls).filterMap (·.call.time?) =
      (calls.filterMap (·.time?)).reverse := by
    have mapped := congrArg (List.filterMap BreakerCall.time?)
      (map_call_visits (new patch) [] calls)
    rwa [List.filterMap_map, List.map_nil, List.append_nil, List.filterMap_reverse] at mapped
  rw [times, List.mem_reverse] at member
  rw [List.filterMap_append, List.pairwise_append] at clock
  exact clock.2.2 earlier member now (List.mem_filterMap.mpr ⟨call, List.mem_singleton_self call,
    reading⟩)

/-- The second failure of two opens. -/
theorem second_failure_opens :
    (machine.step (machine.run (new { failureThreshold := some (.int (2 : Nat)) })
      [.recordFailure 10]) (.recordFailure 20)).1.state = .opened := by
  have law := @breaker_law { failureThreshold := some (.int (2 : Nat)) } [.recordFailure 10]
    (.recordFailure 20) (by decide +kernel) (by decide +kernel) (by decide)
  exact law.1.mpr ⟨⟨20, rfl⟩, (reaches_int (le_of_eq_of_le rfl (by decide))).mpr rfl⟩

end ProviderCircuitBreaker

end Caas.Resilience
