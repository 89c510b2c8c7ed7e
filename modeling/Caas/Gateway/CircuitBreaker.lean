import Caas.Resilience.CircuitBreakers

/-!
# The circuit breaker of the gateway

`CircuitBreaker.execute` lets a call through, and counts how it ends. A failure notes its time and
is then compared with the time that it has just noted, so the monitoring period takes nothing back;
`opens_as_told_iff` says in which runs the breaker opens as its parameters tell.

Calls come one after another. A failure reads the clock up to three times: when it is noted, when
it is compared, and when the next attempt is set. `reset` is left out.
-/

namespace Caas.Gateway

open Js Resilience

structure BreakerSettings where
  failureThreshold : Nat
  resetTimeout : Number
  monitoringPeriod : Number

structure CircuitBreaker where
  state : CircuitState := .closed
  failureCount : Nat := 0
  successCount : Nat := 0
  lastFailureTime : Int := 0
  nextAttemptTime : Number := .int 0
deriving DecidableEq

/-- How a call ends, with what `onFailure` reads of the clock. -/
inductive CallResult where
  | succeeded
  | failed (noted compared set : Int)
deriving DecidableEq

/-- A call, with the reading of the clock before it. -/
structure Call where
  now : Int
  result : CallResult
deriving DecidableEq

/-- Whether the call has been let through, and the state in which it was made. -/
inductive Execution where
  | refused
  | completed (found : CircuitState)
deriving DecidableEq

namespace CircuitBreaker

variable (settings : BreakerSettings)

/-- `later - earlier > monitoringPeriod` -/
def isPast (earlier later : Int) : Bool :=
  settings.monitoringPeriod.lessThan (.int (later - earlier)) = some true

def onSuccess (breaker : CircuitBreaker) : CircuitBreaker :=
  let breaker := { breaker with failureCount := 0 }
  if breaker.state = .halfOpen then
    let breaker := { breaker with successCount := breaker.successCount + 1 }
    if 2 ≤ breaker.successCount then { breaker with state := .closed, successCount := 0 }
    else breaker
  else breaker

def getRecentFailureCount (breaker : CircuitBreaker) (now : Int) : CircuitBreaker × Nat :=
  if isPast settings breaker.lastFailureTime now then ({ breaker with failureCount := 1 }, 1)
  else (breaker, breaker.failureCount)

def onFailure (breaker : CircuitBreaker) (noted compared set : Int) : CircuitBreaker :=
  let breaker :=
    { breaker with failureCount := breaker.failureCount + 1, lastFailureTime := noted }
  if breaker.state = .halfOpen then
    { breaker with
      state := .opened
      nextAttemptTime := (Number.int compared).add settings.resetTimeout }
  else
    let (breaker, recentFailures) := getRecentFailureCount settings breaker compared
    if settings.failureThreshold ≤ recentFailures then
      { breaker with
        state := .opened
        nextAttemptTime := (Number.int set).add settings.resetTimeout }
    else breaker

/-- The end of a call that has been let through. -/
def complete (breaker : CircuitBreaker) : CallResult → CircuitBreaker
  | .succeeded => onSuccess breaker
  | .failed noted compared set => onFailure settings breaker noted compared set

def execute (breaker : CircuitBreaker) (call : Call) : CircuitBreaker × Execution :=
  if breaker.state = .opened then
    if (Number.int call.now).lessThan breaker.nextAttemptTime = some true then (breaker, .refused)
    else
      (complete settings { breaker with state := .halfOpen, successCount := 0, failureCount := 0 }
        call.result, .completed .halfOpen)
  else (complete settings breaker call.result, .completed breaker.state)

def machine : Transducer CircuitBreaker Call Execution where
  step := execute settings

/-- A call that has been let through. -/
structure Visit where
  found : CircuitState
  result : CallResult
deriving DecidableEq

def visitOf (call : Call) : Execution → Option Visit
  | .refused => none
  | .completed found => some ⟨found, call.result⟩

/-- The breaker with the calls that it has let through, the latest last. -/
def history : Transducer (CircuitBreaker × List Visit) Call Execution :=
  (machine settings).recording visitOf

def Visit.failedAt (visit : Visit) : Option Int :=
  match visit.result with
  | .succeeded => none
  | .failed noted _ _ => some noted

/-- The last `failureThreshold` calls that have been completed since the breaker was last closed;
the latest comes first. -/
def lastCalls (visits : List Visit) : List Visit :=
  (visits.takeWhile (·.found = .closed)).take settings.failureThreshold

/-- A time in the last `monitoringPeriod` milliseconds. -/
def isRecent (now time : Int) : Bool := settings.monitoringPeriod.atLeast (.int (now - time))

/-- The last `failureThreshold` calls have all failed, in the last `monitoringPeriod`
milliseconds. -/
def Due (visits : List Visit) (now : Int) : Prop :=
  (lastCalls settings visits).length = settings.failureThreshold ∧
    ∀ visit ∈ lastCalls settings visits, ∃ time ∈ visit.failedAt, isRecent settings now time = true

/-- A failing call that finds the breaker closed opens it exactly when that is due. -/
def OpensAsTold (current : CircuitBreaker × List Visit) (call : Call) : Prop :=
  current.1.state = .closed → ∀ noted compared set, call.result = .failed noted compared set →
    ((execute settings current.1 call).1.state = .opened ↔
      Due settings (⟨.closed, call.result⟩ :: current.2.reverse) compared)

/-- The failures in a row since the breaker was last closed; one that is past when it is compared
is the first of a new row. -/
def failuresInARow : List Visit → Nat
  | ⟨.closed, .failed noted compared _⟩ :: earlier =>
    if isPast settings noted compared then 1 else failuresInARow earlier + 1
  | _ => 0

/-- If `failureThreshold` calls in a row have failed with a failing call that finds the breaker
closed, they have failed in the last `monitoringPeriod` milliseconds. -/
def RowIsRecent (current : CircuitBreaker × List Visit) (call : Call) : Prop :=
  current.1.state = .closed → ∀ noted compared set, call.result = .failed noted compared set →
    settings.failureThreshold ≤
        failuresInARow settings (⟨.closed, call.result⟩ :: current.2.reverse) →
      ∀ visit ∈ lastCalls settings (⟨.closed, call.result⟩ :: current.2.reverse),
        ∀ time ∈ visit.failedAt, isRecent settings compared time = true

end CircuitBreaker

/-- The readings that `onFailure` makes. -/
def CallResult.readings : CallResult → List Int
  | .succeeded => []
  | .failed noted compared set => [noted, compared, set]

def Call.readings (call : Call) : List Int := call.now :: call.result.readings

namespace CircuitBreaker

/-- The clock of a run does not go back. -/
def Nondecreasing (calls : List Call) : Prop := (calls.flatMap Call.readings).Pairwise (· ≤ ·)

instance (calls : List Call) : Decidable (Nondecreasing calls) :=
  inferInstanceAs (Decidable (List.Pairwise _ _))

section Rows

variable {settings : BreakerSettings} {visits : List Visit} {count : Nat}

theorem mem_of_mem_lastCalls {visit : Visit} (member : visit ∈ lastCalls settings visits) :
    visit ∈ visits :=
  (List.takeWhile_prefix _).subset (List.mem_of_mem_take member)

/-- A row of failures is one of calls that have found the breaker closed. -/
theorem of_le_failuresInARow (row : count ≤ failuresInARow settings visits) :
    ((visits.takeWhile (·.found = .closed)).take count).length = count ∧
      ∀ visit ∈ (visits.takeWhile (·.found = .closed)).take count,
        visit.failedAt.isSome = true := by
  induction visits generalizing count with
  | nil =>
    cases Nat.le_zero.mp row
    exact ⟨rfl, List.forall_mem_nil _⟩
  | cons visit earlier ih =>
    obtain ⟨found, result⟩ := visit
    cases count with
    | zero => exact ⟨rfl, List.forall_mem_nil _⟩
    | succ count =>
      cases found with
      | opened | halfOpen => exact absurd row (Nat.not_succ_le_zero count)
      | closed =>
        cases result with
        | succeeded => exact absurd row (Nat.not_succ_le_zero count)
        | failed noted compared set =>
          have before : count ≤ failuresInARow settings earlier := by
            rw [failuresInARow] at row
            split at row <;> omega
          obtain ⟨length, failed⟩ := ih before
          rw [List.takeWhile_cons_of_pos (by simp), List.take_succ_cons, List.length_cons, length]
          exact ⟨rfl, List.forall_mem_cons.mpr ⟨rfl, failed⟩⟩

theorem le_failuresInARow (all : ((visits.takeWhile (·.found = .closed)).take count).length = count)
    (failed : ∀ visit ∈ (visits.takeWhile (·.found = .closed)).take count,
      ∃ noted compared set, visit.result = .failed noted compared set ∧
        isPast settings noted compared = false) :
    count ≤ failuresInARow settings visits := by
  induction visits generalizing count with
  | nil =>
    rw [List.takeWhile_nil, List.take_nil, List.length_nil] at all
    exact Nat.le_of_eq all.symm
  | cons visit earlier ih =>
    obtain ⟨found, result⟩ := visit
    cases count with
    | zero => exact Nat.zero_le _
    | succ count =>
      by_cases closed : found = .closed
      · subst closed
        rw [List.takeWhile_cons_of_pos (by simp), List.take_succ_cons] at all failed
        obtain ⟨⟨noted, compared, set, rfl, kept⟩, before⟩ := List.forall_mem_cons.mp failed
        rw [failuresInARow, if_neg (by rw [kept]; decide)]
        exact Nat.succ_le_succ (ih (Nat.succ.inj all) before)
      · rw [List.takeWhile_cons_of_neg (by simpa using closed), List.take_nil] at all
        cases all

theorem isRecent_of_isPast {noted compared now : Int} (past : isPast settings noted compared = true)
    (later : compared ≤ now) : isRecent settings now noted = false := by
  unfold isPast at past
  unfold isRecent Number.atLeast
  cases period : settings.monitoringPeriod with
  | nan | negInfinity => rfl
  | infinity =>
    rw [period] at past
    exact absurd (of_decide_eq_true past) (by simp [Number.lessThan, Number.int])
  | finite value =>
    rw [period, Number.int, Number.lessThan, decide_eq_true_eq, Option.some_inj,
      decide_eq_true_eq] at past
    have order : ((compared - noted : Int) : ℚ) ≤ ((now - noted : Int) : ℚ) := by
      exact_mod_cast Int.sub_le_sub_right later noted
    simp only [Number.int, Number.lessThan, decide_eq_true (lt_of_lt_of_le past order)]
    decide

end Rows

section Steps

variable {settings : BreakerSettings} {current : CircuitBreaker × List Visit} {call : Call}

/-- What the count of a breaker that is closed says of the calls before. -/
def Counts (settings : BreakerSettings) (current : CircuitBreaker × List Visit) : Prop :=
  current.1.state = .closed →
    current.1.failureCount = failuresInARow settings current.2.reverse

/-- The clock has not gone back before the call. -/
def Ticks (current : CircuitBreaker × List Visit) (call : Call) : Prop :=
  (∀ visit ∈ current.2, ∀ reading ∈ visit.result.readings, reading ≤ call.now) ∧
    call.readings.Pairwise (· ≤ ·)

theorem execute_closed_failed {breaker : CircuitBreaker} {now noted compared set : Int}
    (closed : breaker.state = .closed) :
    (execute settings breaker ⟨now, .failed noted compared set⟩).1.state = .opened ↔
      settings.failureThreshold ≤
        if isPast settings noted compared then 1 else breaker.failureCount + 1 := by
  unfold execute complete onFailure getRecentFailureCount
  rw [if_neg (by rw [closed]; decide)]
  dsimp only
  rw [if_neg (by rw [closed]; decide)]
  cases isPast settings noted compared with
  | true =>
    simp only [if_true]
    split
    · next reached => exact iff_of_true rfl reached
    · next short => exact iff_of_false (by rw [closed]; decide) short
  | false =>
    simp only [Bool.false_eq_true, if_false]
    split
    · next reached => exact iff_of_true rfl reached
    · next short => exact iff_of_false (by rw [closed]; decide) short

/-- The end of a call keeps the count of a breaker that is closed after it. -/
theorem failureCount_complete {breaker : CircuitBreaker} {result : CallResult}
    {earlier : List Visit}
    (counts : breaker.state = .closed → breaker.failureCount = failuresInARow settings earlier)
    (closed : (complete settings breaker result).state = .closed) :
    (complete settings breaker result).failureCount =
      failuresInARow settings (⟨breaker.state, result⟩ :: earlier) := by
  cases result with
  | succeeded =>
    have row : failuresInARow settings (⟨breaker.state, .succeeded⟩ :: earlier) = 0 := by
      cases breaker.state <;> rfl
    rw [row]
    unfold complete onSuccess
    dsimp only
    split
    · split <;> rfl
    · rfl
  | failed noted compared set =>
    unfold complete onFailure getRecentFailureCount at closed ⊢
    dsimp only at closed ⊢
    split at closed
    · cases closed
    · next whole =>
      rw [if_neg whole]
      cases past : isPast settings noted compared with
      | true =>
        simp only [past, if_true] at closed ⊢
        split at closed
        · cases closed
        · next short =>
          rw [if_neg short]
          rw [closed, failuresInARow, if_pos past]
      | false =>
        simp only [past, Bool.false_eq_true, if_false] at closed ⊢
        split at closed
        · cases closed
        · next short =>
          rw [if_neg short]
          rw [counts closed, closed, failuresInARow, if_neg (by rw [past]; decide)]

theorem counts_step (counts : Counts settings current) :
    Counts settings ((history settings).step current call).1 := by
  obtain ⟨breaker, visits⟩ := current
  intro closed
  have made (found : CircuitState) :
      (visits ++ (visitOf call (.completed found)).toList).reverse =
        ⟨found, call.result⟩ :: visits.reverse := by
    rw [visitOf, Option.toList_some, List.reverse_append]
    rfl
  change (execute settings breaker call).1.state = .closed at closed
  change (execute settings breaker call).1.failureCount = failuresInARow settings
    (visits ++ (visitOf call (execute settings breaker call).2).toList).reverse
  unfold execute at closed ⊢
  split at closed
  · next opened =>
    rw [if_pos opened]
    split at closed
    · cases opened.symm.trans closed
    · next admitted =>
      rw [if_neg admitted, made]
      exact failureCount_complete (fun half => by cases half) closed
  · next open' =>
    rw [if_neg open', made]
    exact failureCount_complete counts closed

theorem le_failuresInARow_of_due {noted compared set : Int} {visits : List Visit}
    (ticks : ∀ visit ∈ visits, ∀ reading ∈ visit.result.readings, reading ≤ compared)
    (due : Due settings (⟨.closed, .failed noted compared set⟩ :: visits) compared) :
    settings.failureThreshold ≤
      failuresInARow settings (⟨.closed, .failed noted compared set⟩ :: visits) := by
  obtain ⟨length, recent⟩ := due
  refine le_failuresInARow length fun visit member => ?_
  obtain ⟨time, failed, inside⟩ := recent visit member
  obtain ⟨found, result⟩ := visit
  cases result with
  | succeeded => cases failed
  | failed noted' compared' set' =>
    cases failed
    have order : compared' ≤ compared := by
      rcases List.mem_cons.mp (mem_of_mem_lastCalls member) with same | earlier
      · cases same
        exact Int.le_refl _
      · exact ticks _ earlier compared' (.tail _ (.head _))
    refine ⟨time, compared', set', rfl, ?_⟩
    by_contra past
    rw [isRecent_of_isPast (Bool.eq_true_of_not_eq_false past) order] at inside
    cases inside

theorem opensAsTold_iff (counts : Counts settings current) (ticks : Ticks current call) :
    OpensAsTold settings current call ↔ RowIsRecent settings current call := by
  obtain ⟨breaker, visits⟩ := current
  obtain ⟨now, result⟩ := call
  refine forall_congr' fun closed => forall_congr' fun noted => forall_congr' fun compared =>
    forall_congr' fun set => forall_congr' fun failed => ?_
  subst failed
  obtain ⟨before, order⟩ := ticks
  have early : now ≤ compared :=
    (List.pairwise_cons.mp order).1 compared (.tail _ (.head _))
  have row : failuresInARow settings (⟨.closed, .failed noted compared set⟩ :: visits.reverse) =
      if isPast settings noted compared then 1 else breaker.failureCount + 1 := by
    rw [failuresInARow, counts closed]
  have due := @le_failuresInARow_of_due settings noted compared set visits.reverse
    fun visit member reading there =>
      Int.le_trans (before visit (List.mem_reverse.mp member) reading there) early
  rw [execute_closed_failed closed, ← row]
  constructor
  · intro told reached visit member time there
    obtain ⟨time', there', recent⟩ := (told.mp reached).2 visit member
    rwa [Option.mem_unique there there']
  · intro recent
    refine ⟨fun reached => ?_, due⟩
    obtain ⟨length, failed⟩ := of_le_failuresInARow reached
    refine ⟨length, fun visit member => ?_⟩
    obtain ⟨time, there⟩ := Option.isSome_iff_exists.mp (failed visit member)
    exact ⟨time, there, recent reached visit member time there⟩

end Steps

/-- A run under a clock that does not go back, from any visits before it. -/
theorem admits_ticks {settings : BreakerSettings} {breaker : CircuitBreaker} {visits : List Visit}
    {calls : List Call} (clock : Nondecreasing calls)
    (before : ∀ visit ∈ visits, ∀ reading ∈ visit.result.readings,
      ∀ later ∈ calls.flatMap Call.readings, reading ≤ later) :
    (history settings).Admits Ticks (breaker, visits) calls := by
  induction calls generalizing breaker visits with
  | nil => trivial
  | cons call rest ih =>
    rw [Nondecreasing, List.flatMap_cons, List.pairwise_append] at clock
    obtain ⟨own, later, across⟩ := clock
    rw [List.flatMap_cons] at before
    refine ⟨⟨fun visit member reading there => ?_, own⟩, ih later ?_⟩
    · exact before visit member reading there call.now (List.mem_append_left _ (.head _))
    · intro visit member reading there next coming
      change visit ∈ visits ++ (visitOf call (execute settings breaker call).2).toList at member
      rcases List.mem_append.mp member with old | new
      · exact before visit old reading there next (List.mem_append_right _ coming)
      · refine across reading ?_ next coming
        cases made : (execute settings breaker call).2 with
        | refused =>
          rw [made] at new
          cases new
        | completed found =>
          rw [made, visitOf, Option.toList_some, List.mem_singleton] at new
          rw [new] at there
          exact .tail _ there

/-- The breaker opens as its parameters tell in exactly the runs in which every row of failures that
is long enough is recent. -/
theorem opens_as_told_iff (settings : BreakerSettings) (calls : List Call)
    (clock : Nondecreasing calls) :
    (history settings).Admits (OpensAsTold settings) ({}, []) calls ↔
      (history settings).Admits (RowIsRecent settings) ({}, []) calls :=
  Transducer.Admits.congr (fun _ _ counts _ => counts_step counts)
    (fun _ _ counts ticks => opensAsTold_iff counts ticks)
    (admits_ticks clock (List.forall_mem_nil _)) fun _ => rfl

/-- Of a breaker with the threshold one, the first failure. -/
theorem first_failure_told :
    (history ⟨1, .int 60000, .int 10000⟩).Admits (OpensAsTold ⟨1, .int 60000, .int 10000⟩)
      ({}, []) [⟨1000, .failed 1000 1000 1000⟩] := by
  refine (opens_as_told_iff _ _ (by decide)).mpr ⟨?_, trivial⟩
  rintro - noted compared set failed - visit member time there
  cases failed
  rw [lastCalls, List.takeWhile_cons_of_pos (by simp), List.take_succ_cons] at member
  cases List.mem_singleton.mp member
  cases there
  decide +kernel

def defaultSettings : BreakerSettings := ⟨5, .int 60000, .int 10000⟩

def failureEveryHour (hours : Nat) : List Call :=
  (List.range hours).map fun hour =>
    let time : Int := 1000 + 3600000 * hour
    ⟨time, .failed time time time⟩

/-- The fifth of them opens the breaker. -/
theorem hourly_failures_open : Nondecreasing (failureEveryHour 5) ∧
      ((history defaultSettings).run ({}, []) (failureEveryHour 5)).1.state = .opened ∧
      ¬ (history defaultSettings).Admits (OpensAsTold defaultSettings) ({}, [])
        (failureEveryHour 5) := by
  have opens : (execute defaultSettings
      ((history defaultSettings).run ({}, []) (failureEveryHour 4)).1
      ⟨14401000, .failed 14401000 14401000 14401000⟩).1.state = .opened := by decide +kernel
  refine ⟨by decide +kernel, by decide +kernel, fun told => ?_⟩
  have split : failureEveryHour 5 =
      failureEveryHour 4 ++ [⟨14401000, .failed 14401000 14401000 14401000⟩] := by decide +kernel
  rw [split, Transducer.admits_append] at told
  obtain ⟨-, fifth, -⟩ := told
  obtain ⟨-, recent⟩ := (fifth (by decide +kernel) _ _ _ rfl).mp opens
  obtain ⟨time, failed, inside⟩ := recent ⟨.closed, .failed 1000 1000 1000⟩ (by decide +kernel)
  cases failed
  revert inside
  decide +kernel

end CircuitBreaker

end Caas.Gateway
