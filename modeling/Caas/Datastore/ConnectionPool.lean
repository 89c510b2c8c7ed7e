import Mathlib.Algebra.Order.Group.Int
import Caas.Datastore.Types
import Caas.Machine.SlidingWindow
import Caas.Machine.Transducer

/-!
# Connection pools

A tenant's pool counts its active and idle connections and limits the acquisitions of
the last second. It hands out no connections, only permissions. Counts, limits and times
are whole numbers.
-/

namespace Caas.Datastore

structure PoolConfig where
  provider : ProviderId
  tenantId : String
  maxConnections : Int := 10
  minConnections : Int := 1
  acquireTimeoutMs : Int := 5000
  idleTimeoutMs : Int := 60000
  maxRps : Int := 200
deriving DecidableEq

structure PoolConfigPatch where
  maxConnections : Option Int := none
  minConnections : Option Int := none
  acquireTimeoutMs : Option Int := none
  idleTimeoutMs : Option Int := none
  maxRps : Option Int := none

/-- `Object.assign(config, patch)`. -/
def PoolConfig.assign (config : PoolConfig) (patch : PoolConfigPatch) : PoolConfig :=
  { config with
    maxConnections := patch.maxConnections.getD config.maxConnections
    minConnections := patch.minConnections.getD config.minConnections
    acquireTimeoutMs := patch.acquireTimeoutMs.getD config.acquireTimeoutMs
    idleTimeoutMs := patch.idleTimeoutMs.getD config.idleTimeoutMs
    maxRps := patch.maxRps.getD config.maxRps }

structure PoolMetrics where
  provider : ProviderId
  tenantId : String
  activeConnections : Int
  idleConnections : Int
  totalConnections : Int
  waitingRequests : Int
  requestsPerSecond : Int
  throttledCount : Int
  saturationPct : Int
deriving DecidableEq

structure TenantPool where
  config : PoolConfig
  active : Int := 0
  idle : Int
  waiting : Int := 0
  throttledCount : Int := 0
  requestTimestamps : List Int := []
deriving DecidableEq

namespace TenantPool

def new (config : PoolConfig) : TenantPool := { config, idle := config.minConnections }

variable (pool : TenantPool)

def pruneTimestamps (now : Int) : TenantPool :=
  let oneSecAgo := now - 1000
  { pool with requestTimestamps := pool.requestTimestamps.filter fun t => oneSecAgo < t }

/-- Acquire a connection slot at `now`; a granted one is stamped with a second reading of
the clock. -/
def acquire (now stamp : Int) : TenantPool × Bool :=
  let pool := pool.pruneTimestamps now
  if pool.config.maxRps ≤ pool.requestTimestamps.length then
    ({ pool with throttledCount := pool.throttledCount + 1 }, false)
  else if pool.config.maxConnections ≤ pool.active then
    ({ pool with waiting := pool.waiting + 1 }, false)
  else
    ({ pool with
        active := pool.active + 1
        idle := if 0 < pool.idle then pool.idle - 1 else pool.idle
        requestTimestamps := pool.requestTimestamps ++ [stamp] }, true)

/-- Release a connection slot back to the pool. -/
def release : TenantPool :=
  let active := if 0 < pool.active then pool.active - 1 else pool.active
  { pool with
    active
    idle := if active + pool.idle < pool.config.maxConnections then pool.idle + 1 else pool.idle
    waiting := if 0 < pool.waiting then pool.waiting - 1 else pool.waiting }

/-- `percent active max` is what `Math.round((active / max) * 100)` gives. -/
def getMetrics (percent : Int → Int → Int) (now : Int) : TenantPool × PoolMetrics :=
  let pool := pool.pruneTimestamps now
  (pool,
    { provider := pool.config.provider
      tenantId := pool.config.tenantId
      activeConnections := pool.active
      idleConnections := pool.idle
      totalConnections := pool.active + pool.idle
      waitingRequests := pool.waiting
      requestsPerSecond := pool.requestTimestamps.length
      throttledCount := pool.throttledCount
      saturationPct :=
        if pool.config.maxConnections > 0 then percent pool.active pool.config.maxConnections
        else 0 })

def updateConfig (patch : PoolConfigPatch) : TenantPool :=
  { pool with config := pool.config.assign patch }

/-- A call of the pool, with its readings of the clock. -/
inductive Call where
  | acquire (now stamp : Int)
  | release
  | getMetrics (now : Int)
  | updateConfig (patch : PoolConfigPatch)

inductive Reply where
  | granted (granted : Bool)
  | done
  | metrics (metrics : PoolMetrics)
deriving DecidableEq

def machine (percent : Int → Int → Int) : Transducer TenantPool Call Reply where
  step pool
    | .acquire now stamp =>
      let (after, granted) := pool.acquire now stamp
      (after, .granted granted)
    | .release => (pool.release, .done)
    | .getMetrics now =>
      let (after, metrics) := pool.getMetrics percent now
      (after, .metrics metrics)
    | .updateConfig patch => (pool.updateConfig patch, .done)

end TenantPool

end Caas.Datastore

/-!
## The limits of a connection pool

The counters of a pool stay within its limit whatever is acquired and released, surplus
releases included. The times that the pool keeps are a fraction of its grants, but they
are all that counts towards any second that is not over.
-/

namespace Caas.Datastore

namespace TenantPool

variable {percent : Int → Int → Int} {pool : TenantPool}

section Accounting

/-- The call leaves the limit on connections as it is. -/
def KeepsLimit (pool : TenantPool) : Call → Prop
  | .updateConfig patch =>
    ∀ maxConnections, patch.maxConnections = some maxConnections →
      maxConnections = pool.config.maxConnections
  | _ => True

def grants (pool : TenantPool) : Call → Bool
  | .acquire now stamp => (pool.acquire now stamp).2
  | _ => false

/-- The call is a release that finds an active connection. -/
def frees (pool : TenantPool) : Call → Bool
  | .release => 0 < pool.active
  | _ => false

/-- The counters are within the limit. -/
structure Within (maxConnections : Int) (pool : TenantPool) : Prop where
  limit : pool.config.maxConnections = maxConnections
  active_nonneg : 0 ≤ pool.active
  active_le : pool.active ≤ maxConnections
  idle_nonneg : 0 ≤ pool.idle
  total_le : pool.active + pool.idle ≤ maxConnections

theorem acquire_cases (now stamp : Int) : (∃ throttledCount waiting, pool.acquire now stamp =
        ({ pool.pruneTimestamps now with throttledCount, waiting }, false)) ∨
      (pool.active < pool.config.maxConnections ∧
        ((pool.pruneTimestamps now).requestTimestamps.length : Int) < pool.config.maxRps ∧
        pool.acquire now stamp =
          ({ pool.pruneTimestamps now with
              active := pool.active + 1
              idle := if 0 < pool.idle then pool.idle - 1 else pool.idle
              requestTimestamps := (pool.pruneTimestamps now).requestTimestamps ++ [stamp] },
            true)) := by
  by_cases throttled : (pool.pruneTimestamps now).config.maxRps ≤
      (pool.pruneTimestamps now).requestTimestamps.length
  · left
    exact ⟨pool.throttledCount + 1, pool.waiting, if_pos throttled⟩
  · by_cases saturated : (pool.pruneTimestamps now).config.maxConnections ≤
        (pool.pruneTimestamps now).active
    · left
      exact ⟨pool.throttledCount, pool.waiting + 1, (if_neg throttled).trans (if_pos saturated)⟩
    · right
      exact ⟨Int.not_le.mp saturated, Int.not_le.mp throttled,
        (if_neg throttled).trans (if_neg saturated)⟩

theorem Within.step {maxConnections : Int} (within : Within maxConnections pool) {call : Call}
    (keeps : KeepsLimit pool call) :
    Within maxConnections ((machine percent).step pool call).1 := by
  obtain ⟨limit, active_nonneg, active_le, idle_nonneg, total_le⟩ := within
  cases call with
  | acquire now stamp =>
    obtain ⟨throttledCount, waiting, denied⟩ | ⟨room, _, granted⟩ :=
      @acquire_cases pool now stamp
    · simp only [machine, denied]
      exact ⟨limit, active_nonneg, active_le, idle_nonneg, total_le⟩
    · simp only [machine, granted]
      constructor <;> dsimp only [pruneTimestamps] <;> omega
  | release =>
    simp only [machine, release]
    constructor <;> dsimp only <;> omega
  | getMetrics now => exact ⟨limit, active_nonneg, active_le, idle_nonneg, total_le⟩
  | updateConfig patch =>
    refine ⟨?_, active_nonneg, active_le, idle_nonneg, total_le⟩
    rw [← limit]
    change patch.maxConnections.getD pool.config.maxConnections = pool.config.maxConnections
    cases given : patch.maxConnections with
    | none => rfl
    | some maxConnections => exact keeps maxConnections given

theorem within_new {config : PoolConfig} (nonneg : 0 ≤ config.minConnections)
    (le : config.minConnections ≤ config.maxConnections) :
    Within config.maxConnections (new config) := by
  constructor <;> dsimp only [new] <;> omega

/-- A denied acquisition leaves the counters alone. -/
def DeniedKeeps (percent : Int → Int → Int) (pool : TenantPool) (call : Call) : Prop :=
  ∀ now stamp, call = .acquire now stamp →
    ((machine percent).step pool call).2 = .granted false →
    ((machine percent).step pool call).1.active = pool.active ∧
      ((machine percent).step pool call).1.idle = pool.idle

theorem deniedKeeps (pool : TenantPool) (call : Call) : DeniedKeeps percent pool call := by
  rintro now stamp rfl denial
  obtain ⟨throttledCount, waiting, denied⟩ | ⟨_, _, granted⟩ := @acquire_cases pool now stamp
  · simp only [machine, denied]
    exact ⟨rfl, rfl⟩
  · simp only [machine, granted] at denial
    cases denial

theorem active_step (pool : TenantPool) (call : Call) :
    ((machine percent).step pool call).1.active =
      pool.active + (if grants pool call then 1 else 0) - (if frees pool call then 1 else 0) := by
  cases call with
  | acquire now stamp =>
    simp only [machine, grants, frees]
    obtain ⟨throttledCount, waiting, denied⟩ | ⟨_, _, granted⟩ := @acquire_cases pool now stamp
    · simp [denied, pruneTimestamps]
    · simp [granted]
  | release =>
    simp only [machine, release, grants, frees, decide_eq_true_eq]
    split <;> simp
  | getMetrics now => simp [machine, getMetrics, pruneTimestamps, grants, frees]
  | updateConfig patch => simp [machine, updateConfig, grants, frees]

/-- In every state that a pool reaches with its limit unchanged, the counters are within
the limit and balance the acquisitions and releases, and no denied acquisition changes
them. -/
theorem pool_accounting (percent : Int → Int → Int) (config : PoolConfig)
    (nonneg : 0 ≤ config.minConnections) (le : config.minConnections ≤ config.maxConnections)
    (calls : List Call) (kept : (machine percent).Admits KeepsLimit (new config) calls) :
    Within config.maxConnections ((machine percent).run (new config) calls) ∧
      ((machine percent).run (new config) calls).active =
        (machine percent).count grants (new config) calls -
          (machine percent).count frees (new config) calls ∧
      (machine percent).Admits (DeniedKeeps percent) (new config) calls := by
  refine ⟨?_, ?_, ?_⟩
  · exact kept.invariant (fun _ _ within keeps => Within.step within keeps) (within_new nonneg le)
  · rw [Transducer.balance active_step]
    change 0 + _ - _ = _
    rw [Int.zero_add]
  · exact Transducer.admits_of_forall deniedKeeps _ _

/-- A pool of three connections and three acquisitions a second. -/
def sampleConfig : PoolConfig :=
  { provider := .mongodb, tenantId := "t", maxConnections := 3, maxRps := 3 }

/-- Four acquisitions, a surplus of releases and one more acquisition. -/
def surplus : List Call :=
  [.acquire 0 0, .acquire 1 1, .acquire 2 2, .acquire 1500 1500, .release, .release, .release,
    .release, .acquire 1600 1600]

theorem pool_accounting_of_surplus :
    Within 3 ((machine fun _ _ => 0).run (new sampleConfig) surplus) ∧
      ((machine fun _ _ => 0).run (new sampleConfig) surplus).active =
        (machine fun _ _ => 0).count grants (new sampleConfig) surplus -
          (machine fun _ _ => 0).count frees (new sampleConfig) surplus ∧
      (machine fun _ _ => 0).Admits (DeniedKeeps fun _ _ => 0) (new sampleConfig) surplus := by
  refine pool_accounting _ sampleConfig (by decide) (by decide) surplus ?_
  exact ⟨trivial, trivial, trivial, trivial, trivial, trivial, trivial, trivial, trivial, trivial⟩

end Accounting

section Rate

open SlidingWindow

/-- The call does not lower the rate limit. -/
def NeverLowers (pool : TenantPool) : Call → Prop
  | .updateConfig patch => ∀ maxRps, patch.maxRps = some maxRps → pool.config.maxRps ≤ maxRps
  | _ => True

/-- The readings of the clock that a call makes, in their order. A denied acquisition makes
its first one only; its stamp may be any later time. -/
def readings : Call → List Int
  | .acquire now stamp => [now, stamp]
  | .getMetrics now => [now]
  | .release | .updateConfig _ => []

def grantTime : Call → Reply → Option Int
  | .acquire _ stamp, .granted true => some stamp
  | _, _ => none

/-- The kept times cover every second that is not over, and no second has more grants than
the limit allows. -/
structure Limited (rest : List Int) (pool : TenantPool) (granted : List Int) : Prop where
  covers : ∀ now ∈ rest, Covers 1000 now pool.requestTimestamps granted
  bounded : Bounded 1000 pool.config.maxRps.toNat granted

variable {granted rest : List Int}

theorem Limited.prune {now : Int} (limited : Limited (now :: rest) pool granted)
    (order : ∀ later ∈ rest, now ≤ later) : Limited rest (pool.pruneTimestamps now) granted where
  covers later member :=
    (limited.covers later (List.mem_cons_of_mem _ member)).prune (order later member)
  bounded := limited.bounded

theorem Limited.acquire {now stamp : Int} (limited : Limited (now :: stamp :: rest) pool granted)
    (sorted : (now :: stamp :: rest).Pairwise (· ≤ ·)) : Limited rest (pool.acquire now stamp).1
      (granted ++
        (grantTime (.acquire now stamp) (.granted (pool.acquire now stamp).2)).toList) := by
  rw [List.pairwise_cons] at sorted
  have pruned := limited.prune sorted.1
  obtain ⟨throttledCount, waiting, denied⟩ | ⟨_, room, grant⟩ := @acquire_cases pool now stamp
  · rw [denied]
    simp only [grantTime, Option.toList_none, List.append_nil]
    exact ⟨fun later member => pruned.covers later (List.mem_cons_of_mem _ member), limited.bounded⟩
  · rw [grant]
    constructor
    · intro later member
      exact (pruned.covers later (List.mem_cons_of_mem _ member)).push stamp
    · have kept : (pool.pruneTimestamps now).requestTimestamps = recent 1000 now granted :=
        limited.covers now List.mem_cons_self
      rw [kept] at room
      refine limited.bounded.push (sorted.1 stamp List.mem_cons_self) ?_
      omega

theorem Limited.step {call : Call} (limited : Limited (readings call ++ rest) pool granted)
    (sorted : (readings call ++ rest).Pairwise (· ≤ ·)) (raises : NeverLowers pool call) :
    Limited rest ((machine percent).step pool call).1
      (granted ++ (grantTime call ((machine percent).step pool call).2).toList) := by
  cases call with
  | acquire now stamp => exact limited.acquire sorted
  | release =>
    simp only [grantTime, Option.toList_none, List.append_nil]
    exact ⟨limited.covers, limited.bounded⟩
  | getMetrics now =>
    simp only [grantTime, Option.toList_none, List.append_nil]
    exact limited.prune (List.pairwise_cons.mp sorted).1
  | updateConfig patch =>
    simp only [grantTime, Option.toList_none, List.append_nil]
    refine ⟨limited.covers, limited.bounded.mono (Int.toNat_le_toNat ?_)⟩
    change pool.config.maxRps ≤ patch.maxRps.getD pool.config.maxRps
    cases given : patch.maxRps with
    | none => exact Int.le_refl _
    | some maxRps => exact raises maxRps given

theorem Limited.run {calls : List Call} (limited : Limited (calls.flatMap readings) pool granted)
    (sorted : (calls.flatMap readings).Pairwise (· ≤ ·))
    (raised : (machine percent).Admits NeverLowers pool calls) :
    Limited [] (((machine percent).recording grantTime).run (pool, granted) calls).1
      (((machine percent).recording grantTime).run (pool, granted) calls).2 := by
  induction calls generalizing pool granted with
  | nil => exact limited
  | cons call rest ih =>
    rw [List.flatMap_cons] at limited sorted
    exact ih (limited.step sorted raised.1) (List.pairwise_append.mp sorted).2.1 raised.2

/-- Under a clock that does not go back and a rate limit that is never lowered, every window
of a second has at most as many granted acquisitions as the limit says. -/
theorem rate_limit (percent : Int → Int → Int) (config : PoolConfig) (calls : List Call)
    (clock : (calls.flatMap readings).Pairwise (· ≤ ·))
    (raised : (machine percent).Admits NeverLowers (new config) calls) :
    let final := ((machine percent).recording grantTime).run (new config, []) calls
    ∀ t, (final.2.filter fun time => t - 1000 < time ∧ time ≤ t).length ≤
      final.1.config.maxRps.toNat := by
  have start : Limited (calls.flatMap readings) (new config) [] :=
    ⟨fun _ _ => rfl, bounded_nil _⟩
  exact (start.run clock raised).bounded

/-- Three acquisitions, one too many, and one after the first second. -/
def burst : List Call :=
  [.updateConfig { maxRps := some 3 }, .acquire 0 0, .acquire 400 401, .release,
    .acquire 500 500, .acquire 900 900, .getMetrics 950, .acquire 1001 1001]

theorem rate_limit_of_burst :
    let final := ((machine fun _ _ => 0).recording grantTime).run (new sampleConfig, []) burst
    ∀ t, (final.2.filter fun time => t - 1000 < time ∧ time ≤ t).length ≤
      final.1.config.maxRps.toNat := by
  refine rate_limit _ sampleConfig burst (by decide) ⟨?_, ?_⟩
  · rintro maxRps ⟨⟩
    exact Int.le_refl _
  · exact ⟨trivial, trivial, trivial, trivial, trivial, trivial, trivial, trivial⟩

end Rate

end TenantPool

end Caas.Datastore
