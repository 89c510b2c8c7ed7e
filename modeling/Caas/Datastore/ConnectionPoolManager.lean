import Caas.Datastore.ConnectionPool
import Caas.Datastore.ControlPlaneService
import Caas.Js.ObjectMap

/-!
# The connection pool manager

The manager holds one pool for each provider and tenant, and hands it out: the holder of a pool
goes on using it, also when the manager has dropped it. Asking the manager for metrics forgets old
requests of the pools that are asked. `pools_are_private` says that no holder notices.

A call for metrics reads the clock once for all pools.
-/

namespace Caas.Datastore

open Js

/-- The text under which the manager keeps a pool. -/
def poolKey (provider : ProviderId) (tenantId : String) : String :=
  provider.name ++ "::" ++ tenantId

abbrev ConnectionPoolManager := ObjectMap String TenantPool

namespace ConnectionPoolManager

/-- Which pools a call for metrics asks. -/
inductive MetricsScope where
  | all
  | ofTenant (tenantId : String)
  | ofProvider (provider : ProviderId)

def MetricsScope.covers (pool : TenantPool) : MetricsScope → Bool
  | .all => true
  | .ofTenant tenantId => pool.config.tenantId = tenantId
  | .ofProvider provider => pool.config.provider = provider

variable (percent : Int → Int → Int) (manager : ConnectionPoolManager)

/-- The pool, as a reference. -/
def getOrCreate (provider : ProviderId) (tenantId : String) (config : PoolConfigPatch) :
    ConnectionPoolManager × Reference :=
  match manager.references.get (poolKey provider tenantId) with
  | some reference => (manager, reference)
  | none =>
    (manager.add (poolKey provider tenantId)
      (.new (({ provider, tenantId } : PoolConfig).assign config)), manager.objects.length)

def removePool (provider : ProviderId) (tenantId : String) : ConnectionPoolManager × Bool :=
  (manager.delete (poolKey provider tenantId),
    (manager.references.get (poolKey provider tenantId)).isSome)

/-- Forget the old requests of a pool that is asked for its metrics. -/
def asked (scope : MetricsScope) (now : Int) (pool : TenantPool) : TenantPool :=
  if scope.covers pool then (pool.getMetrics percent now).1 else pool

/-- `getAllMetrics`, `getMetricsByTenant` and `getMetricsByProvider` -/
def getMetrics (scope : MetricsScope) (now : Int) : ConnectionPoolManager × List PoolMetrics :=
  (manager.references.values.foldl (fun manager reference =>
      manager.edit reference (asked percent scope now)) manager,
    (manager.view.values.filter fun pool => scope.covers pool).map fun pool =>
      (pool.getMetrics percent now).2)

/-- A call of the manager, or of a pool by one of its holders. -/
inductive Call where
  | getOrCreate (provider : ProviderId) (tenantId : String) (config : PoolConfigPatch)
  | removePool (provider : ProviderId) (tenantId : String)
  | getMetrics (scope : MetricsScope) (now : Int)
  | onPool (reference : Reference) (call : TenantPool.Call)

inductive Reply where
  | pool (reference : Reference)
  | removed (removed : Bool)
  | metrics (metrics : List PoolMetrics)
  | ofPool (reply : Option TenantPool.Reply)

/-- The manager and the pools that it has handed out, one call at a time. -/
def machine : Transducer ConnectionPoolManager Call Reply where
  step manager
    | .getOrCreate provider tenantId config =>
      (manager.getOrCreate provider tenantId config).map id .pool
    | .removePool provider tenantId => (manager.removePool provider tenantId).map id .removed
    | .getMetrics scope now => (getMetrics percent manager scope now).map id .metrics
    | .onPool reference call =>
      (manager.edit reference fun pool => ((TenantPool.machine percent).step pool call).1,
        .ofPool ((manager.read reference).map fun pool =>
          ((TenantPool.machine percent).step pool call).2))

/-- The readings of the clock that a call makes. -/
def readings : Call → List Int
  | .getMetrics _ now => [now]
  | .onPool _ call => TenantPool.readings call
  | _ => []

/-- The call on the pool behind a reference, if it is one. -/
def callOn (reference : Reference) : Call → Option TenantPool.Call
  | .onPool other call => if other = reference then some call else none
  | _ => none

/-- What the pool behind a reference replies in a run. -/
def repliesOf (reference : Reference) (calls : List Call) : List TenantPool.Reply :=
  ((machine percent).trace manager calls).filterMap fun (call, reply) =>
    match callOn reference call, reply with
    | some _, .ofPool reply => reply
    | _, _ => none

section Private

variable {percent : Int → Int → Int} {manager : ConnectionPoolManager} {pool other : TenantPool}
  {reference : Reference} {rest : List Int}

/-- The pools look the same at the times that are left. -/
def Alike (rest : List Int) (pool other : TenantPool) : Prop :=
  ∀ now ∈ rest, pool.pruneTimestamps now = other.pruneTimestamps now

theorem pruneTimestamps_twice {now later : Int} (order : now ≤ later) (pool : TenantPool) :
    (pool.pruneTimestamps now).pruneTimestamps later = pool.pruneTimestamps later := by
  have kept (time : Int) : (now - 1000 < time ∧ later - 1000 < time) ↔ later - 1000 < time := by
    omega
  simp [TenantPool.pruneTimestamps, List.filter_filter, ← Bool.decide_and, and_comm, kept]

/-- One call on two pools that look the same. -/
theorem Alike.step {call : TenantPool.Call} (alike : Alike (TenantPool.readings call ++ rest) pool other) :
    Alike rest ((TenantPool.machine percent).step pool call).1
        ((TenantPool.machine percent).step other call).1 ∧
      ((TenantPool.machine percent).step pool call).2 =
        ((TenantPool.machine percent).step other call).2 := by
  cases call with
  | acquire now stamp =>
    have same : pool.acquire now stamp = other.acquire now stamp := by
      unfold TenantPool.acquire
      rw [alike now List.mem_cons_self]
    simp [TenantPool.machine, same, Alike]
  | release =>
    exact ⟨fun now member => congrArg TenantPool.release (alike now member), rfl⟩
  | getMetrics now =>
    have same : pool.getMetrics percent now = other.getMetrics percent now := by
      unfold TenantPool.getMetrics
      rw [alike now List.mem_cons_self]
    simp [TenantPool.machine, same, Alike]
  | updateConfig patch =>
    exact ⟨fun now member => congrArg (TenantPool.updateConfig · patch) (alike now member), rfl⟩

theorem Alike.asked {scope : MetricsScope} {now : Int} (alike : Alike rest pool other)
    (order : ∀ later ∈ rest, now ≤ later) : Alike rest (asked percent scope now pool) other := by
  intro later member
  unfold ConnectionPoolManager.asked
  split
  · exact (pruneTimestamps_twice (order later member) pool).trans (alike later member)
  · exact alike later member

/-- The pool behind the reference looks like the other one at the times that are left. -/
def Stands (reference : Reference) (rest : List Int) (other : TenantPool)
    (manager : ConnectionPoolManager) : Prop :=
  ∃ pool, manager.read reference = some pool ∧ Alike rest pool other

theorem Stands.edit (stands : Stands reference rest other manager) {edited : Reference}
    {change : TenantPool → TenantPool}
    (keeps : edited = reference → ∀ pool, Alike rest pool other → Alike rest (change pool) other) :
    Stands reference rest other (manager.edit edited change) := by
  obtain ⟨pool, found, alike⟩ := stands
  by_cases same : edited = reference
  · exact ⟨change pool, by simp [ObjectMap.read_edit, same, found], keeps same pool alike⟩
  · exact ⟨pool, by simp [ObjectMap.read_edit, same, found], alike⟩

theorem Stands.getMetrics {scope : MetricsScope} {now : Int}
    (stands : Stands reference rest other manager) (order : ∀ later ∈ rest, now ≤ later) :
    Stands reference rest other (getMetrics percent manager scope now).1 := by
  unfold ConnectionPoolManager.getMetrics
  generalize manager.references.values = references
  induction references generalizing manager with
  | nil => exact stands
  | cons edited references ih =>
    exact ih (stands.edit fun _ _ alike => alike.asked order)

theorem Stands.mono {later : List Int} (stands : Stands reference rest other manager)
    (fewer : ∀ now ∈ later, now ∈ rest) : Stands reference later other manager := by
  obtain ⟨pool, found, alike⟩ := stands
  exact ⟨pool, found, fun now member => alike now (fewer now member)⟩

theorem Stands.getOrCreate (stands : Stands reference rest other manager) (provider : ProviderId)
    (tenantId : String) (config : PoolConfigPatch) :
    Stands reference rest other (manager.getOrCreate provider tenantId config).1 := by
  unfold ConnectionPoolManager.getOrCreate
  split
  · exact stands
  · obtain ⟨pool, found, alike⟩ := stands
    exact ⟨pool, (ObjectMap.read_add_of_lt _ _ (ObjectMap.lt_of_read found)).trans found, alike⟩

theorem replies_of_stands {calls : List Call}
    (stands : Stands reference (calls.flatMap readings) other manager)
    (clock : (calls.flatMap readings).Pairwise (· ≤ ·)) :
    repliesOf percent manager reference calls =
      (TenantPool.machine percent).outputs other (calls.filterMap (callOn reference)) := by
  induction calls generalizing manager other with
  | nil => rfl
  | cons call rest ih =>
    rw [List.flatMap_cons] at stands clock
    obtain ⟨-, ordered, order⟩ := List.pairwise_append.mp clock
    have later := stands.mono fun now member => List.mem_append_right (readings call) member
    cases call with
    | getOrCreate provider tenantId config =>
      exact ih (later.getOrCreate provider tenantId config) ordered
    | removePool provider tenantId => exact ih later ordered
    | getMetrics scope now =>
      exact ih (later.getMetrics (order now List.mem_cons_self)) ordered
    | onPool edited call =>
      by_cases same : edited = reference
      · subst same
        obtain ⟨pool, found, alike⟩ := stands
        obtain ⟨next, replies⟩ := @Alike.step percent pool other _ call alike
        have after : Stands edited _ _ (manager.edit edited fun pool =>
            ((TenantPool.machine percent).step pool call).1) :=
          ⟨_, ObjectMap.read_edit_self _ found, next⟩
        have remaining := ih after ordered
        simp only [repliesOf, Transducer.trace, machine, callOn, List.filterMap_cons, found,
          Option.map_some, if_true, replies, Transducer.outputs_cons, ← remaining]
      · have after : Stands reference _ other (manager.edit edited fun pool =>
            ((TenantPool.machine percent).step pool call).1) :=
          later.edit fun here => absurd here same
        have remaining := ih after ordered
        simp only [repliesOf, Transducer.trace, machine, callOn, List.filterMap_cons, if_neg same,
          ← remaining]

/-- The holder of a pool gets the replies of a pool that is used by nobody else, whatever other
pools the manager makes or drops and whatever metrics it is asked for, if the clock does not go
back. -/
theorem pools_are_private (percent : Int → Int → Int) (manager : ConnectionPoolManager)
    (calls : List Call) (found : manager.read reference = some pool)
    (clock : (calls.flatMap readings).Pairwise (· ≤ ·)) :
    repliesOf percent manager reference calls =
      (TenantPool.machine percent).outputs pool (calls.filterMap (callOn reference)) :=
  replies_of_stands ⟨pool, found, fun _ _ => rfl⟩ clock

end Private

section Sample

/-- A manager that has handed out a pool. -/
def sampleManager : ConnectionPoolManager :=
  (getOrCreate .empty .mongodb "acme" { maxConnections := some 1 }).1

/-- The pool is used, asked for its metrics, dropped, and used again. -/
def sampleCalls : List Call :=
  [.onPool 0 (.acquire 0 0), .getOrCreate .mongodb "other" {}, .getMetrics (.ofTenant "acme") 1500,
    .onPool 0 (.acquire 1600 1600), .removePool .mongodb "acme", .onPool 0 .release,
    .onPool 0 (.acquire 1700 1700)]

theorem pools_are_private_sample : repliesOf (fun _ _ => 0) sampleManager 0 sampleCalls =
    [.granted true, .granted false, .done, .granted true] :=
  (pools_are_private _ sampleManager sampleCalls rfl (by decide)).trans (by decide +kernel)

end Sample

end ConnectionPoolManager

end Caas.Datastore
