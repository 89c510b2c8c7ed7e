import Mathlib.Algebra.Order.Ring.Int
import Caas.Machine.Transducer
import Caas.Redis.ExpiringMap

/-!
# The quota service

How much a tenant stores is counted in the database and cached in Redis. A change of what is
stored is followed by an increment of the cached number; Redis creates a missing number as zero
first, and lets what it creates so live for ever.

The sizes a tenant stores are a list of numbers. Decimal texts in Redis are the integers they
stand for.
-/

namespace Caas.Media.QuotaService

open Redis Js ExpiringMap

/-- What the tenants store, and the cached numbers. -/
structure QuotaState where
  sizes : String → List Int
  cache : ExpiringMap String Int
  now : Nat

structure QuotaCheck where
  used : Int
  limit : Int
  remaining : Int

def quotaKey (tenantId : String) : String := "quota:" ++ tenantId

def defaultLimit : Int := 1024 * 1024 * 1024

def getTotalSize (state : QuotaState) (tenantId : String) : Int := (state.sizes tenantId).sum

def getUsage (state : QuotaState) (tenantId : String) : QuotaState × Int :=
  match state.cache.lookup state.now (quotaKey tenantId) with
  | some cached => (state, cached)
  | none =>
    let usage := getTotalSize state tenantId
    ({ state with cache := state.cache.store state.now (quotaKey tenantId) 3600 usage }, usage)

def getLimit (_tenantId : String) : Int := defaultLimit

def checkQuota (state : QuotaState) (tenantId : String) (fileSize : Int) :
    QuotaState × Except String QuotaCheck :=
  let (state, usage) := getUsage state tenantId
  let limit := getLimit tenantId
  if usage + fileSize > limit then
    (state, .error s!"Storage quota exceeded. Used: {usage}, Limit: {limit}, Requested: {fileSize}")
  else (state, .ok { used := usage, limit, remaining := limit - usage })

/-- `INCRBY` keeps the expiry of a number that exists. -/
def updateUsage (state : QuotaState) (tenantId : String) (delta : Int) : QuotaState :=
  let current := (state.cache.lookup state.now (quotaKey tenantId)).getD 0
  { state with cache := state.cache.replace state.now (quotaKey tenantId) (current + delta) }

def recalculateUsage (state : QuotaState) (tenantId : String) : QuotaState × Int :=
  let usage := getTotalSize state tenantId
  ({ state with cache := OrderedMap.set state.cache (quotaKey tenantId) ⟨usage, none⟩ }, usage)

/-- What happens to the service. A change of the sizes of a tenant, of any kind, is followed by
the update for the difference it makes. -/
inductive Operation where
  | change (tenantId : String) (sizes : List Int)
  | getUsage (tenantId : String)
  | checkQuota (tenantId : String) (fileSize : Int)
  | recalculateUsage (tenantId : String)
  | elapse (milliseconds : Nat)

def execute (state : QuotaState) : Operation → QuotaState
  | .change tenantId sizes =>
    let changed := { state with sizes := Function.update state.sizes tenantId sizes }
    updateUsage changed tenantId (getTotalSize changed tenantId - getTotalSize state tenantId)
  | .getUsage tenantId => (getUsage state tenantId).1
  | .checkQuota tenantId fileSize => (checkQuota state tenantId fileSize).1
  | .recalculateUsage tenantId => (recalculateUsage state tenantId).1
  | .elapse milliseconds => { state with now := state.now + milliseconds }

def machine : Transducer QuotaState Operation Unit where
  step state operation := (execute state operation, ())

def start (sizes : String → List Int) : QuotaState := ⟨sizes, .empty, 0⟩

/-- The usage of every tenant, asked for now, is what the tenant stores. -/
def UsageAgrees (state : QuotaState) : Prop :=
  ∀ tenantId, (getUsage state tenantId).2 = getTotalSize state tenantId

/-- A tenant whose number is missing when an update comes has stored nothing before. -/
def CountedFromZero (state : QuotaState) : Operation → Prop
  | .change tenantId _ =>
    state.cache.lookup state.now (quotaKey tenantId) = none → getTotalSize state tenantId = 0
  | _ => True

theorem quotaKey_injective {tenantId other : String} :
    quotaKey tenantId = quotaKey other ↔ tenantId = other := by
  constructor
  · intro same
    have texts := congrArg String.toList same
    simp only [quotaKey, String.toList_append, List.append_cancel_left_eq] at texts
    exact String.toList_inj.mp texts
  · exact congrArg quotaKey

variable {state : QuotaState}

theorem usageAgrees_iff : UsageAgrees state ↔ ∀ tenantId,
      ∀ cached ∈ state.cache.lookup state.now (quotaKey tenantId),
        cached = getTotalSize state tenantId := by
  refine forall_congr' fun tenantId => ?_
  unfold getUsage
  cases state.cache.lookup state.now (quotaKey tenantId) with
  | none | some => simp

theorem usageAgrees_getUsage (agrees : UsageAgrees state) (tenantId : String) :
    UsageAgrees (getUsage state tenantId).1 := by
  unfold getUsage
  cases state.cache.lookup state.now (quotaKey tenantId) with
  | some cached => exact agrees
  | none =>
    rw [usageAgrees_iff] at agrees ⊢
    intro other cached found
    rw [lookup_store (by decide)] at found
    split at found
    · rename_i same
      rw [quotaKey_injective.mp same] at found
      exact (Option.some.inj found).symm
    · exact agrees other cached found

/-- An update leaves the cache right exactly when it finds the number it changes. -/
theorem usageAgrees_change_iff (agrees : UsageAgrees state) (tenantId : String) (sizes : List Int) :
    UsageAgrees (execute state (.change tenantId sizes)) ↔
      CountedFromZero state (.change tenantId sizes) := by
  rw [usageAgrees_iff] at agrees ⊢
  have total : ∀ other, getTotalSize (execute state (.change tenantId sizes)) other =
      if other = tenantId then sizes.sum else getTotalSize state other := by
    intro other
    simp only [execute, updateUsage, getTotalSize, Function.update_apply]
    split <;> rfl
  have found : ∀ other, (execute state (.change tenantId sizes)).cache.lookup state.now
      (quotaKey other) = if tenantId = other then
        some ((state.cache.lookup state.now (quotaKey tenantId)).getD 0 +
          (sizes.sum - getTotalSize state tenantId))
      else state.cache.lookup state.now (quotaKey other) := by
    intro other
    simp only [execute, updateUsage, lookup_replace, quotaKey_injective]
    simp [getTotalSize]
  change (∀ other, ∀ cached ∈ (execute state (.change tenantId sizes)).cache.lookup state.now
    (quotaKey other), cached = getTotalSize (execute state (.change tenantId sizes)) other) ↔ _
  constructor
  · intro right missing
    have here := right tenantId _ (by rw [found, if_pos rfl]; exact rfl)
    rw [total, if_pos rfl, missing, Option.getD_none] at here
    omega
  · intro counted other cached present
    rw [found] at present
    rw [total]
    split at present
    · rename_i same
      subst same
      obtain rfl := Option.some.inj present
      rw [if_pos rfl]
      cases stored : state.cache.lookup state.now (quotaKey tenantId) with
      | none =>
        have zero := counted stored
        simp only [Option.getD_none]
        omega
      | some value =>
        have right := agrees tenantId value stored
        simp only [Option.getD_some]
        omega
    · rename_i different
      rw [if_neg (Ne.symm different)]
      exact agrees other cached present

theorem usageAgrees_execute_iff (agrees : UsageAgrees state) (operation : Operation) :
    UsageAgrees (execute state operation) ↔ CountedFromZero state operation := by
  cases operation with
  | change tenantId sizes => exact usageAgrees_change_iff agrees tenantId sizes
  | getUsage tenantId => exact iff_of_true (usageAgrees_getUsage agrees tenantId) trivial
  | checkQuota tenantId fileSize =>
    refine iff_of_true ?_ trivial
    unfold execute checkQuota
    dsimp only
    split <;> exact usageAgrees_getUsage agrees tenantId
  | recalculateUsage tenantId =>
    refine iff_of_true ?_ trivial
    rw [usageAgrees_iff] at agrees ⊢
    intro other cached found
    by_cases same : tenantId = other
    · subst same
      simp only [execute, recalculateUsage, lookup_set_self] at found
      exact (Option.some.inj found).symm
    · simp only [execute, recalculateUsage] at found
      rw [lookup_set_of_ne fun equal => same (quotaKey_injective.mp equal)] at found
      exact agrees other cached found
  | elapse milliseconds =>
    refine iff_of_true ?_ trivial
    rw [usageAgrees_iff] at agrees ⊢
    exact fun other cached found =>
      agrees other cached (lookup_of_later (Nat.le_add_right _ _) found)

theorem usageAgrees_start (sizes : String → List Int) : UsageAgrees (start sizes) :=
  fun _ => rfl

/-- Over every sequence of operations the usage that the service answers is what is stored
exactly when every missing number is missed by a tenant who stores nothing. -/
theorem usage_agrees_iff (sizes : String → List Int) (operations : List Operation) :
    (∀ count, UsageAgrees (machine.run (start sizes) (operations.take count))) ↔
      machine.Admits CountedFromZero (start sizes) operations :=
  @Transducer.forall_prefix_iff_admits _ _ _ machine CountedFromZero UsageAgrees
    (fun _ operation agrees => usageAgrees_execute_iff agrees operation) _ _
    (usageAgrees_start sizes)

/-- A tenant asks for the usage, stores 100 bytes and, when the number has expired, 5 more. -/
theorem usage_restarts_after_expiry :
    let after := machine.run (start fun _ => [])
      [.getUsage "t1", .change "t1" [100], .elapse 3600000, .change "t1" [100, 5]]
    getTotalSize after "t1" = 105 ∧ (getUsage after "t1").2 = 5 := by
  decide +kernel

end Caas.Media.QuotaService
