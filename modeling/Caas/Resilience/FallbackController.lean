import Caas.Datastore.Types
import Caas.Resilience.CircuitBreakers

/-!
# Falling back to another provider

The fallback controller keeps a breaker for some providers and a list of rules. A request for a
provider whose breaker refuses it goes to the provider that the first rule of the domain names, if
that rule fails open. The breaker of that provider is not asked: `fallback_is_safe_iff` says in
which runs no request is sent to a provider whose breaker refuses it.
-/

namespace Caas.Resilience

open Js
open Datastore (ProviderId EntityDomain)

inductive FailPolicy where
  | failOpen
  | failClosed
deriving DecidableEq

structure FallbackRule where
  domain : EntityDomain
  failPolicy : FailPolicy
  fallbackProvider : ProviderId
deriving DecidableEq

/-- The error of a request for a provider whose circuit is open. -/
structure CircuitOpenError where
  provider : ProviderId
deriving DecidableEq

structure FallbackController where
  breakers : OrderedMap ProviderId ProviderCircuitBreaker := .empty
  fallbackRules : List FallbackRule := []

namespace FallbackController

def getOrCreateBreaker (controller : FallbackController) (provider : ProviderId)
    (config : CircuitBreakerConfigPatch) : FallbackController :=
  match controller.breakers.get provider with
  | some _ => controller
  | none =>
    { controller with breakers := controller.breakers.set provider (.new config) }

/-- A call on the breaker that `getBreaker` gives, if it gives one. -/
def callBreaker (controller : FallbackController) (provider : ProviderId) (call : BreakerCall) :
    FallbackController :=
  match controller.breakers.get provider with
  | some breaker =>
    { controller with
      breakers := controller.breakers.set provider
        (ProviderCircuitBreaker.machine.step breaker call).1 }
  | none => controller

def addFallbackRule (controller : FallbackController) (rule : FallbackRule) : FallbackController :=
  { controller with fallbackRules := controller.fallbackRules ++ [rule] }

def ruleFor (controller : FallbackController) (domain : EntityDomain) : Option FallbackRule :=
  controller.fallbackRules.find? fun rule => rule.domain = domain

/-- The provider to use instead of one whose breaker refuses. -/
def refused (controller : FallbackController) (provider : ProviderId) (domain : EntityDomain) :
    Except CircuitOpenError ProviderId :=
  match controller.ruleFor domain with
  | some rule =>
    if rule.failPolicy = .failOpen then .ok rule.fallbackProvider else .error ⟨provider⟩
  | none => .error ⟨provider⟩

/-- The provider to use; the breaker of the one that was asked for may half-open. -/
def resolveFallback (controller : FallbackController) (provider : ProviderId)
    (domain : EntityDomain) (now : Int) :
    FallbackController × Except CircuitOpenError ProviderId :=
  match controller.breakers.get provider with
  | some breaker =>
    let (asked, allowed) := breaker.allowRequest now
    ({ controller with breakers := controller.breakers.set provider asked },
      if allowed then .ok provider else controller.refused provider domain)
  | none => (controller, .ok provider)

end FallbackController

inductive FallbackCall where
  | getOrCreateBreaker (provider : ProviderId) (config : CircuitBreakerConfigPatch)
  | callBreaker (provider : ProviderId) (call : BreakerCall)
  | addFallbackRule (rule : FallbackRule)
  | resolveFallback (provider : ProviderId) (domain : EntityDomain) (now : Int)

namespace FallbackController

/-- The controller under its calls, with the answers of `resolveFallback`. -/
def machine : Transducer FallbackController FallbackCall
    (Option (Except CircuitOpenError ProviderId)) where
  step controller
    | .getOrCreateBreaker provider config => (controller.getOrCreateBreaker provider config, none)
    | .callBreaker provider call => (controller.callBreaker provider call, none)
    | .addFallbackRule rule => (controller.addFallbackRule rule, none)
    | .resolveFallback provider domain now =>
      (controller.resolveFallback provider domain now).map id some

/-- The provider has no breaker, or one that lets a request through. -/
def Allows (controller : FallbackController) (provider : ProviderId) (now : Int) : Prop :=
  ∀ breaker ∈ controller.breakers.get provider, (breaker.allowRequest now).2 = true

/-- After the call its answer, if it names a provider, names one that allows requests. -/
def Safe (controller : FallbackController) : FallbackCall → Prop
  | .resolveFallback provider domain now =>
    ∀ target, (controller.resolveFallback provider domain now).2 = .ok target →
      (controller.resolveFallback provider domain now).1.Allows target now
  | _ => True

/-- The provider allows requests, or no rule that fails open counts for the domain, or the
provider that it names allows requests, too. -/
def FallbackAllows (controller : FallbackController) : FallbackCall → Prop
  | .resolveFallback provider domain now =>
    controller.Allows provider now ∨
      ∀ rule ∈ controller.ruleFor domain, rule.failPolicy = .failOpen →
        controller.Allows rule.fallbackProvider now
  | _ => True

section Resolving

variable {controller : FallbackController} {provider target : ProviderId} {domain : EntityDomain}
  {now : Int}

theorem allowRequest_twice (breaker : ProviderCircuitBreaker) (now : Int) :
    ((breaker.allowRequest now).1.allowRequest now).2 = (breaker.allowRequest now).2 := by
  have settled : (breaker.getState now).getState now = breaker.getState now := by
    unfold ProviderCircuitBreaker.getState
    split
    · rfl
    · rfl
  simp [ProviderCircuitBreaker.allowRequest, settled]

theorem allows_resolveFallback :
    (controller.resolveFallback provider domain now).1.Allows target now ↔
      controller.Allows target now := by
  unfold resolveFallback
  cases found : controller.breakers.get provider with
  | none => exact Iff.rfl
  | some breaker =>
    by_cases same : provider = target
    · subst same
      simp [Allows, found, allowRequest_twice]
    · simp [Allows, OrderedMap.get_set_of_ne _ _ same]

theorem resolveFallback_of_allows (allows : controller.Allows provider now) :
    (controller.resolveFallback provider domain now).2 = .ok provider := by
  unfold resolveFallback
  cases found : controller.breakers.get provider with
  | none => rfl
  | some breaker => exact if_pos (allows breaker found)

theorem resolveFallback_of_not_allows (trips : ¬ controller.Allows provider now) :
    (controller.resolveFallback provider domain now).2 = controller.refused provider domain := by
  unfold resolveFallback
  cases found : controller.breakers.get provider with
  | none =>
    refine absurd (fun breaker held => ?_) trips
    rw [found] at held
    cases held
  | some breaker =>
    refine if_neg fun allowed => trips fun other held => ?_
    rw [found] at held
    cases held
    exact allowed

theorem refused_eq_ok_iff : controller.refused provider domain = .ok target ↔
    ∃ rule ∈ controller.ruleFor domain, rule.failPolicy = .failOpen ∧
      rule.fallbackProvider = target := by
  unfold refused
  cases controller.ruleFor domain with
  | none => simp
  | some rule =>
    by_cases opens : rule.failPolicy = .failOpen
    · simp [opens]
    · simp [opens]

theorem safe_iff (controller : FallbackController) (call : FallbackCall) :
    controller.Safe call ↔ controller.FallbackAllows call := by
  cases call with
  | getOrCreateBreaker | callBreaker | addFallbackRule => exact Iff.rfl
  | resolveFallback provider domain now =>
    simp only [Safe, FallbackAllows, allows_resolveFallback]
    by_cases allows : controller.Allows provider now
    · simp [resolveFallback_of_allows allows, allows]
    · rw [resolveFallback_of_not_allows allows, or_iff_right allows]
      simp only [refused_eq_ok_iff]
      constructor
      · exact fun safe rule counts opens => safe _ ⟨rule, counts, opens, rfl⟩
      · rintro allowed _ ⟨rule, counts, opens, rfl⟩
        exact allowed rule counts opens

end Resolving

/-- In a run no request is sent to a provider whose breaker refuses it exactly when, whenever
a fallback is needed, the provider that it names allows requests. -/
theorem fallback_is_safe_iff (calls : List FallbackCall) :
    machine.Admits Safe {} calls ↔ machine.Admits FallbackAllows {} calls :=
  Transducer.Admits.congr (fun _ _ (_ : True) (_ : True) => trivial)
    (fun controller call _ _ => safe_iff controller call)
    (Transducer.admits_of_forall (fun _ _ => trivial) _ _) trivial

/-- While both are down the requests for one provider are sent to the other. -/
theorem both_down : ¬ machine.Admits Safe {} [.addFallbackRule ⟨.users, .failOpen, .mongodb⟩,
      .getOrCreateBreaker .mongodb { failureThreshold := some (.int 1) },
      .getOrCreateBreaker .dynamodb { failureThreshold := some (.int 1) },
      .callBreaker .mongodb (.recordFailure 10), .callBreaker .dynamodb (.recordFailure 20),
      .resolveFallback .dynamodb .users 30] := by
  rintro ⟨-, -, -, -, -, safe, -⟩
  have allows := safe .mongodb (by decide +kernel)
  exact absurd (allows _ rfl) (by decide +kernel)

end FallbackController

end Caas.Resilience
