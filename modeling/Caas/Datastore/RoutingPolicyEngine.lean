import Caas.Datastore.Types
import Caas.Machine.Transducer

/-!
# The routing policy engine

`resolve` picks the provider of a (tenant, domain, project) from three sources in
turn: an active datastore profile, the rules in priority order, and MongoDB.
Only the first of them looks at the tenant's residency policy.

Priorities are integers. The profile and policy fields that the engine does not
read are left out, except for the domains a profile is meant for.
-/

namespace Caas.Datastore

open Js

inductive ConsistencyMode where
  | strong
  | eventual
  | cached
deriving DecidableEq

inductive ProfileStatus where
  | draft
  | validating
  | active
  | inactive
  | failed
deriving DecidableEq

structure DatastoreProfile where
  id : String
  tenantId : String
  projectId : Option String := none
  provider : ProviderId
  region : String
  allowedDomains : List EntityDomain
  status : ProfileStatus
deriving DecidableEq

structure ResidencyPolicy where
  tenantId : String
  allowedRegions : List String
  allowedProviders : List ProviderId
deriving DecidableEq

/-- A routing rule; a lower number is a higher priority. -/
structure RoutingRule where
  tenantId : Option String := none
  projectId : Option String := none
  domain : Option EntityDomain := none
  provider : ProviderId
  consistency : ConsistencyMode
  priority : Int
deriving DecidableEq

structure RoutingDecision where
  targetProvider : ProviderId
  tenantId : String
  projectId : Option String
  entityDomain : EntityDomain
  consistencyMode : ConsistencyMode
  reason : String
  decidedAt : String
  correlationId : String
deriving DecidableEq

structure ResidencyViolationError where
  tenantId : String
  region : String
deriving DecidableEq

def ResidencyViolationError.message (error : ResidencyViolationError) : String :=
  "Residency policy violation for tenant " ++ error.tenantId ++ ": region " ++ error.region ++
    " not allowed"

structure RoutingPolicyEngine where
  rules : List RoutingRule
  profiles : OrderedMap String DatastoreProfile
  residencyPolicies : OrderedMap String ResidencyPolicy
  decisionLog : List RoutingDecision

/-- The key of a profile; an empty project id counts as none. -/
def profileKey (tenantId : String) (projectId : Option String) : String :=
  match present projectId with
  | some project => tenantId ++ "::" ++ project
  | none => tenantId

namespace RoutingPolicyEngine

def empty : RoutingPolicyEngine := ⟨[], .empty, .empty, []⟩

/-- The stable sort by priority that follows the append. -/
def addRule (engine : RoutingPolicyEngine) (rule : RoutingRule) : RoutingPolicyEngine :=
  { engine with rules :=
      (engine.rules ++ [rule]).insertionSort fun a b => a.priority - b.priority ≤ 0 }

def removeRulesByTenant (engine : RoutingPolicyEngine) (tenantId : String) :
    RoutingPolicyEngine :=
  { engine with rules := engine.rules.filter fun rule => rule.tenantId ≠ some tenantId }

def setProfile (engine : RoutingPolicyEngine) (profile : DatastoreProfile) :
    RoutingPolicyEngine :=
  { engine with profiles :=
      engine.profiles.set (profileKey profile.tenantId profile.projectId) profile }

def getProfile (engine : RoutingPolicyEngine) (tenantId : String) (projectId : Option String) :
    Option DatastoreProfile :=
  (engine.profiles.get (profileKey tenantId projectId)).or
    (engine.profiles.get (profileKey tenantId none))

def setResidencyPolicy (engine : RoutingPolicyEngine) (policy : ResidencyPolicy) :
    RoutingPolicyEngine :=
  { engine with residencyPolicies := engine.residencyPolicies.set policy.tenantId policy }

/-- The provider is checked first; both checks report the region. -/
def enforceResidency (engine : RoutingPolicyEngine) (tenantId : String)
    (profile : DatastoreProfile) : Except ResidencyViolationError Unit :=
  match engine.residencyPolicies.get tenantId with
  | none => .ok ()
  | some policy =>
    if policy.allowedProviders.length > 0 ∧ profile.provider ∉ policy.allowedProviders then
      .error ⟨tenantId, profile.region⟩
    else if policy.allowedRegions.length > 0 ∧ profile.region ∉ policy.allowedRegions then
      .error ⟨tenantId, profile.region⟩
    else .ok ()

def ruleMatches (rule : RoutingRule) (tenantId : String) (domain : EntityDomain)
    (projectId : Option String) : Bool :=
  (present rule.tenantId).all (fun tenant => tenant = "*" || tenant = tenantId) &&
  (present rule.projectId).all (fun project => some project = projectId) &&
  rule.domain.all (· = domain)

/-- The profile that decides a resolution: found, and active. -/
def activeProfile (engine : RoutingPolicyEngine) (tenantId : String)
    (projectId : Option String) : Option DatastoreProfile :=
  (engine.getProfile tenantId projectId).filter fun profile => profile.status = .active

def buildDecision (provider : ProviderId) (tenantId : String) (domain : EntityDomain)
    (consistency : ConsistencyMode) (reason correlationId : String) (projectId : Option String)
    (draws : Draws) : RoutingDecision :=
  { targetProvider := provider, tenantId, projectId, entityDomain := domain
    consistencyMode := consistency, reason, decidedAt := draws.now 0, correlationId }

/-- The decision of `resolve`, before it is logged. -/
def decisionFor (engine : RoutingPolicyEngine) (tenantId : String) (domain : EntityDomain)
    (projectId correlationId : Option String) (draws : Draws) :
    Except ResidencyViolationError RoutingDecision :=
  let cid := correlationId.getD (draws.uuid 0)
  match engine.activeProfile tenantId projectId with
  | some profile =>
    (engine.enforceResidency tenantId profile).map fun _ =>
      buildDecision profile.provider tenantId domain .strong
        ("Active profile " ++ profile.id ++ " for tenant") cid projectId draws
  | none =>
    match engine.rules.find? fun rule => ruleMatches rule tenantId domain projectId with
    | some rule =>
      .ok (buildDecision rule.provider tenantId domain rule.consistency
        ("Matched rule priority=" ++ toString rule.priority) cid projectId draws)
    | none =>
      .ok (buildDecision .mongodb tenantId domain .strong "Default fallback to internal MongoDB"
        cid projectId draws)

/-- A decision is logged, an error is not. -/
def resolve (engine : RoutingPolicyEngine) (tenantId : String) (domain : EntityDomain)
    (projectId correlationId : Option String) (draws : Draws) :
    RoutingPolicyEngine × Except ResidencyViolationError RoutingDecision :=
  match engine.decisionFor tenantId domain projectId correlationId draws with
  | .ok decision => ({ engine with decisionLog := engine.decisionLog ++ [decision] }, .ok decision)
  | .error error => (engine, .error error)

/-- A call that changes what later resolutions depend on. -/
inductive Operation where
  | addRule (rule : RoutingRule)
  | removeRulesByTenant (tenantId : String)
  | setProfile (profile : DatastoreProfile)
  | setResidencyPolicy (policy : ResidencyPolicy)

def apply (engine : RoutingPolicyEngine) : Operation → RoutingPolicyEngine
  | .addRule rule => engine.addRule rule
  | .removeRulesByTenant tenantId => engine.removeRulesByTenant tenantId
  | .setProfile profile => engine.setProfile profile
  | .setResidencyPolicy policy => engine.setResidencyPolicy policy

def after (operations : List Operation) : RoutingPolicyEngine := operations.foldl apply empty

theorem resolve_snd (engine : RoutingPolicyEngine) (tenantId : String) (domain : EntityDomain)
    (projectId correlationId : Option String) (draws : Draws) :
    (engine.resolve tenantId domain projectId correlationId draws).2 =
      engine.decisionFor tenantId domain projectId correlationId draws := by
  unfold resolve
  cases engine.decisionFor tenantId domain projectId correlationId draws <;> rfl

end RoutingPolicyEngine

end Caas.Datastore
