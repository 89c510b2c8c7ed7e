import Caas.Js.Throwing
import Caas.Datastore.TenantConfigStore

/-!
# The control plane service

Tenants and platform administrators create, check, activate and retire datastore
profiles. The service works on three stores at once: the configuration store, the
routing engine, which it hands the activated profile objects, and its audit log. The
credential manager only answers whether a profile has a credential.

`getAuditEvents` is a pure reading of the log. Draws are numbered by their place in
the body; those of a branch that is not taken are skipped.
-/

namespace Caas.Datastore

open Js Js.Throwing

inductive ControlPlaneRole where
  | tenantAdmin
  | platformAdmin
  | viewer
deriving DecidableEq

def ControlPlaneRole.name : ControlPlaneRole → String
  | .tenantAdmin => "tenant_admin"
  | .platformAdmin => "platform_admin"
  | .viewer => "viewer"

/-- The rank of a role in `roleHierarchy`. -/
def ControlPlaneRole.rank : ControlPlaneRole → Nat
  | .viewer => 0
  | .tenantAdmin => 1
  | .platformAdmin => 2

structure ActorContext where
  actorId : String
  tenantId : String
  role : ControlPlaneRole
deriving DecidableEq

inductive ControlPlaneError where
  | forbidden (role required : ControlPlaneRole)
  | otherTenant
  | invalidConfig (message : String)
  | accessDenied
  | notFound (profileId : String)
  | activeProfile
  | preflightFailed (profileId : String) (errors : List String)
deriving DecidableEq

def ControlPlaneError.message : ControlPlaneError → String
  | .forbidden role required =>
    "Forbidden: role " ++ role.name ++ " insufficient, requires " ++ required.name
  | .otherTenant => "Cannot create profile for another tenant"
  | .invalidConfig message => message
  | .accessDenied => "Access denied"
  | .notFound profileId => "Profile " ++ profileId ++ " not found"
  | .activeProfile => "Cannot delete active profile — deactivate first"
  | .preflightFailed profileId errors =>
    "Preflight validation failed for profile " ++ profileId ++ ": " ++
      String.intercalate "; " errors

def ProviderId.name : ProviderId → String
  | .mongodb => "mongodb"
  | .dynamodb => "dynamodb"
  | .firestore => "firestore"
  | .cosmosdb => "cosmosdb"

/-- A stored credential; its payload is never read here. -/
structure CredentialRecord where
  id : String
  profileId : String
  tenantId : String
deriving DecidableEq

/-- What the audit log tells apart. -/
inductive AuditAction where
  | profileCreate
  | profileDeactivate
  | profileAutoDeactivate
  | profileActivate
  | profileDelete
  | preflightRun
  | connectionTest
deriving DecidableEq

def AuditAction.name : AuditAction → String
  | .profileCreate => "profile.create"
  | .profileDeactivate => "profile.deactivate"
  | .profileAutoDeactivate => "profile.auto_deactivate"
  | .profileActivate => "profile.activate"
  | .profileDelete => "profile.delete"
  | .preflightRun => "preflight.run"
  | .connectionTest => "connection.test"

inductive AuditDetails where
  | empty
  | provider (provider : ProviderId)
  | preflight (passed : Bool) (errors : List String)
  | reason (text : String)
  | connection (ok : Bool) (latencyMs : Int)
deriving DecidableEq

inductive AuditOutcome where
  | success
  | failure
  | denied
deriving DecidableEq

structure DatastoreAuditEvent where
  id : String
  timestamp : String
  tenantId : String
  actor : String
  action : AuditAction
  resource : String
  details : AuditDetails
  correlationId : String
  outcome : AuditOutcome
deriving DecidableEq

/-- The stores behind the service. `routes` is the profile map of the routing engine,
holding the objects of `store`. -/
structure ControlPlane where
  store : TenantConfigStore
  routes : OrderedMap String Reference
  credentials : OrderedMap String CredentialRecord
  auditEvents : List DatastoreAuditEvent

/-- The draws after the first `uuids` ids and the first `nows` readings. -/
def Draws.drop (draws : Draws) (uuids nows : Nat) : Draws :=
  ⟨fun n => draws.uuid (n + uuids), fun n => draws.now (n + nows)⟩

abbrev ControlPlaneCall := Throwing ControlPlane ControlPlaneError

namespace ControlPlane

def empty : ControlPlane := ⟨.empty, .empty, .empty, []⟩

/-- The routing engine, its profiles read through their references. -/
def routingEngine (service : ControlPlane) : RoutingPolicyEngine :=
  { RoutingPolicyEngine.empty with
    profiles := service.routes.filterMapValues fun reference =>
      (service.store.profiles.read reference).map StoredProfile.toDatastoreProfile }

/-- `CredentialManager.getByProfile`. -/
def getByProfile (service : ControlPlane) (profileId : String) : Option CredentialRecord :=
  service.credentials.values.find? fun credential => credential.profileId = profileId

/-- The `limit` most recent events, of one tenant or, without a tenant id, of all. -/
def getAuditEvents (service : ControlPlane) (tenantId : Option String) (limit : Int) :
    List DatastoreAuditEvent :=
  let events :=
    match present tenantId with
    | some tenant => service.auditEvents.filter fun event => event.tenantId = tenant
    | none => service.auditEvents
  slice events (-limit) events.length

/-- Hand the object stored under the profile's id to the routing engine. -/
def setRoute (service : ControlPlane) (profile : StoredProfile) : ControlPlane :=
  match service.store.profiles.references.get profile.id with
  | some reference =>
    { service with
      routes := service.routes.set (profileKey profile.tenantId profile.projectId) reference }
  | none => service

/-- Append to the audit log, under the tenant of the actor. -/
def record (service : ControlPlane) (actor : ActorContext) (action : AuditAction)
    (resource : String) (details : AuditDetails) (draws : Draws) : ControlPlane :=
  { service with
    auditEvents := service.auditEvents ++
      [{ id := draws.uuid 0, timestamp := draws.now 0, tenantId := actor.tenantId
         actor := actor.actorId, action, resource, details, correlationId := draws.uuid 1
         outcome := .success }] }

end ControlPlane

namespace ControlPlaneService

def assertAuthorized (actor : ActorContext) (requiredRole : ControlPlaneRole) :
    ControlPlaneCall Unit := do
  if actor.role.rank < requiredRole.rank then throws (.forbidden actor.role requiredRole)

def emitAudit (actor : ActorContext) (action : AuditAction) (resource : String)
    (details : AuditDetails) (draws : Draws) : ControlPlaneCall Unit :=
  writes (·.record actor action resource details draws)

/-- A method of the configuration store that throws on an unknown id. -/
def onStore (profileId : String)
    (method : TenantConfigStore → Option (TenantConfigStore × StoredProfile)) :
    ControlPlaneCall StoredProfile := do
  match ← reads (method ·.store) with
  | none => throws (.notFound profileId)
  | some (store, profile) =>
    writes ({ · with store })
    return profile

/-- The profile of an authorized request, which the store knows. -/
def requireProfile (requiredRole : ControlPlaneRole) (profileId : String)
    (actor : ActorContext) : ControlPlaneCall StoredProfile := do
  assertAuthorized actor requiredRole
  match ← reads (·.store.getById profileId) with
  | none => throws (.notFound profileId)
  | some profile => return profile

/-- The profile of an administrator's request, of the actor's tenant unless the actor
is a platform administrator. -/
def requireOwnProfile (profileId : String) (actor : ActorContext) :
    ControlPlaneCall StoredProfile := do
  let profile ← requireProfile .tenantAdmin profileId actor
  if profile.tenantId ≠ actor.tenantId ∧ actor.role ≠ .platformAdmin then
    throws .accessDenied
  return profile

def createProfile (library : SchemaLibrary) (input : DatastoreProfileCreateInput)
    (actor : ActorContext) (draws : Draws) : ControlPlaneCall StoredProfile := do
  assertAuthorized actor .tenantAdmin
  if actor.tenantId ≠ input.tenantId ∧ actor.role ≠ .platformAdmin then throws .otherTenant
  match ← reads (·.store.create library input actor.actorId draws) with
  | .error message => throws (.invalidConfig message)
  | .ok (store, profile) =>
    writes ({ · with store })
    emitAudit actor .profileCreate profile.id (.provider profile.provider) (draws.drop 1 1)
    return profile

def getProfile (profileId : String) (actor : ActorContext) :
    ControlPlaneCall (Option StoredProfile) := do
  assertAuthorized actor .viewer
  match ← reads (·.store.getById profileId) with
  | none => return none
  | some profile =>
    if profile.tenantId ≠ actor.tenantId ∧ actor.role ≠ .platformAdmin then
      throws .accessDenied
    return some profile

def listProfiles (actor : ActorContext) : ControlPlaneCall (List StoredProfile) := do
  assertAuthorized actor .viewer
  if actor.role = .platformAdmin then reads (·.store.listAll)
  else reads (·.store.getByTenant actor.tenantId)

def deactivateProfile (profileId : String) (actor : ActorContext) (draws : Draws) :
    ControlPlaneCall StoredProfile := do
  let _ ← requireOwnProfile profileId actor
  let updated ← onStore profileId (·.setStatus profileId .inactive (draws.now 0))
  emitAudit actor .profileDeactivate profileId .empty (draws.drop 0 1)
  return updated

def deleteProfile (profileId : String) (actor : ActorContext) (draws : Draws) :
    ControlPlaneCall Unit := do
  let profile ← requireOwnProfile profileId actor
  if profile.status = .active then throws .activeProfile
  writes fun service => { service with store := service.store.delete profileId }
  emitAudit actor .profileDelete profileId .empty draws

/-- `profile.endpoint.startsWith('http')`. -/
def reachable (profile : StoredProfile) : Bool := "http".toList.isPrefixOf profile.endpoint.toList

/-- The findings of a preflight on a profile with or without a credential. -/
def preflight (profile : StoredProfile) (credential : Option CredentialRecord) (checkedAt : String)
    (latencyMs : Int) : PreflightResult :=
  let connectivity := reachable profile
  let authentication := credential.isSome
  let schemaReady := decide (profile.provider ∈
    [ProviderId.mongodb, ProviderId.dynamodb, ProviderId.firestore, ProviderId.cosmosdb])
  { connectivity, authentication, schemaReady, latencyMs
    passed := connectivity && authentication && schemaReady
    checkedAt
    errors :=
      (if connectivity then [] else ["Endpoint is not a valid URL"]) ++
      (if authentication then [] else ["No credentials stored for this profile"]) ++
      (if schemaReady then [] else ["Unknown provider: " ++ profile.provider.name]) }

def runPreflight (profileId : String) (actor : ActorContext) (draws : Draws) (latencyMs : Int) :
    ControlPlaneCall PreflightResult := do
  let profile ← requireProfile .tenantAdmin profileId actor
  let _ ← onStore profileId (·.setStatus profileId .validating (draws.now 0))
  let credential ← reads (·.getByProfile profileId)
  let result := preflight profile credential (draws.now 1) latencyMs
  let _ ← onStore profileId (·.setPreflightResult profileId result (draws.now 2))
  if !result.passed then
    let _ ← onStore profileId (·.setStatus profileId .failed (draws.now 3))
  emitAudit actor .preflightRun profileId (.preflight result.passed result.errors) (draws.drop 0 4)
  return result

/-- A preflight result that lets the profile be activated. -/
def hasPassed (profile : StoredProfile) : Bool := profile.preflightResult.any (·.passed)

/-- Take the active profile of the same tenant and project out of service. -/
def retireExisting (profile : StoredProfile) (profileId : String) (actor : ActorContext)
    (draws : Draws) : ControlPlaneCall Unit := do
  match ← reads (·.store.getActive profile.tenantId profile.projectId) with
  | none => pure ()
  | some existing =>
    if existing.id ≠ profileId then
      let _ ← onStore existing.id (·.setStatus existing.id .inactive (draws.now 0))
      emitAudit actor .profileAutoDeactivate existing.id (.reason ("Replaced by " ++ profileId))
        (draws.drop 0 1)

def activateProfile (profileId : String) (actor : ActorContext) (draws : Draws) :
    ControlPlaneCall StoredProfile := do
  let profile ← requireOwnProfile profileId actor
  if !hasPassed profile then
    throws (.preflightFailed profileId ["Preflight validation has not passed"])
  retireExisting profile profileId actor draws
  let activated ← onStore profileId (·.setStatus profileId .active (draws.now 2))
  writes (·.setRoute activated)
  emitAudit actor .profileActivate profileId (.provider activated.provider) (draws.drop 2 3)
  return activated

def testConnection (profileId : String) (actor : ActorContext) (draws : Draws)
    (latencyMs : Int) : ControlPlaneCall (Bool × Int) := do
  let profile ← requireProfile .viewer profileId actor
  let ok := reachable profile
  emitAudit actor .connectionTest profileId (.connection ok latencyMs) draws
  return (ok, latencyMs)

inductive Request where
  | createProfile (input : DatastoreProfileCreateInput)
  | getProfile (profileId : String)
  | listProfiles
  | deactivateProfile (profileId : String)
  | deleteProfile (profileId : String)
  | runPreflight (profileId : String)
  | activateProfile (profileId : String)
  | testConnection (profileId : String)
deriving DecidableEq

inductive Reply where
  | profile (profile : StoredProfile)
  | lookup (found : Option StoredProfile)
  | profiles (profiles : List StoredProfile)
  | done
  | preflight (result : PreflightResult)
  | connection (ok : Bool) (latencyMs : Int)
deriving DecidableEq

/-- A request with its actor, its draws and the time between its two clock readings. -/
structure Call where
  request : Request
  actor : ActorContext
  draws : Draws
  latencyMs : Int

def perform (library : SchemaLibrary) (call : Call) : ControlPlaneCall Reply :=
  match call.request with
  | .createProfile input => return .profile (← createProfile library input call.actor call.draws)
  | .getProfile profileId => return .lookup (← getProfile profileId call.actor)
  | .listProfiles => return .profiles (← listProfiles call.actor)
  | .deactivateProfile profileId =>
    return .profile (← deactivateProfile profileId call.actor call.draws)
  | .deleteProfile profileId => do
    deleteProfile profileId call.actor call.draws
    return .done
  | .runPreflight profileId =>
    return .preflight (← runPreflight profileId call.actor call.draws call.latencyMs)
  | .activateProfile profileId =>
    return .profile (← activateProfile profileId call.actor call.draws)
  | .testConnection profileId => do
    let (ok, latencyMs) ← testConnection profileId call.actor call.draws call.latencyMs
    return .connection ok latencyMs

/-- A call of the service, or a change to the credentials it looks up. -/
inductive Input where
  | call (call : Call)
  | storeCredential (profileId tenantId : String) (draws : Draws)
  | revokeCredential (credentialId : String)

/-- The service and the credential manager, one call at a time. -/
def machine (library : SchemaLibrary) :
    Transducer ControlPlane Input (Except ControlPlaneError Reply) where
  step service
    | .call call => (perform library call).run service
    | .storeCredential profileId tenantId draws =>
      ({ service with
          credentials :=
            service.credentials.set (draws.uuid 0) ⟨draws.uuid 0, profileId, tenantId⟩ },
        .ok .done)
    | .revokeCredential credentialId =>
      ({ service with credentials := service.credentials.delete credentialId }, .ok .done)

end ControlPlaneService

end Caas.Datastore
