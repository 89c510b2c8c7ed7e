import Caas.Js.ObjectMap
import Caas.Datastore.RoutingPolicyEngine

/-!
# The tenant configuration store

The store keeps the datastore profiles of all tenants as mutable objects under
their ids. A status change assigns to the object in place, so whoever holds the
profile sees it. `update`, which no caller here uses, is left out.
-/

namespace Caas.Datastore

open Js

/-- How the platform authenticates against a datastore. -/
inductive AuthMode where
  | connectionString
  | iamRole
  | serviceAccount
  | accessKey
deriving DecidableEq

inductive EncryptionMode where
  | providerManaged
  | customerManagedKey
  | platformEnvelope
deriving DecidableEq

structure PreflightResult where
  connectivity : Bool
  authentication : Bool
  schemaReady : Bool
  latencyMs : Int
  passed : Bool
  checkedAt : String
  errors : List String
deriving DecidableEq

/-- A profile with the fields that routing does not read. -/
structure StoredProfile extends DatastoreProfile where
  endpoint : String
  authMode : AuthMode
  encryptionMode : EncryptionMode
  preflightResult : Option PreflightResult := none
  createdAt : String
  updatedAt : String
  activatedAt : Option String := none
  createdBy : String
deriving DecidableEq

structure DatastoreProfileCreateInput where
  tenantId : String
  projectId : Option String := none
  provider : ProviderId
  region : String
  endpoint : String
  authMode : AuthMode
  encryptionMode : EncryptionMode
  allowedDomains : List EntityDomain
deriving DecidableEq

/-- What the schema leaves to the validation library: which texts are URLs, and the
message of a rejection. -/
structure SchemaLibrary where
  isUrl : String → Bool
  rejection : DatastoreProfileCreateInput → String

/-- `DatastoreProfileCreateSchema`, on input of the right type. -/
def createSchemaAccepts (library : SchemaLibrary) (input : DatastoreProfileCreateInput) : Bool :=
  input.tenantId ≠ "" && input.region ≠ "" && library.isUrl input.endpoint &&
    input.allowedDomains ≠ []

/-- The profile belongs to the tenant, and to the project or, without one, to the
whole tenant. -/
def DatastoreProfile.belongsTo (profile : DatastoreProfile) (tenantId : String)
    (projectId : Option String) : Bool :=
  profile.tenantId = tenantId &&
    match present projectId with
    | some project => profile.projectId = some project
    | none => present profile.projectId = none

theorem DatastoreProfile.belongsTo_iff {profile : DatastoreProfile} {tenantId : String}
    {projectId : Option String} : profile.belongsTo tenantId projectId = true ↔
      profile.tenantId = tenantId ∧ present profile.projectId = present projectId := by
  unfold DatastoreProfile.belongsTo
  cases named : present projectId with
  | none => simp
  | some project =>
    have filled : project ≠ "" := by
      obtain ⟨value, _, nonempty⟩ := present_ne_none_iff.mp (named ▸ Option.some_ne_none project)
      simp_all [present, Option.filter_eq_some_iff]
    simp [present, Option.filter_eq_some_iff, filled]

/-- The edits of `setStatus`. -/
def StoredProfile.withStatus (profile : StoredProfile) (status : ProfileStatus) (now : String) :
    StoredProfile :=
  { profile with
    status, updatedAt := now
    activatedAt := if status = .active then some now else profile.activatedAt }

/-- The edits of `setPreflightResult`. -/
def StoredProfile.withPreflight (profile : StoredProfile) (result : PreflightResult)
    (now : String) : StoredProfile :=
  { profile with preflightResult := some result, updatedAt := now }

theorem StoredProfile.withStatus_id (status : ProfileStatus) (now : String)
    (profile : StoredProfile) : (profile.withStatus status now).id = profile.id := rfl

theorem StoredProfile.withPreflight_id (result : PreflightResult) (now : String)
    (profile : StoredProfile) : (profile.withPreflight result now).id = profile.id := rfl

/-- The profiles under their own ids. -/
structure TenantConfigStore where
  profiles : ObjectMap String StoredProfile
  named : ∀ id profile, profiles.get id = some profile → profile.id = id

namespace TenantConfigStore

def empty : TenantConfigStore := ⟨.empty, fun _ _ found => nomatch found⟩

variable (store : TenantConfigStore)

/-- Put a new profile object under its id. -/
def insert (profile : StoredProfile) : TenantConfigStore where
  profiles := store.profiles.add profile.id profile
  named id found stored := by
    rw [ObjectMap.get_add] at stored
    split at stored
    · rename_i same
      cases stored
      exact same
    · exact store.named id found stored

/-- Assign to the profile `id`, but not to its id. -/
def edit (id : String) (change : StoredProfile → StoredProfile)
    (keepsId : ∀ profile, (change profile).id = profile.id) : TenantConfigStore where
  profiles := store.profiles.modify id change
  named other found stored := by
    rw [ObjectMap.get_modify] at stored
    split at stored
    · obtain ⟨before, there, rfl⟩ := Option.map_eq_some_iff.mp stored
      rw [keepsId, store.named other before there]
    · exact store.named other found stored

/-- The profile that `create` stores. -/
def draft (input : DatastoreProfileCreateInput) (actor : String) (draws : Draws) :
    StoredProfile where
  id := draws.uuid 0
  tenantId := input.tenantId
  projectId := input.projectId
  provider := input.provider
  region := input.region
  endpoint := input.endpoint
  authMode := input.authMode
  encryptionMode := input.encryptionMode
  allowedDomains := input.allowedDomains
  status := .draft
  createdAt := draws.now 0
  updatedAt := draws.now 0
  createdBy := actor

/-- The message of `create` on input that the schema rejects. -/
def invalidConfig (library : SchemaLibrary) (input : DatastoreProfileCreateInput) : String :=
  "Invalid config: " ++ library.rejection input

def create (library : SchemaLibrary) (input : DatastoreProfileCreateInput) (actor : String)
    (draws : Draws) : Except String (TenantConfigStore × StoredProfile) :=
  if createSchemaAccepts library input then
    .ok (store.insert (draft input actor draws), draft input actor draws)
  else .error (invalidConfig library input)

def getById (id : String) : Option StoredProfile := store.profiles.get id

def listAll : List StoredProfile := store.profiles.view.values

def getByTenant (tenantId : String) : List StoredProfile :=
  store.listAll.filter fun profile => profile.tenantId = tenantId

def getActive (tenantId : String) (projectId : Option String) : Option StoredProfile :=
  store.listAll.find? fun profile =>
    profile.status = .active && profile.belongsTo tenantId projectId

/-- `none` is the error of an unknown id. -/
def setStatus (id : String) (status : ProfileStatus) (now : String) :
    Option (TenantConfigStore × StoredProfile) :=
  (store.getById id).map fun existing =>
    (store.edit id (·.withStatus status now) (StoredProfile.withStatus_id status now),
      existing.withStatus status now)

def setPreflightResult (id : String) (result : PreflightResult) (now : String) :
    Option (TenantConfigStore × StoredProfile) :=
  (store.getById id).map fun existing =>
    (store.edit id (·.withPreflight result now) (StoredProfile.withPreflight_id result now),
      existing.withPreflight result now)

def delete (id : String) : TenantConfigStore where
  profiles := store.profiles.delete id
  named other found stored := by
    rw [ObjectMap.get_delete] at stored
    split at stored
    · cases stored
    · exact store.named other found stored

end TenantConfigStore

end Caas.Datastore
