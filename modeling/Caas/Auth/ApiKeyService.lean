import Caas.Auth.ClientRepository

/-!
# API keys

Generation, validation, rotation, promotion and revocation of API keys. Whether a key
is valid is decided by three layers: the cache of validations, the cache of client
ids by key hash, and the keys of the client itself, which are cached by client id.

`validateApiKey` does not await the update of the time of last use; that update is
a call of its own here, and may run at any time.
-/

namespace Caas.Auth

open Async Redis ClientRepository

/-- A call of the service, or an update of the time of last use. -/
inductive ApiKeyCall where
  | generateApiKeyPair (clientId : String)
  | validateApiKey (apiKey : String) (ipAddress : Option String)
  | rotateApiKey (clientId : String)
  | promoteSecondaryKey (clientId : String)
  | revokeApiKey (clientId : String) (keyType : KeyType)
  | updateApiKeyLastUsed (clientId : String) (keyType : KeyType)

inductive ApiKeyResult where
  | generated (primaryKey secondaryKey : String)
  | validated (result : ApiKeyValidationResult)
  | rotated (secondaryKey : String)
  | done
deriving DecidableEq

namespace ApiKeyService

variable (settings : ClientSettings)

def validationTtl : Int := 300

def rejectionTtl : Int := 60

def getPermissionsForPlan (plan : Plan) : List String :=
  let basePermissions := [
    "sdk:session:create", "sdk:session:refresh", "sdk:session:logout", "user:read", "user:write",
    "conversation:read", "conversation:write", "message:read", "message:write"]
  let business := if plan = .business ∨ plan = .enterprise then
    ["media:upload", "media:download", "search:query", "analytics:read"] else []
  let enterprise := if plan = .enterprise then
    ["admin:read", "admin:write", "webhook:manage", "audit:read"] else []
  basePermissions ++ business ++ enterprise

def getRateLimitTier : Plan → String
  | .enterprise => "enterprise"
  | .business => "business"
  | .free => "free"

def newApiKey (apiKey : String) (now : Nat) : ClientApiKey where
  keyHash := settings.hashApiKey apiKey
  keyPrefix := String.ofList (apiKey.toList.take 12)
  createdAt := now
  lastUsed := none
  revoked := false

def invalid (error : String) : ApiKeyValidationResult := ⟨false, none, some error⟩

def validFor (client : Client) : ApiKeyValidationResult where
  valid := true
  client := some
    { clientId := client.clientId
      tenantId := client.tenantId
      plan := client.plan
      permissions := getPermissionsForPlan client.plan
      rateLimitTier := getRateLimitTier client.plan
      activeProjectId := client.activeProjectId
      projectIds := (client.projects.filter fun project => project.status ≠ .archived).map
        (·.projectId) }
  error := none

/-- Whether an address was given and is not allowed. -/
def isRefused (ipAddress : Option String) (client : Client) : Bool :=
  (ipAddress.filter (· ≠ "")).any fun ip => !settings.isIpAllowed ip client.ipWhitelist

def findClient (clientId : String) : ClientProgram Client := do
  match ← findById settings clientId with
  | none => Program.failure "Client not found"
  | some client => return client

def generateApiKeyPair (clientId : String) : ClientProgram ApiKeyResult := do
  let _ ← findClient settings clientId
  let primaryKey : String ← ClientCommand.await .generateApiKey
  let secondaryKey : String ← ClientCommand.await .generateApiKey
  let now : Nat ← ClientCommand.await .now
  updateApiKeys clientId
    ⟨some (newApiKey settings primaryKey now), some (newApiKey settings secondaryKey now)⟩
  return .generated primaryKey secondaryKey

/-- A cached validation, for which the address is still checked. -/
def checkCached (ipAddress : Option String) (result : ApiKeyValidationResult) :
    ClientProgram ApiKeyValidationResult := do
  match result.client with
  | none => return result
  | some validated =>
    if result.valid && (ipAddress.filter (· ≠ "")).isSome then
      match ← findById settings validated.clientId with
      | none => return result
      | some client =>
        if isRefused settings ipAddress client then return invalid "IP address not whitelisted"
        else return result
    else
      return result

/-- The `try` block over the cache of validations. -/
def validateCached (keyHash : String) (ipAddress : Option String) :
    ClientProgram (Option ApiKeyValidationResult) := do
  let cached : Option ApiKeyValidationResult ← ClientCommand.await (.validation (.get keyHash))
  match cached with
  | none => return none
  | some result => return some (← checkCached settings ipAddress result)

def validateStored (keyHash : String) (ipAddress : Option String) :
    ClientProgram ApiKeyValidationResult := do
  match ← findByApiKeyHash settings keyHash with
  | none =>
    let result := invalid "Invalid API key"
    let _ ← ClientCommand.await (.validation (.setex keyHash rejectionTtl result))
    return result
  | some client =>
    if client.status ≠ .active then return invalid "Client account is suspended or deleted"
    else if isRefused settings ipAddress client then return invalid "IP address not whitelisted"
    else
      -- The time of last use is updated from here on, by a call of its own.
      let result := validFor client
      let _ ← ClientCommand.await (.validation (.setex keyHash validationTtl result))
      return result

def validateApiKey (apiKey : String) (ipAddress : Option String) : ClientProgram ApiKeyResult := do
  let keyHash := settings.hashApiKey apiKey
  match ← Program.catching (validateCached settings keyHash ipAddress) fun _ => return none with
  | some result => return .validated result
  | none => return .validated (← validateStored settings keyHash ipAddress)

/-- Forget the validation of a key that has a hash. -/
def evictValidation (key : Option ClientApiKey) : ClientProgram Unit := do
  match key with
  | none => return ()
  | some key =>
    if key.keyHash ≠ "" then
      let _ ← ClientCommand.await (.validation (.del key.keyHash))

def rotateApiKey (clientId : String) : ClientProgram ApiKeyResult := do
  let client ← findClient settings clientId
  let newSecondaryKey : String ← ClientCommand.await .generateApiKey
  let now : Nat ← ClientCommand.await .now
  evictValidation client.apiKeys.secondary
  updateApiKeys clientId
    ⟨client.apiKeys.primary, some (newApiKey settings newSecondaryKey now)⟩
  return .rotated newSecondaryKey

def promoteSecondaryKey (clientId : String) : ClientProgram ApiKeyResult := do
  let client ← findClient settings clientId
  match client.apiKeys.secondary with
  | none => Program.failure "No secondary key to promote"
  | some secondary =>
    evictValidation client.apiKeys.primary
    updateApiKeys clientId ⟨some { secondary with revoked := false }, none⟩
    return .done

def keyTypeName : KeyType → String
  | .primary => "primary"
  | .secondary => "secondary"

def revokeApiKey (clientId : String) (keyType : KeyType) : ClientProgram ApiKeyResult := do
  let client ← findClient settings clientId
  match client.apiKeys.get keyType with
  | none => Program.failure ("No " ++ keyTypeName keyType ++ " key found")
  | some key =>
    let _ ← ClientCommand.await (.validation (.del key.keyHash))
    updateApiKeys clientId
      (client.apiKeys.set { key with revoked := true } keyType)
    return .done

def call : ApiKeyCall → ClientProgram ApiKeyResult
  | .generateApiKeyPair clientId => generateApiKeyPair settings clientId
  | .validateApiKey apiKey ipAddress => validateApiKey settings apiKey ipAddress
  | .rotateApiKey clientId => rotateApiKey settings clientId
  | .promoteSecondaryKey clientId => promoteSecondaryKey settings clientId
  | .revokeApiKey clientId keyType => revokeApiKey settings clientId keyType
  | .updateApiKeyLastUsed clientId keyType => do
    updateApiKeyLastUsed clientId keyType
    return .done

end ApiKeyService

/-- Concurrent calls of the service; outside of them only time passes, by a number of
milliseconds. -/
def apiKeyHost (settings : ClientSettings) :
    Host ClientStore ClientCommand ClientCommand.Reply ClientOracle Nat ApiKeyCall
      ApiKeyResult where
  exec store command oracle := store.exec oracle command
  change store elapsed := { store with now := store.now + elapsed }
  body := ApiKeyService.call settings

end Caas.Auth
