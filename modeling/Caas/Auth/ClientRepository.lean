import Caas.Async.Fallible
import Caas.Async.Pool
import Caas.Js.Value
import Caas.Redis.ExpiringMap

/-!
# The repository of API clients

The Mongo collection of clients behind two Redis caches: clients by id, and client
ids by the hash of an API key. Every read passes `ensureProjectContext`, which may
repair the projects of the stored client.

Readings of the clock and random draws are commands of their own; no other command
depends on when they are executed. Mongo and Redis answer; serialisation is left out,
and so are the fields of a client that no function here reads.
-/

namespace Caas.Auth

open Async Program Redis

inductive Plan where
  | free
  | business
  | enterprise
deriving DecidableEq

inductive ClientStatus where
  | active
  | suspended
  | deleted
deriving DecidableEq

inductive Environment where
  | development
  | staging
  | production
deriving DecidableEq

inductive ProjectStatus where
  | active
  | archived
deriving DecidableEq

inductive ProjectContextSource where
  | projects
  | projectsRepaired
  | legacyFields
  | defaultGenerated
deriving DecidableEq

structure ClientApiKey where
  keyHash : String
  keyPrefix : String
  createdAt : Nat
  lastUsed : Option Nat
  revoked : Bool
deriving DecidableEq

inductive KeyType where
  | primary
  | secondary
deriving DecidableEq

structure ApiKeys where
  primary : Option ClientApiKey
  secondary : Option ClientApiKey
deriving DecidableEq

/-- `api_keys[keyType]`. -/
def ApiKeys.get (keys : ApiKeys) : KeyType → Option ClientApiKey
  | .primary => keys.primary
  | .secondary => keys.secondary

/-- `api_keys[keyType] = key`. -/
def ApiKeys.set (keys : ApiKeys) (key : ClientApiKey) : KeyType → ApiKeys
  | .primary => { keys with primary := some key }
  | .secondary => { keys with secondary := some key }

structure ClientProject where
  projectId : String
  slug : String
  name : String
  stack : String
  environment : Environment
  createdAt : Nat
  status : ProjectStatus
deriving DecidableEq

structure ProjectContext where
  schemaVersion : Nat
  compatibilityMode : Bool
  source : ProjectContextSource
  migratedAt : Nat
  lastCheckedAt : Nat
deriving DecidableEq

structure Client where
  clientId : String
  tenantId : String
  companyName : String
  plan : Plan
  apiKeys : ApiKeys
  ipWhitelist : List String
  activeProjectId : Option String
  activeProjectName : Option String
  activeProjectStack : Option String
  activeProjectEnvironment : Option Environment
  projects : List ClientProject
  projectContext : Option ProjectContext
  status : ClientStatus
  createdAt : Nat
  updatedAt : Nat
deriving DecidableEq

/-- What the validation of an API key tells about its client. -/
structure ValidatedClient where
  clientId : String
  tenantId : String
  plan : Plan
  permissions : List String
  rateLimitTier : String
  activeProjectId : Option String
  projectIds : List String
deriving DecidableEq

structure ApiKeyValidationResult where
  valid : Bool
  client : Option ValidatedClient
  error : Option String
deriving DecidableEq

inductive ClientQuery where
  | byId (clientId : String)
  | byApiKeyHash (keyHash : String)

inductive ClientUpdate where
  | apiKeys (apiKeys : ApiKeys) (updatedAt : Nat)
  | lastUsed (keyType : KeyType) (lastUsed : Nat)
  | projectContext (projects : List ClientProject) (activeProject : ClientProject)
      (projectContext : ProjectContext) (updatedAt : Nat)
  | ipWhitelist (ips : List String) (updatedAt : Nat)
  | createProject (newProject : ClientProject) (updatedAt : Nat)
  | updateProject (projects : List ClientProject) (activeProject : Option ClientProject)
      (updatedAt : Nat)
  | archiveProject (projects : List ClientProject) (activeProject : ClientProject) (updatedAt : Nat)
  | selectActiveProject (project : ClientProject) (updatedAt : Nat)

inductive ClientCommand where
  | findOne (query : ClientQuery)
  | updateOne (clientId : String) (update : ClientUpdate)
  | client (command : StringCommand String Client)
  | apiKey (command : StringCommand String String)
  | validation (command : StringCommand String ApiKeyValidationResult)
  | now
  | uuid
  | generateApiKey

namespace ClientCommand

/-- The reply of a command; a rejected promise is an error. -/
def Reply : ClientCommand → Type
  | .findOne _ => Option Client
  | .updateOne _ _ => Except String Unit
  | .client command => command.Reply
  | .apiKey command => command.Reply
  | .validation command => command.Reply
  | .now => Nat
  | .uuid | .generateApiKey => String

end ClientCommand

/-- An `async` function on clients. -/
abbrev ClientProgram := Program ClientCommand ClientCommand.Reply

/-- `await` on a command. -/
def ClientCommand.await (command : ClientCommand) : ClientProgram command.Reply :=
  Program.command command

/-- What the functions take from elsewhere: the SHA-256 digest of a key, the check of an
address against a whitelist, and the lower case of a text. -/
structure ClientSettings where
  hashApiKey : String → String
  isIpAllowed : String → List String → Bool
  toLowerCase : String → String

namespace ClientRepository

variable (settings : ClientSettings)

/-- `text || other`. -/
def orElse (text : Option String) (other : String) : String := (text.filter (· ≠ "")).getD other

def cacheTtl : Int := 300

/-- `stack` in lower case without white space around it. -/
def normalizeProjectStack (stack : Option String) : String :=
  let value := settings.toLowerCase (Js.trim (orElse stack "custom"))
  orElse (some value) "custom"

def normalizeProjectEnvironment (environment : Option Environment) : Environment :=
  match environment with
  | some .staging => .staging
  | some .production => .production
  | _ => .development

/-- The replacement of `/[^a-z0-9]+/g` by dashes; the flag tells that a dash stands for the
characters just before. -/
def dashed (inRun : Bool) : List Char → List Char
  | [] => []
  | c :: rest =>
    if ('a' ≤ c ∧ c ≤ 'z') ∨ c.isDigit then c :: dashed false rest
    else if inRun then dashed true rest
    else '-' :: dashed true rest

def toProjectSlug (name : String) : String :=
  let slug := dashed false (settings.toLowerCase name).toList
  let stripped := ((slug.dropWhile (· = '-')).reverse.dropWhile (· = '-')).reverse
  orElse (some (String.ofList stripped)) "project"

/-- A stored project with its slug, stack and environment filled in. -/
def normalizeProject (project : ClientProject) : ClientProject :=
  { project with
    slug := orElse (some project.slug)
      (toProjectSlug settings (orElse (some project.name) "project"))
    stack := normalizeProjectStack settings (some project.stack)
    environment := normalizeProjectEnvironment (some project.environment) }

/-- `!!client.active_...` for any of the fields from before there were projects. -/
def hasLegacyFields (client : Client) : Bool :=
  orElse client.activeProjectId "" ≠ "" || orElse client.activeProjectName "" ≠ "" ||
    orElse client.activeProjectStack "" ≠ "" || client.activeProjectEnvironment.isSome

def fallbackProject (client : Client) (projectId : String) : ClientProject where
  projectId := projectId
  slug := toProjectSlug settings
    (orElse client.activeProjectName (client.companyName ++ " default"))
  name := orElse client.activeProjectName (client.companyName ++ " Default")
  stack := normalizeProjectStack settings client.activeProjectStack
  environment := normalizeProjectEnvironment client.activeProjectEnvironment
  createdAt := client.createdAt
  status := .active

/-- The projects of a client with the active one, the source of the choice, and whether it
repairs something. -/
structure ProjectChoice where
  projects : List ClientProject
  activeProject : ClientProject
  source : ProjectContextSource
  compatibilityMode : Bool

def fallbackChoice (client : Client) (projectId : String) : ProjectChoice where
  projects := [fallbackProject settings client projectId]
  activeProject := fallbackProject settings client projectId
  source := if hasLegacyFields client then .legacyFields else .defaultGenerated
  compatibilityMode := true

def chooseProject (client : Client) : ClientProgram ProjectChoice := do
  let currentProjects := client.projects.map (normalizeProject settings)
  let active := currentProjects.find? fun project =>
    client.activeProjectId = some project.projectId && project.status ≠ .archived
  match active, currentProjects with
  | some project, _ => return ⟨currentProjects, project, .projects, false⟩
  | none, first :: _ =>
    let open? := currentProjects.find? fun project => project.status ≠ .archived
    return ⟨currentProjects, open?.getD first, .projectsRepaired, true⟩
  | none, [] =>
    if orElse client.activeProjectId "" = "" then
      let projectId : String ← ClientCommand.await .uuid
      return fallbackChoice settings client projectId
    else
      return fallbackChoice settings client (orElse client.activeProjectId "")

/-- The stored client differs from what `ensureProjectContext` answers. -/
def needsUpdate (client : Client) (choice : ProjectChoice) : Bool :=
  let activeProject := choice.activeProject
  choice.compatibilityMode || orElse client.activeProjectId "" = "" ||
    client.activeProjectId ≠ some activeProject.projectId ||
    client.activeProjectName ≠ some activeProject.name ||
    client.activeProjectStack ≠ some activeProject.stack ||
    client.activeProjectEnvironment ≠ some activeProject.environment ||
    choice.projects.any (fun project => project.slug = "") ||
    client.projectContext.all fun context =>
      context.schemaVersion ≠ 1 || context.compatibilityMode ≠ choice.compatibilityMode ||
        context.source ≠ choice.source

/-- The same client with its projects repaired. -/
def withProjects (client : Client) (choice : ProjectChoice) (projectContext : ProjectContext) :
    Client :=
  { client with
    projects := choice.projects
    activeProjectId := some choice.activeProject.projectId
    activeProjectName := some choice.activeProject.name
    activeProjectStack := some choice.activeProject.stack
    activeProjectEnvironment := some choice.activeProject.environment
    projectContext := some projectContext }

def ensureProjectContext (client : Client) : ClientProgram Client := do
  let choice ← chooseProject settings client
  let now : Nat ← ClientCommand.await .now
  let projectContext : ProjectContext :=
    { schemaVersion := 1
      compatibilityMode := choice.compatibilityMode
      source := choice.source
      migratedAt := (client.projectContext.map (·.migratedAt)).getD now
      lastCheckedAt := now }
  if needsUpdate client choice then
    orThrow (← ClientCommand.await (.updateOne client.clientId
      (.projectContext choice.projects choice.activeProject projectContext now)))
    let _ ← ClientCommand.await (.client (.del client.clientId))
  return withProjects client choice projectContext

/-- The `try` block over a cached client; its errors are logged. -/
def ensureCached : Option Client → ClientProgram (Option Client)
  | none => return none
  | some client => catching (do return some (← ensureProjectContext settings client))
      fun _ => return none

def findById (clientId : String) : ClientProgram (Option Client) := do
  let cached : Option Client ← ClientCommand.await (.client (.get clientId))
  match ← ensureCached settings cached with
  | some client => return some client
  | none =>
    let found : Option Client ← ClientCommand.await (.findOne (.byId clientId))
    match found with
    | none => return none
    | some client =>
      let normalizedClient ← ensureProjectContext settings client
      orThrow (← ClientCommand.await (.client (.setex clientId cacheTtl normalizedClient)))
      return some normalizedClient

/-- The read through the collection, which caches the id of the client for the hash. -/
def findStoredByApiKeyHash (keyHash : String) : ClientProgram (Option Client) := do
  let found : Option Client ← ClientCommand.await (.findOne (.byApiKeyHash keyHash))
  match found with
  | none => return none
  | some client =>
    let normalizedClient ← ensureProjectContext settings client
    orThrow (← ClientCommand.await
      (.apiKey (.setex keyHash cacheTtl normalizedClient.clientId)))
    return some normalizedClient

def findByApiKeyHash (keyHash : String) : ClientProgram (Option Client) := do
  let cachedClientId : Option String ← ClientCommand.await (.apiKey (.get keyHash))
  match cachedClientId with
  | some clientId =>
    if clientId ≠ "" then findById settings clientId
    else findStoredByApiKeyHash settings keyHash
  | none => findStoredByApiKeyHash settings keyHash

/-- Forget the client of a key that has a hash. -/
def evictApiKey : Option ClientApiKey → ClientProgram Unit
  | none => return ()
  | some key => do
    if key.keyHash ≠ "" then
      let _ ← ClientCommand.await (.apiKey (.del key.keyHash))

def updateApiKeys (clientId : String) (apiKeys : ApiKeys) : ClientProgram Unit := do
  let now : Nat ← ClientCommand.await .now
  orThrow (← ClientCommand.await (.updateOne clientId (.apiKeys apiKeys now)))
  let _ ← ClientCommand.await (.client (.del clientId))
  evictApiKey apiKeys.primary
  evictApiKey apiKeys.secondary

def updateApiKeyLastUsed (clientId : String) (keyType : KeyType) : ClientProgram Unit := do
  let now : Nat ← ClientCommand.await .now
  orThrow (← ClientCommand.await (.updateOne clientId (.lastUsed keyType now)))

def updateIpWhitelist (clientId : String) (ips : List String) : ClientProgram Unit := do
  let now : Nat ← ClientCommand.await .now
  orThrow (← ClientCommand.await (.updateOne clientId (.ipWhitelist ips now)))
  let _ ← ClientCommand.await (.client (.del clientId))

end ClientRepository

/-- The collection of clients, the Redis keys of the repository and of the validation of keys,
and the clock. -/
structure ClientStore where
  now : Nat
  clients : List Client
  clientCache : ExpiringMap String Client
  apiKeyCache : ExpiringMap String String
  validationCache : ExpiringMap String ApiKeyValidationResult

structure ClientOracle where
  uuid : String
  apiKey : String

namespace ClientQuery

def isLive (keyHash : String) (key : Option ClientApiKey) : Bool :=
  key.any fun key => key.keyHash = keyHash && !key.revoked

def isMatch : ClientQuery → Client → Bool
  | .byId clientId, client => client.clientId = clientId
  | .byApiKeyHash keyHash, client =>
    (isLive keyHash client.apiKeys.primary || isLive keyHash client.apiKeys.secondary) &&
      client.status = .active

theorem clientId_of_find {clientId : String} {clients : List Client} {client : Client}
    (found : clients.find? (byId clientId).isMatch = some client) : client.clientId = clientId := by
  have matched : (byId clientId).isMatch client = true := List.find?_some found
  exact of_decide_eq_true matched

end ClientQuery

/-- `$set` of a field of a key; there is none to set where the key is `null`. -/
def ApiKeys.setLastUsed (keys : ApiKeys) (keyType : KeyType) (lastUsed : Nat) :
    Except String ApiKeys :=
  match keys.get keyType with
  | none => .error "Cannot create field 'last_used' in element"
  | some key => .ok (keys.set { key with lastUsed := some lastUsed } keyType)

/-- The active project, copied into the fields of the client. -/
def Client.activate (client : Client) (project : ClientProject) : Client :=
  { client with
    activeProjectId := some project.projectId
    activeProjectName := some project.name
    activeProjectStack := some project.stack
    activeProjectEnvironment := some project.environment }

def ClientUpdate.apply (client : Client) : ClientUpdate → Except String Client
  | .apiKeys keys updatedAt => .ok { client with apiKeys := keys, updatedAt }
  | .lastUsed keyType time =>
    (client.apiKeys.setLastUsed keyType time).map fun keys => { client with apiKeys := keys }
  | .projectContext projects activeProject context updatedAt =>
    .ok { client with
      projects
      activeProjectId := some activeProject.projectId
      activeProjectName := some activeProject.name
      activeProjectStack := some activeProject.stack
      activeProjectEnvironment := some activeProject.environment
      projectContext := some context
      updatedAt }
  | .ipWhitelist ips updatedAt => .ok { client with ipWhitelist := ips, updatedAt }
  -- `$push` comes with the `$set` of the active project.
  | .createProject newProject updatedAt =>
    .ok { client.activate newProject with projects := client.projects ++ [newProject], updatedAt }
  -- The id of the active project is not set: it is the same project.
  | .updateProject projects activeProject updatedAt =>
    .ok { (activeProject.elim client fun project =>
        { client.activate project with activeProjectId := client.activeProjectId }) with
      projects, updatedAt }
  | .archiveProject projects activeProject updatedAt =>
    .ok { client.activate activeProject with projects, updatedAt }
  | .selectActiveProject project updatedAt => .ok { client.activate project with updatedAt }

/-- `updateOne({ client_id }, update)`; no client with the id is no error. -/
def updateOneClient (clientId : String) (update : ClientUpdate) :
    List Client → Except String (List Client)
  | [] => .ok []
  | client :: rest =>
    if client.clientId = clientId then (update.apply client).map fun updated => updated :: rest
    else (updateOneClient clientId update rest).map fun updated => client :: updated

section Updates

variable {update : ClientUpdate} {clientId : String} {client changed : Client}
  {clients updated : List Client}

theorem clientId_of_apply (applied : update.apply client = .ok changed) :
    changed.clientId = client.clientId := by
  cases update with
  | apiKeys | projectContext | ipWhitelist | createProject | archiveProject
  | selectActiveProject =>
    cases applied
    rfl
  | updateProject projects activeProject updatedAt =>
    cases applied
    cases activeProject <;> rfl
  | lastUsed keyType time =>
    cases outcome : client.apiKeys.setLastUsed keyType time with
    | error error =>
      rw [ClientUpdate.apply, outcome] at applied
      cases applied
    | ok keys =>
      rw [ClientUpdate.apply, outcome] at applied
      cases applied
      rfl

/-- What no successful update of a client changes is unchanged in the collection. -/
theorem map_updateOneClient {α : Type} {view : Client → α}
    (same : ∀ client updated, update.apply client = .ok updated → view updated = view client)
    (succeeded : updateOneClient clientId update clients = .ok updated) :
    updated.map view = clients.map view := by
  induction clients generalizing updated with
  | nil =>
    cases succeeded
    rfl
  | cons client rest ih =>
    rw [updateOneClient] at succeeded
    split at succeeded
    · cases outcome : update.apply client with
      | error error =>
        rw [outcome] at succeeded
        cases succeeded
      | ok changed =>
        rw [outcome] at succeeded
        cases succeeded
        rw [List.map_cons, List.map_cons, same client changed outcome]
    · cases outcome : updateOneClient clientId update rest with
      | error error =>
        rw [outcome] at succeeded
        cases succeeded
      | ok changed =>
        rw [outcome] at succeeded
        cases succeeded
        rw [List.map_cons, List.map_cons, ih outcome]

theorem find_updateOneClient_of_ne {other : String} (different : clientId ≠ other)
    (succeeded : updateOneClient clientId update clients = .ok updated) :
    updated.find? (ClientQuery.byId other).isMatch =
      clients.find? (ClientQuery.byId other).isMatch := by
  induction clients generalizing updated with
  | nil =>
    cases succeeded
    rfl
  | cons first rest ih =>
    rw [updateOneClient] at succeeded
    split at succeeded
    · rename_i same
      cases outcome : update.apply first with
      | error error =>
        rw [outcome] at succeeded
        cases succeeded
      | ok changed =>
        rw [outcome] at succeeded
        cases succeeded
        have before : ¬ (ClientQuery.byId other).isMatch first = true := by
          simpa [ClientQuery.isMatch, same] using different
        have after : ¬ (ClientQuery.byId other).isMatch changed = true := by
          simpa [ClientQuery.isMatch, clientId_of_apply outcome, same] using different
        rw [List.find?_cons_of_neg before, List.find?_cons_of_neg after]
    · cases outcome : updateOneClient clientId update rest with
      | error error =>
        rw [outcome] at succeeded
        cases succeeded
      | ok changed =>
        rw [outcome] at succeeded
        cases succeeded
        rw [List.find?_cons, List.find?_cons, ih outcome]

theorem find_updateOneClient_self
    (found : clients.find? (ClientQuery.byId clientId).isMatch = some client)
    (applied : update.apply client = .ok changed) :
    ∃ updated, updateOneClient clientId update clients = .ok updated ∧
      updated.find? (ClientQuery.byId clientId).isMatch = some changed := by
  induction clients with
  | nil => cases found
  | cons first rest ih =>
    rw [List.find?_cons] at found
    by_cases same : first.clientId = clientId
    · have matched : (ClientQuery.byId clientId).isMatch first = true := decide_eq_true same
      rw [matched] at found
      cases found
      refine ⟨changed :: rest, by rw [updateOneClient, if_pos same, applied]; rfl, ?_⟩
      have kept : (ClientQuery.byId clientId).isMatch changed = true :=
        decide_eq_true ((clientId_of_apply applied).trans same)
      rw [List.find?_cons_of_pos kept]
    · have unmatched : (ClientQuery.byId clientId).isMatch first = false := decide_eq_false same
      rw [unmatched] at found
      obtain ⟨updated, succeeds, after⟩ := ih found
      refine ⟨first :: updated, by rw [updateOneClient, if_neg same, succeeds]; rfl, ?_⟩
      rw [List.find?_cons, unmatched]
      exact after

end Updates

namespace ClientStore

def exec (store : ClientStore) (oracle : ClientOracle) :
    (command : ClientCommand) → ClientStore × command.Reply
  | .findOne query => (store, store.clients.find? query.isMatch)
  | .updateOne clientId update =>
    match updateOneClient clientId update store.clients with
    | .ok clients => ({ store with clients }, .ok ())
    | .error error => (store, .error error)
  | .client command =>
    let (clientCache, reply) := command.exec store.clientCache store.now
    ({ store with clientCache }, reply)
  | .apiKey command =>
    let (apiKeyCache, reply) := command.exec store.apiKeyCache store.now
    ({ store with apiKeyCache }, reply)
  | .validation command =>
    let (validationCache, reply) := command.exec store.validationCache store.now
    ({ store with validationCache }, reply)
  | .now => (store, store.now)
  | .uuid => (store, oracle.uuid)
  | .generateApiKey => (store, oracle.apiKey)

/-- Execute a command some milliseconds after the one before. -/
def execLater (store : ClientStore) (command : ClientCommand) (circumstance : Nat × ClientOracle) :
    ClientStore × command.Reply :=
  { store with now := store.now + circumstance.1 }.exec circumstance.2 command

end ClientStore

/-- What a program on clients meets at each of its commands when it runs alone: the time since
the one before, and the draws. -/
abbrev ClientCircumstances := Nat → Nat × ClientOracle

end Caas.Auth
