import Caas.Auth.ClientRepository
import Caas.Machine.FirstFree

/-!
# The projects of API clients

Registration of a client, and the operations of the repository on the projects of a client.
The fields of the active project are copies of what the list of projects has.
-/

namespace Caas.Auth

open Async Program Redis

structure ClientData where
  companyName : String
  plan : Option Plan := none
  ipWhitelist : List String := []
  activeProjectId : Option String := none
  activeProjectName : Option String := none
  activeProjectStack : Option String := none
  activeProjectEnvironment : Option Environment := none
  projects : List ClientProject := []

structure ProjectUpdates where
  name : Option String := none
  stack : Option String := none
  environment : Option Environment := none
deriving DecidableEq

inductive ProjectCall where
  | findById (clientId : String)
  | createProject (clientId name stack : String) (environment : Environment)
  | updateProject (clientId projectId : String) (updates : ProjectUpdates)
  | archiveProject (clientId projectId : String)
  | selectActiveProject (clientId projectId : String)
deriving DecidableEq

def ProjectCall.clientId : ProjectCall → String
  | .findById clientId | .createProject clientId _ _ _ | .updateProject clientId _ _
  | .archiveProject clientId _ | .selectActiveProject clientId _ => clientId

inductive ProjectResult where
  | client (client : Option Client)
  | project (project : ClientProject)
  | archived (archivedProject activeProject : ClientProject)
deriving DecidableEq

namespace ClientRepository

variable (settings : ClientSettings)

def isArchived (project : ClientProject) : Bool := project.status = .archived

def newClient (data : ClientData) (clientId tenantId : String) (now : Nat) : Client where
  clientId
  tenantId
  companyName := data.companyName
  plan := data.plan.getD .free
  apiKeys := ⟨none, none⟩
  ipWhitelist := data.ipWhitelist
  activeProjectId := data.activeProjectId
  activeProjectName := data.activeProjectName
  activeProjectStack := data.activeProjectStack
  activeProjectEnvironment := data.activeProjectEnvironment
  projects := data.projects
  projectContext := some
    { schemaVersion := 1
      compatibilityMode := data.projects.isEmpty
      source :=
        if data.projects ≠ [] then .projects
        else if orElse data.activeProjectId "" ≠ "" || orElse data.activeProjectName "" ≠ "" ||
          orElse data.activeProjectStack "" ≠ "" || data.activeProjectEnvironment.isSome then
            .legacyFields
        else .defaultGenerated
      migratedAt := now
      lastCheckedAt := now }
  status := .active
  createdAt := now
  updatedAt := now

/-- The registration of a client with ids drawn at random; it is stored and cached at once. -/
def createClient (data : ClientData) (clientId tenantId : String) (store : ClientStore) :
    ClientStore :=
  let client := newClient data clientId tenantId store.now
  { store with
    clients := store.clients ++ [client]
    clientCache := store.clientCache.store store.now clientId cacheTtl.toNat client }

/-- `${base}-${suffix}`. -/
def suffixed (base : String) (suffix : Nat) : String := base ++ "-" ++ toString suffix

def buildUniqueProjectSlug (name : String) (existingProjects : List ClientProject) : String :=
  let base := toProjectSlug settings name
  let existing := (existingProjects.map (·.slug)).filter (· ≠ "")
  if base ∈ existing then suffixed base (FirstFree.firstFree (suffixed base) existing 2) else base

def existingClient (clientId : String) : ClientProgram Client := do
  match ← findById settings clientId with
  | none => failure "Client not found"
  | some client => return client

/-- Write the projects of a client, and forget what is cached of it. -/
def writeProjects (clientId : String) (update : ClientUpdate) : ClientProgram Unit := do
  orThrow (← ClientCommand.await (.updateOne clientId update))
  let _ ← ClientCommand.await (.client (.del clientId))

def newProject (client : Client) (projectId name stack : String) (environment : Environment)
    (now : Nat) : ClientProject where
  projectId
  slug := buildUniqueProjectSlug settings name client.projects
  name
  stack := normalizeProjectStack settings (some stack)
  environment := normalizeProjectEnvironment (some environment)
  createdAt := now
  status := .active

def createProject (clientId name stack : String) (environment : Environment) :
    ClientProgram ProjectResult := do
  let client ← existingClient settings clientId
  let projectId : String ← ClientCommand.await .uuid
  let createdAt : Nat ← ClientCommand.await .now
  let project := newProject settings client projectId name stack environment createdAt
  let now : Nat ← ClientCommand.await .now
  writeProjects clientId (.createProject project now)
  return .project project

/-- The project with its updates; `others` are the other projects. -/
def updatedProject (project : ClientProject) (others : List ClientProject)
    (updates : ProjectUpdates) : ClientProject :=
  let sanitizedName := (updates.name.map Js.trim).filter (· ≠ "")
  { project with
    name := sanitizedName.getD project.name
    stack := ((updates.stack.filter (· ≠ "")).map fun stack =>
      normalizeProjectStack settings (some stack)).getD project.stack
    environment := (updates.environment.map fun environment =>
      normalizeProjectEnvironment (some environment)).getD project.environment
    slug := (sanitizedName.map fun name =>
      buildUniqueProjectSlug settings name others).getD project.slug }

/-- `projects.findIndex(...)` of a project, with the project. -/
def findProject (projectId : String) (projects : List ClientProject) :
    Option (Nat × ClientProject) :=
  (projects.findIdx? fun project => project.projectId = projectId).bind fun index =>
    projects[index]?.map fun project => (index, project)

def updateProject (clientId projectId : String) (updates : ProjectUpdates) :
    ClientProgram ProjectResult := do
  let client ← existingClient settings clientId
  match findProject projectId client.projects with
  | none => failure "Project not found"
  | some (index, existing) =>
    if isArchived existing then failure "Archived project cannot be updated"
    else
      let nextProject := updatedProject settings existing (client.projects.eraseIdx index) updates
      let now : Nat ← ClientCommand.await .now
      writeProjects clientId (.updateProject (client.projects.set index nextProject)
        (if client.activeProjectId = some projectId then some nextProject else none) now)
      return .project nextProject

def activeAfter (client : Client) (projects : List ClientProject) (projectId : String) :
    Option ClientProject :=
  let activeProject := projects.find? fun project =>
    client.activeProjectId = some project.projectId && !isArchived project
  (activeProject.filter fun project => project.projectId ≠ projectId).or
    (projects.find? fun project => !isArchived project)

def archiveProject (clientId projectId : String) : ClientProgram ProjectResult := do
  let client ← existingClient settings clientId
  match findProject projectId client.projects with
  | none => failure "Project not found"
  | some (index, target) =>
    let activeProjects := client.projects.filter fun project => !isArchived project
    if !isArchived target && activeProjects.length ≤ 1 &&
        (activeProjects[0]?.any fun project => project.projectId = projectId) then
      failure "At least one active project is required"
    else
      let archivedProject := { target with status := .archived }
      let projects := client.projects.set index archivedProject
      match activeAfter client projects projectId with
      | none => failure "At least one active project is required"
      | some activeProject =>
        let now : Nat ← ClientCommand.await .now
        writeProjects clientId (.archiveProject projects activeProject now)
        return .archived archivedProject activeProject

def selectActiveProject (clientId projectId : String) : ClientProgram ProjectResult := do
  let client ← existingClient settings clientId
  match client.projects.find? fun project =>
      project.projectId = projectId && !isArchived project with
  | none => failure "Project not found"
  | some project =>
    let now : Nat ← ClientCommand.await .now
    writeProjects clientId (.selectActiveProject project now)
    return .project project

def projectCall : ProjectCall → ClientProgram ProjectResult
  | .findById clientId => do return .client (← findById settings clientId)
  | .createProject clientId name stack environment =>
    createProject settings clientId name stack environment
  | .updateProject clientId projectId updates => updateProject settings clientId projectId updates
  | .archiveProject clientId projectId => archiveProject settings clientId projectId
  | .selectActiveProject clientId projectId => selectActiveProject settings clientId projectId

end ClientRepository

/-- Calls that run one after the other. The stores that their commands leave behind are
remembered. -/
def projectRuns (settings : ClientSettings) :
    Transducer (ClientStore × List ClientStore) (ProjectCall × ClientCircumstances)
      (Outcome ProjectResult) where
  step current input :=
    (ClientRepository.projectCall settings input.1).run
      (remembering ClientStore.execLater) input.2 0 current

/-- Concurrent calls of the repository; outside of them only time passes, by a number of
milliseconds. -/
def projectHost (settings : ClientSettings) :
    Host ClientStore ClientCommand ClientCommand.Reply ClientOracle Nat ProjectCall
      ProjectResult where
  exec store command oracle := store.exec oracle command
  change store elapsed := { store with now := store.now + elapsed }
  body := ClientRepository.projectCall settings

/-- `toLowerCase` on a text is what the language makes of it: a text in lower case stays as it
is, and no white space comes or goes at the ends. -/
structure LowersCase (toLowerCase : String → String) : Prop where
  lowered : ∀ text, toLowerCase (toLowerCase text) = toLowerCase text
  trimmed : ∀ text, Js.trim (toLowerCase (Js.trim text)) = toLowerCase (Js.trim text)
  latin : toLowerCase "custom" = "custom"

end Caas.Auth
