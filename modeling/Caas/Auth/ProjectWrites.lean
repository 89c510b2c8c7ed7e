import Caas.Async.Histories
import Caas.Auth.ProjectPortfolio

/-!
# What concurrent calls write of the projects

A call reads the list of projects, and what it writes is made of what it has read: a repair
writes the same projects in normal form, an update or an archival writes them with one
replaced, and a creation pushes one.
-/

namespace Caas.Auth.ProjectWrites

open Async Program Redis ClientRepository ProjectPortfolio

/-- The list of projects that a call has read last or repaired, and the project it has
written. -/
structure Progress where
  read : Option (List ClientProject)
  written : Option ClientProject
deriving DecidableEq

def target : ProjectCall → Option String
  | .updateProject _ projectId _ | .archiveProject _ projectId => some projectId
  | .findById _ | .createProject _ _ _ _ | .selectActiveProject _ _ => none

/-- The project that a call has created or revised, going by how it ended. -/
def returned : ProjectCall → Outcome ProjectResult → Option ClientProject
  | .createProject _ _ _ _, .ok (.project project) | .updateProject _ _ _, .ok (.project project)
  | .archiveProject _ _, .ok (.archived project _) => some project
  | _, _ => none

/-- What a command with its reply makes of the progress of a call. -/
def advance (input : ProjectCall) (progress : Progress) :
    (command : ClientCommand) → command.Reply → Progress
  | .findOne _, (found : Option Client) | .client (.get _), (found : Option Client) =>
    { progress with read := (found.map (·.projects)).or progress.read }
  | .updateOne _ (.projectContext projects _ _ _), _ => { progress with read := some projects }
  | .updateOne _ (.createProject project _), _ => { progress with written := some project }
  | .updateOne _ (.updateProject projects _ _), _
  | .updateOne _ (.archiveProject projects _ _), _ =>
    { progress with
      written := (target input).bind fun projectId =>
        projects.find? fun project => project.projectId = projectId }
  | _, _ => progress

section Lists

variable (settings : ClientSettings)

/-- The projects have the form that a read gives them. -/
def Normal (projects : List ClientProject) : Prop :=
  ∀ project ∈ projects, normalizeProject settings project = project

/-- A repair writes the projects that were read, or a first one. -/
def Repairs (read projects : List ClientProject) : Prop :=
  projects = read.map (normalizeProject settings) ∨ read = [] ∧ Normal settings projects

/-- A revision writes the projects that were read with the first one of an id replaced. -/
structure Revises (projectId : String) (read projects : List ClientProject)
    (next : ClientProject) : Prop where
  id : next.projectId = projectId
  normal : normalizeProject settings next = next
  found : projects.find? (fun project => project.projectId = projectId) = some next
  replaced : ∃ index project, (read.map (normalizeProject settings))[index]? = some project ∧
    project.projectId = projectId ∧
      projects = (read.map (normalizeProject settings)).set index next

def Writes (input : ProjectCall) (progress : Progress) : ClientCommand → Prop
  | .updateOne clientId update => clientId = input.clientId ∧
    match update with
    | .projectContext projects _ _ _ => ∃ read ∈ progress.read, Repairs settings read projects
    | .updateProject projects _ _ | .archiveProject projects _ _ =>
      ∃ read ∈ progress.read, ∃ projectId ∈ target input, ∃ next,
        Revises settings projectId read projects next
    | .createProject _ _ => target input = none
    | .selectActiveProject _ _ => True
    | .apiKeys _ _ | .lastUsed _ _ | .ipWhitelist _ _ => False
  | .client (.setex clientId _ client) => client.clientId = clientId
  | _ => True

/-- A client is found by its id, and writes succeed. -/
def Replies : (command : ClientCommand) → command.Reply → Prop
  | .findOne (.byId clientId), (found : Option Client)
  | .client (.get clientId), (found : Option Client) =>
    ∀ client, found = some client → client.clientId = clientId
  | .updateOne _ _, (written : Except String Unit) => written = .ok ()
  | _, _ => True

def discipline (input : ProjectCall) :
    Discipline ClientCommand ClientCommand.Reply Progress where
  next := advance input
  may := Writes settings input
  assumes := Replies

/-- A call returns the project it has written, and one that fails has written none. -/
def ends (input : ProjectCall) (progress : Progress)
    (outcome : Outcome ProjectResult) : Prop :=
  progress.written = returned input outcome

end Lists

section Programs

variable {settings : ClientSettings} {input : ProjectCall} {progress : Progress}

/-- The client that a call goes on with has the projects it has read, in normal form. -/
structure Has (settings : ClientSettings) (input : ProjectCall) (client : Client)
    (progress : Progress) : Prop where
  id : client.clientId = input.clientId
  unwritten : progress.written = none
  projects : ∃ read ∈ progress.read, client.projects = read.map (normalizeProject settings)

/-- The choice of a client repairs its projects, and says so if it makes the first one. -/
def Chooses (settings : ClientSettings) (client : Client) (choice : ProjectChoice) : Prop :=
  choice.projects = client.projects.map (normalizeProject settings) ∨
    client.projects = [] ∧ Normal settings choice.projects ∧ choice.compatibilityMode = true

variable (lowers : LowersCase settings.toLowerCase)

include lowers in
theorem chooseProject_respects (client : Client) : (chooseProject settings client).Respects
      (Discipline.plain (fun command => command = .uuid) Replies)
      (fun _ => Returns (Chooses settings client)) () := by
  have first (projectId : String) :
      client.projects = [] → Chooses settings client (fallbackChoice settings client projectId) :=
    fun none => .inr ⟨none, (settled_fallback lowers client projectId).normal, rfl⟩
  unfold chooseProject
  dsimp only
  split
  · exact .inl rfl
  · exact .inl rfl
  · rename_i nothing
    have empty : client.projects = [] := List.map_eq_nil_iff.mp nothing
    split
    · exact respects_command_bind rfl fun (projectId : String) _ _ _ =>
        first projectId empty
    · exact first _ empty

include lowers in
theorem ensureProjectContext_respects {client : Client} (id : client.clientId = input.clientId)
    (read : progress.read = some client.projects) (unwritten : progress.written = none) :
    (ensureProjectContext settings client).Respects (discipline settings input)
      (fun after => Returns fun repaired => Has settings input repaired after)
      progress := by
  have choose : (chooseProject settings client).Respects (discipline settings input)
      (fun after outcome => after = progress ∧
        Returns (Chooses settings client) outcome) progress :=
    Respects.of_plain (chooseProject_respects lowers client)
      (fun command quiet => by
        subst quiet
        trivial)
      (fun command reply quiet => by
        subst quiet
        rfl)
  refine respects_bind (choose.mono ?_)
  rintro _ outcome ⟨rfl, chosen⟩
  cases outcome with
  | error error => exact chosen.elim
  | ok choice =>
    refine respects_command_bind trivial ?_
    rintro (now : Nat) _ _ rfl
    split
    · have repairs : Repairs settings client.projects choice.projects := by
        rcases chosen with same | ⟨empty, normal, _⟩
        · exact .inl same
        · exact .inr ⟨empty, normal⟩
      have normal : choice.projects.map (normalizeProject settings) = choice.projects := by
        rcases chosen with same | ⟨_, normal, _⟩
        · rw [same, List.map_map]
          exact List.map_congr_left fun project _ => normalizeProject_again lowers project
        · exact (List.map_congr_left normal).trans (List.map_id _)
      refine respects_command_bind ⟨id, _, read, repairs⟩ ?_
      rintro (written : Except String Unit) succeeds _ rfl
      subst succeeds
      refine respects_command_bind trivial ?_
      rintro _ _ _ rfl
      exact ⟨id, unwritten, _, rfl, normal.symm⟩
    · rename_i unneeded
      rcases chosen with same | ⟨_, _, compatibility⟩
      · exact ⟨id, unwritten, _, read, same⟩
      · exact absurd (by simp [needsUpdate, compatibility]) unneeded

include lowers in
theorem ensureCached_respects {cached : Option Client} (known : ∀ client, cached = some client →
      client.clientId = input.clientId ∧ progress.read = some client.projects)
    (unwritten : progress.written = none) :
    (ensureCached settings cached).Respects (discipline settings input)
      (fun after => Returns fun found => after.written = none ∧
        ∀ client, found = some client → Has settings input client after) progress := by
  cases cached with
  | none => exact ⟨unwritten, fun _ absent => nomatch absent⟩
  | some client =>
    obtain ⟨id, read⟩ := known client rfl
    refine respects_catching (respects_bind
      ((ensureProjectContext_respects lowers id read unwritten).mono fun after outcome has => ?_))
    cases outcome with
    | error error => exact has.elim
    | ok repaired =>
      refine ⟨has.unwritten, ?_⟩
      rintro found ⟨⟩
      exact has

include lowers in
theorem findById_respects (unwritten : progress.written = none) :
    (findById settings input.clientId).Respects (discipline settings input)
      (fun after => fun outcome => after.written = none ∧ MayReturn (fun found =>
        ∀ client, found = some client → Has settings input client after) outcome) progress := by
  refine respects_command_bind trivial ?_
  rintro (cached : Option Client) shown _ rfl
  have known : ∀ client, cached = some client → client.clientId = input.clientId ∧
      (advance input progress (.client (.get input.clientId)) cached).read =
        some client.projects := by
    rintro client rfl
    exact ⟨shown client rfl, rfl⟩
  refine respects_bind ((ensureCached_respects lowers known unwritten).mono ?_)
  rintro after outcome returns
  cases outcome with
  | error error => exact returns.elim
  | ok parsed =>
    obtain ⟨unwritten, has⟩ := returns
    cases parsed with
    | some client => exact ⟨unwritten, has⟩
    | none =>
      refine respects_command_bind trivial ?_
      rintro (found : Option Client) shown _ rfl
      cases found with
      | none => exact ⟨unwritten, fun _ absent => nomatch absent⟩
      | some client =>
        have repairs := @ensureProjectContext_respects settings input
          (advance input after (.findOne (.byId input.clientId)) (some client)) lowers client
          (shown client rfl) rfl unwritten
        refine respects_bind (repairs.mono ?_)
        rintro after outcome has
        cases outcome with
        | error error => exact has.elim
        | ok repaired =>
          refine respects_command_bind has.id ?_
          rintro (written : Except String Unit) _ _ rfl
          refine respects_orThrow_bind (fun _ _ => ⟨has.unwritten, ?_⟩)
            fun _ _ => ⟨has.unwritten, trivial⟩
          rintro found ⟨⟩
          exact ⟨has.id, has.unwritten, has.projects⟩

include lowers in
theorem existingClient_respects (unwritten : progress.written = none) :
    (existingClient settings input.clientId).Respects (discipline settings input)
      (fun after => fun outcome => after.written = none ∧ MayReturn (fun client =>
        Has settings input client after) outcome) progress := by
  refine respects_bind ((findById_respects lowers unwritten).mono ?_)
  rintro after outcome ⟨unwritten, has⟩
  cases outcome with
  | error error => exact ⟨unwritten, trivial⟩
  | ok found =>
    cases found with
    | none => exact ⟨unwritten, trivial⟩
    | some client => exact ⟨unwritten, has client rfl⟩

theorem respects_existing {next : Client → ClientProgram ProjectResult}
    (lowers : LowersCase settings.toLowerCase)
    (reads : ∀ client after, Has settings input client after →
      (next client).Respects (discipline settings input) (ends input) after)
    (returns : ∀ error, returned input (.error error) = none) :
    (existingClient settings input.clientId >>= next).Respects (discipline settings input)
      (ends input) ⟨none, none⟩ := by
  refine respects_bind ((existingClient_respects lowers rfl).mono ?_)
  rintro after outcome ⟨unwritten, has⟩
  cases outcome with
  | error error => exact unwritten.trans (returns error).symm
  | ok client => exact reads client after has

theorem writeProjects_respects {update : ClientUpdate} {result : ProjectResult}
    (may : Writes settings input progress (.updateOne input.clientId update))
    (returns : (advance input progress (.updateOne input.clientId update) (.ok ())).written =
      returned input (.ok result)) :
    (do
      writeProjects input.clientId update
      return result : ClientProgram ProjectResult).Respects (discipline settings input)
      (ends input) progress := by
  refine respects_bind ?_
  refine respects_command_bind may ?_
  rintro (written : Except String Unit) succeeds _ rfl
  subst succeeds
  refine respects_command_bind trivial ?_
  rintro _ _ _ rfl
  exact returns

theorem find_set {projectId : String} {projects : List ClientProject} {index : Nat}
    {project next : ClientProject} (found : findProject projectId projects = some (index, project))
    (id : next.projectId = projectId) :
    (projects.set index next).find? (fun project => project.projectId = projectId) = some next := by
  obtain ⟨position, first, present⟩ := Option.bind_eq_some_iff.mp found
  obtain ⟨_, _, pair⟩ := Option.map_eq_some_iff.mp present
  obtain ⟨rfl, rfl⟩ := Prod.mk.inj pair
  obtain ⟨bound, _, earlier⟩ := List.findIdx?_eq_some_iff_getElem.mp first
  refine List.find?_eq_some_iff_getElem.mpr
    ⟨decide_eq_true id, position, by simpa using bound, List.getElem_set_self _, ?_⟩
  intro other before
  rw [List.getElem_set_ne (by omega)]
  simpa using earlier other before

theorem revises_of_found {client : Client} {read : List ClientProject}
    (same : client.projects = read.map (normalizeProject settings)) {projectId : String}
    {index : Nat} {project : ClientProject} (next : ClientProject)
    (found : findProject projectId client.projects = some (index, project))
    (id : next.projectId = project.projectId) (normal : normalizeProject settings next = next) :
    Revises settings projectId read (client.projects.set index next) next := by
  obtain ⟨present, sameId⟩ := findProject_some found
  have id := id.trans sameId
  refine ⟨id, normal, find_set found id, index, project, ?_, sameId, ?_⟩
  · rw [← same]
    exact present
  · rw [← same]

theorem Has.normal {client : Client} (lowers : LowersCase settings.toLowerCase)
    (has : Has settings input client progress) : Normal settings client.projects := by
  obtain ⟨read, _, same⟩ := has.projects
  intro project member
  rw [same] at member
  obtain ⟨stored, _, rfl⟩ := List.mem_map.mp member
  exact normalizeProject_again lowers stored

theorem Has.named {client : Client} (has : Has settings input client progress) :
    ∀ project ∈ client.projects, project.slug ≠ "" := by
  obtain ⟨read, _, same⟩ := has.projects
  intro project member
  rw [same] at member
  obtain ⟨stored, _, rfl⟩ := List.mem_map.mp member
  exact orElse_ne_empty (orElse_ne_empty (by decide))

/-- Every call writes what it has read with what it is to do, and returns what it has written. -/
theorem projectCall_respects (lowers : LowersCase settings.toLowerCase) (input : ProjectCall) :
    (projectCall settings input).Respects (discipline settings input) (ends input)
      ⟨none, none⟩ := by
  cases input with
  | findById clientId =>
    refine respects_bind ((findById_respects lowers rfl).mono ?_)
    rintro after outcome ⟨unwritten, _⟩
    cases outcome <;> exact unwritten
  | createProject clientId name stack environment =>
    refine respects_existing lowers (fun client after has => ?_) fun _ => rfl
    refine respects_command_bind trivial ?_
    rintro (projectId : String) _ _ rfl
    refine respects_command_bind trivial ?_
    rintro (createdAt : Nat) _ _ rfl
    refine respects_command_bind trivial ?_
    rintro (now : Nat) _ _ rfl
    exact writeProjects_respects ⟨rfl, rfl⟩ rfl
  | updateProject clientId projectId updates =>
    refine respects_existing lowers (fun client after has => ?_) fun _ => rfl
    obtain ⟨read, readLast, same⟩ := has.projects
    split
    · exact has.unwritten
    · rename_i index existing found
      split
      · exact has.unwritten
      · have among := List.mem_of_getElem? (findProject_some found).1
        have normal := normalizeProject_self
          (@updatedProject_named settings existing (has.named existing among)
            (client.projects.eraseIdx index) updates)
          (updatedProject_stack lowers
            (normalizeProjectStack_of_normal (has.normal lowers existing among)) _ updates)
        have revises := revises_of_found same
          (updatedProject settings existing (client.projects.eraseIdx index) updates) found rfl
          normal
        refine respects_command_bind trivial ?_
        rintro (now : Nat) _ _ rfl
        exact writeProjects_respects ⟨rfl, read, readLast, projectId, rfl, _, revises⟩ revises.found
  | archiveProject clientId projectId =>
    refine respects_existing lowers (fun client after has => ?_) fun _ => rfl
    obtain ⟨read, readLast, same⟩ := has.projects
    dsimp only
    split
    · exact has.unwritten
    · rename_i index target found
      split
      · exact has.unwritten
      · split
        · exact has.unwritten
        · have among := List.mem_of_getElem? (findProject_some found).1
          have stack := normalizeProjectStack_of_normal (has.normal lowers target among)
          have normal : normalizeProject settings { target with status := .archived } =
              { target with status := .archived } :=
            normalizeProject_self (has.named target among) stack
          have revises := revises_of_found same { target with status := .archived } found rfl
            normal
          refine respects_command_bind trivial ?_
          rintro (now : Nat) _ _ rfl
          exact writeProjects_respects ⟨rfl, read, readLast, projectId, rfl, _, revises⟩
            revises.found
  | selectActiveProject clientId projectId =>
    refine respects_existing lowers (fun client after has => ?_) fun _ => rfl
    split
    · exact has.unwritten
    · refine respects_command_bind trivial ?_
      rintro (now : Nat) _ _ rfl
      exact writeProjects_respects ⟨rfl, trivial⟩ has.unwritten

end Programs

end Caas.Auth.ProjectWrites
