import Caas.Auth.ProjectInvariant
import Caas.Auth.ProjectWrites

/-!
# No project is lost to a stale array

Updates, archivals and repairs write the whole array of projects back. As long as each of
them writes what it has made of the array that is still stored, whatever has been created
stays; and as long as revisions of one project do not complete after they have been overtaken,
the last one that completes is the one that is stored.
-/

namespace Caas.Auth.ProjectHistory

open Async Redis ClientRepository ProjectPortfolio ProjectWrites

/-- The concurrent calls, each with its progress, and the log of how they have ended. -/
abbrev ProjectPool :=
  Pool.Recorded ClientStore ClientCommand ClientCommand.Reply ProjectCall Progress ProjectResult
    (List (ProjectCall × Program.Outcome ProjectResult))

abbrev ProjectEvent := Event ClientOracle Nat ProjectCall

abbrev ProjectCallState := Call ClientCommand ClientCommand.Reply ProjectCall Progress ProjectResult

section Conditions

variable (settings : ClientSettings) (clientId : String)

def machine : Transducer ProjectPool ProjectEvent Unit :=
  Pool.Recorded.machine (projectHost settings) (discipline settings) (fun _ => ⟨none, none⟩)
    Pool.endings

def newPool (store : ClientStore) : ProjectPool := ⟨⟨store, []⟩, []⟩

def storedProjects (store : ClientStore) : List ClientProject :=
  ((store.clients.find? (ClientQuery.byId clientId).isMatch).map (·.projects)).getD []

/-- The projects with other ids, in normal form. -/
def others (except : Option String) (projects : List ClientProject) : List ClientProject :=
  (projects.map (normalizeProject settings)).filter fun project =>
    some project.projectId ≠ except

/-- The projects that were read are those that are stored, but for the one that is excepted. -/
def Current (except : Option String) (read stored : List ClientProject) : Prop :=
  read.map (·.projectId) = stored.map (·.projectId) ∧
    others settings except read = others settings except stored

/-- The condition on a command that writes the array of projects: what has been read of the
others is still what is stored. -/
def CarefulCommand (stored : List ClientProject) (call : ProjectCallState) : ClientCommand → Prop
  | .updateOne _ (.projectContext _ _ _ _) =>
    ∀ read ∈ call.phase.read, Current settings none read stored
  | .updateOne _ (.updateProject _ _ _) | .updateOne _ (.archiveProject _ _ _) =>
    ∀ read ∈ call.phase.read, Current settings (target call.input) read stored
  | _ => True

/-- The call has revised the project and has still to complete. -/
def revising (projectId : String) (call : ProjectCallState) : Bool :=
  call.program.outcome?.isNone && target call.input = some projectId && call.phase.written.isSome

/-- The condition on the completion of a revision: its project is stored as it has written it,
or another call that has revised the project has still to complete. -/
def InOrder (stored : List ClientProject) (pool : ProjectPool) (index : Nat)
    (call : ProjectCallState) : Prop :=
  ∀ projectId ∈ target call.input, ∀ project ∈ call.phase.written,
    project ∈ stored ∨
      ∃ entry ∈ pool.pool.calls.zipIdx, entry.2 ≠ index ∧ revising projectId entry.1 = true

/-- The condition on an event of calls on the client. -/
def Careful (pool : ProjectPool) : ProjectEvent → Prop
  | .start input => input.clientId = clientId
  | .change _ => True
  | .run index _ => ∀ awaiting ∈ pool.pool.awaited? index,
    CarefulCommand settings (storedProjects clientId pool.pool.shared) awaiting.1 awaiting.2 ∧
      InOrder (storedProjects clientId pool.pool.shared) pool index awaiting.1

end Conditions

/-- What an ended call tells of a project that it has revised. -/
def revision (projectId : String) (note : ProjectCall × Program.Outcome ProjectResult) :
    Option ClientProject :=
  if target note.1 = some projectId then returned note.1 note.2 else none

section Lists

variable {settings : ClientSettings} {read before after projects : List ClientProject}

/-- All projects are there still, and those with other ids as they were, if in normal form. -/
structure Carries (settings : ClientSettings) (revised : Option String)
    (before after : List ClientProject) : Prop where
  ids : ∀ project ∈ before, project.projectId ∈ after.map (·.projectId)
  normal : ∀ project ∈ before, normalizeProject settings project = project →
    some project.projectId ≠ revised → project ∈ after

theorem Carries.refl (projects : List ClientProject) : Carries settings none projects projects :=
  ⟨fun _ member => List.mem_map_of_mem member, fun _ member _ _ => member⟩

theorem Carries.append (projects : List ClientProject) (project : ClientProject) :
    Carries settings none projects (projects ++ [project]) :=
  ⟨fun _ member => List.mem_map_of_mem (List.mem_append_left _ member),
    fun _ member _ _ => List.mem_append_left _ member⟩

theorem mem_read_of_current {except : Option String} (current : Current settings except read before)
    {project : ClientProject} (member : project ∈ before)
    (normal : normalizeProject settings project = project)
    (different : some project.projectId ≠ except) :
    project ∈ read.map (normalizeProject settings) := by
  have among : project ∈ others settings except before := by
    refine List.mem_filter.mpr ⟨List.mem_map.mpr ⟨project, member, normal⟩, ?_⟩
    simpa using different
  rw [← current.2] at among
  exact (List.mem_filter.mp among).1

theorem map_projectId_normalize (projects : List ClientProject) :
    (projects.map (normalizeProject settings)).map (·.projectId) = projects.map (·.projectId) := by
  rw [List.map_map]
  rfl

theorem carries_of_repairs (current : Current settings none read before)
    (repairs : Repairs settings read after) : Carries settings none before after := by
  rcases repairs with rfl | ⟨rfl, -⟩
  · constructor
    · intro project member
      rw [map_projectId_normalize, current.1]
      exact List.mem_map_of_mem member
    · intro project member normal different
      exact mem_read_of_current current member normal different
  · obtain rfl : before = [] := List.map_eq_nil_iff.mp current.1.symm
    exact ⟨fun _ member => (nomatch member), fun _ member => (nomatch member)⟩

theorem carries_of_revises {projectId : String} {next : ClientProject}
    (current : Current settings (some projectId) read before)
    (revises : Revises settings projectId read after next) :
    Carries settings (some projectId) before after := by
  obtain ⟨index, project, present, same, rfl⟩ := revises.replaced
  constructor
  · intro other member
    rw [map_set_of_same (·.projectId) next present (revises.id.trans same.symm),
      map_projectId_normalize, current.1]
    exact List.mem_map_of_mem member
  · intro other member normal different
    refine mem_set_of_ne present (mem_read_of_current current member normal different) ?_
    rintro rfl
    exact different (congrArg some same)

theorem mem_of_revises {projectId : String} {next : ClientProject}
    (revises : Revises settings projectId read after next) : next ∈ after :=
  List.mem_of_find?_eq_some revises.found

end Lists

section Store

variable {settings : ClientSettings} {clientId : String} {store : ClientStore}

/-- The client is stored with the projects, and clients are cached under their ids. -/
structure Holds (clientId : String) (projects : List ClientProject) (store : ClientStore) :
    Prop where
  stored : ∃ client, store.clients.find? (ClientQuery.byId clientId).isMatch = some client ∧
    client.projects = projects
  keyed : ∀ time key client, store.clientCache.lookup time key = some client →
    client.clientId = key

variable {projects : List ClientProject}

theorem Holds.storedProjects (holds : Holds clientId projects store) :
    storedProjects clientId store = projects := by
  obtain ⟨client, found, rfl⟩ := holds.stored
  simp [ProjectHistory.storedProjects, found]

/-- What a command of a call has done to the projects that are stored. -/
inductive Effect (settings : ClientSettings) (input : ProjectCall) (progress after : Progress)
    (projects projects' : List ClientProject) : Prop where
  | keeps (same : after.written = progress.written)
      (carries : Carries settings none projects projects')
  | creates (project : ClientProject) (plain : target input = none)
      (written : after.written = some project)
      (among : project.projectId ∈ projects'.map (·.projectId))
      (carries : Carries settings none projects projects')
  | revises (projectId : String) (project : ClientProject) (aims : target input = some projectId)
      (written : after.written = some project) (id : project.projectId = projectId)
      (normal : normalizeProject settings project = project) (among : project ∈ projects')
      (carries : Carries settings (some projectId) projects projects')

/-- A command that writes no client to the collection, and caches clients under their ids. -/
theorem Holds.read (holds : Holds clientId projects store) {command : ClientCommand}
    {input : ProjectCall} {progress : Progress} (writes : Writes settings input progress command)
    (reads : ∀ clientId update, command ≠ .updateOne clientId update) (oracle : ClientOracle) :
    Replies command (store.exec oracle command).2 ∧
      Holds clientId projects (store.exec oracle command).1 ∧
        (advance input progress command (store.exec oracle command).2).written =
          progress.written := by
  cases command with
  | updateOne clientId update => exact absurd rfl (reads clientId update)
  | now | uuid | generateApiKey => exact ⟨trivial, holds, rfl⟩
  | apiKey | validation => exact ⟨trivial, { holds with }, rfl⟩
  | findOne query =>
    cases query with
    | byId other => exact ⟨fun client found => ClientQuery.clientId_of_find found, holds, rfl⟩
    | byApiKeyHash => exact ⟨trivial, holds, rfl⟩
  | client command =>
    have keyed : ∀ time key client,
        (command.exec store.clientCache store.now).1.lookup time key = some client →
          client.clientId = key := by
      intro time key client found
      rcases StringCommand.lookup_exec found with before | ⟨seconds, rfl⟩
      · exact holds.keyed time key client before
      · exact writes
    cases command with
    | get key => exact ⟨holds.keyed store.now key, ⟨holds.stored, keyed⟩, rfl⟩
    | setex | ttl | del => exact ⟨trivial, ⟨holds.stored, keyed⟩, rfl⟩

theorem Holds.update (holds : Holds clientId projects store) (update : ClientUpdate)
    (projects' : List ClientProject) (applies : ∀ client, client.projects = projects →
      ∃ changed, update.apply client = .ok changed ∧ changed.projects = projects')
    (oracle : ClientOracle) : (store.exec oracle (.updateOne clientId update)).2 = .ok () ∧
      Holds clientId projects' (store.exec oracle (.updateOne clientId update)).1 := by
  obtain ⟨client, found, same⟩ := holds.stored
  obtain ⟨changed, applied, same'⟩ := applies client same
  obtain ⟨clients, succeeds, after⟩ := find_updateOneClient_self found applied
  rw [ClientStore.exec, succeeds]
  exact ⟨rfl, ⟨changed, after, same'⟩, holds.keyed⟩

theorem effect_of_revises {call : ProjectCallState} {after : Progress}
    {written : List ClientProject}
    (revises : ∃ read ∈ call.phase.read, ∃ projectId ∈ target call.input, ∃ next,
      Revises settings projectId read written next)
    (careful : ∀ read ∈ call.phase.read, Current settings (target call.input) read projects)
    (found : after.written = (target call.input).bind fun projectId =>
      written.find? fun project => project.projectId = projectId) :
    Effect settings call.input call.phase after projects written := by
  obtain ⟨read, readLast, projectId, aims, next, revises⟩ := revises
  have current := careful read readLast
  rw [aims] at current found
  exact .revises projectId next aims (found.trans revises.found) revises.id revises.normal
    (mem_of_revises revises) (carries_of_revises current revises)

theorem Holds.exec (holds : Holds clientId projects store) {call : ProjectCallState}
    (own : call.input.clientId = clientId) {command : ClientCommand}
    (writes : Writes settings call.input call.phase command)
    (careful : CarefulCommand settings projects call command) (oracle : ClientOracle) :
    Replies command (store.exec oracle command).2 ∧
      ∃ projects', Holds clientId projects' (store.exec oracle command).1 ∧
        Effect settings call.input call.phase
          (advance call.input call.phase command (store.exec oracle command).2)
          projects projects' := by
  cases command with
  | updateOne other update =>
    obtain ⟨same, writes⟩ := writes
    obtain rfl : other = clientId := same.trans own
    cases update with
    | apiKeys | lastUsed | ipWhitelist => exact writes.elim
    | projectContext written activeProject context updatedAt =>
      obtain ⟨read, readLast, repairs⟩ := writes
      obtain ⟨succeeds, holds⟩ :=
        holds.update (.projectContext written activeProject context updatedAt)
        written (fun client _ => ⟨_, rfl, rfl⟩) oracle
      exact ⟨succeeds, written, holds,
        .keeps rfl (carries_of_repairs (careful read readLast) repairs)⟩
    | createProject project updatedAt =>
      obtain ⟨succeeds, holds⟩ := holds.update (.createProject project updatedAt)
        (projects ++ [project]) (fun client same => ⟨_, rfl, congrArg (· ++ [project]) same⟩) oracle
      refine ⟨succeeds, _, holds, .creates project writes rfl ?_ (.append projects project)⟩
      exact List.mem_map_of_mem (List.mem_append_right _ (List.mem_singleton_self project))
    | selectActiveProject project updatedAt =>
      obtain ⟨succeeds, holds⟩ := holds.update (.selectActiveProject project updatedAt) projects
        (fun client same => ⟨_, rfl, same⟩) oracle
      exact ⟨succeeds, projects, holds, .keeps rfl (.refl projects)⟩
    | updateProject written activeProject updatedAt =>
      obtain ⟨succeeds, holds⟩ := holds.update (.updateProject written activeProject updatedAt)
        written (fun client _ => ⟨_, rfl, rfl⟩) oracle
      exact ⟨succeeds, written, holds, effect_of_revises writes careful rfl⟩
    | archiveProject written activeProject updatedAt =>
      obtain ⟨succeeds, holds⟩ := holds.update (.archiveProject written activeProject updatedAt)
        written (fun client _ => ⟨_, rfl, rfl⟩) oracle
      exact ⟨succeeds, written, holds, effect_of_revises writes careful rfl⟩
  | _ =>
    obtain ⟨replies, holds, same⟩ := holds.read writes (fun _ _ updates => nomatch updates) oracle
    exact ⟨replies, projects, holds, .keeps same (.refl projects)⟩

end Store

section Invariant

variable {settings : ClientSettings} {clientId : String} {projects projects' : List ClientProject}
  {input : ProjectCall} {progress after : Progress}

theorem Effect.carries_ids (effect : Effect settings input progress after projects projects') :
    ∀ id ∈ projects.map (·.projectId), id ∈ projects'.map (·.projectId) := by
  intro id member
  obtain ⟨project, stored, rfl⟩ := List.mem_map.mp member
  cases effect with
  | keeps _ carries | creates _ _ _ _ carries | revises _ _ _ _ _ _ _ carries =>
    exact carries.ids project stored

theorem Effect.stays (effect : Effect settings input progress after projects projects')
    {project : ClientProject} (member : project ∈ projects)
    (normal : normalizeProject settings project = project) : project ∈ projects' ∨
      target input = some project.projectId ∧ after.written.isSome = true := by
  cases effect with
  | keeps _ carries | creates _ _ _ _ carries =>
    exact .inl (carries.normal project member normal nofun)
  | revises projectId next aims written _ _ _ carries =>
    by_cases same : some project.projectId = some projectId
    · exact .inr ⟨aims.trans same.symm, by rw [written]; rfl⟩
    · exact .inl (carries.normal project member normal same)

theorem Effect.created (effect : Effect settings input progress after projects projects')
    (plain : target input = none)
    (before : ∀ project ∈ progress.written, project.projectId ∈ projects.map (·.projectId)) :
    ∀ project ∈ after.written, project.projectId ∈ projects'.map (·.projectId) := by
  intro project written
  cases effect with
  | keeps same carries =>
    obtain ⟨stored, member, id⟩ := List.mem_map.mp (before project (same ▸ written))
    rw [← id]
    exact carries.ids stored member
  | creates new _ written' among _ =>
    cases written'.symm.trans written
    exact among
  | revises projectId _ aims => cases aims.symm.trans plain

variable {projectId : String}

theorem Effect.revised (effect : Effect settings input progress after projects projects')
    (aims : target input = some projectId) (before : ∀ project ∈ progress.written,
      project.projectId = projectId ∧ normalizeProject settings project = project) :
    ∀ project ∈ after.written,
      project.projectId = projectId ∧ normalizeProject settings project = project := by
  intro project written
  cases effect with
  | keeps same _ => exact before project (same ▸ written)
  | creates _ plain => cases plain.symm.trans aims
  | revises _ new aims' written' id normal =>
    cases written'.symm.trans written
    cases aims'.symm.trans aims
    exact ⟨id, normal⟩

theorem Effect.stored (effect : Effect settings input progress after projects projects')
    (aims : target input = some projectId) {overtaken : Prop}
    (before : ∀ project ∈ progress.written, project ∈ projects ∨ overtaken)
    (normal : ∀ project ∈ progress.written, normalizeProject settings project = project) :
    ∀ project ∈ after.written, project ∈ projects' ∨ overtaken := by
  intro project written
  cases effect with
  | keeps same carries =>
    have written : project ∈ progress.written := same ▸ written
    exact (before project written).imp_left fun member =>
      carries.normal project member (normal project written) nofun
  | creates _ plain => cases plain.symm.trans aims
  | revises _ new _ written' _ _ among =>
    cases written'.symm.trans written
    exact .inl among

theorem Effect.still (effect : Effect settings input progress after projects projects')
    (aims : target input = some projectId) (before : progress.written.isSome = true) :
    after.written.isSome = true := by
  cases effect with
  | keeps same _ =>
    rw [same]
    exact before
  | creates _ plain => cases plain.symm.trans aims
  | revises _ new _ written =>
    rw [written]
    rfl

/-- What calls in progress and ended calls have written is stored, or is about to be told
again. -/
structure Kept (settings : ClientSettings) (clientId : String) (projects : List ClientProject)
    (current : ProjectPool) : Prop where
  holds : Holds clientId projects current.pool.shared
  own : ∀ call ∈ current.pool.calls, call.input.clientId = clientId
  created : ∀ call ∈ current.pool.calls, target call.input = none →
    ∀ project ∈ call.phase.written, project.projectId ∈ projects.map (·.projectId)
  revised : ∀ call ∈ current.pool.calls, ∀ projectId ∈ target call.input,
    ∀ project ∈ call.phase.written,
      project.projectId = projectId ∧ normalizeProject settings project = project
  noted : ∀ note ∈ current.history, target note.1 = none →
    ∀ project ∈ returned note.1 note.2, project.projectId ∈ projects.map (·.projectId)
  latest : ∀ projectId, ∀ project ∈ Transducer.latest (revision projectId) current.history,
    project.projectId = projectId ∧ normalizeProject settings project = project ∧
      (project ∈ projects ∨ ∃ call ∈ current.pool.calls, revising projectId call = true)

theorem revision_of_ending {ending : Option (Program.Outcome ProjectResult)}
    (ended : ∀ outcome, ending = some outcome → after.written = returned input outcome)
    (projectId : String) :
    (ending.map fun outcome => (input, outcome)).bind (revision projectId) =
      if target input = some projectId ∧ ending.isSome = true then after.written else none := by
  cases ending with
  | none => simp
  | some outcome => simp [revision, ended outcome rfl]

section Steps

variable {current : ProjectPool} (kept : Kept settings clientId projects current)

include kept

theorem Kept.start (own : input.clientId = clientId) : Kept settings clientId projects
      ⟨current.pool.start (projectHost settings) (fun _ => ⟨none, none⟩) input,
        current.history ++ Pool.ending input ((projectHost settings).body input)⟩ := by
  have silent : Pool.ending input ((projectHost settings).body input) = [] := by
    cases input <;> rfl
  rw [silent, List.append_nil]
  refine ⟨kept.holds, ?_, ?_, ?_, kept.noted, ?_⟩
  · exact Pool.forall_start own kept.own
  · exact Pool.forall_start (fun _ _ absent => nomatch absent) kept.created
  · exact Pool.forall_start (fun _ _ _ absent => nomatch absent) kept.revised
  · intro projectId project told
    obtain ⟨id, normal, stays⟩ := kept.latest projectId project told
    refine ⟨id, normal, stays.imp_right ?_⟩
    rintro ⟨call, member, revises⟩
    exact ⟨call, List.mem_append_left _ member, revises⟩

section Resume

variable {index : Nat} {call : ProjectCallState} {command : ClientCommand}
  {next : command.Reply → ClientProgram ProjectResult} {effect : ClientStore × command.Reply}
  (present : current.pool.calls[index]? = some call)
  (effects : Effect settings call.input call.phase
    (advance call.input call.phase command effect.2) projects projects')

include present effects

theorem Kept.stays {projectId : String} {project : ClientProject}
    (told : project ∈ Transducer.latest (revision projectId) current.history) :
    project.projectId = projectId ∧ normalizeProject settings project = project ∧
      ((project ∈ projects' ∨ ∃ other ∈
            (current.pool.resume (discipline settings) index call command next effect).calls,
            revising projectId other = true) ∨ target call.input = some projectId ∧
          (advance call.input call.phase command effect.2).written.isSome = true) := by
  obtain ⟨rfl, normal, stays⟩ := kept.latest projectId project told
  refine ⟨rfl, normal, ?_⟩
  rcases stays with member | ⟨other, member, revises⟩
  · exact (effects.stays member normal).imp_left .inl
  · rcases Pool.mem_resume_or_eq present member with remains | rfl
    · exact .inl (.inr ⟨other, remains, revises⟩)
    · simp only [revising, Bool.and_eq_true, decide_eq_true_eq] at revises
      exact .inr ⟨revises.1.2, effects.still revises.1.2 revises.2⟩

theorem Kept.tells {projectId : String} {revised : ClientProject}
    (inOrder : InOrder projects current index call) (aims : target call.input = some projectId)
    (written : (advance call.input call.phase command effect.2).written = some revised) :
    revised.projectId = projectId ∧ normalizeProject settings revised = revised ∧
      (revised ∈ projects' ∨
        ∃ other ∈ (current.pool.resume (discipline settings) index call command next effect).calls,
          revising projectId other = true) := by
  have before := kept.revised call (List.mem_of_getElem? present) projectId aims
  obtain ⟨id, normal⟩ := effects.revised aims before _ written
  refine ⟨id, normal, ?_⟩
  rcases effects.stored aims (inOrder projectId aims)
    (fun project written => (before project written).2) _ written with
    stored | ⟨entry, member, different, revises⟩
  · exact .inl stored
  · refine .inr ⟨entry.1, ?_, revises⟩
    apply List.mem_of_getElem?
    rw [Pool.getElem?_resume present entry.2, if_neg (Ne.symm different)]
    exact List.mem_zipIdx_iff_getElem?.mp member

theorem Kept.latest_resume (inOrder : InOrder projects current index call)
    (ended : ∀ outcome, (next effect.2).outcome? = some outcome →
      (advance call.input call.phase command effect.2).written = returned call.input outcome)
    {projectId : String} {project : ClientProject}
    (told : project ∈ Transducer.latest (revision projectId)
      (current.history ++ Pool.ending call.input (next effect.2))) :
    project.projectId = projectId ∧ normalizeProject settings project = project ∧
      (project ∈ projects' ∨
        ∃ other ∈ (current.pool.resume (discipline settings) index call command next effect).calls,
          revising projectId other = true) := by
  rw [Pool.ending, Transducer.latest_append, revision_of_ending ended] at told
  split at told
  · rename_i finishes
    cases written : (advance call.input call.phase command effect.2).written with
    | none =>
      rw [written] at told
      obtain ⟨id, normal, stays⟩ := @Kept.stays _ _ _ _ _ kept _ _ _ next _ present effects _ _ told
      rw [written] at stays
      exact ⟨id, normal, stays.resolve_right (by simp)⟩
    | some revised =>
      rw [written] at told
      cases told
      exact kept.tells present effects inOrder finishes.1 written
  · rename_i goes
    obtain ⟨id, normal, stays | ⟨aims, written⟩⟩ :=
      @Kept.stays _ _ _ _ _ kept _ _ _ next _ present effects _ _ told
    · exact ⟨id, normal, stays⟩
    · -- The call goes on, and is itself still to tell what it has written.
      have runs : (next effect.2).outcome?.isNone = true := by
        simpa using fun ends => goes ⟨aims, ends⟩
      refine ⟨id, normal, .inr ⟨_, Pool.mem_resume_self present, ?_⟩⟩
      simp only [revising, Bool.and_eq_true, decide_eq_true_eq]
      exact ⟨⟨runs, aims⟩, written⟩

theorem Kept.resume (holds : Holds clientId projects' effect.1)
    (inOrder : InOrder projects current index call)
    (ended : ∀ outcome, (next effect.2).outcome? = some outcome →
      (advance call.input call.phase command effect.2).written = returned call.input outcome) :
    Kept settings clientId projects'
      ⟨current.pool.resume (discipline settings) index call command next effect,
        current.history ++ Pool.ending call.input (next effect.2)⟩ := by
  have among := List.mem_of_getElem? present
  refine ⟨holds, ?_, ?_, ?_, ?_,
    fun _ _ told => kept.latest_resume present effects inOrder ended told⟩
  · intro other member
    rcases List.mem_or_eq_of_mem_set member with earlier | rfl
    · exact kept.own other earlier
    · exact kept.own call among
  · intro other member plain
    rcases List.mem_or_eq_of_mem_set member with earlier | rfl
    · intro project written
      exact effects.carries_ids _ (kept.created other earlier plain project written)
    · exact effects.created plain (kept.created call among plain)
  · intro other member projectId aims
    rcases List.mem_or_eq_of_mem_set member with earlier | rfl
    · exact kept.revised other earlier projectId aims
    · exact effects.revised aims (kept.revised call among projectId aims)
  · intro note member plain project told
    rcases List.mem_append.mp member with earlier | new
    · exact effects.carries_ids _ (kept.noted note earlier plain project told)
    · obtain ⟨outcome, ends, rfl⟩ := Option.map_eq_some_iff.mp (Option.mem_toList.mp new)
      exact effects.created plain (kept.created call among plain) project
        ((ended outcome ends).trans told)

end Resume

end Steps

end Invariant

section Runs

variable {settings : ClientSettings} {clientId : String} {store : ClientStore}

/-- The projects that ended calls have created are stored, and when no call is in progress, every
project is stored as the last revision of it has left it. -/
structure Preserved (clientId : String) (reached : ProjectPool) : Prop where
  created : ∀ name stack environment project,
    (.createProject clientId name stack environment, .ok (.project project)) ∈ reached.history →
      project.projectId ∈ (storedProjects clientId reached.pool.shared).map (·.projectId)
  revised : (∀ call ∈ reached.pool.calls, call.program.outcome?.isSome = true) →
    ∀ projectId, ∀ project ∈ Transducer.latest (revision projectId) reached.history,
      project ∈ storedProjects clientId reached.pool.shared

variable {projects : List ClientProject}

theorem Kept.preserved {current : ProjectPool} (kept : Kept settings clientId projects current) :
    Preserved clientId current := by
  rw [← kept.holds.storedProjects] at kept
  constructor
  · intro name stack environment project told
    exact kept.noted _ told rfl project rfl
  · intro ended projectId project told
    obtain ⟨-, -, stored | ⟨call, member, revises⟩⟩ := kept.latest projectId project told
    · exact stored
    · have ended := ended call member
      simp only [revising, Bool.and_eq_true] at revises
      rw [Option.isSome_iff_ne_none] at ended
      exact absurd (Option.isNone_iff_eq_none.mp revises.1.1) ended

theorem kept_newPool (holds : Holds clientId projects store) :
    Kept settings clientId projects (newPool store) where
  holds := holds
  own _ member := by cases member
  created _ member := by cases member
  revised _ member := by cases member
  noted _ member := by cases member
  latest _ _ told := by cases told

/-- Whatever the projects are that are stored. -/
def Keeps (settings : ClientSettings) (clientId : String) (current : ProjectPool) : Prop :=
  ∃ projects, Kept settings clientId projects current

theorem kept_run (lowers : LowersCase settings.toLowerCase) {events : List ProjectEvent}
    (holds : Holds clientId projects store)
    (careful : (machine settings).Admits (Careful settings clientId) (newPool store) events) :
    Keeps settings clientId ((machine settings).run (newPool store) events) := by
  refine (Pool.Recorded.invariant (projectCall_respects lowers) ?_ ?_ ?_ careful
    (fun _ member => nomatch member) (⟨projects, kept_newPool holds⟩ : Keeps _ _ _)).2
  · rintro current input ⟨projects, kept⟩ own
    exact ⟨projects, kept.start own⟩
  · rintro current elapsed ⟨projects, kept⟩ _
    exact ⟨projects, { kept with holds := { kept.holds with } }⟩
  · rintro current index oracle call command next ⟨projects, kept⟩ guarded respectful present awaits
      writes
    obtain ⟨careful, inOrder⟩ := guarded _ (Pool.awaited?_of_await present awaits)
    rw [kept.holds.storedProjects] at careful inOrder
    obtain ⟨replies, projects', holds, effects⟩ := kept.holds.exec
      (kept.own call (List.mem_of_getElem? present)) writes careful oracle
    refine ⟨replies, fun resumed => ⟨projects', kept.resume present effects holds inOrder ?_⟩⟩
    intro outcome ended
    exact (resumed _ (Pool.mem_resume_self present)).ends_of_outcome ended

/-- In every interleaving of calls on a registered client, by careful commands: what they have
created is stored, and every project as the last revision of it has left it. -/
theorem no_project_is_lost (settings : ClientSettings) (lowers : LowersCase settings.toLowerCase)
    (clientId : String) (store : ClientStore)
    (registered : (store.clients.find? (ClientQuery.byId clientId).isMatch).isSome = true)
    (keyed : ∀ time key client, store.clientCache.lookup time key = some client →
      client.clientId = key) (events : List ProjectEvent)
    (careful : (machine settings).Admits (Careful settings clientId) (newPool store) events)
    (count : Nat) :
    Preserved clientId ((machine settings).run (newPool store) (events.take count)) := by
  obtain ⟨client, found⟩ := Option.isSome_iff_exists.mp registered
  have holds : Holds clientId client.projects store := ⟨⟨client, found, rfl⟩, keyed⟩
  rw [← List.take_append_drop count events] at careful
  obtain ⟨projects, kept⟩ := kept_run lowers holds (Transducer.admits_append.mp careful).1
  exact kept.preserved

instance {except : Option String} {read stored : List ClientProject} :
    Decidable (Current settings except read stored) :=
  inferInstanceAs (Decidable (_ ∧ _))

instance {stored : List ClientProject} {call : ProjectCallState} (command : ClientCommand) :
    Decidable (CarefulCommand settings stored call command) :=
  match command with
  | .updateOne _ update =>
    match update with
    | .projectContext _ _ _ _ | .updateProject _ _ _ | .archiveProject _ _ _ =>
      inferInstanceAs (Decidable (∀ read ∈ _, _))
    | .apiKeys _ _ | .lastUsed _ _ | .ipWhitelist _ _ | .createProject _ _
    | .selectActiveProject _ _ => .isTrue trivial
  | .findOne _ | .client _ | .apiKey _ | .validation _ | .now | .uuid | .generateApiKey =>
    .isTrue trivial

instance {stored : List ClientProject} {pool : ProjectPool} {index : Nat}
    {call : ProjectCallState} : Decidable (InOrder stored pool index call) :=
  inferInstanceAs (Decidable (∀ projectId ∈ _, ∀ project ∈ _, _ ∨ ∃ entry ∈ _, _))

instance (pool : ProjectPool) (event : ProjectEvent) :
    Decidable (Careful settings clientId pool event) :=
  match event with
  | .start _ => inferInstanceAs (Decidable (_ = _))
  | .change _ => .isTrue trivial
  | .run _ _ => inferInstanceAs (Decidable (∀ awaiting ∈ _, _))

end Runs

section Sample

def sampleProject : ClientProject := ⟨"p", "p", "p", "node", .development, 0, .active⟩

def sampleClient : Client :=
  newClient
    { companyName := "n"
      activeProjectId := some "p"
      activeProjectName := some "p"
      activeProjectStack := some "node"
      activeProjectEnvironment := some .development
      projects := [sampleProject] } "c" "t" 0

def clientStore : ClientStore := { ProjectInvariant.sampleStore with clients := [sampleClient] }

def runs (index count : Nat) : List ProjectEvent := List.replicate count (.run index ⟨"u", "key"⟩)

def startBoth : List ProjectEvent :=
  [.start (.updateProject "c" "p" { stack := some "go" }),
    .start (.createProject "c" "q" "go" .staging)]

def updateFirst : List ProjectEvent := startBoth ++ runs 1 7 ++ runs 0 5 ++ runs 1 2

/-- Both calls keep what the other has written. -/
theorem sample_projects_are_kept :
    Preserved "c" ((machine ProjectInvariant.sampleSettings).run (newPool clientStore)
      (updateFirst.take 16)) :=
  no_project_is_lost ProjectInvariant.sampleSettings
    ⟨fun _ => rfl, ProjectInvariant.trim_trim, rfl⟩ "c" clientStore (by decide +kernel)
    (fun _ _ _ found => nomatch found) updateFirst (by decide +kernel) 16

def updateLast : List ProjectEvent := startBoth ++ runs 0 5 ++ runs 1 7 ++ runs 0 2

/-- A project that is created while another is updated can be lost. -/
theorem new_project_is_overwritten :
    ¬ ∀ (settings : ClientSettings) (clientId : String) (store : ClientStore)
      (events : List ProjectEvent), LowersCase settings.toLowerCase →
        (store.clients.find? (ClientQuery.byId clientId).isMatch).isSome = true →
        (∀ time key client, store.clientCache.lookup time key = some client →
          client.clientId = key) → (∀ input, .start input ∈ events → input.clientId = clientId) →
          Preserved clientId ((machine settings).run (newPool store) events) := by
  intro preserved
  have lost := preserved ProjectInvariant.sampleSettings "c" clientStore updateLast
    ⟨fun _ => rfl, ProjectInvariant.trim_trim, rfl⟩ (by decide +kernel)
    (fun _ _ _ found => nomatch found)
    (by
      intro input member
      simp [updateLast, startBoth, runs] at member
      rcases member with rfl | rfl <;> rfl)
  have told := lost.created "q" "go" .staging ⟨"u", "q", "q", "go", .staging, 0, .active⟩
    (by decide +kernel)
  revert told
  decide +kernel

end Sample

end Caas.Auth.ProjectHistory
