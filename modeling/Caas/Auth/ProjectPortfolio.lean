import Caas.Auth.ClientProjects

/-!
# The portfolio of a client

What the projects of a client and the fields of its active project are together is its
`Portfolio`. It is sound when different projects have different slugs and the fields are
copies of a project that is not archived. Each operation on the projects makes a settled
portfolio of a settled one, and the repair of a client without projects makes the first.
-/

namespace Caas.Auth.ProjectPortfolio

open ClientRepository

/-- The projects of a client, and the copies of the active one. -/
structure Portfolio where
  projects : List ClientProject
  activeProjectId : Option String
  activeProjectName : Option String
  activeProjectStack : Option String
  activeProjectEnvironment : Option Environment
deriving DecidableEq

def portfolio (client : Client) : Portfolio where
  projects := client.projects
  activeProjectId := client.activeProjectId
  activeProjectName := client.activeProjectName
  activeProjectStack := client.activeProjectStack
  activeProjectEnvironment := client.activeProjectEnvironment

namespace Portfolio

/-- The portfolio of a client without projects. -/
def empty : Portfolio := ⟨[], none, none, none, none⟩

def activated (projects : List ClientProject) (project : ClientProject) : Portfolio :=
  ⟨projects, some project.projectId, some project.name, some project.stack,
    some project.environment⟩

/-- Different projects with different slugs, one of which is active. -/
structure Sound (portfolio : Portfolio) : Prop where
  ids : (portfolio.projects.map (·.projectId)).Nodup
  slugs : (portfolio.projects.map (·.slug)).Nodup
  active : ∃ project ∈ portfolio.projects, isArchived project = false ∧
    portfolio = activated portfolio.projects project

/-- Beside that, every project has the form that a read gives it. -/
structure Settled (settings : ClientSettings) (portfolio : Portfolio) : Prop extends
    portfolio.Sound where
  normal : ∀ project ∈ portfolio.projects, normalizeProject settings project = project
  named : ∀ project ∈ portfolio.projects, project.slug ≠ ""

end Portfolio

section Normal

variable {settings : ClientSettings}

theorem orElse_ne_empty {text : Option String} {other : String} (nonempty : other ≠ "") :
    orElse text other ≠ "" := by
  unfold orElse
  cases filtered : text.filter (· ≠ "") with
  | none => exact nonempty
  | some value =>
    obtain ⟨_, kept⟩ := Option.filter_eq_some_iff.mp filtered
    simpa using kept

theorem orElse_self {text other : String} (nonempty : text ≠ "") :
    orElse (some text) other = text := by
  simp [orElse, Option.filter, nonempty]

theorem normalizeProjectStack_again (lowers : LowersCase settings.toLowerCase)
    (stack : Option String) :
    normalizeProjectStack settings (some (normalizeProjectStack settings stack)) =
      normalizeProjectStack settings stack := by
  have custom : normalizeProjectStack settings (some "custom") = "custom" := by
    have trimmed : Js.trim "custom" = "custom" := by decide
    simp [normalizeProjectStack, orElse_self (by decide : "custom" ≠ ""), trimmed, lowers.latin]
  by_cases nothing : settings.toLowerCase (Js.trim (orElse stack "custom")) = ""
  · have same : normalizeProjectStack settings stack = "custom" := by
      simp only [normalizeProjectStack, nothing]
      rfl
    rw [same, custom]
  · have same : normalizeProjectStack settings stack =
        settings.toLowerCase (Js.trim (orElse stack "custom")) := orElse_self nothing
    rw [same]
    simp [normalizeProjectStack, orElse_self nothing, lowers.trimmed, lowers.lowered]

theorem normalizeProjectEnvironment_some (environment : Environment) :
    normalizeProjectEnvironment (some environment) = environment := by
  cases environment <;> rfl

theorem normalizeProject_self {project : ClientProject} (named : project.slug ≠ "")
    (normal : normalizeProjectStack settings (some project.stack) = project.stack) :
    normalizeProject settings project = project := by
  simp [normalizeProject, orElse_self named, normal, normalizeProjectEnvironment_some]

theorem normalizeProject_again (lowers : LowersCase settings.toLowerCase)
    (project : ClientProject) : normalizeProject settings (normalizeProject settings project) =
      normalizeProject settings project :=
  normalizeProject_self (orElse_ne_empty (orElse_ne_empty (by decide)))
    (normalizeProjectStack_again lowers _)

theorem normalizeProjectStack_of_normal {project : ClientProject}
    (normal : normalizeProject settings project = project) :
    normalizeProjectStack settings (some project.stack) = project.stack :=
  congrArg ClientProject.stack normal

end Normal

section Slugs

variable {settings : ClientSettings}

variable (base : String)

theorem toList_suffixed (suffix : Nat) :
    (suffixed base suffix).toList = base.toList ++ '-' :: Nat.toDigits 10 suffix := by
  simp [suffixed]

theorem suffixed_injective : Function.Injective (suffixed base) := by
  intro left right equal
  have digits := congrArg String.toList equal
  rw [toList_suffixed, toList_suffixed] at digits
  have digits := List.cons.inj (List.append_cancel_left digits)
  calc left
      = Nat.ofDigitChars 10 (Nat.toDigits 10 left) 0 := Nat.ofDigitChars_ten_toDigits.symm
    _ = Nat.ofDigitChars 10 (Nat.toDigits 10 right) 0 := by rw [digits.2]
    _ = right := Nat.ofDigitChars_ten_toDigits

theorem suffixed_ne_empty (suffix : Nat) : suffixed base suffix ≠ "" := by
  intro empty
  have chars := congrArg String.toList empty
  rw [toList_suffixed] at chars
  simp at chars

theorem buildUniqueProjectSlug_ne_empty (name : String) (projects : List ClientProject) :
    buildUniqueProjectSlug settings name projects ≠ "" := by
  unfold buildUniqueProjectSlug
  dsimp only
  split
  · exact suffixed_ne_empty _ _
  · exact orElse_ne_empty (by decide)

theorem buildUniqueProjectSlug_not_mem (name : String) (projects : List ClientProject) :
    buildUniqueProjectSlug settings name projects ∉ projects.map (·.slug) := by
  have free : buildUniqueProjectSlug settings name projects ∉
      (projects.map (·.slug)).filter (· ≠ "") := by
    unfold buildUniqueProjectSlug
    dsimp only
    split
    · exact FirstFree.firstFree_not_mem (suffixed_injective _) 2
    · assumption
  intro member
  exact free (List.mem_filter.mpr ⟨member,
    decide_eq_true (buildUniqueProjectSlug_ne_empty name projects)⟩)

end Slugs

section Operations

variable {settings : ClientSettings} {held : Portfolio}

variable {projects : List ClientProject} {project next : ClientProject} {projectId : String}
  {index : Nat}

theorem find_of_id (ids : (projects.map (·.projectId)).Nodup) {accepts : ClientProject → Bool}
    (member : project ∈ projects) (accepted : accepts project = true)
    (only : ∀ other ∈ projects, accepts other = true → other.projectId = project.projectId) :
    projects.find? accepts = some project := by
  cases found : projects.find? accepts with
  | none => exact absurd accepted (List.find?_eq_none.mp found project member)
  | some other =>
    have among := List.mem_of_find?_eq_some found
    have same := only other among (List.find?_some found)
    exact congrArg some (List.inj_on_of_nodup_map ids among member same)

theorem toProjectSlug_ne_empty (name : String) : toProjectSlug settings name ≠ "" := by
  unfold toProjectSlug
  exact orElse_ne_empty (by decide)

theorem fallbackProject_named (client : Client) (projectId : String) :
    (fallbackProject settings client projectId).slug ≠ "" := by
  simp only [fallbackProject]
  exact toProjectSlug_ne_empty _

theorem settled_fallback (lowers : LowersCase settings.toLowerCase) (client : Client)
    (projectId : String) : (Portfolio.activated [fallbackProject settings client projectId]
      (fallbackProject settings client projectId)).Settled settings where
  ids := List.nodup_singleton _
  slugs := List.nodup_singleton _
  active := ⟨_, List.mem_singleton_self _, rfl, rfl⟩
  named project member := by
    rw [List.mem_singleton.mp member]
    exact fallbackProject_named client projectId
  normal project member := by
    rw [List.mem_singleton.mp member]
    exact normalizeProject_self (fallbackProject_named client projectId)
      (normalizeProjectStack_again lowers _)

theorem settled_create (lowers : LowersCase settings.toLowerCase) (settled : held.Settled settings)
    {client : Client} (same : portfolio client = held)
    (fresh : ∀ project ∈ held.projects, project.projectId ≠ projectId) (name stack : String)
    (environment : Environment) (now : Nat) : (Portfolio.activated
      (held.projects ++ [newProject settings client projectId name stack environment now])
      (newProject settings client projectId name stack environment now)).Settled settings := by
  have projects : client.projects = held.projects := congrArg Portfolio.projects same
  have normal : normalizeProject settings
      (newProject settings client projectId name stack environment now) =
        newProject settings client projectId name stack environment now :=
    normalizeProject_self (buildUniqueProjectSlug_ne_empty name client.projects)
      (normalizeProjectStack_again lowers _)
  refine ⟨⟨?_, ?_, ?_⟩, ?_, ?_⟩
  · rw [Portfolio.activated, List.map_append]
    refine settled.ids.append (List.nodup_singleton _) ?_
    intro id member new
    obtain ⟨project, among, rfl⟩ := List.mem_map.mp member
    exact fresh project among (List.mem_singleton.mp new)
  · rw [Portfolio.activated, List.map_append]
    refine settled.slugs.append (List.nodup_singleton _) ?_
    intro slug member new
    have slug : slug = buildUniqueProjectSlug settings name client.projects :=
      List.mem_singleton.mp new
    rw [slug, ← projects] at member
    exact buildUniqueProjectSlug_not_mem name client.projects member
  · exact ⟨_, List.mem_append_right _ (List.mem_singleton_self _), rfl, rfl⟩
  · intro project member
    rcases List.mem_append.mp member with old | new
    · exact settled.normal project old
    · rw [List.mem_singleton.mp new]
      exact normal
  · intro project member
    rcases List.mem_append.mp member with old | new
    · exact settled.named project old
    · rw [List.mem_singleton.mp new]
      exact buildUniqueProjectSlug_ne_empty name client.projects

/-- The portfolio after an update of a project, which may be the active one. -/
def Portfolio.updated (held : Portfolio) (projects : List ClientProject)
    (activeProject : Option ClientProject) : Portfolio :=
  activeProject.elim { held with projects } fun project =>
    { activated projects project with activeProjectId := held.activeProjectId }

theorem updatedProject_slug (slugs : (projects.map (·.slug)).Nodup)
    (present : projects[index]? = some project) (updates : ProjectUpdates) :
    (updatedProject settings project (projects.eraseIdx index) updates).slug ∉
      (projects.eraseIdx index).map (·.slug) := by
  unfold updatedProject
  dsimp only
  cases (updates.name.map Js.trim).filter (· ≠ "") with
  | some name => exact buildUniqueProjectSlug_not_mem name _
  | none =>
    obtain ⟨bound, rfl⟩ := List.getElem?_eq_some_iff.mp present
    have split := (List.getElem_cons_eraseIdx_perm bound).map (·.slug)
    exact (List.nodup_cons.mp (split.nodup_iff.mpr slugs)).1

theorem updatedProject_named {project : ClientProject} (named : project.slug ≠ "")
    (others : List ClientProject) (updates : ProjectUpdates) :
    (updatedProject settings project others updates).slug ≠ "" := by
  unfold updatedProject
  dsimp only
  cases (updates.name.map Js.trim).filter (· ≠ "") with
  | none => exact named
  | some name => exact buildUniqueProjectSlug_ne_empty name _

theorem updatedProject_stack (lowers : LowersCase settings.toLowerCase)
    (normal : normalizeProjectStack settings (some project.stack) = project.stack)
    (others : List ClientProject) (updates : ProjectUpdates) : normalizeProjectStack settings
        (some (updatedProject settings project others updates).stack) =
      (updatedProject settings project others updates).stack := by
  unfold updatedProject
  dsimp only
  cases updates.stack.filter (· ≠ "") with
  | none => exact normal
  | some stack => exact normalizeProjectStack_again lowers _

theorem map_set_of_same {α : Type} (view : ClientProject → α) (next : ClientProject)
    (present : projects[index]? = some project) (same : view next = view project) :
    (projects.set index next).map view = projects.map view := by
  obtain ⟨bound, rfl⟩ := List.getElem?_eq_some_iff.mp present
  rw [List.map_set, same]
  have bound' : index < (projects.map view).length := by rwa [List.length_map]
  have self := List.set_getElem_self bound'
  rwa [List.getElem_map] at self

theorem mem_set_of_ne {other : ClientProject} (present : projects[index]? = some project)
    (member : other ∈ projects) (different : other ≠ project) :
    other ∈ projects.set index next := by
  obtain ⟨position, found⟩ := List.mem_iff_getElem?.mp member
  refine @List.mem_of_getElem? _ _ position _ ?_
  rw [List.getElem?_set_ne]
  · exact found
  · rintro rfl
    exact different (Option.some.inj (found.symm.trans present))

theorem findProject_some (found : findProject projectId projects = some (index, project)) :
    projects[index]? = some project ∧ project.projectId = projectId := by
  obtain ⟨position, at_, present⟩ := Option.bind_eq_some_iff.mp found
  obtain ⟨_, same, pair⟩ := Option.map_eq_some_iff.mp present
  obtain ⟨rfl, rfl⟩ := Prod.mk.inj pair
  refine ⟨same, ?_⟩
  obtain ⟨bound, accepted, _⟩ := List.findIdx?_eq_some_iff_getElem.mp at_
  obtain ⟨_, rfl⟩ := List.getElem?_eq_some_iff.mp same
  exact of_decide_eq_true accepted

theorem slugs_set (slugs : (projects.map (·.slug)).Nodup)
    (present : projects[index]? = some project)
    (other : next.slug ∉ (projects.eraseIdx index).map (·.slug)) :
    ((projects.set index next).map (·.slug)).Nodup := by
  obtain ⟨bound, _⟩ := List.getElem?_eq_some_iff.mp present
  have split := (List.set_perm_cons_eraseIdx bound next).map (·.slug)
  refine split.nodup_iff.mpr (List.nodup_cons.mpr ⟨other, ?_⟩)
  exact ((List.eraseIdx_sublist projects index).map _).nodup slugs

theorem forall_set {holds : ClientProject → Prop} (each : ∀ project ∈ projects, holds project)
    (new : holds next) (index : Nat) : ∀ project ∈ projects.set index next, holds project := by
  intro project member
  rcases List.mem_or_eq_of_mem_set member with old | rfl
  · exact each project old
  · exact new

theorem projects_updated (projects : List ClientProject) (activeProject : Option ClientProject) :
    (held.updated projects activeProject).projects = projects := by
  cases activeProject <;> rfl

theorem settled_update (lowers : LowersCase settings.toLowerCase) (settled : held.Settled settings)
    {existing : ClientProject}
    (found : findProject projectId held.projects = some (index, existing))
    (unarchived : isArchived existing = false) (updates : ProjectUpdates) : (held.updated
      (held.projects.set index
        (updatedProject settings existing (held.projects.eraseIdx index) updates))
      (if held.activeProjectId = some projectId then
        some (updatedProject settings existing (held.projects.eraseIdx index) updates)
      else none)).Settled settings := by
  obtain ⟨present, sameId⟩ := findProject_some found
  have among := List.mem_of_getElem? present
  have named := @updatedProject_named settings existing (settled.named existing among)
    (held.projects.eraseIdx index) updates
  have normal := normalizeProject_self named (updatedProject_stack lowers
    (normalizeProjectStack_of_normal (settled.normal existing among)) _ updates)
  obtain ⟨active, member, isOpen, equal⟩ := settled.active
  have activeId : held.activeProjectId = some active.projectId :=
    congrArg Portfolio.activeProjectId equal
  refine ⟨⟨?_, ?_, ?_⟩, ?_, ?_⟩
  · rw [projects_updated, map_set_of_same _ _ present]
    · exact settled.ids
    · rfl
  · rw [projects_updated]
    exact slugs_set settled.slugs present (updatedProject_slug settled.slugs present updates)
  · rw [projects_updated, activeId]
    by_cases same : active.projectId = projectId
    · rw [if_pos (congrArg some same)]
      refine ⟨_, List.mem_of_getElem? (List.getElem?_set_self ?_), unarchived, ?_⟩
      · exact (List.getElem?_eq_some_iff.mp present).1
      · simp only [Portfolio.updated, Option.elim_some, activeId, same, ← sameId]
        rfl
    · have different : active ≠ existing := by
        rintro rfl
        exact same sameId
      rw [if_neg fun wrong => same (Option.some.inj wrong)]
      refine ⟨active, mem_set_of_ne present member different, isOpen, ?_⟩
      rw [Portfolio.updated, Option.elim_none, equal]
      rfl
  · rw [projects_updated]
    exact forall_set settled.normal normal index
  · rw [projects_updated]
    exact forall_set settled.named named index

theorem activeAfter_some {client : Client} {active : ClientProject}
    (chosen : activeAfter client projects projectId = some active) :
    active ∈ projects ∧ isArchived active = false := by
  rcases Option.or_eq_some_iff.mp chosen with kept | ⟨_, first⟩
  · obtain ⟨found, _⟩ := Option.filter_eq_some_iff.mp kept
    have accepted := List.find?_some found
    exact ⟨List.mem_of_find?_eq_some found, by simpa using (Bool.and_eq_true_iff.mp accepted).2⟩
  · have accepted := List.find?_some first
    exact ⟨List.mem_of_find?_eq_some first, by simpa using accepted⟩

theorem settled_archive (settled : held.Settled settings) {target active : ClientProject}
    (found : findProject projectId held.projects = some (index, target)) {client : Client}
    (chosen : activeAfter client
      (held.projects.set index { target with status := .archived }) projectId = some active) :
    (Portfolio.activated (held.projects.set index { target with status := .archived })
      active).Settled settings := by
  obtain ⟨present, _⟩ := findProject_some found
  have among := List.mem_of_getElem? present
  have stack := normalizeProjectStack_of_normal (settled.normal target among)
  have normal : normalizeProject settings { target with status := .archived } =
      { target with status := .archived } :=
    normalizeProject_self (settled.named target among) stack
  refine ⟨⟨?_, ?_, ?_⟩, ?_, ?_⟩
  · change ((held.projects.set index { target with status := .archived }).map _).Nodup
    rw [map_set_of_same _ _ present]
    · exact settled.ids
    · rfl
  · change ((held.projects.set index { target with status := .archived }).map _).Nodup
    rw [map_set_of_same _ _ present]
    · exact settled.slugs
    · rfl
  · obtain ⟨member, isOpen⟩ := activeAfter_some chosen
    exact ⟨active, member, isOpen, rfl⟩
  · exact forall_set settled.normal normal index
  · have named : ({ target with status := .archived } : ClientProject).slug ≠ "" :=
      settled.named target among
    exact forall_set settled.named named index

theorem settled_select (settled : held.Settled settings) {accepts : ClientProject → Bool}
    (found : held.projects.find? accepts = some project) (unarchived : isArchived project = false) :
    (Portfolio.activated held.projects project).Settled settings where
  ids := settled.ids
  slugs := settled.slugs
  active := ⟨project, List.mem_of_find?_eq_some found, unarchived, rfl⟩
  normal := settled.normal
  named := settled.named

/-- The portfolio that a repair of the client writes. -/
def chosen (choice : ProjectChoice) : Portfolio :=
  .activated choice.projects choice.activeProject

end Operations

end Caas.Auth.ProjectPortfolio
