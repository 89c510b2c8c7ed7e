import Caas.Datastore.ProfileLifecycle
import Caas.Datastore.RoutingSafety

/-!
# Routing behind the control plane

Activation hands the profile object to the routing engine, which keeps it under a key
made of tenant and project. Since the engine holds the object, it sees every later
change of status; since nothing ever takes the object away, an inactive profile stays
registered under its project's key. `Registry` says how the two stores fit together.
-/

namespace Caas.Datastore

open Js OrderedMap

/-- The tenant and the project of a profile; an empty project id is none. -/
def DatastoreProfile.slot (profile : DatastoreProfile) : String × Option String :=
  (profile.tenantId, present profile.projectId)

theorem profileKey_of_slot {profile : DatastoreProfile} {tenantId : String}
    {projectId : Option String} (same : profile.slot = (tenantId, present projectId)) :
    profileKey profile.tenantId profile.projectId = profileKey tenantId projectId := by
  obtain ⟨tenant, project⟩ := Prod.mk.injEq .. ▸ same
  unfold profileKey
  rw [tenant, project]

namespace ControlPlane

variable (service : ControlPlane)

def read (reference : Reference) : Option StoredProfile := service.store.profiles.read reference

/-- The object that the store holds under an id. -/
def reference (id : String) : Option Reference := service.store.profiles.references.get id

variable {service}

theorem getById_eq_bind (id : String) :
    service.getById id = (service.reference id).bind service.read := rfl

theorem exists_reference {id : String} {profile : StoredProfile}
    (stored : service.getById id = some profile) :
    ∃ reference, service.reference id = some reference ∧ service.read reference = some profile :=
  ObjectMap.exists_reference stored

section Objects

variable (id : String) (status : ProfileStatus) (now : String) (result : PreflightResult)
  (profile : StoredProfile) (other : Reference)

@[simp] theorem read_setStatus : (service.setStatus id status now).read other =
      if service.reference id = some other then
        (service.read other).map (·.withStatus status now) else service.read other :=
  ObjectMap.read_modify ..

@[simp] theorem read_setPreflightResult : (service.setPreflightResult id result now).read other =
      if service.reference id = some other then
        (service.read other).map (·.withPreflight result now) else service.read other :=
  ObjectMap.read_modify ..

@[simp] theorem reference_setStatus (found : String) :
    (service.setStatus id status now).reference found = service.reference found := rfl

@[simp] theorem reference_setPreflightResult (found : String) :
    (service.setPreflightResult id result now).reference found = service.reference found := rfl

@[simp] theorem read_delete : (service.delete id).read other = service.read other := rfl

theorem reference_delete (found : String) : (service.delete id).reference found =
      if id = found then none else service.reference found :=
  get_delete ..

theorem read_insert (found : StoredProfile)
    (behind : (service.insert profile).read other = some found) : service.read other = some found ∨
      (found = profile ∧ (service.insert profile).reference profile.id = some other) := by
  by_cases old : other < service.store.profiles.objects.length
  · left
    rwa [← show (service.insert profile).read other = service.read other from
      ObjectMap.read_add_of_lt profile.id profile old]
  · right
    have bound := ObjectMap.lt_of_read behind
    have new : other = service.store.profiles.objects.length := by
      change other < (service.store.profiles.objects ++ [profile]).length at bound
      rw [List.length_append, List.length_singleton] at bound
      exact Nat.le_antisymm (Nat.le_of_lt_succ bound) (Nat.le_of_not_lt old)
    subst new
    have added : (service.insert profile).read service.store.profiles.objects.length =
        some profile := ObjectMap.read_add_new profile.id profile
    rw [added, Option.some.injEq] at behind
    exact ⟨behind.symm, get_set_self ..⟩

theorem read_insert_of_read {found : StoredProfile} (behind : service.read other = some found) :
    (service.insert profile).read other = some found := by
  rw [← behind]
  exact ObjectMap.read_add_of_lt profile.id profile (ObjectMap.lt_of_read behind)

theorem reference_insert_of_ne {found : String} (different : profile.id ≠ found) :
    (service.insert profile).reference found = service.reference found :=
  get_set_of_ne _ _ different

end Objects

end ControlPlane

namespace ControlPlaneService

open ControlPlane

variable {library : SchemaLibrary} {service after : ControlPlane} {id : String}
  {profile : StoredProfile}

/-- How the configuration store and the routing engine fit together: registered objects
lie under their keys, active objects are in the store, and the key of an active profile
leads to the profile itself or to an object of another tenant or project. -/
structure Registry (service : ControlPlane) : Prop where
  sole : SoleActive service
  routed : ∀ key reference, service.routes.get key = some reference →
    ∃ profile, service.read reference = some profile ∧
      profileKey profile.tenantId profile.projectId = key
  live : ∀ reference profile, service.read reference = some profile → profile.status = .active →
    service.reference profile.id = some reference
  registered : ∀ profile, service.getById profile.id = some profile → profile.status = .active →
    ∃ reference found,
      service.routes.get (profileKey profile.tenantId profile.projectId) = some reference ∧
        service.read reference = some found ∧
        (found.slot = profile.slot → service.reference profile.id = some reference)

/-- An edit of one object that keeps its id and slot, as seen through references. -/
structure Edits (service after : ControlPlane) (id : String)
    (change : StoredProfile → StoredProfile) : Prop where
  read : ∀ reference, after.read reference =
    if service.reference id = some reference then (service.read reference).map change
    else service.read reference
  reference : ∀ other, after.reference other = service.reference other
  id : ∀ profile, (change profile).id = profile.id
  slot : ∀ profile, (change profile).slot = profile.slot
  key : ∀ profile, profileKey (change profile).tenantId (change profile).projectId =
    profileKey profile.tenantId profile.projectId

variable {change : StoredProfile → StoredProfile}

theorem edits_setStatus (id : String) (status : ProfileStatus) (now : String) :
    Edits service (service.setStatus id status now) id (·.withStatus status now) where
  read := read_setStatus id status now
  reference := reference_setStatus id status now
  id _ := rfl
  slot _ := rfl
  key _ := rfl

theorem edits_setPreflightResult (id : String) (result : PreflightResult) (now : String) :
    Edits service (service.setPreflightResult id result now) id (·.withPreflight result now) where
  read := read_setPreflightResult id now result
  reference := reference_setPreflightResult id now result
  id _ := rfl
  slot _ := rfl
  key _ := rfl

theorem Edits.read_of_read (edits : Edits service after id change) {reference : Reference}
    (behind : service.read reference = some profile) :
    ∃ later, after.read reference = some later ∧ later.slot = profile.slot ∧
      profileKey later.tenantId later.projectId =
        profileKey profile.tenantId profile.projectId := by
  rw [edits.read, behind]
  by_cases here : service.reference id = some reference
  · rw [if_pos here]
    exact ⟨change profile, rfl, edits.slot profile, edits.key profile⟩
  · rw [if_neg here]
    exact ⟨profile, rfl, rfl, rfl⟩

theorem Edits.read_cases (edits : Edits service after id change) {reference : Reference}
    (behind : after.read reference = some profile) : service.read reference = some profile ∨
      ∃ before, service.reference id = some reference ∧
        service.getById id = some before ∧ profile = change before := by
  rw [edits.read] at behind
  split at behind
  · rename_i here
    obtain ⟨before, there, same⟩ := Option.map_eq_some_iff.mp behind
    refine .inr ⟨before, here, ?_, same.symm⟩
    rw [getById_eq_bind, here, Option.bind_some, there]
  · exact .inl behind

theorem Edits.keyed (edits : Edits service after id change) {reference : Reference} {key : String}
    (before : ∃ profile, service.read reference = some profile ∧
      profileKey profile.tenantId profile.projectId = key) :
    ∃ profile, after.read reference = some profile ∧
      profileKey profile.tenantId profile.projectId = key := by
  obtain ⟨profile, behind, keyed⟩ := before
  obtain ⟨later, behind', _, same⟩ := edits.read_of_read behind
  exact ⟨later, behind', same.trans keyed⟩

theorem Edits.leads (edits : Edits service after id change) {key : String}
    (unmoved : after.routes.get key = service.routes.get key)
    (before : ∃ reference found, service.routes.get key = some reference ∧
      service.read reference = some found ∧
      (found.slot = profile.slot → service.reference profile.id = some reference)) :
    ∃ reference found, after.routes.get key = some reference ∧ after.read reference = some found ∧
      (found.slot = profile.slot → after.reference profile.id = some reference) := by
  obtain ⟨reference, found, there, behind, own⟩ := before
  obtain ⟨later, behind', slot, _⟩ := edits.read_of_read behind
  refine ⟨reference, later, unmoved.trans there, behind', fun same => ?_⟩
  rw [edits.reference]
  exact own (slot.symm.trans same)

/-- An edit that leaves its object inactive. -/
def Calm (service : ControlPlane) (id : String) (change : StoredProfile → StoredProfile) : Prop :=
  ∀ profile, service.getById id = some profile → (change profile).status ≠ .active

theorem Edits.active_before (edits : Edits service after id change)
    (calm : Calm service id change) {reference : Reference}
    (behind : after.read reference = some profile) (active : profile.status = .active) :
    service.read reference = some profile := by
  obtain before | ⟨before, _, stored, rfl⟩ := edits.read_cases behind
  · exact before
  · exact absurd active (calm before stored)

theorem Registry.edited (registry : Registry service) (edits : Edits service after id change)
    (calm : Calm service id change) (routes : after.routes = service.routes) :
    Registry after := by
  have before : ∀ profile, after.getById profile.id = some profile → profile.status = .active →
      service.getById profile.id = some profile := by
    intro profile stored active
    obtain ⟨reference, held, behind⟩ := exists_reference stored
    rw [edits.reference] at held
    rw [getById_eq_bind, held, Option.bind_some]
    exact edits.active_before calm behind active
  constructor
  · exact registry.sole.of_activeKept before
  · intro key reference there
    rw [routes] at there
    exact edits.keyed (registry.routed key reference there)
  · intro reference profile behind active
    rw [edits.reference]
    exact registry.live reference profile (edits.active_before calm behind active) active
  · intro profile stored active
    have earlier := registry.registered profile (before profile stored active) active
    exact edits.leads (by rw [routes]) earlier

theorem Registry.setStatus (registry : Registry service) (id : String) {status : ProfileStatus}
    (calm : status ≠ .active) (now : String) : Registry (service.setStatus id status now) :=
  registry.edited (edits_setStatus id status now) (fun _ _ => calm) rfl

theorem Registry.record (registry : Registry service) (actor : ActorContext)
    (action : AuditAction) (resource : String) (details : AuditDetails) (draws : Draws) :
    Registry (service.record actor action resource details draws) :=
  ⟨registry.sole, registry.routed, registry.live, registry.registered⟩

theorem Registry.checked (registry : Registry service)
    (found : service.getById id = some profile) (result : PreflightResult) (draws : Draws) :
    Registry (checked service id result draws) := by
  have noted : Registry ((service.setStatus id .validating (draws.now 0)).setPreflightResult id
      result (draws.now 2)) := by
    refine (registry.setStatus id (by simp) _).edited
      (edits_setPreflightResult id result (draws.now 2)) ?_ rfl
    intro between stored
    rw [getById_setStatus, if_pos rfl, found, Option.map_some, Option.some.injEq] at stored
    rw [← stored]
    simp [StoredProfile.withPreflight, StoredProfile.withStatus]
  unfold ControlPlaneService.checked
  cases result.passed
  · exact noted.setStatus id (by simp) _
  · exact noted

theorem Registry.insert (registry : Registry service)
    (fresh : service.getById profile.id = none) (draft : profile.status ≠ .active) :
    Registry (service.insert profile) := by
  have unused : service.reference profile.id = none := ObjectMap.references_get_eq_none fresh
  have elsewhere : ∀ other reference, service.reference other = some reference →
      (service.insert profile).reference other = some reference := by
    intro other reference held
    rw [reference_insert_of_ne profile fun same => ?_, held]
    rw [same, held] at unused
    cases unused
  have kept : ActiveKept service (service.insert profile) := by
    refine (replaces_insert profile).activeKept fun edited same => ?_
    cases same
    exact draft
  constructor
  · exact registry.sole.of_activeKept kept
  · intro key reference there
    obtain ⟨found, behind, keyed⟩ := registry.routed key reference there
    exact ⟨found, read_insert_of_read profile reference behind, keyed⟩
  · intro reference found behind active
    obtain old | ⟨rfl, _⟩ := read_insert profile reference found behind
    · exact elsewhere _ _ (registry.live reference found old active)
    · exact absurd active draft
  · intro found stored active
    obtain ⟨reference, object, there, behind, own⟩ :=
      registry.registered found (kept found stored active) active
    exact ⟨reference, object, there, read_insert_of_read profile reference behind,
      fun same => elsewhere _ _ (own same)⟩

theorem Registry.delete (registry : Registry service)
    (found : service.getById id = some profile) (idle : profile.status ≠ .active) :
    Registry (service.delete id) := by
  have kept : ActiveKept service (service.delete id) :=
    (replaces_delete id).activeKept fun _ same => nomatch same
  have elsewhere : ∀ other reference, service.reference other.id = some reference →
      service.read reference = some other → other.status = .active →
      (service.delete id).reference other.id = some reference := by
    intro other reference held behind active
    rw [reference_delete, if_neg, held]
    rintro rfl
    rw [getById_eq_bind, held, Option.bind_some, behind, Option.some.injEq] at found
    exact idle (found ▸ active)
  constructor
  · exact registry.sole.of_activeKept kept
  · exact registry.routed
  · intro reference other behind active
    exact elsewhere other reference (registry.live reference other behind active) behind active
  · intro other stored active
    have before := kept other stored active
    obtain ⟨reference, object, there, behind, own⟩ := registry.registered other before active
    refine ⟨reference, object, there, behind, fun same => ?_⟩
    obtain ⟨held, at', behind'⟩ := exists_reference before
    rw [own same, Option.some.injEq] at at'
    subst at'
    exact elsewhere other _ (own same) behind' active

theorem Registry.retired (registry : Registry service) (profile : StoredProfile)
    (actor : ActorContext) (draws : Draws) :
    Registry (retired service profile actor draws) := by
  unfold ControlPlaneService.retired
  cases competitor service profile with
  | none => exact registry
  | some existing => exact (registry.setStatus existing.id inactive_ne_active _).record ..

theorem routes_setRoute {reference : Reference} (held : service.reference profile.id =
    some reference) (key : String) : (service.setRoute profile).routes.get key =
      if profileKey profile.tenantId profile.projectId = key then some reference
      else service.routes.get key := by
  have stored : service.store.profiles.references.get profile.id = some reference := held
  unfold ControlPlane.setRoute
  rw [stored]
  exact get_set ..

theorem edits_activated (profile : StoredProfile) (actor : ActorContext) (draws : Draws) :
    Edits (ControlPlaneService.retired service profile actor draws)
      (activated service profile actor draws) profile.id
      (·.withStatus .active (draws.now 2)) := by
  have edits : Edits _ ((ControlPlaneService.retired service profile actor draws).setStatus
      profile.id .active (draws.now 2)) profile.id (·.withStatus .active (draws.now 2)) :=
    edits_setStatus profile.id .active (draws.now 2)
  unfold activated
  constructor
  · intro reference
    rw [ControlPlane.read, store_setRoute]
    exact edits.read reference
  · intro other
    rw [ControlPlane.reference, store_setRoute]
    exact edits.reference other
  · exact edits.id
  · exact edits.slot
  · exact edits.key

theorem Registry.activated (registry : Registry service)
    (found : service.getById profile.id = some profile) (actor : ActorContext) (draws : Draws) :
    Registry (activated service profile actor draws) := by
  have calm := registry.retired profile actor draws
  have stored := getById_retired_self profile.id actor draws found
  have edits : Edits _ (ControlPlaneService.activated service profile actor draws) _ _ :=
    edits_activated profile actor draws
  obtain ⟨own, held, behind⟩ := exists_reference stored
  -- The activated object lies behind its own reference, and its key leads there.
  have heldAfter : (ControlPlaneService.activated service profile actor draws).reference
      profile.id = some own := (edits.reference profile.id).trans held
  have behindAfter : (ControlPlaneService.activated service profile actor draws).read own =
      some (profile.withStatus .active (draws.now 2)) := by
    rw [edits.read, if_pos held, behind, Option.map_some]
  have routes : ∀ key, (ControlPlaneService.activated service profile actor draws).routes.get key =
      if profileKey profile.tenantId profile.projectId = key then some own
      else (ControlPlaneService.retired service profile actor draws).routes.get key :=
    @routes_setRoute _ (profile.withStatus .active (draws.now 2)) own held
  constructor
  · exact registry.sole.activated found actor draws
  · intro key reference there
    rw [routes] at there
    split at there
    · cases there
      exact ⟨_, behindAfter, by assumption⟩
    · exact edits.keyed (calm.routed key reference there)
  · intro reference other after active
    obtain before | ⟨before, there, stored', rfl⟩ := edits.read_cases after
    · rw [edits.reference]
      exact calm.live reference other before active
    · rw [stored, Option.some.injEq] at stored'
      subst stored'
      rw [edits.reference]
      exact there
  · intro other storedAfter active
    by_cases same : profile.id = other.id
    · rw [replaces_activated actor draws found, if_pos same, Option.some.injEq] at storedAfter
      subst storedAfter
      exact ⟨own, _, (routes _).trans (if_pos rfl), behindAfter, fun _ => heldAfter⟩
    · rw [replaces_activated actor draws found, if_neg same] at storedAfter
      by_cases shared : profileKey profile.tenantId profile.projectId =
          profileKey other.tenantId other.projectId
      · refine ⟨own, _, by rw [routes, if_pos shared], behindAfter, fun slot => ?_⟩
        -- Two active profiles of one slot are what activation has ruled out.
        obtain ⟨tenant, project⟩ := Prod.mk.injEq .. ▸ slot
        exact absurd active (not_active_of_retired registry.sole actor draws storedAfter
          tenant.symm project.symm (Ne.symm same))
      · exact edits.leads (by rw [routes, if_neg shared]) (calm.registered other storedAfter active)

theorem Registry.step (registry : Registry service) {input : Input}
    (fresh : FreshIds service input) (taken : Step library service input after) :
    Registry after := by
  cases taken with
  | kept => exact registry
  | tested => exact registry.record ..
  | credentials => exact ⟨registry.sole, registry.routed, registry.live, registry.registered⟩
  | created request decided =>
    obtain ⟨rfl, _⟩ := created_eq_ok_iff.mp decided
    exact (registry.insert (fresh _ request) draft_ne_active).record ..
  | deactivated request decided =>
    exact (registry.setStatus _ inactive_ne_active _).record ..
  | deleted request decided idle =>
    exact (registry.delete (getById_of_owned decided) idle).record ..
  | checked request decided =>
    exact (registry.checked (getById_of_known decided) _ _).record ..
  | activated request decided passed =>
    have found := getById_of_owned decided
    have named := TenantConfigStore.id_of_getById found
    subst named
    exact (registry.activated found _ _).record ..

theorem registry_empty : Registry ControlPlane.empty where
  sole _ _ stored := nomatch stored
  routed _ _ there := nomatch there
  live _ _ behind := nomatch behind
  registered _ stored := nomatch stored

theorem registry_run (inputs : List Input)
    (fresh : (machine library).Admits FreshIds ControlPlane.empty inputs) :
    Registry ((machine library).run ControlPlane.empty inputs) :=
  fresh.invariant (fun service input registry fresh =>
    registry.step fresh (step_cases library service input)) registry_empty

section Resolution

variable (service : ControlPlane) (tenantId : String) (projectId : Option String)

/-- The object that the routing engine finds for a tenant and project. -/
def registered : Option StoredProfile :=
  ((service.routes.get (profileKey tenantId projectId)).bind service.read).or
    ((service.routes.get (profileKey tenantId none)).bind service.read)

/-- Where an object of the routing engine leads. -/
def leadsTo (profile : StoredProfile) : ProviderId :=
  if profile.status = .active then profile.provider else .mongodb

/-- The profile that ought to serve a tenant and project: the active one of the project
or, without any, the active one of the whole tenant. -/
structure Serving (profile : StoredProfile) : Prop where
  stored : service.getById profile.id = some profile
  active : profile.status = .active
  nearest : profile.slot = (tenantId, present projectId) ∨
    profile.slot = (tenantId, none) ∧
      ∀ other, service.getById other.id = some other → other.status = .active →
        other.slot ≠ (tenantId, present projectId)

/-- Every resolution for the tenant and project goes to the provider of the profile that
ought to serve it. -/
def Follows : Prop :=
  ∀ profile, Serving service tenantId projectId profile →
    ∀ domain correlationId draws, ∃ decision,
      (service.routingEngine.resolve tenantId domain projectId correlationId draws).2 =
          .ok decision ∧
        decision.targetProvider = profile.provider

/-- What stands between a serving profile and the resolutions that it should decide. -/
inductive Obstructed (profile : StoredProfile) : Prop
  /-- A profile of the project was in service once and is not any more, and the serving
  one is not where MongoDB is. -/
  | stale {found : StoredProfile} (there : registered service tenantId projectId = some found)
      (own : found.slot = (tenantId, present projectId)) (idle : found.status ≠ .active)
      (elsewhere : profile.provider ≠ .mongodb)
  /-- The key leads to an object of another tenant or project, and that one elsewhere. -/
  | foreign {found : StoredProfile} (there : registered service tenantId projectId = some found)
      (project : found.slot ≠ (tenantId, present projectId))
      (tenant : found.slot ≠ (tenantId, none))
      (elsewhere : leadsTo found ≠ profile.provider)

variable {service tenantId projectId}

theorem getProfile_routingEngine : service.routingEngine.getProfile tenantId projectId =
      (registered service tenantId projectId).map StoredProfile.toDatastoreProfile := by
  have looked : ∀ key, service.routingEngine.profiles.get key =
      ((service.routes.get key).bind service.read).map StoredProfile.toDatastoreProfile := by
    intro key
    refine (get_filterMapValues ..).trans ?_
    rw [Option.map_bind]
    rfl
  rw [RoutingPolicyEngine.getProfile, looked, looked, registered]
  cases (service.routes.get (profileKey tenantId projectId)).bind service.read <;> rfl

theorem targetProvider_resolve (domain : EntityDomain) (correlationId : Option String)
    (draws : Draws) : ∃ decision,
      (service.routingEngine.resolve tenantId domain projectId correlationId draws).2 =
          .ok decision ∧ decision.targetProvider =
          ((registered service tenantId projectId).map leadsTo).getD .mongodb := by
  have unrestricted : ∀ profile,
      service.routingEngine.enforceResidency tenantId profile = .ok () := fun _ => rfl
  have unruled : service.routingEngine.rules = [] := rfl
  rw [RoutingPolicyEngine.resolve_snd, RoutingPolicyEngine.decisionFor,
    RoutingPolicyEngine.activeProfile, getProfile_routingEngine]
  cases registered service tenantId projectId with
  | none => exact ⟨_, rfl, rfl⟩
  | some found =>
    by_cases active : found.status = .active
    · simp only [Option.map_some, Option.filter_some, active, decide_true, if_true, Except.map,
        Option.getD_some, leadsTo]
      exact ⟨_, rfl, rfl⟩
    · simp only [Option.map_some, Option.filter_some, active, decide_false, leadsTo,
        Option.getD_some, if_false]
      exact ⟨_, rfl, rfl⟩

theorem Registry.project_of_routed (registry : Registry service) {reference : Reference}
    {found : StoredProfile} {project : Option String}
    (there : service.routes.get (profileKey tenantId projectId) = some reference)
    (behind : service.read reference = some found) (slot : found.slot = (tenantId, project)) :
    project = present projectId := by
  obtain ⟨object, same, keyed⟩ := registry.routed _ _ there
  rw [behind, Option.some.injEq] at same
  subst same
  obtain ⟨rfl, rfl⟩ := Prod.mk.injEq .. ▸ slot
  exact RoutingPolicyEngine.profileKey_injective keyed

theorem Registry.routed_active (registry : Registry service)
    (stored : service.getById profile.id = some profile) (active : profile.status = .active)
    (slot : profile.slot = (tenantId, present projectId)) :
    ∃ reference found, service.routes.get (profileKey tenantId projectId) = some reference ∧
      service.read reference = some found ∧ (found.slot = profile.slot → found = profile) := by
  obtain ⟨reference, found, there, behind, own⟩ := registry.registered profile stored active
  rw [profileKey_of_slot slot] at there
  refine ⟨reference, found, there, behind, fun same => ?_⟩
  rw [getById_eq_bind, own same, Option.bind_some, behind] at stored
  exact Option.some.inj stored

/-- Resolution finds the serving profile, an idle one of the same project, or an object
of another tenant or project. -/
theorem Registry.registered_cases (registry : Registry service)
    (serving : Serving service tenantId projectId profile) :
    ∃ found, ControlPlaneService.registered service tenantId projectId = some found ∧
      (found = profile ∨ (found.slot = (tenantId, present projectId) ∧ found.status ≠ .active) ∨
        (found.slot ≠ (tenantId, present projectId) ∧ found.slot ≠ (tenantId, none))) := by
  unfold ControlPlaneService.registered
  obtain own | ⟨wide, unserved⟩ := serving.nearest
  · obtain ⟨reference, found, there, behind, same⟩ :=
      registry.routed_active serving.stored serving.active own
    refine ⟨found, by rw [there, Option.bind_some, behind, Option.some_or], ?_⟩
    by_cases slot : found.slot = profile.slot
    · exact .inl (same slot)
    · rw [own] at slot
      refine .inr (.inr ⟨slot, fun tenant => slot ?_⟩)
      rw [tenant, registry.project_of_routed there behind tenant]
  · cases first : service.routes.get (profileKey tenantId projectId) with
    | some reference =>
      obtain ⟨found, behind, _⟩ := registry.routed _ _ first
      refine ⟨found, by rw [Option.bind_some, behind, Option.some_or], .inr ?_⟩
      by_cases slot : found.slot = (tenantId, present projectId)
      · refine .inl ⟨slot, fun active => ?_⟩
        -- An active object is in the store, where the project has none.
        have held := registry.live reference found behind active
        refine unserved found ?_ active slot
        rw [getById_eq_bind, held, Option.bind_some, behind]
      · refine .inr ⟨slot, fun tenant => slot ?_⟩
        rw [tenant, registry.project_of_routed first behind tenant]
    | none =>
      obtain ⟨reference, found, there, behind, same⟩ :=
        @Registry.routed_active _ _ tenantId none registry serving.stored serving.active wide
      refine ⟨found, by rw [there, Option.bind_none, Option.none_or, Option.bind_some, behind], ?_⟩
      by_cases tenant : found.slot = (tenantId, none)
      · exact .inl (same (tenant.trans wide.symm))
      · refine .inr (.inr ⟨fun slot => ?_, tenant⟩)
        have project := registry.project_of_routed there behind slot
        exact tenant (slot.trans (by rw [project]; rfl))

theorem Registry.leads_iff (registry : Registry service)
    (serving : Serving service tenantId projectId profile) :
    ((ControlPlaneService.registered service tenantId projectId).map leadsTo).getD .mongodb =
        profile.provider ↔
      ¬ Obstructed service tenantId projectId profile := by
  obtain ⟨found, there, kinds⟩ := registry.registered_cases serving
  rw [there, Option.map_some, Option.getD_some]
  constructor
  · rintro leads (⟨there', _, idle, elsewhere⟩ | ⟨there', _, _, elsewhere⟩) <;>
      rw [there, Option.some.injEq] at there' <;>
      subst there'
    · exact elsewhere (leads.symm.trans (if_neg idle))
    · exact elsewhere leads
  · intro clear
    obtain rfl | ⟨own, idle⟩ | ⟨project, tenant⟩ := kinds
    · exact if_pos serving.active
    · rw [leadsTo, if_neg idle]
      by_contra elsewhere
      exact clear (.stale there own idle (Ne.symm elsewhere))
    · by_contra elsewhere
      exact clear (.foreign there project tenant elsewhere)

/-- After every run with fresh ids, the resolutions for a tenant and project follow the
control plane exactly when nothing obstructs the profile that ought to serve them. -/
theorem routing_follows_iff (library : SchemaLibrary) (inputs : List Input)
    (fresh : (machine library).Admits FreshIds ControlPlane.empty inputs) (tenantId : String)
    (projectId : Option String) :
    Follows ((machine library).run ControlPlane.empty inputs) tenantId projectId ↔
      ∀ profile, Serving ((machine library).run ControlPlane.empty inputs) tenantId projectId
          profile →
        ¬ Obstructed ((machine library).run ControlPlane.empty inputs) tenantId projectId
          profile := by
  have registry := registry_run inputs fresh
  refine forall_congr' fun profile => forall_congr' fun serving => ?_
  rw [← registry.leads_iff serving]
  constructor
  · intro follows
    obtain ⟨decision, decided, leads⟩ := follows .users none ⟨fun _ => "", fun _ => ""⟩
    obtain ⟨decision', decided', leads'⟩ := @targetProvider_resolve
      ((machine library).run ControlPlane.empty inputs) tenantId projectId .users none
      ⟨fun _ => "", fun _ => ""⟩
    rw [decided, Except.ok.injEq] at decided'
    subst decided'
    exact leads'.symm.trans leads
  · intro leads domain correlationId draws
    obtain ⟨decision, decided, leads'⟩ := targetProvider_resolve domain correlationId draws
    exact ⟨decision, decided, leads'.trans leads⟩

/-- A profile for the whole tenant and one for a project, both in service. -/
def bothServing : List Input :=
  bringUp "p" (sampleInput "t" none .dynamodb) sampleAdmin ++
    bringUp "q" (sampleInput "t" (some "a") .mongodb) sampleAdmin

theorem freshIds_bothServing :
    (machine sampleLibrary).Admits FreshIds ControlPlane.empty bothServing := by
  refine ⟨fun _ _ => rfl, trivial, ?_, ?_, fun _ _ => rfl, trivial, ?_, ?_, trivial⟩ <;>
    exact fun input request => nomatch request

/-- The project goes its own way. -/
theorem routing_follows_project :
    Follows ((machine sampleLibrary).run ControlPlane.empty bothServing) "t" (some "a") := by
  refine (routing_follows_iff sampleLibrary _ freshIds_bothServing _ _).mpr ?_
  rintro profile _ (⟨there, _, idle, _⟩ | ⟨there, project, _⟩) <;> cases there
  · exact idle rfl
  · exact project rfl

def withdrawn : List Input := bothServing ++ [sampleCall (.deactivateProfile "q") sampleAdmin "r"]

theorem freshIds_withdrawn :
    (machine sampleLibrary).Admits FreshIds ControlPlane.empty withdrawn := by
  refine ⟨fun _ _ => rfl, trivial, ?_, ?_, fun _ _ => rfl, trivial, ?_, ?_, ?_, trivial⟩ <;>
    exact fun input request => nomatch request

theorem serving_withdrawn : ∃ profile,
      Serving ((machine sampleLibrary).run ControlPlane.empty withdrawn) "t" (some "a") profile ∧
        profile.provider = .dynamodb := by
  have unserved : ((machine sampleLibrary).run ControlPlane.empty withdrawn).store.getActive "t"
      (some "a") = none := rfl
  obtain ⟨profile, stored, named, active, wide, provider⟩ : ∃ profile,
      ((machine sampleLibrary).run ControlPlane.empty withdrawn).getById "p" = some profile ∧
        profile.id = "p" ∧ profile.status = .active ∧ profile.slot = ("t", none) ∧
        profile.provider = .dynamodb := ⟨_, rfl, rfl, rfl, rfl, rfl⟩
  rw [← named] at stored
  refine ⟨profile, ⟨stored, active, .inr ⟨wide, fun other there active slot => ?_⟩⟩, provider⟩
  obtain ⟨tenant, project⟩ := Prod.mk.injEq .. ▸ slot
  rw [← tenant] at unserved
  exact TenantConfigStore.getActive_ne_none there active project unserved

/-- MongoDB serves the project, and the tenant keeps its data elsewhere. -/
theorem withdrawn_project_shadows_tenant :
    (machine sampleLibrary).Admits FreshIds ControlPlane.empty withdrawn ∧
      ¬ Follows ((machine sampleLibrary).run ControlPlane.empty withdrawn) "t" (some "a") := by
  refine ⟨freshIds_withdrawn, fun follows => ?_⟩
  obtain ⟨profile, serving, elsewhere⟩ := serving_withdrawn
  obtain ⟨decision, decided, leads⟩ := follows profile serving .users none
    ⟨fun _ => "", fun _ => ""⟩
  rw [elsewhere] at leads
  cases decided
  cases leads

end Resolution

end ControlPlaneService

end Caas.Datastore
