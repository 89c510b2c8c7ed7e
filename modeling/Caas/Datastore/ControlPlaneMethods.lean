import Caas.Datastore.ControlPlaneService

/-!
# What the methods of the control plane do

Every method first decides on the request and then carries it out. The decisions are
functions of the state, `known` and `owned` among them; the effects are edits of single
profiles. One equation for each method says which decision leads to which effect, and
the `simp` lemmas say where each edit shows.
-/

namespace Caas.Datastore

open Js Js.Throwing

namespace TenantConfigStore

variable {store : TenantConfigStore}

variable {profile : StoredProfile}

theorem mem_listAll_iff : profile ∈ store.listAll ↔ store.getById profile.id = some profile := by
  unfold listAll getById OrderedMap.values
  rw [List.mem_map]
  constructor
  · rintro ⟨⟨id, found⟩, member, rfl⟩
    have stored := OrderedMap.get_eq_some_iff.mpr member
    rw [ObjectMap.get_view] at stored
    rwa [store.named id found stored]
  · intro stored
    refine ⟨(profile.id, profile), ?_, rfl⟩
    rwa [← OrderedMap.get_eq_some_iff, ObjectMap.get_view]

theorem id_of_getById {id : String} (found : store.getById id = some profile) : profile.id = id :=
  store.named id profile found

theorem getActive_spec {tenantId : String} {projectId : Option String}
    (found : store.getActive tenantId projectId = some profile) :
    store.getById profile.id = some profile ∧ profile.status = .active ∧
      profile.tenantId = tenantId ∧ present profile.projectId = present projectId := by
  have member := mem_listAll_iff.mp (List.mem_of_find?_eq_some found)
  have passed := List.find?_some found
  simp only [Bool.and_eq_true, decide_eq_true_eq, DatastoreProfile.belongsTo_iff] at passed
  exact ⟨member, passed⟩

theorem getActive_ne_none {projectId : Option String}
    (stored : store.getById profile.id = some profile) (active : profile.status = .active)
    (project : present profile.projectId = present projectId) :
    store.getActive profile.tenantId projectId ≠ none := by
  intro absent
  have rejected := List.find?_eq_none.mp absent profile (mem_listAll_iff.mpr stored)
  simp [active, DatastoreProfile.belongsTo_iff, project] at rejected

@[simp] theorem getById_insert (profile : StoredProfile) (id : String) :
    (store.insert profile).getById id =
      if profile.id = id then some profile else store.getById id :=
  ObjectMap.get_add profile.id profile id

@[simp] theorem getById_edit (id : String) (change : StoredProfile → StoredProfile)
    (keepsId : ∀ profile, (change profile).id = profile.id) (other : String) :
    (store.edit id change keepsId).getById other =
      if id = other then (store.getById other).map change else store.getById other :=
  ObjectMap.get_modify id change other

@[simp] theorem getById_delete (id other : String) :
    (store.delete id).getById other = if id = other then none else store.getById other :=
  ObjectMap.get_delete id other

end TenantConfigStore

namespace ControlPlane

variable (service : ControlPlane)

/-- The profile `id` as the store knows it. -/
def getById (id : String) : Option StoredProfile := service.store.getById id

/-- The service with the status of a profile assigned. -/
def setStatus (id : String) (status : ProfileStatus) (now : String) : ControlPlane :=
  { service with
    store := service.store.edit id (·.withStatus status now)
      (StoredProfile.withStatus_id status now) }

/-- The service with the preflight result of a profile assigned. -/
def setPreflightResult (id : String) (result : PreflightResult) (now : String) : ControlPlane :=
  { service with
    store := service.store.edit id (·.withPreflight result now)
      (StoredProfile.withPreflight_id result now) }

def insert (profile : StoredProfile) : ControlPlane :=
  { service with store := service.store.insert profile }

def delete (id : String) : ControlPlane := { service with store := service.store.delete id }

section Show

variable (id other : String) (status : ProfileStatus) (now : String) (result : PreflightResult)
  (profile : StoredProfile) (actor : ActorContext) (action : AuditAction)
  (details : AuditDetails) (draws : Draws)

@[simp] theorem getById_setStatus : (service.setStatus id status now).getById other =
      if id = other then (service.getById other).map (·.withStatus status now)
      else service.getById other :=
  TenantConfigStore.getById_edit id _ (StoredProfile.withStatus_id status now) other

@[simp] theorem getById_setPreflightResult :
    (service.setPreflightResult id result now).getById other =
      if id = other then (service.getById other).map (·.withPreflight result now)
      else service.getById other :=
  TenantConfigStore.getById_edit id _ (StoredProfile.withPreflight_id result now) other

@[simp] theorem getById_insert : (service.insert profile).getById id =
      if profile.id = id then some profile else service.getById id :=
  TenantConfigStore.getById_insert ..

@[simp] theorem getById_delete :
    (service.delete id).getById other = if id = other then none else service.getById other :=
  TenantConfigStore.getById_delete ..

theorem store_setRoute : (service.setRoute profile).store = service.store := by
  unfold setRoute
  split <;> rfl

@[simp] theorem getById_setRoute : (service.setRoute profile).getById id = service.getById id := by
  simp [getById, store_setRoute]

@[simp] theorem getById_record :
    (service.record actor action id details draws).getById other = service.getById other := rfl

@[simp] theorem auditEvents_setStatus :
    (service.setStatus id status now).auditEvents = service.auditEvents := rfl

@[simp] theorem auditEvents_setPreflightResult :
    (service.setPreflightResult id result now).auditEvents = service.auditEvents := rfl

@[simp] theorem auditEvents_insert :
    (service.insert profile).auditEvents = service.auditEvents := rfl

@[simp] theorem auditEvents_delete : (service.delete id).auditEvents = service.auditEvents := rfl

@[simp] theorem auditEvents_setRoute :
    (service.setRoute profile).auditEvents = service.auditEvents := by
  unfold setRoute
  split <;> rfl

end Show

/-- The decision of `assertAuthorized`. -/
def authorized (actor : ActorContext) (requiredRole : ControlPlaneRole) :
    Except ControlPlaneError Unit :=
  if actor.role.rank < requiredRole.rank then .error (.forbidden actor.role requiredRole)
  else .ok ()

/-- The decision of `requireProfile`. -/
def known (requiredRole : ControlPlaneRole) (profileId : String) (actor : ActorContext) :
    Except ControlPlaneError StoredProfile :=
  match authorized actor requiredRole with
  | .error error => .error error
  | .ok _ =>
    match service.getById profileId with
    | none => .error (.notFound profileId)
    | some profile => .ok profile

/-- The decision of `requireOwnProfile`. -/
def owned (profileId : String) (actor : ActorContext) : Except ControlPlaneError StoredProfile :=
  match service.known .tenantAdmin profileId actor with
  | .error error => .error error
  | .ok profile =>
    if profile.tenantId ≠ actor.tenantId ∧ actor.role ≠ .platformAdmin then .error .accessDenied
    else .ok profile

variable {service}

variable {profileId : String} {actor : ActorContext} {profile : StoredProfile}

theorem known_eq_ok_iff {requiredRole : ControlPlaneRole} :
    service.known requiredRole profileId actor = .ok profile ↔
      requiredRole.rank ≤ actor.role.rank ∧ service.getById profileId = some profile := by
  unfold known authorized
  by_cases low : actor.role.rank < requiredRole.rank
  · simp [low, Nat.not_le.mpr low]
  · simp only [if_neg low, Nat.not_lt.mp low, true_and]
    cases service.getById profileId <;> simp

theorem owned_eq_ok_iff : service.owned profileId actor = .ok profile ↔
      service.known .tenantAdmin profileId actor = .ok profile ∧
        (profile.tenantId = actor.tenantId ∨ actor.role = .platformAdmin) := by
  unfold owned
  cases service.known .tenantAdmin profileId actor with
  | error error => simp
  | ok found =>
    simp only [Except.ok.injEq]
    by_cases foreign : found.tenantId ≠ actor.tenantId ∧ actor.role ≠ .platformAdmin
    · simp only [if_pos foreign, reduceCtorEq, false_iff, not_and]
      rintro rfl
      tauto
    · simp only [if_neg foreign, Except.ok.injEq]
      constructor
      · rintro rfl
        exact ⟨rfl, by tauto⟩
      · exact fun ⟨same, _⟩ => same

theorem getById_of_known {requiredRole : ControlPlaneRole}
    (decided : service.known requiredRole profileId actor = .ok profile) :
    service.getById profileId = some profile :=
  (known_eq_ok_iff.mp decided).2

theorem getById_of_owned (decided : service.owned profileId actor = .ok profile) :
    service.getById profileId = some profile :=
  getById_of_known (owned_eq_ok_iff.mp decided).1

end ControlPlane

namespace ControlPlaneService

open ControlPlane

variable {service : ControlPlane} (library : SchemaLibrary) (profileId : String)
  (actor : ActorContext) (draws : Draws) (latencyMs : Int)

@[simp] theorem run_assertAuthorized (requiredRole : ControlPlaneRole) :
    (assertAuthorized actor requiredRole).run service =
      (service, authorized actor requiredRole) := by
  unfold assertAuthorized authorized
  by_cases low : actor.role.rank < requiredRole.rank <;> simp [low]

@[simp] theorem run_emitAudit (action : AuditAction) (details : AuditDetails) :
    (emitAudit actor action profileId details draws).run service =
      (service.record actor action profileId details draws, .ok ()) := rfl

@[simp] theorem run_requireProfile (requiredRole : ControlPlaneRole) :
    (requireProfile requiredRole profileId actor).run service =
      (service, service.known requiredRole profileId actor) := by
  simp only [requireProfile, known, getById, run_bind, run_assertAuthorized, run_reads]
  cases authorized actor requiredRole with
  | error error => rfl
  | ok _ => cases found : service.store.getById profileId <;> simp [found]

@[simp] theorem run_requireOwnProfile : (requireOwnProfile profileId actor).run service =
      (service, service.owned profileId actor) := by
  simp only [requireOwnProfile, owned, run_bind, run_requireProfile]
  cases service.known .tenantAdmin profileId actor with
  | error error => rfl
  | ok profile =>
    by_cases foreign : profile.tenantId ≠ actor.tenantId ∧ actor.role ≠ .platformAdmin
    · simp [if_pos foreign, run_bind]
    · simp [if_neg foreign]

variable {profileId}

variable {profile : StoredProfile}

theorem run_setStatus (found : service.getById profileId = some profile) (status : ProfileStatus)
    (now : String) : (onStore profileId (·.setStatus profileId status now)).run service =
      (service.setStatus profileId status now, .ok (profile.withStatus status now)) := by
  have stored : service.store.getById profileId = some profile := found
  simp [onStore, run_bind, TenantConfigStore.setStatus, stored, setStatus]

theorem run_setPreflightResult (found : service.getById profileId = some profile)
    (result : PreflightResult) (now : String) :
    (onStore profileId (·.setPreflightResult profileId result now)).run service =
      (service.setPreflightResult profileId result now,
        .ok (profile.withPreflight result now)) := by
  have stored : service.store.getById profileId = some profile := found
  simp [onStore, run_bind, TenantConfigStore.setPreflightResult, stored, setPreflightResult]

variable (profileId)

/-- The decision of `createProfile`: the profile it stores. -/
def created (library : SchemaLibrary) (input : DatastoreProfileCreateInput) (actor : ActorContext)
    (draws : Draws) : Except ControlPlaneError StoredProfile :=
  match authorized actor .tenantAdmin with
  | .error error => .error error
  | .ok _ =>
    if actor.tenantId ≠ input.tenantId ∧ actor.role ≠ .platformAdmin then .error .otherTenant
    else if createSchemaAccepts library input then
      .ok (TenantConfigStore.draft input actor.actorId draws)
    else .error (.invalidConfig (TenantConfigStore.invalidConfig library input))

theorem created_eq_ok_iff {library : SchemaLibrary} {input : DatastoreProfileCreateInput}
    {actor : ActorContext} {draws : Draws} : created library input actor draws = .ok profile ↔
      profile = TenantConfigStore.draft input actor.actorId draws ∧
        ControlPlaneRole.tenantAdmin.rank ≤ actor.role.rank ∧
        (actor.tenantId = input.tenantId ∨ actor.role = .platformAdmin) ∧
        createSchemaAccepts library input = true := by
  unfold created authorized
  by_cases low : actor.role.rank < ControlPlaneRole.tenantAdmin.rank
  · simp [low, Nat.not_le.mpr low]
  · simp only [if_neg low]
    by_cases foreign : actor.tenantId ≠ input.tenantId ∧ actor.role ≠ .platformAdmin
    · simp only [if_pos foreign, reduceCtorEq, false_iff]
      tauto
    · by_cases accepted : createSchemaAccepts library input = true
      · simp only [if_neg foreign, accepted, if_true, Except.ok.injEq, and_true]
        have own : actor.tenantId = input.tenantId ∨ actor.role = .platformAdmin := by tauto
        exact ⟨fun same => ⟨same.symm, Nat.not_lt.mp low, own⟩, fun decided => decided.1.symm⟩
      · simp [foreign, accepted]

theorem run_createProfile (input : DatastoreProfileCreateInput) :
    (createProfile library input actor draws).run service =
      match created library input actor draws with
      | .error error => (service, .error error)
      | .ok profile => ((service.insert profile).record actor .profileCreate profile.id
          (.provider profile.provider) (draws.drop 1 1), .ok profile) := by
  simp only [createProfile, created, run_bind, run_assertAuthorized]
  cases authorized actor .tenantAdmin with
  | error error => rfl
  | ok _ =>
    by_cases foreign : actor.tenantId ≠ input.tenantId ∧ actor.role ≠ .platformAdmin
    · simp [if_pos foreign, run_bind]
    · by_cases accepted : createSchemaAccepts library input = true
      · simp [foreign, accepted, TenantConfigStore.create, run_bind, ControlPlane.insert]
      · simp [foreign, accepted, TenantConfigStore.create, run_bind]

/-- The decision of `getProfile`. -/
def looked (service : ControlPlane) (profileId : String) (actor : ActorContext) :
    Except ControlPlaneError (Option StoredProfile) :=
  match service.getById profileId with
  | none => .ok none
  | some profile =>
    if profile.tenantId ≠ actor.tenantId ∧ actor.role ≠ .platformAdmin then .error .accessDenied
    else .ok (some profile)

theorem authorized_viewer : authorized actor .viewer = .ok () := by
  cases actor with
  | mk actorId tenantId role => cases role <;> rfl

theorem run_getProfile :
    (getProfile profileId actor).run service = (service, looked service profileId actor) := by
  simp only [getProfile, looked, getById, run_bind, run_assertAuthorized, authorized_viewer,
    run_reads]
  cases service.store.getById profileId with
  | none => rfl
  | some profile =>
    by_cases foreign : profile.tenantId ≠ actor.tenantId ∧ actor.role ≠ .platformAdmin
    · simp [if_pos foreign, run_bind]
    · simp [if_neg foreign]

theorem run_listProfiles : (listProfiles actor).run service =
      (service, .ok (if actor.role = .platformAdmin then service.store.listAll
        else service.store.getByTenant actor.tenantId)) := by
  simp only [listProfiles, run_bind, run_assertAuthorized, authorized_viewer]
  by_cases admin : actor.role = .platformAdmin <;> simp [admin]

theorem run_deactivateProfile : (deactivateProfile profileId actor draws).run service =
      match service.owned profileId actor with
      | .error error => (service, .error error)
      | .ok profile =>
        ((service.setStatus profileId .inactive (draws.now 0)).record actor .profileDeactivate
          profileId .empty (draws.drop 0 1), .ok (profile.withStatus .inactive (draws.now 0))) := by
  simp only [deactivateProfile, run_bind, run_requireOwnProfile]
  cases decided : service.owned profileId actor with
  | error error => rfl
  | ok profile => simp [run_setStatus (getById_of_owned decided)]

theorem run_deleteProfile : (deleteProfile profileId actor draws).run service =
      match service.owned profileId actor with
      | .error error => (service, .error error)
      | .ok profile =>
        if profile.status = .active then (service, .error .activeProfile)
        else ((service.delete profileId).record actor .profileDelete profileId .empty draws,
          .ok ()) := by
  simp only [deleteProfile, run_bind, run_requireOwnProfile]
  cases service.owned profileId actor with
  | error error => rfl
  | ok profile =>
    by_cases active : profile.status = .active
    · simp [active, run_bind]
    · simp [active, run_bind, delete]

/-- The findings of `runPreflight` on a profile. -/
def findings (service : ControlPlane) (profile : StoredProfile) (draws : Draws)
    (latencyMs : Int) : PreflightResult :=
  preflight profile (service.getByProfile profile.id) (draws.now 1) latencyMs

/-- The service with the findings of a preflight written down. -/
def checked (service : ControlPlane) (profileId : String) (result : PreflightResult)
    (draws : Draws) : ControlPlane :=
  let noted := (service.setStatus profileId .validating (draws.now 0)).setPreflightResult profileId
    result (draws.now 2)
  if result.passed then noted else noted.setStatus profileId .failed (draws.now 3)

theorem auditEvents_checked (result : PreflightResult) :
    (checked service profileId result draws).auditEvents = service.auditEvents := by
  unfold checked
  cases result.passed <;> rfl

theorem run_runPreflight : (runPreflight profileId actor draws latencyMs).run service =
      match service.known .tenantAdmin profileId actor with
      | .error error => (service, .error error)
      | .ok profile =>
        let result := findings service profile draws latencyMs
        ((checked service profileId result draws).record actor .preflightRun profileId
          (.preflight result.passed result.errors) (draws.drop 0 4), .ok result) := by
  simp only [runPreflight, run_bind, run_requireProfile]
  cases decided : service.known .tenantAdmin profileId actor with
  | error error => rfl
  | ok profile =>
    have found := getById_of_known decided
    have named : profile.id = profileId := TenantConfigStore.id_of_getById found
    have credential : (service.setStatus profileId .validating (draws.now 0)).getByProfile
        profileId = service.getByProfile profile.id := by rw [named]; rfl
    have validating : (service.setStatus profileId .validating (draws.now 0)).getById profileId =
        some (profile.withStatus .validating (draws.now 0)) := by simp [found]
    simp only [run_setStatus found, run_reads, credential, run_setPreflightResult validating]
    unfold checked findings
    cases passed : (preflight profile (service.getByProfile profile.id) (draws.now 1)
      latencyMs).passed with
    | true => simp [run_bind]
    | false =>
      have noted : ((service.setStatus profileId .validating (draws.now 0)).setPreflightResult
          profileId (preflight profile (service.getByProfile profile.id) (draws.now 1) latencyMs)
          (draws.now 2)).getById profileId = some ((profile.withStatus .validating
            (draws.now 0)).withPreflight (preflight profile (service.getByProfile profile.id)
              (draws.now 1) latencyMs) (draws.now 2)) := by simp [found]
      simp [run_bind, run_setStatus noted]

/-- The other profile that is active for the same tenant and project. -/
def competitor (service : ControlPlane) (profile : StoredProfile) : Option StoredProfile :=
  (service.store.getActive profile.tenantId profile.projectId).filter (·.id ≠ profile.id)

/-- The service with the competitor of a profile taken out of service. -/
def retired (service : ControlPlane) (profile : StoredProfile) (actor : ActorContext)
    (draws : Draws) : ControlPlane :=
  match competitor service profile with
  | none => service
  | some existing =>
    (service.setStatus existing.id .inactive (draws.now 0)).record actor .profileAutoDeactivate
      existing.id (.reason ("Replaced by " ++ profile.id)) (draws.drop 0 1)

/-- The service with a profile in service, and its competitor not. -/
def activated (service : ControlPlane) (profile : StoredProfile) (actor : ActorContext)
    (draws : Draws) : ControlPlane :=
  ((retired service profile actor draws).setStatus profile.id .active (draws.now 2)).setRoute
    (profile.withStatus .active (draws.now 2))

theorem competitor_spec {existing : StoredProfile}
    (found : competitor service profile = some existing) :
    service.getById existing.id = some existing ∧ existing.status = .active ∧
      existing.tenantId = profile.tenantId ∧
      present existing.projectId = present profile.projectId ∧ existing.id ≠ profile.id := by
  obtain ⟨first, different⟩ := Option.filter_eq_some_iff.mp found
  obtain ⟨stored, active, tenant, project⟩ := TenantConfigStore.getActive_spec first
  exact ⟨stored, active, tenant, project, by simpa using different⟩

theorem getById_retired (profile : StoredProfile) (id : String) :
    (retired service profile actor draws).getById id =
      match competitor service profile with
      | none => service.getById id
      | some existing =>
        if existing.id = id then some (existing.withStatus .inactive (draws.now 0))
        else service.getById id := by
  unfold retired
  cases found : competitor service profile with
  | none => rfl
  | some existing =>
    have stored := (competitor_spec found).1
    by_cases same : existing.id = id
    · subst same
      simp [stored]
    · simp [same]

theorem getById_retired_self (found : service.getById profileId = some profile) :
    (retired service profile actor draws).getById profileId = some profile := by
  rw [getById_retired]
  cases there : competitor service profile with
  | none => exact found
  | some existing =>
    have different : existing.id ≠ profileId :=
      TenantConfigStore.id_of_getById found ▸ (competitor_spec there).2.2.2.2
    simp [if_neg different, found]

theorem run_retireExisting (found : service.getById profileId = some profile) :
    (retireExisting profile profileId actor draws).run service =
      (retired service profile actor draws, .ok ()) := by
  have named : profile.id = profileId := TenantConfigStore.id_of_getById found
  subst named
  simp only [retireExisting, run_bind, run_reads, retired, competitor]
  cases first : service.store.getActive profile.tenantId profile.projectId with
  | none => rfl
  | some existing =>
    by_cases different : existing.id ≠ profile.id
    · have stored := (TenantConfigStore.getActive_spec first).1
      simp [different, run_bind, run_setStatus stored, Option.filter]
    · simp [different, Option.filter]

theorem run_activateProfile : (activateProfile profileId actor draws).run service =
      match service.owned profileId actor with
      | .error error => (service, .error error)
      | .ok profile =>
        if hasPassed profile then
          ((activated service profile actor draws).record actor .profileActivate profileId
            (.provider profile.provider) (draws.drop 2 3),
            .ok (profile.withStatus .active (draws.now 2)))
        else
          (service,
            .error (.preflightFailed profileId ["Preflight validation has not passed"])) := by
  simp only [activateProfile, run_bind, run_requireOwnProfile]
  cases decided : service.owned profileId actor with
  | error error => rfl
  | ok profile =>
    have found := getById_of_owned decided
    have named : profile.id = profileId := TenantConfigStore.id_of_getById found
    subst named
    by_cases passed : hasPassed profile = true
    · simp only [passed, Bool.not_true, Bool.false_eq_true, if_false, if_true, run_bind,
        run_retireExisting profile.id actor draws found,
        run_setStatus (getById_retired_self profile.id actor draws found)]
      rfl
    · simp [passed, run_bind]

theorem run_testConnection : (testConnection profileId actor draws latencyMs).run service =
      match service.known .viewer profileId actor with
      | .error error => (service, .error error)
      | .ok profile => (service.record actor .connectionTest profileId
          (.connection (reachable profile) latencyMs) draws,
          .ok (reachable profile, latencyMs)) := by
  simp only [testConnection, run_bind, run_requireProfile]
  cases service.known .viewer profileId actor <;> rfl

end ControlPlaneService

end Caas.Datastore
