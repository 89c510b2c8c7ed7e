import Caas.Datastore.ControlPlaneMethods

/-!
# The life of a datastore profile

`Step` lists what one input can do to the control plane, and every property of runs is
a case analysis over it. At most one profile of a tenant and project is active, since
activation retires the one it finds and nothing else makes a profile active. A serving
profile is taken out of service by three methods, and one of them is the preflight.
-/

namespace Caas.Datastore

open Js

namespace ControlPlaneService

open ControlPlane

variable (library : SchemaLibrary)

/-- What an input did, with the decision behind it. -/
inductive Step (service : ControlPlane) : Input → ControlPlane → Prop
  /-- A refusal or a mere reading. -/
  | kept (call : Call) : Step service (.call call) service
  | created {call : Call} {input : DatastoreProfileCreateInput} {profile : StoredProfile}
      (request : call.request = .createProfile input)
      (decided : created library input call.actor call.draws = .ok profile) :
      Step service (.call call) ((service.insert profile).record call.actor .profileCreate
        profile.id (.provider profile.provider) (call.draws.drop 1 1))
  | deactivated {call : Call} {profileId : String} {profile : StoredProfile}
      (request : call.request = .deactivateProfile profileId)
      (decided : service.owned profileId call.actor = .ok profile) :
      Step service (.call call) ((service.setStatus profileId .inactive (call.draws.now 0)).record
        call.actor .profileDeactivate profileId .empty (call.draws.drop 0 1))
  | deleted {call : Call} {profileId : String} {profile : StoredProfile}
      (request : call.request = .deleteProfile profileId)
      (decided : service.owned profileId call.actor = .ok profile)
      (idle : profile.status ≠ .active) :
      Step service (.call call) ((service.delete profileId).record call.actor .profileDelete
        profileId .empty call.draws)
  | checked {call : Call} {profileId : String} {profile : StoredProfile}
      (request : call.request = .runPreflight profileId)
      (decided : service.known .tenantAdmin profileId call.actor = .ok profile) :
      Step service (.call call)
        ((checked service profileId (findings service profile call.draws call.latencyMs)
          call.draws).record call.actor .preflightRun profileId
          (.preflight (findings service profile call.draws call.latencyMs).passed
            (findings service profile call.draws call.latencyMs).errors) (call.draws.drop 0 4))
  | activated {call : Call} {profileId : String} {profile : StoredProfile}
      (request : call.request = .activateProfile profileId)
      (decided : service.owned profileId call.actor = .ok profile)
      (passed : hasPassed profile = true) :
      Step service (.call call) ((activated service profile call.actor call.draws).record
        call.actor .profileActivate profileId (.provider profile.provider) (call.draws.drop 2 3))
  | tested {call : Call} {profileId : String} {profile : StoredProfile}
      (request : call.request = .testConnection profileId)
      (decided : service.known .viewer profileId call.actor = .ok profile) :
      Step service (.call call) (service.record call.actor .connectionTest profileId
        (.connection (reachable profile) call.latencyMs) call.draws)
  /-- A change of the credentials. -/
  | credentials {input : Input} (store : OrderedMap String CredentialRecord)
      (silent : ∀ call, input ≠ .call call) :
      Step service input { service with credentials := store }

open Throwing

theorem step_cases (service : ControlPlane) (input : Input) :
    Step library service input ((machine library).step service input).1 := by
  cases input with
  | storeCredential | revokeCredential => exact .credentials _ fun _ same => nomatch same
  | call call =>
    change Step library service (.call call) ((perform library call).run service).1
    unfold perform
    cases request : call.request with
    | createProfile input =>
      simp only [run_wrapped, run_createProfile]
      cases decided : created library input call.actor call.draws with
      | error error => exact .kept call
      | ok profile => exact .created request decided
    | getProfile profileId =>
      simp only [run_wrapped, run_getProfile]
      exact .kept call
    | listProfiles =>
      simp only [run_wrapped, run_listProfiles]
      exact .kept call
    | deactivateProfile profileId =>
      simp only [run_wrapped, run_deactivateProfile]
      cases decided : service.owned profileId call.actor with
      | error error => exact .kept call
      | ok profile => exact .deactivated request decided
    | deleteProfile profileId =>
      simp only [run_bind, run_deleteProfile]
      cases decided : service.owned profileId call.actor with
      | error error => exact .kept call
      | ok profile =>
        by_cases active : profile.status = .active
        · simp only [if_pos active]
          exact .kept call
        · simp only [if_neg active]
          exact .deleted request decided active
    | runPreflight profileId =>
      simp only [run_wrapped, run_runPreflight]
      cases decided : service.known .tenantAdmin profileId call.actor with
      | error error => exact .kept call
      | ok profile => exact .checked request decided
    | activateProfile profileId =>
      simp only [run_wrapped, run_activateProfile]
      cases decided : service.owned profileId call.actor with
      | error error => exact .kept call
      | ok profile =>
        by_cases passed : hasPassed profile = true
        · simp only [if_pos passed]
          exact .activated request decided passed
        · simp only [if_neg passed]
          exact .kept call
    | testConnection profileId =>
      simp only [run_bind, run_testConnection]
      cases decided : service.known .viewer profileId call.actor with
      | error error => exact .kept call
      | ok profile => exact .tested request decided

section After

variable {library} {service : ControlPlane} {call : Call} {profileId : String}
  {profile : StoredProfile}

theorem after_created {input : DatastoreProfileCreateInput}
    (request : call.request = .createProfile input)
    (decided : created library input call.actor call.draws = .ok profile) :
    ((machine library).step service (.call call)).1 =
      (service.insert profile).record call.actor .profileCreate profile.id
        (.provider profile.provider) (call.draws.drop 1 1) := by
  change ((perform library call).run service).1 = _
  unfold perform
  rw [request]
  simp [run_wrapped, run_createProfile, decided]

theorem after_deactivated (request : call.request = .deactivateProfile profileId)
    (decided : service.owned profileId call.actor = .ok profile) :
    ((machine library).step service (.call call)).1 =
      (service.setStatus profileId .inactive (call.draws.now 0)).record call.actor
        .profileDeactivate profileId .empty (call.draws.drop 0 1) := by
  change ((perform library call).run service).1 = _
  unfold perform
  rw [request]
  simp [run_wrapped, run_deactivateProfile, decided]

theorem after_deleted (request : call.request = .deleteProfile profileId)
    (decided : service.owned profileId call.actor = .ok profile) (idle : profile.status ≠ .active) :
    ((machine library).step service (.call call)).1 =
      (service.delete profileId).record call.actor .profileDelete profileId .empty
        call.draws := by
  change ((perform library call).run service).1 = _
  unfold perform
  rw [request]
  simp [run_bind, run_deleteProfile, decided, if_neg idle]

theorem after_checked (request : call.request = .runPreflight profileId)
    (decided : service.known .tenantAdmin profileId call.actor = .ok profile) :
    ((machine library).step service (.call call)).1 =
      (checked service profileId (findings service profile call.draws call.latencyMs)
        call.draws).record call.actor .preflightRun profileId
        (.preflight (findings service profile call.draws call.latencyMs).passed
          (findings service profile call.draws call.latencyMs).errors) (call.draws.drop 0 4) := by
  change ((perform library call).run service).1 = _
  unfold perform
  rw [request]
  simp [run_wrapped, run_runPreflight, decided]

theorem after_activated (request : call.request = .activateProfile profileId)
    (decided : service.owned profileId call.actor = .ok profile)
    (passed : hasPassed profile = true) : ((machine library).step service (.call call)).1 =
      (activated service profile call.actor call.draws).record call.actor .profileActivate
        profileId (.provider profile.provider) (call.draws.drop 2 3) := by
  change ((perform library call).run service).1 = _
  unfold perform
  rw [request]
  simp [run_wrapped, run_activateProfile, decided, if_pos passed]

end After

section Replacement

/-- One profile is replaced, or removed, and the others stay as they are. -/
def Replaces (service after : ControlPlane) (id : String) (replacement : Option StoredProfile) :
    Prop :=
  ∀ other, after.getById other = if id = other then replacement else service.getById other

def afterPreflight (profile : StoredProfile) (result : PreflightResult) (draws : Draws) :
    StoredProfile :=
  let noted := (profile.withStatus .validating (draws.now 0)).withPreflight result (draws.now 2)
  if result.passed then noted else noted.withStatus .failed (draws.now 3)

def preflightStatus (passed : Bool) : ProfileStatus := if passed then .validating else .failed

theorem status_afterPreflight (profile : StoredProfile) (result : PreflightResult) (draws : Draws) :
    (afterPreflight profile result draws).status = preflightStatus result.passed := by
  unfold afterPreflight preflightStatus
  cases result.passed <;> rfl

theorem preflightStatus_ne_active (passed : Bool) : preflightStatus passed ≠ .active := by
  cases passed <;> decide

theorem draft_ne_active : ProfileStatus.draft ≠ .active := by decide

theorem inactive_ne_active : ProfileStatus.inactive ≠ .active := by decide

theorem afterPreflight_slot (profile : StoredProfile) (result : PreflightResult) (draws : Draws) :
    (afterPreflight profile result draws).id = profile.id ∧
      (afterPreflight profile result draws).tenantId = profile.tenantId ∧
      (afterPreflight profile result draws).projectId = profile.projectId := by
  unfold afterPreflight
  cases result.passed <;> exact ⟨rfl, rfl, rfl⟩

variable {service : ControlPlane} {profileId : String} {profile : StoredProfile}
  (actor : ActorContext) (draws : Draws)

theorem tenantId_of_getById {owner : String} (found : service.getById profileId = some profile)
    (own : profile.tenantId = owner) :
    ∀ stored, service.getById profileId = some stored → stored.tenantId = owner := by
  intro stored same
  rw [found, Option.some.injEq] at same
  exact same ▸ own

theorem replaces_self (found : service.getById profileId = some profile) :
    Replaces service service profileId (some profile) := fun other => by
  split
  · rename_i same
    rw [← same, found]
  · rfl

theorem replaces_insert (profile : StoredProfile) :
    Replaces service (service.insert profile) profile.id (some profile) := fun other => by
  rw [getById_insert]

theorem replaces_setStatus (found : service.getById profileId = some profile)
    (status : ProfileStatus) (now : String) :
    Replaces service (service.setStatus profileId status now) profileId
      (some (profile.withStatus status now)) := fun other => by
  rw [getById_setStatus]
  by_cases same : profileId = other
  · subst same
    simp [found]
  · simp [same]

theorem replaces_delete (profileId : String) :
    Replaces service (service.delete profileId) profileId none := fun other => by
  rw [getById_delete]

theorem replaces_checked (found : service.getById profileId = some profile)
    (result : PreflightResult) : Replaces service (checked service profileId result draws) profileId
      (some (afterPreflight profile result draws)) := fun other => by
  unfold checked afterPreflight
  by_cases same : profileId = other
  · subst same
    cases result.passed <;> simp [found]
  · cases result.passed <;> simp [same]

theorem replaces_retired {existing : StoredProfile}
    (there : competitor service profile = some existing) :
    Replaces service (retired service profile actor draws) existing.id
      (some (existing.withStatus .inactive (draws.now 0))) := fun other => by
  rw [getById_retired, there]

theorem replaces_activated (found : service.getById profile.id = some profile) :
    Replaces (retired service profile actor draws) (activated service profile actor draws)
      profile.id (some (profile.withStatus .active (draws.now 2))) := fun other => by
  unfold activated
  rw [getById_setRoute]
  exact replaces_setStatus (getById_retired_self profile.id actor draws found) .active _ other

end Replacement

section Uniqueness

/-- At most one profile of a tenant and project is active; an empty project id is none. -/
def SoleActive (service : ControlPlane) : Prop :=
  ∀ profile other, service.getById profile.id = some profile →
    service.getById other.id = some other → profile.status = .active → other.status = .active →
    profile.tenantId = other.tenantId → present profile.projectId = present other.projectId →
    profile.id = other.id

/-- Every active profile was there before, as it is. -/
def ActiveKept (service after : ControlPlane) : Prop :=
  ∀ profile, after.getById profile.id = some profile → profile.status = .active →
    service.getById profile.id = some profile

variable {service after : ControlPlane} {id : String} {profile : StoredProfile}
  {replacement : Option StoredProfile}

theorem SoleActive.of_activeKept (sole : SoleActive service) (kept : ActiveKept service after) :
    SoleActive after := fun profile other here there active active' =>
  sole profile other (kept profile here active) (kept other there active') active active'

theorem Replaces.activeKept (replaces : Replaces service after id replacement)
    (calm : ∀ profile, replacement = some profile → profile.status ≠ .active) :
    ActiveKept service after := by
  intro profile stored active
  rw [replaces] at stored
  split at stored
  · exact absurd active (calm profile stored)
  · exact stored

theorem activeKept_setStatus (found : service.getById id = some profile) {status : ProfileStatus}
    (calm : status ≠ .active) (now : String) :
    ActiveKept service (service.setStatus id status now) := by
  refine (replaces_setStatus found status now).activeKept fun edited same => ?_
  cases same
  exact calm

theorem activeKept_retired (profile : StoredProfile) (actor : ActorContext) (draws : Draws) :
    ActiveKept service (retired service profile actor draws) := by
  cases there : competitor service profile with
  | none =>
    intro other stored _
    rwa [getById_retired, there] at stored
  | some existing =>
    refine (replaces_retired actor draws there).activeKept fun edited same => ?_
    cases same
    exact inactive_ne_active

theorem not_active_of_retired (sole : SoleActive service) (actor : ActorContext) (draws : Draws)
    {other : StoredProfile}
    (stored : (retired service profile actor draws).getById other.id = some other)
    (tenant : other.tenantId = profile.tenantId)
    (project : present other.projectId = present profile.projectId)
    (different : other.id ≠ profile.id) : other.status ≠ .active := by
  intro active
  have before : service.getById other.id = some other :=
    activeKept_retired profile actor draws other stored active
  obtain ⟨first, found⟩ := Option.ne_none_iff_exists'.mp
    (TenantConfigStore.getActive_ne_none before active project)
  rw [tenant] at found
  obtain ⟨firstStored, firstActive, firstTenant, firstProject⟩ :=
    TenantConfigStore.getActive_spec found
  have same : first.id = other.id := sole first other firstStored before firstActive active
    (firstTenant.trans tenant.symm) (firstProject.trans project.symm)
  have there : competitor service profile = some first := by
    simp [competitor, found, same, different, Option.filter]
  rw [getById_retired, there] at stored
  simp only [if_pos same, Option.some.injEq] at stored
  rw [← stored] at active
  cases active

theorem SoleActive.activated (sole : SoleActive service)
    (found : service.getById profile.id = some profile) (actor : ActorContext) (draws : Draws) :
    SoleActive (activated service profile actor draws) := by
  have calm : SoleActive (retired service profile actor draws) :=
    sole.of_activeKept (activeKept_retired profile actor draws)
  have shows := replaces_activated actor draws found
  -- The activated profile meets no other one, and two others meet as before.
  have alone : ∀ other, (ControlPlaneService.activated service profile actor draws).getById
      other.id = some other → other.status = .active → other.tenantId = profile.tenantId →
      present other.projectId = present profile.projectId → other.id = profile.id := by
    intro other stored active tenant project
    by_contra different
    rw [shows, if_neg (Ne.symm different)] at stored
    exact not_active_of_retired sole actor draws stored tenant project different active
  intro left right here there active active' tenant project
  by_cases atLeft : profile.id = left.id
  · rw [shows, if_pos atLeft, Option.some.injEq] at here
    subst here
    exact (alone right there active' tenant.symm project.symm).symm
  · by_cases atRight : profile.id = right.id
    · rw [shows, if_pos atRight, Option.some.injEq] at there
      subst there
      exact alone left here active tenant project
    · rw [shows, if_neg atLeft] at here
      rw [shows, if_neg atRight] at there
      exact calm left right here there active active' tenant project

theorem SoleActive.step (sole : SoleActive service) {input : Input}
    (taken : Step library service input after) : SoleActive after := by
  cases taken with
  | kept | tested | credentials => exact sole
  | created request decided =>
    obtain ⟨rfl, _⟩ := created_eq_ok_iff.mp decided
    refine sole.of_activeKept ((replaces_insert _).activeKept fun edited same => ?_)
    cases same
    exact draft_ne_active
  | deactivated request decided =>
    have kept := activeKept_setStatus (getById_of_owned decided) inactive_ne_active
    exact sole.of_activeKept (kept _)
  | deleted request decided idle =>
    exact sole.of_activeKept ((replaces_delete _).activeKept fun _ same => nomatch same)
  | checked request decided =>
    refine sole.of_activeKept ((replaces_checked _ (getById_of_known decided) _).activeKept ?_)
    intro edited same
    cases same
    rw [status_afterPreflight]
    exact preflightStatus_ne_active _
  | activated request decided passed =>
    have found := getById_of_owned decided
    have named := TenantConfigStore.id_of_getById found
    subst named
    exact sole.activated found _ _

/-- After every run from empty stores, by any actors, at most one profile is active for
each tenant and project, the absent and the empty project id being one. -/
theorem active_profile_unique (inputs : List Input) :
    SoleActive ((machine library).run ControlPlane.empty inputs) := by
  have admits : (machine library).Admits (fun _ _ => True) ControlPlane.empty inputs :=
    Transducer.admits_of_forall (fun _ _ => trivial) _ _
  refine admits.invariant (fun service input sole _ => ?_) fun profile _ stored => nomatch stored
  exact sole.step library (step_cases library service input)

end Uniqueness

section Service

/-- The ids drawn for new profiles are not in use. -/
def FreshIds (service : ControlPlane) : Input → Prop
  | .call call => ∀ input, call.request = .createProfile input →
      service.getById (call.draws.uuid 0) = none
  | _ => True

/-- Inputs that may take a profile out of service: its deactivation, and the activation
of another profile of the same tenant and project. -/
def MayRetire (service : ControlPlane) (profile : StoredProfile) : Input → Prop
  | .call call =>
    call.request = .deactivateProfile profile.id ∨
      ∃ other, call.request = .activateProfile other.id ∧
        service.getById other.id = some other ∧ other.id ≠ profile.id ∧
        other.tenantId = profile.tenantId ∧ present other.projectId = present profile.projectId
  | _ => False

/-- Active profiles stay active over the step, but for inputs that may retire them. -/
def StaysActive (service : ControlPlane) (input : Input) : Prop :=
  ∀ profile, service.getById profile.id = some profile → profile.status = .active →
    ¬ MayRetire service profile input →
    ∃ later, ((machine library).step service input).1.getById profile.id = some later ∧
      later.status = .active

/-- The input is not an accepted preflight of an active profile. -/
def SparesActive (service : ControlPlane) : Input → Prop
  | .call call => ∀ profileId profile, call.request = .runPreflight profileId →
      service.known .tenantAdmin profileId call.actor = .ok profile → profile.status ≠ .active
  | _ => True

variable {library} {service after : ControlPlane} {input : Input} {profile : StoredProfile}

theorem Replaces.stays {id : String} {replacement : Option StoredProfile}
    (replaces : Replaces service after id replacement)
    (stored : service.getById profile.id = some profile) (active : profile.status = .active)
    (different : id ≠ profile.id) :
    ∃ later, after.getById profile.id = some later ∧ later.status = .active :=
  ⟨profile, by rw [replaces, if_neg different, stored], active⟩

theorem activated_stays {existing : StoredProfile} (actor : ActorContext) (draws : Draws)
    (found : service.getById existing.id = some existing)
    (stored : service.getById profile.id = some profile) (active : profile.status = .active)
    (spared : ∀ other, competitor service existing = some other → other.id ≠ profile.id) :
    ∃ later, (activated service existing actor draws).getById profile.id = some later ∧
      later.status = .active := by
  have shows := replaces_activated actor draws found
  by_cases same : existing.id = profile.id
  · refine ⟨existing.withStatus .active (draws.now 2), ?_, rfl⟩
    rw [shows, if_pos same]
  · refine shows.stays ?_ active same
    rw [getById_retired]
    cases there : competitor service existing with
    | none => exact stored
    | some other =>
      simp only [if_neg (spared other there)]
      exact stored

theorem staysActive_of_sparesActive (fresh : FreshIds service input)
    (spares : SparesActive service input) : StaysActive library service input := by
  intro profile stored active exempt
  have taken := step_cases library service input
  generalize ((machine library).step service input).1 = after at taken
  cases taken with
  | kept | tested | credentials => exact ⟨profile, stored, active⟩
  | created request decided =>
    obtain ⟨rfl, _⟩ := created_eq_ok_iff.mp decided
    refine (replaces_insert _).stays stored active fun same => ?_
    have absent : service.getById profile.id = none := by
      rw [← same]
      exact fresh _ request
    rw [stored] at absent
    cases absent
  | deactivated request decided =>
    refine (replaces_setStatus (getById_of_owned decided) _ _).stays stored active fun same => ?_
    exact exempt (.inl (same ▸ request))
  | @deleted call profileId found request decided idle =>
    refine (replaces_delete _).stays stored active fun same => ?_
    have there := getById_of_owned decided
    rw [same, stored, Option.some.injEq] at there
    exact idle (there ▸ active)
  | @checked call profileId found request decided =>
    refine (replaces_checked _ (getById_of_known decided) _).stays stored active fun same => ?_
    have there := getById_of_known decided
    rw [same, stored, Option.some.injEq] at there
    exact spares _ _ request decided (there ▸ active)
  | activated request decided passed =>
    have found := getById_of_owned decided
    have named := TenantConfigStore.id_of_getById found
    subst named
    refine activated_stays _ _ found stored active fun other there same => ?_
    obtain ⟨otherStored, _, tenant, project, different⟩ := competitor_spec there
    rw [same, stored, Option.some.injEq] at otherStored
    subst otherStored
    exact exempt (.inr ⟨_, request, found, different.symm, tenant.symm, project.symm⟩)

theorem sparesActive_of_staysActive (stays : StaysActive library service input) :
    SparesActive service input := by
  cases input with
  | storeCredential | revokeCredential => trivial
  | call call =>
    intro profileId profile request decided active
    have stored := getById_of_known decided
    have named := TenantConfigStore.id_of_getById stored
    subst named
    have exempt : ¬ MayRetire service profile (.call call) := by
      rintro (deactivates | ⟨other, activates, _⟩)
      · rw [request] at deactivates
        cases deactivates
      · rw [request] at activates
        cases activates
    obtain ⟨later, there, laterActive⟩ := stays profile stored active exempt
    rw [after_checked request decided, getById_record, replaces_checked _ stored, if_pos rfl,
      Option.some.injEq] at there
    subst there
    rw [status_afterPreflight] at laterActive
    exact preflightStatus_ne_active _ laterActive

/-- Over every run with fresh ids, active profiles stay active but for deactivation and
replacement exactly when no step is an accepted preflight of an active profile. -/
theorem active_profiles_stay_active_iff (library : SchemaLibrary) (inputs : List Input)
    (fresh : (machine library).Admits FreshIds ControlPlane.empty inputs) :
    (machine library).Admits (StaysActive library) ControlPlane.empty inputs ↔
      (machine library).Admits SparesActive ControlPlane.empty inputs :=
  Transducer.Admits.congr (fun _ _ (_ : True) _ => trivial)
    (fun _ _ _ fresh => ⟨sparesActive_of_staysActive, staysActive_of_sparesActive fresh⟩) fresh
    trivial

/-- A library that takes every text for a URL. -/
def sampleLibrary : SchemaLibrary := ⟨fun _ => true, fun _ => "rejected"⟩

def sampleInput (tenantId : String) (projectId : Option String) (provider : ProviderId) :
    DatastoreProfileCreateInput :=
  { tenantId, projectId, provider, region := "eu", endpoint := "https://db"
    authMode := .connectionString, encryptionMode := .providerManaged, allowedDomains := [.users] }

/-- A call whose draws are all `id`. -/
def sampleCall (request : Request) (actor : ActorContext) (id : String) : Input :=
  .call ⟨request, actor, ⟨fun _ => id, fun _ => "now"⟩, 0⟩

/-- The calls that put a new profile into service. -/
def bringUp (id : String) (input : DatastoreProfileCreateInput) (actor : ActorContext) :
    List Input :=
  [sampleCall (.createProfile input) actor id,
    .storeCredential id input.tenantId ⟨fun _ => id, fun _ => "now"⟩,
    sampleCall (.runPreflight id) actor id, sampleCall (.activateProfile id) actor id]

/-- An actor of tenant `t`. -/
def sampleAdmin : ActorContext := ⟨"admin", "t", .tenantAdmin⟩

/-- The administrator puts a profile into service, and another one in its place. -/
theorem active_profiles_stay_active_in_replacement :
    (machine sampleLibrary).Admits (StaysActive sampleLibrary) ControlPlane.empty
      (bringUp "p" (sampleInput "t" none .dynamodb) sampleAdmin ++
        bringUp "q" (sampleInput "t" (some "") .mongodb) sampleAdmin) := by
  refine (active_profiles_stay_active_iff sampleLibrary _ ?_).mpr ?_
  · refine ⟨fun _ _ => rfl, trivial, ?_, ?_, fun _ _ => rfl, trivial, ?_, ?_, trivial⟩ <;>
      exact fun input request => nomatch request
  · refine ⟨?_, trivial, ?_, ?_, ?_, trivial, ?_, ?_, trivial⟩ <;>
      intro profileId profile request decided active <;>
      cases request <;>
      cases decided <;>
      cases active

/-- The administrator checks the serving profile once more. -/
def recheck : List Input :=
  bringUp "p" (sampleInput "t" none .dynamodb) sampleAdmin ++
    [sampleCall (.runPreflight "p") sampleAdmin "q"]

/-- A passing preflight takes the serving profile out of service. -/
theorem preflight_retires_active :
    (machine sampleLibrary).Admits FreshIds ControlPlane.empty recheck ∧
      ¬ (machine sampleLibrary).Admits (StaysActive sampleLibrary) ControlPlane.empty recheck := by
  constructor
  · refine ⟨fun input _ => rfl, trivial, ?_, ?_, ?_, trivial⟩ <;>
      exact fun input request => nomatch request
  · rintro ⟨_, _, _, _, stays, _⟩
    exact sparesActive_of_staysActive stays "p" _ rfl rfl rfl

end Service

end ControlPlaneService

end Caas.Datastore
