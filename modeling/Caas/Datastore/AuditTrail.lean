import Caas.Datastore.ProfileLifecycle

/-!
# The audit trail

An auditor of a tenant replays the events that `getAuditEvents` returns for it. The
trail accounts for the tenant's profiles when the replay ends, at every moment, in the
status each of them has. Events are filed under the tenant of whoever acts, so the trail
of a tenant misses what others do to its profiles.
-/

namespace Caas.Datastore

open Js

/-- What an event tells about the status of its profile; `none` is no profile. -/
def DatastoreAuditEvent.effect (event : DatastoreAuditEvent) (status : Option ProfileStatus) :
    Option ProfileStatus :=
  match event.action, event.details with
  | .profileCreate, _ => some .draft
  | .profileDeactivate, _ => status.map fun _ => .inactive
  | .profileAutoDeactivate, _ => status.map fun _ => .inactive
  | .profileActivate, _ => status.map fun _ => .active
  | .profileDelete, _ => none
  | .preflightRun, .preflight passed _ =>
    status.map fun _ => ControlPlaneService.preflightStatus passed
  | .preflightRun, _ => status
  | .connectionTest, _ => status

/-- The status of a profile after the events about it. -/
def replay (events : List DatastoreAuditEvent) (id : String) : Option ProfileStatus :=
  events.foldl (fun status event => if event.resource = id then event.effect status else status)
    none

theorem replay_append_singleton (events : List DatastoreAuditEvent) (event : DatastoreAuditEvent)
    (id : String) : replay (events ++ [event]) id =
      if event.resource = id then event.effect (replay events id) else replay events id := by
  simp [replay, List.foldl_append]

theorem replay_append_of_foreign {events extra : List DatastoreAuditEvent} {id : String}
    (foreign : ∀ event ∈ extra, event.resource ≠ id) :
    replay (events ++ extra) id = replay events id := by
  unfold replay
  rw [List.foldl_append]
  generalize events.foldl _ none = status
  induction extra with
  | nil => rfl
  | cons event rest ih =>
    rw [List.foldl_cons, if_neg (foreign event List.mem_cons_self)]
    exact ih fun later member => foreign later (List.mem_cons_of_mem _ member)

namespace ControlPlane

variable (service : ControlPlane)

def tenantLog (tenantId : String) : List DatastoreAuditEvent :=
  service.auditEvents.filter fun event => event.tenantId = tenantId

theorem getAuditEvents_of_le {tenantId : String} (named : tenantId ≠ "") {limit : Int}
    (large : service.auditEvents.length ≤ limit) :
    service.getAuditEvents (some tenantId) limit = service.tenantLog tenantId := by
  have asked : present (some tenantId) = some tenantId := by simp [present, Option.filter, named]
  have shorter : (service.tenantLog tenantId).length ≤ service.auditEvents.length :=
    List.length_filter_le _ _
  unfold getAuditEvents
  rw [asked]
  change slice (service.tenantLog tenantId) (-limit) (service.tenantLog tenantId).length = _
  have whole : sliceIndex (service.tenantLog tenantId).length
      ((service.tenantLog tenantId).length : Int) = (service.tenantLog tenantId).length := by
    unfold sliceIndex
    rw [if_neg (by omega)]
    simp
  have start : sliceIndex (service.tenantLog tenantId).length (-limit) = 0 := by
    unfold sliceIndex
    split <;> omega
  rw [slice, whole, start, List.take_length, List.drop_zero]

/-- The status of the tenant's profile `id`, if the tenant has such a profile. -/
def statusFor (tenantId id : String) : Option ProfileStatus :=
  ((service.getById id).filter fun profile => profile.tenantId = tenantId).map (·.status)

/-- Replaying a tenant's events gives the status of every profile of the tenant, and no
other profile. -/
def Accounted : Prop :=
  ∀ (tenantId : String) (limit : Int) (id : String), tenantId ≠ "" →
    service.auditEvents.length ≤ limit →
    replay (service.getAuditEvents (some tenantId) limit) id = service.statusFor tenantId id

theorem accounted_iff : service.Accounted ↔ ∀ tenantId id, tenantId ≠ "" →
      replay (service.tenantLog tenantId) id = service.statusFor tenantId id := by
  constructor
  · intro accounted tenantId id named
    rw [← service.getAuditEvents_of_le named (Int.le_refl _)]
    exact accounted tenantId _ id named (Int.le_refl _)
  · intro replays tenantId limit id named large
    rw [service.getAuditEvents_of_le named large]
    exact replays tenantId id named

variable {service}

theorem tenantLog_record (tenantId : String) (actor : ActorContext) (action : AuditAction)
    (resource : String) (details : AuditDetails) (draws : Draws) :
    ∃ event : DatastoreAuditEvent, event.action = action ∧ event.resource = resource ∧
      event.details = details ∧
      (service.record actor action resource details draws).tenantLog tenantId =
        service.tenantLog tenantId ++ if actor.tenantId = tenantId then [event] else [] := by
  refine ⟨{ id := draws.uuid 0, timestamp := draws.now 0, tenantId := actor.tenantId
            actor := actor.actorId, action, resource, details, correlationId := draws.uuid 1
            outcome := .success }, rfl, rfl, rfl, ?_⟩
  unfold tenantLog record
  rw [List.filter_append]
  by_cases own : actor.tenantId = tenantId <;> simp [own]

end ControlPlane

namespace ControlPlaneService

open ControlPlane

section Filing

variable {service edited : ControlPlane} {id : String} {replacement : Option StoredProfile}
  (owner : String) (actor : ActorContext) (action : AuditAction)
  (details : AuditDetails) (draws : Draws)

theorem statusFor_of_owner {tenantId : String} (tenant : ∀ profile,
    service.getById id = some profile → profile.tenantId = owner) : service.statusFor tenantId id =
      if tenantId = owner then (service.getById id).map (·.status) else none := by
  unfold statusFor
  cases found : service.getById id with
  | none => simp
  | some profile =>
    have same := tenant profile found
    by_cases own : tenantId = owner
    · simp [Option.filter, same, own]
    · simp [Option.filter, same, own, Ne.symm own]

theorem Replaces.statusFor_of_ne (replaces : Replaces service edited id replacement)
    {other : String} (different : id ≠ other) (tenantId : String) :
    edited.statusFor tenantId other = service.statusFor tenantId other := by
  unfold statusFor
  rw [replaces, if_neg different]

/-- Replacing a profile of `owner` and filing it keeps the trail, if the owner's tenant
files it, or if there is nothing to tell. -/
theorem accounted_record (accounted : service.Accounted)
    (replaces : Replaces service edited id replacement)
    (log : edited.auditEvents = service.auditEvents)
    (before : ∀ profile, service.getById id = some profile → profile.tenantId = owner)
    (later : ∀ profile, replacement = some profile → profile.tenantId = owner)
    (tells : ∀ event : DatastoreAuditEvent, event.action = action → event.details = details →
      event.effect ((service.getById id).map (·.status)) = replacement.map (·.status))
    (filed : actor.tenantId = owner ∨
      ((service.getById id).map (·.status) = replacement.map (·.status) ∧
        ∀ event : DatastoreAuditEvent, event.action = action → event.details = details →
          event.effect none = none)) :
    (edited.record actor action id details draws).Accounted := by
  rw [accounted_iff] at accounted ⊢
  intro tenantId other named
  obtain ⟨event, acted, about, told, appended⟩ :=
    @tenantLog_record edited tenantId actor action id details draws
  have logs : edited.tenantLog tenantId = service.tenantLog tenantId := by
    unfold tenantLog
    rw [log]
  have known := accounted tenantId other named
  rw [appended, logs]
  change _ = edited.statusFor tenantId other
  by_cases elsewhere : id ≠ other
  · -- Another profile: neither the log about it nor its status changes.
    rw [replaces.statusFor_of_ne elsewhere, ← known]
    apply replay_append_of_foreign
    intro filedEvent member
    by_cases own : actor.tenantId = tenantId
    · rw [if_pos own, List.mem_singleton] at member
      rw [member, about]
      exact elsewhere
    · rw [if_neg own] at member
      cases member
  · have same : id = other := not_not.mp elsewhere
    subst same
    have after : edited.statusFor tenantId id =
        if tenantId = owner then replacement.map (·.status) else none := by
      have shown : edited.getById id = replacement := by rw [replaces, if_pos rfl]
      rw [statusFor_of_owner owner fun profile stored => later profile (shown ▸ stored), shown]
    rw [statusFor_of_owner owner before] at known
    rw [after]
    by_cases own : actor.tenantId = tenantId
    · rw [if_pos own, replay_append_singleton, if_pos about, known]
      by_cases mine : tenantId = owner
      · rw [if_pos mine, if_pos mine]
        exact tells event acted told
      · rw [if_neg mine, if_neg mine]
        rcases filed with here | ⟨_, silent⟩
        · exact absurd (own.symm.trans here) mine
        · exact silent event acted told
    · rw [if_neg own, List.append_nil, known]
      by_cases mine : tenantId = owner
      · rw [if_pos mine, if_pos mine]
        rcases filed with here | ⟨unchanged, _⟩
        · exact absurd (here.trans mine.symm) own
        · exact unchanged
      · rw [if_neg mine, if_neg mine]

theorem accounted_replaced {profile later : StoredProfile} (accounted : service.Accounted)
    (found : service.getById id = some profile) (replaces : Replaces service edited id (some later))
    (log : edited.auditEvents = service.auditEvents) (kept : later.tenantId = profile.tenantId)
    (tells : ∀ event : DatastoreAuditEvent, event.action = action → event.details = details →
      event.effect (some profile.status) = some later.status)
    (filed : actor.tenantId = profile.tenantId ∨ (profile.status = later.status ∧
        ∀ event : DatastoreAuditEvent, event.action = action → event.details = details →
          event.effect none = none)) :
    (edited.record actor action id details draws).Accounted := by
  refine accounted_record profile.tenantId actor action details draws accounted replaces log
    (tenantId_of_getById found rfl) ?_ ?_ ?_
  · intro replacing same
    cases same
    exact kept
  · rw [found]
    exact tells
  · rw [found]
    exact filed.imp_right fun ⟨same, silent⟩ => ⟨congrArg some same, silent⟩

end Filing

section Guard

/-- The owner of an accepted profile that the request alters. -/
def alteredOwner (decision : Except ControlPlaneError StoredProfile)
    (alters : StoredProfile → Bool) : Option String :=
  match decision with
  | .ok profile => if alters profile then some profile.tenantId else none
  | .error _ => none

theorem alteredOwner_eq_some_iff {decision : Except ControlPlaneError StoredProfile}
    {alters : StoredProfile → Bool} {tenantId : String} :
    alteredOwner decision alters = some tenantId ↔
      ∃ profile, decision = .ok profile ∧ alters profile = true ∧ profile.tenantId = tenantId := by
  cases decision with
  | error error => simp [alteredOwner]
  | ok profile => by_cases alters : alters profile = true <;> simp [alteredOwner, alters]

/-- The tenant one of whose profiles a call creates, deletes or moves to another status. -/
def altered (library : SchemaLibrary) (service : ControlPlane) (call : Call) : Option String :=
  match call.request with
  | .createProfile input =>
    alteredOwner (created library input call.actor call.draws) fun _ => true
  | .deactivateProfile profileId =>
    alteredOwner (service.owned profileId call.actor) fun profile => profile.status ≠ .inactive
  | .deleteProfile profileId =>
    alteredOwner (service.owned profileId call.actor) fun profile => profile.status ≠ .active
  | .runPreflight profileId =>
    alteredOwner (service.known .tenantAdmin profileId call.actor) fun profile =>
      profile.status ≠ preflightStatus (findings service profile call.draws call.latencyMs).passed
  | .activateProfile profileId =>
    alteredOwner (service.owned profileId call.actor) fun profile =>
      hasPassed profile && profile.status ≠ .active
  | .getProfile _ | .listProfiles | .testConnection _ => none

/-- A call that alters a profile is made by an actor of the profile's tenant. -/
def OwnerActs (library : SchemaLibrary) (service : ControlPlane) : Input → Prop
  | .call call => ∀ tenantId, altered library service call = some tenantId →
      call.actor.tenantId = tenantId
  | _ => True

end Guard

section Trail

variable {library : SchemaLibrary} {service after : ControlPlane} {input : Input}

variable {call : Call} {profile : StoredProfile} {tenantId : String}

theorem filed_or_same {owner : String} {decision : Except ControlPlaneError StoredProfile}
    {alters : StoredProfile → Bool} (acts : OwnerActs library service (.call call))
    (alteration : altered library service call = alteredOwner decision alters)
    (decided : decision = .ok profile) (own : profile.tenantId = owner) {same : Prop}
    (otherwise : alters profile ≠ true → same) : call.actor.tenantId = owner ∨ same := by
  by_cases alters' : alters profile = true
  · left
    apply acts
    rw [alteration, alteredOwner_eq_some_iff]
    exact ⟨profile, decided, alters', own⟩
  · exact .inr (otherwise alters')

theorem competitor_eq_none_of_active (sole : SoleActive service)
    (stored : service.getById profile.id = some profile) (active : profile.status = .active) :
    competitor service profile = none := by
  cases there : competitor service profile with
  | none => rfl
  | some other =>
    obtain ⟨otherStored, otherActive, tenant, project, different⟩ := competitor_spec there
    exact absurd (sole other profile otherStored stored otherActive active tenant project)
      different

/-- Activation files the retired competitor and the activated profile. -/
theorem accounted_activated (sole : SoleActive service) (accounted : service.Accounted)
    (stored : service.getById profile.id = some profile)
    (filed : call.actor.tenantId = profile.tenantId ∨ profile.status = .active) :
    ((activated service profile call.actor call.draws).record call.actor .profileActivate
      profile.id (.provider profile.provider) (call.draws.drop 2 3)).Accounted := by
  have found := getById_retired_self profile.id call.actor call.draws stored
  have calm : (retired service profile call.actor call.draws).Accounted := by
    unfold retired
    cases there : competitor service profile with
    | none => exact accounted
    | some existing =>
      obtain ⟨existingStored, existingActive, tenant, _⟩ := competitor_spec there
      have mine : call.actor.tenantId = profile.tenantId := by
        refine filed.resolve_right fun active => ?_
        rw [competitor_eq_none_of_active sole stored active] at there
        cases there
      refine accounted_replaced call.actor _ _ _ accounted existingStored
        (replaces_setStatus existingStored .inactive (call.draws.now 0)) rfl rfl ?_
        (.inl (mine.trans tenant.symm))
      intro event acted _
      simp [DatastoreAuditEvent.effect, acted, StoredProfile.withStatus]
  refine accounted_replaced call.actor _ _ _ calm found
    (replaces_activated call.actor call.draws stored) (auditEvents_setRoute ..) rfl ?_
    (filed.imp_right fun active => ⟨active, ?_⟩) <;>
    intro event acted _ <;>
    simp [DatastoreAuditEvent.effect, acted, StoredProfile.withStatus]

/-- A call that alters a profile only for the profile's tenant keeps the trail. -/
theorem accounted_step (accounted : service.Accounted) (sole : SoleActive service)
    (fresh : FreshIds service input) (acts : OwnerActs library service input) :
    ((machine library).step service input).1.Accounted := by
  have taken := step_cases library service input
  generalize ((machine library).step service input).1 = after at taken
  cases taken with
  | kept | credentials => exact accounted
  | @created call input profile request decided =>
    obtain ⟨rfl, _⟩ := created_eq_ok_iff.mp decided
    have absent : service.getById (call.draws.uuid 0) = none := fresh input request
    have none' : service.getById (TenantConfigStore.draft input call.actor.actorId call.draws).id =
        none := absent
    refine accounted_record input.tenantId call.actor _ _ _ accounted (replaces_insert _) rfl
      ?_ ?_ ?_ (filed_or_same acts (by rw [altered, request]) decided rfl (by simp))
    · intro before same
      rw [none'] at same
      cases same
    · intro later same
      cases same
      rfl
    · intro event acted _
      simp only [DatastoreAuditEvent.effect, acted]
      rfl
  | @deactivated call profileId profile request decided =>
    have found := getById_of_owned decided
    refine accounted_replaced call.actor _ _ _ accounted found
      (replaces_setStatus found .inactive _) rfl rfl ?_
      (filed_or_same acts (by rw [altered, request]) decided rfl fun unaltered => ⟨?_, ?_⟩)
    · intro event acted _
      simp [DatastoreAuditEvent.effect, acted, StoredProfile.withStatus]
    · have inactive : profile.status = .inactive := by simpa using unaltered
      exact inactive
    · intro event acted _
      simp [DatastoreAuditEvent.effect, acted]
  | @deleted call profileId profile request decided idle =>
    refine accounted_record profile.tenantId call.actor _ _ _ accounted (replaces_delete profileId)
      rfl (tenantId_of_getById (getById_of_owned decided) rfl) (fun _ same => nomatch same) ?_
      (filed_or_same acts (by rw [altered, request]) decided rfl fun unaltered => ?_)
    · intro event acted _
      simp [DatastoreAuditEvent.effect, acted]
    · simp [idle] at unaltered
  | @checked call profileId profile request decided =>
    have found := getById_of_known decided
    refine accounted_replaced call.actor _ _ _ accounted found
      (replaces_checked call.draws found _) (auditEvents_checked ..) (afterPreflight_slot ..).2.1 ?_
      (filed_or_same acts (by rw [altered, request]) decided rfl fun unaltered => ⟨?_, ?_⟩)
    · intro event acted told
      simp [DatastoreAuditEvent.effect, acted, told, status_afterPreflight]
    · rw [status_afterPreflight]
      simpa using unaltered
    · intro event acted told
      simp [DatastoreAuditEvent.effect, acted, told]
  | @activated call profileId profile request decided passed =>
    have found := getById_of_owned decided
    have named := TenantConfigStore.id_of_getById found
    subst named
    apply accounted_activated sole accounted found
    apply filed_or_same acts (by rw [altered, request]) decided rfl
    intro unaltered
    simpa [passed] using unaltered
  | @tested call profileId profile request decided =>
    have found := getById_of_known decided
    refine accounted_replaced call.actor _ _ _ accounted found (replaces_self found) rfl rfl ?_
      (.inr ⟨rfl, ?_⟩) <;>
      intro event acted _ <;>
      simp [DatastoreAuditEvent.effect, acted]

theorem filed_under_actor (library : SchemaLibrary) (service : ControlPlane) (call : Call) :
    ∃ extra, ((machine library).step service (.call call)).1.auditEvents =
        service.auditEvents ++ extra ∧
      ∀ event ∈ extra, event.tenantId = call.actor.tenantId := by
  have taken := step_cases library service (.call call)
  generalize ((machine library).step service (.call call)).1 = after at taken
  have one : ∀ (edited : ControlPlane) (action : AuditAction) (id : String)
      (details : AuditDetails) (draws : Draws), edited.auditEvents = service.auditEvents →
      ∃ extra, (edited.record call.actor action id details draws).auditEvents =
          service.auditEvents ++ extra ∧
        ∀ event ∈ extra, event.tenantId = call.actor.tenantId := by
    intro edited action id details draws same
    refine ⟨_, congrArg (· ++ _) same, fun event member => ?_⟩
    rw [List.mem_singleton.mp member]
  cases taken with
  | kept => exact ⟨[], by simp, fun _ member => nomatch member⟩
  | created | deactivated | deleted | tested => exact one _ _ _ _ _ rfl
  | checked => exact one _ _ _ _ _ (auditEvents_checked ..)
  | @activated _ profileId profile request decided passed =>
    have log : (activated service profile call.actor call.draws).auditEvents =
        (retired service profile call.actor call.draws).auditEvents := auditEvents_setRoute ..
    unfold retired at log
    cases there : competitor service profile with
    | none =>
      rw [there] at log
      exact one _ _ _ _ _ log
    | some existing =>
      rw [there] at log
      refine ⟨_, (congrArg (· ++ _) log).trans (List.append_assoc ..), fun event member => ?_⟩
      rcases List.mem_append.mp member with first | second
      · rw [List.mem_singleton.mp first]
      · rw [List.mem_singleton.mp second]
  | credentials store silent => exact absurd rfl (silent call)

theorem tenantLog_of_ne (other : call.actor.tenantId ≠ tenantId) :
    ((machine library).step service (.call call)).1.tenantLog tenantId =
      service.tenantLog tenantId := by
  obtain ⟨extra, appended, filed⟩ := filed_under_actor library service call
  unfold tenantLog
  rw [appended, List.filter_append]
  have unseen : (extra.filter fun event => event.tenantId = tenantId) = [] := by
    rw [List.filter_eq_nil_iff]
    intro event member
    simp [filed event member, other]
  rw [unseen, List.append_nil]

theorem statusFor_eq {id : String} {profile : StoredProfile}
    (stored : service.getById id = some profile) :
    service.statusFor profile.tenantId id = some profile.status := by
  simp [statusFor, stored, Option.filter]

theorem Replaces.statusFor_ne {edited : ControlPlane} {id : String} {later : StoredProfile}
    (replaces : Replaces service edited id (some later))
    (stored : service.getById id = some profile) (owner : later.tenantId = profile.tenantId)
    (changed : profile.status ≠ later.status) :
    edited.statusFor profile.tenantId id ≠ service.statusFor profile.tenantId id := by
  have shown : edited.getById id = some later := by rw [replaces, if_pos rfl]
  rw [statusFor_eq stored, ← owner, statusFor_eq shown]
  exact fun same => changed (Option.some.inj same).symm

/-- A call that alters a profile of a tenant changes what the trail has to tell. -/
theorem statusFor_changes (fresh : FreshIds service (.call call))
    (alters : altered library service call = some tenantId) :
    ∃ id, ((machine library).step service (.call call)).1.statusFor tenantId id ≠
      service.statusFor tenantId id := by
  unfold altered at alters
  cases request : call.request with
  | createProfile input =>
    rw [request, alteredOwner_eq_some_iff] at alters
    obtain ⟨profile, decided, _, rfl⟩ := alters
    refine ⟨profile.id, ?_⟩
    rw [after_created request decided]
    obtain ⟨rfl, _⟩ := created_eq_ok_iff.mp decided
    have absent : service.getById (TenantConfigStore.draft input call.actor.actorId
        call.draws).id = none := fresh input request
    have shown := @statusFor_eq (service.insert (TenantConfigStore.draft input
      call.actor.actorId call.draws)) _ _ (by rw [getById_insert, if_pos rfl])
    change (service.insert _).statusFor _ _ ≠ _
    rw [shown]
    simp [statusFor, absent]
  | deactivateProfile profileId =>
    rw [request, alteredOwner_eq_some_iff] at alters
    obtain ⟨profile, decided, changed, rfl⟩ := alters
    refine ⟨profileId, ?_⟩
    rw [after_deactivated request decided]
    exact (replaces_setStatus (getById_of_owned decided) .inactive _).statusFor_ne
      (getById_of_owned decided) rfl (of_decide_eq_true changed)
  | deleteProfile profileId =>
    rw [request, alteredOwner_eq_some_iff] at alters
    obtain ⟨profile, decided, idle, rfl⟩ := alters
    refine ⟨profileId, ?_⟩
    rw [after_deleted request decided (by simpa using idle),
      statusFor_eq (getById_of_owned decided)]
    simp [statusFor]
  | runPreflight profileId =>
    rw [request, alteredOwner_eq_some_iff] at alters
    obtain ⟨profile, decided, changed, rfl⟩ := alters
    refine ⟨profileId, ?_⟩
    rw [after_checked request decided]
    refine (replaces_checked call.draws (getById_of_known decided) _).statusFor_ne
      (getById_of_known decided) (afterPreflight_slot ..).2.1 ?_
    rw [status_afterPreflight]
    simpa using changed
  | activateProfile profileId =>
    rw [request, alteredOwner_eq_some_iff] at alters
    obtain ⟨profile, decided, changed, rfl⟩ := alters
    simp only [Bool.and_eq_true, decide_eq_true_eq] at changed
    refine ⟨profileId, ?_⟩
    have found := getById_of_owned decided
    rw [after_activated request decided changed.1]
    have named := TenantConfigStore.id_of_getById found
    subst named
    have before : service.statusFor profile.tenantId profile.id = some profile.status :=
      statusFor_eq found
    have calm := statusFor_eq (getById_retired_self profile.id call.actor call.draws found)
    have shown := (replaces_activated call.actor call.draws found).statusFor_ne
      (getById_retired_self profile.id call.actor call.draws found) rfl changed.2
    rw [calm, ← before] at shown
    exact shown
  | getProfile | listProfiles | testConnection =>
    rw [request] at alters
    cases alters

/-- Every stored profile has a tenant, as the schema asks. -/
def Tenanted (service : ControlPlane) : Prop :=
  ∀ id profile, service.getById id = some profile → profile.tenantId ≠ ""

theorem Replaces.tenanted {edited : ControlPlane} {id : String}
    {replacement : Option StoredProfile} (replaces : Replaces service edited id replacement)
    (tenanted : Tenanted service)
    (owned : ∀ profile, replacement = some profile → profile.tenantId ≠ "") : Tenanted edited := by
  intro other profile stored
  rw [replaces] at stored
  split at stored
  · exact owned profile stored
  · exact tenanted other profile stored

theorem tenantId_ne_of_created {input : DatastoreProfileCreateInput} {actor : ActorContext}
    {draws : Draws} (decided : created library input actor draws = .ok profile) :
    profile.tenantId ≠ "" := by
  obtain ⟨rfl, _, _, accepted⟩ := created_eq_ok_iff.mp decided
  simp only [createSchemaAccepts, Bool.and_eq_true, decide_eq_true_eq] at accepted
  exact accepted.1.1.1

theorem Tenanted.step (tenanted : Tenanted service) (input : Input) :
    Tenanted ((machine library).step service input).1 := by
  have taken := step_cases library service input
  generalize ((machine library).step service input).1 = after at taken
  cases taken with
  | kept | tested | credentials => exact tenanted
  | created request decided =>
    refine (replaces_insert _).tenanted tenanted fun profile same => ?_
    cases same
    exact tenantId_ne_of_created decided
  | deactivated request decided =>
    have found := getById_of_owned decided
    have owned := tenanted _ _ found
    refine (replaces_setStatus found _ _).tenanted tenanted fun profile same => ?_
    cases same
    exact owned
  | deleted =>
    exact (replaces_delete _).tenanted tenanted fun profile same => nomatch same
  | checked request decided =>
    have found := getById_of_known decided
    refine (replaces_checked _ found _).tenanted tenanted fun profile same => ?_
    cases same
    rw [(afterPreflight_slot ..).2.1]
    exact tenanted _ _ found
  | @activated call profileId profile request decided passed =>
    have found := getById_of_owned decided
    have named := TenantConfigStore.id_of_getById found
    subst named
    have calm : Tenanted (retired service profile call.actor call.draws) := by
      cases there : competitor service profile with
      | none =>
        intro id other stored
        rw [getById_retired, there] at stored
        exact tenanted id other stored
      | some existing =>
        have owned := tenanted _ _ (competitor_spec there).1
        refine (replaces_retired call.actor call.draws there).tenanted tenanted ?_
        intro edited same
        cases same
        exact owned
    have owned := tenanted _ _ found
    refine (replaces_activated call.actor call.draws found).tenanted calm fun edited same => ?_
    cases same
    exact owned

theorem altered_ne_empty (tenanted : Tenanted service)
    (alters : altered library service call = some tenantId) : tenantId ≠ "" := by
  unfold altered at alters
  split at alters
  · obtain ⟨profile, decided, _, rfl⟩ := alteredOwner_eq_some_iff.mp alters
    exact tenantId_ne_of_created decided
  · obtain ⟨profile, decided, _, rfl⟩ := alteredOwner_eq_some_iff.mp alters
    exact tenanted _ _ (getById_of_owned decided)
  · obtain ⟨profile, decided, _, rfl⟩ := alteredOwner_eq_some_iff.mp alters
    exact tenanted _ _ (getById_of_owned decided)
  · obtain ⟨profile, decided, _, rfl⟩ := alteredOwner_eq_some_iff.mp alters
    exact tenanted _ _ (getById_of_known decided)
  · obtain ⟨profile, decided, _, rfl⟩ := alteredOwner_eq_some_iff.mp alters
    exact tenanted _ _ (getById_of_owned decided)
  all_goals cases alters

theorem accounted_step_iff (sole : SoleActive service) (tenanted : Tenanted service)
    (fresh : FreshIds service input) (accounted : service.Accounted) :
    ((machine library).step service input).1.Accounted ↔ OwnerActs library service input := by
  refine ⟨fun later => ?_, accounted_step accounted sole fresh⟩
  cases input with
  | storeCredential | revokeCredential => trivial
  | call call =>
    intro tenantId alters
    by_contra other
    have named := altered_ne_empty tenanted alters
    obtain ⟨id, changes⟩ := statusFor_changes fresh alters
    have before := (accounted_iff _).mp accounted tenantId id named
    have after := (accounted_iff _).mp later tenantId id named
    rw [tenantLog_of_ne other, before] at after
    exact changes after.symm

/-- Every profile of a tenant that a step creates, deletes or moves to another status is
named by a new event that `getAuditEvents` can return for the tenant. -/
def Recorded (library : SchemaLibrary) (service : ControlPlane) (input : Input) : Prop :=
  ∀ tenantId id, tenantId ≠ "" →
    ((machine library).step service input).1.statusFor tenantId id ≠
      service.statusFor tenantId id →
    ∃ event ∈ ((machine library).step service input).1.auditEvents.drop
        service.auditEvents.length, event.resource = id ∧
      ∃ limit, event ∈
        ((machine library).step service input).1.getAuditEvents (some tenantId) limit

/-- A trail that accounts for the states around a step has recorded the step. -/
theorem recorded_of_accounted (accounted : service.Accounted)
    (later : ((machine library).step service input).1.Accounted) :
    Recorded library service input := by
  intro tenantId id named changes
  cases input with
  | storeCredential | revokeCredential => exact absurd rfl changes
  | call call =>
    obtain ⟨extra, appended, _⟩ := filed_under_actor library service call
    have before := (accounted_iff _).mp accounted tenantId id named
    have after := (accounted_iff _).mp later tenantId id named
    by_contra unrecorded
    apply changes
    rw [← after, ← before]
    unfold tenantLog
    rw [appended, List.filter_append]
    apply replay_append_of_foreign
    intro event member about
    obtain ⟨new, _⟩ := List.mem_filter.mp member
    have limit := getAuditEvents_of_le ((machine library).step service (.call call)).1 named
      (Int.le_refl _)
    have returned : event ∈ ((machine library).step service (.call call)).1.tenantLog tenantId := by
      unfold tenantLog
      rw [appended, List.filter_append]
      exact List.mem_append_right _ member
    refine unrecorded ⟨event, ?_, about, _, by rw [limit]; exact returned⟩
    rw [appended, List.drop_left]
    exact new

/-- Every change is on record with the tenant it concerns, and at every moment the
tenant's events account for its profiles. -/
structure Attributed (library : SchemaLibrary) (inputs : List Input) : Prop where
  recorded : (machine library).Admits (Recorded library) ControlPlane.empty inputs
  accounted : ∀ count, ((machine library).run ControlPlane.empty (inputs.take count)).Accounted

/-- Over every run with fresh ids, the audit trail of every tenant is complete exactly when
each call that creates, deletes or moves a profile to another status is made by an actor
of the tenant that owns it. -/
theorem audit_attribution_iff (library : SchemaLibrary) (inputs : List Input)
    (fresh : (machine library).Admits FreshIds ControlPlane.empty inputs) :
    Attributed library inputs ↔
      (machine library).Admits (OwnerActs library) ControlPlane.empty inputs := by
  let Sound (service : ControlPlane) : Prop := SoleActive service ∧ Tenanted service
  have start : Sound ControlPlane.empty ∧ ControlPlane.empty.Accounted := by
    refine ⟨⟨?_, ?_⟩, (accounted_iff _).mpr fun tenantId id _ => rfl⟩
    · exact fun profile _ stored => nomatch stored
    · exact fun _ _ stored => nomatch stored
  have kept : ∀ service input, Sound service → FreshIds service input →
      Sound ((machine library).step service input).1 := by
    intro service input sound _
    exact ⟨sound.1.step library (step_cases library service input), sound.2.step input⟩
  have prefixes := Transducer.forall_prefix_iff_admits_of kept
    (fun service input (sound : Sound service) fresh accounted =>
      @accounted_step_iff library service input sound.1 sound.2 fresh accounted)
    fresh start.1 start.2
  refine ⟨fun attributed => prefixes.mp attributed.accounted,
    fun acts => ⟨?_, prefixes.mpr acts⟩⟩
  -- Both states around a step are accounted for, so the step is on record.
  refine (fresh.and acts).imp
    (fun service input (holds : Sound service ∧ service.Accounted) step => ?_)
    (fun service input holds step => ?_) start
  · exact ⟨kept service input holds.1 step.1,
      accounted_step holds.2 holds.1.1 step.1 step.2⟩
  · exact recorded_of_accounted holds.2 (accounted_step holds.2 holds.1.1 step.1 step.2)

/-- A tenant that replaces its own profile has a complete trail. -/
theorem audit_attribution_of_own_tenant :
    Attributed sampleLibrary (bringUp "p" (sampleInput "t" none .dynamodb) sampleAdmin ++
      bringUp "q" (sampleInput "t" none .mongodb) sampleAdmin) := by
  refine (audit_attribution_iff sampleLibrary _ ?_).mpr ?_
  · refine ⟨fun _ _ => rfl, trivial, ?_, ?_, fun _ _ => rfl, trivial, ?_, ?_, trivial⟩ <;>
      exact fun input request => nomatch request
  · refine ⟨?_, trivial, ?_, ?_, ?_, trivial, ?_, ?_, trivial⟩ <;>
      intro tenantId alters <;>
      cases alters <;>
      rfl

/-- A platform administrator of tenant `ops`. -/
def sampleOperator : ActorContext := ⟨"operator", "ops", .platformAdmin⟩

/-- A platform administrator creates a profile for tenant `t`, whose trail stays empty. -/
theorem platform_admin_leaves_no_trail :
    let inputs := [sampleCall (.createProfile (sampleInput "t" none .dynamodb)) sampleOperator "p"]
    (machine sampleLibrary).Admits FreshIds ControlPlane.empty inputs ∧
      ¬ Attributed sampleLibrary inputs := by
  refine ⟨⟨fun _ _ => rfl, trivial⟩, fun attributed => ?_⟩
  have told := attributed.accounted 1 "t" 100 "p" (by decide) (by decide)
  cases told

end Trail

end ControlPlaneService

end Caas.Datastore
