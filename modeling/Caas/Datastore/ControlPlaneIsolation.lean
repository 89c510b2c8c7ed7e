import Caas.Datastore.ProfileLifecycle

/-!
# Tenants behind the control plane

An actor other than a platform administrator is to leave the profiles of other tenants
alone and to learn nothing about them. The first is a statement about one call, the
second compares it with the same call on a state that differs in those profiles. A
refusal is no answer: it may tell that a foreign profile exists.
-/

namespace Caas.Datastore

open Js Js.Throwing

namespace ControlPlaneService

open ControlPlane

/-- The second state holds the same profiles of the tenant, in the same order, and the same
credentials; the profiles of other tenants may be changed or missing. -/
structure Alike (tenantId : String) (service other : ControlPlane) : Prop where
  own : other.store.getByTenant tenantId = service.store.getByTenant tenantId
  noMore : ∀ id, service.getById id = none → other.getById id = none
  credentials : other.credentials = service.credentials

/-- The call neither changes a profile of another tenant nor returns a value that depends
on one. -/
structure Confined (library : SchemaLibrary) (service : ControlPlane) (call : Call) : Prop where
  untouched : ∀ id profile, profile.tenantId ≠ call.actor.tenantId →
    (((machine library).step service (.call call)).1.getById id = some profile ↔
      service.getById id = some profile)
  independent : ∀ other value, Alike call.actor.tenantId service other →
    ((machine library).step service (.call call)).2 = .ok value →
    ((machine library).step other (.call call)).2 = .ok value

/-- The call runs a preflight, as a tenant administrator, or a connection test on a
profile of another tenant. -/
def Probes (service : ControlPlane) (call : Call) : Prop :=
  ∃ profileId profile, service.getById profileId = some profile ∧
    profile.tenantId ≠ call.actor.tenantId ∧
    (call.request = .testConnection profileId ∨
      call.request = .runPreflight profileId ∧ call.actor.role = .tenantAdmin)

variable {library : SchemaLibrary} {service other : ControlPlane} {call : Call}
  {profileId : String} {profile : StoredProfile}

section Untouched

variable {tenantId id : String} {edited : ControlPlane} {replacement : Option StoredProfile}

theorem Replaces.untouched (replaces : Replaces service edited id replacement)
    (before : ∀ profile, service.getById id = some profile → profile.tenantId = tenantId)
    (later : ∀ profile, replacement = some profile → profile.tenantId = tenantId)
    {found : String} (foreign : profile.tenantId ≠ tenantId) :
    edited.getById found = some profile ↔ service.getById found = some profile := by
  rw [replaces]
  by_cases same : id = found
  · subst same
    rw [if_pos rfl]
    exact ⟨fun stored => absurd (later profile stored) foreign,
      fun stored => absurd (before profile stored) foreign⟩
  · rw [if_neg same]

theorem tenantId_of_owned {actor : ActorContext} (plain : actor.role ≠ .platformAdmin)
    (decided : service.owned profileId actor = .ok profile) : profile.tenantId = actor.tenantId :=
  (owned_eq_ok_iff.mp decided).2.resolve_right plain

theorem role_of_known {actor : ActorContext} (plain : actor.role ≠ .platformAdmin)
    (decided : service.known .tenantAdmin profileId actor = .ok profile) :
    actor.role = .tenantAdmin := by
  have rank := (known_eq_ok_iff.mp decided).1
  cases role : actor.role with
  | tenantAdmin => rfl
  | platformAdmin => exact absurd role plain
  | viewer =>
    rw [role] at rank
    exact absurd rank (by decide)

theorem untouched_of_not_probes (plain : call.actor.role ≠ .platformAdmin)
    (fresh : FreshIds service (.call call)) (blind : ¬ Probes service call) {found : String}
    (foreign : profile.tenantId ≠ call.actor.tenantId) :
    ((machine library).step service (.call call)).1.getById found = some profile ↔
      service.getById found = some profile := by
  have taken := step_cases library service (.call call)
  generalize ((machine library).step service (.call call)).1 = after at taken
  cases taken with
  | kept | tested => exact Iff.rfl
  | @created _ input draft request decided =>
    obtain ⟨rfl, _, own, _⟩ := created_eq_ok_iff.mp decided
    have absent : service.getById (TenantConfigStore.draft input call.actor.actorId
        call.draws).id = none := fresh input request
    refine (replaces_insert _).untouched (fun before stored => ?_) (fun later same => ?_) foreign
    · rw [absent] at stored
      cases stored
    · cases same
      exact (own.resolve_right plain).symm
  | deactivated request decided =>
    have own := tenantId_of_owned plain decided
    have there := getById_of_owned decided
    refine (replaces_setStatus there _ _).untouched (tenantId_of_getById there own)
      (fun later same => ?_) foreign
    cases same
    exact own
  | deleted request decided idle =>
    have own := tenantId_of_owned plain decided
    have there := getById_of_owned decided
    exact (replaces_delete _).untouched (tenantId_of_getById there own)
      (fun later same => nomatch same) foreign
  | checked request decided =>
    have there := getById_of_known decided
    have own : _ = call.actor.tenantId := not_not.mp fun different =>
      blind ⟨_, _, there, different, .inr ⟨request, role_of_known plain decided⟩⟩
    refine (replaces_checked _ there _).untouched (tenantId_of_getById there own)
      (fun later same => ?_) foreign
    cases same
    exact (afterPreflight_slot ..).2.1.trans own
  | @activated _ profileId served request decided passed =>
    have own := tenantId_of_owned plain decided
    have there := getById_of_owned decided
    have named := TenantConfigStore.id_of_getById there
    subst named
    have still := getById_retired_self served.id call.actor call.draws there
    have calm : (retired service served call.actor call.draws).getById found = some profile ↔
        service.getById found = some profile := by
      cases rival : competitor service served with
      | none => rw [getById_retired, rival]
      | some existing =>
        obtain ⟨existingStored, _, tenant, _⟩ := competitor_spec rival
        have rivalOwn := tenant.trans own
        refine (replaces_retired call.actor call.draws rival).untouched
          (tenantId_of_getById existingStored rivalOwn) (fun later same => ?_) foreign
        cases same
        exact rivalOwn
    refine Iff.trans ?_ calm
    refine (replaces_activated call.actor call.draws there).untouched
      (tenantId_of_getById still own) (fun later same => ?_) foreign
    cases same
    exact own
  | credentials store silent => exact absurd rfl (silent call)

end Untouched

section Answers

/-- A read or a decision that answers with a profile answers the same in a state that is
alike for the profile's tenant. -/
theorem Alike.getById {tenantId : String} (alike : Alike tenantId service other)
    (own : profile.tenantId = tenantId) (stored : service.getById profileId = some profile) :
    other.getById profileId = some profile := by
  have named := TenantConfigStore.id_of_getById stored
  subst named
  apply TenantConfigStore.mem_listAll_iff.mp
  have listed : profile ∈ service.store.getByTenant tenantId :=
    List.mem_filter.mpr ⟨TenantConfigStore.mem_listAll_iff.mpr stored, by simpa using own⟩
  rw [← alike.own] at listed
  exact (List.mem_filter.mp listed).1

theorem Alike.known {actor : ActorContext} (alike : Alike actor.tenantId service other)
    {requiredRole : ControlPlaneRole} (own : profile.tenantId = actor.tenantId)
    (decided : service.known requiredRole profileId actor = .ok profile) :
    other.known requiredRole profileId actor = .ok profile := by
  obtain ⟨rank, stored⟩ := known_eq_ok_iff.mp decided
  exact known_eq_ok_iff.mpr ⟨rank, alike.getById own stored⟩

theorem Alike.owned {actor : ActorContext} (alike : Alike actor.tenantId service other)
    (plain : actor.role ≠ .platformAdmin) (decided : service.owned profileId actor = .ok profile) :
    other.owned profileId actor = .ok profile := by
  obtain ⟨known, own⟩ := owned_eq_ok_iff.mp decided
  exact owned_eq_ok_iff.mpr ⟨alike.known (own.resolve_right plain) known, own⟩

theorem Alike.looked {actor : ActorContext} (alike : Alike actor.tenantId service other)
    (plain : actor.role ≠ .platformAdmin) {found : Option StoredProfile}
    (decided : looked service profileId actor = .ok found) :
    looked other profileId actor = .ok found := by
  unfold ControlPlaneService.looked at decided ⊢
  cases stored : service.getById profileId with
  | none =>
    rw [stored] at decided
    rw [alike.noMore profileId stored]
    exact decided
  | some profile =>
    rw [stored] at decided
    by_cases own : profile.tenantId = actor.tenantId
    · rw [alike.getById own stored]
      exact decided
    · simp [if_pos (And.intro own plain)] at decided

/-- What a call returns, by the decisions it rests on. -/
def answer (library : SchemaLibrary) (service : ControlPlane) (call : Call) :
    Except ControlPlaneError Reply :=
  match call.request with
  | .createProfile input => do return .profile (← created library input call.actor call.draws)
  | .getProfile profileId => do return .lookup (← looked service profileId call.actor)
  | .listProfiles =>
    return .profiles (if call.actor.role = .platformAdmin then service.store.listAll
      else service.store.getByTenant call.actor.tenantId)
  | .deactivateProfile profileId => do
    return .profile ((← service.owned profileId call.actor).withStatus .inactive (call.draws.now 0))
  | .deleteProfile profileId => do
    let profile ← service.owned profileId call.actor
    if profile.status = .active then .error .activeProfile else return .done
  | .runPreflight profileId => do
    let profile ← service.known .tenantAdmin profileId call.actor
    return .preflight (findings service profile call.draws call.latencyMs)
  | .activateProfile profileId => do
    let profile ← service.owned profileId call.actor
    if hasPassed profile then return .profile (profile.withStatus .active (call.draws.now 2))
    else .error (.preflightFailed profileId ["Preflight validation has not passed"])
  | .testConnection profileId => do
    let profile ← service.known .viewer profileId call.actor
    return .connection (reachable profile) call.latencyMs

theorem step_answer (library : SchemaLibrary) (service : ControlPlane) (call : Call) :
    ((machine library).step service (.call call)).2 = answer library service call := by
  change ((perform library call).run service).2 = _
  unfold perform answer
  cases call.request with
  | createProfile input =>
    simp only [run_wrapped, run_createProfile]
    cases created library input call.actor call.draws <;> rfl
  | getProfile profileId =>
    simp only [run_wrapped, run_getProfile]
    rfl
  | listProfiles =>
    simp only [run_wrapped, run_listProfiles]
    rfl
  | deactivateProfile profileId =>
    simp only [run_wrapped, run_deactivateProfile]
    cases service.owned profileId call.actor <;> rfl
  | deleteProfile profileId =>
    simp only [run_bind, run_deleteProfile]
    cases service.owned profileId call.actor with
    | error error => rfl
    | ok profile =>
      change _ = if profile.status = .active then _ else _
      by_cases active : profile.status = .active
      · simp [if_pos active]
      · simp only [if_neg active, run_pure]
        rfl
  | runPreflight profileId =>
    simp only [run_wrapped, run_runPreflight]
    cases service.known .tenantAdmin profileId call.actor <;> rfl
  | activateProfile profileId =>
    simp only [run_wrapped, run_activateProfile]
    cases service.owned profileId call.actor with
    | error error => rfl
    | ok profile =>
      change _ = if hasPassed profile = true then _ else _
      by_cases passed : hasPassed profile = true
      · simp only [if_pos passed]
        rfl
      · simp only [if_neg passed]
        rfl
  | testConnection profileId =>
    simp only [run_bind, run_testConnection]
    cases service.known .viewer profileId call.actor <;> rfl

theorem bind_ok_of_imp {α β : Type} {decision decision' : Except ControlPlaneError α}
    {next next' : α → Except ControlPlaneError β} {value : β}
    (agree : ∀ result, decision = .ok result → decision' = .ok result ∧ next' result = next result)
    (returned : decision >>= next = .ok value) : decision' >>= next' = .ok value := by
  cases decision with
  | error error => cases returned
  | ok result =>
    obtain ⟨same, rest⟩ := agree result rfl
    rw [same]
    exact rest.trans returned

theorem independent_of_not_probes (plain : call.actor.role ≠ .platformAdmin)
    (blind : ¬ Probes service call) (alike : Alike call.actor.tenantId service other)
    {value : Reply} (returned : answer library service call = .ok value) :
    answer library other call = .ok value := by
  have owned : ∀ profileId profile, service.owned profileId call.actor = .ok profile →
      other.owned profileId call.actor = .ok profile := fun _ _ => alike.owned plain
  unfold answer at returned ⊢
  cases request : call.request with
  | createProfile input =>
    rw [request] at returned
    exact returned
  | getProfile profileId =>
    rw [request] at returned
    exact bind_ok_of_imp (fun _ decided => ⟨alike.looked plain decided, rfl⟩) returned
  | listProfiles =>
    simp only [request, if_neg plain] at returned ⊢
    rw [alike.own]
    exact returned
  | deactivateProfile | deleteProfile | activateProfile =>
    rw [request] at returned
    exact bind_ok_of_imp (fun _ decided => ⟨owned _ _ decided, rfl⟩) returned
  | runPreflight profileId =>
    rw [request] at returned
    refine bind_ok_of_imp (fun profile decided => ⟨?_, ?_⟩) returned
    · refine alike.known (not_not.mp fun different => ?_) decided
      exact blind ⟨_, _, getById_of_known decided, different,
        .inr ⟨request, role_of_known plain decided⟩⟩
    · unfold findings getByProfile
      rw [alike.credentials]
  | testConnection profileId =>
    rw [request] at returned
    refine bind_ok_of_imp (fun profile decided => ⟨?_, rfl⟩) returned
    refine alike.known (not_not.mp fun different => ?_) decided
    exact blind ⟨_, _, getById_of_known decided, different, .inl request⟩

end Answers

section Probe

theorem alike_delete {tenantId : String} (stored : service.getById profileId = some profile)
    (foreign : profile.tenantId ≠ tenantId) :
    Alike tenantId service (service.delete profileId) where
  own := by
    unfold TenantConfigStore.getByTenant TenantConfigStore.listAll OrderedMap.values
    change ((ObjectMap.delete _ _).view.entries.map _).filter _ = _
    rw [ObjectMap.view_delete, List.filter_map, List.filter_map]
    simp only [OrderedMap.delete, OrderedMap.restrict, List.filter_filter]
    congr 1
    apply List.filter_congr
    rintro ⟨id, found⟩ member
    -- The deleted entry is one of those that the tenant does not see.
    have there : service.getById id = some found := by
      rw [← OrderedMap.get_eq_some_iff, ObjectMap.get_view] at member
      exact member
    by_cases same : id = profileId
    · subst same
      rw [stored, Option.some.injEq] at there
      subst there
      simp [foreign]
    · simp [same]
  noMore id absent := by
    rw [getById_delete]
    split
    · rfl
    · exact absent
  credentials := rfl

theorem known_delete {requiredRole : ControlPlaneRole} {actor : ActorContext}
    (rank : requiredRole.rank ≤ actor.role.rank) :
    (service.delete profileId).known requiredRole profileId actor =
      .error (.notFound profileId) := by
  simp [known, authorized, Nat.not_lt.mpr rank]

/-- The probes return a value which they would not return without the profile. -/
theorem not_confined_of_probes (probes : Probes service call) :
    ¬ Confined library service call := by
  obtain ⟨profileId, profile, stored, foreign, request⟩ := probes
  intro confined
  have independent := fun value => confined.independent (service.delete profileId) value
    (alike_delete stored foreign)
  simp only [step_answer] at independent
  rcases request with tested | ⟨checked, role⟩
  · have rank : ControlPlaneRole.viewer.rank ≤ call.actor.role.rank := Nat.zero_le _
    have decided : service.known .viewer profileId call.actor = .ok profile :=
      known_eq_ok_iff.mpr ⟨rank, stored⟩
    have returned := independent (.connection (reachable profile) call.latencyMs) (by
      simp only [answer, tested, decided]
      rfl)
    simp only [answer, tested, known_delete rank] at returned
    cases returned
  · have rank : ControlPlaneRole.tenantAdmin.rank ≤ call.actor.role.rank := by rw [role]
    have decided : service.known .tenantAdmin profileId call.actor = .ok profile :=
      known_eq_ok_iff.mpr ⟨rank, stored⟩
    have returned := independent (.preflight (findings service profile call.draws call.latencyMs))
      (by
        simp only [answer, checked, decided]
        rfl)
    simp only [answer, checked, known_delete rank] at returned
    cases returned

end Probe

/-- After every run, a call with a fresh id by an actor other than a platform administrator
is confined to the actor's tenant exactly when it is no preflight by a tenant
administrator and no connection test of a profile of another tenant. -/
theorem confined_iff_not_probes (library : SchemaLibrary) (inputs : List Input) (call : Call)
    (plain : call.actor.role ≠ .platformAdmin)
    (fresh : FreshIds ((machine library).run ControlPlane.empty inputs) (.call call)) :
    Confined library ((machine library).run ControlPlane.empty inputs) call ↔
      ¬ Probes ((machine library).run ControlPlane.empty inputs) call := by
  refine ⟨fun confined probes => not_confined_of_probes probes confined, fun blind => ⟨?_, ?_⟩⟩
  · exact fun id profile foreign => untouched_of_not_probes plain fresh blind foreign
  · intro other value alike returned
    rw [step_answer] at returned ⊢
    exact independent_of_not_probes plain blind alike returned

/-- The administrator of tenant `t` checks its serving profile. -/
theorem confined_in_own_preflight : Confined sampleLibrary
      ((machine sampleLibrary).run ControlPlane.empty
        (bringUp "p" (sampleInput "t" none .dynamodb) sampleAdmin))
      ⟨.runPreflight "p", sampleAdmin, ⟨fun _ => "q", fun _ => "later"⟩, 0⟩ := by
  refine (confined_iff_not_probes sampleLibrary _ _ (by decide) ?_).mpr ?_
  · intro input request
    cases request
  · rintro ⟨profileId, profile, stored, foreign, request | ⟨request, _⟩⟩
    · cases request
    · cases request
      cases stored
      exact foreign rfl

/-- The administrator of tenant `u` takes the serving profile of tenant `t` out of service
by checking it. -/
theorem foreign_preflight_is_not_confined :
    let service := (machine sampleLibrary).run ControlPlane.empty
      (bringUp "p" (sampleInput "t" none .dynamodb) sampleAdmin)
    let call : Call :=
      ⟨.runPreflight "p", ⟨"intruder", "u", .tenantAdmin⟩, ⟨fun _ => "q", fun _ => "later"⟩, 0⟩
    (service.getById "p").map (·.status) = some .active ∧
      (((machine sampleLibrary).step service (.call call)).1.getById "p").map (·.status) =
        some .validating ∧
      ¬ Confined sampleLibrary service call :=
  ⟨rfl, rfl, not_confined_of_probes ⟨"p", _, rfl, by decide, .inr ⟨rfl, rfl⟩⟩⟩

end ControlPlaneService

end Caas.Datastore
