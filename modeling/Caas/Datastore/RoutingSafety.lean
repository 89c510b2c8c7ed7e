import Caas.Datastore.RoutingPolicyEngine
import Mathlib.Data.List.Induction

/-!
# Residency and ownership of routing decisions

What `resolve` guarantees depends on the source of its decision. A decision by
profile passes the residency check, a decision by rule or by default does not.
A decision by profile takes whichever profile was last set under the looked-up
key, and keys of different tenants can be the same text.
-/

namespace Caas.Datastore

open Js

/-- The profile is active, made for the tenant and the domain, and for the project or
for all of them. An empty project id is none. -/
structure DatastoreProfile.Serves (profile : DatastoreProfile) (tenantId : String)
    (domain : EntityDomain) (projectId : Option String) : Prop where
  tenant : profile.tenantId = tenantId
  active : profile.status = .active
  project : profile.projectId = projectId ∨ present profile.projectId = none
  domain : domain ∈ profile.allowedDomains

namespace RoutingPolicyEngine

variable (engine : RoutingPolicyEngine) (tenantId : String) (domain : EntityDomain)
  (projectId correlationId : Option String) (draws : Draws)

section Residency

/-- The rule `resolve` would use without a profile: it matches, and none of the
rules before it does. -/
def Governs (rule : RoutingRule) : Prop :=
  ∃ earlier later, engine.rules = earlier ++ rule :: later ∧
    ruleMatches rule tenantId domain projectId = true ∧
      ∀ other ∈ earlier, ruleMatches other tenantId domain projectId = false

/-- The resolution fails, or targets one of the allowed providers. -/
def KeepsResidency (allowedProviders : List ProviderId) : Prop :=
  (∃ error, (engine.resolve tenantId domain projectId correlationId draws).2 = .error error) ∨
    ∃ decision, (engine.resolve tenantId domain projectId correlationId draws).2 = .ok decision ∧
      decision.targetProvider ∈ allowedProviders

variable {engine tenantId domain projectId correlationId draws}

theorem provider_mem_of_enforceResidency {profile : DatastoreProfile} {policy : ResidencyPolicy}
    (governed : engine.residencyPolicies.get tenantId = some policy)
    (restrictive : policy.allowedProviders ≠ [])
    (passed : engine.enforceResidency tenantId profile = .ok ()) :
    profile.provider ∈ policy.allowedProviders := by
  by_contra forbidden
  have violation : policy.allowedProviders.length > 0 ∧
      profile.provider ∉ policy.allowedProviders :=
    ⟨List.length_pos_of_ne_nil restrictive, forbidden⟩
  unfold enforceResidency at passed
  rw [governed] at passed
  simp only [if_pos violation] at passed
  cases passed

theorem keepsResidency_of_activeProfile {profile : DatastoreProfile} {policy : ResidencyPolicy}
    (governed : engine.residencyPolicies.get tenantId = some policy)
    (restrictive : policy.allowedProviders ≠ [])
    (decided : engine.activeProfile tenantId projectId = some profile) :
    engine.KeepsResidency tenantId domain projectId correlationId draws
      policy.allowedProviders := by
  unfold KeepsResidency
  rw [resolve_snd, decisionFor, decided]
  cases checked : engine.enforceResidency tenantId profile with
  | error error => exact .inl ⟨error, by simp [checked, Except.map]⟩
  | ok _ =>
    have allowed := provider_mem_of_enforceResidency governed restrictive checked
    right
    refine ⟨buildDecision profile.provider tenantId domain .strong
      ("Active profile " ++ profile.id ++ " for tenant") (correlationId.getD (draws.uuid 0))
      projectId draws, ?_, allowed⟩
    simp [checked, Except.map]

theorem keepsResidency_iff_of_rule {rule : RoutingRule} {allowedProviders : List ProviderId}
    (undecided : engine.activeProfile tenantId projectId = none)
    (governs : engine.Governs tenantId domain projectId rule) :
    engine.KeepsResidency tenantId domain projectId correlationId draws allowedProviders ↔
      rule.provider ∈ allowedProviders := by
  obtain ⟨earlier, later, split, matching, unmatched⟩ := governs
  have found : (engine.rules.find? fun rule => ruleMatches rule tenantId domain projectId) =
      some rule := by
    rw [List.find?_eq_some_iff_append]
    exact ⟨matching, earlier, later, split, fun other member => by simp [unmatched other member]⟩
  unfold KeepsResidency
  rw [resolve_snd]
  simp [decisionFor, undecided, found, buildDecision]

theorem keepsResidency_iff_of_default {allowedProviders : List ProviderId}
    (undecided : engine.activeProfile tenantId projectId = none)
    (unmatched : ∀ rule ∈ engine.rules, ruleMatches rule tenantId domain projectId = false) :
    engine.KeepsResidency tenantId domain projectId correlationId draws allowedProviders ↔
      .mongodb ∈ allowedProviders := by
  have absent : (engine.rules.find? fun rule => ruleMatches rule tenantId domain projectId) =
      none := by
    rw [List.find?_eq_none]
    intro rule member
    simp [unmatched rule member]
  unfold KeepsResidency
  rw [resolve_snd]
  simp [decisionFor, undecided, absent, buildDecision]

theorem governs_or_unmatched : (∃ rule, engine.Governs tenantId domain projectId rule) ∨
      ∀ rule ∈ engine.rules, ruleMatches rule tenantId domain projectId = false := by
  cases found : engine.rules.find? fun rule => ruleMatches rule tenantId domain projectId with
  | none =>
    refine .inr fun rule member => ?_
    simpa using List.find?_eq_none.mp found rule member
  | some rule =>
    obtain ⟨matching, earlier, later, split, unmatched⟩ := List.find?_eq_some_iff_append.mp found
    exact .inl ⟨rule, earlier, later, split, matching, fun other member => by
      simpa using unmatched other member⟩

/-- After every sequence of calls, a tenant restricted to some providers is kept to
them exactly when an active profile decides, or the governing rule names one of
them, or no rule matches and MongoDB is one of them. -/
theorem residency_enforced_iff (operations : List Operation) (tenantId : String)
    (domain : EntityDomain) (projectId correlationId : Option String) (draws : Draws)
    {policy : ResidencyPolicy}
    (governed : (after operations).residencyPolicies.get tenantId = some policy)
    (restrictive : policy.allowedProviders ≠ []) :
    (after operations).KeepsResidency tenantId domain projectId correlationId draws
        policy.allowedProviders ↔ ((after operations).activeProfile tenantId projectId ≠ none ∨
        (∃ rule, (after operations).Governs tenantId domain projectId rule ∧
          rule.provider ∈ policy.allowedProviders) ∨
        ((∀ rule ∈ (after operations).rules, ruleMatches rule tenantId domain projectId = false) ∧
          .mongodb ∈ policy.allowedProviders)) := by
  cases decided : (after operations).activeProfile tenantId projectId with
  | some profile =>
    have kept := @keepsResidency_of_activeProfile _ _ domain _ correlationId draws _ _ governed
      restrictive decided
    exact iff_of_true kept (.inl (by simp))
  | none =>
    constructor
    · intro kept
      rcases governs_or_unmatched with ⟨rule, governs⟩ | unmatched
      · exact .inr (.inl ⟨rule, governs, (keepsResidency_iff_of_rule decided governs).mp kept⟩)
      · exact .inr (.inr ⟨unmatched, (keepsResidency_iff_of_default decided unmatched).mp kept⟩)
    · rintro (active | ⟨rule, governs, allowed⟩ | ⟨unmatched, allowed⟩)
      · exact absurd rfl active
      · exact (keepsResidency_iff_of_rule decided governs).mpr allowed
      · exact (keepsResidency_iff_of_default decided unmatched).mpr allowed

/-- A tenant kept to DynamoDB, with a rule that says so. -/
theorem residency_enforced_for_dynamodb_rule :
    let operations : List Operation :=
      [.setResidencyPolicy ⟨"t", [], [.dynamodb]⟩,
        .addRule
          { tenantId := some "t", provider := .dynamodb, consistency := .strong, priority := 1 }]
    (after operations).KeepsResidency "t" .messages none none ⟨fun _ => "uuid", fun _ => "now"⟩
      [.dynamodb] := by
  intro operations
  refine (@residency_enforced_iff operations "t" .messages none none _ ⟨"t", [], [.dynamodb]⟩ rfl
    (by simp)).mpr (.inr (.inl ?_))
  exact ⟨_, ⟨[], [], rfl, by decide, by simp⟩, by decide⟩

/-- Without any profile or rule, a tenant kept to DynamoDB is sent to MongoDB. -/
theorem default_breaks_residency :
    ¬ (after [.setResidencyPolicy ⟨"t", [], [.dynamodb]⟩]).KeepsResidency "t" .messages none none
      ⟨fun _ => "uuid", fun _ => "now"⟩ [.dynamodb] := by
  rintro (⟨error, failed⟩ | ⟨decision, decided, allowed⟩)
  · cases failed
  · cases decided
    exact absurd allowed (by decide)

end Residency

section Ownership

/-- `resolve` decides on the basis of `profile`. -/
def DecidesOn (profile : DatastoreProfile) : Prop :=
  engine.activeProfile tenantId projectId = some profile ∧
    ∃ decision, (engine.resolve tenantId domain projectId correlationId draws).2 = .ok decision

/-- The profile last set under `key`. -/
def lastSet (profiles : List DatastoreProfile) (key : String) : Option DatastoreProfile :=
  profiles.reverse.find? fun profile => profileKey profile.tenantId profile.projectId = key

/-- The profile last set under the key of the project or, failing that, of the tenant. -/
def governing (profiles : List DatastoreProfile) : Option DatastoreProfile :=
  (lastSet profiles (profileKey tenantId projectId)).or (lastSet profiles tenantId)

variable {tenantId domain projectId correlationId draws}

theorem profiles_get_after (profiles : List DatastoreProfile) (key : String) :
    (after (profiles.map .setProfile)).profiles.get key = lastSet profiles key := by
  induction profiles using List.reverseRecOn with
  | nil => rfl
  | append_singleton earlier profile ih =>
    have split : after ((earlier ++ [profile]).map .setProfile) =
        (after (earlier.map .setProfile)).setProfile profile := by
      simp [after, apply, List.foldl_append]
    rw [split, setProfile, OrderedMap.get_set, ih]
    by_cases same : profileKey profile.tenantId profile.projectId = key <;>
      simp [lastSet, same]

theorem getProfile_after (profiles : List DatastoreProfile) :
    (after (profiles.map .setProfile)).getProfile tenantId projectId =
      governing tenantId projectId profiles := by
  have bare : profileKey tenantId none = tenantId := rfl
  rw [getProfile, profiles_get_after, profiles_get_after, bare, governing]

theorem residencyPolicies_after (profiles : List DatastoreProfile) :
    (after (profiles.map .setProfile)).residencyPolicies = .empty := by
  let Unrestricted (engine : RoutingPolicyEngine) : Prop := engine.residencyPolicies = .empty
  suffices kept : ∀ engine, Unrestricted engine → ∀ operation ∈ profiles.map .setProfile,
      Unrestricted (apply engine operation) from
    @List.foldlRecOn _ _ Unrestricted _ apply empty rfl kept
  intro engine unrestricted operation member
  obtain ⟨profile, _, rfl⟩ := List.mem_map.mp member
  exact unrestricted

theorem decidesOn_iff (profiles : List DatastoreProfile) (profile : DatastoreProfile) :
    (after (profiles.map .setProfile)).DecidesOn tenantId domain projectId correlationId draws
        profile ↔
      governing tenantId projectId profiles = some profile ∧ profile.status = .active := by
  have decided : (after (profiles.map .setProfile)).activeProfile tenantId projectId =
      some profile ↔
        governing tenantId projectId profiles = some profile ∧ profile.status = .active := by
    rw [activeProfile, getProfile_after, Option.filter_eq_some_iff]
    simp
  unfold DecidesOn
  rw [decided]
  refine and_iff_left_of_imp fun found => ?_
  have passed : (after (profiles.map .setProfile)).enforceResidency tenantId profile = .ok () := by
    unfold enforceResidency
    rw [residencyPolicies_after]
    rfl
  rw [resolve_snd, decisionFor, decided.mpr found]
  simp only [passed, Except.map]
  exact ⟨_, rfl⟩

theorem profileKey_injective {projectId projectId' : Option String}
    (same : profileKey tenantId projectId = profileKey tenantId projectId') :
    present projectId = present projectId' := by
  unfold profileKey at same
  have longer : ∀ project, tenantId ++ "::" ++ project ≠ tenantId := by
    intro project equal
    have lengths := congrArg String.length equal
    simp only [String.length_append] at lengths
    have separator : "::".length = 2 := rfl
    omega
  cases left : present projectId with
  | none =>
    cases right : present projectId' with
    | none => rfl
    | some project =>
      rw [left, right] at same
      exact absurd same.symm (longer project)
  | some project =>
    cases right : present projectId' with
    | none =>
      rw [left, right] at same
      exact absurd same (longer project)
    | some project' =>
      rw [left, right] at same
      rw [(String.append_right_inj _).mp same]

theorem project_of_governing {profiles : List DatastoreProfile} {profile : DatastoreProfile}
    (found : governing tenantId projectId profiles = some profile)
    (own : profile.tenantId = tenantId) :
    profile.projectId = projectId ∨ present profile.projectId = none := by
  have keyed : ∀ key, lastSet profiles key = some profile →
      profileKey tenantId profile.projectId = key := by
    intro key last
    have stored := List.find?_some last
    rw [← own]
    simpa using stored
  rcases Option.or_eq_some_iff.mp found with direct | ⟨_, fallback⟩
  · have same := profileKey_injective (keyed _ direct)
    cases named : present profile.projectId with
    | none => exact .inr rfl
    | some project =>
      rw [named] at same
      have here := (Option.filter_eq_some_iff.mp named).1
      have there := (Option.filter_eq_some_iff.mp same.symm).1
      exact .inl (here.trans there.symm)
  · have bare : profileKey tenantId none = tenantId := rfl
    exact .inr (profileKey_injective ((keyed _ fallback).trans bare.symm))

/-- After every sequence of `setProfile`, a resolution is based only on profiles that
serve it exactly when the profile last set under its key, if active, is of the
resolved tenant and lists the domain. -/
theorem profile_decisions_serve_iff (profiles : List DatastoreProfile) (tenantId : String)
    (domain : EntityDomain) (projectId correlationId : Option String) (draws : Draws) :
    (∀ profile, (after (profiles.map .setProfile)).DecidesOn tenantId domain projectId
        correlationId draws profile → profile.Serves tenantId domain projectId) ↔
      ∀ profile, governing tenantId projectId profiles = some profile →
        profile.status = .active → profile.tenantId = tenantId ∧
          domain ∈ profile.allowedDomains := by
  constructor
  · intro sound profile found active
    have serves := sound profile ((decidesOn_iff profiles profile).mpr ⟨found, active⟩)
    exact ⟨serves.tenant, serves.domain⟩
  · intro fits profile decides
    obtain ⟨found, active⟩ := (decidesOn_iff profiles profile).mp decides
    obtain ⟨own, listed⟩ := fits profile found active
    exact ⟨own, active, project_of_governing found own, listed⟩

/-- The tenant `a::b` decides for the project `b` of the tenant `a`, and a profile
for messages decides for users. -/
theorem profile_decides_for_others :
    let draws : Draws := ⟨fun _ => "uuid", fun _ => "now"⟩
    let profile : DatastoreProfile :=
      { id := "p", tenantId := "a::b", provider := .dynamodb, region := "eu",
        allowedDomains := [.messages], status := .active }
    let engine := after [.setProfile profile]
    (engine.DecidesOn "a" .messages (some "b") none draws profile ∧
        ¬ profile.Serves "a" .messages (some "b")) ∧
      (engine.DecidesOn "a::b" .users none none draws profile ∧
        ¬ profile.Serves "a::b" .users none) := by
  intro draws profile engine
  refine ⟨⟨⟨by decide, _, rfl⟩, ?_⟩, ⟨⟨by decide, _, rfl⟩, ?_⟩⟩
  · intro serves
    exact absurd serves.tenant (by decide)
  · intro serves
    exact absurd serves.domain (by decide)

end Ownership

end RoutingPolicyEngine

end Caas.Datastore
