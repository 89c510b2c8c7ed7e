import Caas.Policies.CombinedDecisions

/-!
# Policies that are loaded again

A policy that is loaded under the id of an older one replaces it, unless the parser refuses it:
then the older one stays in force. `evaluate_updates` says what an engine decides by after any
calls of `loadPolicies`.
-/

namespace Caas.Policies

open Js PolicyEngine OrderedMap

/-- One of the policies, a valid one, takes the place of this one. -/
def Replaced (policies : List Policy) (policy : Policy) : Prop :=
  ∃ later ∈ policies, later.Valid ∧ later.id = policy.id

instance (policies : List Policy) (policy : Policy) : Decidable (Replaced policies policy) :=
  inferInstanceAs (Decidable (∃ later ∈ policies, _))

/-- Of each id the policy that is in force. -/
def latest : List Policy → List Policy
  | [] => []
  | policy :: rest =>
    if policy.Valid ∧ ¬ Replaced rest policy then policy :: latest rest else latest rest

variable {engine : PolicyEngine} {policies : List Policy} {policy next : Policy}

theorem mem_latest_cons : policy ∈ latest (next :: policies) ↔
    (next.Valid ∧ policy = next ∧ ¬ Replaced policies next) ∨ policy ∈ latest policies := by
  rw [latest]
  split
  · rename_i stays
    simp [stays]
  · rename_i goes
    constructor
    · exact .inr
    · rintro (⟨valid, -, stays⟩ | member)
      · exact absurd ⟨valid, stays⟩ goes
      · exact member

theorem valid_of_mem_latest (member : policy ∈ latest policies) :
    policy ∈ policies ∧ policy.Valid := by
  induction policies with
  | nil => cases member
  | cons next rest ih =>
    obtain ⟨valid, rfl, -⟩ | member := mem_latest_cons.mp member
    · exact ⟨List.mem_cons_self, valid⟩
    · exact ⟨List.mem_cons_of_mem _ (ih member).1, (ih member).2⟩

theorem nodup_latest (policies : List Policy) : ((latest policies).map (·.id)).Nodup := by
  induction policies with
  | nil => exact List.nodup_nil
  | cons next rest ih =>
    rw [latest]
    split
    · rename_i stays
      refine List.nodup_cons.mpr ⟨fun listed => ?_, ih⟩
      obtain ⟨later, member, same⟩ := List.mem_map.mp listed
      obtain ⟨member, valid⟩ := valid_of_mem_latest member
      exact stays.2 ⟨later, member, valid, same⟩
    · exact ih

theorem keys_eq_ids (engine : PolicyEngine) :
    engine.policies.entries.map Prod.fst = engine.policies.values.map (·.id) := by
  rw [values, List.map_map]
  exact List.map_congr_left fun entry member => (engine.accepted entry member).1

theorem mem_values_iff :
    policy ∈ engine.policies.values ↔ engine.policies.get policy.id = some policy := by
  rw [get_eq_some_iff]
  constructor
  · intro member
    obtain ⟨entry, stored, rfl⟩ := List.mem_map.mp member
    exact (engine.accepted entry stored).1 ▸ stored
  · exact fun stored => List.mem_map.mpr ⟨_, stored, rfl⟩

theorem mem_values_loadPolicy : policy ∈ (engine.loadPolicy next).policies.values ↔
    (next.Valid ∧ policy = next) ∨
      policy ∈ engine.policies.values ∧ ¬ (next.Valid ∧ next.id = policy.id) := by
  unfold loadPolicy
  split
  · rename_i valid
    rw [mem_values_iff, mem_values_iff, get_set]
    by_cases same : next.id = policy.id
    · simp [valid, same, eq_comm]
    · have other : policy ≠ next := fun equal => same (congrArg Policy.id equal.symm)
      simp [valid, same, other]
  · rename_i invalid
    simp [invalid]

/-- What is in force after a call: the latest of its policies, and those that it leaves alone. -/
theorem mem_values_loadPolicies : policy ∈ (engine.loadPolicies policies).policies.values ↔
    policy ∈ latest policies ∨ policy ∈ engine.policies.values ∧ ¬ Replaced policies policy := by
  induction policies generalizing engine with
  | nil => simp [loadPolicies, latest, Replaced]
  | cons next rest ih =>
    have either : Replaced (next :: rest) policy ↔
        (next.Valid ∧ next.id = policy.id) ∨ Replaced rest policy := List.exists_mem_cons_iff ..
    have first : policy = next ∧ ¬ Replaced rest policy ↔ policy = next ∧ ¬ Replaced rest next :=
      and_congr_right fun same => by rw [same]
    rw [loadPolicies, List.foldl_cons]
    refine (@ih (engine.loadPolicy next)).trans ?_
    rw [mem_values_loadPolicy, mem_latest_cons, either]
    tauto

/-- Whatever has been loaded before, and in whatever calls, an engine decides by the latest valid
policy of each id. -/
theorem evaluate_updates (algorithm : CombiningAlgorithm) (batches : List (List Policy))
    (decisive : Decisive algorithm (latest batches.flatten)) (patterns : Patterns)
    (request : AccessRequest) (evaluationTimeMs : Int) :
    ((loaded algorithm batches).evaluate patterns request evaluationTimeMs).effect = .allow ↔
      Grants patterns request (latest batches.flatten) algorithm := by
  have calls : loaded algorithm batches = (create algorithm).loadPolicies batches.flatten :=
    List.foldl_flatten.symm
  have members (policy : Policy) : policy ∈ (loaded algorithm batches).policies.values ↔
      policy ∈ latest batches.flatten := by
    rw [calls, mem_values_loadPolicies]
    exact or_iff_left fun none => List.not_mem_nil none.1
  have distinct : ((loaded algorithm batches).policies.values.map (·.id)).Nodup := by
    rw [← keys_eq_ids]
    exact (loaded algorithm batches).policies.nodup
  have order : (loaded algorithm batches).policies.values.Perm (latest batches.flatten) :=
    (List.perm_ext_iff_of_nodup distinct.of_map (nodup_latest _).of_map).mpr members
  -- An engine on which these policies are loaded at once holds the same ones.
  have again : (loaded algorithm [(loaded algorithm batches).policies.values]).policies.values =
      (loaded algorithm batches).policies.values :=
    (values_loaded (fun policy member => (valid_of_mem_latest ((members policy).mp
      (by simpa using member))).2) (by simpa using distinct)).trans (List.append_nil _)
  have alike : (loaded algorithm batches).evaluate patterns request evaluationTimeMs =
      (loaded algorithm [(loaded algorithm batches).policies.values]).evaluate patterns request
        evaluationTimeMs := by
    rw [evaluate_eq_decided, evaluate_eq_decided, combiningAlgorithm_loaded,
      combiningAlgorithm_loaded, applying, applying, getApplicablePolicies, getApplicablePolicies,
      again]
  rw [alike]
  exact effect_loaded_iff (nodup_latest _) (fun policy member => (valid_of_mem_latest member).2)
    (by simpa using order) decisive

/-- An update that the parser refuses changes nothing. -/
theorem evaluate_refused_update : ((loaded .denyOverrides [[openPolicy "a" .allow 1],
      [{ openPolicy "a" .deny 1 with name := "" }]]).evaluate (fun _ _ => none) memberRequest
        0).effect = .allow ↔ Grants (fun _ _ => none) memberRequest
          (latest [openPolicy "a" .allow 1, { openPolicy "a" .deny 1 with name := "" }])
            .denyOverrides :=
  evaluate_updates .denyOverrides _ (by rintro ⟨⟩) _ memberRequest 0

end Caas.Policies
