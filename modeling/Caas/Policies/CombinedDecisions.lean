import Mathlib.Data.List.Pairwise
import Mathlib.Data.List.Perm.Basic
import Caas.Policies.PolicyEngine

/-!
# What a decision says about the policies

A policy applies when its target matches and all its conditions evaluate to true. Decisions are
a matter of the policies that apply: of their effects under the two overriding algorithms, of
the one of highest priority under the third. Two policies of one priority are told apart by the
order in which they were loaded.
-/

namespace Caas.Policies

open Js PolicyEngine OrderedMap

variable (patterns : Patterns) (request : AccessRequest)

def Applies (policy : Policy) : Prop :=
  TargetMatcher.matchesTarget patterns policy.target request = true ∧
    ∀ condition ∈ policy.conditions, ConditionEvaluator.evaluate patterns request condition = true

/-- The policies allow the request under an algorithm. -/
def Grants (policies : List Policy) : CombiningAlgorithm → Prop
  | .denyOverrides =>
    (∃ policy ∈ policies, Applies patterns request policy) ∧
      ∀ policy ∈ policies, Applies patterns request policy → policy.effect = .allow
  | .allowOverrides =>
    ∃ policy ∈ policies, Applies patterns request policy ∧ policy.effect = .allow
  | .firstApplicable =>
    ∃ policy ∈ policies, Applies patterns request policy ∧ policy.effect = .allow ∧
      ∀ other ∈ policies, Applies patterns request other → other.priority ≤ policy.priority

/-- The algorithm does not have to choose between policies of one priority. -/
def Decisive (algorithm : CombiningAlgorithm) (policies : List Policy) : Prop :=
  algorithm = .firstApplicable →
    policies.Pairwise fun policy other => policy.priority ≠ other.priority

/-- An engine after a number of calls of `loadPolicies`. -/
def loaded (algorithm : CombiningAlgorithm) (batches : List (List Policy)) : PolicyEngine :=
  batches.foldl loadPolicies (create algorithm)

/-! ## Loading -/

section Loading

variable {algorithm : CombiningAlgorithm}

theorem combiningAlgorithm_loadPolicies (engine : PolicyEngine) (policies : List Policy) :
    (engine.loadPolicies policies).combiningAlgorithm = engine.combiningAlgorithm := by
  induction policies generalizing engine with
  | nil => rfl
  | cons policy rest ih =>
    rw [loadPolicies, List.foldl_cons]
    refine (ih _).trans ?_
    unfold loadPolicy
    split <;> rfl

theorem combiningAlgorithm_loaded (batches : List (List Policy)) :
    (loaded algorithm batches).combiningAlgorithm = algorithm := by
  have kept : ∀ engine : PolicyEngine,
      (batches.foldl loadPolicies engine).combiningAlgorithm = engine.combiningAlgorithm := by
    induction batches with
    | nil => exact fun engine => rfl
    | cons batch rest ih =>
      exact fun engine => (ih _).trans (combiningAlgorithm_loadPolicies engine batch)
  exact kept (create algorithm)

theorem values_loadPolicies {engine : PolicyEngine} {policies : List Policy}
    (valid : ∀ policy ∈ policies, policy.Valid)
    (distinct : ((engine.policies.values ++ policies).map (·.id)).Nodup) :
    (engine.loadPolicies policies).policies.values = engine.policies.values ++ policies := by
  induction policies generalizing engine with
  | nil => exact (List.append_nil _).symm
  | cons policy rest ih =>
    obtain ⟨here, later⟩ := List.forall_mem_cons.mp valid
    have keys : engine.policies.entries.map Prod.fst = engine.policies.values.map (·.id) := by
      rw [values, List.map_map]
      exact List.map_congr_left fun entry member => (engine.accepted entry member).1
    have absent : policy.id ∉ engine.policies.entries.map Prod.fst := by
      rw [keys]
      rw [List.map_append, List.map_cons, List.nodup_append] at distinct
      exact fun present => distinct.2.2 _ present _ List.mem_cons_self rfl
    have added : (engine.loadPolicy policy).policies.values =
        engine.policies.values ++ [policy] := by
      rw [loadPolicy, dif_pos here]
      simp [values, entries_set_of_absent policy absent]
    rw [loadPolicies, List.foldl_cons]
    refine (ih later ?_).trans ?_
    · rwa [added, List.append_assoc]
    · rw [added, List.append_assoc]
      rfl

theorem values_loaded {batches : List (List Policy)}
    (valid : ∀ policy ∈ batches.flatten, policy.Valid)
    (distinct : (batches.flatten.map (·.id)).Nodup) :
    (loaded algorithm batches).policies.values = batches.flatten := by
  have appended : ∀ engine : PolicyEngine,
      ((engine.policies.values ++ batches.flatten).map (·.id)).Nodup →
        (batches.foldl loadPolicies engine).policies.values =
          engine.policies.values ++ batches.flatten := by
    clear distinct
    induction batches with
    | nil => exact fun engine _ => (List.append_nil _).symm
    | cons batch rest ih =>
      intro engine distinct
      rw [List.flatten_cons, ← List.append_assoc] at distinct
      rw [List.flatten_cons] at valid
      have first := values_loadPolicies
        (fun policy member => valid policy (List.mem_append_left _ member))
        (distinct.sublist ((List.sublist_append_left _ _).map _))
      rw [List.foldl_cons,
        ih (fun policy member => valid policy (List.mem_append_right _ member)) _
          (by rwa [first]), first, List.append_assoc, List.flatten_cons]
  exact appended (create algorithm) distinct

end Loading

/-! ## Deciding -/

/-- The decision that an algorithm makes of the applying policies in their order. -/
def decided (algorithm : CombiningAlgorithm) (evaluationTimeMs : Int) :
    List Policy → PolicyDecision
  | [] => noApplicablePolicies evaluationTimeMs
  | first :: rest =>
    match algorithm with
    | .denyOverrides => DecisionCombiner.denyOverrides first rest evaluationTimeMs
    | .allowOverrides => DecisionCombiner.allowOverrides first rest evaluationTimeMs
    | .firstApplicable => DecisionCombiner.firstApplicable first evaluationTimeMs

/-- The applying policies in the order in which the combiner meets them. -/
def applying (engine : PolicyEngine) : List Policy :=
  sortByPriority ((engine.getApplicablePolicies patterns request).filter fun policy =>
    evaluatePolicy patterns policy request)

variable {patterns request}

theorem mem_sortByPriority {policies : List Policy} {policy : Policy} :
    policy ∈ sortByPriority policies ↔ policy ∈ policies := List.mem_insertionSort _

theorem pairwise_sortByPriority (policies : List Policy) :
    (sortByPriority policies).Pairwise fun policy later => later.priority ≤ policy.priority := by
  have total : Std.Total fun a b : Policy => b.priority - a.priority ≤ 0 :=
    ⟨fun a b => by simpa only [sub_nonpos] using le_total b.priority a.priority⟩
  have trans : IsTrans Policy fun a b => b.priority - a.priority ≤ 0 :=
    ⟨fun a b c first second => by
      rw [sub_nonpos] at first second ⊢
      exact second.trans first⟩
  exact (List.pairwise_insertionSort (fun a b : Policy => b.priority - a.priority ≤ 0)
    policies).imp sub_nonpos.mp

theorem mem_applying {engine : PolicyEngine} {policy : Policy} :
    policy ∈ applying patterns request engine ↔
      policy ∈ engine.policies.values ∧ Applies patterns request policy := by
  have conditions : evaluatePolicy patterns policy request = true ↔
      ∀ condition ∈ policy.conditions,
        ConditionEvaluator.evaluate patterns request condition = true := by
    cases listed : policy.conditions <;> simp [evaluatePolicy, listed]
  rw [applying, mem_sortByPriority, List.mem_filter, getApplicablePolicies, mem_sortByPriority,
    List.mem_filter, conditions, and_assoc, Applies]

theorem evaluate_eq_decided (engine : PolicyEngine) (evaluationTimeMs : Int) :
    engine.evaluate patterns request evaluationTimeMs =
      decided engine.combiningAlgorithm evaluationTimeMs (applying patterns request engine) := by
  have evaluated : ∀ policies : List Policy,
      ((policies.map fun policy => (policy, evaluatePolicy patterns policy request)).filter
        (·.2)).map (·.1) =
          policies.filter fun policy => evaluatePolicy patterns policy request := by
    intro policies
    rw [List.filter_map, List.map_map]
    exact List.map_id _
  unfold evaluate applying
  cases engine.getApplicablePolicies patterns request with
  | nil => rfl
  | cons first rest =>
    dsimp only
    rw [DecisionCombiner.combine, evaluated]
    cases sortByPriority ((first :: rest).filter fun policy =>
      evaluatePolicy patterns policy request) <;> rfl

section Combining

variable {evaluationTimeMs : Int} {policies : List Policy}

theorem denyOverrides_allow_iff :
    (decided .denyOverrides evaluationTimeMs policies).effect = .allow ↔
      policies ≠ [] ∧ ∀ policy ∈ policies, policy.effect ≠ .deny := by
  cases policies with
  | nil => simp [decided, noApplicablePolicies]
  | cons first rest =>
    rw [decided, DecisionCombiner.denyOverrides]
    cases found : (first :: rest).find? fun p => p.effect = .deny with
    | none =>
      have clear := List.find?_eq_none.mp found
      simpa using clear
    | some denyPolicy =>
      have denies := List.find?_some found
      simp only [decide_eq_true_eq] at denies
      simp only [reduceCtorEq, false_iff, not_and, not_forall, not_not]
      exact fun _ => ⟨denyPolicy, List.mem_of_find?_eq_some found, denies⟩

theorem allowOverrides_allow_iff :
    (decided .allowOverrides evaluationTimeMs policies).effect = .allow ↔
      ∃ policy ∈ policies, policy.effect = .allow := by
  cases policies with
  | nil => simp [decided, noApplicablePolicies]
  | cons first rest =>
    rw [decided, DecisionCombiner.allowOverrides]
    cases found : (first :: rest).find? fun p => p.effect = .allow with
    | none =>
      have clear := List.find?_eq_none.mp found
      simpa using clear
    | some allowPolicy =>
      have allows := List.find?_some found
      simp only [decide_eq_true_eq] at allows
      simp only [true_iff]
      exact ⟨allowPolicy, List.mem_of_find?_eq_some found, allows⟩

theorem firstApplicable_allow_iff
    (sorted : policies.Pairwise fun policy later => later.priority ≤ policy.priority)
    (distinct : ∀ policy ∈ policies, ∀ other ∈ policies, policy.priority = other.priority →
      policy = other) : (decided .firstApplicable evaluationTimeMs policies).effect = .allow ↔
      ∃ policy ∈ policies, policy.effect = .allow ∧
        ∀ other ∈ policies, other.priority ≤ policy.priority := by
  cases policies with
  | nil => simp [decided, noApplicablePolicies]
  | cons first rest =>
    have highest : ∀ other ∈ first :: rest, other.priority ≤ first.priority :=
      List.forall_mem_cons.mpr ⟨le_refl _, (List.pairwise_cons.mp sorted).1⟩
    constructor
    · exact fun allows => ⟨first, List.mem_cons_self, allows, highest⟩
    · rintro ⟨policy, member, allows, above⟩
      have same := distinct policy member first List.mem_cons_self
        (le_antisymm (highest policy member) (above first List.mem_cons_self))
      rwa [same] at allows

theorem effect_decided (algorithm : CombiningAlgorithm)
    (two : ∀ policy ∈ policies, policy.effect = .allow ∨ policy.effect = .deny) :
    (decided algorithm evaluationTimeMs policies).effect = .allow ∨
      (decided algorithm evaluationTimeMs policies).effect = .deny := by
  cases policies with
  | nil => exact .inr rfl
  | cons first rest =>
    cases algorithm with
    | denyOverrides =>
      simp only [decided, DecisionCombiner.denyOverrides]
      split
      · exact .inr rfl
      · exact .inl rfl
    | allowOverrides =>
      simp only [decided, DecisionCombiner.allowOverrides]
      split
      · exact .inl rfl
      · exact .inr rfl
    | firstApplicable => exact two first List.mem_cons_self

theorem matched_decided (algorithm : CombiningAlgorithm)
    (two : ∀ policy ∈ policies, policy.effect = .allow ∨ policy.effect = .deny) {id : String}
    (matched : id ∈ (decided algorithm evaluationTimeMs policies).matchedPolicies) :
    ∃ policy ∈ policies, policy.id = id ∧
      policy.effect = (decided algorithm evaluationTimeMs policies).effect := by
  cases policies with
  | nil => exact absurd matched List.not_mem_nil
  | cons first rest =>
    cases algorithm with
    | denyOverrides =>
      simp only [decided, DecisionCombiner.denyOverrides] at matched ⊢
      cases found : (first :: rest).find? fun p => p.effect = .deny with
      | none =>
        simp only [found] at matched ⊢
        obtain ⟨policy, member, rfl⟩ := List.mem_map.mp matched
        have spared := List.find?_eq_none.mp found policy member
        exact ⟨policy, member, rfl, (two policy member).resolve_right (by simpa using spared)⟩
      | some denyPolicy =>
        simp only [found] at matched ⊢
        have denies := List.find?_some found
        exact ⟨denyPolicy, List.mem_of_find?_eq_some found, (List.mem_singleton.mp matched).symm,
          by simpa using denies⟩
    | allowOverrides =>
      simp only [decided, DecisionCombiner.allowOverrides] at matched ⊢
      cases found : (first :: rest).find? fun p => p.effect = .allow with
      | none =>
        simp only [found] at matched ⊢
        obtain ⟨policy, member, rfl⟩ := List.mem_map.mp matched
        have spared := List.find?_eq_none.mp found policy member
        exact ⟨policy, member, rfl, (two policy member).resolve_left (by simpa using spared)⟩
      | some allowPolicy =>
        simp only [found] at matched ⊢
        have allows := List.find?_some found
        exact ⟨allowPolicy, List.mem_of_find?_eq_some found, (List.mem_singleton.mp matched).symm,
          by simpa using allows⟩
    | firstApplicable =>
      exact ⟨first, List.mem_cons_self, (List.mem_singleton.mp matched).symm, rfl⟩

end Combining

/-! ## What the engine decides -/

section Engine

variable {algorithm : CombiningAlgorithm} {policies : List Policy} {batches : List (List Policy)}
  {evaluationTimeMs : Int}

theorem mem_applying_loaded (distinct : (policies.map (·.id)).Nodup)
    (valid : ∀ policy ∈ policies, policy.Valid) (order : batches.flatten.Perm policies)
    {policy : Policy} : policy ∈ applying patterns request (loaded algorithm batches) ↔
      policy ∈ policies ∧ Applies patterns request policy := by
  rw [mem_applying, values_loaded (fun policy member => valid policy (order.subset member))
    ((order.map _).nodup_iff.mpr distinct), order.mem_iff]

theorem two_effects (engine : PolicyEngine) : ∀ policy ∈ applying patterns request engine,
    policy.effect = .allow ∨ policy.effect = .deny := by
  intro policy member
  obtain ⟨entry, stored, rfl⟩ := List.mem_map.mp (mem_applying.mp member).1
  exact (engine.accepted entry stored).2.effect

theorem effect_eq_of_allow_iff {engine engine' : PolicyEngine} {evaluationTimeMs' : Int}
    (alike : (engine.evaluate patterns request evaluationTimeMs).effect = .allow ↔
      (engine'.evaluate patterns request evaluationTimeMs').effect = .allow) :
    (engine.evaluate patterns request evaluationTimeMs).effect =
      (engine'.evaluate patterns request evaluationTimeMs').effect := by
  rw [evaluate_eq_decided, evaluate_eq_decided] at alike ⊢
  rcases effect_decided _ (two_effects engine) with allows | denies
  · rw [allows, alike.mp allows]
  · rcases effect_decided _ (two_effects engine') with allows' | denies'
    · rw [allows', alike.mpr allows']
    · rw [denies, denies']

theorem effect_loaded_iff (distinct : (policies.map (·.id)).Nodup)
    (valid : ∀ policy ∈ policies, policy.Valid) (order : batches.flatten.Perm policies)
    (decisive : Decisive algorithm policies) :
    ((loaded algorithm batches).evaluate patterns request evaluationTimeMs).effect = .allow ↔
      Grants patterns request policies algorithm := by
  have members := fun policy : Policy =>
    @mem_applying_loaded patterns request algorithm policies batches distinct valid order policy
  rw [evaluate_eq_decided, combiningAlgorithm_loaded]
  cases algorithm with
  | denyOverrides =>
    rw [denyOverrides_allow_iff, Grants]
    refine and_congr ?_ ⟨fun spared policy member applies => ?_, fun all policy member => ?_⟩
    · constructor
      · intro some
        obtain ⟨policy, member⟩ := List.exists_mem_of_ne_nil _ some
        exact ⟨policy, (members policy).mp member⟩
      · rintro ⟨policy, applies⟩
        exact List.ne_nil_of_mem ((members policy).mpr applies)
    · have applied := (members policy).mpr ⟨member, applies⟩
      exact (two_effects _ policy applied).resolve_right (spared policy applied)
    · obtain ⟨listed, applies⟩ := (members policy).mp member
      rw [all policy listed applies]
      exact PolicyEffect.noConfusion
  | allowOverrides =>
    rw [allowOverrides_allow_iff, Grants]
    refine exists_congr fun policy => ?_
    rw [members, and_assoc]
  | firstApplicable =>
    have one : ∀ policy ∈ policies, ∀ other ∈ policies, policy.priority = other.priority →
        policy = other := by
      intro policy member other member' same
      by_contra different
      have : Std.Symm fun policy other : Policy => policy.priority ≠ other.priority :=
        ⟨fun _ _ => Ne.symm⟩
      exact (decisive rfl).forall member member' different same
    have sorted : (applying patterns request (loaded .firstApplicable batches)).Pairwise
        fun policy later => later.priority ≤ policy.priority := pairwise_sortByPriority _
    rw [firstApplicable_allow_iff sorted fun policy member other member' =>
      one policy ((members policy).mp member).1 other ((members other).mp member').1, Grants]
    refine exists_congr fun policy => ?_
    rw [members, and_assoc]
    refine and_congr_right fun _ => and_congr_right fun _ => and_congr_right fun _ => ?_
    exact forall_congr' fun other => by rw [members, and_imp]

def openPolicy (id : String) (effect : PolicyEffect) (priority : ℚ) : Policy :=
  { id, name := id, effect, priority }

def memberRequest : AccessRequest :=
  { subject := { userId := "u1", tenantId := "t1" },
    resource := { type := "conversation", id := "c1", tenantId := "t1" }, action := "read" }

end Engine

end Caas.Policies
