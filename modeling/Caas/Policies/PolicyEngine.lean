import Caas.Policies.ConditionEvaluator
import Caas.Policies.TargetMatcher

/-!
# The policy engine

Policies are loaded by id, invalid ones are skipped. A request is decided by the policies whose
target and conditions it meets, in descending order of priority.

Priorities are finite numbers. The checks of the parser that every value of the type passes are
left out: that the priority is a number, that there is a target, and that lists are arrays.
-/

namespace Caas.Policies

open Js

/-- The effect of a policy, or any other text in its place. -/
inductive PolicyEffect where
  | allow
  | deny
  | other (text : String)
deriving DecidableEq

structure Policy where
  id : String
  name : String
  effect : PolicyEffect
  priority : ℚ := 0
  conditions : List Condition := []
  target : PolicyTarget := {}

namespace PolicyParser

/-- What is wrong with a condition at its top node. -/
def validateCondition : Condition → List String
  | .mk type operator path _ conditions =>
    (if (type.filter (· ≠ .other "")).isNone then ["Condition type is required"] else []) ++
      match type with
      | some .compound =>
        (if operator ∈ [some .and, some .or, some .not] then []
          else ["Compound condition operator must be \"and\", \"or\", or \"not\""]) ++
        (if conditions.isSome then [] else ["Compound condition must have conditions array"])
      | some .simple =>
        (if (path.filter (· ≠ "")).isSome then [] else ["Simple condition must have attribute"]) ++
        (if (operator.filter (· ≠ .other "")).isSome then []
          else ["Simple condition must have operator"])
      | _ => []

/-- The errors of a policy; a valid one has none. -/
def validate (policy : Policy) : List String :=
  (if policy.id = "" then ["Policy ID is required"] else []) ++
    (if policy.name = "" then ["Policy name is required"] else []) ++
      (if policy.effect ∈ [.allow, .deny] then []
        else ["Policy effect must be \"allow\" or \"deny\""]) ++
        policy.conditions.zipIdx.flatMap fun (condition, index) =>
          (validateCondition condition).map fun e => s!"Condition {index}: {e}"

end PolicyParser

def Policy.Valid (policy : Policy) : Prop := PolicyParser.validate policy = []

instance (policy : Policy) : Decidable policy.Valid :=
  inferInstanceAs (Decidable (PolicyParser.validate policy = []))

theorem Policy.Valid.effect {policy : Policy} (valid : policy.Valid) :
    policy.effect = .allow ∨ policy.effect = .deny := by
  have parts := valid
  simp only [Valid, PolicyParser.validate, List.append_eq_nil_iff, ite_eq_left_iff] at parts
  have listed : policy.effect ∈ [PolicyEffect.allow, .deny] := by
    by_contra absent
    exact List.cons_ne_nil _ _ (parts.1.2 absent)
  simpa using listed

inductive CombiningAlgorithm where
  | denyOverrides
  | allowOverrides
  | firstApplicable
deriving DecidableEq

structure PolicyDecision where
  effect : PolicyEffect
  reason : String
  matchedPolicies : List String
  evaluationTimeMs : Int
  cached : Bool

/-- `policies.sort((a, b) => b.priority - a.priority)`, which is stable. -/
def sortByPriority (policies : List Policy) : List Policy :=
  policies.insertionSort fun a b => b.priority - a.priority ≤ 0

def noApplicablePolicies (evaluationTimeMs : Int) : PolicyDecision :=
  { effect := .deny, reason := "No applicable policies found", matchedPolicies := [],
    evaluationTimeMs, cached := false }

namespace DecisionCombiner

def denyOverrides (first : Policy) (rest : List Policy) (evaluationTimeMs : Int) :
    PolicyDecision :=
  match (first :: rest).find? fun p => p.effect = .deny with
  | some denyPolicy =>
    { effect := .deny, reason := "Denied by policy: " ++ denyPolicy.name,
      matchedPolicies := [denyPolicy.id], evaluationTimeMs, cached := false }
  | none =>
    { effect := .allow, reason := "Allowed by policy: " ++ first.name,
      matchedPolicies := (first :: rest).map (·.id), evaluationTimeMs, cached := false }

def allowOverrides (first : Policy) (rest : List Policy) (evaluationTimeMs : Int) :
    PolicyDecision :=
  match (first :: rest).find? fun p => p.effect = .allow with
  | some allowPolicy =>
    { effect := .allow, reason := "Allowed by policy: " ++ allowPolicy.name,
      matchedPolicies := [allowPolicy.id], evaluationTimeMs, cached := false }
  | none =>
    { effect := .deny, reason := "Denied by policy: " ++ first.name,
      matchedPolicies := (first :: rest).map (·.id), evaluationTimeMs, cached := false }

def firstApplicable (first : Policy) (evaluationTimeMs : Int) : PolicyDecision :=
  { effect := first.effect,
    reason := (if first.effect = .allow then "Allowed" else "Denied") ++ " by policy: " ++
      first.name,
    matchedPolicies := [first.id], evaluationTimeMs, cached := false }

def combine (algorithm : CombiningAlgorithm) (evaluatedPolicies : List (Policy × Bool))
    (evaluationTimeMs : Int) : PolicyDecision :=
  match sortByPriority ((evaluatedPolicies.filter (·.2)).map (·.1)) with
  | [] => noApplicablePolicies evaluationTimeMs
  | first :: rest =>
    match algorithm with
    | .denyOverrides => denyOverrides first rest evaluationTimeMs
    | .allowOverrides => allowOverrides first rest evaluationTimeMs
    | .firstApplicable => firstApplicable first evaluationTimeMs

end DecisionCombiner

/-- The engine holds valid policies only, each under its own id. -/
structure PolicyEngine where
  combiningAlgorithm : CombiningAlgorithm := .denyOverrides
  policies : OrderedMap String Policy
  accepted : ∀ entry ∈ policies.entries, entry.1 = entry.2.id ∧ entry.2.Valid

namespace PolicyEngine

/-- `new PolicyEngine(combiningAlgorithm)`. -/
def create (combiningAlgorithm : CombiningAlgorithm) : PolicyEngine :=
  ⟨combiningAlgorithm, .empty, fun _ member => absurd member List.not_mem_nil⟩

/-- One round of the loading loop. -/
def loadPolicy (engine : PolicyEngine) (policy : Policy) : PolicyEngine :=
  if valid : policy.Valid then
    { engine with
      policies := engine.policies.set policy.id policy
      accepted := OrderedMap.forall_mem_setEntry engine.accepted ⟨rfl, valid⟩ }
  else engine

def loadPolicies (engine : PolicyEngine) (policies : List Policy) : PolicyEngine :=
  policies.foldl loadPolicy engine

variable (patterns : Patterns)

def getApplicablePolicies (engine : PolicyEngine) (request : AccessRequest) : List Policy :=
  sortByPriority (engine.policies.values.filter fun policy =>
    TargetMatcher.matchesTarget patterns policy.target request)

def evaluatePolicy (policy : Policy) (request : AccessRequest) : Bool :=
  policy.conditions.isEmpty ||
    policy.conditions.all fun condition => ConditionEvaluator.evaluate patterns request condition

def evaluate (engine : PolicyEngine) (request : AccessRequest) (evaluationTimeMs : Int) :
    PolicyDecision :=
  match engine.getApplicablePolicies patterns request with
  | [] => noApplicablePolicies evaluationTimeMs
  | first :: rest =>
    DecisionCombiner.combine engine.combiningAlgorithm
      ((first :: rest).map fun policy => (policy, evaluatePolicy patterns policy request))
      evaluationTimeMs

end PolicyEngine

end Caas.Policies
