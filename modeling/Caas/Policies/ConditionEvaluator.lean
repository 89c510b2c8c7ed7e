import Caas.Policies.AccessRequest

/-!
# The condition evaluator

Conditions are trees of compound and simple nodes. Every field may be missing or hold a text
that no type allows: the parser looks at the top node of a tree only.
-/

namespace Caas.Policies

/-- The type of a condition, or any other text in its place. -/
inductive ConditionType where
  | simple
  | compound
  | other (text : String)
deriving DecidableEq

/-- The operator of a condition, or any other text in its place. -/
inductive ConditionOperator where
  | equals
  | notEquals
  | contains
  | notContains
  | startsWith
  | endsWith
  | greaterThan
  | lessThan
  | matchesPattern
  | isIn
  | isNotIn
  | and
  | or
  | not
  | other (text : String)
deriving DecidableEq

/-- A condition: its type, operator, attribute, value and nested conditions. -/
inductive Condition where
  | mk (type : Option ConditionType) (operator : Option ConditionOperator)
    (path : Option String) (value : Attribute) (conditions : Option (List Condition))

namespace Condition

def compound (operator : ConditionOperator) (conditions : List Condition) : Condition :=
  .mk (some .compound) (some operator) none .undefined (some conditions)

def simple (path : String) (operator : ConditionOperator) (value : Attribute) : Condition :=
  .mk (some .simple) (some operator) (some path) value none

end Condition

namespace ConditionEvaluator

variable (patterns : Patterns) (request : AccessRequest)

/-- The walk along the parts of a path; `none` ends it. -/
def resolveAttribute (path : String) : Attribute :=
  ((path.toList.splitOn '.').foldl (fun value part => value.bind (·.member? (.ofList part)))
    (some request.value)).getD .undefined

def compareValues (actual expected : Attribute) : ConditionOperator → Bool
  | .equals => actual.strictEquals expected
  | .notEquals => !actual.strictEquals expected
  | .contains => actual.contains expected
  | .notContains => !actual.contains expected
  | .startsWith => actual.startsWith expected
  | .endsWith => actual.endsWith expected
  | .greaterThan => actual.greaterThan expected
  | .lessThan => actual.lessThan expected
  | .matchesPattern => actual.matchesPattern patterns expected
  | .isIn => actual.isIn expected
  | .isNotIn => actual.isNotIn expected
  | .and | .or | .not | .other _ => false

/-- An empty attribute or operator counts as a missing one. -/
def evaluateSimple (operator : Option ConditionOperator) (path : Option String)
    (value : Attribute) : Bool :=
  match path.filter (· ≠ ""), operator.filter (· ≠ .other "") with
  | some path, some operator =>
    compareValues patterns (resolveAttribute request path) value operator
  | _, _ => false

mutual

/-- Whatever is not compound is evaluated as a simple condition. -/
def evaluate : Condition → Bool
  | .mk type operator path value conditions =>
    if type = some .compound then evaluateCompound operator conditions
    else evaluateSimple patterns request operator path value

def evaluateCompound (operator : Option ConditionOperator) : Option (List Condition) → Bool
  | none => true
  | some [] => true
  | some (first :: rest) =>
    match operator with
    | some .and => evaluate first && every rest
    | some .or => evaluate first || someOf rest
    | some .not => !evaluate first
    | _ => false

/-- `conditions.every`. -/
def every : List Condition → Bool
  | [] => true
  | first :: rest => evaluate first && every rest

/-- `conditions.some`. -/
def someOf : List Condition → Bool
  | [] => false
  | first :: rest => evaluate first || someOf rest

end

section Equations

variable {patterns request}

theorem evaluate_compound (operator : Option ConditionOperator) (path : Option String)
    (value : Attribute) (conditions : Option (List Condition)) :
    evaluate patterns request (.mk (some .compound) operator path value conditions) =
      evaluateCompound patterns request operator conditions := rfl

variable (first : Condition) (rest : List Condition)

theorem evaluateCompound_and_cons :
    evaluateCompound patterns request (some .and) (some (first :: rest)) =
      (evaluate patterns request first && every patterns request rest) := rfl

theorem evaluateCompound_or_cons :
    evaluateCompound patterns request (some .or) (some (first :: rest)) =
      (evaluate patterns request first || someOf patterns request rest) := rfl

theorem evaluateCompound_not_cons :
    evaluateCompound patterns request (some .not) (some (first :: rest)) =
      !evaluate patterns request first := rfl

end Equations

end ConditionEvaluator

end Caas.Policies
