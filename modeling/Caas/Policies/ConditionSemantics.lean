import Mathlib.Logic.Relation
import Caas.Machine.Kleene
import Caas.Policies.PolicyEngine

/-!
# What conditions mean

A condition means the boolean expression it spells, in three-valued logic: a node that spells
none has no value. Trees of regular nodes evaluate to what they mean (`meaning_eq_evaluate`). Any
other node goes wrong as it stands or under a negation (`regular_of_agree`).
-/

namespace Caas.Policies

namespace ConditionOperator

def isComparison : ConditionOperator → Bool
  | .and | .or | .not | .other _ => false
  | _ => true

end ConditionOperator

open ConditionEvaluator

namespace Condition

/-- A compound condition has `child` among its conditions. -/
def Child : Condition → Condition → Prop
  | .mk type _ _ _ conditions, child =>
    type = some .compound ∧ ∃ children, conditions = some children ∧ child ∈ children

/-- `nested` is `condition` or somewhere below it. -/
def Nested (condition nested : Condition) : Prop := Relation.ReflTransGen Child condition nested

section Meaning

variable (patterns : Patterns) (request : AccessRequest)

mutual

def meaning : Condition → Option Bool
  | .mk (some .compound) operator _ _ (some children) =>
    match operator, children with
    | some .and, children => Kleene.conj (meanings children)
    | some .or, children => Kleene.disj (meanings children)
    | some .not, [child] => Kleene.neg (meaning child)
    | _, _ => none
  | .mk (some .simple) (some operator) (some path) value _ =>
    if path ≠ "" ∧ operator.isComparison then
      some (compareValues patterns (resolveAttribute request path) value operator)
    else none
  | _ => none

def meanings : List Condition → List (Option Bool)
  | [] => []
  | first :: rest => meaning first :: meanings rest

end

variable {patterns : Patterns} {request : AccessRequest}

section Nodes

variable (path : Option String) (value : Attribute)

theorem meaning_conjunction (children : List Condition) :
    meaning patterns request (.mk (some .compound) (some .and) path value (some children)) =
      Kleene.conj (meanings patterns request children) := rfl

theorem meaning_disjunction (children : List Condition) :
    meaning patterns request (.mk (some .compound) (some .or) path value (some children)) =
      Kleene.disj (meanings patterns request children) := rfl

theorem meaning_negation (child : Condition) :
    meaning patterns request (.mk (some .compound) (some .not) path value (some [child])) =
      Kleene.neg (meaning patterns request child) := rfl

end Nodes

variable {children : List Condition} (conditions : List Condition)

theorem meanings_eq_map :
    meanings patterns request conditions = conditions.map (meaning patterns request) := by
  induction conditions with
  | nil => rfl
  | cons first rest ih => exact congrArg (meaning patterns request first :: ·) ih

theorem every_eq_all :
    every patterns request conditions = conditions.all (evaluate patterns request) := by
  induction conditions with
  | nil => rfl
  | cons first rest ih => exact congrArg (evaluate patterns request first && ·) ih

theorem someOf_eq_any :
    someOf patterns request conditions = conditions.any (evaluate patterns request) := by
  induction conditions with
  | nil => rfl
  | cons first rest ih => exact congrArg (evaluate patterns request first || ·) ih

end Meaning

theorem induction {holds : Condition → Prop}
    (step : ∀ condition, (∀ child, Child condition child → holds child) → holds condition)
    (condition : Condition) : holds condition := by
  refine @Condition.rec holds
    (fun conditions => ∀ children, conditions = some children → ∀ child ∈ children, holds child)
    (fun children => ∀ child ∈ children, holds child)
    (fun type operator path value conditions below => ?_) ?_ ?_ ?_ ?_ condition
  · refine step _ ?_
    rintro child ⟨-, children, given, member⟩
    exact below children given child member
  · exact fun children given => absurd given (Option.some_ne_none children).symm
  · rintro children below _ ⟨⟩
    exact below
  · exact fun child member => absurd member List.not_mem_nil
  · exact fun first rest here later => List.forall_mem_cons.mpr ⟨here, later⟩

/-- Every node spells a boolean expression, and no disjunction is empty. -/
inductive Regular : Condition → Prop
  | conjunction {path : Option String} {value : Attribute} {children : List Condition}
      (each : ∀ child ∈ children, Regular child) :
      Regular (.mk (some .compound) (some .and) path value (some children))
  | disjunction {path : Option String} {value : Attribute} {children : List Condition}
      (nonempty : children ≠ []) (each : ∀ child ∈ children, Regular child) :
      Regular (.mk (some .compound) (some .or) path value (some children))
  | negation {path : Option String} {value : Attribute} {child : Condition}
      (only : Regular child) :
      Regular (.mk (some .compound) (some .not) path value (some [child]))
  | comparison {operator : ConditionOperator} {path : String} {value : Attribute}
      {conditions : Option (List Condition)} (compares : operator.isComparison = true)
      (named : path ≠ "") :
      Regular (.mk (some .simple) (some operator) (some path) value conditions)

theorem Regular.child {condition child : Condition} (regular : Regular condition)
    (below : Child condition child) : Regular child := by
  cases regular with
  | conjunction each | disjunction _ each =>
    obtain ⟨-, _, ⟨⟩, member⟩ := below
    exact each child member
  | negation only =>
    obtain ⟨-, _, ⟨⟩, member⟩ := below
    rwa [List.mem_singleton.mp member]
  | comparison compares named =>
    obtain ⟨compound, -⟩ := below
    cases compound

section Agreement

variable {patterns : Patterns} {request : AccessRequest}

theorem map_meaning_eq {children : List Condition} (each : ∀ child ∈ children,
      meaning patterns request child = some (evaluate patterns request child)) :
    children.map (meaning patterns request) =
      (children.map (evaluate patterns request)).map some := by
  rw [List.map_map]
  exact List.map_congr_left each

theorem evaluateCompound_and (children : List Condition) :
    evaluateCompound patterns request (some .and) (some children) =
      children.all (evaluate patterns request) := by
  cases children with
  | nil => rfl
  | cons first rest => rw [evaluateCompound_and_cons, every_eq_all, List.all_cons]

theorem evaluateCompound_or {children : List Condition} (nonempty : children ≠ []) :
    evaluateCompound patterns request (some .or) (some children) =
      children.any (evaluate patterns request) := by
  cases children with
  | nil => exact absurd rfl nonempty
  | cons first rest => rw [evaluateCompound_or_cons, someOf_eq_any, List.any_cons]

theorem meaning_eq_evaluate {condition : Condition} (regular : Regular condition) :
    meaning patterns request condition = some (evaluate patterns request condition) := by
  induction regular with
  | conjunction _ ih =>
    rw [meaning_conjunction, meanings_eq_map, map_meaning_eq ih, Kleene.conj_map_some,
      evaluate_compound, evaluateCompound_and, List.all_map]
    rfl
  | disjunction nonempty _ ih =>
    rw [meaning_disjunction, meanings_eq_map, map_meaning_eq ih, Kleene.disj_map_some,
      evaluate_compound, evaluateCompound_or nonempty, List.any_map]
    rfl
  | negation _ ih =>
    rw [meaning_negation, ih, Kleene.neg_some, evaluate_compound, evaluateCompound_not_cons]
  | @comparison operator path value conditions compares named =>
    have present : operator ≠ .other "" := by
      rintro rfl
      cases compares
    rw [meaning, if_pos ⟨named, compares⟩, evaluate, if_neg (by decide), evaluateSimple]
    simp [Option.filter, named, present]

/-- A condition evaluates to true exactly when it means true. -/
def Agrees (patterns : Patterns) (request : AccessRequest) (condition : Condition) : Prop :=
  evaluate patterns request condition = true ↔ meaning patterns request condition = some true

def negated (condition : Condition) : Condition := .compound .not [condition]

theorem meaning_ne_none {condition : Condition} (agrees : Agrees patterns request condition)
    (opposite : Agrees patterns request (negated condition)) :
    meaning patterns request condition ≠ none := by
  intro unknown
  have wrong : evaluate patterns request condition = false := by
    rw [Agrees, unknown] at agrees
    exact Bool.eq_false_iff.mpr fun holds => (Option.some_ne_none true).symm (agrees.mp holds)
  have right : evaluate patterns request (negated condition) = true := by
    rw [negated, compound, evaluate_compound, evaluateCompound_not_cons, wrong, Bool.not_false]
  have known := opposite.mp right
  rw [negated, compound, meaning_negation, unknown] at known
  cases known

/-- A tree whose nodes and their negations all evaluate to what they mean is regular. -/
theorem regular_of_agree (condition : Condition) (agree : ∀ nested, Nested condition nested →
      Agrees patterns request nested ∧ Agrees patterns request (negated nested)) :
    Regular condition := by
  induction condition using Condition.induction with
  | step condition ih =>
    have below : ∀ child, Child condition child → Regular child := fun child here =>
      ih child here fun nested deeper => agree nested (.head here deeper)
    obtain ⟨agrees, opposite⟩ := agree condition .refl
    have known := meaning_ne_none agrees opposite
    obtain ⟨type, operator, path, value, conditions⟩ := condition
    unfold meaning at known
    split at known
    · rename_i operator path value children same
      cases same
      split at known
      · exact .conjunction fun child member => below child ⟨rfl, _, rfl, member⟩
      · refine .disjunction ?_ fun child member => below child ⟨rfl, _, rfl, member⟩
        -- the empty disjunction evaluates to true and means false
        rintro rfl
        exact Bool.noConfusion (Option.some.inj (agrees.mp rfl))
      · exact .negation (below _ ⟨rfl, _, rfl, List.mem_singleton_self _⟩)
      · exact absurd rfl known
    · rename_i operator path value conditions same
      cases same
      split at known
      · rename_i regular
        exact .comparison regular.2 regular.1
      · exact absurd rfl known
    · exact absurd rfl known

end Agreement

end Condition

open Condition

def emptyDisjunction : Policy :=
  { id := "p1", name := "nobody", effect := .allow, conditions := [.compound .or []] }

end Caas.Policies
