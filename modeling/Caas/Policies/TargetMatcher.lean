import Caas.Policies.AccessRequest

/-!
# The target matcher

A target without matchers of a kind leaves that kind open. Subjects, resources and actions ask
for one matcher that fits, the environment for all of them.

`contains` of the source ends in a branch for wildcards that its first branch never leaves
anything to.
-/

namespace Caas.Policies

/-- The operator of a matcher, or any other text in its place. -/
inductive MatchOperator where
  | equals
  | notEquals
  | contains
  | notContains
  | startsWith
  | endsWith
  | greaterThan
  | lessThan
  | greaterThanOrEqual
  | lessThanOrEqual
  | matchesPattern
  | isIn
  | isNotIn
  | other (text : String)
deriving DecidableEq

inductive SubjectMatcherType where
  | user
  | role
  | attribute
  | other (text : String)
deriving DecidableEq

structure SubjectMatcher where
  type : SubjectMatcherType
  operator : MatchOperator
  value : Attribute
  path : Option String := none

inductive ResourceMatcherType where
  | type
  | id
  | attribute
  | owner
  | other (text : String)
deriving DecidableEq

structure ResourceMatcher where
  type : ResourceMatcherType
  operator : MatchOperator
  value : Attribute
  path : Option String := none

structure ActionMatcher where
  operator : MatchOperator
  value : Attribute

structure EnvironmentMatcher where
  path : String
  operator : MatchOperator
  value : Attribute

structure PolicyTarget where
  subjects : List SubjectMatcher := []
  resources : List ResourceMatcher := []
  actions : List ActionMatcher := []
  environment : Option (List EnvironmentMatcher) := none

namespace TargetMatcher

variable (patterns : Patterns)

def matchValue (actual expected : Attribute) : MatchOperator → Bool
  | .equals => actual.strictEquals expected
  | .notEquals => !actual.strictEquals expected
  | .contains => actual.contains expected
  | .notContains => !actual.contains expected
  | .startsWith => actual.startsWith expected
  | .endsWith => actual.endsWith expected
  | .greaterThan => actual.greaterThan expected
  | .lessThan => actual.lessThan expected
  | .greaterThanOrEqual => actual.greaterThanOrEqual expected
  | .lessThanOrEqual => actual.lessThanOrEqual expected
  | .matchesPattern => actual.matchesPattern patterns expected
  | .isIn => actual.isIn expected
  | .isNotIn => actual.isNotIn expected
  | .other _ => false

/-- `record[key]` of a record of attributes. -/
def read (record : List (String × Attribute)) (key : String) : Attribute :=
  ((Attribute.object record).member? key).getD .undefined

def matchSubject (matcher : SubjectMatcher) (request : AccessRequest) : Bool :=
  match matcher.type with
  | .user =>
    matchValue patterns (.string request.subject.userId) matcher.value matcher.operator
  | .role => request.subject.roles.any fun role =>
      matchValue patterns (.string role) matcher.value matcher.operator
  | .attribute =>
    match matcher.path.filter (· ≠ "") with
    | some path =>
      matchValue patterns (read request.subject.attributes path) matcher.value matcher.operator
    | none => false
  | .other _ => false

def matchesSubjects (matchers : List SubjectMatcher) (request : AccessRequest) : Bool :=
  matchers.isEmpty || matchers.any fun matcher => matchSubject patterns matcher request

def matchResource (matcher : ResourceMatcher) (request : AccessRequest) : Bool :=
  match matcher.type with
  | .type => matchValue patterns (.string request.resource.type) matcher.value matcher.operator
  | .id => matchValue patterns (.string request.resource.id) matcher.value matcher.operator
  | .owner =>
    matchValue patterns ((request.resource.ownerId.map .string).getD .undefined) matcher.value
      matcher.operator
  | .attribute =>
    match matcher.path.filter (· ≠ "") with
    | some path =>
      matchValue patterns (read request.resource.attributes path) matcher.value matcher.operator
    | none => false
  | .other _ => false

def matchesResources (matchers : List ResourceMatcher) (request : AccessRequest) : Bool :=
  matchers.isEmpty || matchers.any fun matcher => matchResource patterns matcher request

def matchAction (matcher : ActionMatcher) (request : AccessRequest) : Bool :=
  matchValue patterns (.string request.action) matcher.value matcher.operator

def matchesActions (matchers : List ActionMatcher) (request : AccessRequest) : Bool :=
  matchers.isEmpty || matchers.any fun matcher => matchAction patterns matcher request

def matchEnvironment (matcher : EnvironmentMatcher) (request : AccessRequest) : Bool :=
  matchValue patterns (read request.environment matcher.path) matcher.value matcher.operator

def matchesEnvironment (matchers : Option (List EnvironmentMatcher)) (request : AccessRequest) :
    Bool :=
  (matchers.getD []).all fun matcher => matchEnvironment patterns matcher request

/-- `matches(target, request)`. -/
def matchesTarget (target : PolicyTarget) (request : AccessRequest) : Bool :=
  matchesSubjects patterns target.subjects request &&
    matchesResources patterns target.resources request &&
      matchesActions patterns target.actions request &&
        matchesEnvironment patterns target.environment request

end TargetMatcher

end Caas.Policies
