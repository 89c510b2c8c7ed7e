import Mathlib.Data.List.Infix
import Caas.Js.Value

/-!
# Access requests

The values in requests and policies, and what conditions and targets do with them. Arrays and
objects carry their contents here. Objects are compared by identity, and a policy shares none
with a request.

`Patterns` stands for regular expressions: `none` is that the pattern has no meaning.
-/

namespace Caas.Policies

open Js (Number)

/-- A value of a request or a policy. -/
inductive Attribute where
  | undefined
  | null
  | boolean (value : Bool)
  | number (value : Number)
  | string (value : String)
  | array (items : List Attribute)
  | object (members : List (String × Attribute))

/-- `new RegExp(pattern).test(text)`. -/
abbrev Patterns := String → String → Option Bool

namespace Attribute

/-- `left === right`, of values that share no object. -/
def strictEquals : Attribute → Attribute → Bool
  | .undefined, .undefined => true
  | .null, .null => true
  | .boolean left, .boolean right => left = right
  | .number left, .number right => left = right && left ≠ .nan
  | .string left, .string right => left = right
  | _, _ => false

/-- `items.includes(value)`, which finds `NaN`. -/
def includes (items : List Attribute) (value : Attribute) : Bool :=
  items.any fun item =>
    item.strictEquals value ||
      match item, value with
      | .number .nan, .number .nan => true
      | _, _ => false

/-- `value[part]` when `part in value`, of a part that belongs to no prototype. -/
def member? : Attribute → String → Option Attribute
  | .object members, part => (members.find? fun member => member.1 = part).map Prod.snd
  | .array items, part =>
    if part = "length" then some (.number (.int items.length))
    else (items.zipIdx.find? fun item => toString item.2 = part).map Prod.fst
  | _, _ => none

def startsWith : Attribute → Attribute → Bool
  | .string actual, .string expected => expected.toList <+: actual.toList
  | _, _ => false

def endsWith : Attribute → Attribute → Bool
  | .string actual, .string expected => expected.toList <:+ actual.toList
  | _, _ => false

/-- A comparison of two numbers; any other values fail it. -/
def compareNumbers (comparison : Number → Number → Bool) : Attribute → Attribute → Bool
  | .number actual, .number expected => comparison actual expected
  | _, _ => false

def greaterThan : Attribute → Attribute → Bool :=
  compareNumbers fun actual expected => expected.lessThan actual = some true

def lessThan : Attribute → Attribute → Bool :=
  compareNumbers fun actual expected => actual.lessThan expected = some true

def greaterThanOrEqual : Attribute → Attribute → Bool :=
  compareNumbers fun actual expected => actual.atLeast expected

def lessThanOrEqual : Attribute → Attribute → Bool :=
  compareNumbers fun actual expected => expected.atLeast actual

/-- `contains` of a text or of an array. -/
def contains : Attribute → Attribute → Bool
  | .string actual, .string expected => expected.toList <:+: actual.toList
  | .array items, expected => includes items expected
  | _, _ => false

/-- A pattern without meaning matches nothing. -/
def matchesPattern (patterns : Patterns) : Attribute → Attribute → Bool
  | .string actual, .string expected => (patterns expected actual).getD false
  | _, _ => false

/-- `Array.isArray(expected) && expected.includes(actual)`. -/
def isIn (actual : Attribute) : Attribute → Bool
  | .array items => includes items actual
  | _ => false

/-- `Array.isArray(expected) && !expected.includes(actual)`. -/
def isNotIn (actual : Attribute) : Attribute → Bool
  | .array items => !includes items actual
  | _ => false

end Attribute

structure Subject where
  userId : String
  tenantId : String
  roles : List String := []
  attributes : List (String × Attribute) := []

structure Resource where
  type : String
  id : String
  tenantId : String
  ownerId : Option String := none
  attributes : List (String × Attribute) := []

/-- The environment is a record of any members. -/
structure AccessRequest where
  subject : Subject
  resource : Resource
  action : String
  environment : List (String × Attribute) := []

namespace AccessRequest

/-- The request as the value that attribute paths walk through. -/
def value (request : AccessRequest) : Attribute :=
  .object
    [("subject", .object
      [("user_id", .string request.subject.userId),
        ("tenant_id", .string request.subject.tenantId),
        ("roles", .array (request.subject.roles.map .string)),
        ("attributes", .object request.subject.attributes)]),
      ("resource", .object
        ([("type", .string request.resource.type),
          ("id", .string request.resource.id),
          ("tenant_id", .string request.resource.tenantId)] ++
          (request.resource.ownerId.map fun owner => ("owner_id", Attribute.string owner)).toList ++
          [("attributes", .object request.resource.attributes)])),
      ("action", .string request.action),
      ("environment", .object request.environment)]

end AccessRequest

end Caas.Policies
