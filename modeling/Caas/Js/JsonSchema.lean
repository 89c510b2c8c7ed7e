import Caas.Js.Json

/-!
# JSON Schema

Schemas with the keywords `type`, `required`, `properties`, `items`, `pattern`, `enum`,
`maxLength` and `maxItems`, and the values that they accept. A pattern stands for the texts that
it matches; an `enum` lists strings.

`accepts_iff` takes a schema apart: what its own keywords say of a value, and what its
`properties` and `items` say of what is in it.
-/

namespace Js

inductive JsonType where
  | object
  | array
  | string
  | number
  | boolean
deriving DecidableEq

def JsonType.admits {ν : Type} : JsonType → Json ν → Bool
  | .object, .object _ | .array, .array _ | .string, .string _ | .number, .number _
  | .boolean, .boolean _ => true
  | _, _ => false

structure JsonSchema where
  type : Option JsonType := none
  required : List String := []
  properties : List (String × JsonSchema) := []
  items : Option JsonSchema := none
  pattern : Option (String → Bool) := none
  enum : Option (List String) := none
  maxLength : Option Nat := none
  maxItems : Option Nat := none

namespace JsonSchema

variable {ν : Type} (schema : JsonSchema) (value : Json ν)

/-- `type` -/
def typed : Bool := schema.type.all (·.admits value)

/-- `required`; a member that is `null` is there. -/
def hasRequired : Bool :=
  match value with
  | .object _ => schema.required.all fun key => (value.member? key).isSome
  | _ => true

/-- `pattern` -/
def matchesPattern : Bool :=
  match value with
  | .string text => schema.pattern.all (· text)
  | _ => true

/-- `enum` -/
def enumerated : Bool :=
  schema.enum.all fun values =>
    match value with
    | .string text => values.contains text
    | _ => false

/-- `maxLength`, in characters, and `maxItems`. -/
def bounded : Bool :=
  match value with
  | .string text => schema.maxLength.all (text.length ≤ ·)
  | .array items => schema.maxItems.all (items.length ≤ ·)
  | _ => true

/-- The keywords that look at the value itself. -/
def plain : Bool :=
  schema.typed value && schema.hasRequired value && schema.matchesPattern value &&
    schema.enumerated value && schema.bounded value

mutual

/-- The value satisfies the schema. -/
def accepts : JsonSchema → Json ν → Bool
  | ⟨type, required, properties, items, pattern, enum, maxLength, maxItems⟩, value =>
    plain ⟨type, required, properties, items, pattern, enum, maxLength, maxItems⟩ value &&
      acceptsProperties properties value && acceptsItems items value

/-- Every member that is there satisfies the schema of its key. -/
def acceptsProperties : List (String × JsonSchema) → Json ν → Bool
  | [], _ => true
  | (key, property) :: rest, value =>
    (value.member? key).all (accepts property) && acceptsProperties rest value

/-- Every item of an array satisfies the schema of the items. -/
def acceptsItems : Option JsonSchema → Json ν → Bool
  | some schema, .array items => items.all (accepts schema)
  | _, _ => true

end

/-- The members that are there pass the check of the schema of their key. -/
def each (check : JsonSchema → Json ν → Bool) : Bool :=
  schema.properties.all fun (key, property) => (value.member? key).all (check property)

/-- What a schema says of what is in a value: the members it must have, and what they and the
items must satisfy. -/
def deep : Bool :=
  schema.hasRequired value && schema.each value accepts && acceptsItems schema.items value

section Parts

variable {schema value} {check check' : JsonSchema → Json ν → Bool}

theorem each_eq_true_iff : schema.each value check = true ↔ ∀ property ∈ schema.properties,
      ∀ child ∈ value.member? property.1, check property.2 child = true := by
  simp [each, Option.all_eq_true]

theorem acceptsProperties_eq (properties : List (String × JsonSchema)) :
    acceptsProperties properties value =
      properties.all fun (key, property) => (value.member? key).all (accepts property) := by
  induction properties with
  | nil => rw [acceptsProperties, List.all_nil]
  | cons property rest ih => rw [acceptsProperties, ih, List.all_cons]

/-- A value is accepted by its own looks and by what is in it. -/
theorem accepts_iff :
    schema.accepts value = true ↔ schema.typed value = true ∧ schema.matchesPattern value = true ∧
      schema.enumerated value = true ∧ schema.bounded value = true ∧ schema.deep value = true := by
  obtain ⟨type, required, properties, items, pattern, enum, maxLength, maxItems⟩ := schema
  rw [accepts, acceptsProperties_eq]
  simp only [plain, deep, each, Bool.and_eq_true]
  tauto

theorem each_accepts_iff : schema.each value accepts = true ↔ schema.each value typed = true ∧
      schema.each value matchesPattern = true ∧ schema.each value enumerated = true ∧
      schema.each value bounded = true ∧ schema.each value deep = true := by
  simp only [each_eq_true_iff, accepts_iff]
  constructor
  · intro all
    exact ⟨fun property member child there => (all property member child there).1,
      fun property member child there => (all property member child there).2.1,
      fun property member child there => (all property member child there).2.2.1,
      fun property member child there => (all property member child there).2.2.2.1,
      fun property member child there => (all property member child there).2.2.2.2⟩
  · rintro ⟨types, patterns, enums, bounds, depths⟩ property member child there
    exact ⟨types property member child there, patterns property member child there,
      enums property member child there, bounds property member child there,
      depths property member child there⟩

theorem matchesPattern_of_none (none : schema.pattern = none) :
    schema.matchesPattern value = true := by
  cases value with
  | string text => rw [matchesPattern, none, Option.all_none]
  | null | boolean | number | array | object => rfl

theorem enumerated_of_none (none : schema.enum = none) : schema.enumerated value = true := by
  rw [enumerated, none, Option.all_none]

theorem bounded_of_none (maxLength : schema.maxLength = none) (maxItems : schema.maxItems = none) :
    schema.bounded value = true := by
  cases value with
  | string text => rw [bounded, maxLength, Option.all_none]
  | array items => rw [bounded, maxItems, Option.all_none]
  | null | boolean | number | object => rfl

theorem admits_object_of_member? {key : String} (there : (value.member? key).isSome = true) :
    JsonType.object.admits value = true := by
  cases value with
  | object members => rfl
  | null | boolean | number | string | array => cases there

end Parts

end JsonSchema

end Js
