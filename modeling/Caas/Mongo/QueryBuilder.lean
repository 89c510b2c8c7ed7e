import Caas.Datastore.Types

/-!
# The tenant-aware query builder

A mutable query that accumulates conditions by key and a tenant, and hands out
copies of them. Conditions stay abstract; `text` is the condition that a tenant
id makes.
-/

namespace Caas.Mongo

open Js OrderedMap

universe u

abbrev FilterQuery (Condition : Type u) := OrderedMap String Condition

structure QueryBuilder (Condition : Type u) where
  query : FilterQuery Condition
  tenantId : Option String

namespace QueryBuilder

variable {Condition : Type u}

def fresh : QueryBuilder Condition := ⟨.empty, none⟩

/-- Conditions of an earlier call stay unless a later one names the same key. -/
def where' (builder : QueryBuilder Condition) (conditions : FilterQuery Condition) :
    QueryBuilder Condition :=
  { builder with query := builder.query.spread conditions }

def tenant (builder : QueryBuilder Condition) (tenantId : String) : QueryBuilder Condition :=
  { builder with tenantId := some tenantId }

/-- The tenant comes last, when it is set and not empty. -/
def build (text : String → Condition) (builder : QueryBuilder Condition) : FilterQuery Condition :=
  match Datastore.present builder.tenantId with
  | some tenantId => builder.query.set "tenantId" (text tenantId)
  | none => builder.query

variable {text : String → Condition} {builder : QueryBuilder Condition}

theorem get_build_where (conditions : FilterQuery Condition) (tenantId key : String) :
    (((builder.where' conditions).tenant tenantId).build text).get key =
      if key = "tenantId" ∧ tenantId ≠ "" then some (text tenantId)
      else (conditions.get key).or (builder.query.get key) := by
  by_cases named : tenantId = ""
  · have absent : Datastore.present (some tenantId) = none := by
      simp [Datastore.present, Option.filter, named]
    simp only [build, tenant, where', absent, get_spread]
    simp [named]
  · have shown : Datastore.present (some tenantId) = some tenantId := by
      simp [Datastore.present, Option.filter, named]
    simp only [build, tenant, where', shown, get_set, get_spread]
    simp [named, eq_comm]

end QueryBuilder

end Caas.Mongo

/-!
## Calls on a query builder

The calls that add conditions to a builder, and what MongoDB makes of the query that it builds:
the entries of a record are taken together. The `$and` of a record is a reference to an array,
which clones share.

What MongoDB makes of the condition on one field is a parameter. Arrays that a call is given are
its own, and an empty list of conditions asks for nothing, as in Mongoose.
-/

namespace Caas.Mongo.QueryCalls

open Js

universe v

/-- What a query asks of one field: a value, or an object with one operator. -/
inductive Condition (Value : Type u) where
  | equal (value : Value)
  | isIn (values : List Value)
  | nin (values : List Value)
  | gt (value : Value)
  | gte (value : Value)
  | lt (value : Value)
  | lte (value : Value)
  | ne (value : Value)
  | exists' (expected : Bool)
  | regex (pattern : Value)

/-- A query, by field, with its `$and`, `$or` and `$nor`. -/
inductive QueryFilter (Value : Type u) where
  | mk (fields : FilterQuery (Condition Value)) (and or nor : Option (List (QueryFilter Value)))

namespace QueryFilter

variable {Value : Type u}

def fields : QueryFilter Value → FilterQuery (Condition Value)
  | mk fields _ _ _ => fields

def and : QueryFilter Value → Option (List (QueryFilter Value))
  | mk _ and _ _ => and

def or : QueryFilter Value → Option (List (QueryFilter Value))
  | mk _ _ or _ => or

def nor : QueryFilter Value → Option (List (QueryFilter Value))
  | mk _ _ _ nor => nor

section Semantics

variable (meets : String → Condition Value → Bool)

mutual

/-- Every entry of the query is met. -/
def satisfies : QueryFilter Value → Bool
  | mk fields and or nor =>
    (fields.entries.all fun entry => meets entry.1 entry.2) &&
      (satisfiesAnd and && (satisfiesOr or && satisfiesNor nor))

def satisfiesAnd : Option (List (QueryFilter Value)) → Bool
  | none => true
  | some filters => satisfiesAll filters

def satisfiesOr : Option (List (QueryFilter Value)) → Bool
  | none | some [] => true
  | some (first :: filters) => satisfies first || satisfiesAny filters

def satisfiesNor : Option (List (QueryFilter Value)) → Bool
  | none => true
  | some filters => !satisfiesAny filters

def satisfiesAll : List (QueryFilter Value) → Bool
  | [] => true
  | first :: filters => satisfies first && satisfiesAll filters

def satisfiesAny : List (QueryFilter Value) → Bool
  | [] => false
  | first :: filters => satisfies first || satisfiesAny filters

end

end Semantics

end QueryFilter

/-- A builder with everything that its record can hold; `and` refers to an array. -/
structure BuilderState (Value : Type u) extends QueryBuilder (Condition Value) where
  and : Option Nat
  or : Option (List (QueryFilter Value))
  nor : Option (List (QueryFilter Value))

/-- The `$and` arrays, by reference. -/
abbrev Arrays (Value : Type u) := List (List (QueryFilter Value))

namespace BuilderState

variable {Value : Type u}

/-- `new QueryBuilder()` -/
def fresh : BuilderState Value := ⟨.fresh, none, none, none⟩

/-- `this.query[field] = condition` -/
def assign (builder : BuilderState Value) (field : String) (condition : Condition Value) :
    BuilderState Value :=
  { builder with query := builder.query.set field condition }

def equals (builder : BuilderState Value) (field : String) (value : Value) : BuilderState Value :=
  builder.assign field (.equal value)

def isIn (builder : BuilderState Value) (field : String) (values : List Value) :
    BuilderState Value :=
  builder.assign field (.isIn values)

def notIn (builder : BuilderState Value) (field : String) (values : List Value) :
    BuilderState Value :=
  builder.assign field (.nin values)

def greaterThan (builder : BuilderState Value) (field : String) (value : Value) :
    BuilderState Value :=
  builder.assign field (.gt value)

def greaterThanOrEqual (builder : BuilderState Value) (field : String) (value : Value) :
    BuilderState Value :=
  builder.assign field (.gte value)

def lessThan (builder : BuilderState Value) (field : String) (value : Value) :
    BuilderState Value :=
  builder.assign field (.lt value)

def lessThanOrEqual (builder : BuilderState Value) (field : String) (value : Value) :
    BuilderState Value :=
  builder.assign field (.lte value)

def notEqual (builder : BuilderState Value) (field : String) (value : Value) :
    BuilderState Value :=
  builder.assign field (.ne value)

/-- What is expected is `true` when it is not given. -/
def exists' (builder : BuilderState Value) (field : String) (expected : Option Bool) :
    BuilderState Value :=
  builder.assign field (.exists' (expected.getD true))

def tenant (builder : BuilderState Value) (tenantId : String) : BuilderState Value :=
  { builder with toQueryBuilder := builder.toQueryBuilder.tenant tenantId }

/-- `{ ...this.query, ...conditions }`; an array among the conditions is a new one. -/
def where' (arrays : Arrays Value) (builder : BuilderState Value)
    (conditions : QueryFilter Value) : Arrays Value × BuilderState Value :=
  let merged := { builder with
    toQueryBuilder := builder.toQueryBuilder.where' conditions.fields
    or := conditions.or.or builder.or
    nor := conditions.nor.or builder.nor }
  match conditions.and with
  | some filters => (arrays ++ [filters], { merged with and := some arrays.length })
  | none => (arrays, merged)

/-- The array is made first when there is none. -/
def and' (arrays : Arrays Value) (builder : BuilderState Value)
    (conditions : List (QueryFilter Value)) : Arrays Value × BuilderState Value :=
  match builder.and with
  | some reference => (arrays.modify reference (· ++ conditions), builder)
  | none => ((arrays ++ [[]]).modify arrays.length (· ++ conditions),
      { builder with and := some arrays.length })

/-- `{ ...this.query }`, as it reads now. -/
def getQuery (arrays : Arrays Value) (builder : BuilderState Value) : QueryFilter Value :=
  .mk builder.query (builder.and.map (arrays.getD · [])) builder.or builder.nor

/-- `text` is the value that a tenant id makes. -/
def build (text : String → Value) (arrays : Arrays Value) (builder : BuilderState Value) :
    QueryFilter Value :=
  .mk (builder.toQueryBuilder.build fun tenantId => .equal (text tenantId))
    (builder.and.map (arrays.getD · [])) builder.or builder.nor

/-- The clone has a record of its own, but not arrays. -/
def clone (builder : BuilderState Value) : BuilderState Value where
  query := builder.query
  tenantId := builder.tenantId
  and := builder.and
  or := builder.or
  nor := builder.nor

end BuilderState

inductive Call (Value : Type u) where
  | equals (field : String) (value : Value)
  | isIn (field : String) (values : List Value)
  | notIn (field : String) (values : List Value)
  | greaterThan (field : String) (value : Value)
  | greaterThanOrEqual (field : String) (value : Value)
  | lessThan (field : String) (value : Value)
  | lessThanOrEqual (field : String) (value : Value)
  | notEqual (field : String) (value : Value)
  | exists' (field : String) (expected : Option Bool)
  | where' (conditions : QueryFilter Value)
  | and (conditions : List (QueryFilter Value))
  | tenant (tenantId : String)

namespace Call

variable {Value : Type u}

def apply (call : Call Value) (arrays : Arrays Value) (builder : BuilderState Value) :
    Arrays Value × BuilderState Value :=
  match call with
  | equals field value => (arrays, builder.equals field value)
  | isIn field values => (arrays, builder.isIn field values)
  | notIn field values => (arrays, builder.notIn field values)
  | greaterThan field value => (arrays, builder.greaterThan field value)
  | greaterThanOrEqual field value => (arrays, builder.greaterThanOrEqual field value)
  | lessThan field value => (arrays, builder.lessThan field value)
  | lessThanOrEqual field value => (arrays, builder.lessThanOrEqual field value)
  | notEqual field value => (arrays, builder.notEqual field value)
  | exists' field expected => (arrays, builder.exists' field expected)
  | where' conditions => builder.where' arrays conditions
  | and conditions => builder.and' arrays conditions
  | tenant tenantId => (arrays, builder.tenant tenantId)

def run (calls : List (Call Value)) (arrays : Arrays Value) (builder : BuilderState Value) :
    Arrays Value × BuilderState Value :=
  calls.foldl (fun state call => call.apply state.1 state.2) (arrays, builder)

end Call

/-- One thing that a query asks. -/
inductive Item (Value : Type u) where
  | field (name : String) (condition : Condition Value)
  | and (filter : QueryFilter Value)
  | or (filters : List (QueryFilter Value))
  | nor (filters : List (QueryFilter Value))

inductive Slot where
  | field (name : String)
  | and
  | or
  | nor
deriving DecidableEq

/-- The place of the record that holds an item. -/
def Item.slot {Value : Type u} : Item Value → Slot
  | field name _ => .field name
  | and _ => .and
  | or _ => .or
  | nor _ => .nor

namespace QueryFilter

variable {Value : Type u}

def items (filter : QueryFilter Value) : List (Item Value) :=
  filter.fields.entries.map (fun entry => .field entry.1 entry.2) ++
    (filter.and.getD []).map .and ++ filter.or.toList.map .or ++ filter.nor.toList.map .nor

theorem field_mem_items {filter : QueryFilter Value} {name : String} {condition : Condition Value} :
    .field name condition ∈ filter.items ↔ filter.fields.get name = some condition := by
  simp [items, OrderedMap.get_eq_some_iff]

theorem and_mem_items {filter inner : QueryFilter Value} :
    .and inner ∈ filter.items ↔ inner ∈ filter.and.getD [] := by
  simp [items]

theorem or_mem_items {filter : QueryFilter Value} {filters : List (QueryFilter Value)} :
    .or filters ∈ filter.items ↔ filter.or = some filters := by
  simp [items]

theorem nor_mem_items {filter : QueryFilter Value} {filters : List (QueryFilter Value)} :
    .nor filters ∈ filter.items ↔ filter.nor = some filters := by
  simp [items]

section Semantics

variable (meets : String → Condition Value → Bool)

theorem satisfiesAll_iff (filters : List (QueryFilter Value)) :
    satisfiesAll meets filters = true ↔ ∀ filter ∈ filters, satisfies meets filter = true := by
  induction filters with
  | nil => simp [satisfiesAll]
  | cons first filters ih => simp [satisfiesAll, ih]

theorem satisfiesAnd_iff (filters : Option (List (QueryFilter Value))) :
    satisfiesAnd meets filters = true ↔
      ∀ filter ∈ filters.getD [], satisfies meets filter = true := by
  cases filters with
  | none => simp [satisfiesAnd]
  | some filters => exact satisfiesAll_iff meets filters

end Semantics

end QueryFilter

def Item.holds {Value : Type u} (meets : String → Condition Value → Bool) : Item Value → Bool
  | field name condition => meets name condition
  | and filter => filter.satisfies meets
  | or filters => QueryFilter.satisfiesOr meets (some filters)
  | nor filters => QueryFilter.satisfiesNor meets (some filters)

theorem QueryFilter.satisfies_iff {Value : Type u} (meets : String → Condition Value → Bool)
    (filter : QueryFilter Value) :
    filter.satisfies meets = true ↔ ∀ item ∈ filter.items, item.holds meets = true := by
  obtain ⟨fields, and, or, nor⟩ := filter
  rw [satisfies, Bool.and_eq_true, Bool.and_eq_true, Bool.and_eq_true, satisfiesAnd_iff]
  simp only [items, List.forall_mem_append, List.forall_mem_map, Item.holds, List.all_eq_true,
    QueryFilter.fields, QueryFilter.and, QueryFilter.or, QueryFilter.nor, and_assoc]
  refine and_congr_right fun _ => and_congr_right fun _ => and_congr ?_ ?_
  · cases or with
    | none => exact iff_of_true rfl fun _ member => absurd member List.not_mem_nil
    | some filters => rw [Option.toList_some, List.forall_mem_singleton]
  · cases nor with
    | none => exact iff_of_true rfl fun _ member => absurd member List.not_mem_nil
    | some filters => rw [Option.toList_some, List.forall_mem_singleton]

namespace Call

variable {Value : Type u}

/-- What a call asks; the tenant is asked for separately. -/
def items : Call Value → List (Item Value)
  | equals field value => [.field field (.equal value)]
  | isIn field values => [.field field (.isIn values)]
  | notIn field values => [.field field (.nin values)]
  | greaterThan field value => [.field field (.gt value)]
  | greaterThanOrEqual field value => [.field field (.gte value)]
  | lessThan field value => [.field field (.lt value)]
  | lessThanOrEqual field value => [.field field (.lte value)]
  | notEqual field value => [.field field (.ne value)]
  | exists' field expected => [.field field (.exists' (expected.getD true))]
  | where' conditions => conditions.items
  | and conditions => conditions.map .and
  | tenant _ => []

/-- The call writes over what the place held. -/
def writes : Call Value → Slot → Bool
  | equals field _, slot | isIn field _, slot | notIn field _, slot | greaterThan field _, slot
  | greaterThanOrEqual field _, slot | lessThan field _, slot | lessThanOrEqual field _, slot
  | notEqual field _, slot | exists' field _, slot => slot = .field field
  | where' conditions, .field field => conditions.fields.has field
  | where' conditions, .and => conditions.and.isSome
  | where' conditions, .or => conditions.or.isSome
  | where' conditions, .nor => conditions.nor.isSome
  | and _, _ | tenant _, _ => false

def tenantAfter (call : Call Value) (tenantId : Option String) : Option String :=
  match call with
  | tenant tenantId => some tenantId
  | _ => tenantId

end Call

end Caas.Mongo.QueryCalls
