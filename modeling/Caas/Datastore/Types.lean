import Caas.Js.Value

/-!
# Datastore types

The provider-agnostic vocabulary of the flexible datastore: filters, options,
results, and the provider limits. Fields that no adapter reads (project and
correlation ids, consistency modes, capability flags) are left out.
-/

namespace Caas.Datastore

open Js

inductive ProviderId where
  | mongodb
  | dynamodb
  | firestore
  | cosmosdb
deriving DecidableEq, Repr

inductive EntityDomain where
  | users
  | conversations
  | messages
  | settings
  | audit
  | sessions
  | presence
deriving DecidableEq, Repr

/-- The size limits among the capability flags. -/
structure ProviderCapabilities where
  maxDocSizeBytes : Nat
  maxBatchSize : Nat

/-- The size limits of `PROVIDER_CAPABILITIES`. -/
def providerCapabilities : ProviderId → ProviderCapabilities
  | .mongodb => ⟨16777216, 100000⟩
  | .dynamodb => ⟨400000, 25⟩
  | .firestore => ⟨1048576, 500⟩
  | .cosmosdb => ⟨2097152, 100⟩

/-- An operator object of a filter. The union of the source admits any subset of
its properties in one object; an absent property is `none`. -/
structure FilterOperator where
  eq : Option Value := none
  ne : Option Value := none
  gt : Option Value := none
  gte : Option Value := none
  lt : Option Value := none
  lte : Option Value := none
  isIn : Option (List Value) := none
  nin : Option (List Value) := none
  exists' : Option Bool := none
  regex : Option String := none
deriving DecidableEq

/-- The condition a filter puts on one field. A plain object is read as an
operator object, so the literals are primitives and arrays. -/
inductive FilterValue where
  | literal (value : Value)
  | operator (operator : FilterOperator)
deriving DecidableEq

abbrev FilterSpec := OrderedMap String FilterValue

inductive Direction where
  | asc
  | desc
deriving DecidableEq

structure SortSpec where
  field : String
  direction : Direction
deriving DecidableEq

structure PaginationSpec where
  limit : Int
  cursor : Option String := none
  offset : Option Int := none
deriving DecidableEq

structure ReadOptions where
  tenantId : String
  projection : Option (List String) := none
deriving DecidableEq

structure FindManyOptions extends ReadOptions where
  sort : Option (List SortSpec) := none
  pagination : Option PaginationSpec := none
deriving DecidableEq

structure WriteOptions where
  tenantId : String
  idempotencyKey : Option String := none
deriving DecidableEq

structure PaginatedResult where
  items : List Record
  total : Nat
  hasMore : Bool
  nextCursor : Option String
deriving DecidableEq

structure WriteResult where
  id : Value
  success : Bool
  version : Option Value := none
deriving DecidableEq

structure BatchWriteResult where
  succeeded : List WriteResult
  failed : List (Option Value × String)
deriving DecidableEq

structure UpdateResult where
  matchedCount : Nat
  modifiedCount : Nat
deriving DecidableEq

/-- What one call draws from outside: its `n`-th `uuid()` and its `n`-th reading of
`new Date().toISOString()`. -/
structure Draws where
  uuid : Nat → String
  now : Nat → String

/-- The draws of a call after its first one. -/
def Draws.tail (draws : Draws) : Draws :=
  ⟨fun n => draws.uuid (n + 1), fun n => draws.now (n + 1)⟩

/-- Property access: an absent property reads as `undefined`. -/
def prop (doc : Record) (key : String) : Value := (doc.get key).getD .undefined

theorem prop_set (doc : Record) (key other : String) (value : Value) :
    prop (doc.set key value) other = if key = other then value else prop doc other := by
  by_cases same : key = other
  · subst same
    simp [prop]
  · simp [prop, same]

@[simp] theorem prop_set_self (doc : Record) (key : String) (value : Value) :
    prop (doc.set key value) key = value := by
  simp [prop_set]

@[simp] theorem prop_set_of_ne (doc : Record) {key other : String} (value : Value)
    (different : key ≠ other) : prop (doc.set key value) other = prop doc other := by
  simp [prop_set, different]

theorem prop_spread (base patch : Record) (key : String) :
    prop (base.spread patch) key = (patch.get key).getD (prop base key) := by
  unfold prop
  rw [OrderedMap.get_spread]
  cases patch.get key <;> rfl

/-- A string the guards of the source take for present: `undefined` and the empty
string are both falsy. -/
def present (text : Option String) : Option String := text.filter (· ≠ "")

theorem present_ne_none_iff {text : Option String} :
    present text ≠ none ↔ ∃ value, text = some value ∧ value ≠ "" := by
  cases text <;> simp [present, Option.filter]

/-- The guard `opts?.tenantId && doc._tenantId !== opts.tenantId`. -/
def foreign (tenantId : Option String) (doc : Record) : Bool :=
  match present tenantId with
  | none => false
  | some tenant => !(prop doc "_tenantId").strictEquals (.string tenant)

end Caas.Datastore
