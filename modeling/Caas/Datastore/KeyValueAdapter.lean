import Caas.Datastore.MongoDBAdapter

/-!
# The DynamoDB, Cosmos DB and Firestore adapters

Three copies of one in-memory adapter, which differ in their limits and in the
texts of the errors that the limits raise. `KeyValueAdapter` is their common body
over a `Driver`.

Next to the MongoDB adapter it knows fewer filter operators, ignores projections
and sort keys, stores no times, and checks sizes before anything else.
-/

namespace Caas.Datastore

open Js

/-- What tells the three adapters apart. -/
structure Driver where
  caps : ProviderCapabilities
  docTooLarge : Nat → String
  batchTooLarge : Nat → String

namespace DynamoDBAdapter

def driver : Driver where
  caps := providerCapabilities .dynamodb
  docTooLarge bytes := "Item exceeds DynamoDB 400KB limit (" ++ toString bytes ++ " bytes)"
  batchTooLarge length := "Batch size " ++ toString length ++ " exceeds DynamoDB limit of " ++
    toString (providerCapabilities .dynamodb).maxBatchSize

end DynamoDBAdapter

namespace CosmosDBAdapter

def driver : Driver where
  caps := providerCapabilities .cosmosdb
  docTooLarge _ := "Document exceeds Cosmos DB 2MB limit"
  batchTooLarge _ := "Batch exceeds Cosmos DB limit of " ++
    toString (providerCapabilities .cosmosdb).maxBatchSize

end CosmosDBAdapter

namespace FirestoreAdapter

def driver : Driver where
  caps := providerCapabilities .firestore
  docTooLarge _ := "Document exceeds Firestore 1MB limit"
  batchTooLarge _ := "Batch size exceeds Firestore limit of " ++
    toString (providerCapabilities .firestore).maxBatchSize

end FirestoreAdapter

namespace KeyValueAdapter

/-- The operator properties of one filter field. Every operator but `$eq`, `$ne`
and `$in` is ignored. -/
def matchesOperator (doc : Record) (key : String) (op : FilterOperator) : Bool :=
  op.eq.all (fun v => (prop doc key).strictEquals v) &&
  op.ne.all (fun v => !(prop doc key).strictEquals v) &&
  op.isIn.all (fun vs => vs.any fun v => (prop doc key).sameValueZero v)

def matchesField (doc : Record) (key : String) : FilterValue → Bool
  | .operator op => matchesOperator doc key op
  | .literal (.object _) => true
  | .literal value => (prop doc key).strictEquals value

def matchesFilter (doc : Record) (filter : FilterSpec) : Bool :=
  filter.entries.all fun entry => matchesField doc entry.1 entry.2

/-- The documents an operation ranges over, in store order. -/
def selected (state : AdapterState) (filter : FilterSpec) (tenantId : Option String) :
    List Record :=
  state.store.values.filter fun doc => !foreign tenantId doc && matchesFilter doc filter

def findById (state : AdapterState) (id : String) (opts : Option ReadOptions) : Option Record :=
  accessible state id (opts.map (·.tenantId))

def findOne (state : AdapterState) (filter : FilterSpec) (opts : Option ReadOptions) :
    Option Record :=
  (selected state filter (opts.map (·.tenantId))).head?

def findMany (state : AdapterState) (filter : FilterSpec) (opts : Option FindManyOptions) :
    PaginatedResult :=
  paginate (selected state filter (opts.map (·.tenantId))) (opts.bind (·.pagination))

def count (state : AdapterState) (filter : FilterSpec) (opts : Option ReadOptions) : Nat :=
  (selected state filter (opts.map (·.tenantId))).length

def exists' (state : AdapterState) (filter : FilterSpec) (opts : Option ReadOptions) : Bool :=
  count state filter opts > 0

/-- The record `create` stores. -/
def createdRecord (doc : Record) (opts : Option WriteOptions) (draws : Draws) : Record :=
  ((doc.set "id" (createdId doc draws)).set "_tenantId" (WriteOptions.tenantValue opts)).set
    "_version" (.int 1)

variable (driver : Driver) (runtime : Runtime)

/-- The size of the document is checked before the idempotency key. -/
def create (state : AdapterState) (doc : Record) (opts : Option WriteOptions) (draws : Draws) :
    Except String (AdapterState × WriteResult) :=
  if runtime.stringifyLength doc > driver.caps.maxDocSizeBytes then
    .error (driver.docTooLarge (runtime.stringifyLength doc))
  else
    match replayed state opts with
    | some result => .ok (state, result)
    | none =>
      let id := createdId doc draws
      .ok ({ store := state.store.set id (createdRecord doc opts draws)
             idempotencyKeys := rememberKey state.idempotencyKeys opts id },
        { id, success := true, version := some (.int 1) })

/-- The loop of `createMany`: a document that `create` refuses is reported and
skipped. -/
def createEach (state : AdapterState) (docs : List Record) (opts : Option WriteOptions)
    (draws : Draws) : AdapterState × BatchWriteResult :=
  match docs with
  | [] => (state, { succeeded := [], failed := [] })
  | doc :: rest =>
    match create driver runtime state doc opts draws with
    | .ok (next, result) =>
      let (final, batch) := createEach next rest opts draws.tail
      (final, { batch with succeeded := result :: batch.succeeded })
    | .error message =>
      let (final, batch) := createEach state rest opts draws.tail
      (final, { batch with failed := (doc.get "id", message) :: batch.failed })

def createMany (state : AdapterState) (docs : List Record) (opts : Option WriteOptions)
    (draws : Draws) : Except String (AdapterState × BatchWriteResult) :=
  if docs.length > driver.caps.maxBatchSize then .error (driver.batchTooLarge docs.length)
  else .ok (createEach driver runtime state docs opts draws)

def updatedRecord (existing patch : Record) : Record :=
  (existing.spread patch).set "_version" (runtime.successor (prop existing "_version"))

def update (state : AdapterState) (id : String) (patch : Record) (opts : Option WriteOptions) :
    AdapterState × WriteResult :=
  match accessible state id (WriteOptions.tenant? opts) with
  | none => (state, { id := .string id, success := false })
  | some existing =>
    ({ state with store := state.store.set (.string id) (updatedRecord runtime existing patch) },
      { id := .string id, success := true
        version := some (runtime.successor (prop existing "_version")) })

/-- The loop of `updateMany`. -/
def updateEntries (filter : FilterSpec) (patch : Record) (tenantId : Option String) :
    List (Value × Record) → OrderedMap Value Record → OrderedMap Value Record × Nat
  | [], store => (store, 0)
  | (id, doc) :: rest, store =>
    if foreign tenantId doc then updateEntries filter patch tenantId rest store
    else if matchesFilter doc filter then
      let (final, matched) := updateEntries filter patch tenantId rest
        (store.set id (updatedRecord runtime doc patch))
      (final, matched + 1)
    else updateEntries filter patch tenantId rest store

def updateMany (state : AdapterState) (filter : FilterSpec) (patch : Record)
    (opts : Option WriteOptions) : AdapterState × UpdateResult :=
  let (store, matched) := updateEntries runtime filter patch (WriteOptions.tenant? opts)
    state.store.entries state.store
  ({ state with store }, { matchedCount := matched, modifiedCount := matched })

def delete (state : AdapterState) (id : String) (opts : Option WriteOptions) :
    AdapterState × Bool :=
  match accessible state id (WriteOptions.tenant? opts) with
  | none => (state, false)
  | some _ => ({ state with store := state.store.delete (.string id) }, true)

/-- A soft delete sets a flag and keeps no time. -/
def softDelete (state : AdapterState) (id : String) (opts : Option WriteOptions) :
    AdapterState × Bool :=
  match accessible state id (WriteOptions.tenant? opts) with
  | none => (state, false)
  | some existing =>
    ({ state with store :=
        state.store.set (.string id) (existing.set "_deleted" (.boolean true)) }, true)

/-- The outcome of an operation that can throw; a throw leaves the state alone. -/
def caught {α : Type} (state : AdapterState) (tag : α → Answer) :
    Except String (AdapterState × α) → AdapterState × Answer
  | .ok result => tagged tag result
  | .error message => (state, .thrown message)

def step (state : AdapterState) (call : Call) : AdapterState × Answer :=
  match call.operation with
  | .findById id opts => (state, .document (findById state id opts))
  | .findOne filter opts => (state, .document (findOne state filter opts))
  | .findMany filter opts => (state, .page (findMany state filter opts))
  | .count filter opts => (state, .number (count state filter opts))
  | .exists' filter opts => (state, .truth (exists' state filter opts))
  | .create doc opts => caught state .write (create driver runtime state doc opts call.draws)
  | .createMany docs opts =>
    caught state .batch (createMany driver runtime state docs opts call.draws)
  | .update id patch opts => tagged .write (update runtime state id patch opts)
  | .updateMany filter patch opts => tagged .updated (updateMany runtime state filter patch opts)
  | .delete id opts => tagged .truth (delete state id opts)
  | .softDelete id opts => tagged .truth (softDelete state id opts)

def machine : Transducer AdapterState Call Answer := ⟨step driver runtime⟩

end KeyValueAdapter

def DynamoDBAdapter.machine (runtime : Runtime) : Transducer AdapterState Call Answer :=
  KeyValueAdapter.machine driver runtime

def CosmosDBAdapter.machine (runtime : Runtime) : Transducer AdapterState Call Answer :=
  KeyValueAdapter.machine driver runtime

def FirestoreAdapter.machine (runtime : Runtime) : Transducer AdapterState Call Answer :=
  KeyValueAdapter.machine driver runtime

end Caas.Datastore
