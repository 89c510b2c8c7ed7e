import Caas.Datastore.Types
import Caas.Machine.Transducer

/-!
# The MongoDB adapter

The reference implementation of the repository interface over an in-memory
store. All tenants share one table of documents, keyed by document id, and one
table of idempotency keys. Document ids come from untyped documents, so the
store is keyed by values; the callers of the interface look strings up.

Every operation returns the new state beside its answer. Asynchrony plays no
part: no operation awaits anything before it has finished its own effects.
-/

namespace Caas.Datastore

open Js OrderedMap

/-- The two tables of an adapter. -/
structure AdapterState where
  store : OrderedMap Value Record
  idempotencyKeys : OrderedMap String Value

def AdapterState.empty : AdapterState := ⟨.empty, .empty⟩

/-- The tenant an option object names, when it is present and not empty. -/
def WriteOptions.tenant? (opts : Option WriteOptions) : Option String := opts.map (·.tenantId)

/-- The `_tenantId` that a created document gets. -/
def WriteOptions.tenantValue : Option WriteOptions → Value
  | none => .undefined
  | some opts => .string opts.tenantId

/-- The answer of an idempotent `create` whose document is still stored. -/
def replayed (state : AdapterState) (opts : Option WriteOptions) : Option WriteResult := do
  let key ← present (opts.bind (·.idempotencyKey))
  let existingId ← state.idempotencyKeys.get key
  if !existingId.truthy then none
  let existing ← state.store.get existingId
  return { id := existingId, success := true, version := existing.get "_version" }

/-- The id a created document is stored under: `doc.id ?? uuid()`. -/
def createdId (doc : Record) (draws : Draws) : Value :=
  if (prop doc "id").isNullish then .string (draws.uuid 0) else prop doc "id"

/-- Remember which document an idempotency key created. -/
def rememberKey (keys : OrderedMap String Value) (opts : Option WriteOptions) (id : Value) :
    OrderedMap String Value :=
  match present (opts.bind (·.idempotencyKey)) with
  | none => keys
  | some key => keys.set key id

/-- `String(offset + limit)` when a further page exists. -/
def nextCursor (offset : Option Int) (limit : Int) (total : Nat) : Option String :=
  match offset with
  | some start => if start + limit < total then some (toString (start + limit)) else none
  | none => none

/-- The start of the requested page: a non-empty cursor wins over the offset. -/
def pageOffset (pagination : Option PaginationSpec) : Option Int :=
  match present (pagination.bind (·.cursor)) with
  | some cursor => parseInt cursor
  | none => some ((pagination.bind (·.offset)).getD 0)

/-- The requested page of the matching documents; `slice(NaN, NaN)` is empty. -/
def paginate (items : List Record) (pagination : Option PaginationSpec) : PaginatedResult :=
  let limit := (pagination.map (·.limit)).getD 50
  let offset := pageOffset pagination
  { items := (offset.map fun start => slice items start (start + limit)).getD []
    total := items.length
    hasMore := (nextCursor offset limit items.length).isSome
    nextCursor := nextCursor offset limit items.length }

/-- The document a call by id acts on: stored, and not another tenant's. -/
def accessible (state : AdapterState) (id : String) (tenantId : Option String) : Option Record :=
  (state.store.get (.string id)).filter fun doc => !foreign tenantId doc

theorem accessible_eq_some_iff {state : AdapterState} {id : String} {tenantId : Option String}
    {doc : Record} : accessible state id tenantId = some doc ↔
      state.store.get (.string id) = some doc ∧ foreign tenantId doc = false := by
  simp [accessible, Option.filter_eq_some_iff]

namespace MongoDBAdapter

variable (runtime : Runtime)

/-- The operator properties of one filter field, each checked when present. The
adapter knows no `$nin` and no `$regex`. -/
def matchesOperator (doc : Record) (key : String) (op : FilterOperator) : Bool :=
  op.eq.all (fun v => (prop doc key).strictEquals v) &&
  op.ne.all (fun v => !(prop doc key).strictEquals v) &&
  op.gt.all (fun v => runtime.gt (prop doc key) v) &&
  op.gte.all (fun v => runtime.ge (prop doc key) v) &&
  op.lt.all (fun v => runtime.lt (prop doc key) v) &&
  op.lte.all (fun v => runtime.le (prop doc key) v) &&
  op.isIn.all (fun vs => vs.any fun v => (prop doc key).sameValueZero v) &&
  op.exists'.all (fun expected => expected == (doc.has key && prop doc key ≠ .undefined))

def matchesField (doc : Record) (key : String) : FilterValue → Bool
  | .operator op => matchesOperator runtime doc key op
  -- A plain object without operator properties constrains nothing.
  | .literal (.object _) => true
  | .literal value => (prop doc key).strictEquals value

def matchesFilter (doc : Record) (filter : FilterSpec) : Bool :=
  filter.entries.all fun entry => matchesField runtime doc entry.1 entry.2

/-- The requested fields of a document, `id` always among them. -/
def applyProjection (doc : Record) (projection : Option (List String)) : Record :=
  match projection with
  | none | some [] => doc
  | some fields =>
    fields.foldl
      (fun result field =>
        match doc.get field with
        | some value => result.set field value
        | none => result)
      (empty.set "id" (prop doc "id"))

/-- The documents an operation ranges over, in store order. -/
def selected (state : AdapterState) (filter : FilterSpec) (tenantId : Option String) :
    List Record :=
  state.store.values.filter fun doc => !foreign tenantId doc && matchesFilter runtime doc filter

def findById (state : AdapterState) (id : String) (opts : Option ReadOptions) : Option Record :=
  match state.store.get (.string id) with
  | none => none
  | some doc =>
    if foreign (opts.map (·.tenantId)) doc then none
    else some (applyProjection doc (opts.bind (·.projection)))

def findOne (state : AdapterState) (filter : FilterSpec) (opts : Option ReadOptions) :
    Option Record :=
  ((selected runtime state filter (opts.map (·.tenantId))).head?).map fun doc =>
    applyProjection doc (opts.bind (·.projection))

/-- The comparator of `findMany`; it never answers that two documents are equal. -/
def compare (spec : SortSpec) (a b : Record) : Int :=
  match spec.direction with
  | .asc => if runtime.gt (prop a spec.field) (prop b spec.field) then 1 else -1
  | .desc => if runtime.lt (prop a spec.field) (prop b spec.field) then 1 else -1

/-- Only the first sort key is used. -/
def sortItems (sort : Option (List SortSpec)) (items : List Record) : List Record :=
  match sort with
  | none | some [] => items
  | some (spec :: _) => runtime.sort (compare runtime spec) items

def findMany (state : AdapterState) (filter : FilterSpec) (opts : Option FindManyOptions) :
    PaginatedResult :=
  let items := (selected runtime state filter (opts.map (·.tenantId))).map fun doc =>
    applyProjection doc (opts.bind (·.projection))
  paginate (sortItems runtime (opts.bind (·.sort)) items) (opts.bind (·.pagination))

def count (state : AdapterState) (filter : FilterSpec) (opts : Option ReadOptions) : Nat :=
  (selected runtime state filter (opts.map (·.tenantId))).length

def exists' (state : AdapterState) (filter : FilterSpec) (opts : Option ReadOptions) : Bool :=
  count runtime state filter opts > 0

/-- The record `create` stores: the document's own `id`, tenant, time and version
properties lose against the adapter's. -/
def createdRecord (doc : Record) (opts : Option WriteOptions) (draws : Draws) : Record :=
  (((doc.set "id" (createdId doc draws)).set "_tenantId" (WriteOptions.tenantValue opts)).set
    "_createdAt" (.string (draws.now 0))).set "_version" (.int 1)

def create (state : AdapterState) (doc : Record) (opts : Option WriteOptions) (draws : Draws) :
    AdapterState × WriteResult :=
  match replayed state opts with
  | some result => (state, result)
  | none =>
    let id := createdId doc draws
    ({ store := state.store.set id (createdRecord doc opts draws)
       idempotencyKeys := rememberKey state.idempotencyKeys opts id },
      { id, success := true, version := some (.int 1) })

/-- `create` never throws, so the list of failures stays empty. -/
def createMany (state : AdapterState) (docs : List Record) (opts : Option WriteOptions)
    (draws : Draws) : AdapterState × BatchWriteResult :=
  match docs with
  | [] => (state, { succeeded := [], failed := [] })
  | doc :: rest =>
    let (next, result) := create state doc opts draws
    let (final, batch) := createMany next rest opts draws.tail
    (final, { batch with succeeded := result :: batch.succeeded })

/-- The record an update leaves: the patch wins over every stored property except
the version and the update time. -/
def updatedRecord (existing patch : Record) (now : String) : Record :=
  ((existing.spread patch).set "_version" (runtime.successor (prop existing "_version"))).set
    "_updatedAt" (.string now)

def update (state : AdapterState) (id : String) (patch : Record) (opts : Option WriteOptions)
    (draws : Draws) : AdapterState × WriteResult :=
  match state.store.get (.string id) with
  | none => (state, { id := .string id, success := false })
  | some existing =>
    if foreign (WriteOptions.tenant? opts) existing then
      (state, { id := .string id, success := false })
    else
      ({ state with store :=
          state.store.set (.string id) (updatedRecord runtime existing patch (draws.now 0)) },
        { id := .string id, success := true
          version := some (runtime.successor (prop existing "_version")) })

/-- The loop of `updateMany`. It writes only the key it is visiting, so the entries
still to come are those of the store it started from. -/
def updateEntries (filter : FilterSpec) (patch : Record) (tenantId : Option String) :
    List (Value × Record) → OrderedMap Value Record → Draws → OrderedMap Value Record × Nat
  | [], store, _ => (store, 0)
  | (id, doc) :: rest, store, draws =>
    if foreign tenantId doc then updateEntries filter patch tenantId rest store draws
    else if matchesFilter runtime doc filter then
      let (final, matched) := updateEntries filter patch tenantId rest
        (store.set id (updatedRecord runtime doc patch (draws.now 0))) draws.tail
      (final, matched + 1)
    else updateEntries filter patch tenantId rest store draws

def updateMany (state : AdapterState) (filter : FilterSpec) (patch : Record)
    (opts : Option WriteOptions) (draws : Draws) : AdapterState × UpdateResult :=
  let (store, matched) := updateEntries runtime filter patch (WriteOptions.tenant? opts)
    state.store.entries state.store draws
  ({ state with store }, { matchedCount := matched, modifiedCount := matched })

def delete (state : AdapterState) (id : String) (opts : Option WriteOptions) :
    AdapterState × Bool :=
  match state.store.get (.string id) with
  | none => (state, false)
  | some existing =>
    if foreign (WriteOptions.tenant? opts) existing then (state, false)
    else ({ state with store := state.store.delete (.string id) }, true)

def softDeletedRecord (existing : Record) (now : String) : Record :=
  (existing.set "_deleted" (.boolean true)).set "_deletedAt" (.string now)

def softDelete (state : AdapterState) (id : String) (opts : Option WriteOptions) (draws : Draws) :
    AdapterState × Bool :=
  match state.store.get (.string id) with
  | none => (state, false)
  | some existing =>
    if foreign (WriteOptions.tenant? opts) existing then (state, false)
    else
      ({ state with store :=
          state.store.set (.string id) (softDeletedRecord existing (draws.now 0)) }, true)

end MongoDBAdapter

/-- A call of the repository interface. -/
inductive Operation where
  | findById (id : String) (opts : Option ReadOptions)
  | findOne (filter : FilterSpec) (opts : Option ReadOptions)
  | findMany (filter : FilterSpec) (opts : Option FindManyOptions)
  | count (filter : FilterSpec) (opts : Option ReadOptions)
  | exists' (filter : FilterSpec) (opts : Option ReadOptions)
  | create (doc : Record) (opts : Option WriteOptions)
  | createMany (docs : List Record) (opts : Option WriteOptions)
  | update (id : String) (patch : Record) (opts : Option WriteOptions)
  | updateMany (filter : FilterSpec) (patch : Record) (opts : Option WriteOptions)
  | delete (id : String) (opts : Option WriteOptions)
  | softDelete (id : String) (opts : Option WriteOptions)

structure Call where
  operation : Operation
  draws : Draws

inductive Answer where
  | document (doc : Option Record)
  | page (page : PaginatedResult)
  | number (count : Nat)
  | truth (value : Bool)
  | write (result : WriteResult)
  | batch (result : BatchWriteResult)
  | updated (result : UpdateResult)
  | thrown (message : String)
deriving DecidableEq

def tagged {α : Type} (tag : α → Answer) (result : AdapterState × α) : AdapterState × Answer :=
  (result.1, tag result.2)

namespace MongoDBAdapter

variable (runtime : Runtime)

def step (state : AdapterState) (call : Call) : AdapterState × Answer :=
  match call.operation with
  | .findById id opts => (state, .document (findById state id opts))
  | .findOne filter opts => (state, .document (findOne runtime state filter opts))
  | .findMany filter opts => (state, .page (findMany runtime state filter opts))
  | .count filter opts => (state, .number (count runtime state filter opts))
  | .exists' filter opts => (state, .truth (exists' runtime state filter opts))
  | .create doc opts => tagged .write (create state doc opts call.draws)
  | .createMany docs opts => tagged .batch (createMany state docs opts call.draws)
  | .update id patch opts => tagged .write (update runtime state id patch opts call.draws)
  | .updateMany filter patch opts =>
    tagged .updated (updateMany runtime state filter patch opts call.draws)
  | .delete id opts => tagged .truth (delete state id opts)
  | .softDelete id opts => tagged .truth (softDelete state id opts call.draws)

def machine : Transducer AdapterState Call Answer := ⟨step runtime⟩

variable {runtime}

theorem prop_createdRecord (doc : Record) (opts : Option WriteOptions) (draws : Draws) :
    prop (createdRecord doc opts draws) "id" = createdId doc draws ∧
      prop (createdRecord doc opts draws) "_tenantId" = WriteOptions.tenantValue opts := by
  constructor <;> simp [createdRecord]

/-- Updating touches a property other than the version and the update time only
through the patch. -/
theorem prop_updatedRecord (existing patch : Record) (now : String) {key : String}
    (version : key ≠ "_version") (updated : key ≠ "_updatedAt") :
    prop (updatedRecord runtime existing patch now) key =
      (patch.get key).getD (prop existing key) := by
  simp only [updatedRecord, prop_set, if_neg (Ne.symm version), if_neg (Ne.symm updated)]
  exact prop_spread existing patch key

theorem prop_softDeletedRecord (existing : Record) (now : String) {key : String}
    (deleted : key ≠ "_deleted") (deletedAt : key ≠ "_deletedAt") :
    prop (softDeletedRecord existing now) key = prop existing key := by
  simp [softDeletedRecord, Ne.symm deleted, Ne.symm deletedAt]

variable (state : AdapterState)

theorem findById_eq (id : String) (opts : Option ReadOptions) :
    findById state id opts = (accessible state id (opts.map (·.tenantId))).map fun doc =>
      applyProjection doc (opts.bind (·.projection)) := by
  unfold findById accessible
  cases state.store.get (.string id) with
  | none => rfl
  | some doc => cases visible : foreign (opts.map (·.tenantId)) doc <;> simp [visible]

theorem update_eq (id : String) (patch : Record) (opts : Option WriteOptions) (draws : Draws) :
    update runtime state id patch opts draws =
      match accessible state id (WriteOptions.tenant? opts) with
      | none => (state, { id := .string id, success := false })
      | some existing =>
        ({ state with store :=
            state.store.set (.string id) (updatedRecord runtime existing patch (draws.now 0)) },
          { id := .string id, success := true
            version := some (runtime.successor (prop existing "_version")) }) := by
  unfold update accessible
  cases state.store.get (.string id) with
  | none => rfl
  | some doc => cases visible : foreign (WriteOptions.tenant? opts) doc <;>
      simp [Option.filter, visible]

theorem delete_eq (id : String) (opts : Option WriteOptions) : delete state id opts =
      match accessible state id (WriteOptions.tenant? opts) with
      | none => (state, false)
      | some _ => ({ state with store := state.store.delete (.string id) }, true) := by
  unfold delete accessible
  cases state.store.get (.string id) with
  | none => rfl
  | some doc => cases visible : foreign (WriteOptions.tenant? opts) doc <;>
      simp [Option.filter, visible]

theorem softDelete_eq (id : String) (opts : Option WriteOptions) (draws : Draws) :
    softDelete state id opts draws =
      match accessible state id (WriteOptions.tenant? opts) with
      | none => (state, false)
      | some existing =>
        ({ state with store :=
            state.store.set (.string id) (softDeletedRecord existing (draws.now 0)) }, true) := by
  unfold softDelete accessible
  cases state.store.get (.string id) with
  | none => rfl
  | some doc => cases visible : foreign (WriteOptions.tenant? opts) doc <;>
      simp [Option.filter, visible]

/-- `updateEntries` leaves a key alone when it selects no entry of it. -/
theorem updateEntries_of_not_mem {filter : FilterSpec} {patch : Record}
    {tenantId : Option String} {entries : List (Value × Record)}
    {store : OrderedMap Value Record} {draws : Draws} {id : Value}
    (unselected : ∀ doc, (id, doc) ∈ entries → foreign tenantId doc = false →
      matchesFilter runtime doc filter = false) :
    (updateEntries runtime filter patch tenantId entries store draws).1.get id = store.get id := by
  induction entries generalizing store draws with
  | nil => rfl
  | cons entry rest ih =>
    obtain ⟨k, doc⟩ := entry
    have later : ∀ other, (id, other) ∈ rest → foreign tenantId other = false →
        matchesFilter runtime other filter = false := fun other member =>
      unselected other (List.mem_cons_of_mem _ member)
    simp only [updateEntries]
    split
    · exact ih later
    · rename_i visible
      split
      · rename_i matching
        have different : k ≠ id := by
          rintro rfl
          have unmatched := unselected doc List.mem_cons_self (by simpa using visible)
          simp [unmatched] at matching
        rw [ih later, get_set_of_ne _ _ different]
      · exact ih later

theorem updateEntries_of_mem {filter : FilterSpec} {patch : Record} {tenantId : Option String}
    {entries : List (Value × Record)} {store : OrderedMap Value Record} {draws : Draws}
    (nodup : (entries.map Prod.fst).Nodup) {id : Value} {doc : Record}
    (member : (id, doc) ∈ entries) (visible : foreign tenantId doc = false)
    (matching : matchesFilter runtime doc filter = true) :
    ∃ now, (updateEntries runtime filter patch tenantId entries store draws).1.get id =
      some (updatedRecord runtime doc patch now) := by
  induction entries generalizing store draws with
  | nil => simp at member
  | cons entry rest ih =>
    obtain ⟨k, old⟩ := entry
    simp only [List.map_cons, List.nodup_cons] at nodup
    rcases List.mem_cons.mp member with here | later
    · cases here
      refine ⟨draws.now 0, ?_⟩
      simp only [updateEntries, visible, matching, Bool.false_eq_true, if_false, if_true]
      rw [updateEntries_of_not_mem, get_set_self]
      intro other otherMember
      exact absurd (List.mem_map.mpr ⟨_, otherMember, rfl⟩) nodup.1
    · simp only [updateEntries]
      split
      · exact ih nodup.2 later
      · split
        · exact ih nodup.2 later
        · exact ih nodup.2 later

end MongoDBAdapter

end Caas.Datastore
