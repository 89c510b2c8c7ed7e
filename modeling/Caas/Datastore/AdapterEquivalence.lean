import Caas.Datastore.KeyValueAdapter

/-!
# Agreement of the adapters

The key-value adapters and the MongoDB adapter are compared up to the times only
the latter stores: `untimed` forgets them. Two adapter states that `untimed`
cannot tell apart answer alike to every call within the limits of all providers,
as long as the call asks for nothing that the key-value adapters ignore: a range
or existence operator, a sort key, a projection, or a condition on a time.
-/

namespace Caas.Datastore

open Js OrderedMap MongoDBAdapter

/-- The times that the MongoDB adapter stores. -/
def timeFields : List String := ["_createdAt", "_updatedAt", "_deletedAt"]

def untimed (doc : Record) : Record := doc.restrict fun key _ => key ∉ timeFields

/-- A state without the times of its records. -/
def AdapterState.untimed (state : AdapterState) : AdapterState :=
  { state with store := state.store.mapValues Datastore.untimed }

/-- An answer without the times of its documents. -/
def Answer.untimed : Answer → Answer
  | .document doc => .document (doc.map Datastore.untimed)
  | .page result => .page { result with items := result.items.map Datastore.untimed }
  | answer => answer

/-- The filter uses only what all adapters implement, and no times. -/
def PortableFilter (filter : FilterSpec) : Prop :=
  ∀ entry ∈ filter.entries, entry.1 ∉ timeFields ∧
    ∀ op, entry.2 = .operator op →
      op.gt = none ∧ op.gte = none ∧ op.lt = none ∧ op.lte = none ∧ op.exists' = none

def Unprojected (projection : Option (List String)) : Prop :=
  ∀ field fields, projection ≠ some (field :: fields)

def Unsorted (sort : Option (List SortSpec)) : Prop := ∀ spec specs, sort ≠ some (spec :: specs)

/-- The call asks only for what all adapters implement. -/
def Portable (call : Call) : Prop :=
  match call.operation with
  | .findById _ opts => Unprojected (opts.bind (·.projection))
  | .findOne filter opts => PortableFilter filter ∧ Unprojected (opts.bind (·.projection))
  | .findMany filter opts =>
    PortableFilter filter ∧ Unprojected (opts.bind (·.projection)) ∧
      Unsorted (opts.bind (·.sort))
  | .count filter _ | .exists' filter _ | .updateMany filter _ _ => PortableFilter filter
  | _ => True

/-- The documents and the batch of the call fit every provider. -/
def WithinLimits (runtime : Runtime) (call : Call) : Prop :=
  ∀ provider, match call.operation with
    | .create doc _ =>
      runtime.stringifyLength doc ≤ (providerCapabilities provider).maxDocSizeBytes
    | .createMany docs _ =>
      docs.length ≤ (providerCapabilities provider).maxBatchSize ∧
        ∀ doc ∈ docs, runtime.stringifyLength doc ≤ (providerCapabilities provider).maxDocSizeBytes
    | _ => True

/-- After the calls, an adapter has answered like the MongoDB adapter and holds the
same documents, up to times. -/
def AgreesWithMongoDB (runtime : Runtime) (machine : Transducer AdapterState Call Answer)
    (calls : List Call) : Prop :=
  (machine.run .empty calls).untimed =
      ((MongoDBAdapter.machine runtime).run .empty calls).untimed ∧
    (machine.outputs .empty calls).map Answer.untimed =
      ((MongoDBAdapter.machine runtime).outputs .empty calls).map Answer.untimed

section Records

variable {runtime : Runtime}

variable {key : String} (doc : Record)

theorem get_untimed (timeless : key ∉ timeFields) : (untimed doc).get key = doc.get key := by
  cases found : doc.get key <;> simp [untimed, timeless, found]

theorem prop_untimed (timeless : key ∉ timeFields) : prop (untimed doc) key = prop doc key := by
  rw [prop, get_untimed doc timeless, prop]

theorem untimed_set (value : Value) (timeless : key ∉ timeFields) :
    untimed (doc.set key value) = (untimed doc).set key value := by
  have kept := restrict_set (fun k : String => decide (k ∉ timeFields)) doc key value
  rwa [if_pos (by simpa using timeless)] at kept

theorem untimed_set_time (value : Value) (time : key ∈ timeFields) :
    untimed (doc.set key value) = untimed doc := by
  have dropped := restrict_set (fun k : String => decide (k ∉ timeFields)) doc key value
  rwa [if_neg (by simpa using time)] at dropped

theorem untimed_spread (base patch : Record) :
    untimed (base.spread patch) = (untimed base).spread (untimed patch) :=
  restrict_spread (fun k : String => decide (k ∉ timeFields)) base patch

theorem foreign_untimed (tenantId : Option String) (doc : Record) :
    foreign tenantId (untimed doc) = foreign tenantId doc := by
  unfold foreign
  rw [prop_untimed doc (by decide)]

theorem untimed_createdRecord (opts : Option WriteOptions) (draws : Draws) :
    untimed (createdRecord doc opts draws) =
      untimed (KeyValueAdapter.createdRecord doc opts draws) := by
  unfold createdRecord KeyValueAdapter.createdRecord
  rw [untimed_set _ _ (by decide), untimed_set_time _ _ (by decide), ← untimed_set _ _ (by decide)]

theorem untimed_updatedRecord (existing patch : Record) :
    untimed (KeyValueAdapter.updatedRecord runtime existing patch) =
      KeyValueAdapter.updatedRecord runtime (untimed existing) (untimed patch) := by
  unfold KeyValueAdapter.updatedRecord
  rw [untimed_set _ _ (by decide), untimed_spread, prop_untimed existing (by decide)]

theorem untimed_updatedRecord_eq {existing existing' : Record} (patch : Record) (now : String)
    (same : untimed existing = untimed existing') :
    untimed (updatedRecord runtime existing patch now) =
      untimed (KeyValueAdapter.updatedRecord runtime existing' patch) := by
  calc untimed (updatedRecord runtime existing patch now)
      = untimed (KeyValueAdapter.updatedRecord runtime existing patch) := by
        exact untimed_set_time _ _ (by decide)
    _ = untimed (KeyValueAdapter.updatedRecord runtime existing' patch) := by
        rw [untimed_updatedRecord, same, untimed_updatedRecord]

theorem untimed_softDeletedRecord_eq {existing existing' : Record} (now : String)
    (same : untimed existing = untimed existing') : untimed (softDeletedRecord existing now) =
      untimed (existing'.set "_deleted" (.boolean true)) := by
  unfold softDeletedRecord
  rw [untimed_set_time _ _ (by decide), untimed_set _ _ (by decide), same,
    ← untimed_set _ _ (by decide)]

theorem matchesFilter_untimed {filter : FilterSpec} (portable : PortableFilter filter)
    (doc : Record) : KeyValueAdapter.matchesFilter (untimed doc) filter =
      KeyValueAdapter.matchesFilter doc filter := by
  unfold KeyValueAdapter.matchesFilter
  rw [Bool.eq_iff_iff, List.all_eq_true, List.all_eq_true]
  refine forall₂_congr fun entry member => ?_
  have timeless := (portable entry member).1
  cases condition : entry.2 with
  | literal value =>
    cases value <;> simp only [KeyValueAdapter.matchesField, prop_untimed doc timeless]
  | operator op =>
    simp only [KeyValueAdapter.matchesField, KeyValueAdapter.matchesOperator,
      prop_untimed doc timeless]

theorem matchesFilter_eq {filter : FilterSpec} (portable : PortableFilter filter) (doc : Record) :
    matchesFilter runtime doc filter = KeyValueAdapter.matchesFilter doc filter := by
  unfold matchesFilter KeyValueAdapter.matchesFilter
  rw [Bool.eq_iff_iff, List.all_eq_true, List.all_eq_true]
  refine forall₂_congr fun entry member => ?_
  cases condition : entry.2 with
  | literal value => cases value <;> rfl
  | operator op =>
    obtain ⟨gt, gte, lt, lte, exists'⟩ := (portable entry member).2 op condition
    simp [matchesField, KeyValueAdapter.matchesField,
      matchesOperator, KeyValueAdapter.matchesOperator, gt, gte, lt, lte, exists']

theorem applyProjection_eq {projection : Option (List String)}
    (unprojected : Unprojected projection) (doc : Record) :
    applyProjection doc projection = doc := by
  match projection with
  | none | some [] => rfl
  | some (field :: fields) => exact absurd rfl (unprojected field fields)

theorem sortItems_eq {sort : Option (List SortSpec)} (unsorted : Unsorted sort)
    (items : List Record) : sortItems runtime sort items = items := by
  match sort with
  | none | some [] => rfl
  | some (spec :: specs) => exact absurd rfl (unsorted spec specs)

end Records

section Steps

variable {runtime : Runtime} {state state' : AdapterState}

theorem AdapterState.untimed_eq {store store' : OrderedMap Value Record}
    {keys keys' : OrderedMap String Value}
    (stores : store.mapValues Datastore.untimed = store'.mapValues Datastore.untimed)
    (sameKeys : keys = keys') :
    AdapterState.untimed ⟨store, keys⟩ = AdapterState.untimed ⟨store', keys'⟩ := by
  simp only [AdapterState.untimed, stores, sameKeys]

section

variable (same : state.untimed = state'.untimed)
include same

theorem stores_untimed : state.store.mapValues untimed = state'.store.mapValues untimed :=
  congrArg AdapterState.store same

theorem keys_untimed :
    state.idempotencyKeys = state'.idempotencyKeys := by
  change state.untimed.idempotencyKeys = state'.untimed.idempotencyKeys
  rw [same]

theorem stored_untimed (id : Value) :
    (state.store.get id).map untimed = (state'.store.get id).map untimed := by
  have equal := congrArg (fun store => store.get id) (stores_untimed same)
  simpa using equal

theorem replayed_untimed (opts : Option WriteOptions) :
    replayed state opts = replayed state' opts := by
  have version : ∀ id, (state.store.get id).map (·.get "_version") =
      (state'.store.get id).map (·.get "_version") := by
    intro id
    have equal := congrArg (Option.map (·.get "_version")) (stored_untimed same id)
    simpa [Function.comp_def, get_untimed _ (show "_version" ∉ timeFields by decide)] using equal
  unfold replayed
  rw [keys_untimed same]
  refine Option.bind_congr fun key _ => Option.bind_congr fun id _ => ?_
  have shown := version id
  cases found : state.store.get id <;> cases found' : state'.store.get id <;>
    simp_all

theorem accessible_untimed (id : String) (tenantId : Option String) :
    (accessible state id tenantId = none ∧ accessible state' id tenantId = none) ∨
      ∃ doc doc', accessible state id tenantId = some doc ∧
        accessible state' id tenantId = some doc' ∧ untimed doc = untimed doc' := by
  have stored := stored_untimed same (.string id)
  unfold accessible
  cases found : state.store.get (.string id) with
  | none =>
    have absent : state'.store.get (.string id) = none := by simpa [found] using stored.symm
    simp [absent]
  | some doc =>
    obtain ⟨doc', found', equal⟩ : ∃ doc', state'.store.get (.string id) = some doc' ∧
        untimed doc = untimed doc' := by
      simpa [found, eq_comm] using stored.symm
    have visible : foreign tenantId doc = foreign tenantId doc' := by
      rw [← foreign_untimed tenantId doc, equal, foreign_untimed]
    rw [found']
    cases hidden : foreign tenantId doc' with
    | true => simp [Option.filter, visible, hidden]
    | false => exact .inr ⟨doc, doc', by simp [Option.filter, visible, hidden], by
        simp [Option.filter, hidden], equal⟩

end

theorem selected_untimed {filter : FilterSpec} (portable : PortableFilter filter)
    (same : state.untimed = state'.untimed) (tenantId : Option String) :
    (selected runtime state filter tenantId).map untimed =
      (KeyValueAdapter.selected state' filter tenantId).map untimed := by
  let accepted := fun doc => !foreign tenantId doc && KeyValueAdapter.matchesFilter doc filter
  have shown : ∀ doc, accepted doc = (accepted ∘ untimed) doc := by
    intro doc
    simp only [accepted, Function.comp_apply, foreign_untimed, matchesFilter_untimed portable]
  have values : state.store.values.map untimed = state'.store.values.map untimed := by
    rw [← values_mapValues, stores_untimed same, values_mapValues]
  unfold selected KeyValueAdapter.selected
  simp only [matchesFilter_eq portable]
  calc (state.store.values.filter accepted).map untimed
      = (state.store.values.map untimed).filter accepted := by
        rw [List.filter_map, List.filter_congr fun doc _ => shown doc]
    _ = (state'.store.values.filter accepted).map untimed := by
        rw [values, List.filter_map, List.filter_congr fun doc _ => shown doc]

theorem paginate_untimed {items items' : List Record} (pagination : Option PaginationSpec)
    (same : items.map untimed = items'.map untimed) :
    (Answer.page (paginate items pagination)).untimed =
      (Answer.page (paginate items' pagination)).untimed := by
  have length : items.length = items'.length := by simpa using congrArg List.length same
  have page : ∀ start stop,
      (slice items start stop).map untimed = (slice items' start stop).map untimed := by
    intro start stop
    simp only [slice, List.map_drop, List.map_take, same, length]
  cases start : pageOffset pagination <;> simp [Answer.untimed, paginate, length, page, start]

theorem create_untimed {driver : Driver} (same : state.untimed = state'.untimed) (doc : Record)
    (opts : Option WriteOptions) (draws : Draws)
    (fits : runtime.stringifyLength doc ≤ driver.caps.maxDocSizeBytes) :
    ∃ next, KeyValueAdapter.create driver runtime state' doc opts draws =
        .ok (next, (create state doc opts draws).2) ∧
      (create state doc opts draws).1.untimed = next.untimed := by
  unfold KeyValueAdapter.create create
  rw [if_neg (by omega), replayed_untimed same]
  cases replayed state' opts with
  | some result => exact ⟨state', rfl, same⟩
  | none =>
    refine ⟨_, rfl, AdapterState.untimed_eq ?_ (by rw [keys_untimed same])⟩
    rw [mapValues_set, mapValues_set, stores_untimed same,
      untimed_createdRecord]

theorem createEach_untimed {driver : Driver} (same : state.untimed = state'.untimed)
    (docs : List Record) (opts : Option WriteOptions) (draws : Draws)
    (fits : ∀ doc ∈ docs, runtime.stringifyLength doc ≤ driver.caps.maxDocSizeBytes) :
    (createMany state docs opts draws).1.untimed =
        (KeyValueAdapter.createEach driver runtime state' docs opts draws).1.untimed ∧
      (createMany state docs opts draws).2 =
        (KeyValueAdapter.createEach driver runtime state' docs opts draws).2 := by
  induction docs generalizing state state' draws with
  | nil => exact ⟨same, rfl⟩
  | cons doc rest ih =>
    obtain ⟨next, created, related⟩ :=
      create_untimed same doc opts draws (fits doc List.mem_cons_self)
    obtain ⟨states, batches⟩ := ih related draws.tail fun later member =>
      fits later (List.mem_cons_of_mem _ member)
    simp only [createMany, KeyValueAdapter.createEach, created]
    exact ⟨states, by rw [batches]⟩

theorem updateEntries_untimed {filter : FilterSpec} (portable : PortableFilter filter)
    (patch : Record) (tenantId : Option String) (draws : Draws)
    {entries entries' : List (Value × Record)} {store store' : OrderedMap Value Record}
    (sameEntries : entries.map (fun entry => (entry.1, untimed entry.2)) =
      entries'.map fun entry => (entry.1, untimed entry.2))
    (sameStores : store.mapValues untimed = store'.mapValues untimed) :
    (updateEntries runtime filter patch tenantId entries store draws).1.mapValues
          untimed =
        (KeyValueAdapter.updateEntries runtime filter patch tenantId entries' store').1.mapValues
          untimed ∧ (updateEntries runtime filter patch tenantId entries store draws).2 =
        (KeyValueAdapter.updateEntries runtime filter patch tenantId entries' store').2 := by
  induction entries generalizing entries' store store' draws with
  | nil =>
    have empty : entries' = [] := by simpa using sameEntries.symm
    subst empty
    exact ⟨sameStores, rfl⟩
  | cons entry rest ih =>
    obtain ⟨id, doc⟩ := entry
    cases entries' with
    | nil => simp at sameEntries
    | cons entry' rest' =>
      obtain ⟨id', doc'⟩ := entry'
      simp only [List.map_cons, List.cons.injEq, Prod.mk.injEq] at sameEntries
      obtain ⟨⟨rfl, equal⟩, later⟩ := sameEntries
      have hidden : foreign tenantId doc = foreign tenantId doc' := by
        rw [← foreign_untimed tenantId doc, equal, foreign_untimed]
      have matching : matchesFilter runtime doc filter =
          KeyValueAdapter.matchesFilter doc' filter := by
        rw [matchesFilter_eq portable, ← matchesFilter_untimed portable doc, equal,
          matchesFilter_untimed portable]
      simp only [updateEntries, KeyValueAdapter.updateEntries, hidden, matching]
      split
      · exact ih draws later sameStores
      · split
        · have written : (store.set id
                (updatedRecord runtime doc patch (draws.now 0))).mapValues untimed =
              (store'.set id (KeyValueAdapter.updatedRecord runtime doc' patch)).mapValues
                untimed := by
            rw [mapValues_set, mapValues_set, sameStores,
              untimed_updatedRecord_eq patch _ equal]
          obtain ⟨stores, counts⟩ := ih draws.tail later written
          exact ⟨stores, by rw [counts]⟩
        · exact ih draws later sameStores

/-- The limits of a driver are those of one of the providers. -/
def Driver.Listed (driver : Driver) : Prop :=
  ∃ provider, driver.caps = providerCapabilities provider

theorem step_untimed {driver : Driver} (listed : driver.Listed) {call : Call}
    (same : state.untimed = state'.untimed)
    (admissible : Portable call ∧ WithinLimits runtime call) :
    ((machine runtime).step state call).1.untimed =
        ((KeyValueAdapter.machine driver runtime).step state' call).1.untimed ∧
      ((machine runtime).step state call).2.untimed =
        ((KeyValueAdapter.machine driver runtime).step state' call).2.untimed := by
  obtain ⟨portable, within⟩ := admissible
  obtain ⟨provider, caps⟩ := listed
  have fits := within provider
  rw [← caps] at fits
  obtain ⟨operation, draws⟩ := call
  cases operation with
  | findById id opts =>
    refine ⟨same, ?_⟩
    change Answer.untimed (.document _) = Answer.untimed (.document _)
    rw [findById_eq, KeyValueAdapter.findById]
    simp only [applyProjection_eq portable]
    rcases accessible_untimed same id (opts.map (·.tenantId)) with ⟨absent, absent'⟩ | both
    · rw [absent, absent']
      rfl
    · obtain ⟨doc, doc', found, found', equal⟩ := both
      simp [found, found', Answer.untimed, equal]
  | findOne filter opts =>
    refine ⟨same, ?_⟩
    obtain ⟨portable, unprojected⟩ := portable
    have heads := congrArg List.head? (@selected_untimed runtime _ _ _ portable same
      (opts.map (·.tenantId)))
    simpa [machine, KeyValueAdapter.machine, step,
      KeyValueAdapter.step, Answer.untimed, findOne, KeyValueAdapter.findOne,
      applyProjection_eq unprojected] using heads
  | findMany filter opts =>
    refine ⟨same, ?_⟩
    obtain ⟨portable, unprojected, unsorted⟩ := portable
    change Answer.untimed (.page _) = Answer.untimed (.page _)
    unfold findMany KeyValueAdapter.findMany
    simp only [applyProjection_eq unprojected, sortItems_eq unsorted, List.map_id']
    exact paginate_untimed _ (selected_untimed portable same _)
  | count filter opts | exists' filter opts =>
    refine ⟨same, ?_⟩
    have lengths := congrArg List.length (@selected_untimed runtime _ _ _ portable same
      (opts.map (·.tenantId)))
    simp only [List.length_map] at lengths
    simp [machine, KeyValueAdapter.machine, step,
      KeyValueAdapter.step, exists', KeyValueAdapter.exists',
      count, KeyValueAdapter.count, lengths]
  | create doc opts =>
    obtain ⟨next, created, related⟩ := create_untimed same doc opts draws fits
    simp only [machine, KeyValueAdapter.machine, step,
      KeyValueAdapter.step, created, KeyValueAdapter.caught, tagged]
    exact ⟨related, trivial⟩
  | createMany docs opts =>
    obtain ⟨batch, each⟩ := fits
    obtain ⟨states, answers⟩ := createEach_untimed same docs opts draws each
    have fine : ¬ docs.length > driver.caps.maxBatchSize := by omega
    simp only [machine, KeyValueAdapter.machine, step,
      KeyValueAdapter.step, KeyValueAdapter.createMany, if_neg fine, KeyValueAdapter.caught, tagged]
    exact ⟨states, by rw [answers]⟩
  | update id patch opts =>
    simp only [machine, KeyValueAdapter.machine, step,
      KeyValueAdapter.step, tagged, update_eq, KeyValueAdapter.update]
    rcases accessible_untimed same id (WriteOptions.tenant? opts) with ⟨absent, absent'⟩ | both
    · rw [absent, absent']
      exact ⟨same, rfl⟩
    · obtain ⟨doc, doc', found, found', equal⟩ := both
      have version : prop doc "_version" = prop doc' "_version" := by
        rw [← prop_untimed doc (by decide), equal, prop_untimed doc' (by decide)]
      rw [found, found']
      refine ⟨AdapterState.untimed_eq ?_ (keys_untimed same), by simp only [version]⟩
      rw [mapValues_set, mapValues_set, stores_untimed same,
        untimed_updatedRecord_eq patch _ equal]
  | updateMany filter patch opts =>
    obtain ⟨stores, counts⟩ := @updateEntries_untimed runtime _ portable patch
      (WriteOptions.tenant? opts) draws _ _ _ _
      (congrArg entries (stores_untimed same)) (stores_untimed same)
    exact ⟨AdapterState.untimed_eq stores (keys_untimed same), by
      simp only [machine, KeyValueAdapter.machine, step,
        KeyValueAdapter.step, tagged, updateMany, KeyValueAdapter.updateMany,
        counts]⟩
  | delete id opts =>
    simp only [machine, KeyValueAdapter.machine, step,
      KeyValueAdapter.step, tagged, delete_eq, KeyValueAdapter.delete]
    rcases accessible_untimed same id (WriteOptions.tenant? opts) with ⟨absent, absent'⟩ | both
    · rw [absent, absent']
      exact ⟨same, rfl⟩
    · obtain ⟨doc, doc', found, found', equal⟩ := both
      rw [found, found']
      refine ⟨AdapterState.untimed_eq ?_ (keys_untimed same), rfl⟩
      rw [mapValues_delete, mapValues_delete, stores_untimed same]
  | softDelete id opts =>
    simp only [machine, KeyValueAdapter.machine, step,
      KeyValueAdapter.step, tagged, softDelete_eq, KeyValueAdapter.softDelete]
    rcases accessible_untimed same id (WriteOptions.tenant? opts) with ⟨absent, absent'⟩ | both
    · rw [absent, absent']
      exact ⟨same, rfl⟩
    · obtain ⟨doc, doc', found, found', equal⟩ := both
      rw [found, found']
      refine ⟨AdapterState.untimed_eq ?_ (keys_untimed same), rfl⟩
      rw [mapValues_set, mapValues_set, stores_untimed same,
        untimed_softDeletedRecord_eq _ equal]

end Steps

/-- A key-value adapter agrees with the MongoDB adapter over portable calls within
the limits of all providers. -/
theorem agreesWithMongoDB_of_portable {runtime : Runtime} {driver : Driver}
    (listed : driver.Listed) {calls : List Call}
    (admissible : ∀ call ∈ calls, Portable call ∧ WithinLimits runtime call) :
    AgreesWithMongoDB runtime (KeyValueAdapter.machine driver runtime) calls := by
  obtain ⟨states, answers⟩ := Transducer.simulation
    (fun state state' call same fine => @step_untimed runtime state state' _ listed call same fine)
    (rfl : AdapterState.empty.untimed = AdapterState.empty.untimed) admissible
  exact ⟨states.symm, answers.symm⟩

/-- The DynamoDB and Cosmos DB adapters agree with the MongoDB adapter over every
sequence of calls within all limits that asks for nothing they ignore. -/
theorem adapters_agree (runtime : Runtime) (calls : List Call)
    (within : ∀ call ∈ calls, WithinLimits runtime call)
    (portable : ∀ call ∈ calls, Portable call) :
    AgreesWithMongoDB runtime (DynamoDBAdapter.machine runtime) calls ∧
      AgreesWithMongoDB runtime (CosmosDBAdapter.machine runtime) calls := by
  have admissible : ∀ call ∈ calls, Portable call ∧ WithinLimits runtime call :=
    fun call member => ⟨portable call member, within call member⟩
  constructor
  · exact agreesWithMongoDB_of_portable ⟨.dynamodb, rfl⟩ admissible
  · exact agreesWithMongoDB_of_portable ⟨.cosmosdb, rfl⟩ admissible

/-- Two tenants' calls that ask for nothing special. -/
theorem adapters_agree_on_sample :
    let draws : Draws := ⟨fun _ => "uuid", fun _ => "now"⟩
    let calls : List Call :=
      [⟨.create (.ofList [("id", .string "d"), ("age", .int 20)])
        (some { tenantId := "a" }), draws⟩,
        ⟨.updateMany (.ofList [("age", .operator { isIn := some [.int 20] })])
          (.ofList [("age", .int 21)]) (some { tenantId := "a" }), draws⟩,
        ⟨.findById "d" (some { tenantId := "b" }), draws⟩]
    AgreesWithMongoDB .sample (DynamoDBAdapter.machine .sample) calls ∧
      AgreesWithMongoDB .sample (CosmosDBAdapter.machine .sample) calls := by
  intro draws calls
  refine adapters_agree .sample calls ?_ ?_
  · intro call member provider
    simp only [calls, List.mem_cons, List.not_mem_nil, or_false] at member
    rcases member with rfl | rfl | rfl
    · cases provider <;> decide
    · trivial
    · trivial
  · intro call member
    simp only [calls, List.mem_cons, List.not_mem_nil, or_false] at member
    rcases member with rfl | rfl | rfl
    · trivial
    · intro entry member
      simp only [OrderedMap.ofList, OrderedMap.set, OrderedMap.setEntry, OrderedMap.empty,
        List.foldl_cons, List.foldl_nil, List.mem_cons, List.not_mem_nil, or_false] at member
      subst member
      refine ⟨by decide, ?_⟩
      rintro op ⟨⟩
      simp
    · intro field fields projected
      cases projected

/-- A range update reaches every document of the tenant on DynamoDB and Cosmos DB,
which ignore the range. -/
theorem range_update_diverges :
    let draws : Draws := ⟨fun _ => "uuid", fun _ => "now"⟩
    let calls : List Call :=
      [⟨.create (.ofList [("id", .string "d"), ("age", .int 20)])
        (some { tenantId := "a" }), draws⟩,
        ⟨.updateMany (.ofList [("age", .operator { gt := some (.int 30) })])
          (.ofList [("status", .string "senior")]) (some { tenantId := "a" }), draws⟩]
    (∀ call ∈ calls, WithinLimits .sample call) ∧
      ¬ AgreesWithMongoDB .sample (DynamoDBAdapter.machine .sample) calls ∧
      ¬ AgreesWithMongoDB .sample (CosmosDBAdapter.machine .sample) calls := by
  intro draws calls
  refine ⟨?_, fun agrees => absurd agrees.2 (by decide), fun agrees => absurd agrees.2 (by decide)⟩
  intro call member provider
  simp only [calls, List.mem_cons, List.not_mem_nil, or_false] at member
  rcases member with rfl | rfl
  · cases provider <;> decide
  · trivial

end Caas.Datastore
