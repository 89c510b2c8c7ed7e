import Caas.Datastore.MongoDBAdapter

/-!
# Tenant isolation of the MongoDB adapter

Two tenants share the document table and the idempotency table. What one of them
can see is the restriction of the store to its own documents and of the
idempotency keys to the keys it uses, `isolated`. A call that stays home works
on its tenant's restriction alone (`step_isolated`) and leaves every other
tenant's restriction as it was (`isolated_step`); the unwinding rule makes a
two-run law of these two facts.

A call stays home when the id it creates is not another tenant's document and
its patch does not name another tenant, and when no other tenant uses its
idempotency key. Reads, deletions and soft deletions always stay home.
-/

namespace Caas.Datastore

open Js OrderedMap MongoDBAdapter

def Operation.tenantId : Operation → Option String
  | .findById _ opts | .findOne _ opts | .count _ opts | .exists' _ opts => opts.map (·.tenantId)
  | .findMany _ opts => opts.map (·.tenantId)
  | .create _ opts | .createMany _ opts | .update _ _ opts | .updateMany _ _ opts
  | .delete _ opts | .softDelete _ opts => WriteOptions.tenant? opts

/-- The idempotency key a call uses; only creations read theirs. -/
def Operation.idempotencyKey : Operation → Option String
  | .create _ opts | .createMany _ opts => present (opts.bind (·.idempotencyKey))
  | _ => none

def ownedBy (tenant : String) (doc : Record) : Bool := prop doc "_tenantId" = .string tenant

/-- What a tenant can see of an adapter, its idempotency keys being `keys`. -/
def isolated (tenant : String) (keys : String → Bool) (state : AdapterState) : AdapterState where
  store := state.store.restrict fun _ doc => ownedBy tenant doc
  idempotencyKeys := state.idempotencyKeys.restrict fun key _ => keys key

/-- The id under which `create` answers: that of the replayed document, or of the new one. -/
def answeredId (state : AdapterState) (doc : Record) (opts : Option WriteOptions)
    (draws : Draws) : Value :=
  match replayed state opts with
  | some result => result.id
  | none => createdId doc draws

/-- `create` answers under an id that no other tenant's document holds. -/
def CreatesOwn (tenant : String) (state : AdapterState) (doc : Record)
    (opts : Option WriteOptions) (draws : Draws) : Prop :=
  ∀ stored, state.store.get (answeredId state doc opts draws) = some stored →
    ownedBy tenant stored = true

/-- Every creation of a batch answers under an id that no other tenant's document holds. -/
def CreatesAllOwn (tenant : String) (state : AdapterState) (docs : List Record)
    (opts : Option WriteOptions) (draws : Draws) : Prop :=
  match docs with
  | [] => True
  | doc :: rest =>
    CreatesOwn tenant state doc opts draws ∧
      CreatesAllOwn tenant (create state doc opts draws).1 rest opts draws.tail

def PatchKeepsTenant (tenant : String) (patch : Record) : Prop :=
  ∀ value, patch.get "_tenantId" = some value → value = .string tenant

/-- The call of `tenant` neither takes over nor hands away a document. -/
def StaysHome (runtime : Runtime) (tenant : String) (state : AdapterState) (call : Call) : Prop :=
  match call.operation with
  | .create doc opts => CreatesOwn tenant state doc opts call.draws
  | .createMany docs opts => CreatesAllOwn tenant state docs opts call.draws
  | .update id patch _ =>
    accessible state id (some tenant) ≠ none → PatchKeepsTenant tenant patch
  | .updateMany filter patch _ =>
    selected runtime state filter (some tenant) ≠ [] → PatchKeepsTenant tenant patch
  | _ => True

variable {runtime : Runtime} {tenant other : String} {keys : String → Bool}

theorem foreign_eq (named : tenant ≠ "") (doc : Record) :
    foreign (some tenant) doc = !ownedBy tenant doc := by
  by_cases owned : prop doc "_tenantId" = .string tenant <;>
    simp [foreign, present, Option.filter, named, Value.strictEquals, ownedBy, owned]

theorem not_ownedBy_of_ne (different : tenant ≠ other) {doc : Record}
    (owned : ownedBy tenant doc = true) : ownedBy other doc = false := by
  simp only [ownedBy, decide_eq_true_eq, decide_eq_false_iff_not] at owned ⊢
  rw [owned]
  intro equal
  exact different (Value.string.inj equal)

theorem ownedBy_createdRecord {opts : Option WriteOptions}
    (own : WriteOptions.tenant? opts = some tenant) (doc : Record) (draws : Draws) :
    ownedBy tenant (createdRecord doc opts draws) = true := by
  cases opts with
  | none => cases own
  | some opts =>
    cases own
    simp [ownedBy, (prop_createdRecord doc _ draws).2, WriteOptions.tenantValue]

theorem ownedBy_updatedRecord {existing patch : Record} {now : String}
    (owned : ownedBy tenant existing = true) (keeps : PatchKeepsTenant tenant patch) :
    ownedBy tenant (updatedRecord runtime existing patch now) = true := by
  simp only [ownedBy, decide_eq_true_eq] at owned ⊢
  rw [prop_updatedRecord _ _ _ (by decide) (by decide), owned]
  cases patched : patch.get "_tenantId" with
  | none => rfl
  | some value => exact keeps value patched

theorem ownedBy_softDeletedRecord (existing : Record) (now : String) :
    ownedBy tenant (softDeletedRecord existing now) = ownedBy tenant existing := by
  simp only [ownedBy]
  rw [prop_softDeletedRecord _ _ (by decide) (by decide)]

section OwnCalls

/-! A call of `tenant` works on what `tenant` can see. -/

theorem accessible_isolated (named : tenant ≠ "") (state : AdapterState) (id : String) :
    accessible (isolated tenant keys state) id (some tenant) =
      accessible state id (some tenant) := by
  simp only [accessible, isolated, get_restrict, foreign_eq named]
  cases state.store.get (.string id) with
  | none => rfl
  | some doc => cases owned : ownedBy tenant doc <;> simp [Option.filter, owned]

variable {state : AdapterState} {doc : Record} {opts : Option WriteOptions} {draws : Draws}
  {filter : FilterSpec}

theorem accessible_owned (named : tenant ≠ "") {id : String}
    (found : accessible state id (some tenant) = some doc) :
    state.store.get (.string id) = some doc ∧ ownedBy tenant doc = true := by
  obtain ⟨stored, visible⟩ := accessible_eq_some_iff.mp found
  exact ⟨stored, by simpa [foreign_eq named] using visible⟩

theorem selected_isolated (named : tenant ≠ "") (state : AdapterState) (filter : FilterSpec) :
    selected runtime (isolated tenant keys state) filter (some tenant) =
      selected runtime state filter (some tenant) := by
  simp only [selected, isolated, values, restrict,
    foreign_eq named, List.filter_map, List.filter_filter]
  congr 1
  apply List.filter_congr
  rintro ⟨id, doc⟩ _
  cases owned : ownedBy tenant doc <;> simp [owned]

theorem replayed_isolated (creates : CreatesOwn tenant state doc opts draws)
    (own : ∀ key, present (opts.bind (·.idempotencyKey)) = some key → keys key = true) :
    replayed (isolated tenant keys state) opts = replayed state opts := by
  unfold CreatesOwn answeredId at creates
  unfold replayed at creates ⊢
  cases used : present (opts.bind (·.idempotencyKey)) with
  | none => rfl
  | some key =>
    simp only [used, isolated, get_restrict, own key used, Option.bind_eq_bind,
      Option.bind_some] at creates ⊢
    cases remembered : state.idempotencyKeys.get key with
    | none => rfl
    | some id =>
      cases truth : id.truthy with
      | false => simp [Option.filter, truth]
      | true =>
        cases found : state.store.get id with
        | none => simp [Option.filter, truth, found]
        | some stored =>
          have owned : ownedBy tenant stored = true := by
            apply creates stored
            simp [remembered, truth, found]
          simp [Option.filter, truth, found, owned]

theorem create_isolated (caller : WriteOptions.tenant? opts = some tenant)
    (creates : CreatesOwn tenant state doc opts draws)
    (own : ∀ key, present (opts.bind (·.idempotencyKey)) = some key → keys key = true) :
    create (isolated tenant keys state) doc opts draws =
      (isolated tenant keys (create state doc opts draws).1,
        (create state doc opts draws).2) := by
  unfold create
  rw [replayed_isolated creates own]
  cases replay : replayed state opts with
  | some result => rfl
  | none =>
    have before : ∀ old, state.store.get (createdId doc draws) = some old →
        ownedBy tenant old = true := by
      simpa [CreatesOwn, answeredId, replay] using creates
    simp only [isolated]
    rw [restrict_set_of_keep (fun _ doc => ownedBy tenant doc)
      (ownedBy_createdRecord caller doc draws) before]
    cases used : present (opts.bind (·.idempotencyKey)) with
    | none => simp [rememberKey, used]
    | some key =>
      simp only [rememberKey, used]
      rw [restrict_set_of_keep _ (own key used) fun _ _ => own key used]

theorem createMany_isolated {docs : List Record} (caller : WriteOptions.tenant? opts = some tenant)
    (creates : CreatesAllOwn tenant state docs opts draws)
    (own : ∀ key, present (opts.bind (·.idempotencyKey)) = some key → keys key = true) :
    createMany (isolated tenant keys state) docs opts draws =
      (isolated tenant keys (createMany state docs opts draws).1,
        (createMany state docs opts draws).2) := by
  induction docs generalizing state draws with
  | nil => rfl
  | cons doc rest ih =>
    simp [createMany, create_isolated caller creates.1 own, ih creates.2]

theorem updateEntries_filter (filter : FilterSpec) (patch : Record) (tenantId : Option String)
    (entries : List (Value × Record)) (store : OrderedMap Value Record) (draws : Draws) :
    updateEntries runtime filter patch tenantId entries store draws =
      updateEntries runtime filter patch tenantId
        (entries.filter fun entry => !foreign tenantId entry.2) store draws := by
  induction entries generalizing store draws with
  | nil => rfl
  | cons entry rest ih =>
    obtain ⟨id, doc⟩ := entry
    cases visible : foreign tenantId doc with
    | true => simp [updateEntries, visible, ih]
    | false =>
      cases matching : matchesFilter runtime doc filter <;>
        simp [updateEntries, visible, matching, ih]

theorem updateEntries_restrict {patch : Record} {entries : List (Value × Record)}
    {store : OrderedMap Value Record} (owned : ∀ entry ∈ entries, ownedBy tenant entry.2 = true)
    (stored : ∀ entry ∈ entries, ∀ old, store.get entry.1 = some old → ownedBy tenant old = true)
    (keeps : (∃ entry ∈ entries, matchesFilter runtime entry.2 filter = true) →
      PatchKeepsTenant tenant patch) (draws : Draws) :
    updateEntries runtime filter patch (some tenant) entries
        (store.restrict fun _ doc => ownedBy tenant doc) draws =
      ((updateEntries runtime filter patch (some tenant) entries store
        draws).1.restrict
          fun _ doc => ownedBy tenant doc,
        (updateEntries runtime filter patch (some tenant) entries store
          draws).2) := by
  induction entries generalizing store draws with
  | nil => rfl
  | cons entry rest ih =>
    obtain ⟨id, doc⟩ := entry
    have restOwned := fun later (member : later ∈ rest) =>
      owned later (List.mem_cons_of_mem _ member)
    have restStored := fun later (member : later ∈ rest) =>
      stored later (List.mem_cons_of_mem _ member)
    have restKeeps := fun (matching : ∃ entry ∈ rest,
        matchesFilter runtime entry.2 filter = true) =>
      keeps (matching.imp fun later found => ⟨List.mem_cons_of_mem _ found.1, found.2⟩)
    simp only [updateEntries]
    split
    · exact ih restOwned restStored restKeeps draws
    · split
      · rename_i matching
        have patchKeeps := keeps ⟨_, List.mem_cons_self, matching⟩
        have written : ownedBy tenant
            (updatedRecord runtime doc patch (draws.now 0)) = true :=
          ownedBy_updatedRecord (owned _ List.mem_cons_self) patchKeeps
        have nextStored : ∀ later ∈ rest, ∀ old,
            (store.set id
              (updatedRecord runtime doc patch (draws.now 0))).get later.1 =
              some old → ownedBy tenant old = true := by
          intro later member old found
          rw [get_set] at found
          split at found
          · cases found
            exact written
          · exact restStored later member old found
        have next := ih restOwned nextStored restKeeps draws.tail
        rw [restrict_set_of_keep (fun _ doc => ownedBy tenant doc) written
          (stored _ List.mem_cons_self)] at next
        simp [next]
      · exact ih restOwned restStored restKeeps draws

theorem ownedBy_of_mem_visible (named : tenant ≠ "") (entries : List (Value × Record)) :
    ∀ entry ∈ entries.filter (fun entry => !foreign (some tenant) entry.2),
      ownedBy tenant entry.2 = true := by
  intro entry member
  simpa [foreign_eq named] using (List.mem_filter.mp member).2

theorem ownedBy_of_stored {store : OrderedMap Value Record} {entry : Value × Record}
    (member : entry ∈ store.entries) (owned : ownedBy tenant entry.2 = true) {old : Record}
    (found : store.get entry.1 = some old) : ownedBy tenant old = true := by
  rw [get_eq_some_iff.mpr member] at found
  cases found
  exact owned

theorem selected_ne_nil {tenantId : Option String} {entry : Value × Record}
    (member : entry ∈ state.store.entries) (visible : foreign tenantId entry.2 = false)
    (matching : matchesFilter runtime entry.2 filter = true) :
    selected runtime state filter tenantId ≠ [] := by
  refine List.ne_nil_of_mem (a := entry.2)
    (List.mem_filter.mpr ⟨List.mem_map.mpr ⟨_, member, rfl⟩, ?_⟩)
  simp [visible, matching]

theorem updateMany_isolated (named : tenant ≠ "") {patch : Record}
    (caller : WriteOptions.tenant? opts = some tenant)
    (keeps : selected runtime state filter (some tenant) ≠ [] → PatchKeepsTenant tenant patch) :
    updateMany runtime (isolated tenant keys state) filter patch opts draws =
      (isolated tenant keys (updateMany runtime state filter patch opts draws).1,
        (updateMany runtime state filter patch opts draws).2) := by
  have owned := ownedBy_of_mem_visible named state.store.entries
  have loop := updateEntries_restrict owned
    (fun entry member old found => ownedBy_of_stored (List.mem_filter.mp member).1
      (owned entry member) found)
    (fun ⟨entry, member, matching⟩ => keeps (selected_ne_nil (List.mem_filter.mp member).1
      (by simpa using (List.mem_filter.mp member).2) matching)) draws
  have entries : (isolated tenant keys state).store.entries.filter
      (fun entry => !foreign (some tenant) entry.2) =
        state.store.entries.filter fun entry => !foreign (some tenant) entry.2 := by
    simp [isolated, restrict, foreign_eq named]
  unfold updateMany
  rw [caller, updateEntries_filter _ _ _ (isolated tenant keys state).store.entries, entries]
  simp only [isolated]
  rw [loop, updateEntries_filter _ _ _ state.store.entries state.store]

/-- A call that stays home works on its own tenant's restriction alone. -/
theorem step_isolated (named : tenant ≠ "") {call : Call}
    (caller : call.operation.tenantId = some tenant) (home : StaysHome runtime tenant state call)
    (own : ∀ key, call.operation.idempotencyKey = some key → keys key = true) :
    step runtime (isolated tenant keys state) call =
      (isolated tenant keys (step runtime state call).1,
        (step runtime state call).2) := by
  obtain ⟨operation, draws⟩ := call
  cases operation with
  | findById id opts =>
    simp only [Operation.tenantId] at caller
    simp [step, findById_eq, caller, accessible_isolated named]
  | findOne filter opts =>
    simp only [Operation.tenantId] at caller
    simp [step, findOne, caller, selected_isolated named]
  | findMany filter opts =>
    simp only [Operation.tenantId] at caller
    simp [step, findMany, caller, selected_isolated named]
  | count filter opts =>
    simp only [Operation.tenantId] at caller
    simp [step, count, caller, selected_isolated named]
  | exists' filter opts =>
    simp only [Operation.tenantId] at caller
    simp [step, exists', count, caller,
      selected_isolated named]
  | create doc opts => simp [step, tagged, create_isolated caller home own]
  | createMany docs opts =>
    simp [step, tagged, createMany_isolated caller home own]
  | update id patch opts =>
    simp only [Operation.tenantId] at caller
    simp only [step, tagged, update_eq, caller,
      accessible_isolated named]
    cases found : accessible state id (some tenant) with
    | none => rfl
    | some existing =>
      obtain ⟨stored, owned⟩ := accessible_owned named found
      have keeps : PatchKeepsTenant tenant patch := home (by simp [found])
      simp only [isolated]
      rw [restrict_set_of_keep (fun _ doc => ownedBy tenant doc)
        (ownedBy_updatedRecord owned keeps)]
      intro old before
      rw [stored, Option.some.injEq] at before
      subst before
      exact owned
  | updateMany filter patch opts =>
    simp [step, tagged, updateMany_isolated named caller home]
  | delete id opts =>
    simp only [Operation.tenantId] at caller
    simp only [step, tagged, delete_eq, caller,
      accessible_isolated named]
    cases accessible state id (some tenant) with
    | none => rfl
    | some existing => simp [isolated, restrict_delete]
  | softDelete id opts =>
    simp only [Operation.tenantId] at caller
    simp only [step, tagged, softDelete_eq, caller,
      accessible_isolated named]
    cases found : accessible state id (some tenant) with
    | none => rfl
    | some existing =>
      obtain ⟨stored, owned⟩ := accessible_owned named found
      simp only [isolated]
      rw [restrict_set_of_keep (fun _ doc => ownedBy tenant doc)
        (by simpa [ownedBy_softDeletedRecord] using owned)]
      intro old before
      rw [stored, Option.some.injEq] at before
      subst before
      exact owned

end OwnCalls

section OtherCalls

/-! A call of `tenant` leaves alone what `other` can see. -/

variable {opts : Option WriteOptions}

variable {state : AdapterState}

theorem isolated_create (different : tenant ≠ other) {doc : Record} {draws : Draws}
    (caller : WriteOptions.tenant? opts = some tenant)
    (creates : CreatesOwn tenant state doc opts draws)
    (unused : ∀ key, present (opts.bind (·.idempotencyKey)) = some key → keys key = false) :
    isolated other keys (create state doc opts draws).1 =
      isolated other keys state := by
  unfold create
  cases replay : replayed state opts with
  | some result => rfl
  | none =>
    have written := not_ownedBy_of_ne different (ownedBy_createdRecord caller doc draws)
    have before : ∀ old, state.store.get (createdId doc draws) = some old →
        ownedBy other old = false := by
      intro old found
      apply not_ownedBy_of_ne different (creates old _)
      simpa [answeredId, replay] using found
    simp only [isolated]
    rw [restrict_set_of_drop (fun _ doc => ownedBy other doc) written before]
    cases used : present (opts.bind (·.idempotencyKey)) with
    | none => simp [rememberKey, used]
    | some key =>
      simp only [rememberKey, used]
      rw [restrict_set_of_drop (fun key _ => keys key) (unused key used) fun _ _ =>
        unused key used]

theorem isolated_createMany (different : tenant ≠ other) {docs : List Record} {draws : Draws}
    (caller : WriteOptions.tenant? opts = some tenant)
    (creates : CreatesAllOwn tenant state docs opts draws)
    (unused : ∀ key, present (opts.bind (·.idempotencyKey)) = some key → keys key = false) :
    isolated other keys (createMany state docs opts draws).1 =
      isolated other keys state := by
  induction docs generalizing state draws with
  | nil => rfl
  | cons doc rest ih =>
    simp only [createMany]
    rw [ih creates.2, isolated_create different caller creates.1 unused]

theorem updateEntries_frame (named : tenant ≠ "") (different : tenant ≠ other)
    {filter : FilterSpec} {patch : Record}
    {entries : List (Value × Record)} {store : OrderedMap Value Record}
    (stored : ∀ entry ∈ entries, foreign (some tenant) entry.2 = false →
      ∀ old, store.get entry.1 = some old → ownedBy tenant old = true)
    (keeps : (∃ entry ∈ entries, foreign (some tenant) entry.2 = false ∧
      matchesFilter runtime entry.2 filter = true) → PatchKeepsTenant tenant patch)
    (draws : Draws) :
    (updateEntries runtime filter patch (some tenant) entries store draws).1.restrict
        (fun _ doc => ownedBy other doc) = store.restrict fun _ doc => ownedBy other doc := by
  induction entries generalizing store draws with
  | nil => rfl
  | cons entry rest ih =>
    obtain ⟨id, doc⟩ := entry
    have restStored := fun later (member : later ∈ rest) =>
      stored later (List.mem_cons_of_mem _ member)
    have restKeeps := fun (matching : ∃ entry ∈ rest, foreign (some tenant) entry.2 = false ∧
        matchesFilter runtime entry.2 filter = true) =>
      keeps (matching.imp fun later found => ⟨List.mem_cons_of_mem _ found.1, found.2⟩)
    simp only [updateEntries]
    split
    · exact ih restStored restKeeps draws
    · rename_i visible
      have visible : foreign (some tenant) doc = false := by simpa using visible
      split
      · rename_i matching
        have patchKeeps := keeps ⟨_, List.mem_cons_self, visible, matching⟩
        have owned : ownedBy tenant doc = true := by simpa [foreign_eq named] using visible
        have written : ownedBy tenant
            (updatedRecord runtime doc patch (draws.now 0)) = true :=
          ownedBy_updatedRecord owned patchKeeps
        have nextStored : ∀ later ∈ rest, foreign (some tenant) later.2 = false → ∀ old,
            (store.set id
              (updatedRecord runtime doc patch (draws.now 0))).get later.1 =
              some old → ownedBy tenant old = true := by
          intro later member laterVisible old found
          rw [get_set] at found
          split at found
          · cases found
            exact written
          · exact restStored later member laterVisible old found
        rw [ih nextStored restKeeps draws.tail]
        exact restrict_set_of_drop (fun _ doc => ownedBy other doc)
          (not_ownedBy_of_ne different written) fun old found =>
            not_ownedBy_of_ne different (stored _ List.mem_cons_self visible old found)
      · exact ih restStored restKeeps draws

/-- A call that stays home leaves every other tenant's restriction as it was. -/
theorem isolated_step (named : tenant ≠ "") (different : tenant ≠ other) {call : Call}
    (caller : call.operation.tenantId = some tenant) (home : StaysHome runtime tenant state call)
    (unused : ∀ key, call.operation.idempotencyKey = some key → keys key = false) :
    isolated other keys (step runtime state call).1 = isolated other keys state := by
  obtain ⟨operation, draws⟩ := call
  cases operation with
  | findById | findOne | findMany | count | exists' => rfl
  | create doc opts => exact isolated_create different caller home unused
  | createMany docs opts => exact isolated_createMany different caller home unused
  | update id patch opts =>
    simp only [Operation.tenantId] at caller
    simp only [step, tagged, update_eq, caller]
    cases found : accessible state id (some tenant) with
    | none => rfl
    | some existing =>
      obtain ⟨stored, owned⟩ := accessible_owned named found
      have keeps : PatchKeepsTenant tenant patch := home (by simp [found])
      simp only [isolated]
      rw [restrict_set_of_drop (fun _ doc => ownedBy other doc)
        (not_ownedBy_of_ne different (ownedBy_updatedRecord owned keeps))]
      intro old before
      rw [stored, Option.some.injEq] at before
      subst before
      exact not_ownedBy_of_ne different owned
  | updateMany filter patch opts =>
    simp only [Operation.tenantId] at caller
    simp only [step, tagged, updateMany, caller, isolated]
    rw [updateEntries_frame named different]
    · intro entry member visible old found
      exact ownedBy_of_stored member (by simpa [foreign_eq named] using visible) found
    · rintro ⟨entry, member, visible, matching⟩
      exact home (selected_ne_nil member visible matching)
  | delete id opts =>
    simp only [Operation.tenantId] at caller
    simp only [step, tagged, delete_eq, caller]
    cases found : accessible state id (some tenant) with
    | none => rfl
    | some existing =>
      obtain ⟨stored, owned⟩ := accessible_owned named found
      simp only [isolated]
      rw [delete_restrict_of_drop fun _ doc => ownedBy other doc]
      intro old before
      rw [stored, Option.some.injEq] at before
      subst before
      exact not_ownedBy_of_ne different owned
  | softDelete id opts =>
    simp only [Operation.tenantId] at caller
    simp only [step, tagged, softDelete_eq, caller]
    cases found : accessible state id (some tenant) with
    | none => rfl
    | some existing =>
      obtain ⟨stored, owned⟩ := accessible_owned named found
      simp only [isolated]
      rw [restrict_set_of_drop (fun _ doc => ownedBy other doc)
        (by simpa [ownedBy_softDeletedRecord] using not_ownedBy_of_ne different owned)]
      intro old before
      rw [stored, Option.some.injEq] at before
      subst before
      exact not_ownedBy_of_ne different owned

end OtherCalls

section Runs

/-- The answers that the calls of `tenant` get in a run on a fresh adapter. -/
def answersTo (runtime : Runtime) (tenant : String) (run : List Call) : List Answer :=
  (((machine runtime).trace .empty run).filter fun entry =>
    entry.1.operation.tenantId = some tenant).map Prod.snd

/-- No two tenants use one idempotency key. -/
def PrivateKeys (run : List Call) : Prop :=
  ∀ call ∈ run, ∀ call' ∈ run, ∀ key, call.operation.idempotencyKey = some key →
    call'.operation.idempotencyKey = some key →
      call.operation.tenantId = call'.operation.tenantId

/-- Every call of the run stays home, and idempotency keys are private to tenants. -/
def TenantSafe (runtime : Runtime) (run : List Call) : Prop :=
  PrivateKeys run ∧
    (machine runtime).Admits
      (fun state call => ∀ tenant, call.operation.tenantId = some tenant →
        StaysHome runtime tenant state call) .empty run

/-- The idempotency keys that `tenant` uses in a run. -/
def keysOf (tenant : String) (run : List Call) (key : String) : Bool :=
  run.any fun call => call.operation.tenantId = some tenant ∧
    call.operation.idempotencyKey = some key

variable {run : List Call}

theorem keysOf_eq_true_iff {key : String} : keysOf tenant run key = true ↔
    ∃ call ∈ run, call.operation.tenantId = some tenant ∧
      call.operation.idempotencyKey = some key := by
  simp [keysOf]

theorem keysOf_eq_decide (privateKeys : PrivateKeys run) {call : Call} (member : call ∈ run)
    {key : String} (uses : call.operation.idempotencyKey = some key) :
    keysOf tenant run key = decide (call.operation.tenantId = some tenant) := by
  rw [Bool.eq_iff_iff, keysOf_eq_true_iff, decide_eq_true_eq]
  constructor
  · rintro ⟨owner, ownerMember, owns, same⟩
    rw [privateKeys call member owner ownerMember key uses same, owns]
  · intro owns
    exact ⟨call, member, owns, uses⟩

theorem filter_tenant_eq (different : tenant ≠ other) {run' : List Call}
    (same : run.filter (fun call => call.operation.tenantId ≠ some other) =
      run'.filter (fun call => call.operation.tenantId ≠ some other)) :
    run.filter (fun call => call.operation.tenantId = some tenant) =
      run'.filter (fun call => call.operation.tenantId = some tenant) := by
  have narrowed (calls : List Call) :
      (calls.filter fun call => call.operation.tenantId ≠ some other).filter
          (fun call => call.operation.tenantId = some tenant) =
        calls.filter fun call => call.operation.tenantId = some tenant := by
    rw [List.filter_filter]
    apply List.filter_congr
    intro call _
    by_cases own : call.operation.tenantId = some tenant <;> simp [own, different]
  rw [← narrowed run, same, narrowed run']

theorem keysOf_congr {run' : List Call}
    (same : run.filter (fun call => call.operation.tenantId = some tenant) =
      run'.filter (fun call => call.operation.tenantId = some tenant)) :
    keysOf tenant run = keysOf tenant run' := by
  have narrowed (calls : List Call) (key : String) : keysOf tenant calls key =
      (calls.filter fun call => call.operation.tenantId = some tenant).any
        fun call => call.operation.idempotencyKey = some key := by
    simp [keysOf, List.any_filter]
  funext key
  rw [narrowed run, same, narrowed run']

/-- Two runs whose calls all stay home and which differ only in the calls of `B` give
every call of `A` the same answer. -/
theorem tenant_isolation (runtime : Runtime) {A B : String} (different : A ≠ B)
    {run run' : List Call} (named : ∀ call ∈ run ++ run', present call.operation.tenantId ≠ none)
    (same : run.filter (fun call => call.operation.tenantId ≠ some B) =
      run'.filter (fun call => call.operation.tenantId ≠ some B))
    (safe : TenantSafe runtime run) (safe' : TenantSafe runtime run') :
    answersTo runtime A run = answersTo runtime A run' := by
  have own := filter_tenant_eq different same
  have keys := keysOf_congr own
  have each : ∀ call ∈ run, present call.operation.tenantId ≠ none ∧
      ∀ key, call.operation.idempotencyKey = some key →
        keysOf A run key = decide (call.operation.tenantId = some A) := fun call member =>
    ⟨named call (List.mem_append_left _ member), fun _ uses => keysOf_eq_decide safe.1 member uses⟩
  have each' : ∀ call ∈ run', present call.operation.tenantId ≠ none ∧
      ∀ key, call.operation.idempotencyKey = some key →
        keysOf A run key = decide (call.operation.tenantId = some A) := by
    intro call member
    rw [keys]
    exact ⟨named call (List.mem_append_right _ member),
      fun _ uses => keysOf_eq_decide safe'.1 member uses⟩
  unfold answersTo
  congr 1
  refine Transducer.noninterference
    (fun state state' => isolated A (keysOf A run) state = isolated A (keysOf A run) state')
    (fun call => call.operation.tenantId = some A)
    ?_ ?_ ?_ rfl (safe.2.and_of_forall each) (safe'.2.and_of_forall each') own
  · rintro state state' call hidden ⟨home, named, uses⟩ agree
    have hidden : call.operation.tenantId ≠ some A := by simpa using hidden
    obtain ⟨tenant, caller, nonempty⟩ := present_ne_none_iff.mp named
    have distinct : tenant ≠ A := by
      rintro rfl
      exact hidden caller
    have frame := isolated_step nonempty distinct caller (home tenant caller)
      fun key used => (uses key used).trans (by simpa using hidden)
    exact frame.trans agree
  · intro state state' agree
    exact agree.symm
  · rintro state state' call visible ⟨home, named, uses⟩ ⟨home', -⟩ agree
    have caller : call.operation.tenantId = some A := by simpa using visible
    obtain ⟨tenant, owner, nonempty⟩ := present_ne_none_iff.mp named
    cases Option.some.inj (caller.symm.trans owner)
    have ownKeys := fun key used => (uses key used).trans (decide_eq_true caller)
    have here := step_isolated nonempty caller (home A caller) ownKeys
    have there := step_isolated nonempty caller (home' A caller) ownKeys
    rw [agree, there] at here
    exact ⟨(congrArg Prod.fst here).symm, (congrArg Prod.snd here).symm⟩

/-- Two tenants that create and read documents of their own do not notice each other. -/
theorem tenant_isolation_two_tenants :
    let draws : Draws := ⟨fun _ => "uuid", fun _ => "now"⟩
    let createA : Call :=
      ⟨.create (.ofList [("id", .string "d")])
        (some { tenantId := "a", idempotencyKey := "k" }), draws⟩
    let createB : Call :=
      ⟨.create (.ofList [("id", .string "e")]) (some { tenantId := "b" }), draws⟩
    let readA : Call := ⟨.findById "d" (some { tenantId := "a" }), draws⟩
    answersTo .sample "a" [createA, createB, readA] = answersTo .sample "a" [createA, readA] := by
  intro draws createA createB readA
  refine tenant_isolation .sample (A := "a") (B := "b") (by decide) ?_ rfl ?_ ?_
  · decide
  · refine ⟨by simp [PrivateKeys, createA, createB, readA, Operation.idempotencyKey, present], ?_⟩
    refine ⟨?_, ?_, ?_, trivial⟩
    · rintro tenant ⟨⟩ stored found
      cases found
    · rintro tenant ⟨⟩ stored found
      cases found
    · exact fun tenant _ => trivial
  · refine ⟨by simp [PrivateKeys, createA, readA, Operation.idempotencyKey, present], ?_⟩
    refine ⟨?_, ?_, trivial⟩
    · rintro tenant ⟨⟩ stored found
      cases found
    · exact fun tenant _ => trivial

/-- Another tenant's creation under the same id hides a tenant's document from it. -/
theorem create_hides_other_tenant :
    let draws : Draws := ⟨fun _ => "uuid", fun _ => "now"⟩
    let doc : Record := .ofList [("id", .string "d")]
    let createA : Call := ⟨.create doc (some { tenantId := "a" }), draws⟩
    let createB : Call := ⟨.create doc (some { tenantId := "b" }), draws⟩
    let readA : Call := ⟨.findById "d" (some { tenantId := "a" }), draws⟩
    [createA, createB, readA].filter (fun call => call.operation.tenantId ≠ some "b") =
        [createA, readA].filter (fun call => call.operation.tenantId ≠ some "b") ∧
      answersTo .sample "a" [createA, createB, readA] ≠ answersTo .sample "a" [createA, readA] := by
  refine ⟨rfl, ?_⟩
  decide

end Runs

end Caas.Datastore
