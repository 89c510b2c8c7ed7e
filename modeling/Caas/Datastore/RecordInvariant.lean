import Caas.Datastore.MongoDBAdapter

/-!
# The identity of stored records

A stored record should say who it is: its `id` is the key it is stored under, and
its `_tenantId` is that of the call that created it. `create` establishes both,
whatever the document says, because its own properties come last in the spread.
The updates spread the patch last, so they keep both exactly when the patch does.

`Tracked` adds to the adapter the history variable the statement needs: which
tenant value the last creation of each id recorded.
-/

namespace Caas.Datastore

open Js OrderedMap MongoDBAdapter

/-- An adapter with the tenant value that the last creation of each id recorded. -/
structure Tracked where
  adapter : AdapterState
  creators : OrderedMap Value Value

namespace Tracked

variable (runtime : Runtime)

/-- The ids a batch creates, each with the tenant value of its caller. -/
def creations (state : AdapterState) (docs : List Record) (opts : Option WriteOptions)
    (draws : Draws) : List (Value × Value) :=
  match docs with
  | [] => []
  | doc :: rest =>
    let created :=
      if (replayed state opts).isSome then []
      else [(createdId doc draws, WriteOptions.tenantValue opts)]
    created ++ creations (create state doc opts draws).1 rest opts draws.tail

def creationsOf (state : AdapterState) (call : Call) : List (Value × Value) :=
  match call.operation with
  | .create doc opts => creations state [doc] opts call.draws
  | .createMany docs opts => creations state docs opts call.draws
  | _ => []

def record (creators : OrderedMap Value Value) (created : List (Value × Value)) :
    OrderedMap Value Value :=
  created.foldl (fun result entry => result.set entry.1 entry.2) creators

/-- The adapter with its history variable, as a machine. -/
def machine : Transducer Tracked Call Answer where
  step tracked call :=
    ({ adapter := (step runtime tracked.adapter call).1
       creators := record tracked.creators (creationsOf tracked.adapter call) },
      (step runtime tracked.adapter call).2)

/-- A fresh adapter, before any creation. -/
def start : Tracked := ⟨.empty, .empty⟩

/-- Every record is stored under its own id and belongs to its creator's tenant. -/
def WellRecorded (tracked : Tracked) : Prop :=
  ∀ id doc, tracked.adapter.store.get id = some doc →
    prop doc "id" = id ∧ tracked.creators.get id = some (prop doc "_tenantId")

def PatchKeeps (patch : Record) (id tenant : Value) : Prop :=
  (∀ value, patch.get "id" = some value → value = id) ∧
    ∀ value, patch.get "_tenantId" = some value → value = tenant

/-- The call patches no record's id or tenant away. -/
def KeepsIdentity (tracked : Tracked) (call : Call) : Prop :=
  match call.operation with
  | .update id patch opts =>
    ∀ doc, tracked.adapter.store.get (.string id) = some doc →
      foreign (WriteOptions.tenant? opts) doc = false →
        PatchKeeps patch (.string id) (prop doc "_tenantId")
  | .updateMany filter patch opts =>
    ∀ id doc, tracked.adapter.store.get id = some doc →
      foreign (WriteOptions.tenant? opts) doc = false →
        matchesFilter runtime doc filter = true →
          PatchKeeps patch id (prop doc "_tenantId")
  | _ => True

variable {runtime}

theorem getD_eq_iff {key : String} {patch : Record} {value : Value} :
    (patch.get key).getD value = value ↔ ∀ v, patch.get key = some v → v = value := by
  cases patch.get key <;> simp

theorem updatedRecord_keeps_iff {doc patch : Record} {now : String} {id : Value}
    (own : prop doc "id" = id) : (prop (updatedRecord runtime doc patch now) "id" = id ∧
      prop (updatedRecord runtime doc patch now) "_tenantId" =
        prop doc "_tenantId") ↔ PatchKeeps patch id (prop doc "_tenantId") := by
  rw [prop_updatedRecord _ _ _ (by decide) (by decide),
    prop_updatedRecord _ _ _ (by decide) (by decide), own]
  exact and_congr getD_eq_iff getD_eq_iff

theorem wellRecorded_create {tracked : Tracked} (holds : WellRecorded tracked) (doc : Record)
    (opts : Option WriteOptions) (draws : Draws) : WellRecorded
      ⟨(create tracked.adapter doc opts draws).1,
        record tracked.creators
          (if (replayed tracked.adapter opts).isSome then []
            else [(createdId doc draws, WriteOptions.tenantValue opts)])⟩ := by
  unfold create
  cases replay : replayed tracked.adapter opts with
  | some result => simpa [record] using holds
  | none =>
    intro id stored found
    obtain ⟨ownId, ownTenant⟩ := prop_createdRecord doc opts draws
    by_cases same : createdId doc draws = id
    · subst same
      simp only [get_set_self, Option.some.injEq] at found
      subst found
      exact ⟨ownId, by simp [record, ownTenant]⟩
    · simp only [get_set_of_ne _ _ same] at found
      simpa [record, get_set_of_ne _ _ same] using holds id stored found

theorem wellRecorded_creations {tracked : Tracked} (holds : WellRecorded tracked)
    (docs : List Record) (opts : Option WriteOptions) (draws : Draws) :
    WellRecorded ⟨(createMany tracked.adapter docs opts draws).1,
      record tracked.creators (creations tracked.adapter docs opts draws)⟩ := by
  induction docs generalizing tracked draws with
  | nil => exact holds
  | cons doc rest ih =>
    have next := ih (wellRecorded_create holds doc opts draws) draws.tail
    simpa [createMany, creations, record, List.foldl_append] using next

/-- Replacing some records by versions of themselves keeps the invariant exactly when
each replacement keeps its identity. -/
theorem wellRecorded_rewrite_iff {tracked : Tracked} (holds : WellRecorded tracked)
    (store : OrderedMap Value Record) (patch : Record) (touched : Value → Record → Prop)
    (untouched : ∀ id doc, store.get id = some doc → (¬ ∃ old, tracked.adapter.store.get id =
      some old ∧ touched id old) → tracked.adapter.store.get id = some doc)
    (rewritten : ∀ id old, tracked.adapter.store.get id = some old → touched id old →
      ∃ now, store.get id = some (updatedRecord runtime old patch now)) :
    WellRecorded ⟨{ tracked.adapter with store }, tracked.creators⟩ ↔
      ∀ id old, tracked.adapter.store.get id = some old → touched id old →
        PatchKeeps patch id (prop old "_tenantId") := by
  constructor
  · intro after id old found touching
    obtain ⟨now, new⟩ := rewritten id old found touching
    obtain ⟨own, creator⟩ := holds id old found
    obtain ⟨newId, newTenant⟩ := after id _ new
    have tenant := Option.some.inj (newTenant.symm.trans creator)
    exact (updatedRecord_keeps_iff own).mp ⟨newId, tenant⟩
  · intro keeps id doc found
    by_cases touching : ∃ old, tracked.adapter.store.get id = some old ∧ touched id old
    · obtain ⟨old, before, touching⟩ := touching
      obtain ⟨now, new⟩ := rewritten id old before touching
      obtain ⟨own, creator⟩ := holds id old before
      cases Option.some.inj (found.symm.trans new)
      obtain ⟨keptId, keptTenant⟩ :=
        (updatedRecord_keeps_iff own).mpr (keeps id old before touching)
      exact ⟨keptId, by rw [keptTenant]; exact creator⟩
    · exact holds id doc (untouched id doc found touching)

/-- One call keeps the invariant exactly when it patches no identity away. -/
theorem wellRecorded_step_iff {tracked : Tracked} (call : Call) (holds : WellRecorded tracked) :
    WellRecorded ((machine runtime).step tracked call).1 ↔ KeepsIdentity runtime tracked call := by
  obtain ⟨operation, draws⟩ := call
  cases operation with
  | findById | findOne | findMany | count | exists' => exact iff_of_true holds trivial
  | create doc opts =>
    refine iff_of_true ?_ trivial
    simpa [machine, step, tagged, creationsOf, creations] using
      wellRecorded_create holds doc opts draws
  | createMany docs opts =>
    exact iff_of_true (wellRecorded_creations holds docs opts draws) trivial
  | update id patch opts =>
    simp only [machine, step, tagged, creationsOf, record, List.foldl_nil,
      update_eq, KeepsIdentity]
    cases found : accessible tracked.adapter id (WriteOptions.tenant? opts) with
    | none =>
      refine iff_of_true holds fun doc stored visible => ?_
      rw [accessible_eq_some_iff.mpr ⟨stored, visible⟩] at found
      cases found
    | some existing =>
      obtain ⟨stored, visible⟩ := accessible_eq_some_iff.mp found
      have rewrite := @wellRecorded_rewrite_iff runtime _ holds
        (tracked.adapter.store.set (.string id)
          (updatedRecord runtime existing patch (draws.now 0)))
        patch (fun other _ => other = .string id) ?_ ?_
      · refine rewrite.trans ⟨fun keeps doc equal _ => keeps _ doc equal rfl, ?_⟩
        rintro keeps _ old before rfl
        cases Option.some.inj (stored.symm.trans before)
        exact keeps existing before visible
      · intro other doc new untouched
        by_cases same : Value.string id = other
        · exact absurd ⟨existing, same ▸ stored, same.symm⟩ untouched
        · rwa [get_set_of_ne _ _ same] at new
      · rintro _ old before rfl
        cases Option.some.inj (stored.symm.trans before)
        exact ⟨draws.now 0, get_set_self _ _ _⟩
  | updateMany filter patch opts =>
    simp only [machine, step, tagged, creationsOf, record, List.foldl_nil,
      updateMany, KeepsIdentity]
    have rewrite := @wellRecorded_rewrite_iff runtime _ holds
      (updateEntries runtime filter patch (WriteOptions.tenant? opts)
        tracked.adapter.store.entries tracked.adapter.store draws).1
      patch (fun _ old => foreign (WriteOptions.tenant? opts) old = false ∧
        matchesFilter runtime old filter = true) ?_ ?_
    · simpa only [and_imp] using rewrite
    · intro id doc new untouched
      rw [updateEntries_of_not_mem] at new
      · exact new
      · intro old member visible
        by_contra matching
        exact untouched
          ⟨old, get_eq_some_iff.mpr member, visible, by simpa using matching⟩
    · intro id old before touching
      exact updateEntries_of_mem tracked.adapter.store.nodup
        (get_eq_some_iff.mp before) touching.1 touching.2
  | delete id opts =>
    refine iff_of_true ?_ trivial
    simp only [machine, step, tagged, creationsOf, record, List.foldl_nil,
      delete_eq]
    cases accessible tracked.adapter id (WriteOptions.tenant? opts) with
    | none => exact holds
    | some existing =>
      intro other doc found
      by_cases same : Value.string id = other <;> simp [same] at found
      exact holds other doc found
  | softDelete id opts =>
    refine iff_of_true ?_ trivial
    simp only [machine, step, tagged, creationsOf, record, List.foldl_nil,
      softDelete_eq]
    cases found : accessible tracked.adapter id (WriteOptions.tenant? opts) with
    | none => exact holds
    | some existing =>
      obtain ⟨stored, visible⟩ := accessible_eq_some_iff.mp found
      intro other doc new
      by_cases same : Value.string id = other
      · subst same
        simp only [get_set_self, Option.some.injEq] at new
        subst new
        rw [prop_softDeletedRecord _ _ (by decide) (by decide),
          prop_softDeletedRecord _ _ (by decide) (by decide)]
        exact holds _ _ stored
      · simp only [get_set_of_ne _ _ same] at new
        exact holds other doc new

theorem wellRecorded_start : WellRecorded start := by
  intro id doc found
  simp [start, AdapterState.empty] at found

/-- Over every sequence of calls, each stored record keeps its id and its creator's
tenant throughout exactly when no update of the sequence patches them away. -/
theorem record_identity_iff (runtime : Runtime) (calls : List Call) :
    (∀ count, WellRecorded ((machine runtime).run start (calls.take count))) ↔
      (machine runtime).Admits (KeepsIdentity runtime) start calls :=
  Transducer.forall_prefix_iff_admits (fun _ call holds => wellRecorded_step_iff call holds)
    wellRecorded_start

/-- A patch of its own tenant hands a record to another tenant. -/
theorem patch_moves_record :
    let draws : Draws := ⟨fun _ => "uuid", fun _ => "now"⟩
    ¬ WellRecorded ((machine .sample).run start
      [⟨.create (.ofList [("id", .string "d")]) (some { tenantId := "a" }), draws⟩,
        ⟨.update "d" (.ofList [("_tenantId", .string "b")]) (some { tenantId := "a" }),
          draws⟩]) := by
  intro draws holds
  exact absurd (holds (.string "d") _ rfl).2 (by decide)
end Tracked

end Caas.Datastore
