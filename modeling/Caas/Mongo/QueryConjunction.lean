import Mathlib.Data.List.GetD
import Caas.Mongo.QueryBuilder

/-!
# What a built query means

A built query should mean all that was asked of its builder, and a clone should leave its
original alone. The record has one place for each field, so that a later call writes over an
earlier one, the tenant writes over conditions on `tenantId`, and a clone pushes into the array of
its original. `conjunction_iff` says for which calls none of this shows.
-/

namespace Caas.Mongo.QueryCalls

open Js

universe u v

variable {Value : Type u}

/-- What the call pushes into the array that the builder has. -/
def Call.pushed : Call Value → List (QueryFilter Value)
  | .and conditions => conditions
  | _ => []

def Bounded (arrays : Arrays Value) (builder : BuilderState Value) : Prop :=
  ∀ reference, builder.and = some reference → reference < arrays.length

theorem bounded_fresh : Bounded [] (.fresh : BuilderState Value) := fun _ held => by cases held

section Steps

variable {arrays : Arrays Value} {builder : BuilderState Value}

theorem getD_modify (own : Nat) (added : List (QueryFilter Value)) {reference : Nat}
    (bound : reference < arrays.length) : (arrays.modify own (· ++ added)).getD reference [] =
      arrays.getD reference [] ++ if own = reference then added else [] := by
  rw [List.getD_eq_getElem?_getD, List.getElem?_modify, List.getD_eq_getElem?_getD,
    List.getElem?_eq_getElem bound]
  by_cases same : own = reference
  · simp [same]
  · simp [same]

variable (call : Call Value)

theorem getD_apply {reference : Nat} (bound : reference < arrays.length) :
    (call.apply arrays builder).1.getD reference [] =
      arrays.getD reference [] ++ if builder.and = some reference then call.pushed else [] := by
  cases call with
  | where' conditions =>
    cases added : conditions.and with
    | none => simp [Call.apply, BuilderState.where', added, Call.pushed]
    | some filters =>
      simp only [Call.apply, BuilderState.where', added, Call.pushed, ite_self, List.append_nil]
      exact List.getD_append _ _ _ _ bound
  | and conditions =>
    cases held : builder.and with
    | none =>
      have longer : reference < (arrays ++ [[]]).length := by
        rw [List.length_append]
        omega
      simp only [Call.apply, BuilderState.and', held, reduceCtorEq, if_false, List.append_nil]
      rw [getD_modify _ _ longer, if_neg (by omega), List.append_nil,
        List.getD_append _ _ _ _ bound]
    | some own =>
      simp only [Call.apply, BuilderState.and', held, Option.some.injEq, Call.pushed]
      exact getD_modify own conditions bound
  | _ => simp [Call.apply, Call.pushed]

theorem bounded_apply (bounded : Bounded arrays builder) :
    Bounded (call.apply arrays builder).1 (call.apply arrays builder).2 := by
  intro reference held
  cases call with
  | where' conditions =>
    cases added : conditions.and with
    | none =>
      simp only [Call.apply, BuilderState.where', added] at held ⊢
      exact bounded reference held
    | some filters =>
      simp only [Call.apply, BuilderState.where', added, Option.some.injEq] at held ⊢
      rw [← held, List.length_append]
      exact Nat.lt_succ_self _
  | and conditions =>
    cases own : builder.and with
    | none =>
      simp only [Call.apply, BuilderState.and', own, Option.some.injEq] at held ⊢
      rw [← held, List.length_modify, List.length_append]
      exact Nat.lt_succ_self _
    | some mine =>
      simp only [Call.apply, BuilderState.and', own] at held ⊢
      rw [List.length_modify]
      exact bounded reference (own.trans held)
  | _ => exact bounded reference held

theorem length_le_apply : arrays.length ≤ (call.apply arrays builder).1.length := by
  cases call with
  | where' conditions =>
    rw [Call.apply, BuilderState.where']
    cases conditions.and <;> simp
  | and conditions =>
    rw [Call.apply, BuilderState.and']
    cases builder.and <;> simp
  | _ => exact Nat.le_refl _

theorem mem_items_assign {field : String} {condition : Condition Value} {item : Item Value} :
    item ∈ ((builder.assign field condition).getQuery arrays).items ↔
      item ∈ [Item.field field condition] ∨
        item ∈ (builder.getQuery arrays).items ∧ decide (item.slot = .field field) = false := by
  rw [List.mem_singleton, decide_eq_false_iff_not]
  cases item with
  | field name other =>
    rw [QueryFilter.field_mem_items, QueryFilter.field_mem_items]
    simp only [BuilderState.getQuery, BuilderState.assign, QueryFilter.fields, OrderedMap.get_set]
    by_cases same : field = name
    · subst same
      simp [Item.slot, eq_comm]
    · simp [Item.slot, same, Ne.symm same]
  | and filter => simp [QueryFilter.and_mem_items, Item.slot, BuilderState.getQuery,
      BuilderState.assign, QueryFilter.and]
  | or filters => simp [QueryFilter.or_mem_items, Item.slot, BuilderState.getQuery,
      BuilderState.assign, QueryFilter.or]
  | nor filters => simp [QueryFilter.nor_mem_items, Item.slot, BuilderState.getQuery,
      BuilderState.assign, QueryFilter.nor]

theorem getQuery_where (conditions : QueryFilter Value) :
    (builder.where' arrays conditions).2.getQuery (builder.where' arrays conditions).1 =
      .mk (builder.query.spread conditions.fields)
        (conditions.and.or (builder.getQuery arrays).and) (conditions.or.or builder.or)
        (conditions.nor.or builder.nor) := by
  cases added : conditions.and with
  | none => simp only [BuilderState.where', added, Option.none_or]; rfl
  | some filters =>
    have found : (arrays ++ [filters]).getD arrays.length [] = filters := by simp
    simp only [BuilderState.where', added, Option.some_or, BuilderState.getQuery, Option.map_some,
      found]
    rfl

theorem getQuery_and (bounded : Bounded arrays builder) (conditions : List (QueryFilter Value)) :
    (builder.and' arrays conditions).2.getQuery (builder.and' arrays conditions).1 =
      .mk builder.query (some ((builder.getQuery arrays).and.getD [] ++ conditions)) builder.or
        builder.nor := by
  cases held : builder.and with
  | none =>
    have longer : arrays.length < (arrays ++ [[]]).length := by simp
    have found : (arrays ++ [[]]).getD arrays.length [] = [] := by simp
    simp only [BuilderState.and', held, BuilderState.getQuery, Option.map_some,
      getD_modify _ _ longer, if_true, found]
    rfl
  | some own =>
    simp only [BuilderState.and', held, BuilderState.getQuery, Option.map_some,
      getD_modify _ _ (bounded own held), if_true]
    rfl

theorem or_eq_some {α : Type u} {new old : Option α} {value : α} :
    new.or old = some value ↔ new = some value ∨ old = some value ∧ new.isSome = false := by
  cases new <;> simp

/-- What a call does to the record: it asks its items, and what it does not write over stays. -/
theorem mem_items_apply (bounded : Bounded arrays builder) {item : Item Value} :
    item ∈ ((call.apply arrays builder).2.getQuery (call.apply arrays builder).1).items ↔
      item ∈ call.items ∨
        item ∈ (builder.getQuery arrays).items ∧ call.writes item.slot = false := by
  cases call with
  | where' conditions =>
    rw [Call.apply, Call.items, getQuery_where]
    cases item with
    | field name condition =>
      rw [QueryFilter.field_mem_items, QueryFilter.field_mem_items, QueryFilter.field_mem_items]
      rw [QueryFilter.fields, OrderedMap.get_spread]
      exact or_eq_some
    | and filter =>
      rw [QueryFilter.and_mem_items, QueryFilter.and_mem_items, QueryFilter.and_mem_items]
      rw [QueryFilter.and, Item.slot, Call.writes]
      cases conditions.and <;> simp
    | or filters =>
      rw [QueryFilter.or_mem_items, QueryFilter.or_mem_items, QueryFilter.or_mem_items]
      exact or_eq_some
    | nor filters =>
      rw [QueryFilter.nor_mem_items, QueryFilter.nor_mem_items, QueryFilter.nor_mem_items]
      exact or_eq_some
  | and conditions =>
    rw [Call.apply, Call.items, getQuery_and bounded]
    cases item with
    | and filter =>
      rw [QueryFilter.and_mem_items, QueryFilter.and_mem_items, QueryFilter.and, Option.getD_some,
        List.mem_append]
      simp [Call.writes, or_comm]
    | _ => simp [QueryFilter.field_mem_items, QueryFilter.or_mem_items, QueryFilter.nor_mem_items,
        Call.writes, BuilderState.getQuery, QueryFilter.fields, QueryFilter.or, QueryFilter.nor]
  | tenant tenantId =>
    simp only [Call.items, Call.writes, List.not_mem_nil, false_or, and_true]
    rfl
  | _ => exact mem_items_assign

end Steps

section Chains

/-- A later call writes over the place of the item. -/
def overwritten (later : List (Call Value)) (item : Item Value) : Bool :=
  later.any (·.writes item.slot)

/-- The items that no later call writes over. -/
def surviving : List (Call Value) → List (Item Value)
  | [] => []
  | call :: later => call.items.filter (!overwritten later ·) ++ surviving later

/-- The items that a later call writes over. -/
def displaced : List (Call Value) → List (Item Value)
  | [] => []
  | call :: later => call.items.filter (overwritten later) ++ displaced later

def lastTenant (calls : List (Call Value)) : Option String :=
  calls.foldl (fun tenantId call => call.tenantAfter tenantId) none

variable (text : String → Value)

def tenantItem (tenantId : String) : Item Value := .field "tenantId" (.equal (text tenantId))

def asked (calls : List (Call Value)) : List (Item Value) :=
  calls.flatMap Call.items ++ (lastTenant calls).toList.map (tenantItem text)

/-- What is asked and stays: the tenant displaces conditions on its field. -/
def kept (calls : List (Call Value)) : List (Item Value) :=
  match Datastore.present (lastTenant calls) with
  | some tenantId =>
    (surviving calls).filter (·.slot ≠ .field "tenantId") ++ [tenantItem text tenantId]
  | none => surviving calls

/-- What is asked and lost: a tenant whose id is empty is not asked for. -/
def lost (calls : List (Call Value)) : List (Item Value) :=
  displaced calls ++
    match Datastore.present (lastTenant calls) with
    | some _ => (surviving calls).filter (·.slot = .field "tenantId")
    | none => (lastTenant calls).toList.map (tenantItem text)

variable {text}

variable {calls : List (Call Value)} {item : Item Value} {arrays : Arrays Value}
  {builder : BuilderState Value}

theorem mem_flatMap_items :
    item ∈ calls.flatMap Call.items ↔ item ∈ surviving calls ∨ item ∈ displaced calls := by
  induction calls with
  | nil => simp [surviving, displaced]
  | cons call later ih =>
    rw [List.flatMap_cons, List.mem_append, ih, surviving, displaced, List.mem_append,
      List.mem_append, List.mem_filter, List.mem_filter]
    cases overwritten later item <;> simp <;> tauto

theorem mem_asked : item ∈ asked text calls ↔ item ∈ kept text calls ∨ item ∈ lost text calls := by
  rw [asked, List.mem_append, mem_flatMap_items, kept, lost, List.mem_append]
  cases shown : Datastore.present (lastTenant calls) with
  | none => rw [or_assoc]
  | some tenantId =>
    have last : lastTenant calls = some tenantId :=
      (Option.filter_eq_some_iff.mp shown).1
    rw [last, List.mem_append, List.mem_filter, List.mem_filter, decide_eq_true_iff,
      decide_eq_true_iff, Option.toList_some, List.map_singleton]
    tauto

theorem mem_items_run (calls : List (Call Value)) (bounded : Bounded arrays builder) :
    item ∈ ((Call.run calls arrays builder).2.getQuery (Call.run calls arrays builder).1).items ↔
      item ∈ surviving calls ∨
        item ∈ (builder.getQuery arrays).items ∧ overwritten calls item = false := by
  induction calls generalizing arrays builder with
  | nil => simp [Call.run, surviving, overwritten]
  | cons call later ih =>
    have step := ih (bounded_apply call bounded)
    rw [mem_items_apply call bounded] at step
    refine step.trans ?_
    rw [surviving, List.mem_append, List.mem_filter, overwritten, overwritten, List.any_cons]
    cases call.writes item.slot <;> cases later.any (·.writes item.slot) <;> simp <;> tauto

theorem tenantId_apply (call : Call Value) (arrays : Arrays Value) (builder : BuilderState Value) :
    (call.apply arrays builder).2.tenantId = call.tenantAfter builder.tenantId := by
  cases call with
  | where' conditions =>
    rw [Call.apply, BuilderState.where']
    cases conditions.and <;> rfl
  | and conditions =>
    rw [Call.apply, BuilderState.and']
    cases builder.and <;> rfl
  | _ => rfl

theorem tenantId_run (calls : List (Call Value)) (arrays : Arrays Value)
    (builder : BuilderState Value) : (Call.run calls arrays builder).2.tenantId =
      calls.foldl (fun tenantId call => call.tenantAfter tenantId) builder.tenantId := by
  induction calls generalizing arrays builder with
  | nil => rfl
  | cons call later ih =>
    refine (ih (call.apply arrays builder).1 (call.apply arrays builder).2).trans ?_
    rw [List.foldl_cons, tenantId_apply]

theorem build_of_present {tenantId : String}
    (shown : Datastore.present builder.tenantId = some tenantId) : builder.build text arrays =
      (builder.assign "tenantId" (.equal (text tenantId))).getQuery arrays := by
  simp only [BuilderState.build, QueryBuilder.build, shown]
  rfl

theorem build_of_absent (absent : Datastore.present builder.tenantId = none) :
    builder.build text arrays = builder.getQuery arrays := by
  simp only [BuilderState.build, QueryBuilder.build, absent]
  rfl

def buildAfter (text : String → Value) (calls : List (Call Value)) : QueryFilter Value :=
  (Call.run calls [] .fresh).2.build text (Call.run calls [] .fresh).1

theorem mem_items_buildAfter : item ∈ (buildAfter text calls).items ↔ item ∈ kept text calls := by
  have last : (Call.run calls [] (.fresh : BuilderState Value)).2.tenantId = lastTenant calls :=
    tenantId_run calls [] .fresh
  have record : item ∈ ((Call.run calls [] .fresh).2.getQuery (Call.run calls [] .fresh).1).items ↔
      item ∈ surviving calls := by
    refine (mem_items_run calls bounded_fresh).trans (or_iff_left fun older => ?_)
    exact absurd older.1 List.not_mem_nil
  rw [kept, buildAfter]
  cases shown : Datastore.present (lastTenant calls) with
  | none =>
    rw [build_of_absent (by rw [last, shown]), record]
  | some tenantId =>
    rw [build_of_present (last ▸ shown), mem_items_assign, record, List.mem_append,
      List.mem_filter, decide_eq_true_iff, decide_eq_false_iff_not, or_comm]
    rfl

section Meaning

variable {Document : Type v} (meets : Document → String → Condition Value → Bool)

/-- The built query selects the documents that meet all that was asked. -/
def MeansConjunction (text : String → Value) (calls : List (Call Value)) : Prop :=
  ∀ doc, (buildAfter text calls).satisfies (meets doc) = true ↔
    ∀ item ∈ asked text calls, item.holds (meets doc) = true

/-- Documents that meet what is kept meet what is lost. -/
def LossesImplied (text : String → Value) (calls : List (Call Value)) : Prop :=
  ∀ doc, (∀ item ∈ kept text calls, item.holds (meets doc) = true) →
    ∀ item ∈ lost text calls, item.holds (meets doc) = true

theorem meansConjunction_iff (calls : List (Call Value)) :
    MeansConjunction meets text calls ↔ LossesImplied meets text calls := by
  refine forall_congr' fun doc => ?_
  rw [QueryFilter.satisfies_iff]
  simp only [mem_items_buildAfter, mem_asked, or_imp, forall_and]
  tauto

end Meaning

end Chains

section Clones

/-- A builder, and the builders that it was cloned from, step by step. -/
structure Handle (Value : Type u) where
  builder : BuilderState Value
  originals : List Nat

structure Builders (Value : Type u) where
  arrays : Arrays Value
  handles : List (Handle Value)

/-- What code can do with builders. -/
inductive Command (Value : Type u) where
  | new
  | clone (index : Nat)
  | call (index : Nat) (call : Call Value)

namespace Builders

def empty : Builders Value := ⟨[], []⟩

def step (builders : Builders Value) : Command Value → Builders Value
  | .new => { builders with handles := builders.handles ++ [⟨.fresh, []⟩] }
  | .clone index =>
    match builders.handles[index]? with
    | some handle =>
      let cloned := ⟨handle.builder.clone, index :: handle.originals⟩
      { builders with handles := builders.handles ++ [cloned] }
    | none => builders
  | .call index call =>
    match builders.handles[index]? with
    | some handle =>
      let (arrays, builder) := call.apply builders.arrays handle.builder
      { arrays, handles := builders.handles.set index { handle with builder } }
    | none => builders

def execute (commands : List (Command Value)) : Builders Value := commands.foldl step empty

def build (text : String → Value) (builders : Builders Value) (index : Nat) :
    Option (QueryFilter Value) :=
  builders.handles[index]?.map fun handle => handle.builder.build text builders.arrays

/-- Arrays that are referred to are there, and originals are older than their clones. -/
structure WellFormed (builders : Builders Value) : Prop where
  bounded : ∀ handle ∈ builders.handles, Bounded builders.arrays handle.builder
  older : ∀ (index : Nat) (handle : Handle Value), builders.handles[index]? = some handle →
    ∀ original ∈ handle.originals, original < index

theorem getElem?_concat {α : Type u} {items : List α} {last found : α} {index : Nat}
    (looked : (items ++ [last])[index]? = some found) :
    items[index]? = some found ∨ index = items.length ∧ found = last := by
  obtain earlier | later := Nat.lt_or_ge index items.length
  · rw [List.getElem?_append_left earlier] at looked
    exact .inl looked
  · rw [List.getElem?_append_right later, List.getElem?_singleton] at looked
    split at looked
    · exact .inr ⟨by omega, (Option.some.inj looked).symm⟩
    · cases looked

variable {builders : Builders Value}

theorem WellFormed.add (wellFormed : builders.WellFormed) {handle : Handle Value}
    (bounded : Bounded builders.arrays handle.builder)
    (older : ∀ original ∈ handle.originals, original < builders.handles.length) :
    ({ builders with handles := builders.handles ++ [handle] } : Builders Value).WellFormed where
  bounded := by
    intro other member
    obtain member | same := List.mem_append.mp member
    · exact wellFormed.bounded other member
    · exact List.mem_singleton.mp same ▸ bounded
  older := by
    intro index other found
    obtain found | ⟨rfl, rfl⟩ := getElem?_concat found
    · exact wellFormed.older index other found
    · exact older

theorem WellFormed.step (wellFormed : builders.WellFormed) (command : Command Value) :
    (builders.step command).WellFormed := by
  cases command with
  | new =>
    refine wellFormed.add (fun _ held => ?_) fun _ member => ?_
    · cases held
    · cases member
  | clone index =>
    rw [Builders.step]
    cases found : builders.handles[index]? with
    | none => exact wellFormed
    | some handle =>
      obtain ⟨bound, _⟩ := List.getElem?_eq_some_iff.mp found
      refine wellFormed.add (wellFormed.bounded handle (List.mem_of_getElem? found)) ?_
      rintro original (_ | ⟨_, member⟩)
      · exact bound
      · exact Nat.lt_trans (wellFormed.older index handle found original member) bound
  | call index call =>
    rw [Builders.step]
    cases found : builders.handles[index]? with
    | none => exact wellFormed
    | some handle =>
      have own := wellFormed.bounded handle (List.mem_of_getElem? found)
      constructor
      · intro other member
        obtain member | rfl := List.mem_or_eq_of_mem_set member
        · exact fun reference held => Nat.lt_of_lt_of_le
            (wellFormed.bounded other member reference held) (length_le_apply call)
        · exact bounded_apply call own
      · intro position other moved
        by_cases same : index = position
        · subst same
          rw [List.getElem?_set_self (List.getElem?_eq_some_iff.mp found).1] at moved
          exact Option.some.inj moved ▸ wellFormed.older index handle found
        · rw [List.getElem?_set_ne same] at moved
          exact wellFormed.older position other moved

theorem wellFormed_execute (commands : List (Command Value)) :
    (execute commands).WellFormed := by
  have run (builders : Builders Value) (wellFormed : builders.WellFormed) :
      (commands.foldl Builders.step builders).WellFormed := by
    induction commands generalizing builders with
    | nil => exact wellFormed
    | cons command later ih => exact ih (builders.step command) (wellFormed.step command)
  refine run empty ⟨fun handle member => ?_, fun index handle found => ?_⟩
  · cases member
  · cases found

/-- The two builders refer to one array. -/
def Share (left right : BuilderState Value) : Prop :=
  ∃ reference, left.and = some reference ∧ right.and = some reference

theorem build_apply {text : String → Value} {arrays : Arrays Value}
    {builder another : BuilderState Value} (bounded : Bounded arrays another) (call : Call Value) :
    another.build text (call.apply arrays builder).1 = another.build text arrays ↔
      (Share builder another → call.pushed = []) := by
  rw [BuilderState.build, BuilderState.build, QueryFilter.mk.injEq]
  simp only [true_and, and_true]
  cases held : another.and with
  | none =>
    refine iff_of_true rfl ?_
    rintro ⟨reference, _, theirs⟩
    rw [held] at theirs
    cases theirs
  | some reference =>
    rw [Option.map_some, Option.map_some, Option.some.injEq,
      getD_apply call (bounded reference held), List.append_right_eq_self]
    by_cases same : builder.and = some reference
    · rw [if_pos same]
      exact ⟨fun nothing _ => nothing, fun nothing => nothing ⟨reference, same, held⟩⟩
    · rw [if_neg same]
      refine iff_of_true rfl ?_
      rintro ⟨other, mine, theirs⟩
      obtain rfl := Option.some.inj (held.symm.trans theirs)
      exact absurd mine same

theorem build_step_call {text : String → Value} (wellFormed : builders.WellFormed)
    {index other : Nat} (different : other < index) {handle another : Handle Value}
    (found : builders.handles[index]? = some handle)
    (foundOther : builders.handles[other]? = some another) (call : Call Value) :
    (builders.step (.call index call)).build text other = builders.build text other ↔
      (Share handle.builder another.builder → call.pushed = []) := by
  have bounded := wellFormed.bounded another (List.mem_of_getElem? foundOther)
  have called : (builders.step (.call index call)).build text other =
      some (another.builder.build text (call.apply builders.arrays handle.builder).1) := by
    simp only [build, step, found]
    rw [List.getElem?_set_ne (Nat.ne_of_gt different), foundOther]
    rfl
  rw [called, build, foundOther, Option.map_some, Option.some.injEq]
  exact build_apply bounded call

end Builders

/-- Calls on a clone never change what its originals build. -/
def LeavesOriginals (text : String → Value) (commands : List (Command Value)) : Prop :=
  ∀ before index call after, commands = before ++ .call index call :: after →
    ∀ handle, (Builders.execute before).handles[index]? = some handle →
    ∀ original ∈ handle.originals,
      ((Builders.execute before).step (.call index call)).build text original =
        (Builders.execute before).build text original

/-- A clone pushes nothing into an array that it has in common with an original. -/
def PushesApart (commands : List (Command Value)) : Prop :=
  ∀ before index call after, commands = before ++ .call index call :: after →
    ∀ handle, (Builders.execute before).handles[index]? = some handle →
    ∀ original ∈ handle.originals,
      ∀ another, (Builders.execute before).handles[original]? = some another →
        Builders.Share handle.builder another.builder → call.pushed = []

theorem leavesOriginals_iff (text : String → Value) (commands : List (Command Value)) :
    LeavesOriginals text commands ↔ PushesApart commands := by
  refine forall₄_congr fun before index call after => forall₃_congr fun _ handle found => ?_
  refine forall₂_congr fun original member => ?_
  have wellFormed := Builders.wellFormed_execute before
  have older := wellFormed.older index handle found original member
  have bound := (List.getElem?_eq_some_iff.mp found).1
  obtain ⟨another, foundOther⟩ : ∃ another, (Builders.execute before).handles[original]? =
      some another := ⟨_, List.getElem?_eq_getElem (Nat.lt_trans older bound)⟩
  rw [Builders.build_step_call wellFormed older found foundOther]
  refine ⟨fun apart other found' => ?_, fun apart => apart another foundOther⟩
  obtain rfl := Option.some.inj (foundOther.symm.trans found')
  exact apart

end Clones

section Conjunction

variable {Document : Type v} (meets : Document → String → Condition Value → Bool)
  (text : String → Value)

theorem conjunction_iff : (∀ calls : List (Call Value),
      MeansConjunction meets text calls ↔ LossesImplied meets text calls) ∧
    ∀ commands : List (Command Value), LeavesOriginals text commands ↔ PushesApart commands :=
  ⟨meansConjunction_iff meets, leavesOriginals_iff text⟩

/-- Comparisons of numbers, to evaluate with. -/
def meetsNumber (doc : Record) (field : String) : Condition Js.Value → Bool
  | .gt (.number bound) =>
    match doc.get field with
    | some (.number value) => bound.lessThan value = some true
    | _ => false
  | .lt (.number bound) =>
    match doc.get field with
    | some (.number value) => value.lessThan bound = some true
    | _ => false
  | _ => false

def adults : QueryFilter Js.Value :=
  .mk (.ofList [("age", .gt (Js.Value.int 18))]) none none none

/-- Of a range one bound is lost, and a clone gives its original a condition. -/
theorem range_lost : ¬MeansConjunction meetsNumber Js.Value.string
      [.greaterThan "age" (Js.Value.int 18), .lessThan "age" (Js.Value.int 65)] ∧
    ¬LeavesOriginals Js.Value.string
      [.new, .call 0 (.and [adults]), .clone 0, .call 1 (.and [adults])] := by
  constructor
  · intro means
    have implied := (meansConjunction_iff meetsNumber _).mp means
      (.ofList [("age", Js.Value.int 10)])
    have child := implied (by decide +kernel) (.field "age" (.gt (Js.Value.int 18))) (.head _)
    exact absurd child (by decide +kernel)
  · intro leaves
    have apart := (leavesOriginals_iff _ _).mp leaves
      [.new, .call 0 (.and [adults]), .clone 0] 1 (.and [adults]) [] rfl _ rfl 0 (.head _) _ rfl
      ⟨0, rfl, rfl⟩
    cases apart

end Conjunction

end Caas.Mongo.QueryCalls
