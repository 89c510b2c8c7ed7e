import Mathlib.Data.List.Basic
import Mathlib.Data.List.Nodup

/-!
# Insertion-ordered maps

JavaScript's `Map` and its plain objects iterate in insertion order: writing an
existing key keeps its position, writing a new key appends, and deleting a key
forgets its position. `OrderedMap` carries the uniqueness of its keys, so `get`
and membership of `entries` are two views of one table.

Integer-like object keys, which JavaScript lists first, are not reordered here.
-/

namespace Js

universe u v w

/-- A finite map that remembers the order in which its keys were first written. -/
structure OrderedMap (κ : Type u) (ν : Type v) where
  entries : List (κ × ν)
  nodup : (entries.map Prod.fst).Nodup

namespace OrderedMap

variable {κ : Type u} {ν : Type v}

/-- Maps are determined by their entries; the uniqueness proof carries no data. -/
@[ext] theorem ext {left right : OrderedMap κ ν} (entries : left.entries = right.entries) :
    left = right := by
  cases left
  cases right
  cases entries
  rfl

instance [DecidableEq κ] [DecidableEq ν] : DecidableEq (OrderedMap κ ν) := fun left right =>
  decidable_of_iff (left.entries = right.entries) ⟨ext, congrArg entries⟩

def empty : OrderedMap κ ν := ⟨[], List.nodup_nil⟩

def values (map : OrderedMap κ ν) : List ν := map.entries.map Prod.snd

def size (map : OrderedMap κ ν) : Nat := map.entries.length

/-- The same keys in the same order, each value mapped. -/
def mapValues {ν' : Type w} (f : ν → ν') (map : OrderedMap κ ν) : OrderedMap κ ν' :=
  ⟨map.entries.map fun entry => (entry.1, f entry.2), by
    simpa [Function.comp_def] using map.nodup⟩

theorem values_mapValues {ν' : Type w} (f : ν → ν') (map : OrderedMap κ ν) :
    (map.mapValues f).values = map.values.map f := by
  simp [values, mapValues]

/-- Each value mapped, the keys without a result left out. -/
def filterMapValues {ν' : Type w} (f : ν → Option ν') (map : OrderedMap κ ν) :
    OrderedMap κ ν' where
  entries := map.entries.filterMap fun entry => (f entry.2).map (Prod.mk entry.1)
  nodup := by
    rw [List.map_filterMap]
    refine List.Nodup.sublist ?_ map.nodup
    rw [← List.filterMap_eq_map]
    generalize map.entries = entries
    induction entries with
    | nil => exact .slnil
    | cons entry rest ih =>
      cases result : f entry.2 with
      | none => simpa [List.filterMap_cons, result] using ih.cons entry.1
      | some value => simpa [List.filterMap_cons, result] using ih.cons_cons entry.1

section Lookup

variable [DecidableEq κ]

/-- The value stored under `key`, if any. -/
def lookupEntry (key : κ) : List (κ × ν) → Option ν
  | [] => none
  | (k, value) :: rest => if k = key then some value else lookupEntry key rest

/-- Replace the entry of `key` in place, or append a new one. -/
def setEntry (key : κ) (value : ν) : List (κ × ν) → List (κ × ν)
  | [] => [(key, value)]
  | (k, old) :: rest =>
    if k = key then (key, value) :: rest else (k, old) :: setEntry key value rest

variable {key other : κ} {value : ν} (keep : κ → ν → Bool) (map : OrderedMap κ ν)

theorem lookupEntry_nil : lookupEntry key ([] : List (κ × ν)) = none := rfl

theorem lookupEntry_cons (entry : κ × ν) (rest : List (κ × ν)) : lookupEntry key (entry :: rest) =
      if entry.1 = key then some entry.2 else lookupEntry key rest := rfl

theorem setEntry_nil : setEntry key value [] = [(key, value)] := rfl

theorem setEntry_cons (entry : κ × ν) (rest : List (κ × ν)) : setEntry key value (entry :: rest) =
      if entry.1 = key then (key, value) :: rest else entry :: setEntry key value rest := rfl

theorem mem_of_lookupEntry {entries : List (κ × ν)} (found : lookupEntry key entries = some value) :
    (key, value) ∈ entries := by
  induction entries with
  | nil => simp [lookupEntry_nil] at found
  | cons entry rest ih =>
    obtain ⟨k, old⟩ := entry
    by_cases same : k = key
    · subst same
      simp only [lookupEntry_cons, if_true, Option.some.injEq] at found
      subst found
      exact List.mem_cons_self
    · simp only [lookupEntry_cons, if_neg same] at found
      exact List.mem_cons_of_mem _ (ih found)

theorem lookupEntry_eq_none_iff {entries : List (κ × ν)} :
    lookupEntry key entries = none ↔ key ∉ entries.map Prod.fst := by
  induction entries with
  | nil => simp [lookupEntry_nil]
  | cons entry rest ih =>
    obtain ⟨k, old⟩ := entry
    by_cases same : k = key
    · simp [lookupEntry_cons, same]
    · simp only [lookupEntry_cons, if_neg same, ih, List.map_cons, List.mem_cons, not_or]
      exact ⟨fun absent => ⟨Ne.symm same, absent⟩, fun absent => absent.2⟩

theorem lookupEntry_of_mem {entries : List (κ × ν)} (nodup : (entries.map Prod.fst).Nodup)
    (member : (key, value) ∈ entries) : lookupEntry key entries = some value := by
  induction entries with
  | nil => simp at member
  | cons entry rest ih =>
    obtain ⟨k, old⟩ := entry
    simp only [List.map_cons, List.nodup_cons] at nodup
    rcases List.mem_cons.mp member with here | later
    · cases here
      simp [lookupEntry_cons]
    · have different : k ≠ key := by
        rintro rfl
        exact nodup.1 (List.mem_map.mpr ⟨_, later, rfl⟩)
      simp only [lookupEntry_cons, if_neg different]
      exact ih nodup.2 later

theorem mem_keys_setEntry {entries : List (κ × ν)} :
    other ∈ (setEntry key value entries).map Prod.fst ↔
      other = key ∨ other ∈ entries.map Prod.fst := by
  induction entries with
  | nil => simp [setEntry_nil]
  | cons entry rest ih =>
    obtain ⟨k, old⟩ := entry
    by_cases same : k = key
    · subst same
      simp [setEntry_cons]
    · simp only [setEntry_cons, if_neg same, List.map_cons, List.mem_cons, ih]
      exact or_left_comm

theorem nodup_setEntry {entries : List (κ × ν)} (nodup : (entries.map Prod.fst).Nodup) :
    ((setEntry key value entries).map Prod.fst).Nodup := by
  induction entries with
  | nil => simp [setEntry_nil]
  | cons entry rest ih =>
    obtain ⟨k, old⟩ := entry
    simp only [List.map_cons, List.nodup_cons] at nodup
    by_cases same : k = key
    · subst same
      simpa [setEntry_cons] using nodup
    · simp only [setEntry_cons, if_neg same, List.map_cons, List.nodup_cons, mem_keys_setEntry, not_or]
      exact ⟨⟨same, nodup.1⟩, ih nodup.2⟩

/-- What holds of every entry holds after a write whose entry it holds of. -/
theorem forall_mem_setEntry {holds : κ × ν → Prop} {entries : List (κ × ν)}
    (each : ∀ entry ∈ entries, holds entry) (written : holds (key, value)) :
    ∀ entry ∈ setEntry key value entries, holds entry := by
  induction entries with
  | nil =>
    intro entry member
    rwa [List.mem_singleton.mp member]
  | cons first rest ih =>
    obtain ⟨k, old⟩ := first
    obtain ⟨here, later⟩ := List.forall_mem_cons.mp each
    rw [setEntry_cons]
    split
    · exact List.forall_mem_cons.mpr ⟨written, later⟩
    · exact List.forall_mem_cons.mpr ⟨here, ih later⟩

theorem lookupEntry_setEntry {entries : List (κ × ν)} :
    lookupEntry other (setEntry key value entries) =
      if key = other then some value else lookupEntry other entries := by
  induction entries with
  | nil => simp [setEntry_nil, lookupEntry_cons, lookupEntry_nil]
  | cons entry rest ih =>
    obtain ⟨k, old⟩ := entry
    by_cases same : k = key
    · subst same
      by_cases target : k = other <;> simp [setEntry_cons, lookupEntry_cons, target]
    · by_cases target : k = other
      · subst target
        simp [setEntry_cons, lookupEntry_cons, same, Ne.symm same]
      · simp [setEntry_cons, if_neg same, lookupEntry_cons, if_neg target, ih]

/-- `Map.prototype.get`, and property access on a plain object. -/
def get (map : OrderedMap κ ν) (key : κ) : Option ν := lookupEntry key map.entries

/-- `Map.prototype.has`, and the `in` operator on a plain object. -/
def has (map : OrderedMap κ ν) (key : κ) : Bool := (map.get key).isSome

/-- `Map.prototype.set`, and property assignment on a plain object. -/
def set (map : OrderedMap κ ν) (key : κ) (value : ν) : OrderedMap κ ν :=
  ⟨setEntry key value map.entries, nodup_setEntry map.nodup⟩

/-- Keep the entries that satisfy `keep`, in order. -/
def restrict (keep : κ → ν → Bool) (map : OrderedMap κ ν) : OrderedMap κ ν :=
  ⟨map.entries.filter fun entry => keep entry.1 entry.2,
    (List.Sublist.map Prod.fst List.filter_sublist).nodup map.nodup⟩

/-- `Map.prototype.delete`. -/
def delete (map : OrderedMap κ ν) (key : κ) : OrderedMap κ ν :=
  map.restrict fun k _ => k ≠ key

/-- The object spread `{ ...base, ...patch }`: later properties win. -/
def spread (base patch : OrderedMap κ ν) : OrderedMap κ ν :=
  patch.entries.foldl (fun result entry => result.set entry.1 entry.2) base

/-- An object literal, its later duplicates winning. -/
def ofList (entries : List (κ × ν)) : OrderedMap κ ν :=
  entries.foldl (fun result entry => result.set entry.1 entry.2) empty

@[simp] theorem get_empty (key : κ) : (empty : OrderedMap κ ν).get key = none := rfl

theorem get_eq_some_iff {map : OrderedMap κ ν} :
    map.get key = some value ↔ (key, value) ∈ map.entries :=
  ⟨mem_of_lookupEntry, lookupEntry_of_mem map.nodup⟩

theorem get_set (key other : κ) (value : ν) :
    (map.set key value).get other = if key = other then some value else map.get other :=
  lookupEntry_setEntry

@[simp] theorem get_set_self (key : κ) (value : ν) : (map.set key value).get key = some value := by
  simp [get_set]

@[simp] theorem get_set_of_ne (value : ν) (different : key ≠ other) :
    (map.set key value).get other = map.get other := by
  simp [get_set, different]

theorem setEntry_of_absent {entries : List (κ × ν)} (absent : key ∉ entries.map Prod.fst) :
    setEntry key value entries = entries ++ [(key, value)] := by
  induction entries with
  | nil => rfl
  | cons entry rest ih =>
    rw [List.map_cons, List.mem_cons, not_or] at absent
    rw [setEntry_cons, if_neg (Ne.symm absent.1), ih absent.2, List.cons_append]

/-- A new key is appended. -/
theorem entries_set_of_absent {map : OrderedMap κ ν} (value : ν)
    (absent : key ∉ map.entries.map Prod.fst) :
    (map.set key value).entries = map.entries ++ [(key, value)] :=
  setEntry_of_absent absent

/-- A restricted map shows exactly the kept bindings. -/
@[simp] theorem get_restrict (key : κ) :
    (map.restrict keep).get key = (map.get key).filter (keep key) := by
  apply Option.ext
  intro value
  simp [get_eq_some_iff, restrict]

@[simp] theorem get_delete (key other : κ) :
    (map.delete key).get other = if key = other then none else map.get other := by
  by_cases same : key = other
  · subst same
    simp [delete]
  · cases found : map.get other <;> simp [delete, same, Ne.symm same, found]

theorem setEntry_of_lookup {entries : List (κ × ν)}
    (found : lookupEntry key entries = some value) : setEntry key value entries = entries := by
  induction entries with
  | nil => cases found
  | cons entry rest ih =>
    obtain ⟨k, old⟩ := entry
    by_cases same : k = key
    · subst same
      simp only [lookupEntry_cons, if_true, Option.some.injEq] at found
      simp [setEntry_cons, found]
    · simp only [lookupEntry_cons, if_neg same] at found
      simp [setEntry_cons, same, ih found]

/-- Writing what is stored changes nothing. -/
theorem set_of_get {map : OrderedMap κ ν} (found : map.get key = some value) :
    map.set key value = map :=
  ext (setEntry_of_lookup found)

/-- Deleting a key that is not there changes nothing. -/
theorem delete_of_absent {map : OrderedMap κ ν} (absent : map.get key = none) :
    map.delete key = map := by
  refine ext (List.filter_eq_self.mpr fun entry member => ?_)
  have different : entry.1 ≠ key := fun same =>
    lookupEntry_eq_none_iff.mp absent (List.mem_map.mpr ⟨entry, member, same⟩)
  simpa using different

theorem get_foldl_set (entries : List (κ × ν)) (nodup : (entries.map Prod.fst).Nodup)
    (base : OrderedMap κ ν) (key : κ) :
    (entries.foldl (fun result entry => result.set entry.1 entry.2) base).get key =
      (lookupEntry key entries).or (base.get key) := by
  induction entries generalizing base with
  | nil => simp [lookupEntry_nil]
  | cons entry rest ih =>
    obtain ⟨k, value⟩ := entry
    simp only [List.map_cons, List.nodup_cons] at nodup
    rw [List.foldl_cons, ih nodup.2]
    by_cases same : k = key
    · subst same
      have absent : lookupEntry k rest = none := lookupEntry_eq_none_iff.mpr nodup.1
      simp [lookupEntry_cons, absent]
    · simp [lookupEntry_cons, same]

/-- A spread reads a property from the patch first. -/
theorem get_spread (base patch : OrderedMap κ ν) (key : κ) :
    (base.spread patch).get key = (patch.get key).or (base.get key) :=
  get_foldl_set patch.entries patch.nodup base key

theorem filter_setEntry_of_keep {keep : κ → ν → Bool} {entries : List (κ × ν)}
    (kept : keep key value = true)
    (before : ∀ old, lookupEntry key entries = some old → keep key old = true) :
    (setEntry key value entries).filter (fun entry => keep entry.1 entry.2) =
      setEntry key value (entries.filter fun entry => keep entry.1 entry.2) := by
  induction entries with
  | nil => simp [setEntry_nil, kept]
  | cons entry rest ih =>
    obtain ⟨k, old⟩ := entry
    by_cases same : k = key
    · subst same
      have oldKept := before old (by simp [lookupEntry_cons])
      simp [setEntry_cons, kept, oldKept]
    · have later := ih fun other found => before other (by simpa [lookupEntry_cons, same] using found)
      by_cases head : keep k old = true <;> simp [setEntry_cons, same, head, later]

theorem filter_setEntry_of_drop {keep : κ → ν → Bool} {entries : List (κ × ν)}
    (dropped : keep key value = false)
    (before : ∀ old, lookupEntry key entries = some old → keep key old = false) :
    (setEntry key value entries).filter (fun entry => keep entry.1 entry.2) =
      entries.filter fun entry => keep entry.1 entry.2 := by
  induction entries with
  | nil => simp [setEntry_nil, dropped]
  | cons entry rest ih =>
    obtain ⟨k, old⟩ := entry
    by_cases same : k = key
    · subst same
      have oldDropped := before old (by simp [lookupEntry_cons])
      simp [setEntry_cons, dropped, oldDropped]
    · have later := ih fun other found => before other (by simpa [lookupEntry_cons, same] using found)
      by_cases head : keep k old = true <;> simp [setEntry_cons, same, head, later]

/-- Writing a kept binding over a kept one commutes with restriction. -/
theorem restrict_set_of_keep {map : OrderedMap κ ν} (kept : keep key value = true)
    (before : ∀ old, map.get key = some old → keep key old = true) :
    (map.set key value).restrict keep = (map.restrict keep).set key value :=
  ext (filter_setEntry_of_keep kept before)

/-- Writing a dropped binding over a dropped one is invisible to the restriction. -/
theorem restrict_set_of_drop {map : OrderedMap κ ν} (dropped : keep key value = false)
    (before : ∀ old, map.get key = some old → keep key old = false) :
    (map.set key value).restrict keep = map.restrict keep :=
  ext (filter_setEntry_of_drop dropped before)

theorem restrict_delete (key : κ) :
    (map.delete key).restrict keep = (map.restrict keep).delete key := by
  apply ext
  simp [delete, restrict, Bool.and_comm]

/-- Deleting a binding that the restriction drops is invisible to it. -/
theorem delete_restrict_of_drop {map : OrderedMap κ ν}
    (before : ∀ old, map.get key = some old → keep key old = false) :
    (map.delete key).restrict keep = map.restrict keep := by
  apply ext
  simp only [delete, restrict, List.filter_filter]
  apply List.filter_congr
  rintro ⟨k, value⟩ member
  by_cases same : k = key
  · subst same
    simp [before value (get_eq_some_iff.mpr member)]
  · simp [same]

section MapValues

variable {ν' : Type w} (f : ν → ν')

theorem lookupEntry_map (entries : List (κ × ν)) (key : κ) :
    lookupEntry key (entries.map fun entry => (entry.1, f entry.2)) =
      (lookupEntry key entries).map f := by
  induction entries with
  | nil => rfl
  | cons entry rest ih =>
    by_cases same : entry.1 = key <;> simp [lookupEntry_cons, same, ih]

theorem map_setEntry (entries : List (κ × ν)) (key : κ) (value : ν) :
    (setEntry key value entries).map (fun entry => (entry.1, f entry.2)) =
      setEntry key (f value) (entries.map fun entry => (entry.1, f entry.2)) := by
  induction entries with
  | nil => rfl
  | cons entry rest ih =>
    by_cases same : entry.1 = key <;> simp [setEntry_cons, same, ih]

variable (map : OrderedMap κ ν) (key : κ)

@[simp] theorem get_mapValues : (map.mapValues f).get key = (map.get key).map f :=
  lookupEntry_map f map.entries key

theorem mapValues_set (value : ν) :
    (map.set key value).mapValues f = (map.mapValues f).set key (f value) :=
  ext (map_setEntry f map.entries key value)

theorem mapValues_delete : (map.delete key).mapValues f = (map.mapValues f).delete key := by
  apply ext
  simp only [delete, restrict, mapValues, List.filter_map]
  rfl

end MapValues

section FilterMapValues

variable {ν' : Type w} {f f' : ν → Option ν'}

@[simp] theorem get_filterMapValues (map : OrderedMap κ ν) (key : κ) :
    (map.filterMapValues f).get key = (map.get key).bind f := by
  apply Option.ext
  intro value
  simp only [get_eq_some_iff, filterMapValues, List.mem_filterMap, Option.bind_eq_some_iff]
  constructor
  · rintro ⟨⟨k, old⟩, member, result⟩
    obtain ⟨value', here, pair⟩ := Option.map_eq_some_iff.mp result
    cases pair
    exact ⟨old, member, here⟩
  · rintro ⟨old, member, result⟩
    exact ⟨(key, old), member, by simp [result]⟩

theorem filterMap_setEntry {entries : List (κ × ν)} {key : κ} {value : ν} {result : ν'}
    (nodup : (entries.map Prod.fst).Nodup) (here : f' value = some result)
    (others : ∀ entry ∈ entries, entry.1 ≠ key → f' entry.2 = f entry.2)
    (defined : ∀ entry ∈ entries, entry.1 = key → f entry.2 ≠ none) :
    (setEntry key value entries).filterMap (fun entry => (f' entry.2).map (Prod.mk entry.1)) =
      setEntry key result
        (entries.filterMap fun entry => (f entry.2).map (Prod.mk entry.1)) := by
  induction entries with
  | nil => simp [setEntry_nil, here]
  | cons entry rest ih =>
    obtain ⟨k, old⟩ := entry
    simp only [List.map_cons, List.nodup_cons] at nodup
    by_cases same : k = key
    · subst same
      obtain ⟨before, found⟩ :=
        Option.ne_none_iff_exists'.mp (defined (k, old) List.mem_cons_self rfl)
      -- The key does not come again, so the rest reads alike under both functions.
      have alike : rest.filterMap (fun entry => (f' entry.2).map (Prod.mk entry.1)) =
          rest.filterMap fun entry => (f entry.2).map (Prod.mk entry.1) := by
        apply List.filterMap_congr
        intro entry member
        have different : entry.1 ≠ k := by
          rintro rfl
          exact nodup.1 (List.mem_map_of_mem member)
        rw [others entry (List.mem_cons_of_mem _ member) different]
      simp [setEntry_cons, here, found, alike]
    · have tail := ih nodup.2 (fun entry member => others entry (List.mem_cons_of_mem _ member))
        fun entry member => defined entry (List.mem_cons_of_mem _ member)
      have head := others (k, old) List.mem_cons_self same
      cases result' : f old with
      | none | some => simp [setEntry_cons, same, head, result', tail]

/-- Writing under `key` and changing the function there is writing the result. -/
theorem filterMapValues_set {map : OrderedMap κ ν} {key : κ} {value : ν} {result : ν'}
    (here : f' value = some result)
    (others : ∀ other old, map.get other = some old → other ≠ key → f' old = f old)
    (defined : ∀ old, map.get key = some old → f old ≠ none) :
    (map.set key value).filterMapValues f' = (map.filterMapValues f).set key result := by
  apply ext
  apply filterMap_setEntry map.nodup here
  · rintro ⟨other, old⟩ member different
    exact others other old (get_eq_some_iff.mpr member) different
  · rintro ⟨other, old⟩ member rfl
    exact defined old (get_eq_some_iff.mpr member)

theorem filterMapValues_delete (map : OrderedMap κ ν) (key : κ) :
    (map.delete key).filterMapValues f = (map.filterMapValues f).delete key := by
  apply ext
  simp only [delete, restrict, filterMapValues, List.filterMap_filter, List.filter_filterMap]
  apply List.filterMap_congr
  rintro ⟨k, value⟩ _
  by_cases same : k = key <;> cases f value <;> simp [same, Option.filter]

end FilterMapValues

section Fields

variable (keep : κ → Bool)

/-- Keeping some properties of an object: a write to another one is forgotten. -/
theorem restrict_set (map : OrderedMap κ ν) (key : κ) (value : ν) :
    (map.set key value).restrict (fun k _ => keep k) =
      if keep key then (map.restrict fun k _ => keep k).set key value
      else map.restrict fun k _ => keep k := by
  by_cases kept : keep key = true
  · rw [if_pos kept]
    exact restrict_set_of_keep _ kept fun _ _ => kept
  · have dropped : keep key = false := by simpa using kept
    rw [if_neg kept]
    exact restrict_set_of_drop _ dropped fun _ _ => dropped

/-- Keeping some properties of a spread is spreading the kept properties. -/
theorem restrict_spread (base patch : OrderedMap κ ν) :
    (base.spread patch).restrict (fun k _ => keep k) =
      (base.restrict fun k _ => keep k).spread (patch.restrict fun k _ => keep k) := by
  simp only [spread, restrict, List.foldl_filter]
  exact (List.foldl_hom (restrict fun k _ => keep k) fun map entry =>
    (restrict_set keep map entry.1 entry.2).symm).symm

end Fields

end Lookup

end OrderedMap

end Js

/-!
## Insertion-ordered sets

JavaScript's `Set`: adding a value that is present changes nothing, adding a new one
appends it. The uniqueness of the values is part of the type.
-/

namespace Js

/-- A finite set that remembers the order in which its values were first added. -/
structure OrderedSet (α : Type u) where
  items : List α
  nodup : items.Nodup

namespace OrderedSet

variable {α : Type u} {β : Type v}

def empty : OrderedSet α := ⟨[], List.nodup_nil⟩

instance : Membership α (OrderedSet α) := ⟨fun set value => value ∈ set.items⟩

variable {set : OrderedSet α} {other : α}

theorem mem_def {value : α} : value ∈ set ↔ value ∈ set.items := Iff.rfl

@[simp] theorem not_mem_empty (value : α) : value ∉ (empty : OrderedSet α) := List.not_mem_nil

variable [DecidableEq α]

/-- `set.add(value)`. -/
def add (set : OrderedSet α) (value : α) : OrderedSet α :=
  if present : value ∈ set.items then set
  else ⟨set.items ++ [value], by
    rw [List.nodup_append]
    exact ⟨set.nodup, List.nodup_singleton value, by
      rintro a member b last rfl
      exact present (List.mem_singleton.mp last ▸ member)⟩⟩

@[simp] theorem mem_add {value : α} : other ∈ set.add value ↔ other ∈ set ∨ other = value := by
  unfold add
  split
  · rename_i present
    constructor
    · exact .inl
    · rintro (member | rfl)
      · exact member
      · exact present
  · simp [mem_def]

/-- `values.forEach((value) => set.add(value))`. -/
def addAll (set : OrderedSet α) (values : List α) : OrderedSet α := values.foldl add set

@[simp] theorem mem_addAll {values : List α} :
    other ∈ set.addAll values ↔ other ∈ set ∨ other ∈ values := by
  induction values generalizing set with
  | nil => simp [addAll]
  | cons value rest ih =>
    rw [addAll, List.foldl_cons]
    change other ∈ (set.add value).addAll rest ↔ _
    rw [ih, mem_add, List.mem_cons, or_assoc]

/-- `new Set(values)`. -/
def ofList (values : List α) : OrderedSet α := empty.addAll values

@[simp] theorem mem_ofList {values : List α} : other ∈ ofList values ↔ other ∈ values := by
  simp [ofList]

end OrderedSet

end Js
