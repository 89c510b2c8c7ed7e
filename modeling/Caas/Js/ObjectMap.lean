import Caas.Js.OrderedMap

/-!
# Maps of mutable objects

A `Map` whose values are objects holds references. Writing a property of an object
shows in every place that holds the same reference, also after the map has dropped
its key. `ObjectMap` keeps the objects themselves beside the references, each
reference allocated and stored under one key at most, so that a write through a key
is a write of one entry of `view`.

Other holders keep a `Reference` and read it back with `read`.
-/

namespace Js
open OrderedMap

universe u v

/-- The identity of an object: its place in the order of allocation. -/
abbrev Reference := Nat

/-- A `Map` from keys to objects of its own, with the objects ever allocated. -/
structure ObjectMap (κ : Type u) (α : Type v) [DecidableEq κ] where
  objects : List α
  references : OrderedMap κ Reference
  allocated : ∀ key reference, references.get key = some reference → reference < objects.length
  separate : ∀ key other reference, references.get key = some reference →
    references.get other = some reference → key = other

namespace ObjectMap

variable {κ : Type u} {α : Type v} [DecidableEq κ] (map : ObjectMap κ α)

def empty : ObjectMap κ α := ⟨[], .empty, fun _ _ => nofun, fun _ _ _ => nofun⟩

def read (reference : Reference) : Option α := map.objects[reference]?

/-- The object stored under a key. -/
def get (key : κ) : Option α := (map.references.get key).bind map.read

def add (key : κ) (value : α) : ObjectMap κ α where
  objects := map.objects ++ [value]
  references := map.references.set key map.objects.length
  allocated other reference stored := by
    rw [List.length_append, List.length_singleton]
    rw [get_set] at stored
    split at stored
    · exact Option.some.inj stored ▸ Nat.lt_succ_self _
    · exact Nat.lt_succ_of_lt (map.allocated other reference stored)
  separate left right reference atLeft atRight := by
    -- The new reference lies beyond the allocated ones.
    have old : ∀ other, map.references.get other = some reference →
        map.objects.length ≠ reference := fun other stored =>
      Nat.ne_of_gt (map.allocated other reference stored)
    rw [get_set] at atLeft atRight
    split at atLeft <;> split at atRight
    · simp_all
    · exact absurd (Option.some.inj atLeft) (old right atRight)
    · exact absurd (Option.some.inj atRight) (old left atLeft)
    · exact map.separate left right reference atLeft atRight

/-- Assign to properties of the object under `key`, in place. -/
def modify (key : κ) (edit : α → α) : ObjectMap κ α where
  objects :=
    match map.references.get key with
    | some reference => map.objects.modify reference edit
    | none => map.objects
  references := map.references
  allocated other reference stored := by
    have old := map.allocated other reference stored
    split <;> simpa using old
  separate := map.separate

/-- Assign to properties of an object by one of its holders. -/
def edit (reference : Reference) (change : α → α) : ObjectMap κ α where
  objects := map.objects.modify reference change
  references := map.references
  allocated key reference stored := by simpa using map.allocated key reference stored
  separate := map.separate

/-- `Map.prototype.delete`; the object stays with its other holders. -/
def delete (key : κ) : ObjectMap κ α where
  objects := map.objects
  references := map.references.delete key
  allocated other reference stored := by
    rw [get_delete] at stored
    split at stored
    · cases stored
    · exact map.allocated other reference stored
  separate left right reference atLeft atRight := by
    rw [get_delete] at atLeft atRight
    split at atLeft
    · cases atLeft
    · split at atRight
      · cases atRight
      · exact map.separate left right reference atLeft atRight

/-- The keys with the present contents of their objects. -/
def view : OrderedMap κ α := map.references.filterMapValues map.read

variable {map}

@[simp] theorem get_view (key : κ) : map.view.get key = map.get key :=
  get_filterMapValues map.references key

variable {reference : Reference} {key : κ}

/-- Only allocated references read back. -/
theorem lt_of_read {value : α} (found : map.read reference = some value) :
    reference < map.objects.length :=
  (List.getElem?_eq_some_iff.mp found).1

theorem read_ne_none (stored : map.references.get key = some reference) :
    map.read reference ≠ none := by
  simpa [read] using map.allocated key reference stored

theorem get_of_reference (stored : map.references.get key = some reference) :
    map.get key = map.read reference := by
  simp [get, stored]

/-- A stored object is found behind its reference. -/
theorem exists_reference {value : α} (found : map.get key = some value) :
    ∃ reference, map.references.get key = some reference ∧ map.read reference = some value :=
  Option.bind_eq_some_iff.mp found

/-- A key without an object is not in the map at all. -/
theorem references_get_eq_none (absent : map.get key = none) : map.references.get key = none := by
  cases stored : map.references.get key with
  | none => rfl
  | some reference =>
    rw [get_of_reference stored] at absent
    exact absurd absent (read_ne_none stored)

section Add

variable (key : κ) (value : α)

theorem read_add_of_lt {reference : Reference} (old : reference < map.objects.length) :
    (map.add key value).read reference = map.read reference :=
  List.getElem?_append_left old

theorem read_add_new : (map.add key value).read map.objects.length = some value := by
  simp [read, add]

/-- Adding an object is a write to the view. -/
theorem view_add : (map.add key value).view = map.view.set key value :=
  filterMapValues_set (read_add_new key value)
    (fun other old stored _ => read_add_of_lt key value (map.allocated other old stored))
    fun _ stored => read_ne_none stored

@[simp] theorem get_add (other : κ) :
    (map.add key value).get other = if key = other then some value else map.get other := by
  rw [← get_view, view_add, get_set, get_view]

end Add

section Modify

variable (key : κ) (edit : α → α)

/-- A write reaches the object under the key and no other. -/
theorem read_modify (reference : Reference) : (map.modify key edit).read reference =
      if map.references.get key = some reference then (map.read reference).map edit
      else map.read reference := by
  change (match map.references.get key with
    | some written => map.objects.modify written edit
    | none => map.objects)[reference]? = _
  cases stored : map.references.get key with
  | none => simp [read]
  | some written =>
    by_cases same : written = reference
    · simp [read, same]
    · simp [read, same]

@[simp] theorem get_modify (other : κ) : (map.modify key edit).get other =
      if key = other then (map.get other).map edit else map.get other := by
  change (map.references.get other).bind (map.modify key edit).read = _
  cases stored : map.references.get other with
  | none => simp [get, stored]
  | some reference =>
    rw [Option.bind_some, read_modify, get_of_reference stored]
    by_cases same : key = other
    · simp [same, stored]
    · have elsewhere : map.references.get key ≠ some reference := fun storedThere =>
        same (map.separate key other reference storedThere stored)
      rw [if_neg elsewhere, if_neg same]

end Modify

section Edit

variable (change : α → α)

theorem read_edit (reference other : Reference) : (map.edit reference change).read other =
    if reference = other then (map.read other).map change else map.read other := by
  by_cases same : reference = other <;> simp [read, edit, same]

theorem read_edit_self {value : α} (found : map.read reference = some value) :
    (map.edit reference change).read reference = some (change value) := by
  simp [read_edit, found]

end Edit

section Delete

variable (key : κ)

theorem view_delete : (map.delete key).view = map.view.delete key :=
  filterMapValues_delete map.references key

@[simp] theorem get_delete (other : κ) :
    (map.delete key).get other = if key = other then none else map.get other := by
  rw [← get_view, view_delete, OrderedMap.get_delete, get_view]

end Delete

end ObjectMap

end Js
