import Mathlib.Data.List.Perm.Basic
import Mathlib.Data.List.Basic

/-!
# Sorting with a comparator

What `Array.prototype.sort` promises. The items are permuted; if on them the answers of the
comparator are those of a total preorder, they are put in order, where for items that tie the
comparator may answer either way. Nothing else is promised: `Sorts.exists_before` gives, for two
items that may come in some order, an engine that puts them so.
-/

namespace Js

universe u

variable {α : Type u}

/-- `a` may stand before `b`. -/
def mayPrecede (comparator : α → α → Int) (a b : α) : Bool := comparator a b ≤ 0

/-- On the items the comparator is a total preorder. -/
structure Consistent (comparator : α → α → Int) (items : List α) : Prop where
  total : ∀ a ∈ items, ∀ b ∈ items,
    mayPrecede comparator a b = true ∨ mayPrecede comparator b a = true
  trans : ∀ a ∈ items, ∀ b ∈ items, ∀ c ∈ items, mayPrecede comparator a b = true →
    mayPrecede comparator b c = true → mayPrecede comparator a c = true

/-- The promise of `items.sort(comparator)`. -/
structure Sorts (sort : (α → α → Int) → List α → List α) : Prop where
  perm : ∀ comparator items, (sort comparator items).Perm items
  ordered : ∀ comparator items, Consistent comparator items →
    (sort comparator items).Pairwise fun a b => mayPrecede comparator a b = true

section Engines

variable {comparator : α → α → Int} {items : List α}

theorem Consistent.perm {other : List α} (consistent : Consistent comparator items)
    (same : other.Perm items) : Consistent comparator other where
  total a here b there := consistent.total a (same.mem_iff.mp here) b (same.mem_iff.mp there)
  trans a first b second c third := consistent.trans a (same.mem_iff.mp first) b
    (same.mem_iff.mp second) c (same.mem_iff.mp third)

/-- The items merged into order. -/
def arranged (comparator : α → α → Int) (items : List α) : List α :=
  (items.attach.mergeSort fun a b => mayPrecede comparator a b).map (·.val)

theorem arranged_perm (comparator : α → α → Int) (items : List α) :
    (arranged comparator items).Perm items := by
  have merged := (List.mergeSort_perm items.attach fun a b => mayPrecede comparator a b).map (·.val)
  rwa [List.attach_map_subtype_val] at merged

theorem Consistent.trans_attach (consistent : Consistent comparator items)
    (a b c : { item // item ∈ items }) (first : mayPrecede comparator a b = true)
    (second : mayPrecede comparator b c = true) : mayPrecede comparator a c = true :=
  consistent.trans a a.2 b b.2 c c.2 first second

theorem Consistent.total_attach (consistent : Consistent comparator items)
    (a b : { item // item ∈ items }) :
    (mayPrecede comparator a b || mayPrecede comparator b a) = true :=
  (Bool.or_eq_true _ _).mpr (consistent.total a a.2 b b.2)

theorem Consistent.pairwise_arranged (consistent : Consistent comparator items) :
    (arranged comparator items).Pairwise fun a b => mayPrecede comparator a b = true :=
  List.pairwise_map.mpr
    (List.pairwise_mergeSort consistent.trans_attach consistent.total_attach items.attach)

/-- Merging keeps the promise. -/
theorem sorts_arranged : Sorts (arranged (α := α)) where
  perm := arranged_perm
  ordered _ _ consistent := consistent.pairwise_arranged

/-- Two items in front that stand in order stay in order. -/
theorem Consistent.pair_sublist_arranged {a b : α} {rest : List α}
    (consistent : Consistent comparator (a :: b :: rest))
    (ordered : mayPrecede comparator a b = true) :
    [a, b].Sublist (arranged comparator (a :: b :: rest)) := by
  have front : [(⟨a, List.mem_cons_self⟩ : { item // item ∈ a :: b :: rest }),
      ⟨b, List.mem_cons_of_mem a List.mem_cons_self⟩].Sublist (a :: b :: rest).attach := by
    exact ((List.nil_sublist _).cons_cons _).cons_cons _
  exact (List.pair_sublist_mergeSort consistent.trans_attach consistent.total_attach ordered
    front).map (·.val)

open Classical in
/-- An engine that keeps the promise, and does `special` for some comparator and items. -/
noncomputable def engine (comparator : α → α → Int) (items special : List α) :
    (α → α → Int) → List α → List α :=
  fun given list => if given = comparator ∧ list = items then special else arranged given list

theorem sorts_engine {special : List α} (perm : special.Perm items)
    (ordered : Consistent comparator items →
      special.Pairwise fun a b => mayPrecede comparator a b = true) :
    Sorts (engine comparator items special) where
  perm given list := by
    unfold engine
    split
    · next same =>
      obtain ⟨rfl, rfl⟩ := same
      exact perm
    · exact arranged_perm given list
  ordered given list consistent := by
    unfold engine
    split
    · next same =>
      obtain ⟨rfl, rfl⟩ := same
      exact ordered consistent
    · exact consistent.pairwise_arranged

/-- If nothing forbids that `a` stands before `b`, some engine puts it there. -/
theorem Sorts.exists_before {a b : α} {rest : List α} (perm : (a :: b :: rest).Perm items)
    (free : Consistent comparator items → mayPrecede comparator a b = true) :
    ∃ sort, Sorts sort ∧ [a, b].Sublist (sort comparator items) := by
  classical
  by_cases consistent : Consistent comparator items
  · have consistent' := consistent.perm perm
    refine ⟨engine comparator items (arranged comparator (a :: b :: rest)),
      sorts_engine ((arranged_perm _ _).trans perm) fun _ => consistent'.pairwise_arranged, ?_⟩
    rw [engine, if_pos ⟨rfl, rfl⟩]
    exact consistent'.pair_sublist_arranged (free consistent)
  · refine ⟨engine comparator items (a :: b :: rest),
      sorts_engine perm fun promised => absurd promised consistent, ?_⟩
    rw [engine, if_pos ⟨rfl, rfl⟩]
    exact ((List.nil_sublist _).cons_cons _).cons_cons _

end Engines

end Js
