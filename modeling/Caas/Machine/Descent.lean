import Mathlib.Data.Fintype.EquivFin
import Mathlib.Data.Set.Finite.Basic
import Mathlib.Data.List.Basic
import Mathlib.Logic.Relation
import Mathlib.Order.WellFounded
import Mathlib.Order.RelClasses
import Mathlib.Data.Finite.Defs
import Mathlib.Order.WellFoundedSet

/-!
# Recursion along a finitely branching relation

A recursion that calls itself on every child of a node, with no record of the nodes it has
seen. `ends children depth node` is that it comes back when calls nest at most `depth` deep.

It comes back at some depth exactly from the accessible nodes (`exists_ends_iff_acc`). When
only finitely many nodes have children, these are the nodes that lead to no cycle
(`exists_ends_iff_no_cycle`).
-/

universe u

namespace Descent

variable {α : Type u} (children : α → List α)

/-- The recursion from `node` comes back within `depth` nested calls. -/
def ends : Nat → α → Bool
  | 0, _ => false
  | depth + 1, node => (children node).all (ends depth)

def Calls (node child : α) : Prop := child ∈ children node

variable {children}

theorem ends_succ {depth : Nat} {node : α} : ends children (depth + 1) node = true ↔
      ∀ child ∈ children node, ends children depth child = true := by
  rw [ends, List.all_eq_true]

/-- More room for nested calls does no harm. -/
theorem ends_mono {depth more : Nat} (le : depth ≤ more) {node : α}
    (done : ends children depth node = true) : ends children more node = true := by
  induction depth generalizing more node with
  | zero => cases done
  | succ depth ih =>
    obtain ⟨more, rfl⟩ : ∃ n, more = n + 1 := ⟨more - 1, by omega⟩
    rw [ends_succ] at done ⊢
    exact fun child called => ih (by omega) (done child called)

/-- Finitely many recursions that come back have a common depth. -/
theorem exists_common_depth {nodes : List α}
    (each : ∀ node ∈ nodes, ∃ depth, ends children depth node = true) :
    ∃ depth, ∀ node ∈ nodes, ends children depth node = true := by
  induction nodes with
  | nil => exact ⟨0, fun node member => absurd member List.not_mem_nil⟩
  | cons node rest ih =>
    obtain ⟨first, done⟩ := each node List.mem_cons_self
    obtain ⟨others, all⟩ := ih fun other member => each other (List.mem_cons_of_mem _ member)
    refine ⟨max first others, fun other member => ?_⟩
    rcases List.mem_cons.mp member with rfl | later
    · exact ends_mono (le_max_left _ _) done
    · exact ends_mono (le_max_right _ _) (all other later)

/-- The recursion comes back exactly where no call chain goes on for ever. -/
theorem exists_ends_iff_acc {node : α} :
    (∃ depth, ends children depth node = true) ↔ Acc (flip (Calls children)) node := by
  constructor
  · rintro ⟨depth, done⟩
    induction depth generalizing node with
    | zero => cases done
    | succ depth ih =>
      rw [ends_succ] at done
      exact ⟨node, fun child called => ih (done child called)⟩
  · intro accessible
    induction accessible with
    | intro node _ ih =>
      obtain ⟨depth, all⟩ := exists_common_depth fun child called => ih child called
      exact ⟨depth + 1, ends_succ.mpr all⟩

theorem no_cycle_of_acc {node : α} (accessible : Acc (flip (Calls children)) node) {other : α}
    (reached : Relation.ReflTransGen (Calls children) node other) :
    ¬ Relation.TransGen (Calls children) other other := by
  have below : Acc (flip (Calls children)) other := by
    induction reached with
    | refl => exact accessible
    | tail _ called ih => exact ih.inv called
  induction below with
  | intro other _ ih =>
    intro cycle
    obtain ⟨next, called, back⟩ := Relation.TransGen.head'_iff.mp cycle
    exact ih next called (reached.tail called) (Relation.TransGen.tail' back called)

/-- A node that leads to no cycle is accessible, when finitely many nodes have children. -/
theorem acc_of_no_cycle {parents : List α}
    (finite : ∀ node, children node ≠ [] → node ∈ parents) {node : α}
    (acyclic : ∀ other, Relation.ReflTransGen (Calls children) node other →
      ¬ Relation.TransGen (Calls children) other other) :
    Acc (flip (Calls children)) node := by
  -- the parents reached from `node`, ordered by call chains
  let Reached := {other : α // other ∈ parents ∧ Relation.ReflTransGen (Calls children) node other}
  have finitely : Finite Reached :=
    (List.finite_toSet parents).subset (s := {other | other ∈ parents}) (fun _ both => both.1)
  let later (left right : Reached) : Prop :=
    Relation.TransGen (Calls children) right.val left.val
  have irrefl : Std.Irrefl later := ⟨fun other cycle => acyclic other.val other.property.2 cycle⟩
  have founded : WellFounded later := Finite.wellFounded_of_trans_of_irrefl later
  have each : ∀ reached : Reached, Acc (flip (Calls children)) reached.val := by
    intro reached
    induction reached using founded.induction with
    | _ reached ih =>
      refine ⟨_, fun child called => ?_⟩
      have onward := reached.property.2.tail called
      by_cases leaf : children child = []
      · refine ⟨_, fun grandchild below => ?_⟩
        rw [flip, Calls, leaf] at below
        exact absurd below List.not_mem_nil
      · exact ih ⟨child, finite child leaf, onward⟩ (.single called)
  by_cases leaf : children node = []
  · refine ⟨_, fun child below => ?_⟩
    rw [flip, Calls, leaf] at below
    exact absurd below List.not_mem_nil
  · exact each ⟨node, finite node leaf, .refl⟩

/-- Where finitely many nodes have children, the recursion comes back from the nodes that lead
to no cycle. -/
theorem exists_ends_iff_no_cycle {parents : List α}
    (finite : ∀ node, children node ≠ [] → node ∈ parents) {node : α} :
    (∃ depth, ends children depth node = true) ↔
      ∀ other, Relation.ReflTransGen (Calls children) node other →
        ¬ Relation.TransGen (Calls children) other other := by
  rw [exists_ends_iff_acc]
  exact ⟨fun accessible _ => no_cycle_of_acc accessible, acc_of_no_cycle finite⟩

end Descent
