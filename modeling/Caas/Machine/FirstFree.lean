import Mathlib.Data.List.Nodup
import Mathlib.Data.List.Perm.Subperm

/-!
# The first free candidate

The loop that tries numbered candidates one after the other until one is not taken. With
different candidates it ends after as many attempts as there are taken values.
-/

universe u

namespace FirstFree

variable {α : Type u} [DecidableEq α] (candidate : Nat → α) (taken : List α)

/-- Go on to the first number whose candidate is free, for a number of attempts. -/
def search : Nat → Nat → Nat
  | 0, number => number
  | attempts + 1, number =>
    if candidate number ∈ taken then search attempts (number + 1) else number

/-- The first number from `start` on whose candidate is free. -/
def firstFree (start : Nat) : Nat := search candidate taken taken.length start

variable {candidate taken}

/-- Everything before the number found is taken. -/
theorem taken_of_lt_search {attempts start number : Nat} (first : start ≤ number)
    (before : number < search candidate taken attempts start) : candidate number ∈ taken := by
  induction attempts generalizing start with
  | zero =>
    rw [search] at before
    omega
  | succ attempts ih =>
    rw [search] at before
    split at before
    · rename_i occupied
      rcases Nat.eq_or_lt_of_le first with rfl | later
      · exact occupied
      · exact ih later before
    · omega

/-- The search stops early only at a free candidate. -/
theorem free_or_exhausted (attempts start : Nat) :
    candidate (search candidate taken attempts start) ∉ taken ∨
      search candidate taken attempts start = start + attempts := by
  induction attempts generalizing start with
  | zero => exact .inr rfl
  | succ attempts ih =>
    rw [search]
    split
    · rcases ih (start + 1) with free | exhausted
      · exact .inl free
      · right
        omega
    · rename_i free
      exact .inl free

theorem firstFree_not_mem (injective : Function.Injective candidate) (start : Nat) :
    candidate (firstFree candidate taken start) ∉ taken := by
  rcases @free_or_exhausted α _ candidate taken taken.length start with free | exhausted
  · exact free
  · intro occupied
    -- One candidate more than there are taken values would be taken.
    have tried : (List.range (taken.length + 1)).map (fun number => candidate (start + number)) ⊆
        taken := by
      intro value member
      obtain ⟨number, bound, rfl⟩ := List.mem_map.mp member
      have bound : number < taken.length + 1 := List.mem_range.mp bound
      rcases Nat.lt_or_ge number taken.length with earlier | last
      · have before : start + number < search candidate taken taken.length start := by omega
        exact taken_of_lt_search (Nat.le_add_right start number) before
      · have same : start + number = search candidate taken taken.length start := by omega
        rw [same]
        exact occupied
    have different : ((List.range (taken.length + 1)).map
        fun number => candidate (start + number)).Nodup := by
      refine List.nodup_range.map fun left right equal => ?_
      have := injective equal
      omega
    have bounded := (different.subperm tried).length_le
    rw [List.length_map, List.length_range] at bounded
    omega

end FirstFree
