import Mathlib.Data.List.Basic

/-!
# Keys that are joined from parts

Keys are made of parts with a separator between them. Parts without the separator can be told
apart in a key, from the front and from the back.
-/

namespace Redis

variable {α : Type} {separator : α} {left left' right right' : List α}

/-- The parts before the first separator, and what follows. -/
theorem eq_of_append_cons_eq (same : left ++ separator :: right = left' ++ separator :: right')
    (absent : separator ∉ left) (absent' : separator ∉ left') :
    left = left' ∧ right = right' := by
  induction left generalizing left' with
  | nil =>
    cases left' with
    | nil => exact ⟨rfl, (List.cons.inj same).2⟩
    | cons head rest => exact absurd ((List.cons.inj same).1 ▸ List.mem_cons_self) absent'
  | cons head rest ih =>
    cases left' with
    | nil => exact absurd ((List.cons.inj same).1 ▸ List.mem_cons_self) absent
    | cons head' rest' =>
      obtain ⟨rfl, tails⟩ := List.cons.inj same
      obtain ⟨rfl, rights⟩ := ih tails (fun here => absent (List.mem_cons_of_mem _ here))
        fun here => absent' (List.mem_cons_of_mem _ here)
      exact ⟨rfl, rights⟩

/-- The parts after the last separator, and what precedes them. -/
theorem eq_of_append_cons_eq_right (same : left ++ separator :: right = left' ++ separator :: right')
    (absent : separator ∉ right) (absent' : separator ∉ right') :
    left = left' ∧ right = right' := by
  have reversed := congrArg List.reverse same
  simp only [List.reverse_append, List.reverse_cons, List.append_assoc,
    List.singleton_append] at reversed
  obtain ⟨rights, lefts⟩ := eq_of_append_cons_eq reversed
    (fun here => absent (List.mem_reverse.mp here))
    fun here => absent' (List.mem_reverse.mp here)
  exact ⟨List.reverse_injective lefts, List.reverse_injective rights⟩

end Redis
