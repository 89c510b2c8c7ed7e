import Mathlib.Data.List.Basic
import Mathlib.Data.List.Induction

/-!
# Keeping the winner

Challengers come one after the other, and whoever wins against the current champion takes its
place. `Contest.order_irrelevant_iff` tells when the order does not matter: exactly when one of
the challengers wins against all others. Pairs may all be decided and no such challenger exist,
when victories go round in a circle.
-/

namespace Contest

universe u

variable {α : Type u} (wins : α → α → Prop) [DecidableRel wins]

def meet (champion : Option α) (challenger : α) : Option α :=
  match champion with
  | none => some challenger
  | some champion => if wins challenger champion then some challenger else some champion

def champion (challengers : List α) : Option α := challengers.foldl (meet wins) none

variable {wins} {challengers : List α} {best challenger : α}

theorem champion_concat :
    champion wins (challengers ++ [challenger]) = meet wins (champion wins challengers) challenger :=
  List.foldl_concat _ _ _ _

theorem champion_mem (won : champion wins challengers = some best) : best ∈ challengers := by
  induction challengers using List.reverseRecOn generalizing best with
  | nil => cases won
  | append_singleton rest challenger ih =>
    rw [champion_concat] at won
    cases before : champion wins rest with
    | none =>
      rw [before] at won
      cases won
      exact List.mem_append_right _ List.mem_cons_self
    | some defender =>
      rw [before, meet] at won
      split at won
      · cases won
        exact List.mem_append_right _ List.mem_cons_self
      · cases won
        exact List.mem_append_left _ (ih before)

/-- Whoever wins against all others is the champion in the end. -/
theorem champion_of_beats (member : best ∈ challengers)
    (beats : ∀ other ∈ challengers, other ≠ best → wins best other ∧ ¬ wins other best) :
    champion wins challengers = some best := by
  induction challengers using List.reverseRecOn with
  | nil => exact absurd member List.not_mem_nil
  | append_singleton rest challenger ih =>
    rw [champion_concat]
    by_cases last : challenger = best
    · subst last
      cases before : champion wins rest with
      | none => rfl
      | some defender =>
        by_cases same : defender = challenger
        · rw [same, meet, ite_self]
        · exact if_pos
            (beats defender (List.mem_append_left _ (champion_mem before)) same).1
    · have earlier : best ∈ rest := by
        rcases List.mem_append.mp member with here | here
        · exact here
        · exact absurd (List.mem_singleton.mp here).symm last
      rw [ih earlier fun other here => beats other (List.mem_append_left _ here)]
      exact if_neg (beats challenger (List.mem_append_right _ List.mem_cons_self) last).2

/-- Whoever is the champion in every order does not lose against any other: not against the one
that comes last. -/
theorem not_wins_of_forall_perm
    (always : ∀ order : List α, order.Perm challengers → champion wins order = some best)
    (member : challenger ∈ challengers) (different : challenger ≠ best) :
    ¬ wins challenger best := by
  obtain ⟨before, after, rfl⟩ := List.append_of_mem member
  have last := always (before ++ after ++ [challenger]) (by
    rw [List.append_assoc]
    exact (List.perm_append_singleton challenger after).append_left before)
  rw [champion_concat] at last
  cases defended : champion wins (before ++ after) with
  | none =>
    rw [defended] at last
    exact absurd (Option.some.inj last) different
  | some defender =>
    rw [defended, meet] at last
    split at last
    · exact absurd (Option.some.inj last) different
    · next lost =>
      cases last
      exact lost

/-- When every pair is decided, the order does not matter exactly when there is nobody, or somebody
who wins against all others. -/
theorem order_irrelevant_iff (decided : ∀ one ∈ challengers, ∀ other ∈ challengers, one ≠ other →
      (wins one other ↔ ¬ wins other one)) :
    (∀ order order' : List α, order.Perm challengers → order'.Perm challengers →
      champion wins order = champion wins order') ↔
    challengers = [] ∨ ∃ best ∈ challengers, ∀ other ∈ challengers, other ≠ best →
      wins best other := by
  constructor
  · intro irrelevant
    cases final : champion wins challengers with
    | none =>
      left
      by_contra nonempty
      obtain ⟨rest, challenger, rfl⟩ := (List.eq_nil_or_concat challengers).resolve_left nonempty
      rw [List.concat_eq_append, champion_concat] at final
      unfold meet at final
      split at final
      · cases final
      · split at final <;> cases final
    | some best =>
      have member := champion_mem final
      refine .inr ⟨best, member, fun other here different => ?_⟩
      refine (decided best member other here (Ne.symm different)).mpr ?_
      exact not_wins_of_forall_perm
        (fun order perm => (irrelevant order challengers perm (.refl _)).trans final) here different
  · rintro (rfl | ⟨best, member, beats⟩) order order' perm perm'
    · rw [perm.eq_nil, perm'.eq_nil]
    · have always (order : List α) (perm : order.Perm challengers) :
          champion wins order = some best := by
        refine champion_of_beats (perm.mem_iff.mpr member) fun other here different => ?_
        have there := perm.mem_iff.mp here
        have won := beats other there different
        exact ⟨won, (decided best member other there (Ne.symm different)).mp won⟩
      rw [always order perm, always order' perm']

end Contest
