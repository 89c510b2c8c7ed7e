import Mathlib.Order.Bounds.Basic

/-!
# A maximum whose writes are pending

A register for the greatest of a growing set of values. Whoever adds values writes the greatest
of them later, so between the two some values are covered by the register and the others by a
write that is due. When no write is due the register holds the maximum.
-/

universe u

namespace PendingMaximum

variable {α : Type u} [LinearOrder α]

/-- The register and the writes that are due keep the maximum of the values. A register that
holds something else was filled before, and all values are still covered by writes. -/
structure Tracks (values : Set α) (register : Option α) (due : Set α) : Prop where
  due_mem : due ⊆ values
  covered : ∀ value ∈ values,
    (∃ held ∈ register, value ≤ held) ∨ ∃ write ∈ due, value ≤ write
  attained : ∀ held ∈ register, held ∈ values ∨ ∀ value ∈ values, ∃ write ∈ due, value ≤ write

variable {values new due due' : Set α} {register : Option α}

/-- Values come in together with a write that covers them. -/
theorem Tracks.store (tracks : Tracks values register due) (keeps : due ⊆ due')
    (among : due' ⊆ due ∪ new) (covers : ∀ value ∈ new, ∃ write ∈ due', value ≤ write) :
    Tracks (values ∪ new) register due' where
  due_mem _ member := (among member).imp_left fun earlier => tracks.due_mem earlier
  covered := by
    rintro value (old | fresh)
    · refine (tracks.covered value old).imp_right ?_
      rintro ⟨write, pending, below⟩
      exact ⟨write, keeps pending, below⟩
    · exact .inr (covers value fresh)
  attained held here := by
    rcases tracks.attained held here with own | pending
    · exact .inl (.inl own)
    · right
      rintro value (old | fresh)
      · obtain ⟨write, member, below⟩ := pending value old
        exact ⟨write, keeps member, below⟩
      · exact covers value fresh

/-- A write that is due is made, and is not below what the register holds. -/
theorem Tracks.write (tracks : Tracks values register due) {written : α} (pending : written ∈ due)
    (later : ∀ held ∈ register, held ≤ written) (keeps : due ⊆ insert written due')
    (among : due' ⊆ due) : Tracks values (some written) due' where
  due_mem := among.trans tracks.due_mem
  covered value member := by
    rcases tracks.covered value member with ⟨held, here, below⟩ | ⟨write, own, below⟩
    · exact .inl ⟨written, rfl, below.trans (later held here)⟩
    · rcases keeps own with rfl | left
      · exact .inl ⟨write, rfl, below⟩
      · exact .inr ⟨write, left, below⟩
  attained := by
    rintro _ ⟨⟩
    exact .inl (tracks.due_mem pending)

/-- When no write is due, the register holds the maximum. -/
theorem Tracks.isGreatest (tracks : Tracks values register ∅) (some : values.Nonempty) :
    ∃ held ∈ register, IsGreatest values held := by
  obtain ⟨value, member⟩ := some
  have bounded (other : α) (here : other ∈ values) : ∃ held ∈ register, other ≤ held := by
    rcases tracks.covered other here with held | ⟨_, none, _⟩
    · exact held
    · cases none
  obtain ⟨held, here, _⟩ := bounded value member
  refine ⟨held, here, ?_, ?_⟩
  · rcases tracks.attained held here with own | pending
    · exact own
    · obtain ⟨_, none, _⟩ := pending value member
      cases none
  · intro other member
    obtain ⟨same, there, below⟩ := bounded other member
    cases here.symm.trans there
    exact below

/-- A register that holds the maximum keeps track of it. -/
theorem Tracks.of_isGreatest
    (latest : values.Nonempty → ∃ held ∈ register, IsGreatest values held) :
    Tracks values register ∅ where
  due_mem := Set.empty_subset values
  covered value member := by
    obtain ⟨held, here, greatest⟩ := latest ⟨value, member⟩
    exact .inl ⟨held, here, greatest.2 member⟩
  attained held here := by
    rcases values.eq_empty_or_nonempty with rfl | some
    · exact .inr fun value none => none.elim
    · obtain ⟨same, there, greatest⟩ := latest some
      cases here.symm.trans there
      exact .inl greatest.1

end PendingMaximum
