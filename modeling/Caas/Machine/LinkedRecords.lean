import Mathlib.Data.List.Chain
import Mathlib.Data.List.Nodup

/-!
# Sealed and linked records

Each record carries a seal, computed from what it says, and the seal of the record
before it. A list is intact when every seal is right and every link meets the record
before.

Two kinds of facts are packaged here: which sublists of an intact list are intact again
(`isChain_filter_iff`), and what taking a record out, putting one in or exchanging two
does to an intact list.
-/

universe u v

/-- How records are sealed: `digest` computes the seal of a record, where it can. -/
structure Sealing (Record : Type u) (Seal : Type v) where
  digest : Record → Option Seal
  stamp : Record → Seal
  previous : Record → Option Seal

namespace Sealing

variable {Record : Type u} {Seal : Type v} (sealing : Sealing Record Seal)

def Genuine (record : Record) : Prop := sealing.digest record = some (sealing.stamp record)

/-- The second record is linked to the first. -/
def Follows (earlier later : Record) : Prop :=
  sealing.previous later = some (sealing.stamp earlier)

/-- Every seal is right and every record is linked to the one before it. -/
def Intact (records : List Record) : Prop :=
  (∀ record ∈ records, sealing.Genuine record) ∧ records.IsChain sealing.Follows

variable {sealing}

theorem intact_nil : sealing.Intact [] := ⟨by simp, List.isChain_nil⟩

variable {records : List Record} {selected : Record → Bool}

theorem intact_append_singleton {record : Record} :
    sealing.Intact (records ++ [record]) ↔ sealing.Intact records ∧ sealing.Genuine record ∧
      ∀ last ∈ records.getLast?, sealing.Follows last record := by
  unfold Intact
  rw [List.isChain_append]
  simp only [List.mem_append, List.mem_singleton, List.isChain_singleton, List.head?_cons,
    Option.mem_some_iff]
  constructor
  · rintro ⟨genuine, chain, -, link⟩
    exact ⟨⟨fun other member => genuine other (.inl member), chain⟩, genuine record (.inr rfl),
      fun last final => link last final record rfl⟩
  · rintro ⟨⟨genuine, chain⟩, own, link⟩
    refine ⟨?_, chain, trivial, ?_⟩
    · rintro other (member | rfl)
      · exact genuine other member
      · exact own
    · rintro last final _ rfl
      exact link last final

/-- The link between two neighbours. -/
theorem Intact.follows {before after : List Record} {earlier later : Record}
    (intact : sealing.Intact records) (split : records = before ++ earlier :: later :: after) :
    sealing.Follows earlier later := by
  subst split
  exact List.isChain_iff_forall_rel_of_append_cons_cons.mp intact.2 rfl

theorem Intact.genuine (intact : sealing.Intact records) {record : Record}
    (member : record ∈ records) : sealing.Genuine record :=
  intact.1 record member

/-- Two records before the same record have the same seal. -/
theorem Follows.unique {earlier earlier' later : Record} (first : sealing.Follows earlier later)
    (second : sealing.Follows earlier' later) : sealing.stamp earlier = sealing.stamp earlier' :=
  Option.some.inj (first.symm.trans second)

/-! ## Selections -/

/-- The selected records stand next to each other. -/
def OneBlock (selected : Record → Bool) (records : List Record) : Prop :=
  ∃ before block after, records = before ++ block ++ after ∧
    (∀ record ∈ before, selected record = false) ∧ (∀ record ∈ block, selected record = true) ∧
    (∀ record ∈ after, selected record = false)

/-- Past the unselected records and then the selected ones, no selected one is left. -/
theorem oneBlock_iff : OneBlock selected records ↔
      ∀ record ∈ (records.dropWhile fun record => !selected record).dropWhile selected,
        selected record = false := by
  constructor
  · rintro ⟨before, block, after, rfl, outside, inside, outside'⟩ record member
    rw [List.append_assoc, List.dropWhile_append_of_pos (by simpa using outside)] at member
    rcases block with _ | ⟨first, block⟩
    · exact outside' record (List.dropWhile_sublist _ |>.subset
        (List.dropWhile_sublist _ |>.subset member))
    · rw [List.cons_append, List.dropWhile_cons_of_neg (by simp [inside first]),
        ← List.cons_append, List.dropWhile_append_of_pos inside] at member
      exact outside' record (List.dropWhile_sublist _ |>.subset member)
  · intro rest
    obtain ⟨tail, tailEq⟩ : ∃ tail, tail = records.dropWhile fun record => !selected record :=
      ⟨_, rfl⟩
    rw [← tailEq] at rest
    refine ⟨records.takeWhile fun record => !selected record, tail.takeWhile selected,
      tail.dropWhile selected, ?_, ?_, ?_, rest⟩
    · rw [List.append_assoc, List.takeWhile_append_dropWhile, tailEq,
        List.takeWhile_append_dropWhile]
    · intro record member
      simpa using List.all_eq_true.mp List.all_takeWhile record member
    · exact fun record member => List.all_eq_true.mp List.all_takeWhile record member

instance {selected : Record → Bool} {records : List Record} :
    Decidable (OneBlock selected records) := decidable_of_iff _ oneBlock_iff.symm

/-- Standing next to each other is a matter of what the selection sees. -/
theorem oneBlock_map {View : Type*} {selected : View → Bool} {view : Record → View} :
    OneBlock selected (records.map view) ↔
      OneBlock (fun record => selected (view record)) records := by
  simp [oneBlock_iff, List.dropWhile_map, Function.comp_def]

theorem filter_of_block {before block after : List Record}
    (outside : ∀ record ∈ before, selected record = false)
    (inside : ∀ record ∈ block, selected record = true)
    (outside' : ∀ record ∈ after, selected record = false) :
    (before ++ block ++ after).filter selected = block := by
  rw [List.filter_append, List.filter_append, List.filter_eq_nil_iff.mpr (by simpa using outside),
    List.filter_eq_self.mpr inside, List.filter_eq_nil_iff.mpr (by simpa using outside')]
  simp

/-- The selected records of a linked list are linked if they stand next to each other. -/
theorem isChain_filter_of_oneBlock (chain : records.IsChain sealing.Follows)
    (together : OneBlock selected records) : (records.filter selected).IsChain sealing.Follows := by
  obtain ⟨before, block, after, rfl, outside, inside, outside'⟩ := together
  rw [filter_of_block outside inside outside']
  exact chain.left_of_append.right_of_append

/-- Where selected records never share a seal with others, nothing else links them. -/
theorem oneBlock_of_isChain_filter (chain : records.IsChain sealing.Follows)
    (apart : ∀ record ∈ records, ∀ other ∈ records, selected record = true →
      selected other = false → sealing.stamp record ≠ sealing.stamp other)
    (linked : (records.filter selected).IsChain sealing.Follows) : OneBlock selected records := by
  induction records with
  | nil => exact ⟨[], [], [], rfl, by simp, by simp, by simp⟩
  | cons record rest ih =>
    have apartRest : ∀ record ∈ rest, ∀ other ∈ rest, selected record = true →
        selected other = false → sealing.stamp record ≠ sealing.stamp other :=
      fun one member other member' =>
        apart one (List.mem_cons_of_mem _ member) other (List.mem_cons_of_mem _ member')
    cases chosen : selected record with
    | false =>
      rw [List.filter_cons_of_neg (by simp [chosen])] at linked
      obtain ⟨before, block, after, rfl, outside, inside, outside'⟩ :=
        ih chain.tail apartRest linked
      refine ⟨record :: before, block, after, rfl, ?_, inside, outside'⟩
      intro other member
      rcases List.mem_cons.mp member with rfl | member
      · exact chosen
      · exact outside other member
    | true =>
      rw [List.filter_cons_of_pos chosen] at linked
      obtain ⟨before, block, after, rfl, outside, inside, outside'⟩ :=
        ih chain.tail apartRest linked.tail
      rw [filter_of_block outside inside outside'] at linked
      rcases block with _ | ⟨next, block⟩
      · refine ⟨[], [record], before ++ after, by simp, by simp, by simpa using chosen, ?_⟩
        intro other member
        rcases List.mem_append.mp member with member | member
        · exact outside other member
        · exact outside' other member
      · rcases List.eq_nil_or_concat before with rfl | ⟨start, last, rfl⟩
        · refine ⟨[], record :: next :: block, after, rfl, by simp, ?_, outside'⟩
          intro other member
          rcases List.mem_cons.mp member with rfl | member
          · exact chosen
          · exact inside other member
        · -- The record before `next` in the whole list is not selected, but `record` is.
          have direct : sealing.Follows record next := (List.isChain_cons_cons.mp linked).1
          have actual : sealing.Follows last next :=
            List.isChain_iff_forall_rel_of_append_cons_cons.mp chain
              (show _ = (record :: start) ++ last :: next :: (block ++ after) by simp)
          exact absurd (direct.unique actual)
            (apart record List.mem_cons_self last (by simp) chosen (outside last (by simp)))

/-- The selected records of a linked list are linked exactly when they stand next to each
other. -/
theorem isChain_filter_iff (chain : records.IsChain sealing.Follows)
    (apart : ∀ record ∈ records, ∀ other ∈ records, selected record = true →
      selected other = false → sealing.stamp record ≠ sealing.stamp other) :
    (records.filter selected).IsChain sealing.Follows ↔ OneBlock selected records :=
  ⟨oneBlock_of_isChain_filter chain apart, isChain_filter_of_oneBlock chain⟩

/-! ## Modifications -/

section Modifications

variable {before middle after : List Record} {earlier record later : Record}

/-- Taking out a record between two others is seen, unless it has the seal of the one
before it. -/
theorem not_intact_of_removed
    (intact : sealing.Intact (before ++ earlier :: record :: later :: after))
    (distinct : sealing.stamp earlier ≠ sealing.stamp record) :
    ¬ sealing.Intact (before ++ earlier :: later :: after) := by
  intro shortened
  have actual : sealing.Follows record later :=
    intact.follows (show _ = (before ++ [earlier]) ++ record :: later :: after by simp)
  exact distinct ((shortened.follows rfl).unique actual)

/-- A record put in between two others has the seal of the one before it, to which it
is linked. -/
theorem Intact.stamp_of_inserted (intact : sealing.Intact (before ++ earlier :: later :: after))
    (extended : sealing.Intact (before ++ earlier :: record :: later :: after)) :
    sealing.stamp record = sealing.stamp earlier ∧ sealing.Follows earlier record := by
  have next : sealing.Follows record later :=
    extended.follows (show _ = (before ++ [earlier]) ++ record :: later :: after by simp)
  exact ⟨next.unique (intact.follows rfl), extended.follows rfl⟩

/-- Two records that are both linked to nothing or have different predecessors cannot
change places. -/
theorem not_intact_of_exchanged
    (intact : sealing.Intact (before ++ earlier :: middle ++ later :: after))
    (rooted : ∀ first ∈ (before ++ [earlier]).head?, sealing.previous first = none)
    (nodup : ((before ++ earlier :: middle ++ later :: after).map sealing.stamp).Nodup) :
    ¬ sealing.Intact (before ++ later :: middle ++ earlier :: after) := by
  intro exchanged
  rcases List.eq_nil_or_concat before with rfl | ⟨start, last, rfl⟩
  · -- The first record now stands after another one.
    obtain ⟨init, previous, same⟩ : ∃ init previous, later :: middle = init ++ [previous] :=
      ⟨_, _, (List.dropLast_append_getLast (List.cons_ne_nil later middle)).symm⟩
    have link : sealing.Follows previous earlier :=
      exchanged.follows (show _ = init ++ previous :: earlier :: after by
        rw [List.nil_append, same]; simp)
    have root : sealing.previous earlier = none := rooted earlier rfl
    rw [Follows, root] at link
    cases link
  · -- `later` now follows what `earlier` followed, and has another predecessor before.
    obtain ⟨init, previous, same⟩ : ∃ init previous, earlier :: middle = init ++ [previous] :=
      ⟨_, _, (List.dropLast_append_getLast (List.cons_ne_nil earlier middle)).symm⟩
    have listed : start.concat last ++ earlier :: middle ++ later :: after =
        start ++ last :: (init ++ previous :: later :: after) := by
      rw [List.append_assoc, List.cons_append, ← List.cons_append, same]
      simp
    have actual : sealing.Follows previous later :=
      intact.follows (show _ = (start ++ last :: init) ++ previous :: later :: after by
        rw [listed]; simp)
    have link : sealing.Follows last later :=
      exchanged.follows (show _ = start ++ last :: later :: (middle ++ earlier :: after) by simp)
    rw [listed, List.map_append, List.map_cons] at nodup
    have fresh := (List.nodup_cons.mp (List.nodup_append.mp nodup).2.1).1
    exact fresh (List.mem_map.mpr ⟨previous, by simp, actual.unique link⟩)

end Modifications

end Sealing
