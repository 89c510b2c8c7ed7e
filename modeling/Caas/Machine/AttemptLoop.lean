import Mathlib.Data.List.Basic

/-!
# Loops over attempts

A loop that makes one attempt after another: what comes of an attempt ends the loop, or leads
to the next attempt with what is remembered. The outcomes of the attempts are given; a loop
that has used them up is still going on.

`counting` remembers the number of the attempt only, as a policy for retries does. Such a loop
ends at the first attempt with a verdict (`run_counting_eq_iff`), and it does end when some
number has a verdict for every outcome (`exists_run_counting`).
-/

universe u v w

namespace AttemptLoop

variable {State : Type u} {Outcome : Type v} {Result : Type w}

/-- The number of attempts, with what is remembered after them or the result. -/
def run (turn : State → Outcome → State ⊕ Result) (state : State) :
    List Outcome → Nat × (State ⊕ Result)
  | [] => (0, .inl state)
  | outcome :: later =>
    match turn state outcome with
    | .inl next => ((run turn next later).1 + 1, (run turn next later).2)
    | .inr result => (1, .inr result)

section Turns

variable {turn : State → Outcome → State ⊕ Result} {state next : State} {outcome : Outcome}
  {outcomes later : List Outcome} {result : Result}

theorem run_cons_inl (again : turn state outcome = .inl next) : run turn state (outcome :: later) =
      ((run turn next later).1 + 1, (run turn next later).2) := by
  rw [run, again]

theorem run_cons_inr (ends : turn state outcome = .inr result) :
    run turn state (outcome :: later) = (1, .inr result) := by
  rw [run, ends]

end Turns

section Counting

variable (verdict : Nat → Outcome → Option Result)

/-- The turn that goes on to the next number unless there is a verdict. -/
def counting (number : Nat) (outcome : Outcome) : Nat ⊕ Result :=
  match verdict number outcome with
  | none => .inl (number + 1)
  | some result => .inr result

variable {verdict} {start bound calls : Nat} {outcome : Outcome} {outcomes : List Outcome}
  {result : Result}

theorem counting_of_none (none : verdict start outcome = none) :
    counting verdict start outcome = .inl (start + 1) := by
  rw [counting, none]

theorem counting_of_some (decided : verdict start outcome = some result) :
    counting verdict start outcome = .inr result := by
  rw [counting, decided]

/-- The loop ends with the first attempt that has a verdict. -/
theorem run_counting_eq_iff : run (counting verdict) start outcomes = (calls, .inr result) ↔
      ∃ made, calls = made + 1 ∧
        (∃ outcome ∈ outcomes[made]?, verdict (start + made) outcome = some result) ∧
        ∀ earlier < made, ∀ outcome ∈ outcomes[earlier]?,
          verdict (start + earlier) outcome = none := by
  induction outcomes generalizing start calls with
  | nil => simp [run]
  | cons first later ih =>
    have shift (number : Nat) : start + 1 + number = start + (number + 1) := by omega
    cases decided : verdict start first with
    | none =>
      rw [run_cons_inl (counting_of_none decided)]
      constructor
      · intro ended
        obtain ⟨rfl, same⟩ := Prod.mk.inj ended
        obtain ⟨made, count, last, before⟩ := ih.mp (Prod.ext rfl same)
        refine ⟨made + 1, congrArg (· + 1) count, by rwa [shift] at last, ?_⟩
        rintro (_ | earlier) below outcome here
        · cases here
          exact decided
        · rw [← shift]
          exact before earlier (Nat.lt_of_succ_lt_succ below) outcome here
      · rintro ⟨_ | made, rfl, ⟨outcome, here, last⟩, before⟩
        · cases here
          rw [Nat.add_zero, decided] at last
          cases last
        · have ended : run (counting verdict) (start + 1) later = (made + 1, .inr result) := by
            refine ih.mpr ⟨made, rfl, ⟨outcome, here, by rwa [shift]⟩, ?_⟩
            intro earlier below outcome here
            rw [shift]
            exact before (earlier + 1) (Nat.succ_lt_succ below) outcome here
          rw [ended]
    | some result' =>
      rw [run_cons_inr (counting_of_some decided)]
      constructor
      · intro ended
        cases ended
        exact ⟨0, rfl, ⟨first, rfl, decided⟩, fun earlier below => absurd below (by omega)⟩
      · rintro ⟨_ | made, rfl, ⟨outcome, here, last⟩, before⟩
        · cases here
          rw [Nat.add_zero, decided] at last
          cases last
          rfl
        · have none := before 0 (Nat.succ_pos made) first rfl
          rw [Nat.add_zero, decided] at none
          cases none

/-- The same, over the first outcomes of a stream. -/
theorem run_counting_range_iff {stream : Nat → Outcome} {count : Nat} :
    run (counting verdict) start ((List.range count).map stream) = (calls, .inr result) ↔
      ∃ made < count, calls = made + 1 ∧ verdict (start + made) (stream made) = some result ∧
        ∀ earlier < made, verdict (start + earlier) (stream earlier) = none := by
  have entry (number : Nat) (inside : number < count) :
      ((List.range count).map stream)[number]? = some (stream number) := by
    rw [List.getElem?_map, List.getElem?_range inside, Option.map_some]
  rw [run_counting_eq_iff]
  constructor
  · rintro ⟨made, rfl, ⟨outcome, here, last⟩, before⟩
    have inside : made < count := by
      have short := (List.getElem?_eq_some_iff.mp here).1
      rwa [List.length_map, List.length_range] at short
    rw [entry made inside] at here
    cases here
    exact ⟨made, inside, rfl, last, fun earlier below =>
      before earlier below _ (entry earlier (Nat.lt_trans below inside))⟩
  · rintro ⟨made, inside, rfl, last, before⟩
    refine ⟨made, rfl, ⟨stream made, entry made inside, last⟩, ?_⟩
    intro earlier below outcome here
    rw [entry earlier (Nat.lt_trans below inside)] at here
    cases here
    exact before earlier below

/-- A number with a verdict for every outcome bounds the attempts. -/
theorem exists_run_counting (final : ∀ outcome, (verdict (start + bound) outcome).isSome = true)
    (enough : bound < outcomes.length) :
    ∃ calls ≤ bound + 1, ∃ result, run (counting verdict) start outcomes = (calls, .inr result) := by
  induction outcomes generalizing start bound with
  | nil => exact absurd enough (Nat.not_lt_zero bound)
  | cons first later ih =>
    cases decided : verdict start first with
    | some result =>
      exact ⟨1, Nat.le_add_left 1 bound, result, run_cons_inr (counting_of_some decided)⟩
    | none =>
      cases bound with
      | zero =>
        have last := final first
        rw [Nat.add_zero, decided] at last
        cases last
      | succ bound =>
        obtain ⟨calls, few, result, ended⟩ := @ih (start + 1) bound
          (by rwa [Nat.add_right_comm, Nat.add_assoc]) (Nat.lt_of_succ_lt_succ enough)
        refine ⟨calls + 1, Nat.succ_le_succ few, result, ?_⟩
        rw [run_cons_inl (counting_of_none decided), ended]

end Counting

end AttemptLoop
