import Mathlib.Data.List.Basic

/-!
# Deterministic machines with outputs

A `Transducer` consumes one input at a time from an explicit state and answers
each of them. Five arguments about its runs are packaged here, each reducing a
statement about every run to statements about one step:

- `Transducer.Admits.invariant`, for what holds in every state of a run, and
  `Transducer.forall_prefix_iff_admits`, when the guard is exactly what a step needs,
- `Transducer.simulation`, for two machines that answer alike,
- `Transducer.balance`, for what is the difference of two counts of steps,
- `Transducer.recording`, for what depends on earlier steps of the run,
- `Transducer.noninterference`, for two runs of one machine that differ only in
  inputs an observer does not own.

A guard restricts the runs to those whose every step meets a condition on the
state before it; the unrestricted runs are those guarded by `True`.
-/

universe u v

/-- A machine that answers every input. -/
structure Transducer (State Input Output : Type u) where
  step : State → Input → State × Output

namespace Transducer

variable {State Input Output : Type u} (machine : Transducer State Input Output)

def run (state : State) (inputs : List Input) : State :=
  inputs.foldl (fun current input => (machine.step current input).1) state

/-- The inputs of a run, each with its answer. -/
def trace (state : State) : List Input → List (Input × Output)
  | [] => []
  | input :: rest =>
    (input, (machine.step state input).2) :: trace (machine.step state input).1 rest

/-- The answers of a run. -/
def outputs (state : State) (inputs : List Input) : List Output :=
  (machine.trace state inputs).map Prod.snd

/-- Every step of the run meets `guard` in the state before it. -/
def Admits (guard : State → Input → Prop) (state : State) : List Input → Prop
  | [] => True
  | input :: rest => guard state input ∧ Admits guard (machine.step state input).1 rest

instance decidableAdmits {guard : State → Input → Prop}
    [decided : ∀ state input, Decidable (guard state input)] :
    (state : State) → (inputs : List Input) → Decidable (machine.Admits guard state inputs)
  | _, [] => .isTrue trivial
  | state, input :: rest =>
    @instDecidableAnd _ _ (decided state input) (decidableAdmits (machine.step state input).1 rest)

variable {machine}

@[simp] theorem run_nil (state : State) : machine.run state [] = state := rfl

@[simp] theorem run_cons (state : State) (input : Input) (rest : List Input) :
    machine.run state (input :: rest) = machine.run (machine.step state input).1 rest := rfl

theorem run_append (state : State) (inputs later : List Input) :
    machine.run state (inputs ++ later) = machine.run (machine.run state inputs) later :=
  List.foldl_append

@[simp] theorem outputs_cons (state : State) (input : Input) (rest : List Input) :
    machine.outputs state (input :: rest) =
      (machine.step state input).2 :: machine.outputs (machine.step state input).1 rest := rfl

variable {state : State} {always : Input → Prop} {inputs : List Input}

/-- A guard that every input meets on its own joins one that depends on the state. -/
theorem Admits.and_of_forall {guard : State → Input → Prop}
    (admits : machine.Admits guard state inputs) (each : ∀ input ∈ inputs, always input) :
    machine.Admits (fun current input => guard current input ∧ always input) state inputs := by
  induction inputs generalizing state with
  | nil => trivial
  | cons input rest ih =>
    exact ⟨⟨admits.1, each input List.mem_cons_self⟩,
      ih admits.2 fun later member => each later (List.mem_cons_of_mem _ member)⟩

/-- A run that meets two guards meets both at every step. -/
theorem Admits.and {guard guard' : State → Input → Prop}
    (admits : machine.Admits guard state inputs) (admits' : machine.Admits guard' state inputs) :
    machine.Admits (fun current input => guard current input ∧ guard' current input)
      state inputs := by
  induction inputs generalizing state with
  | nil => trivial
  | cons input rest ih => exact ⟨⟨admits.1, admits'.1⟩, ih admits.2 admits'.2⟩

/-- Every run meets a guard that is always met. -/
theorem admits_of_forall {guard : State → Input → Prop}
    (always : ∀ state input, guard state input) (state : State) (inputs : List Input) :
    machine.Admits guard state inputs := by
  induction inputs generalizing state with
  | nil => trivial
  | cons input rest ih => exact ⟨always state input, ih _⟩

/-- A run meets what each of its inputs meets. -/
theorem admits_of_mem (each : ∀ input ∈ inputs, always input) :
    machine.Admits (fun _ input => always input) state inputs := by
  induction inputs generalizing state with
  | nil => trivial
  | cons input rest ih =>
    exact ⟨each input List.mem_cons_self,
      ih fun later member => each later (List.mem_cons_of_mem _ member)⟩

theorem admits_iff_forall_mem :
    machine.Admits (fun _ input => always input) state inputs ↔
      ∀ input ∈ inputs, always input := by
  refine ⟨fun admits => ?_, admits_of_mem⟩
  induction inputs generalizing state with
  | nil => exact fun _ none => absurd none List.not_mem_nil
  | cons input rest ih => exact List.forall_mem_cons.mpr ⟨admits.1, ih admits.2⟩

/-- A guarded run is a guarded run on from the middle of it. -/
theorem admits_append {guard : State → Input → Prop} {later : List Input} :
    machine.Admits guard state (inputs ++ later) ↔ machine.Admits guard state inputs ∧
        machine.Admits guard (machine.run state inputs) later := by
  induction inputs generalizing state with
  | nil => exact ⟨fun admits => ⟨trivial, admits⟩, And.right⟩
  | cons input rest ih => exact (and_congr_right fun _ => ih).trans and_assoc.symm

/-- An invariant that every guarded step preserves holds after every guarded run. -/
theorem Admits.invariant {guard : State → Input → Prop} {Inv : State → Prop}
    (preserved : ∀ state input, Inv state → guard state input → Inv (machine.step state input).1)
    {state : State} {inputs : List Input} (admits : machine.Admits guard state inputs)
    (holds : Inv state) : Inv (machine.run state inputs) := by
  induction inputs generalizing state with
  | nil => exact holds
  | cons input rest ih => exact ih admits.2 (preserved state input holds admits.1)

/-- An invariant that every step preserves holds after every run. -/
theorem run_invariant {Inv : State → Prop}
    (preserved : ∀ state input, Inv state → Inv (machine.step state input).1)
    (state : State) (inputs : List Input) (holds : Inv state) : Inv (machine.run state inputs) :=
  (admits_of_forall (fun _ _ => trivial) state inputs).invariant
    (fun state input holds (_ : True) => preserved state input holds) holds

/-- Two guards that agree in the states of a run, under an invariant and an assumption
on its steps, admit the same. -/
theorem Admits.congr {assumed guard guard' : State → Input → Prop} {Inv : State → Prop}
    (preserved : ∀ state input, Inv state → assumed state input → Inv (machine.step state input).1)
    (exact : ∀ state input, Inv state → assumed state input →
      (guard state input ↔ guard' state input))
    {state : State} {inputs : List Input} (assumes : machine.Admits assumed state inputs)
    (holds : Inv state) :
    machine.Admits guard state inputs ↔ machine.Admits guard' state inputs := by
  induction inputs generalizing state with
  | nil => exact Iff.rfl
  | cons input rest ih =>
    exact and_congr (exact state input holds assumes.1)
      (ih assumes.2 (preserved state input holds assumes.1))

/-- What a guarded step implies under the invariant is a guard that the run meets too. -/
theorem Admits.imp {guard guard' : State → Input → Prop} {Inv : State → Prop}
    (preserved : ∀ state input, Inv state → guard state input → Inv (machine.step state input).1)
    (implies : ∀ state input, Inv state → guard state input → guard' state input)
    {state : State} {inputs : List Input} (admits : machine.Admits guard state inputs)
    (holds : Inv state) : machine.Admits guard' state inputs := by
  induction inputs generalizing state with
  | nil => trivial
  | cons input rest ih =>
    exact ⟨implies state input holds admits.1,
      ih admits.2 (preserved state input holds admits.1)⟩

/-- The same, from what guarded runs keep. -/
theorem Admits.imp_of_run {guard guard' : State → Input → Prop} {Inv : State → Prop}
    (kept : ∀ state inputs, machine.Admits guard state inputs → Inv state →
      Inv (machine.run state inputs))
    (implies : ∀ state input, Inv state → guard state input → guard' state input)
    (admits : machine.Admits guard state inputs) (holds : Inv state) :
    machine.Admits guard' state inputs :=
  admits.imp (fun state input holds guarded => kept state [input] ⟨guarded, trivial⟩ holds) implies
    holds

/-- When, in the states with `Aux` and for the inputs with `assumed`, the guard is
exactly what keeps `Inv` over one step, `Inv` holds in every state of a run exactly
when the run meets the guard. -/
theorem forall_prefix_iff_admits_of {assumed guard : State → Input → Prop} {Aux Inv : State → Prop}
    (preserved : ∀ state input, Aux state → assumed state input → Aux (machine.step state input).1)
    (exact : ∀ state input, Aux state → assumed state input → Inv state →
      (Inv (machine.step state input).1 ↔ guard state input))
    {state : State} {inputs : List Input} (assumes : machine.Admits assumed state inputs)
    (aux : Aux state) (holds : Inv state) :
    (∀ count, Inv (machine.run state (inputs.take count))) ↔ machine.Admits guard state inputs := by
  induction inputs generalizing state with
  | nil => simpa [Admits] using holds
  | cons input rest ih =>
    have later := preserved state input aux assumes.1
    constructor
    · intro always
      have next : Inv (machine.step state input).1 := by simpa using always 1
      refine ⟨(exact state input aux assumes.1 holds).mp next,
        (ih assumes.2 later next).mp fun count => ?_⟩
      simpa using always (count + 1)
    · rintro ⟨guarded, admits⟩ count
      have next := (exact state input aux assumes.1 holds).mpr guarded
      cases count with
      | zero => simpa using holds
      | succ count => simpa using (ih assumes.2 later next).mpr admits count

/-- When the guard is exactly what keeps the invariant over one step, the invariant
holds in every state of a run exactly when the run meets the guard. -/
theorem forall_prefix_iff_admits {guard : State → Input → Prop} {Inv : State → Prop}
    (exact : ∀ state input, Inv state → (Inv (machine.step state input).1 ↔ guard state input))
    {state : State} {inputs : List Input} (holds : Inv state) :
    (∀ count, Inv (machine.run state (inputs.take count))) ↔ machine.Admits guard state inputs :=
  forall_prefix_iff_admits_of (fun _ _ (_ : True) (_ : True) => trivial)
    (fun state input _ _ => exact state input)
    (admits_of_forall (fun _ _ => trivial) state inputs) trivial holds

section Counting

/-- How many steps of a run meet a condition on the state before them. -/
def count (machine : Transducer State Input Output) (counted : State → Input → Bool)
    (state : State) : List Input → Nat
  | [] => 0
  | input :: rest =>
    (if counted state input then 1 else 0) + count machine counted (machine.step state input).1 rest

/-- A measure that some steps raise by one, some lower by one and others keep is the
difference of their numbers. -/
theorem balance {measure : State → Int} {raises lowers : State → Input → Bool}
    (each : ∀ state input, measure (machine.step state input).1 =
      measure state + (if raises state input then 1 else 0) -
        (if lowers state input then 1 else 0))
    (state : State) (inputs : List Input) : measure (machine.run state inputs) =
      measure state + machine.count raises state inputs - machine.count lowers state inputs := by
  induction inputs generalizing state with
  | nil => simp [count]
  | cons input rest ih =>
    rw [run_cons, ih, each, count, count]
    split <;> split <;> omega

end Counting

section Recording

variable {Note : Type u}

/-- The machine with a history of what its steps leave to be told. -/
def recording (machine : Transducer State Input Output) (note : Input → Output → Option Note) :
    Transducer (State × List Note) Input Output where
  step current input :=
    let (after, output) := machine.step current.1 input
    ((after, current.2 ++ (note input output).toList), output)

variable {note : Input → Output → Option Note}

/-- The history changes nothing about what a run admits. -/
theorem admits_recording {guard : State → Input → Prop} {state : State} {past : List Note}
    {inputs : List Input} :
    (machine.recording note).Admits (fun current => guard current.1) (state, past) inputs ↔
      machine.Admits guard state inputs := by
  induction inputs generalizing state past with
  | nil => exact Iff.rfl
  | cons input rest ih => exact and_congr Iff.rfl ih

def latest {Told : Type v} (tell : Note → Option Told) (past : List Note) : Option Told :=
  past.reverse.findSome? tell

theorem latest_append {Told : Type v} (tell : Note → Option Told) (past : List Note)
    (new : Option Note) :
    latest tell (past ++ new.toList) = (new.bind tell).or (latest tell past) := by
  cases new with
  | none => simp [latest]
  | some note =>
    simp only [latest, Option.toList_some, List.reverse_append, List.reverse_singleton,
      List.singleton_append, List.findSome?_cons, Option.bind_some]
    cases tell note <;> rfl

theorem latest_concat {Told : Type v} (tell : Note → Option Told) (past : List Note) (note : Note) :
    latest tell (past ++ [note]) = (tell note).or (latest tell past) :=
  latest_append tell past (some note)

end Recording

section Simulation

variable {State' Output' : Type u} {machine' : Transducer State' Input Output'}

/-- Two machines related by `related` run in step over inputs that meet `guard`,
and give outputs that look the same through `observe` and `observe'`. -/
theorem simulation {Observation : Type u} {guard : Input → Prop}
    {related : State → State' → Prop} {observe : Output → Observation}
    {observe' : Output' → Observation}
    (step : ∀ state state' input, related state state' → guard input →
      related (machine.step state input).1 (machine'.step state' input).1 ∧
        observe (machine.step state input).2 = observe' (machine'.step state' input).2)
    {state : State} {state' : State'} {inputs : List Input} (start : related state state')
    (guarded : ∀ input ∈ inputs, guard input) :
    related (machine.run state inputs) (machine'.run state' inputs) ∧
      (machine.outputs state inputs).map observe =
        (machine'.outputs state' inputs).map observe' := by
  induction inputs generalizing state state' with
  | nil => exact ⟨start, rfl⟩
  | cons input rest ih =>
    obtain ⟨next, same⟩ := step state state' input start (guarded input List.mem_cons_self)
    obtain ⟨final, answers⟩ := ih next fun later member =>
      guarded later (List.mem_cons_of_mem _ member)
    refine ⟨final, ?_⟩
    simp [same, answers]

end Simulation

section Noninterference

variable {guard : State → Input → Prop} (agree : State → State → Prop) (observed : Input → Bool)

/-- The unwinding rule. If inputs outside `observed` keep a state in agreement with
itself, and inputs inside it answer alike in agreeing states and keep them in
agreement, then two guarded runs with the same observed inputs answer those inputs
alike. -/
theorem noninterference
    (respects : ∀ state other input, observed input = false → guard state input →
      agree state other → agree (machine.step state input).1 other)
    (symmetric : ∀ state other, agree state other → agree other state)
    (consistent : ∀ state other input, observed input = true → guard state input →
      guard other input → agree state other →
        agree (machine.step state input).1 (machine.step other input).1 ∧
          (machine.step state input).2 = (machine.step other input).2)
    {state other : State} {inputs inputs' : List Input} (start : agree state other)
    (admits : machine.Admits guard state inputs) (admits' : machine.Admits guard other inputs')
    (same : inputs.filter observed = inputs'.filter observed) :
    (machine.trace state inputs).filter (fun entry => observed entry.1) =
      (machine.trace other inputs').filter (fun entry => observed entry.1) := by
  induction inputs generalizing state other inputs' with
  | nil =>
    -- Only unobserved inputs remain on the other side.
    induction inputs' generalizing other with
    | nil => rfl
    | cons input rest ih =>
      have hidden : observed input = false := by
        by_contra visible
        simp [Bool.not_eq_false] at visible
        simp [visible] at same
      have next : agree state (machine.step other input).1 :=
        symmetric _ _ (respects _ _ _ hidden admits'.1 (symmetric _ _ start))
      have remaining : [].filter observed = rest.filter observed := by simpa [hidden] using same
      simpa [trace, hidden] using ih next admits'.2 remaining
  | cons input rest ih =>
    by_cases visible : observed input = true
    · -- Skip the other side's unobserved inputs up to its copy of `input`.
      induction inputs' generalizing other with
      | nil => simp [visible] at same
      | cons input' rest' ih' =>
        by_cases visible' : observed input' = true
        · simp only [List.filter_cons, visible, visible', if_true, List.cons.injEq] at same
          obtain ⟨rfl, remaining⟩ := same
          obtain ⟨next, answers⟩ := consistent _ _ _ visible admits.1 admits'.1 start
          simp only [trace, List.filter_cons, visible, if_true, answers]
          rw [ih next admits.2 admits'.2 remaining]
        · have hidden : observed input' = false := by simpa using visible'
          have next : agree state (machine.step other input').1 :=
            symmetric _ _ (respects _ _ _ hidden admits'.1 (symmetric _ _ start))
          have remaining : (input :: rest).filter observed = rest'.filter observed := by
            simpa [hidden] using same
          rw [ih' next admits'.2 remaining]
          simp [trace, hidden]
    · have hidden : observed input = false := by simpa using visible
      have next := respects _ _ _ hidden admits.1 start
      have remaining : rest.filter observed = inputs'.filter observed := by
        simpa [hidden] using same
      rw [← ih next admits.2 admits' remaining]
      simp [trace, hidden]

end Noninterference

end Transducer
