import Caas.Machine.Transducer

/-!
# Procedures with effects

The body of a method that changes the state of its object and does things to the world
around it is a `Procedure`: a new state, and the effects in the order in which they are done.
A body that calls other methods is `inOrder` of them.

What a body does is told by a relation between the state before, the state after and the
effects. A relation that allows doing nothing, and doing one thing after another, is a
`Course`; then a body keeps to it when the methods that it calls do.

A procedure on a larger state refines one on the part that is viewed when it changes the part
the same way, with the same effects. A step that changes only what is not viewed may stand
anywhere.
-/

universe u

abbrev Procedure (State Effect : Type u) : Type u := State → State × List Effect

namespace Procedure

variable {State Effect : Type u}

def skip : Procedure State Effect := fun state => (state, [])

def edit (change : State → State) : Procedure State Effect := fun state => (change state, [])

def does (effect : Effect) : Procedure State Effect := fun state => (state, [effect])

def doesWhen (wanted : Bool) (effect : Effect) : Procedure State Effect :=
  if wanted then does effect else skip

def inOrder : List (Procedure State Effect) → Procedure State Effect
  | [] => skip
  | procedure :: rest => fun state =>
    let (after, effects) := procedure state
    let (final, later) := inOrder rest after
    (final, effects ++ later)

theorem inOrder_cons (procedure : Procedure State Effect) (rest : List (Procedure State Effect))
    (state : State) : inOrder (procedure :: rest) state = ((inOrder rest (procedure state).1).1,
        (procedure state).2 ++ (inOrder rest (procedure state).1).2) :=
  rfl

theorem inOrder_pair (first : Procedure State Effect) (rest : List (Procedure State Effect)) :
    inOrder [first, inOrder rest] = inOrder (first :: rest) := by
  funext state
  simp [inOrder, skip]

/-- A relation that holds of doing nothing, and of one thing after another. -/
structure Course (Allowed : State → State → List Effect → Prop) : Prop where
  nothing : ∀ state, Allowed state state []
  sequel : ∀ {state after final effects later}, Allowed state after effects →
    Allowed after final later → Allowed state final (effects ++ later)

/-- The procedure keeps to the relation, from every state. -/
def Keeps (Allowed : State → State → List Effect → Prop) (procedure : Procedure State Effect) :
    Prop :=
  ∀ state, Allowed state (procedure state).1 (procedure state).2

variable {Allowed : State → State → List Effect → Prop}

theorem Course.keeps_skip (course : Course Allowed) : Keeps Allowed skip := course.nothing

theorem Course.keeps_doesWhen (course : Course Allowed) {wanted : Bool} {effect : Effect}
    (keeps : ∀ state, Allowed state state [effect]) : Keeps Allowed (doesWhen wanted effect) := by
  cases wanted with
  | true => exact keeps
  | false => exact course.nothing

theorem Course.keeps_nil (course : Course Allowed) : Keeps Allowed (inOrder []) := course.nothing

/-- A body keeps to what the methods that it calls keep to. -/
theorem Course.keeps_cons (course : Course Allowed) {procedure : Procedure State Effect}
    {rest : List (Procedure State Effect)} (first : Keeps Allowed procedure)
    (later : Keeps Allowed (inOrder rest)) : Keeps Allowed (inOrder (procedure :: rest)) :=
  fun state => course.sequel (first state) (later (procedure state).1)

def Without (kind : Effect → Bool) (_before _after : State) (effects : List Effect) : Prop :=
  ∀ effect ∈ effects, kind effect = false

variable {kind : Effect → Bool}

theorem without_course (kind : Effect → Bool) :
    Course (Without kind : State → State → List Effect → Prop) where
  nothing _ := List.forall_mem_nil _
  sequel first later := List.forall_mem_append.mpr ⟨first, later⟩

theorem without_does {effect : Effect} (other : kind effect = false) :
    Keeps (Without kind) (does effect : Procedure State Effect) :=
  fun _ => List.forall_mem_singleton.mpr other

theorem without_edit (change : State → State) :
    Keeps (Without kind) (edit change : Procedure State Effect) :=
  fun _ => List.forall_mem_nil _

section Refinement

variable {Larger : Type u} {view : Larger → State}

/-- The part that is viewed becomes what the procedure makes of it, with the same effects. -/
def Refines (view : Larger → State) (larger : Procedure Larger Effect)
    (procedure : Procedure State Effect) : Prop :=
  ∀ state, view (larger state).1 = (procedure (view state)).1 ∧
    (larger state).2 = (procedure (view state)).2

theorem refines_skip : Refines view (skip : Procedure Larger Effect) skip :=
  fun _ => ⟨rfl, rfl⟩

theorem refines_nil : Refines view (inOrder [] : Procedure Larger Effect) (inOrder []) :=
  refines_skip

/-- A body refines a body when the methods that it calls do. -/
theorem refines_cons {larger : Procedure Larger Effect} {procedure : Procedure State Effect}
    {laterLarger : List (Procedure Larger Effect)} {later : List (Procedure State Effect)}
    (first : Refines view larger procedure)
    (rest : Refines view (inOrder laterLarger) (inOrder later)) :
    Refines view (inOrder (larger :: laterLarger)) (inOrder (procedure :: later)) := by
  intro state
  have next := rest (larger state).1
  rw [(first state).1] at next
  exact ⟨next.1, congrArg₂ _ (first state).2 next.2⟩

/-- A change that is not viewed is not seen. -/
theorem refines_hidden {change : Larger → Larger}
    (hidden : ∀ state, view (change state) = view state)
    {laterLarger : List (Procedure Larger Effect)} {procedure : Procedure State Effect}
    (rest : Refines view (inOrder laterLarger) procedure) :
    Refines view (inOrder (edit change :: laterLarger)) procedure := by
  intro state
  have next := rest (change state)
  rw [hidden] at next
  exact next

end Refinement

end Procedure
