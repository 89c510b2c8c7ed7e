import Mathlib.Init

/-!
# Synchronous code that throws

A function body reads and writes the state of its object and may throw. A throw
ends the body and keeps what was written before it, so the state comes back with
the error as well as with a value.

`run` and its equations evaluate a body from a state; nothing here is specific to
one state or one kind of error.
-/

namespace Js

universe u

/-- A function body over a state of type `σ` with errors of type `ε`. -/
def Throwing (σ ε α : Type u) : Type u := σ → σ × Except ε α

namespace Throwing

variable {σ ε α β : Type u}

/-- The state a body leaves behind, with its value or its error. -/
def run (body : Throwing σ ε α) (state : σ) : σ × Except ε α := body state

instance : Monad (Throwing σ ε) where
  pure value := fun state => (state, .ok value)
  bind body next := fun state =>
    match body.run state with
    | (after, .ok value) => (next value).run after
    | (after, .error error) => (after, .error error)

def reads (view : σ → α) : Throwing σ ε α := fun state => (state, .ok (view state))

def writes (edit : σ → σ) : Throwing σ ε PUnit := fun state => (edit state, .ok ⟨⟩)

def throws (error : ε) : Throwing σ ε α := fun state => (state, .error error)

@[simp] theorem run_pure (value : α) (state : σ) :
    (pure value : Throwing σ ε α).run state = (state, .ok value) := rfl

@[simp] theorem run_reads (view : σ → α) (state : σ) :
    (reads view : Throwing σ ε α).run state = (state, .ok (view state)) := rfl

@[simp] theorem run_writes (edit : σ → σ) (state : σ) :
    (writes edit : Throwing σ ε PUnit).run state = (edit state, .ok ⟨⟩) := rfl

@[simp] theorem run_throws (error : ε) (state : σ) :
    (throws error : Throwing σ ε α).run state = (state, .error error) := rfl

theorem run_bind (body : Throwing σ ε α) (next : α → Throwing σ ε β) (state : σ) :
    (body >>= next).run state =
      match body.run state with
      | (after, .ok value) => (next value).run after
      | (after, .error error) => (after, .error error) := rfl

/-- A body that returns its value wrapped leaves the state of the body. -/
theorem run_wrapped (body : Throwing σ ε α) (wrap : α → β) (state : σ) :
    (do return wrap (← body) : Throwing σ ε β).run state =
      ((body.run state).1, (body.run state).2.map wrap) := by
  rw [run_bind]
  rcases body.run state with ⟨after, _ | value⟩ <;> rfl

end Throwing

end Js
