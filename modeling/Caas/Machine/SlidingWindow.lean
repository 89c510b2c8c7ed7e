import Mathlib.Algebra.Order.Group.Defs
import Mathlib.Algebra.Order.Sub.Basic
import Mathlib.Order.Basic
import Mathlib.Data.List.Basic

/-!
# Sliding windows over times

A limiter that keeps the times of its grants, and drops the old ones whenever it is
called, keeps as much as a window of any position needs. `Covers` is the invariant: what
is recent among the kept times is what is recent among all of them. `Bounded` is what
the limiter is for.
-/

namespace SlidingWindow

universe u

variable {τ : Type u} [LinearOrder τ] [AddCommGroup τ] (span : τ)

/-- The times that lie less than `span` before `now`, or after it. -/
def recent (now : τ) (times : List τ) : List τ := times.filter fun time => now - span < time

/-- The times in the window of length `span` that ends with `stop`. -/
def window (stop : τ) (times : List τ) : List τ :=
  times.filter fun time => stop - span < time ∧ time ≤ stop

/-- What is recent among the granted times has been kept. -/
def Covers (now : τ) (kept granted : List τ) : Prop :=
  recent span now kept = recent span now granted

/-- No window has more than `limit` of the times. -/
def Bounded (limit : Nat) (times : List τ) : Prop :=
  ∀ stop, (window span stop times).length ≤ limit

variable {span} {now later stop time : τ} {kept granted times : List τ} {limit : Nat}

@[simp] theorem recent_append (times more : List τ) :
    recent span now (times ++ more) = recent span now times ++ recent span now more :=
  List.filter_append ..

@[simp] theorem window_append (times more : List τ) :
    window span stop (times ++ more) = window span stop times ++ window span stop more :=
  List.filter_append ..

theorem Covers.push (covers : Covers span now kept granted) (time : τ) :
    Covers span now (kept ++ [time]) (granted ++ [time]) := by
  unfold Covers at covers ⊢
  rw [recent_append, recent_append, covers]

theorem bounded_nil (limit : Nat) : Bounded span limit ([] : List τ) := fun _ => Nat.zero_le _

theorem Bounded.mono {larger : Nat} (bounded : Bounded span limit times)
    (order : limit ≤ larger) : Bounded span larger times := fun stop => (bounded stop).trans order

variable [IsOrderedAddMonoid τ]

theorem recent_recent (order : now ≤ later) :
    recent span later (recent span now times) = recent span later times := by
  unfold recent
  rw [List.filter_filter]
  apply List.filter_congr
  intro time _
  have earlier : now - span ≤ later - span := sub_le_sub_right order span
  by_cases new : later - span < time
  · simp [new, earlier.trans_lt new]
  · simp [new]

/-- Dropping what is not recent loses nothing that will be. -/
theorem Covers.prune (covers : Covers span later kept granted) (order : now ≤ later) :
    Covers span later (recent span now kept) granted :=
  (recent_recent order).trans covers

/-- A window that does not end before `now` holds only recent times. -/
theorem window_length_le (order : now ≤ stop) :
    (window span stop times).length ≤ (recent span now times).length := by
  apply List.Sublist.length_le
  apply List.monotone_filter_right
  intro time inside
  have earlier : now - span ≤ stop - span := sub_le_sub_right order span
  simp only [decide_eq_true_eq] at inside ⊢
  exact earlier.trans_lt inside.1

/-- One more grant stays within the limit when fewer than that are recent. -/
theorem Bounded.push (bounded : Bounded span limit granted) (order : now ≤ time)
    (room : (recent span now granted).length < limit) :
    Bounded span limit (granted ++ [time]) := by
  intro stop
  rw [window_append, List.length_append]
  by_cases inside : stop - span < time ∧ time ≤ stop
  · have others : (window span stop granted).length < limit :=
      (window_length_le (order.trans inside.2)).trans_lt room
    have one : (window span stop [time]).length = 1 := by simp [window, inside]
    omega
  · have none_here : (window span stop [time]).length = 0 := by
      simp [window, List.filter_cons, if_neg inside]
    have before := bounded stop
    omega

end SlidingWindow
