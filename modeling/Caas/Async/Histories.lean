import Caas.Async.Pool

/-!
# Pools with a history

A pool beside a history that a `Recorder` keeps of it: how calls have ended, say, or whose
copies of the shared state are out of date. No step depends on the history.
`Recorded.invariant` is the rule for safety of a pool together with its history.
-/

namespace Async

namespace Pool

/-- How a history goes on when a call has started and when one has run: its index, what it was,
the command with its reply, and the program that is left. -/
structure Recorder (Command : Type) (Reply : Command → Type) (Input Phase Result History : Type)
    where
  started : History → Input → Program Command Reply Result → History
  ran : History → Nat → Call Command Reply Input Phase Result → (command : Command) →
    Reply command → Program Command Reply Result → History

structure Recorded (Shared Command : Type) (Reply : Command → Type)
    (Input Phase Result History : Type) where
  pool : Pool Shared Command Reply Input Phase Result
  history : History

variable {Shared Command : Type} {Reply : Command → Type}
  {Oracle Change Input Phase Result History : Type}

namespace Recorded

section Machine

variable (host : Host Shared Command Reply Oracle Change Input Result)
  (discipline : Input → Discipline Command Reply Phase) (first : Input → Phase)
  (recorder : Recorder Command Reply Input Phase Result History)

def record (current : Recorded Shared Command Reply Input Phase Result History) :
    Event Oracle Change Input → History
  | .start input => recorder.started current.history input (host.body input)
  | .change _ => current.history
  | .run index oracle =>
    match current.pool.calls[index]? with
    | none => current.history
    | some call =>
      match call.program with
      | .await command next =>
        let reply := (host.exec current.pool.shared command oracle).2
        recorder.ran current.history index call command reply (next reply)
      | _ => current.history

def machine : Transducer (Recorded Shared Command Reply Input Phase Result History)
    (Event Oracle Change Input) Unit where
  step current event :=
    (⟨current.pool.step host discipline first event, current.record host recorder event⟩, ())

end Machine

variable {host : Host Shared Command Reply Oracle Change Input Result}
  {discipline : Input → Discipline Command Reply Phase} {first : Input → Phase}
  {recorder : Recorder Command Reply Input Phase Result History}
  {ends : Input → Phase → Program.Outcome Result → Prop}

/-- The history changes nothing about a run. -/
theorem pool_run (current : Recorded Shared Command Reply Input Phase Result History)
    (events : List (Event Oracle Change Input)) :
    ((machine host discipline first recorder).run current events).pool =
      (Pool.machine host discipline first).run current.pool events := by
  induction events generalizing current with
  | nil => rfl
  | cons event rest ih => exact ih _

/-- Running a call changes nothing unless the call awaits something. -/
theorem step_run_or_await (current : Recorded Shared Command Reply Input Phase Result History)
    (index : Nat) (oracle : Oracle) :
    ((machine host discipline first recorder).step current (.run index oracle)).1 = current ∨
      ∃ call command next, current.pool.calls[index]? = some call ∧
        call.program = .await command next := by
  cases present : current.pool.calls[index]? with
  | none =>
    left
    simp [machine, step, record, present]
  | some call =>
    cases awaits : call.program with
    | await command next => exact .inr ⟨call, command, next, rfl, awaits⟩
    | _ =>
      left
      simp [machine, step, record, present, awaits]

theorem step_run_of_idle (current : Recorded Shared Command Reply Input Phase Result History)
    {index : Nat} (oracle : Oracle) (idle : current.pool.awaited? index = none) :
    ((machine host discipline first recorder).step current (.run index oracle)).1 = current := by
  rcases @step_run_or_await _ _ _ _ _ _ _ _ _ host discipline first recorder current index oracle
    with same | ⟨call, command, next, present, awaits⟩
  · exact same
  · cases idle.symm.trans (awaited?_of_await present awaits)

theorem step_run_of_await (current : Recorded Shared Command Reply Input Phase Result History)
    {index : Nat} {call : Call Command Reply Input Phase Result} {command : Command}
    {next : Reply command → Program Command Reply Result} (oracle : Oracle)
    (present : current.pool.calls[index]? = some call)
    (awaits : call.program = .await command next) :
    ((machine host discipline first recorder).step current (.run index oracle)).1 =
      ⟨current.pool.resume discipline index call command next
          (host.exec current.pool.shared command oracle),
        recorder.ran current.history index call command
          (host.exec current.pool.shared command oracle).2
          (next (host.exec current.pool.shared command oracle).2)⟩ := by
  simp [machine, step, record, present, awaits]

theorem invariant {guard : Recorded Shared Command Reply Input Phase Result History →
      Event Oracle Change Input → Prop}
    {Inv : Recorded Shared Command Reply Input Phase Result History → Prop}
    (bodies : ∀ input, (host.body input).Respects (discipline input) (ends input) (first input))
    (started : ∀ current input, Inv current → guard current (.start input) →
      Inv ⟨current.pool.start host first input,
        recorder.started current.history input (host.body input)⟩)
    (changed : ∀ current change, Inv current → guard current (.change change) →
      Inv { current with pool.shared := host.change current.pool.shared change })
    (ran : ∀ current index oracle call command next, Inv current →
      guard current (.run index oracle) → current.pool.Respectful discipline ends →
      current.pool.calls[index]? = some call → call.program = .await command next →
      (discipline call.input).may call.phase command →
        (discipline call.input).assumes command (host.exec current.pool.shared command oracle).2 ∧
          ((current.pool.resume discipline index call command next
              (host.exec current.pool.shared command oracle)).Respectful discipline ends →
            Inv ⟨current.pool.resume discipline index call command next
                (host.exec current.pool.shared command oracle),
              recorder.ran current.history index call command
                (host.exec current.pool.shared command oracle).2
                (next (host.exec current.pool.shared command oracle).2)⟩))
    {current : Recorded Shared Command Reply Input Phase Result History}
    {events : List (Event Oracle Change Input)}
    (admits : (machine host discipline first recorder).Admits guard current events)
    (respectful : current.pool.Respectful discipline ends) (holds : Inv current) :
    ((machine host discipline first recorder).run current events).pool.Respectful discipline ends ∧
      Inv ((machine host discipline first recorder).run current events) := by
  refine Transducer.Admits.invariant
    (fun current event (both : current.pool.Respectful discipline ends ∧ Inv current) guarded => ?_)
    admits ⟨respectful, holds⟩
  obtain ⟨respectful, holds⟩ := both
  cases event with
  | start input => exact ⟨respectful.start (bodies input), started current input holds guarded⟩
  | change change => exact ⟨respectful, changed current change holds guarded⟩
  | run index oracle =>
    rcases @step_run_or_await _ _ _ _ _ _ _ _ _ host discipline first recorder current index oracle
      with idle | ⟨call, command, next, present, awaits⟩
    · rw [idle]
      exact ⟨respectful, holds⟩
    · have respects := respectful call (List.mem_of_getElem? present)
      rw [awaits] at respects
      obtain ⟨assumed, kept⟩ :=
        ran current index oracle call command next holds guarded respectful present awaits
          respects.1
      have resumed := respectful.resume present awaits assumed
      rw [step_run_of_await current oracle present awaits]
      exact ⟨resumed, kept resumed⟩

end Recorded

section Endings

def ending (input : Input) (program : Program Command Reply Result) :
    List (Input × Program.Outcome Result) :=
  (program.outcome?.map fun outcome => (input, outcome)).toList

/-- The log of how calls have ended, in the order in which they ended. -/
def endings :
    Recorder Command Reply Input Phase Result (List (Input × Program.Outcome Result)) where
  started log input program := log ++ ending input program
  ran log _ call _ _ program := log ++ ending call.input program

end Endings

section Staleness

variable (renews outdates : Input → Phase → (command : Command) → Reply command → Bool)

/-- Whose copies are out of date after a command of the call at `index`. -/
def staleAfter (stale : Nat → Bool) (index : Nat) (call : Call Command Reply Input Phase Result)
    (command : Command) (reply : Reply command) : Nat → Bool :=
  if outdates call.input call.phase command reply then fun _ => true
  else if renews call.input call.phase command reply then Function.update stale index false
  else stale

/-- Whose copies are out of date: some command has outdated all copies since the call has last
taken one. -/
def staleness : Recorder Command Reply Input Phase Result (Nat → Bool) where
  started stale _ _ := stale
  ran stale index call command reply _ := staleAfter renews outdates stale index call command reply

variable {renews outdates} {stale : Nat → Bool} {index other : Nat}
  {call : Call Command Reply Input Phase Result} {command : Command} {reply : Reply command}

/-- All copies are out of date after a command that outdates them. -/
theorem staleAfter_of_outdates (outdated : outdates call.input call.phase command reply = true) :
    staleAfter renews outdates stale index call command reply other = true := by
  simp [staleAfter, outdated]

/-- A copy stays out of date until the call takes another one. -/
theorem staleAfter_stays (was : stale other = true)
    (kept : other ≠ index ∨ renews call.input call.phase command reply = false) :
    staleAfter renews outdates stale index call command reply other = true := by
  unfold staleAfter
  split
  · rfl
  · split
    · rename_i renewed
      rcases kept with different | unrenewed
      · rw [Function.update_of_ne different]
        exact was
      · cases renewed.symm.trans unrenewed
    · exact was

end Staleness

end Pool

end Async
