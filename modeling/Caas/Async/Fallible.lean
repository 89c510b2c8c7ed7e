import Caas.Async.Program

/-!
# Programs run to their end, with faults

A program run alone, each command answered in circumstances that are given by its number.
`Ensures` is the weakest precondition of such a run; its rules follow the structure of
the program. In a fallible program every awaited command may be rejected, before or after
it has taken effect, and the rejection is thrown. What a program issues without faults
bounds what it issues with them, so invariants of its commands survive any faults.
-/

namespace Async

/-- How an awaited command is rejected: before it has taken effect, or after. -/
inductive Fault where
  | lost (error : String)
  | unanswered (error : String)
deriving DecidableEq

namespace Program

variable {Command : Type} {Reply : Command → Type} {State Circumstance α β : Type}

section Run

variable (exec : State → (command : Command) → Circumstance → State × Reply command)
  (circumstance : Nat → Circumstance)

/-- Run a program whose next command is the one of the given number. -/
def run : Program Command Reply α → Nat → State → State × Outcome α
  | .result value, _, state => (state, .ok value)
  | .failure error, _, state => (state, .error error)
  | .await command rest, number, state =>
    let (after, reply) := exec state command (circumstance number)
    run (rest reply) (number + 1) after

/-- The run ends as `post` says, of the number of the next command, the state and the
outcome. -/
def Ensures (post : Nat → State → Outcome α → Prop) :
    Program Command Reply α → Nat → State → Prop
  | .result value, number, state => post number state (.ok value)
  | .failure error, number, state => post number state (.error error)
  | .await command rest, number, state =>
    Ensures post (rest (exec state command (circumstance number)).2) (number + 1)
      (exec state command (circumstance number)).1

/-- Execution that remembers every state it comes to. -/
def remembering (current : State × List State) (command : Command) (circumstance : Circumstance) :
    (State × List State) × Reply command :=
  let (after, reply) := exec current.1 command circumstance
  ((after, current.2 ++ [after]), reply)

end Run

section Rules

variable {exec : State → (command : Command) → Circumstance → State × Reply command}
  {circumstance : Nat → Circumstance} {number : Nat} {state : State}

theorem ensures_iff_run {program : Program Command Reply α} {post : State → Outcome α → Prop} :
    program.Ensures exec circumstance (fun _ => post) number state ↔
      post (program.run exec circumstance number state).1
        (program.run exec circumstance number state).2 := by
  induction program generalizing number state with
  | result | failure => exact Iff.rfl
  | await command rest ih => exact ih _

variable {program : Program Command Reply α}

theorem Ensures.mono {post post' : Nat → State → Outcome α → Prop}
    (ensures : program.Ensures exec circumstance post number state)
    (implies : ∀ number state outcome, post number state outcome → post' number state outcome) :
    program.Ensures exec circumstance post' number state := by
  induction program generalizing number state with
  | result | failure => exact implies _ _ _ ensures
  | await command rest ih => exact ih _ ensures

theorem ensures_bind {next : α → Program Command Reply β} {post : Nat → State → Outcome β → Prop}
    (first : program.Ensures exec circumstance
      (fun number state outcome => match outcome with
        | .ok value => (next value).Ensures exec circumstance post number state
        | .error error => post number state (.error error)) number state) :
    (program >>= next).Ensures exec circumstance post number state := by
  induction program generalizing number state with
  | result | failure => exact first
  | await command rest ih => exact ih _ first

/-- The rule of sequencing after one command. -/
theorem ensures_command_bind {issued : Command} {after : State} {reply : Reply issued}
    {next : Reply issued → Program Command Reply β} {post : Nat → State → Outcome β → Prop}
    (executed : exec state issued (circumstance number) = (after, reply))
    (rest : (next reply).Ensures exec circumstance post (number + 1) after) :
    (command issued >>= next).Ensures exec circumstance post number state := by
  change (next (exec state issued (circumstance number)).2).Ensures exec circumstance post
    (number + 1) (exec state issued (circumstance number)).1
  rw [executed]
  exact rest

/-- The rule of `try` and `catch`. -/
theorem ensures_catching {handle : String → Program Command Reply α}
    {post : Nat → State → Outcome α → Prop} (body : program.Ensures exec circumstance
      (fun number state outcome => match outcome with
        | .ok value => post number state (.ok value)
        | .error error => (handle error).Ensures exec circumstance post number state)
      number state) : (program.catching handle).Ensures exec circumstance post number state := by
  induction program generalizing number state with
  | result | failure => exact body
  | await command rest ih => exact ih _ body

/-- A program that respects what an invariant allows keeps the invariant, and ends as it
promises of replies that the invariant vouches for. -/
theorem Respects.ensures {allowed : Command → Prop}
    {assumes : (command : Command) → Reply command → Prop} {program : Program Command Reply α}
    {post : Outcome α → Prop}
    (respects : program.Respects (Discipline.plain allowed assumes) (fun _ => post) ())
    {Inv : State → Prop} (step : ∀ number state command, Inv state → allowed command →
      Inv (exec state command (circumstance number)).1 ∧
        assumes command (exec state command (circumstance number)).2) (start : Inv state) :
    program.Ensures exec circumstance (fun _ state outcome => Inv state ∧ post outcome) number
      state := by
  induction program generalizing number state with
  | result | failure => exact ⟨start, respects⟩
  | await command rest ih =>
    obtain ⟨next, assumed⟩ := step number state command start respects.1
    exact ih _ (respects.2 _ assumed) next

end Rules

section Faults

/-- The program with commands that may be rejected. -/
def fallible : Program Command Reply α →
    Program Command (fun command => Outcome (Reply command)) α
  | .result value => .result value
  | .failure error => .failure error
  | .await command rest => .await command fun reply =>
    match reply with
    | .ok reply => (rest reply).fallible
    | .error error => .failure error

/-- Execute a command in circumstances that may hold a fault. -/
def faulty (exec : State → (command : Command) → Circumstance → State × Reply command)
    (state : State) (command : Command) (circumstance : Circumstance × Option Fault) :
    State × Outcome (Reply command) :=
  let (after, reply) := exec state command circumstance.1
  match circumstance.2 with
  | none => (after, .ok reply)
  | some (.lost error) => (state, .error error)
  | some (.unanswered error) => (after, .error error)

variable {exec : State → (command : Command) → Circumstance → State × Reply command}
  {circumstance : Nat → Circumstance × Option Fault} {number : Nat} {state : State}

theorem fallible_await (issued : Command) (rest : Reply issued → Program Command Reply α) :
    (await issued rest).fallible = await issued fun reply =>
      match reply with
      | .ok reply => (rest reply).fallible
      | .error error => .failure error := by
  rw [fallible]

theorem fallible_bind (program : Program Command Reply α) (next : α → Program Command Reply β) :
    (program >>= next).fallible = program.fallible >>= fun value => (next value).fallible := by
  change (program.bind next).fallible = program.fallible.bind fun value => (next value).fallible
  induction program with
  | result | failure => rfl
  | await command rest ih =>
    rw [bind, fallible_await, fallible_await, bind]
    refine congrArg (await command) (funext fun reply => ?_)
    cases reply with
    | ok reply => exact ih reply
    | error error => rfl

theorem faulty_of_calm {command : Command} (calm : (circumstance number).2 = none) :
    faulty exec state command (circumstance number) =
      ((exec state command (circumstance number).1).1,
        .ok (exec state command (circumstance number).1).2) := by
  simp [faulty, calm]

variable {after : State} {issued : Command} {reply : Reply issued}
  {next : Reply issued → Program Command Reply α} {post : Nat → State → Outcome α → Prop}

/-- The rule of sequencing after one command that may be rejected. -/
theorem ensures_fallible_command_bind
    (executed : exec state issued (circumstance number).1 = (after, reply))
    (lost : ∀ error, (circumstance number).2 = some (.lost error) →
      post (number + 1) state (.error error))
    (unanswered : ∀ error, (circumstance number).2 = some (.unanswered error) →
      post (number + 1) after (.error error)) (answered : (circumstance number).2 = none →
      (next reply).fallible.Ensures (faulty exec) circumstance post (number + 1) after) :
    (command issued >>= next).fallible.Ensures (faulty exec) circumstance post number state := by
  have sequenced : (command issued : Program Command Reply _) >>= next = await issued next := rfl
  rw [sequenced]
  unfold fallible Ensures faulty
  rw [executed]
  cases fault : (circumstance number).2 with
  | none => exact answered fault
  | some rejection =>
    cases rejection with
    | lost error => exact lost error fault
    | unanswered error => exact unanswered error fault

/-- Sequencing after one command that is answered. -/
theorem ensures_fallible_answered (calm : (circumstance number).2 = none)
    (executed : exec state issued (circumstance number).1 = (after, reply))
    (rest : (next reply).fallible.Ensures (faulty exec) circumstance post (number + 1) after) :
    (command issued >>= next).fallible.Ensures (faulty exec) circumstance post number state := by
  refine ensures_fallible_command_bind executed (fun error fault => ?_) (fun error fault => ?_)
    fun _ => rest
  · cases calm.symm.trans fault
  · cases calm.symm.trans fault

/-- An invariant of the commands a program may issue survives any faults. -/
theorem Issues.keeps {allowed : Command → Prop}
    {assumes : (command : Command) → Reply command → Prop} {program : Program Command Reply α}
    (issues : program.Issues allowed assumes) {Inv : State → Prop}
    (step : ∀ number state command, Inv state → allowed command →
      Inv (exec state command (circumstance number).1).1 ∧
        assumes command (exec state command (circumstance number).1).2) (start : Inv state) :
    program.fallible.Ensures (faulty exec) circumstance (fun _ state _ => Inv state) number
      state := by
  induction program generalizing number state with
  | result | failure => exact start
  | await command rest ih =>
    obtain ⟨next, assumed⟩ := step number state command start issues.1
    unfold fallible Ensures faulty
    cases fault : (circumstance number).2 with
    | none => exact ih _ (issues.2 _ assumed) next
    | some rejection =>
      cases rejection with
      | lost error => exact start
      | unanswered error => exact next

/-- Without faults a program ends as it promises of replies that an invariant vouches for. -/
theorem Respects.ensures_of_calm {allowed : Command → Prop}
    {assumes : (command : Command) → Reply command → Prop} {program : Program Command Reply α}
    {post : Outcome α → Prop}
    (respects : program.Respects (Discipline.plain allowed assumes) (fun _ => post) ())
    (calm : ∀ number, (circumstance number).2 = none) {Inv : State → Prop}
    (step : ∀ number state command, Inv state → allowed command →
      Inv (exec state command (circumstance number).1).1 ∧
        assumes command (exec state command (circumstance number).1).2) (start : Inv state) :
    program.fallible.Ensures (faulty exec) circumstance (fun _ _ => post) number state := by
  induction program generalizing number state with
  | result | failure => exact respects
  | await command rest ih =>
    obtain ⟨next, assumed⟩ := step number state command start respects.1
    rw [fallible, Ensures, faulty_of_calm (calm number)]
    exact ih _ (respects.2 _ assumed) next

end Faults

end Program

end Async
