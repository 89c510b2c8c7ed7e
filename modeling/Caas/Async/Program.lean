/-!
# Asynchronous programs

A `Program` is an `async` function as its callers see it: it returns, throws, or
awaits a command and goes on with the reply. Everything between two awaits is one
atomic piece of it.

A `Discipline` abstracts a program to phases: which command may be issued in a
phase, and to which phase a reply leads. A program that `Respects` a discipline
can be replaced by its phase in arguments about runs; the rules for `respects`
follow the structure of the program, so each function needs one lemma.
-/

namespace Async

/-- A computation that awaits commands, each of which has its own type of replies. -/
inductive Program (Command : Type) (Reply : Command → Type) (α : Type) where
  | result (value : α)
  | failure (error : String)
  | await (command : Command) (next : Reply command → Program Command Reply α)

namespace Program

variable {Command : Type} {Reply : Command → Type} {α β : Type}

abbrev Outcome (α : Type) := Except String α

/-- The program returned, with a value that has the property. -/
def Returns (post : α → Prop) : Outcome α → Prop
  | .ok value => post value
  | .error _ => False

/-- The program failed, or returned a value that has the property. -/
def MayReturn (post : α → Prop) : Outcome α → Prop
  | .ok value => post value
  | .error _ => True

/-- Run `next` on the result; an error skips it. -/
def bind (program : Program Command Reply α) (next : α → Program Command Reply β) :
    Program Command Reply β :=
  match program with
  | .result value => next value
  | .failure error => .failure error
  | .await command rest => .await command fun reply => (rest reply).bind next

instance : Monad (Program Command Reply) where
  pure := .result
  bind := bind

/-- `try { ... } catch (error) { ... }`. -/
def catching (program : Program Command Reply α) (handle : String → Program Command Reply α) :
    Program Command Reply α :=
  match program with
  | .result value => .result value
  | .failure error => handle error
  | .await command rest => .await command fun reply => (rest reply).catching handle

def command (command : Command) : Program Command Reply (Reply command) := .await command .result

def orThrow : Outcome α → Program Command Reply α
  | .ok value => .result value
  | .error error => .failure error

def outcome? : Program Command Reply α → Option (Outcome α)
  | .result value => some (.ok value)
  | .failure error => some (.error error)
  | .await _ _ => none

end Program

/-- An abstraction of programs to phases. Only replies that `assumes` admits count. -/
structure Discipline (Command : Type) (Reply : Command → Type) (Phase : Type) where
  next : Phase → (command : Command) → Reply command → Phase
  may : Phase → Command → Prop
  assumes : (command : Command) → Reply command → Prop

/-- A discipline that admits the same commands throughout. -/
def Discipline.plain {Command : Type} {Reply : Command → Type} (allowed : Command → Prop)
    (assumes : (command : Command) → Reply command → Prop) : Discipline Command Reply Unit where
  next _ _ _ := ()
  may _ := allowed
  assumes := assumes

namespace Program

variable {Command : Type} {Reply : Command → Type} {Phase α β : Type}

/-- From `phase` on, the program issues only commands its phase admits, and ends as
`ends` says. -/
def Respects (discipline : Discipline Command Reply Phase) (ends : Phase → Outcome α → Prop) :
    Phase → Program Command Reply α → Prop
  | phase, .result value => ends phase (.ok value)
  | phase, .failure error => ends phase (.error error)
  | phase, .await command rest =>
    discipline.may phase command ∧ ∀ reply, discipline.assumes command reply →
      Respects discipline ends (discipline.next phase command reply) (rest reply)

section Rules

variable {discipline : Discipline Command Reply Phase} {ends ends' : Phase → Outcome α → Prop}
  {phase : Phase}

theorem respects_pure {value : α} (post : ends phase (.ok value)) :
    Respects discipline ends phase (pure value : Program Command Reply α) := post

/-- Sequencing after one command. -/
theorem respects_command_bind {issued : Command} {next : Reply issued → Program Command Reply α}
    (may : discipline.may phase issued) (rest : ∀ reply, discipline.assumes issued reply →
      ∀ after, discipline.next phase issued reply = after →
        (next reply).Respects discipline ends after) :
    ((command issued : Program Command Reply _) >>= next).Respects discipline ends phase :=
  ⟨may, fun reply assumed => rest reply assumed _ rfl⟩

variable {outcome : Outcome α} {program : Program Command Reply α}

theorem respects_orThrow_bind {next : α → Program Command Reply β} {ends : Phase → Outcome β → Prop}
    (rest : ∀ value, outcome = .ok value → (next value).Respects discipline ends phase)
    (fails : ∀ error, outcome = .error error → ends phase (.error error)) :
    ((orThrow outcome : Program Command Reply α) >>= next).Respects discipline ends phase := by
  cases outcome with
  | ok value => exact rest value rfl
  | error error => exact fails error rfl

theorem respects_orThrow (post : ends phase outcome) :
    Respects discipline ends phase (orThrow outcome : Program Command Reply α) := by
  cases outcome <;> exact post

theorem Respects.mono (respects : program.Respects discipline ends phase)
    (implies : ∀ phase outcome, ends phase outcome → ends' phase outcome) :
    program.Respects discipline ends' phase := by
  induction program generalizing phase with
  | result | failure => exact implies _ _ respects
  | await issued rest ih =>
    exact ⟨respects.1, fun reply assumed => ih reply (respects.2 reply assumed)⟩

theorem respects_bind {next : α → Program Command Reply β} {ends : Phase → Outcome β → Prop}
    (first : program.Respects discipline
      (fun phase outcome => match outcome with
        | .ok value => (next value).Respects discipline ends phase
        | .error error => ends phase (.error error)) phase) :
    (program >>= next).Respects discipline ends phase := by
  induction program generalizing phase with
  | result | failure => exact first
  | await issued rest ih => exact ⟨first.1, fun reply assumed => ih reply (first.2 reply assumed)⟩

/-- The rule of `try` and `catch`. -/
theorem respects_catching {handle : String → Program Command Reply α}
    (body : program.Respects discipline
      (fun phase outcome => match outcome with
        | .ok value => ends phase (.ok value)
        | .error error => (handle error).Respects discipline ends phase) phase) :
    (program.catching handle).Respects discipline ends phase := by
  induction program generalizing phase with
  | result | failure => exact body
  | await issued rest ih => exact ⟨body.1, fun reply assumed => ih reply (body.2 reply assumed)⟩

theorem Respects.ends_of_outcome (respects : program.Respects discipline ends phase)
    (ended : program.outcome? = some outcome) : ends phase outcome := by
  cases program with
  | result | failure =>
    cases ended
    exact respects
  | await issued rest => cases ended

end Rules

section Issues

variable {allowed : Command → Prop} {assumes : (command : Command) → Reply command → Prop}

/-- The program issues only `allowed` commands, as long as the replies are as assumed. -/
def Issues (allowed : Command → Prop) (assumes : (command : Command) → Reply command → Prop)
    (program : Program Command Reply α) : Prop :=
  program.Respects (Discipline.plain allowed assumes) (fun _ _ => True) ()

theorem issues_pure {value : α} :
    Issues allowed assumes (pure value : Program Command Reply α) := trivial

theorem issues_failure {error : String} :
    Issues allowed assumes (.failure error : Program Command Reply α) := trivial

theorem issues_orThrow {outcome : Outcome α} :
    Issues allowed assumes (orThrow outcome : Program Command Reply α) :=
  respects_orThrow trivial

theorem issues_command {issued : Command} (may : allowed issued) :
    Issues allowed assumes (command issued : Program Command Reply _) := ⟨may, fun _ _ => trivial⟩

variable {program : Program Command Reply α} {next : α → Program Command Reply β}

theorem issues_bind (first : program.Issues allowed assumes)
    (rest : ∀ value, (next value).Issues allowed assumes) :
    (program >>= next).Issues allowed assumes := by
  refine respects_bind (first.mono fun phase outcome _ => ?_)
  cases outcome with
  | ok value => exact rest value
  | error error => trivial

/-- Sequencing after one command, whose reply is as assumed. -/
theorem issues_command_bind {issued : Command}
    {next : Reply issued → Program Command Reply β} (may : allowed issued)
    (rest : ∀ reply, assumes issued reply → (next reply).Issues allowed assumes) :
    ((command issued : Program Command Reply _) >>= next).Issues allowed assumes := ⟨may, rest⟩

theorem issues_orThrow_bind {outcome : Outcome α}
    (rest : ∀ value, outcome = .ok value → (next value).Issues allowed assumes) :
    ((orThrow outcome : Program Command Reply α) >>= next).Issues allowed assumes := by
  cases outcome with
  | ok value => exact rest value rfl
  | error error => trivial

theorem issues_catching {handle : String → Program Command Reply α}
    (body : program.Issues allowed assumes)
    (handler : ∀ error, (handle error).Issues allowed assumes) :
    (program.catching handle).Issues allowed assumes := by
  refine respects_catching (body.mono fun phase outcome _ => ?_)
  cases outcome with
  | ok value => trivial
  | error error => exact handler error

/-- Sequencing without phases: what the first program promises is what the second starts
from. -/
theorem Respects.seq {post : Outcome α → Prop} {ends : Unit → Outcome β → Prop}
    (first : program.Respects (Discipline.plain allowed assumes) (fun _ => post) ())
    (rest : ∀ value, post (.ok value) →
      (next value).Respects (Discipline.plain allowed assumes) ends ())
    (fails : ∀ error, post (.error error) → ends () (.error error)) :
    (program >>= next).Respects (Discipline.plain allowed assumes) ends () := by
  refine respects_bind (first.mono fun phase outcome promised => ?_)
  cases outcome with
  | ok value => exact rest value promised
  | error error => exact fails error promised

/-- A program whose commands leave its phase alone stays in it, and ends as promised. -/
theorem Respects.of_plain {discipline : Discipline Command Reply Phase} {phase : Phase}
    {post : Outcome α → Prop}
    (respects : program.Respects (Discipline.plain allowed discipline.assumes) (fun _ => post) ())
    (may : ∀ command, allowed command → discipline.may phase command)
    (stable : ∀ command reply, allowed command → discipline.next phase command reply = phase) :
    program.Respects discipline (fun final outcome => final = phase ∧ post outcome) phase := by
  induction program with
  | result | failure => exact ⟨rfl, respects⟩
  | await issued rest ih =>
    refine ⟨may issued respects.1, fun reply assumed => ?_⟩
    rw [stable issued reply respects.1]
    exact ih reply (respects.2 reply assumed)

theorem Issues.respects {discipline : Discipline Command Reply Phase} {phase : Phase}
    (issues : program.Issues allowed discipline.assumes)
    (may : ∀ command, allowed command → discipline.may phase command)
    (stable : ∀ command reply, allowed command → discipline.next phase command reply = phase) :
    program.Respects discipline (fun final _ => final = phase) phase :=
  (Respects.of_plain issues may stable).mono fun _ _ both => both.1

theorem issues_of_outcome (ended : program.outcome? ≠ none) : program.Issues allowed assumes := by
  cases program with
  | result | failure => trivial
  | await issued rest => exact absurd rfl ended

end Issues

end Program

end Async
