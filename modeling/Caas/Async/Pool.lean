import Caas.Async.Program
import Caas.Machine.Transducer
import Mathlib.Algebra.Ring.Nat

/-!
# Pools of concurrent programs

A `Pool` is a shared state with any number of calls, each at its own point of its
program. An event starts a call, lets one call have its awaited command executed
and run to its next await, or changes the shared state from outside (time passes,
say). A list of events is an interleaving; a command takes effect atomically.

Each call carries the phase its commands and replies have led to. The phase is a
history variable: no step depends on it. `Pool.invariant` is the rule for safety
of every interleaving: what starting a call, an outside change and one command
admitted by the phase of its caller preserve, holds after every run.
-/

namespace Async

/-- The meaning of commands and of calls. What a command's reply depends on besides the
shared state (a random draw, another service) is left to the `Oracle` of the event. -/
structure Host (Shared Command : Type) (Reply : Command → Type)
    (Oracle Change Input Result : Type) where
  exec : Shared → (command : Command) → Oracle → Shared × Reply command
  change : Shared → Change → Shared
  body : Input → Program Command Reply Result

/-- A call in progress or ended, with its phase. -/
structure Call (Command : Type) (Reply : Command → Type) (Input Phase Result : Type) where
  input : Input
  phase : Phase
  program : Program Command Reply Result

/-- A shared state and the calls on it, in the order in which they started. -/
structure Pool (Shared Command : Type) (Reply : Command → Type) (Input Phase Result : Type) where
  shared : Shared
  calls : List (Call Command Reply Input Phase Result)

/-- One step of an interleaving. -/
inductive Event (Oracle Change Input : Type) where
  | start (input : Input)
  | run (index : Nat) (oracle : Oracle)
  | change (change : Change)

namespace Pool

variable {Shared Command : Type} {Reply : Command → Type}
  {Oracle Change Input Phase Result : Type}
  (host : Host Shared Command Reply Oracle Change Input Result)
  (discipline : Input → Discipline Command Reply Phase) (first : Input → Phase)

/-- How the call at `index` has ended, if it has. -/
def outcome? (pool : Pool Shared Command Reply Input Phase Result) (index : Nat) :
    Option (Program.Outcome Result) :=
  pool.calls[index]?.bind fun call => call.program.outcome?

/-- The call at `index` with the command it awaits, if it awaits one. -/
def awaited? (pool : Pool Shared Command Reply Input Phase Result) (index : Nat) :
    Option (Call Command Reply Input Phase Result × Command) :=
  pool.calls[index]?.bind fun call =>
    match call.program with
    | .await command _ => some (call, command)
    | _ => none

def start (pool : Pool Shared Command Reply Input Phase Result) (input : Input) :
    Pool Shared Command Reply Input Phase Result :=
  { pool with calls := pool.calls ++ [⟨input, first input, host.body input⟩] }

/-- The awaited `command` of a call has been executed with the given effect. -/
def resume (pool : Pool Shared Command Reply Input Phase Result) (index : Nat)
    (call : Call Command Reply Input Phase Result) (command : Command)
    (next : Reply command → Program Command Reply Result) (effect : Shared × Reply command) :
    Pool Shared Command Reply Input Phase Result where
  shared := effect.1
  calls := pool.calls.set index
    { call with
      phase := (discipline call.input).next call.phase command effect.2
      program := next effect.2 }

/-- One event; calls that have ended, and calls that do not exist, do not run. -/
def step (pool : Pool Shared Command Reply Input Phase Result) :
    Event Oracle Change Input → Pool Shared Command Reply Input Phase Result
  | .start input => pool.start host first input
  | .change change => { pool with shared := host.change pool.shared change }
  | .run index oracle =>
    match pool.calls[index]? with
    | none => pool
    | some call =>
      match call.program with
      | .await command next =>
        pool.resume discipline index call command next (host.exec pool.shared command oracle)
      | _ => pool

/-- The pool as a machine over events. -/
def machine : Transducer (Pool Shared Command Reply Input Phase Result)
    (Event Oracle Change Input) Unit where
  step pool event := (pool.step host discipline first event, ())

/-- Every call keeps to the discipline of its input. -/
def Respectful (ends : Input → Phase → Program.Outcome Result → Prop)
    (pool : Pool Shared Command Reply Input Phase Result) : Prop :=
  ∀ call ∈ pool.calls, call.program.Respects (discipline call.input) (ends call.input) call.phase

variable {host discipline first}
  {ends : Input → Phase → Program.Outcome Result → Prop}

theorem step_run_of_await {pool : Pool Shared Command Reply Input Phase Result} {index : Nat}
    {call : Call Command Reply Input Phase Result} {command : Command}
    {next : Reply command → Program Command Reply Result} (oracle : Oracle)
    (present : pool.calls[index]? = some call) (awaits : call.program = .await command next) :
    pool.step host discipline first (.run index oracle) =
      pool.resume discipline index call command next (host.exec pool.shared command oracle) := by
  simp [step, present, awaits]

/-- Running a call changes nothing unless the call awaits something. -/
theorem step_run_or_await (pool : Pool Shared Command Reply Input Phase Result) (index : Nat)
    (oracle : Oracle) : pool.step host discipline first (.run index oracle) = pool ∨
      ∃ call command next, pool.calls[index]? = some call ∧
        call.program = .await command next := by
  cases present : pool.calls[index]? with
  | none =>
    left
    simp [step, present]
  | some call =>
    cases awaits : call.program with
    | await command next => exact .inr ⟨call, command, next, rfl, awaits⟩
    | _ =>
      left
      simp [step, present, awaits]

variable {pool : Pool Shared Command Reply Input Phase Result} {index : Nat}
  {call : Call Command Reply Input Phase Result}

/-- A call that has ended in a respectful pool has ended as promised. -/
theorem Respectful.ends_of_outcome (respectful : pool.Respectful discipline ends)
    {outcome : Program.Outcome Result} (present : pool.calls[index]? = some call)
    (ended : call.program.outcome? = some outcome) : ends call.input call.phase outcome :=
  (respectful call (List.mem_of_getElem? present)).ends_of_outcome ended

/-- The calls of a pool after one has started: that one, and those before. -/
theorem mem_start {input : Input} (member : call ∈ (pool.start host first input).calls) :
    call ∈ pool.calls ∨ call = ⟨input, first input, host.body input⟩ :=
  (List.mem_append.mp member).imp_right List.mem_singleton.mp

/-- What holds of the call that has started and of those before holds of all calls. -/
theorem forall_start {input : Input} {holds : Call Command Reply Input Phase Result → Prop}
    (fresh : holds ⟨input, first input, host.body input⟩)
    (earlier : ∀ call ∈ pool.calls, holds call) :
    ∀ call ∈ (pool.start host first input).calls, holds call := by
  intro call member
  rcases mem_start member with before | rfl
  · exact earlier call before
  · exact fresh

theorem Respectful.start (respectful : pool.Respectful discipline ends) {input : Input}
    (body : (host.body input).Respects (discipline input) (ends input) (first input)) :
    (pool.start host first input).Respectful discipline ends :=
  forall_start body respectful

theorem Respectful.resume (respectful : pool.Respectful discipline ends) {command : Command}
    {next : Reply command → Program Command Reply Result} {effect : Shared × Reply command}
    (present : pool.calls[index]? = some call) (awaits : call.program = .await command next)
    (assumed : (discipline call.input).assumes command effect.2) :
    (pool.resume discipline index call command next effect).Respectful discipline ends := by
  intro other member
  rcases List.mem_or_eq_of_mem_set member with kept | rfl
  · exact respectful other kept
  · have respects := respectful call (List.mem_of_getElem? present)
    rw [awaits] at respects
    exact respects.2 effect.2 assumed

theorem invariant {guard : Pool Shared Command Reply Input Phase Result →
      Event Oracle Change Input → Prop} {Inv : Pool Shared Command Reply Input Phase Result → Prop}
    (bodies : ∀ input, (host.body input).Respects (discipline input) (ends input) (first input))
    (started : ∀ pool input, Inv pool → guard pool (.start input) →
      Inv (pool.start host first input))
    (changed : ∀ pool change, Inv pool → guard pool (.change change) →
      Inv { pool with shared := host.change pool.shared change })
    (ran : ∀ pool index oracle call command next, Inv pool → guard pool (.run index oracle) →
      pool.calls[index]? = some call → call.program = .await command next →
      (discipline call.input).may call.phase command →
        (discipline call.input).assumes command (host.exec pool.shared command oracle).2 ∧
          Inv (pool.resume discipline index call command next
            (host.exec pool.shared command oracle)))
    {pool : Pool Shared Command Reply Input Phase Result}
    {events : List (Event Oracle Change Input)}
    (admits : (machine host discipline first).Admits guard pool events)
    (respectful : pool.Respectful discipline ends) (holds : Inv pool) :
    ((machine host discipline first).run pool events).Respectful discipline ends ∧
      Inv ((machine host discipline first).run pool events) := by
  refine Transducer.Admits.invariant
    (fun pool event (both : pool.Respectful discipline ends ∧ Inv pool) guarded => ?_)
    admits ⟨respectful, holds⟩
  obtain ⟨respectful, holds⟩ := both
  cases event with
  | start input => exact ⟨respectful.start (bodies input), started pool input holds guarded⟩
  | change change => exact ⟨respectful, changed pool change holds guarded⟩
  | run index oracle =>
    change (pool.step host discipline first (.run index oracle)).Respectful discipline ends ∧
      Inv (pool.step host discipline first (.run index oracle))
    rcases @step_run_or_await _ _ _ _ _ _ _ _ host discipline first pool index oracle with
      idle | ⟨call, command, next, present, awaits⟩
    · rw [idle]
      exact ⟨respectful, holds⟩
    · have respects := respectful call (List.mem_of_getElem? present)
      rw [awaits] at respects
      obtain ⟨assumed, kept⟩ :=
        ran pool index oracle call command next holds guarded present awaits respects.1
      rw [step_run_of_await oracle present awaits]
      exact ⟨respectful.resume present awaits assumed, kept⟩

/-- Without a guard, calls keep to their disciplines when replies are as assumed. -/
theorem respectful_run
    (bodies : ∀ input, (host.body input).Respects (discipline input) (ends input) (first input))
    (assumed : ∀ input shared command oracle,
      (discipline input).assumes command (host.exec shared command oracle).2)
    (respectful : pool.Respectful discipline ends) (events : List (Event Oracle Change Input)) :
    ((machine host discipline first).run pool events).Respectful discipline ends := by
  have admits : (machine host discipline first).Admits (fun _ _ => True) pool events :=
    Transducer.admits_of_forall (fun _ _ => trivial) pool events
  exact (@invariant _ _ _ _ _ _ _ _ host discipline first ends (fun _ _ => True) (fun _ => True)
    bodies (fun _ _ _ _ => trivial) (fun _ _ _ _ => trivial)
    (fun pool _ oracle call command _ _ _ _ _ _ =>
      ⟨assumed call.input pool.shared command oracle, trivial⟩)
    _ _ admits respectful trivial).1

/-- The inputs of the calls after a run are those of before and those it has started. -/
theorem input_of_mem_run {events : List (Event Oracle Change Input)}
    (member : call ∈ ((machine host discipline first).run pool events).calls) :
    (∃ earlier ∈ pool.calls, earlier.input = call.input) ∨ .start call.input ∈ events := by
  induction events generalizing pool with
  | nil => exact .inl ⟨call, member, rfl⟩
  | cons event rest ih =>
    obtain ⟨earlier, here, same⟩ | later := ih member
    · cases event with
      | start input =>
        rcases mem_start here with before | rfl
        · exact .inl ⟨earlier, before, same⟩
        · exact .inr (List.mem_cons.mpr (.inl (congrArg Event.start same.symm)))
      | change change => exact .inl ⟨earlier, here, same⟩
      | run index oracle =>
        change earlier ∈ (pool.step host discipline first (.run index oracle)).calls at here
        rcases @step_run_or_await _ _ _ _ _ _ _ _ host discipline first pool index oracle with
          idle | ⟨resumed, command, next, present, awaits⟩
        · rw [idle] at here
          exact .inl ⟨earlier, here, same⟩
        · rw [step_run_of_await oracle present awaits] at here
          rcases List.mem_or_eq_of_mem_set here with kept | rfl
          · exact .inl ⟨earlier, kept, same⟩
          · exact .inl ⟨resumed, List.mem_of_getElem? present, same⟩
    · exact .inr (List.mem_cons_of_mem event later)

/-- A sum over a list changes by the element that is replaced. -/
theorem sum_map_set {α : Type} {list : List α} {old new : α} (present : list[index]? = some old)
    (weight : α → Nat) :
    ((list.set index new).map weight).sum + weight old = (list.map weight).sum + weight new := by
  induction list generalizing index with
  | nil => cases present
  | cons head rest ih =>
    cases index with
    | zero =>
      cases present
      simp only [List.set_cons_zero, List.map_cons, List.sum_cons]
      omega
    | succ index =>
      have tail := @ih index present
      simp only [List.set_cons_succ, List.map_cons, List.sum_cons]
      omega

/-- Of elements of a kind of which there is at most one, there is one. -/
theorem eq_of_countP_le_one {α : Type} {list : List α} {kind : α → Bool}
    (single : list.countP kind ≤ 1) {element other : α} (here : element ∈ list)
    (there : other ∈ list) (own : kind element = true) (own' : kind other = true) :
    element = other := by
  rw [List.countP_eq_length_filter] at single
  have listed : element ∈ list.filter kind := List.mem_filter.mpr ⟨here, own⟩
  have listed' : other ∈ list.filter kind := List.mem_filter.mpr ⟨there, own'⟩
  obtain ⟨only, same⟩ := List.length_eq_one_iff.mp
    (Nat.le_antisymm single (List.length_pos_of_mem listed))
  rw [same, List.mem_singleton] at listed listed'
  exact listed.trans listed'.symm

section Calls

variable {pool : Pool Shared Command Reply Input Phase Result} {index : Nat}
  {call : Call Command Reply Input Phase Result}

variable {command : Command} {next : Reply command → Program Command Reply Result}
  {effect : Shared × Reply command}

theorem awaited?_of_await (present : pool.calls[index]? = some call)
    (awaits : call.program = .await command next) : pool.awaited? index = some (call, command) := by
  simp [awaited?, present, awaits]

theorem await_of_awaited? (awaited : pool.awaited? index = some (call, command)) :
    ∃ next, pool.calls[index]? = some call ∧ call.program = .await command next := by
  obtain ⟨other, present, awaits⟩ := Option.bind_eq_some_iff.mp awaited
  split at awaits
  · rename_i command' next program
    cases awaits
    exact ⟨next, present, program⟩
  · cases awaits

theorem step_run_of_idle (oracle : Oracle) (idle : pool.awaited? index = none) :
    pool.step host discipline first (.run index oracle) = pool := by
  rcases @step_run_or_await _ _ _ _ _ _ _ _ host discipline first pool index oracle with
    same | ⟨call, command, next, present, awaits⟩
  · exact same
  · cases idle.symm.trans (awaited?_of_await present awaits)

/-- The calls of a pool after one has run: that one, and the others as they were. -/
theorem getElem?_resume (present : pool.calls[index]? = some call) (other : Nat) :
    (pool.resume discipline index call command next effect).calls[other]? =
      if index = other then
        some { call with
          phase := (discipline call.input).next call.phase command effect.2
          program := next effect.2 }
      else pool.calls[other]? := by
  obtain ⟨bound, _⟩ := List.getElem?_eq_some_iff.mp present
  simp only [resume, List.getElem?_set]
  by_cases same : index = other
  · subst same
    simp [bound]
  · simp [same]

/-- The call that has run is in the pool. -/
theorem mem_resume_self {command : Command} {next : Reply command → Program Command Reply Result}
    {effect : Shared × Reply command} (present : pool.calls[index]? = some call) :
    { call with
      phase := (discipline call.input).next call.phase command effect.2
      program := next effect.2 } ∈
        (pool.resume discipline index call command next effect).calls := by
  apply List.mem_of_getElem?
  rw [getElem?_resume present index, if_pos rfl]

theorem mem_resume_or_eq (present : pool.calls[index]? = some call)
    {other : Call Command Reply Input Phase Result} (member : other ∈ pool.calls) :
    other ∈ (pool.resume discipline index call command next effect).calls ∨ other = call := by
  obtain ⟨position, found⟩ := List.mem_iff_getElem?.mp member
  by_cases same : index = position
  · subst same
    exact .inr (Option.some.inj (found.symm.trans present))
  · left
    apply List.mem_of_getElem?
    rw [getElem?_resume present position, if_neg same]
    exact found

/-- The number of calls of a kind changes by the call that has run. -/
theorem countP_resume (present : pool.calls[index]? = some call)
    (counted : Call Command Reply Input Phase Result → Bool) :
    (pool.resume discipline index call command next effect).calls.countP counted +
        (if counted call then 1 else 0) =
      pool.calls.countP counted +
        (if counted { call with
          phase := (discipline call.input).next call.phase command effect.2
          program := next effect.2 } then 1 else 0) := by
  obtain ⟨bound, rfl⟩ := List.getElem?_eq_some_iff.mp present
  rw [resume, List.countP_set bound]
  have among : (if counted pool.calls[index] then 1 else 0) ≤ pool.calls.countP counted := by
    split
    · rename_i kind
      exact List.countP_pos_iff.mpr ⟨_, List.getElem_mem bound, kind⟩
    · exact Nat.zero_le _
  omega

/-- What the calls weigh together changes by the call that has run. -/
theorem sum_resume (present : pool.calls[index]? = some call)
    (weight : Call Command Reply Input Phase Result → Nat) :
    ((pool.resume discipline index call command next effect).calls.map weight).sum + weight call =
      (pool.calls.map weight).sum +
        weight { call with
          phase := (discipline call.input).next call.phase command effect.2
          program := next effect.2 } :=
  sum_map_set present weight

/-- The calls of a pool after one has started: that one, and the others as they were. -/
theorem getElem?_start {input : Input} {other : Nat}
    (present : (pool.start host first input).calls[other]? = some call) :
    pool.calls[other]? = some call ∨ call = ⟨input, first input, host.body input⟩ := by
  simp only [start, List.getElem?_append] at present
  split at present
  · exact .inl present
  · right
    simp only [List.getElem?_singleton] at present
    split at present
    · exact (Option.some.inj present).symm
    · cases present

end Calls

section Goes

/-- One call of the pool has gone on to a phase: what inputs and phases show of it. -/
structure Goes (pool : Pool Shared Command Reply Input Phase Result)
    (call : Call Command Reply Input Phase Result) (phase : Phase)
    (pool' : Pool Shared Command Reply Input Phase Result) : Prop where
  member : call ∈ pool.calls
  back : ∀ other ∈ pool'.calls,
    other ∈ pool.calls ∨ other.input = call.input ∧ other.phase = phase
  forth : ∀ other ∈ pool.calls, other ∈ pool'.calls ∨ other = call
  self : ∃ other ∈ pool'.calls, other.input = call.input ∧ other.phase = phase
  countP : ∀ counted : Input → Phase → Bool,
    (pool'.calls.countP fun other => counted other.input other.phase) +
        (if counted call.input call.phase then 1 else 0) =
      (pool.calls.countP fun other => counted other.input other.phase) +
        (if counted call.input phase then 1 else 0)
  sum : ∀ weight : Input → Phase → Nat,
    (pool'.calls.map fun other => weight other.input other.phase).sum +
        weight call.input call.phase =
      (pool.calls.map fun other => weight other.input other.phase).sum + weight call.input phase

theorem goes_resume {pool : Pool Shared Command Reply Input Phase Result} {index : Nat}
    {call : Call Command Reply Input Phase Result} {command : Command}
    {next : Reply command → Program Command Reply Result} {effect : Shared × Reply command}
    (present : pool.calls[index]? = some call) :
    pool.Goes call ((discipline call.input).next call.phase command effect.2)
      (pool.resume discipline index call command next effect) where
  member := List.mem_of_getElem? present
  back other here := by
    refine (List.mem_or_eq_of_mem_set here).imp_right ?_
    rintro rfl
    exact ⟨rfl, rfl⟩
  forth other here := mem_resume_or_eq present here
  self := ⟨_, mem_resume_self present, rfl, rfl⟩
  countP counted := countP_resume present fun other => counted other.input other.phase
  sum weight := sum_resume present fun other => weight other.input other.phase

variable {pool pool' : Pool Shared Command Reply Input Phase Result}
  {call : Call Command Reply Input Phase Result} {phase : Phase}

theorem Goes.countP_input (goes : pool.Goes call phase pool') (counted : Input → Bool) :
    (pool'.calls.countP fun other => counted other.input) =
      pool.calls.countP fun other => counted other.input :=
  Nat.add_right_cancel (goes.countP fun input _ => counted input)

theorem Goes.input (goes : pool.Goes call phase pool') {other : Call Command Reply Input Phase Result}
    (here : other ∈ pool.calls) : ∃ after ∈ pool'.calls, after.input = other.input := by
  rcases goes.forth other here with there | rfl
  · exact ⟨other, there, rfl⟩
  · obtain ⟨self, there, same, _⟩ := goes.self
    exact ⟨self, there, same⟩

/-- What holds of the phase and of all other calls holds of all calls. -/
theorem Goes.forall (goes : pool.Goes call phase pool') {holds : Input → Phase → Prop}
    (moved : holds call.input phase) (others : ∀ other ∈ pool.calls, holds other.input other.phase) :
    ∀ other ∈ pool'.calls, holds other.input other.phase := by
  intro other here
  rcases goes.back other here with there | ⟨input, phase⟩
  · exact others other there
  · rw [input, phase]
    exact moved

end Goes

section Ended

variable {pool : Pool Shared Command Reply Input Phase Result} {index : Nat}
  {call : Call Command Reply Input Phase Result}

/-- The call at `index` has ended, and is `call`. -/
structure Ended (pool : Pool Shared Command Reply Input Phase Result) (index : Nat)
    (call : Call Command Reply Input Phase Result) : Prop where
  present : pool.calls[index]? = some call
  outcome : call.program.outcome? ≠ none

section

variable (ended : pool.Ended index call)
include ended

theorem Ended.not_await {command : Command} {next : Reply command → Program Command Reply Result} :
    call.program ≠ .await command next := by
  intro awaits
  exact ended.outcome (congrArg Program.outcome? awaits)

theorem Ended.start (input : Input) :
    (pool.start host first input).Ended index call := by
  obtain ⟨bound, _⟩ := List.getElem?_eq_some_iff.mp ended.present
  exact ⟨(List.getElem?_append_left bound).trans ended.present, ended.outcome⟩

theorem Ended.resume {other : Nat} {runner : Call Command Reply Input Phase Result}
    {command : Command} {next : Reply command → Program Command Reply Result}
    {effect : Shared × Reply command} (present : pool.calls[other]? = some runner)
    (awaits : runner.program = .await command next) :
    (pool.resume discipline other runner command next effect).Ended index call := by
  refine ⟨?_, ended.outcome⟩
  rw [getElem?_resume present, if_neg]
  · exact ended.present
  · rintro rfl
    cases present.symm.trans ended.present
    exact ended.not_await awaits

/-- A call that has ended stays as it is. -/
theorem Ended.step (event : Event Oracle Change Input) :
    (pool.step host discipline first event).Ended index call := by
  cases event with
  | change => exact ⟨ended.present, ended.outcome⟩
  | start input => exact ended.start input
  | run other oracle =>
    rcases @step_run_or_await _ _ _ _ _ _ _ _ host discipline first pool other oracle with
      idle | ⟨runner, command, next, present, awaits⟩
    · rw [idle]
      exact ended
    · rw [step_run_of_await oracle present awaits]
      exact ended.resume present awaits

theorem Ended.run (events : List (Event Oracle Change Input)) :
    ((machine host discipline first).run pool events).Ended index call := by
  induction events generalizing pool with
  | nil => exact ended
  | cons event rest ih => exact ih (ended.step event)

end

end Ended

section Apart

variable {except : Nat → Prop} {holds : Phase → Prop}
  {pool : Pool Shared Command Reply Input Phase Result}

/-- The calls of `except` have ended; the others are in phases of `holds`. -/
structure Apart (except : Nat → Prop) (holds : Phase → Prop)
    (pool : Pool Shared Command Reply Input Phase Result) : Prop where
  ended : ∀ index, except index → ∃ call, pool.Ended index call
  others : ∀ (index : Nat) (call : Call Command Reply Input Phase Result),
    pool.calls[index]? = some call → ¬ except index → holds call.phase

theorem Apart.mono {holds' : Phase → Prop} (apart : pool.Apart except holds)
    (implies : ∀ phase, holds phase → holds' phase) : pool.Apart except holds' :=
  ⟨apart.ended, fun index call present other => implies _ (apart.others index call present other)⟩

/-- A call that awaits something is one of the others. -/
theorem Apart.of_await (apart : pool.Apart except holds) {index : Nat}
    {call : Call Command Reply Input Phase Result} {command : Command}
    {next : Reply command → Program Command Reply Result}
    (present : pool.calls[index]? = some call) (awaits : call.program = .await command next) :
    holds call.phase := by
  refine apart.others index call present fun member => ?_
  obtain ⟨same, ended⟩ := apart.ended index member
  cases present.symm.trans ended.present
  exact ended.not_await awaits

theorem Apart.start (apart : pool.Apart except holds) {input : Input}
    (initial : holds (first input)) : (pool.start host first input).Apart except holds := by
  constructor
  · intro index member
    obtain ⟨call, ended⟩ := apart.ended index member
    exact ⟨call, ended.start input⟩
  · intro index call present other
    rcases getElem?_start present with earlier | rfl
    · exact apart.others index call earlier other
    · exact initial

theorem Apart.change (apart : pool.Apart except holds) (shared : Shared) :
    { pool with shared : Pool Shared Command Reply Input Phase Result }.Apart except holds :=
  ⟨fun index member =>
    let ⟨call, ended⟩ := apart.ended index member
    ⟨call, ended.present, ended.outcome⟩, apart.others⟩

theorem Apart.resume (apart : pool.Apart except holds) {holds' : Phase → Prop} {index : Nat}
    {call : Call Command Reply Input Phase Result} {command : Command}
    {next : Reply command → Program Command Reply Result} {effect : Shared × Reply command}
    (present : pool.calls[index]? = some call) (awaits : call.program = .await command next)
    (implies : ∀ phase, holds phase → holds' phase)
    (moved : holds' ((discipline call.input).next call.phase command effect.2)) :
    (pool.resume discipline index call command next effect).Apart except holds' := by
  constructor
  · intro other member
    obtain ⟨ended, was⟩ := apart.ended other member
    exact ⟨ended, was.resume present awaits⟩
  · intro other call' present' free
    rw [getElem?_resume present] at present'
    split at present'
    · cases present'
      exact moved
    · exact implies _ (apart.others other call' present' free)

end Apart

section Exclusive

variable {claims : Phase → Prop} {pool : Pool Shared Command Reply Input Phase Result}

/-- At most one call is in a phase of `claims`. -/
def Exclusive (claims : Phase → Prop) (pool : Pool Shared Command Reply Input Phase Result) :
    Prop :=
  ∀ (index other : Nat) (call call' : Call Command Reply Input Phase Result),
    pool.calls[index]? = some call → pool.calls[other]? = some call' →
      claims call.phase → claims call'.phase → index = other

theorem Exclusive.start (exclusive : pool.Exclusive claims) {input : Input}
    (idle : ¬ claims (first input)) : (pool.start host first input).Exclusive claims := by
  intro index other call call' present present' claimed claimed'
  rcases getElem?_start present with earlier | rfl
  · rcases getElem?_start present' with earlier' | rfl
    · exact exclusive index other call call' earlier earlier' claimed claimed'
    · exact absurd claimed' idle
  · exact absurd claimed idle

/-- A call may claim anew only when no call does. -/
theorem Exclusive.resume (exclusive : pool.Exclusive claims) {index : Nat}
    {call : Call Command Reply Input Phase Result} {command : Command}
    {next : Reply command → Program Command Reply Result} {effect : Shared × Reply command}
    (present : pool.calls[index]? = some call)
    (fair : claims ((discipline call.input).next call.phase command effect.2) →
      claims call.phase ∨ ∀ other ∈ pool.calls, ¬ claims other.phase) :
    (pool.resume discipline index call command next effect).Exclusive claims := by
  intro one two call₁ call₂ present₁ present₂ claimed₁ claimed₂
  rw [getElem?_resume present] at present₁ present₂
  by_cases first : index = one
  · by_cases second : index = two
    · exact first.symm.trans second
    · rw [if_pos first] at present₁
      rw [if_neg second] at present₂
      cases present₁
      rcases fair claimed₁ with held | none
      · exact absurd (exclusive index two call call₂ present present₂ held claimed₂) second
      · exact absurd claimed₂ (none call₂ (List.mem_of_getElem? present₂))
  · rw [if_neg first] at present₁
    by_cases second : index = two
    · rw [if_pos second] at present₂
      cases present₂
      rcases fair claimed₂ with held | none
      · exact absurd (exclusive index one call call₁ present present₁ held claimed₁) first
      · exact absurd claimed₁ (none call₁ (List.mem_of_getElem? present₁))
    · rw [if_neg second] at present₂
      exact exclusive one two call₁ call₂ present₁ present₂ claimed₁ claimed₂

end Exclusive

section Bare

def bare (pool : Pool Shared Command Reply Input Phase Result) :
    Shared × List (Input × Program Command Reply Result) :=
  (pool.shared, pool.calls.map fun call => (call.input, call.program))

variable (host) in
/-- One event of a pool without phases. -/
def bareStep (pool : Shared × List (Input × Program Command Reply Result)) :
    Event Oracle Change Input → Shared × List (Input × Program Command Reply Result)
  | .start input => (pool.1, pool.2 ++ [(input, host.body input)])
  | .change change => (host.change pool.1 change, pool.2)
  | .run index oracle =>
    match pool.2[index]? with
    | some (input, .await command next) =>
      let effect := host.exec pool.1 command oracle
      (effect.1, pool.2.set index (input, next effect.2))
    | _ => pool

variable {Phase' : Type} {discipline' : Input → Discipline Command Reply Phase'}
  {first' : Input → Phase'} {pool' : Pool Shared Command Reply Input Phase' Result}
  (pool : Pool Shared Command Reply Input Phase Result)

theorem getElem?_bare (index : Nat) :
    pool.bare.2[index]? = pool.calls[index]?.map fun call => (call.input, call.program) :=
  List.getElem?_map

theorem bare_step (event : Event Oracle Change Input) :
    (pool.step host discipline first event).bare = bareStep host pool.bare event := by
  cases event with
  | start input => simp [step, start, bare, bareStep]
  | change change => rfl
  | run index oracle =>
    cases present : pool.calls[index]? with
    | none => simp [step, bareStep, getElem?_bare, present]
    | some call =>
      cases awaits : call.program with
      | result | failure => simp [step, bareStep, getElem?_bare, present, awaits]
      | await command next =>
        rw [step_run_of_await oracle present awaits]
        simp only [bareStep, getElem?_bare, present, awaits, Option.map_some]
        simp [bare, resume]

theorem bare_step_congr {pool : Pool Shared Command Reply Input Phase Result}
    (same : pool.bare = pool'.bare) (event : Event Oracle Change Input) :
    (pool.step host discipline first event).bare =
      (pool'.step host discipline' first' event).bare := by
  calc (pool.step host discipline first event).bare
      = bareStep host pool.bare event := bare_step pool event
    _ = bareStep host pool'.bare event := by rw [same]
    _ = (pool'.step host discipline' first' event).bare := (bare_step pool' event).symm

/-- Pools that differ only in phases and disciplines stay so. -/
theorem bare_run {pool : Pool Shared Command Reply Input Phase Result}
    (same : pool.bare = pool'.bare) (events : List (Event Oracle Change Input)) :
    ((machine host discipline first).run pool events).bare =
      ((machine host discipline' first').run pool' events).bare := by
  induction events generalizing pool pool' with
  | nil => exact same
  | cons event rest ih => exact ih (bare_step_congr same event)

theorem admits_bare {guard : Shared × List (Input × Program Command Reply Result) →
      Event Oracle Change Input → Prop}
    {pool : Pool Shared Command Reply Input Phase Result} (same : pool.bare = pool'.bare)
    {events : List (Event Oracle Change Input)}
    (admits : (machine host discipline first).Admits (fun pool => guard pool.bare) pool events) :
    (machine host discipline' first').Admits (fun pool => guard pool.bare) pool' events := by
  induction events generalizing pool pool' with
  | nil => trivial
  | cons event rest ih =>
    have guarded : guard pool.bare event := admits.1
    rw [same] at guarded
    exact ⟨guarded, ih (bare_step_congr same event) admits.2⟩

/-- The same pool with every call in one phase. -/
def relabel {Phase' : Type} (pool : Pool Shared Command Reply Input Phase Result) (phase : Phase') :
    Pool Shared Command Reply Input Phase' Result where
  shared := pool.shared
  calls := pool.calls.map fun call => ⟨call.input, phase, call.program⟩

theorem bare_relabel (phase : Phase') : (pool.relabel phase).bare = pool.bare := by
  simp [bare, relabel]

end Bare

end Pool

end Async
