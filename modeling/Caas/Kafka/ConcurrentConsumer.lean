import Caas.Machine.Transducer

/-!
# The offsets of a concurrent consumer

`ConcurrentConsumer` works on a batch in chunks. The handlers of a chunk are started one after
another; one whose message is empty, or does not parse, is over at once, and the others finish in
any order. A handler that succeeds resolves the offset of its message, after which consumption
would go on behind it; a failure is only logged.

`commitsSafely_iff` says in which runs no unprocessed message is passed over. Messages are told
apart by their places in the batch; the metrics are left out.
-/

namespace Caas.Kafka

/-- A batch and its consumer; `parses` is that `JSON.parse` throws nothing. -/
structure ConcurrentBatch where
  messages : List (Option String)
  parses : String → Bool
  concurrency : Nat

/-- What is done with the messages of a batch. -/
inductive BatchAct where
  | processed (index : Nat)
  | failed (index : Nat)
  | resolved (index : Nat)
deriving DecidableEq

inductive BatchPhase where
  | looping
  | inChunk
  | over
deriving DecidableEq

/-- The variable of the loop, the number of handlers that have been started, those of them that are
still processing, and what has been done. -/
structure BatchState where
  i : Nat := 0
  started : Nat := 0
  inFlight : List Nat := []
  log : List BatchAct := []
  phase : BatchPhase := .looping
deriving DecidableEq

/-- What happens next: the head of the loop with its test of `isRunning` and `isStale`, the start of
the next handler of a chunk, the end of the processing of a message, and the heartbeat. -/
inductive BatchEvent where
  | iterate (goesOn : Bool)
  | start
  | finish (index : Nat) (ok : Bool)
  | heartbeat (ok : Bool)
deriving DecidableEq

namespace ConcurrentConsumer

variable (batch : ConcurrentBatch)

/-- The end of the chunk that begins at `i`. -/
def chunkEnd (state : BatchState) : Nat := min (state.i + batch.concurrency) batch.messages.length

/-- What a handler makes of a message before it awaits anything: an empty one is processed, and one
that does not parse has failed. -/
def immediately (index : Nat) : Option Bool :=
  match (batch.messages[index]?).join.filter (· ≠ "") with
  | none => some true
  | some value => if batch.parses value then none else some false

/-- What is done at the end of a handler. -/
def ending (index : Nat) (ok : Bool) : List BatchAct :=
  if ok then [.processed index, .resolved index] else [.failed index]

def settle (state : BatchState) (index : Nat) (ok : Bool) : BatchState :=
  { state with log := state.log ++ ending index ok }

/-- The next handler runs until it awaits the processing of its message. -/
def startHandler (state : BatchState) : BatchState :=
  let next := { state with started := state.started + 1 }
  match immediately batch state.started with
  | some ok => settle next state.started ok
  | none => { next with inFlight := state.inFlight ++ [state.started] }

/-- `eachBatch`; what cannot happen changes nothing. -/
def advance (state : BatchState) : BatchEvent → BatchState
  | .iterate goesOn =>
    if state.phase = .looping then
      { state with
        phase := if state.i < batch.messages.length ∧ goesOn then .inChunk else .over }
    else state
  | .start =>
    if state.phase = .inChunk ∧ state.started < chunkEnd batch state then startHandler batch state
    else state
  | .finish index ok =>
    if state.phase = .inChunk ∧ chunkEnd batch state ≤ state.started ∧ index ∈ state.inFlight then
      settle { state with inFlight := state.inFlight.erase index } index ok
    else state
  | .heartbeat ok =>
    if state.phase = .inChunk ∧ chunkEnd batch state ≤ state.started ∧ state.inFlight = [] then
      if ok then { state with i := state.i + batch.concurrency, phase := .looping }
      else { state with phase := .over }
    else state

def machine : Transducer BatchState BatchEvent Unit where
  step state event := (advance batch state event, ())

/-- Where the offset of a message is resolved, every earlier message of the batch has been
processed. -/
def CommitsSafely (log : List BatchAct) : Prop :=
  ∀ position index, log[position]? = some (.resolved index) →
    ∀ earlier < index, .processed earlier ∈ log.take position

section Log

variable {log : List BatchAct} {act : BatchAct} {index : Nat}

theorem commitsSafely_concat : CommitsSafely (log ++ [act]) ↔ CommitsSafely log ∧
      ∀ index, act = .resolved index → ∀ earlier < index, .processed earlier ∈ log := by
  constructor
  · intro safe
    refine ⟨fun position index here earlier below => ?_, fun index same earlier below => ?_⟩
    · have inside : position < log.length := (List.getElem?_eq_some_iff.mp here).1
      have kept := safe position index (by rwa [List.getElem?_append_left inside]) earlier below
      rwa [List.take_append_of_le_length (Nat.le_of_lt inside)] at kept
    · have last := safe log.length index (by rw [same, List.getElem?_concat_length]) earlier below
      rwa [List.take_left] at last
  · rintro ⟨safe, last⟩ position index here earlier below
    rcases Nat.lt_trichotomy position log.length with inside | rfl | outside
    · rw [List.getElem?_append_left inside] at here
      rw [List.take_append_of_le_length (Nat.le_of_lt inside)]
      exact safe position index here earlier below
    · rw [List.getElem?_concat_length] at here
      rw [List.take_left]
      exact last index (Option.some.inj here) earlier below
    · rw [List.getElem?_eq_none (by rw [List.length_append]; exact outside)] at here
      cases here

theorem commitsSafely_processed : CommitsSafely (log ++ [.processed index, .resolved index]) ↔
      CommitsSafely log ∧ ∀ earlier < index, .processed earlier ∈ log := by
  have split : log ++ [.processed index, .resolved index] =
      log ++ [.processed index] ++ [.resolved index] := by
    rw [List.append_assoc]
    rfl
  rw [split, commitsSafely_concat, commitsSafely_concat, and_assoc]
  refine and_congr_right fun _ => ?_
  constructor
  · rintro ⟨-, last⟩ earlier below
    have done := last index rfl earlier below
    rw [List.mem_append, List.mem_singleton, BatchAct.processed.injEq] at done
    exact done.resolve_right (Nat.ne_of_lt below)
  · intro before
    refine ⟨(fun _ same => by cases same), fun other same earlier below => ?_⟩
    cases same
    exact List.mem_append_left _ (before earlier below)

theorem commitsSafely_failed : CommitsSafely (log ++ [.failed index]) ↔ CommitsSafely log := by
  rw [commitsSafely_concat]
  exact and_iff_left fun _ same => by cases same

end Log

section Accounting

variable {batch} {state : BatchState} {index : Nat}

/-- Of every message whose handler has been started one thing is true: it is being processed, has
been processed or has failed. Stated in counts, for arithmetic. -/
def Accounted (state : BatchState) : Prop :=
  ∀ index, state.inFlight.count index + state.log.count (.processed index) +
    state.log.count (.failed index) = if index < state.started then 1 else 0

/-- No earlier message is being processed or has failed. -/
def Clear (state : BatchState) (index : Nat) : Prop :=
  ∀ earlier < index, earlier ∉ state.inFlight ∧ .failed earlier ∉ state.log

theorem clear_iff (accounted : Accounted state) (begun : index ≤ state.started) :
    Clear state index ↔ ∀ earlier < index, .processed earlier ∈ state.log := by
  refine forall_congr' fun earlier => forall_congr' fun below => ?_
  have one := accounted earlier
  rw [if_pos (Nat.lt_of_lt_of_le below begun)] at one
  have flying : earlier ∉ state.inFlight ↔ state.inFlight.count earlier = 0 :=
    List.count_eq_zero.symm
  have failed : .failed earlier ∉ state.log ↔ state.log.count (.failed earlier) = 0 :=
    List.count_eq_zero.symm
  rw [flying, failed, ← List.count_pos_iff]
  omega

theorem count_append_ending (log : List BatchAct) (index other : Nat) (ok : Bool) :
    (log ++ ending index ok).count (.processed other) +
        (log ++ ending index ok).count (.failed other) =
      log.count (.processed other) + log.count (.failed other) +
        if index = other then 1 else 0 := by
  unfold ending
  cases ok with
  | true =>
    simp only [List.count_append, if_true, List.count_cons, List.count_nil, beq_iff_eq,
      BatchAct.processed.injEq, reduceCtorEq, if_false]
    omega
  | false =>
    simp only [List.count_append, Bool.false_eq_true, if_false, List.count_cons, List.count_nil,
      beq_iff_eq, BatchAct.failed.injEq, reduceCtorEq]
    omega

theorem accounted_startHandler (accounted : Accounted state) :
    Accounted (startHandler batch state) := by
  intro other
  have before := accounted other
  have further : (if other < state.started + 1 then 1 else 0) =
      (if other < state.started then 1 else 0) + if state.started = other then 1 else 0 := by
    split_ifs <;> omega
  unfold startHandler
  split
  · next ok _ =>
    change state.inFlight.count other + (state.log ++ ending state.started ok).count _ +
      (state.log ++ ending state.started ok).count _ = if other < state.started + 1 then 1 else 0
    rw [Nat.add_assoc, count_append_ending, further]
    omega
  · rw [List.count_append, List.count_singleton, further]
    simp only [beq_iff_eq]
    omega

theorem accounted_finish (accounted : Accounted state) (flying : index ∈ state.inFlight)
    (ok : Bool) :
    Accounted (settle { state with inFlight := state.inFlight.erase index } index ok) := by
  intro other
  have before := accounted other
  have positive := List.count_pos_iff.mpr flying
  change (state.inFlight.erase index).count other + (state.log ++ ending index ok).count _ +
    (state.log ++ ending index ok).count _ = if other < state.started then 1 else 0
  rw [Nat.add_assoc, count_append_ending, List.count_erase, ← before]
  by_cases same : index = other
  · subst same
    simp only [beq_self_eq_true, if_true]
    omega
  · simp only [beq_iff_eq, same, if_false]
    omega

theorem accounted_advance (accounted : Accounted state) (event : BatchEvent) :
    Accounted (advance batch state event) := by
  unfold advance
  cases event with
  | iterate goesOn => dsimp only; split <;> exact accounted
  | start =>
    dsimp only
    split
    · exact accounted_startHandler accounted
    · exact accounted
  | finish index ok =>
    dsimp only
    split
    · next effective => exact accounted_finish accounted effective.2.2 ok
    · exact accounted
  | heartbeat ok =>
    dsimp only
    split
    · split <;> exact accounted
    · exact accounted

/-- The message that an event brings to a success: an empty one whose handler is started, or one
whose processing succeeds. -/
def succeeds (batch : ConcurrentBatch) (state : BatchState) : BatchEvent → Option Nat
  | .start =>
    if state.phase = .inChunk ∧ state.started < chunkEnd batch state ∧
        immediately batch state.started = some true then some state.started
    else none
  | .finish index true =>
    if state.phase = .inChunk ∧ chunkEnd batch state ≤ state.started ∧ index ∈ state.inFlight then
      some index
    else none
  | .iterate _ | .finish _ false | .heartbeat _ => none

/-- A message comes to a success only where no earlier one is being processed or has failed. -/
def InOrder (batch : ConcurrentBatch) (state : BatchState) (event : BatchEvent) : Prop :=
  ∀ index ∈ succeeds batch state event, Clear state index

theorem commitsSafely_settle {ok : Bool} :
    CommitsSafely (settle state index ok).log ↔ CommitsSafely state.log ∧
      (ok = true → ∀ earlier < index, .processed earlier ∈ state.log) := by
  cases ok with
  | true =>
    rw [eq_self, true_implies]
    exact commitsSafely_processed
  | false =>
    refine commitsSafely_failed.trans (and_iff_left fun ok => ?_).symm
    cases ok

theorem commitsSafely_advance (event : BatchEvent) : CommitsSafely (advance batch state event).log ↔
      CommitsSafely state.log ∧ ∀ index ∈ succeeds batch state event,
        ∀ earlier < index, .processed earlier ∈ state.log := by
  have unchanged : CommitsSafely state.log ↔ CommitsSafely state.log ∧
      ∀ index ∈ (none : Option Nat), ∀ earlier < index, .processed earlier ∈ state.log :=
    (and_iff_left fun index there => by cases there).symm
  cases event with
  | iterate goesOn =>
    simp only [advance, succeeds]
    split <;> exact unchanged
  | start =>
    simp only [advance, succeeds]
    by_cases enabled : state.phase = .inChunk ∧ state.started < chunkEnd batch state
    · rw [if_pos enabled]
      unfold startHandler
      cases result : immediately batch state.started with
      | none =>
        rw [if_neg fun success => by cases success.2.2]
        exact unchanged
      | some ok =>
        refine commitsSafely_settle.trans (and_congr_right fun _ => ?_)
        cases ok with
        | false =>
          rw [if_neg fun success => by cases success.2.2]
          exact iff_of_true nofun nofun
        | true =>
          rw [if_pos ⟨enabled.1, enabled.2, rfl⟩]
          simp
    · rw [if_neg enabled, if_neg fun success => enabled ⟨success.1, success.2.1⟩]
      exact unchanged
  | finish index ok =>
    simp only [advance]
    by_cases enabled : state.phase = .inChunk ∧ chunkEnd batch state ≤ state.started ∧
        index ∈ state.inFlight
    · rw [if_pos enabled]
      refine commitsSafely_settle.trans (and_congr_right fun _ => ?_)
      cases ok with
      | false => exact iff_of_true nofun nofun
      | true =>
        rw [succeeds, if_pos enabled]
        simp
    · rw [if_neg enabled]
      cases ok with
      | false => exact unchanged
      | true =>
        rw [succeeds, if_neg enabled]
        exact unchanged
  | heartbeat ok =>
    simp only [advance, succeeds]
    split
    · split <;> exact unchanged
    · exact unchanged

theorem succeeds_le_started (accounted : Accounted state) {event : BatchEvent}
    (success : index ∈ succeeds batch state event) : index ≤ state.started := by
  unfold succeeds at success
  split at success
  · split at success
    · cases success
      exact Nat.le_refl _
    · cases success
  · split at success
    · next enabled =>
      cases success
      have one := accounted index
      have flying := List.count_pos_iff.mpr enabled.2.2
      by_contra later
      rw [if_neg fun below => later (Nat.le_of_lt below)] at one
      omega
    · cases success
  · cases success
  · cases success
  · cases success

/-- The consumer never passes over an unprocessed message exactly in the runs in which messages come
to a success in order. -/
theorem commitsSafely_iff (batch : ConcurrentBatch) (events : List BatchEvent) :
    (∀ count, CommitsSafely ((machine batch).run {} (events.take count)).log) ↔
      (machine batch).Admits (InOrder batch) {} events := by
  refine @Transducer.forall_prefix_iff_admits_of _ _ _ (machine batch) (fun _ _ => True)
    (InOrder batch) Accounted (fun state => CommitsSafely state.log)
    (fun state event accounted _ => accounted_advance accounted event) ?_ {} events
    (Transducer.admits_of_forall (fun _ _ => trivial) _ _) ?_ ?_
  · intro state event accounted _ safe
    refine (commitsSafely_advance event).trans ((and_iff_right safe).trans ?_)
    refine forall_congr' fun index => forall_congr' fun success => ?_
    exact (clear_iff accounted (succeeds_le_started accounted success)).symm
  · intro index
    rw [if_neg (Nat.not_lt_zero index)]
    rfl
  · intro position index here
    cases here

/-- Two messages under way together. -/
def pair : ConcurrentBatch := ⟨[some "{}", some "{}"], fun _ => true, 5⟩

/-- The second of them is processed first. -/
theorem second_first : ¬ CommitsSafely ((machine pair).run {}
      [.iterate true, .start, .start, .finish 1 true]).log := by
  have log : ((machine pair).run {} [.iterate true, .start, .start, .finish 1 true]).log =
      [.processed 1, .resolved 1] := by decide
  rw [log]
  intro safe
  have first := safe 1 1 rfl 0 (by decide)
  revert first
  decide

end Accounting

end ConcurrentConsumer

end Caas.Kafka
