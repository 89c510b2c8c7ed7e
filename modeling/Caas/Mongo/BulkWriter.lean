import Caas.Machine.Transducer

/-!
# The bulk writer

Operations are collected in a buffer. A flush takes the buffer and starts a bulk write of it;
flushes are started by size, by the timer, by a caller and by the shutdown, which alone waits
for its own. A bulk write applies its operations in order, one at a time while others are in
flight, and ends well when all are applied or fails after any number of them.

Every operation is numbered as it is submitted, and the log of what was submitted is kept beside
the writer, as are the operations that the database has applied.
-/

namespace Caas.Mongo

namespace BulkWriter

variable {α : Type}

inductive BulkWriteOperation (α : Type) where
  | insertOne (document : α)
  | updateOne (filter update : α) (upsert : Bool)
  | deleteOne (filter : α)
deriving DecidableEq

/-- An operation with its place among all that were submitted. -/
structure Submission (α : Type) where
  number : Nat
  operation : BulkWriteOperation α
deriving DecidableEq

structure BulkWriterOptions where
  batchSize : Option Int := none
  flushIntervalMs : Option Int := none
  ordered : Option Bool := none

inductive WriteStatus where
  | pending
  | succeeded
  | failed
deriving DecidableEq

/-- A call of `bulkWrite`: its operations, how many are applied, how it stands and whether the
shutdown waits for it. -/
structure BulkWrite (α : Type) where
  operations : List (Submission α)
  applied : Nat := 0
  status : WriteStatus := .pending
  byShutdown : Bool

/-- The operations it has still to apply. -/
def BulkWrite.left (write : BulkWrite α) : List (Submission α) :=
  write.operations.drop write.applied

/-- The writer, the bulk writes it has started, and the database. -/
structure WriterState (α : Type) where
  buffer : List (Submission α) := []
  batchSize : Int
  flushIntervalMs : Int
  ordered : Bool
  lastFlushTime : Nat
  flushTimer : Bool := true
  isShuttingDown : Bool := false
  shutdownCompleted : Bool := false
  submitted : List (Submission α) := []
  bulkWrites : List (BulkWrite α) := []
  applied : List (Submission α) := []
  now : Nat

/-- `new BulkWriter(collection, options)`; zero counts as no option. -/
def create (options : BulkWriterOptions) (now : Nat) : WriterState α where
  batchSize := (options.batchSize.filter (· ≠ 0)).getD 1000
  flushIntervalMs := (options.flushIntervalMs.filter (· ≠ 0)).getD 1000
  ordered := options.ordered ≠ some false
  lastFlushTime := now
  now := now

namespace WriterState

/-- The part of `flush` before its `await`. -/
def flush (state : WriterState α) (byShutdown : Bool) : WriterState α :=
  if state.buffer = [] then state
  else
    { state with
      buffer := []
      lastFlushTime := state.now
      bulkWrites := state.bulkWrites ++ [{ operations := state.buffer, byShutdown }] }

def checkFlush (state : WriterState α) : WriterState α :=
  if state.batchSize ≤ state.buffer.length then state.flush false else state

/-- `buffer.push(operation)`. -/
def push (state : WriterState α) (operation : BulkWriteOperation α) : WriterState α :=
  let submission : Submission α := ⟨state.submitted.length, operation⟩
  { state with
    buffer := state.buffer ++ [submission]
    submitted := state.submitted ++ [submission] }

def insert (state : WriterState α) (document : α) : WriterState α :=
  (state.push (.insertOne document)).checkFlush

def update (state : WriterState α) (filter update : α) (upsert : Bool) : WriterState α :=
  (state.push (.updateOne filter update upsert)).checkFlush

def delete (state : WriterState α) (filter : α) : WriterState α :=
  (state.push (.deleteOne filter)).checkFlush

/-- The callback of the flush timer. -/
def timer (state : WriterState α) : WriterState α :=
  if state.flushTimer ∧ state.flushIntervalMs ≤ state.now - state.lastFlushTime ∧
    state.buffer ≠ [] then state.flush false
  else state

/-- A second shutdown, and one with nothing to flush, completes at once. -/
def shutdown (state : WriterState α) : WriterState α :=
  if state.isShuttingDown then { state with shutdownCompleted := true }
  else
    let stopped := { state with isShuttingDown := true, flushTimer := false }
    if stopped.buffer = [] then { stopped with shutdownCompleted := true }
    else stopped.flush true

/-- A bulk write applies its next operation. -/
def applyNext (state : WriterState α) (index : Nat) : WriterState α :=
  match state.bulkWrites[index]? with
  | some write =>
    match write.status, write.left with
    | .pending, next :: _ =>
      { state with
        bulkWrites := state.bulkWrites.set index { write with applied := write.applied + 1 }
        applied := state.applied ++ [next] }
    | _, _ => state
  | none => state

/-- A bulk write that has applied everything succeeds. -/
def succeed (state : WriterState α) (index : Nat) : WriterState α :=
  match state.bulkWrites[index]? with
  | some write =>
    match write.status, write.left with
    | .pending, [] =>
      { state with
        bulkWrites := state.bulkWrites.set index { write with status := .succeeded }
        shutdownCompleted := state.shutdownCompleted || write.byShutdown }
    | _, _ => state
  | none => state

/-- A bulk write fails; a flush that fails throws, and its operations are in no buffer. -/
def fail (state : WriterState α) (index : Nat) : WriterState α :=
  match state.bulkWrites[index]? with
  | some write =>
    match write.status with
    | .pending =>
      { state with bulkWrites := state.bulkWrites.set index { write with status := .failed } }
    | _ => state
  | none => state

end WriterState

/-- What callers, the timer and the database do. -/
inductive Event (α : Type) where
  | insert (document : α)
  | update (filter update : α) (upsert : Bool)
  | delete (filter : α)
  | flush
  | timer
  | shutdown
  | applyNext (index : Nat)
  | succeed (index : Nat)
  | fail (index : Nat)
  | elapse (milliseconds : Nat)

def happen (state : WriterState α) : Event α → WriterState α
  | .insert document => state.insert document
  | .update filter update upsert => state.update filter update upsert
  | .delete filter => state.delete filter
  | .flush => state.flush false
  | .timer => state.timer
  | .shutdown => state.shutdown
  | .applyNext index => state.applyNext index
  | .succeed index => state.succeed index
  | .fail index => state.fail index
  | .elapse milliseconds => { state with now := state.now + milliseconds }

def machine : Transducer (WriterState α) (Event α) Unit where
  step state event := (happen state event, ())

end BulkWriter

end Caas.Mongo
