import Caas.Machine.Transducer
import Caas.Redis.ExpiringMap

/-!
# The change stream manager

One change stream with its handler. A stream reads the resume token from Redis, is opened after
it or, without one, at the present end of the events, and hands its events to the handler one by
one without waiting. A handler that succeeds stores the token of its event; whatever goes wrong
on the way is logged and forgotten. An error closes the stream, which is then started again; a
crash also ends the handlers that run.

Events are numbered as they occur, and an event's number is its resume token. Commands to Redis
may fail at any time.
-/

namespace Caas.Mongo.ChangeStreams

open Redis

/-- The stream: closed, waiting for its token, about to be opened, or open, with the first event
it was to deliver and the next one. -/
inductive Stream where
  | closed
  | starting
  | tokenRead (resumeToken : Option Nat)
  | isOpen (first next : Nat)
deriving DecidableEq

inductive HandlerPhase where
  | handling
  | storing
  | ended
deriving DecidableEq

/-- A call of `handleChange`. -/
structure HandlerRun where
  event : Nat
  phase : HandlerPhase := .handling
deriving DecidableEq

/-- The name of the stream and the settings of the token store. -/
structure StreamConfig where
  name : String
  keyPrefix : String := "changestream:token"
  ttlSeconds : Int := 86400

/-- The stream, its handlers and its tokens in Redis. `registered` is the event at which the
stream was first opened, `succeeded` lists the events that a handler has completed. -/
structure StreamState where
  occurred : Nat := 0
  stream : Stream := .closed
  runs : List HandlerRun := []
  tokens : ExpiringMap String Nat
  now : Nat := 0
  registered : Option Nat := none
  succeeded : List Nat := []

def initial : StreamState := { tokens := .empty }

variable (config : StreamConfig)

def getCacheKey : String := config.keyPrefix ++ ":" ++ config.name

inductive Event where
  | occur
  | start
  | readToken
  | readFails
  | openStream
  | deliver
  | handlerSucceeds (index : Nat)
  | handlerFails (index : Nat)
  | tokenStored (index : Nat)
  | storeFails (index : Nat)
  | streamError
  | crash
  | elapse (milliseconds : Nat)

/-- The token of the stream that exists now. -/
def StreamState.token (state : StreamState) : Option Nat :=
  state.tokens.lookup state.now (getCacheKey config)

/-- `storeToken(name, token)`, when Redis is reached; it refuses a time that is not positive. -/
def StreamState.storeToken (state : StreamState) (token : Nat) : StreamState :=
  if 0 < config.ttlSeconds then
    let seconds := config.ttlSeconds.toNat
    { state with tokens := state.tokens.store state.now (getCacheKey config) seconds token }
  else state

/-- `collection.watch(pipeline, options)`. -/
def StreamState.watch (state : StreamState) (resumeToken : Option Nat) : StreamState :=
  let first := (resumeToken.map (· + 1)).getD state.occurred
  { state with stream := .isOpen first first, registered := state.registered.or (some first) }

/-- A run that is in `phase` goes on to `next`. -/
def StreamState.move (state : StreamState) (index : Nat) (run : HandlerRun)
    (next : HandlerPhase) : StreamState :=
  { state with runs := state.runs.set index { run with phase := next } }

def happen (state : StreamState) : Event → StreamState
  | .occur => { state with occurred := state.occurred + 1 }
  | .start => if state.stream = .closed then { state with stream := .starting } else state
  | .readToken =>
    if state.stream = .starting then { state with stream := .tokenRead (state.token config) }
    else state
  | .readFails =>
    if state.stream = .starting then { state with stream := .tokenRead none } else state
  | .openStream =>
    match state.stream with
    | .tokenRead resumeToken => state.watch resumeToken
    | _ => state
  | .deliver =>
    match state.stream with
    | .isOpen first next =>
      if next < state.occurred then
        { state with stream := .isOpen first (next + 1), runs := state.runs ++ [⟨next, .handling⟩] }
      else state
    | _ => state
  | .handlerSucceeds index =>
    match state.runs[index]? with
    | some run =>
      if run.phase = .handling then
        { state.move index run .storing with succeeded := run.event :: state.succeeded }
      else state
    | none => state
  | .handlerFails index =>
    match state.runs[index]? with
    | some run => if run.phase = .handling then state.move index run .ended else state
    | none => state
  | .tokenStored index =>
    match state.runs[index]? with
    | some run =>
      if run.phase = .storing then (state.storeToken config run.event).move index run .ended
      else state
    | none => state
  | .storeFails index =>
    match state.runs[index]? with
    | some run => if run.phase = .storing then state.move index run .ended else state
    | none => state
  | .streamError => { state with stream := .closed }
  | .crash => { state with stream := .closed, runs := [] }
  | .elapse milliseconds => { state with now := state.now + milliseconds }

def machine : Transducer StreamState Event Unit where
  step state event := (happen config state event, ())

end Caas.Mongo.ChangeStreams
