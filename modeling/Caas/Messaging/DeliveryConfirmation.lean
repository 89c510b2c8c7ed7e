import Caas.Async.Pool
import Caas.Redis.ExpiringMap

/-!
# Confirming that a message is persisted

The status of a message is one record in Redis. A message is tracked as pending, with a timer;
its persistence is confirmed, or it is marked as failed, or the timer fires. A retry makes it
pending again.

`JSON.stringify` and `JSON.parse` of a status are the identity. Redis does not fail, except that
an expiry in seconds has to be an integer. The code between two awaits is part of the reply to the
first, which comes with the time; an operation that begins with a write is given the time at which
it begins. What an operation emits at its end is what it returns. Setting and clearing the timer
are steps of their own, and the timeout of a message may run at any time: this allows more
interleavings than the code has.
-/

namespace Caas.Messaging

open Async Program Js Redis OrderedMap

inductive Delivery where
  | pending
  | persisted
  | failed
deriving DecidableEq

structure DeliveryStatus where
  messageId : String
  status : Delivery
  timestamp : Nat
  error : Option String := none
  retries : Option Nat := none
deriving DecidableEq

/-- What is emitted about a message. -/
inductive DeliveryNotice where
  | persisted (messageId : String) (socketId : Option String)
  | persistFailed (messageId : String) (socketId : Option String) (error : String)
  | timeout (messageId : String) (socketId : Option String)
  | retry (messageId : String) (retryCount : Nat)
deriving DecidableEq

structure DeliveryConfirmationConfig where
  timeoutMs : Nat
  maxRetries : Nat

/-- `config.timeoutMs || 5000`. -/
def DeliveryConfirmationConfig.timeout (config : DeliveryConfirmationConfig) : Nat :=
  if config.timeoutMs = 0 then 5000 else config.timeoutMs

/-- `config.maxRetries || 3`. -/
def DeliveryConfirmationConfig.retries (config : DeliveryConfirmationConfig) : Nat :=
  if config.maxRetries = 0 then 3 else config.maxRetries

structure Timer where
  id : Nat
  messageId : String
  due : Nat
deriving DecidableEq

/-- The keys in Redis, by message, and the timers of the process. -/
structure ConfirmationState where
  now : Nat
  statuses : ExpiringMap String DeliveryStatus
  sockets : ExpiringMap String String
  timers : List Timer
  pendingConfirmations : OrderedMap String Nat
  nextTimer : Nat

inductive ConfirmationCommand where
  | get (messageId : String)
  /-- The expiry is in milliseconds, `setex` takes it in seconds. -/
  | setex (messageId : String) (expiry : Nat) (status : DeliveryStatus)
  | getSocket (messageId : String)
  | setexSocket (messageId : String) (expiry : Nat) (socketId : String)
  | setTimeout (messageId : String) (delay : Nat)
  | clearTimeout (messageId : String)
  | timeoutFired (messageId : String)

def ConfirmationCommand.Reply : ConfirmationCommand → Type
  | .get _ => Option DeliveryStatus × Nat
  | .setex _ _ _ => Outcome Unit
  | .getSocket _ => Option String
  | .setexSocket _ _ _ => Outcome Unit
  | .setTimeout _ _ => Unit
  | .clearTimeout _ => Unit
  | .timeoutFired _ => Unit

abbrev ConfirmationProgram := Program ConfirmationCommand ConfirmationCommand.Reply

def await (command : ConfirmationCommand) : ConfirmationProgram command.Reply :=
  Program.command command

def WholeSeconds (expiry : Nat) : Prop := 0 < expiry ∧ expiry % 1000 = 0

instance (expiry : Nat) : Decidable (WholeSeconds expiry) :=
  inferInstanceAs (Decidable (_ ∧ _))

def invalidExpiry : String := "ERR value is not an integer or out of range"

def exec (state : ConfirmationState) (command : ConfirmationCommand) (_ : Unit) :
    ConfirmationState × command.Reply :=
  match command with
  | .get messageId => (state, (state.statuses.lookup state.now messageId, state.now))
  | .setex messageId expiry status =>
    if WholeSeconds expiry then
      ({ state with statuses := state.statuses.store state.now messageId (expiry / 1000) status },
        .ok ())
    else (state, .error invalidExpiry)
  | .getSocket messageId => (state, state.sockets.lookup state.now messageId)
  | .setexSocket messageId expiry socketId =>
    if WholeSeconds expiry then
      ({ state with sockets := state.sockets.store state.now messageId (expiry / 1000) socketId },
        .ok ())
    else (state, .error invalidExpiry)
  | .setTimeout messageId delay =>
    ({ state with
      timers := state.timers ++ [{ id := state.nextTimer, messageId, due := state.now + delay }]
      pendingConfirmations :=
        set state.pendingConfirmations messageId state.nextTimer
      nextTimer := state.nextTimer + 1 }, ())
  | .clearTimeout messageId =>
    match get state.pendingConfirmations messageId with
    | none => (state, ())
    | some timeout =>
      ({ state with
        timers := state.timers.filter fun timer => timer.id ≠ timeout
        pendingConfirmations := delete state.pendingConfirmations messageId }, ())
  | .timeoutFired messageId =>
    ({ state with
      pendingConfirmations := delete state.pendingConfirmations messageId }, ())

namespace RedisClient

def get (messageId : String) : ConfirmationProgram (Option DeliveryStatus × Nat) :=
  await (.get messageId)

def setex (messageId : String) (expiry : Nat) (status : DeliveryStatus) :
    ConfirmationProgram Unit := do
  let stored : Outcome Unit ← await (.setex messageId expiry status)
  orThrow stored

def getSocket (messageId : String) : ConfirmationProgram (Option String) :=
  await (.getSocket messageId)

def setexSocket (messageId : String) (expiry : Nat) (socketId : String) :
    ConfirmationProgram Unit := do
  let stored : Outcome Unit ← await (.setexSocket messageId expiry socketId)
  orThrow stored

end RedisClient

/-- Clear the timeout that is pending for the message, if there is one. -/
def clearTimeout (messageId : String) : ConfirmationProgram Unit := await (.clearTimeout messageId)

variable (config : DeliveryConfirmationConfig)

namespace DeliveryConfirmationTracker

/-- Slightly longer than the timeout. -/
def pendingExpiry : Nat := config.timeout + 60 * 1000

def auditExpiry : Nat := 3600 * 1000

def trackMessage (messageId socketId : String) (now : Nat) :
    ConfirmationProgram (List DeliveryNotice) := do
  RedisClient.setex messageId (pendingExpiry config)
    { messageId, status := .pending, timestamp := now, retries := some 0 }
  RedisClient.setexSocket messageId (pendingExpiry config) socketId
  let _ : Unit ← await (.setTimeout messageId config.timeout)
  pure []

def confirmPersistence (messageId : String) : ConfirmationProgram (List DeliveryNotice) := do
  clearTimeout messageId
  let (statusData, now) ← RedisClient.get messageId
  match statusData with
  | none => pure []
  | some status => do
    RedisClient.setex messageId auditExpiry { status with status := .persisted, timestamp := now }
    let socketId ← RedisClient.getSocket messageId
    pure [.persisted messageId socketId]

/-- The retry that is emitted after a failure, if there is one left. -/
def retryNotices (messageId : String) (status : DeliveryStatus) : List DeliveryNotice :=
  if status.retries.getD 0 < config.retries then [.retry messageId (status.retries.getD 0 + 1)]
  else []

def markFailed (messageId error : String) : ConfirmationProgram (List DeliveryNotice) := do
  clearTimeout messageId
  let (statusData, now) ← RedisClient.get messageId
  match statusData with
  | none => pure []
  | some status => do
    RedisClient.setex messageId auditExpiry
      { status with status := .failed, timestamp := now, error := some error }
    let socketId ← RedisClient.getSocket messageId
    pure (.persistFailed messageId socketId error :: retryNotices config messageId status)

def handleTimeout (messageId : String) : ConfirmationProgram (List DeliveryNotice) := do
  let _ : Unit ← await (.timeoutFired messageId)
  let (statusData, now) ← RedisClient.get messageId
  match statusData with
  | none => pure []
  | some status =>
    if status.status = .pending then do
      RedisClient.setex messageId auditExpiry
        { status with
          status := .failed, timestamp := now, error := some "Persistence confirmation timeout" }
      let socketId ← RedisClient.getSocket messageId
      pure (.timeout messageId socketId :: retryNotices config messageId status)
    else pure []

def incrementRetry (messageId : String) : ConfirmationProgram (List DeliveryNotice) := do
  let (statusData, now) ← RedisClient.get messageId
  match statusData with
  | none => pure []
  | some status => do
    RedisClient.setex messageId (pendingExpiry config)
      { status with
        retries := some (status.retries.getD 0 + 1), status := .pending, timestamp := now }
    pure []

end DeliveryConfirmationTracker

open DeliveryConfirmationTracker

inductive ConfirmationOperation where
  | trackMessage (messageId socketId : String) (now : Nat)
  | confirmPersistence (messageId : String)
  | markFailed (messageId error : String)
  | handleTimeout (messageId : String)
  | incrementRetry (messageId : String)

def ConfirmationOperation.messageId : ConfirmationOperation → String
  | .trackMessage messageId _ _ | .confirmPersistence messageId | .markFailed messageId _
  | .handleTimeout messageId | .incrementRetry messageId => messageId

def body : ConfirmationOperation → ConfirmationProgram (List DeliveryNotice)
  | .trackMessage messageId socketId now => trackMessage config messageId socketId now
  | .confirmPersistence messageId => confirmPersistence messageId
  | .markFailed messageId error => markFailed config messageId error
  | .handleTimeout messageId => handleTimeout config messageId
  | .incrementRetry messageId => incrementRetry config messageId

/-- The operations on the statuses of messages; time passes between commands. -/
def host : Host ConfirmationState ConfirmationCommand ConfirmationCommand.Reply Unit Nat
    ConfirmationOperation (List DeliveryNotice) where
  exec := exec
  change state elapsed := { state with now := state.now + elapsed }
  body := body config

end Caas.Messaging
