import Caas.Async.Histories
import Caas.Js.Json
import Mathlib.Algebra.Ring.Int.Defs

/-!
# Retrying dead letters

The retry service sends dead letters that are pending to a retry topic, with exponential
backoff, and marks them before it does; a letter that cannot be sent is pending again, with
a higher count. Letters can be reprocessed by hand as well.

MongoDB does not fail here. What is read of the clock and what becomes of what is sent are
given with each step.
-/

namespace Caas.Kafka

open Js Async

inductive DLQStatus where
  | pending
  | retrying
  | failed
  | resolved
deriving DecidableEq

/-- `DLQMessage` -/
structure DLQMessage (ν : Type) where
  dlqId : String
  originalTopic : String
  message : Json ν
  retryCount : Nat
  isRetryable : Bool
  failedAt : Int
  lastRetryAt : Option Int
  status : DLQStatus

/-- A record that is given to the producer; the value is its text. -/
structure RetryRecord (ν : Type) where
  topic : String
  key : Option (Json ν)
  value : Json ν
  retryCount : String
  originalTopic : String
  dlqId : String

/-- The collection `dlq_messages`, the producer, and what has been given to it. -/
structure DLQStore (ν : Type) where
  messages : List (DLQMessage ν)
  producing : Bool
  given : List (RetryRecord ν)

namespace DLQRetryService

/-- `retryDelayMs` and `maxRetries` -/
structure Settings where
  retryDelayMs : Nat
  maxRetries : Nat

/-- What the constructor makes of its options. -/
def Settings.ofOptions (retryDelayMs maxRetries : Option Nat) : Settings where
  retryDelayMs := (retryDelayMs.filter (· ≠ 0)).getD 60000
  maxRetries := (maxRetries.filter (· ≠ 0)).getD 3

inductive RetryCommand (ν : Type) where
  | getPendingMessages (limit : Nat)
  | findOne (dlqId : String)
  | updateStatus (dlqId : String) (status : DLQStatus) (retryCount : Option Nat)
  /-- `Date.now()` -/
  | dateNow
  /-- From the check of the producer on, until the record has been sent. -/
  | send (retryTopic : String) (dlqMessage : DLQMessage ν)

/-- What becomes of a letter that is to be sent. -/
inductive Sending where
  | sent
  | rejected (error : String)
  /-- An error is thrown before the record is given to the producer. -/
  | unsent (error : String)
deriving DecidableEq

variable {ν : Type}

def RetryCommand.Reply : RetryCommand ν → Type
  | .getPendingMessages _ => List (DLQMessage ν)
  | .findOne _ => Option (DLQMessage ν)
  | .updateStatus _ _ _ => Unit
  | .dateNow => Int
  | .send _ _ => Sending

abbrev RetryProgram (ν : Type) := Program (RetryCommand ν) RetryCommand.Reply

def await (command : RetryCommand ν) : RetryProgram ν command.Reply := Program.command command

/-- What the filter of `getPendingMessages` selects. -/
def Selected (message : DLQMessage ν) : Prop :=
  message.status = .pending ∧ message.isRetryable = true ∧ message.retryCount < 3

instance (message : DLQMessage ν) : Decidable (Selected message) :=
  inferInstanceAs (Decidable (_ ∧ _ ∧ _))

def getPendingMessages (messages : List (DLQMessage ν)) (limit : Nat) : List (DLQMessage ν) :=
  (messages.filter fun message => Selected message).take limit

def findOne (messages : List (DLQMessage ν)) (dlqId : String) : Option (DLQMessage ν) :=
  messages.find? fun message => message.dlqId = dlqId

/-- `updateOne`, of the first message with the id. -/
def updateStatus (dlqId : String) (status : DLQStatus) (retryCount : Option Nat) (now : Int) :
    List (DLQMessage ν) → List (DLQMessage ν)
  | [] => []
  | message :: rest =>
    if message.dlqId = dlqId then
      { message with
        status := status
        lastRetryAt := some now
        retryCount := retryCount.getD message.retryCount } :: rest
    else message :: updateStatus dlqId status retryCount now rest

variable (numbers : Json.Numbers ν)

/-- The record of a dead letter; the id of `null` cannot be read. -/
def retryRecord (retryTopic : String) (dlqMessage : DLQMessage ν) :
    Except String (RetryRecord ν) :=
  match dlqMessage.message with
  | .null => .error "Cannot read properties of null (reading 'message_id')"
  | message => .ok
    { topic := retryTopic
      key := (message.member? "message_id").filter (Json.truthy numbers)
      value := message
      retryCount := toString (dlqMessage.retryCount + 1)
      originalTopic := dlqMessage.originalTopic
      dlqId := dlqMessage.dlqId }

/-- What a command is executed in: the clock, and how the producer ends. -/
structure Circumstance where
  now : Int
  rejection : Option String

def exec (store : DLQStore ν) (command : RetryCommand ν) (circumstance : Circumstance) :
    DLQStore ν × command.Reply :=
  match command with
  | .getPendingMessages limit => (store, getPendingMessages store.messages limit)
  | .findOne dlqId => (store, findOne store.messages dlqId)
  | .updateStatus dlqId status retryCount =>
    ({ store with
        messages := updateStatus dlqId status retryCount circumstance.now store.messages }, ())
  | .dateNow => (store, circumstance.now)
  | .send retryTopic dlqMessage =>
    if store.producing then
      match retryRecord numbers retryTopic dlqMessage with
      | .error error => (store, .unsent error)
      | .ok record =>
        ({ store with given := store.given ++ [record] },
          match circumstance.rejection with
          | none => .sent
          | some error => .rejected error)
    else (store, .unsent "Producer not initialized")

variable (settings : Settings)

def calculateBackoff (retryCount : Nat) : Int := settings.retryDelayMs * 2 ^ retryCount

def getRetryTopic (retryCount : Nat) : String := s!"retry.{retryCount + 1}"

def markFailed (dlqId : String) : RetryProgram ν Unit := await (.updateStatus dlqId .failed none)

def send (retryTopic : String) (dlqMessage : DLQMessage ν) : RetryProgram ν Unit := do
  let sending : Sending ← await (.send retryTopic dlqMessage)
  match sending with
  | .sent => pure ()
  | .rejected error => .failure error
  | .unsent error => .failure error

def retryMessage (dlqMessage : DLQMessage ν) : RetryProgram ν Unit :=
  Program.catching
    (if dlqMessage.retryCount ≥ settings.maxRetries then markFailed dlqMessage.dlqId
    else do
      let backoffDelay := calculateBackoff settings dlqMessage.retryCount
      let now : Int ← await .dateNow
      let timeSinceFailure := now - dlqMessage.failedAt
      if timeSinceFailure < backoffDelay then pure ()
      else do
        let _ ← await (.updateStatus dlqMessage.dlqId .retrying (some (dlqMessage.retryCount + 1)))
        let retryTopic := getRetryTopic dlqMessage.retryCount
        send retryTopic dlqMessage)
    fun _ => await (.updateStatus dlqMessage.dlqId .pending (some (dlqMessage.retryCount + 1)))

/-- The loop of `processPendingMessages`. -/
def retryMessages : List (DLQMessage ν) → RetryProgram ν Unit
  | [] => pure ()
  | message :: rest => do
    let _ ← retryMessage settings message
    retryMessages rest

def processPendingMessages : RetryProgram ν Unit := do
  let messages : List (DLQMessage ν) ← await (.getPendingMessages 100)
  retryMessages settings messages

def reprocessMessage (dlqId : String) : RetryProgram ν Unit := do
  let dlqMessage : Option (DLQMessage ν) ← await (.findOne dlqId)
  match dlqMessage with
  | none => .failure s!"DLQ message {dlqId} not found"
  | some dlqMessage => do
    let _ ← await (.updateStatus dlqId .pending (some 0))
    retryMessage settings dlqMessage

inductive RetryCall (ν : Type) where
  | processPendingMessages
  | retryMessage (dlqMessage : DLQMessage ν)
  | reprocessMessage (dlqId : String)

/-- The calls of the service. The producer is there from the first start on. -/
def host : Host (DLQStore ν) (RetryCommand ν) RetryCommand.Reply Circumstance Unit (RetryCall ν)
    Unit where
  exec := exec numbers
  change store _ := { store with producing := true }
  body
    | .processPendingMessages => processPendingMessages settings
    | .retryMessage dlqMessage => retryMessage settings dlqMessage
    | .reprocessMessage dlqId => reprocessMessage settings dlqId

end DLQRetryService

end Caas.Kafka
