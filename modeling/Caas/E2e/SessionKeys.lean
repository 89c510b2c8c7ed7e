import Caas.Async.Fallible
import Caas.E2e.DoubleRatchet

/-!
# Session keys

`SessionKeyManager` keeps the ratchets of its sessions in memory and a record of each
session in Redis. Each process has a manager of its own; the managers of a store are
numbered. A call takes a key off the ratchet of its manager, which it restores from the
record when the manager has none, and then reads the record again and writes it back
with the chains of the ratchet.

What a manager does between two awaits is one command here. `JSON.stringify` and
`JSON.parse` of a record are the identity, and `checkRotation` only logs.
-/

namespace Caas.E2e

open Js Async

/-- A session as Redis keeps it. -/
structure SessionState where
  conversationId : String
  userId : String
  partnerId : String
  rootKey : String
  sendingChainKey : String
  receivingChainKey : String
  sendingChainLength : Nat
  receivingChainLength : Nat
  previousSendingChainLength : Nat
  skippedMessageKeys : OrderedMap String String
  createdAt : Int
  lastRotation : Int
  messageCount : Nat
deriving DecidableEq

/-- The record with the chains of a ratchet, and one more message. -/
def SessionState.advanced (sessionState : SessionState) (ratchet : DoubleRatchet) : SessionState :=
  { sessionState with
    sendingChainKey := Buffer.toHex ratchet.sendingChainKey
    receivingChainKey := Buffer.toHex ratchet.receivingChainKey
    sendingChainLength := ratchet.sendingChainLength
    receivingChainLength := ratchet.receivingChainLength
    messageCount := sessionState.messageCount + 1 }

/-- The records in Redis, and the ratchets that each manager has in memory. -/
structure SessionStore where
  redis : OrderedMap String SessionState
  ratchets : Nat → OrderedMap String DoubleRatchet

namespace SessionStore

def ratchet? (store : SessionStore) (manager : Nat) (sessionKey : String) : Option DoubleRatchet :=
  (store.ratchets manager).get sessionKey

def keep (store : SessionStore) (manager : Nat) (sessionKey : String) (ratchet : DoubleRatchet) :
    SessionStore :=
  { store with
    ratchets := Function.update store.ratchets manager
      ((store.ratchets manager).set sessionKey ratchet) }

/-- A fresh manager takes the place of the manager. -/
def restart (store : SessionStore) (manager : Nat) : SessionStore :=
  { store with ratchets := Function.update store.ratchets manager .empty }

variable {store : SessionStore} {manager other : Nat} {sessionKey : String}
  {ratchet : DoubleRatchet}

@[simp] theorem redis_keep : (store.keep manager sessionKey ratchet).redis = store.redis := rfl

theorem ratchet?_keep : (store.keep manager sessionKey ratchet).ratchet? other sessionKey =
      if other = manager then some ratchet else store.ratchet? other sessionKey := by
  unfold ratchet? keep
  by_cases same : other = manager
  · subst same
    simp
  · simp [same]

@[simp] theorem ratchet?_keep_self :
    (store.keep manager sessionKey ratchet).ratchet? manager sessionKey = some ratchet := by
  rw [ratchet?_keep, if_pos rfl]

@[simp] theorem ratchet?_restart_self :
    (store.restart manager).ratchet? manager sessionKey = none := by
  simp [ratchet?, restart]

end SessionStore

inductive RatchetStep where
  | sending
  | receiving (messageNumber chainLength : Nat)

def RatchetStep.apply (hmac : Buffer → Buffer → Buffer) :
    RatchetStep → DoubleRatchet → DoubleRatchet × String
  | .sending, ratchet => ratchet.ratchetSendingChain hmac
  | .receiving messageNumber chainLength, ratchet =>
    ratchet.ratchetReceivingChain hmac messageNumber chainLength

namespace SessionKeyManager

/-- What a call awaits. A command on the memory of a manager is the code between two awaits. -/
inductive SessionCommand where
  /-- `GET` -/
  | load (sessionKey : String)
  /-- `SETEX` -/
  | save (sessionKey : String) (seconds : Nat) (sessionState : SessionState)
  /-- `ratchets.set` -/
  | keep (manager : Nat) (sessionKey : String) (ratchet : DoubleRatchet)
  /-- `ratchets.get`, and take a key off the ratchet if there is one. -/
  | advance (manager : Nat) (sessionKey : String) (step : RatchetStep)
  /-- `restoreRatchet` and `ratchets.set`, and take a key off the ratchet. -/
  | restore (manager : Nat) (sessionKey : String) (sessionState : SessionState)
      (step : RatchetStep)
  /-- `ratchets.get` -/
  | ratchet (manager : Nat) (sessionKey : String)

def SessionCommand.Reply : SessionCommand → Type
  | .load _ => Option SessionState
  | .save _ _ _ => Unit
  | .keep _ _ _ => Unit
  | .advance _ _ _ => Option String
  | .restore _ _ _ _ => String
  | .ratchet _ _ => Option DoubleRatchet

abbrev SessionProgram := Program SessionCommand SessionCommand.Reply

def await (command : SessionCommand) : SessionProgram command.Reply := Program.command command

variable (hmac : Buffer → Buffer → Buffer)

/-- The ratchet of a record. The keys of skipped messages are not in it. -/
def restoreRatchet (sessionState : SessionState) : DoubleRatchet :=
  (DoubleRatchet.new hmac sessionState.rootKey true).restore sessionState.sendingChainKey
    sessionState.receivingChainKey sessionState.sendingChainLength
    sessionState.receivingChainLength

def exec (store : SessionStore) (command : SessionCommand) (_ : Unit) :
    SessionStore × command.Reply :=
  match command with
  | .load sessionKey => (store, store.redis.get sessionKey)
  | .save sessionKey _ sessionState =>
    ({ store with redis := store.redis.set sessionKey sessionState }, ())
  | .keep manager sessionKey ratchet => (store.keep manager sessionKey ratchet, ())
  | .advance manager sessionKey step =>
    match store.ratchet? manager sessionKey with
    | none => (store, none)
    | some ratchet =>
      (store.keep manager sessionKey (step.apply hmac ratchet).1, some (step.apply hmac ratchet).2)
  | .restore manager sessionKey sessionState step =>
    (store.keep manager sessionKey (step.apply hmac (restoreRatchet hmac sessionState)).1,
      (step.apply hmac (restoreRatchet hmac sessionState)).2)
  | .ratchet manager sessionKey => (store, store.ratchet? manager sessionKey)

def getSessionKey (conversationId userId : String) : String :=
  "session:" ++ conversationId ++ ":" ++ userId

variable (sessionKeyLifetimeHours : Nat)

def saveSessionState (sessionKey : String) (sessionState : SessionState) : SessionProgram Unit :=
  await (.save sessionKey (sessionKeyLifetimeHours * 3600) sessionState)

/-- `createdAt` and `lastRotation` are two readings of the clock. -/
def initializeSession (manager : Nat) (conversationId userId partnerId sharedSecret : String)
    (isInitiator : Bool) (createdAt lastRotation : Int) : SessionProgram Unit := do
  let sessionKey := getSessionKey conversationId userId
  let ratchet := DoubleRatchet.new hmac sharedSecret isInitiator
  let _ ← await (.keep manager sessionKey ratchet)
  saveSessionState sessionKeyLifetimeHours sessionKey
    { conversationId, userId, partnerId
      rootKey := sharedSecret
      sendingChainKey := Buffer.toHex ratchet.sendingChainKey
      receivingChainKey := Buffer.toHex ratchet.receivingChainKey
      sendingChainLength := 0
      receivingChainLength := 0
      previousSendingChainLength := 0
      skippedMessageKeys := .empty
      createdAt, lastRotation
      messageCount := 0 }

/-- Take a key off the ratchet of the session, which may have to be loaded. -/
def takeKey (manager : Nat) (sessionKey : String) (step : RatchetStep) :
    SessionProgram String := do
  let held : Option String ← await (.advance manager sessionKey step)
  match held with
  | some messageKey => pure messageKey
  | none =>
    let loaded : Option SessionState ← await (.load sessionKey)
    match loaded with
    | none => .failure "Session not found"
    | some sessionState => await (.restore manager sessionKey sessionState step)

def updateSessionState (manager : Nat) (sessionKey : String) : SessionProgram Unit := do
  let loaded : Option SessionState ← await (.load sessionKey)
  match loaded with
  | none => pure ()
  | some sessionState =>
    let held : Option DoubleRatchet ← await (.ratchet manager sessionKey)
    match held with
    | none => pure ()
    | some ratchet =>
      saveSessionState sessionKeyLifetimeHours sessionKey (sessionState.advanced ratchet)

/-- The record is read to see whether a rotation is needed, which is only logged. -/
def checkRotation (sessionKey : String) : SessionProgram Unit := do
  let _ ← await (.load sessionKey)

def getMessageKey (manager : Nat) (conversationId userId : String) : SessionProgram String := do
  let sessionKey := getSessionKey conversationId userId
  let messageKey ← takeKey manager sessionKey .sending
  updateSessionState sessionKeyLifetimeHours manager sessionKey
  checkRotation sessionKey
  pure messageKey

def decryptMessage (manager : Nat) (conversationId userId : String)
    (messageNumber chainLength : Nat) : SessionProgram String := do
  let sessionKey := getSessionKey conversationId userId
  let messageKey ← takeKey manager sessionKey (.receiving messageNumber chainLength)
  updateSessionState sessionKeyLifetimeHours manager sessionKey
  pure messageKey

def runAlone {α : Type} (store : SessionStore) (program : SessionProgram α) :
    SessionStore × Program.Outcome α :=
  program.run (exec hmac) (fun _ => ()) 0 store

def opened (manager : Nat) (conversationId userId : String) (store : SessionStore)
    (partnerId sharedSecret : String) (isInitiator : Bool) (createdAt lastRotation : Int) :
    SessionStore :=
  (runAlone hmac store (initializeSession hmac sessionKeyLifetimeHours manager conversationId
    userId partnerId sharedSecret isInitiator createdAt lastRotation)).1

end SessionKeyManager

end Caas.E2e
