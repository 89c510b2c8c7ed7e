import Caas.Async.Pool
import Caas.Redis.Sets

/-!
# Presence subscriptions

Whom a subscriber has subscribed to is one set in Redis, and who has subscribed to a user is
another. Subscribing and unsubscribing change the set of the subscriber first and then, one
command each, the sets of the targets; unsubscribing from everybody does it in the other order.

Commands do not fail, except that `SADD` and `SREM` have to name a member. An error is logged and
thrown again, which changes nothing.
-/

namespace Caas.Presence.PresenceSubscriber

open Async Program Redis

inductive PresenceKey where
  | subscriptions (subscriberId : String)
  | subscribers (targetUserId : String)
deriving DecidableEq

inductive SetCommand where
  | sCard (key : PresenceKey)
  | sAdd (key : PresenceKey) (members : List String)
  | sRem (key : PresenceKey) (members : List String)
  | sMembers (key : PresenceKey)
  | del (key : PresenceKey)

def SetCommand.Reply : SetCommand → Type
  | .sCard _ => Nat
  | .sAdd _ _ => Outcome Unit
  | .sRem _ _ => Outcome Unit
  | .sMembers _ => List String
  | .del _ => Unit

abbrev PresenceSets := Sets PresenceKey String

abbrev SubscriptionProgram := Program SetCommand SetCommand.Reply

def await (command : SetCommand) : SubscriptionProgram command.Reply := Program.command command

/-- The reply when members are named that are to be added or removed. -/
def named (members : List String) : Outcome Unit :=
  if members = [] then .error "ERR wrong number of arguments" else .ok ()

def exec (sets : PresenceSets) (command : SetCommand) (_ : Unit) : PresenceSets × command.Reply :=
  match command with
  | .sCard key => (sets, (sets.members key).length)
  | .sAdd key members => (sets.sadd key members, named members)
  | .sRem key members => (sets.srem key members, named members)
  | .sMembers key => (sets, sets.members key)
  | .del key => (sets.del key, ())

namespace RedisClient

def sCard (key : PresenceKey) : SubscriptionProgram Nat := await (.sCard key)

def sAdd (key : PresenceKey) (members : List String) : SubscriptionProgram Unit := do
  let added : Outcome Unit ← await (.sAdd key members)
  orThrow added

def sRem (key : PresenceKey) (members : List String) : SubscriptionProgram Unit := do
  let removed : Outcome Unit ← await (.sRem key members)
  orThrow removed

def sMembers (key : PresenceKey) : SubscriptionProgram (List String) := await (.sMembers key)

def del (key : PresenceKey) : SubscriptionProgram Unit := await (.del key)

end RedisClient

def maxSubscriptions : Nat := 1000

def getSubscriptions (subscriberId : String) : SubscriptionProgram (List String) :=
  RedisClient.sMembers (.subscriptions subscriberId)

def getSubscribers (targetUserId : String) : SubscriptionProgram (List String) :=
  RedisClient.sMembers (.subscribers targetUserId)

def getSubscriptionCount (subscriberId : String) : SubscriptionProgram Nat :=
  RedisClient.sCard (.subscriptions subscriberId)

/-- The loop of `subscribe`. -/
def addSubscriber (subscriberId : String) : List String → SubscriptionProgram Unit
  | [] => pure ()
  | targetUserId :: rest => do
    RedisClient.sAdd (.subscribers targetUserId) [subscriberId]
    addSubscriber subscriberId rest

/-- The loop of `unsubscribe` and of `unsubscribeAll`. -/
def removeSubscriber (subscriberId : String) : List String → SubscriptionProgram Unit
  | [] => pure ()
  | targetUserId :: rest => do
    RedisClient.sRem (.subscribers targetUserId) [subscriberId]
    removeSubscriber subscriberId rest

def subscribe (subscriberId : String) (targetUserIds : List String) : SubscriptionProgram Unit := do
  let currentCount ← getSubscriptionCount subscriberId
  if currentCount + targetUserIds.length > maxSubscriptions then
    .failure s!"Subscription limit exceeded. Max: {maxSubscriptions}"
  else do
    RedisClient.sAdd (.subscriptions subscriberId) targetUserIds
    addSubscriber subscriberId targetUserIds

def unsubscribe (subscriberId : String) (targetUserIds : List String) :
    SubscriptionProgram Unit := do
  RedisClient.sRem (.subscriptions subscriberId) targetUserIds
  removeSubscriber subscriberId targetUserIds

def unsubscribeAll (subscriberId : String) : SubscriptionProgram Unit := do
  let targetUserIds ← RedisClient.sMembers (.subscriptions subscriberId)
  if targetUserIds.length > 0 then do
    removeSubscriber subscriberId targetUserIds
    RedisClient.del (.subscriptions subscriberId)
  else pure ()

inductive SubscriptionOperation where
  | subscribe (subscriberId : String) (targetUserIds : List String)
  | unsubscribe (subscriberId : String) (targetUserIds : List String)
  | unsubscribeAll (subscriberId : String)
  | getSubscriptions (subscriberId : String)
  | getSubscribers (targetUserId : String)

/-- What an operation returns: the users that it has got, if it gets any. -/
def finishing (program : SubscriptionProgram Unit) : SubscriptionProgram (List String) := do
  let _ ← program
  pure []

def body : SubscriptionOperation → SubscriptionProgram (List String)
  | .subscribe subscriberId targetUserIds => finishing (subscribe subscriberId targetUserIds)
  | .unsubscribe subscriberId targetUserIds => finishing (unsubscribe subscriberId targetUserIds)
  | .unsubscribeAll subscriberId => finishing (unsubscribeAll subscriberId)
  | .getSubscriptions subscriberId => getSubscriptions subscriberId
  | .getSubscribers targetUserId => getSubscribers targetUserId

def host : Host PresenceSets SetCommand SetCommand.Reply Unit Empty SubscriptionOperation
    (List String) where
  exec := exec
  change sets _ := sets
  body := body

end Caas.Presence.PresenceSubscriber
