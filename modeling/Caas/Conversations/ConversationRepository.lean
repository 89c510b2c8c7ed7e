import Mathlib.Data.Rat.Defs
import Caas.Js.Json
import Caas.Mongo.Collection
import Caas.Redis.ExpiringMap

/-!
# Conversations and their participants

A conversation lists its participants, and each time that a user is added a record of them is
inserted, which is given a date when they leave. A participant is a user with a record that has
no such date. Conversations are cached in Redis.

A date that a command writes is that of its execution. The dates of creation, of the latest
update and message and of joining are left out, as no operation reads them. Commands do not fail.
-/

namespace Caas.Conversations

open Async Js Redis Documents

inductive ConversationType where
  | direct
  | group
  | channel
deriving DecidableEq

inductive ParticipantRole where
  | owner
  | admin
  | member
deriving DecidableEq

structure Conversation where
  conversationId : String
  tenantId : String
  type : ConversationType
  participants : List String
  createdBy : String
  metadata : Option (Json ℚ) := none
  deletedAt : Option Nat := none

structure ConversationParticipant where
  conversationId : String
  tenantId : String
  userId : String
  role : ParticipantRole
  leftAt : Option Nat := none
  mutedUntil : Option Int := none
  archived : Bool
deriving DecidableEq

/-- `Partial<Conversation>`; `some none` is a field whose value is `undefined`. -/
structure ConversationUpdates where
  conversationId : Option String := none
  tenantId : Option String := none
  type : Option ConversationType := none
  participants : Option (List String) := none
  createdBy : Option String := none
  metadata : Option (Option (Json ℚ)) := none
  deletedAt : Option (Option Nat) := none

/-- `$set` with the fields that there are. -/
def ConversationUpdates.set (updates : ConversationUpdates) (conversation : Conversation) :
    Conversation where
  conversationId := updates.conversationId.getD conversation.conversationId
  tenantId := updates.tenantId.getD conversation.tenantId
  type := updates.type.getD conversation.type
  participants := updates.participants.getD conversation.participants
  createdBy := updates.createdBy.getD conversation.createdBy
  metadata := updates.metadata.getD conversation.metadata
  deletedAt := updates.deletedAt.getD conversation.deletedAt

inductive ParticipantUpdate where
  | leftAt
  | mutedUntil (durationMs : Int)
  | archived (archived : Bool)

def ParticipantUpdate.set (now : Nat) (participant : ConversationParticipant) :
    ParticipantUpdate → ConversationParticipant
  | .leftAt => { participant with leftAt := some now }
  | .mutedUntil durationMs => { participant with mutedUntil := some (now + durationMs) }
  | .archived value => { participant with archived := value }

/-- The clock, the two collections and the cache. -/
structure ConversationStore where
  now : Nat := 0
  conversations : List Conversation := []
  participants : List ConversationParticipant := []
  cache : ExpiringMap String Conversation := .empty

def Conversation.isOf (conversationId tenantId : String) (conversation : Conversation) : Bool :=
  conversation.conversationId = conversationId ∧ conversation.tenantId = tenantId

/-- The filter of the records of a user in a conversation. -/
def ConversationParticipant.isOf (conversationId tenantId userId : String)
    (participant : ConversationParticipant) : Bool :=
  participant.conversationId = conversationId ∧ participant.tenantId = tenantId ∧
    participant.userId = userId

/-- What the filter of `countDocuments` matches. -/
def ConversationParticipant.isActive (conversationId tenantId userId : String)
    (participant : ConversationParticipant) : Bool :=
  participant.isOf conversationId tenantId userId && participant.leftAt.isNone

theorem Conversation.isOf_iff {conversationId tenantId : String} {conversation : Conversation} :
    conversation.isOf conversationId tenantId = true ↔
      conversation.conversationId = conversationId ∧ conversation.tenantId = tenantId :=
  decide_eq_true_iff

theorem ConversationParticipant.isOf_iff {conversationId tenantId userId : String}
    {participant : ConversationParticipant} :
    participant.isOf conversationId tenantId userId = true ↔
      participant.conversationId = conversationId ∧ participant.tenantId = tenantId ∧
        participant.userId = userId :=
  decide_eq_true_iff

theorem ConversationParticipant.isActive_iff {conversationId tenantId userId : String}
    {participant : ConversationParticipant} :
    participant.isActive conversationId tenantId userId = true ↔
      participant.isOf conversationId tenantId userId = true ∧ participant.leftAt = none := by
  rw [isActive, Bool.and_eq_true, Option.isNone_iff_eq_none]

inductive ConversationCommand where
  | findConversation (conversationId tenantId : String)
  | insertConversation (conversation : Conversation)
  | updateConversation (conversationId tenantId : String) (updates : ConversationUpdates)
  | deleteConversation (conversationId tenantId : String)
  | findParticipants (conversationId tenantId : String)
  | insertParticipant (participant : ConversationParticipant)
  | updateParticipant (conversationId tenantId userId : String) (update : ParticipantUpdate)
  | countParticipants (conversationId tenantId userId : String)
  | redis (command : StringCommand String Conversation)

def ConversationCommand.Reply : ConversationCommand → Type
  | .findConversation _ _ => Option Conversation
  | .findParticipants _ _ => List ConversationParticipant
  | .countParticipants _ _ _ => Nat
  | .redis command => command.Reply
  | _ => Unit

def exec (store : ConversationStore) (command : ConversationCommand) (_ : Unit) :
    ConversationStore × command.Reply :=
  match command with
  | .findConversation conversationId tenantId =>
    (store, store.conversations.find? fun conversation =>
      conversation.isOf conversationId tenantId && conversation.deletedAt.isNone)
  | .insertConversation conversation =>
    ({ store with conversations := store.conversations ++ [conversation] }, ())
  | .updateConversation conversationId tenantId updates =>
    ({ store with
        conversations := updateOne (Conversation.isOf conversationId tenantId) updates.set
          store.conversations }, ())
  | .deleteConversation conversationId tenantId =>
    ({ store with
        conversations := updateOne (Conversation.isOf conversationId tenantId)
          (fun conversation => { conversation with deletedAt := some store.now })
          store.conversations }, ())
  | .findParticipants conversationId tenantId =>
    (store, store.participants.filter fun participant =>
      participant.isActive conversationId tenantId participant.userId)
  | .insertParticipant participant =>
    ({ store with participants := store.participants ++ [participant] }, ())
  | .updateParticipant conversationId tenantId userId update =>
    ({ store with
        participants := updateOne (ConversationParticipant.isOf conversationId tenantId userId)
          (fun participant => update.set store.now participant) store.participants }, ())
  | .countParticipants conversationId tenantId userId =>
    (store, store.participants.countP
      (ConversationParticipant.isActive conversationId tenantId userId))
  | .redis command =>
    let (cache, reply) := StringCommand.exec store.cache store.now command
    ({ store with cache }, reply)

abbrev ConversationProgram :=
  Program ConversationCommand ConversationCommand.Reply

def await (command : ConversationCommand) : ConversationProgram command.Reply :=
  Program.command command

namespace ConversationRepository

def getConversation (conversationId tenantId : String) :
    ConversationProgram (Option Conversation) :=
  await (.findConversation conversationId tenantId)

def createConversation (conversation : Conversation) : ConversationProgram Unit :=
  await (.insertConversation conversation)

def updateConversation (conversationId tenantId : String) (updates : ConversationUpdates) :
    ConversationProgram Unit :=
  await (.updateConversation conversationId tenantId updates)

def deleteConversation (conversationId tenantId : String) : ConversationProgram Unit :=
  await (.deleteConversation conversationId tenantId)

def getParticipants (conversationId tenantId : String) :
    ConversationProgram (List ConversationParticipant) :=
  await (.findParticipants conversationId tenantId)

def addParticipant (participant : ConversationParticipant) : ConversationProgram Unit :=
  await (.insertParticipant { participant with archived := false })

/-- Sets the date in a record of the user, whether it has one or not. -/
def removeParticipant (conversationId tenantId userId : String) : ConversationProgram Unit :=
  await (.updateParticipant conversationId tenantId userId .leftAt)

def isParticipant (conversationId tenantId userId : String) : ConversationProgram Bool := do
  let count : Nat ← await (.countParticipants conversationId tenantId userId)
  pure (count > 0)

def muteConversation (conversationId tenantId userId : String) (durationMs : Int) :
    ConversationProgram Unit :=
  await (.updateParticipant conversationId tenantId userId (.mutedUntil durationMs))

def archiveConversation (conversationId tenantId userId : String) (archived : Bool) :
    ConversationProgram Unit :=
  await (.updateParticipant conversationId tenantId userId (.archived archived))

end ConversationRepository

end Caas.Conversations
