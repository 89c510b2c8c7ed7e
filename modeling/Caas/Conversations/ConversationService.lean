import Caas.Conversations.ConversationRepository

/-!
# The conversation service

The operations on conversations. Adding and removing a participant writes the record of the
participant first and the list of the conversation then, each by a command of its own.
-/

namespace Caas.Conversations

open Async Js Redis

structure CreateConversationParams where
  tenantId : String
  type : ConversationType
  participants : List String
  createdBy : String
  metadata : Option (Json ℚ) := none

/-- The members of conversations: who is created with one, is added, is removed and leaves. The
`uuid` is the one that is drawn. -/
inductive MembershipCall where
  | createConversation (uuid : String) (params : CreateConversationParams)
  | addParticipant (conversationId tenantId userId addedBy : String)
  | removeParticipant (conversationId tenantId userId removedBy : String)
  | leaveConversation (conversationId tenantId userId : String)

inductive ConversationOperation where
  | membership (call : MembershipCall)
  | getConversation (conversationId tenantId userId : String)
  | updateConversation (conversationId tenantId userId : String) (updates : ConversationUpdates)
  | deleteConversation (conversationId tenantId userId : String)
  | muteConversation (conversationId tenantId userId : String) (durationMs : Int)
  | archiveConversation (conversationId tenantId userId : String) (archived : Bool)
  | getParticipants (conversationId tenantId : String)

inductive ConversationResult where
  | conversation (conversation : Option Conversation)
  | participants (participants : List ConversationParticipant)
  | done

namespace ConversationService

def cacheTTL : Int := 3600

def getCacheKey (conversationId tenantId : String) : String := s!"conv:{tenantId}:{conversationId}"

/-- `setex` for an hour succeeds. -/
def cacheConversation (conversation : Conversation) : ConversationProgram Unit := do
  let _ : Except String Unit ← await (.redis (.setex
    (getCacheKey conversation.conversationId conversation.tenantId) cacheTTL conversation))
  pure ()

def getCachedConversation (conversationId tenantId : String) :
    ConversationProgram (Option Conversation) :=
  await (.redis (.get (getCacheKey conversationId tenantId)))

def invalidateCache (conversationId tenantId : String) : ConversationProgram Unit := do
  let _ : Nat ← await (.redis (.del (getCacheKey conversationId tenantId)))
  pure ()

def newConversation (uuid : String) (params : CreateConversationParams) : Conversation where
  conversationId := s!"conv_{uuid}"
  tenantId := params.tenantId
  type := params.type
  participants := params.participants
  createdBy := params.createdBy
  metadata := params.metadata

/-- The record of one who is created with the conversation. -/
def firstParticipant (conversation : Conversation) (userId : String) :
    ConversationParticipant where
  conversationId := conversation.conversationId
  tenantId := conversation.tenantId
  userId := userId
  role := if userId = conversation.createdBy then .owner else .member
  archived := false

def addParticipants (conversation : Conversation) : List String → ConversationProgram Unit
  | [] => pure ()
  | userId :: rest => do
    ConversationRepository.addParticipant (firstParticipant conversation userId)
    addParticipants conversation rest

def createConversation (uuid : String) (params : CreateConversationParams) :
    ConversationProgram Conversation := do
  let conversation := newConversation uuid params
  ConversationRepository.createConversation conversation
  addParticipants conversation params.participants
  cacheConversation conversation
  pure conversation

def getConversation (conversationId tenantId userId : String) :
    ConversationProgram (Option Conversation) := do
  let cached ← getCachedConversation conversationId tenantId
  match cached with
  | some cached => pure (some cached)
  | none => do
    let conversation ← ConversationRepository.getConversation conversationId tenantId
    match conversation with
    | none => pure none
    | some conversation => do
      let isParticipant ← ConversationRepository.isParticipant conversationId tenantId userId
      if ¬ isParticipant then pure none
      else do
        cacheConversation conversation
        pure (some conversation)

def updateConversation (conversationId tenantId userId : String) (updates : ConversationUpdates) :
    ConversationProgram Unit := do
  let isParticipant ← ConversationRepository.isParticipant conversationId tenantId userId
  if ¬ isParticipant then .failure "User is not a participant"
  else do
    ConversationRepository.updateConversation conversationId tenantId updates
    invalidateCache conversationId tenantId

def deleteConversation (conversationId tenantId userId : String) : ConversationProgram Unit := do
  let conversation ← ConversationRepository.getConversation conversationId tenantId
  if ¬ conversation.any (·.createdBy = userId) then .failure "Only owner can delete conversation"
  else do
    ConversationRepository.deleteConversation conversationId tenantId
    invalidateCache conversationId tenantId

/-- How adding, removing and leaving end: the list of the conversation, if there is one, is
changed and written back. -/
def updateList (conversationId tenantId : String) (change : List String → List String) :
    ConversationProgram Unit := do
  let conversation ← ConversationRepository.getConversation conversationId tenantId
  match conversation with
  | some conversation => do
    ConversationRepository.updateConversation conversationId tenantId
      { participants := some (change conversation.participants) }
    invalidateCache conversationId tenantId
  | none => invalidateCache conversationId tenantId

def addedParticipant (conversationId tenantId userId : String) : ConversationParticipant where
  conversationId := conversationId
  tenantId := tenantId
  userId := userId
  role := .member
  archived := false

def addParticipant (conversationId tenantId userId addedBy : String) :
    ConversationProgram Unit := do
  let isParticipant ← ConversationRepository.isParticipant conversationId tenantId addedBy
  if ¬ isParticipant then .failure "Only participants can add others"
  else do
    ConversationRepository.addParticipant (addedParticipant conversationId tenantId userId)
    updateList conversationId tenantId (· ++ [userId])

def without (userId : String) (participants : List String) : List String :=
  participants.filter (· ≠ userId)

def removeParticipant (conversationId tenantId userId removedBy : String) :
    ConversationProgram Unit := do
  let isParticipant ← ConversationRepository.isParticipant conversationId tenantId removedBy
  if ¬ isParticipant then .failure "Only participants can remove others"
  else do
    ConversationRepository.removeParticipant conversationId tenantId userId
    updateList conversationId tenantId (without userId)

def leaveConversation (conversationId tenantId userId : String) : ConversationProgram Unit := do
  ConversationRepository.removeParticipant conversationId tenantId userId
  updateList conversationId tenantId (without userId)

def muteConversation (conversationId tenantId userId : String) (durationMs : Int) :
    ConversationProgram Unit :=
  ConversationRepository.muteConversation conversationId tenantId userId durationMs

def archiveConversation (conversationId tenantId userId : String) (archived : Bool) :
    ConversationProgram Unit :=
  ConversationRepository.archiveConversation conversationId tenantId userId archived

def getParticipants (conversationId tenantId : String) :
    ConversationProgram (List ConversationParticipant) :=
  ConversationRepository.getParticipants conversationId tenantId

end ConversationService

def returningNothing (program : ConversationProgram Unit) :
    ConversationProgram ConversationResult := do
  program
  pure .done

open ConversationService in
def membershipBody : MembershipCall → ConversationProgram ConversationResult
  | .createConversation uuid params => do
    let conversation ← createConversation uuid params
    pure (.conversation (some conversation))
  | .addParticipant conversationId tenantId userId addedBy =>
    returningNothing (addParticipant conversationId tenantId userId addedBy)
  | .removeParticipant conversationId tenantId userId removedBy =>
    returningNothing (removeParticipant conversationId tenantId userId removedBy)
  | .leaveConversation conversationId tenantId userId =>
    returningNothing (leaveConversation conversationId tenantId userId)

open ConversationService in
def body : ConversationOperation → ConversationProgram ConversationResult
  | .membership call => membershipBody call
  | .getConversation conversationId tenantId userId => do
    let conversation ← getConversation conversationId tenantId userId
    pure (.conversation conversation)
  | .updateConversation conversationId tenantId userId updates =>
    returningNothing (updateConversation conversationId tenantId userId updates)
  | .deleteConversation conversationId tenantId userId =>
    returningNothing (deleteConversation conversationId tenantId userId)
  | .muteConversation conversationId tenantId userId durationMs =>
    returningNothing (muteConversation conversationId tenantId userId durationMs)
  | .archiveConversation conversationId tenantId userId archived =>
    returningNothing (archiveConversation conversationId tenantId userId archived)
  | .getParticipants conversationId tenantId => do
    let participants ← getParticipants conversationId tenantId
    pure (.participants participants)

/-- The user is a participant of the conversation, as `isParticipant` tells. -/
def ConversationStore.isParticipant (store : ConversationStore)
    (conversationId tenantId userId : String) : Bool :=
  store.participants.any (ConversationParticipant.isActive conversationId tenantId userId)

end Caas.Conversations
