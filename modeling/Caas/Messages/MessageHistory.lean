import Caas.Conversations.ConversationRepository
import Caas.Machine.KeysetPaging

/-!
# The message history

A page of the history of a conversation holds the newest messages before a date, and a client
asks for the next one with the date of the last message that it got. `history_complete_iff` says
when this yields all messages that the user can see: no page may end between messages of one date,
as those that are left are not before it.

How MongoDB orders messages of one date is open, at each call. The collections do not change
between the calls; of a message only what the query reads is kept, and its id.
-/

namespace Caas.Messages

open Conversations

structure StoredMessage where
  messageId : String
  conversationId : String
  tenantId : String
  createdAt : Int
  deletedAt : Option Int := none
  deletedFor : Option (List String) := none
deriving DecidableEq

/-- The participants and the messages of all conversations. -/
structure HistoryStore where
  participants : List ConversationParticipant
  messages : List StoredMessage

/-- What `.sort({ created_at: -1 })` does at each call. -/
structure HistoryEngine where
  sort : Nat → List StoredMessage → List StoredMessage
  perm : ∀ call messages, (sort call messages).Perm messages
  newestFirst : ∀ call messages, KeysetPaging.Descending (·.createdAt) (sort call messages)

/-- `cursor.limit(limit)`; zero is no limit. -/
def cursorLimit (limit : Nat) (messages : List StoredMessage) : List StoredMessage :=
  if limit = 0 then messages else messages.take limit

def StoredMessage.isVisible (conversationId tenantId userId : String)
    (message : StoredMessage) : Bool :=
  message.conversationId = conversationId ∧ message.tenantId = tenantId ∧
    message.deletedAt = none ∧ userId ∉ message.deletedFor.getD []

def HistoryStore.visible (store : HistoryStore) (conversationId tenantId userId : String) :
    List StoredMessage :=
  store.messages.filter (·.isVisible conversationId tenantId userId)

/-- `ConversationRepository.isParticipant` -/
def HistoryStore.isParticipant (store : HistoryStore) (conversationId tenantId userId : String) :
    Bool :=
  store.participants.countP (·.isActive conversationId tenantId userId) > 0

namespace MessageRepository

def getMessages (engine : HistoryEngine) (store : HistoryStore)
    (conversationId tenantId userId : String) (limit : Option Nat) (call : Nat)
    (before : Option Int) : List StoredMessage :=
  let query (message : StoredMessage) : Bool :=
    message.isVisible conversationId tenantId userId && before.all (message.createdAt < ·)
  cursorLimit (limit.getD 50) (engine.sort call (store.messages.filter query))

end MessageRepository

namespace MessageService

/-- `call` numbers the calls. -/
def getMessages (engine : HistoryEngine) (store : HistoryStore)
    (conversationId tenantId userId : String) (limit : Option Nat) (call : Nat)
    (before : Option Int) : Except String (List StoredMessage) :=
  if store.isParticipant conversationId tenantId userId then
    .ok (MessageRepository.getMessages engine store conversationId tenantId userId
      (some (limit.getD 50)) call before)
  else .error "Not a participant in this conversation"

end MessageService

section Completeness

variable {engine : HistoryEngine} {store : HistoryStore}
  {conversationId tenantId userId : String} {limit : Nat}

theorem filter_query_eq (before : Option Int) :
    (store.messages.filter fun message => message.isVisible conversationId tenantId userId &&
        before.all (message.createdAt < ·)) =
      KeysetPaging.below (·.createdAt) (store.visible conversationId tenantId userId) before := by
  cases before with
  | none => simp [KeysetPaging.below, HistoryStore.visible]
  | some before =>
    rw [KeysetPaging.below, HistoryStore.visible, List.filter_filter]
    exact List.filter_congr fun message _ => Bool.and_comm _ _

theorem serves_getMessages (participant : store.isParticipant conversationId tenantId userId = true)
    (positive : 0 < limit) : KeysetPaging.Serves (·.createdAt)
      (MessageService.getMessages engine store conversationId tenantId userId (some limit))
      (store.visible conversationId tenantId userId) limit := by
  intro call before
  refine ⟨engine.sort call (KeysetPaging.below (·.createdAt)
    (store.visible conversationId tenantId userId) before), engine.perm call _,
    engine.newestFirst call _, ?_⟩
  rw [MessageService.getMessages, if_pos participant, MessageRepository.getMessages]
  simp [filter_query_eq, cursorLimit, Nat.ne_of_gt positive]

/-- The pages of the history come to an end, and hold every message that the user can see once,
newest first. -/
def HistoryComplete (engine : HistoryEngine) (store : HistoryStore)
    (conversationId tenantId userId : String) (limit : Nat) : Prop :=
  KeysetPaging.ReadsAll (·.createdAt)
    (MessageService.getMessages engine store conversationId tenantId userId (some limit))
    (store.visible conversationId tenantId userId)

theorem history_complete_iff
    (participant : store.isParticipant conversationId tenantId userId = true)
    (positive : 1 ≤ limit) : HistoryComplete engine store conversationId tenantId userId limit ↔
      KeysetPaging.PageEndsDiffer limit (KeysetPaging.descendingKeys (·.createdAt)
        (store.visible conversationId tenantId userId)) :=
  KeysetPaging.readsAll_iff positive (serves_getMessages participant positive)

/-- An engine that keeps the order of messages of one date. -/
def stableEngine : HistoryEngine where
  sort _ messages := messages.mergeSort fun a b => b.createdAt ≤ a.createdAt
  perm _ messages := List.mergeSort_perm messages _
  newestFirst _ messages := KeysetPaging.descending_mergeSort messages

/-- Alice and two messages of her conversation. -/
def twoMessages (first second : Int) : HistoryStore where
  participants := [
    { conversationId := "c1"
      tenantId := "t1"
      userId := "alice"
      role := .member
      archived := false }]
  messages := [
    { messageId := "m1", conversationId := "c1", tenantId := "t1", createdAt := first },
    { messageId := "m2", conversationId := "c1", tenantId := "t1", createdAt := second }]

theorem different_dates_complete :
    HistoryComplete stableEngine (twoMessages 1000 2000) "c1" "t1" "alice" 1 := by
  refine (history_complete_iff (by decide) (by decide)).mpr ?_
  refine KeysetPaging.pageEndsDiffer_of_nodup Nat.one_pos ?_
  exact (KeysetPaging.descendingKeys_perm_map _).nodup_iff.mpr (by decide)

/-- Of two messages of one date the second is never returned, one at a time. -/
theorem equal_dates_incomplete :
    ¬HistoryComplete stableEngine (twoMessages 1000 1000) "c1" "t1" "alice" 1 := by
  intro complete
  have differ := (KeysetPaging.readsAll_iff Nat.one_pos
    (serves_getMessages (by decide) Nat.one_pos)).mp complete
  have ordered : KeysetPaging.Descending (·.createdAt)
      ((twoMessages 1000 1000).visible "c1" "t1" "alice") :=
    List.pairwise_pair.mpr (le_refl (1000 : Int))
  rw [KeysetPaging.descendingKeys_eq (List.Perm.refl _) ordered] at differ
  exact differ 0 1000 rfl rfl

end Completeness

end Caas.Messages
