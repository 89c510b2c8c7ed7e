import Mathlib.Data.List.Find
import Caas.Async.Fallible
import Caas.Conversations.ConversationService
import Caas.Machine.Transducer

/-!
# What the operations on members do

Each operation that runs on its own, as one step: `perform` says what it leaves in the store and
how it ends, and `run_membershipBody` that the commands of the operation come to this, as long as
no conversation has been deleted, which these operations never do.
-/

namespace Caas.Conversations

open Async Program Js Redis Documents ConversationService

namespace ConversationStore

/-- A conversation with its first participants, in the cache too. -/
def created (store : ConversationStore) (conversation : Conversation) : ConversationStore :=
  { store with
    conversations := store.conversations ++ [conversation]
    participants :=
      store.participants ++ conversation.participants.map (firstParticipant conversation)
    cache := store.cache.store store.now
      (getCacheKey conversation.conversationId conversation.tenantId) 3600 conversation }

/-- The list of a conversation is changed, and the conversation no longer cached. -/
def relisted (store : ConversationStore) (conversationId tenantId : String)
    (change : List String → List String) : ConversationStore :=
  { store with
    conversations := updateOne (Conversation.isOf conversationId tenantId)
      (fun conversation =>
        { conversation with participants := change conversation.participants })
      store.conversations
    cache := store.cache.delete (getCacheKey conversationId tenantId) }

/-- A record for the user, who comes last in the list. -/
def added (store : ConversationStore) (conversationId tenantId userId : String) :
    ConversationStore :=
  relisted { store with
    participants := store.participants ++ [addedParticipant conversationId tenantId userId] }
    conversationId tenantId (· ++ [userId])

/-- A date in the first record of the user, who is not in the list any more. -/
def departed (store : ConversationStore) (conversationId tenantId userId : String) :
    ConversationStore :=
  relisted { store with
    participants := updateOne (ConversationParticipant.isOf conversationId tenantId userId)
      (fun participant => { participant with leftAt := some store.now }) store.participants }
    conversationId tenantId (without userId)

/-- What an operation leaves, and how it ends. -/
def perform (store : ConversationStore) :
    MembershipCall → ConversationStore × Outcome ConversationResult
  | .createConversation uuid params =>
    (store.created (newConversation uuid params),
      .ok (.conversation (some (newConversation uuid params))))
  | .addParticipant conversationId tenantId userId addedBy =>
    if store.isParticipant conversationId tenantId addedBy then
      (store.added conversationId tenantId userId, .ok .done)
    else (store, .error "Only participants can add others")
  | .removeParticipant conversationId tenantId userId removedBy =>
    if store.isParticipant conversationId tenantId removedBy then
      (store.departed conversationId tenantId userId, .ok .done)
    else (store, .error "Only participants can remove others")
  | .leaveConversation conversationId tenantId userId =>
    (store.departed conversationId tenantId userId, .ok .done)

def Undeleted (store : ConversationStore) : Prop :=
  ∀ conversation ∈ store.conversations, conversation.deletedAt = none

end ConversationStore

section Runs

variable {circumstance : Nat → Unit} {number : Nat} {store : ConversationStore}

/-- The run leaves one store, and ends in one way. -/
def ComesTo {α : Type} (result : ConversationStore × Outcome α) (_ : Nat)
    (after : ConversationStore) (outcome : Outcome α) : Prop := (after, outcome) = result

variable {conversationId tenantId : String} {after : ConversationStore}

theorem isParticipant_comesTo {userId : String} :
    (ConversationRepository.isParticipant conversationId tenantId userId).Ensures exec circumstance
      (ComesTo (store, .ok (store.isParticipant conversationId tenantId userId))) number store := by
  have counted : decide (store.participants.countP
      (ConversationParticipant.isActive conversationId tenantId userId) > 0) =
        store.isParticipant conversationId tenantId userId := by
    rw [Bool.eq_iff_iff, decide_eq_true_iff, gt_iff_lt, List.countP_pos_iff]
    exact List.any_eq_true.symm
  refine ensures_command_bind rfl ?_
  rw [counted]
  exact rfl

theorem invalidateCache_comesTo :
    (invalidateCache conversationId tenantId).Ensures exec circumstance
      (ComesTo ({ store with cache := store.cache.delete (getCacheKey conversationId tenantId) },
        .ok ())) number store :=
  ensures_command_bind rfl rfl

theorem ensures_bind_of_comesTo {α β : Type} {program : ConversationProgram α}
    {next : α → ConversationProgram β} {value : α}
    {post : Nat → ConversationStore → Outcome β → Prop}
    (first : program.Ensures exec circumstance (ComesTo (after, .ok value)) number store)
    (rest : ∀ number, (next value).Ensures exec circumstance post number after) :
    (program >>= next).Ensures exec circumstance post number store := by
  refine ensures_bind (first.mono fun number _ _ same => ?_)
  cases same
  exact rest number

theorem addParticipants_comesTo {conversation : Conversation} (users : List String) :
    (addParticipants conversation users).Ensures exec circumstance
      (ComesTo ({ store with
        participants := store.participants ++ users.map (firstParticipant conversation) },
          .ok ())) number store := by
  induction users generalizing number store with
  | nil =>
    rw [List.map_nil, List.append_nil]
    exact rfl
  | cons userId rest ih =>
    refine ensures_command_bind rfl ?_
    have later := @ih (number + 1) { store with
      participants := store.participants ++ [firstParticipant conversation userId] }
    rw [List.append_assoc] at later
    exact later

theorem getConversation_comesTo (undeleted : store.Undeleted) :
    (ConversationRepository.getConversation conversationId tenantId).Ensures exec circumstance
      (ComesTo (store,
        .ok (store.conversations.find? (Conversation.isOf conversationId tenantId)))) number
      store := by
  have same : store.conversations.find? (fun conversation =>
      conversation.isOf conversationId tenantId && conversation.deletedAt.isNone) =
        store.conversations.find? (Conversation.isOf conversationId tenantId) :=
    List.find?_congr fun conversation member => by simp [undeleted conversation member]
  exact congrArg (fun found => (store, Except.ok found)) same

theorem updateList_comesTo {change : List String → List String} (undeleted : store.Undeleted) :
    (updateList conversationId tenantId change).Ensures exec circumstance
      (ComesTo (store.relisted conversationId tenantId change, .ok ())) number store := by
  refine ensures_bind_of_comesTo (getConversation_comesTo undeleted) fun number => ?_
  cases found : store.conversations.find? (Conversation.isOf conversationId tenantId) with
  | none =>
    rw [ConversationStore.relisted, updateOne_of_none found]
    exact invalidateCache_comesTo
  | some conversation =>
    have written := @updateOne_congr _ _ (fun earlier : Conversation =>
      { earlier with participants := change earlier.participants })
      (ConversationUpdates.set { participants := some (change conversation.participants) })
      _ _ found rfl
    rw [ConversationStore.relisted, written]
    exact ensures_command_bind rfl invalidateCache_comesTo

theorem createConversation_comesTo {uuid : String} {params : CreateConversationParams} :
    (createConversation uuid params).Ensures exec circumstance
      (ComesTo (store.created (newConversation uuid params), .ok (newConversation uuid params)))
      number store := by
  refine ensures_command_bind rfl ?_
  refine ensures_bind_of_comesTo (addParticipants_comesTo params.participants) fun number => ?_
  exact ensures_command_bind rfl rfl

theorem returningNothing_comesTo {program : ConversationProgram Unit}
    (ends : program.Ensures exec circumstance (ComesTo (after, .ok ())) number store) :
    (returningNothing program).Ensures exec circumstance (ComesTo (after, .ok .done)) number
      store :=
  ensures_bind_of_comesTo ends fun _ => rfl

theorem checked_comesTo {userId message : String} {rest : ConversationProgram Unit}
    (allowed : ∀ number,
      rest.Ensures exec circumstance (ComesTo (after, .ok ())) number store) :
    (returningNothing do
      let isParticipant ← ConversationRepository.isParticipant conversationId tenantId userId
      if ¬ isParticipant then .failure message else rest).Ensures exec circumstance
        (ComesTo (if store.isParticipant conversationId tenantId userId then (after, .ok .done)
          else (store, .error message))) number store := by
  refine ensures_bind (ensures_bind_of_comesTo isParticipant_comesTo fun number => ?_)
  cases store.isParticipant conversationId tenantId userId with
  | false => exact rfl
  | true =>
    refine (allowed number).mono fun number _ _ same => ?_
    cases same
    exact rfl

theorem membershipBody_comesTo (undeleted : store.Undeleted) (call : MembershipCall) :
    (membershipBody call).Ensures exec circumstance (ComesTo (store.perform call)) number
      store := by
  cases call with
  | createConversation uuid params =>
    exact ensures_bind_of_comesTo createConversation_comesTo fun _ => rfl
  | addParticipant | removeParticipant =>
    refine checked_comesTo fun number => ?_
    exact ensures_command_bind rfl (updateList_comesTo undeleted)
  | leaveConversation conversationId tenantId userId =>
    exact returningNothing_comesTo
      (ensures_command_bind rfl (updateList_comesTo undeleted))

end Runs

/-- An operation that runs on its own, or time that passes. -/
inductive MembershipEvent where
  | call (call : MembershipCall)
  | elapse (elapsed : Nat)

def membershipMachine :
    Transducer ConversationStore MembershipEvent (Option (Outcome ConversationResult)) where
  step store
    | .call call =>
      let (after, outcome) := (membershipBody call).run exec (fun _ => ()) 0 store
      (after, some outcome)
    | .elapse elapsed => ({ store with now := store.now + elapsed }, none)

section Participants

variable {store : ConversationStore} {conversationId tenantId userId : String}

theorem isParticipant_created {conversation : Conversation} :
    (store.created conversation).isParticipant conversationId tenantId userId = true ↔
      store.isParticipant conversationId tenantId userId = true ∨
        conversation.conversationId = conversationId ∧ conversation.tenantId = tenantId ∧
          userId ∈ conversation.participants := by
  change (store.participants ++ conversation.participants.map _).any _ = true ↔ _
  rw [List.any_append, Bool.or_eq_true, List.any_map]
  refine or_congr Iff.rfl (List.any_eq_true.trans ?_)
  simp only [Function.comp_apply, ConversationParticipant.isActive_iff,
    ConversationParticipant.isOf_iff, firstParticipant]
  constructor
  · rintro ⟨listed, member, ⟨rfl, rfl, rfl⟩, _⟩
    exact ⟨rfl, rfl, member⟩
  · rintro ⟨rfl, rfl, member⟩
    exact ⟨userId, member, ⟨rfl, rfl, rfl⟩, trivial⟩

theorem isParticipant_of_departed {conversationId' tenantId' userId' : String}
    (participates : (store.departed conversationId tenantId userId).isParticipant conversationId'
      tenantId' userId' = true) :
    store.isParticipant conversationId' tenantId' userId' = true := by
  obtain ⟨record, member, active⟩ := List.any_eq_true.mp participates
  rcases mem_updateOne member with before | ⟨earlier, before, _, rfl⟩
  · exact List.any_eq_true.mpr ⟨record, before, active⟩
  · simp [ConversationParticipant.isActive] at active

end Participants

section Steps

variable {store : ConversationStore}

theorem step_call (undeleted : store.Undeleted) (call : MembershipCall) :
    membershipMachine.step store (.call call) =
      ((store.perform call).1, some (store.perform call).2) := by
  have run := ensures_iff_run.mp
    (@membershipBody_comesTo (fun _ => ()) 0 store undeleted call)
  exact congrArg (fun ended => (ended.1, some ended.2)) run

theorem undeleted_relisted (undeleted : store.Undeleted)
    {participants : List ConversationParticipant} {conversationId tenantId : String}
    {change : List String → List String} :
    (ConversationStore.relisted { store with participants } conversationId tenantId
      change).Undeleted := by
  intro conversation member
  rcases mem_updateOne member with before | ⟨earlier, before, _, rfl⟩
  · exact undeleted conversation before
  · exact undeleted earlier before

theorem undeleted_perform (undeleted : store.Undeleted) (call : MembershipCall) :
    (store.perform call).1.Undeleted := by
  cases call with
  | createConversation uuid params =>
    intro conversation member
    rcases List.mem_append.mp member with before | new
    · exact undeleted conversation before
    · rw [List.mem_singleton.mp new]
      rfl
  | addParticipant | removeParticipant =>
    rw [ConversationStore.perform]
    split
    · exact undeleted_relisted undeleted
    · exact undeleted
  | leaveConversation conversationId tenantId userId => exact undeleted_relisted undeleted

theorem undeleted_step (undeleted : store.Undeleted) (event : MembershipEvent) :
    (membershipMachine.step store event).1.Undeleted := by
  cases event with
  | call call =>
    rw [step_call undeleted call]
    exact undeleted_perform undeleted call
  | elapse elapsed => exact undeleted

end Steps

end Caas.Conversations
