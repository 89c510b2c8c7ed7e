import Caas.Conversations.MembershipEffects
import Caas.Rooms.RoomAuthorizer

/-!
# Two checks of membership

`RoomAuthorizer` looks for a participant in the list of the conversation, by the `user_id` of the
entries. The entries that this service writes are texts and have none, so that nobody may join a
room by them. The check agrees with `isParticipant` only as long as nobody is a participant
(`checks_agree_iff`).
-/

namespace Caas.Conversations

open Async Js Redis Documents Rooms RoomAuthorizer ConversationService

/-- An entry of the participants in a document: a text, or a record with a `user_id`. -/
inductive ParticipantEntry where
  | text (userId : String)
  | record (participant : Participant)

/-- `p.user_id`. -/
def ParticipantEntry.userId? : ParticipantEntry → Option String
  | .text _ => none
  | .record participant => some participant.userId

def ParticipantEntry.record? : ParticipantEntry → Option Participant
  | .text _ => none
  | .record participant => some participant

theorem find?_filterMap_record (entries : List ParticipantEntry) (userId : String) :
    (entries.filterMap ParticipantEntry.record?).find? (fun participant =>
        decide (participant.userId = userId)) =
      (entries.find? fun entry => decide (entry.userId? = some userId)).bind
        ParticipantEntry.record? := by
  induction entries with
  | nil => rfl
  | cons entry rest ih =>
    cases entry with
    | text text => exact ih
    | record participant =>
      have same : decide ((ParticipantEntry.record participant).userId? = some userId) =
          decide (participant.userId = userId) := by
        simp [ParticipantEntry.userId?]
      have first : (ParticipantEntry.record participant :: rest).filterMap
          ParticipantEntry.record? = participant :: rest.filterMap ParticipantEntry.record? := rfl
      rw [first, List.find?_cons, List.find?_cons, same]
      cases decide (participant.userId = userId) with
      | true => rfl
      | false => exact ih

def document (conversation : Conversation) : Rooms.Conversation where
  conversationId := conversation.conversationId
  tenantId := conversation.tenantId
  participants :=
    some ((conversation.participants.map ParticipantEntry.text).filterMap ParticipantEntry.record?)

/-- The authorizer lets join whom `isParticipant` knows: the users who are not banned and of whom
it has no decision yet, without a project. -/
def ChecksAgree (store : ConversationStore) : Prop :=
  ∀ (config : RoomAuthorizerConfig) (authorizer : AuthorizerState) (user : RoomUser),
    authorizer.conversations = .ok (store.conversations.map document) →
      isUserBanned authorizer user = false → getCachedAuthorization authorizer user none = none →
        ((canJoinRoom config authorizer user none).2.authorized = true ↔
          store.isParticipant user.conversationId user.tenantId user.userId = true)

/-- A conversation is created without participants. -/
def CreatesEmpty : MembershipEvent → Prop
  | .call (.createConversation _ params) => params.participants = []
  | _ => True

section Checks

variable {config : RoomAuthorizerConfig} {authorizer : AuthorizerState} {user : RoomUser}
  {conversations : List Conversation}

theorem find?_document (conversation : Conversation) (userId : String) :
    ((document conversation).participants.getD []).find? (fun participant =>
      decide (participant.userId = userId)) = none := by
  change (List.filterMap ParticipantEntry.record? _).find? _ = none
  rw [find?_filterMap_record]
  have texts : (conversation.participants.map ParticipantEntry.text).find?
      (fun entry => decide (entry.userId? = some userId)) = none := by
    refine List.find?_eq_none.mpr fun entry member => ?_
    obtain ⟨text, _, rfl⟩ := List.mem_map.mp member
    exact of_decide_eq_false rfl
  rw [texts]
  rfl

theorem isMember_eq_false (found : authorizer.conversations = .ok (conversations.map document)) :
    (checkConversationMembership authorizer user none).isMember = false := by
  unfold checkConversationMembership
  rw [found]
  dsimp only
  cases first : (conversations.map document).find? fun conversation =>
      decide (conversation.conversationId = user.conversationId ∧
        conversation.tenantId = user.tenantId) with
  | none => rfl
  | some found =>
    obtain ⟨conversation, _, rfl⟩ := List.mem_map.mp (List.mem_of_find?_eq_some first)
    simp [find?_document]

theorem canJoinRoom_refuses (found : authorizer.conversations = .ok (conversations.map document))
    (uncached : getCachedAuthorization authorizer user none = none) :
    (canJoinRoom config authorizer user none).2.authorized = false := by
  unfold canJoinRoom
  rw [uncached]
  dsimp only
  split
  · rfl
  · rw [if_pos]
    rw [isMember_eq_false found]
    exact Bool.false_ne_true

def idleAuthorizer (conversations : List Conversation) : AuthorizerState where
  store := { now := 0, rooms := .empty }
  bans := .empty
  mutes := .empty
  authorizations := .empty
  conversations := .ok (conversations.map document)
  moderationLogs := .empty

theorem checksAgree_iff {store : ConversationStore} : ChecksAgree store ↔
    ∀ conversationId tenantId userId,
      store.isParticipant conversationId tenantId userId = false := by
  constructor
  · intro agree conversationId tenantId userId
    have joins := agree {} (idleAuthorizer store.conversations)
      ⟨userId, conversationId, tenantId⟩ rfl rfl rfl
    rw [canJoinRoom_refuses rfl rfl] at joins
    exact Bool.eq_false_iff.mpr fun participates => Bool.false_ne_true (joins.mpr participates)
  · intro nobody config authorizer user found _ uncached
    rw [canJoinRoom_refuses found uncached, nobody]

end Checks

section Steps

variable {store : ConversationStore}

theorem checksAgree_created_iff (agree : ChecksAgree store) {conversation : Conversation} :
    ChecksAgree (store.created conversation) ↔ conversation.participants = [] := by
  have nobody := checksAgree_iff.mp agree
  rw [checksAgree_iff]
  constructor
  · intro stillNobody
    refine List.eq_nil_iff_forall_not_mem.mpr fun userId member => ?_
    have participates : (store.created conversation).isParticipant conversation.conversationId
        conversation.tenantId userId = true := isParticipant_created.mpr (.inr ⟨rfl, rfl, member⟩)
    exact Bool.false_ne_true ((stillNobody _ _ _).symm.trans participates)
  · intro empty conversationId tenantId userId
    refine Bool.eq_false_iff.mpr fun participates => ?_
    rcases isParticipant_created.mp participates with before | ⟨_, _, member⟩
    · exact Bool.false_ne_true ((nobody _ _ _).symm.trans before)
    · rw [empty] at member
      exact absurd member List.not_mem_nil

theorem checksAgree_step_iff (undeleted : store.Undeleted) (agree : ChecksAgree store)
    (event : MembershipEvent) :
    ChecksAgree (membershipMachine.step store event).1 ↔ CreatesEmpty event := by
  have nobody := checksAgree_iff.mp agree
  cases event with
  | elapse elapsed => exact iff_of_true (checksAgree_iff.mpr nobody) trivial
  | call call =>
    rw [step_call undeleted]
    cases call with
    | createConversation uuid params => exact checksAgree_created_iff agree
    | addParticipant | removeParticipant =>
      rw [ConversationStore.perform, nobody]
      exact iff_of_true agree trivial
    | leaveConversation conversationId tenantId userId =>
      refine iff_of_true (checksAgree_iff.mpr fun _ _ _ => ?_) trivial
      refine Bool.eq_false_iff.mpr fun participates => ?_
      have before := @isParticipant_of_departed store conversationId tenantId userId _ _ _
        participates
      exact Bool.false_ne_true ((nobody _ _ _).symm.trans before)

end Steps

/-- Starting without conversations, the two checks agree after every operation exactly if no
conversation is ever created with participants. -/
theorem checks_agree_iff (start : ConversationStore) (events : List MembershipEvent)
    (noConversations : start.conversations = []) (noParticipants : start.participants = []) :
    (∀ count, ChecksAgree (membershipMachine.run start (events.take count))) ↔
      ∀ event ∈ events, CreatesEmpty event := by
  have undeleted : start.Undeleted := fun _ member =>
    absurd (noConversations ▸ member) List.not_mem_nil
  have agree : ChecksAgree start := by
    refine checksAgree_iff.mpr fun _ _ _ => ?_
    rw [ConversationStore.isParticipant, noParticipants, List.any_nil]
  have agrees := @Transducer.forall_prefix_iff_admits_of _ _ _ membershipMachine
    (fun _ _ => True) (fun _ event => CreatesEmpty event) ConversationStore.Undeleted ChecksAgree
    (fun _ event undeleted _ => undeleted_step undeleted event)
    (fun _ event undeleted _ agree => checksAgree_step_iff undeleted agree event)
    start events (Transducer.admits_of_forall (fun _ _ => trivial) start events) undeleted agree
  exact agrees.trans Transducer.admits_iff_forall_mem

/-- A conversation without participants, to which nobody can be added. -/
theorem empty_conversation_agrees : ChecksAgree (membershipMachine.run {}
    [.call (.createConversation "1" ⟨"t", .channel, [], "ann", none⟩),
      .call (.addParticipant "conv_1" "t" "bob" "ann")]) := by
  refine (checks_agree_iff {} [_, _] rfl rfl).mpr (fun event member => ?_) 2
  rcases List.mem_pair.mp member with rfl | rfl
  · rfl
  · trivial

/-- Ann creates a conversation with Bob. -/
def createsChat : MembershipEvent :=
  .call (.createConversation "1" ⟨"t", .group, ["ann", "bob"], "ann", none⟩)

/-- Bob is a participant and may not join the room. -/
theorem participant_may_not_join : ¬ ∀ (start : ConversationStore) (events : List MembershipEvent),
    start.conversations = [] → start.participants = [] →
      ∀ count, ChecksAgree (membershipMachine.run start (events.take count)) := by
  intro agrees
  have joins := agrees {} [createsChat] rfl rfl 1 {}
    (idleAuthorizer (membershipMachine.run {} [createsChat]).conversations) ⟨"bob", "conv_1", "t"⟩
    rfl rfl rfl
  have participates : (membershipMachine.run {} [createsChat]).isParticipant "conv_1" "t" "bob" =
      true := by decide +kernel
  have refused := @canJoinRoom_refuses {}
    (idleAuthorizer (membershipMachine.run {} [createsChat]).conversations) ⟨"bob", "conv_1", "t"⟩
    _ rfl rfl
  exact Bool.false_ne_true (refused.symm.trans (joins.mpr participates))

end Caas.Conversations
