import Caas.Conversations.MembershipEffects

/-!
# The list and the records of the participants

The participants of a conversation are kept twice. The list and the records agree as long as
nobody is listed twice and nobody is added who is a participant already, and as long as only the
first record of a user who goes has no date: leaving closes that record, whichever it is, so that
one who has come back stays (`agreement_iff`).
-/

namespace Caas.Conversations

open Async Js Redis Documents ConversationService

structure Member where
  conversationId : String
  tenantId : String
  userId : String
deriving DecidableEq

/-- What an operation tells of a user: that they have been added, or that they have left. -/
def told (member : Member) : MembershipCall → Option Bool
  | .createConversation uuid params =>
    if s!"conv_{uuid}" = member.conversationId ∧ params.tenantId = member.tenantId ∧
      member.userId ∈ params.participants then some true else none
  | .addParticipant conversationId tenantId userId _ =>
    if ⟨conversationId, tenantId, userId⟩ = member then some true else none
  | .removeParticipant conversationId tenantId userId _
  | .leaveConversation conversationId tenantId userId =>
    if ⟨conversationId, tenantId, userId⟩ = member then some false else none

def completed : MembershipEvent → Option (Program.Outcome ConversationResult) →
    Option MembershipCall
  | .call call, some (.ok _) => some call
  | _, _ => none

/-- The operations, with a history of those that have completed. -/
def history : Transducer (ConversationStore × List MembershipCall) MembershipEvent
    (Option (Program.Outcome ConversationResult)) :=
  membershipMachine.recording completed

/-- The user has been removed or has left, and has not been added since. -/
def HasLeft (member : Member) (past : List MembershipCall) : Prop :=
  Transducer.latest (told member) past = some false

/-- Lists and records agree, and who has left is not a participant. -/
structure Agreement (current : ConversationStore × List MembershipCall) : Prop where
  listed : ∀ conversation ∈ current.1.conversations, conversation.participants.Nodup ∧
    ∀ userId, userId ∈ conversation.participants ↔
      current.1.isParticipant conversation.conversationId conversation.tenantId userId = true
  left : ∀ member, HasLeft member current.2 →
    current.1.isParticipant member.conversationId member.tenantId member.userId = false

def ConversationStore.recordsOf (store : ConversationStore)
    (conversationId tenantId userId : String) : List ConversationParticipant :=
  store.participants.filter (ConversationParticipant.isOf conversationId tenantId userId)

/-- No record of the user but the first one is without a date. -/
def OnlyFirstOpen (store : ConversationStore) (conversationId tenantId userId : String) : Prop :=
  ∀ record ∈ (store.recordsOf conversationId tenantId userId).tail, record.leftAt ≠ none

/-- Nobody is listed twice, nobody added who is a participant, and whoever goes has no other
record without a date than the first. -/
def InOrder (store : ConversationStore) : MembershipEvent → Prop
  | .call (.createConversation _ params) => params.participants.Nodup
  | .call (.addParticipant conversationId tenantId userId addedBy) =>
    store.isParticipant conversationId tenantId addedBy = true →
      store.isParticipant conversationId tenantId userId = false
  | .call (.removeParticipant conversationId tenantId userId removedBy) =>
    store.isParticipant conversationId tenantId removedBy = true →
      OnlyFirstOpen store conversationId tenantId userId
  | .call (.leaveConversation conversationId tenantId userId) =>
    OnlyFirstOpen store conversationId tenantId userId
  | .elapse _ => True

def createdId : MembershipEvent → Option String
  | .call (.createConversation uuid _) => some s!"conv_{uuid}"
  | _ => none

/-- The id of every conversation is its own, and records are of conversations that there are. -/
structure Placed (store : ConversationStore) : Prop where
  undeleted : store.Undeleted
  distinct : (store.conversations.map (·.conversationId)).Nodup
  recorded : ∀ record ∈ store.participants, ∃ conversation ∈ store.conversations,
    conversation.isOf record.conversationId record.tenantId = true

/-- An id that is drawn is that of no conversation. -/
def Fresh (store : ConversationStore) (event : MembershipEvent) : Prop :=
  ∀ id, createdId event = some id → id ∉ store.conversations.map (·.conversationId)

section Records

variable {store : ConversationStore} {conversationId tenantId userId : String}
  {conversationId' tenantId' userId' : String}

theorem isParticipant_eq_any : store.isParticipant conversationId tenantId userId =
    (store.recordsOf conversationId tenantId userId).any (·.leftAt.isNone) :=
  List.any_filter.symm

theorem isParticipant_added :
    (store.added conversationId tenantId userId).isParticipant conversationId' tenantId' userId' =
        true ↔ store.isParticipant conversationId' tenantId' userId' = true ∨
        (⟨conversationId, tenantId, userId⟩ : Member) = ⟨conversationId', tenantId', userId'⟩ := by
  change (store.participants ++ [addedParticipant conversationId tenantId userId]).any _ = true ↔ _
  have none : (addedParticipant conversationId tenantId userId).leftAt = none := rfl
  rw [List.any_append, Bool.or_eq_true, List.any_cons, List.any_nil, Bool.or_false,
    ConversationParticipant.isActive_iff, ConversationParticipant.isOf_iff, and_iff_left none,
    Member.mk.injEq]
  exact Iff.rfl

theorem isParticipant_departed_self :
    (store.departed conversationId tenantId userId).isParticipant conversationId tenantId userId =
        false ↔ OnlyFirstOpen store conversationId tenantId userId := by
  rw [isParticipant_eq_any]
  have records : (store.departed conversationId tenantId userId).recordsOf conversationId tenantId
      userId = (store.recordsOf conversationId tenantId userId).modifyHead
        fun participant => { participant with leftAt := some store.now } :=
    filter_updateOne fun _ matched => matched
  rw [records, OnlyFirstOpen]
  cases store.recordsOf conversationId tenantId userId with
  | nil | cons => simp

theorem isParticipant_departed_of_ne (different :
      (⟨conversationId, tenantId, userId⟩ : Member) ≠ ⟨conversationId', tenantId', userId'⟩) :
    (store.departed conversationId tenantId userId).isParticipant conversationId' tenantId'
      userId' = store.isParticipant conversationId' tenantId' userId' := by
  rw [isParticipant_eq_any, isParticipant_eq_any]
  have records : (store.departed conversationId tenantId userId).recordsOf conversationId'
      tenantId' userId' = store.recordsOf conversationId' tenantId' userId' := by
    refine filter_updateOne_of_apart fun record matched => ?_
    have apart : record.isOf conversationId' tenantId' userId' = false := by
      refine Bool.eq_false_iff.mpr fun other => different ?_
      obtain ⟨rfl, rfl, rfl⟩ := ConversationParticipant.isOf_iff.mp matched
      obtain ⟨rfl, rfl, rfl⟩ := ConversationParticipant.isOf_iff.mp other
      rfl
    exact ⟨apart, apart⟩
  rw [records]

end Records

section Lists

variable {store : ConversationStore} {conversationId tenantId : String}
  {change : List String → List String}

theorem map_relisted : (store.relisted conversationId tenantId change).conversations.map
    (·.conversationId) = store.conversations.map (·.conversationId) :=
  map_updateOne fun _ _ => rfl

theorem mem_relisted (distinct : (store.conversations.map (·.conversationId)).Nodup)
    {participants : List ConversationParticipant} {conversation : Conversation} :
    conversation ∈ (ConversationStore.relisted { store with participants } conversationId tenantId
        change).conversations ↔ ∃ earlier ∈ store.conversations,
        (if earlier.isOf conversationId tenantId then
          { earlier with participants := change earlier.participants } else earlier) =
            conversation := by
  have single : store.conversations.Pairwise fun one two =>
      ¬ (one.isOf conversationId tenantId = true ∧ two.isOf conversationId tenantId = true) := by
    refine (List.pairwise_map.mp distinct).imp fun different both => different ?_
    exact (Conversation.isOf_iff.mp both.1).1.trans (Conversation.isOf_iff.mp both.2).1.symm
  rw [ConversationStore.relisted, updateOne_eq_map single, List.mem_map]

end Lists

section Steps

variable {store : ConversationStore} {past : List MembershipCall}

variable {call : MembershipCall} {conversationId tenantId userId : String}

theorem hasLeft_concat {member : Member} : HasLeft member (past ++ [call]) ↔
      told member call = some false ∨ told member call = none ∧ HasLeft member past := by
  rw [HasLeft, Transducer.latest_concat]
  cases told member call with
  | none => simp [HasLeft]
  | some added => simp

theorem Placed.exists_of_isParticipant (placed : Placed store)
    (participates : store.isParticipant conversationId tenantId userId = true) :
    ∃ conversation ∈ store.conversations, conversation.isOf conversationId tenantId = true := by
  obtain ⟨record, member, active⟩ := List.any_eq_true.mp participates
  have own := ConversationParticipant.isOf_iff.mp (ConversationParticipant.isActive_iff.mp active).1
  obtain ⟨rfl, rfl, _⟩ := own
  exact placed.recorded record member

theorem hasLeft_of_added {member : Member} {added : Prop} [Decidable added]
    (tells : told member call = if added then some true else none)
    (gone : HasLeft member (past ++ [call])) : ¬ added ∧ HasLeft member past := by
  rcases hasLeft_concat.mp gone with left | ⟨silent, before⟩
  · rw [tells] at left
    split at left <;> cases left
  · refine ⟨fun new => ?_, before⟩
    rw [tells, if_pos new] at silent
    cases silent

theorem agreement_created (placed : Placed store) (holds : Agreement (store, past))
    {uuid : String} {params : CreateConversationParams}
    (fresh : s!"conv_{uuid}" ∉ store.conversations.map (·.conversationId)) :
    Agreement (store.created (newConversation uuid params),
        past ++ [.createConversation uuid params]) ↔ params.participants.Nodup := by
  constructor
  · intro after
    exact (after.listed _ (List.mem_append_right _ List.mem_cons_self)).1
  · intro nodup
    refine ⟨fun conversation member => ?_, fun member gone => ?_⟩
    · rcases List.mem_append.mp member with before | new
      · obtain ⟨single, agree⟩ := holds.listed conversation before
        refine ⟨single, fun userId => (agree userId).trans ?_⟩
        rw [isParticipant_created]
        refine (or_iff_left ?_).symm
        rintro ⟨same, _⟩
        exact fresh (List.mem_map.mpr ⟨conversation, before, same.symm⟩)
      · cases List.mem_singleton.mp new
        refine ⟨nodup, fun userId => ?_⟩
        rw [isParticipant_created, or_iff_right, and_iff_right rfl, and_iff_right rfl]
        -- there is no record of a conversation whose id has just been drawn
        intro participates
        obtain ⟨conversation, before, own⟩ := placed.exists_of_isParticipant participates
        exact fresh (List.mem_map.mpr ⟨conversation, before, (Conversation.isOf_iff.mp own).1⟩)
    · obtain ⟨others, before⟩ := hasLeft_of_added rfl gone
      refine Bool.eq_false_iff.mpr fun participates => ?_
      rcases isParticipant_created.mp participates with known | new
      · exact Bool.false_ne_true ((holds.left member before).symm.trans known)
      · exact others new

theorem agreement_added (placed : Placed store) (holds : Agreement (store, past)) {addedBy : String}
    (participates : store.isParticipant conversationId tenantId addedBy = true) :
    Agreement (store.added conversationId tenantId userId,
        past ++ [.addParticipant conversationId tenantId userId addedBy]) ↔
      store.isParticipant conversationId tenantId userId = false := by
  constructor
  · intro after
    obtain ⟨conversation, before, own⟩ := placed.exists_of_isParticipant participates
    have listed := (after.listed _ ((mem_relisted placed.distinct).mpr
      ⟨conversation, before, if_pos own⟩)).1
    have absent : userId ∉ conversation.participants := fun member =>
      (List.nodup_append.mp listed).2.2 userId member userId List.mem_cons_self rfl
    have agree := (holds.listed conversation before).2 userId
    obtain ⟨rfl, rfl⟩ := Conversation.isOf_iff.mp own
    exact Bool.eq_false_iff.mpr fun known => absent (agree.mpr known)
  · intro absent
    refine ⟨fun conversation member => ?_, fun member gone => ?_⟩
    · obtain ⟨earlier, before, rfl⟩ := (mem_relisted placed.distinct).mp member
      obtain ⟨single, agree⟩ := holds.listed earlier before
      split
      · rename_i own
        obtain ⟨rfl, rfl⟩ := Conversation.isOf_iff.mp own
        refine ⟨?_, fun other => ?_⟩
        · refine single.append (List.nodup_singleton userId) ?_
          rw [List.disjoint_singleton]
          exact fun member => Bool.false_ne_true (absent.symm.trans ((agree userId).mp member))
        · rw [isParticipant_added, List.mem_append, agree, List.mem_singleton, Member.mk.injEq]
          exact or_congr Iff.rfl ⟨fun same => ⟨rfl, rfl, same.symm⟩, fun same => same.2.2.symm⟩
      · rename_i other
        refine ⟨single, fun userId' => (agree userId').trans ?_⟩
        rw [isParticipant_added]
        refine (or_iff_left fun same => other ?_).symm
        cases same
        exact Conversation.isOf_iff.mpr ⟨rfl, rfl⟩
    · obtain ⟨others, before⟩ := hasLeft_of_added rfl gone
      refine Bool.eq_false_iff.mpr fun participates => ?_
      rcases isParticipant_added.mp participates with known | new
      · exact Bool.false_ne_true ((holds.left member before).symm.trans known)
      · exact others new

theorem agreement_departed (placed : Placed store) (holds : Agreement (store, past))
    (tells : ∀ member, told member call =
      if ⟨conversationId, tenantId, userId⟩ = member then some false else none) :
    Agreement (store.departed conversationId tenantId userId, past ++ [call]) ↔
      OnlyFirstOpen store conversationId tenantId userId := by
  constructor
  · intro after
    refine isParticipant_departed_self.mp
      (after.left ⟨conversationId, tenantId, userId⟩ (hasLeft_concat.mpr (.inl ?_)))
    rw [tells, if_pos rfl]
  · intro only
    have absent := isParticipant_departed_self.mpr only
    refine ⟨fun conversation member => ?_, fun member gone => ?_⟩
    · obtain ⟨earlier, before, rfl⟩ := (mem_relisted placed.distinct).mp member
      obtain ⟨single, agree⟩ := holds.listed earlier before
      split
      · rename_i own
        obtain ⟨rfl, rfl⟩ := Conversation.isOf_iff.mp own
        refine ⟨single.filter _, fun other => ?_⟩
        by_cases same : other = userId
        · subst same
          simp [without, absent]
        · rw [isParticipant_departed_of_ne fun equal => same (Member.mk.inj equal).2.2.symm,
            ← agree other]
          simp [without, same]
      · rename_i other
        refine ⟨single, fun userId' => (agree userId').trans ?_⟩
        rw [isParticipant_departed_of_ne]
        intro same
        cases same
        exact other (Conversation.isOf_iff.mpr ⟨rfl, rfl⟩)
    · by_cases own : ⟨conversationId, tenantId, userId⟩ = member
      · cases own
        exact absent
      · have before : HasLeft member past := by
          rcases hasLeft_concat.mp gone with left | ⟨_, before⟩
          · rw [tells, if_neg own] at left
            cases left
          · exact before
        exact (isParticipant_departed_of_ne own).trans (holds.left member before)

theorem agreement_step_iff {current : ConversationStore × List MembershipCall}
    {event : MembershipEvent} (placed : Placed current.1) (fresh : Fresh current.1 event)
    (holds : Agreement current) :
    Agreement (history.step current event).1 ↔ InOrder current.1 event := by
  obtain ⟨store, past⟩ := current
  cases event with
  | elapse elapsed =>
    refine iff_of_true ?_ trivial
    change Agreement ({ store with now := store.now + elapsed }, past ++ [])
    rw [List.append_nil]
    exact ⟨holds.listed, holds.left⟩
  | call call =>
    have step : (history.step (store, past) (.call call)).1 = ((store.perform call).1, past ++
        (completed (.call call) (some (store.perform call).2)).toList) := by
      change ((membershipMachine.step store (.call call)).1, past ++
        (completed (.call call) (membershipMachine.step store (.call call)).2).toList) = _
      rw [step_call placed.undeleted call]
    rw [step]
    have refused : Agreement (store, past ++ []) := by rwa [List.append_nil]
    cases call with
    | createConversation uuid params => exact agreement_created placed holds (fresh _ rfl)
    | addParticipant conversationId tenantId userId addedBy =>
      cases participates : store.isParticipant conversationId tenantId addedBy with
      | false =>
        rw [ConversationStore.perform, participates]
        exact iff_of_true refused fun known =>
          absurd (participates.symm.trans known) Bool.false_ne_true
      | true =>
        rw [ConversationStore.perform, participates]
        refine (agreement_added placed holds participates).trans ?_
        exact ⟨fun only _ => only, fun guarded => guarded participates⟩
    | removeParticipant conversationId tenantId userId removedBy =>
      cases participates : store.isParticipant conversationId tenantId removedBy with
      | false =>
        rw [ConversationStore.perform, participates]
        exact iff_of_true refused fun known =>
          absurd (participates.symm.trans known) Bool.false_ne_true
      | true =>
        rw [ConversationStore.perform, participates]
        refine (agreement_departed placed holds fun _ => rfl).trans ?_
        exact ⟨fun only _ => only, fun guarded => guarded participates⟩
    | leaveConversation conversationId tenantId userId =>
      exact agreement_departed placed holds fun _ => rfl

theorem map_step (placed : Placed store) (event : MembershipEvent) :
    (membershipMachine.step store event).1.conversations.map (·.conversationId) =
      store.conversations.map (·.conversationId) ++ (createdId event).toList := by
  have nothing : store.conversations.map (·.conversationId) =
      store.conversations.map (·.conversationId) ++ [] := (List.append_nil _).symm
  cases event with
  | elapse elapsed => exact nothing
  | call call =>
    rw [step_call placed.undeleted]
    cases call with
    | createConversation uuid params => exact List.map_append
    | addParticipant | removeParticipant =>
      rw [ConversationStore.perform]
      split
      · exact map_relisted.trans nothing
      · exact nothing
    | leaveConversation conversationId tenantId userId => exact map_relisted.trans nothing

theorem exists_relisted {participants : List ConversationParticipant}
    {conversationId' tenantId' : String} {change : List String → List String}
    (placed : Placed store) (present : ∃ conversation ∈ store.conversations,
      conversation.isOf conversationId' tenantId' = true) :
    ∃ conversation ∈ (ConversationStore.relisted { store with participants } conversationId
      tenantId change).conversations, conversation.isOf conversationId' tenantId' = true := by
  obtain ⟨conversation, before, own⟩ := present
  refine ⟨_, (mem_relisted placed.distinct).mpr ⟨conversation, before, rfl⟩, ?_⟩
  split <;> exact own

theorem placed_departed (placed : Placed store) :
    Placed (store.departed conversationId tenantId userId) where
  undeleted := undeleted_relisted placed.undeleted
  distinct := map_relisted.symm ▸ placed.distinct
  recorded record member := by
    refine exists_relisted placed ?_
    rcases mem_updateOne member with before | ⟨earlier, before, _, rfl⟩
    · exact placed.recorded record before
    · exact placed.recorded earlier before

theorem placed_added (placed : Placed store) {addedBy : String}
    (participates : store.isParticipant conversationId tenantId addedBy = true) :
    Placed (store.added conversationId tenantId userId) where
  undeleted := undeleted_relisted placed.undeleted
  distinct := map_relisted.symm ▸ placed.distinct
  recorded record member := by
    refine exists_relisted placed ?_
    rcases List.mem_append.mp member with before | new
    · exact placed.recorded record before
    · rw [List.mem_singleton.mp new]
      exact placed.exists_of_isParticipant participates

theorem placed_created (placed : Placed store) {uuid : String} {params : CreateConversationParams}
    (fresh : s!"conv_{uuid}" ∉ store.conversations.map (·.conversationId)) :
    Placed (store.created (newConversation uuid params)) where
  undeleted := undeleted_perform placed.undeleted (.createConversation uuid params)
  distinct := by
    change ((store.conversations ++ [newConversation uuid params]).map _).Nodup
    rw [List.map_append]
    exact List.Nodup.append placed.distinct (List.nodup_singleton _)
      (List.disjoint_singleton.mpr fresh)
  recorded record member := by
    rcases List.mem_append.mp member with before | new
    · obtain ⟨conversation, present, own⟩ := placed.recorded record before
      exact ⟨conversation, List.mem_append_left _ present, own⟩
    · obtain ⟨userId, _, rfl⟩ := List.mem_map.mp new
      exact ⟨_, List.mem_append_right _ List.mem_cons_self, Conversation.isOf_iff.mpr ⟨rfl, rfl⟩⟩

theorem placed_step (placed : Placed store) {event : MembershipEvent} (fresh : Fresh store event) :
    Placed (membershipMachine.step store event).1 := by
  cases event with
  | elapse elapsed => exact ⟨placed.undeleted, placed.distinct, placed.recorded⟩
  | call call =>
    rw [step_call placed.undeleted]
    cases call with
    | createConversation uuid params => exact placed_created placed (fresh _ rfl)
    | addParticipant conversationId tenantId userId addedBy =>
      rw [ConversationStore.perform]
      split
      · rename_i participates
        exact placed_added placed participates
      · exact placed
    | removeParticipant conversationId tenantId userId removedBy =>
      rw [ConversationStore.perform]
      split
      · exact placed_departed placed
      · exact placed
    | leaveConversation conversationId tenantId userId => exact placed_departed placed

end Steps

theorem admits_fresh {store : ConversationStore} {events : List MembershipEvent}
    (placed : Placed store) (once : (events.filterMap createdId).Nodup)
    (new : ∀ id ∈ events.filterMap createdId, id ∉ store.conversations.map (·.conversationId)) :
    membershipMachine.Admits Fresh store events := by
  induction events generalizing store with
  | nil => trivial
  | cons event rest ih =>
    have fresh : Fresh store event := fun id drawn =>
      new id (List.mem_filterMap.mpr ⟨event, List.mem_cons_self, drawn⟩)
    refine ⟨fresh, ih (placed_step placed fresh) ?_ fun id later => ?_⟩
    · rw [List.filterMap_cons] at once
      split at once
      · exact once
      · exact (List.nodup_cons.mp once).2
    · rw [map_step placed, List.mem_append, Option.mem_toList]
      rintro (before | drawn)
      · obtain ⟨other, member, drawn⟩ := List.mem_filterMap.mp later
        exact new id (List.mem_filterMap.mpr ⟨other, List.mem_cons_of_mem _ member, drawn⟩) before
      · rw [List.filterMap_cons, drawn] at once
        exact (List.nodup_cons.mp once).1 later

/-- Starting without conversations, and with every id drawn once only, list and records agree
after every operation exactly if the operations are in order. -/
theorem agreement_iff (start : ConversationStore) (events : List MembershipEvent)
    (noConversations : start.conversations = []) (noParticipants : start.participants = [])
    (once : (events.filterMap createdId).Nodup) :
    (∀ count, Agreement (history.run (start, []) (events.take count))) ↔
      membershipMachine.Admits InOrder start events := by
  have placed : Placed start := by
    refine ⟨fun conversation member => ?_, ?_, fun record member => ?_⟩
    · exact absurd (noConversations ▸ member) List.not_mem_nil
    · rw [noConversations]
      exact List.nodup_nil
    · exact absurd (noParticipants ▸ member) List.not_mem_nil
  have agreement : Agreement (start, []) := by
    refine ⟨fun conversation member => ?_, fun member gone => ?_⟩
    · exact absurd (noConversations ▸ member) List.not_mem_nil
    · cases gone
  have fresh : membershipMachine.Admits Fresh start events :=
    admits_fresh placed once fun id _ member => by
      rw [noConversations] at member
      exact absurd member List.not_mem_nil
  have agrees := @Transducer.forall_prefix_iff_admits_of _ _ _ history
    (fun current => Fresh current.1) (fun current => InOrder current.1)
    (fun current => Placed current.1) Agreement
    (fun _ event placed fresh => @placed_step _ placed event fresh)
    (fun _ _ placed fresh holds => agreement_step_iff placed fresh holds)
    (start, []) events (Transducer.admits_recording.mpr fresh) placed agreement
  exact agrees.trans Transducer.admits_recording

section Sample

instance {store : ConversationStore} {conversationId tenantId userId : String} :
    Decidable (OnlyFirstOpen store conversationId tenantId userId) :=
  inferInstanceAs (Decidable (∀ record ∈ (store.recordsOf conversationId tenantId userId).tail,
    record.leftAt ≠ none))

def createsWithBob : MembershipEvent :=
  .call (.createConversation "1" ⟨"t", .group, ["ann", "bob"], "ann", none⟩)

def removesBob : MembershipEvent := .call (.removeParticipant "conv_1" "t" "bob" "ann")

def addsBob : MembershipEvent := .call (.addParticipant "conv_1" "t" "bob" "ann")

theorem bob_comes_back :
    Agreement (history.run ({}, []) [createsWithBob, .elapse 5, removesBob, addsBob]) := by
  have listed : ["ann", "bob"].Nodup := by decide
  exact (agreement_iff {} [createsWithBob, .elapse 5, removesBob, addsBob] rfl rfl
    (by decide)).mpr
      ⟨listed, trivial, fun _ => by decide +kernel, fun _ => by decide +kernel, trivial⟩ 4

def removedTwice : List MembershipEvent := [createsWithBob, removesBob, addsBob, removesBob]

/-- Bob is removed, comes back, and is removed again. -/
theorem bob_stays : ¬ ∀ (start : ConversationStore) (events : List MembershipEvent),
    start.conversations = [] → start.participants = [] → (events.filterMap createdId).Nodup →
      ∀ count, Agreement (history.run (start, []) (events.take count)) := by
  intro agree
  have after := agree {} removedTwice rfl rfl (by decide) 4
  have gone : HasLeft ⟨"conv_1", "t", "bob"⟩ (history.run ({}, []) removedTwice).2 := by
    unfold HasLeft
    decide +kernel
  have stays : (history.run ({}, []) removedTwice).1.isParticipant "conv_1" "t" "bob" = true := by
    decide +kernel
  exact Bool.false_ne_true ((after.left _ gone).symm.trans stays)

end Sample

end Caas.Conversations
