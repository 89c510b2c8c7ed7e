import Caas.Kafka.PersistencePhases
import Caas.Machine.PendingMaximum
import Mathlib.Data.List.Induction

/-!
# The last message of a conversation

A flush whose bulk write succeeds writes the latest time of each conversation of its batch, and
then invalidates the cache entry of the conversation. It does not look at the time that is
there, and a flush whose bulk write meets duplicates only ends without either, whatever it has
inserted besides them.
-/

namespace Caas.Kafka

open Js Async MessagePersistenceConsumer MessageRepository PendingMaximum OrderedMap

section Recency

variable {ν : Type} (settings : PersistenceSettings ν) (conversation : String × String)

def Message.place (stored : Message ν) : String × String := (stored.tenantId, stored.conversationId)

/-- The tenant and the conversation of a message. -/
def place (message : Envelope ν) : String × String :=
  (message.tenantId, conversationIdOf settings message)

/-- The times of those of the messages that are in the conversation. -/
def times (messages : List (Message ν)) : Set Int :=
  {time | ∃ stored ∈ messages, stored.place = conversation ∧ stored.createdAt = some time}

/-- The last message of the conversation is the latest one that is stored, and its cache entry
has been invalidated since one was inserted. -/
def Recent (state : PersistenceState ν) : Prop :=
  conversation ∉ state.outdated ∧ ((times conversation state.messages).Nonempty →
    ∃ last : Int, state.lastMessageAt.get conversation = some (some (some last)) ∧
      IsGreatest (times conversation state.messages) last)

/-- Nothing is in progress, and nothing waits to be flushed. -/
def AllPersisted (pool : PersistencePool ν) : Prop :=
  pool.shared.messageBuffer = [] ∧ ∀ call ∈ pool.calls, call.program.outcome? ≠ none

/-- The key of the message is read as that of the conversation if the message is in it, and only
then. A message of the conversation has a time. -/
structure Sound (message : Envelope ν) : Prop where
  keyed : separate (conversationKey message.tenantId (conversationIdOf settings message)) =
    some conversation ↔ place settings message = conversation
  dated : place settings message = conversation → ∃ time, occurredAt settings message = some time

/-- The times that a loop over the updates writes for the conversation. -/
def writes (updates : List (String × Date)) : List Date :=
  updates.filterMap fun (key, timestamp) =>
    if separate key = some conversation then some timestamp else none

/-- The times that a flush is still to write for the conversation. -/
def Phase.due : Phase ν → List Date
  | .updating _ tenantId conversationId timestamp rest =>
    if (tenantId, conversationId) = conversation then timestamp :: writes conversation rest
    else writes conversation rest
  | .invalidating _ _ _ rest => writes conversation rest
  | _ => []

/-- A flush is still to invalidate the cache entry of the conversation. -/
def Phase.concerns : Phase ν → Prop
  | .updating _ tenantId conversationId _ rest | .invalidating _ tenantId conversationId rest =>
    (tenantId, conversationId) = conversation ∨ writes conversation rest ≠ []
  | _ => False

/-- The messages that a flush has taken. -/
def Phase.messages : Phase ν → List (Envelope ν)
  | .flushing messages | .updating messages _ _ _ _ | .invalidating messages _ _ _
  | .succeeding messages | .failing messages | .restoring messages => messages
  | _ => []

/-- A bulk write that inserts a message of the conversation is not rejected, and neither is a
command of a flush that is still to update the conversation. An update of it does not write a
time before the last message. -/
def InTime (state : PersistenceState ν) (phase : Phase ν) (circumstance : Circumstance) :
    PersistenceCommand ν → Prop
  | .bulkWrite documents =>
    (state.bulkWrite circumstance documents).2 = .ok () ∨
      ∀ stored ∈ (state.bulkWrite circumstance documents).1.messages.drop state.messages.length,
        stored.place ≠ conversation
  | .updateConversation conversationId tenantId timestamp =>
    (phase.concerns conversation → circumstance.fault = none) ∧
      ((tenantId, conversationId) = conversation → ∀ last time : Int, timestamp = some time →
        state.lastMessageAt.get conversation = some (some (some last)) → last ≤ time)
  | .invalidate _ _ => phase.concerns conversation → circumstance.fault = none
  | _ => True

/-- What is consumed is sound, and no command of a flush goes wrong for the conversation. -/
def Timely (pool : PersistencePool ν) : PersistenceEvent → Prop
  | .start (.consume record) => ∀ message ∈ supported? settings record,
    Sound settings conversation message
  | .run index circumstance => ∀ call command, pool.awaited? index = some (call, command) →
    InTime conversation pool.shared call.phase circumstance command
  | .start .flush | .change _ => True

variable {settings} {conversation}

theorem separate_conversationKey {tenantId : String} (colon : ':' ∉ tenantId.toList)
    (conversationId : String) :
    separate (conversationKey tenantId conversationId) = some (tenantId, conversationId) := by
  have before : ∀ letter ∈ tenantId.toList, (decide (letter ≠ ':')) = true := by
    intro letter member
    refine decide_eq_true ?_
    rintro rfl
    exact colon member
  have text : (conversationKey tenantId conversationId).toList =
      tenantId.toList ++ ':' :: conversationId.toList := by
    simp [conversationKey]
  unfold separate
  rw [text, List.dropWhile_append_of_pos before, List.takeWhile_append_of_pos before]
  simp

theorem conversationUpdates_concat (messages : List (Envelope ν)) (message : Envelope ν) :
    conversationUpdates settings (messages ++ [message]) =
      if conversationIdOf settings message = "" then conversationUpdates settings messages
      else
        let key := conversationKey message.tenantId (conversationIdOf settings message)
        if ((conversationUpdates settings messages).get key).all
            (isLater (occurredAt settings message)) then
          (conversationUpdates settings messages).set key (occurredAt settings message)
        else conversationUpdates settings messages := by
  simp [conversationUpdates]

theorem message_of_update {messages : List (Envelope ν)} {key : String} {timestamp : Date}
    (updated : (conversationUpdates settings messages).get key = some timestamp) :
    ∃ message ∈ messages,
      key = conversationKey message.tenantId (conversationIdOf settings message) ∧
        timestamp = occurredAt settings message := by
  induction messages using List.reverseRecOn with
  | nil => cases updated
  | append_singleton messages message ih =>
    have earlier (own : (conversationUpdates settings messages).get key = some timestamp) :
        ∃ other ∈ messages ++ [message],
          key = conversationKey other.tenantId (conversationIdOf settings other) ∧
            timestamp = occurredAt settings other := by
      obtain ⟨other, member, same⟩ := ih own
      exact ⟨other, List.mem_append_left _ member, same⟩
    rw [conversationUpdates_concat] at updated
    split at updated
    · exact earlier updated
    · dsimp only at updated
      split at updated
      · rw [get_set] at updated
        split at updated
        · rename_i same
          exact ⟨message, List.mem_append_right _ List.mem_cons_self, same.symm,
            (Option.some.inj updated).symm⟩
        · exact earlier updated
      · exact earlier updated

/-- Every message of a conversation is covered by the update of its key. -/
theorem update_of_message {messages : List (Envelope ν)} {key : String}
    (dated : ∀ message ∈ messages,
      key = conversationKey message.tenantId (conversationIdOf settings message) →
        ∃ time, occurredAt settings message = some time)
    {message : Envelope ν} (member : message ∈ messages)
    (named : conversationIdOf settings message ≠ "")
    (own : key = conversationKey message.tenantId (conversationIdOf settings message))
    {time : Int} (occurred : occurredAt settings message = some time) :
    ∃ later, (conversationUpdates settings messages).get key = some (some later) ∧
      time ≤ later := by
  induction messages using List.reverseRecOn generalizing message time with
  | nil => cases member
  | append_singleton messages last ih =>
    rw [conversationUpdates_concat]
    rcases List.mem_append.mp member with earlier | new
    · obtain ⟨held, present, below⟩ := ih
        (fun other there => dated other (List.mem_append_left _ there)) earlier named own occurred
      split
      · exact ⟨held, present, below⟩
      · dsimp only
        split
        · rename_i newer
          rw [get_set]
          split
          · rename_i same
            obtain ⟨moment, here⟩ :=
              dated last (List.mem_append_right _ List.mem_cons_self) same.symm
            rw [same, present, here] at newer
            have order : held < moment := by simpa [isLater] using newer
            exact ⟨moment, congrArg some here, below.trans order.le⟩
          · exact ⟨held, present, below⟩
        · exact ⟨held, present, below⟩
    · obtain rfl := List.mem_singleton.mp new
      rw [if_neg named, ← own]
      dsimp only
      split
      · rw [get_set, if_pos rfl, occurred]
        exact ⟨time, rfl, le_rfl⟩
      · rename_i older
        -- The update that is there is of a message with a time, and not before this one.
        cases present : (conversationUpdates settings messages).get key with
        | none =>
          rw [present] at older
          exact absurd rfl older
        | some timestamp =>
          obtain ⟨other, there, same, rfl⟩ := message_of_update present
          obtain ⟨held, moment⟩ := dated other (List.mem_append_left _ there) same
          rw [present, moment, occurred] at older
          have order : time ≤ held := by simpa [isLater] using older
          exact ⟨held, congrArg some moment, order⟩

theorem mem_writes {updates : List (String × Date)} {timestamp : Date} :
    timestamp ∈ writes conversation updates ↔
      ∃ key, (key, timestamp) ∈ updates ∧ separate key = some conversation := by
  unfold writes
  rw [List.mem_filterMap]
  constructor
  · rintro ⟨⟨key, other⟩, member, same⟩
    dsimp only at same
    split at same
    · rename_i own
      exact ⟨key, Option.some.inj same ▸ member, own⟩
    · cases same
  · rintro ⟨key, member, own⟩
    exact ⟨(key, timestamp), member, if_pos own⟩

theorem due_updatesFrom (messages : List (Envelope ν)) (updates : List (String × Date)) :
    (updatesFrom messages updates).due conversation = writes conversation updates := by
  induction updates with
  | nil => rfl
  | cons update rest ih =>
    obtain ⟨key, timestamp⟩ := update
    unfold updatesFrom
    cases parts : separate key with
    | none => simpa [writes, parts] using ih
    | some parts' =>
      obtain ⟨tenantId, conversationId⟩ := parts'
      by_cases own : (tenantId, conversationId) = conversation
      · simp [Phase.due, writes, parts, own]
      · simp [Phase.due, writes, parts, own]

theorem concerns_updatesFrom (messages : List (Envelope ν)) (updates : List (String × Date)) :
    (updatesFrom messages updates).concerns conversation ↔ writes conversation updates ≠ [] := by
  induction updates with
  | nil => simp [updatesFrom, Phase.concerns, writes]
  | cons update rest ih =>
    obtain ⟨key, timestamp⟩ := update
    unfold updatesFrom
    cases parts : separate key with
    | none => simpa [writes, parts] using ih
    | some parts' =>
      obtain ⟨tenantId, conversationId⟩ := parts'
      by_cases own : (tenantId, conversationId) = conversation
      · simp [Phase.concerns, writes, parts, own]
      · simp [Phase.concerns, writes, parts, own]

section Batches

variable {messages : List (Envelope ν)}

theorem message_of_write (sound : ∀ message ∈ messages, Sound settings conversation message)
    {timestamp : Date}
    (due : timestamp ∈ writes conversation (conversationUpdates settings messages).entries) :
    ∃ message ∈ messages, place settings message = conversation ∧
      timestamp = occurredAt settings message := by
  obtain ⟨key, member, own⟩ := mem_writes.mp due
  obtain ⟨message, here, rfl, same⟩ := message_of_update (get_eq_some_iff.mpr member)
  exact ⟨message, here, (sound message here).keyed.mp own, same⟩

theorem write_of_message (sound : ∀ message ∈ messages, Sound settings conversation message)
    (named : conversation.2 ≠ "") {message : Envelope ν}
    (member : message ∈ messages) (own : place settings message = conversation) {time : Int}
    (occurred : occurredAt settings message = some time) :
    ∃ later, some later ∈ writes conversation (conversationUpdates settings messages).entries ∧
      time ≤ later := by
  have key := (sound message member).keyed.mpr own
  have dated (other : Envelope ν) (there : other ∈ messages)
      (same : conversationKey message.tenantId (conversationIdOf settings message) =
        conversationKey other.tenantId (conversationIdOf settings other)) :
      ∃ time, occurredAt settings other = some time :=
    (sound other there).dated ((sound other there).keyed.mp (same ▸ key))
  have named' : conversationIdOf settings message ≠ "" := by
    rw [← own] at named
    exact named
  obtain ⟨later, updated, below⟩ := update_of_message dated member named' rfl occurred
  exact ⟨later, mem_writes.mpr ⟨_, get_eq_some_iff.mp updated, key⟩, below⟩

end Batches

/-- What one command of a call does to the messages, the last message and the updates that are
due of the conversation. -/
inductive Effect (conversation : String × String) (state after : PersistenceState ν)
    (phase next : Phase ν) : Prop where
  | quiet (stored : times conversation after.messages = times conversation state.messages)
      (register : after.lastMessageAt.get conversation = state.lastMessageAt.get conversation)
      (due : next.due conversation = phase.due conversation)
  | store (inserted : List (Message ν)) (stored : after.messages = state.messages ++ inserted)
      (register : after.lastMessageAt.get conversation = state.lastMessageAt.get conversation)
      (idle : phase.due conversation = [])
      (among : ∀ timestamp ∈ next.due conversation,
        ∃ time ∈ times conversation inserted, timestamp = some time)
      (covers : ∀ time ∈ times conversation inserted,
        ∃ later, some later ∈ next.due conversation ∧ time ≤ later)
  | write (time : Int) (stored : after.messages = state.messages)
      (register : after.lastMessageAt.get conversation = some (some (some time)))
      (later : ∀ last : Int, state.lastMessageAt.get conversation = some (some (some last)) →
        last ≤ time)
      (due : phase.due conversation = some time :: next.due conversation)

/-- A command of a call that leaves no cache entry outdated for which nothing is to be done. -/
structure Moves (conversation : String × String) (state after : PersistenceState ν)
    (phase next : Phase ν) : Prop where
  effect : Effect conversation state after phase next
  outdated : conversation ∈ after.outdated →
    next.concerns conversation ∨ conversation ∈ state.outdated ∧ ¬ phase.concerns conversation

section Commands

variable {state after : PersistenceState ν} {input : Input} {phase next : Phase ν}
  {circumstance : Circumstance}

theorem bulkWrite_appends (state : PersistenceState ν) (circumstance : Circumstance)
    (documents : List (Message ν)) : ∃ inserted, (state.bulkWrite circumstance documents).1 =
      { state with
        messages := state.messages ++ inserted
        outdated := state.outdated ++ inserted.map Message.place } := by
  have insert (circumstance : Circumstance) : ∃ inserted, state.insert circumstance documents =
      { state with
        messages := state.messages ++ inserted
        outdated := state.outdated ++ inserted.map Message.place } := by
    obtain ⟨inserted, same, -⟩ := insertMessages_appends circumstance 0 documents state.messages
    refine ⟨inserted, ?_⟩
    rw [PersistenceState.insert, same, List.drop_left]
    rfl
  unfold PersistenceState.bulkWrite
  split
  · exact insert _
  · exact ⟨[], by simp⟩
  · exact insert _

theorem times_append (earlier later : List (Message ν)) : times conversation (earlier ++ later) =
      times conversation earlier ∪ times conversation later := by
  ext time
  simp only [times, List.mem_append, Set.mem_ofPred_eq, Set.mem_union]
  constructor
  · rintro ⟨stored, old | new, own⟩
    · exact .inl ⟨stored, old, own⟩
    · exact .inr ⟨stored, new, own⟩
  · rintro (⟨stored, old, own⟩ | ⟨stored, new, own⟩)
    · exact ⟨stored, .inl old, own⟩
    · exact ⟨stored, .inr new, own⟩

theorem moves_quiet (stored : after.messages = state.messages)
    (register : after.lastMessageAt = state.lastMessageAt)
    (outdated : after.outdated = state.outdated)
    (idle : phase.due conversation = []) (unconcerned : ¬ phase.concerns conversation)
    (left : next.due conversation = []) : Moves conversation state after phase next where
  effect := .quiet (by rw [stored]) (by rw [register]) (left.trans idle.symm)
  outdated was := .inr ⟨outdated ▸ was, unconcerned⟩

/-- A batch whose bulk write succeeds is to be written and invalidated for its conversations. -/
theorem moves_written (named : conversation.2 ≠ "") {messages : List (Envelope ν)}
    (sound : ∀ message ∈ messages, Sound settings conversation message)
    (timely : InTime conversation state (.flushing messages) circumstance
      (.bulkWrite (messages.map (toMessage settings)))) : Moves conversation state
      (state.bulkWrite circumstance (messages.map (toMessage settings))).1 (.flushing messages)
      (written settings messages
        (state.bulkWrite circumstance (messages.map (toMessage settings))).2) := by
  obtain ⟨inserted, appended⟩ := bulkWrite_appends state circumstance
    (messages.map (toMessage settings))
  have stored := congrArg PersistenceState.messages appended
  have outdated := congrArg PersistenceState.outdated appended
  have register := congrArg PersistenceState.lastMessageAt appended
  cases reply : (state.bulkWrite circumstance (messages.map (toMessage settings))).2 with
  | ok _ =>
    obtain ⟨all, -⟩ := PersistenceState.messages_of_bulkWrite reply
    obtain rfl : inserted = messages.map (toMessage settings) :=
      List.append_cancel_left (stored.symm.trans all)
    rw [written]
    constructor
    · refine .store _ stored (congrArg (·.get conversation) register) rfl ?_ ?_
      · intro timestamp due
        rw [due_updatesFrom] at due
        obtain ⟨message, member, own, rfl⟩ := message_of_write sound due
        obtain ⟨time, occurred⟩ := (sound message member).dated own
        exact ⟨time, ⟨_, List.mem_map_of_mem member, own, occurred⟩, occurred⟩
      · rintro time ⟨_, member, own, occurred⟩
        obtain ⟨message, here, rfl⟩ := List.mem_map.mp member
        rw [due_updatesFrom]
        exact write_of_message sound named here own occurred
    · intro now
      rw [outdated] at now
      rcases List.mem_append.mp now with before | new
      · exact .inr ⟨before, not_false⟩
      · obtain ⟨_, member, own⟩ := List.mem_map.mp new
        obtain ⟨message, here, rfl⟩ := List.mem_map.mp member
        obtain ⟨time, occurred⟩ := (sound message here).dated own
        obtain ⟨later, due, -⟩ := write_of_message sound named here own occurred
        exact .inl ((concerns_updatesFrom messages _).mpr (List.ne_nil_of_mem due))
  | error failure =>
    have none : ∀ document ∈ inserted, document.place ≠ conversation := by
      intro document member
      refine timely.resolve_left (fun fine => ?_) document ?_
      · cases reply.symm.trans fine
      · rw [stored]
        exact List.drop_left.symm ▸ member
    have left : (written settings messages (.error failure)).due conversation = [] := by
      rw [written]
      split <;> rfl
    constructor
    · refine .store inserted stored (congrArg (·.get conversation) register) rfl ?_ ?_
      · rw [left]
        exact List.forall_mem_nil _
      · rintro time ⟨document, member, own, -⟩
        exact absurd own (none document member)
    · intro now
      rw [outdated] at now
      rcases List.mem_append.mp now with before | new
      · exact .inr ⟨before, not_false⟩
      · obtain ⟨document, member, own⟩ := List.mem_map.mp new
        exact absurd own (none document member)

theorem moves_other (stored : after.messages = state.messages)
    (register : after.lastMessageAt.get conversation = state.lastMessageAt.get conversation)
    (outdated : conversation ∈ after.outdated → conversation ∈ state.outdated)
    (due : next.due conversation = phase.due conversation)
    (concerns : phase.concerns conversation → next.concerns conversation) :
    Moves conversation state after phase next where
  effect := .quiet (by rw [stored]) register due
  outdated now := by
    by_cases concerned : phase.concerns conversation
    · exact .inl (concerns concerned)
    · exact .inr ⟨outdated now, concerned⟩

theorem get_updateConversationLastMessage (state : PersistenceState ν)
    (conversationId tenantId : String) (timestamp : Date) :
    (state.updateConversationLastMessage conversationId tenantId timestamp).lastMessageAt.get
        conversation =
      if (tenantId, conversationId) = conversation then
        (state.lastMessageAt.get conversation).map fun _ => some timestamp
      else state.lastMessageAt.get conversation := by
  unfold PersistenceState.updateConversationLastMessage
  by_cases own : (tenantId, conversationId) = conversation
  · rw [if_pos own, own]
    cases present : state.lastMessageAt.get conversation with
    | none => exact present
    | some last => rw [get_set, if_pos rfl, Option.map_some]
  · rw [if_neg own]
    split
    · rfl
    · rw [get_set, if_neg own]

theorem updateConversationLastMessage_rest (state : PersistenceState ν)
    (conversationId tenantId : String) (timestamp : Date) :
    (state.updateConversationLastMessage conversationId tenantId timestamp).messages =
        state.messages ∧
      (state.updateConversationLastMessage conversationId tenantId timestamp).outdated =
        state.outdated ∧
      (state.updateConversationLastMessage conversationId tenantId timestamp).messageBuffer =
        state.messageBuffer := by
  unfold PersistenceState.updateConversationLastMessage
  split <;> exact ⟨rfl, rfl, rfl⟩

theorem moves_update {messages : List (Envelope ν)} {tenantId conversationId : String}
    {timestamp : Date} {rest : List (String × Date)}
    (known : (state.lastMessageAt.get conversation).isSome = true) (dated : none ∉
      (Phase.updating messages tenantId conversationId timestamp rest).due conversation)
    (timely : InTime conversation state (.updating messages tenantId conversationId timestamp rest)
      circumstance (.updateConversation conversationId tenantId timestamp)) :
    let effect := state.exec settings (.updateConversation conversationId tenantId timestamp)
      circumstance
    Moves conversation state effect.1 (.updating messages tenantId conversationId timestamp rest)
      (nextPhase settings (.updating messages tenantId conversationId timestamp rest)
        (.updateConversation conversationId tenantId timestamp) effect.2) := by
  obtain ⟨answered, later⟩ := timely
  obtain ⟨fault, _, _, _, _⟩ := circumstance
  obtain ⟨stored, outdated, -⟩ :=
    updateConversationLastMessage_rest state conversationId tenantId timestamp
  by_cases own : (tenantId, conversationId) = conversation
  · obtain rfl : fault = none := answered (.inl own)
    have due : (Phase.updating messages tenantId conversationId timestamp rest).due conversation =
        timestamp :: writes conversation rest := if_pos own
    obtain ⟨time, rfl⟩ : ∃ time, timestamp = some time := by
      refine Option.ne_none_iff_exists'.mp ?_
      rintro rfl
      rw [due] at dated
      exact dated List.mem_cons_self
    refine ⟨.write time stored ?_ (fun last => later own last time rfl) due, fun _ => ?_⟩
    · obtain ⟨last, present⟩ := Option.isSome_iff_exists.mp known
      exact (get_updateConversationLastMessage state conversationId tenantId (some time)).trans
        (by rw [if_pos own, present, Option.map_some])
    · exact .inl (.inl own)
  · have same := @get_updateConversationLastMessage _ conversation state conversationId tenantId
      timestamp
    rw [if_neg own] at same
    have due : (Phase.updating messages tenantId conversationId timestamp rest).due conversation =
        writes conversation rest := if_neg own
    by_cases none : writes conversation rest = []
    · have unconcerned : ¬ (Phase.updating messages tenantId conversationId timestamp rest).concerns
          conversation := not_or.mpr ⟨own, not_not.mpr none⟩
      rcases fault with _ | error | error
      · exact moves_other stored same (outdated ▸ ·) due.symm fun concerned =>
          (unconcerned concerned).elim
      · exact moves_other rfl rfl id (none.symm.trans due.symm) fun concerned =>
          (unconcerned concerned).elim
      · exact moves_other stored same (outdated ▸ ·) (none.symm.trans due.symm) fun concerned =>
          (unconcerned concerned).elim
    · obtain rfl : fault = Option.none := answered (.inr none)
      exact moves_other stored same (outdated ▸ ·) due.symm fun _ => .inr none

theorem moves_invalidate {messages : List (Envelope ν)} {tenantId conversationId : String}
    {rest : List (String × Date)}
    (timely : InTime conversation state (.invalidating messages tenantId conversationId rest)
      circumstance (.invalidate conversationId tenantId)) :
    let effect := state.exec settings (.invalidate conversationId tenantId) circumstance
    Moves conversation state effect.1 (.invalidating messages tenantId conversationId rest)
      (nextPhase settings (.invalidating messages tenantId conversationId rest)
        (.invalidate conversationId tenantId) effect.2) := by
  obtain ⟨fault, _, _, _, _⟩ := circumstance
  have outdated : conversation ∈ (state.invalidate conversationId tenantId).outdated →
      conversation ∈ state.outdated := List.mem_of_mem_filter
  by_cases concerned : (Phase.invalidating messages tenantId conversationId rest).concerns
      conversation
  · obtain rfl : fault = none := timely concerned
    refine ⟨.quiet rfl rfl (due_updatesFrom messages rest), fun now => ?_⟩
    rcases concerned with own | left
    · obtain ⟨-, other⟩ := List.mem_filter.mp now
      rw [← own] at other
      exact absurd rfl (of_decide_eq_true other)
    · exact .inl ((concerns_updatesFrom messages rest).mpr left)
  · have none : writes conversation rest = [] := not_not.mp (not_or.mp concerned).2
    rcases fault with _ | error | error
    · exact moves_other rfl rfl outdated (due_updatesFrom messages rest) fun now =>
        (concerned now).elim
    · exact moves_other rfl rfl id none.symm fun now => (concerned now).elim
    · exact moves_other rfl rfl outdated none.symm fun now => (concerned now).elim

theorem moves_exec {command : PersistenceCommand ν} (named : conversation.2 ≠ "")
    (awaits : Awaits settings input phase command)
    (timely : InTime conversation state phase circumstance command)
    (known : (state.lastMessageAt.get conversation).isSome = true)
    (dated : none ∉ phase.due conversation)
    (sound : ∀ message ∈ phase.messages, Sound settings conversation message) :
    Moves conversation state (state.exec settings command circumstance).1 phase
      (nextPhase settings phase command (state.exec settings command circumstance).2) := by
  have closed (messages : List (Envelope ν)) : (taken messages).due conversation = [] := by
    unfold taken
    split <;> rfl
  cases awaits with
  | write messages => exact moves_written named sound timely
  | update messages tenantId conversationId timestamp rest => exact moves_update known dated timely
  | invalidate messages tenantId conversationId rest => exact moves_invalidate timely
  | take => exact moves_quiet rfl rfl rfl rfl not_false (closed _)
  | confirm | deny | succeed | fail | restore => exact moves_quiet rfl rfl rfl rfl not_false rfl
  | push record envelope own =>
    change Moves conversation state (state.push settings envelope).1 .checked
      (taken (state.push settings envelope).2)
    unfold PersistenceState.push
    split <;> exact moves_quiet rfl rfl rfl rfl not_false (closed _)
  | check record envelope own =>
    obtain ⟨_ | error | error, _⟩ := circumstance
    · cases duplicate : state.messages.any (isOf envelope.eventId envelope.tenantId) with
      | true | false =>
        simp only [PersistenceState.exec, PersistenceState.answer, nextPhase, duplicate]
        exact moves_quiet rfl rfl rfl rfl not_false rfl
    · exact moves_quiet rfl rfl rfl rfl not_false rfl
    · exact moves_quiet rfl rfl rfl rfl not_false rfl
  | reject | report | reportAgain =>
    obtain ⟨_ | error | error, _⟩ := circumstance <;>
      exact moves_quiet rfl rfl rfl rfl not_false rfl

theorem buffered_answer {ρ : Type} {fault : Option Fault} {reply : ρ} {message : Envelope ν}
    (member : message ∈ (PersistenceState.answer fault state after reply).1.messageBuffer)
    (same : after.messageBuffer = state.messageBuffer) : message ∈ state.messageBuffer := by
  rcases fault with _ | error | error
  · exact same ▸ member
  · exact member
  · exact same ▸ member

theorem messages_taken (messages : List (Envelope ν)) : (taken messages).messages = messages := by
  unfold taken
  split
  · rename_i empty
    exact (List.length_eq_zero_iff.mp empty).symm
  · rfl

theorem messages_updatesFrom (messages : List (Envelope ν)) (updates : List (String × Date)) :
    (updatesFrom messages updates).messages = messages := by
  induction updates with
  | nil => rfl
  | cons update rest ih =>
    unfold updatesFrom
    split
    · exact ih
    · rfl

theorem messages_written (messages : List (Envelope ν)) (reply : Except BulkWriteFailure Unit) :
    (written settings messages reply).messages = messages := by
  unfold written
  split
  · exact messages_updatesFrom messages _
  · split <;> rfl

/-- Messages come from the buffer, from the batch and from the record of the call. -/
theorem messages_exec {command : PersistenceCommand ν} (awaits : Awaits settings input phase command)
    {message : Envelope ν}
    (member : message ∈ (state.exec settings command circumstance).1.messageBuffer ∨
      message ∈ (nextPhase settings phase command
        (state.exec settings command circumstance).2).messages) :
    message ∈ state.messageBuffer ∨ message ∈ phase.messages ∨
      ∃ record, input = .consume record ∧ supported? settings record = some message := by
  cases awaits with
  | reject record entry unsupported =>
    rcases member with buffered | none
    · exact .inl (buffered_answer buffered rfl)
    · cases none
  | report record entry source | reportAgain record entry source =>
    rcases member with buffered | none
    · exact .inl (buffered_answer buffered rfl)
    · obtain ⟨_ | error | error, _⟩ := circumstance <;> cases none
  | check record envelope own =>
    rcases member with buffered | none
    · exact .inl (buffered_answer buffered rfl)
    · obtain ⟨_ | error | error, _⟩ := circumstance
      · cases duplicate : state.messages.any (isOf envelope.eventId envelope.tenantId) with
        | true | false =>
          simp only [PersistenceState.exec, PersistenceState.answer, nextPhase, duplicate] at none
          cases none
      · cases none
      · cases none
  | confirm | deny | succeed =>
    rcases member with buffered | none
    · exact .inl buffered
    · cases none
  | fail messages error =>
    rcases member with buffered | own
    · exact .inl buffered
    · exact .inr (.inl own)
  | restore messages =>
    rcases member with restored | none
    · exact (List.mem_append.mp restored).symm.imp_right .inl
    · cases none
  | push record envelope own =>
    have among : message ∈ state.messageBuffer ++ [envelope] := by
      change message ∈ (state.push settings envelope).1.messageBuffer ∨
        message ∈ (taken (state.push settings envelope).2).messages at member
      rw [messages_taken] at member
      unfold PersistenceState.push at member
      split at member
      · exact member.resolve_left List.not_mem_nil
      · exact member.resolve_right List.not_mem_nil
    rcases List.mem_append.mp among with buffered | new
    · exact .inl buffered
    · obtain rfl := List.mem_singleton.mp new
      exact .inr (.inr ⟨record, rfl, own⟩)
  | take =>
    rcases member with none | own
    · cases none
    · change message ∈ (taken state.messageBuffer).messages at own
      rw [messages_taken] at own
      exact .inl own
  | write messages =>
    rcases member with buffered | own
    · obtain ⟨inserted, appended⟩ := bulkWrite_appends state circumstance
        (messages.map (toMessage settings))
      change message ∈ (state.bulkWrite circumstance _).1.messageBuffer at buffered
      rw [appended] at buffered
      exact .inl buffered
    · change message ∈ (written settings messages (state.bulkWrite circumstance _).2).messages at own
      rw [messages_written] at own
      exact .inr (.inl own)
  | update messages tenantId conversationId timestamp rest =>
    rcases member with buffered | own
    · exact .inl (buffered_answer buffered
        (updateConversationLastMessage_rest state conversationId tenantId timestamp).2.2)
    · obtain ⟨_ | error | error, _⟩ := circumstance <;> exact .inr (.inl own)
  | invalidate messages tenantId conversationId rest =>
    rcases member with buffered | own
    · exact .inl (buffered_answer buffered rfl)
    · obtain ⟨_ | error | error, _⟩ := circumstance
      · change message ∈ (updatesFrom messages rest).messages at own
        rw [messages_updatesFrom] at own
        exact .inr (.inl own)
      · exact .inr (.inl own)
      · exact .inr (.inl own)

end Commands

section Runs

variable (settings conversation)

/-- The times that are still to be written for the conversation. -/
def dueTimes (pool : PersistencePool ν) : Set Int :=
  {time | ∃ call ∈ pool.calls, some time ∈ call.phase.due conversation}

/-- The time of the last message, if there is a valid one. -/
def lastTime (state : PersistenceState ν) : Option Int :=
  (state.lastMessageAt.get conversation).join.join

/-- The messages of a call are sound. -/
def Carries (input : Input) (phase : Phase ν) : Prop :=
  (∀ message ∈ phase.messages, Sound settings conversation message) ∧
    ∀ record, input = .consume record → ∀ message ∈ supported? settings record,
      Sound settings conversation message

/-- What a run keeps: the last message and the writes that are due keep the maximum of the
stored times, and an outdated cache entry is to be invalidated. -/
structure Tracked (pool : PersistencePool ν) : Prop where
  buffered : ∀ message ∈ pool.shared.messageBuffer, Sound settings conversation message
  carried : ∀ call ∈ pool.calls, Carries settings conversation call.input call.phase
  known : (pool.shared.lastMessageAt.get conversation).isSome = true
  dated : ∀ call ∈ pool.calls, none ∉ call.phase.due conversation
  tracks : Tracks (times conversation pool.shared.messages) (lastTime conversation pool.shared)
    (dueTimes conversation pool)
  invalidated : conversation ∈ pool.shared.outdated →
    ∃ call ∈ pool.calls, call.phase.concerns conversation

variable {settings conversation} {pool pool' : PersistencePool ν} {call : PersistenceCall ν}
  {phase : Phase ν}

theorem lastTime_eq_some_iff {state : PersistenceState ν} {last : Int} :
    lastTime conversation state = some last ↔
      state.lastMessageAt.get conversation = some (some (some last)) := by
  simp [lastTime, Option.join_eq_some_iff]

theorem dueTimes_back (goes : pool.Goes call phase pool') {time : Int}
    (due : time ∈ dueTimes conversation pool') :
    time ∈ dueTimes conversation pool ∨ some time ∈ phase.due conversation := by
  obtain ⟨other, member, own⟩ := due
  rcases goes.back other member with before | ⟨-, same⟩
  · exact .inl ⟨other, before, own⟩
  · exact .inr (same ▸ own)

theorem dueTimes_forth (goes : pool.Goes call phase pool') {time : Int}
    (due : time ∈ dueTimes conversation pool) :
    time ∈ dueTimes conversation pool' ∨ some time ∈ call.phase.due conversation := by
  obtain ⟨other, member, own⟩ := due
  rcases goes.forth other member with after | rfl
  · exact .inl ⟨other, after, own⟩
  · exact .inr own

theorem dueTimes_self (goes : pool.Goes call phase pool') {time : Int}
    (due : some time ∈ phase.due conversation) : time ∈ dueTimes conversation pool' := by
  obtain ⟨other, member, -, same⟩ := goes.self
  exact ⟨other, member, same ▸ due⟩

theorem tracks_effect (goes : pool.Goes call phase pool')
    (tracks : Tracks (times conversation pool.shared.messages) (lastTime conversation pool.shared)
      (dueTimes conversation pool))
    (effect : Effect conversation pool.shared pool'.shared call.phase phase) :
    Tracks (times conversation pool'.shared.messages) (lastTime conversation pool'.shared)
      (dueTimes conversation pool') := by
  cases effect with
  | quiet stored register due =>
    have same : dueTimes conversation pool' = dueTimes conversation pool := by
      ext time
      constructor
      · intro own
        rcases dueTimes_back goes own with before | moved
        · exact before
        · exact ⟨call, goes.member, due ▸ moved⟩
      · intro own
        rcases dueTimes_forth goes own with after | moved
        · exact after
        · exact dueTimes_self goes (due.symm ▸ moved)
    rw [stored, same, lastTime, register]
    exact tracks
  | store inserted stored register idle among covers =>
    rw [stored, times_append, lastTime, register]
    refine tracks.store ?_ ?_ ?_
    · intro time own
      refine (dueTimes_forth goes own).resolve_right ?_
      rw [idle]
      exact List.not_mem_nil
    · intro time own
      refine (dueTimes_back goes own).imp_right fun moved => ?_
      obtain ⟨same, new, equal⟩ := among (some time) moved
      cases equal
      exact new
    · intro time new
      obtain ⟨later, due, below⟩ := covers time new
      exact ⟨later, dueTimes_self goes due, below⟩
  | write time stored register later due =>
    rw [stored, lastTime_eq_some_iff.mpr register]
    have pending : time ∈ dueTimes conversation pool :=
      ⟨call, goes.member, due ▸ List.mem_cons_self⟩
    refine tracks.write pending (fun last held => later last (lastTime_eq_some_iff.mp held)) ?_ ?_
    · intro moment own
      rcases dueTimes_forth goes own with after | moved
      · exact .inr after
      · rw [due] at moved
        rcases List.mem_cons.mp moved with same | left
        · exact .inl (Option.some.inj same)
        · exact .inr (dueTimes_self goes left)
    · intro moment own
      rcases dueTimes_back goes own with before | left
      · exact before
      · exact ⟨call, goes.member, due ▸ List.mem_cons_of_mem _ left⟩

theorem known_effect {state after : PersistenceState ν} {before : Phase ν}
    (known : (state.lastMessageAt.get conversation).isSome = true)
    (effect : Effect conversation state after before phase) :
    (after.lastMessageAt.get conversation).isSome = true := by
  cases effect with
  | quiet _ register | store _ _ register => exact register ▸ known
  | write time stored register =>
    rw [register]
    rfl

theorem dated_effect {state after : PersistenceState ν} {before : Phase ν}
    (dated : none ∉ before.due conversation)
    (effect : Effect conversation state after before phase) : none ∉ phase.due conversation := by
  cases effect with
  | quiet stored register due => exact due.symm ▸ dated
  | store inserted stored register idle among covers =>
    intro undated
    obtain ⟨time, -, same⟩ := among none undated
    cases same
  | write time stored register later due =>
    rw [due] at dated
    exact fun undated => dated (List.mem_cons_of_mem _ undated)

theorem Tracked.resume {index : Nat} {command : PersistenceCommand ν}
    {next : command.Reply → PersistenceProgram ν Unit} {circumstance : Circumstance}
    (named : conversation.2 ≠ "") (tracked : Tracked settings conversation pool)
    (present : pool.calls[index]? = some call)
    (awaits : Awaits settings call.input call.phase command)
    (timely : InTime conversation pool.shared call.phase circumstance command) :
    Tracked settings conversation (pool.resume (discipline settings) index call command next
      (pool.shared.exec settings command circumstance)) := by
  have goes := @Pool.goes_resume _ _ _ _ _ _ (discipline settings) pool index call command next
    (pool.shared.exec settings command circumstance) present
  obtain ⟨batch, own⟩ := tracked.carried call goes.member
  have moves := @moves_exec _ settings _ _ _ _ _ _ named awaits timely tracked.known
    (tracked.dated call goes.member) batch
  have sound (message : Envelope ν)
      (member : message ∈ (pool.shared.exec settings command circumstance).1.messageBuffer ∨
        message ∈ (nextPhase settings call.phase command
          (pool.shared.exec settings command circumstance).2).messages) :
      Sound settings conversation message := by
    rcases messages_exec awaits member with buffered | taken | ⟨record, consumed, supported⟩
    · exact tracked.buffered message buffered
    · exact batch message taken
    · exact own record consumed message supported
  constructor
  · exact fun message buffered => sound message (.inl buffered)
  · refine goes.forall ?_ tracked.carried
    exact ⟨fun message member => sound message (.inr member), own⟩
  · exact known_effect tracked.known moves.effect
  · intro other member
    rcases goes.back other member with before | ⟨-, same⟩
    · exact tracked.dated other before
    · exact same ▸ dated_effect (tracked.dated call goes.member) moves.effect
  · exact tracks_effect goes tracked.tracks moves.effect
  · intro outdated
    rcases moves.outdated outdated with concerned | ⟨before, unconcerned⟩
    · obtain ⟨self, member, -, same⟩ := goes.self
      exact ⟨self, member, same ▸ concerned⟩
    · obtain ⟨other, member, concerned⟩ := tracked.invalidated before
      rcases goes.forth other member with after | rfl
      · exact ⟨other, after, concerned⟩
      · exact absurd concerned unconcerned

theorem Tracked.start (tracked : Tracked settings conversation pool) {input : Input}
    (sound : ∀ record, input = .consume record → ∀ message ∈ supported? settings record,
      Sound settings conversation message) :
    Tracked settings conversation (pool.start (host settings) (fun _ => .start) input) := by
  have due : dueTimes conversation (pool.start (host settings) (fun _ => .start) input) =
      dueTimes conversation pool := by
    ext time
    constructor
    · rintro ⟨other, member, own⟩
      rcases Pool.mem_start member with earlier | rfl
      · exact ⟨other, earlier, own⟩
      · cases own
    · rintro ⟨other, member, own⟩
      exact ⟨other, List.mem_append_left _ member, own⟩
  refine ⟨tracked.buffered, ?_, tracked.known, ?_, due.symm ▸ tracked.tracks, fun outdated => ?_⟩
  · exact Pool.forall_start ⟨List.forall_mem_nil _, sound⟩ tracked.carried
  · exact Pool.forall_start List.not_mem_nil tracked.dated
  · obtain ⟨other, member, concerned⟩ := tracked.invalidated outdated
    exact ⟨other, List.mem_append_left _ member, concerned⟩

theorem tracked_run {events : List PersistenceEvent} (named : conversation.2 ≠ "")
    (admits : (machine settings).Admits (Timely settings conversation) pool events)
    (respectful : Respectful settings pool) (tracked : Tracked settings conversation pool) :
    Respectful settings ((machine settings).run pool events) ∧
      Tracked settings conversation ((machine settings).run pool events) := by
  refine @Pool.invariant _ _ _ _ _ _ _ _ (host settings) (discipline settings) (fun _ => .start)
    ends (Timely settings conversation) (Tracked settings conversation) body_respects ?_ ?_ ?_ _ _
    admits respectful tracked
  · intro pool input tracked timely
    refine tracked.start ?_
    rintro record rfl
    exact timely
  · exact fun _ impossible => impossible.elim
  · intro pool index circumstance call command next tracked guarded present awaits may
    exact ⟨trivial, tracked.resume named present may
      (guarded call command (Pool.awaited?_of_await present awaits))⟩

theorem idle_of_ends {input : Input} {phase : Phase ν} {outcome : Program.Outcome Unit}
    (ended : ends input phase outcome) :
    phase.due conversation = [] ∧ ¬ phase.concerns conversation := by
  rcases ended with rfl | ⟨rfl, -⟩
  · exact ⟨rfl, not_false⟩
  · exact ⟨rfl, not_false⟩

/-- Where all events of a conversation have been persisted its last message is the latest one,
and its cache entry has been invalidated since, if no command of a flush that concerns it goes
wrong after the messages are inserted, and no older time is written over a later one. -/
theorem last_message_is_latest (settings : PersistenceSettings ν) (conversation : String × String)
    (named : conversation.2 ≠ "") (state : PersistenceState ν) (empty : state.messageBuffer = [])
    (known : (state.lastMessageAt.get conversation).isSome = true)
    (recent : Recent conversation state) (events : List PersistenceEvent)
    (admits : (machine settings).Admits (Timely settings conversation) (newPool state) events)
    (persisted : AllPersisted ((machine settings).run (newPool state) events)) :
    Recent conversation ((machine settings).run (newPool state) events).shared := by
  have fresh : Tracked settings conversation (newPool state) := by
    refine ⟨?_, List.forall_mem_nil _, known, List.forall_mem_nil _, ?_, fun outdated => ?_⟩
    · exact empty.symm ▸ List.forall_mem_nil _
    · have none : dueTimes conversation (newPool state) = ∅ := by
        ext time
        simp [dueTimes, newPool]
      rw [none]
      refine Tracks.of_isGreatest fun some => ?_
      obtain ⟨last, present, greatest⟩ := recent.2 some
      exact ⟨last, lastTime_eq_some_iff.mpr present, greatest⟩
    · exact absurd outdated recent.1
  obtain ⟨respectful, tracked⟩ := tracked_run named admits (List.forall_mem_nil _) fresh
  have idle (call : PersistenceCall ν)
      (member : call ∈ ((machine settings).run (newPool state) events).calls) :
      call.phase.due conversation = [] ∧ ¬ call.phase.concerns conversation := by
    obtain ⟨outcome, ended⟩ := Option.ne_none_iff_exists'.mp (persisted.2 call member)
    exact idle_of_ends ((respectful call member).ends_of_outcome ended)
  have none : dueTimes conversation ((machine settings).run (newPool state) events) = ∅ := by
    ext time
    simp only [dueTimes, Set.mem_ofPred_eq, Set.mem_empty_iff_false, iff_false]
    rintro ⟨call, member, own⟩
    rw [(idle call member).1] at own
    cases own
  constructor
  · intro outdated
    obtain ⟨call, member, concerned⟩ := tracked.invalidated outdated
    exact (idle call member).2 concerned
  · intro some
    have tracks := tracked.tracks
    rw [none] at tracks
    obtain ⟨last, held, greatest⟩ := tracks.isGreatest some
    exact ⟨last, lastTime_eq_some_iff.mp held, greatest⟩

/-- A record is consumed, and its handler flushes its message and updates the conversation. -/
def updatedConversation : List PersistenceEvent := .start (.consume sampleRecord) :: goesOn 0 6

/-- With a batch size of one the message is the last one of its conversation. -/
theorem one_message_is_last :
    Recent ("t", "c") ((machine (sampleSettings (.int 1))).run (newPool sampleState)
      updatedConversation).shared := by
  have quiet : Recent ("t", "c") sampleState :=
    ⟨List.not_mem_nil, fun ⟨_, _, absent, _⟩ => (List.not_mem_nil absent).elim⟩
  refine last_message_is_latest (sampleSettings (.int 1)) ("t", "c") (by decide) sampleState rfl rfl
    quiet updatedConversation ?_ ?_
  · refine ⟨?_, ?_, ?_, ?_, ?_, ?_, ?_, trivial⟩
    · rintro message ⟨⟩
      refine ⟨?_, fun _ => ⟨_, rfl⟩⟩
      rw [separate_conversationKey (by decide +kernel)]
      exact Option.some_inj
    all_goals rintro _ _ ⟨⟩
    any_goals trivial
    · exact .inl rfl
    · refine ⟨fun _ => rfl, fun _ last time _ updated => ?_⟩
      cases updated
    · exact fun _ => rfl
  · exact ⟨rfl, List.forall_mem_singleton.mpr (Option.some_ne_none _)⟩

/-- A record is consumed twice before it is stored, and both messages are flushed together. -/
def redeliveredMessage : List PersistenceEvent :=
  .start (.consume sampleRecord) :: goesOn 0 2 ++ .start (.consume sampleRecord) :: goesOn 1 4

/-- A message that is flushed with a duplicate of it is not the last one of its conversation. -/
theorem redelivered_message_is_not_last :
    ¬ ∀ events, AllPersisted ((machine (sampleSettings (.int 2))).run (newPool sampleState) events) →
      Recent ("t", "c") ((machine (sampleSettings (.int 2))).run (newPool sampleState)
        events).shared := by
  intro recent
  have times : (times ("t", "c") ((machine (sampleSettings (.int 2))).run (newPool sampleState)
      redeliveredMessage).shared.messages).Nonempty :=
    ⟨1709210096789, _, List.mem_singleton.mpr rfl, rfl, rfl⟩
  have ended : AllPersisted ((machine (sampleSettings (.int 2))).run (newPool sampleState)
      redeliveredMessage) :=
    ⟨rfl, List.forall_mem_cons.mpr ⟨Option.some_ne_none _,
      List.forall_mem_singleton.mpr (Option.some_ne_none _)⟩⟩
  obtain ⟨last, updated, -⟩ := (recent redeliveredMessage ended).2 times
  cases updated

end Runs

end Recency

end Caas.Kafka
