import Caas.Js.Json

/-!
# Routing of events

Events are routed by their families, the part of the type before its first dot; the entry
of a family says by which key its events are partitioned. Events of a conversation should
have one key, so that they stay in order.
-/

namespace Caas.Kafka

open Js

inductive PartitionKeyKind where
  | conversationId
  | userId
  | tenantId
  | random
deriving DecidableEq

inductive RetryPolicy where
  | standard
  | aggressive
  | none
deriving DecidableEq

structure EventRoutingEntry where
  eventFamily : String
  topic : String
  partitionKey : PartitionKeyKind
  retryPolicy : RetryPolicy
  maxRetries : Nat
  retryDelaysMs : List Nat
  dlqOnExhaust : Bool
deriving DecidableEq

/-- `EVENT_ROUTING_TABLE` -/
def eventRoutingTable : List EventRoutingEntry := [
  { eventFamily := "message.*", topic := "chat.messages", partitionKey := .conversationId,
    retryPolicy := .standard, maxRetries := 3, retryDelaysMs := [1000, 5000, 30000],
    dlqOnExhaust := true },
  { eventFamily := "reaction.*", topic := "chat.messages", partitionKey := .conversationId,
    retryPolicy := .standard, maxRetries := 2, retryDelaysMs := [1000, 5000],
    dlqOnExhaust := true },
  { eventFamily := "thread.*", topic := "chat.messages", partitionKey := .conversationId,
    retryPolicy := .standard, maxRetries := 3, retryDelaysMs := [1000, 5000, 30000],
    dlqOnExhaust := true },
  { eventFamily := "conversation.*", topic := "conversation-events",
    partitionKey := .conversationId, retryPolicy := .standard, maxRetries := 3,
    retryDelaysMs := [1000, 5000, 30000], dlqOnExhaust := true },
  { eventFamily := "group.*", topic := "conversation-events", partitionKey := .conversationId,
    retryPolicy := .standard, maxRetries := 3, retryDelaysMs := [1000, 5000, 30000],
    dlqOnExhaust := true },
  { eventFamily := "moderation.*", topic := "moderation-events", partitionKey := .tenantId,
    retryPolicy := .aggressive, maxRetries := 5,
    retryDelaysMs := [500, 1000, 5000, 15000, 60000], dlqOnExhaust := true },
  { eventFamily := "presence.*", topic := "presence-events", partitionKey := .userId,
    retryPolicy := .none, maxRetries := 0, retryDelaysMs := [], dlqOnExhaust := false },
  { eventFamily := "media.*", topic := "media-events", partitionKey := .conversationId,
    retryPolicy := .standard, maxRetries := 3, retryDelaysMs := [1000, 5000, 30000],
    dlqOnExhaust := true },
  { eventFamily := "webrtc.*", topic := "rtc-events", partitionKey := .userId,
    retryPolicy := .none, maxRetries := 0, retryDelaysMs := [], dlqOnExhaust := false },
  { eventFamily := "planner.*", topic := "planner-events", partitionKey := .conversationId,
    retryPolicy := .standard, maxRetries := 3, retryDelaysMs := [1000, 5000, 30000],
    dlqOnExhaust := true },
  { eventFamily := "social.*", topic := "social-events", partitionKey := .userId,
    retryPolicy := .standard, maxRetries := 2, retryDelaysMs := [1000, 5000],
    dlqOnExhaust := true },
  { eventFamily := "post.*", topic := "social-events", partitionKey := .userId,
    retryPolicy := .standard, maxRetries := 2, retryDelaysMs := [1000, 5000],
    dlqOnExhaust := true },
  { eventFamily := "story.*", topic := "social-events", partitionKey := .userId,
    retryPolicy := .standard, maxRetries := 2, retryDelaysMs := [1000, 5000],
    dlqOnExhaust := true }]

def getRoutingEntry (eventType : String) : Option EventRoutingEntry :=
  let family := String.ofList ((eventType.toList.splitOn '.').headD []) ++ ".*"
  eventRoutingTable.find? fun entry => entry.eventFamily = family

/-- What `getPartitionKey` takes of an envelope: any object with these members. -/
structure RoutedEnvelope (ν : Type) where
  tenantId : Option String
  projectId : Option String
  correlationId : Option String
  others : OrderedMap String (Json ν)

variable {ν : Type}

/-- `text || undefined` -/
def nonEmpty? (text : Option String) : Option String := text.filter fun text => text ≠ ""

def getPartitionKey (eventType : String) (envelope : RoutedEnvelope ν) : Option String :=
  match getRoutingEntry eventType with
  | none => none
  | some entry =>
    match entry.partitionKey with
    | .conversationId => (nonEmpty? envelope.correlationId).or (nonEmpty? envelope.tenantId)
    | .userId => nonEmpty? envelope.correlationId
    | .tenantId => nonEmpty? envelope.tenantId
    | .random => none

/-- Events of the type are to be partitioned by their conversations. -/
def ByConversation (eventType : String) : Prop :=
  (getRoutingEntry eventType).map (·.partitionKey) = some .conversationId

instance (eventType : String) : Decidable (ByConversation eventType) :=
  inferInstanceAs (Decidable (_ = _))

def RoutedEnvelope.Concerns (envelope : RoutedEnvelope ν) (conversationId : String) : Prop :=
  (envelope.others.get "payload").bind (·.stringMember? "conversation_id") = some conversationId

def OneKey (eventType : String) (envelope : RoutedEnvelope ν) (otherType : String)
    (other : RoutedEnvelope ν) : Prop :=
  ∃ key, getPartitionKey eventType envelope = some key ∧ getPartitionKey otherType other = some key

/-- The correlation id says no more than the tenant. -/
def NamesTenantOnly (tenant : String) (correlationId : Option String) : Prop :=
  correlationId = none ∨ correlationId = some "" ∨ correlationId = some tenant

/-- The events have one correlation id, where one that is missing or empty counts as that of the
tenant, if there is one. -/
def Correlated (tenantId : Option String) (correlationId otherId : Option String) : Prop :=
  (∃ id, id ≠ "" ∧ correlationId = some id ∧ otherId = some id) ∨
  (∃ tenant, tenant ≠ "" ∧ tenantId = some tenant ∧
    NamesTenantOnly tenant correlationId ∧ NamesTenantOnly tenant otherId)

theorem nonEmpty?_eq_some {text : Option String} {value : String} :
    nonEmpty? text = some value ↔ text = some value ∧ value ≠ "" := by
  rw [nonEmpty?, Option.filter_eq_some_iff, decide_eq_true_iff]

theorem nonEmpty?_eq_none {text : Option String} :
    nonEmpty? text = none ↔ text = none ∨ text = some "" := by
  cases text with
  | none => exact ⟨fun _ => .inl rfl, fun _ => rfl⟩
  | some text => simp [nonEmpty?]

theorem getPartitionKey_of_byConversation {eventType : String} (routed : ByConversation eventType)
    (envelope : RoutedEnvelope ν) : getPartitionKey eventType envelope =
      (nonEmpty? envelope.correlationId).or (nonEmpty? envelope.tenantId) := by
  obtain ⟨entry, found, kind⟩ := Option.map_eq_some_iff.mp routed
  rw [getPartitionKey, found]
  dsimp only
  rw [kind]

theorem key_eq_some {tenantId correlationId : Option String} {key : String} :
    (nonEmpty? correlationId).or (nonEmpty? tenantId) = some key ↔
      key ≠ "" ∧ (correlationId = some key ∨ tenantId = some key ∧ NamesTenantOnly key correlationId) := by
  rw [Option.or_eq_some_iff, nonEmpty?_eq_some, nonEmpty?_eq_none, nonEmpty?_eq_some]
  constructor
  · rintro (⟨same, filled⟩ | ⟨missing | empty, same, filled⟩)
    · exact ⟨filled, .inl same⟩
    · exact ⟨filled, .inr ⟨same, .inl missing⟩⟩
    · exact ⟨filled, .inr ⟨same, .inr (.inl empty)⟩⟩
  · rintro ⟨filled, same | ⟨same, missing | empty | named⟩⟩
    · exact .inl ⟨same, filled⟩
    · exact .inr ⟨.inl missing, same, filled⟩
    · exact .inr ⟨.inr empty, same, filled⟩
    · exact .inl ⟨named, filled⟩

/-- Two events of one tenant that are to be partitioned by conversation, whatever conversations
they concern, are given one key exactly when they are correlated. -/
theorem one_key_iff_correlated {eventType otherType : String} {envelope other : RoutedEnvelope ν}
    (routed : ByConversation eventType) (routed' : ByConversation otherType)
    (tenant : other.tenantId = envelope.tenantId) : OneKey eventType envelope otherType other ↔
      Correlated envelope.tenantId envelope.correlationId other.correlationId := by
  unfold OneKey
  rw [getPartitionKey_of_byConversation routed, getPartitionKey_of_byConversation routed', tenant]
  constructor
  · rintro ⟨key, first, second⟩
    obtain ⟨filled, first⟩ := key_eq_some.mp first
    obtain ⟨_, second⟩ := key_eq_some.mp second
    rcases first with same | ⟨known, silent⟩
    · rcases second with same' | ⟨known, silent'⟩
      · exact .inl ⟨key, filled, same, same'⟩
      · exact .inr ⟨key, filled, known, .inr (.inr same), silent'⟩
    · refine .inr ⟨key, filled, known, silent, ?_⟩
      rcases second with same' | ⟨_, silent'⟩
      · exact .inr (.inr same')
      · exact silent'
  · rintro (⟨id, filled, same, same'⟩ | ⟨tenant, filled, known, silent, silent'⟩)
    · exact ⟨id, key_eq_some.mpr ⟨filled, .inl same⟩, key_eq_some.mpr ⟨filled, .inl same'⟩⟩
    · refine ⟨tenant, key_eq_some.mpr ⟨filled, .inr ⟨known, silent⟩⟩, ?_⟩
      exact key_eq_some.mpr ⟨filled, .inr ⟨known, silent'⟩⟩

section Sample

def sampleEnvelope (correlationId : String) : RoutedEnvelope Nat where
  tenantId := some "t"
  projectId := none
  correlationId := some correlationId
  others := .ofList [("payload", .object [("conversation_id", .string "c1")])]

theorem correlated_events_share_key :
    OneKey "message.created" (sampleEnvelope "r") "reaction.added" (sampleEnvelope "r") :=
  (one_key_iff_correlated (by decide +kernel) (by decide +kernel) rfl).mpr
    (.inl ⟨"r", by decide, rfl, rfl⟩)

/-- Each request of a conversation has a correlation id of its own. -/
theorem conversation_has_two_keys :
    ¬ ∀ (eventType otherType : String) (envelope other : RoutedEnvelope Nat)
      (conversationId : String), ByConversation eventType → ByConversation otherType →
        other.tenantId = envelope.tenantId → envelope.Concerns conversationId →
          other.Concerns conversationId → OneKey eventType envelope otherType other := by
  intro alike
  obtain ⟨key, first, second⟩ := alike "message.created" "message.created" (sampleEnvelope "r1")
    (sampleEnvelope "r2") "c1" (by decide +kernel) (by decide +kernel) rfl rfl rfl
  have one : getPartitionKey "message.created" (sampleEnvelope "r1") = some "r1" := by
    decide +kernel
  have two : getPartitionKey "message.created" (sampleEnvelope "r2") = some "r2" := by
    decide +kernel
  exact absurd (Option.some.inj (one.symm.trans (first.trans (second.symm.trans two))))
    (by decide)

end Sample

end Caas.Kafka
