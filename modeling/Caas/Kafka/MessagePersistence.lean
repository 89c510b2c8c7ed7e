import Caas.Async.Fallible
import Caas.Async.Pool
import Caas.Js.Date
import Caas.Js.Json
import Caas.Js.Value

/-!
# The consumer that persists messages

`handleMessage` takes a record of the topic, and puts its message into a buffer unless it is
stored already; `flushBuffer` writes the buffer to the collection, updates the conversations
and tells how it went. A flush that fails returns its messages to the buffer.

The code between two awaits is one command here, so that calls can interleave where they
await: a message that fills the buffer is taken out again at once, with the others. The
metrics and the console output are left out. The notifications of a batch are sent at once,
and any of them may get lost; a bulk write that is interrupted is rejected as a bulk write
error without write errors, or otherwise.
-/

namespace Caas.Kafka

open Js Async
open Program hiding result failure await

/-- A record of a topic, with the text of its value. -/
structure Record where
  topic : String
  partition : Nat
  offset : String
  rawValue : String
deriving DecidableEq

/-- `RealtimeEnvelope`. -/
structure Envelope (ν : Type) where
  eventId : String
  eventType : String
  schemaVersion : String
  tenantId : String
  projectId : Option (Json ν)
  correlationId : String
  occurredAt : String
  producerId : String
  partitionKey : String
  payload : Json ν
  metadata : Option (Json ν)

/-- A document of the collection `messages`. -/
structure Message (ν : Type) where
  messageId : String
  conversationId : String
  senderId : String
  tenantId : String
  projectId : Option (Json ν)
  content : Json ν
  messageType : String
  metadata : Json ν
  createdAt : Date

/-- What is published to the dead-letter queue. -/
structure DeadLetter (ν : Type) where
  topic : String
  partition : Nat
  offset : String
  reason : String
  rawValue : String
  parsedValue : Option (Json ν) := none
  eventId : Option String := none
  correlationId : Option String := none
  diagnostics : List (String × Json ν)

/-- A persistence event; `none` is a success. -/
structure Notification where
  messageId : String
  failure : Option String
deriving DecidableEq

/-- What the consumer is given: `JSON.parse`, the constructor of dates, numbers, and its
configuration. -/
structure PersistenceSettings (ν : Type) where
  parse : String → Except String (Json ν)
  newDate : Json ν → Date
  numbers : Json.Numbers ν
  allowedEventTypes : List String
  batchSize : Number

section Envelopes

variable {ν : Type} (settings : PersistenceSettings ν)

/-- The value, if it passes `isRealtimeEnvelope`. -/
def realtimeEnvelope? (value : Json ν) : Option (Envelope ν) := do
  let eventId ← value.stringMember? "event_id"
  let eventType ← value.stringMember? "event_type"
  let schemaVersion ← value.stringMember? "schema_version"
  let tenantId ← value.stringMember? "tenant_id"
  let correlationId ← value.stringMember? "correlation_id"
  let occurredAt ← value.stringMember? "occurred_at"
  let producerId ← value.stringMember? "producer_id"
  let partitionKey ← value.stringMember? "partition_key"
  let payload ← value.member? "payload"
  return {
    eventId, eventType, schemaVersion, tenantId, correlationId, occurredAt, producerId,
    partitionKey, payload, projectId := value.member? "project_id",
    metadata := value.member? "metadata" }

/-- The envelope that is made of a legacy message; reading a member of `null` throws. -/
def legacyEnvelope (value : Json ν) : Except String (Envelope ν) :=
  match value with
  | .null => .error "Cannot read properties of null (reading 'message_id')"
  | _ =>
    match value.stringMember? "message_id", value.stringMember? "conversation_id",
      value.stringMember? "tenant_id", value.stringMember? "sender_id",
      (value.member? "timestamp").filter (Json.truthy settings.numbers) with
    | some messageId, some conversationId, some tenantId, some senderId, some timestamp => do
      let metadata := value.member? "metadata"
      let correlationId := Json.template settings.numbers (Json.orElse settings.numbers
        (metadata.bind (·.member? "correlation_id")) (.string messageId))
      let occurredAt ← Date.toISOString (settings.newDate timestamp)
      return {
        eventId := messageId
        eventType := "message.created"
        schemaVersion := "1.0.0"
        tenantId
        projectId := none
        correlationId
        occurredAt
        producerId := "socket-service"
        partitionKey := tenantId ++ ":" ++ conversationId
        payload := .literal [("message_id", some (.string messageId)),
          ("conversation_id", some (.string conversationId)),
          ("sender_id", some (.string senderId)), ("content", value.member? "content"),
          ("timestamp", some (.string occurredAt))]
        metadata := some (Json.spread metadata [("user_id", .string senderId),
          ("conversation_id", .string conversationId),
          ("dedupe_key", .string (tenantId ++ ":" ++ messageId))]) }
    | _, _, _, _, _ => .error "Unsupported realtime message envelope"

def normalizeEnvelope (value : Json ν) : Except String (Envelope ν) :=
  match realtimeEnvelope? value with
  | some envelope => .ok envelope
  | none => legacyEnvelope settings value

/-- `JSON.parse(rawValue || '{}')`. -/
def parseRecord (record : Record) : Except String (Json ν) :=
  settings.parse (if record.rawValue = "" then "{}" else record.rawValue)

def envelope? (record : Record) : Option (Envelope ν) :=
  ((parseRecord settings record).bind (normalizeEnvelope settings)).toOption

def supportedEventTypes : List String :=
  (settings.allowedEventTypes.map trim).filter (· ≠ "")

/-- The text that a template makes of a member of the payload, or else of another value. -/
def payloadText (message : Envelope ν) (key : String) (other : Json ν) : String :=
  Json.template settings.numbers
    (Json.orElse settings.numbers (message.payload.member? key) other)

/-- The member of the metadata, or the empty text. -/
def metadataOrEmpty (message : Envelope ν) (key : String) : Json ν :=
  Json.orElse settings.numbers (message.metadata.bind (·.member? key)) (.string "")

def messageIdOf (message : Envelope ν) : String :=
  payloadText settings message "message_id" (.string message.eventId)

def conversationIdOf (message : Envelope ν) : String :=
  payloadText settings message "conversation_id" (metadataOrEmpty settings message "conversation_id")

def occurredAt (message : Envelope ν) : Date := settings.newDate (.string message.occurredAt)

def normalizeContent (content : Option (Json ν)) : Json ν :=
  match content with
  | some (.object members) => normalized (.object members)
  | some (.array items) => normalized (.array items)
  | some (.string text) => .object [("type", .string "text"), ("text", .string text)]
  | _ => .object [("type", .string "text"), ("text", .string "")]
where
  normalized (content : Json ν) : Json ν :=
    .spread (some (.object [("type", .string (Json.template settings.numbers
      (Json.orElse settings.numbers (content.member? "type") (.string "text"))))]))
      content.ownMembers

/-- The document that is stored for a message. -/
def toMessage (message : Envelope ν) : Message ν :=
  let content := normalizeContent settings (message.payload.member? "content")
  let project := message.projectId.filter (Json.truthy settings.numbers)
  { messageId := messageIdOf settings message
    conversationId := conversationIdOf settings message
    senderId := payloadText settings message "sender_id" (metadataOrEmpty settings message "user_id")
    tenantId := message.tenantId
    projectId := project
    content
    messageType := Json.template settings.numbers
      (Json.orElse settings.numbers (content.member? "type") (.string "text"))
    metadata := Json.spread message.metadata
      ([("event_id", .string message.eventId), ("correlation_id", .string message.correlationId)] ++
        (project.map fun project => ("project_id", project)).toList ++
          [("schema_version", .string message.schemaVersion)])
    createdAt := occurredAt settings message }

/-- `later > earlier`, of two dates. -/
def isLater : (later earlier : Date) → Bool
  | some later, some earlier => earlier < later
  | _, _ => false

def conversationKey (tenantId conversationId : String) : String := tenantId ++ ":" ++ conversationId

/-- The last message of each conversation of a batch. -/
def conversationUpdates (messages : List (Envelope ν)) : OrderedMap String Date :=
  messages.foldl (fun updates message =>
    let conversationId := conversationIdOf settings message
    if conversationId = "" then updates
    else
      let key := conversationKey message.tenantId conversationId
      if (updates.get key).all (isLater (occurredAt settings message)) then
        updates.set key (occurredAt settings message)
      else updates) .empty

/-- The tenant and the conversation that are read from a key, before and after its first colon. -/
def separate (key : String) : Option (String × String) :=
  match key.toList.dropWhile (· ≠ ':') with
  | [] => none
  | _ :: conversationId =>
    some (String.ofList (key.toList.takeWhile (· ≠ ':')), String.ofList conversationId)

end Envelopes

/-- The error of a bulk write, with the codes of its write errors if it is a `MongoBulkWriteError`. -/
structure BulkWriteFailure where
  message : String
  writeErrors : Option (List Nat)

/-- All its write errors are errors of duplicate keys. -/
def BulkWriteFailure.duplicatesOnly (failure : BulkWriteFailure) : Bool :=
  failure.writeErrors.any fun codes => codes.all (· = 11000)

/-- The buffer of the consumer, the collection with the last message of each conversation by
tenant and id, what has been published, and the notifications that were sent. The conversations
`outdated` are those of which a message has been inserted since their cache entry was last
invalidated; no step depends on them. -/
structure PersistenceState (ν : Type) where
  messageBuffer : List (Envelope ν)
  messages : List (Message ν)
  lastMessageAt : OrderedMap (String × String) (Option Date)
  deadLetters : List (DeadLetter ν)
  notifications : List Notification
  outdated : List (String × String)

/-- What the consumer awaits, and what it does in between. -/
inductive PersistenceCommand (ν : Type) where
  | publish (entry : DeadLetter ν)
  | checkDuplicate (messageId tenantId : String)
  | push (message : Envelope ν)
  | take
  | bulkWrite (messages : List (Message ν))
  | updateConversation (conversationId tenantId : String) (timestamp : Date)
  | invalidate (conversationId tenantId : String)
  | notify (notifications : List Notification)
  | putBack (messages : List (Envelope ν))

namespace PersistenceCommand

variable {ν : Type}

/-- The reply of a command; of a piece of code, what it goes on with. -/
def Reply : PersistenceCommand ν → Type
  | .publish _ | .updateConversation _ _ _ | .invalidate _ _ => Except String Unit
  | .checkDuplicate _ _ => Except String Bool
  | .push _ | .take => List (Envelope ν)
  | .bulkWrite _ => Except BulkWriteFailure Unit
  | .notify _ | .putBack _ => Unit

end PersistenceCommand

/-- How a command goes: whether it is rejected; which insertions of a bulk write are refused
for reasons of their own, which are reached when it is interrupted, and whether it is then
rejected as a bulk write; and which notifications are sent. -/
structure Circumstance where
  fault : Option Fault := none
  refused : Nat → Option Nat := fun _ => none
  reached : Nat → Bool := fun _ => true
  bulk : Bool := true
  sent : Nat → Bool := fun _ => true

/-- A bulk write that is not interrupted. -/
def Circumstance.complete (circumstance : Circumstance) : Circumstance :=
  { circumstance with reached := fun _ => true }

abbrev PersistenceProgram (ν α : Type) := Program (PersistenceCommand ν) PersistenceCommand.Reply α

namespace MessageRepository

variable {ν : Type}

/-- The unique index `uniq_tenant_message_id`. -/
def sameKey (document stored : Message ν) : Bool :=
  stored.tenantId = document.tenantId && stored.messageId = document.messageId

/-- The filter of `checkDuplicate`. -/
def isOf (messageId tenantId : String) (stored : Message ν) : Bool :=
  stored.tenantId = tenantId && (stored.messageId = messageId ||
    stored.metadata.stringMember? "event_id" = some messageId)

/-- Insert documents without order, from the one of the given number on: the collection
afterwards, and the codes of the errors. -/
def insertMessages (circumstance : Circumstance) :
    Nat → List (Message ν) → List (Message ν) → List (Message ν) × List Nat
  | _, [], collection => (collection, [])
  | number, document :: rest, collection =>
    if circumstance.reached number then
      if collection.any (sameKey document) then
        (insertMessages circumstance (number + 1) rest collection).map id (11000 :: ·)
      else
        match circumstance.refused number with
        | some code => (insertMessages circumstance (number + 1) rest collection).map id (code :: ·)
        | none => insertMessages circumstance (number + 1) rest (collection ++ [document])
    else insertMessages circumstance (number + 1) rest collection

theorem insertMessages_appends (circumstance : Circumstance) (number : Nat)
    (documents collection : List (Message ν)) :
    ∃ inserted, (insertMessages circumstance number documents collection).1 =
      collection ++ inserted ∧ ∀ document ∈ inserted, document ∈ documents := by
  have later {number : Nat} {collection rest : List (Message ν)} {document : Message ν}
      (appends : ∃ inserted, (insertMessages circumstance number rest collection).1 =
        collection ++ inserted ∧ ∀ stored ∈ inserted, stored ∈ rest) :
      ∃ inserted, (insertMessages circumstance number rest collection).1 =
        collection ++ inserted ∧ ∀ stored ∈ inserted, stored ∈ document :: rest := by
    obtain ⟨inserted, same, among⟩ := appends
    exact ⟨inserted, same, fun stored member => List.mem_cons_of_mem document (among stored member)⟩
  induction documents generalizing number collection with
  | nil => exact ⟨[], (List.append_nil collection).symm, nofun⟩
  | cons document rest ih =>
    unfold insertMessages
    split
    · split
      · exact later (ih (number + 1) collection)
      · split
        · exact later (ih (number + 1) collection)
        · obtain ⟨inserted, same, among⟩ := ih (number + 1) (collection ++ [document])
          refine ⟨document :: inserted, same.trans (List.append_assoc _ _ _), ?_⟩
          exact List.forall_mem_cons.mpr ⟨List.mem_cons_self,
            fun stored member => List.mem_cons_of_mem document (among stored member)⟩
    · exact later (ih (number + 1) collection)

theorem insertMessages_of_no_error {circumstance : Circumstance}
    (reached : ∀ number, circumstance.reached number = true) {number : Nat}
    {documents collection : List (Message ν)}
    (fine : (insertMessages circumstance number documents collection).2 = []) :
    (insertMessages circumstance number documents collection).1 = collection ++ documents := by
  induction documents generalizing number collection with
  | nil => exact (List.append_nil collection).symm
  | cons document rest ih =>
    unfold insertMessages at fine ⊢
    rw [if_pos (reached number)] at fine ⊢
    split at fine
    · cases fine
    · rename_i new
      rw [if_neg new]
      split at fine
      · cases fine
      · exact (ih fine).trans (List.append_assoc _ _ _)

/-- The error of a bulk write that the server has executed. -/
def bulkWriteError (codes : List Nat) : Except BulkWriteFailure Unit :=
  match codes with
  | [] => .ok ()
  | code :: _ =>
    .error ⟨if code = 11000 then "E11000 duplicate key error collection" else "write error",
      some codes⟩

theorem codes_of_bulkWriteError {codes : List Nat} (fine : bulkWriteError codes = .ok ()) :
    codes = [] := by
  cases codes with
  | nil => rfl
  | cons code rest => cases fine

end MessageRepository

namespace PersistenceState

open MessageRepository

variable {ν : Type} (settings : PersistenceSettings ν)

/-- The message fills the buffer. -/
def fills (state : PersistenceState ν) : Bool :=
  (Number.int (state.messageBuffer.length + 1 : Nat)).atLeast settings.batchSize

/-- Put a message into the buffer, and take it out with the others when the buffer is full. -/
def push (state : PersistenceState ν) (message : Envelope ν) :
    PersistenceState ν × List (Envelope ν) :=
  let buffer := state.messageBuffer ++ [message]
  if state.fills settings then ({ state with messageBuffer := [] }, buffer)
  else ({ state with messageBuffer := buffer }, [])

/-- The reply of a command that may be rejected before or after it has taken effect. -/
def answer {ρ : Type} (fault : Option Fault) (before after : PersistenceState ν) (reply : ρ) :
    PersistenceState ν × Except String ρ :=
  match fault with
  | none => (after, .ok reply)
  | some (.lost error) => (before, .error error)
  | some (.unanswered error) => (after, .error error)

/-- The collection after a bulk write, with the conversations of what was inserted outdated. -/
def insert (state : PersistenceState ν) (circumstance : Circumstance)
    (documents : List (Message ν)) : PersistenceState ν :=
  let after := (insertMessages circumstance 0 documents state.messages).1
  { state with
    messages := after
    outdated := state.outdated ++
      (after.drop state.messages.length).map fun stored => (stored.tenantId, stored.conversationId) }

def bulkWrite (state : PersistenceState ν) (circumstance : Circumstance)
    (documents : List (Message ν)) : PersistenceState ν × Except BulkWriteFailure Unit :=
  match circumstance.fault with
  | none =>
    (state.insert circumstance.complete documents,
      bulkWriteError (insertMessages circumstance.complete 0 documents state.messages).2)
  | some (.lost error) => (state, .error ⟨error, if circumstance.bulk then some [] else none⟩)
  | some (.unanswered error) =>
    (state.insert circumstance documents,
      .error ⟨error, if circumstance.bulk then some [] else none⟩)

def updateConversationLastMessage (state : PersistenceState ν) (conversationId tenantId : String)
    (timestamp : Date) : PersistenceState ν :=
  match state.lastMessageAt.get (tenantId, conversationId) with
  | none => state
  | some _ =>
    { state with
      lastMessageAt := state.lastMessageAt.set (tenantId, conversationId) (some timestamp) }

/-- `conversation:${tenantId}:${conversationId}`, of the cache. -/
def cacheKey (conversationId tenantId : String) : String :=
  "conversation:" ++ tenantId ++ ":" ++ conversationId

/-- No conversation with this cache entry is outdated. -/
def invalidate (state : PersistenceState ν) (conversationId tenantId : String) :
    PersistenceState ν :=
  { state with
    outdated := state.outdated.filter fun (tenant, conversation) =>
      cacheKey conversation tenant ≠ cacheKey conversationId tenantId }

def exec (state : PersistenceState ν) :
    (command : PersistenceCommand ν) → Circumstance → PersistenceState ν × command.Reply
  | .publish entry, circumstance =>
    answer circumstance.fault state { state with deadLetters := state.deadLetters ++ [entry] } ()
  | .checkDuplicate messageId tenantId, circumstance =>
    answer circumstance.fault state state (state.messages.any (isOf messageId tenantId))
  | .push message, _ => state.push settings message
  | .take, _ => ({ state with messageBuffer := [] }, state.messageBuffer)
  | .bulkWrite documents, circumstance => state.bulkWrite circumstance documents
  | .updateConversation conversationId tenantId timestamp, circumstance =>
    answer circumstance.fault state
      (state.updateConversationLastMessage conversationId tenantId timestamp) ()
  | .invalidate conversationId tenantId, circumstance =>
    answer circumstance.fault state (state.invalidate conversationId tenantId) ()
  | .notify notifications, circumstance =>
    let sent := (notifications.zipIdx.filter fun (_, number) => circumstance.sent number).map (·.1)
    ({ state with notifications := state.notifications ++ sent }, ())
  | .putBack messages, _ =>
    ({ state with messageBuffer := messages ++ state.messageBuffer }, ())

theorem messages_of_bulkWrite {state : PersistenceState ν} {circumstance : Circumstance}
    {documents : List (Message ν)} (fine : (state.bulkWrite circumstance documents).2 = .ok ()) :
    (state.bulkWrite circumstance documents).1.messages = state.messages ++ documents ∧
      circumstance.fault = none := by
  unfold bulkWrite at fine ⊢
  split
  · rename_i answered
    rw [answered] at fine
    exact ⟨insertMessages_of_no_error (fun _ => rfl) (codes_of_bulkWriteError fine), answered⟩
  · rename_i error lost
    rw [lost] at fine
    cases fine
  · rename_i error unanswered
    rw [unanswered] at fine
    cases fine

/-- What is stored or published stays so. -/
structure Grows (state after : PersistenceState ν) : Prop where
  messages : state.messages ⊆ after.messages
  deadLetters : state.deadLetters ⊆ after.deadLetters

variable {settings}

theorem grows_refl (state : PersistenceState ν) : Grows state state :=
  ⟨List.Subset.refl _, List.Subset.refl _⟩

theorem grows_answer {ρ : Type} {state after : PersistenceState ν} (grows : Grows state after)
    (fault : Option Fault) (reply : ρ) : Grows state (answer fault state after reply).1 := by
  rcases fault with _ | error | error
  · exact grows
  · exact grows_refl state
  · exact grows

theorem grows_insert (state : PersistenceState ν) (circumstance : Circumstance)
    (documents : List (Message ν)) : Grows state (state.insert circumstance documents) := by
  obtain ⟨inserted, same, -⟩ := insertMessages_appends circumstance 0 documents state.messages
  refine ⟨?_, List.Subset.refl _⟩
  rw [insert, same]
  exact List.subset_append_left _ _

theorem grows_updateConversation (state : PersistenceState ν) (conversationId tenantId : String)
    (timestamp : Date) :
    Grows state (state.updateConversationLastMessage conversationId tenantId timestamp) := by
  unfold updateConversationLastMessage
  split
  · exact grows_refl state
  · exact ⟨List.Subset.refl _, List.Subset.refl _⟩

theorem grows_exec (state : PersistenceState ν) (command : PersistenceCommand ν)
    (circumstance : Circumstance) : Grows state (state.exec settings command circumstance).1 := by
  cases command with
  | publish entry =>
    have grows : Grows state { state with deadLetters := state.deadLetters ++ [entry] } :=
      ⟨List.Subset.refl _, List.subset_append_left _ _⟩
    exact grows_answer grows _ _
  | checkDuplicate messageId tenantId => exact grows_answer (grows_refl state) _ _
  | push message =>
    change Grows state (state.push settings message).1
    unfold push
    split <;> exact ⟨List.Subset.refl _, List.Subset.refl _⟩
  | take | notify | putBack => exact ⟨List.Subset.refl _, List.Subset.refl _⟩
  | bulkWrite documents =>
    change Grows state (state.bulkWrite circumstance documents).1
    unfold bulkWrite
    split
    · exact grows_insert state _ documents
    · exact grows_refl state
    · exact grows_insert state _ documents
  | updateConversation conversationId tenantId timestamp =>
    exact grows_answer (grows_updateConversation state conversationId tenantId timestamp) _ _
  | invalidate conversationId tenantId =>
    have grows : Grows state (state.invalidate conversationId tenantId) :=
      ⟨List.Subset.refl _, List.Subset.refl _⟩
    exact grows_answer grows _ _

end PersistenceState

namespace MessagePersistenceConsumer

variable {ν : Type} (settings : PersistenceSettings ν)

def await (issued : PersistenceCommand ν) : PersistenceProgram ν issued.Reply :=
  command issued

def publish (entry : DeadLetter ν) : PersistenceProgram ν Unit := do
  let published ← await (.publish entry)
  orThrow published

def notifySuccess (messages : List (Envelope ν)) : PersistenceProgram ν Unit :=
  await (.notify (messages.map fun message => ⟨message.eventId, none⟩))

def notifyFailure (messages : List (Envelope ν)) (error : String) : PersistenceProgram ν Unit :=
  await (.notify (messages.map fun message => ⟨message.eventId, some error⟩))

/-- The loop over the conversations of a batch. -/
def updateConversations : List (String × Date) → PersistenceProgram ν Unit
  | [] => return ()
  | (key, timestamp) :: rest =>
    match separate key with
    | none => updateConversations rest
    | some (tenantId, conversationId) => do
      let updated ← await (.updateConversation conversationId tenantId timestamp)
      orThrow updated
      let invalidated ← await (.invalidate conversationId tenantId)
      orThrow invalidated
      updateConversations rest

def flushFailed (messages : List (Envelope ν)) (error : String) : PersistenceProgram ν Unit := do
  notifyFailure messages error
  await (.putBack messages)

/-- What a flush does with the messages that it has taken. Only the bulk write is rejected with
an error of its own. -/
def flushMessages (messages : List (Envelope ν)) : PersistenceProgram ν Unit := do
  let (written : Except BulkWriteFailure Unit) ←
    await (.bulkWrite (messages.map (toMessage settings)))
  match written with
  | .error failure =>
    if failure.duplicatesOnly then notifySuccess messages
    else flushFailed messages failure.message
  | .ok _ =>
    catching
      (do
        updateConversations (conversationUpdates settings messages).entries
        notifySuccess messages)
      (flushFailed messages)

def flushBuffer : PersistenceProgram ν Unit := do
  let (messages : List (Envelope ν)) ← await .take
  if messages.length = 0 then return ()
  else flushMessages settings messages

/-- The fields that every dead letter has of its record. -/
def deadLetter (record : Record) (reason : String) (diagnostics : List (String × Json ν)) :
    DeadLetter ν where
  topic := record.topic
  partition := record.partition
  offset := record.offset
  reason
  rawValue := record.rawValue
  diagnostics

/-- The dead letter of a record whose envelope is known. -/
def envelopeLetter (record : Record) (reason : String) (rawMessage : Json ν)
    (envelope : Envelope ν) (diagnostics : List (String × Json ν)) : DeadLetter ν :=
  { deadLetter record reason diagnostics with
    parsedValue := some rawMessage
    eventId := some envelope.eventId
    correlationId := some envelope.correlationId }

/-- What a parsed record leads to. -/
def persist (record : Record) (rawMessage : Json ν) : PersistenceProgram ν Unit := do
  let envelope ← orThrow (normalizeEnvelope settings rawMessage)
  if !(supportedEventTypes settings).contains envelope.eventType then
    catching
      (publish (envelopeLetter record "UNSUPPORTED_EVENT_TYPE" rawMessage envelope
        [("event_type", .string envelope.eventType),
          ("supported_event_types", .array ((supportedEventTypes settings).map .string))]))
      fun _ => return ()
  else
    let checked ← await (.checkDuplicate envelope.eventId envelope.tenantId)
    if ← orThrow checked then notifySuccess [envelope]
    else
      let (messages : List (Envelope ν)) ← await (.push envelope)
      if messages.length = 0 then return ()
      else flushMessages settings messages

def handlingFailed (record : Record) (error : String) : PersistenceProgram ν Unit :=
  catching
    (do
      let rawMessage ← orThrow (parseRecord settings record)
      let envelope ← orThrow (normalizeEnvelope settings rawMessage)
      publish (envelopeLetter record "PERSISTENCE_CONSUMER_ERROR" rawMessage envelope
        [("error", .string error)])
      notifyFailure [envelope] error)
    fun parseError => publish (deadLetter record "INVALID_ENVELOPE"
      [("error", .string error), ("parse_error", .string parseError)])

def handleMessage (record : Record) : PersistenceProgram ν Unit :=
  match parseRecord settings record with
  | .error error =>
    catching
      (publish (deadLetter record "INVALID_JSON" [("error", .string error)]))
      fun _ => return ()
  | .ok rawMessage =>
    catching (persist settings record rawMessage) (handlingFailed settings record)

/-- What runs: the handler of a record, and a flush by the timer or by `stop`. -/
inductive Input where
  | consume (record : Record)
  | flush

def body : Input → PersistenceProgram ν Unit
  | .consume record => handleMessage settings record
  | .flush => flushBuffer settings

/-- The consumer with what it works on. -/
def host : Host (PersistenceState ν) (PersistenceCommand ν) PersistenceCommand.Reply Circumstance
    Empty Input Unit where
  exec := PersistenceState.exec settings
  change _ impossible := impossible.elim
  body := body settings

end MessagePersistenceConsumer

end Caas.Kafka
