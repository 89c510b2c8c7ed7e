import Caas.Js.Json

/-!
# Validation of events

The builder validates an event before it is sent, and the parser when it has been received:
first the envelope, then the payload under the subject of its type. Builder and parser have
a table of subjects each. What a subject accepts is a parameter. A type that is no key of a
table still finds what every object inherits.
-/

namespace Caas.Kafka

open Js

namespace EventTypes

def messageSent := "message.sent"
def messageEdited := "message.edited"
def messageDeleted := "message.deleted"
def messageRead := "message.read"
def messageDelivered := "message.delivered"
def reactionAdded := "reaction.added"
def reactionRemoved := "reaction.removed"
def typingStarted := "typing.started"
def typingStopped := "typing.stopped"
def userOnline := "user.online"
def userOffline := "user.offline"
def userStatusChanged := "user.status_changed"
def notificationQueued := "notification.queued"
def notificationSent := "notification.sent"
def notificationFailed := "notification.failed"
def userActivity := "analytics.user_activity"
def featureUsage := "analytics.feature_usage"
def errorOccurred := "analytics.error_occurred"

end EventTypes

/-- `KafkaMessage` -/
structure KafkaMessage (ν T : Type) where
  id : String
  type : String
  version : String
  timestamp : Nat
  tenantId : String
  source : String
  correlationId : Option String
  traceId : Option String
  payload : T
  /-- A member that is `undefined` is `none`. -/
  metadata : OrderedMap String (Option (Json ν))

structure EventBuilderOptions where
  tenantId : String
  source : String
  userId : Option String
  sessionId : Option String
  deviceId : Option String
  correlationId : Option String
  traceId : Option String
  userAgent : Option String
  ipAddress : Option String
  requestId : Option String

/-- What a schema is looked up by: a name, or what an object inherits under a property. -/
inductive Subject where
  | named (name : String)
  | inherited (property : String)
deriving DecidableEq

inductive Validated (ν T : Type) where
  | message (message : KafkaMessage ν T)
  | payload (payload : T)

structure ValidationResult where
  valid : Bool
  errors : List String

variable {ν T : Type}

/-- The properties of `Object.prototype`. -/
def inheritedProperties : List String :=
  ["constructor", "__defineGetter__", "__defineSetter__", "hasOwnProperty", "__lookupGetter__",
    "__lookupSetter__", "isPrototypeOf", "propertyIsEnumerable", "toString", "valueOf",
    "__proto__", "toLocaleString"]

/-- `subjectMap[eventType] || null` -/
def subjectOf (subjectMap : List (String × String)) (eventType : String) : Option Subject :=
  match subjectMap.lookup eventType with
  | some name => some (.named name)
  | none => if eventType ∈ inheritedProperties then some (.inherited eventType) else none

namespace SchemaValidator

variable (validateBySubject : Subject → Validated ν T → ValidationResult)

def validateMessageEnvelope (message : KafkaMessage ν T) : ValidationResult :=
  validateBySubject (.named "message-envelope-value") (.message message)

/-- The errors of a validation that fails are thrown. -/
def validateOrThrow (subject : Subject) (data : Validated ν T) : Except (List String) Unit :=
  let result := validateBySubject subject data
  if result.valid then .ok () else .error result.errors

end SchemaValidator

namespace EventBuilder

/-- `id` is the new UUID, `now` the time. -/
def createMessage (id : String) (now : Nat) (type : String) (payload : T)
    (options : EventBuilderOptions)
    (additionalMetadata : OrderedMap String (Option (Json ν))) : KafkaMessage ν T where
  id := id
  type := type
  version := "1.0.0"
  timestamp := now
  tenantId := options.tenantId
  source := options.source
  correlationId := options.correlationId
  traceId := options.traceId
  payload := payload
  metadata := OrderedMap.spread
    (.ofList [("user_id", options.userId.map .string), ("session_id", options.sessionId.map .string),
      ("device_id", options.deviceId.map .string), ("user_agent", options.userAgent.map .string),
      ("ip_address", options.ipAddress.map .string),
      ("request_id", options.requestId.map .string)]) additionalMetadata

def subjectMap : List (String × String) := [
  (EventTypes.messageSent, "chat-message-value"),
  (EventTypes.messageEdited, "chat-message-value"),
  (EventTypes.messageDeleted, "chat-message-value"),
  (EventTypes.reactionAdded, "chat-event-value"),
  (EventTypes.reactionRemoved, "chat-event-value"),
  (EventTypes.typingStarted, "chat-event-value"),
  (EventTypes.typingStopped, "chat-event-value"),
  (EventTypes.userOnline, "presence-update-value"),
  (EventTypes.userOffline, "presence-update-value"),
  (EventTypes.notificationQueued, "notification-value"),
  (EventTypes.userActivity, "analytics-event-value")]

def getPayloadSubject (eventType : String) : Option Subject := subjectOf subjectMap eventType

variable (validateBySubject : Subject → Validated ν T → ValidationResult)

def validateEvent (message : KafkaMessage ν T) : Bool :=
  let validated : Except (List String) Unit := do
    SchemaValidator.validateOrThrow validateBySubject (.named "message-envelope-value")
      (.message message)
    match getPayloadSubject message.type with
    | some subject =>
      SchemaValidator.validateOrThrow validateBySubject subject (.payload message.payload)
    | none => pure ()
  match validated with
  | .ok () => true
  | .error _ => false

def createValidatedEvent (id : String) (now : Nat) (type : String) (payload : T)
    (options : EventBuilderOptions)
    (additionalMetadata : OrderedMap String (Option (Json ν))) :
    Except String (KafkaMessage ν T) :=
  let message := createMessage id now type payload options additionalMetadata
  if validateEvent validateBySubject message then .ok message
  else .error s!"Event validation failed for type: {type}"

end EventBuilder

namespace EventParser

structure ParsedEvent (ν T : Type) where
  message : KafkaMessage ν T
  eventType : String
  isValid : Bool
  errors : Option (List String)

def subjectMap : List (String × String) := [
  (EventTypes.messageSent, "chat-message-value"),
  (EventTypes.messageEdited, "chat-message-value"),
  (EventTypes.messageDeleted, "chat-message-value"),
  (EventTypes.reactionAdded, "chat-event-value"),
  (EventTypes.reactionRemoved, "chat-event-value"),
  (EventTypes.typingStarted, "chat-event-value"),
  (EventTypes.typingStopped, "chat-event-value"),
  (EventTypes.messageRead, "chat-event-value"),
  (EventTypes.messageDelivered, "chat-event-value"),
  (EventTypes.userOnline, "presence-update-value"),
  (EventTypes.userOffline, "presence-update-value"),
  (EventTypes.userStatusChanged, "presence-update-value"),
  (EventTypes.notificationQueued, "notification-value"),
  (EventTypes.notificationSent, "notification-value"),
  (EventTypes.notificationFailed, "notification-value"),
  (EventTypes.userActivity, "analytics-event-value"),
  (EventTypes.featureUsage, "analytics-event-value"),
  (EventTypes.errorOccurred, "analytics-event-value")]

def getPayloadSubject (eventType : String) : Option Subject := subjectOf subjectMap eventType

variable (validateBySubject : Subject → Validated ν T → ValidationResult)

def parseEvent (message : KafkaMessage ν T) : ParsedEvent ν T :=
  let result : ParsedEvent ν T :=
    { message, eventType := message.type, isValid := false, errors := none }
  let envelopeValidation := SchemaValidator.validateMessageEnvelope validateBySubject message
  if !envelopeValidation.valid then { result with errors := some envelopeValidation.errors }
  else
    match getPayloadSubject message.type with
    | some subject =>
      let payloadValidation := validateBySubject subject (.payload message.payload)
      if !payloadValidation.valid then { result with errors := some payloadValidation.errors }
      else { result with isValid := true }
    | none => { result with isValid := true }

end EventParser

/-- The types whose payloads the parser alone validates, with their subjects. -/
def parserSubjects : List (String × String) := [
  (EventTypes.messageRead, "chat-event-value"),
  (EventTypes.messageDelivered, "chat-event-value"),
  (EventTypes.userStatusChanged, "presence-update-value"),
  (EventTypes.notificationSent, "notification-value"),
  (EventTypes.notificationFailed, "notification-value"),
  (EventTypes.featureUsage, "analytics-event-value"),
  (EventTypes.errorOccurred, "analytics-event-value")]

theorem lookup_subjectMap (eventType : String) : EventParser.subjectMap.lookup eventType =
      (parserSubjects.lookup eventType).or (EventBuilder.subjectMap.lookup eventType) := by
  by_cases own : eventType ∈ parserSubjects.map Prod.fst
  · have each : ∀ type ∈ parserSubjects.map Prod.fst, EventParser.subjectMap.lookup type =
      (parserSubjects.lookup type).or (EventBuilder.subjectMap.lookup type) := by decide
    exact each eventType own
  · have absent : parserSubjects.lookup eventType = none :=
      List.lookup_eq_none_iff.mpr fun entry here =>
        bne_iff_ne.mpr fun same => own (same ▸ List.mem_map_of_mem here)
    rw [absent, Option.none_or]
    simp only [parserSubjects, List.map_cons, List.map_nil, List.mem_cons, not_or,
      ← beq_eq_false_iff_ne] at own
    simp [EventParser.subjectMap, EventBuilder.subjectMap, List.lookup_cons, own]

theorem getPayloadSubject_eq (eventType : String) : EventParser.getPayloadSubject eventType =
      ((parserSubjects.lookup eventType).map .named).or
        (EventBuilder.getPayloadSubject eventType) := by
  rw [EventParser.getPayloadSubject, EventBuilder.getPayloadSubject, subjectOf, subjectOf,
    lookup_subjectMap]
  cases parserSubjects.lookup eventType <;> rfl

section Agreement

variable {validateBySubject : Subject → Validated ν T → ValidationResult}
  {message : KafkaMessage ν T}

theorem validateOrThrow_eq_ok {subject : Subject} {data : Validated ν T}
    (valid : (validateBySubject subject data).valid = true) :
    SchemaValidator.validateOrThrow validateBySubject subject data = .ok () := by
  rw [SchemaValidator.validateOrThrow]
  exact if_pos valid

theorem validateOrThrow_eq_error {subject : Subject} {data : Validated ν T}
    (invalid : (validateBySubject subject data).valid = false) :
    SchemaValidator.validateOrThrow validateBySubject subject data =
      .error (validateBySubject subject data).errors := by
  rw [SchemaValidator.validateOrThrow]
  exact if_neg (Bool.eq_false_iff.mp invalid)

/-- The builder requires a valid envelope, and a payload that is valid under its subject. -/
theorem validateEvent_iff : EventBuilder.validateEvent validateBySubject message = true ↔
      (SchemaValidator.validateMessageEnvelope validateBySubject message).valid = true ∧
        ∀ subject ∈ EventBuilder.getPayloadSubject message.type,
          (validateBySubject subject (.payload message.payload)).valid = true := by
  unfold EventBuilder.validateEvent SchemaValidator.validateMessageEnvelope
  cases envelope : (validateBySubject (.named "message-envelope-value")
      (.message message)).valid with
  | false =>
    rw [validateOrThrow_eq_error envelope]
    exact ⟨nofun, nofun⟩
  | true =>
    rw [validateOrThrow_eq_ok envelope]
    cases EventBuilder.getPayloadSubject message.type with
    | none => exact ⟨fun _ => ⟨rfl, nofun⟩, fun _ => rfl⟩
    | some subject =>
      dsimp only [bind, Except.bind]
      cases payload : (validateBySubject subject (.payload message.payload)).valid with
      | false =>
        rw [validateOrThrow_eq_error payload]
        exact ⟨nofun, fun valid => absurd (valid.2 subject rfl) (by rw [payload]; decide)⟩
      | true =>
        rw [validateOrThrow_eq_ok payload]
        refine ⟨fun _ => ⟨rfl, ?_⟩, fun _ => rfl⟩
        rintro _ ⟨⟩
        exact payload

theorem parseEvent_isValid_iff : (EventParser.parseEvent validateBySubject message).isValid = true ↔
      (SchemaValidator.validateMessageEnvelope validateBySubject message).valid = true ∧
        ∀ subject ∈ EventParser.getPayloadSubject message.type,
          (validateBySubject subject (.payload message.payload)).valid = true := by
  unfold EventParser.parseEvent
  cases envelope : (SchemaValidator.validateMessageEnvelope validateBySubject message).valid with
  | false => simp [envelope]
  | true =>
    cases EventParser.getPayloadSubject message.type with
    | none => simp [envelope]
    | some subject =>
      cases payload : (validateBySubject subject (.payload message.payload)).valid <;>
        simp [envelope, payload]

theorem createValidatedEvent_ok {id : String} {now : Nat} {type : String} {payload : T}
    {options : EventBuilderOptions} {additionalMetadata : OrderedMap String (Option (Json ν))}
    (created : EventBuilder.createValidatedEvent validateBySubject id now type payload options
      additionalMetadata = .ok message) :
    message = EventBuilder.createMessage id now type payload options additionalMetadata ∧
      EventBuilder.validateEvent validateBySubject message = true := by
  unfold EventBuilder.createValidatedEvent at created
  dsimp only at created
  split at created
  · rename_i valid
    cases created
    exact ⟨rfl, valid⟩
  · cases created

end Agreement

/-- An event that the builder returns is valid for the parser exactly when its payload is valid
under the subject that the parser alone has for its type, if it has one. -/
theorem created_event_is_valid_iff (validateBySubject : Subject → Validated ν T → ValidationResult)
    (id : String) (now : Nat) (type : String) (payload : T) (options : EventBuilderOptions)
    (additionalMetadata : OrderedMap String (Option (Json ν))) (message : KafkaMessage ν T)
    (created : EventBuilder.createValidatedEvent validateBySubject id now type payload options
      additionalMetadata = .ok message) :
    (EventParser.parseEvent validateBySubject message).isValid = true ↔
      ∀ subject ∈ parserSubjects.lookup type,
        (validateBySubject (.named subject) (.payload payload)).valid = true := by
  obtain ⟨rfl, validated⟩ := createValidatedEvent_ok created
  obtain ⟨envelope, built⟩ := validateEvent_iff.mp validated
  rw [parseEvent_isValid_iff, and_iff_right envelope, getPayloadSubject_eq]
  change (∀ subject ∈ ((parserSubjects.lookup type).map Subject.named).or _,
    (validateBySubject subject (.payload payload)).valid = true) ↔ _
  cases parserSubjects.lookup type with
  | none => exact ⟨fun _ => nofun, fun _ => built⟩
  | some name =>
    constructor
    · rintro valid _ ⟨⟩
      exact valid _ rfl
    · rintro valid _ ⟨⟩
      exact valid name rfl

section Sample

def sampleValidator : Subject → Validated Nat (Json Nat) → ValidationResult
  | .named "chat-event-value", .payload payload =>
    let missing := ["event_id", "event_type", "conversation_id", "user_id", "event_data"].filter
      fun key => (payload.member? key).isNone
    ⟨missing.isEmpty, missing.map fun key => s!"root: must have required property '{key}'"⟩
  | _, _ => ⟨true, []⟩

def sampleOptions : EventBuilderOptions :=
  ⟨"t", "chat-service", none, none, none, none, none, none, none, none⟩

def sampleMessage (type : String) (payload : Json Nat) : KafkaMessage Nat (Json Nat) :=
  EventBuilder.createMessage "0190" 0 type payload sampleOptions .empty

theorem sent_message_is_valid :
    (EventParser.parseEvent sampleValidator (sampleMessage "message.sent" (.object []))).isValid =
      true :=
  (created_event_is_valid_iff sampleValidator "0190" 0 "message.sent" (.object []) sampleOptions
    .empty _ rfl).mpr nofun

/-- The builder does not validate what a read receipt holds. -/
theorem read_receipt_is_invalid :
    ¬ ∀ (type : String) (payload : Json Nat) (message : KafkaMessage Nat (Json Nat)),
      EventBuilder.createValidatedEvent sampleValidator "0190" 0 type payload sampleOptions .empty =
        .ok message → (EventParser.parseEvent sampleValidator message).isValid = true := by
  intro valid
  have parsed := valid "message.read" (.object []) (sampleMessage "message.read" (.object [])) rfl
  have unread : (EventParser.parseEvent sampleValidator
      (sampleMessage "message.read" (.object []))).isValid = false := by decide +kernel
  cases unread.symm.trans parsed

end Sample

end Caas.Kafka
