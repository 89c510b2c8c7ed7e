import Caas.Js.JsonSchema
import Caas.Js.Value

/-!
# The schemas of the realtime events

The envelope and the payloads of `SCHEMA_REGISTRY`, and the validator that is written by hand:
`validateEnvelope` looks for the required fields and at two patterns, `validatePayload` at the
members of the payload, not at what is in them. What passes both is reported as validated;
`validated_satisfies_iff` says when it satisfies its schemas.

The keyword `format` is left out, and the versions of the registry.
-/

namespace Caas.Contracts

open Js

/-- A run of characters in a pattern. -/
inductive CharClass where
  /-- `[a-z_]` -/
  | lower
  /-- `\d` -/
  | digit
deriving DecidableEq

def CharClass.has : CharClass → Char → Bool
  | .lower, c => c.isLower || c = '_'
  | .digit, c => c.isDigit

/-- The regular expression of runs of these classes with dots between them. -/
def dotted (classes : List CharClass) (text : String) : Bool :=
  let runs := text.toList.splitOn '.'
  runs.length = classes.length && (runs.zip classes).all fun (run, charClass) =>
    run ≠ [] && run.all charClass.has

/-- `^[a-z_]+\.[a-z_]+$` -/
def eventTypePattern : String → Bool := dotted [.lower, .lower]

/-- `^\d+\.\d+\.\d+$` -/
def versionPattern : String → Bool := dotted [.digit, .digit, .digit]

section Schemas

def REALTIME_ENVELOPE_SCHEMA : JsonSchema where
  type := some .object
  required := ["event_id", "event_type", "schema_version", "tenant_id", "correlation_id",
    "occurred_at", "producer_id", "partition_key", "payload"]
  properties := [
    ("event_id", { type := some .string }),
    ("event_type", { type := some .string, pattern := some eventTypePattern }),
    ("schema_version", { type := some .string, pattern := some versionPattern }),
    ("tenant_id", { type := some .string }),
    ("project_id", { type := some .string }),
    ("correlation_id", { type := some .string }),
    ("occurred_at", { type := some .string }),
    ("producer_id", { type := some .string }),
    ("partition_key", { type := some .string }),
    ("payload", { type := some .object }),
    ("metadata", {
      type := some .object
      properties := [
        ("user_id", { type := some .string }),
        ("conversation_id", { type := some .string }),
        ("dedupe_key", { type := some .string })] })]

def MESSAGE_CREATED_PAYLOAD_SCHEMA : JsonSchema where
  type := some .object
  required := ["message_id", "conversation_id", "sender_id", "content"]
  properties := [
    ("message_id", { type := some .string }),
    ("conversation_id", { type := some .string }),
    ("sender_id", { type := some .string }),
    ("content", {
      type := some .object
      required := ["type"]
      properties := [
        ("type", {
          type := some .string
          enum := some ["text", "image", "video", "audio", "file", "rich"] }),
        ("text", { type := some .string }),
        ("url", { type := some .string }),
        ("mime_type", { type := some .string }),
        ("caption", { type := some .string })] }),
    ("timestamp", { type := some .string }),
    ("reply_to", { type := some .string })]

def REACTION_PAYLOAD_SCHEMA : JsonSchema where
  type := some .object
  required := ["message_id", "conversation_id", "user_id", "emoji"]
  properties := [
    ("message_id", { type := some .string }),
    ("conversation_id", { type := some .string }),
    ("user_id", { type := some .string }),
    ("emoji", { type := some .string, maxLength := some 8 })]

def THREAD_REPLY_PAYLOAD_SCHEMA : JsonSchema where
  type := some .object
  required := ["parent_message_id", "reply_message_id", "conversation_id", "sender_id", "content"]
  properties := [
    ("parent_message_id", { type := some .string }),
    ("reply_message_id", { type := some .string }),
    ("conversation_id", { type := some .string }),
    ("sender_id", { type := some .string }),
    ("content", {
      type := some .object
      required := ["type"]
      properties := [
        ("type", { type := some .string }),
        ("text", { type := some .string })] })]

def GROUP_EVENT_PAYLOAD_SCHEMA : JsonSchema where
  type := some .object
  required := ["conversation_id", "actor_id"]
  properties := [
    ("conversation_id", { type := some .string }),
    ("actor_id", { type := some .string }),
    ("group_name", { type := some .string, maxLength := some 128 }),
    ("participant_ids", {
      type := some .array
      items := some { type := some .string }
      maxItems := some 256 }),
    ("target_user_id", { type := some .string }),
    ("new_role", { type := some .string, enum := some ["admin", "moderator", "member"] }),
    ("new_name", { type := some .string }),
    ("avatar_url", { type := some .string })]

def PLANNER_TASK_PAYLOAD_SCHEMA : JsonSchema where
  type := some .object
  required := ["conversation_id", "task_id", "title", "creator_id"]
  properties := [
    ("conversation_id", { type := some .string }),
    ("task_id", { type := some .string }),
    ("title", { type := some .string, maxLength := some 256 }),
    ("description", { type := some .string, maxLength := some 2048 }),
    ("creator_id", { type := some .string }),
    ("assignee_ids", { type := some .array, items := some { type := some .string } }),
    ("due_date", { type := some .string }),
    ("priority", { type := some .string, enum := some ["low", "medium", "high", "critical"] }),
    ("status", {
      type := some .string
      enum := some ["open", "in_progress", "completed", "cancelled"] })]

def SOCIAL_POST_PAYLOAD_SCHEMA : JsonSchema where
  type := some .object
  required := ["post_id", "user_id"]
  properties := [
    ("post_id", { type := some .string }),
    ("user_id", { type := some .string }),
    ("content_type", { type := some .string, enum := some ["text", "image", "video", "story"] }),
    ("text", { type := some .string, maxLength := some 4096 }),
    ("media_urls", {
      type := some .array
      items := some { type := some .string }
      maxItems := some 10 }),
    ("target_user_id", { type := some .string }),
    ("visibility", { type := some .string, enum := some ["public", "friends", "private"] }),
    ("expires_at", { type := some .string })]

def PRESENCE_PAYLOAD_SCHEMA : JsonSchema where
  type := some .object
  required := ["user_id"]
  properties := [
    ("user_id", { type := some .string }),
    ("status", {
      type := some .string
      enum := some ["online", "away", "dnd", "invisible", "offline"] }),
    ("custom_message", { type := some .string, maxLength := some 256 }),
    ("last_seen", { type := some .string }),
    ("target_user_ids", { type := some .array, items := some { type := some .string } })]

def MODERATION_PAYLOAD_SCHEMA : JsonSchema where
  type := some .object
  required := ["actor_id"]
  properties := [
    ("actor_id", { type := some .string }),
    ("target_user_id", { type := some .string }),
    ("reason", { type := some .string, maxLength := some 1024 }),
    ("report_type", {
      type := some .string
      enum := some ["spam", "harassment", "violence", "hate_speech", "other"] }),
    ("evidence", { type := some .object }),
    ("block_scope", { type := some .string, enum := some ["conversation", "project", "platform"] })]

end Schemas

structure SchemaRegistryEntry where
  schemaId : String
  schema : JsonSchema
  eventTypes : List String

def SCHEMA_REGISTRY : List SchemaRegistryEntry := [
  ⟨"realtime-envelope", REALTIME_ENVELOPE_SCHEMA, ["*"]⟩,
  ⟨"message-created-payload", MESSAGE_CREATED_PAYLOAD_SCHEMA, ["message.created"]⟩,
  ⟨"reaction-payload", REACTION_PAYLOAD_SCHEMA, ["reaction.added", "reaction.removed"]⟩,
  ⟨"thread-reply-payload", THREAD_REPLY_PAYLOAD_SCHEMA, ["thread.reply"]⟩,
  ⟨"group-event-payload", GROUP_EVENT_PAYLOAD_SCHEMA, ["group.created", "group.member_added",
    "group.member_removed", "group.role_changed", "group.updated"]⟩,
  ⟨"planner-task-payload", PLANNER_TASK_PAYLOAD_SCHEMA, ["planner.task_created",
    "planner.task_updated", "planner.task_completed"]⟩,
  ⟨"social-post-payload", SOCIAL_POST_PAYLOAD_SCHEMA, ["social.post_created",
    "social.post_liked", "social.story_viewed"]⟩,
  ⟨"presence-payload", PRESENCE_PAYLOAD_SCHEMA, ["presence.updated",
    "presence.status_changed"]⟩,
  ⟨"moderation-payload", MODERATION_PAYLOAD_SCHEMA, ["block.created", "block.removed",
    "report.submitted", "privacy.updated"]⟩]

def registered (eventType : String) : Option SchemaRegistryEntry :=
  SCHEMA_REGISTRY.find? fun entry => entry.eventTypes.contains eventType

variable {ν : Type}

/-- `typeof value` -/
def typeOf : Json ν → String
  | .null | .array _ | .object _ => "object"
  | .boolean _ => "boolean"
  | .number _ => "number"
  | .string _ => "string"

def typeName : JsonType → String
  | .object => "object"
  | .array => "array"
  | .string => "string"
  | .number => "number"
  | .boolean => "boolean"

/-- The member is neither missing nor `null`. -/
def hasValue (value : Json ν) (key : String) : Bool :=
  match value.member? key with
  | none | some .null => false
  | some _ => true

def validateRequired (value : Json ν) (fields : List String) : List String :=
  fields.filter fun field => !hasValue value field

def validateType (value : Json ν) (expected : JsonType) : Bool :=
  match expected, value with
  | .object, .null | .object, .array _ => false
  | .array, .array _ => true
  | expected, value => typeOf value = typeName expected

structure ValidationResult where
  valid : Bool
  errors : List String
  schemaId : Option String
deriving DecidableEq

/-- `text.length` -/
def utf16Length (text : String) : Nat := (text.toList.flatMap codeUnits).length

/-- What is wrong with a member; a limit of zero counts as none. -/
def memberErrors (key : String) (property : JsonSchema) (value : Json ν) : List String :=
  (match property.type with
  | none => []
  | some expected =>
    if validateType value expected then []
    else ["Field '" ++ key ++ "' expected type '" ++ typeName expected ++ "', got '" ++
      typeOf value ++ "'"]) ++
  match property.type, value with
  | some .string, .string text =>
    ((property.maxLength.filter fun limit => limit ≠ 0 && limit < utf16Length text).toList.map
      fun limit => "Field '" ++ key ++ "' exceeds maxLength " ++ toString limit) ++
    ((property.enum.filter fun values => !values.contains text).toList.map
      fun values => "Field '" ++ key ++ "' must be one of: " ++ ", ".intercalate values)
  | some .array, .array items =>
    (property.maxItems.filter fun limit => limit ≠ 0 && limit < items.length).toList.map
      fun limit => "Field '" ++ key ++ "' exceeds maxItems " ++ toString limit
  | _, _ => []

/-- What is wrong with the members of a value that has the required ones. -/
def memberwiseErrors (schema : JsonSchema) (value : Json ν) : List String :=
  schema.properties.flatMap fun (key, property) =>
    ((value.member? key).map (memberErrors key property)).getD []

/-- `value` is truthy and `typeof value` is `object`. -/
def isObjectLike : Option (Json ν) → Bool
  | some (.object _) | some (.array _) => true
  | _ => false

/-- Without a schema there is no validation. -/
def validatePayload (eventType : String) (payload : Option (Json ν)) : ValidationResult :=
  match registered eventType with
  | none => ⟨true, [], none⟩
  | some entry =>
    if !isObjectLike payload then
      ⟨false, ["Payload must be a non-null object"], some entry.schemaId⟩
    else
      let value := payload.getD .null
      let missing := validateRequired value entry.schema.required
      if missing ≠ [] then
        ⟨false, missing.map ("Missing required field: " ++ ·), some entry.schemaId⟩
      else
        let errors := memberwiseErrors entry.schema value
        ⟨errors.isEmpty, errors, some entry.schemaId⟩

def validateEnvelope (envelope : Json ν) : ValidationResult :=
  if !isObjectLike (some envelope) then
    ⟨false, ["Envelope must be a non-null object"], some "realtime-envelope"⟩
  else
    let missing := validateRequired envelope REALTIME_ENVELOPE_SCHEMA.required
    if missing ≠ [] then
      ⟨false, missing.map ("Missing required envelope field: " ++ ·), some "realtime-envelope"⟩
    else
      let errors :=
        (if (envelope.stringMember? "event_type").all eventTypePattern then []
        else ["event_type must match pattern ^[a-z_]+\\.[a-z_]+$"]) ++
        (if (envelope.stringMember? "schema_version").all versionPattern then []
        else ["schema_version must match semver pattern"])
      ⟨errors.isEmpty, errors, some "realtime-envelope"⟩

structure Deserialized (ν : Type) where
  data : Json ν
  validated : Bool
  errors : List String

/-- `parse` is `JSON.parse`. -/
def deserializeWithFallback (parse : String → Option (Json ν)) (raw : String)
    (eventType : Option String) : Deserialized ν :=
  match parse raw with
  | none => ⟨.object [], false, ["Invalid JSON"]⟩
  | some parsed =>
    match eventType.filter (· ≠ "") with
    | none => ⟨parsed, false, []⟩
    | some eventType =>
      let envelopeResult := validateEnvelope parsed
      if !envelopeResult.valid then ⟨parsed, false, envelopeResult.errors⟩
      else
        let payloadResult := validatePayload eventType (parsed.member? "payload")
        if !payloadResult.valid then ⟨parsed, false, payloadResult.errors⟩
        else ⟨parsed, true, []⟩

section Validators

variable {value : Json ν} {property schema : JsonSchema} {key : String}

theorem validateType_eq (expected : JsonType) :
    validateType value expected = expected.admits value := by
  cases expected <;> cases value <;> rfl

/-- The limits of a member as the validator reads them. -/
def withinLimits (property : JsonSchema) (value : Json ν) : Bool :=
  match value with
  | .string text => property.maxLength.all (utf16Length text ≤ ·)
  | .array items => property.maxItems.all (items.length ≤ ·)
  | _ => true

/-- A schema of a member that has limits only where its type is the one that they are about. -/
def Limited (property : JsonSchema) : Bool :=
  match property.type with
  | some .string => property.maxItems.isNone && property.maxLength.all (· ≠ 0)
  | some .array => property.maxLength.isNone && property.enum.isNone &&
    property.maxItems.all (· ≠ 0)
  | _ => property.maxLength.isNone && property.enum.isNone && property.maxItems.isNone

section Limits

variable {Limit : Type} {limit : Option Limit} {message : Limit → String}

theorem limitErrors_eq_nil_iff {broken : Limit → Bool} :
    (limit.filter broken).toList.map message = [] ↔ ∀ bound ∈ limit, broken bound = false := by
  cases limit with
  | none => simp
  | some bound => cases kept : broken bound <;> simp [kept]

theorem limit_kept_iff {limit : Option Nat} {size : Nat} (positive : limit.all (· ≠ 0) = true) :
    (∀ bound ∈ limit, (bound ≠ 0 && bound < size) = false) ↔
      limit.all (size ≤ ·) = true := by
  cases limit with
  | none => simp
  | some bound =>
    have nonzero : bound ≠ 0 := by simpa using positive
    simp [nonzero]

end Limits

theorem memberErrors_eq_nil_iff (limited : Limited property = true) :
    memberErrors key property value = [] ↔ property.typed value = true ∧
      property.enumerated value = true ∧ withinLimits property value = true := by
  unfold memberErrors JsonSchema.typed JsonSchema.enumerated withinLimits
  unfold Limited at limited
  rw [List.append_eq_nil_iff]
  cases type : property.type with
  | none =>
    simp only [type, Bool.and_eq_true, Option.isNone_iff_eq_none] at limited
    cases value <;> simp [limited]
  | some expected =>
    have typed : (if validateType value expected then ([] : List String)
        else ["Field '" ++ key ++ "' expected type '" ++ typeName expected ++ "', got '" ++
          typeOf value ++ "'"]) = [] ↔ expected.admits value = true := by
      rw [validateType_eq]
      split <;> simp_all
    simp only [Option.all_some, typed]
    refine and_congr_right fun admitted => ?_
    cases expected with
    | string =>
      simp only [type, Bool.and_eq_true] at limited
      cases value with
      | string text =>
        rw [List.append_eq_nil_iff, limitErrors_eq_nil_iff, limitErrors_eq_nil_iff, and_comm]
        refine and_congr ?_ (limit_kept_iff limited.2)
        simp [Option.all_eq_true]
      | null | boolean | number | array | object => cases admitted
    | array =>
      simp only [type, Bool.and_eq_true, Option.isNone_iff_eq_none] at limited
      cases value with
      | array items =>
        rw [limitErrors_eq_nil_iff, limited.1.2, Option.all_none, eq_self, true_and]
        exact limit_kept_iff limited.2
      | null | boolean | number | string | object => cases admitted
    | object | number | boolean =>
      simp only [type, Bool.and_eq_true, Option.isNone_iff_eq_none] at limited
      cases value <;> simp [limited]

theorem memberwiseErrors_eq_nil_iff
    (limited : (schema.properties.all fun property => Limited property.2) = true) :
    memberwiseErrors schema value = [] ↔ schema.each value JsonSchema.typed = true ∧
      schema.each value JsonSchema.enumerated = true ∧ schema.each value withinLimits = true := by
  rw [List.all_eq_true] at limited
  have member_iff (property : String × JsonSchema) (member : property ∈ schema.properties) :
      ((value.member? property.1).map (memberErrors property.1 property.2)).getD [] = [] ↔
        ∀ child ∈ value.member? property.1, property.2.typed child = true ∧
          property.2.enumerated child = true ∧ withinLimits property.2 child = true := by
    cases there : value.member? property.1 with
    | none => simp
    | some child => simp [memberErrors_eq_nil_iff (limited property member)]
  simp only [memberwiseErrors, List.flatMap_eq_nil_iff, JsonSchema.each_eq_true_iff]
  constructor
  · intro none
    have all (property : String × JsonSchema) (member : property ∈ schema.properties) :=
      (member_iff property member).mp (none property member)
    exact ⟨fun property member child there => (all property member child there).1,
      fun property member child there => (all property member child there).2.1,
      fun property member child there => (all property member child there).2.2⟩
  · rintro ⟨typed, enumerated, limits⟩ property member
    exact (member_iff property member).mpr fun child there => ⟨typed property member child there,
      enumerated property member child there, limits property member child there⟩

theorem validateRequired_eq_nil_iff {fields : List String} :
    validateRequired value fields = [] ↔ ∀ field ∈ fields, hasValue value field = true := by
  simp [validateRequired, List.filter_eq_nil_iff]

/-- A schema of objects that says nothing of them but in its members. -/
def Registrable (schema : JsonSchema) : Bool :=
  schema.type = some .object && schema.required ≠ [] && schema.items.isNone &&
    schema.pattern.isNone && schema.enum.isNone &&
    schema.properties.all fun property => Limited property.2

theorem registrable_of_mem {entry : SchemaRegistryEntry} (member : entry ∈ SCHEMA_REGISTRY) :
    Registrable entry.schema = true := by
  have all : (SCHEMA_REGISTRY.all fun entry => Registrable entry.schema) = true := by decide
  exact List.all_eq_true.mp all entry member

theorem isSome_of_hasValue (there : hasValue value key = true) :
    (value.member? key).isSome = true := by
  unfold hasValue at there
  split at there
  · cases there
  · cases there
  · next found => rw [found]; rfl

theorem accepts_registrable_iff (registrable : Registrable schema = true)
    (present : ∀ field ∈ schema.required, hasValue value field = true) :
    schema.accepts value = true ↔ schema.each value JsonSchema.accepts = true := by
  simp only [Registrable, Bool.and_eq_true, decide_eq_true_eq, Option.isNone_iff_eq_none]
    at registrable
  obtain ⟨⟨⟨⟨⟨type, required⟩, items⟩, pattern⟩, enum⟩, _⟩ := registrable
  obtain ⟨field, first⟩ := List.exists_mem_of_ne_nil _ required
  have object := JsonSchema.admits_object_of_member? (isSome_of_hasValue (present field first))
  have complete : schema.hasRequired value = true := by
    unfold JsonSchema.hasRequired
    split
    · exact List.all_eq_true.mpr fun field member => isSome_of_hasValue (present field member)
    · rfl
  rw [JsonSchema.accepts_iff, JsonSchema.deep, complete, JsonSchema.typed, type,
    JsonSchema.enumerated, enum, items]
  cases value with
  | object members =>
    simp [JsonSchema.matchesPattern, JsonSchema.bounded, JsonType.admits, JsonSchema.acceptsItems]
  | null | boolean | number | string | array => cases object

theorem isObjectLike_of_hasValue (there : hasValue value key = true) :
    isObjectLike (some value) = true := by
  cases value with
  | object | array => rfl
  | null | boolean | number | string => cases there

theorem valid_validatePayload_iff {eventType : String} {payload : Json ν} :
    (validatePayload eventType (some payload)).valid = true ↔ ∀ entry ∈ registered eventType,
        (∀ field ∈ entry.schema.required, hasValue payload field = true) ∧
          entry.schema.each payload JsonSchema.typed = true ∧
          entry.schema.each payload JsonSchema.enumerated = true ∧
          entry.schema.each payload withinLimits = true := by
  unfold validatePayload
  cases found : registered eventType with
  | none => simp
  | some entry =>
    have registrable := registrable_of_mem (List.mem_of_find?_eq_some found)
    simp only [Registrable, Bool.and_eq_true, decide_eq_true_eq] at registrable
    obtain ⟨⟨⟨⟨⟨_, required⟩, _⟩, _⟩, _⟩, limited⟩ := registrable
    obtain ⟨field, first⟩ := List.exists_mem_of_ne_nil _ required
    simp only [Option.mem_def, Option.some.injEq, forall_eq']
    by_cases like : isObjectLike (some payload) = true
    · simp only [like, Bool.not_true, Bool.false_eq_true, if_false, Option.getD_some]
      rw [← validateRequired_eq_nil_iff]
      by_cases missing : validateRequired payload entry.schema.required = []
      · rw [if_neg (not_not_intro missing), List.isEmpty_iff,
          memberwiseErrors_eq_nil_iff limited]
        exact (and_iff_right missing).symm
      · rw [if_pos missing]
        exact iff_of_false Bool.false_ne_true fun valid => missing valid.1
    · rw [if_pos (by rw [Bool.eq_false_of_not_eq_true like]; rfl)]
      exact iff_of_false Bool.false_ne_true fun valid =>
        like (isObjectLike_of_hasValue (valid.1 field first))

theorem valid_validateEnvelope_iff {envelope : Json ν} : (validateEnvelope envelope).valid = true ↔
      (∀ field ∈ REALTIME_ENVELOPE_SCHEMA.required, hasValue envelope field = true) ∧
        (envelope.stringMember? "event_type").all eventTypePattern = true ∧
        (envelope.stringMember? "schema_version").all versionPattern = true := by
  unfold validateEnvelope
  by_cases like : isObjectLike (some envelope) = true
  · simp only [like, Bool.not_true, Bool.false_eq_true, if_false]
    rw [← validateRequired_eq_nil_iff]
    by_cases missing : validateRequired envelope REALTIME_ENVELOPE_SCHEMA.required = []
    · rw [if_neg (not_not_intro missing), List.isEmpty_iff, List.append_eq_nil_iff,
        and_iff_right missing]
      refine and_congr ?_ ?_
      · split <;> simp_all
      · split <;> simp_all
    · rw [if_pos missing]
      exact iff_of_false Bool.false_ne_true fun valid => missing valid.1
  · rw [if_pos (by rw [Bool.eq_false_of_not_eq_true like]; rfl)]
    exact iff_of_false Bool.false_ne_true fun valid =>
      like (isObjectLike_of_hasValue (valid.1 "event_id" (.head _)))

end Validators

/-- The schemas that an event is to satisfy: the one of the envelope, and the one that is registered
for its own type. -/
def SatisfiesSchemas (data : Json ν) : Prop :=
  REALTIME_ENVELOPE_SCHEMA.accepts data = true ∧
    ∀ own ∈ data.stringMember? "event_type", ∀ entry ∈ registered own,
      ∀ payload ∈ data.member? "payload", entry.schema.accepts payload = true

/-- What is looked at before an event counts as validated. -/
structure LookedAt (eventType : Option String) (data : Json ν) : Prop where
  given : ∃ given ∈ eventType, given ≠ ""
  envelope : ∀ field ∈ REALTIME_ENVELOPE_SCHEMA.required, hasValue data field = true
  type : ∀ own ∈ data.stringMember? "event_type", eventTypePattern own = true
  version : ∀ version ∈ data.stringMember? "schema_version", versionPattern version = true
  payload : ∀ given ∈ eventType, ∀ entry ∈ registered given, ∀ payload ∈ data.member? "payload",
    (∀ field ∈ entry.schema.required, hasValue payload field = true) ∧
      entry.schema.each payload JsonSchema.typed = true ∧
      entry.schema.each payload JsonSchema.enumerated = true ∧
      entry.schema.each payload withinLimits = true

/-- What is not looked at: the types of the envelope's members and what is in its metadata, what
is in the members of the payload, and the payload at all when the event is of a type with another
schema than the type that was given. -/
structure OverlookedHolds (eventType : Option String) (data : Json ν) : Prop where
  typed : REALTIME_ENVELOPE_SCHEMA.each data JsonSchema.typed = true
  deep : REALTIME_ENVELOPE_SCHEMA.each data JsonSchema.deep = true
  payload : ∀ own ∈ data.stringMember? "event_type", ∀ entry ∈ registered own,
    ∀ payload ∈ data.member? "payload",
      (eventType.bind registered = some entry →
        entry.schema.each payload JsonSchema.deep = true) ∧
      (eventType.bind registered ≠ some entry → entry.schema.accepts payload = true)

section Validated

variable {data : Json ν} {eventType : Option String}

theorem data_deserializeWithFallback {parse : String → Option (Json ν)} {raw : String}
    (parsed : parse raw = some data) :
    (deserializeWithFallback parse raw eventType).data = data := by
  unfold deserializeWithFallback
  rw [parsed]
  dsimp only
  split
  · rfl
  · split
    · rfl
    · split <;> rfl

/-- An event is validated if and only if what is looked at is in order. -/
theorem validated_iff {parse : String → Option (Json ν)} {raw : String}
    (parsed : parse raw = some data) :
    (deserializeWithFallback parse raw eventType).validated = true ↔ LookedAt eventType data := by
  unfold deserializeWithFallback
  rw [parsed]
  cases named : eventType.filter (· ≠ "") with
  | none =>
    refine iff_of_false Bool.false_ne_true fun looked => ?_
    obtain ⟨given, here, nonempty⟩ := looked.given
    rw [Option.mem_def.mp here, Option.filter_some_pos (by simpa using nonempty)] at named
    cases named
  | some given =>
    obtain ⟨rfl, nonempty⟩ := Option.filter_eq_some_iff.mp named
    have nonempty : given ≠ "" := by simpa using nonempty
    dsimp only
    by_cases envelope : (validateEnvelope data).valid = true
    · obtain ⟨present, type, version⟩ := valid_validateEnvelope_iff.mp envelope
      have carried := isSome_of_hasValue (present "payload" (by decide))
      obtain ⟨payload, carried⟩ := Option.isSome_iff_exists.mp carried
      have payload_iff := @valid_validatePayload_iff ν given payload
      rw [if_neg (by rw [envelope]; decide), carried]
      by_cases valid : (validatePayload given (some payload)).valid = true
      · rw [if_neg (by rw [valid]; decide)]
        refine iff_of_true rfl ⟨⟨given, rfl, nonempty⟩, present,
          Option.all_eq_true _ _ |>.mp type, Option.all_eq_true _ _ |>.mp version, ?_⟩
        intro given' same entry found payload' carried'
        cases same
        rw [carried] at carried'
        cases carried'
        exact payload_iff.mp valid entry found
      · rw [if_pos (by rw [Bool.eq_false_of_not_eq_true valid]; rfl)]
        refine iff_of_false Bool.false_ne_true fun looked => valid (payload_iff.mpr ?_)
        intro entry found
        exact looked.payload given rfl entry found payload carried
    · rw [if_pos (by rw [Bool.eq_false_of_not_eq_true envelope]; rfl)]
      refine iff_of_false Bool.false_ne_true fun looked =>
        envelope (valid_validateEnvelope_iff.mpr ⟨looked.envelope, ?_, ?_⟩)
      · exact (Option.all_eq_true _ _).mpr looked.type
      · exact (Option.all_eq_true _ _).mpr looked.version

/-- The limits that are looked at are those of the schema: no text has more characters than code
units. -/
theorem bounded_of_withinLimits {property : JsonSchema} {value : Json ν}
    (within : withinLimits property value = true) : property.bounded value = true := by
  cases value with
  | string text =>
    have few : text.length ≤ utf16Length text := by
      rw [← String.length_toList, utf16Length]
      induction text.toList with
      | nil => exact Nat.le_refl 0
      | cons c rest ih =>
        have one : 1 ≤ (codeUnits c).length := by
          unfold codeUnits
          dsimp only
          split <;> simp
        rw [List.flatMap_cons, List.length_append, List.length_cons]
        omega
    rw [withinLimits, Option.all_eq_true] at within
    rw [JsonSchema.bounded, Option.all_eq_true]
    intro limit here
    exact decide_eq_true (Nat.le_trans few (of_decide_eq_true (within limit here)))
  | array items => exact within
  | null | boolean | number | object => rfl

theorem each_matchesPattern_envelope (looked : LookedAt eventType data) :
    REALTIME_ENVELOPE_SCHEMA.each data JsonSchema.matchesPattern = true := by
  have patterned {key : String} {pattern : String → Bool} (property : JsonSchema)
      (same : property.pattern = some pattern)
      (matching : ∀ text ∈ data.stringMember? key, pattern text = true) :
      ∀ child ∈ data.member? key, property.matchesPattern child = true := by
    intro child there
    cases child with
    | string text =>
      rw [JsonSchema.matchesPattern, same, Option.all_some]
      exact matching text (by rw [Json.stringMember?, there]; rfl)
    | null | boolean | number | array | object => rfl
  have types := patterned { type := some .string, pattern := some eventTypePattern } rfl looked.type
  have versions := patterned { type := some .string, pattern := some versionPattern } rfl
    looked.version
  have free {key : String} (property : JsonSchema) (none : property.pattern = none) :
      ∀ child ∈ data.member? key, property.matchesPattern child = true :=
    fun _ _ => JsonSchema.matchesPattern_of_none none
  rw [JsonSchema.each_eq_true_iff]
  simp only [REALTIME_ENVELOPE_SCHEMA, List.forall_mem_cons]
  exact ⟨free _ rfl, types, versions, free _ rfl, free _ rfl, free _ rfl, free _ rfl, free _ rfl,
    free _ rfl, free _ rfl, free _ rfl, List.forall_mem_nil _⟩

theorem accepts_envelope_iff (looked : LookedAt eventType data) :
    REALTIME_ENVELOPE_SCHEMA.accepts data = true ↔
      REALTIME_ENVELOPE_SCHEMA.each data JsonSchema.typed = true ∧
        REALTIME_ENVELOPE_SCHEMA.each data JsonSchema.deep = true := by
  rw [accepts_registrable_iff (by decide) looked.envelope, JsonSchema.each_accepts_iff]
  have plain : ∀ property ∈ REALTIME_ENVELOPE_SCHEMA.properties,
      property.2.enum = none ∧ property.2.maxLength = none ∧ property.2.maxItems = none := by
    decide
  have enums : REALTIME_ENVELOPE_SCHEMA.each data JsonSchema.enumerated = true :=
    JsonSchema.each_eq_true_iff.mpr fun property member child _ =>
      JsonSchema.enumerated_of_none (plain property member).1
  have limits : REALTIME_ENVELOPE_SCHEMA.each data JsonSchema.bounded = true :=
    JsonSchema.each_eq_true_iff.mpr fun property member child _ =>
      JsonSchema.bounded_of_none (plain property member).2.1 (plain property member).2.2
  rw [eq_true (each_matchesPattern_envelope looked), eq_true enums, eq_true limits, true_and,
    true_and, true_and]

/-- The schemas of payloads have no patterns; the type of the envelope's entry is not the type of an
event. -/
theorem pattern_of_registered {own : String} (type : eventTypePattern own = true)
    {entry : SchemaRegistryEntry} (found : entry ∈ registered own) {property : String × JsonSchema}
    (member : property ∈ entry.schema.properties) : property.2.pattern = none := by
  have all : (SCHEMA_REGISTRY.all fun entry => entry.eventTypes = ["*"] ||
      entry.schema.properties.all fun property => property.2.pattern.isNone) = true := by decide
  rcases Bool.or_eq_true_iff.mp
    (List.all_eq_true.mp all entry (List.mem_of_find?_eq_some found)) with any | plain
  · have listed := List.find?_some found
    rw [of_decide_eq_true any, List.contains_eq_mem, decide_eq_true_eq, List.mem_singleton]
      at listed
    rw [listed] at type
    exact absurd type (by decide)
  · exact Option.isNone_iff_eq_none.mp (List.all_eq_true.mp plain property member)

theorem accepts_payload_iff (looked : LookedAt eventType data) {own : String}
    (typed : own ∈ data.stringMember? "event_type") {entry : SchemaRegistryEntry}
    (found : entry ∈ registered own) {payload : Json ν} (carried : payload ∈ data.member? "payload")
    (same : eventType.bind registered = some entry) :
    entry.schema.accepts payload = true ↔ entry.schema.each payload JsonSchema.deep = true := by
  obtain ⟨given, here, given_found⟩ := Option.bind_eq_some_iff.mp same
  obtain ⟨present, types, enums, limits⟩ := looked.payload given here entry given_found payload
    carried
  rw [accepts_registrable_iff (registrable_of_mem (List.mem_of_find?_eq_some found)) present,
    JsonSchema.each_accepts_iff]
  have bounds : entry.schema.each payload JsonSchema.bounded = true :=
    JsonSchema.each_eq_true_iff.mpr fun property member child there =>
      bounded_of_withinLimits (JsonSchema.each_eq_true_iff.mp limits property member child there)
  have patterns : entry.schema.each payload JsonSchema.matchesPattern = true :=
    JsonSchema.each_eq_true_iff.mpr fun property member child _ =>
      JsonSchema.matchesPattern_of_none (pattern_of_registered (looked.type own typed) found member)
  rw [eq_true types, eq_true patterns, eq_true enums, eq_true bounds, true_and, true_and, true_and,
    true_and]

/-- A validated event satisfies its schemas exactly if what has been overlooked holds. -/
theorem validated_satisfies_iff (parse : String → Option (Json ν)) (raw : String)
    (eventType : Option String) : ((deserializeWithFallback parse raw eventType).validated = true →
        SatisfiesSchemas (deserializeWithFallback parse raw eventType).data) ↔
      ∀ data ∈ parse raw, LookedAt eventType data → OverlookedHolds eventType data := by
  cases parsed : parse raw with
  | none =>
    refine iff_of_true (fun validated => ?_) fun data there => by cases there
    rw [deserializeWithFallback, parsed] at validated
    cases validated
  | some data =>
    rw [validated_iff parsed, data_deserializeWithFallback parsed]
    simp only [Option.mem_def, Option.some.injEq, forall_eq']
    refine forall_congr' fun looked => ?_
    constructor
    · rintro ⟨envelope, payloads⟩
      obtain ⟨types, depths⟩ := (accepts_envelope_iff looked).mp envelope
      refine ⟨types, depths, fun own typed entry found payload carried => ?_⟩
      have accepted := payloads own typed entry found payload carried
      exact ⟨(accepts_payload_iff looked typed found carried · |>.mp accepted),
        fun _ => accepted⟩
    · rintro ⟨types, depths, payloads⟩
      refine ⟨(accepts_envelope_iff looked).mpr ⟨types, depths⟩, ?_⟩
      intro own typed entry found payload carried
      obtain ⟨nested, foreign⟩ := payloads own typed entry found payload carried
      by_cases same : eventType.bind registered = some entry
      · exact (accepts_payload_iff looked typed found carried same).mpr (nested same)
      · exact foreign same

/-- An event whose tenant is a number. -/
def numericTenant : Json Nat :=
  .object [("event_id", .string "0b8b1c4e-6a55-4c3c-9d4e-2f3f6f0f7a11"),
    ("event_type", .string "message.created"), ("schema_version", .string "1.0.0"),
    ("tenant_id", .number 42), ("correlation_id", .string "c-1"),
    ("occurred_at", .string "2024-01-01T00:00:00Z"), ("producer_id", .string "socket"),
    ("partition_key", .string "k"),
    ("payload", .object [("message_id", .string "m-1"), ("conversation_id", .string "c-1"),
      ("sender_id", .string "u-1"), ("content", .object [("type", .string "text")])])]

def numericTenantText : String :=
  numericTenant.stringify fun number => (toString number).toList

/-- `JSON.parse` of that event. -/
def parseNumericTenant (raw : String) : Option (Json Nat) :=
  if raw = numericTenantText then some numericTenant else none

/-- It counts as validated and does not satisfy the schema of the envelope. -/
theorem numeric_tenant_validated : (deserializeWithFallback parseNumericTenant numericTenantText
        (some "message.created")).validated = true ∧
      ¬ SatisfiesSchemas (deserializeWithFallback parseNumericTenant numericTenantText
        (some "message.created")).data := by
  have parsed : parseNumericTenant numericTenantText = some numericTenant := if_pos rfl
  constructor
  · rw [deserializeWithFallback, parsed]
    decide +kernel
  · rw [data_deserializeWithFallback parsed]
    rintro ⟨accepted, -⟩
    have rejected : REALTIME_ENVELOPE_SCHEMA.accepts numericTenant = false := by decide +kernel
    rw [rejected] at accepted
    cases accepted

end Validated

end Caas.Contracts
