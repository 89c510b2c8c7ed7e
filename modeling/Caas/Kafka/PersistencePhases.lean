import Caas.Async.Histories
import Caas.Kafka.MessagePersistence

/-!
# What the consumer does

Where a handler or a flush stands, which command it awaits there, and where a command takes it.
Each keeps to this, so that runs can be argued about without their programs.
-/

namespace Caas.Kafka

open Js Async MessagePersistenceConsumer
open Program hiding result failure await

/-- Where a handler or a flush stands: what the check for a duplicate has found, or how far it
has come with the messages that it has taken. -/
inductive Phase (ν : Type) where
  | start
  | found
  | checked
  | unchecked
  | reported
  | unreported
  | flushing (messages : List (Envelope ν))
  | updating (messages : List (Envelope ν)) (tenantId conversationId : String) (timestamp : Date)
      (rest : List (String × Date))
  | invalidating (messages : List (Envelope ν)) (tenantId conversationId : String)
      (rest : List (String × Date))
  | succeeding (messages : List (Envelope ν))
  | failing (messages : List (Envelope ν))
  | restoring (messages : List (Envelope ν))
  | closed
  | abandoned

section Phases

variable {ν : Type} (settings : PersistenceSettings ν)

def taken (messages : List (Envelope ν)) : Phase ν :=
  if messages.length = 0 then .closed else .flushing messages

/-- The phase in which a flush goes on with the conversations that are left. -/
def updatesFrom (messages : List (Envelope ν)) : List (String × Date) → Phase ν
  | [] => .succeeding messages
  | (key, timestamp) :: rest =>
    match separate key with
    | none => updatesFrom messages rest
    | some (tenantId, conversationId) => .updating messages tenantId conversationId timestamp rest

/-- The phase in which a flush goes on after its bulk write. -/
def written (messages : List (Envelope ν)) : Except BulkWriteFailure Unit → Phase ν
  | .ok _ => updatesFrom messages (conversationUpdates settings messages).entries
  | .error failure => if failure.duplicatesOnly then .succeeding messages else .failing messages

def nextPhase : Phase ν → (command : PersistenceCommand ν) → command.Reply → Phase ν
  | .start, .checkDuplicate _ _, (reply : Except String Bool) =>
    match reply with
    | .ok duplicate => if duplicate then .found else .checked
    | .error _ => .unchecked
  | .start, .publish _, _ => .closed
  | .start, .take, (messages : List (Envelope ν)) => taken messages
  | .found, .notify _, _ => .closed
  | .checked, .push _, (messages : List (Envelope ν)) => taken messages
  | .unchecked, .publish _, (reply : Except String Unit) =>
    match reply with
    | .ok _ => .reported
    | .error _ => .unreported
  | .reported, .notify _, _ => .closed
  | .unreported, .publish _, (reply : Except String Unit) =>
    match reply with
    | .ok _ => .closed
    | .error _ => .abandoned
  | .flushing messages, .bulkWrite _, (reply : Except BulkWriteFailure Unit) =>
    written settings messages reply
  | .updating messages tenantId conversationId _ rest, .updateConversation _ _ _,
      (reply : Except String Unit) =>
    match reply with
    | .ok _ => .invalidating messages tenantId conversationId rest
    | .error _ => .failing messages
  | .invalidating messages _ _ rest, .invalidate _ _, (reply : Except String Unit) =>
    match reply with
    | .ok _ => updatesFrom messages rest
    | .error _ => .failing messages
  | .succeeding _, .notify _, _ => .closed
  | .failing messages, .notify _, _ => .restoring messages
  | .restoring _, .putBack _, _ => .closed
  | phase, _, _ => phase

/-- The message of a record that has one of a supported type. -/
def supported? (record : Record) : Option (Envelope ν) :=
  (envelope? settings record).filter fun envelope =>
    (supportedEventTypes settings).contains envelope.eventType

def DeadLetter.isOf (entry : DeadLetter ν) (record : Record) : Prop :=
  entry.topic = record.topic ∧ entry.partition = record.partition ∧
    entry.offset = record.offset ∧ entry.rawValue = record.rawValue

inductive Awaits : Input → Phase ν → PersistenceCommand ν → Prop where
  | reject (record : Record) (entry : DeadLetter ν) (none : supported? settings record = none) :
      Awaits (.consume record) .start (.publish entry)
  | check (record : Record) (envelope : Envelope ν)
      (own : supported? settings record = some envelope) :
      Awaits (.consume record) .start (.checkDuplicate envelope.eventId envelope.tenantId)
  | confirm (record : Record) (envelope : Envelope ν)
      (own : supported? settings record = some envelope) :
      Awaits (.consume record) .found (.notify [⟨envelope.eventId, none⟩])
  | push (record : Record) (envelope : Envelope ν)
      (own : supported? settings record = some envelope) :
      Awaits (.consume record) .checked (.push envelope)
  | report (record : Record) (entry : DeadLetter ν) (source : entry.isOf record) :
      Awaits (.consume record) .unchecked (.publish entry)
  | reportAgain (record : Record) (entry : DeadLetter ν) (source : entry.isOf record) :
      Awaits (.consume record) .unreported (.publish entry)
  | deny (record : Record) (envelope : Envelope ν)
      (own : supported? settings record = some envelope) (error : String) :
      Awaits (.consume record) .reported (.notify [⟨envelope.eventId, some error⟩])
  | take : Awaits .flush .start .take
  | write {input : Input} (messages : List (Envelope ν)) :
      Awaits input (.flushing messages) (.bulkWrite (messages.map (toMessage settings)))
  | update {input : Input} (messages : List (Envelope ν)) (tenantId conversationId : String)
      (timestamp : Date) (rest : List (String × Date)) :
      Awaits input (.updating messages tenantId conversationId timestamp rest)
        (.updateConversation conversationId tenantId timestamp)
  | invalidate {input : Input} (messages : List (Envelope ν)) (tenantId conversationId : String)
      (rest : List (String × Date)) :
      Awaits input (.invalidating messages tenantId conversationId rest)
        (.invalidate conversationId tenantId)
  | succeed {input : Input} (messages : List (Envelope ν)) :
      Awaits input (.succeeding messages)
        (.notify (messages.map fun message => ⟨message.eventId, none⟩))
  | fail {input : Input} (messages : List (Envelope ν)) (error : String) :
      Awaits input (.failing messages)
        (.notify (messages.map fun message => ⟨message.eventId, some error⟩))
  | restore {input : Input} (messages : List (Envelope ν)) :
      Awaits input (.restoring messages) (.putBack messages)

/-- Handlers and flushes await what their phases say. -/
def discipline (input : Input) :
    Discipline (PersistenceCommand ν) PersistenceCommand.Reply (Phase ν) where
  next := nextPhase settings
  may := Awaits settings input
  assumes _ _ := True

/-- Everything ends closed, or by throwing when a dead letter is refused twice. -/
def ends (_ : Input) (phase : Phase ν) (outcome : Outcome Unit) : Prop :=
  phase = .closed ∨ phase = .abandoned ∧ ∃ error, outcome = .error error

end Phases

section Programs

variable {ν : Type} {settings : PersistenceSettings ν} {input : Input}

/-- A flush ends closed, and returns. -/
def Closes (phase : Phase ν) (outcome : Outcome Unit) : Prop :=
  phase = .closed ∧ outcome = .ok ()

variable (messages : List (Envelope ν))

theorem notifySuccess_respects :
    (notifySuccess messages).Respects (discipline settings input) Closes (.succeeding messages) :=
  ⟨.succeed messages, fun _ _ => ⟨rfl, rfl⟩⟩

theorem flushFailed_respects (error : String) :
    (flushFailed messages error).Respects (discipline settings input) Closes (.failing messages) :=
  ⟨.fail messages error, fun _ _ => ⟨.restore messages, fun _ _ => ⟨rfl, rfl⟩⟩⟩

theorem updateConversations_respects (updates : List (String × Date)) :
    (updateConversations updates).Respects (discipline settings input)
      (fun phase outcome => match outcome with
        | .ok _ => phase = .succeeding messages
        | .error _ => phase = .failing messages) (updatesFrom messages updates) := by
  induction updates with
  | nil => exact rfl
  | cons update rest ih =>
    obtain ⟨key, timestamp⟩ := update
    unfold updateConversations updatesFrom
    cases separate key with
    | none => exact ih
    | some parts =>
      obtain ⟨tenantId, conversationId⟩ := parts
      refine respects_command_bind (.update messages tenantId conversationId timestamp rest)
        fun (reply : Except String Unit) _ after moved => ?_
      cases reply with
      | error error =>
        obtain rfl := moved
        exact rfl
      | ok _ =>
        obtain rfl : Phase.invalidating messages tenantId conversationId rest = after := moved
        refine respects_command_bind (.invalidate messages tenantId conversationId rest)
          fun (reply : Except String Unit) _ after moved => ?_
        cases reply with
        | error error =>
          obtain rfl := moved
          exact rfl
        | ok _ =>
          obtain rfl : updatesFrom messages rest = after := moved
          exact ih

theorem flushMessages_respects :
    (flushMessages settings messages).Respects (discipline settings input) Closes
      (.flushing messages) := by
  refine respects_command_bind (.write messages)
    fun (reply : Except BulkWriteFailure Unit) _ after moved => ?_
  obtain rfl : written settings messages reply = after := moved
  cases reply with
  | error failure =>
    by_cases duplicates : failure.duplicatesOnly = true
    · simp only [written, if_pos duplicates]
      exact notifySuccess_respects messages
    · simp only [written, if_neg duplicates]
      exact flushFailed_respects messages failure.message
  | ok _ =>
    refine respects_catching (respects_bind
      ((updateConversations_respects messages _).mono ?_))
    rintro phase (error | _) rfl
    · exact flushFailed_respects messages error
    · exact notifySuccess_respects messages

theorem taken_respects :
    (if messages.length = 0 then (pure () : PersistenceProgram ν Unit)
      else flushMessages settings messages).Respects (discipline settings input) Closes
        (taken messages) := by
  unfold taken
  split
  · exact ⟨rfl, rfl⟩
  · exact flushMessages_respects messages

theorem flushBuffer_respects :
    (flushBuffer settings).Respects (discipline settings .flush) Closes .start := by
  refine respects_command_bind .take fun (messages : List (Envelope ν)) _ after moved => ?_
  obtain rfl : taken messages = after := moved
  exact taken_respects messages

variable {record : Record}

theorem rejected_respects (unsupported : supported? settings record = none) (entry : DeadLetter ν) :
    (publish entry).Respects (discipline settings (.consume record))
      (fun phase _ => phase = .closed) .start := by
  refine respects_command_bind (.reject record entry unsupported)
    fun (reply : Except String Unit) _ after moved => ?_
  obtain rfl : Phase.closed = after := moved
  exact respects_orThrow rfl

/-- Where the handling of a record can fail: at the check of its message, or before, when it
has no envelope. -/
def Fails (settings : PersistenceSettings ν) (record : Record) (phase : Phase ν) : Prop :=
  (phase = .unchecked ∧ ∃ envelope, supported? settings record = some envelope) ∨
    phase = .start ∧ envelope? settings record = none

theorem envelope?_of_supported? {envelope : Envelope ν}
    (supported : supported? settings record = some envelope) :
    envelope? settings record = some envelope :=
  (Option.filter_eq_some_iff.mp supported).1

theorem supported?_of_envelope? (unknown : envelope? settings record = none) :
    supported? settings record = none := by
  rw [supported?, unknown]
  rfl

theorem parsed_of_envelope? {envelope : Envelope ν}
    (known : envelope? settings record = some envelope) :
    ∃ rawMessage, parseRecord settings record = .ok rawMessage ∧
      normalizeEnvelope settings rawMessage = .ok envelope := by
  unfold envelope? at known
  cases parsed : parseRecord settings record with
  | error error =>
    rw [parsed] at known
    cases known
  | ok rawMessage =>
    rw [parsed] at known
    refine ⟨rawMessage, rfl, ?_⟩
    change (normalizeEnvelope settings rawMessage).toOption = some envelope at known
    cases normalized : normalizeEnvelope settings rawMessage with
    | error error =>
      rw [normalized] at known
      cases known
    | ok same =>
      rw [normalized] at known
      exact congrArg Except.ok (Option.some.inj known)

theorem reportAgain_respects (entry : DeadLetter ν) (source : entry.isOf record) :
    (publish entry).Respects (discipline settings (.consume record)) (ends (.consume record))
      .unreported := by
  refine respects_command_bind (.reportAgain record entry source)
    fun (reply : Except String Unit) _ after moved => ?_
  cases reply with
  | error error =>
    obtain rfl := moved
    exact .inr ⟨rfl, error, rfl⟩
  | ok _ =>
    obtain rfl := moved
    exact .inl rfl

theorem handlingFailed_respects {phase : Phase ν} (fails : Fails settings record phase)
    (error : String) :
    (handlingFailed settings record error).Respects (discipline settings (.consume record))
      (ends (.consume record)) phase := by
  unfold handlingFailed
  rcases fails with ⟨rfl, envelope, own⟩ | ⟨rfl, unknown⟩
  · -- The record is parsed and normalized as before.
    obtain ⟨rawMessage, parsed, normalized⟩ := parsed_of_envelope? (envelope?_of_supported? own)
    rw [parsed]
    change Respects _ _ _ (catching
      (orThrow (normalizeEnvelope settings rawMessage) >>= _) _)
    rw [normalized]
    refine respects_catching (respects_bind (respects_command_bind
      (.report record _ ⟨rfl, rfl, rfl, rfl⟩) fun (reply : Except String Unit) _ after moved => ?_))
    cases reply with
    | error error =>
      obtain rfl := moved
      exact reportAgain_respects _ ⟨rfl, rfl, rfl, rfl⟩
    | ok _ =>
      obtain rfl := moved
      exact ⟨.deny record envelope own error, fun _ _ => .inl rfl⟩
  · have rejected : ∀ entry, (publish entry).Respects (discipline settings (.consume record))
        (ends (.consume record)) .start := fun entry =>
      (rejected_respects (supported?_of_envelope? unknown) entry).mono fun _ _ closed => .inl closed
    refine respects_catching (respects_orThrow_bind (fun rawMessage parsed => ?_)
      fun error _ => rejected _)
    refine respects_orThrow_bind (fun envelope normalized => ?_) fun error _ => rejected _
    rw [envelope?, parsed] at unknown
    cases (congrArg Except.toOption normalized).symm.trans unknown

theorem persist_respects (rawMessage : Json ν)
    (parsed : parseRecord settings record = .ok rawMessage) :
    (persist settings record rawMessage).Respects (discipline settings (.consume record))
      (fun phase outcome => match outcome with
        | .ok _ => phase = .closed
        | .error _ => Fails settings record phase) .start := by
  refine respects_orThrow_bind (fun envelope normalized => ?_) fun error failed => ?_
  · have known : envelope? settings record = some envelope := by
      rw [envelope?, parsed]
      exact congrArg Except.toOption normalized
    by_cases supported : (supportedEventTypes settings).contains envelope.eventType = true
    · rw [if_neg (by rw [supported]; nofun)]
      have own : supported? settings record = some envelope := by
        rw [supported?, known, Option.filter_some, if_pos supported]
      refine respects_command_bind (.check record envelope own)
        fun (reply : Except String Bool) _ after moved => ?_
      cases reply with
      | error error =>
        obtain rfl := moved
        exact .inl ⟨rfl, envelope, own⟩
      | ok duplicate =>
        cases duplicate with
        | true =>
          obtain rfl := moved
          exact ⟨.confirm record envelope own, fun _ _ => rfl⟩
        | false =>
          obtain rfl := moved
          refine respects_command_bind (.push record envelope own)
            fun (messages : List (Envelope ν)) _ after moved => ?_
          obtain rfl : taken messages = after := moved
          refine (taken_respects messages).mono ?_
          rintro _ _ ⟨rfl, rfl⟩
          exact rfl
    · rw [if_pos (by rw [Bool.eq_false_iff.mpr supported]; rfl)]
      have unsupported : supported? settings record = none := by
        rw [supported?, known, Option.filter_some, if_neg supported]
      refine respects_catching ((rejected_respects unsupported _).mono ?_)
      rintro _ (_ | _) rfl
      · exact rfl
      · exact rfl
  · have unknown : envelope? settings record = none := by
      rw [envelope?, parsed]
      exact congrArg Except.toOption failed
    exact .inr ⟨rfl, unknown⟩

theorem handleMessage_respects :
    (handleMessage settings record).Respects (discipline settings (.consume record))
      (ends (.consume record)) .start := by
  unfold handleMessage
  split
  · rename_i error failed
    have unsupported : supported? settings record = none := by
      apply supported?_of_envelope?
      rw [envelope?, failed]
      rfl
    refine respects_catching ((rejected_respects unsupported _).mono ?_)
    rintro _ (_ | _) rfl
    · exact .inl rfl
    · exact .inl rfl
  · rename_i rawMessage parsed
    refine respects_catching ((persist_respects rawMessage parsed).mono ?_)
    rintro phase (error | _) reached
    · exact handlingFailed_respects reached error
    · exact .inl reached

theorem body_respects (input : Input) :
    (body settings input).Respects (discipline settings input) (ends input) .start := by
  cases input with
  | consume record => exact handleMessage_respects
  | flush =>
    refine flushBuffer_respects.mono ?_
    rintro _ _ ⟨rfl, -⟩
    exact .inl rfl

end Programs

section Pools

variable {ν : Type} (settings : PersistenceSettings ν)

/-- Handlers and flushes in progress, with their phases. -/
abbrev PersistencePool (ν : Type) :=
  Pool (PersistenceState ν) (PersistenceCommand ν) PersistenceCommand.Reply Input (Phase ν) Unit

/-- A handler or a flush of a pool. -/
abbrev PersistenceCall (ν : Type) :=
  Call (PersistenceCommand ν) PersistenceCommand.Reply Input (Phase ν) Unit

/-- An event: a record is consumed, a flush starts, or a command is executed. -/
abbrev PersistenceEvent := Event Circumstance Empty Input

def machine : Transducer (PersistencePool ν) PersistenceEvent Unit :=
  Pool.machine (host settings) (discipline settings) fun _ => .start

/-- Handlers and flushes keep to their disciplines. -/
abbrev Respectful (pool : PersistencePool ν) : Prop :=
  pool.Respectful (discipline settings) ends

/-- A consumer that has just been started. -/
def newPool (state : PersistenceState ν) : PersistencePool ν := ⟨state, []⟩

end Pools

section Samples

def sampleNumbers : Json.Numbers Nat := ⟨Nat.toDigits 10, (· = 0)⟩

def sampleDocument : Json Nat :=
  .object [("event_id", .string "e"), ("event_type", .string "message.created"),
    ("schema_version", .string "1.0.0"), ("tenant_id", .string "t"),
    ("correlation_id", .string "e"), ("occurred_at", .string "2024-02-29T12:34:56.789Z"),
    ("producer_id", .string "socket-service"), ("partition_key", .string "t:c"),
    ("payload", .object [("conversation_id", .string "c"), ("content", .string "hello")])]

def sampleRecord : Record :=
  ⟨"chat.messages", 0, "7", Json.stringify sampleNumbers.digits sampleDocument⟩

def sampleSettings (batchSize : Number) : PersistenceSettings Nat where
  parse _ := .ok sampleDocument
  newDate _ := some 1709210096789
  numbers := sampleNumbers
  allowedEventTypes := ["message.created"]
  batchSize

def sampleState : PersistenceState Nat :=
  ⟨[], [], OrderedMap.set .empty ("t", "c") none, [], [], []⟩

def goesOn (index count : Nat) : List PersistenceEvent := List.replicate count (.run index {})

end Samples

end Caas.Kafka
