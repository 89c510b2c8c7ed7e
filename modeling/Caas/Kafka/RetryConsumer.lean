import Caas.Js.Date
import Caas.Js.Value
import Caas.Kafka.EventRouting

/-!
# The consumer of the retry topic

`handleMessage` holds a record until its time, but not longer than 30 seconds, and then sends it
back to its topic with a higher count or to the dead letters. What it reads of the record can be
any JSON; some of it makes the handler throw, and then the record goes to neither.

Numbers are exact. A record is handled by itself; the texts of the log are left out, but not that
one of them can fail to be made.
-/

namespace Caas.Kafka

open Js

/-- What is left to the engine: `JSON.parse`, the conversions of texts, arrays and objects, where
`none` is thrown, and `new Date` of any value. -/
structure RetryRuntime where
  parse : String → Option (Json Number)
  stringToNumber : String → Number
  toPrimitive : Json Number → Option (Json Number)
  newDate : Json Number → Option Date
  digits : Number → List Char

namespace RetryRuntime

variable (runtime : RetryRuntime)

def numbers : Json.Numbers Number := ⟨runtime.digits, fun value => value = .nan || value = .finite 0⟩

/-- `ToPrimitive` -/
def primitive : Json Number → Option (Json Number)
  | .array items => runtime.toPrimitive (.array items)
  | .object members => runtime.toPrimitive (.object members)
  | value => some value

/-- `ToNumber` of a primitive value. -/
def toNumber : Json Number → Number
  | .null => .finite 0
  | .boolean value => if value then .finite 1 else .finite 0
  | .number value => value
  | .string text => runtime.stringToNumber text
  | .array _ | .object _ => .nan

/-- `left >= right` -/
def atLeast (left right : Json Number) : Option Bool := do
  let left ← runtime.primitive left
  let right ← runtime.primitive right
  match left, right with
  | .string left, .string right => pure !(stringLess left right)
  | left, right => pure ((runtime.toNumber left).atLeast (runtime.toNumber right))

/-- `value + 1` of a primitive value. -/
def successor : Json Number → Json Number
  | .string text => .string (text ++ "1")
  | value => .number ((runtime.toNumber value).add (.int 1))

end RetryRuntime

/-- A record of the retry topic, with its value and its key as texts. -/
structure RetryTopicRecord where
  value : Option String
  key : Option String

/-- The readings of the clock: when the handler begins, and how much longer than its hold it takes
until it sends. -/
structure RetryClock where
  now : Int
  late : Int
  late_nonneg : 0 ≤ late

/-- What becomes of what is sent: the error of a re-publication, and whether dead letters are
taken. -/
structure RetryProducer where
  refusal : Option String
  takesDeadLetters : Bool

/-- A record that has been sent back. The value is sent as JSON. -/
structure Republished where
  topic : Json Number
  key : Option String
  value : Json Number
  retryCountHeader : String
  sentAt : Int

structure RetryDeadLetter where
  key : Option String
  value : Json Number

/-- What has been done with a record, and whether the handler has thrown. -/
structure Handled where
  republished : Option Republished
  letters : List RetryDeadLetter
  threw : Bool

namespace RetryConsumer

/-- `value ?? default` -/
def orDefault (value : Option (Json Number)) (default : Json Number) : Json Number :=
  match value with
  | none | some .null => default
  | some value => value

section Reading

variable (runtime : RetryRuntime) (envelope : Json Number)

def truthyMember? (key : String) : Option (Json Number) :=
  (envelope.member? key).filter (Json.truthy runtime.numbers)

def retryCount : Json Number := orDefault (envelope.member? "_retry_count") (.number (.int 0))

/-- `new Date(retryAt)`, of a value that counts as true. -/
def retryDate : Option Date :=
  match truthyMember? runtime envelope "_retry_at" with
  | none => some none
  | some retryAt => runtime.newDate retryAt

/-- A type that is no string has no `split`. -/
def routing : Option (Option EventRoutingEntry) :=
  match truthyMember? runtime envelope "event_type" with
  | none => some none
  | some (.string eventType) => some (getRoutingEntry eventType)
  | some _ => none

def maxRetries (routing : Option EventRoutingEntry) : Json Number :=
  orDefault (envelope.member? "_max_retries")
    (.number (.int ((routing.map (·.maxRetries)).getD 3 : Nat)))

end Reading

/-- `Math.min` of a number with an index. -/
def minIndex (value : Number) (index : Int) : Number :=
  match value.lessThan (.int index) with
  | none => .nan
  | some true => value
  | some false => .int index

/-- `retryDelays[index] || 30_000` -/
def delayAt (retryDelays : List Nat) : Number → Nat
  | .finite index =>
    if index.den = 1 ∧ 0 ≤ index.num then
      ((retryDelays[index.num.toNat]?).filter (· ≠ 0)).getD 30000
    else 30000
  | _ => 30000

inductive Disposition where
  | throws
  | deadLetter (reason : String) (extra : List (String × Option (Json Number)))
  | republish (topic nextRetryCount : Json Number) (nextDelay : Nat) (envelope : Json Number)

/-- How the handler decides; its hold comes before. -/
def disposition (runtime : RetryRuntime) (raw : String) : Disposition :=
  match runtime.parse raw with
  | none => .deadLetter "UNPARSEABLE_RETRY_MESSAGE" []
  | some .null => .throws
  | some envelope =>
    match retryDate runtime envelope, routing runtime envelope with
    | none, _ | _, none => .throws
    | some _, some routing =>
      let retryCount := retryCount envelope
      let retryDelays := (routing.map (·.retryDelaysMs)).getD [1000, 5000, 30000]
      match runtime.atLeast retryCount (maxRetries envelope routing) with
      | none => .throws
      | some true => .deadLetter "MAX_RETRIES_EXHAUSTED"
          [("event_type", envelope.member? "event_type"),
            ("original_topic", envelope.member? "_original_topic"),
            ("retry_count", some retryCount)]
      | some false =>
        match truthyMember? runtime envelope "_original_topic" with
        | none => .deadLetter "MISSING_ORIGINAL_TOPIC" []
        | some originalTopic =>
          let nextRetryCount := runtime.successor ((runtime.primitive retryCount).getD .null)
          .republish originalTopic nextRetryCount
            (delayAt retryDelays
              (minIndex (runtime.toNumber nextRetryCount) (retryDelays.length - 1))) envelope

/-- How long the handler sleeps. -/
def hold (runtime : RetryRuntime) (now : Int) (raw : String) : Int :=
  match (runtime.parse raw).bind (retryDate runtime) with
  | some (some time) => if 0 < time - now then min (time - now) 30000 else 0
  | _ => 0

/-- `key || null` -/
def keyOrNull (key : Option String) : Option String := key.filter (· ≠ "")

/-- `sendToDlq` at a time. -/
def sendToDlq (producer : RetryProducer) (now : Int) (rawValue reason : String)
    (key : Option String) (extra : List (String × Option (Json Number))) : List RetryDeadLetter :=
  if producer.takesDeadLetters then
    [⟨keyOrNull key, Json.literal ([("_dlq_reason", some (.string reason)),
      ("_dlq_timestamp", some (.string (String.ofList (Date.isoText now)))),
      ("_original_value", some (.string rawValue))] ++ extra)⟩]
  else []

/-- What is sent back; the time of the next retry is counted from when it is sent. -/
def republication (runtime : RetryRuntime) (key : Option String) (sentAt : Int)
    (topic nextRetryCount : Json Number) (nextDelay : Nat) (envelope : Json Number) :
    Republished where
  topic
  key := keyOrNull key
  value := Json.spread (some envelope) [("_retry_count", nextRetryCount),
    ("_retry_at", .string (String.ofList (Date.isoText (sentAt + nextDelay))))]
  retryCountHeader := Json.template runtime.numbers nextRetryCount
  sentAt

def handleMessage (runtime : RetryRuntime) (clock : RetryClock) (producer : RetryProducer)
    (record : RetryTopicRecord) : Handled :=
  match record.value.filter (· ≠ "") with
  | none => ⟨none, [], false⟩
  | some raw =>
    let resumed := clock.now + hold runtime clock.now raw + clock.late
    match disposition runtime raw with
    | .throws => ⟨none, [], true⟩
    | .deadLetter reason extra =>
      ⟨none, sendToDlq producer resumed raw reason record.key extra, false⟩
    | .republish topic nextRetryCount nextDelay envelope =>
      let republished :=
        republication runtime record.key resumed topic nextRetryCount nextDelay envelope
      match producer.refusal with
      | some message => ⟨none, sendToDlq producer resumed raw "RETRY_REPUBLISH_FAILED" record.key
          [("error", some (.string message))], false⟩
      | none =>
        -- The text of the log that follows is made inside the `try` block.
        if (runtime.primitive topic).isSome then ⟨some republished, [], false⟩
        else ⟨some republished, sendToDlq producer resumed raw "RETRY_REPUBLISH_FAILED" record.key
          [("error", some (.string "Cannot convert object to primitive value"))], false⟩

section Discipline

variable (runtime : RetryRuntime) (envelope : Json Number)

def maximum : Json Number := maxRetries envelope (routing runtime envelope).join

/-- The time that a record is to be held until. -/
def retryTime (raw : String) : Option Int :=
  ((runtime.parse raw).bind (retryDate runtime)).join

/-- The count of the record and its maximum are numbers, and one more is at most the maximum. -/
def CountsUp (next : Json Number) : Prop :=
  ∃ count maximal, retryCount envelope = .number count ∧
    maximum runtime envelope = .number maximal ∧ next = .number (count.add (.int 1)) ∧
    maximal.atLeast (count.add (.int 1)) = true

/-- The handler has kept to the discipline of retries. -/
structure Disciplined (clock : RetryClock) (producer : RetryProducer) (record : RetryTopicRecord)
    (handled : Handled) : Prop where
  timely : ∀ raw ∈ record.value, ∀ republished ∈ handled.republished,
    ∀ time ∈ retryTime runtime raw, time ≤ republished.sentAt
  counted : ∀ raw ∈ record.value, ∀ envelope ∈ runtime.parse raw,
    ∀ republished ∈ handled.republished,
      ∃ next ∈ republished.value.member? "_retry_count", CountsUp runtime envelope next
  placed : producer.takesDeadLetters = true → ∀ raw ∈ record.value, raw ≠ "" →
    handled.republished.isSome = handled.letters.isEmpty

/-- Nothing that the handler reads of the envelope makes it throw: the envelope is not `null`, its
time and its numbers can be converted, and its type is a string if it is one at all. -/
structure Readable : Prop where
  notNull : envelope ≠ .null
  date : (retryDate runtime envelope).isSome = true
  type : (routing runtime envelope).isSome = true
  count : (runtime.primitive (retryCount envelope)).isSome = true
  maximum : (runtime.primitive (maximum runtime envelope)).isSome = true

/-- The record is to be sent back. -/
structure Returns : Prop where
  readable : Readable runtime envelope
  left : runtime.atLeast (retryCount envelope) (maximum runtime envelope) = some false
  topic : (truthyMember? runtime envelope "_original_topic").isSome = true

variable {runtime envelope} {raw : String}

theorem isSome_atLeast {left right : Json Number} : (runtime.atLeast left right).isSome = true ↔
      (runtime.primitive left).isSome = true ∧ (runtime.primitive right).isSome = true := by
  unfold RetryRuntime.atLeast
  cases runtime.primitive left with
  | none => simp
  | some left =>
    cases runtime.primitive right with
    | none => simp
    | some right =>
      refine iff_of_true ?_ ⟨rfl, rfl⟩
      cases left <;> cases right <;> rfl

theorem disposition_of_ne_null (parsed : runtime.parse raw = some envelope)
    (notNull : envelope ≠ .null) : disposition runtime raw =
      match retryDate runtime envelope, routing runtime envelope with
      | none, _ | _, none => .throws
      | some _, some routing =>
        match runtime.atLeast (retryCount envelope) (maxRetries envelope routing) with
        | none => .throws
        | some true => .deadLetter "MAX_RETRIES_EXHAUSTED"
            [("event_type", envelope.member? "event_type"),
              ("original_topic", envelope.member? "_original_topic"),
              ("retry_count", some (retryCount envelope))]
        | some false =>
          match truthyMember? runtime envelope "_original_topic" with
          | none => .deadLetter "MISSING_ORIGINAL_TOPIC" []
          | some originalTopic =>
            let nextRetryCount :=
              runtime.successor ((runtime.primitive (retryCount envelope)).getD .null)
            let retryDelays := (routing.map (·.retryDelaysMs)).getD [1000, 5000, 30000]
            .republish originalTopic nextRetryCount
              (delayAt retryDelays
                (minIndex (runtime.toNumber nextRetryCount) (retryDelays.length - 1)))
              envelope := by
  unfold disposition
  rw [parsed]
  cases envelope with
  | null => exact absurd rfl notNull
  | boolean | number | string | array | object => rfl

theorem disposition_cases (parsed : runtime.parse raw = some envelope) :
    (disposition runtime raw = .throws ∧ ¬ Readable runtime envelope) ∨
    (∃ reason extra, disposition runtime raw = .deadLetter reason extra ∧
      Readable runtime envelope ∧ ¬ Returns runtime envelope) ∨
    ∃ topic ∈ truthyMember? runtime envelope "_original_topic", ∃ nextDelay,
      disposition runtime raw = .republish topic
        (runtime.successor ((runtime.primitive (retryCount envelope)).getD .null)) nextDelay
        envelope ∧ Returns runtime envelope := by
  by_cases null : envelope = .null
  · refine .inl ⟨?_, fun readable => readable.notNull null⟩
    rw [disposition, parsed, null]
  rw [disposition_of_ne_null parsed null]
  cases date : retryDate runtime envelope with
  | none =>
    refine .inl ⟨rfl, fun readable => ?_⟩
    have converted := readable.date
    rw [date] at converted
    cases converted
  | some time =>
    cases routed : routing runtime envelope with
    | none =>
      refine .inl ⟨rfl, fun readable => ?_⟩
      have typed := readable.type
      rw [routed] at typed
      cases typed
    | some entry =>
      have same : maximum runtime envelope = maxRetries envelope entry := by
        rw [maximum, routed, Option.join_some]
      dsimp only
      rw [← same]
      cases compared : runtime.atLeast (retryCount envelope) (maximum runtime envelope) with
      | none =>
        refine .inl ⟨rfl, fun readable => ?_⟩
        have numbers := isSome_atLeast.mpr ⟨readable.count, readable.maximum⟩
        rw [compared] at numbers
        cases numbers
      | some exhausted =>
        have numbers := isSome_atLeast.mp (compared ▸ rfl :
          (runtime.atLeast (retryCount envelope) (maximum runtime envelope)).isSome = true)
        have readable : Readable runtime envelope :=
          ⟨null, date ▸ rfl, routed ▸ rfl, numbers.1, numbers.2⟩
        cases exhausted with
        | true =>
          refine .inr (.inl ⟨_, _, rfl, readable, fun returns => ?_⟩)
          have left := returns.left
          rw [compared] at left
          cases left
        | false =>
          cases topic : truthyMember? runtime envelope "_original_topic" with
          | none =>
            refine .inr (.inl ⟨_, _, rfl, readable, fun returns => ?_⟩)
            have there := returns.topic
            rw [topic] at there
            cases there
          | some originalTopic =>
            exact .inr (.inr ⟨originalTopic, rfl, _, rfl, readable, compared, topic ▸ rfl⟩)

theorem held_iff (clock : RetryClock) :
    (∀ time ∈ retryTime runtime raw, time ≤ clock.now + hold runtime clock.now raw + clock.late) ↔
      ∀ time ∈ retryTime runtime raw, time ≤ clock.now + 30000 + clock.late := by
  have positive := clock.late_nonneg
  unfold retryTime hold
  cases held : (runtime.parse raw).bind (retryDate runtime) with
  | none => simp
  | some date =>
    cases date with
    | none => simp
    | some time =>
      simp only [Option.join_some, Option.mem_def, Option.some.injEq, forall_eq']
      split <;> omega

theorem countsUp_iff : CountsUp runtime envelope
        (runtime.successor ((runtime.primitive (retryCount envelope)).getD .null)) ↔
      ∃ count maximal, retryCount envelope = .number count ∧
        maximum runtime envelope = .number maximal ∧
        maximal.atLeast (count.add (.int 1)) = true := by
  constructor
  · rintro ⟨count, maximal, counted, bounded, -, atMost⟩
    exact ⟨count, maximal, counted, bounded, atMost⟩
  · rintro ⟨count, maximal, counted, bounded, atMost⟩
    refine ⟨count, maximal, counted, bounded, ?_, atMost⟩
    rw [counted]
    rfl

theorem member?_republication {key : Option String} {sentAt : Int}
    {topic next : Json Number} {nextDelay : Nat} :
    (republication runtime key sentAt topic next nextDelay envelope).value.member? "_retry_count" =
      some next := by
  rw [republication, Json.member?_spread]
  rfl

/-- The envelope is one that the handler deals with as it should: it can be read, and if it is to
be sent back and is taken, its time is not more than 30 seconds away (or the handler that much
later), its count and its maximum are numbers of which the first can be raised by one, and the
text of the log can be made. -/
structure Orderly (runtime : RetryRuntime) (clock : RetryClock) (producer : RetryProducer)
    (raw : String) (envelope : Json Number) : Prop where
  readable : producer.takesDeadLetters = true → Readable runtime envelope
  punctual : producer.refusal = none → Returns runtime envelope →
    ∀ time ∈ retryTime runtime raw, time ≤ clock.now + 30000 + clock.late
  countable : producer.refusal = none → Returns runtime envelope →
    ∃ count maximal, retryCount envelope = .number count ∧
      maximum runtime envelope = .number maximal ∧ maximal.atLeast (count.add (.int 1)) = true
  shown : producer.takesDeadLetters = true → producer.refusal = none →
    Returns runtime envelope → ∀ topic ∈ truthyMember? runtime envelope "_original_topic",
      (runtime.primitive topic).isSome = true

section Records

variable {clock : RetryClock} {producer : RetryProducer} {record : RetryTopicRecord}
  {handled : Handled}

theorem disciplined_of_none (value : record.value = some raw) (nonempty : raw ≠ "")
    (none : handled.republished = none) : Disciplined runtime clock producer record handled ↔
      (producer.takesDeadLetters = true → handled.letters ≠ []) := by
  constructor
  · intro disciplined takes
    have placed := disciplined.placed takes raw value nonempty
    rw [none] at placed
    intro empty
    rw [empty] at placed
    cases placed
  · intro letters
    refine ⟨fun _ _ republished there => ?_, fun _ _ _ _ republished there => ?_,
      fun takes _ _ _ => ?_⟩
    · rw [none] at there
      cases there
    · rw [none] at there
      cases there
    · rw [none, List.isEmpty_eq_false_iff.mpr (letters takes)]
      rfl

theorem sendToDlq_ne_nil {now : Int} {reason : String} {key : Option String}
    {extra : List (String × Option (Json Number))} (takes : producer.takesDeadLetters = true) :
    sendToDlq producer now raw reason key extra ≠ [] := by
  rw [sendToDlq, if_pos takes]
  exact List.cons_ne_nil _ _

theorem disciplined_of_some (value : record.value = some raw) (nonempty : raw ≠ "")
    (parsed : runtime.parse raw = some envelope) {next : Json Number} {republished : Republished}
    (there : handled.republished = some republished)
    (sentAt : republished.sentAt = clock.now + hold runtime clock.now raw + clock.late)
    (counted : republished.value.member? "_retry_count" = some next) :
    Disciplined runtime clock producer record handled ↔
      (∀ time ∈ retryTime runtime raw, time ≤ clock.now + 30000 + clock.late) ∧
      CountsUp runtime envelope next ∧
      (producer.takesDeadLetters = true → handled.letters = []) := by
  rw [← held_iff, ← sentAt]
  constructor
  · rintro ⟨timely, counts, placed⟩
    refine ⟨timely raw value republished there, ?_, fun takes => ?_⟩
    · obtain ⟨next', here, countsUp⟩ := counts raw value envelope parsed republished there
      rw [counted] at here
      cases here
      exact countsUp
    · have alone := placed takes raw value nonempty
      rw [there] at alone
      exact List.isEmpty_iff.mp alone.symm
  · rintro ⟨timely, countsUp, alone⟩
    refine ⟨?_, ?_, fun takes _ _ _ => ?_⟩
    · intro raw' value' republished' there'
      rw [value] at value'
      rw [there] at there'
      cases value'
      cases there'
      exact timely
    · intro raw' value' envelope' parsed' republished' there'
      rw [value] at value'
      rw [there] at there'
      cases value'
      cases there'
      rw [parsed] at parsed'
      cases parsed'
      exact ⟨next, counted, countsUp⟩
    · rw [there, alone takes]
      rfl

theorem handleMessage_of_value (value : record.value = some raw) (nonempty : raw ≠ "") :
    handleMessage runtime clock producer record =
      let resumed := clock.now + hold runtime clock.now raw + clock.late
      match disposition runtime raw with
      | .throws => ⟨none, [], true⟩
      | .deadLetter reason extra =>
        ⟨none, sendToDlq producer resumed raw reason record.key extra, false⟩
      | .republish topic nextRetryCount nextDelay envelope =>
        let republished :=
          republication runtime record.key resumed topic nextRetryCount nextDelay envelope
        match producer.refusal with
        | some message => ⟨none, sendToDlq producer resumed raw "RETRY_REPUBLISH_FAILED"
            record.key [("error", some (.string message))], false⟩
        | none =>
          if (runtime.primitive topic).isSome then ⟨some republished, [], false⟩
          else ⟨some republished, sendToDlq producer resumed raw "RETRY_REPUBLISH_FAILED"
            record.key [("error", some (.string "Cannot convert object to primitive value"))],
            false⟩ := by
  rw [handleMessage, value, Option.filter_some_pos (by simpa using nonempty)]

theorem orderly_of_returns (taken : producer.refusal = none) (returns : Returns runtime envelope)
    {topic : Json Number} (carried : topic ∈ truthyMember? runtime envelope "_original_topic") :
    Orderly runtime clock producer raw envelope ↔
      (∀ time ∈ retryTime runtime raw, time ≤ clock.now + 30000 + clock.late) ∧
      CountsUp runtime envelope
        (runtime.successor ((runtime.primitive (retryCount envelope)).getD .null)) ∧
      (producer.takesDeadLetters = true → (runtime.primitive topic).isSome = true) := by
  rw [countsUp_iff]
  constructor
  · intro orderly
    exact ⟨orderly.punctual taken returns, orderly.countable taken returns,
      fun takes => orderly.shown takes taken returns topic carried⟩
  · rintro ⟨punctual, countable, shown⟩
    refine ⟨fun _ => returns.readable, fun _ _ => punctual, fun _ _ => countable, ?_⟩
    intro takes _ _ other there
    rw [Option.mem_unique there carried]
    exact shown takes

theorem disciplined_of_parsed (value : record.value = some raw) (nonempty : raw ≠ "")
    (parsed : runtime.parse raw = some envelope) :
    Disciplined runtime clock producer record (handleMessage runtime clock producer record) ↔
      Orderly runtime clock producer raw envelope := by
  rw [handleMessage_of_value value nonempty]
  rcases disposition_cases parsed with ⟨throws, unreadable⟩ |
    ⟨reason, extra, letter, readable, stays⟩ | ⟨topic, carried, nextDelay, republish, returns⟩
  · -- It goes to neither.
    rw [throws, disciplined_of_none value nonempty rfl]
    constructor
    · intro nowhere
      exact ⟨fun takes => absurd rfl (nowhere takes),
        fun _ returns => absurd returns.readable unreadable,
        fun _ returns => absurd returns.readable unreadable,
        fun _ _ returns => absurd returns.readable unreadable⟩
    · intro orderly takes
      exact absurd (orderly.readable takes) unreadable
  · rw [letter, disciplined_of_none value nonempty rfl]
    exact iff_of_true sendToDlq_ne_nil ⟨fun _ => readable, fun _ returns => absurd returns stays,
      fun _ returns => absurd returns stays, fun _ _ returns => absurd returns stays⟩
  · rw [republish]
    cases refusal : producer.refusal with
    | some message =>
      rw [disciplined_of_none value nonempty rfl]
      refine iff_of_true sendToDlq_ne_nil ⟨fun _ => returns.readable, ?_, ?_, ?_⟩
      · exact fun taken => absurd (refusal.symm.trans taken) nofun
      · exact fun taken => absurd (refusal.symm.trans taken) nofun
      · exact fun _ taken => absurd (refusal.symm.trans taken) nofun
    | none =>
      dsimp only
      rw [orderly_of_returns refusal returns carried]
      by_cases shown : (runtime.primitive topic).isSome = true
      · rw [if_pos shown, disciplined_of_some value nonempty parsed rfl rfl member?_republication]
        refine and_congr_right fun _ => and_congr_right fun _ => ?_
        exact iff_of_true (fun _ => rfl) fun _ => shown
      · rw [if_neg shown, disciplined_of_some value nonempty parsed rfl rfl member?_republication]
        refine and_congr_right fun _ => and_congr_right fun _ => forall_congr' fun takes => ?_
        exact iff_of_false (sendToDlq_ne_nil takes) shown

end Records

section Sample

def lastAttempt : Json Number :=
  .object [("event_type", .string "moderation.flagged"),
    ("_original_topic", .string "moderation-events"), ("_retry_count", .number (.int 4)),
    ("_retry_at", .string "2024-01-01T00:01:00.000Z")]

def sampleDigits : Number → List Char
  | .finite value => (toString value.num).toList
  | .nan => "NaN".toList
  | .infinity => "Infinity".toList
  | .negInfinity => "-Infinity".toList

def lastAttemptText : String := lastAttempt.stringify sampleDigits

def sampleRuntime : RetryRuntime where
  parse raw := if raw = lastAttemptText then some lastAttempt else none
  stringToNumber _ := .nan
  toPrimitive _ := some (.string "[object Object]")
  newDate
    | .string text => some (if text = "2024-01-01T00:01:00.000Z" then some 1704067260000 else none)
    | _ => some none
  digits := sampleDigits

def sampleClock : RetryClock := ⟨1704067200000, 0, Int.le_refl 0⟩

end Sample

end Discipline

end RetryConsumer

end Caas.Kafka
