import Caas.Kafka.PersistencePhases

/-!
# What is told of a message

A success is sent for a message when the check for a duplicate has found it and when its flush
has come to its end, a failure when its flush has failed and when its check has failed and
it has become a dead letter. A message whose flush has failed is flushed again, so both can be
sent for one event.
-/

namespace Caas.Kafka

open Js Async MessagePersistenceConsumer MessageRepository

section Verdicts

variable {ν : Type} (settings : PersistenceSettings ν)

def EventStored (state : PersistenceState ν) (message : Envelope ν) : Prop :=
  ∃ stored ∈ state.messages, isOf message.eventId message.tenantId stored = true

/-- The message that is handled, if it is a supported one. -/
def handled : Input → Option (Envelope ν)
  | .consume record => supported? settings record
  | .flush => none

/-- The messages that a handler or a flush has found or made persistent. -/
def persisted (input : Input) : Phase ν → List (Envelope ν)
  | .found => (handled settings input).toList
  | .updating messages _ _ _ _ | .invalidating messages _ _ _ | .succeeding messages => messages
  | _ => []

def Stored (state : PersistenceState ν) (input : Input) (phase : Phase ν) : Prop :=
  ∀ message ∈ persisted settings input phase, EventStored state message

def verdicts (messages : List (Envelope ν)) (verdict : Bool) : List (String × Bool) :=
  messages.map fun message => (message.eventId, verdict)

/-- The verdicts that a handler or a flush is about to send. -/
def pledges (input : Input) : Phase ν → List (String × Bool)
  | .found => verdicts (handled settings input).toList true
  | .reported => verdicts (handled settings input).toList false
  | .succeeding messages => verdicts messages true
  | .failing messages => verdicts messages false
  | _ => []

def Notification.verdict (notification : Notification) : String × Bool :=
  (notification.messageId, notification.failure.isNone)

/-- A verdict has been sent, or is about to be sent. -/
def Verdict (pool : PersistencePool ν) (verdict : String × Bool) : Prop :=
  (∃ notification ∈ pool.shared.notifications, notification.verdict = verdict) ∨
    ∃ call ∈ pool.calls, verdict ∈ pledges settings call.input call.phase

def OneVerdict (pool : PersistencePool ν) : Prop :=
  ∀ eventId, ¬ (Verdict settings pool (eventId, true) ∧ Verdict settings pool (eventId, false))

/-- Every success is sent for a message whose event is stored. -/
def SendsStored (pool : PersistencePool ν) : PersistenceEvent → Prop
  | .run index _ => ∀ call notifications,
    pool.awaited? index = some (call, .notify notifications) →
      (∃ notification ∈ notifications, notification.failure = none) →
        (notifications = (persisted settings call.input call.phase).map fun message =>
            ⟨message.eventId, none⟩) ∧
          ∀ message ∈ persisted settings call.input call.phase, EventStored pool.shared message
  | .start _ | .change _ => True

/-- No event is decided otherwise than it has been decided before. -/
def Agrees (pool : PersistencePool ν) (decided : List (String × Bool)) : Prop :=
  ∀ eventId verdict, (eventId, verdict) ∈ decided → ¬ Verdict settings pool (eventId, !verdict)

/-- A bulk write that is rejected for duplicates alone leaves the events of its messages stored. -/
def StoresDuplicates (state : PersistenceState ν) (phase : Phase ν) (circumstance : Circumstance) :
    PersistenceCommand ν → Prop
  | .bulkWrite documents => ∀ messages failure, phase = .flushing messages →
    (state.bulkWrite circumstance documents).2 = .error failure →
      failure.duplicatesOnly = true → ∀ message ∈ messages,
        EventStored (state.bulkWrite circumstance documents).1 message
  | _ => True

/-- What storage answers decides each event in one way, and duplicates are stored. -/
def DecidesOnce (pool : PersistencePool ν) : PersistenceEvent → Prop
  | .run index circumstance => ∀ call command, pool.awaited? index = some (call, command) →
    Agrees settings pool (pledges settings call.input (nextPhase settings call.phase command
      (pool.shared.exec settings command circumstance).2)) ∧
      StoresDuplicates pool.shared call.phase circumstance command
  | .start _ | .change _ => True

variable {settings} {state after : PersistenceState ν} {input : Input} {phase : Phase ν}
  {message : Envelope ν}

theorem EventStored.mono (stored : EventStored state message) (grows : state.Grows after) :
    EventStored after message := by
  obtain ⟨document, member, same⟩ := stored
  exact ⟨document, grows.messages member, same⟩

theorem isOf_toMessage (message : Envelope ν) :
    isOf message.eventId message.tenantId (toMessage settings message) = true := by
  have named : (toMessage settings message).metadata.stringMember? "event_id" =
      some message.eventId := by
    unfold toMessage Json.stringMember?
    rw [Json.member?_spread]
    cases message.projectId.filter (Json.truthy settings.numbers) <;>
      simp [OrderedMap.ofList]
  have tenant : (toMessage settings message).tenantId = message.tenantId := rfl
  simp [isOf, named, tenant]

variable {circumstance : Circumstance} {command : PersistenceCommand ν}
  {notification : Notification} {index : Nat} {next : command.Reply → PersistenceProgram ν Unit}

theorem eventStored_bulkWrite {messages : List (Envelope ν)}
    (fine : (state.bulkWrite circumstance (messages.map (toMessage settings))).2 = .ok ())
    (member : message ∈ messages) :
    EventStored (state.bulkWrite circumstance (messages.map (toMessage settings))).1 message := by
  obtain ⟨all, none⟩ := PersistenceState.messages_of_bulkWrite fine
  refine ⟨toMessage settings message, ?_, isOf_toMessage message⟩
  rw [all]
  exact List.mem_append_right _ (List.mem_map_of_mem member)

theorem persisted_updatesFrom (messages : List (Envelope ν)) (updates : List (String × Date)) :
    persisted settings input (updatesFrom messages updates) = messages := by
  induction updates with
  | nil => rfl
  | cons update rest ih =>
    unfold updatesFrom
    split
    · exact ih
    · rfl

theorem persisted_taken (messages : List (Envelope ν)) :
    persisted settings input (taken messages) = [] := by
  unfold taken
  split <;> rfl

theorem persisted_exec (awaits : Awaits settings input phase command)
    (before : Stored settings state input phase)
    (stores : StoresDuplicates state phase circumstance command) :
    Stored settings (state.exec settings command circumstance).1 input
      (nextPhase settings phase command (state.exec settings command circumstance).2) := by
  have grows := @PersistenceState.grows_exec _ settings state command circumstance
  cases awaits with
  | reject | confirm | deny | succeed | fail | restore => exact List.forall_mem_nil _
  | check record envelope own =>
    obtain ⟨_ | error | error, _⟩ := circumstance
    · cases duplicate : state.messages.any (isOf envelope.eventId envelope.tenantId) with
      | false =>
        simp only [PersistenceState.exec, PersistenceState.answer, nextPhase, duplicate]
        exact List.forall_mem_nil _
      | true =>
        simp only [Stored, PersistenceState.exec, PersistenceState.answer, nextPhase, duplicate,
          if_true, persisted, handled, own, Option.toList_some, List.mem_singleton]
        rintro _ rfl
        exact List.any_eq_true.mp duplicate
    · exact List.forall_mem_nil _
    · exact List.forall_mem_nil _
  | push record envelope own =>
    change ∀ message ∈ persisted settings (.consume record)
      (taken (state.push settings envelope).2), _
    rw [persisted_taken]
    exact List.forall_mem_nil _
  | report | reportAgain =>
    obtain ⟨_ | error | error, _⟩ := circumstance <;> exact List.forall_mem_nil _
  | take =>
    change ∀ message ∈ persisted settings .flush (taken state.messageBuffer), _
    rw [persisted_taken]
    exact List.forall_mem_nil _
  | write messages =>
    change ∀ message ∈ persisted settings input (written settings messages
        (state.bulkWrite circumstance (messages.map (toMessage settings))).2),
      EventStored (state.bulkWrite circumstance (messages.map (toMessage settings))).1 message
    cases reply : (state.bulkWrite circumstance (messages.map (toMessage settings))).2 with
    | ok _ =>
      rw [written, persisted_updatesFrom]
      exact fun message member => eventStored_bulkWrite reply member
    | error failure =>
      by_cases duplicates : failure.duplicatesOnly = true
      · intro message member
        refine stores messages failure rfl reply duplicates message ?_
        rw [written, if_pos duplicates] at member
        exact member
      · rw [written, if_neg duplicates]
        exact List.forall_mem_nil _
  | update messages tenantId conversationId timestamp rest =>
    obtain ⟨_ | error | error, _⟩ := circumstance
    · exact fun message member => (before message member).mono grows
    · exact List.forall_mem_nil _
    · exact List.forall_mem_nil _
  | invalidate messages tenantId conversationId rest =>
    obtain ⟨_ | error | error, _⟩ := circumstance
    · simp only [Stored, PersistenceState.exec, PersistenceState.answer, nextPhase,
        persisted_updatesFrom]
      exact fun message member => (before message member).mono grows
    · exact List.forall_mem_nil _
    · exact List.forall_mem_nil _

theorem verdict_of_mem {messages : List (Envelope ν)} {same verdict : Bool} {eventId : String}
    (member : (eventId, verdict) ∈ verdicts messages same) : verdict = same := by
  obtain ⟨_, _, equal⟩ := List.mem_map.mp member
  exact (Prod.mk.inj equal).2.symm

theorem pledges_alike {eventId other : String} {verdict verdict' : Bool}
    (pledged : (eventId, verdict) ∈ pledges settings input phase)
    (pledged' : (other, verdict') ∈ pledges settings input phase) : verdict = verdict' := by
  cases phase with
  | found | reported | succeeding | failing =>
    exact (verdict_of_mem pledged).trans (verdict_of_mem pledged').symm
  | _ => cases pledged

theorem verdict_of_notify {notifications : List Notification}
    (awaits : Awaits settings input phase (.notify notifications))
    (member : notification ∈ notifications) :
    notification.verdict ∈ pledges settings input phase := by
  cases awaits with
  | confirm record envelope supported | deny record envelope supported =>
    obtain rfl := List.mem_singleton.mp member
    simp [pledges, verdicts, handled, supported, Notification.verdict]
  | succeed messages | fail messages =>
    obtain ⟨message, here, rfl⟩ := List.mem_map.mp member
    exact List.mem_map.mpr ⟨message, here, rfl⟩

theorem notifications_answer {ρ : Type} {fault : Option Fault} {reply : ρ}
    (member : notification ∈ (PersistenceState.answer fault state after reply).1.notifications)
    (same : after.notifications = state.notifications) : notification ∈ state.notifications := by
  rcases fault with _ | error | error
  · exact same ▸ member
  · exact member
  · exact same ▸ member

theorem notifications_exec
    (member : notification ∈ (state.exec settings command circumstance).1.notifications) :
    notification ∈ state.notifications ∨
      ∃ notifications, command = .notify notifications ∧ notification ∈ notifications := by
  cases command with
  | notify notifications =>
    refine (List.mem_append.mp member).imp_right fun sent => ⟨notifications, rfl, ?_⟩
    obtain ⟨⟨_, number⟩, among, rfl⟩ := List.mem_map.mp sent
    exact List.fst_mem_of_mem_zipIdx (List.mem_of_mem_filter among)
  | publish | checkDuplicate | invalidate => exact .inl (notifications_answer member rfl)
  | updateConversation conversationId tenantId timestamp =>
    refine .inl (notifications_answer member ?_)
    unfold PersistenceState.updateConversationLastMessage
    split <;> rfl
  | push message =>
    left
    change notification ∈ (state.push settings message).1.notifications at member
    unfold PersistenceState.push at member
    split at member <;> exact member
  | take | putBack => exact .inl member
  | bulkWrite documents =>
    left
    change notification ∈ (state.bulkWrite circumstance documents).1.notifications at member
    unfold PersistenceState.bulkWrite at member
    split at member <;> exact member

variable {pool : PersistencePool ν} {call : PersistenceCall ν}

theorem verdict_resume (present : pool.calls[index]? = some call)
    (awaits : Awaits settings call.input call.phase command) {verdict : String × Bool}
    (given : Verdict settings (pool.resume (discipline settings) index call command next
      (pool.shared.exec settings command circumstance)) verdict) :
    Verdict settings pool verdict ∨ verdict ∈ pledges settings call.input
      (nextPhase settings call.phase command (pool.shared.exec settings command circumstance).2) := by
  have goes := @Pool.goes_resume _ _ _ _ _ _ (discipline settings) pool index call command next
    (pool.shared.exec settings command circumstance) present
  rcases given with ⟨notification, member, rfl⟩ | ⟨other, member, pledged⟩
  · left
    rcases notifications_exec member with earlier | ⟨notifications, rfl, sent⟩
    · exact .inl ⟨notification, earlier, rfl⟩
    · exact .inr ⟨call, goes.member, verdict_of_notify awaits sent⟩
  · rcases goes.back other member with before | ⟨input, phase⟩
    · exact .inl (.inr ⟨other, before, pledged⟩)
    · rw [input, phase] at pledged
      exact .inr pledged

theorem oneVerdict_resume (one : OneVerdict settings pool)
    (present : pool.calls[index]? = some call)
    (awaits : Awaits settings call.input call.phase command)
    (agrees : Agrees settings pool (pledges settings call.input (nextPhase settings call.phase command
      (pool.shared.exec settings command circumstance).2))) :
    OneVerdict settings (pool.resume (discipline settings) index call command next
      (pool.shared.exec settings command circumstance)) := by
  rintro eventId ⟨positive, negative⟩
  rcases verdict_resume present awaits positive with good | good
  · rcases verdict_resume present awaits negative with bad | bad
    · exact one eventId ⟨good, bad⟩
    · exact agrees eventId false bad good
  · rcases verdict_resume present awaits negative with bad | bad
    · exact agrees eventId true good bad
    · cases pledges_alike good bad

/-- What a run keeps: one verdict for each event, and what is persisted stored. -/
structure Kept (settings : PersistenceSettings ν) (pool : PersistencePool ν) : Prop where
  one : OneVerdict settings pool
  stored : ∀ call ∈ pool.calls, Stored settings pool.shared call.input call.phase

theorem verdict_start {verdict : String × Bool}
    (given : Verdict settings (pool.start (host settings) (fun _ => .start) input) verdict) :
    Verdict settings pool verdict := by
  refine given.imp_right ?_
  rintro ⟨call, member, pledged⟩
  rcases Pool.mem_start member with earlier | rfl
  · exact ⟨call, earlier, pledged⟩
  · cases pledged

theorem kept_start (kept : Kept settings pool) (input : Input) :
    Kept settings (pool.start (host settings) (fun _ => .start) input) := by
  constructor
  · rintro eventId ⟨positive, negative⟩
    exact kept.one eventId ⟨verdict_start positive, verdict_start negative⟩
  · intro call member
    rcases Pool.mem_start member with earlier | rfl
    · exact kept.stored call earlier
    · nofun

theorem kept_resume (kept : Kept settings pool) (present : pool.calls[index]? = some call)
    (awaits : Awaits settings call.input call.phase command)
    (agrees : Agrees settings pool (pledges settings call.input (nextPhase settings call.phase command
      (pool.shared.exec settings command circumstance).2)))
    (stores : StoresDuplicates pool.shared call.phase circumstance command) :
    Kept settings (pool.resume (discipline settings) index call command next
      (pool.shared.exec settings command circumstance)) := by
  refine ⟨oneVerdict_resume kept.one present awaits agrees, ?_⟩
  refine (Pool.goes_resume present).forall ?_ fun other member message persists => ?_
  · exact persisted_exec awaits (kept.stored call (List.mem_of_getElem? present)) stores
  · exact (kept.stored other member message persists).mono (PersistenceState.grows_exec _ _ _)

theorem kept_run {events : List PersistenceEvent}
    (admits : (machine settings).Admits (DecidesOnce settings) pool events)
    (respectful : Respectful settings pool) (kept : Kept settings pool) :
    Respectful settings ((machine settings).run pool events) ∧
      Kept settings ((machine settings).run pool events) := by
  refine @Pool.invariant _ _ _ _ _ _ _ _ (host settings) (discipline settings) (fun _ => .start)
    ends (DecidesOnce settings) (Kept settings) body_respects ?_ ?_ ?_ _ _ admits respectful kept
  · exact fun pool input kept _ => kept_start kept input
  · exact fun _ impossible => impossible.elim
  · intro pool index circumstance call command next kept guarded present awaits may
    obtain ⟨agrees, stores⟩ := guarded call command (Pool.awaited?_of_await present awaits)
    exact ⟨trivial, kept_resume kept present may agrees stores⟩

theorem notifications_of_success {notifications : List Notification}
    (awaits : Awaits settings input phase (.notify notifications))
    (success : ∃ notification ∈ notifications, notification.failure = none) :
    notifications = (persisted settings input phase).map fun message =>
      ⟨message.eventId, none⟩ := by
  obtain ⟨notification, member, none⟩ := success
  cases awaits with
  | confirm record envelope supported => simp [persisted, handled, supported]
  | succeed messages => rfl
  | deny record envelope supported error =>
    obtain rfl := List.mem_singleton.mp member
    cases none
  | fail messages error =>
    obtain ⟨message, here, rfl⟩ := List.mem_map.mp member
    cases none

theorem sendsStored_step (respectful : Respectful settings pool) (kept : Kept settings pool)
    (event : PersistenceEvent) : SendsStored settings pool event := by
  cases event with
  | start | change => trivial
  | run index circumstance =>
    intro call notifications awaited success
    obtain ⟨next, present, awaits⟩ := Pool.await_of_awaited? awaited
    have respects := respectful call (List.mem_of_getElem? present)
    rw [awaits] at respects
    exact ⟨notifications_of_success respects.1 success,
      kept.stored call (List.mem_of_getElem? present)⟩

/-- A record is consumed, and its handler flushes its message. -/
def flushedMessage : List PersistenceEvent := .start (.consume sampleRecord) :: goesOn 0 6

/-- The bulk write of a handler is refused, and the next flush succeeds. -/
def retriedMessage : List PersistenceEvent :=
  .start (.consume sampleRecord) :: goesOn 0 2 ++
    .run 0 { refused := fun _ => some 91 } :: goesOn 0 2 ++ .start .flush :: goesOn 1 5

end Verdicts

end Caas.Kafka
