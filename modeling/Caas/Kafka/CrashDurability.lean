import Caas.Kafka.PersistencePhases

/-!
# What survives a crash of the consumer

The offset of a record is committed when its handler has returned, so its message must then be
stored or be a dead letter: the buffer is lost with the process. A handler that has put its
message into a buffer with room left returns at once, and one whose flush has failed returns
with its message in the buffer again.
-/

namespace Caas.Kafka

open Js Async MessagePersistenceConsumer MessageRepository

section Durability

variable {ν : Type} (settings : PersistenceSettings ν)

/-- The message is stored: its document, or one of its event. -/
def IsStored (state : PersistenceState ν) (envelope : Envelope ν) : Prop :=
  ∃ stored ∈ state.messages, sameKey (toMessage settings envelope) stored = true ∨
    isOf envelope.eventId envelope.tenantId stored = true

/-- The message of the record is stored, or the record is a dead letter. -/
def Settled (state : PersistenceState ν) (record : Record) (envelope : Envelope ν) : Prop :=
  IsStored settings state envelope ∨ ∃ entry ∈ state.deadLetters, entry.isOf record

/-- What is consumed is settled, if it is a record with a supported message. -/
def Covers (state : PersistenceState ν) (input : Input) : Prop :=
  ∀ record envelope, input = .consume record → supported? settings record = some envelope →
    Settled settings state record envelope

/-- Every supported message whose handler has returned is stored or a dead letter. -/
def Durable (pool : PersistencePool ν) : Prop :=
  ∀ call ∈ pool.calls, call.program.outcome? = some (.ok ()) →
    Covers settings pool.shared call.input

/-- A handler puts a message that is not settled into the buffer only where it fills it, and the
message is settled when the bulk write of that handler has been executed. -/
def Settles (state : PersistenceState ν) (input : Input) (circumstance : Circumstance) :
    PersistenceCommand ν → Prop
  | .push _ => state.fills settings = true ∨ Covers settings state input
  | .bulkWrite documents => Covers settings (state.bulkWrite circumstance documents).1 input
  | _ => True

/-- Handlers settle what they push before they return. -/
def SettlesFirst (pool : PersistencePool ν) : PersistenceEvent → Prop
  | .run index circumstance => ∀ call command, pool.awaited? index = some (call, command) →
    Settles settings pool.shared call.input circumstance command
  | .start _ | .change _ => True

/-- What is consumed has been settled when its handler has come to this phase. -/
def Phase.isSettled : Phase ν → Bool
  | .start | .checked | .unchecked | .unreported | .flushing _ | .abandoned => false
  | _ => true

def SettledPhase (state : PersistenceState ν) (input : Input) (phase : Phase ν) : Prop :=
  phase.isSettled = true → Covers settings state input

variable {settings} {state after : PersistenceState ν} {input : Input} {phase : Phase ν}

theorem Covers.mono (covers : Covers settings state input) (grows : state.Grows after) :
    Covers settings after input := by
  intro record envelope own supported
  rcases covers record envelope own supported with ⟨stored, member, same⟩ | ⟨entry, member, source⟩
  · exact .inl ⟨stored, grows.messages member, same⟩
  · exact .inr ⟨entry, grows.deadLetters member, source⟩

theorem covers_flush : Covers settings state .flush := nofun

theorem covers_of_settled {record : Record} {envelope : Envelope ν}
    (own : supported? settings record = some envelope)
    (settled : Settled settings state record envelope) :
    Covers settings state (.consume record) := by
  rintro _ same ⟨⟩ supported
  obtain rfl : envelope = same := Option.some.inj (own.symm.trans supported)
  exact settled

theorem covers_of_unsupported {record : Record} (unsupported : supported? settings record = none) :
    Covers settings state (.consume record) := by
  rintro _ envelope ⟨⟩ supported
  cases unsupported.symm.trans supported

theorem covers_publish {record : Record} {entry : DeadLetter ν} (source : entry.isOf record) :
    Covers settings { state with deadLetters := state.deadLetters ++ [entry] }
      (.consume record) := by
  rintro _ envelope ⟨⟩ -
  exact .inr ⟨entry, List.mem_append_right _ List.mem_cons_self, source⟩

/-- One command keeps what is settled, and settles what its phase promises. -/
theorem settledPhase_exec {command : PersistenceCommand ν} {circumstance : Circumstance}
    (awaits : Awaits settings input phase command)
    (before : SettledPhase settings state input phase)
    (guarded : Settles settings state input circumstance command) :
    SettledPhase settings (state.exec settings command circumstance).1 input
      (nextPhase settings phase command (state.exec settings command circumstance).2) := by
  have grows := @PersistenceState.grows_exec _ settings state command circumstance
  cases awaits with
  | reject record entry unsupported => exact fun _ => covers_of_unsupported unsupported
  | check record envelope own =>
    obtain ⟨_ | error | error, _⟩ := circumstance
    · cases duplicate : state.messages.any (isOf envelope.eventId envelope.tenantId) with
      | false =>
        simp only [PersistenceState.exec, PersistenceState.answer, nextPhase, duplicate]
        nofun
      | true =>
        obtain ⟨stored, member, same⟩ := List.any_eq_true.mp duplicate
        exact fun _ => covers_of_settled own (.inl ⟨stored, member, .inr same⟩)
    · nofun
    · nofun
  | confirm | deny | succeed | fail | restore | update | invalidate =>
    exact fun _ => (before rfl).mono grows
  | push record envelope own =>
    change SettledPhase settings (state.push settings envelope).1 (.consume record)
      (taken (state.push settings envelope).2)
    unfold PersistenceState.push
    by_cases full : state.fills settings = true
    · rw [if_pos full, taken, if_neg (by simp)]
      nofun
    · rw [if_neg full]
      exact fun _ => (guarded.resolve_left full).mono ⟨List.Subset.refl _, List.Subset.refl _⟩
  | report record entry source | reportAgain record entry source =>
    obtain ⟨_ | error | error, _⟩ := circumstance
    · exact fun _ => covers_publish source
    · nofun
    · nofun
  | take => exact fun _ => covers_flush
  | write messages => exact fun _ => guarded

theorem settled_run (state : PersistenceState ν) {events : List PersistenceEvent}
    (admits : (machine settings).Admits (SettlesFirst settings) (newPool state) events) :
    Respectful settings ((machine settings).run (newPool state) events) ∧
      ∀ call ∈ ((machine settings).run (newPool state) events).calls,
        SettledPhase settings ((machine settings).run (newPool state) events).shared call.input
          call.phase := by
  refine @Pool.invariant _ _ _ _ _ _ _ _ (host settings) (discipline settings) (fun _ => .start)
    ends (SettlesFirst settings)
    (fun pool => ∀ call ∈ pool.calls, SettledPhase settings pool.shared call.input call.phase)
    body_respects ?_ ?_ ?_ _ _ admits nofun nofun
  · intro pool input settled _ call member
    rcases Pool.mem_start member with earlier | rfl
    · exact settled call earlier
    · nofun
  · exact fun _ impossible => impossible.elim
  · intro pool index circumstance call command next settled guarded present awaits may
    refine ⟨trivial, (Pool.goes_resume present).forall ?_ fun other member settles => ?_⟩
    · exact settledPhase_exec may (settled call (List.mem_of_getElem? present))
        (guarded call command (Pool.awaited?_of_await present awaits))
    · exact (settled other member settles).mono (PersistenceState.grows_exec _ _ _)

/-- Whenever the process stops, every supported message whose handler has returned is stored or
a dead letter, if each handler that pushes a message has stored it when it returns: the message
fills the buffer, and the bulk write stores it. -/
theorem acknowledged_messages_survive (settings : PersistenceSettings ν)
    (state : PersistenceState ν) (events : List PersistenceEvent)
    (admits : (machine settings).Admits (SettlesFirst settings) (newPool state) events) :
    Durable settings ((machine settings).run (newPool state) events) := by
  obtain ⟨respectful, settled⟩ := settled_run state admits
  intro call member ended
  have closes := (respectful call member).ends_of_outcome ended
  refine settled call member ?_
  rcases closes with closed | ⟨-, error, failed⟩
  · rw [closed]
    rfl
  · cases failed

/-- A record is consumed, and its handler flushes its message. -/
def oneMessage : List PersistenceEvent := .start (.consume sampleRecord) :: goesOn 0 6

/-- With a batch size of one the message is stored when its handler returns. -/
theorem one_message_survives :
    Durable (sampleSettings (.int 1)) ((machine (sampleSettings (.int 1))).run
      (newPool sampleState) oneMessage) := by
  apply acknowledged_messages_survive
  refine ⟨trivial, ?_, ?_, ?_, ?_, ?_, ?_, trivial⟩
  all_goals rintro _ _ ⟨⟩
  any_goals trivial
  · exact .inl (by decide +kernel)
  · refine @covers_of_settled _ _ _ sampleRecord _ rfl ?_
    refine .inl ⟨_, List.mem_singleton.mpr rfl, .inl ?_⟩
    decide +kernel

/-- A message that is put into a buffer with room left is lost when the process stops. -/
theorem buffered_message_is_lost :
    ¬ ∀ events, Durable (sampleSettings (.int 25)) ((machine (sampleSettings (.int 25))).run
      (newPool sampleState) events) := by
  intro durable
  have settled := durable (.start (.consume sampleRecord) :: goesOn 0 2) _ List.mem_cons_self rfl
    sampleRecord _ rfl rfl
  rcases settled with ⟨stored, member, -⟩ | ⟨entry, member, -⟩
  · cases member
  · cases member

end Durability

end Caas.Kafka
