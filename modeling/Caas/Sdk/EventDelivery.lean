import Caas.Sdk.SentEvents

/-!
# How often an event is sent

An acknowledged event is no sent event any more, and neither `emitSocketEvent` nor the replay
of the queue asks whether an event has been acknowledged. So an event is sent again when the
application emits it again, or when it is still in the queue, and at no other time.
-/

namespace Caas.Sdk.WebSdkCore

variable {options : SdkCoreOptions}

/-- The machine, with the events that acknowledgements have taken out of the sent ones. -/
def tracking (options : SdkCoreOptions) :
    Transducer (WebSdkCore × Finset String) Input (List Effect) where
  step current input :=
    let (after, effects) := react options input current.1
    ((after, current.2 ∪ (current.1.sentEventIds \ after.sentEventIds)), effects)

/-- No event is sent that has been taken out of the sent ones. -/
def NotResent (options : SdkCoreOptions) (current : WebSdkCore × Finset String) (input : Input) :
    Prop :=
  ∀ eventId ∈ outgoing options current.1 input, eventId ∉ current.2

/-- `socket.emit` is called at most once for each `client_event_id`. -/
def SendsOnce (options : SdkCoreOptions) (core : WebSdkCore) (inputs : List Input) : Prop :=
  (emittedIds ((machine options).outputs core inputs).flatten).Nodup

section Steps

variable {core after : WebSdkCore} {withdrawn : Finset String} {input : Input}
  {effects : List Effect} {passed : List String}

theorem emits_of_connected (able : ∀ index, (options.socketFactory index).emits = true)
    (connected : core.isConnected = true) : emits options core = true := by
  unfold isConnected at connected
  unfold emits
  cases current : core.socket with
  | none =>
    rw [current] at connected
    cases connected
  | some index => exact able index

/-- What has been passed to a socket is still sent, or has been taken out. -/
structure Known (passed : List String) (core : WebSdkCore) (withdrawn : Finset String) : Prop where
  once : passed.Nodup
  known : ∀ eventId ∈ passed, eventId ∈ core.sentEventIds ∨ eventId ∈ withdrawn

theorem Known.step (known : Known passed core withdrawn)
    (delivers : Delivers options core input after effects)
    (careful : NotResent options (core, withdrawn) input) :
    Known (passed ++ emittedIds effects) after
      (withdrawn ∪ (core.sentEventIds \ after.sentEventIds)) where
  once := by
    refine known.once.append delivers.once fun eventId early late => ?_
    have out := ((delivers.emitted eventId).mp late).2
    rcases known.known eventId early with sent | gone
    · exact unsent_of_outgoing out sent
    · exact careful eventId out gone
  known eventId member := by
    rw [Finset.mem_union, Finset.mem_sdiff]
    rcases List.mem_append.mp member with early | late
    · by_cases kept : eventId ∈ after.sentEventIds
      · exact .inl kept
      · rcases known.known eventId early with sent | gone
        · exact .inr (.inr ⟨sent, kept⟩)
        · exact .inr (.inl gone)
    · have out := ((delivers.emitted eventId).mp late).2
      refine .inl ((delivers.sent eventId).mpr ⟨.inr out, ?_⟩)
      rw [(connected_of_outgoing out).2]
      exact nofun

/-- What is sent, and what has been taken out, has been passed to a socket. -/
def Passed (passed : List String) (core : WebSdkCore) (withdrawn : Finset String) : Prop :=
  ∀ eventId, eventId ∈ core.sentEventIds ∨ eventId ∈ withdrawn → eventId ∈ passed

theorem Passed.step (told : Passed passed core withdrawn)
    (delivers : Delivers options core input after effects)
    (able : ∀ index, (options.socketFactory index).emits = true) :
    Passed (passed ++ emittedIds effects) after
      (withdrawn ∪ (core.sentEventIds \ after.sentEventIds)) := by
  intro eventId found
  rw [Finset.mem_union, Finset.mem_sdiff] at found
  rw [List.mem_append]
  rcases found with sent | gone | ⟨sent, -⟩
  · obtain ⟨before | out, -⟩ := (delivers.sent eventId).mp sent
    · exact .inl (told eventId (.inl before))
    · have connected := (connected_of_outgoing out).1
      exact .inr ((delivers.emitted eventId).mpr ⟨emits_of_connected able connected, out⟩)
  · exact .inl (told eventId (.inr gone))
  · exact .inl (told eventId (.inl sent))

end Steps

section Runs

variable {core : WebSdkCore} {withdrawn : Finset String} {inputs : List Input}
  {passed : List String}

theorem Known.run (known : Known passed core withdrawn) (stays : .logoutAnswered true ∉ inputs)
    (careful : (tracking options).Admits (NotResent options) (core, withdrawn) inputs) :
    (passed ++ emittedIds ((machine options).outputs core inputs).flatten).Nodup := by
  induction inputs generalizing core withdrawn passed with
  | nil => exact (List.append_nil passed).symm ▸ known.once
  | cons input rest ih =>
    have delivers : Delivers options core input _ _ :=
      react_delivers core (List.ne_of_not_mem_cons stays).symm
    rw [Transducer.outputs_cons, List.flatten_cons, emittedIds_append, ← List.append_assoc]
    exact ih (known.step delivers careful.1) (List.not_mem_of_not_mem_cons stays) careful.2

theorem Passed.run (told : Passed passed core withdrawn) (stays : .logoutAnswered true ∉ inputs)
    (able : ∀ index, (options.socketFactory index).emits = true)
    (once : (passed ++ emittedIds ((machine options).outputs core inputs).flatten).Nodup) :
    (tracking options).Admits (NotResent options) (core, withdrawn) inputs := by
  induction inputs generalizing core withdrawn passed with
  | nil => trivial
  | cons input rest ih =>
    have delivers : Delivers options core input _ _ :=
      react_delivers core (List.ne_of_not_mem_cons stays).symm
    rw [Transducer.outputs_cons, List.flatten_cons, emittedIds_append, ← List.append_assoc] at once
    refine ⟨fun eventId out gone => ?_,
      ih (told.step delivers able) (List.not_mem_of_not_mem_cons stays) once⟩
    have emitted := (delivers.emitted eventId).mpr
      ⟨emits_of_connected able (connected_of_outgoing out).1, out⟩
    exact List.disjoint_of_nodup_append once.of_append_left (told eventId (.inr gone)) emitted

end Runs

/-- From a core that has sent nothing, until the next logout, each event is sent at most once if
no event is sent that an acknowledgement has taken out of the sent ones; and, when all sockets
have an `emit`, only if. -/
theorem sends_once_iff_not_resent (options : SdkCoreOptions) (core : WebSdkCore)
    (unsent : core.sentEventIds = ∅) (inputs : List Input) (stays : .logoutAnswered true ∉ inputs) :
    ((tracking options).Admits (NotResent options) (core, ∅) inputs →
      SendsOnce options core inputs) ∧
    ((∀ index, (options.socketFactory index).emits = true) → SendsOnce options core inputs →
      (tracking options).Admits (NotResent options) (core, ∅) inputs) := by
  constructor
  · intro careful
    have known : Known [] core ∅ := ⟨List.nodup_nil, nofun⟩
    exact known.run stays careful
  · intro able once
    have told : Passed [] core ∅ := by simp [Passed, unsent]
    exact told.run stays able once

section Sample

instance {options : SdkCoreOptions} (current : WebSdkCore × Finset String) (input : Input) :
    Decidable (NotResent options current input) :=
  inferInstanceAs (Decidable (∀ eventId ∈ outgoing options current.1 input, eventId ∉ current.2))

instance {options : SdkCoreOptions} {core : WebSdkCore} {inputs : List Input} :
    Decidable (SendsOnce options core inputs) :=
  inferInstanceAs (Decidable (List.Nodup _))

def sampleOptions : SdkCoreOptions where
  socketBaseUrl := "ws://socket:3001"
  offlineQueue := { enabled := true }
  socketFactory _ := { onDisconnect := fun _ => some (some "io client disconnect") }

def emitOnce (now : ℚ) : Input :=
  .emitSocketEvent
    { eventName := "sendMessage", payload := .object .empty, eventId := some "evt-1"
      drawnEventId := "evt_0", drawnIdempotencyKey := "idem_0", now }

def replayedOnce : List Input :=
  [.createSession, .createAnswered (.accepted ⟨"access", "refresh"⟩), emitOnce 0,
    .connectSocket .chat, .setConnected 0 true, .connectEvent 0 1]

def acknowledgement : Input :=
  .serverEvent 0 "message" (.object (.ofList [("client_event_id", .string "evt-1")]))

/-- A queued event that is emitted again after its replay is sent once. -/
theorem replayed_event_is_sent_once : SendsOnce sampleOptions (new sampleOptions [])
      (replayedOnce ++ [emitOnce 2, acknowledgement]) :=
  (sends_once_iff_not_resent sampleOptions (new sampleOptions []) rfl _ (by decide +kernel)).1
    (by decide +kernel)

/-- An event that is emitted again after its acknowledgement is sent twice. -/
theorem acknowledged_event_is_sent_again :
    ¬ ∀ (options : SdkCoreOptions) (core : WebSdkCore) (inputs : List Input),
      core.sentEventIds = ∅ → .logoutAnswered true ∉ inputs → SendsOnce options core inputs := by
  intro once
  have sent := once sampleOptions (new sampleOptions [])
    (replayedOnce ++ [acknowledgement, emitOnce 2]) rfl (by decide +kernel)
  revert sent
  decide +kernel

end Sample

end Caas.Sdk.WebSdkCore
