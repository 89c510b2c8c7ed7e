import Caas.Sdk.MethodRules

/-!
# What an input does to the events

An event is passed to a socket when it is emitted, or when the queue is replayed; then it is
one of the sent events, until it is acknowledged. `outgoing` are the events that an input
sends, and `react_delivers` says all that one input can do to the sent events.
-/

namespace Caas.Sdk

open Js Procedure OrderedMap

/-- The `client_event_id` of what is passed to a socket. -/
def Effect.emittedId : Effect → Option String
  | .emit _ _ message =>
    match get message "client_event_id" with
    | some (.string eventId) => some eventId
    | _ => none
  | _ => none

/-- The `client_event_id`s that `socket.emit` is called with. -/
def emittedIds (effects : List Effect) : List String := effects.filterMap Effect.emittedId

/-- The event of an item that the application is told it has lost. -/
def Effect.discardedId : Effect → Option String
  | .onDiscard dropped | .onQueueOverflow dropped => some dropped.eventId
  | _ => none

def discardedIds (effects : List Effect) : List String := effects.filterMap Effect.discardedId

theorem emittedIds_append (effects later : List Effect) :
    emittedIds (effects ++ later) = emittedIds effects ++ emittedIds later :=
  List.filterMap_append

theorem discardedIds_append (effects later : List Effect) :
    discardedIds (effects ++ later) = discardedIds effects ++ discardedIds later :=
  List.filterMap_append

namespace WebSdkCore

variable {options : SdkCoreOptions}

/-- The socket has an `emit`. -/
def emits (options : SdkCoreOptions) (core : WebSdkCore) : Bool :=
  core.socket.any fun index => (options.socketFactory index).emits

/-- The item would be sent by a replay. -/
def Unsent (core : WebSdkCore) (items : List OfflineQueueItem) (eventId : String) : Prop :=
  eventId ∉ core.sentEventIds ∧ ∃ item ∈ items, item.eventId = eventId

theorem get_outboundMessage (payload : Payload) (eventId key : String) :
    get (outboundMessage payload eventId key) "client_event_id" =
      some (.string eventId) := by
  unfold outboundMessage
  rw [get_set_of_ne _ _ (by decide), get_set_self]

/-- The ids are sent, once each, by the socket if it has an `emit`. -/
structure Sends (options : SdkCoreOptions) (sends : String → Prop) (before after : WebSdkCore)
    (effects : List Effect) : Prop where
  socket : after.socket = before.socket
  queue : after.offlineQueue = before.offlineQueue
  sent : ∀ eventId, eventId ∈ after.sentEventIds ↔ eventId ∈ before.sentEventIds ∨ sends eventId
  emitted : ∀ eventId, eventId ∈ emittedIds effects ↔ emits options before = true ∧ sends eventId
  once : (emittedIds effects).Nodup
  discarded : discardedIds effects = []

theorem Sends.congr {sends sends' : String → Prop} {before after : WebSdkCore}
    {effects : List Effect} (sent : Sends options sends before after effects)
    (same : ∀ eventId, sends eventId ↔ sends' eventId) :
    Sends options sends' before after effects := by
  obtain rfl : sends = sends' := funext fun eventId => propext (same eventId)
  exact sent

theorem Sends.append {sends sends' : String → Prop} {before after final : WebSdkCore}
    {effects later : List Effect} (first : Sends options sends before after effects)
    (second : Sends options sends' after final later)
    (unsent : ∀ eventId, sends' eventId → eventId ∉ after.sentEventIds) :
    Sends options (fun eventId => sends eventId ∨ sends' eventId) before final
      (effects ++ later) where
  socket := second.socket.trans first.socket
  queue := second.queue.trans first.queue
  sent eventId := by rw [second.sent, first.sent, or_assoc]
  emitted eventId := by
    have same : emits options after = emits options before := by rw [emits, emits, first.socket]
    rw [emittedIds_append, List.mem_append, first.emitted, second.emitted, same, and_or_left]
  once := by
    rw [emittedIds_append]
    refine first.once.append second.once fun eventId early late => ?_
    exact unsent eventId ((second.emitted eventId).mp late).2
      ((first.sent eventId).mpr (.inr ((first.emitted eventId).mp early).2))
  discarded := by
    rw [discardedIds_append, first.discarded, second.discarded, List.append_nil]

theorem sends_nothing (core : WebSdkCore) {effects : List Effect} (none : emittedIds effects = [])
    (kept : discardedIds effects = []) : Sends options (fun _ => False) core core effects where
  socket := rfl
  queue := rfl
  sent eventId := (or_false _).symm.to_iff
  emitted eventId := by simp [none]
  once := by simp [none]
  discarded := kept

theorem socketEmit_eq (core : WebSdkCore) (eventName : String) (message : Record) :
    socketEmit options eventName message core =
      (core, if emits options core then [.emit (core.socket.getD 0) eventName message]
        else []) := by
  unfold socketEmit emits
  cases core.socket with
  | none => rfl
  | some index =>
    simp only [Option.any_some, Option.getD_some]
    cases (options.socketFactory index).emits <;> rfl

theorem send_eq (core : WebSdkCore) (eventId eventName : String) (message : Record) :
    send options eventId eventName message core =
      ({ core with sentEventIds := insert eventId core.sentEventIds },
        if emits options core then [.emit (core.socket.getD 0) eventName message] else []) := by
  simp only [send, inOrder, edit, skip, socketEmit_eq, List.nil_append, List.append_nil]
  rfl

theorem sends_send {core : WebSdkCore} {eventId eventName : String} {message : Record}
    (carries : get message "client_event_id" = some (.string eventId)) :
    Sends options (· = eventId) core (send options eventId eventName message core).1
      (send options eventId eventName message core).2 := by
  rw [send_eq]
  have told : emittedIds (if emits options core then
      [Effect.emit (core.socket.getD 0) eventName message] else []) =
        if emits options core then [eventId] else [] := by
    split
    · simp [emittedIds, Effect.emittedId, carries]
    · rfl
  refine ⟨rfl, rfl, fun other => ?_, fun other => ?_, ?_, ?_⟩
  · rw [Finset.mem_insert, or_comm]
  · rw [told]
    split
    · next able => simp [able]
    · next able => simp [able]
  · rw [told]
    split <;> simp
  · split <;> rfl

theorem replay_sent {item : OfflineQueueItem} {core : WebSdkCore}
    (sent : item.eventId ∈ core.sentEventIds) :
    (replay options item core).1 = core ∧ emittedIds (replay options item core).2 = [] ∧
      discardedIds (replay options item core).2 = [] := by
  unfold replay
  rw [if_pos sent]
  cases options.offlineQueue.onReplayConflict <;> exact ⟨rfl, rfl, rfl⟩

theorem sends_replay_item {item : OfflineQueueItem} {core : WebSdkCore}
    (unsent : item.eventId ∉ core.sentEventIds) :
    Sends options (· = item.eventId) core (replay options item core).1
      (replay options item core).2 := by
  unfold replay
  rw [if_neg unsent]
  exact sends_send (by rw [get_set_of_ne _ _ (by decide), get_outboundMessage])

theorem sends_replay (items : List OfflineQueueItem) (core : WebSdkCore) :
    Sends options (Unsent core items) core (inOrder (items.map (replay options)) core).1
      (inOrder (items.map (replay options)) core).2 := by
  induction items generalizing core with
  | nil =>
    refine (sends_nothing core rfl rfl).congr fun eventId => ?_
    simp [Unsent]
  | cons item rest ih =>
    by_cases sent : item.eventId ∈ core.sentEventIds
    · obtain ⟨same, quiet⟩ := replay_sent sent
      have first : Sends options (fun _ => False) core (replay options item core).1
          (replay options item core).2 := by
        rw [same]
        exact sends_nothing core quiet.1 quiet.2
      refine (first.append (ih _) fun eventId unsent => unsent.1).congr fun eventId => ?_
      rw [same, false_or]
      constructor
      · rintro ⟨unsent, other, member, rfl⟩
        exact ⟨unsent, other, List.mem_cons_of_mem item member, rfl⟩
      · rintro ⟨unsent, other, member, rfl⟩
        rcases List.mem_cons.mp member with rfl | member
        · exact (unsent sent).elim
        · exact ⟨unsent, other, member, rfl⟩
    · have first : Sends options _ core _ _ := sends_replay_item sent
      refine (first.append (ih _) fun eventId unsent => unsent.1).congr fun eventId => ?_
      simp only [Unsent, first.sent, not_or, List.mem_cons]
      constructor
      · rintro (rfl | ⟨⟨unsent, -⟩, other, member, rfl⟩)
        · exact ⟨sent, item, .inl rfl, rfl⟩
        · exact ⟨unsent, other, .inr member, rfl⟩
      · rintro ⟨unsent, other, rfl | member, rfl⟩
        · exact .inl rfl
        · by_cases same : other.eventId = item.eventId
          · exact .inl same
          · exact .inr ⟨⟨unsent, same⟩, other, member, rfl⟩

theorem emittedIds_eq_nil {effects : List Effect}
    (quiet : ∀ effect ∈ effects, effect.delivers = false) : emittedIds effects = [] := by
  refine List.filterMap_eq_nil_iff.mpr fun effect member => ?_
  have kept := quiet effect member
  cases effect with
  | emit => cases kept
  | _ => rfl

theorem discardedIds_eq_nil {effects : List Effect}
    (quiet : ∀ effect ∈ effects, effect.delivers = false) : discardedIds effects = [] := by
  refine List.filterMap_eq_nil_iff.mpr fun effect member => ?_
  have kept := quiet effect member
  cases effect with
  | onDiscard | onQueueOverflow => cases kept
  | _ => rfl

theorem delivers_of_calm {effect : Effect} (calm : effect.calm = true) :
    (!effect.delivers) = true := by
  simp only [Effect.calm, Bool.and_eq_true] at calm
  exact calm.1

abbrev KeepsEvents (procedure : SdkProcedure) : Prop :=
  Keeps (Leaves fun effect => !effect.delivers) procedure

theorem IsCalm.keepsEvents {procedure : SdkProcedure} (calm : IsCalm procedure) :
    KeepsEvents procedure :=
  fun core => (calm core).mono fun _ => delivers_of_calm

theorem keepsEvents_openSocket (socketNamespace : SocketNamespace) (token : String) :
    KeepsEvents (openSocket options socketNamespace token) :=
  fun _ => ⟨rfl, rfl, by simp [openSocket, inOrder, does, edit, skip, Effect.delivers]⟩

theorem keepsEvents_connectSocket (socketNamespace : SocketNamespace) :
    KeepsEvents (connectSocket options socketNamespace) :=
  keeps_connectSocket (leaves_course _) socketNamespace (calm_transition _).keepsEvents
    (IsCalm.keepsEvents (calm_does rfl)) (fun _ => leaves_silently rfl rfl)
    (calm_transition _).keepsEvents calm_dropSocket.keepsEvents (keepsEvents_openSocket _)

theorem keepsEvents_onTimer : KeepsEvents (onTimer options) :=
  keeps_onTimer (leaves_course _) calm_clearReconnectTimer.keepsEvents keepsEvents_connectSocket

def touchesEvents : Input → Bool
  | .emitSocketEvent _ | .connectEvent _ _ | .serverEvent _ _ _ | .logoutAnswered true => true
  | _ => false

theorem react_keepsEvents {input : Input} (idle : touchesEvents input = false) :
    KeepsEvents (react options input) := by
  cases input with
  | emitSocketEvent | connectEvent | serverEvent => cases idle
  | connectSocket socketNamespace => exact keepsEvents_connectSocket socketNamespace
  | disconnectSocket => exact calm_disconnectSocket.keepsEvents
  | createSession => exact calm_createSession.keepsEvents
  | createAnswered answer => exact (calm_createAnswered answer).keepsEvents
  | refreshSession => exact calm_refreshSession.keepsEvents
  | refreshAnswered answer => exact (calm_refreshAnswered answer).keepsEvents
  | logoutSession => exact calm_logoutSession.keepsEvents
  | logoutAnswered ok =>
    cases ok with
    | true => cases idle
    | false => exact calm_logoutRefused.keepsEvents
  | timer => exact keepsEvents_onTimer
  | setConnected index connected => exact (calm_setConnected index connected).keepsEvents
  | disconnectEvent index reason =>
    exact (calm_listener index fun _ => calm_onDisconnect _ reason).keepsEvents
  | connectErrorEvent index message =>
    exact (calm_listener index fun _ => calm_onConnectError message).keepsEvents

/-- The events that an input sends over a socket. -/
def outgoing (options : SdkCoreOptions) (core : WebSdkCore) : Input → List String
  | .emitSocketEvent call =>
    if allowlisted options call.eventName && call.chosenEventId ∉ core.sentEventIds &&
      core.isConnected then [call.chosenEventId] else []
  | .connectEvent index now =>
    if core.sockets[index]?.isSome && core.isConnected then
      ((core.offlineQueue.filter (replayable options now)).map (·.eventId)).filter
        (· ∉ core.sentEventIds)
    else []
  | _ => []

/-- The event that an input takes out of the sent ones. -/
def acknowledged (core : WebSdkCore) : Input → Option String
  | .serverEvent index eventName payload =>
    (core.sockets[index]?.bind fun socket =>
      if eventName ∈ DEFAULT_SOCKET_EVENT_MAP socket.socketNamespace then clientEventId payload
      else none).filter (· ∉ core.acknowledgedEventIds)
  | _ => none

section Outgoing

variable {core : WebSdkCore} {input : Input} {eventId : String}

theorem mem_outgoing_emitSocketEvent {call : EmitCall} :
    eventId ∈ outgoing options core (.emitSocketEvent call) ↔
      (allowlisted options call.eventName = true ∧ call.chosenEventId ∉ core.sentEventIds ∧
        core.isConnected = true) ∧ eventId = call.chosenEventId := by
  simp only [outgoing]
  split
  · next sends => simp_all
  · next idle => simp_all

theorem mem_outgoing_connectEvent {index : Nat} {now : ℚ} :
    eventId ∈ outgoing options core (.connectEvent index now) ↔
      (core.sockets[index]?.isSome = true ∧ core.isConnected = true) ∧
        core.Unsent (core.offlineQueue.filter (replayable options now)) eventId := by
  simp only [outgoing, Bool.and_eq_true]
  split
  · next sends => simp [sends, Unsent, and_comm]
  · next idle => exact ⟨nofun, fun both => (idle both.1).elim⟩

theorem unsent_of_outgoing (out : eventId ∈ outgoing options core input) :
    eventId ∉ core.sentEventIds := by
  cases input with
  | emitSocketEvent call =>
    obtain ⟨⟨-, unsent, -⟩, rfl⟩ := mem_outgoing_emitSocketEvent.mp out
    exact unsent
  | connectEvent index now => exact (mem_outgoing_connectEvent.mp out).2.1
  | _ => cases out

theorem connected_of_outgoing (out : eventId ∈ outgoing options core input) :
    core.isConnected = true ∧ core.acknowledged input = none := by
  cases input with
  | emitSocketEvent call => exact ⟨(mem_outgoing_emitSocketEvent.mp out).1.2.2, rfl⟩
  | connectEvent index now => exact ⟨(mem_outgoing_connectEvent.mp out).1.2, rfl⟩
  | _ => cases out

end Outgoing

structure Delivers (options : SdkCoreOptions) (core : WebSdkCore) (input : Input)
    (after : WebSdkCore) (effects : List Effect) : Prop where
  sent : ∀ eventId, eventId ∈ after.sentEventIds ↔
    (eventId ∈ core.sentEventIds ∨ eventId ∈ outgoing options core input) ∧
      core.acknowledged input ≠ some eventId
  emitted : ∀ eventId, eventId ∈ emittedIds effects ↔
    emits options core = true ∧ eventId ∈ outgoing options core input
  once : (emittedIds effects).Nodup

def SendsNone (before after : WebSdkCore) (effects : List Effect) : Prop :=
  after.sentEventIds = before.sentEventIds ∧ emittedIds effects = []

theorem sendsNone_course : Course SendsNone where
  nothing _ := ⟨rfl, rfl⟩
  sequel first later := by
    refine ⟨later.1.trans first.1, ?_⟩
    rw [emittedIds_append, first.2, later.2, List.append_nil]

theorem Leaves.sendsNone {before after : WebSdkCore} {effects : List Effect}
    (leaves : Leaves (fun effect => !effect.delivers) before after effects) :
    SendsNone before after effects :=
  ⟨leaves.sent, emittedIds_eq_nil fun effect member => by simpa using leaves.effects effect member⟩

theorem SendsNone.delivers {core after : WebSdkCore} {effects : List Effect} {input : Input}
    (unsent : SendsNone core after effects) (none : outgoing options core input = [])
    (unread : core.acknowledged input = .none) :
    Delivers options core input after effects := by
  refine ⟨fun eventId => ?_, fun eventId => ?_, ?_⟩
  · simp [none, unread, unsent.1]
  · simp [unsent.2, none]
  · simp [unsent.2]

theorem KeepsEvents.delivers {procedure : SdkProcedure} {input : Input}
    (keeps : KeepsEvents procedure) (core : WebSdkCore) (none : outgoing options core input = [])
    (unread : core.acknowledged input = .none) :
    Delivers options core input (procedure core).1 (procedure core).2 :=
  (keeps core).sendsNone.delivers none unread

theorem sendsNone_discard (item : OfflineQueueItem) : Keeps SendsNone (discard options item) :=
  keeps_discard sendsNone_course item (fun _ => ⟨rfl, rfl⟩) fun _ => ⟨rfl, rfl⟩

theorem sendsNone_enqueueOfflineEvent (item : OfflineQueueItem) :
    Keeps SendsNone (enqueueOfflineEvent options item) :=
  keeps_enqueueOfflineEvent sendsNone_course item sendsNone_discard fun _ _ => ⟨rfl, rfl⟩

theorem emitSocketEvent_delivers (core : WebSdkCore) (call : EmitCall) :
    Delivers options core (.emitSocketEvent call) (emitSocketEvent options call core).1
      (emitSocketEvent options call core).2 := by
  have course := sendsNone_course
  unfold emitSocketEvent
  split
  · next refused => exact SendsNone.delivers ⟨rfl, rfl⟩ (by simp [outgoing, refused]) rfl
  split
  · next sent => exact SendsNone.delivers ⟨rfl, rfl⟩ (by simp [outgoing, sent]) rfl
  split
  · next offline =>
    refine SendsNone.delivers ?_ (by simp [outgoing, offline]) rfl
    refine course.keeps_cons (fun core => ((calm_transition _).keepsEvents core).sendsNone)
      (course.keeps_cons ?_ course.keeps_nil) core
    split
    · exact sendsNone_enqueueOfflineEvent _
    · exact fun _ => ⟨rfl, rfl⟩
  · next allowed unsent connected =>
    have sends := @sends_send options core call.chosenEventId call.eventName _
      (get_outboundMessage call.payload call.chosenEventId call.chosenIdempotencyKey)
    have out : outgoing options core (.emitSocketEvent call) = [call.chosenEventId] := by
      simp [outgoing, allowed, unsent, connected]
    refine ⟨fun eventId => ?_, fun eventId => ?_, sends.once⟩
    · rw [sends.sent, out, List.mem_singleton]
      exact (and_iff_left nofun).symm
    · rw [sends.emitted, out, List.mem_singleton]

/-- The core when the listener for `connect` comes to the queue. -/
def greeted (core : WebSdkCore) : WebSdkCore :=
  { core with
    reconnectTimer := false
    state := (transitions core.state .connect).getD core.state }

theorem onConnect_eq (core : WebSdkCore) (socketNamespace : SocketNamespace) (now : ℚ) :
    onConnect options socketNamespace now core = ((flushOfflineQueue options now core.greeted).1,
        (transition .connect core).2 ++ .socketConnected socketNamespace ::
          (flushOfflineQueue options now core.greeted).2) := by
  simp only [onConnect, inOrder, clearReconnectTimer, edit, does, skip, transition, greeted,
    List.nil_append, List.append_nil, List.singleton_append]
  rfl

theorem flush_eq {core : WebSdkCore} (connected : core.isConnected = true) (now : ℚ) :
    flushOfflineQueue options now core =
      inOrder ((core.offlineQueue.filter (replayable options now)).map (replay options))
        { core with offlineQueue := [] } := by
  unfold flushOfflineQueue
  rw [if_neg (by simp [connected])]
  rfl

theorem onConnect_quiet (core : WebSdkCore) (socketNamespace : SocketNamespace) :
    ∀ effect ∈ (transition .connect core).2 ++ [.socketConnected socketNamespace],
      effect.delivers = false := by
  intro effect member
  rcases List.mem_append.mp member with moved | told
  · simpa using delivers_of_calm ((calm_transition .connect core).effects effect moved)
  · cases List.mem_singleton.mp told
    rfl

theorem onConnect_delivers (core : WebSdkCore) {index : Nat} {socket : SdkSocket}
    (present : core.sockets[index]? = some socket) (now : ℚ) :
    Delivers options core (.connectEvent index now)
      (onConnect options socket.socketNamespace now core).1
      (onConnect options socket.socketNamespace now core).2 := by
  have quiet := emittedIds_eq_nil (onConnect_quiet core socket.socketNamespace)
  have told (effects : List Effect) : emittedIds ((transition .connect core).2 ++
      .socketConnected socket.socketNamespace :: effects) = emittedIds effects := by
    rw [List.append_cons, emittedIds_append, quiet, List.nil_append]
  rw [onConnect_eq]
  cases connected : core.isConnected with
  | false =>
    have idle : flushOfflineQueue options now core.greeted = (core.greeted, []) := if_pos connected
    rw [idle]
    exact SendsNone.delivers ⟨rfl, told []⟩ (by simp [outgoing, connected]) rfl
  | true =>
    have connected' : core.greeted.isConnected = true := connected
    rw [flush_eq connected']
    have sends := @sends_replay options (core.greeted.offlineQueue.filter (replayable options now))
      { core.greeted with offlineQueue := [] }
    have out (eventId : String) : eventId ∈ outgoing options core (.connectEvent index now) ↔
        core.Unsent (core.offlineQueue.filter (replayable options now)) eventId := by
      simp only [outgoing, present, connected, Option.isSome_some, Bool.and_self, if_true,
        List.mem_filter, List.mem_map, decide_eq_true_eq, Unsent]
      exact and_comm
    refine ⟨fun eventId => ?_, fun eventId => ?_, ?_⟩
    · rw [out]
      exact (sends.sent eventId).trans (and_iff_left nofun).symm
    · rw [out, told]
      exact sends.emitted eventId
    · rw [told]
      exact sends.once

theorem calm_acknowledge (options : SdkCoreOptions) {core : WebSdkCore} {eventId : String}
    (known : eventId ∈ core.acknowledgedEventIds) (socketNamespace : SocketNamespace) :
    Leaves Effect.calm core (acknowledge options socketNamespace eventId core).1
      (acknowledge options socketNamespace eventId core).2 := by
  unfold acknowledge
  rw [if_pos known]
  refine calm_cons ?_ (calm_cons (calm_does rfl) (calm_cons (calm_does rfl) calm_nil)) core
  exact (leaves_course _).keeps_doesWhen (calm_does rfl)

theorem calm_reportEvent (socketNamespace : SocketNamespace) (eventName : String)
    (payload : Payload) : IsCalm (reportEvent options socketNamespace eventName payload) :=
  calm_cons (calm_handleSequenceProgress _ payload) (calm_cons (calm_does rfl) calm_nil)

theorem sendsNone_reportEvent (socketNamespace : SocketNamespace) (eventName : String)
    (payload : Payload) (conflict : Bool) :
    Keeps SendsNone (inOrder [if conflict then skip
      else reportEvent options socketNamespace eventName payload]) := by
  refine sendsNone_course.keeps_cons (fun core => ?_) sendsNone_course.keeps_nil
  split
  · exact sendsNone_course.nothing core
  · exact ((calm_reportEvent _ _ _).keepsEvents core).sendsNone

theorem handleReplayConflict_of_some {payload : Payload} {eventId : String}
    (about : clientEventId payload = some eventId) (socketNamespace : SocketNamespace) :
    handleReplayConflict options socketNamespace payload =
      acknowledge options socketNamespace eventId := by
  unfold handleReplayConflict
  rw [about]

theorem acknowledge_first (options : SdkCoreOptions) {core : WebSdkCore} {eventId : String}
    (unknown : eventId ∉ core.acknowledgedEventIds) (socketNamespace : SocketNamespace) :
    acknowledge options socketNamespace eventId core =
      ({ core with
        acknowledgedEventIds := insert eventId core.acknowledgedEventIds
        sentEventIds := core.sentEventIds.erase eventId }, []) := if_neg unknown

theorem onServerEvent_delivers (core : WebSdkCore) {index : Nat} {socket : SdkSocket}
    (present : core.sockets[index]? = some socket) (eventName : String) (payload : Payload) :
    Delivers options core (.serverEvent index eventName payload)
      (onServerEvent options socket.socketNamespace eventName payload core).1
      (onServerEvent options socket.socketNamespace eventName payload core).2 := by
  have report := @sendsNone_reportEvent options socket.socketNamespace eventName payload
    (core.conflicts payload)
  unfold onServerEvent
  split
  · next known =>
    cases about : clientEventId payload with
    | none =>
      have idle : handleReplayConflict options socket.socketNamespace payload = skip := by
        unfold handleReplayConflict
        rw [about]
      refine SendsNone.delivers ?_ rfl (by simp [acknowledged, present, about])
      rw [idle]
      exact report core
    | some eventId =>
      rw [handleReplayConflict_of_some about]
      by_cases twice : eventId ∈ core.acknowledgedEventIds
      · refine SendsNone.delivers ?_ rfl
          (by simp [acknowledged, present, known, about, Option.filter_some, twice])
        have quiet := (calm_acknowledge options twice socket.socketNamespace).mono
          fun _ => delivers_of_calm
        have conflict : SendsNone core _ _ := quiet.sendsNone
        exact sendsNone_course.sequel conflict (report _)
      · have taken : core.acknowledged (.serverEvent index eventName payload) = some eventId := by
          simp [acknowledged, present, known, about, Option.filter_some, twice]
        rw [inOrder_cons, acknowledge_first options twice]
        obtain ⟨sent, quiet⟩ := report _
        refine ⟨fun other => ?_, fun other => ?_, ?_⟩
        · rw [sent, taken, Finset.mem_erase, and_comm]
          simp [outgoing, eq_comm]
        · simp [quiet, outgoing]
        · simp [quiet]
  · next unknown =>
    exact SendsNone.delivers ⟨rfl, rfl⟩ rfl (by simp [acknowledged, present, unknown])

theorem react_delivers {input : Input} (core : WebSdkCore) (stays : input ≠ .logoutAnswered true) :
    Delivers options core input (react options input core).1 (react options input core).2 := by
  cases kind : touchesEvents input with
  | false =>
    refine (react_keepsEvents kind).delivers core ?_ ?_
    · cases input with
      | emitSocketEvent | connectEvent => cases kind
      | _ => rfl
    · cases input with
      | serverEvent => cases kind
      | _ => rfl
  | true =>
    cases input with
    | emitSocketEvent call => exact emitSocketEvent_delivers core call
    | connectEvent index now =>
      change Delivers options core _ (listener index _ core).1 (listener index _ core).2
      unfold listener
      split
      · next absent => exact SendsNone.delivers ⟨rfl, rfl⟩ (by simp [outgoing, absent]) rfl
      · next present => exact onConnect_delivers core present now
    | serverEvent index eventName payload =>
      change Delivers options core _ (listener index _ core).1 (listener index _ core).2
      unfold listener
      split
      · next absent => exact SendsNone.delivers ⟨rfl, rfl⟩ rfl (by simp [acknowledged, absent])
      · next present => exact onServerEvent_delivers core present eventName payload
    | logoutAnswered ok =>
      cases ok with
      | true => exact (stays rfl).elim
      | false => cases kind
    | _ => cases kind

end WebSdkCore

end Caas.Sdk
