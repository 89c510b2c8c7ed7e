import Caas.Sdk.SentEvents

/-!
# What becomes of an event that is accepted

An accepted event is passed to a socket, or queued, or the application is told of it. The
queue loses events in two ways without a word: one that is too old when the queue is
replayed, and one that a full queue drops when the application has given no callback.
-/

namespace Caas.Sdk

open Procedure

def Effect.isError : Effect → Bool
  | .error _ _ => true
  | _ => false

namespace WebSdkCore

variable {options : SdkCoreOptions}

def Queued (eventId : String) (core : WebSdkCore) : Prop :=
  ∃ item ∈ core.offlineQueue, item.eventId = eventId

/-- The event has been passed to a socket, or the application has been told that it is
dropped. -/
def Settled (eventId : String) (effects : List Effect) : Prop :=
  eventId ∈ emittedIds effects ∨ eventId ∈ discardedIds effects

/-- The application is told of items that are dropped. -/
def reportsDrops (options : SdkCoreOptions) : Bool :=
  options.offlineQueue.onDiscard || options.offlineQueue.onQueueOverflow

def queueItem (call : EmitCall) : OfflineQueueItem :=
  ⟨call.chosenEventId, call.eventName, call.payload, call.now, call.chosenIdempotencyKey⟩

def Enqueues (options : SdkCoreOptions) (core : WebSdkCore) (call : EmitCall) : Prop :=
  allowlisted options call.eventName = true ∧ call.chosenEventId ∉ core.sentEventIds ∧
    core.isConnected = false ∧
      (call.allowOfflineQueue.getD true && options.offlineQueue.enabled) = true

def Full (options : SdkCoreOptions) (core : WebSdkCore) : Prop :=
  maxItems options ≤ core.offlineQueue.length

/-- A full queue drops the new item. -/
def DropsNewest (options : SdkCoreOptions) : Prop :=
  options.offlineQueue.discardPolicy.getD .dropOldest = .dropNewest

section Queue

variable {core : WebSdkCore} {item : OfflineQueueItem} {eventId : String}

theorem discard_state (item : OfflineQueueItem) (core : WebSdkCore) :
    (discard options item core).1 = core := by
  unfold discard
  cases options.offlineQueue.onDiscard <;> cases options.offlineQueue.onQueueOverflow <;> rfl

theorem mem_discard : eventId ∈ discardedIds (discard options item core).2 ↔
    reportsDrops options = true ∧ item.eventId = eventId := by
  unfold discard reportsDrops
  cases options.offlineQueue.onDiscard <;> cases options.offlineQueue.onQueueOverflow <;>
    simp [inOrder, doesWhen, does, skip, discardedIds, Effect.discardedId, eq_comm]

inductive Enqueued (options : SdkCoreOptions) (queue : List OfflineQueueItem)
    (item : OfflineQueueItem) (after : List OfflineQueueItem) (discarded : String → Prop) : Prop
  | added (room : ¬ maxItems options ≤ queue.length) (same : after = queue ++ [item])
      (none : ∀ eventId, ¬ discarded eventId)
  | refused (full : maxItems options ≤ queue.length) (newest : DropsNewest options)
      (same : after = queue)
      (told : ∀ eventId, discarded eventId ↔ reportsDrops options = true ∧ item.eventId = eventId)
  | shifted (full : maxItems options ≤ queue.length) (oldest : ¬ DropsNewest options)
      (same : after = queue.tail ++ [item])
      (told : ∀ eventId, discarded eventId ↔
        reportsDrops options = true ∧ ∃ dropped ∈ queue.head?, dropped.eventId = eventId)

theorem enqueueOfflineEvent_enqueued (core : WebSdkCore) (item : OfflineQueueItem) :
    Enqueued options core.offlineQueue item (enqueueOfflineEvent options item core).1.offlineQueue
      (· ∈ discardedIds (enqueueOfflineEvent options item core).2) := by
  unfold enqueueOfflineEvent
  split
  · next full =>
    split
    · next newest =>
      refine .refused full newest ?_ fun eventId => mem_discard
      rw [discard_state]
    · next oldest =>
      cases queue : core.offlineQueue with
      | nil =>
        refine .shifted (queue ▸ full) oldest ?_ fun eventId => ?_
        · simp [inOrder, edit, skip, queue]
        · simp [inOrder, edit, skip, discardedIds]
      | cons dropped rest =>
        refine .shifted (queue ▸ full) oldest ?_ fun eventId => ?_
        · simp [inOrder, edit, skip, queue, discard_state]
        · simp [inOrder, edit, skip, mem_discard]
  · next room => exact .added room rfl fun _ => List.not_mem_nil

end Queue

section Steps

variable {core : WebSdkCore} {eventId : String}

def KeepsQueue (before after : WebSdkCore) (_effects : List Effect) : Prop :=
  after.offlineQueue = before.offlineQueue

theorem keepsQueue_course : Course KeepsQueue :=
  ⟨fun _ => rfl, fun first later => later.trans first⟩

theorem KeepsEvents.keepsQueue {procedure : SdkProcedure} (keeps : KeepsEvents procedure) :
    Keeps KeepsQueue procedure := fun core => (keeps core).queue

theorem emitSocketEvent_of_enqueues {call : EmitCall} (enqueues : Enqueues options core call) :
    emitSocketEvent options call core =
      inOrder [transition .degrade, enqueueOfflineEvent options (queueItem call)] core := by
  obtain ⟨allowed, unsent, offline, queues⟩ := enqueues
  unfold emitSocketEvent
  rw [if_neg (by simp [allowed]), if_neg unsent, if_pos offline, if_pos queues]
  rfl

theorem emitSocketEvent_enqueued {call : EmitCall} (enqueues : Enqueues options core call) :
    Enqueued options core.offlineQueue (queueItem call)
      (emitSocketEvent options call core).1.offlineQueue
      (· ∈ discardedIds (emitSocketEvent options call core).2) := by
  have moved := (calm_transition .degrade).keepsEvents core
  have quiet : discardedIds (transition .degrade core).2 = [] :=
    discardedIds_eq_nil fun effect member => by simpa using moved.effects effect member
  have enqueued : Enqueued options _ _ _ _ :=
    enqueueOfflineEvent_enqueued (transition .degrade core).1 (queueItem call)
  rw [emitSocketEvent_of_enqueues enqueues]
  simp only [inOrder, skip, List.append_nil, discardedIds_append, quiet, List.nil_append]
  exact moved.queue ▸ enqueued

theorem emitSocketEvent_keepsQueue {call : EmitCall} (other : ¬ Enqueues options core call) :
    KeepsQueue core (emitSocketEvent options call core).1
      (emitSocketEvent options call core).2 := by
  have course := keepsQueue_course
  unfold emitSocketEvent
  split
  · rfl
  split
  · rfl
  next allowed unsent =>
  split
  · next offline =>
    have unqueued : ¬ (call.allowOfflineQueue.getD true && options.offlineQueue.enabled) = true :=
      fun queues => other ⟨by simpa using allowed, unsent, offline, queues⟩
    rw [if_neg unqueued]
    exact course.keeps_cons (calm_transition _).keepsEvents.keepsQueue
      (course.keeps_cons (by intro; rfl) course.keeps_nil) core
  · rw [send_eq]
    rfl

theorem onConnect_clears (connected : core.isConnected = true) (socketNamespace : SocketNamespace)
    (now : ℚ) : (onConnect options socketNamespace now core).1.offlineQueue = [] ∧
      discardedIds (onConnect options socketNamespace now core).2 = [] := by
  have connected' : core.greeted.isConnected = true := connected
  have sends := @sends_replay options (core.greeted.offlineQueue.filter (replayable options now))
    { core.greeted with offlineQueue := [] }
  rw [onConnect_eq, flush_eq connected', List.append_cons, discardedIds_append, sends.discarded,
    discardedIds_eq_nil (onConnect_quiet core socketNamespace)]
  exact ⟨sends.queue, rfl⟩

theorem onServerEvent_keepsQueue (socketNamespace : SocketNamespace) (eventName : String)
    (payload : Payload) :
    Keeps KeepsQueue (onServerEvent options socketNamespace eventName payload) := by
  have acknowledges (eventId : String) :
      Keeps KeepsQueue (acknowledge options socketNamespace eventId) :=
    keeps_acknowledge keepsQueue_course eventId (fun _ _ => rfl) (fun _ => rfl) (fun _ => rfl)
      fun _ _ _ => rfl
  exact keeps_onServerEvent keepsQueue_course eventName
    (keeps_handleReplayConflict keepsQueue_course acknowledges)
    (calm_reportEvent socketNamespace eventName payload).keepsEvents.keepsQueue

/-- The input drops the last item of the event, and the application is not told. -/
def Loses (options : SdkCoreOptions) (eventId : String) (core : WebSdkCore) : Input → Prop
  | .emitSocketEvent call =>
    Enqueues options core call ∧ Full options core ∧ ¬ DropsNewest options ∧
      reportsDrops options = false ∧ call.chosenEventId ≠ eventId ∧
        ∀ item ∈ core.offlineQueue.tail, item.eventId ≠ eventId
  | .connectEvent index now =>
    (core.sockets[index]?.isSome = true ∧ core.isConnected = true) ∧
      ¬ (emits options core = true ∧
        core.Unsent (core.offlineQueue.filter (replayable options now)) eventId)
  | _ => False

theorem not_emitted_of_offline {call : EmitCall} (offline : core.isConnected = false) :
    eventId ∉ emittedIds (emitSocketEvent options call core).2 := by
  intro emitted
  have out := ((emitSocketEvent_delivers core call).emitted eventId).mp emitted
  have connected := (connected_of_outgoing out.2).1
  rw [offline] at connected
  cases connected

theorem accounted_of_keepsQueue {procedure : SdkProcedure} (queued : Queued eventId core)
    (keeps : Keeps KeepsQueue procedure) :
    Settled eventId (procedure core).2 ∨ Queued eventId (procedure core).1 := by
  obtain ⟨item, member, same⟩ := queued
  exact .inr ⟨item, (keeps core).symm ▸ member, same⟩

/-- When the first item makes room for a new one, an event of the queue is reported or kept,
unless its last item is dropped without a report. -/
theorem reported_or_kept_iff {queue : List OfflineQueueItem} {item new : OfflineQueueItem}
    {reported : Prop} (member : item ∈ queue) (told : reported ↔ reportsDrops options = true ∧
      ∃ dropped ∈ queue.head?, dropped.eventId = item.eventId) :
    (reported ∨ ∃ other ∈ queue.tail ++ [new], other.eventId = item.eventId) ↔
      ¬ (reportsDrops options = false ∧ new.eventId ≠ item.eventId ∧
        ∀ other ∈ queue.tail, other.eventId ≠ item.eventId) := by
  constructor
  · rintro (reported | ⟨other, remains, about⟩) ⟨silent, unlike, others⟩
    · have reports := (told.mp reported).1
      rw [silent] at reports
      cases reports
    · rcases List.mem_append.mp remains with kept | added
      · exact others other kept about
      · cases List.mem_singleton.mp added
        exact unlike about
  · intro kept
    by_contra lost
    obtain ⟨unreported, gone⟩ := not_or.mp lost
    have unlike : new.eventId ≠ item.eventId := fun about =>
      gone ⟨new, List.mem_append_right _ List.mem_cons_self, about⟩
    have others (other : OfflineQueueItem) (remains : other ∈ queue.tail) :
        other.eventId ≠ item.eventId := fun about =>
      gone ⟨other, List.mem_append_left _ remains, about⟩
    have reports : reportsDrops options = true := by
      by_contra silent
      exact kept ⟨Bool.eq_false_of_not_eq_true silent, unlike, others⟩
    -- The item that is dropped is the item in question.
    cases queue with
    | nil => cases member
    | cons first rest =>
      rcases List.mem_cons.mp member with rfl | later
      · exact unreported (told.mpr ⟨reports, item, rfl, rfl⟩)
      · exact others item later rfl

theorem accounted_emitSocketEvent (queued : Queued eventId core) (call : EmitCall) :
    Settled eventId (emitSocketEvent options call core).2 ∨
        Queued eventId (emitSocketEvent options call core).1 ↔
      ¬ Loses options eventId core (.emitSocketEvent call) := by
  by_cases enqueues : Enqueues options core call
  · obtain ⟨item, member, rfl⟩ := queued
    cases emitSocketEvent_enqueued enqueues with
    | added room same none =>
      refine iff_of_true (.inr ⟨item, ?_, rfl⟩) fun loses => room loses.2.1
      exact same ▸ List.mem_append_left _ member
    | refused full newest same told =>
      exact iff_of_true (.inr ⟨item, same ▸ member, rfl⟩) fun loses => loses.2.2.1 newest
    | shifted full oldest same told =>
      have unsent := @not_emitted_of_offline options core item.eventId call enqueues.2.2.1
      have shifts := @reported_or_kept_iff options _ item (queueItem call) _ member
        (told item.eventId)
      rw [Settled, Queued, same, or_iff_right unsent, shifts]
      have noRoom : Full options core := full
      simp [Loses, enqueues, noRoom, oldest, queueItem]
  · refine iff_of_true ?_ fun loses => enqueues loses.1
    obtain ⟨item, member, same⟩ := queued
    exact .inr ⟨item, (emitSocketEvent_keepsQueue enqueues).symm ▸ member, same⟩

theorem accounted_connectEvent (queued : Queued eventId core) (index : Nat) (now : ℚ) :
    Settled eventId (react options (.connectEvent index now) core).2 ∨
        Queued eventId (react options (.connectEvent index now) core).1 ↔
      ¬ Loses options eventId core (.connectEvent index now) := by
  have delivers : Delivers options core (.connectEvent index now) _ _ := react_delivers core nofun
  have sent := delivers.emitted eventId
  rw [mem_outgoing_connectEvent] at sent
  cases present : core.sockets[index]? with
  | none =>
    have idle : react options (.connectEvent index now) core = (core, []) := by
      simp [react, listener, present]
    rw [idle]
    refine iff_of_true (.inr queued) fun loses => ?_
    have exists_socket := loses.1.1
    rw [present] at exists_socket
    cases exists_socket
  | some socket =>
    have runs : react options (.connectEvent index now) core =
        onConnect options socket.socketNamespace now core := by
      simp [react, listener, present]
    cases connected : core.isConnected with
    | false =>
      have idle : flushOfflineQueue options now core.greeted = (core.greeted, []) :=
        if_pos connected
      refine iff_of_true (.inr ?_) fun loses => ?_
      · rw [runs, onConnect_eq, idle]
        exact queued
      · have sends := loses.1.2
        rw [connected] at sends
        cases sends
    | true =>
      obtain ⟨empty, silent⟩ := @onConnect_clears options core connected
        socket.socketNamespace now
      rw [runs] at sent ⊢
      rw [Settled, silent, Queued, empty, sent]
      simp [Loses, present, connected]

theorem accounted_iff_not_loses {input : Input} (queued : Queued eventId core)
    (stays : input ≠ .logoutAnswered true) :
    Settled eventId (react options input core).2 ∨ Queued eventId (react options input core).1 ↔
      ¬ Loses options eventId core input := by
  cases kind : touchesEvents input with
  | false =>
    refine iff_of_true (accounted_of_keepsQueue queued (react_keepsEvents kind).keepsQueue) ?_
    cases input with
    | emitSocketEvent | connectEvent => cases kind
    | _ => exact nofun
  | true =>
    cases input with
    | emitSocketEvent call => exact accounted_emitSocketEvent queued call
    | connectEvent index now => exact accounted_connectEvent queued index now
    | serverEvent index eventName payload =>
      have keeps : Keeps KeepsQueue (react options (.serverEvent index eventName payload)) :=
        keeps_listener keepsQueue_course index fun name =>
          onServerEvent_keepsQueue name eventName payload
      exact iff_of_true (accounted_of_keepsQueue queued keeps) nofun
    | logoutAnswered ok =>
      cases ok with
      | true => exact (stays rfl).elim
      | false => cases kind
    | _ => cases kind

end Steps

section Runs

/-- The machine with the effects of its steps. -/
def history (options : SdkCoreOptions) :
    Transducer (WebSdkCore × List (List Effect)) Input (List Effect) :=
  (machine options).recording fun _ effects => some effects

/-- The call is answered by an error event. -/
def Answered (options : SdkCoreOptions) (core : WebSdkCore) (call : EmitCall) : Prop :=
  ∃ effect ∈ (emitSocketEvent options call core).2, effect.isError = true

def accepted (options : SdkCoreOptions) (core : WebSdkCore) (call : EmitCall) :
    WebSdkCore × List (List Effect) :=
  let (after, effects) := emitSocketEvent options call core
  (after, [effects])

/-- The application has been told at once, or the event is settled, or still queued. -/
def Accounted (eventId : String) (told : Prop) (current : WebSdkCore × List (List Effect)) : Prop :=
  told ∨ Settled eventId current.2.flatten ∨ Queued eventId current.1

/-- The input does not lose an event of which the application does not know and that has not
been passed to a socket. -/
def Careful (options : SdkCoreOptions) (eventId : String) (told : Prop)
    (current : WebSdkCore × List (List Effect)) (input : Input) : Prop :=
  told ∨ Settled eventId current.2.flatten ∨ ¬ Loses options eventId current.1 input

/-- The call gives its event to a socket with an `emit`, or to a queue that takes it or reports
that it does not. -/
def CarefulCall (options : SdkCoreOptions) (core : WebSdkCore) (call : EmitCall) : Prop :=
  (core.isConnected = true → emits options core = true) ∧
    (Enqueues options core call → Full options core → DropsNewest options →
      reportsDrops options = true)

variable {core : WebSdkCore} {call : EmitCall}

theorem settled_append {eventId : String} {effects later : List Effect} :
    Settled eventId (effects ++ later) ↔ Settled eventId effects ∨ Settled eventId later := by
  simp only [Settled, emittedIds_append, discardedIds_append, List.mem_append]
  exact or_or_or_comm

abbrev Silent : WebSdkCore → WebSdkCore → List Effect → Prop := Without Effect.isError

theorem silent_transition (event : EventType) : Keeps Silent (transition event) := by
  intro core
  simp only [transition]
  split
  · exact List.forall_mem_singleton.mpr rfl
  · exact List.forall_mem_nil _

theorem silent_enqueueOfflineEvent (item : OfflineQueueItem) :
    Keeps Silent (enqueueOfflineEvent options item) :=
  keeps_enqueueOfflineEvent (without_course _) item
    (fun item => keeps_discard (without_course _) item (without_does rfl) (without_does rfl))
    fun _ _ => List.forall_mem_nil _

theorem emitSocketEvent_of_connected (allowed : allowlisted options call.eventName = true)
    (fresh : call.chosenEventId ∉ core.sentEventIds) (connected : core.isConnected = true) :
    emitSocketEvent options call core = send options call.chosenEventId call.eventName
      (outboundMessage call.payload call.chosenEventId call.chosenIdempotencyKey) core := by
  unfold emitSocketEvent
  rw [if_neg (by simp [allowed]), if_neg fresh, if_neg (by simp [connected])]

theorem not_answered_of_enqueues (enqueues : Enqueues options core call) :
    ¬ Answered options core call := by
  rintro ⟨effect, member, error⟩
  rw [emitSocketEvent_of_enqueues enqueues] at member
  have course : Course Silent := without_course Effect.isError
  have silent := course.keeps_cons (silent_transition .degrade) (course.keeps_cons
    (silent_enqueueOfflineEvent (queueItem call)) course.keeps_nil) core effect member
  rw [silent] at error
  cases error

theorem answered_of_offline (allowed : allowlisted options call.eventName = true)
    (fresh : call.chosenEventId ∉ core.sentEventIds) (offline : core.isConnected = false)
    (unqueued : ¬ Enqueues options core call) : Answered options core call := by
  have closed : ¬ (call.allowOfflineQueue.getD true && options.offlineQueue.enabled) = true :=
    fun queues => unqueued ⟨allowed, fresh, offline, queues⟩
  refine ⟨.error "socket_emit_error" "Socket is not connected", ?_, rfl⟩
  unfold emitSocketEvent
  rw [if_neg (by simp [allowed]), if_neg fresh, if_pos offline, if_neg closed]
  exact List.mem_append_right _ List.mem_cons_self

theorem accounted_enqueues (enqueues : Enqueues options core call)
    (unqueued : ¬ Queued call.chosenEventId core) :
    Accounted call.chosenEventId (Answered options core call) (accepted options core call) ↔
      CarefulCall options core call := by
  have offline (connected : core.isConnected = true) : emits options core = true := by
    rw [enqueues.2.2.1] at connected
    cases connected
  cases emitSocketEvent_enqueued enqueues with
  | added room same none =>
    refine iff_of_true (.inr (.inr ⟨queueItem call, ?_, rfl⟩))
      ⟨offline, fun _ full => (room full).elim⟩
    exact same ▸ List.mem_append_right _ List.mem_cons_self
  | shifted full oldest same told =>
    refine iff_of_true (.inr (.inr ⟨queueItem call, ?_, rfl⟩))
      ⟨offline, fun _ _ newest => (oldest newest).elim⟩
    exact same ▸ List.mem_append_right _ List.mem_cons_self
  | refused full newest same told =>
    constructor
    · rintro (answered | (emitted | dropped) | ⟨item, member, about⟩)
      · exact (not_answered_of_enqueues enqueues answered).elim
      · rw [accepted, List.flatten_singleton] at emitted
        exact (not_emitted_of_offline enqueues.2.2.1 emitted).elim
      · rw [accepted, List.flatten_singleton] at dropped
        exact ⟨offline, fun _ _ _ => ((told _).mp dropped).1⟩
      · have kept : item ∈ core.offlineQueue := same ▸ member
        exact (unqueued ⟨item, kept, about⟩).elim
    · intro careful
      have reports := careful.2 enqueues full newest
      refine .inr (.inl (.inr ?_))
      rw [accepted, List.flatten_singleton]
      exact (told _).mpr ⟨reports, rfl⟩

theorem accounted_connected (allowed : allowlisted options call.eventName = true)
    (fresh : call.chosenEventId ∉ core.sentEventIds) (connected : core.isConnected = true)
    (unqueued : ¬ Queued call.chosenEventId core) :
    Accounted call.chosenEventId (Answered options core call) (accepted options core call) ↔
      emits options core = true := by
  have sends := @sends_send options core call.chosenEventId call.eventName _
    (get_outboundMessage call.payload call.chosenEventId call.chosenIdempotencyKey)
  unfold Accounted Answered accepted
  rw [emitSocketEvent_of_connected allowed fresh connected, List.flatten_singleton]
  constructor
  · rintro (⟨effect, member, error⟩ | (emitted | dropped) | ⟨item, member, about⟩)
    · rw [send_eq] at member
      split at member
      · cases List.mem_singleton.mp member
        cases error
      · cases member
    · exact ((sends.emitted _).mp emitted).1
    · rw [sends.discarded] at dropped
      cases dropped
    · exact (unqueued ⟨item, sends.queue ▸ member, about⟩).elim
  · exact fun able => .inr (.inl (.inl ((sends.emitted _).mpr ⟨able, rfl⟩)))

theorem accounted_call (allowed : allowlisted options call.eventName = true)
    (fresh : call.chosenEventId ∉ core.sentEventIds) (unqueued : ¬ Queued call.chosenEventId core) :
    Accounted call.chosenEventId (Answered options core call) (accepted options core call) ↔
      CarefulCall options core call := by
  by_cases enqueues : Enqueues options core call
  · exact accounted_enqueues enqueues unqueued
  · cases connected : core.isConnected with
    | true =>
      rw [accounted_connected allowed fresh connected unqueued, CarefulCall]
      exact ⟨fun able => ⟨fun _ => able, fun queues => (enqueues queues).elim⟩,
        fun careful => careful.1 connected⟩
    | false =>
      refine iff_of_true (.inl (answered_of_offline allowed fresh connected enqueues)) ⟨?_, ?_⟩
      · rw [connected]
        exact nofun
      · exact fun queues => (enqueues queues).elim

theorem accounted_step {eventId : String} {told : Prop}
    {current : WebSdkCore × List (List Effect)} {input : Input}
    (stays : input ≠ .logoutAnswered true) (accounted : Accounted eventId told current) :
    Accounted eventId told ((history options).step current input).1 ↔
      Careful options eventId told current input := by
  change told ∨ Settled eventId (current.2 ++ [(react options input current.1).2]).flatten ∨
    Queued eventId (react options input current.1).1 ↔ _
  rw [List.flatten_append, List.flatten_singleton, settled_append]
  by_cases known : told ∨ Settled eventId current.2.flatten
  · refine iff_of_true ?_ ?_
    · rcases known with told | settled
      · exact .inl told
      · exact .inr (.inl (.inl settled))
    · rcases known with told | settled
      · exact .inl told
      · exact .inr (.inl settled)
  · obtain ⟨untold, unsettled⟩ := not_or.mp known
    have queued : Queued eventId current.1 :=
      (accounted.resolve_left untold).resolve_left unsettled
    simp only [Careful, untold, unsettled, false_or]
    exact accounted_iff_not_loses queued stays

/-- An event that is accepted stays accounted for, until the next logout, exactly when the call
and all inputs after it are careful. -/
theorem accounted_iff_careful (options : SdkCoreOptions) (core : WebSdkCore) (call : EmitCall)
    (allowed : allowlisted options call.eventName = true)
    (fresh : call.chosenEventId ∉ core.sentEventIds) (unqueued : ¬ Queued call.chosenEventId core)
    (inputs : List Input) (stays : .logoutAnswered true ∉ inputs) :
    (∀ count, Accounted call.chosenEventId (Answered options core call)
      ((history options).run (accepted options core call) (inputs.take count))) ↔
      CarefulCall options core call ∧
        (history options).Admits (Careful options call.chosenEventId (Answered options core call))
          (accepted options core call) inputs := by
  have kept : (history options).Admits (fun _ input => input ≠ .logoutAnswered true)
      (accepted options core call) inputs :=
    Transducer.admits_of_mem fun input member same => stays (same ▸ member)
  have steps (first : Accounted call.chosenEventId (Answered options core call)
      (accepted options core call)) :=
    Transducer.forall_prefix_iff_admits_of (fun _ _ (_ : True) _ => trivial)
      (fun _ _ _ stays accounted => accounted_step stays accounted) kept trivial first
  rw [← accounted_call allowed fresh unqueued]
  constructor
  · intro always
    have first := always 0
    exact ⟨first, (steps first).mp always⟩
  · rintro ⟨first, careful⟩
    exact (steps first).mpr careful

end Runs

section Sample

variable {core : WebSdkCore} {eventId : String}

instance : Decidable (Queued eventId core) := inferInstanceAs (Decidable (∃ item ∈ _, _))

instance {effects : List Effect} : Decidable (Settled eventId effects) :=
  inferInstanceAs (Decidable (_ ∨ _))

instance {call : EmitCall} : Decidable (Enqueues options core call) :=
  inferInstanceAs (Decidable (_ ∧ _ ∧ _ ∧ _))

instance : Decidable (Full options core) := inferInstanceAs (Decidable ((_ : ℚ) ≤ _))

instance : Decidable (DropsNewest options) := inferInstanceAs (Decidable (_ = _))

instance {items : List OfflineQueueItem} : Decidable (Unsent core items eventId) :=
  inferInstanceAs (Decidable (_ ∧ ∃ item ∈ _, _))

instance {call : EmitCall} : Decidable (Answered options core call) :=
  inferInstanceAs (Decidable (∃ effect ∈ _, _))

instance {call : EmitCall} : Decidable (CarefulCall options core call) :=
  inferInstanceAs (Decidable ((_ → _) ∧ (_ → _ → _ → _)))

instance (input : Input) : Decidable (Loses options eventId core input) :=
  match input with
  | .emitSocketEvent _ => inferInstanceAs (Decidable (_ ∧ _ ∧ _ ∧ _ ∧ _ ∧ ∀ item ∈ _, _))
  | .connectEvent _ _ => inferInstanceAs (Decidable ((_ ∧ _) ∧ ¬ (_ ∧ _)))
  | .connectSocket _ | .disconnectSocket | .createSession | .createAnswered _ | .refreshSession
  | .refreshAnswered _ | .logoutSession | .logoutAnswered _ | .timer | .setConnected _ _
  | .disconnectEvent _ _ | .connectErrorEvent _ _ | .serverEvent _ _ _ => .isFalse nofun

instance {told : Prop} [Decidable told] {current : WebSdkCore × List (List Effect)} :
    Decidable (Accounted eventId told current) := inferInstanceAs (Decidable (_ ∨ _ ∨ _))

instance {told : Prop} [Decidable told] (current : WebSdkCore × List (List Effect))
    (input : Input) : Decidable (Careful options eventId told current input) :=
  inferInstanceAs (Decidable (_ ∨ _ ∨ ¬ _))

def queueOptions : SdkCoreOptions where
  socketBaseUrl := "ws://socket:3001"
  offlineQueue := { enabled := true, onDiscard := true, onQueueOverflow := true }
  socketFactory _ := { onDisconnect := fun _ => none }

def waiting : WebSdkCore :=
  (machine queueOptions).run (new queueOptions [])
    [.createSession, .createAnswered (.accepted ⟨"access", "refresh"⟩), .connectSocket .chat]

def earlyCall : EmitCall :=
  { eventName := "sendMessage", payload := .object .empty, eventId := some "evt-1"
    drawnEventId := "evt_0", drawnIdempotencyKey := "idem_0", now := 0 }

def connectsAt (now : ℚ) : List Input := [.setConnected 0 true, .connectEvent 0 now]

/-- An event that is queued for a minute is accounted for. -/
theorem prompt_replay_is_accounted : Accounted "evt-1" (Answered queueOptions waiting earlyCall)
      ((history queueOptions).run (accepted queueOptions waiting earlyCall) (connectsAt 60000)) :=
  (accounted_iff_careful queueOptions waiting earlyCall (by decide +kernel) (by decide +kernel)
    (by decide +kernel) (connectsAt 60000) (by decide +kernel)).mpr
    ⟨by decide +kernel, by decide +kernel⟩ 2

/-- An event that is queued for more than five minutes disappears. -/
theorem late_replay_loses_event :
    ¬ ∀ (options : SdkCoreOptions) (core : WebSdkCore) (call : EmitCall) (inputs : List Input),
      options.offlineQueue.enabled = true → allowlisted options call.eventName = true →
      call.chosenEventId ∉ core.sentEventIds → ¬ Queued call.chosenEventId core →
      .logoutAnswered true ∉ inputs → ∀ count,
        Accounted call.chosenEventId (Answered options core call)
          ((history options).run (accepted options core call) (inputs.take count)) := by
  intro accounted
  have kept := accounted queueOptions waiting earlyCall (connectsAt 300001) rfl (by decide +kernel)
    (by decide +kernel) (by decide +kernel) (by decide +kernel) 2
  revert kept
  decide +kernel

end Sample

end WebSdkCore

end Caas.Sdk
