import Caas.Sdk.OfflineQueue

/-!
# The copy of the queue behind the persistence adapter

The core writes its queue through the `persistenceAdapter` after every change, and takes the
valid items of the copy over when it is made. The copy is always the queue. The bound is
another matter: it is checked when an event is queued, and not when the items are restored,
so a copy that was written under a larger bound makes a queue that is too long.

The store is whatever the adapter works on. The core with its store does to the sockets and
the application what the core alone does.
-/

namespace Caas.Sdk

open Procedure

/-- An entry of the array that `load` returns. A field that has another type is `none`, as all
are when the entry is no object. -/
structure LoadedItem where
  eventId : Option String
  eventName : Option String
  payload : Payload
  queuedAt : Option ℚ
  idempotencyKey : Option String

def isValidOfflineQueueItem : LoadedItem → Option OfflineQueueItem
  | ⟨some eventId, some eventName, payload, some queuedAt, some idempotencyKey⟩ =>
    some ⟨eventId, eventName, payload, queuedAt, idempotencyKey⟩
  | _ => none

/-- What `load` returns is `none` when it is no array. -/
structure OfflineQueuePersistenceAdapter (Store : Type) where
  load : Store → Option (List LoadedItem)
  save : List OfflineQueueItem → Store → Store
  clear : Option (Store → Store)

namespace OfflineQueuePersistenceAdapter

variable {Store : Type} (adapter : OfflineQueuePersistenceAdapter Store)

/-- The valid items that `load` would now return. -/
def validItems (store : Store) : List OfflineQueueItem :=
  ((adapter.load store).getD []).filterMap isValidOfflineQueueItem

/-- What is saved is loaded, and nothing is after `clear`. -/
structure Works : Prop where
  saved : ∀ items store, adapter.validItems (adapter.save items store) = items
  cleared : ∀ clear ∈ adapter.clear, ∀ store, adapter.validItems (clear store) = []

end OfflineQueuePersistenceAdapter

/-- The core, with the store of its adapter. -/
structure StoredSdk (Store : Type) where
  core : WebSdkCore
  store : Store

namespace StoredSdk

open WebSdkCore

variable {Store : Type} (options : SdkCoreOptions) (adapter : OfflineQueuePersistenceAdapter Store)

abbrev StoredProcedure (Store : Type) := Procedure (StoredSdk Store) Effect

def within (procedure : SdkProcedure) : StoredProcedure Store := fun state =>
  let (core, effects) := procedure state.core
  ({ state with core }, effects)

/-- The constructor, which restores the queue. -/
def new (store : Store) : StoredSdk Store :=
  ⟨WebSdkCore.new options (adapter.validItems store), store⟩

def persistOfflineQueue : StoredProcedure Store := edit fun state =>
  if options.offlineQueue.enabled = false then state
  else
    match state.core.offlineQueue, adapter.clear with
    | [], some clear => { state with store := clear state.store }
    | queue, _ => { state with store := adapter.save queue state.store }

/-- A full queue that refuses the new item is not written. -/
def enqueueOfflineEvent (item : OfflineQueueItem) : StoredProcedure Store := fun state =>
  if Full options state.core ∧ DropsNewest options then within (discard options item) state
  else
    inOrder [within (WebSdkCore.enqueueOfflineEvent options item),
      persistOfflineQueue options adapter] state

def emitSocketEvent (call : EmitCall) : StoredProcedure Store := fun state =>
  if Enqueues options state.core call then
    inOrder [within (transition .degrade), enqueueOfflineEvent options adapter (queueItem call)]
      state
  else within (WebSdkCore.emitSocketEvent options call) state

/-- An empty queue is not written. -/
def flushOfflineQueue (now : ℚ) : StoredProcedure Store := fun state =>
  if state.core.isConnected = false ∨ state.core.offlineQueue = [] then (state, [])
  else
    inOrder [within (edit fun core => { core with offlineQueue := [] }),
      persistOfflineQueue options adapter,
      within (inOrder
        ((state.core.offlineQueue.filter (replayable options now)).map (replay options)))] state

/-- The listener for `connect`. -/
def onConnect (socketNamespace : SocketNamespace) (now : ℚ) : StoredProcedure Store :=
  inOrder [within clearReconnectTimer, within (transition .connect),
    within (does (.socketConnected socketNamespace)), flushOfflineQueue options adapter now]

/-- The rest of `logoutSession`. -/
def logoutAnswered (ok : Bool) : StoredProcedure Store := fun state =>
  if state.core.loggingOut = 0 then (state, [])
  else
    inOrder [within (edit fun core => { core with loggingOut := core.loggingOut - 1 }),
      if ok then
        inOrder [within (edit fun core => { core with sessionTokens := none }),
          within (disconnectSocket options),
          within (edit fun core => { core with
            sentEventIds := ∅
            acknowledgedEventIds := ∅
            offlineQueue := [] }),
          persistOfflineQueue options adapter, within (transition .authRequired)]
      else skip] state

def listener (index : Nat) (procedure : SocketNamespace → StoredProcedure Store) :
    StoredProcedure Store := fun state =>
  match state.core.sockets[index]? with
  | none => (state, [])
  | some socket => procedure socket.socketNamespace state

/-- What an input sets off; only these three methods use the store. -/
def react : Input → StoredProcedure Store
  | .emitSocketEvent call => emitSocketEvent options adapter call
  | .connectEvent index now => listener index fun name => onConnect options adapter name now
  | .logoutAnswered ok => logoutAnswered options adapter ok
  | input => within (WebSdkCore.react options input)

def machine : Transducer (StoredSdk Store) Input (List Effect) where
  step state input := react options adapter input state

section Refinement

variable {options adapter}

theorem refines_within (procedure : SdkProcedure) :
    Refines core (within procedure : StoredProcedure Store) procedure := fun _ => ⟨rfl, rfl⟩

theorem persist_core (state : StoredSdk Store) :
    (persistOfflineQueue options adapter state).1.core = state.core := by
  simp only [persistOfflineQueue, edit]
  split
  · rfl
  · split <;> rfl

theorem refines_persist (options : SdkCoreOptions)
    (adapter : OfflineQueuePersistenceAdapter Store) {stored : List (StoredProcedure Store)}
    {procedure : SdkProcedure} (rest : Refines core (inOrder stored) procedure) :
    Refines core (inOrder (persistOfflineQueue options adapter :: stored)) procedure :=
  refines_hidden persist_core rest

theorem refines_enqueueOfflineEvent (item : OfflineQueueItem) :
    Refines core (enqueueOfflineEvent options adapter item)
      (WebSdkCore.enqueueOfflineEvent options item) := by
  intro state
  unfold enqueueOfflineEvent
  split
  · next refused =>
    have discards : WebSdkCore.enqueueOfflineEvent options item state.core =
        discard options item state.core := by
      have full : maxItems options ≤ state.core.offlineQueue.length := refused.1
      have newest : options.offlineQueue.discardPolicy.getD .dropOldest = .dropNewest := refused.2
      simp [WebSdkCore.enqueueOfflineEvent, full, newest]
    rw [discards]
    exact refines_within _ state
  · obtain ⟨same, told⟩ :=
      refines_cons (refines_within (WebSdkCore.enqueueOfflineEvent options item))
        (refines_persist options adapter refines_nil) state
    refine ⟨same, told.trans ?_⟩
    rw [inOrder_cons]
    exact List.append_nil _

theorem refines_emitSocketEvent (call : EmitCall) :
    Refines core (emitSocketEvent options adapter call)
      (WebSdkCore.emitSocketEvent options call) := by
  intro state
  unfold emitSocketEvent
  split
  · next enqueues =>
    rw [emitSocketEvent_of_enqueues enqueues]
    exact refines_cons (refines_within _)
      (refines_cons (refines_enqueueOfflineEvent _) refines_nil) state
  · exact refines_within _ state

theorem refines_flushOfflineQueue (now : ℚ) : Refines core (flushOfflineQueue options adapter now)
      (WebSdkCore.flushOfflineQueue options now) := by
  intro state
  unfold flushOfflineQueue WebSdkCore.flushOfflineQueue
  cases connected : state.core.isConnected with
  | false => exact ⟨rfl, rfl⟩
  | true =>
    cases queue : state.core.offlineQueue with
    | nil =>
      -- To empty an empty queue changes nothing.
      have same : { state.core with offlineQueue := [] } = state.core := by rw [← queue]
      refine ⟨?_, rfl⟩
      exact same.symm
    | cons item rest =>
      rw [if_neg (by simp), if_neg (by simp), ← queue]
      have refines := refines_cons (refines_within (edit fun core : WebSdkCore =>
          { core with offlineQueue := [] }))
        (refines_persist options adapter (refines_cons
          (refines_within (inOrder ((state.core.offlineQueue.filter
            (replayable options now)).map (replay options)))) refines_nil)) state
      rwa [inOrder_pair] at refines

theorem refines_onConnect (socketNamespace : SocketNamespace) (now : ℚ) :
    Refines core (onConnect options adapter socketNamespace now)
      (WebSdkCore.onConnect options socketNamespace now) :=
  refines_cons (refines_within _) (refines_cons (refines_within _)
    (refines_cons (refines_within _) (refines_cons (refines_flushOfflineQueue now) refines_nil)))

theorem refines_logoutAnswered (ok : Bool) :
    Refines core (logoutAnswered options adapter ok) (WebSdkCore.logoutAnswered options ok) := by
  intro state
  unfold logoutAnswered WebSdkCore.logoutAnswered
  split
  · exact ⟨rfl, rfl⟩
  · refine refines_cons (refines_within _) (refines_cons ?_ refines_nil) state
    cases ok with
    | false => exact refines_skip
    | true =>
      rw [if_pos rfl, if_pos rfl]
      exact refines_cons (refines_within _) (refines_cons (refines_within _)
        (refines_cons (refines_within _)
          (refines_persist options adapter (refines_cons (refines_within _) refines_nil))))

theorem refines_listener (index : Nat) {stored : SocketNamespace → StoredProcedure Store}
    {procedure : SocketNamespace → SdkProcedure}
    (each : ∀ name, Refines core (stored name) (procedure name)) :
    Refines core (listener index stored) (WebSdkCore.listener index procedure) := by
  intro state
  cases present : state.core.sockets[index]? with
  | none =>
    simp [listener, WebSdkCore.listener, present]
  | some socket =>
    simp only [listener, WebSdkCore.listener, present]
    exact each _ state

theorem react_refines (input : Input) :
    Refines core (react options adapter input) (WebSdkCore.react options input) := by
  cases input with
  | emitSocketEvent call => exact refines_emitSocketEvent call
  | connectEvent index now => exact refines_listener index fun name => refines_onConnect name now
  | logoutAnswered ok => exact refines_logoutAnswered ok
  | _ => exact refines_within _

end Refinement

section Copy

variable {options adapter}

def Copied (adapter : OfflineQueuePersistenceAdapter Store) (state : StoredSdk Store) : Prop :=
  adapter.validItems state.store = state.core.offlineQueue

/-- If the store held the queue, it still does. -/
def KeepsCopy (adapter : OfflineQueuePersistenceAdapter Store) (before after : StoredSdk Store)
    (_effects : List Effect) : Prop :=
  Copied adapter before → Copied adapter after

theorem keepsCopy_course : Course (KeepsCopy adapter) where
  nothing _ := id
  sequel first later := fun copied => later (first copied)

theorem KeepsCopy.of_keepsQueue {procedure : SdkProcedure} (state : StoredSdk Store)
    (keeps : KeepsQueue state.core (procedure state.core).1 (procedure state.core).2) :
    KeepsCopy adapter state (within procedure state).1 (within procedure state).2 :=
  fun copied => copied.trans keeps.symm

theorem keepsCopy_within {procedure : SdkProcedure} (keeps : Keeps KeepsQueue procedure) :
    Keeps (KeepsCopy adapter) (within procedure) := fun state => .of_keepsQueue state (keeps _)

theorem keepsCopy_calm {procedure : SdkProcedure} (calm : IsCalm procedure) :
    Keeps (KeepsCopy adapter) (within procedure) := keepsCopy_within calm.keepsEvents.keepsQueue

theorem copied_persist (works : adapter.Works) (enabled : options.offlineQueue.enabled = true)
    (state : StoredSdk Store) : Copied adapter (persistOfflineQueue options adapter state).1 := by
  simp only [persistOfflineQueue, edit]
  rw [if_neg (by simp [enabled])]
  split
  · next clear empty clears =>
    exact (works.cleared clear clears state.store).trans empty.symm
  · exact works.saved _ _

theorem keepsCopy_write (works : adapter.Works) (enabled : options.offlineQueue.enabled = true)
    {changes : StoredProcedure Store} {rest : List (StoredProcedure Store)}
    (later : Keeps (KeepsCopy adapter) (inOrder rest)) : Keeps (KeepsCopy adapter)
      (inOrder (changes :: persistOfflineQueue options adapter :: rest)) :=
  fun state _ => later _ (copied_persist works enabled (changes state).1)

theorem keepsCopy_listener (index : Nat) {procedure : SocketNamespace → StoredProcedure Store}
    (each : ∀ name, Keeps (KeepsCopy adapter) (procedure name)) :
    Keeps (KeepsCopy adapter) (listener index procedure) := by
  intro state
  unfold listener
  split
  · exact keepsCopy_course.nothing state
  · exact each _ state

theorem react_keepsQueue {input : Input} (calls : ∀ call, input ≠ .emitSocketEvent call)
    (connects : ∀ index now, input ≠ .connectEvent index now)
    (answers : ∀ ok, input ≠ .logoutAnswered ok) :
    Keeps KeepsQueue (WebSdkCore.react options input) := by
  cases kind : touchesEvents input with
  | false => exact (react_keepsEvents kind).keepsQueue
  | true =>
    cases input with
    | emitSocketEvent call => exact (calls call rfl).elim
    | connectEvent index now => exact (connects index now rfl).elim
    | logoutAnswered ok => exact (answers ok rfl).elim
    | serverEvent index eventName payload =>
      exact keeps_listener keepsQueue_course index fun name =>
        onServerEvent_keepsQueue name eventName payload
    | _ => cases kind

section Methods

variable (works : adapter.Works) (enabled : options.offlineQueue.enabled = true)

include works enabled

theorem keepsCopy_enqueueOfflineEvent (item : OfflineQueueItem) :
    Keeps (KeepsCopy adapter) (enqueueOfflineEvent options adapter item) := by
  intro state
  unfold enqueueOfflineEvent
  split
  · refine .of_keepsQueue state ?_
    exact congrArg _ (discard_state item state.core)
  · exact keepsCopy_write works enabled keepsCopy_course.keeps_nil state

theorem keepsCopy_emitSocketEvent (call : EmitCall) :
    Keeps (KeepsCopy adapter) (emitSocketEvent options adapter call) := by
  intro state
  unfold emitSocketEvent
  split
  · exact keepsCopy_course.keeps_cons (keepsCopy_calm (calm_transition _))
      (keepsCopy_course.keeps_cons (keepsCopy_enqueueOfflineEvent works enabled _)
        keepsCopy_course.keeps_nil) state
  · next other => exact .of_keepsQueue state (emitSocketEvent_keepsQueue other)

theorem keepsCopy_flushOfflineQueue (now : ℚ) :
    Keeps (KeepsCopy adapter) (flushOfflineQueue options adapter now) := by
  intro state
  unfold flushOfflineQueue
  split
  · exact keepsCopy_course.nothing state
  · refine keepsCopy_write works enabled
      (keepsCopy_course.keeps_cons (keepsCopy_within fun core => ?_) keepsCopy_course.keeps_nil)
      state
    exact (sends_replay _ core).queue

theorem keepsCopy_onConnect (socketNamespace : SocketNamespace) (now : ℚ) :
    Keeps (KeepsCopy adapter) (onConnect options adapter socketNamespace now) :=
  keepsCopy_course.keeps_cons (keepsCopy_calm calm_clearReconnectTimer)
    (keepsCopy_course.keeps_cons (keepsCopy_calm (calm_transition _))
      (keepsCopy_course.keeps_cons (keepsCopy_calm (calm_does rfl))
        (keepsCopy_course.keeps_cons (keepsCopy_flushOfflineQueue works enabled now)
          keepsCopy_course.keeps_nil)))

theorem keepsCopy_logoutAnswered (ok : Bool) :
    Keeps (KeepsCopy adapter) (logoutAnswered options adapter ok) := by
  intro state
  unfold logoutAnswered
  split
  · exact keepsCopy_course.nothing state
  · refine keepsCopy_course.keeps_cons (keepsCopy_within (by intro; rfl))
      (keepsCopy_course.keeps_cons ?_ keepsCopy_course.keeps_nil) state
    cases ok with
    | false => exact keepsCopy_course.keeps_skip
    | true =>
      rw [if_pos rfl]
      exact keepsCopy_course.keeps_cons (keepsCopy_within (by intro; rfl))
        (keepsCopy_course.keeps_cons (keepsCopy_calm calm_disconnectSocket)
          (keepsCopy_write works enabled
            (keepsCopy_course.keeps_cons (keepsCopy_calm (calm_transition _))
              keepsCopy_course.keeps_nil)))

theorem react_keepsCopy (input : Input) :
    Keeps (KeepsCopy adapter) (react options adapter input) := by
  unfold react
  split
  · exact keepsCopy_emitSocketEvent works enabled _
  · exact keepsCopy_listener _ fun name => keepsCopy_onConnect works enabled name _
  · exact keepsCopy_logoutAnswered works enabled _
  · next others connects answers =>
    exact keepsCopy_within (react_keepsQueue others connects answers)

end Methods

end Copy

section Bound

variable {options} {core : WebSdkCore}

/-- The queue has at most as many items as it may. -/
def Bounded (options : SdkCoreOptions) (core : WebSdkCore) : Prop :=
  core.offlineQueue.length ≤ maxItems options

/-- An event that is added to the queue leaves it within the bound. -/
def Roomy (options : SdkCoreOptions) (core : WebSdkCore) : Input → Prop
  | .emitSocketEvent call => Enqueues options core call → ¬ Full options core →
      core.offlineQueue.length + 1 ≤ maxItems options
  | _ => True

theorem maxItems_ne_zero : maxItems options ≠ 0 := by
  unfold maxItems
  cases given : options.offlineQueue.maxItems with
  | none => simp
  | some bound =>
    by_cases zero : bound = 0
    · rw [zero]
      decide +kernel
    · simp [Option.filter_some, zero]

theorem roomy_of_whole (bound : ℕ) (whole : maxItems options = bound) (core : WebSdkCore)
    (input : Input) : Roomy options core input := by
  cases input with
  | emitSocketEvent call =>
    intro _ room
    have less : core.offlineQueue.length < bound := by
      unfold Full at room
      rw [whole, Nat.cast_le, not_le] at room
      exact room
    rw [whole]
    exact_mod_cast less
  | _ => trivial

theorem bounded_emitSocketEvent (bounded : Bounded options core) (call : EmitCall) :
    Bounded options (WebSdkCore.emitSocketEvent options call core).1 ↔
      Roomy options core (.emitSocketEvent call) := by
  by_cases enqueues : Enqueues options core call
  · unfold Bounded at bounded ⊢
    cases emitSocketEvent_enqueued enqueues with
    | added room same none =>
      rw [same, List.length_append, List.length_singleton]
      push_cast
      exact ⟨fun fits _ _ => fits, fun roomy => roomy enqueues room⟩
    | refused full newest same told =>
      rw [same]
      exact iff_of_true bounded fun _ room => (room full).elim
    | shifted full oldest same told =>
      refine iff_of_true ?_ fun _ room => (room full).elim
      -- A full queue within a bound other than zero has an item to drop.
      have exactly : maxItems options = core.offlineQueue.length := le_antisymm full bounded
      have items : core.offlineQueue.length ≠ 0 := by
        intro empty
        rw [empty] at exactly
        exact maxItems_ne_zero exactly
      have length : (core.offlineQueue.tail ++ [queueItem call]).length =
          core.offlineQueue.length := by
        rw [List.length_append, List.length_tail, List.length_singleton]
        omega
      rw [same, length]
      exact bounded
  · have kept := emitSocketEvent_keepsQueue enqueues
    refine iff_of_true ?_ fun queues => (enqueues queues).elim
    unfold Bounded
    rw [kept]
    exact bounded

theorem onConnect_queue (core : WebSdkCore) (socketNamespace : SocketNamespace) (now : ℚ) :
    (WebSdkCore.onConnect options socketNamespace now core).1.offlineQueue = core.offlineQueue ∨
      (WebSdkCore.onConnect options socketNamespace now core).1.offlineQueue = [] := by
  cases connected : core.isConnected with
  | false =>
    have idle : WebSdkCore.flushOfflineQueue options now core.greeted = (core.greeted, []) :=
      if_pos connected
    rw [onConnect_eq, idle]
    exact .inl rfl
  | true => exact .inr (onConnect_clears connected socketNamespace now).1

theorem logoutAnswered_queue (core : WebSdkCore) (ok : Bool) :
    (WebSdkCore.logoutAnswered options ok core).1.offlineQueue = core.offlineQueue ∨
      (WebSdkCore.logoutAnswered options ok core).1.offlineQueue = [] := by
  cases ok with
  | false => exact .inl (calm_logoutRefused core).queue
  | true =>
    unfold WebSdkCore.logoutAnswered
    split
    · exact .inl rfl
    · exact .inr rfl

theorem react_queue {input : Input} (calls : ∀ call, input ≠ .emitSocketEvent call)
    (core : WebSdkCore) : (WebSdkCore.react options input core).1.offlineQueue = core.offlineQueue ∨
      (WebSdkCore.react options input core).1.offlineQueue = [] := by
  by_cases connects : ∃ index now, input = .connectEvent index now
  · obtain ⟨index, now, rfl⟩ := connects
    simp only [WebSdkCore.react, WebSdkCore.listener]
    split
    · exact .inl rfl
    · exact onConnect_queue core _ now
  by_cases answers : ∃ ok, input = .logoutAnswered ok
  · obtain ⟨ok, rfl⟩ := answers
    exact logoutAnswered_queue core ok
  push Not at connects answers
  exact .inl (react_keepsQueue calls connects answers core)

theorem bounded_step (bounded : Bounded options core) (input : Input) :
    Bounded options (WebSdkCore.react options input core).1 ↔ Roomy options core input := by
  by_cases calls : ∃ call, input = .emitSocketEvent call
  · obtain ⟨call, rfl⟩ := calls
    exact bounded_emitSocketEvent bounded call
  · push Not at calls
    have roomy : Roomy options core input := by
      cases input with
      | emitSocketEvent call => exact (calls call rfl).elim
      | _ => trivial
    refine iff_of_true ?_ roomy
    unfold Bounded
    rcases react_queue calls core with kept | emptied
    · rw [kept]
      exact bounded
    · have positive : (0 : ℚ) ≤ maxItems options := (Nat.cast_nonneg _).trans bounded
      rw [emptied]
      exact_mod_cast positive

end Bound

section Runs

variable {options adapter}

/-- The queue is within its bound, and the store holds its items in order. -/
structure Sound (options : SdkCoreOptions) (adapter : OfflineQueuePersistenceAdapter Store)
    (state : StoredSdk Store) : Prop where
  bounded : Bounded options state.core
  copied : Copied adapter state

theorem sound_step (works : adapter.Works) (enabled : options.offlineQueue.enabled = true)
    {state : StoredSdk Store} (sound : Sound options adapter state) (input : Input) :
    Sound options adapter ((machine options adapter).step state input).1 ↔
      Roomy options state.core input := by
  have copied := react_keepsCopy works enabled input state sound.copied
  rw [← bounded_step sound.bounded input, ← (@react_refines _ options adapter input state).1]
  exact ⟨fun after => after.bounded, fun bounded => ⟨bounded, copied⟩⟩

theorem sound_new (enabled : options.offlineQueue.enabled = true) (store : Store) :
    Sound options adapter (new options adapter store) ↔
      (adapter.validItems store).length ≤ maxItems options := by
  have queue : (new options adapter store).core.offlineQueue = adapter.validItems store :=
    if_pos enabled
  refine ⟨fun sound => ?_, fun fits => ⟨?_, queue.symm⟩⟩
  · have bounded := sound.bounded
    rwa [Bounded, queue] at bounded
  · rwa [Bounded, queue]

/-- The queue is within its bound and its copy is right in every state of a run exactly when the
items that were restored are within the bound, and no event is added beyond it. -/
theorem queue_is_sound_iff (works : adapter.Works) (enabled : options.offlineQueue.enabled = true)
    (store : Store) (inputs : List Input) : (∀ count, Sound options adapter
      ((machine options adapter).run (new options adapter store) (inputs.take count))) ↔
      (adapter.validItems store).length ≤ maxItems options ∧
        (machine options adapter).Admits (fun state => Roomy options state.core)
          (new options adapter store) inputs := by
  have exact (state : StoredSdk Store) (input : Input) (sound : Sound options adapter state) :=
    sound_step works enabled sound input
  have steps (first : Sound options adapter (new options adapter store)) :=
    @Transducer.forall_prefix_iff_admits _ _ _ (machine options adapter) _ _ exact _ inputs first
  rw [← sound_new enabled store]
  constructor
  · intro always
    have first : Sound options adapter (new options adapter store) := always 0
    exact ⟨first, (steps first).mp always⟩
  · rintro ⟨first, roomy⟩
    exact (steps first).mpr roomy

end Runs

section Sample

def entry (item : OfflineQueueItem) : LoadedItem :=
  ⟨some item.eventId, some item.eventName, item.payload, some item.queuedAt,
    some item.idempotencyKey⟩

def arrayAdapter : OfflineQueuePersistenceAdapter (List LoadedItem) where
  load := some
  save items _ := items.map entry
  clear := some fun _ => []

theorem arrayAdapter_works : arrayAdapter.Works where
  saved items _ := by
    change (items.map entry).filterMap isValidOfflineQueueItem = items
    rw [List.filterMap_map]
    exact List.filterMap_some
  cleared := by
    rintro _ ⟨⟩ _
    rfl

def twoItems : SdkCoreOptions :=
  { queueOptions with offlineQueue := { queueOptions.offlineQueue with maxItems := some 2 } }

def savedItem (eventId : String) : OfflineQueueItem :=
  ⟨eventId, "sendMessage", .object .empty, 0, "idem"⟩

def callOf (eventId : String) : Input := .emitSocketEvent { earlyCall with eventId := some eventId }

/-- One of two entries is restored, and of two events that are queued the second drops it. -/
theorem three_items_are_sound : Sound twoItems arrayAdapter ((machine twoItems arrayAdapter).run
      (new twoItems arrayAdapter
        [entry (savedItem "a"), { entry (savedItem "b") with eventId := none }])
      [callOf "c", callOf "d"]) :=
  (queue_is_sound_iff arrayAdapter_works rfl _ [callOf "c", callOf "d"]).mpr
    ⟨by decide +kernel, Transducer.admits_of_forall (fun (state : StoredSdk _) input =>
      roomy_of_whole 2 (show maxItems twoItems = 2 by decide +kernel) state.core input) _ _⟩ 2

/-- Three items that were saved under a larger bound are all restored. -/
theorem restored_queue_is_too_long :
    ¬ ∀ (options : SdkCoreOptions) (adapter : OfflineQueuePersistenceAdapter (List LoadedItem))
      (store : List LoadedItem) (inputs : List Input), options.offlineQueue.enabled = true →
      (∃ bound, options.offlineQueue.maxItems = some bound ∧ 0 < bound) → adapter.Works →
      ∀ count, Sound options adapter
        ((machine options adapter).run (new options adapter store) (inputs.take count)) := by
  intro sound
  have bounded := (sound twoItems arrayAdapter (["a", "b", "c"].map fun id => entry (savedItem id))
    [] rfl ⟨2, rfl, by decide +kernel⟩ arrayAdapter_works 0).bounded
  revert bounded
  unfold Bounded
  decide +kernel

end Sample

end StoredSdk

end Caas.Sdk
