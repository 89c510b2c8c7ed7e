import Caas.Sdk.WebSdkCore

/-!
# One rule for each method of the web SDK

A method keeps to a course when the changes and effects of its own body do, and the methods
that it calls. Each rule names what there is to show; what all methods keep to is proved
with these rules, body by body.
-/

namespace Caas.Sdk.WebSdkCore

open Procedure

variable {options : SdkCoreOptions} {Allowed : WebSdkCore → WebSdkCore → List Effect → Prop}

section Sockets

section

variable (course : Course Allowed)
include course

theorem keeps_onDisconnect (disconnects : Keeps Allowed (transition .disconnect))
    (degrades : Keeps Allowed (transition .degrade)) (schedules : Keeps Allowed scheduleReconnect)
    (tells : ∀ name reason, Keeps Allowed (does (.socketDisconnected name reason)))
    (socketNamespace : SocketNamespace) (reason : Option String) :
    Keeps Allowed (onDisconnect socketNamespace reason) := by
  unfold onDisconnect
  split
  · exact course.keeps_cons disconnects (course.keeps_cons (tells _ _) course.keeps_nil)
  · exact course.keeps_cons degrades
      (course.keeps_cons schedules (course.keeps_cons (tells _ _) course.keeps_nil))

theorem keeps_closeSocket (index : Nat) (disconnects : Keeps Allowed (does (.disconnect index)))
    (marks : Keeps Allowed (setConnected index false))
    (listens : ∀ name reason, Keeps Allowed (onDisconnect name reason)) :
    Keeps Allowed (closeSocket options index) := by
  intro core
  unfold closeSocket
  split
  · exact course.nothing core
  · refine course.keeps_cons disconnects (course.keeps_cons marks
      (course.keeps_cons ?_ course.keeps_nil)) core
    split
    · exact course.keeps_skip
    · exact listens _ _

theorem keeps_dropSocket (closes : ∀ index, Keeps Allowed (closeSocket options index))
    (forgets : Keeps Allowed (edit fun core => { core with socket := none })) :
    Keeps Allowed (dropSocket options) := by
  intro core
  unfold dropSocket
  split
  · exact course.nothing core
  · exact course.keeps_cons (closes _) (course.keeps_cons forgets course.keeps_nil) core

theorem keeps_disconnectSocket (clears : Keeps Allowed clearReconnectTimer)
    (drops : Keeps Allowed (dropSocket options))
    (disconnects : Keeps Allowed (transition .disconnect)) :
    Keeps Allowed (disconnectSocket options) :=
  course.keeps_cons clears (course.keeps_cons drops (course.keeps_cons disconnects
    course.keeps_nil))

theorem keeps_openSocket (socketNamespace : SocketNamespace) (token : String)
    (creates : ∀ url, Keeps Allowed (does (.create url token))) (adds : ∀ core sockets socket,
      Allowed core { core with sockets := sockets, socket := some socket } [])
    (connects : ∀ index, Keeps Allowed (does (.connect index))) :
    Keeps Allowed (openSocket options socketNamespace token) := fun core =>
  course.keeps_cons (creates _) (course.keeps_cons (fun _ => adds _ _ _)
    (course.keeps_cons (connects _) course.keeps_nil)) core

theorem keeps_connectSocket (socketNamespace : SocketNamespace)
    (requires : Keeps Allowed (transition .authRequired))
    (refuses : Keeps Allowed (does (.error "socket_connect_error" "Missing access token")))
    (names : ∀ core, Allowed core { core with activeNamespace := socketNamespace } [])
    (connects : Keeps Allowed (transition .connect)) (drops : Keeps Allowed (dropSocket options))
    (opens : ∀ token, Keeps Allowed (openSocket options socketNamespace token)) :
    Keeps Allowed (connectSocket options socketNamespace) := by
  intro core
  unfold connectSocket
  split
  · exact course.keeps_cons requires (course.keeps_cons refuses course.keeps_nil) core
  · refine course.keeps_cons (fun _ => names _) (course.keeps_cons (fun core => ?_)
      course.keeps_nil) core
    split
    · exact connects core
    · exact course.keeps_cons drops (course.keeps_cons (opens _) course.keeps_nil) core

theorem keeps_onTimer (clears : Keeps Allowed clearReconnectTimer)
    (connects : ∀ name, Keeps Allowed (connectSocket options name)) :
    Keeps Allowed (onTimer options) := by
  intro core
  unfold onTimer
  split
  · refine course.keeps_cons clears (course.keeps_cons (fun core => ?_) course.keeps_nil) core
    split
    · exact connects _ core
    · exact course.nothing core
  · exact course.nothing core

theorem keeps_onConnectError (message : String) (degrades : Keeps Allowed (transition .degrade))
    (reports : Keeps Allowed (does (.error "socket_connect_error" message)))
    (schedules : Keeps Allowed scheduleReconnect) : Keeps Allowed (onConnectError message) :=
  course.keeps_cons degrades (course.keeps_cons reports (course.keeps_cons schedules
    course.keeps_nil))

theorem keeps_listener (index : Nat) {procedure : SocketNamespace → SdkProcedure}
    (each : ∀ name, Keeps Allowed (procedure name)) :
    Keeps Allowed (listener index procedure) := by
  intro core
  unfold listener
  split
  · exact course.nothing core
  · exact each _ core

end

end Sockets

section Events

section

variable (course : Course Allowed)
include course

theorem keeps_discard (item : OfflineQueueItem) (discards : Keeps Allowed (does (.onDiscard item)))
    (overflows : Keeps Allowed (does (.onQueueOverflow item))) :
    Keeps Allowed (discard options item) :=
  course.keeps_cons (course.keeps_doesWhen discards)
    (course.keeps_cons (course.keeps_doesWhen overflows) course.keeps_nil)

theorem keeps_enqueueOfflineEvent (item : OfflineQueueItem)
    (discards : ∀ item, Keeps Allowed (discard options item))
    (queues : ∀ core queue, Allowed core { core with offlineQueue := queue } []) :
    Keeps Allowed (enqueueOfflineEvent options item) := by
  intro core
  unfold enqueueOfflineEvent
  split
  · split
    · exact discards item core
    · refine course.keeps_cons ?_ (course.keeps_cons (fun _ => queues _ _) course.keeps_nil) core
      split
      · exact course.keeps_skip
      · exact course.keeps_cons (fun _ => queues _ _)
          (course.keeps_cons (discards _) course.keeps_nil)
  · exact queues core _

theorem keeps_send (eventId eventName : String) (message : Js.Record)
    (marks : ∀ core sent, Allowed core { core with sentEventIds := sent } [])
    (emits : ∀ index, Keeps Allowed (does (.emit index eventName message))) :
    Keeps Allowed (send options eventId eventName message) := by
  refine course.keeps_cons (fun _ => marks _ _) (course.keeps_cons (fun core => ?_)
    course.keeps_nil)
  unfold socketEmit
  split
  · exact course.nothing core
  · exact course.keeps_doesWhen (emits _) core

theorem keeps_emitSocketEvent (call : EmitCall) (degrades : Keeps Allowed (transition .degrade))
    (refuses : ∀ message, Keeps Allowed (does (.error "socket_emit_error" message)))
    (queues : ∀ item, Keeps Allowed (enqueueOfflineEvent options item))
    (sends : ∀ eventId eventName message, Keeps Allowed (send options eventId eventName message)) :
    Keeps Allowed (emitSocketEvent options call) := by
  intro core
  unfold emitSocketEvent
  split
  · exact refuses _ core
  split
  · exact course.nothing core
  split
  · refine course.keeps_cons degrades (course.keeps_cons ?_ course.keeps_nil) core
    split
    · exact queues _
    · exact refuses _
  · exact sends _ _ _ core

theorem keeps_replay (item : OfflineQueueItem) (calls : ∀ name,
      Keeps Allowed (does (.onReplayConflict item.eventId name "duplicate_replay")))
    (sends : ∀ eventId eventName message, Keeps Allowed (send options eventId eventName message)) :
    Keeps Allowed (replay options item) := by
  intro core
  unfold replay
  split
  · exact course.keeps_doesWhen (calls _) core
  · exact sends _ _ _ core

theorem keeps_replays (replays : ∀ item, Keeps Allowed (replay options item))
    (items : List OfflineQueueItem) :
    Keeps Allowed (inOrder (items.map (replay options))) := by
  induction items with
  | nil => exact course.keeps_nil
  | cons item rest ih => exact course.keeps_cons (replays item) ih

theorem keeps_flushOfflineQueue (now : ℚ)
    (empties : ∀ core, Allowed core { core with offlineQueue := [] } [])
    (replays : ∀ item, Keeps Allowed (replay options item)) :
    Keeps Allowed (flushOfflineQueue options now) := by
  intro core
  unfold flushOfflineQueue
  split
  · exact course.nothing core
  · exact course.keeps_cons (fun _ => empties _) (keeps_replays course replays _) core

theorem keeps_onConnect (socketNamespace : SocketNamespace) (now : ℚ)
    (clears : Keeps Allowed clearReconnectTimer) (connects : Keeps Allowed (transition .connect))
    (tells : Keeps Allowed (does (.socketConnected socketNamespace)))
    (flushes : Keeps Allowed (flushOfflineQueue options now)) :
    Keeps Allowed (onConnect options socketNamespace now) :=
  course.keeps_cons clears (course.keeps_cons connects (course.keeps_cons tells
    (course.keeps_cons flushes course.keeps_nil)))

end

end Events

section ServerEvents

variable {socketNamespace : SocketNamespace} {payload : Payload}

theorem keeps_handleSequenceProgress (course : Course Allowed) (calls : ∀ expected received,
      Keeps Allowed (does (.onSequenceGap socketNamespace expected received)))
    (reconciles : ∀ expected received,
      Keeps Allowed (does (.reconcileGap socketNamespace expected received)))
    (reports : ∀ expected received,
      Keeps Allowed (does (.sequenceGap socketNamespace expected received)))
    (counts : ∀ core last, Allowed core { core with lastSequenceByNamespace := last } []) :
    Keeps Allowed (handleSequenceProgress options socketNamespace payload) := by
  intro core
  unfold handleSequenceProgress
  split
  · exact course.nothing core
  · refine course.keeps_cons ?_ (course.keeps_cons (fun _ => counts _ _) course.keeps_nil) core
    split
    · exact course.keeps_skip
    · split
      · exact course.keeps_cons (course.keeps_doesWhen (calls _ _))
          (course.keeps_cons (reconciles _ _) (course.keeps_cons (reports _ _) course.keeps_nil))
      · exact course.keeps_skip

theorem keeps_handleReplayConflict (course : Course Allowed)
    (acknowledges : ∀ eventId, Keeps Allowed (acknowledge options socketNamespace eventId)) :
    Keeps Allowed (handleReplayConflict options socketNamespace payload) := by
  unfold handleReplayConflict
  split
  · exact course.keeps_skip
  · exact acknowledges _

theorem keeps_acknowledge (course : Course Allowed) (eventId : String)
    (calls : ∀ reason, Keeps Allowed (does (.onReplayConflict eventId socketNamespace reason)))
    (reports : Keeps Allowed (does (.replayConflict socketNamespace eventId)))
    (reconciles : Keeps Allowed (does (.reconcileAck socketNamespace eventId)))
    (takes : ∀ core acknowledged sent,
      Allowed core { core with acknowledgedEventIds := acknowledged, sentEventIds := sent } []) :
    Keeps Allowed (acknowledge options socketNamespace eventId) := by
  intro core
  unfold acknowledge
  split
  · exact course.keeps_cons (course.keeps_doesWhen (calls _))
      (course.keeps_cons reports (course.keeps_cons reconciles course.keeps_nil)) core
  · exact takes core _ _

theorem keeps_onServerEvent (course : Course Allowed) (eventName : String)
    (conflicts : Keeps Allowed (handleReplayConflict options socketNamespace payload))
    (reports : Keeps Allowed (reportEvent options socketNamespace eventName payload)) :
    Keeps Allowed (onServerEvent options socketNamespace eventName payload) := by
  intro core
  unfold onServerEvent
  split
  · refine course.keeps_cons conflicts (course.keeps_cons ?_ course.keeps_nil) core
    split
    · exact course.keeps_skip
    · exact reports
  · exact course.nothing core

end ServerEvents

section Sessions

section

variable (course : Course Allowed)
include course

theorem keeps_onSessionAnswer (errorType : String) (answer : SessionAnswer)
    (requires : Keeps Allowed (transition .authRequired))
    (reports : ∀ error, Keeps Allowed (does (.requestError errorType error)))
    (takes : ∀ core tokens, Allowed core { core with sessionTokens := some tokens } [])
    (connects : Keeps Allowed (transition .connect)) :
    Keeps Allowed (onSessionAnswer errorType answer) := by
  cases answer with
  | failed => exact course.keeps_skip
  | refused error =>
    exact course.keeps_cons requires (course.keeps_cons (reports _) course.keeps_nil)
  | accepted tokens =>
    exact course.keeps_cons (fun _ => takes _ _) (course.keeps_cons connects course.keeps_nil)

theorem keeps_createSession (boots : Keeps Allowed (transition .bootstrap))
    (counts : ∀ core number, Allowed core { core with creating := number } []) :
    Keeps Allowed (createSession options) := by
  unfold createSession
  split
  · exact course.keeps_skip
  · exact course.keeps_cons boots (course.keeps_cons (fun _ => counts _ _) course.keeps_nil)

theorem keeps_createAnswered (answer : SessionAnswer)
    (counts : ∀ core number, Allowed core { core with creating := number } [])
    (answers : Keeps Allowed (onSessionAnswer "session_create_error" answer)) :
    Keeps Allowed (createAnswered answer) := by
  intro core
  unfold createAnswered
  split
  · exact course.nothing core
  · exact course.keeps_cons (fun _ => counts _ _) (course.keeps_cons answers course.keeps_nil) core

theorem keeps_refreshSession (refreshes : Keeps Allowed (transition .refresh))
    (counts : ∀ core number, Allowed core { core with refreshing := number } [])
    (requires : Keeps Allowed (transition .authRequired))
    (refuses : ∀ message, Keeps Allowed (does (.error "token_refresh_error" message))) :
    Keeps Allowed refreshSession := by
  intro core
  unfold refreshSession
  split
  · exact course.keeps_cons refreshes
      (course.keeps_cons (fun _ => counts _ _) course.keeps_nil) core
  · exact course.keeps_cons requires (course.keeps_cons (refuses _) course.keeps_nil) core

theorem keeps_refreshAnswered (answer : SessionAnswer)
    (counts : ∀ core number, Allowed core { core with refreshing := number } [])
    (answers : Keeps Allowed (onSessionAnswer "token_refresh_error" answer)) :
    Keeps Allowed (refreshAnswered answer) := by
  intro core
  unfold refreshAnswered
  split
  · exact course.nothing core
  · exact course.keeps_cons (fun _ => counts _ _) (course.keeps_cons answers course.keeps_nil) core

end

theorem keeps_logoutSession
    (counts : ∀ core number, Allowed core { core with loggingOut := number } [])
    (requires : Keeps Allowed (transition .authRequired)) : Keeps Allowed logoutSession := by
  intro core
  unfold logoutSession
  split
  · exact counts core _
  · exact requires core

theorem keeps_logoutAnswered (course : Course Allowed) (ok : Bool)
    (counts : ∀ core number, Allowed core { core with loggingOut := number } [])
    (leaves : Keeps Allowed (edit fun core => { core with sessionTokens := none }))
    (disconnects : Keeps Allowed (disconnectSocket options))
    (clears : Keeps Allowed (edit fun core =>
      { core with sentEventIds := ∅, acknowledgedEventIds := ∅, offlineQueue := [] }))
    (requires : Keeps Allowed (transition .authRequired)) :
    Keeps Allowed (logoutAnswered options ok) := by
  intro core
  unfold logoutAnswered
  split
  · exact course.nothing core
  · refine course.keeps_cons (fun _ => counts _ _) (course.keeps_cons ?_ course.keeps_nil) core
    split
    · exact course.keeps_cons leaves (course.keeps_cons disconnects
        (course.keeps_cons clears (course.keeps_cons requires course.keeps_nil)))
    · exact course.keeps_skip

end Sessions

end Caas.Sdk.WebSdkCore

/-!
## What most methods of the web SDK leave alone

Events leave the SDK when they are passed to a socket or dropped, and sockets are opened;
most methods do neither, and leave the sent events and the queue as they are.
-/

namespace Caas.Sdk

open Procedure

namespace Effect

/-- An event is passed to a socket, or dropped and reported. -/
def delivers : Effect → Bool
  | .emit _ _ _ | .onDiscard _ | .onQueueOverflow _ => true
  | _ => false

/-- A socket is created or connected. -/
def opens : Effect → Bool
  | .create _ _ | .connect _ => true
  | _ => false

def calm (effect : Effect) : Bool := !effect.delivers && !effect.opens

end Effect

namespace WebSdkCore

variable {options : SdkCoreOptions} {ordinary ordinary' : Effect → Bool}

/-- The events are left alone, and all effects are ordinary. -/
structure Leaves (ordinary : Effect → Bool) (before after : WebSdkCore) (effects : List Effect) :
    Prop where
  sent : after.sentEventIds = before.sentEventIds
  queue : after.offlineQueue = before.offlineQueue
  effects : ∀ effect ∈ effects, ordinary effect = true

theorem leaves_course (ordinary : Effect → Bool) : Course (Leaves ordinary) where
  nothing _ := ⟨rfl, rfl, by simp⟩
  sequel first later := by
    refine ⟨later.sent.trans first.sent, later.queue.trans first.queue, fun effect member => ?_⟩
    rcases List.mem_append.mp member with early | late
    · exact first.effects effect early
    · exact later.effects effect late

theorem Leaves.mono {before after : WebSdkCore} {effects : List Effect}
    (leaves : Leaves ordinary before after effects)
    (implies : ∀ effect, ordinary effect = true → ordinary' effect = true) :
    Leaves ordinary' before after effects :=
  ⟨leaves.sent, leaves.queue, fun effect member => implies effect (leaves.effects effect member)⟩

/-- The procedure leaves the events alone and opens no socket. -/
abbrev IsCalm (procedure : SdkProcedure) : Prop := Keeps (Leaves Effect.calm) procedure

theorem calm_nil : IsCalm (inOrder []) := (leaves_course _).keeps_nil

theorem calm_cons {procedure : SdkProcedure} {rest : List SdkProcedure} (first : IsCalm procedure)
    (later : IsCalm (inOrder rest)) : IsCalm (inOrder (procedure :: rest)) :=
  (leaves_course _).keeps_cons first later

theorem calm_does {effect : Effect} (calm : effect.calm = true) : IsCalm (does effect) :=
  fun _ => ⟨rfl, rfl, List.forall_mem_singleton.mpr calm⟩

theorem calm_edit {change : WebSdkCore → WebSdkCore}
    (sent : ∀ core, (change core).sentEventIds = core.sentEventIds)
    (queue : ∀ core, (change core).offlineQueue = core.offlineQueue) : IsCalm (edit change) :=
  fun core => ⟨sent core, queue core, by simp [edit]⟩

theorem calm_skip : IsCalm skip := (leaves_course _).nothing

theorem calm_transition (event : EventType) : IsCalm (transition event) := by
  refine fun core => ⟨rfl, rfl, fun effect member => ?_⟩
  simp only [transition] at member
  split at member
  · cases List.mem_singleton.mp member
    rfl
  · cases member

theorem calm_setConnected (index : Nat) (connected : Bool) :
    IsCalm (setConnected index connected) := calm_edit (fun _ => rfl) fun _ => rfl

theorem calm_scheduleReconnect : IsCalm scheduleReconnect :=
  calm_edit (fun _ => rfl) fun _ => rfl

theorem calm_clearReconnectTimer : IsCalm clearReconnectTimer :=
  calm_edit (fun _ => rfl) fun _ => rfl

theorem calm_onDisconnect (socketNamespace : SocketNamespace) (reason : Option String) :
    IsCalm (onDisconnect socketNamespace reason) :=
  keeps_onDisconnect (leaves_course _) (calm_transition _) (calm_transition _)
    calm_scheduleReconnect (fun _ _ => calm_does rfl) socketNamespace reason

theorem calm_closeSocket (index : Nat) : IsCalm (closeSocket options index) :=
  keeps_closeSocket (leaves_course _) index (calm_does rfl) (calm_setConnected index false)
    calm_onDisconnect

theorem calm_dropSocket : IsCalm (dropSocket options) :=
  keeps_dropSocket (leaves_course _) calm_closeSocket
    (calm_edit (by intro; rfl) (by intro; rfl))

theorem calm_disconnectSocket : IsCalm (disconnectSocket options) :=
  keeps_disconnectSocket (leaves_course _) calm_clearReconnectTimer calm_dropSocket
    (calm_transition _)

theorem calm_onConnectError (message : String) : IsCalm (onConnectError message) :=
  keeps_onConnectError (leaves_course _) message (calm_transition _) (calm_does rfl)
    calm_scheduleReconnect

theorem leaves_silently {before after : WebSdkCore}
    (sent : after.sentEventIds = before.sentEventIds)
    (queue : after.offlineQueue = before.offlineQueue) : Leaves ordinary before after [] :=
  ⟨sent, queue, List.forall_mem_nil _⟩

theorem calm_onSessionAnswer (errorType : String) (answer : SessionAnswer) :
    IsCalm (onSessionAnswer errorType answer) :=
  keeps_onSessionAnswer (leaves_course _) errorType answer (calm_transition _)
    (fun _ => calm_does rfl) (fun _ _ => leaves_silently rfl rfl) (calm_transition _)

theorem calm_createSession : IsCalm (createSession options) :=
  keeps_createSession (leaves_course _) (calm_transition _) fun _ _ => leaves_silently rfl rfl

theorem calm_createAnswered (answer : SessionAnswer) : IsCalm (createAnswered answer) :=
  keeps_createAnswered (leaves_course _) answer (fun _ _ => leaves_silently rfl rfl)
    (calm_onSessionAnswer _ answer)

theorem calm_refreshSession : IsCalm refreshSession :=
  keeps_refreshSession (leaves_course _) (calm_transition _) (fun _ _ => leaves_silently rfl rfl)
    (calm_transition _) fun _ => calm_does rfl

theorem calm_refreshAnswered (answer : SessionAnswer) : IsCalm (refreshAnswered answer) :=
  keeps_refreshAnswered (leaves_course _) answer (fun _ _ => leaves_silently rfl rfl)
    (calm_onSessionAnswer _ answer)

theorem calm_logoutSession : IsCalm logoutSession :=
  keeps_logoutSession (fun _ _ => leaves_silently rfl rfl) (calm_transition _)

theorem calm_logoutRefused : IsCalm (logoutAnswered options false) := by
  intro core
  unfold logoutAnswered
  split
  · exact calm_skip core
  · exact calm_cons (calm_edit (by intro; rfl) (by intro; rfl)) (calm_cons calm_skip calm_nil) core

theorem calm_handleSequenceProgress (socketNamespace : SocketNamespace) (payload : Payload) :
    IsCalm (handleSequenceProgress options socketNamespace payload) :=
  keeps_handleSequenceProgress (leaves_course _) (fun _ _ => calm_does rfl)
    (fun _ _ => calm_does rfl) (fun _ _ => calm_does rfl) fun _ _ =>
      ⟨rfl, rfl, List.forall_mem_nil _⟩

theorem calm_listener (index : Nat) {procedure : SocketNamespace → SdkProcedure}
    (calm : ∀ socketNamespace, IsCalm (procedure socketNamespace)) :
    IsCalm (listener index procedure) := keeps_listener (leaves_course _) index calm

end WebSdkCore

end Caas.Sdk
