import Mathlib.Data.Finset.Insert
import Mathlib.Data.Finset.Erase
import Mathlib.Data.Finset.SDiff
import Caas.Js.Value
import Caas.Machine.Procedures

/-!
# The core of the web SDK

`WebSdkCore` and its `ConnectionStateMachine`: the session, the socket with its listeners,
the reconnect timer and the offline queue. Whatever happens to it is one input: a method of
the application, the answer to a request, a listener that a socket calls, or the timer. It
runs to its end before the next one; what it does to the sockets and tells the application
are its effects.

Sockets stand for those of `socketFactory`; one that has been replaced can still call its
listeners. The requests themselves are left out, and the copy of the queue that is kept in
the storage of the browser. Listeners of the application do not call back.
-/

namespace Caas.Sdk

open Js OrderedMap

inductive SdkConnectionState where
  | unauthenticated
  | tokenRefresh
  | connected
  | degraded
  | disconnected
deriving DecidableEq

inductive EventType where
  | bootstrap
  | refresh
  | connect
  | degrade
  | disconnect
  | authRequired
deriving DecidableEq

/-- The table of the `ConnectionStateMachine`. -/
def transitions : SdkConnectionState → EventType → Option SdkConnectionState
  | .unauthenticated, .bootstrap => some .tokenRefresh
  | .unauthenticated, .connect => some .connected
  | .unauthenticated, .authRequired => some .unauthenticated
  | .tokenRefresh, .connect => some .connected
  | .tokenRefresh, .degrade => some .degraded
  | .tokenRefresh, .disconnect => some .disconnected
  | .tokenRefresh, .authRequired => some .unauthenticated
  | .connected, .refresh => some .tokenRefresh
  | .connected, .degrade => some .degraded
  | .connected, .disconnect => some .disconnected
  | .connected, .authRequired => some .unauthenticated
  | .degraded, .refresh => some .tokenRefresh
  | .degraded, .connect => some .connected
  | .degraded, .disconnect => some .disconnected
  | .degraded, .authRequired => some .unauthenticated
  | .disconnected, .refresh => some .tokenRefresh
  | .disconnected, .connect => some .connected
  | .disconnected, .authRequired => some .unauthenticated
  | _, _ => none

inductive SocketNamespace where
  | chat
  | presence
  | webrtc
deriving DecidableEq

def SocketNamespace.name : SocketNamespace → String
  | .chat => "chat"
  | .presence => "presence"
  | .webrtc => "webrtc"

def DEFAULT_SOCKET_EVENT_MAP : SocketNamespace → List String
  | .chat => ["message", "user_typing", "message_delivered", "message_read"]
  | .presence => ["presence:update", "presence:online", "presence:offline"]
  | .webrtc => ["call:offer", "call:answer", "call:ice-candidate"]

def DEFAULT_OUTBOUND_EVENT_ALLOWLIST : List String :=
  ["joinRoom", "leaveRoom", "sendMessage", "typing_start", "typing_stop", "message_read",
    "messages_read", "message_delivered", "messages_delivered"]

/-- What is sent over a socket: an object, with its own fields, or any other value. -/
inductive Payload where
  | object (fields : Record)
  | other (value : Value)
deriving DecidableEq

def Payload.get (payload : Payload) (name : String) : Option Value :=
  match payload with
  | .object fields => OrderedMap.get fields name
  | .other _ => none

/-- The fields of the message that carries a payload. -/
def Payload.spread : Payload → Record
  | .object fields => fields
  | .other value => set empty "payload" value

structure OfflineQueueItem where
  eventId : String
  eventName : String
  payload : Payload
  queuedAt : ℚ
  idempotencyKey : String
deriving DecidableEq

inductive DiscardPolicy where
  | dropOldest
  | dropNewest
deriving DecidableEq

/-- Of the callbacks only whether they are given. -/
structure OfflineQueueConfig where
  enabled : Bool := false
  maxItems : Option ℚ := none
  replayWindowMs : Option ℚ := none
  discardPolicy : Option DiscardPolicy := none
  onSequenceGap : Bool := false
  onQueueOverflow : Bool := false
  onDiscard : Bool := false
  onReplayConflict : Bool := false

/-- What the code relies on in a socket: whether it has an `emit`, and what its `disconnect`
passes to the listener for it, if it calls that one, depending on whether it was connected. -/
structure SocketTraits where
  emits : Bool := true
  onDisconnect : Bool → Option (Option String)

structure SdkCoreOptions where
  socketBaseUrl : String
  outboundEventAllowlist : Option (List String) := none
  offlineQueue : OfflineQueueConfig := {}
  allowBrowserApiKey : Bool := false
  /-- There is a `window`. -/
  browser : Bool := false
  /-- The sockets that `socketFactory` makes, in turn. -/
  socketFactory : Nat → SocketTraits

structure SdkSocket where
  socketNamespace : SocketNamespace
  connected : Bool
deriving DecidableEq

structure SessionTokenBundle where
  accessToken : String
  refreshToken : String
deriving DecidableEq

/-- The fields of the class, with how many requests for a session are under way. -/
structure WebSdkCore where
  state : SdkConnectionState := .unauthenticated
  sessionTokens : Option SessionTokenBundle := none
  sockets : List SdkSocket := []
  socket : Option Nat := none
  reconnectTimer : Bool := false
  activeNamespace : SocketNamespace := .chat
  offlineQueue : List OfflineQueueItem := []
  sentEventIds : Finset String := ∅
  acknowledgedEventIds : Finset String := ∅
  lastSequenceByNamespace : OrderedMap SocketNamespace ℚ := .empty
  creating : Nat := 0
  refreshing : Nat := 0
  loggingOut : Nat := 0
deriving DecidableEq

/-- What an application is told of a request that was refused. -/
structure SdkRequestError where
  message : String
  code : String
  status : Nat
deriving DecidableEq

/-- What is done to the sockets, and what the application is told. -/
inductive Effect where
  | create (url token : String)
  | connect (socket : Nat)
  | disconnect (socket : Nat)
  | emit (socket : Nat) (eventName : String) (message : Record)
  | onDiscard (dropped : OfflineQueueItem)
  | onQueueOverflow (dropped : OfflineQueueItem)
  | onReplayConflict (eventId : String) (socketNamespace : SocketNamespace) (reason : String)
  | onSequenceGap (socketNamespace : SocketNamespace) (expected received : ℚ)
  | stateChange (previous next : SdkConnectionState) (event : EventType)
  | error (type message : String)
  | requestError (type : String) (error : SdkRequestError)
  | replayConflict (socketNamespace : SocketNamespace) (eventId : String)
  | sequenceGap (socketNamespace : SocketNamespace) (expected received : ℚ)
  | reconcileGap (socketNamespace : SocketNamespace) (expected received : ℚ)
  | reconcileAck (socketNamespace : SocketNamespace) (eventId : String)
  | socketConnected (socketNamespace : SocketNamespace)
  | socketDisconnected (socketNamespace : SocketNamespace) (reason : Option String)
  | socketEvent (socketNamespace : SocketNamespace) (eventName : String) (payload : Payload)
deriving DecidableEq

/-- The arguments of `emitSocketEvent`, with the ids that are drawn when none are given and
the time. -/
structure EmitCall where
  eventName : String
  payload : Payload
  eventId : Option String := none
  idempotencyKey : Option String := none
  allowOfflineQueue : Option Bool := none
  drawnEventId : String
  drawnIdempotencyKey : String
  now : ℚ
deriving DecidableEq

namespace EmitCall

/-- The id of the event; an empty one counts as none. -/
def chosenEventId (call : EmitCall) : String :=
  (call.eventId.filter (· ≠ "")).getD call.drawnEventId

def chosenIdempotencyKey (call : EmitCall) : String :=
  (call.idempotencyKey.filter (· ≠ "")).getD call.drawnIdempotencyKey

end EmitCall

/-- How a request for a session ends: it fails, or is refused, or gives tokens. -/
inductive SessionAnswer where
  | failed
  | refused (error : SdkRequestError)
  | accepted (tokens : SessionTokenBundle)
deriving DecidableEq

namespace WebSdkCore

abbrev SdkProcedure := Procedure WebSdkCore Effect

open Procedure

variable (options : SdkCoreOptions)

def new (restored : List OfflineQueueItem) : WebSdkCore :=
  { offlineQueue := if options.offlineQueue.enabled then restored else [] }

def transition (event : EventType) : SdkProcedure := fun core =>
  let next := (transitions core.state event).getD core.state
  ({ core with state := next },
    if next ≠ core.state then [.stateChange core.state next event] else [])

/-- The access token of the session, unless it is empty. -/
def accessToken (core : WebSdkCore) : Option String :=
  (core.sessionTokens.map (·.accessToken)).filter (· ≠ "")

def isConnected (core : WebSdkCore) : Bool :=
  (core.socket.bind fun index => core.sockets[index]?).any (·.connected)

def scheduleReconnect : SdkProcedure := edit fun core => { core with reconnectTimer := true }

def clearReconnectTimer : SdkProcedure := edit fun core => { core with reconnectTimer := false }

def setConnected (index : Nat) (connected : Bool) : SdkProcedure := edit fun core =>
  { core with sockets := core.sockets.modify index fun socket => { socket with connected } }

/-- The listener for `disconnect`. -/
def onDisconnect (socketNamespace : SocketNamespace) (reason : Option String) : SdkProcedure :=
  if reason = some "io server disconnect" then
    inOrder [transition .disconnect, does (.socketDisconnected socketNamespace reason)]
  else
    inOrder [transition .degrade, scheduleReconnect,
      does (.socketDisconnected socketNamespace reason)]

/-- `disconnect()` of the socket of the index, with the listener if it is called. -/
def closeSocket (index : Nat) : SdkProcedure := fun core =>
  match core.sockets[index]? with
  | none => (core, [])
  | some socket =>
    inOrder [does (.disconnect index), setConnected index false,
      match (options.socketFactory index).onDisconnect socket.connected with
      | none => skip
      | some reason => onDisconnect socket.socketNamespace reason] core

/-- Disconnect the socket, if there is one, and forget it. -/
def dropSocket : SdkProcedure := fun core =>
  match core.socket with
  | none => (core, [])
  | some index =>
    inOrder [closeSocket options index, edit fun core => { core with socket := none }] core

/-- `socketFactory` and `connect`. -/
def openSocket (socketNamespace : SocketNamespace) (token : String) : SdkProcedure := fun core =>
  let index := core.sockets.length
  inOrder [does (.create (options.socketBaseUrl ++ "/" ++ socketNamespace.name) token),
    edit fun core => { core with
      sockets := core.sockets ++ [⟨socketNamespace, false⟩]
      socket := some index },
    does (.connect index)] core

def connectSocket (socketNamespace : SocketNamespace) : SdkProcedure := fun core =>
  match core.accessToken with
  | none =>
    inOrder [transition .authRequired,
      does (.error "socket_connect_error" "Missing access token")] core
  | some token =>
    inOrder [edit fun core => { core with activeNamespace := socketNamespace },
      fun core =>
        if core.isConnected then transition .connect core
        else inOrder [dropSocket options, openSocket options socketNamespace token] core] core

def disconnectSocket : SdkProcedure :=
  inOrder [clearReconnectTimer, dropSocket options, transition .disconnect]

/-- Tell the application that an item has been dropped. -/
def discard (item : OfflineQueueItem) : SdkProcedure :=
  inOrder [doesWhen options.offlineQueue.onDiscard (.onDiscard item),
    doesWhen options.offlineQueue.onQueueOverflow (.onQueueOverflow item)]

/-- A missing bound, and zero, are the default. -/
def maxItems : ℚ := (options.offlineQueue.maxItems.filter (· ≠ 0)).getD 200

def enqueueOfflineEvent (item : OfflineQueueItem) : SdkProcedure := fun core =>
  if maxItems options ≤ core.offlineQueue.length then
    if options.offlineQueue.discardPolicy.getD .dropOldest = .dropNewest then
      discard options item core
    else
      inOrder [
        match core.offlineQueue with
        | [] => skip
        | dropped :: _ => inOrder [edit fun core =>
            { core with offlineQueue := core.offlineQueue.tail }, discard options dropped],
        edit fun core => { core with offlineQueue := core.offlineQueue ++ [item] }] core
  else ({ core with offlineQueue := core.offlineQueue ++ [item] }, [])

def outboundMessage (payload : Payload) (eventId idempotencyKey : String) : Record :=
  set (set payload.spread "client_event_id" (.string eventId))
    "idempotency_key" (.string idempotencyKey)

/-- `this.socket.emit?.(eventName, message)`. -/
def socketEmit (eventName : String) (message : Record) : SdkProcedure := fun core =>
  match core.socket with
  | none => (core, [])
  | some index =>
    doesWhen (options.socketFactory index).emits (.emit index eventName message) core

/-- The event becomes a sent one and is passed to the socket. -/
def send (eventId eventName : String) (message : Record) : SdkProcedure :=
  inOrder [edit fun core => { core with sentEventIds := insert eventId core.sentEventIds },
    socketEmit options eventName message]

def allowlisted (eventName : String) : Bool :=
  eventName ∈ options.outboundEventAllowlist.getD DEFAULT_OUTBOUND_EVENT_ALLOWLIST

def emitSocketEvent (call : EmitCall) : SdkProcedure := fun core =>
  if allowlisted options call.eventName = false then
    (core, [.error "socket_emit_error" ("Unsupported outbound event: " ++ call.eventName)])
  else if call.chosenEventId ∈ core.sentEventIds then (core, [])
  else if core.isConnected = false then
    inOrder [transition .degrade,
      if call.allowOfflineQueue.getD true && options.offlineQueue.enabled then
        enqueueOfflineEvent options
          ⟨call.chosenEventId, call.eventName, call.payload, call.now, call.chosenIdempotencyKey⟩
      else does (.error "socket_emit_error" "Socket is not connected")] core
  else
    send options (call.chosenEventId) call.eventName
      (outboundMessage call.payload (call.chosenEventId) (call.chosenIdempotencyKey)) core

/-- A missing window, and zero, are five minutes. -/
def replayWindowMs : ℚ := (options.offlineQueue.replayWindowMs.filter (· ≠ 0)).getD 300000

def replayable (now : ℚ) (item : OfflineQueueItem) : Bool :=
  now - item.queuedAt ≤ replayWindowMs options

/-- Replay an item of the queue, unless its event has been sent. -/
def replay (item : OfflineQueueItem) : SdkProcedure := fun core =>
  if item.eventId ∈ core.sentEventIds then
    doesWhen options.offlineQueue.onReplayConflict
      (.onReplayConflict item.eventId core.activeNamespace "duplicate_replay") core
  else
    send options item.eventId item.eventName
      (set (outboundMessage item.payload item.eventId item.idempotencyKey)
        "replayed" (.boolean true)) core

def flushOfflineQueue (now : ℚ) : SdkProcedure := fun core =>
  if core.isConnected = false then (core, [])
  else
    inOrder ((edit fun core => { core with offlineQueue := [] }) ::
      (core.offlineQueue.filter (replayable options now)).map (replay options)) core

/-- The listener for `connect`. -/
def onConnect (socketNamespace : SocketNamespace) (now : ℚ) : SdkProcedure :=
  inOrder [clearReconnectTimer, transition .connect, does (.socketConnected socketNamespace),
    flushOfflineQueue options now]

/-- The listener for `connect_error`. -/
def onConnectError (message : String) : SdkProcedure :=
  inOrder [transition .degrade, does (.error "socket_connect_error" message), scheduleReconnect]

/-- The id of the event that a message from the server is about. -/
def clientEventId (payload : Payload) : Option String :=
  match payload.get "client_event_id" with
  | some (.string eventId) => if eventId = "" then none else some eventId
  | _ => none

/-- The sequence number of a message from the server. -/
def sequence (payload : Payload) : Option ℚ :=
  match payload.get "sequence" with
  | some (.number (.finite number)) => some number
  | _ => none

def handleSequenceProgress (socketNamespace : SocketNamespace) (payload : Payload) : SdkProcedure :=
  fun core =>
  match sequence payload with
  | none => (core, [])
  | some received =>
    inOrder [
      match get core.lastSequenceByNamespace socketNamespace with
      | none => skip
      | some last =>
        if last + 1 < received then
          inOrder [
            doesWhen options.offlineQueue.onSequenceGap
              (.onSequenceGap socketNamespace (last + 1) received),
            does (.reconcileGap socketNamespace (last + 1) received),
            does (.sequenceGap socketNamespace (last + 1) received)]
        else skip,
      edit fun core => { core with
        lastSequenceByNamespace :=
          set core.lastSequenceByNamespace socketNamespace received }] core

/-- A second acknowledgement is a conflict; the first takes the event out of the sent ones. -/
def acknowledge (socketNamespace : SocketNamespace) (eventId : String) : SdkProcedure := fun core =>
  if eventId ∈ core.acknowledgedEventIds then
    inOrder [
      doesWhen options.offlineQueue.onReplayConflict
        (.onReplayConflict eventId socketNamespace "duplicate_ack"),
      does (.replayConflict socketNamespace eventId),
      does (.reconcileAck socketNamespace eventId)] core
  else
    ({ core with
      acknowledgedEventIds := insert eventId core.acknowledgedEventIds
      sentEventIds := core.sentEventIds.erase eventId }, [])

/-- `handleReplayConflict` returns `true`. -/
def conflicts (core : WebSdkCore) (payload : Payload) : Bool :=
  (clientEventId payload).any (· ∈ core.acknowledgedEventIds)

/-- What `handleReplayConflict` does. -/
def handleReplayConflict (socketNamespace : SocketNamespace) (payload : Payload) : SdkProcedure :=
  match clientEventId payload with
  | none => skip
  | some eventId => acknowledge options socketNamespace eventId

def reportEvent (socketNamespace : SocketNamespace) (eventName : String) (payload : Payload) :
    SdkProcedure :=
  inOrder [handleSequenceProgress options socketNamespace payload,
    does (.socketEvent socketNamespace eventName payload)]

def onServerEvent (socketNamespace : SocketNamespace) (eventName : String) (payload : Payload) :
    SdkProcedure := fun core =>
  if eventName ∈ DEFAULT_SOCKET_EVENT_MAP socketNamespace then
    inOrder [handleReplayConflict options socketNamespace payload,
      if core.conflicts payload then skip
      else reportEvent options socketNamespace eventName payload] core
  else (core, [])

def onTimer : SdkProcedure := fun core =>
  if core.reconnectTimer then
    inOrder [clearReconnectTimer, fun core =>
      if core.state = .degraded then connectSocket options core.activeNamespace core
      else (core, [])] core
  else (core, [])

/-- `createSession` up to its request. -/
def createSession : SdkProcedure :=
  if options.browser && !options.allowBrowserApiKey then skip
  else inOrder [transition .bootstrap, edit fun core => { core with creating := core.creating + 1 }]

/-- What a session method does with the answer to its request. -/
def onSessionAnswer (errorType : String) : SessionAnswer → SdkProcedure
  | .failed => skip
  | .refused error => inOrder [transition .authRequired, does (.requestError errorType error)]
  | .accepted tokens =>
    inOrder [edit fun core => { core with sessionTokens := some tokens }, transition .connect]

/-- The rest of `createSession`. -/
def createAnswered (answer : SessionAnswer) : SdkProcedure := fun core =>
  if core.creating = 0 then (core, [])
  else
    inOrder [edit fun core => { core with creating := core.creating - 1 },
      onSessionAnswer "session_create_error" answer] core

/-- `refreshSession` up to its request. -/
def refreshSession : SdkProcedure := fun core =>
  if ((core.sessionTokens.map (·.refreshToken)).filter (· ≠ "")).isSome then
    inOrder [transition .refresh, edit fun core => { core with refreshing := core.refreshing + 1 }]
      core
  else
    inOrder [transition .authRequired,
      does (.error "token_refresh_error" "Cannot refresh session without refresh_token")] core

/-- The rest of `refreshSession`. -/
def refreshAnswered (answer : SessionAnswer) : SdkProcedure := fun core =>
  if core.refreshing = 0 then (core, [])
  else
    inOrder [edit fun core => { core with refreshing := core.refreshing - 1 },
      onSessionAnswer "token_refresh_error" answer] core

/-- `logoutSession` up to its request; without a session it returns at once. -/
def logoutSession : SdkProcedure := fun core =>
  if core.accessToken.isSome then ({ core with loggingOut := core.loggingOut + 1 }, [])
  else transition .authRequired core

/-- The rest of `logoutSession`. -/
def logoutAnswered (ok : Bool) : SdkProcedure := fun core =>
  if core.loggingOut = 0 then (core, [])
  else
    inOrder [edit fun core => { core with loggingOut := core.loggingOut - 1 },
      if ok then
        inOrder [edit fun core => { core with sessionTokens := none }, disconnectSocket options,
          edit fun core => { core with
            sentEventIds := ∅
            acknowledgedEventIds := ∅
            offlineQueue := [] },
          transition .authRequired]
      else skip] core

/-- What happens to the SDK; `createAnswered` and the like are the answers to requests, and
the last five are what a socket does. -/
inductive Input where
  | emitSocketEvent (call : EmitCall)
  | connectSocket (socketNamespace : SocketNamespace)
  | disconnectSocket
  | createSession
  | createAnswered (answer : SessionAnswer)
  | refreshSession
  | refreshAnswered (answer : SessionAnswer)
  | logoutSession
  | logoutAnswered (ok : Bool)
  | timer
  | setConnected (index : Nat) (connected : Bool)
  | connectEvent (index : Nat) (now : ℚ)
  | disconnectEvent (index : Nat) (reason : Option String)
  | connectErrorEvent (index : Nat) (message : String)
  | serverEvent (index : Nat) (eventName : String) (payload : Payload)
deriving DecidableEq

def listener (index : Nat) (procedure : SocketNamespace → SdkProcedure) : SdkProcedure :=
  fun core =>
  match core.sockets[index]? with
  | none => (core, [])
  | some socket => procedure socket.socketNamespace core

def react : Input → SdkProcedure
  | .emitSocketEvent call => emitSocketEvent options call
  | .connectSocket socketNamespace => connectSocket options socketNamespace
  | .disconnectSocket => disconnectSocket options
  | .createSession => createSession options
  | .createAnswered answer => createAnswered answer
  | .refreshSession => refreshSession
  | .refreshAnswered answer => refreshAnswered answer
  | .logoutSession => logoutSession
  | .logoutAnswered ok => logoutAnswered options ok
  | .timer => onTimer options
  | .setConnected index connected => setConnected index connected
  | .connectEvent index now => listener index fun name => onConnect options name now
  | .disconnectEvent index reason => listener index fun name => onDisconnect name reason
  | .connectErrorEvent index message => listener index fun _ => onConnectError message
  | .serverEvent index eventName payload =>
    listener index fun name => onServerEvent options name eventName payload

def machine : Transducer WebSdkCore Input (List Effect) where
  step core input := react options input core

end WebSdkCore

end Caas.Sdk
