import Caas.Sdk.MethodRules

/-!
# What follows an explicit disconnect

`disconnectSocket` clears the reconnect timer before it disconnects the socket, whose
listener sets the timer again. When that fires, only the connection state stands between
it and a new socket, and the methods for the session lead out of the state in which the
disconnect has left the SDK.
-/

namespace Caas.Sdk.WebSdkCore

open Procedure

variable {options : SdkCoreOptions}

section Methods

/-- No socket is created or connected. -/
abbrev Shut : WebSdkCore → WebSdkCore → List Effect → Prop := Without Effect.opens

theorem shut_course : Course Shut := without_course Effect.opens

theorem IsCalm.shut {procedure : SdkProcedure} (calm : IsCalm procedure) :
    Keeps Shut procedure := by
  intro core effect member
  have quiet := (calm core).effects effect member
  simp only [Effect.calm, Bool.and_eq_true, Bool.not_eq_true'] at quiet
  exact quiet.2

theorem shut_send (eventId eventName : String) (message : Js.Record) :
    Keeps Shut (send options eventId eventName message) :=
  keeps_send shut_course eventId eventName message (fun _ _ => List.forall_mem_nil _)
    fun _ => without_does rfl

theorem shut_emitSocketEvent (call : EmitCall) : Keeps Shut (emitSocketEvent options call) := by
  have discards (item : OfflineQueueItem) : Keeps Shut (discard options item) :=
    keeps_discard shut_course item (without_does rfl) (without_does rfl)
  have queues (item : OfflineQueueItem) : Keeps Shut (enqueueOfflineEvent options item) :=
    keeps_enqueueOfflineEvent shut_course item discards fun _ _ => List.forall_mem_nil _
  exact keeps_emitSocketEvent shut_course call (calm_transition _).shut
    (fun _ => without_does rfl) queues shut_send

theorem shut_onConnect (socketNamespace : SocketNamespace) (now : ℚ) :
    Keeps Shut (onConnect options socketNamespace now) := by
  have replays (item : OfflineQueueItem) : Keeps Shut (replay options item) :=
    keeps_replay shut_course item (fun _ => without_does rfl) shut_send
  exact keeps_onConnect shut_course socketNamespace now calm_clearReconnectTimer.shut
    (calm_transition _).shut (without_does rfl)
    (keeps_flushOfflineQueue shut_course now (fun _ => List.forall_mem_nil _) replays)

theorem shut_onServerEvent (socketNamespace : SocketNamespace) (eventName : String)
    (payload : Payload) :
    Keeps Shut (onServerEvent options socketNamespace eventName payload) := by
  have acknowledges (eventId : String) :
      Keeps Shut (acknowledge options socketNamespace eventId) :=
    keeps_acknowledge shut_course eventId (fun _ => without_does rfl) (without_does rfl)
      (without_does rfl) fun _ _ _ => List.forall_mem_nil _
  have reports : Keeps Shut (reportEvent options socketNamespace eventName payload) :=
    shut_course.keeps_cons (calm_handleSequenceProgress _ payload).shut
      (shut_course.keeps_cons (without_does rfl) shut_course.keeps_nil)
  exact keeps_onServerEvent shut_course eventName
    (keeps_handleReplayConflict shut_course acknowledges) reports

theorem shut_logoutAnswered (ok : Bool) : Keeps Shut (logoutAnswered options ok) :=
  keeps_logoutAnswered shut_course ok (fun _ _ => List.forall_mem_nil _) (without_edit _)
    calm_disconnectSocket.shut (without_edit _) (calm_transition _).shut

theorem shut_listener (index : Nat) {procedure : SocketNamespace → SdkProcedure}
    (shut : ∀ socketNamespace, Keeps Shut (procedure socketNamespace)) :
    Keeps Shut (listener index procedure) := keeps_listener shut_course index shut

end Methods

section Reconnect

variable {core : WebSdkCore}

/-- The timer fires, and finds the SDK degraded, with a session and without a connected
socket. -/
def Reconnects (core : WebSdkCore) : Input → Prop
  | .timer => core.reconnectTimer = true ∧ core.state = .degraded ∧
      core.accessToken.isSome = true ∧ core.isConnected = false
  | _ => False

theorem openSocket_opens (options : SdkCoreOptions) (core : WebSdkCore)
    (socketNamespace : SocketNamespace) (token : String) :
    ∃ effect ∈ (openSocket options socketNamespace token core).2, effect.opens = true :=
  ⟨.create (options.socketBaseUrl ++ "/" ++ socketNamespace.name) token, List.mem_cons_self, rfl⟩

theorem connectSocket_opens (options : SdkCoreOptions) (socketNamespace : SocketNamespace)
    (session : core.accessToken.isSome = true) (offline : core.isConnected = false) :
    ∃ effect ∈ (connectSocket options socketNamespace core).2, effect.opens = true := by
  obtain ⟨token, found⟩ := Option.isSome_iff_exists.mp session
  obtain ⟨effect, member, opens⟩ := openSocket_opens options
    (dropSocket options { core with activeNamespace := socketNamespace }).1 socketNamespace token
  refine ⟨effect, ?_, opens⟩
  have away : { core with activeNamespace := socketNamespace }.isConnected = false := offline
  simp only [connectSocket, found, inOrder, edit, skip, away, Bool.false_eq_true, if_false,
    List.nil_append, List.append_nil]
  exact List.mem_append_right _ member

theorem shut_connectSocket (socketNamespace : SocketNamespace)
    (closed : ¬ (core.accessToken.isSome = true ∧ core.isConnected = false)) :
    Shut core (connectSocket options socketNamespace core).1
      (connectSocket options socketNamespace core).2 := by
  unfold connectSocket
  split
  · exact shut_course.keeps_cons (calm_transition _).shut
      (shut_course.keeps_cons (without_does rfl) shut_course.keeps_nil) core
  · next token found =>
    have online : { core with activeNamespace := socketNamespace }.isConnected = true := by
      refine Bool.eq_true_of_not_eq_false fun offline => closed ⟨?_, offline⟩
      rw [found]
      rfl
    simp only [inOrder, edit, skip, online, if_true, List.nil_append, List.append_nil]
    exact (calm_transition _).shut _

theorem onTimer_opens (options : SdkCoreOptions) (reconnects : Reconnects core .timer) :
    ∃ effect ∈ (onTimer options core).2, effect.opens = true := by
  obtain ⟨armed, degraded, session, offline⟩ := reconnects
  have session' : (clearReconnectTimer core).1.accessToken.isSome = true := session
  have offline' : (clearReconnectTimer core).1.isConnected = false := offline
  obtain ⟨effect, member, opens⟩ :=
    connectSocket_opens options core.activeNamespace session' offline'
  refine ⟨effect, ?_, opens⟩
  unfold onTimer
  rw [if_pos armed, inOrder_cons, inOrder_cons]
  refine List.mem_append_right _ (List.mem_append_left _ ?_)
  exact (if_pos degraded).symm ▸ member

theorem shut_onTimer (closed : ¬ Reconnects core .timer) :
    Shut core (onTimer options core).1 (onTimer options core).2 := by
  unfold onTimer
  split
  · next armed =>
    have fires (cleared : WebSdkCore) (same : cleared = (clearReconnectTimer core).1) :
        Shut cleared
          (if cleared.state = .degraded then connectSocket options cleared.activeNamespace cleared
            else (cleared, [])).1
          (if cleared.state = .degraded then connectSocket options cleared.activeNamespace cleared
            else (cleared, [])).2 := by
      subst same
      split
      · next degraded =>
        exact shut_connectSocket _ fun both => closed ⟨armed, degraded, both.1, both.2⟩
      · exact shut_course.nothing _
    exact shut_course.sequel (calm_clearReconnectTimer.shut core)
      (shut_course.sequel (fires _ rfl) (shut_course.nothing _))
  · exact shut_course.nothing core

theorem shut_react {input : Input}
    (other : ∀ socketNamespace, input ≠ .connectSocket socketNamespace)
    (closed : ¬ Reconnects core input) :
    Shut core (react options input core).1 (react options input core).2 := by
  cases input with
  | connectSocket socketNamespace => exact (other socketNamespace rfl).elim
  | timer => exact shut_onTimer closed
  | emitSocketEvent call => exact shut_emitSocketEvent call core
  | disconnectSocket => exact calm_disconnectSocket.shut core
  | createSession => exact calm_createSession.shut core
  | createAnswered answer => exact (calm_createAnswered answer).shut core
  | refreshSession => exact calm_refreshSession.shut core
  | refreshAnswered answer => exact (calm_refreshAnswered answer).shut core
  | logoutSession => exact calm_logoutSession.shut core
  | logoutAnswered ok => exact shut_logoutAnswered ok core
  | setConnected index connected => exact (calm_setConnected index connected).shut core
  | connectEvent index now => exact shut_listener index (fun _ => shut_onConnect _ now) core
  | disconnectEvent index reason =>
    exact shut_listener index (fun _ => (calm_onDisconnect _ reason).shut) core
  | connectErrorEvent index message =>
    exact shut_listener index (fun _ => (calm_onConnectError message).shut) core
  | serverEvent index eventName payload =>
    exact shut_listener index (fun _ => shut_onServerEvent _ eventName payload) core

theorem shut_react_iff {input : Input}
    (other : ∀ socketNamespace, input ≠ .connectSocket socketNamespace) :
    Shut core (react options input core).1 (react options input core).2 ↔
      ¬ Reconnects core input := by
  refine ⟨fun shut reconnects => ?_, shut_react other⟩
  cases input with
  | timer =>
    obtain ⟨effect, member, opens⟩ := onTimer_opens options reconnects
    rw [shut effect member] at opens
    cases opens
  | _ => exact reconnects

end Reconnect

section Runs

/-- `disconnectSocket` or `logoutSession` returns: a disconnect always does, a logout without a
session does at once, and otherwise when it is granted. -/
def Returns (core : WebSdkCore) : Input → Prop
  | .disconnectSocket => True
  | .logoutSession => core.accessToken = none
  | .logoutAnswered ok => ok = true ∧ core.loggingOut ≠ 0
  | _ => False

/-- No socket is created or connected in the run. -/
def StaysShut (options : SdkCoreOptions) (core : WebSdkCore) (inputs : List Input) : Prop :=
  ∀ effect ∈ ((machine options).outputs core inputs).flatten, effect.opens = false

theorem staysShut_iff {core : WebSdkCore} {inputs : List Input}
    (others : ∀ socketNamespace, .connectSocket socketNamespace ∉ inputs) :
    StaysShut options core inputs ↔
      (machine options).Admits (fun core input => ¬ Reconnects core input) core inputs := by
  induction inputs generalizing core with
  | nil => exact iff_of_true (List.forall_mem_nil _) trivial
  | cons input rest ih =>
    have first : Shut core (react options input core).1 (react options input core).2 ↔
        ¬ Reconnects core input :=
      shut_react_iff fun name => (List.ne_of_not_mem_cons (others name)).symm
    have later := @ih (react options input core).1 fun name =>
      List.not_mem_of_not_mem_cons (others name)
    unfold StaysShut
    rw [Transducer.outputs_cons, List.flatten_cons, List.forall_mem_append]
    exact and_congr first later

end Runs

section Rest

/-- The state in which the SDK is left: only a session method, or a socket that connects after
all, leads out of it. -/
def Resting (core : WebSdkCore) : Prop := core.state = .unauthenticated ∨ core.state = .disconnected

abbrev KeepsRest (procedure : SdkProcedure) : Prop :=
  Keeps (fun before after _ => before.Resting → after.Resting) procedure

theorem rest_course : Course fun (before after : WebSdkCore) (_ : List Effect) =>
    before.Resting → after.Resting :=
  ⟨fun _ => id, fun first later => later ∘ first⟩

theorem rest_does (effect : Effect) : KeepsRest (does effect) := fun _ => id

theorem rest_edit {change : WebSdkCore → WebSdkCore}
    (same : ∀ core, (change core).state = core.state) : KeepsRest (edit change) := by
  intro core resting
  change (change core).state = _ ∨ (change core).state = _
  rw [same]
  exact resting

theorem rest_transition {event : EventType}
    (kind : event = .degrade ∨ event = .disconnect ∨ event = .authRequired) :
    KeepsRest (transition event) := by
  rintro core (state | state) <;> rcases kind with rfl | rfl | rfl <;>
    simp [transition, Resting, state, transitions]

theorem rest_onDisconnect (socketNamespace : SocketNamespace) (reason : Option String) :
    KeepsRest (onDisconnect socketNamespace reason) :=
  keeps_onDisconnect rest_course (rest_transition (by simp)) (rest_transition (by simp))
    (rest_edit (by intro; rfl)) (fun _ _ => rest_does _) socketNamespace reason

theorem rest_dropSocket : KeepsRest (dropSocket options) := by
  have closes (index : Nat) : KeepsRest (closeSocket options index) :=
    keeps_closeSocket rest_course index (rest_does _) (rest_edit (by intro; rfl)) rest_onDisconnect
  exact keeps_dropSocket rest_course closes (rest_edit (by intro; rfl))

theorem rest_disconnectSocket : KeepsRest (disconnectSocket options) :=
  keeps_disconnectSocket rest_course (rest_edit (by intro; rfl)) rest_dropSocket
    (rest_transition (by simp))

theorem rest_emitSocketEvent (call : EmitCall) : KeepsRest (emitSocketEvent options call) := by
  have discards (item : OfflineQueueItem) : KeepsRest (discard options item) :=
    keeps_discard rest_course item (rest_does _) (rest_does _)
  have queues (item : OfflineQueueItem) : KeepsRest (enqueueOfflineEvent options item) :=
    keeps_enqueueOfflineEvent rest_course item discards fun _ _ => id
  have sends (eventId eventName : String) (message : Js.Record) :
      KeepsRest (send options eventId eventName message) :=
    keeps_send rest_course eventId eventName message (fun _ _ => id) fun _ => rest_does _
  exact keeps_emitSocketEvent rest_course call (rest_transition (by simp)) (fun _ => rest_does _)
    queues sends

theorem rest_onConnectError (message : String) : KeepsRest (onConnectError message) :=
  keeps_onConnectError rest_course message (rest_transition (by simp)) (rest_does _)
    (rest_edit (by intro; rfl))

theorem rest_onServerEvent (socketNamespace : SocketNamespace) (eventName : String)
    (payload : Payload) : KeepsRest (onServerEvent options socketNamespace eventName payload) := by
  have acknowledges (eventId : String) :
      KeepsRest (acknowledge options socketNamespace eventId) :=
    keeps_acknowledge rest_course eventId (fun _ => rest_does _) (rest_does _) (rest_does _)
      fun _ _ _ => id
  have progresses : KeepsRest (handleSequenceProgress options socketNamespace payload) :=
    keeps_handleSequenceProgress rest_course (fun _ _ => rest_does _) (fun _ _ => rest_does _)
      (fun _ _ => rest_does _) fun _ _ => id
  exact keeps_onServerEvent rest_course eventName
    (keeps_handleReplayConflict rest_course acknowledges)
    (rest_course.keeps_cons progresses
      (rest_course.keeps_cons (rest_does _) rest_course.keeps_nil))

theorem rest_logoutSession : KeepsRest logoutSession :=
  keeps_logoutSession (fun _ _ => id) (rest_transition (by simp))

theorem rest_logoutAnswered (ok : Bool) : KeepsRest (logoutAnswered options ok) :=
  keeps_logoutAnswered rest_course ok (fun _ _ => id) (rest_edit (by intro; rfl))
    rest_disconnectSocket (rest_edit (by intro; rfl)) (rest_transition (by simp))

theorem rest_onTimer : KeepsRest (onTimer options) := by
  intro core resting
  have calm : core.state ≠ .degraded := by
    rcases resting with state | state <;> rw [state] <;> decide
  unfold onTimer
  split
  · change (if core.state = .degraded then _ else _ : WebSdkCore × List Effect).1.Resting
    rw [if_neg calm]
    exact resting
  · exact resting

theorem rest_listener (index : Nat) {procedure : SocketNamespace → SdkProcedure}
    (rest : ∀ socketNamespace, KeepsRest (procedure socketNamespace)) :
    KeepsRest (listener index procedure) := keeps_listener rest_course index rest

/-- No method for the session, nor an answer to one, and no socket that connects. -/
def Input.undisturbing : Input → Bool
  | .connectSocket _ | .createSession | .createAnswered _ | .refreshSession | .refreshAnswered _
  | .connectEvent _ _ => false
  | _ => true

theorem rest_react {input : Input} (undisturbing : input.undisturbing = true) :
    KeepsRest (react options input) := by
  cases input with
  | emitSocketEvent call => exact rest_emitSocketEvent call
  | disconnectSocket => exact rest_disconnectSocket
  | logoutSession => exact rest_logoutSession
  | logoutAnswered ok => exact rest_logoutAnswered ok
  | timer => exact rest_onTimer
  | setConnected index connected => exact rest_edit (by intro; rfl)
  | disconnectEvent index reason => exact rest_listener index fun _ => rest_onDisconnect _ reason
  | connectErrorEvent index message =>
    exact rest_listener index fun _ => rest_onConnectError message
  | serverEvent index eventName payload =>
    exact rest_listener index fun _ => rest_onServerEvent _ eventName payload
  | _ => cases undisturbing

theorem resting_after_disconnect (core : WebSdkCore) :
    ((transition .disconnect core).1.Resting) := by
  cases state : core.state <;> simp [transition, Resting, state, transitions]

theorem resting_after_authRequired (core : WebSdkCore) :
    ((transition .authRequired core).1.Resting) := by
  cases state : core.state <;> simp [transition, Resting, state, transitions]

theorem Returns.resting {core : WebSdkCore} {ending : Input} (returns : Returns core ending) :
    (react options ending core).1.Resting := by
  cases ending with
  | disconnectSocket => exact resting_after_disconnect _
  | logoutSession =>
    have anonymous : ¬ core.accessToken.isSome = true :=
      Option.not_isSome_iff_eq_none.mpr returns
    change (logoutSession core).1.Resting
    rw [logoutSession, if_neg anonymous]
    exact resting_after_authRequired core
  | logoutAnswered ok =>
    obtain ⟨granted, pending⟩ := returns
    change (logoutAnswered options ok core).1.Resting
    rw [logoutAnswered, if_neg pending, if_pos granted]
    exact resting_after_authRequired _
  | _ => cases returns

theorem Resting.not_reconnects {core : WebSdkCore} (resting : core.Resting) (input : Input) :
    ¬ Reconnects core input := by
  intro reconnects
  cases input with
  | timer =>
    rcases resting with state | state <;> rw [reconnects.2.1] at state <;> cases state
  | _ => exact reconnects

/-- A disconnect or a logout is final as long as the application calls no method for the session
and no socket connects after all: whatever it emits, and whenever the timer fires. -/
theorem disconnect_is_final_at_rest (options : SdkCoreOptions) (core : WebSdkCore)
    {ending : Input} (returns : Returns core ending) {inputs : List Input}
    (undisturbed : ∀ input ∈ inputs, input.undisturbing = true) :
    StaysShut options (react options ending core).1 inputs := by
  have others (socketNamespace : SocketNamespace) : .connectSocket socketNamespace ∉ inputs :=
    fun member => Bool.false_ne_true (undisturbed _ member)
  refine (staysShut_iff others).mpr ?_
  have quiet : (machine options).Admits (fun _ input => input.undisturbing = true)
      (react options ending core).1 inputs := Transducer.admits_of_mem undisturbed
  exact quiet.imp (fun _ _ resting kind => rest_react kind _ resting)
    (fun _ input resting _ => resting.not_reconnects input) returns.resting

end Rest

section Sample

instance (core : WebSdkCore) (input : Input) : Decidable (Reconnects core input) :=
  match input with
  | .timer => inferInstanceAs (Decidable (_ ∧ _ ∧ _ ∧ _))
  | .emitSocketEvent _ | .connectSocket _ | .disconnectSocket | .createSession | .createAnswered _
  | .refreshSession | .refreshAnswered _ | .logoutSession | .logoutAnswered _ | .setConnected _ _
  | .connectEvent _ _ | .disconnectEvent _ _ | .connectErrorEvent _ _ | .serverEvent _ _ _ =>
    .isFalse nofun

instance {core : WebSdkCore} {inputs : List Input} : Decidable (StaysShut options core inputs) :=
  inferInstanceAs (Decidable (∀ effect ∈ _, _))

def callingOptions : SdkCoreOptions where
  socketBaseUrl := "ws://socket:3001"
  socketFactory _ := { onDisconnect := fun _ => some (some "io client disconnect") }

def online : WebSdkCore :=
  (machine callingOptions).run (new callingOptions [])
    [.createSession, .createAnswered (.accepted ⟨"access", "refresh"⟩), .connectSocket .chat,
      .setConnected 0 true, .connectEvent 0 0]

def typing : Input :=
  .emitSocketEvent
    { eventName := "typing_start", payload := .object .empty
      drawnEventId := "evt_0", drawnIdempotencyKey := "idem_0", now := 1 }

def refreshed : List Input :=
  [.refreshSession, .refreshAnswered (.accepted ⟨"access2", "refresh2"⟩)]

/-- Typing and the timer bring no socket back. -/
theorem disconnect_is_final_while_typing :
    StaysShut callingOptions (react callingOptions .disconnectSocket online).1 [typing, .timer] :=
  @disconnect_is_final_at_rest callingOptions online .disconnectSocket trivial [typing, .timer]
    (by decide)

end Sample

end Caas.Sdk.WebSdkCore
