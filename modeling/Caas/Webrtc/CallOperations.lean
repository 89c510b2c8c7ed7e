import Caas.Async.Pool
import Caas.Redis.ExpiringMap

/-!
# Calls

A call is one record in Redis. Each operation on it reads the record, checks it and writes it
back whole: answering, rejecting, adding and removing participants, ending, and the timeout
that `initiateCall` sets for a call that nobody answers. A call that has been ended is saved
to the history and deleted.

`JSON.stringify` and `JSON.parse` of a record are the identity; the code between two awaits is
part of the reply to the first, which comes with the time. Redis does not fail. A timeout is
an operation that starts by itself.
-/

namespace Caas.Webrtc

open Async hiding Call
open Program Js Redis

inductive CallStatus where
  | initiating
  | ringing
  | answered
  | connected
  | ended
  | rejected
  | missed
deriving DecidableEq

def CallStatus.text : CallStatus → String
  | .initiating => "initiating"
  | .ringing => "ringing"
  | .answered => "answered"
  | .connected => "connected"
  | .ended => "ended"
  | .rejected => "rejected"
  | .missed => "missed"

inductive MediaType where
  | audio
  | video
  | screen
deriving DecidableEq

inductive CallType where
  | oneToOne
  | group
deriving DecidableEq

inductive EndReason where
  | userHangup
  | timeout
  | error
  | networkFailure
  | rejected
  | cancelled
  | busy
deriving DecidableEq

inductive ParticipantStatus where
  | calling
  | ringing
  | connected
  | disconnected
deriving DecidableEq

structure CallParticipant where
  userId : String
  joinedAt : Option Nat := none
  leftAt : Option Nat := none
  status : ParticipantStatus
deriving DecidableEq

structure Call where
  id : String
  type : CallType
  status : CallStatus
  callerId : String
  participants : List CallParticipant
  mediaType : MediaType
  tenantId : String
  createdAt : Nat
  startedAt : Option Nat := none
  endedAt : Option Nat := none
  endReason : Option EndReason := none
  endedBy : Option String := none
deriving DecidableEq

/-- What is inserted into the history. -/
structure CallRecord where
  callId : String
  type : CallType
  participants : List CallParticipant
  callerId : String
  mediaType : MediaType
  tenantId : String
  createdAt : Nat
  startedAt : Option Nat
  endedAt : Option Nat
  durationSeconds : Option Int
  endReason : EndReason
  endedBy : Option String
deriving DecidableEq

inductive CallNotice where
  | ended (callId endedBy : String) (reason : EndReason) (endedAt : Nat)
  | participantLeft (callId userId : String) (leftAt : Option Nat)
deriving DecidableEq

structure CallState where
  now : Nat
  calls : ExpiringMap String Call
  history : List CallRecord
  sent : List CallNotice

/-- What an operation awaits; calls are named by the rest of their keys. -/
inductive CallCommand where
  | keys
  | get (callId : String)
  | set (call : Call)
  | del (callId : String)
  /-- `randomUUID()`, where it is drawn. -/
  | randomUUID
  | insertOne (record : CallRecord)
  | emit (notice : CallNotice)

def CallCommand.Reply : CallCommand → Type
  | .keys => List String
  | .get _ => Option Call × Nat
  | .set _ => Unit
  | .del _ => Unit
  | .randomUUID => String × Nat
  | .insertOne _ => Outcome Unit
  | .emit _ => Unit

abbrev CallProgram := Program CallCommand CallCommand.Reply

def await (command : CallCommand) : CallProgram command.Reply := Program.command command

/-- What a command is executed in: what is drawn, and how an insertion ends. -/
structure CallOracle where
  uuid : String
  insertion : Outcome Unit

def exec (state : CallState) (command : CallCommand) (oracle : CallOracle) :
    CallState × command.Reply :=
  match command with
  | .keys =>
    (state, (state.calls.entries.filter fun entry => entry.2.live state.now).map Prod.fst)
  | .get callId => (state, (state.calls.lookup state.now callId, state.now))
  | .set call =>
    ({ state with calls := state.calls.store state.now call.id (24 * 60 * 60) call }, ())
  | .del callId => ({ state with calls := OrderedMap.delete state.calls callId }, ())
  | .randomUUID => (state, (oracle.uuid, state.now))
  | .insertOne record =>
    match oracle.insertion with
    | .ok () => ({ state with history := state.history ++ [record] }, .ok ())
    | .error error => (state, .error error)
  | .emit notice => ({ state with sent := state.sent ++ [notice] }, ())

/-- Change the participant that `find` finds, if there is one. -/
def updateParticipant (userId : String) (change : CallParticipant → CallParticipant) :
    List CallParticipant → List CallParticipant
  | [] => []
  | participant :: rest =>
    if participant.userId = userId then change participant :: rest
    else participant :: updateParticipant userId change rest

def Call.participant? (call : Call) (userId : String) : Option CallParticipant :=
  call.participants.find? fun participant => participant.userId = userId

def Call.participantIds (call : Call) : List String := call.participants.map (·.userId)

theorem participantIds_update {userId : String} {change : CallParticipant → CallParticipant}
    (same : ∀ participant, (change participant).userId = participant.userId)
    (participants : List CallParticipant) :
    (updateParticipant userId change participants).map (·.userId) =
      participants.map (·.userId) := by
  induction participants with
  | nil => rfl
  | cons participant rest ih =>
    unfold updateParticipant
    split
    · simp [same]
    · simp [ih]

def Call.activeParticipants (call : Call) : List CallParticipant :=
  call.participants.filter fun participant =>
    participant.status = .connected ∨ participant.status = .calling

namespace CallStore

def saveCall (call : Call) : CallProgram Unit := await (.set call)

def getCall (callId : String) : CallProgram (Option Call × Nat) := await (.get callId)

def deleteCall (callId : String) : CallProgram Unit := await (.del callId)

def isActiveFor (userId : String) (call : Call) : Bool :=
  call.status ≠ .ended ∧ call.status ≠ .rejected ∧
    ((call.participants.any fun participant => participant.userId = userId) ∨
      call.callerId = userId)

theorem isActiveFor_iff {userId : String} {call : Call} :
    isActiveFor userId call = true ↔ call.status ≠ .ended ∧ call.status ≠ .rejected ∧
      (userId ∈ call.participantIds ∨ call.callerId = userId) := by
  simp [isActiveFor, Call.participantIds]

/-- The loop of `getActiveCallsForUser`. -/
def collectActiveCalls (userId : String) (activeCalls : List Call) :
    List String → CallProgram (List Call)
  | [] => pure activeCalls
  | key :: rest => do
    let (data, _) ← getCall key
    collectActiveCalls userId (activeCalls ++ data.toList.filter (isActiveFor userId)) rest

def getActiveCallsForUser (userId : String) : CallProgram (List Call) := do
  let keys : List String ← await .keys
  collectActiveCalls userId [] keys

end CallStore

namespace CallManager

open CallStore

def initiateCall (callerId calleeId : String) (mediaType : MediaType) (tenantId : String) :
    CallProgram Call := do
  let activeCalls ← getActiveCallsForUser callerId
  if activeCalls.length > 0 then .failure "User is already in an active call"
  else do
    let calleeActiveCalls ← getActiveCallsForUser calleeId
    if calleeActiveCalls.length > 0 then .failure "Callee is busy"
    else do
      let (callId, now) ← await .randomUUID
      let call : Call :=
        { id := callId, type := .oneToOne, status := .ringing, callerId, mediaType, tenantId
          participants := [{ userId := callerId, status := .calling, joinedAt := some now },
            { userId := calleeId, status := .ringing }]
          createdAt := now }
      saveCall call
      pure call

def answerCall (callId userId : String) : CallProgram Call := do
  let (call, now) ← getCall callId
  match call with
  | none => .failure "Call not found"
  | some call =>
    if call.status ≠ .ringing then
      .failure s!"Call is not ringing (status: {call.status.text})"
    else
      match call.participant? userId with
      | none => .failure "User is not a participant in this call"
      | some _ => do
        let call := { call with
          participants := updateParticipant userId (fun participant =>
            { participant with status := .connected, joinedAt := some now }) call.participants
          status := .answered
          startedAt := some now }
        saveCall call
        pure call

def rejectCall (callId userId : String) : CallProgram Unit := do
  let (call, now) ← getCall callId
  match call with
  | none => .failure "Call not found"
  | some call =>
    if call.status ≠ .ringing then .failure "Call is not ringing"
    else
      saveCall { call with
        status := .rejected
        endedAt := some now
        endReason := some .rejected
        endedBy := some userId }

def addParticipant (callId userId : String) : CallProgram Call := do
  let (call, _) ← getCall callId
  match call with
  | none => .failure "Call not found"
  | some call =>
    if call.type ≠ .group then .failure "Can only add participants to group calls"
    else
      match call.participant? userId with
      | some _ => .failure "User is already a participant"
      | none => do
        let call := { call with
          participants := call.participants ++ [{ userId, status := .ringing }] }
        saveCall call
        pure call

/-- What the timer of `scheduleRingingTimeout` does. -/
def ringingTimeout (callId : String) : CallProgram Unit := do
  let (call, now) ← getCall callId
  match call with
  | none => pure ()
  | some call =>
    if call.status = .ringing then
      saveCall { call with
        status := .missed
        endedAt := some now
        endReason := some .timeout }
    else pure ()

end CallManager

namespace GroupCallManager

open CallStore

def createGroupCall (creatorId : String) (participantIds : List String) (mediaType : MediaType)
    (tenantId : String) : CallProgram Call := do
  let (callId, now) ← await .randomUUID
  let call : Call :=
    { id := callId, type := .group, status := .ringing, callerId := creatorId, mediaType, tenantId
      participants := { userId := creatorId, status := .calling, joinedAt := some now } ::
        participantIds.map fun userId => { userId, status := .ringing }
      createdAt := now }
  saveCall call
  pure call

def addParticipant (callId userId : String) : CallProgram Call := do
  let (call, _) ← getCall callId
  match call with
  | none => .failure "Call not found"
  | some call =>
    if call.type ≠ .group then .failure "Can only add participants to group calls"
    else
      match call.participant? userId with
      | some existingParticipant =>
        if existingParticipant.status = .disconnected then do
          let call := { call with
            participants := updateParticipant userId (fun participant =>
              { participant with status := .calling, leftAt := none }) call.participants }
          saveCall call
          pure call
        else .failure "User is already a participant"
      | none => do
        let call := { call with
          participants := call.participants ++ [{ userId, status := .ringing }] }
        saveCall call
        pure call

def removeParticipant (callId userId : String) : CallProgram Call := do
  let (call, now) ← getCall callId
  match call with
  | none => .failure "Call not found"
  | some call =>
    match call.participant? userId with
    | none => .failure "User is not a participant"
    | some _ => do
      let call := { call with
        participants := updateParticipant userId (fun participant =>
          { participant with status := .disconnected, leftAt := some now }) call.participants }
      saveCall call
      pure call

def answerGroupCall (callId userId : String) : CallProgram Call := do
  let (call, now) ← getCall callId
  match call with
  | none => .failure "Call not found"
  | some call =>
    if call.type ≠ .group then .failure "Not a group call"
    else
      match call.participant? userId with
      | none => .failure "User is not invited to this call"
      | some _ => do
        let call := { call with
          participants := updateParticipant userId (fun participant =>
            { participant with status := .connected, joinedAt := some now }) call.participants }
        let call :=
          if call.status = .ringing then { call with status := .answered, startedAt := some now }
          else call
        saveCall call
        pure call

end GroupCallManager

/-- Whether there is a collection for the history. -/
structure CallHistoryConfig where
  callHistoryCollection : Bool

variable (config : CallHistoryConfig)

namespace CallHistorySaver

open CallStore

def record (call : Call) : CallRecord where
  callId := call.id
  type := call.type
  participants := call.participants
  callerId := call.callerId
  mediaType := call.mediaType
  tenantId := call.tenantId
  createdAt := call.createdAt
  startedAt := call.startedAt
  endedAt := call.endedAt
  durationSeconds := do
    let startedAt ← call.startedAt
    let endedAt ← call.endedAt
    some (((endedAt : Int) - startedAt) / 1000)
  endReason := call.endReason.getD .userHangup
  endedBy := call.endedBy

def saveCallHistory (callId : String) : CallProgram Unit := do
  let (call, _) ← getCall callId
  match call with
  | none => pure ()
  | some call => do
    if config.callHistoryCollection then do
      let inserted : Outcome Unit ← await (.insertOne (record call))
      orThrow inserted
    deleteCall callId

end CallHistorySaver

namespace CallTerminator

open CallStore

def endCall (callId endedBy : String) (reason : EndReason) : CallProgram Unit := do
  let (call, now) ← getCall callId
  match call with
  | none => pure ()
  | some call =>
    if call.status = .ended ∨ call.status = .rejected then pure ()
    else do
      saveCall { call with
        status := .ended
        endedAt := some now
        endReason := some reason
        endedBy := some endedBy }
      let _ ← await (.emit (.ended callId endedBy reason now))
      CallHistorySaver.saveCallHistory config callId

def endCallForUser (callId userId : String) : CallProgram Unit := do
  let (call, now) ← getCall callId
  match call with
  | none => pure ()
  | some call => do
    let call := { call with
      participants := updateParticipant userId (fun participant =>
        { participant with status := .disconnected, leftAt := some now }) call.participants }
    if call.type = .oneToOne then endCall config callId userId .userHangup
    else do
      saveCall call
      let _ ← await (.emit (.participantLeft callId userId
        ((call.participant? userId).bind (·.leftAt))))
      if call.activeParticipants.length = 0 then endCall config callId userId .userHangup
      else pure ()

/-- The loop of `handleDisconnect`. -/
def endCallsForUser (userId : String) : List Call → CallProgram Unit
  | [] => pure ()
  | call :: rest => do
    let _ ← endCallForUser config call.id userId
    endCallsForUser userId rest

def handleDisconnect (userId : String) : CallProgram Unit :=
  catching
    (do
      let activeCalls ← getActiveCallsForUser userId
      endCallsForUser config userId activeCalls)
    fun _ => pure ()

end CallTerminator

inductive CallOperation where
  | initiateCall (callerId calleeId : String) (mediaType : MediaType) (tenantId : String)
  | answerCall (callId userId : String)
  | rejectCall (callId userId : String)
  | addParticipant (callId userId : String)
  | ringingTimeout (callId : String)
  | endCall (callId endedBy : String) (reason : EndReason)
  | endCallForUser (callId userId : String)
  | handleDisconnect (userId : String)
  | createGroupCall (creatorId : String) (participantIds : List String) (mediaType : MediaType)
    (tenantId : String)
  | addGroupParticipant (callId userId : String)
  | removeParticipant (callId userId : String)
  | answerGroupCall (callId userId : String)

/-- What an operation returns: the call that it has made or changed, if it returns one. -/
def returning (program : CallProgram Call) : CallProgram (Option Call) := do
  let call ← program
  pure (some call)

def finishing (program : CallProgram Unit) : CallProgram (Option Call) := do
  let _ ← program
  pure none

def body : CallOperation → CallProgram (Option Call)
  | .initiateCall callerId calleeId mediaType tenantId =>
    returning (CallManager.initiateCall callerId calleeId mediaType tenantId)
  | .answerCall callId userId => returning (CallManager.answerCall callId userId)
  | .rejectCall callId userId => finishing (CallManager.rejectCall callId userId)
  | .addParticipant callId userId => returning (CallManager.addParticipant callId userId)
  | .ringingTimeout callId => finishing (CallManager.ringingTimeout callId)
  | .endCall callId endedBy reason => finishing (CallTerminator.endCall config callId endedBy reason)
  | .endCallForUser callId userId =>
    finishing (CallTerminator.endCallForUser config callId userId)
  | .handleDisconnect userId => finishing (CallTerminator.handleDisconnect config userId)
  | .createGroupCall creatorId participantIds mediaType tenantId =>
    returning (GroupCallManager.createGroupCall creatorId participantIds mediaType tenantId)
  | .addGroupParticipant callId userId =>
    returning (GroupCallManager.addParticipant callId userId)
  | .removeParticipant callId userId =>
    returning (GroupCallManager.removeParticipant callId userId)
  | .answerGroupCall callId userId => returning (GroupCallManager.answerGroupCall callId userId)

/-- The operations on calls; time passes between commands. -/
def host : Host CallState CallCommand CallCommand.Reply CallOracle Nat CallOperation
    (Option Call) where
  exec := exec
  change state elapsed := { state with now := state.now + elapsed }
  body := body config

end Caas.Webrtc

/-!
## The events of calls

What the sockets of the WebRTC namespace ask for: a call is initiated, answered, rejected or hung
up, and when a socket disconnects, the active calls of its user are ended. A handler answers with
the message of the error when an operation throws, and does nothing when the gate refuses the
event. Ringing timeouts run beside the handlers.

Nothing is relayed to other sockets here, and no socket joins a room.
-/

namespace Caas.Webrtc

open Async hiding Call

structure SocketUser where
  userId : String
  tenantId : String
deriving DecidableEq

inductive WebrtcEvent where
  | initiate (calleeId : String) (mediaType : MediaType)
  | answer (callId : String)
  | reject (callId : String)
  | hangup (callId : String)

def WebrtcEvent.name : WebrtcEvent → String
  | .initiate _ _ => "call:initiate"
  | .answer _ => "call:answer"
  | .reject _ => "call:reject"
  | .hangup _ => "call:hangup"

inductive EventResponse where
  | ok (message : String) (call : Option Call)
  | error (message : String)

/-- What makes a handler run, and the timer of a call. -/
inductive WebrtcInput where
  | event (user : SocketUser) (event : WebrtcEvent)
  | disconnect (user : SocketUser)
  | ringingTimeout (callId : String)

def WebrtcInput.user? : WebrtcInput → Option SocketUser
  | .event user _ => some user
  | .disconnect user => some user
  | .ringingTimeout _ => none

/-- The message with which the gate refuses an event, if it does. -/
abbrev EventGate := SocketUser → String → Option String

variable (config : CallHistoryConfig) (gate : EventGate)

namespace WebrtcNamespace

def initiate (user : SocketUser) (calleeId : String) (mediaType : MediaType) :
    CallProgram EventResponse := do
  let call ← CallManager.initiateCall user.userId calleeId mediaType user.tenantId
  pure (.ok "Call initiated" (some call))

def answer (user : SocketUser) (callId : String) : CallProgram EventResponse := do
  let call ← CallManager.answerCall callId user.userId
  pure (.ok "Call answered" (some call))

def reject (user : SocketUser) (callId : String) : CallProgram EventResponse := do
  let _ ← CallManager.rejectCall callId user.userId
  pure (.ok "Call rejected" none)

def hangup (user : SocketUser) (callId : String) : CallProgram EventResponse := do
  let _ ← CallTerminator.endCall config callId user.userId .userHangup
  pure (.ok "Call ended" none)

/-- What is done for an event once the gate has let it pass. -/
def perform (user : SocketUser) : WebrtcEvent → CallProgram EventResponse
  | .initiate calleeId mediaType => initiate user calleeId mediaType
  | .answer callId => answer user callId
  | .reject callId => reject user callId
  | .hangup callId => hangup config user callId

def handle (user : SocketUser) (event : WebrtcEvent) : CallProgram EventResponse :=
  match gate user event.name with
  | some message => pure (.error message)
  | none => Program.catching (perform config user event) fun error => pure (.error error)

end WebrtcNamespace

def webrtcBody : WebrtcInput → CallProgram (Option EventResponse)
  | .event user event => do
    let response ← WebrtcNamespace.handle config gate user event
    pure (some response)
  | .disconnect user => do
    let _ ← CallTerminator.handleDisconnect config user.userId
    pure none
  | .ringingTimeout callId => do
    let _ ← CallManager.ringingTimeout callId
    pure none

/-- The events of calls; time passes between commands. -/
def webrtcHost : Host CallState CallCommand CallCommand.Reply CallOracle Nat WebrtcInput
    (Option EventResponse) where
  exec := exec
  change state elapsed := { state with now := state.now + elapsed }
  body := webrtcBody config gate

def Call.calleeId? (call : Call) : Option String := call.participantIds[1]?

end Caas.Webrtc
