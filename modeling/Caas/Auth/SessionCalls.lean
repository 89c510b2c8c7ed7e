import Caas.Async.Fallible
import Caas.Async.Histories
import Caas.Auth.SessionStore

/-!
# Session calls in progress

The operations of the session store and the validation of sessions, command by command:
between two commands of a call other calls may run and time may pass. A call whose commands
follow each other at one time does what `SessionStore` says of it.
-/

namespace Caas.Auth

open Async Program Redis

/-- What the operations on one session await: keys of sessions, the index of a user's
sessions, and the clock. -/
inductive SessionCommand where
  | sessions (command : StringCommand String Session)
  | srem (userId sessionId : String)
  | now

namespace SessionCommand

def Reply : SessionCommand → Type
  | .sessions command => command.Reply
  | .srem _ _ | .now => Nat

end SessionCommand

abbrev SessionProgram := Program SessionCommand SessionCommand.Reply

/-- `await` on a command. -/
def SessionCommand.await (command : SessionCommand) : SessionProgram command.Reply :=
  Program.command command

structure SessionServer where
  now : Nat
  keys : SessionKeys

def SessionServer.exec (server : SessionServer) :
    (command : SessionCommand) → Unit → SessionServer × command.Reply
  | .sessions command, _ =>
    let (sessions, reply) := command.exec server.keys.sessions server.now
    ({ server with keys.sessions := sessions }, reply)
  | .srem userId sessionId, _ =>
    ({ server with
        keys := SessionStore.removeFromUserIndex server.keys server.now userId sessionId },
      if sessionId ∈ SessionStore.getUserSessionIds server.keys server.now userId then (1 : Nat)
      else (0 : Nat))
  | .now, _ => (server, server.now)

structure ValidationOptions where
  checkExpiry : Bool := true
  checkActive : Bool := true
deriving DecidableEq

structure SessionValidation where
  valid : Bool
  session : Option Session := none
  reason : Option String := none
deriving DecidableEq

namespace SessionCalls

def get (sessionId : String) : SessionProgram (Option Session) := do
  let data : Option Session ← SessionCommand.await (.sessions (.get sessionId))
  match data with
  | none => return none
  | some data => return some (← orThrow (SessionSerializer.deserialize data))

def storeSession (session : Session) : SessionProgram Unit := do
  let now : Nat ← SessionCommand.await .now
  let ttl := SessionStore.timeToLive now session
  if 0 < ttl then
    orThrow (← SessionCommand.await (.sessions (.setex session.id ttl session)))

/-- What changes a session that exists and stores it again. -/
def restore (sessionId : String) (change : Session → SessionProgram Session) :
    SessionProgram (Option Session) := do
  match ← get sessionId with
  | none => return none
  | some session =>
    let changed ← change session
    storeSession changed
    return some changed

def orNotFound (sessionId : String) : Option Session → SessionProgram Session
  | none => failure (SessionStore.notFound sessionId)
  | some session => return session

def updated (updates : SessionUpdates) (session : Session) : Session :=
  { session with
    tenantId := updates.tenantId.getD session.tenantId
    deviceId := updates.deviceId.getD session.deviceId
    deviceInfo := updates.deviceInfo.getD session.deviceInfo
    ipAddress := updates.ipAddress.getD session.ipAddress
    location := updates.location.or session.location
    mfaVerified := updates.mfaVerified.getD session.mfaVerified }

def update (sessionId : String) (updates : SessionUpdates) : SessionProgram Session := do
  orNotFound sessionId (← restore sessionId fun session => return updated updates session)

def updateLastActivity (sessionId : String) : SessionProgram Unit := do
  let _ ← restore sessionId fun session => do
    let now : Nat ← SessionCommand.await .now
    return { session with lastActivity := now }

def renew (sessionId : String) (extensionMs : Int) : SessionProgram Session := do
  orNotFound sessionId (← restore sessionId fun session => do
    let now : Nat ← SessionCommand.await .now
    return { session with expiresAt := now + extensionMs })

def deactivate (sessionId : String) : SessionProgram Unit := do
  let _ ← restore sessionId fun session => return { session with isActive := false }

def delete (sessionId : String) : SessionProgram Unit := do
  match ← get sessionId with
  | none => return ()
  | some session =>
    let _ ← SessionCommand.await (.sessions (.del sessionId))
    let _ ← SessionCommand.await (.srem session.userId sessionId)

/-- The validator's check of the expiry, which is its last. -/
def validateExpiry (session : Session) (options : ValidationOptions) :
    SessionProgram SessionValidation := do
  if options.checkExpiry then
    let now : Nat ← SessionCommand.await .now
    if session.expiresAt ≤ now then
      return { valid := false, session := some session, reason := some "Session has expired" }
    else return { valid := true, session := some session }
  else return { valid := true, session := some session }

def validate (session : Session) (options : ValidationOptions) :
    SessionProgram SessionValidation :=
  if options.checkActive && !session.isActive then
    return { valid := false, session := some session, reason := some "Session is inactive" }
  else validateExpiry session options

def validateSession (sessionId : String) (options : ValidationOptions) :
    SessionProgram SessionValidation := do
  match ← get sessionId with
  | none => return { valid := false, reason := some "Session not found" }
  | some session =>
    let validation ← validate session options
    if validation.valid then updateLastActivity sessionId
    return validation

end SessionCalls

inductive SessionCall where
  | get (sessionId : String)
  | update (sessionId : String) (updates : SessionUpdates)
  | updateLastActivity (sessionId : String)
  | renew (sessionId : String) (extensionMs : Int)
  | deactivate (sessionId : String)
  | delete (sessionId : String)
  | validateSession (sessionId : String) (options : ValidationOptions)

def SessionCall.sessionId : SessionCall → String
  | .get sessionId | .update sessionId _ | .updateLastActivity sessionId | .renew sessionId _
  | .deactivate sessionId | .delete sessionId | .validateSession sessionId _ => sessionId

inductive SessionAnswer where
  | session (found : Option Session)
  | validation (validation : SessionValidation)
  | done
deriving DecidableEq

def sessionCall : SessionCall → SessionProgram SessionAnswer
  | .get sessionId => do return .session (← SessionCalls.get sessionId)
  | .update sessionId updates => do
    return .session (some (← SessionCalls.update sessionId updates))
  | .updateLastActivity sessionId => do
    SessionCalls.updateLastActivity sessionId
    return .done
  | .renew sessionId extensionMs => do
    return .session (some (← SessionCalls.renew sessionId extensionMs))
  | .deactivate sessionId => do
    SessionCalls.deactivate sessionId
    return .done
  | .delete sessionId => do
    SessionCalls.delete sessionId
    return .done
  | .validateSession sessionId options => do
    return .validation (← SessionCalls.validateSession sessionId options)

/-- Concurrent calls; outside of them only time passes, by a number of milliseconds. -/
def sessionHost : Host SessionServer SessionCommand SessionCommand.Reply Unit Nat SessionCall
    SessionAnswer where
  exec := SessionServer.exec
  change server elapsed := { server with now := server.now + elapsed }
  body := sessionCall

section Alone

/-- The call of the store as a call in progress, unless it creates a session. -/
def SessionCall.ofStore : SessionStore.Call → Option SessionCall
  | .create _ _ => none
  | .update sessionId updates => some (.update sessionId updates)
  | .updateLastActivity sessionId => some (.updateLastActivity sessionId)
  | .renew sessionId extensionMs => some (.renew sessionId extensionMs)
  | .deactivate sessionId => some (.deactivate sessionId)
  | .delete sessionId => some (.delete sessionId)

def SessionAnswer.session? : SessionAnswer → Option Session
  | .session found => found
  | .validation _ | .done => none

variable {server : SessionServer} {sessionId : String} {number : Nat}

open SessionCalls

/-- A program whose commands follow each other at one time. -/
abbrev RunsAlone {α : Type} (program : SessionProgram α) (number : Nat) (server : SessionServer)
    (post : SessionServer → Outcome α → Prop) : Prop :=
  program.Ensures SessionServer.exec (fun _ => ()) (fun _ => post) number server

theorem get_alone (number : Nat) (server : SessionServer) (sessionId : String) :
    RunsAlone (get sessionId) number server fun after outcome =>
      after = server ∧ outcome = SessionStore.get server.keys server.now sessionId := by
  refine Program.ensures_command_bind
    (show server.exec (.sessions (.get sessionId)) () =
      (server, server.keys.sessions.lookup server.now sessionId) from rfl) ?_
  unfold SessionStore.get
  cases server.keys.sessions.lookup server.now sessionId with
  | none => exact ⟨rfl, rfl⟩
  | some data =>
    dsimp only
    cases SessionSerializer.deserialize data with
    | error | ok => exact ⟨rfl, rfl⟩

theorem storeSession_alone (number : Nat) (server : SessionServer) (session : Session) :
    RunsAlone (storeSession session) number server fun after outcome =>
      after = { server with keys := SessionStore.storeSession server.keys server.now session } ∧
        outcome = .ok () := by
  refine Program.ensures_command_bind
    (show server.exec .now () = (server, server.now) from rfl) ?_
  unfold SessionStore.storeSession
  by_cases left : 0 < SessionStore.timeToLive server.now session
  · simp only [left, if_true]
    refine Program.ensures_command_bind
      (show server.exec (.sessions (.setex session.id _ session)) () = (_, .ok ()) from
        Prod.ext rfl (StringCommand.setex_succeeds left)) ?_
    exact ⟨rfl, rfl⟩
  · simp only [left, if_false]
    exact ⟨rfl, rfl⟩

/-- A session is stored again as the store does it, with each of its answers. -/
theorem restore_alone (number : Nat) (server : SessionServer) (sessionId : String)
    {change : Session → SessionProgram Session} (changed : Session → Session)
    (missing : Except String (Option Session)) (answer : Session → Option Session)
    (changes : ∀ number session, RunsAlone (change session) number server fun after outcome =>
      after = server ∧ outcome = .ok (changed session)) :
    RunsAlone (restore sessionId change) number server fun after outcome =>
      SessionStore.restore server.keys server.now sessionId changed missing answer = (after.keys,
        match outcome with
        | .error error => .error error
        | .ok none => missing
        | .ok (some session) => .ok (answer session)) := by
  refine ensures_bind ((get_alone number server sessionId).mono ?_)
  rintro number server _ ⟨rfl, rfl⟩
  unfold SessionStore.restore
  cases SessionStore.get server.keys server.now sessionId with
  | error error => rfl
  | ok found =>
    cases found with
    | none => rfl
    | some session =>
      refine ensures_bind ((changes number session).mono ?_)
      rintro number server _ ⟨rfl, rfl⟩
      refine ensures_bind ((storeSession_alone number server (changed session)).mono ?_)
      rintro number _ _ ⟨rfl, rfl⟩
      rfl

theorem delete_alone (number : Nat) (server : SessionServer) (sessionId : String) :
    RunsAlone (delete sessionId) number server fun after outcome =>
      SessionStore.delete server.keys server.now sessionId =
        (after.keys, outcome.map fun _ => none) := by
  refine Program.ensures_bind ((get_alone number server sessionId).mono ?_)
  rintro number server _ ⟨rfl, rfl⟩
  unfold SessionStore.delete
  cases SessionStore.get server.keys server.now sessionId with
  | error error => rfl
  | ok found => cases found <;> rfl

end Alone

end Caas.Auth
