import Caas.Async.Pool
import Caas.Redis.ExpiringMap

/-!
# Presence of users

What is known of a user, their devices among it, is one record in Redis. Devices that connect and
disconnect, a status that is set, and the periodic check for idle users each read the record and
write it back whole.

`JSON.stringify` and `JSON.parse` of a record are the identity, dates included. Redis does not
fail, but a key under the prefix that holds a set cannot be read as a presence. The code between
two awaits is part of the reply to the first, which comes with the time.
-/

namespace Caas.Presence

open Async Program Js Redis

inductive PresenceStatus where
  | online
  | away
  | busy
  | offline
  | invisible
deriving DecidableEq

structure ConnectedDevice where
  deviceId : String
  platform : String
  lastActive : Nat
  ipAddress : Option String
deriving DecidableEq

structure UserPresence where
  userId : String
  status : PresenceStatus
  customStatus : Option String := none
  lastSeen : Nat
  devices : List ConnectedDevice
deriving DecidableEq

structure PresenceMetadata where
  deviceId : String
  platform : String
  ipAddress : Option String
  lastActive : Nat
deriving DecidableEq

/-- What the manager is constructed with, and whether the collaborators are set that are awaited
after a change. -/
structure PresenceConfig where
  idleTimeoutSeconds : Nat
  lastSeenTracker : Bool
  notifier : Bool
  ttl : Nat := 60 * 60 * 24
  positive : 0 < ttl := by decide

/-- The clock and the keys under the prefix: presences, and sets of subscribers. -/
structure PresenceState where
  now : Nat
  presences : ExpiringMap String UserPresence
  sets : List String

inductive PresenceCommand where
  | get (userId : String)
  | set (userId : String) (ttl : Nat) (presence : UserPresence)
  | getAllUserIds
  | updateLastSeen (userId : String) (deviceType : Option String)
  | notifyStatusChange (userId : String) (status : PresenceStatus) (customStatus : Option String)

def PresenceCommand.Reply : PresenceCommand → Type
  | .get _ => Outcome (Option UserPresence) × Nat
  | .set _ _ _ => Unit
  | .getAllUserIds => List String × Nat
  | .updateLastSeen _ _ => Unit
  | .notifyStatusChange _ _ _ => Unit

abbrev PresenceProgram := Program PresenceCommand PresenceCommand.Reply

def await (command : PresenceCommand) : PresenceProgram command.Reply := Program.command command

/-- The keys under the prefix that exist, without the prefix. -/
def userIds (state : PresenceState) : List String :=
  (state.presences.entries.filter fun entry => entry.2.live state.now).map Prod.fst ++ state.sets

def exec (state : PresenceState) (command : PresenceCommand) (_ : Unit) :
    PresenceState × command.Reply :=
  match command with
  | .get userId =>
    (state,
      (if userId ∈ state.sets then
        .error "WRONGTYPE Operation against a key holding the wrong kind of value"
      else .ok (state.presences.lookup state.now userId), state.now))
  | .set userId ttl presence =>
    ({ state with
      presences := state.presences.store state.now userId ttl presence
      sets := state.sets.filter fun key => key ≠ userId }, ())
  | .getAllUserIds => (state, (userIds state, state.now))
  | .updateLastSeen _ _ => (state, ())
  | .notifyStatusChange _ _ _ => (state, ())

variable (config : PresenceConfig)

namespace PresenceStore

def get (userId : String) : PresenceProgram (Option UserPresence × Nat) := do
  let (data, now) ← (await (.get userId) :
    PresenceProgram (Outcome (Option UserPresence) × Nat))
  let presence ← orThrow data
  pure (presence, now)

def set (userId : String) (presence : UserPresence) : PresenceProgram Unit :=
  await (.set userId config.ttl presence)

def getAllUserIds : PresenceProgram (List String × Nat) := await .getAllUserIds

end PresenceStore

def LastSeenTracker.updateLastSeen (userId : String) (deviceType : Option String) :
    PresenceProgram Unit :=
  await (.updateLastSeen userId deviceType)

def PresenceNotifier.notifyStatusChange (userId : String) (status : PresenceStatus)
    (customStatus : Option String) : PresenceProgram Unit :=
  await (.notifyStatusChange userId status customStatus)

namespace PresenceManager

/-- Update when the user was last seen, if there is a tracker. -/
def updateLastSeen (userId : String) (deviceType : Option String) : PresenceProgram Unit :=
  if config.lastSeenTracker then LastSeenTracker.updateLastSeen userId deviceType else pure ()

/-- Notify the subscribers of a status change, if there is a notifier. -/
def notifyStatusChange (userId : String) (status : PresenceStatus)
    (customStatus : Option String) : PresenceProgram Unit :=
  if config.notifier then PresenceNotifier.notifyStatusChange userId status customStatus
  else pure ()

def setStatus (userId : String) (status : PresenceStatus) (customStatus : Option String) :
    PresenceProgram Unit := do
  let (presence, now) ← PresenceStore.get userId
  let presence := presence.getD { userId, status := .offline, lastSeen := now, devices := [] }
  PresenceStore.set config userId { presence with status, customStatus, lastSeen := now }
  updateLastSeen config userId none
  notifyStatusChange config userId status customStatus

/-- Replace the first device with the id of this one, or append this one. -/
def putDevice (newDevice : ConnectedDevice) : List ConnectedDevice → List ConnectedDevice
  | [] => [newDevice]
  | device :: rest =>
    if device.deviceId = newDevice.deviceId then newDevice :: rest
    else device :: putDevice newDevice rest

def setOnline (userId : String) (metadata : PresenceMetadata) : PresenceProgram Unit := do
  let (presence, now) ← PresenceStore.get userId
  let presence := presence.getD { userId, status := .online, lastSeen := now, devices := [] }
  let newDevice : ConnectedDevice :=
    { deviceId := metadata.deviceId, platform := metadata.platform
      lastActive := metadata.lastActive, ipAddress := metadata.ipAddress }
  let devices := putDevice newDevice presence.devices
  let status :=
    if presence.status ≠ .online ∧ devices.length > 0 then .online else presence.status
  PresenceStore.set config userId { presence with devices, status, lastSeen := now }
  updateLastSeen config userId (some metadata.platform)
  notifyStatusChange config userId status none

def setOffline (userId deviceId : String) : PresenceProgram Unit := do
  let (presence, now) ← PresenceStore.get userId
  match presence with
  | none => pure ()
  | some presence => do
    let devices := presence.devices.filter fun device => device.deviceId ≠ deviceId
    if devices.length = 0 then do
      updateLastSeen config userId none
      PresenceStore.set config userId { presence with devices, status := .offline, lastSeen := now }
      notifyStatusChange config userId .offline none
    else do
      PresenceStore.set config userId { presence with devices }
      notifyStatusChange config userId presence.status none

def checkIdleUser (now : Nat) (userId : String) : PresenceProgram Unit := do
  let (presence, _) ← PresenceStore.get userId
  match presence with
  | none => pure ()
  | some presence =>
    if presence.status = .offline ∨ presence.status = .invisible then pure ()
    else
      let idleThreshold : Int := now - config.idleTimeoutSeconds * 1000
      let activeDevices := presence.devices.filter fun device => device.lastActive > idleThreshold
      if activeDevices.length = 0 ∧ presence.status = .online then do
        PresenceStore.set config userId { presence with status := .away, lastSeen := now }
        notifyStatusChange config userId .away none
      else if activeDevices.length > 0 ∧ presence.status = .away then do
        PresenceStore.set config userId { presence with status := .online, lastSeen := now }
        notifyStatusChange config userId .online none
      else pure ()

/-- The loop of `checkIdleUsersAndSetAway`. -/
def checkIdleUsers (now : Nat) : List String → PresenceProgram Unit
  | [] => pure ()
  | userId :: rest => do
    checkIdleUser config now userId
    checkIdleUsers now rest

def checkIdleUsersAndSetAway : PresenceProgram Unit := do
  let (allUserIds, now) ← PresenceStore.getAllUserIds
  checkIdleUsers config now allUserIds

end PresenceManager

open PresenceManager

inductive PresenceOperation where
  | setOnline (userId : String) (metadata : PresenceMetadata)
  | setOffline (userId deviceId : String)
  | setStatus (userId : String) (status : PresenceStatus) (customStatus : Option String)
  | checkIdleUsersAndSetAway

def body : PresenceOperation → PresenceProgram Unit
  | .setOnline userId metadata => setOnline config userId metadata
  | .setOffline userId deviceId => setOffline config userId deviceId
  | .setStatus userId status customStatus => setStatus config userId status customStatus
  | .checkIdleUsersAndSetAway => checkIdleUsersAndSetAway config

/-- The operations on presences; time passes between commands. -/
def host : Host PresenceState PresenceCommand PresenceCommand.Reply Unit Nat PresenceOperation
    Unit where
  exec := exec
  change state elapsed := { state with now := state.now + elapsed }
  body := body config

end Caas.Presence
