import Caas.Js.Value
import Caas.Machine.Transducer
import Caas.Redis.ExpiringSet

/-!
# The session store

Sessions live under `session:<id>`, each until its own expiry; the ids of a user's
sessions live in the set `user_sessions:<userId>`, whose expiry only `create` sets. A
call runs at one reading of the clock, in milliseconds. The sets for single devices, which
only `create` writes and none of these operations reads, are left out.
-/

namespace Caas.Auth

open Js Redis

inductive DeviceType where
  | web
  | mobile
  | desktop
  | sdk
deriving DecidableEq

structure DeviceInfo where
  type : DeviceType
  os : String
  browser : Option String := none
  appVersion : Option String := none
  userAgent : String
deriving DecidableEq

structure Location where
  country : String
  city : Option String := none
  region : Option String := none
  latitude : Option Number := none
  longitude : Option Number := none
deriving DecidableEq

structure Session where
  id : String
  userId : String
  tenantId : String
  deviceId : String
  deviceInfo : DeviceInfo
  ipAddress : String
  location : Option Location
  createdAt : Int
  lastActivity : Int
  expiresAt : Int
  isActive : Bool
  mfaVerified : Bool
deriving DecidableEq

structure SessionData where
  userId : String
  tenantId : String
  deviceId : String
  deviceInfo : DeviceInfo
  ipAddress : String
  location : Option Location := none
  mfaVerified : Option Bool := none

/-- A partial `SessionData`: what is absent stays as it is. -/
structure SessionUpdates where
  userId : Option String := none
  tenantId : Option String := none
  deviceId : Option String := none
  deviceInfo : Option DeviceInfo := none
  ipAddress : Option String := none
  location : Option Location := none
  mfaVerified : Option Bool := none

structure SessionConfig where
  ttlSeconds : Int

namespace SessionSerializer

/-- Timestamps before the year 3000 in seconds are taken for seconds. -/
def normalizeTimestamp (timestamp : Int) : Int :=
  if timestamp < 32503680000 then timestamp * 1000 else timestamp

/-- The truth of `!session.id || !session.user_id || !session.tenant_id`. -/
def missesRequiredFields (session : Session) : Bool :=
  session.id = "" || session.userId = "" || session.tenantId = ""

/-- Read back what `serialize` has written; the device info is an object and stays. -/
def validateAndNormalize (session : Session) : Except String Session :=
  if missesRequiredFields session then .error "Session missing required fields"
  else .ok
    { session with
      deviceId := if session.deviceId = "" then "unknown" else session.deviceId
      ipAddress := if session.ipAddress = "" then "0.0.0.0" else session.ipAddress
      createdAt := normalizeTimestamp session.createdAt
      lastActivity := normalizeTimestamp session.lastActivity
      expiresAt := normalizeTimestamp session.expiresAt }

def deserialize (data : Session) : Except String Session :=
  (validateAndNormalize data).mapError fun error =>
    "Failed to deserialize session: Error: " ++ error

end SessionSerializer

/-- The keys `session:` and `user_sessions:`; a serialised session is the session. -/
structure SessionKeys where
  sessions : ExpiringMap String Session
  userSessions : ExpiringMap String (List String)

def SessionKeys.empty : SessionKeys := ⟨.empty, .empty⟩

namespace SessionStore

/-- The error of `update` and `renew`. -/
def notFound (sessionId : String) : String := s!"Session not found: {sessionId}"

section Calls

variable (keys : SessionKeys) (now : Nat)

/-- The time to live of a session, rounded up to seconds. -/
def timeToLive (session : Session) : Int := -((now - session.expiresAt) / 1000)

def storeSession (session : Session) : SessionKeys :=
  let ttl := timeToLive now session
  if 0 < ttl then
    { keys with
      sessions := (StringCommand.exec keys.sessions now (.setex session.id ttl session)).1 }
  else keys

def addToUserIndex (config : SessionConfig) (userId sessionId : String) : SessionKeys :=
  let added := (SetCommand.exec keys.userSessions now (.sadd userId sessionId)).1
  { keys with
    userSessions := (SetCommand.exec added now (.expire userId config.ttlSeconds)).1 }

def removeFromUserIndex (userId sessionId : String) : SessionKeys :=
  { keys with userSessions := keys.userSessions.srem now userId sessionId }

def getUserSessionIds (userId : String) : List String := keys.userSessions.members now userId

def get (sessionId : String) : Except String (Option Session) :=
  match keys.sessions.lookup now sessionId with
  | none => .ok none
  | some data => (SessionSerializer.deserialize data).map some

/-- `sessionId` is the drawn id. -/
def create (config : SessionConfig) (sessionId : String) (data : SessionData) :
    SessionKeys × Except String (Option Session) :=
  let session : Session :=
    { id := sessionId
      userId := data.userId
      tenantId := data.tenantId
      deviceId := data.deviceId
      deviceInfo := data.deviceInfo
      ipAddress := data.ipAddress
      location := data.location
      createdAt := now
      lastActivity := now
      expiresAt := now + config.ttlSeconds * 1000
      isActive := true
      mfaVerified := data.mfaVerified.getD false }
  (addToUserIndex (storeSession keys now session) now config data.userId sessionId,
    .ok (some session))

/-- The operations that change a session that exists and store it again: `missing` is
what they answer when there is none. -/
def restore (sessionId : String) (change : Session → Session)
    (missing : Except String (Option Session)) (answer : Session → Option Session) :
    SessionKeys × Except String (Option Session) :=
  match get keys now sessionId with
  | .error error => (keys, .error error)
  | .ok none => (keys, missing)
  | .ok (some session) => (storeSession keys now (change session), .ok (answer (change session)))

def update (sessionId : String) (updates : SessionUpdates) :
    SessionKeys × Except String (Option Session) :=
  restore keys now sessionId
    (fun session =>
      { session with
        tenantId := updates.tenantId.getD session.tenantId
        deviceId := updates.deviceId.getD session.deviceId
        deviceInfo := updates.deviceInfo.getD session.deviceInfo
        ipAddress := updates.ipAddress.getD session.ipAddress
        location := updates.location.or session.location
        mfaVerified := updates.mfaVerified.getD session.mfaVerified })
    (.error (notFound sessionId)) some

def updateLastActivity (sessionId : String) : SessionKeys × Except String (Option Session) :=
  restore keys now sessionId (fun session => { session with lastActivity := now }) (.ok none)
    fun _ => none

def renew (sessionId : String) (extensionMs : Int) : SessionKeys × Except String (Option Session) :=
  restore keys now sessionId (fun session => { session with expiresAt := now + extensionMs })
    (.error (notFound sessionId)) some

def deactivate (sessionId : String) : SessionKeys × Except String (Option Session) :=
  restore keys now sessionId (fun session => { session with isActive := false }) (.ok none)
    fun _ => none

def delete (sessionId : String) : SessionKeys × Except String (Option Session) :=
  match get keys now sessionId with
  | .error error => (keys, .error error)
  | .ok none => (keys, .ok none)
  | .ok (some session) =>
    let deleted :=
      { keys with sessions := (StringCommand.exec keys.sessions now (.del sessionId)).1 }
    (removeFromUserIndex deleted now session.userId sessionId, .ok none)

/-- The loop of `deleteUserSessions`; a deletion that throws ends it. -/
def deleteAll (keys : SessionKeys) (now : Nat) (deletedCount : Nat) :
    List String → SessionKeys × Except String Nat
  | [] => (keys, .ok deletedCount)
  | sessionId :: rest =>
    match delete keys now sessionId with
    | (left, .error error) => (left, .error error)
    | (left, .ok _) => deleteAll left now (deletedCount + 1) rest

def deleteUserSessions (userId : String) : SessionKeys × Except String Nat :=
  deleteAll keys now 0 (getUserSessionIds keys now userId)

end Calls

inductive Call where
  | create (sessionId : String) (data : SessionData)
  | update (sessionId : String) (updates : SessionUpdates)
  | updateLastActivity (sessionId : String)
  | renew (sessionId : String) (extensionMs : Int)
  | deactivate (sessionId : String)
  | delete (sessionId : String)

/-- A call with the reading of the clock at which it runs. -/
structure Input where
  now : Nat
  call : Call

/-- The store as a machine over its calls. -/
def machine (config : SessionConfig) :
    Transducer SessionKeys Input (Except String (Option Session)) where
  step keys input :=
    match input.call with
    | .create sessionId data => create keys input.now config sessionId data
    | .update sessionId updates => update keys input.now sessionId updates
    | .updateLastActivity sessionId => updateLastActivity keys input.now sessionId
    | .renew sessionId extensionMs => renew keys input.now sessionId extensionMs
    | .deactivate sessionId => deactivate keys input.now sessionId
    | .delete sessionId => delete keys input.now sessionId

end SessionStore

end Caas.Auth
