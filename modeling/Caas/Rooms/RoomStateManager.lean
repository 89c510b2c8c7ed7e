import Caas.Async.Pool
import Caas.Redis.ExpiringMap

/-!
# Rooms

A room with its members is one record in Redis. Adding a member, removing one, changing a role
and noting activity each read the record and write it back whole; a room whose last member goes
is deleted.

`JSON.stringify` and `JSON.parse` of a record are the identity, dates included. Redis does not
fail. The code between two awaits is part of the reply to the first, which comes with the time.
What an operation emits is what it returns.
-/

namespace Caas.Rooms

open Async Js Redis

inductive RoomRole where
  | owner
  | admin
  | moderator
  | member
deriving DecidableEq

structure RoomMember where
  userId : String
  socketId : String
  joinedAt : Nat
  role : RoomRole
deriving DecidableEq

structure RoomMetadata where
  createdAt : Nat
  lastActivity : Nat
  messageCount : Option Nat
deriving DecidableEq

structure RoomState where
  roomId : String
  tenantId : String
  conversationId : String
  members : List RoomMember
  metadata : RoomMetadata
deriving DecidableEq

inductive RoomNotice where
  | created (roomId tenantId : String)
  | deleted (roomId tenantId : String)
  | memberJoined (roomId tenantId userId : String)
  | memberLeft (roomId tenantId userId : String)
  | memberRoleUpdated (roomId tenantId userId : String) (role : RoomRole)
deriving DecidableEq

structure RoomStore where
  now : Nat
  rooms : ExpiringMap String RoomState

/-- How long a room is kept without being written. -/
structure RoomConfig where
  ttlHours : Nat := 24
  positive : 0 < ttlHours := by decide

def RoomConfig.ttlSeconds (config : RoomConfig) : Nat := config.ttlHours * 60 * 60

inductive RoomCommand where
  | get (key : String)
  | setEx (key : String) (ttlSeconds : Nat) (roomState : RoomState)
  | del (key : String)

def RoomCommand.Reply : RoomCommand → Type
  | .get _ => Option RoomState × Nat
  | .setEx _ _ _ => Unit
  | .del _ => Unit

abbrev RoomProgram := Program RoomCommand RoomCommand.Reply

def await (command : RoomCommand) : RoomProgram command.Reply := Program.command command

def exec (store : RoomStore) (command : RoomCommand) (_ : Unit) : RoomStore × command.Reply :=
  match command with
  | .get key => (store, (store.rooms.lookup store.now key, store.now))
  | .setEx key ttlSeconds roomState =>
    ({ store with rooms := store.rooms.store store.now key ttlSeconds roomState }, ())
  | .del key => ({ store with rooms := OrderedMap.delete store.rooms key }, ())

/-- Change the member that `find` finds, if there is one. -/
def updateMember (userId : String) (change : RoomMember → RoomMember) :
    List RoomMember → List RoomMember
  | [] => []
  | member :: rest =>
    if member.userId = userId then change member :: rest
    else member :: updateMember userId change rest

namespace RoomStateManager

def getRoomKey (roomId tenantId : String) : String := s!"room:{tenantId}:{roomId}"

def getRoomState (roomId tenantId : String) : RoomProgram (Option RoomState × Nat) :=
  await (.get (getRoomKey roomId tenantId))

variable (config : RoomConfig)

/-- `setWithExpiry`, on a client that has `setEx` or `setex`. -/
def setWithExpiry (key : String) (ttlSeconds : Nat) (value : RoomState) : RoomProgram Unit :=
  await (.setEx key ttlSeconds value)

def saveRoomState (roomState : RoomState) : RoomProgram Unit :=
  setWithExpiry (getRoomKey roomState.roomId roomState.tenantId) config.ttlSeconds roomState

/-- The room that `createRoom` saves. -/
def newRoom (roomId tenantId conversationId ownerId socketId : String) (now : Nat) : RoomState where
  roomId := roomId
  tenantId := tenantId
  conversationId := conversationId
  members := [{ userId := ownerId, socketId, joinedAt := now, role := .owner }]
  metadata := { createdAt := now, lastActivity := now, messageCount := some 0 }

def createRoom (roomId tenantId conversationId ownerId socketId : String) (now : Nat) :
    RoomProgram (List RoomNotice) := do
  saveRoomState config (newRoom roomId tenantId conversationId ownerId socketId now)
  pure [.created roomId tenantId]

def deleteRoom (roomId tenantId : String) : RoomProgram (List RoomNotice) := do
  let _ : Unit ← await (.del (getRoomKey roomId tenantId))
  pure [.deleted roomId tenantId]

def addMember (roomId tenantId userId socketId : String) (role : RoomRole) :
    RoomProgram (List RoomNotice) := do
  let (roomState, now) ← getRoomState roomId tenantId
  match roomState with
  | none => .failure s!"Room not found: {roomId}"
  | some roomState => do
    let existingMember := roomState.members.find? fun member => member.userId = userId
    let members :=
      if existingMember.isSome then
        updateMember userId (fun member => { member with socketId }) roomState.members
      else roomState.members ++ [{ userId, socketId, joinedAt := now, role }]
    saveRoomState config { roomState with members, metadata.lastActivity := now }
    pure [.memberJoined roomId tenantId userId]

def removeMember (roomId tenantId userId : String) : RoomProgram (List RoomNotice) := do
  let (roomState, now) ← getRoomState roomId tenantId
  match roomState with
  | none => pure []
  | some roomState =>
    let members := roomState.members.filter fun member => member.userId ≠ userId
    if members.length = 0 then do
      let deleted ← deleteRoom roomId tenantId
      pure (deleted ++ [.memberLeft roomId tenantId userId])
    else do
      saveRoomState config { roomState with members, metadata.lastActivity := now }
      pure [.memberLeft roomId tenantId userId]

def updateMemberRole (roomId tenantId userId : String) (role : RoomRole) :
    RoomProgram (List RoomNotice) := do
  let (roomState, now) ← getRoomState roomId tenantId
  match roomState with
  | none => .failure s!"Room not found: {roomId}"
  | some roomState =>
    match roomState.members.find? fun member => member.userId = userId with
    | none => .failure s!"Member not found: {userId}"
    | some _ => do
      let members := updateMember userId (fun member => { member with role }) roomState.members
      saveRoomState config { roomState with members, metadata.lastActivity := now }
      pure [.memberRoleUpdated roomId tenantId userId role]

def updateActivity (roomId tenantId : String) : RoomProgram (List RoomNotice) := do
  let (roomState, now) ← getRoomState roomId tenantId
  match roomState with
  | none => pure []
  | some roomState => do
    let messageCount := some (roomState.metadata.messageCount.getD 0 + 1)
    saveRoomState config
      { roomState with metadata := { roomState.metadata with lastActivity := now, messageCount } }
    pure []

end RoomStateManager

open RoomStateManager

inductive RoomOperation where
  | addMember (roomId tenantId userId socketId : String) (role : RoomRole)
  | removeMember (roomId tenantId userId : String)
  | updateMemberRole (roomId tenantId userId : String) (role : RoomRole)
  | updateActivity (roomId tenantId : String)

def RoomOperation.key : RoomOperation → String
  | .addMember roomId tenantId _ _ _ | .removeMember roomId tenantId _
  | .updateMemberRole roomId tenantId _ _ | .updateActivity roomId tenantId =>
    getRoomKey roomId tenantId

def body (config : RoomConfig) : RoomOperation → RoomProgram (List RoomNotice)
  | .addMember roomId tenantId userId socketId role =>
    addMember config roomId tenantId userId socketId role
  | .removeMember roomId tenantId userId => removeMember config roomId tenantId userId
  | .updateMemberRole roomId tenantId userId role =>
    updateMemberRole config roomId tenantId userId role
  | .updateActivity roomId tenantId => updateActivity config roomId tenantId

/-- The operations on rooms; time passes between commands. -/
def host (config : RoomConfig) : Host RoomStore RoomCommand RoomCommand.Reply Unit Nat
    RoomOperation (List RoomNotice) where
  exec := exec
  change store elapsed := { store with now := store.now + elapsed }
  body := body config

end Caas.Rooms
