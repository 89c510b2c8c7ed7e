import Caas.Rooms.RoomStateManager

/-!
# Authorization and moderation of rooms

Whether a user may join a room, send, moderate or administer: a decision that is cached, or else
made of the ban record and the membership in the database, and then of the mute record or of the
role. Moderators ban, unban, mute, unmute and kick.

Operations run one after the other, time passes between them. Redis fails only where a key is to
be stored for no time; the database may fail.
-/

namespace Caas.Rooms

open Async Js Redis OrderedMap

/-- A program that runs on its own, from its start to its end. -/
def runAlone {Shared Command α : Type} {Reply : Command → Type}
    (exec : Shared → (command : Command) → Unit → Shared × Reply command) :
    Program Command Reply α → Shared → Shared × Program.Outcome α
  | .result value, shared => (shared, .ok value)
  | .failure error, shared => (shared, .error error)
  | .await command next, shared =>
    runAlone exec (next (exec shared command ()).2) (exec shared command ()).1

structure AuthorizationResult where
  authorized : Bool
  code : Option String := none
  reason : Option String := none
  role : Option String := none
  projectId : Option String := none
deriving DecidableEq

structure Participant where
  userId : String
  role : Option String := none
deriving DecidableEq

/-- A document of the collection `conversations`. -/
structure Conversation where
  conversationId : String
  tenantId : String
  projectId : Option String := none
  participants : Option (List Participant) := none
deriving DecidableEq

inductive ModerationKind where
  | kick
  | ban
  | unban
  | mute
  | unmute
deriving DecidableEq

structure ModerationLog where
  id : String
  action : ModerationKind
  moderatorId : String
  targetUserId : String
  conversationId : String
  tenantId : String
  reason : Option String
  durationSeconds : Option Int
  timestamp : Nat
deriving DecidableEq

structure RoomUser where
  userId : String
  conversationId : String
  tenantId : String
deriving DecidableEq

/-- Redis, the database and the logs of the process. The store has the clock and the rooms. -/
structure AuthorizerState where
  store : RoomStore
  bans : ExpiringMap String String
  mutes : ExpiringMap String String
  authorizations : ExpiringMap String AuthorizationResult
  conversations : Except String (List Conversation)
  moderationLogs : OrderedMap String (List ModerationLog)

structure RoomAuthorizerConfig where
  rooms : RoomConfig := {}
  cacheTtl : Option Nat := none

namespace RoomAuthorizer

/-- `text || other`. -/
def orElse (text : Option String) (other : String) : String := (text.filter (· ≠ "")).getD other

/-- `config.cacheTtl || 300`. -/
def ttlOf (config : RoomAuthorizerConfig) : Nat := (config.cacheTtl.filter (· ≠ 0)).getD 300

def banKey (user : RoomUser) : String :=
  s!"ban:{user.tenantId}:{user.conversationId}:{user.userId}"

def muteKey (user : RoomUser) : String :=
  s!"mute:{user.tenantId}:{user.conversationId}:{user.userId}"

def authorizationKey (user : RoomUser) (projectId : Option String) : String :=
  let projectId := orElse projectId "default"
  s!"authz:{user.tenantId}:{projectId}:{user.conversationId}:{user.userId}"

def isUserBanned (state : AuthorizerState) (user : RoomUser) : Bool :=
  state.bans.lookup state.store.now (banKey user) = some "1"

def isUserMuted (state : AuthorizerState) (user : RoomUser) : Bool :=
  state.mutes.lookup state.store.now (muteKey user) = some "1"

def getCachedAuthorization (state : AuthorizerState) (user : RoomUser)
    (projectId : Option String) : Option AuthorizationResult :=
  state.authorizations.lookup state.store.now (authorizationKey user projectId)

def cacheAuthorization (config : RoomAuthorizerConfig) (state : AuthorizerState) (user : RoomUser)
    (projectId : Option String) (result : AuthorizationResult) : AuthorizerState :=
  { state with
    authorizations := state.authorizations.store state.store.now (authorizationKey user projectId)
      (ttlOf config) result }

def invalidateCache (state : AuthorizerState) (user : RoomUser) (projectId : Option String) :
    AuthorizerState :=
  { state with
    authorizations := delete state.authorizations (authorizationKey user projectId) }

structure Membership where
  isMember : Bool
  role : Option String := none
  projectId : Option String := none
  code : Option String := none
  reason : Option String := none
deriving DecidableEq

def checkConversationMembership (state : AuthorizerState) (user : RoomUser)
    (projectId : Option String) : Membership :=
  match state.conversations with
  | .error _ => { isMember := false }
  | .ok conversations =>
    match conversations.find? fun conversation =>
        conversation.conversationId = user.conversationId ∧
          conversation.tenantId = user.tenantId with
    | none =>
      { isMember := false, code := some "NOT_FOUND", reason := some "Conversation not found" }
    | some conversation =>
      let resolvedProjectId := orElse conversation.projectId "default"
      if (projectId.filter (· ≠ "")).any (resolvedProjectId ≠ ·) then
        { isMember := false
          code := some "FORBIDDEN"
          reason := some "Conversation belongs to a different project scope"
          projectId := some resolvedProjectId }
      else
        match (conversation.participants.getD []).find? fun participant =>
            participant.userId = user.userId with
        | none =>
          { isMember := false
            code := some "FORBIDDEN"
            reason := some "User is not a member of this conversation"
            projectId := some resolvedProjectId }
        | some participant =>
          { isMember := true
            role := some (orElse participant.role "member")
            projectId := some resolvedProjectId }

def forbidden (reason : String) (projectId : Option String := none) : AuthorizationResult :=
  { authorized := false, code := some "FORBIDDEN", reason := some reason, projectId }

def canJoinRoom (config : RoomAuthorizerConfig) (state : AuthorizerState) (user : RoomUser)
    (projectId : Option String) : AuthorizerState × AuthorizationResult :=
  match getCachedAuthorization state user projectId with
  | some cached => (state, cached)
  | none =>
    if isUserBanned state user then (state, forbidden "User is banned from this conversation")
    else
      let membership := checkConversationMembership state user projectId
      if ¬ membership.isMember then
        (state,
          { authorized := false
            code := some (orElse membership.code "FORBIDDEN")
            reason := some (orElse membership.reason "User is not a member of this conversation")
            projectId := membership.projectId })
      else if (projectId.filter (· ≠ "")).any fun projectId =>
          (membership.projectId.filter (· ≠ "")).any (· ≠ projectId) then
        (state, forbidden "Conversation belongs to a different project scope" membership.projectId)
      else
        let result : AuthorizationResult :=
          { authorized := true, role := membership.role, projectId := membership.projectId }
        (cacheAuthorization config state user projectId result, result)

def canSendMessage (config : RoomAuthorizerConfig) (state : AuthorizerState) (user : RoomUser)
    (projectId : Option String) : AuthorizerState × AuthorizationResult :=
  let (state, joinResult) := canJoinRoom config state user projectId
  if ¬ joinResult.authorized then (state, joinResult)
  else if isUserMuted state user then (state, forbidden "User is muted in this conversation")
  else (state, { authorized := true, role := joinResult.role, projectId := joinResult.projectId })

/-- What `canModerate` and `canAdminister` share: who may join, in one of some roles. -/
def canInRole (roles : List String) (reason : String) (config : RoomAuthorizerConfig)
    (state : AuthorizerState) (user : RoomUser) (projectId : Option String) :
    AuthorizerState × AuthorizationResult :=
  let (state, joinResult) := canJoinRoom config state user projectId
  if ¬ joinResult.authorized then (state, joinResult)
  else if joinResult.role.any (· ∈ roles) then
    (state, { authorized := true, role := joinResult.role, projectId := joinResult.projectId })
  else (state, forbidden reason)

def canModerate : RoomAuthorizerConfig → AuthorizerState → RoomUser → Option String →
    AuthorizerState × AuthorizationResult :=
  canInRole ["owner", "admin", "moderator"] "User does not have moderation permissions"

def canAdminister : RoomAuthorizerConfig → AuthorizerState → RoomUser → Option String →
    AuthorizerState × AuthorizationResult :=
  canInRole ["owner", "admin"] "User does not have administration permissions"

/-- A record that stands for a number of seconds, or for ever without a number or with zero. -/
def record (records : ExpiringMap String String) (now : Nat) (key : String)
    (durationSeconds : Option Int) : Except String (ExpiringMap String String) :=
  match durationSeconds.filter (· ≠ 0) with
  | none => .ok (set records key ⟨"1", none⟩)
  | some seconds =>
    if 0 < seconds then .ok (records.store now key seconds.toNat "1")
    else .error "ERR invalid expire time in 'setex' command"

def banUser (state : AuthorizerState) (user : RoomUser) (durationSeconds : Option Int) :
    Except String AuthorizerState := do
  let bans ← record state.bans state.store.now (banKey user) durationSeconds
  pure (invalidateCache { state with bans } user none)

def unbanUser (state : AuthorizerState) (user : RoomUser) : AuthorizerState :=
  invalidateCache { state with bans := delete state.bans (banKey user) } user none

def muteUser (state : AuthorizerState) (user : RoomUser) (durationSeconds : Option Int) :
    Except String AuthorizerState := do
  let mutes ← record state.mutes state.store.now (muteKey user) durationSeconds
  pure (invalidateCache { state with mutes } user none)

def unmuteUser (state : AuthorizerState) (user : RoomUser) : AuthorizerState :=
  invalidateCache { state with mutes := delete state.mutes (muteKey user) } user none

end RoomAuthorizer

namespace RoomModeration

open RoomAuthorizer

/-- Removes the user from the record of the room; what that emits is left out. -/
def removeMember (config : RoomAuthorizerConfig) (state : AuthorizerState) (user : RoomUser) :
    AuthorizerState :=
  { state with
    store := (runAlone exec (RoomStateManager.removeMember config.rooms user.conversationId
      user.tenantId user.userId) state.store).1 }

/-- Keeps the last 100 logs of a conversation. -/
def logModerationAction (state : AuthorizerState) (log : ModerationLog) : AuthorizerState :=
  let key := s!"{log.tenantId}:{log.conversationId}"
  let logs := (state.moderationLogs.get key).getD [] ++ [log]
  let logs := if logs.length > 100 then logs.tail else logs
  { state with moderationLogs := state.moderationLogs.set key logs }

/-- What is particular to one kind of action: what its error calls it, whether it is for a number
of seconds, and what it does. -/
structure ModerationStep where
  action : ModerationKind
  verb : String
  timed : Bool := false
  act : RoomAuthorizerConfig → AuthorizerState → RoomUser → Option Int →
    Except String AuthorizerState

/-- What the five actions share. The result is what is logged and emitted. -/
def moderate (step : ModerationStep) (config : RoomAuthorizerConfig) (state : AuthorizerState)
    (moderatorId : String) (user : RoomUser) (durationSeconds : Option Int)
    (reason : Option String) (logId : String) : AuthorizerState × Except String ModerationLog :=
  let (state, canModerate) := canModerate config state { user with userId := moderatorId } none
  if ¬ canModerate.authorized then
    (state, .error s!"Moderator does not have permission to {step.verb} users")
  else
    match step.act config state user durationSeconds with
    | .error error => (state, .error error)
    | .ok acted =>
      let log : ModerationLog :=
        { id := logId
          action := step.action
          moderatorId
          targetUserId := user.userId
          conversationId := user.conversationId
          tenantId := user.tenantId
          reason
          durationSeconds := if step.timed then durationSeconds else none
          timestamp := state.store.now }
      (logModerationAction acted log, .ok log)

def kickUser : ModerationStep where
  action := .kick
  verb := "kick"
  act config state user _ := .ok (removeMember config state user)

def banUser : ModerationStep where
  action := .ban
  verb := "ban"
  timed := true
  act config state user durationSeconds := do
    let state ← RoomAuthorizer.banUser state user durationSeconds
    pure (removeMember config state user)

def unbanUser : ModerationStep where
  action := .unban
  verb := "unban"
  act _ state user _ := .ok (RoomAuthorizer.unbanUser state user)

def muteUser : ModerationStep where
  action := .mute
  verb := "mute"
  timed := true
  act _ state user durationSeconds := RoomAuthorizer.muteUser state user durationSeconds

def unmuteUser : ModerationStep where
  action := .unmute
  verb := "unmute"
  act _ state user _ := .ok (RoomAuthorizer.unmuteUser state user)

def stepOf : ModerationKind → ModerationStep
  | .kick => kickUser
  | .ban => banUser
  | .unban => unbanUser
  | .mute => muteUser
  | .unmute => unmuteUser

end RoomModeration

open RoomAuthorizer RoomModeration

inductive RoomCheck where
  | canJoinRoom
  | canSendMessage
  | canModerate
  | canAdminister

/-- A check, a moderation action, an invalidation, a change of the database or of the rooms (who
is a member, in which role, and who has joined), or time that passes. -/
inductive AuthorizerEvent where
  | check (kind : RoomCheck) (user : RoomUser) (projectId : Option String)
  | moderate (action : ModerationKind) (moderatorId : String) (user : RoomUser)
    (durationSeconds : Option Int) (reason : Option String) (logId : String)
  | invalidateCache (user : RoomUser) (projectId : Option String)
  | database (conversations : Except String (List Conversation))
  | rooms (rooms : ExpiringMap String RoomState)
  | elapse (elapsed : Nat)

inductive AuthorizerReply where
  | decision (result : AuthorizationResult)
  | moderated (result : Except String ModerationLog)
  | done

def check (config : RoomAuthorizerConfig) (state : AuthorizerState) (user : RoomUser)
    (projectId : Option String) : RoomCheck → AuthorizerState × AuthorizationResult
  | .canJoinRoom => canJoinRoom config state user projectId
  | .canSendMessage => canSendMessage config state user projectId
  | .canModerate => canModerate config state user projectId
  | .canAdminister => canAdminister config state user projectId

def authorizerMachine (config : RoomAuthorizerConfig) :
    Transducer AuthorizerState AuthorizerEvent AuthorizerReply where
  step state
    | .check kind user projectId =>
      let (state, result) := check config state user projectId kind
      (state, .decision result)
    | .moderate action moderatorId user durationSeconds reason logId =>
      let (state, result) :=
        moderate (stepOf action) config state moderatorId user durationSeconds reason logId
      (state, .moderated result)
    | .invalidateCache user projectId => (invalidateCache state user projectId, .done)
    | .database conversations => ({ state with conversations }, .done)
    | .rooms rooms => ({ state with store := { state.store with rooms } }, .done)
    | .elapse elapsed =>
      ({ state with store := { state.store with now := state.store.now + elapsed } }, .done)

end Caas.Rooms
