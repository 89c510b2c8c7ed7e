import Caas.Async.Pool
import Caas.Redis.ExpiringMap

/-!
# Token refresh

`RefreshService.refresh` with the store, family tracker and reuse detector it
calls, each an asynchronous program over Redis commands. Three prefixes divide the
keys: token records by the hash of their token, token families by id, and the
index of token hashes by user.

Validation and generation of JWTs are commands answered from outside; neither
touches these keys. Serialisation is left out: a stored value is the record itself.
-/

namespace Caas.Auth

open Async Program Redis

structure RefreshTokenData where
  userId : String
  sessionId : String
  deviceId : String
  familyId : String
  parentId : Option String
  issuedAt : Nat
  expiresAt : Int
  used : Bool
  revoked : Bool
deriving DecidableEq

structure RefreshTokenFamily where
  familyId : String
  userId : String
  createdAt : Nat
  tokens : List String
  revoked : Bool
deriving DecidableEq

structure TokenPair where
  accessToken : String
  refreshToken : String
  expiresIn : Int
  refreshExpiresIn : Int
deriving DecidableEq

inductive RefreshResult where
  | success (tokens : TokenPair)
  | error (code message : String)
deriving DecidableEq

/-- A generated pair, with the token id and the readings of the clock that follow it
without an await. -/
structure Generated where
  tokens : TokenPair
  refreshTokenId : String
  now : Nat → Nat

inductive RefreshCommand where
  | validate (refreshToken : String)
  | generateAccessToken (sessionId deviceId : String)
  | token (command : StringCommand String RefreshTokenData)
  | family (command : StringCommand String RefreshTokenFamily)
  | userTokens (command : SetCommand String String)

namespace RefreshCommand

/-- The reply of a command; a rejected promise is an error. -/
def Reply : RefreshCommand → Type
  | .validate _ => Except String Unit
  | .generateAccessToken _ _ => Except String Generated
  | .token command => command.Reply
  | .family command => command.Reply
  | .userTokens command => command.Reply

end RefreshCommand

/-- An `async` function of the refresh service. -/
abbrev RefreshProgram := Program RefreshCommand RefreshCommand.Reply

/-- `await` on a command. -/
def RefreshCommand.await (command : RefreshCommand) : RefreshProgram command.Reply :=
  Program.command command

structure RefreshSettings where
  hashToken : String → String
  rotationEnabled : Bool

namespace RefreshTokenStore

/-- `redis.get` on a token record. -/
def getByHash (tokenHash : String) : RefreshProgram (Option RefreshTokenData) :=
  RefreshCommand.await (.token (.get tokenHash))

/-- Write a record back for the rest of its time to live, when it has one. The answer
says whether it was written. -/
def writeBack (tokenHash : String) (data : RefreshTokenData) : RefreshProgram Bool := do
  let ttl : Int ← RefreshCommand.await (.token (.ttl tokenHash))
  if ttl > 0 then
    orThrow (← RefreshCommand.await (.token (.setex tokenHash ttl data)))
    return true
  else
    return false

variable (settings : RefreshSettings)

def store (token : String) (data : RefreshTokenData) (ttlSeconds : Int) : RefreshProgram Unit := do
  let tokenHash := settings.hashToken token
  orThrow (← RefreshCommand.await (.token (.setex tokenHash ttlSeconds data)))
  let _ ← RefreshCommand.await (.userTokens (.sadd data.userId tokenHash))
  let _ ← RefreshCommand.await (.userTokens (.expire data.userId ttlSeconds))

def get (token : String) : RefreshProgram (Option RefreshTokenData) :=
  getByHash (settings.hashToken token)

def markAsUsed (token : String) : RefreshProgram Unit := do
  match ← get settings token with
  | none => return ()
  | some data => let _ ← writeBack (settings.hashToken token) { data with used := true }

def revoke (token : String) : RefreshProgram Unit := do
  match ← get settings token with
  | none => return ()
  | some data => let _ ← writeBack (settings.hashToken token) { data with revoked := true }

/-- The loop of `revokeAllUserTokens` over the hashes in the user's index. -/
def revokeEach : List String → RefreshProgram Nat
  | [] => return 0
  | tokenHash :: rest => do
    match ← getByHash tokenHash with
    | none => revokeEach rest
    | some data =>
      let written ← writeBack tokenHash { data with revoked := true }
      let count ← revokeEach rest
      return if written then count + 1 else count

def revokeAllUserTokens (userId : String) : RefreshProgram Nat := do
  let tokenHashes : List String ← RefreshCommand.await (.userTokens (.smembers userId))
  revokeEach tokenHashes

end RefreshTokenStore

namespace FamilyTracker

def getFamily (familyId : String) : RefreshProgram (Option RefreshTokenFamily) :=
  RefreshCommand.await (.family (.get familyId))

/-- Write a family back for the rest of its time to live, when it has one. -/
def writeBack (familyId : String) (family : RefreshTokenFamily) : RefreshProgram Unit := do
  let ttl : Int ← RefreshCommand.await (.family (.ttl familyId))
  if ttl > 0 then
    orThrow (← RefreshCommand.await (.family (.setex familyId ttl family)))

def addTokenToFamily (familyId tokenId : String) : RefreshProgram Unit := do
  match ← getFamily familyId with
  | none => failure ("Token family not found: " ++ familyId)
  | some family => writeBack familyId { family with tokens := family.tokens ++ [tokenId] }

def revokeFamily (familyId : String) : RefreshProgram Unit := do
  match ← getFamily familyId with
  | none => return ()
  | some family => writeBack familyId { family with revoked := true }

def isFamilyRevoked (familyId : String) : RefreshProgram Bool := do
  let family ← getFamily familyId
  return (family.map (·.revoked)).getD false

end FamilyTracker

namespace ReuseDetector

inductive Action where
  | allow
  | revokeFamily
  | alert
deriving DecidableEq

structure ReuseDetectionResult where
  isReuse : Bool
  action : Action
  reason : Option String
deriving DecidableEq

def detectReuse (tokenData : RefreshTokenData) : RefreshProgram ReuseDetectionResult := do
  if tokenData.used then
    return ⟨true, .revokeFamily, "Token has already been used"⟩
  else if tokenData.revoked then
    return ⟨true, .revokeFamily, "Token has been revoked"⟩
  else if ← FamilyTracker.isFamilyRevoked tokenData.familyId then
    return ⟨true, .revokeFamily, "Token family has been revoked"⟩
  else
    return ⟨false, .allow, none⟩

def revokeFamilyAndAlert (tokenData : RefreshTokenData) : RefreshProgram Unit := do
  FamilyTracker.revokeFamily tokenData.familyId
  let _ ← RefreshTokenStore.revokeAllUserTokens tokenData.userId

/-- An alert only writes a log line. -/
def handleReuse (tokenData : RefreshTokenData) (reuseResult : ReuseDetectionResult) :
    RefreshProgram Unit := do
  if reuseResult.isReuse then
    match reuseResult.action with
    | .revokeFamily => revokeFamilyAndAlert tokenData
    | .alert => return ()
    | .allow => return ()

end ReuseDetector

namespace RefreshService

variable (settings : RefreshSettings)

def generateNewTokenPair (oldTokenData : RefreshTokenData) : RefreshProgram TokenPair := do
  let generated : Generated ← orThrow
    (← RefreshCommand.await (.generateAccessToken oldTokenData.sessionId oldTokenData.deviceId))
  let tokenPair := generated.tokens
  if settings.rotationEnabled then
    RefreshTokenStore.store settings tokenPair.refreshToken
      { userId := oldTokenData.userId
        sessionId := oldTokenData.sessionId
        deviceId := oldTokenData.deviceId
        familyId := oldTokenData.familyId
        parentId := some (toString oldTokenData.issuedAt)
        issuedAt := generated.now 0 / 1000
        expiresAt := (generated.now 1 / 1000 : Nat) + tokenPair.refreshExpiresIn
        used := false
        revoked := false }
      tokenPair.refreshExpiresIn
    FamilyTracker.addTokenToFamily oldTokenData.familyId generated.refreshTokenId
  return tokenPair

/-- The rotation of a token that passed the reuse check. -/
def rotate (refreshToken : String) (tokenData : RefreshTokenData) :
    RefreshProgram RefreshResult := do
  RefreshTokenStore.markAsUsed settings refreshToken
  let newTokenPair ← generateNewTokenPair settings tokenData
  if settings.rotationEnabled then
    RefreshTokenStore.revoke settings refreshToken
  return .success newTokenPair

/-- What follows the reading of the token's record. -/
def proceed (refreshToken : String) (tokenData : RefreshTokenData) :
    RefreshProgram RefreshResult := do
  let reuseResult ← ReuseDetector.detectReuse tokenData
  if reuseResult.isReuse then
    ReuseDetector.handleReuse tokenData reuseResult
    return .error "TOKEN_REUSE_DETECTED" "Refresh token reuse detected. All tokens revoked."
  else
    rotate settings refreshToken tokenData

/-- The body of the `try` block of `refresh`. -/
def attempt (refreshToken : String) : RefreshProgram RefreshResult := do
  orThrow (← RefreshCommand.await (.validate refreshToken))
  match ← RefreshTokenStore.get settings refreshToken with
  | none => return .error "TOKEN_NOT_FOUND" "Refresh token not found"
  | some tokenData => proceed settings refreshToken tokenData

/-- An empty error message is falsy. -/
def refresh (refreshToken : String) : RefreshProgram RefreshResult :=
  (attempt settings refreshToken).catching fun message =>
    return .error "REFRESH_FAILED" (if message = "" then "Token refresh failed" else message)

end RefreshService

/-- The keys of the refresh service, and the clock of the server. -/
structure RefreshStore where
  now : Nat
  tokens : ExpiringMap String RefreshTokenData
  families : ExpiringMap String RefreshTokenFamily
  userTokens : ExpiringMap String (List String)

/-- The answers from outside: of a validation, and of a generation. -/
structure RefreshOracle where
  validated : Except String Unit
  generated : Except String Generated

namespace RefreshStore

def exec (store : RefreshStore) (oracle : RefreshOracle) :
    (command : RefreshCommand) → RefreshStore × command.Reply
  | .validate _ => (store, oracle.validated)
  | .generateAccessToken _ _ => (store, oracle.generated)
  | .token command =>
    let (tokens, reply) := command.exec store.tokens store.now
    ({ store with tokens }, reply)
  | .family command =>
    let (families, reply) := command.exec store.families store.now
    ({ store with families }, reply)
  | .userTokens command =>
    let (userTokens, reply) := command.exec store.userTokens store.now
    ({ store with userTokens }, reply)

end RefreshStore

/-- Concurrent refreshes; outside of them only time passes, by a number of milliseconds. -/
def refreshHost (settings : RefreshSettings) :
    Host RefreshStore RefreshCommand RefreshCommand.Reply RefreshOracle Nat String
      RefreshResult where
  exec store command oracle := store.exec oracle command
  change store elapsed := { store with now := store.now + elapsed }
  body := RefreshService.refresh settings

end Caas.Auth
