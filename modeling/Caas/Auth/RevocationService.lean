import Caas.Machine.Transducer
import Caas.Redis.ExpiringMap

/-!
# Token revocation

`RevocationService` over `RevocationStore`, and the `RevocationChecker` that token
validation consults on the same Redis. Four prefixes divide the keys: tokens and
sessions are revoked by the existence of a key, users and tenants by a cut-off in whole
seconds.

The service answers after its event has been published; a publisher that fails turns the
answer into an error and leaves the keys as written. The prefix of the checker is
`revoked:`. Readings of the clock are in milliseconds.
-/

namespace Caas.Auth

open Redis StringCommand

inductive RevocationReason where
  | logout
  | passwordChange
  | securityBreach
  | adminAction
  | tokenReuse
  | deviceRemoved
  | sessionExpired
  | userDeleted
  | tenantSuspended
deriving DecidableEq

structure RevocationResult where
  success : Bool
  revokedCount : Int
  reason : RevocationReason
  timestamp : Nat
deriving DecidableEq

structure RevocationStatus where
  revoked : Bool
  reason : Option String := none
deriving DecidableEq

/-- The keys `revoked:`, `user_tokens_invalid_before:`, `session_invalid:` and
`tenant_tokens_invalid_before:`. -/
structure RevocationKeys where
  tokens : ExpiringMap String Unit
  users : ExpiringMap String Nat
  sessions : ExpiringMap String Unit
  tenants : ExpiringMap String Nat

def RevocationKeys.empty : RevocationKeys := ⟨.empty, .empty, .empty, .empty⟩

def cutoffSeconds : Nat := 30 * 24 * 60 * 60

namespace RevocationStore

variable (keys : RevocationKeys) (now : Nat)

def revokeToken (jti : String) (ttlSeconds : Int) : RevocationKeys × Except String Unit :=
  let (tokens, reply) := exec keys.tokens now (.setex jti ttlSeconds ())
  ({ keys with tokens }, reply)

def isTokenRevoked (jti : String) : Bool := (keys.tokens.lookup now jti).isSome

def revokeUserTokensBefore (userId : String) (timestamp : Nat) :
    RevocationKeys × Except String Unit :=
  let (users, reply) := exec keys.users now (.setex userId cutoffSeconds timestamp)
  ({ keys with users }, reply)

/-- A cut-off that is stored is not an empty text. -/
def areUserTokensRevoked (userId : String) (tokenIssuedAt : Nat) : Bool :=
  match keys.users.lookup now userId with
  | none => false
  | some invalidBefore => tokenIssuedAt < invalidBefore

def revokeSessionTokens (sessionId : String) (ttlSeconds : Int) :
    RevocationKeys × Except String Unit :=
  let (sessions, reply) := exec keys.sessions now (.setex sessionId ttlSeconds ())
  ({ keys with sessions }, reply)

def areSessionTokensRevoked (sessionId : String) : Bool :=
  (keys.sessions.lookup now sessionId).isSome

def revokeTenantTokensBefore (tenantId : String) (timestamp : Nat) :
    RevocationKeys × Except String Unit :=
  let (tenants, reply) :=
    exec keys.tenants now (.setex tenantId cutoffSeconds timestamp)
  ({ keys with tenants }, reply)

def areTenantTokensRevoked (tenantId : String) (tokenIssuedAt : Nat) : Bool :=
  match keys.tenants.lookup now tenantId with
  | none => false
  | some invalidBefore => tokenIssuedAt < invalidBefore

def clearUserRevocation (userId : String) : RevocationKeys :=
  { keys with users := (exec keys.users now (.del userId)).1 }

end RevocationStore

namespace RevocationService

inductive Call where
  | revokeToken (tokenId userId : String) (ttlSeconds : Int) (reason : RevocationReason)
  | revokeUserTokens (userId : String) (reason : RevocationReason)
  | revokeSessionTokens (sessionId userId : String) (ttlSeconds : Int)
      (reason : RevocationReason)
  | revokeTenantTokens (tenantId : String) (reason : RevocationReason)
  | clearUserRevocation (userId : String)

/-- A call with the reading of the clock at which it runs, the one of its answer, and what
becomes of the event it publishes. -/
structure Input where
  now : Nat
  call : Call
  published : Except String Unit
  timestamp : Nat

section Calls

variable (keys : RevocationKeys) (input : Input)

def answer (written : RevocationKeys × Except String Unit) (revokedCount : Int)
    (reason : RevocationReason) : RevocationKeys × Except String (Option RevocationResult) :=
  (written.1, do
    written.2
    input.published
    return some ⟨true, revokedCount, reason, input.timestamp⟩)

def revokeToken (tokenId : String) (ttlSeconds : Int) (reason : RevocationReason) :
    RevocationKeys × Except String (Option RevocationResult) :=
  answer input (RevocationStore.revokeToken keys input.now tokenId ttlSeconds) 1 reason

def revokeUserTokens (userId : String) (reason : RevocationReason) :
    RevocationKeys × Except String (Option RevocationResult) :=
  answer input
    (RevocationStore.revokeUserTokensBefore keys input.now userId (input.now / 1000)) (-1) reason

def revokeSessionTokens (sessionId : String) (ttlSeconds : Int) (reason : RevocationReason) :
    RevocationKeys × Except String (Option RevocationResult) :=
  answer input (RevocationStore.revokeSessionTokens keys input.now sessionId ttlSeconds) (-1) reason

def revokeTenantTokens (tenantId : String) (reason : RevocationReason) :
    RevocationKeys × Except String (Option RevocationResult) :=
  answer input
    (RevocationStore.revokeTenantTokensBefore keys input.now tenantId (input.now / 1000)) (-1)
    reason

end Calls

def isRevoked (keys : RevocationKeys) (now : Nat) (tokenId userId sessionId tenantId : String)
    (issuedAt : Nat) : RevocationStatus :=
  if RevocationStore.isTokenRevoked keys now tokenId then ⟨true, "token_revoked"⟩
  else if RevocationStore.areUserTokensRevoked keys now userId issuedAt then
    ⟨true, "user_tokens_revoked"⟩
  else if RevocationStore.areSessionTokensRevoked keys now sessionId then
    ⟨true, "session_terminated"⟩
  else if RevocationStore.areTenantTokensRevoked keys now tenantId issuedAt then
    ⟨true, "tenant_tokens_revoked"⟩
  else ⟨false, none⟩

/-- The service as a machine over its calls; a clearing has no answer. -/
def machine : Transducer RevocationKeys Input (Except String (Option RevocationResult)) where
  step keys input :=
    match input.call with
    | .revokeToken tokenId _ ttlSeconds reason => revokeToken keys input tokenId ttlSeconds reason
    | .revokeUserTokens userId reason => revokeUserTokens keys input userId reason
    | .revokeSessionTokens sessionId _ ttlSeconds reason =>
      revokeSessionTokens keys input sessionId ttlSeconds reason
    | .revokeTenantTokens tenantId reason => revokeTenantTokens keys input tenantId reason
    | .clearUserRevocation userId =>
      (RevocationStore.clearUserRevocation keys input.now userId, .ok none)

end RevocationService

namespace RevocationChecker

variable (keys : RevocationKeys) (now : Nat)

def isTokenRevoked (jti : String) : Bool := (keys.tokens.lookup now jti).isSome

def areUserTokensRevoked (userId : String) (tokenIssuedAt : Nat) : Bool :=
  match keys.users.lookup now userId with
  | none => false
  | some invalidBefore => tokenIssuedAt < invalidBefore

def areSessionTokensRevoked (sessionId : String) : Bool :=
  (keys.sessions.lookup now sessionId).isSome

/-- The checker has no tenant to ask about. -/
def isRevoked (jti userId sessionId : String) (issuedAt : Nat) : RevocationStatus :=
  if isTokenRevoked keys now jti then ⟨true, "token_revoked"⟩
  else if areUserTokensRevoked keys now userId issuedAt then ⟨true, "user_tokens_revoked"⟩
  else if areSessionTokensRevoked keys now sessionId then ⟨true, "session_terminated"⟩
  else ⟨false, none⟩

end RevocationChecker

end Caas.Auth
