import Caas.Auth.ClientRepository

/-!
# The authorization of the gateway

`SubjectExtractor` and `ResourceExtractor` read a request, and `AuthzEnforcer` decides it by
roles, by the permission matrix and by the membership in a conversation, which a cache in
Redis holds for five minutes. What Redis and MongoDB are asked may fail.

The action of a request is an argument. The audit of a decision, which is written to the
console, and the attributes of a subject, which nothing reads, are left out.
-/

namespace Caas.Gateway

open Async Program Redis Auth ClientRepository

structure Permission where
  resource : String
  action : String
  roles : List String
  requiresOwnership : Bool := false
  requiresMembership : Bool := false
deriving DecidableEq

namespace Permission

/-- `PERMISSION_MATRIX`. -/
def matrix : List Permission :=
  [{ resource := "conversation", action := "create",
     roles := ["platform_admin", "tenant_admin", "user"] },
    { resource := "conversation", action := "read",
      roles := ["platform_admin", "tenant_admin", "user"], requiresMembership := true },
    { resource := "conversation", action := "update",
      roles := ["platform_admin", "tenant_admin", "user"], requiresMembership := true },
    { resource := "conversation", action := "delete",
      roles := ["platform_admin", "tenant_admin"], requiresOwnership := true },
    { resource := "conversation", action := "add_member",
      roles := ["platform_admin", "tenant_admin", "user"], requiresMembership := true },
    { resource := "conversation", action := "remove_member",
      roles := ["platform_admin", "tenant_admin", "user"], requiresMembership := true },
    { resource := "conversation", action := "list",
      roles := ["platform_admin", "tenant_admin", "user"] },
    { resource := "message", action := "create",
      roles := ["platform_admin", "tenant_admin", "user"], requiresMembership := true },
    { resource := "message", action := "read",
      roles := ["platform_admin", "tenant_admin", "user"], requiresMembership := true },
    { resource := "message", action := "update",
      roles := ["platform_admin", "tenant_admin", "user"], requiresOwnership := true },
    { resource := "message", action := "delete",
      roles := ["platform_admin", "tenant_admin", "user"], requiresOwnership := true },
    { resource := "user", action := "create", roles := ["platform_admin", "tenant_admin"] },
    { resource := "user", action := "read", roles := ["platform_admin", "tenant_admin", "user"] },
    { resource := "user", action := "update",
      roles := ["platform_admin", "tenant_admin", "user"], requiresOwnership := true },
    { resource := "user", action := "delete", roles := ["platform_admin", "tenant_admin"] },
    { resource := "user", action := "list", roles := ["platform_admin", "tenant_admin"] },
    { resource := "application", action := "create", roles := ["platform_admin", "tenant_admin"] },
    { resource := "application", action := "read", roles := ["platform_admin", "tenant_admin"] },
    { resource := "application", action := "update", roles := ["platform_admin", "tenant_admin"] },
    { resource := "application", action := "delete", roles := ["platform_admin", "tenant_admin"] },
    { resource := "application", action := "list", roles := ["platform_admin", "tenant_admin"] },
    { resource := "tenant", action := "*", roles := ["platform_admin"] },
    { resource := "audit", action := "read", roles := ["platform_admin", "tenant_admin"] },
    { resource := "metrics", action := "read", roles := ["platform_admin", "tenant_admin"] }]

/-- The permission speaks of the action on the resource and is given to one of the roles. -/
def grants (permission : Permission) (roles : List String) (resource action : String) : Bool :=
  (permission.resource == resource || permission.resource == "*") &&
    (permission.action == action || permission.action == "*") &&
    permission.roles.any fun role => roles.contains role

end Permission

def hasPermission (roles : List String) (resource action : String) : Option Permission :=
  Permission.matrix.find? (·.grants roles resource action)

/-- The user that the authentication put into a request. -/
structure AuthzUser where
  userId : Option String
  sub : String
  tenantId : Option String
  roles : Option (List String)

/-- What the extractors read of a request: the parameters of its route that name a resource. -/
structure AuthzHttpRequest where
  user : AuthzUser
  url : String
  id : Option String := none
  messageId : Option String := none
  conversationId : Option String := none
  groupId : Option String := none

structure AuthzSubject where
  userId : String
  tenantId : Option String
  roles : List String

structure AuthzResource where
  type : String
  id : Option String
  tenantId : String
  ownerId : Option String
  attributes : List (String × String)

structure AuthzRequest where
  subject : AuthzSubject
  resource : AuthzResource
  action : String

structure AuthzDecision where
  allowed : Bool
  reason : String
  matchedPolicies : Option (List String)
  cached : Bool

namespace SubjectExtractor

def extract (request : AuthzHttpRequest) : AuthzSubject where
  userId := orElse request.user.userId request.user.sub
  tenantId := request.user.tenantId
  roles := request.user.roles.getD []

end SubjectExtractor

namespace ResourceExtractor

def resourceTypeMap : List (String × String) :=
  [("/api/v1/messages", "message"), ("/api/v1/conversations", "conversation"),
    ("/api/v1/groups", "group"), ("/api/v1/users", "user"), ("/api/v1/files", "file"),
    ("/api/v1/admin", "admin")]

def extractResourceType (request : AuthzHttpRequest) : String :=
  let path := request.url.toList.takeWhile (· ≠ '?')
  ((resourceTypeMap.find? fun (pattern, _) => pattern.toList.isPrefixOf path).map (·.2)).getD
    "resource"

/-- The first parameter with a text; without one the last parameter, which may be empty. -/
def extractResourceId (request : AuthzHttpRequest) : Option String :=
  ([request.id, request.messageId, request.conversationId].find? fun parameter =>
    parameter.any (· ≠ "")).getD request.groupId

def extractTenantId (request : AuthzHttpRequest) : String :=
  orElse request.user.tenantId "unknown"

/-- The attributes and the owner; nothing is looked up. -/
def fetchResourceData (resourceType resourceId tenantId : String) :
    List (String × String) × Option String :=
  ([("resource_type", resourceType), ("resource_id", resourceId), ("tenant_id", tenantId)], none)

def extract (request : AuthzHttpRequest) : AuthzResource :=
  let resourceType := extractResourceType request
  let resourceId := extractResourceId request
  let tenantId := extractTenantId request
  let (attributes, ownerId) :=
    match resourceId.filter (· ≠ "") with
    | none => ([], none)
    | some resourceId => fetchResourceData resourceType resourceId tenantId
  { type := resourceType, id := resourceId, tenantId, ownerId, attributes }

end ResourceExtractor

structure Participant where
  userId : String
  role : Option String

/-- A document of the collection `conversations`. -/
structure Conversation where
  conversationId : String
  tenantId : String
  participants : List Participant
  deletedAt : Option Nat

/-- The filter of the query for a membership. -/
def Conversation.isOf (conversation : Conversation) (conversationId userId : String) : Bool :=
  conversation.conversationId == conversationId &&
    conversation.participants.any (·.userId == userId) && conversation.deletedAt.isNone

/-- What a check of a membership finds, and what the cache holds of it. -/
structure Membership where
  isMember : Bool
  role : Option String
deriving DecidableEq

structure MembershipCheckResult extends Membership where
  cached : Bool

structure AuthzStore where
  now : Nat
  cache : ExpiringMap String Membership
  conversations : List Conversation

inductive AuthzCommand where
  | redis (command : StringCommand String Membership)
  | findOne (conversationId userId : String)

namespace AuthzCommand

def Reply : AuthzCommand → Type
  | .redis command => command.Reply
  | .findOne _ _ => Option Conversation

end AuthzCommand

/-- A program of the enforcer; each command may be rejected. -/
abbrev AuthzProgram (α : Type) :=
  Program AuthzCommand (fun command => Outcome command.Reply) α

/-- Await a command and throw its error. -/
def AuthzCommand.await (issued : AuthzCommand) : AuthzProgram issued.Reply := do
  let reply ← command issued
  orThrow reply

/-- Execute a command, after some time. -/
def AuthzStore.exec (store : AuthzStore) :
    (command : AuthzCommand) → (elapsed : Nat) → AuthzStore × command.Reply
  | .redis command, elapsed =>
    let now := store.now + elapsed
    let (cache, reply) := StringCommand.exec store.cache now command
    ({ store with now, cache }, reply)
  | .findOne conversationId userId, elapsed =>
    ({ store with now := store.now + elapsed },
      store.conversations.find? (·.isOf conversationId userId))

namespace ConversationMembershipCache

def ttlSeconds : Int := 300

def getCacheKey (conversationId userId : String) : String :=
  "authz:membership" ++ ":" ++ conversationId ++ ":" ++ userId

def isMember (conversationId userId : String) (checkFn : AuthzProgram Membership) :
    AuthzProgram MembershipCheckResult :=
  catching
    (do
      match ← AuthzCommand.await (.redis (.get (getCacheKey conversationId userId))) with
      | some data => return { data with cached := true }
      | none =>
        let result ← checkFn
        let written ← AuthzCommand.await
          (.redis (.setex (getCacheKey conversationId userId) ttlSeconds result))
        orThrow written
        return { result with cached := false })
    fun _ => do
      let result ← checkFn
      return { result with cached := false }

end ConversationMembershipCache

/-- Whether the enforcer was given a client of MongoDB, and one of Redis with caching enabled. -/
structure AuthzOptions where
  mongoClient : Bool
  membershipCache : Bool

namespace AuthzEnforcer

variable (options : AuthzOptions)

def queryConversationMembership (conversationId userId : String) : AuthzProgram Membership :=
  if options.mongoClient then
    catching
      (do
        match ← AuthzCommand.await (.findOne conversationId userId) with
        | none => return ⟨false, none⟩
        | some conversation =>
          let participant := conversation.participants.find? (·.userId == userId)
          return ⟨true, some (orElse (participant.bind (·.role)) "member")⟩)
      fun _ => return ⟨false, none⟩
  else
    return ⟨true, some "member"⟩

def checkConversationMembership (conversationId userId : String) : AuthzProgram Bool := do
  if options.membershipCache then
    let result ← ConversationMembershipCache.isMember conversationId userId
      (queryConversationMembership options conversationId userId)
    return result.isMember
  else
    let result ← queryConversationMembership options conversationId userId
    return result.isMember

def decision (allowed : Bool) (reason : String) (matchedPolicies : List String) :
    AuthzDecision where
  allowed
  reason
  matchedPolicies := some matchedPolicies
  cached := false

/-- What `evaluateRequest` still checks when a permission is found. -/
def evaluatePermission (request : AuthzRequest) (permission : Permission) :
    AuthzProgram AuthzDecision := do
  let { subject, resource, .. } := request
  let granted := decision true
    ("Permission granted via role '" ++ ", ".intercalate subject.roles ++ "'")
    [permission.resource ++ "-" ++ permission.action]
  if permission.requiresOwnership && !resource.ownerId.any fun ownerId =>
      ownerId ≠ "" && ownerId = subject.userId then
    return decision false "Resource ownership required for this action"
      [permission.resource ++ "-" ++ permission.action]
  else if permission.requiresMembership then
    match resource.id.filter (· ≠ "") with
    | none => return decision false "Resource ID required for membership check" []
    | some resourceId =>
      if ← checkConversationMembership options resourceId subject.userId then
        return granted
      else
        return decision false "Conversation membership required for this action"
          [permission.resource ++ "-" ++ permission.action]
  else
    return granted

def evaluateRequest (request : AuthzRequest) : AuthzProgram AuthzDecision :=
  let { subject, resource, action } := request
  if subject.tenantId ≠ some resource.tenantId then
    return decision false "Cross-tenant access denied" ["deny-cross-tenant"]
  else if subject.roles.contains "platform_admin" then
    return decision true "Platform admin has full access" ["platform-admin-full-access"]
  else if subject.roles.contains "tenant_admin" && subject.tenantId == some resource.tenantId then
    return decision true "Tenant admin has full access within tenant" ["tenant-admin-full-access"]
  else
    match hasPermission subject.roles resource.type action with
    | none =>
      return decision false
        ("Role '" ++ ", ".intercalate subject.roles ++ "' does not have permission to '" ++
          action ++ "' on '" ++ resource.type ++ "'") []
    | some permission => evaluatePermission options request permission

def authorize (request : AuthzRequest) : AuthzProgram AuthzDecision :=
  catching (evaluateRequest options request) fun _ =>
    return {
      allowed := false, reason := "Authorization service error", matchedPolicies := none,
      cached := false }

/-- Run the authorization of what the extractors read of a request. -/
def authorizeRequest (request : AuthzHttpRequest) (action : String)
    (circumstance : Nat → Nat × Option Fault) (store : AuthzStore) :
    AuthzStore × Outcome AuthzDecision :=
  (authorize options
    { subject := SubjectExtractor.extract request,
      resource := ResourceExtractor.extract request, action }).run
    (faulty AuthzStore.exec) circumstance 0 store

end AuthzEnforcer

end Caas.Gateway
