import Caas.Gateway.Authorization

/-!
# Which conversations a user of another tenant may act on

The tenant of a resource is the tenant of the caller, so the check of the tenants passes for
every caller that has one. What remains is the role of the caller and, for some actions, what
counts as a membership: an entry of the cache, a participant of a stored conversation, or
anything when there is no database to ask.
-/

namespace Caas.Gateway

open Async Program Redis Auth

namespace AuthzEnforcer

variable {options : AuthzOptions} {store : AuthzStore} {request : AuthzHttpRequest}
  {action : String} {conversationId userId : String}

/-- The query finds a member: the user takes part in a stored conversation of that id that is
not deleted, or there is no client to ask. -/
def QueryAdmits (options : AuthzOptions) (store : AuthzStore) (conversationId userId : String) :
    Prop :=
  options.mongoClient = false ∨
    ∃ conversation ∈ store.conversations, conversation.isOf conversationId userId = true

/-- A live entry of the cache says that the user is a member. -/
def CacheAdmits (options : AuthzOptions) (store : AuthzStore) (conversationId userId : String) :
    Prop :=
  options.membershipCache = true ∧
    ∃ role, store.cache.lookup store.now
      (ConversationMembershipCache.getCacheKey conversationId userId) = some ⟨true, role⟩

def CountsAsMember (options : AuthzOptions) (store : AuthzStore)
    (conversationId userId : String) : Prop :=
  CacheAdmits options store conversationId userId ∨ QueryAdmits options store conversationId userId

/-- The roles of the caller allow the action on a conversation; some actions are for those
that count as its members. -/
def RolesAdmit (roles : List String) (action : String) (member : Prop) : Prop :=
  "tenant_admin" ∈ roles ∨
    "user" ∈ roles ∧ (action ∈ ["create", "list"] ∨
      action ∈ ["read", "update", "add_member", "remove_member"] ∧ member)

theorem hasPermission_conversation {roles : List String} (noPlatform : "platform_admin" ∉ roles)
    (noTenant : "tenant_admin" ∉ roles) :
    hasPermission roles "conversation" action =
      if "user" ∈ roles ∧ action ∈ ["create", "list"] then
        some ⟨"conversation", action, ["platform_admin", "tenant_admin", "user"], false, false⟩
      else if "user" ∈ roles ∧ action ∈ ["read", "update", "add_member", "remove_member"] then
        some ⟨"conversation", action, ["platform_admin", "tenant_admin", "user"], false, true⟩
      else none := by
  by_cases user : "user" ∈ roles
  · by_cases free : action ∈ ["create", "list"]
    · rw [if_pos ⟨user, free⟩]
      simp only [List.mem_cons, List.not_mem_nil, or_false] at free
      rcases free with rfl | rfl <;>
        simp [hasPermission, Permission.matrix, Permission.grants, noPlatform, noTenant, user]
    · rw [if_neg fun both => free both.2]
      by_cases members : action ∈ ["read", "update", "add_member", "remove_member"]
      · rw [if_pos ⟨user, members⟩]
        simp only [List.mem_cons, List.not_mem_nil, or_false] at members
        rcases members with rfl | rfl | rfl | rfl <;>
          simp [hasPermission, Permission.matrix, Permission.grants, noPlatform, noTenant, user]
      · rw [if_neg fun both => members both.2]
        simp only [List.mem_cons, List.not_mem_nil, or_false, not_or] at free members
        simp [hasPermission, Permission.matrix, Permission.grants, noPlatform, noTenant,
          Ne.symm free.1, Ne.symm free.2, Ne.symm members.1, Ne.symm members.2.1,
          Ne.symm members.2.2.1, Ne.symm members.2.2.2]
  · rw [if_neg fun both => user both.1, if_neg fun both => user both.1]
    simp [hasPermission, Permission.matrix, Permission.grants, noPlatform, noTenant, user]

section Runs

variable {circumstance : Nat → Nat × Option Fault} {number : Nat} {current : AuthzStore}

theorem conversations_exec (command : AuthzCommand) (elapsed : Nat) :
    (store.exec command elapsed).1.conversations = store.conversations := by
  cases command <;> rfl

theorem ensures_await_bind {α : Type} {issued : AuthzCommand} {next : issued.Reply → AuthzProgram α}
    {post : Nat → AuthzStore → Outcome α → Prop}
    (answered : (next (current.exec issued (circumstance number).1).2).Ensures
      (faulty AuthzStore.exec) circumstance post (number + 1)
      (current.exec issued (circumstance number).1).1)
    (rejected : ∀ error after, after.conversations = current.conversations →
      post (number + 1) after (.error error)) :
    (issued.await >>= next).Ensures (faulty AuthzStore.exec) circumstance post number
      current := by
  have kept := @conversations_exec current issued (circumstance number).1
  change Ensures _ _ _ _ (number + 1) _
  unfold faulty
  rcases (circumstance number).2 with _ | error | error
  · exact answered
  · exact rejected error current rfl
  · exact rejected error _ kept

theorem query_ensures (same : current.conversations = store.conversations) :
    (queryConversationMembership options conversationId userId).Ensures
      (faulty AuthzStore.exec) circumstance
      (fun _ after outcome => after.conversations = store.conversations ∧
        ∃ result, outcome = .ok result ∧
          (result.isMember = true → QueryAdmits options store conversationId userId))
      number current := by
  unfold queryConversationMembership
  split
  · refine ensures_catching (ensures_await_bind ?_ fun error after kept => ?_)
    · dsimp only [AuthzStore.exec]
      cases found : current.conversations.find? (·.isOf conversationId userId) with
      | none => exact ⟨same, _, rfl, (by nofun)⟩
      | some conversation =>
        have member := List.mem_of_find?_eq_some found
        rw [same] at member
        have isOf : conversation.isOf conversationId userId = true := by
          simpa using List.find?_some found
        exact ⟨same, _, rfl, fun _ => .inr ⟨conversation, member, isOf⟩⟩
    · exact ⟨kept.trans same, _, rfl, (by nofun)⟩
  · rename_i absent
    exact ⟨same, _, rfl, fun _ => .inl (Bool.eq_false_iff.mpr absent)⟩

theorem isMember_ensures (cached : options.membershipCache = true) :
    (ConversationMembershipCache.isMember conversationId userId
        (queryConversationMembership options conversationId userId)).Ensures
      (faulty AuthzStore.exec) circumstance
      (fun _ _ outcome => ∃ result, outcome = .ok result ∧ (result.isMember = true →
        CountsAsMember options store conversationId userId)) number store := by
  -- The catch asks the database directly.
  have direct : ∀ number (after : AuthzStore), after.conversations = store.conversations →
      (queryConversationMembership options conversationId userId >>= fun result =>
        (pure { result with cached := false } : AuthzProgram MembershipCheckResult)).Ensures
      (faulty AuthzStore.exec) circumstance
      (fun _ _ outcome => ∃ result, outcome = .ok result ∧ (result.isMember = true →
        CountsAsMember options store conversationId userId)) number after := by
    intro number after kept
    refine ensures_bind ((query_ensures kept).mono ?_)
    rintro _ _ _ ⟨-, result, rfl, admits⟩
    exact ⟨_, rfl, fun member => .inr (admits member)⟩
  refine ensures_catching (ensures_await_bind ?_ fun error after kept => direct _ _ kept)
  dsimp only [AuthzStore.exec, StringCommand.exec]
  cases found : store.cache.lookup (store.now + (circumstance number).1)
      (ConversationMembershipCache.getCacheKey conversationId userId) with
  | some data =>
    have live := ExpiringMap.lookup_of_later (Nat.le_add_right _ _) found
    refine ⟨_, rfl, fun member => .inl ⟨cached, data.role, ?_⟩⟩
    rw [live]
    exact congrArg some (congrArg (Membership.mk · data.role) member)
  | none =>
    refine ensures_bind ((query_ensures rfl).mono ?_)
    rintro number after _ ⟨kept, result, rfl, admits⟩
    refine ensures_await_bind ?_ fun error later unchanged => direct _ _ (unchanged.trans kept)
    exact ⟨_, rfl, fun member => .inr (admits member)⟩

theorem check_ensures :
    (checkConversationMembership options conversationId userId).Ensures
      (faulty AuthzStore.exec) circumstance
      (fun _ _ outcome => ∃ result, outcome = .ok result ∧ (result = true →
        CountsAsMember options store conversationId userId)) number store := by
  unfold checkConversationMembership
  split
  · rename_i cached
    refine ensures_bind ((isMember_ensures cached).mono ?_)
    rintro _ _ _ ⟨result, rfl, admits⟩
    exact ⟨_, rfl, admits⟩
  · refine ensures_bind ((query_ensures rfl).mono ?_)
    rintro _ _ _ ⟨-, result, rfl, admits⟩
    exact ⟨_, rfl, fun member => .inr (admits member)⟩

theorem query_admits (admits : QueryAdmits options store conversationId userId)
    (calm : (circumstance number).2 = none) :
    (queryConversationMembership options conversationId userId).Ensures
      (faulty AuthzStore.exec) circumstance
      (fun _ _ outcome => ∃ role, outcome = .ok ⟨true, role⟩) number store := by
  unfold queryConversationMembership
  split
  · rename_i present
    rcases admits with absent | ⟨conversation, member, isOf⟩
    · cases absent.symm.trans present
    · refine ensures_catching ?_
      refine ensures_command_bind (faulty_of_calm calm) ?_
      cases found : store.conversations.find? (·.isOf conversationId userId) with
      | none => exact absurd isOf (List.find?_eq_none.mp found conversation member)
      | some stored =>
        dsimp only [AuthzStore.exec]
        rw [found]
        exact ⟨_, rfl⟩
  · exact ⟨_, rfl⟩

/-- Whoever counts as a member passes in some run: of the cache that answers, or of the
database when the cache is lost. -/
theorem check_admits (counts : CountsAsMember options store conversationId userId) :
    ∃ circumstance, (checkConversationMembership options conversationId userId).Ensures
      (faulty AuthzStore.exec) circumstance (fun _ _ outcome => outcome = .ok true) 0
      store := by
  let cacheKey := ConversationMembershipCache.getCacheKey conversationId userId
  unfold checkConversationMembership
  rcases counts with ⟨cached, role, found⟩ | admits
  · have answered : faulty AuthzStore.exec store (.redis (.get cacheKey)) (0, none) =
        (store, .ok (some ⟨true, role⟩)) := by
      rw [← found]
      rfl
    refine ⟨fun _ => (0, none), ?_⟩
    rw [if_pos cached]
    refine ensures_bind (ensures_catching ?_)
    exact ensures_command_bind answered rfl
  · split
    · -- The first command asks the cache.
      have lost : faulty AuthzStore.exec store (.redis (.get cacheKey))
          (0, some (.lost "")) = (store, .error "") := rfl
      refine ⟨fun number => (0, if number = 0 then some (.lost "") else none), ?_⟩
      refine ensures_bind (ensures_catching
        (ensures_command_bind lost ?_))
      change (queryConversationMembership options conversationId userId >>= fun result =>
        (pure { result with cached := false } : AuthzProgram MembershipCheckResult)).Ensures
          _ _ _ 1 store
      refine ensures_bind ?_
      refine (query_admits admits (by rfl)).mono ?_
      rintro _ _ _ ⟨role, rfl⟩
      rfl
    · refine ⟨fun _ => (0, none), ensures_bind ((query_admits admits (by rfl)).mono ?_)⟩
      rintro _ _ _ ⟨role, rfl⟩
      rfl

def Allows (options : AuthzOptions) (store : AuthzStore) (request : AuthzHttpRequest)
    (action : String) (circumstance : Nat → Nat × Option Fault) : Prop :=
  ∃ decision, (authorizeRequest options request action circumstance store).2 = .ok decision ∧
    decision.allowed = true

end Runs

/-- The resource of the request is the conversation of this id. -/
structure Names (request : AuthzHttpRequest) (conversationId : String) : Prop where
  type : ResourceExtractor.extractResourceType request = "conversation"
  id : (ResourceExtractor.extractResourceId request).filter (· ≠ "") = some conversationId

/-- The caller has a tenant, and roles that allow the action. -/
def MayAct (options : AuthzOptions) (store : AuthzStore) (request : AuthzHttpRequest)
    (action conversationId : String) : Prop :=
  request.user.tenantId.any (· ≠ "") = true ∧
    RolesAdmit (SubjectExtractor.extract request).roles action
      (CountsAsMember options store conversationId (SubjectExtractor.extract request).userId)

theorem tenant_eq_iff :
    (SubjectExtractor.extract request).tenantId =
        some (ResourceExtractor.extract request).tenantId ↔
      request.user.tenantId.any (· ≠ "") = true := by
  change request.user.tenantId = some (ClientRepository.orElse request.user.tenantId "unknown") ↔ _
  cases tenant : request.user.tenantId with
  | none => simp
  | some tenantId =>
    by_cases blank : tenantId = ""
    · subst blank
      decide
    · simp [ClientRepository.orElse, Option.filter, blank]

def evaluated (options : AuthzOptions) (request : AuthzHttpRequest) (action : String) :
    AuthzProgram AuthzDecision :=
  evaluateRequest options
    { subject := SubjectExtractor.extract request,
      resource := ResourceExtractor.extract request, action }

theorem exists_allows_of_pure {made : AuthzDecision}
    (same : evaluated options request action = pure made) :
    (∃ circumstance, Allows options store request action circumstance) ↔ made.allowed = true := by
  have ran : ∀ circumstance,
      (authorizeRequest options request action circumstance store).2 = .ok made := by
    intro circumstance
    change ((catching (evaluated options request action) _).run _ _ _ _).2 = _
    rw [same]
    rfl
  constructor
  · rintro ⟨circumstance, decision, ended, allowed⟩
    rw [ran] at ended
    cases ended
    exact allowed
  · exact fun allowed => ⟨fun _ => (0, none), made, ran _, allowed⟩

theorem exists_allows_of_check {granted denied : AuthzDecision}
    (same : evaluated options request action =
      checkConversationMembership options conversationId userId >>= fun passed =>
        if passed = true then pure granted else pure denied)
    (grants : granted.allowed = true) (denies : denied.allowed = false) :
    (∃ circumstance, Allows options store request action circumstance) ↔
      CountsAsMember options store conversationId userId := by
  have ensures : ∀ {circumstance : Nat → Nat × Option Fault} {post : AuthzStore →
      Outcome AuthzDecision → Prop},
      (checkConversationMembership options conversationId userId).Ensures
        (faulty AuthzStore.exec) circumstance (fun _ after outcome =>
          ∃ result, outcome = .ok result ∧
            post after (.ok (if result = true then granted else denied))) 0 store →
      post (authorizeRequest options request action circumstance store).1
        (authorizeRequest options request action circumstance store).2 := by
    intro circumstance post checked
    change post ((catching (evaluated options request action) _).run _ _ _ _).1
      ((catching (evaluated options request action) _).run _ _ _ _).2
    rw [same]
    refine ensures_iff_run.mp (ensures_catching (ensures_bind
      (checked.mono ?_)))
    rintro _ after _ ⟨result, rfl, holds⟩
    cases result <;> exact holds
  constructor
  · rintro ⟨circumstance, decision, ended, allowed⟩
    refine @ensures circumstance (fun _ outcome => ∀ decision, outcome = .ok decision →
      decision.allowed = true → CountsAsMember options store conversationId userId)
      (check_ensures.mono ?_) decision ended allowed
    rintro _ _ _ ⟨result, rfl, counts⟩
    refine ⟨result, rfl, ?_⟩
    rintro _ ⟨⟩ allowed
    cases result with
    | true => exact counts rfl
    | false => cases denies.symm.trans allowed
  · intro counts
    obtain ⟨circumstance, passes⟩ := check_admits counts
    refine ⟨circumstance, @ensures circumstance (fun _ outcome => ∃ decision,
      outcome = .ok decision ∧ decision.allowed = true) (passes.mono ?_)⟩
    rintro _ _ _ rfl
    exact ⟨true, rfl, granted, rfl, grants⟩

theorem exists_allows_of_permission {permission : Permission}
    (same : evaluated options request action = evaluatePermission options
      { subject := SubjectExtractor.extract request,
        resource := ResourceExtractor.extract request, action } permission)
    (free : permission.requiresOwnership = false) (names : Names request conversationId) :
    (∃ circumstance, Allows options store request action circumstance) ↔
      (permission.requiresMembership = true → CountsAsMember options store conversationId
        (SubjectExtractor.extract request).userId) := by
  have ofId : (ResourceExtractor.extract request).id.filter (· ≠ "") = some conversationId :=
    names.id
  unfold evaluatePermission at same
  dsimp only at same
  rw [if_neg (by simp [free]), ofId] at same
  cases required : permission.requiresMembership with
  | false =>
    rw [if_neg (by simp [required])] at same
    exact (exists_allows_of_pure same).trans (iff_of_true rfl fun impossible => by cases impossible)
  | true =>
    rw [if_pos required] at same
    exact (exists_allows_of_check same rfl rfl).trans
      ⟨fun counts _ => counts, fun counts => counts rfl⟩

theorem evaluated_of_matrix
    (tenant : (SubjectExtractor.extract request).tenantId =
      some (ResourceExtractor.extract request).tenantId)
    (noPlatform : "platform_admin" ∉ (SubjectExtractor.extract request).roles)
    (noTenant : "tenant_admin" ∉ (SubjectExtractor.extract request).roles)
    (names : Names request conversationId) :
    ∃ reason, evaluated options request action =
      match hasPermission (SubjectExtractor.extract request).roles "conversation" action with
      | none => pure (decision false reason [])
      | some permission => evaluatePermission options
        { subject := SubjectExtractor.extract request,
          resource := ResourceExtractor.extract request, action } permission := by
  have ofType : (ResourceExtractor.extract request).type = "conversation" := names.type
  unfold evaluated evaluateRequest
  dsimp only
  rw [if_neg (not_not.mpr tenant), if_neg (by simpa using noPlatform),
    if_neg (by simp [noTenant]), ofType]
  exact ⟨_, rfl⟩

/-- Which conversations a caller that is no platform administrator may act on. -/
theorem exists_allows_iff (noPlatform : "platform_admin" ∉ (SubjectExtractor.extract request).roles)
    (names : Names request conversationId) :
    (∃ circumstance, Allows options store request action circumstance) ↔
      MayAct options store request action conversationId := by
  unfold MayAct
  rw [← tenant_eq_iff]
  by_cases tenant : (SubjectExtractor.extract request).tenantId =
      some (ResourceExtractor.extract request).tenantId
  · rw [and_iff_right tenant]
    by_cases admin : "tenant_admin" ∈ (SubjectExtractor.extract request).roles
    · have same : evaluated options request action = pure (decision true
          "Tenant admin has full access within tenant" ["tenant-admin-full-access"]) := by
        unfold evaluated evaluateRequest
        dsimp only
        rw [if_neg (not_not.mpr tenant), if_neg (by simpa using noPlatform),
          if_pos (by simp [admin, tenant])]
      exact (exists_allows_of_pure same).trans (iff_of_true rfl (.inl admin))
    · obtain ⟨reason, same⟩ :=
        @evaluated_of_matrix options request action conversationId tenant noPlatform admin names
      rw [hasPermission_conversation noPlatform admin] at same
      unfold RolesAdmit
      rw [or_iff_right admin]
      by_cases free : "user" ∈ (SubjectExtractor.extract request).roles ∧
          action ∈ ["create", "list"]
      · rw [if_pos free] at same
        exact (exists_allows_of_permission same rfl names).trans
          (iff_of_true (fun required => by cases required) ⟨free.1, .inl free.2⟩)
      · rw [if_neg free] at same
        by_cases members : "user" ∈ (SubjectExtractor.extract request).roles ∧
            action ∈ ["read", "update", "add_member", "remove_member"]
        · rw [if_pos members] at same
          rw [and_iff_right members.1, and_iff_right members.2,
            or_iff_right fun listed => free ⟨members.1, listed⟩]
          exact (exists_allows_of_permission same rfl names).trans
            ⟨fun counts => counts rfl, fun counts _ => counts⟩
        · rw [if_neg members] at same
          refine (exists_allows_of_pure same).trans (iff_of_false Bool.false_ne_true ?_)
          rintro ⟨user, listed | ⟨listed, -⟩⟩
          · exact free ⟨user, listed⟩
          · exact members ⟨user, listed⟩
  · have same : evaluated options request action =
        pure (decision false "Cross-tenant access denied" ["deny-cross-tenant"]) := by
      exact if_pos tenant
    exact (exists_allows_of_pure same).trans
      (iff_of_false Bool.false_ne_true fun both => tenant both.1)

/-- The stored conversation of this id belongs to the tenant of the caller. -/
def BelongsTo (store : AuthzStore) (request : AuthzHttpRequest) (conversationId : String) : Prop :=
  ∃ conversation ∈ store.conversations, conversation.conversationId = conversationId ∧
    request.user.tenantId = some conversation.tenantId

/-- No run allows a caller that is no platform administrator the action on a conversation of
another tenant. -/
def Isolates (options : AuthzOptions) (store : AuthzStore) (request : AuthzHttpRequest)
    (action : String) : Prop :=
  ∀ conversationId circumstance, Names request conversationId →
    "platform_admin" ∉ (SubjectExtractor.extract request).roles →
    Allows options store request action circumstance → BelongsTo store request conversationId

/-- The tenants are kept apart just when the conversation belongs to the tenant of the caller, or
neither its roles nor what counts as its membership let it act. -/
theorem isolates_iff (options : AuthzOptions) (store : AuthzStore) (request : AuthzHttpRequest)
    (action : String) :
    Isolates options store request action ↔
      ∀ conversationId, Names request conversationId →
        "platform_admin" ∉ (SubjectExtractor.extract request).roles →
        BelongsTo store request conversationId ∨
          ¬ MayAct options store request action conversationId := by
  constructor
  · intro isolates conversationId names noPlatform
    refine or_iff_not_imp_right.mpr fun acts => ?_
    obtain ⟨circumstance, allows⟩ := (exists_allows_iff noPlatform names).mpr (not_not.mp acts)
    exact isolates conversationId circumstance names noPlatform allows
  · intro kept conversationId circumstance names noPlatform allows
    exact (kept conversationId names noPlatform).resolve_right
      (not_not.mpr ((exists_allows_iff noPlatform names).mp ⟨circumstance, allows⟩))

section Samples

def sampleStore : AuthzStore := ⟨0, .empty, [⟨"c1", "tenant-b", [⟨"bob", none⟩], none⟩]⟩

/-- The administrator of another tenant asks for it. -/
def sampleRequest : AuthzHttpRequest where
  user := ⟨some "alice", "alice", some "tenant-a", some ["tenant_admin"]⟩
  url := "/api/v1/conversations/c1"
  id := some "c1"

/-- An administrator of a tenant reads a conversation of another one. -/
theorem foreign_conversation_read : ¬ Isolates ⟨true, true⟩ sampleStore sampleRequest "read" := by
  intro isolates
  have names : Names sampleRequest "c1" := ⟨by decide, by decide⟩
  obtain ⟨conversation, stored, -, same⟩ :=
    isolates "c1" (fun _ => (0, none)) names (by decide) ⟨_, rfl, rfl⟩
  rw [List.mem_singleton.mp stored] at same
  exact absurd same (by decide)

end Samples

end AuthzEnforcer

end Caas.Gateway
