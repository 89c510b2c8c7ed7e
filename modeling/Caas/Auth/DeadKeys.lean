import Caas.Auth.ApiKeyService

/-!
# Dead API keys

A key hash is dead in a list of keys when no key there that is not revoked has it.
The commands that `Spares` admits do not bring a dead hash back to any of the layers
that decide on it: the keys of a client, the cached clients, the cached client ids
and the cached validations. A call whose replies show the hash as dead everywhere
issues no other commands, except for a promotion that reads it as the hash of the
secondary key: it makes that key live again even if it was revoked.
-/

namespace Caas.Auth.DeadKeys

open Async Redis ClientRepository StringCommand ExpiringMap
open Program hiding result failure await

variable (settings : ClientSettings) (keyHash : String)

/-- Neither key has the hash, unless it is revoked. -/
def Dead (keys : ApiKeys) : Prop :=
  ClientQuery.isLive keyHash keys.primary = false ∧
    ClientQuery.isLive keyHash keys.secondary = false

instance (keys : ApiKeys) : Decidable (Dead keyHash keys) := inferInstanceAs (Decidable (_ ∧ _))

/-- The commands that do not bring the hash back. -/
def Spares : ClientCommand → Prop
  | .updateOne _ (.apiKeys keys _) => Dead keyHash keys
  | .client (.setex _ _ client) => Dead keyHash client.apiKeys
  | .apiKey (.setex hash _ _) => hash ≠ keyHash
  | .validation (.setex hash _ result) => hash = keyHash → result.valid = false
  | _ => True

def isPromotion : ApiKeyCall → Bool
  | .promoteSecondaryKey _ => true
  | _ => false

/-- A promotion would make this the hash of a live key. -/
def Promotable (input : ApiKeyCall) (keys : ApiKeys) : Prop :=
  isPromotion input = true ∧ ∃ secondary ∈ keys.secondary, secondary.keyHash = keyHash

instance (input : ApiKeyCall) (keys : ApiKeys) : Decidable (Promotable keyHash input keys) :=
  inferInstanceAs (Decidable (_ ∧ ∃ secondary ∈ _, _))

def Sound (input : ApiKeyCall) (keys : ApiKeys) : Prop :=
  Dead keyHash keys ∧ ¬ Promotable keyHash input keys

/-- The replies that show the hash as dead. A new key has another one, repairs of projects
succeed, and so do writes to Redis that do not expire at once. -/
def Shows (input : ApiKeyCall) : (command : ClientCommand) → command.Reply → Prop
  | .findOne query, (found : Option Client) =>
    ∀ client, found = some client →
      Sound keyHash input client.apiKeys ∧ query ≠ .byApiKeyHash keyHash
  | .client (.get _), (found : Option Client) =>
    ∀ client, found = some client → Sound keyHash input client.apiKeys
  | .apiKey (.get hash), (found : Option String) => hash = keyHash → found = none
  | .validation (.get hash), (found : Option ApiKeyValidationResult) =>
    hash = keyHash → ∀ result, found = some result → result.valid = false
  | .generateApiKey, (apiKey : String) => settings.hashApiKey apiKey ≠ keyHash
  | .updateOne _ (.projectContext _ _ _ _), (written : Except String Unit) => written = .ok ()
  | .client (.setex _ seconds _), (written : Except String Unit)
  | .apiKey (.setex _ seconds _), (written : Except String Unit) => 0 < seconds → written = .ok ()
  | _, _ => True

abbrev plain (input : ApiKeyCall) : Discipline ClientCommand ClientCommand.Reply Unit :=
  Discipline.plain (Spares keyHash) (Shows settings keyHash input)

/-- A validation of the key with the hash returns that it is not valid. -/
def Rejects (input : ApiKeyCall) (outcome : Outcome ApiKeyResult) : Prop :=
  ∀ apiKey ipAddress, input = .validateApiKey apiKey ipAddress →
    settings.hashApiKey apiKey = keyHash →
      ∃ result, outcome = .ok (.validated result) ∧ result.valid = false

section Programs

variable {settings keyHash} {input : ApiKeyCall}

theorem chooseProject_respects (client : Client) :
    (chooseProject settings client).Respects (plain settings keyHash input)
      (fun _ => Returns fun _ => True) () := by
  unfold chooseProject
  dsimp only
  split
  · trivial
  · trivial
  · split
    · exact respects_command_bind trivial fun _ _ _ _ => trivial
    · trivial

theorem ensureProjectContext_respects (client : Client) :
    (ensureProjectContext settings client).Respects (plain settings keyHash input)
      (fun _ => Returns fun repaired => repaired.apiKeys = client.apiKeys) () := by
  refine Respects.seq (chooseProject_respects client) (fun choice _ => ?_)
    fun _ failed => failed
  refine respects_command_bind trivial fun (now : Nat) _ _ _ => ?_
  split
  · refine respects_command_bind trivial
      fun (written : Except String Unit) succeeds _ _ => ?_
    rw [succeeds]
    refine respects_orThrow_bind (fun _ _ => ?_) fun _ failed => nomatch failed
    exact respects_command_bind trivial fun _ _ _ _ => rfl
  · exact rfl

theorem ensureCached_respects {cached : Option Client}
    (sound : ∀ client, cached = some client → Sound keyHash input client.apiKeys) :
    (ensureCached settings cached).Respects (plain settings keyHash input)
      (fun _ => Returns fun found => ∀ client, found = some client →
        Sound keyHash input client.apiKeys) () := by
  cases cached with
  | none => exact fun _ absent => nomatch absent
  | some client =>
    have repairs : (do
        return some (← ensureProjectContext settings client) :
          ClientProgram (Option Client)).Respects (plain settings keyHash input)
        (fun _ => Returns fun found => ∀ client, found = some client →
          Sound keyHash input client.apiKeys) () := by
      refine Respects.seq (ensureProjectContext_respects client)
        (fun repaired (same : repaired.apiKeys = client.apiKeys) => ?_) fun _ failed => failed
      rintro found ⟨⟩
      rw [same]
      exact sound client rfl
    refine respects_catching (repairs.mono fun _ outcome returns => ?_)
    cases outcome with
    | ok found => exact returns
    | error error => exact returns.elim

variable (hash clientId : String) (ipAddress : Option String)

theorem findById_respects : (findById settings clientId).Respects (plain settings keyHash input)
      (fun _ => Returns fun found => ∀ client, found = some client →
        Sound keyHash input client.apiKeys) () := by
  refine respects_command_bind trivial fun (cached : Option Client) shown _ _ => ?_
  refine Respects.seq (ensureCached_respects shown) (fun parsed sound => ?_)
    fun _ failed => failed
  cases parsed with
  | some client => exact sound
  | none =>
    refine respects_command_bind trivial fun (found : Option Client) shown _ _ => ?_
    cases found with
    | none => exact fun _ absent => nomatch absent
    | some client =>
      have sound : Sound keyHash input client.apiKeys := (shown client rfl).1
      refine Respects.seq (ensureProjectContext_respects client)
        (fun repaired (same : repaired.apiKeys = client.apiKeys) => ?_) fun _ failed => failed
      rw [← same] at sound
      refine respects_command_bind sound.1
        fun (written : Except String Unit) succeeds _ _ => ?_
      have succeeds : written = .ok () := succeeds (by decide)
      rw [succeeds]
      refine respects_orThrow_bind (fun _ _ => ?_) fun _ failed => nomatch failed
      rintro found ⟨⟩
      exact sound

theorem findStoredByApiKeyHash_respects :
    (findStoredByApiKeyHash settings hash).Respects (plain settings keyHash input)
      (fun _ => Returns fun found => ∀ client, found = some client → hash ≠ keyHash)
      () := by
  refine respects_command_bind trivial fun (found : Option Client) shown _ _ => ?_
  cases found with
  | none => exact fun _ absent => nomatch absent
  | some client =>
    have other : hash ≠ keyHash := fun same => (shown client rfl).2 (congrArg _ same)
    refine Respects.seq (ensureProjectContext_respects client)
      (fun repaired _ => ?_) fun _ failed => failed
    refine respects_command_bind other fun (written : Except String Unit) succeeds _ _ => ?_
    have succeeds : written = .ok () := succeeds (by decide)
    rw [succeeds]
    refine respects_orThrow_bind (fun _ _ => ?_) fun _ failed => nomatch failed
    exact fun _ _ => other

theorem findByApiKeyHash_respects :
    (findByApiKeyHash settings hash).Respects (plain settings keyHash input)
      (fun _ => Returns fun found => ∀ client, found = some client → hash ≠ keyHash)
      () := by
  refine respects_command_bind trivial fun (cached : Option String) shown _ _ => ?_
  cases cached with
  | none => exact findStoredByApiKeyHash_respects hash
  | some clientId =>
    have other : hash ≠ keyHash := fun same => nomatch shown same
    dsimp only
    split
    · refine (findById_respects clientId).mono fun _ outcome returns => ?_
      cases outcome with
      | ok found => exact fun _ _ => other
      | error error => exact returns
    · exact findStoredByApiKeyHash_respects hash

theorem evictApiKey_issues (key : Option ClientApiKey) :
    (evictApiKey key).Issues (Spares keyHash) (Shows settings keyHash input) := by
  cases key with
  | none => exact issues_pure
  | some key =>
    unfold evictApiKey
    dsimp only
    split
    · exact issues_bind (issues_command trivial) fun _ => issues_pure
    · exact issues_pure

theorem updateApiKeys_issues {keys : ApiKeys} (dead : Dead keyHash keys) (clientId : String) :
    (updateApiKeys clientId keys).Issues (Spares keyHash)
      (Shows settings keyHash input) := by
  refine issues_bind (issues_command trivial) fun (now : Nat) => ?_
  refine issues_bind (issues_command dead) fun (written : Except String Unit) => ?_
  refine issues_bind issues_orThrow fun _ => ?_
  refine issues_bind (issues_command trivial) fun _ => ?_
  exact issues_bind (evictApiKey_issues _) fun _ => evictApiKey_issues _

theorem updateApiKeyLastUsed_issues (keyType : KeyType) :
    (updateApiKeyLastUsed clientId keyType).Issues (Spares keyHash)
      (Shows settings keyHash input) := by
  refine issues_bind (issues_command trivial) fun (now : Nat) => ?_
  refine issues_bind (issues_command trivial) ?_
  intro (written : Except String Unit)
  exact issues_orThrow

theorem evictValidation_issues (key : Option ClientApiKey) :
    (ApiKeyService.evictValidation key).Issues (Spares keyHash) (Shows settings keyHash input) := by
  cases key with
  | none => exact issues_pure
  | some key =>
    unfold ApiKeyService.evictValidation
    dsimp only
    split
    · exact issues_bind (issues_command trivial) fun _ => issues_pure
    · exact issues_pure

theorem findClient_respects :
    (ApiKeyService.findClient settings clientId).Respects (plain settings keyHash input)
      (fun _ => MayReturn fun client => Sound keyHash input client.apiKeys) () := by
  refine Respects.seq (findById_respects clientId) (fun found sound => ?_)
    fun _ failed => failed.elim
  cases found with
  | none => trivial
  | some client => exact sound client rfl

theorem validateStored_respects :
    (ApiKeyService.validateStored settings hash ipAddress).Respects (plain settings keyHash input)
      (fun _ => Returns fun result => hash = keyHash → result.valid = false) () := by
  refine Respects.seq (findByApiKeyHash_respects hash) (fun found other => ?_)
    fun _ failed => failed
  cases found with
  | none => exact respects_command_bind (fun _ => rfl) fun _ _ _ _ _ => rfl
  | some client =>
    have other : hash ≠ keyHash := other client rfl
    dsimp only
    split
    · exact fun same => absurd same other
    · split
      · exact fun same => absurd same other
      · refine respects_command_bind (fun same => absurd same other) fun _ _ _ _ => ?_
        exact fun same => absurd same other

theorem checkCached_respects (result : ApiKeyValidationResult) :
    (ApiKeyService.checkCached settings ipAddress result).Respects (plain settings keyHash input)
      (fun _ => Returns fun checked => result.valid = false → checked.valid = false)
      () := by
  unfold ApiKeyService.checkCached
  split
  · exact id
  · rename_i validated _
    split
    · refine Respects.seq (findById_respects validated.clientId) (fun found _ => ?_)
        fun _ failed => failed
      cases found with
      | none => exact id
      | some client =>
        dsimp only
        split
        · exact fun _ => rfl
        · exact id
    · exact id

theorem validateCached_respects :
    (ApiKeyService.validateCached settings hash ipAddress).Respects (plain settings keyHash input)
      (fun _ => Returns fun cached => ∀ result, cached = some result → hash = keyHash →
        result.valid = false) () := by
  refine respects_command_bind trivial
    fun (cached : Option ApiKeyValidationResult) shown _ _ => ?_
  cases cached with
  | none => exact fun _ absent => nomatch absent
  | some result =>
    refine Respects.seq (checkCached_respects ipAddress result) (fun checked kept => ?_)
      fun _ failed => failed
    rintro returned ⟨⟩ same
    exact kept (shown same result rfl)

theorem validateApiKey_respects (apiKey : String) (ipAddress : Option String) :
    (ApiKeyService.validateApiKey settings apiKey ipAddress).Respects (plain settings keyHash input)
      (fun _ => Returns fun returned => settings.hashApiKey apiKey = keyHash →
        ∃ result, returned = .validated result ∧ result.valid = false) () := by
  have cached : (catching
      (ApiKeyService.validateCached settings (settings.hashApiKey apiKey) ipAddress)
      fun _ => return none).Respects (plain settings keyHash input)
      (fun _ => Returns fun cached => ∀ result, cached = some result →
        settings.hashApiKey apiKey = keyHash → result.valid = false) () := by
    refine respects_catching ((validateCached_respects _ ipAddress).mono ?_)
    intro _ outcome kept
    cases outcome with
    | ok _ => exact kept
    | error _ => exact kept.elim
  refine Respects.seq cached (fun cached kept => ?_) fun _ failed => failed
  cases cached with
  | some result => exact fun same => ⟨result, rfl, kept result rfl same⟩
  | none =>
    refine Respects.seq (validateStored_respects _ ipAddress) (fun result rejected => ?_)
      fun _ failed => failed
    exact fun same => ⟨result, rfl, rejected same⟩

theorem dead_newApiKey {apiKey : String} (other : settings.hashApiKey apiKey ≠ keyHash)
    (now : Nat) :
    ClientQuery.isLive keyHash (some (ApiKeyService.newApiKey settings apiKey now)) = false := by
  simp [ClientQuery.isLive, ApiKeyService.newApiKey, other]

theorem dead_set_revoked {keys : ApiKeys} (dead : Dead keyHash keys) (key : ClientApiKey)
    (keyType : KeyType) : Dead keyHash (keys.set { key with revoked := true } keyType) := by
  have revoked : ClientQuery.isLive keyHash (some { key with revoked := true }) = false := by
    simp [ClientQuery.isLive]
  cases keyType with
  | primary => exact ⟨revoked, dead.2⟩
  | secondary => exact ⟨dead.1, revoked⟩

theorem generateApiKeyPair_issues :
    (ApiKeyService.generateApiKeyPair settings clientId).Issues (Spares keyHash)
      (Shows settings keyHash input) := by
  refine Respects.seq (findClient_respects clientId) (fun client _ => ?_) fun _ _ => trivial
  refine issues_command_bind trivial fun (primaryKey : String) other => ?_
  refine issues_command_bind trivial fun (secondaryKey : String) other' => ?_
  refine issues_command_bind trivial fun (now : Nat) _ => ?_
  have dead : Dead keyHash ⟨some (ApiKeyService.newApiKey settings primaryKey now),
    some (ApiKeyService.newApiKey settings secondaryKey now)⟩ :=
      ⟨dead_newApiKey other now, dead_newApiKey other' now⟩
  exact issues_bind (updateApiKeys_issues dead clientId) fun _ => issues_pure

theorem rotateApiKey_issues : (ApiKeyService.rotateApiKey settings clientId).Issues (Spares keyHash)
      (Shows settings keyHash input) := by
  refine Respects.seq (findClient_respects clientId) (fun client sound => ?_)
    fun _ _ => trivial
  refine issues_command_bind trivial fun (newSecondaryKey : String) other => ?_
  refine issues_command_bind trivial fun (now : Nat) _ => ?_
  refine issues_bind (evictValidation_issues _) fun _ => ?_
  have dead : Dead keyHash ⟨client.apiKeys.primary,
    some (ApiKeyService.newApiKey settings newSecondaryKey now)⟩ :=
      ⟨sound.1.1, dead_newApiKey other now⟩
  exact issues_bind (updateApiKeys_issues dead clientId) fun _ => issues_pure

theorem promoteSecondaryKey_issues :
    (ApiKeyService.promoteSecondaryKey settings clientId).Issues (Spares keyHash)
      (Shows settings keyHash (.promoteSecondaryKey clientId)) := by
  refine Respects.seq (findClient_respects clientId) (fun client sound => ?_)
    fun _ _ => trivial
  split
  · exact issues_failure
  · rename_i secondary found
    have other : secondary.keyHash ≠ keyHash := fun same =>
      sound.2 ⟨rfl, secondary, found, same⟩
    have dead : Dead keyHash ⟨some { secondary with revoked := false }, none⟩ :=
      ⟨by simp [ClientQuery.isLive, other], rfl⟩
    refine issues_bind (evictValidation_issues _) fun _ => ?_
    exact issues_bind (updateApiKeys_issues dead clientId) fun _ => issues_pure

theorem revokeApiKey_issues (keyType : KeyType) :
    (ApiKeyService.revokeApiKey settings clientId keyType).Issues (Spares keyHash)
      (Shows settings keyHash input) := by
  refine Respects.seq (findClient_respects clientId) (fun client sound => ?_)
    fun _ _ => trivial
  split
  · exact issues_failure
  · rename_i key _
    refine issues_bind (issues_command trivial) fun _ => ?_
    have dead := dead_set_revoked sound.1 key keyType
    exact issues_bind (updateApiKeys_issues dead clientId) fun _ => issues_pure

theorem rejects_of_issues {program : ClientProgram ApiKeyResult}
    (issues : program.Issues (Spares keyHash) (Shows settings keyHash input))
    (different : ∀ apiKey ipAddress, input ≠ .validateApiKey apiKey ipAddress) :
    program.Respects (plain settings keyHash input) (fun _ => Rejects settings keyHash input) () :=
  issues.mono fun _ _ _ apiKey ipAddress same => absurd same (different apiKey ipAddress)

theorem call_respects (settings : ClientSettings) (keyHash : String) (input : ApiKeyCall) :
    (ApiKeyService.call settings input).Respects (plain settings keyHash input)
      (fun _ => Rejects settings keyHash input) () := by
  cases input with
  | validateApiKey apiKey ipAddress =>
    refine (validateApiKey_respects apiKey ipAddress).mono fun _ outcome rejected => ?_
    rintro _ _ ⟨⟩ same
    cases outcome with
    | error error => exact rejected.elim
    | ok returned =>
      obtain ⟨result, rfl, invalid⟩ := rejected same
      exact ⟨result, rfl, invalid⟩
  | generateApiKeyPair clientId =>
    exact rejects_of_issues (generateApiKeyPair_issues clientId) fun _ _ same => nomatch same
  | rotateApiKey clientId =>
    exact rejects_of_issues (rotateApiKey_issues clientId) fun _ _ same => nomatch same
  | promoteSecondaryKey clientId =>
    exact rejects_of_issues (promoteSecondaryKey_issues clientId) fun _ _ same => nomatch same
  | revokeApiKey clientId keyType =>
    exact rejects_of_issues (revokeApiKey_issues clientId keyType) fun _ _ same => nomatch same
  | updateApiKeyLastUsed clientId keyType =>
    refine rejects_of_issues ?_ fun _ _ same => nomatch same
    exact issues_bind (updateApiKeyLastUsed_issues clientId keyType)
      fun _ => issues_pure

end Programs

section Store

structure DeadEverywhere (keyHash : String) (store : ClientStore) : Prop where
  clients : ∀ client ∈ store.clients, Dead keyHash client.apiKeys
  clientCache : ∀ clientId client, store.clientCache.lookup store.now clientId = some client →
    Dead keyHash client.apiKeys
  apiKeyCache : store.apiKeyCache.lookup store.now keyHash = none
  validationCache : ∀ result, store.validationCache.lookup store.now keyHash = some result →
    result.valid = false

variable {settings : ClientSettings} {keyHash : String} {store : ClientStore}
  {oracle : ClientOracle} {command : ClientCommand} {input : ApiKeyCall}

theorem dead_setLastUsed {keys updated : ApiKeys} (dead : Dead keyHash keys) {keyType : KeyType}
    {time : Nat} (succeeded : keys.setLastUsed keyType time = .ok updated) :
    Dead keyHash updated := by
  unfold ApiKeys.setLastUsed at succeeded
  split at succeeded
  · cases succeeded
  · rename_i key found
    cases succeeded
    cases keyType with
    | primary =>
      have live : ClientQuery.isLive keyHash (some key) = false := by
        rw [← found]
        exact dead.1
      exact ⟨live, dead.2⟩
    | secondary =>
      have live : ClientQuery.isLive keyHash (some key) = false := by
        rw [← found]
        exact dead.2
      exact ⟨dead.1, live⟩

theorem dead_apply {client updated : Client} {clientId : String} {update : ClientUpdate}
    (dead : Dead keyHash client.apiKeys) (spares : Spares keyHash (.updateOne clientId update))
    (succeeded : update.apply client = .ok updated) : Dead keyHash updated.apiKeys := by
  cases update with
  | apiKeys keys updatedAt =>
    cases succeeded
    exact spares
  | projectContext | ipWhitelist | createProject | archiveProject | selectActiveProject =>
    cases succeeded
    exact dead
  | updateProject projects activeProject updatedAt =>
    cases succeeded
    cases activeProject <;> exact dead
  | lastUsed keyType time =>
    cases outcome : client.apiKeys.setLastUsed keyType time with
    | error error =>
      rw [ClientUpdate.apply, outcome] at succeeded
      cases succeeded
    | ok keys =>
      rw [ClientUpdate.apply, outcome] at succeeded
      cases succeeded
      exact dead_setLastUsed dead outcome

theorem dead_updateOneClient {clientId : String} {update : ClientUpdate}
    (spares : Spares keyHash (.updateOne clientId update)) {clients updated : List Client}
    (dead : ∀ client ∈ clients, Dead keyHash client.apiKeys)
    (succeeded : updateOneClient clientId update clients = .ok updated) :
    ∀ client ∈ updated, Dead keyHash client.apiKeys := by
  induction clients generalizing updated with
  | nil =>
    cases succeeded
    exact dead
  | cons client rest ih =>
    obtain ⟨here, others⟩ := List.forall_mem_cons.mp dead
    rw [updateOneClient] at succeeded
    split at succeeded
    · cases outcome : update.apply client with
      | error error =>
        rw [outcome] at succeeded
        cases succeeded
      | ok changed =>
        rw [outcome] at succeeded
        cases succeeded
        exact List.forall_mem_cons.mpr ⟨dead_apply here spares outcome, others⟩
    · cases outcome : updateOneClient clientId update rest with
      | error error =>
        rw [outcome] at succeeded
        cases succeeded
      | ok changed =>
        rw [outcome] at succeeded
        cases succeeded
        exact List.forall_mem_cons.mpr ⟨here, ih others outcome⟩

theorem DeadEverywhere.exec (dead : DeadEverywhere keyHash store)
    (spares : Spares keyHash command) :
    DeadEverywhere keyHash (store.exec oracle command).1 := by
  cases command with
  | findOne | now | uuid | generateApiKey => exact dead
  | updateOne clientId update =>
    rw [ClientStore.exec]
    cases outcome : updateOneClient clientId update store.clients with
    | error error => exact dead
    | ok clients => exact { dead with clients := dead_updateOneClient spares dead.clients outcome }
  | client command =>
    refine { dead with clientCache := fun clientId client found => ?_ }
    rcases lookup_exec found with before | ⟨seconds, rfl⟩
    · exact dead.clientCache clientId client before
    · exact spares
  | apiKey command =>
    refine { dead with
      apiKeyCache := Option.eq_none_iff_forall_ne_some.mpr fun clientId found => ?_ }
    rcases lookup_exec found with before | ⟨seconds, rfl⟩
    · cases before.symm.trans dead.apiKeyCache
    · exact spares rfl
  | validation command =>
    refine { dead with validationCache := fun result found => ?_ }
    rcases lookup_exec found with before | ⟨seconds, rfl⟩
    · exact dead.validationCache result before
    · exact spares rfl

theorem DeadEverywhere.later (dead : DeadEverywhere keyHash store) (elapsed : Nat) :
    DeadEverywhere keyHash { store with now := store.now + elapsed } where
  clients := dead.clients
  clientCache clientId client found :=
    dead.clientCache clientId client (lookup_of_later (Nat.le_add_right _ _) found)
  apiKeyCache := Option.eq_none_iff_forall_ne_some.mpr fun clientId found => by
    have before := lookup_of_later (Nat.le_add_right _ _) found
    cases before.symm.trans dead.apiKeyCache
  validationCache result found :=
    dead.validationCache result (lookup_of_later (Nat.le_add_right _ _) found)

/-- The condition on a command: a promotion does not read the hash as that of the secondary
key, and a new key has another hash. -/
def CarefulCommand (settings : ClientSettings) (keyHash : String) (store : ClientStore)
    (oracle : ClientOracle) (input : ApiKeyCall) : ClientCommand → Prop
  | .findOne query => ∀ client ∈ store.clients.find? query.isMatch,
      ¬ Promotable keyHash input client.apiKeys
  | .client (.get clientId) => ∀ client ∈ store.clientCache.lookup store.now clientId,
      ¬ Promotable keyHash input client.apiKeys
  | .generateApiKey => settings.hashApiKey oracle.apiKey ≠ keyHash
  | _ => True

theorem not_isMatch_of_dead {client : Client} (dead : Dead keyHash client.apiKeys) :
    (ClientQuery.byApiKeyHash keyHash).isMatch client = false := by
  simp [ClientQuery.isMatch, dead.1, dead.2]

theorem updateOneClient_projectContext (clientId : String) (projects : List ClientProject)
    (activeProject : ClientProject) (context : ProjectContext) (updatedAt : Nat)
    (clients : List Client) : ∃ updated, updateOneClient clientId
      (.projectContext projects activeProject context updatedAt) clients = .ok updated := by
  induction clients with
  | nil => exact ⟨[], rfl⟩
  | cons client rest ih =>
    obtain ⟨updated, others⟩ := ih
    rw [updateOneClient]
    split
    · exact ⟨_, rfl⟩
    · rw [others]
      exact ⟨_, rfl⟩

theorem shows_of_dead (dead : DeadEverywhere keyHash store)
    (careful : CarefulCommand settings keyHash store oracle input command) :
    Shows settings keyHash input command (store.exec oracle command).2 := by
  cases command with
  | now | uuid => trivial
  | generateApiKey => exact careful
  | updateOne clientId update =>
    cases update with
    | apiKeys | lastUsed | ipWhitelist | createProject | updateProject | archiveProject
    | selectActiveProject => trivial
    | projectContext projects activeProject context updatedAt =>
      obtain ⟨updated, succeeds⟩ := updateOneClient_projectContext clientId projects activeProject
        context updatedAt store.clients
      change (store.exec oracle (.updateOne clientId
        (.projectContext projects activeProject context updatedAt))).2 = .ok ()
      rw [ClientStore.exec, succeeds]
  | findOne query =>
    intro client (found : store.clients.find? query.isMatch = some client)
    have dead := dead.clients client (List.mem_of_find?_eq_some found)
    refine ⟨⟨dead, careful client found⟩, ?_⟩
    rintro rfl
    have matched := List.find?_some found
    rw [not_isMatch_of_dead dead] at matched
    cases matched
  | client command =>
    cases command with
    | ttl | del => trivial
    | setex => exact fun positive => setex_succeeds positive
    | get clientId =>
      intro client (found : store.clientCache.lookup store.now clientId = some client)
      exact ⟨dead.clientCache clientId client found, careful client found⟩
  | apiKey command =>
    cases command with
    | ttl | del => trivial
    | setex => exact fun positive => setex_succeeds positive
    | get hash =>
      rintro rfl
      exact dead.apiKeyCache
  | validation command =>
    cases command with
    | setex | ttl | del => trivial
    | get hash =>
      rintro rfl result found
      exact dead.validationCache result found

end Store

section Runs

/-- Calls of the service in progress, each with the keys it has read last. -/
abbrev ApiKeyPool :=
  Pool ClientStore ClientCommand ClientCommand.Reply ApiKeyCall (Option ApiKeys) ApiKeyResult

def lastRead (keys : Option ApiKeys) : (command : ClientCommand) → command.Reply → Option ApiKeys
  | .findOne _, (found : Option Client) => (found.map (·.apiKeys)).or keys
  | .client (.get _), (found : Option Client) => (found.map (·.apiKeys)).or keys
  | _, _ => keys

def machine (settings : ClientSettings) :
    Transducer ApiKeyPool (Event ClientOracle Nat ApiKeyCall) Unit :=
  Pool.machine (apiKeyHost settings)
    (fun _ => { next := lastRead, may := fun _ _ => True, assumes := fun _ _ => True })
    fun _ => none

/-- The hash of the key that a call takes out of service, going by the keys it has read. -/
def retired : ApiKeyCall → ApiKeys → Option String
  | .rotateApiKey _, keys => keys.secondary.map (·.keyHash)
  | .promoteSecondaryKey _, keys => keys.primary.map (·.keyHash)
  | .revokeApiKey _ keyType, keys => (keys.get keyType).map (·.keyHash)
  | _, _ => none

/-- A rotation, promotion or revocation of the key with the hash has completed. -/
def Retired (keyHash : String) (pool : ApiKeyPool) : Prop :=
  ∃ call ∈ pool.calls, call.phase.bind (retired call.input) = some keyHash ∧
    (call.program.outcome?.any fun outcome => outcome.isOk) = true

def Careful (settings : ClientSettings) (keyHash : String)
    (pool : ClientStore × List (ApiKeyCall × ClientProgram ApiKeyResult)) :
    Event ClientOracle Nat ApiKeyCall → Prop
  | .run index oracle => ∀ entry ∈ pool.2[index]?,
      match entry.2 with
      | .await command _ => CarefulCommand settings keyHash pool.1 oracle entry.1 command
      | _ => True
  | _ => True

/-- The call at `index` was a validation of a key with the hash, and has ended. -/
def Validated (settings : ClientSettings) (keyHash : String) (pool : ApiKeyPool) (index : Nat)
    (outcome : Outcome ApiKeyResult) : Prop :=
  ∃ call ∈ pool.calls[index]?, (∃ apiKey ipAddress, call.input = .validateApiKey apiKey ipAddress ∧
    settings.hashApiKey apiKey = keyHash) ∧ call.program.outcome? = some outcome

variable {settings : ClientSettings} {keyHash : String}

/-- The calls started since some moment are told apart from those before. -/
abbrev since (settings : ClientSettings) (keyHash : String) (input : ApiKeyCall) :
    Discipline ClientCommand ClientCommand.Reply Bool where
  next started _ _ := started
  may _ := Spares keyHash
  assumes := Shows settings keyHash input

/-- Calls since then reject the key. -/
def ends (settings : ClientSettings) (keyHash : String) (input : ApiKeyCall) (started : Bool)
    (outcome : Outcome ApiKeyResult) : Prop :=
  started = true → Rejects settings keyHash input outcome

theorem body_respects (input : ApiKeyCall) :
    ((apiKeyHost settings).body input).Respects (since settings keyHash input)
      (ends settings keyHash input) true := by
  refine (Respects.of_plain (call_respects settings keyHash input) (fun _ spares => spares)
    fun _ _ _ => rfl).mono fun started outcome both _ => ?_
  exact both.2

/-- The hash stays dead, and the calls from number `count` on have started since. -/
structure StaysDead (keyHash : String) (count : Nat)
    (pool : Pool ClientStore ClientCommand ClientCommand.Reply ApiKeyCall Bool ApiKeyResult) :
    Prop where
  store : DeadEverywhere keyHash pool.shared
  started : ∀ (index : Nat)
    (call : Call ClientCommand ClientCommand.Reply ApiKeyCall Bool ApiKeyResult),
    pool.calls[index]? = some call → count ≤ index → call.phase = true

theorem staysDead_run {count : Nat}
    {pool : Pool ClientStore ClientCommand ClientCommand.Reply ApiKeyCall Bool ApiKeyResult}
    {events : List (Event ClientOracle Nat ApiKeyCall)}
    (careful : (Pool.machine (apiKeyHost settings) (since settings keyHash) fun _ => true).Admits
      (fun pool => Careful settings keyHash pool.bare) pool events)
    (respectful : pool.Respectful (since settings keyHash) (ends settings keyHash))
    (dead : StaysDead keyHash count pool) :
    ((Pool.machine (apiKeyHost settings) (since settings keyHash) fun _ => true).run
        pool events).Respectful (since settings keyHash) (ends settings keyHash) ∧
      StaysDead keyHash count
        ((Pool.machine (apiKeyHost settings) (since settings keyHash) fun _ => true).run
          pool events) := by
  refine Pool.invariant body_respects ?_ ?_ ?_ careful respectful dead
  · intro pool input dead _
    refine ⟨dead.store, fun index call present later => ?_⟩
    rcases Pool.getElem?_start present with earlier | rfl
    · exact dead.started index call earlier later
    · rfl
  · intro pool elapsed dead _
    exact ⟨dead.store.later elapsed, dead.started⟩
  · intro pool index oracle call command next dead guarded present awaits may
    have entry : pool.bare.2[index]? = some (call.input, .await command next) := by
      rw [Pool.getElem?_bare, present, ← awaits]
      rfl
    have careful : CarefulCommand settings keyHash pool.shared oracle call.input command :=
      guarded _ entry
    refine ⟨shows_of_dead dead.store careful, dead.store.exec may, ?_⟩
    intro other call' present' later
    rw [Pool.getElem?_resume present] at present'
    split at present'
    · rename_i same
      subst same
      cases present'
      exact dead.started index call present later
    · exact dead.started other call' present' later

end Runs

section Sample

instance {settings : ClientSettings} {keyHash : String} {store : ClientStore}
    {oracle : ClientOracle} {input : ApiKeyCall} (command : ClientCommand) :
    Decidable (CarefulCommand settings keyHash store oracle input command) :=
  match command with
  | .findOne _ | .client (.get _) => inferInstanceAs (Decidable (∀ client ∈ _, ¬ _))
  | .generateApiKey => inferInstanceAs (Decidable (_ ≠ _))
  | .updateOne _ _ | .client (.setex _ _ _) | .client (.ttl _) | .client (.del _) | .apiKey _
  | .validation _ | .now | .uuid => .isTrue trivial

instance {settings : ClientSettings} {keyHash : String} (pool : ApiKeyPool)
    (event : Event ClientOracle Nat ApiKeyCall) :
    Decidable (Careful settings keyHash pool.bare event) :=
  match event with
  | .start _ | .change _ => .isTrue trivial
  | .run _ oracle => @Option.decidableForallMem _ _
      (fun (entry : ApiKeyCall × ClientProgram ApiKeyResult) =>
        match entry with
        | (input, .await command _) =>
          inferInstanceAs (Decidable (CarefulCommand settings keyHash _ oracle input command))
        | (_, .result _) | (_, .failure _) => .isTrue trivial) _

instance {keyHash : String} {pool : ApiKeyPool} : Decidable (Retired keyHash pool) :=
  inferInstanceAs (Decidable (∃ call ∈ _, _))

def sampleClient : Client where
  clientId := "c"
  tenantId := "t"
  companyName := "n"
  plan := .free
  apiKeys := ⟨some ⟨"p", "p", 0, none, false⟩, some ⟨"s", "s", 0, none, false⟩⟩
  ipWhitelist := []
  activeProjectId := some "i"
  activeProjectName := some "n"
  activeProjectStack := some "custom"
  activeProjectEnvironment := some .development
  projects := [⟨"i", "n", "n", "custom", .development, 0, .active⟩]
  projectContext := some ⟨1, false, .projects, 0, 0⟩
  status := .active
  createdAt := 0
  updatedAt := 0

def sampleStore : ClientStore := ⟨0, [sampleClient], .empty, .empty, .empty⟩

def sampleSettings : ClientSettings := ⟨id, fun _ _ => true, id⟩

def turns (index count : Nat) : List (Event ClientOracle Nat ApiKeyCall) :=
  List.replicate count (.run index ⟨"uuid", "key" ++ toString index⟩)

def rotationEvents : List (Event ClientOracle Nat ApiKeyCall) :=
  [.start (.rotateApiKey "c")] ++ turns 0 12

def presentationEvents (index : Nat) : List (Event ClientOracle Nat ApiKeyCall) :=
  [.start (.validateApiKey "s" none)] ++ turns index 8

def cachingEvents : List (Event ClientOracle Nat ApiKeyCall) :=
  [.start (.validateApiKey "s" none)] ++ turns 0 6 ++
    [.start (.updateApiKeyLastUsed "c" .secondary)] ++ turns 1 2 ++
    [.start (.rotateApiKey "c")] ++ turns 2 12

set_option maxRecDepth 8000 in
theorem deadEverywhere_of_rotation :
    DeadEverywhere "s" ((machine sampleSettings).run ⟨sampleStore, []⟩ rotationEvents).shared where
  clients := by decide
  clientCache clientId client found := by
    have absent : ((machine sampleSettings).run ⟨sampleStore, []⟩
        rotationEvents).shared.clientCache = .empty := by
      decide
    rw [absent] at found
    cases found
  apiKeyCache := by decide
  validationCache result found := by
    have absent : ((machine sampleSettings).run ⟨sampleStore, []⟩
        rotationEvents).shared.validationCache = .empty := by
      decide
    rw [absent] at found
    cases found

end Sample

end Caas.Auth.DeadKeys
