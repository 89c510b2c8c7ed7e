import Caas.Gateway.AuthClient

/-!
# Whitelists behind two caches

The auth service checks the address of a request against the whitelist of the client also
when it has cached the validation: what its caches tell of a client is what the collection
holds, over every program that the service runs. The gateway returns what it has cached
without a check, so a call is sound exactly when it is not answered from there for
an address that the whitelist does not allow and did not allow then.
-/

namespace Caas.Gateway.WhitelistCaching

open Async Redis Auth ClientRepository
open Program hiding result failure await

abbrev Whitelists := List (String × List String)

def whitelists (clients : List Client) : Whitelists :=
  clients.map fun client => (client.clientId, client.ipWhitelist)

def Known (held : Whitelists) (client : Client) : Prop :=
  (client.clientId, client.ipWhitelist) ∈ held

/-- A valid answer tells of a client that is held. -/
def Told (held : Whitelists) (result : ApiKeyValidationResult) : Prop :=
  result.valid = true → ∃ told, result.client = some told ∧ told.clientId ∈ held.map Prod.fst

def isAllowed (settings : ClientSettings) (ipAddress : Option String) (ips : List String) : Bool :=
  (ipAddress.filter (· ≠ "")).all fun ip => settings.isIpAllowed ip ips

/-- A valid answer is given to an address that the whitelist of its client allows. -/
def Checked (settings : ClientSettings) (held : Whitelists) (ipAddress : Option String)
    (result : ApiKeyValidationResult) : Prop :=
  result.valid = true → ∃ told, result.client = some told ∧
    ∃ ips, (told.clientId, ips) ∈ held ∧ isAllowed settings ipAddress ips = true

/-- The commands that keep the whitelists, and cache nothing else of them. -/
def Keeps (held : Whitelists) : ClientCommand → Prop
  | .updateOne _ (.ipWhitelist _ _) => False
  | .client (.setex clientId _ client) => client.clientId = clientId ∧ Known held client
  | .validation (.setex _ _ result) => Told held result
  | _ => True

def Shows (held : Whitelists) : (command : ClientCommand) → command.Reply → Prop
  | .findOne (.byId clientId), (found : Option Client) =>
    (∀ client, found = some client → client.clientId = clientId ∧ Known held client) ∧
      (found = none → clientId ∉ held.map Prod.fst)
  | .findOne (.byApiKeyHash _), (found : Option Client) =>
    ∀ client, found = some client → Known held client
  | .client (.get clientId), (found : Option Client) =>
    ∀ client, found = some client → client.clientId = clientId ∧ Known held client
  | .validation (.get _), (found : Option ApiKeyValidationResult) =>
    ∀ result, found = some result → Told held result
  | _, _ => True

/-- The discipline of one program, while the whitelists are held. -/
abbrev plain (held : Whitelists) : Discipline ClientCommand ClientCommand.Reply Unit :=
  Discipline.plain (Keeps held) (Shows held)

section Programs

variable {settings : ClientSettings} {held : Whitelists} {ipAddress : Option String}

variable {client : Client} (clientId keyHash : String)

theorem isRefused_eq_false : ApiKeyService.isRefused settings ipAddress client = false ↔
      isAllowed settings ipAddress client.ipWhitelist = true := by
  unfold ApiKeyService.isRefused isAllowed
  cases ipAddress.filter (· ≠ "") <;> simp

theorem checked_invalid (error : String) :
    Checked settings held ipAddress (ApiKeyService.invalid error) := by
  intro valid
  cases valid

theorem told_of_checked {result : ApiKeyValidationResult}
    (checked : Checked settings held ipAddress result) : Told held result := by
  intro valid
  obtain ⟨told, same, ips, member, _⟩ := checked valid
  exact ⟨told, same, List.mem_map.mpr ⟨_, member, rfl⟩⟩

theorem checked_validFor (known : Known held client)
    (allowed : isAllowed settings ipAddress client.ipWhitelist = true) :
    Checked settings held ipAddress (ApiKeyService.validFor client) :=
  fun _ => ⟨_, rfl, _, known, allowed⟩

theorem chooseProject_issues (client : Client) :
    (chooseProject settings client).Issues (Keeps held) (Shows held) := by
  unfold chooseProject
  dsimp only
  split
  · exact issues_pure
  · exact issues_pure
  · split
    · exact issues_command_bind trivial fun _ _ => issues_pure
    · exact issues_pure

theorem ensureProjectContext_respects (client : Client) :
    (ensureProjectContext settings client).Respects (plain held)
      (fun _ => MayReturn fun repaired =>
        repaired.clientId = client.clientId ∧ repaired.ipWhitelist = client.ipWhitelist) () := by
  refine Respects.seq (chooseProject_issues client) (fun choice _ => ?_) fun _ _ => trivial
  refine respects_command_bind trivial fun (now : Nat) _ _ _ => ?_
  split
  · refine respects_command_bind trivial fun (written : Except String Unit) _ _ _ => ?_
    refine respects_orThrow_bind (fun _ _ => ?_) fun _ _ => trivial
    exact respects_command_bind trivial fun _ _ _ _ => ⟨rfl, rfl⟩
  · exact ⟨rfl, rfl⟩

theorem ensureProjectContext_known (known : Known held client) :
    (ensureProjectContext settings client).Respects (plain held)
      (fun _ => MayReturn fun repaired =>
        repaired.clientId = client.clientId ∧ Known held repaired) () := by
  refine (ensureProjectContext_respects client).mono fun _ outcome same => ?_
  cases outcome with
  | error error => trivial
  | ok repaired =>
    refine ⟨same.1, ?_⟩
    unfold Known
    rw [same.1, same.2]
    exact known

theorem ensureCached_respects {cached : Option Client} {clientId : String}
    (known : ∀ client, cached = some client → client.clientId = clientId ∧ Known held client) :
    (ensureCached settings cached).Respects (plain held)
      (fun _ => MayReturn fun found => ∀ client, found = some client →
        client.clientId = clientId ∧ Known held client) () := by
  cases cached with
  | none => exact fun _ absent => nomatch absent
  | some client =>
    obtain ⟨same, known⟩ := known client rfl
    have repairs : (do
        return some (← ensureProjectContext settings client) :
          ClientProgram (Option Client)).Respects (plain held)
        (fun _ => MayReturn fun found => ∀ client, found = some client →
          client.clientId = clientId ∧ Known held client) () := by
      refine Respects.seq (ensureProjectContext_known known) (fun repaired kept => ?_)
        fun _ _ => trivial
      rintro found ⟨⟩
      exact ⟨kept.1.trans same, kept.2⟩
    refine respects_catching (repairs.mono fun _ outcome returns => ?_)
    cases outcome with
    | ok found => exact returns
    | error error => exact fun _ absent => nomatch absent

theorem findById_respects : (findById settings clientId).Respects (plain held)
      (fun _ => MayReturn fun found =>
        (∀ client, found = some client → client.clientId = clientId ∧ Known held client) ∧
          (found = none → clientId ∉ held.map Prod.fst)) () := by
  refine respects_command_bind trivial fun (cached : Option Client) shown _ _ => ?_
  refine Respects.seq (ensureCached_respects shown) (fun parsed known => ?_)
    fun _ _ => trivial
  cases parsed with
  | some client => exact ⟨known, fun absent => nomatch absent⟩
  | none =>
    refine respects_command_bind trivial fun (found : Option Client) shown _ _ => ?_
    cases found with
    | none => exact ⟨fun _ absent => (nomatch absent), shown.2⟩
    | some client =>
      obtain ⟨same, known⟩ := shown.1 client rfl
      refine Respects.seq (ensureProjectContext_known known) (fun repaired kept => ?_)
        fun _ _ => trivial
      have kept : repaired.clientId = clientId ∧ Known held repaired := ⟨kept.1.trans same, kept.2⟩
      refine respects_command_bind kept fun (written : Except String Unit) _ _ _ => ?_
      refine respects_orThrow_bind (fun _ _ => ?_) fun _ _ => trivial
      refine ⟨?_, fun absent => nomatch absent⟩
      rintro found ⟨⟩
      exact kept

theorem findStoredByApiKeyHash_respects :
    (findStoredByApiKeyHash settings keyHash).Respects (plain held)
      (fun _ => MayReturn fun found => ∀ client, found = some client →
        Known held client) () := by
  refine respects_command_bind trivial fun (found : Option Client) shown _ _ => ?_
  cases found with
  | none => exact fun _ absent => nomatch absent
  | some client =>
    refine Respects.seq (ensureProjectContext_known (shown client rfl))
      (fun repaired kept => ?_) fun _ _ => trivial
    refine respects_command_bind trivial fun (written : Except String Unit) _ _ _ => ?_
    refine respects_orThrow_bind (fun _ _ => ?_) fun _ _ => trivial
    rintro found ⟨⟩
    exact kept.2

theorem findByApiKeyHash_respects : (findByApiKeyHash settings keyHash).Respects (plain held)
      (fun _ => MayReturn fun found => ∀ client, found = some client →
        Known held client) () := by
  refine respects_command_bind trivial fun (cached : Option String) _ _ _ => ?_
  cases cached with
  | none => exact findStoredByApiKeyHash_respects keyHash
  | some clientId =>
    dsimp only
    split
    · refine (findById_respects clientId).mono fun _ outcome returns => ?_
      cases outcome with
      | error error => trivial
      | ok found => exact fun client same => (returns.1 client same).2
    · exact findStoredByApiKeyHash_respects keyHash

theorem validateStored_respects (ipAddress : Option String) :
    (ApiKeyService.validateStored settings keyHash ipAddress).Respects (plain held)
      (fun _ => MayReturn (Checked settings held ipAddress)) () := by
  refine Respects.seq (findByApiKeyHash_respects keyHash) (fun found known => ?_)
    fun _ _ => trivial
  cases found with
  | none =>
    refine respects_command_bind ?_ fun _ _ _ _ => checked_invalid _
    exact @told_of_checked settings held ipAddress _ (checked_invalid _)
  | some client =>
    dsimp only
    split
    · exact checked_invalid _
    · split
      · exact checked_invalid _
      · rename_i accepted
        have allowed := isRefused_eq_false.mp (Bool.eq_false_iff.mpr accepted)
        have checked := checked_validFor (known client rfl) allowed
        exact respects_command_bind (told_of_checked checked) fun _ _ _ _ => checked

theorem checkCached_respects (ipAddress : Option String) {result : ApiKeyValidationResult}
    (told : Told held result) :
    (ApiKeyService.checkCached settings ipAddress result).Respects (plain held)
      (fun _ => MayReturn (Checked settings held ipAddress)) () := by
  unfold ApiKeyService.checkCached
  split
  · rename_i nobody
    intro valid
    obtain ⟨_, same, _⟩ := told valid
    cases nobody.symm.trans same
  · rename_i validated same
    split
    · rename_i both
      obtain ⟨valid, given⟩ := Bool.and_eq_true_iff.mp both
      obtain ⟨other, same', member⟩ := told valid
      cases same.symm.trans same'
      refine Respects.seq (findById_respects validated.clientId) (fun found known => ?_)
        fun _ _ => trivial
      cases found with
      | none => exact absurd member (known.2 rfl)
      | some client =>
        obtain ⟨id, known⟩ := known.1 client rfl
        dsimp only
        split
        · exact checked_invalid _
        · rename_i accepted
          have allowed := isRefused_eq_false.mp (Bool.eq_false_iff.mpr accepted)
          refine fun _ => ⟨validated, same, client.ipWhitelist, ?_, allowed⟩
          rw [← id]
          exact known
    · rename_i neither
      intro valid
      obtain ⟨other, same', member⟩ := told valid
      cases same.symm.trans same'
      obtain ⟨⟨_, ips⟩, held', rfl⟩ := List.mem_map.mp member
      refine ⟨validated, same, ips, held', ?_⟩
      rw [valid, Bool.true_and] at neither
      have nowhere := Option.not_isSome_iff_eq_none.mp neither
      simp only [isAllowed, nowhere, Option.all_none]

theorem validateCached_respects (ipAddress : Option String) :
    (ApiKeyService.validateCached settings keyHash ipAddress).Respects (plain held)
      (fun _ => MayReturn fun cached => ∀ result, cached = some result →
        Checked settings held ipAddress result) () := by
  refine respects_command_bind trivial
    fun (cached : Option ApiKeyValidationResult) shown _ _ => ?_
  cases cached with
  | none => exact fun _ absent => nomatch absent
  | some result =>
    refine Respects.seq (checkCached_respects ipAddress (shown result rfl))
      (fun checked sound => ?_) fun _ _ => trivial
    rintro returned ⟨⟩
    exact sound

theorem validateApiKey_respects (apiKey : String) (ipAddress : Option String) :
    (ApiKeyService.validateApiKey settings apiKey ipAddress).Respects (plain held)
      (fun _ => MayReturn fun returned => ∀ result, returned = .validated result →
        Checked settings held ipAddress result) () := by
  have cached : (catching
      (ApiKeyService.validateCached settings (settings.hashApiKey apiKey) ipAddress)
      fun _ => return none).Respects (plain held)
      (fun _ => MayReturn fun cached => ∀ result, cached = some result →
        Checked settings held ipAddress result) () := by
    refine respects_catching ((validateCached_respects _ ipAddress).mono ?_)
    intro _ outcome sound
    cases outcome with
    | ok _ => exact sound
    | error _ => exact fun _ absent => nomatch absent
  refine Respects.seq cached (fun cached sound => ?_) fun _ _ => trivial
  cases cached with
  | some result =>
    rintro _ ⟨⟩
    exact sound result rfl
  | none =>
    refine Respects.seq (validateStored_respects _ ipAddress) (fun result checked => ?_)
      fun _ _ => trivial
    rintro returned ⟨⟩
    exact checked

theorem endpoint_respects (apiKey : String) (ipAddress : Option String) :
    (endpoint settings apiKey ipAddress).Respects (plain held)
      (fun _ => MayReturn fun reply => Checked settings held ipAddress reply.data) () := by
  refine respects_catching ?_
  split
  · exact checked_invalid _
  · refine Respects.seq (validateApiKey_respects apiKey ipAddress)
      (fun returned sound => ?_)
      fun _ _ => checked_invalid _
    cases returned with
    | validated result => exact sound result rfl
    | generated | rotated | done => exact checked_invalid _

theorem evictApiKey_issues (key : Option ClientApiKey) :
    (evictApiKey key).Issues (Keeps held) (Shows held) := by
  cases key with
  | none => exact issues_pure
  | some key =>
    unfold evictApiKey
    dsimp only
    split
    · exact issues_command_bind trivial fun _ _ => issues_pure
    · exact issues_pure

theorem evictValidation_issues (key : Option ClientApiKey) :
    (ApiKeyService.evictValidation key).Issues (Keeps held) (Shows held) := by
  cases key with
  | none => exact issues_pure
  | some key =>
    unfold ApiKeyService.evictValidation
    dsimp only
    split
    · exact issues_command_bind trivial fun _ _ => issues_pure
    · exact issues_pure

theorem updateApiKeys_issues (keys : ApiKeys) :
    (updateApiKeys clientId keys).Issues (Keeps held) (Shows held) := by
  refine issues_command_bind trivial fun (now : Nat) _ => ?_
  refine issues_command_bind trivial fun (written : Except String Unit) _ => ?_
  refine issues_bind issues_orThrow fun _ => ?_
  refine issues_command_bind trivial fun _ _ => ?_
  exact issues_bind (evictApiKey_issues _) fun _ => evictApiKey_issues _

theorem findClient_respects : (ApiKeyService.findClient settings clientId).Respects (plain held)
      (fun _ => MayReturn fun client =>
        client.clientId = clientId ∧ Known held client) () := by
  refine Respects.seq (findById_respects clientId)
    (fun found known => ?_) fun _ _ => trivial
  cases found with
  | none => trivial
  | some client => exact known.1 client rfl

theorem findClient_issues :
    (ApiKeyService.findClient settings clientId).Issues (Keeps held) (Shows held) :=
  (findClient_respects clientId).mono fun _ _ _ => trivial

theorem call_issues (call : ApiKeyCall) :
    (ApiKeyService.call settings call).Issues (Keeps held) (Shows held) := by
  cases call with
  | validateApiKey apiKey ipAddress =>
    exact (validateApiKey_respects apiKey ipAddress).mono fun _ _ _ => trivial
  | generateApiKeyPair clientId =>
    refine issues_bind (findClient_issues clientId) fun client => ?_
    refine issues_command_bind trivial fun (primaryKey : String) _ => ?_
    refine issues_command_bind trivial fun (secondaryKey : String) _ => ?_
    refine issues_command_bind trivial fun (now : Nat) _ => ?_
    exact issues_bind (updateApiKeys_issues _ _) fun _ => issues_pure
  | rotateApiKey clientId =>
    refine issues_bind (findClient_issues clientId) fun client => ?_
    refine issues_command_bind trivial fun (newSecondaryKey : String) _ => ?_
    refine issues_command_bind trivial fun (now : Nat) _ => ?_
    refine issues_bind (evictValidation_issues _) fun _ => ?_
    exact issues_bind (updateApiKeys_issues _ _) fun _ => issues_pure
  | promoteSecondaryKey clientId =>
    refine issues_bind (findClient_issues clientId) fun client => ?_
    split
    · exact issues_failure
    · refine issues_bind (evictValidation_issues _) fun _ => ?_
      exact issues_bind (updateApiKeys_issues _ _) fun _ => issues_pure
  | revokeApiKey clientId keyType =>
    refine issues_bind (findClient_issues clientId) fun client => ?_
    split
    · exact issues_failure
    · refine issues_command_bind trivial fun _ _ => ?_
      exact issues_bind (updateApiKeys_issues _ _) fun _ => issues_pure
  | updateApiKeyLastUsed clientId keyType =>
    refine issues_command_bind trivial fun (now : Nat) _ => ?_
    refine issues_command_bind trivial fun (written : Except String Unit) _ => ?_
    exact issues_bind issues_orThrow fun _ => issues_pure

theorem invalidateApiKeyCaches_issues (client : Client) :
    (IpWhitelistService.invalidateApiKeyCaches client).Issues (Keeps held) (Shows held) :=
  issues_bind (evictValidation_issues _) fun _ => evictValidation_issues _

end Programs

section Store

variable {settings : ClientSettings} {held : Whitelists} {store : ClientStore}

/-- What the caches of the auth service tell of the whitelists is what is held. -/
structure Coherent (held : Whitelists) (store : ClientStore) : Prop where
  clients : whitelists store.clients = held
  clientCache : ∀ time clientId client, store.clientCache.lookup time clientId = some client →
    client.clientId = clientId ∧ Known held client
  validationCache : ∀ time keyHash result,
    store.validationCache.lookup time keyHash = some result → Told held result

theorem apply_keeps {update : ClientUpdate} {clientId : String}
    (keeps : Keeps held (.updateOne clientId update)) {client updated : Client}
    (succeeded : update.apply client = .ok updated) :
    (updated.clientId, updated.ipWhitelist) = (client.clientId, client.ipWhitelist) := by
  cases update with
  | ipWhitelist => exact keeps.elim
  | apiKeys | projectContext | createProject | archiveProject | selectActiveProject =>
    cases succeeded
    rfl
  | updateProject projects activeProject updatedAt =>
    cases succeeded
    cases activeProject <;> rfl
  | lastUsed keyType time =>
    cases outcome : client.apiKeys.setLastUsed keyType time with
    | error error =>
      rw [ClientUpdate.apply, outcome] at succeeded
      cases succeeded
    | ok keys =>
      rw [ClientUpdate.apply, outcome] at succeeded
      cases succeeded
      rfl

theorem known_of_find {query : ClientQuery} {client : Client} (coherent : Coherent held store)
    (found : store.clients.find? query.isMatch = some client) : Known held client := by
  rw [Known, ← coherent.clients]
  exact List.mem_map.mpr ⟨client, List.mem_of_find?_eq_some found, rfl⟩

/-- A command that keeps the whitelists keeps the caches coherent, and tells what is held. -/
theorem Coherent.exec (coherent : Coherent held store) (oracle : ClientOracle)
    {command : ClientCommand} (keeps : Keeps held command) :
    Coherent held (store.exec oracle command).1 ∧
      Shows held command (store.exec oracle command).2 := by
  cases command with
  | now | uuid | generateApiKey => exact ⟨coherent, trivial⟩
  | findOne query =>
    refine ⟨coherent, ?_⟩
    cases query with
    | byApiKeyHash keyHash => exact fun client found => known_of_find coherent found
    | byId clientId =>
      constructor
      · intro client (found : store.clients.find? _ = some client)
        exact ⟨ClientQuery.clientId_of_find found, known_of_find coherent found⟩
      · intro (absent : store.clients.find? _ = none) member
        rw [← coherent.clients] at member
        obtain ⟨_, among, rfl⟩ := List.mem_map.mp member
        obtain ⟨client, stored, rfl⟩ := List.mem_map.mp among
        exact List.find?_eq_none.mp absent client stored (decide_eq_true rfl)
  | updateOne clientId update =>
    refine ⟨?_, by cases update <;> trivial⟩
    rw [ClientStore.exec]
    cases outcome : updateOneClient clientId update store.clients with
    | error error => exact coherent
    | ok clients =>
      refine { coherent with clients := ?_ }
      rw [← coherent.clients]
      exact map_updateOneClient (fun _ _ => apply_keeps keeps) outcome
  | apiKey command => exact ⟨{ coherent with }, by cases command <;> trivial⟩
  | client command =>
    constructor
    · refine { coherent with clientCache := fun time clientId client found => ?_ }
      rcases StringCommand.lookup_exec found with before | ⟨seconds, rfl⟩
      · exact coherent.clientCache time clientId client before
      · exact keeps
    · cases command with
      | setex | ttl | del => trivial
      | get clientId => exact coherent.clientCache store.now clientId
  | validation command =>
    constructor
    · refine { coherent with validationCache := fun time keyHash result found => ?_ }
      rcases StringCommand.lookup_exec found with before | ⟨seconds, rfl⟩
      · exact coherent.validationCache time keyHash result before
      · exact keeps
    · cases command with
      | setex | ttl | del => trivial
      | get keyHash => exact coherent.validationCache store.now keyHash

theorem Coherent.later (coherent : Coherent held store) (milliseconds : Nat) :
    Coherent held { store with now := store.now + milliseconds } := { coherent with }

theorem Coherent.ensures (coherent : Coherent held store) {α : Type} {program : ClientProgram α}
    {post : Outcome α → Prop} (respects : program.Respects (plain held) (fun _ => post) ())
    (circumstances : ClientCircumstances) (number : Nat) :
    program.Ensures ClientStore.execLater circumstances
      (fun _ store outcome => Coherent held store ∧ post outcome) number store :=
  respects.ensures
    (fun number _ _ coherent keeps => (coherent.later _).exec (circumstances number).2 keeps)
    coherent

theorem Coherent.serve (coherent : Coherent held store) {α : Type} {program : ClientProgram α}
    {post : Outcome α → Prop} (respects : program.Respects (plain held) (fun _ => post) ())
    (circumstances : ClientCircumstances) : Coherent held (serve program circumstances store).1 ∧
      post (Gateway.serve program circumstances store).2 :=
  ensures_iff_run.mp (coherent.ensures respects circumstances 0)

theorem updateOneClient_ipWhitelist (clientId : String) (ips : List String) (updatedAt : Nat)
    (clients : List Client) :
    ∃ updated, updateOneClient clientId (.ipWhitelist ips updatedAt) clients = .ok updated ∧
      ∀ other, other ≠ clientId → ∀ held, (other, held) ∈ whitelists clients →
        (other, held) ∈ whitelists updated := by
  induction clients with
  | nil => exact ⟨[], rfl, fun _ _ _ member => member⟩
  | cons client rest ih =>
    rw [updateOneClient]
    by_cases same : client.clientId = clientId
    · refine ⟨{ client with ipWhitelist := ips, updatedAt } :: rest, by rw [if_pos same]; rfl, ?_⟩
      intro other different held member
      rcases List.mem_cons.mp member with here | there
      · exact absurd ((congrArg Prod.fst here).trans same) different
      · exact List.mem_cons_of_mem _ there
    · obtain ⟨updated, succeeds, others⟩ := ih
      refine ⟨client :: updated, by rw [if_neg same, succeeds]; rfl, ?_⟩
      intro other different held member
      rcases List.mem_cons.mp member with here | there
      · exact List.mem_cons.mpr (.inl here)
      · exact List.mem_cons_of_mem _ (others other different held there)

theorem ids_ipWhitelist {clientId : String} {ips : List String} {updatedAt : Nat}
    {clients updated : List Client}
    (succeeded : updateOneClient clientId (.ipWhitelist ips updatedAt) clients = .ok updated) :
    (whitelists updated).map Prod.fst = (whitelists clients).map Prod.fst := by
  unfold whitelists
  rw [List.map_map, List.map_map]
  refine map_updateOneClient (fun client updated applied => ?_) succeeded
  cases applied
  rfl

/-- An update of the whitelist with the eviction of its client keeps the caches coherent. -/
theorem updateIpWhitelist_ensures (coherent : Coherent held store)
    (circumstances : ClientCircumstances) (number : Nat) (clientId : String) (ips : List String) :
    (updateIpWhitelist clientId ips).Ensures ClientStore.execLater circumstances
      (fun _ store _ => ∃ held, Coherent held store) number store := by
  refine ensures_command_bind rfl ?_
  obtain ⟨clients, succeeds, others⟩ :=
    updateOneClient_ipWhitelist clientId ips (store.now + (circumstances number).1) store.clients
  have executed : ClientStore.execLater { store with now := store.now + (circumstances number).1 }
      (.updateOne clientId (.ipWhitelist ips (store.now + (circumstances number).1)))
      (circumstances (number + 1)) =
    ({ store with
        now := store.now + (circumstances number).1 + (circumstances (number + 1)).1
        clients }, .ok ()) := by
    simp [ClientStore.execLater, ClientStore.exec, succeeds]
  refine ensures_command_bind executed (ensures_command_bind rfl ?_)
  refine ⟨whitelists clients, rfl, fun time other client found => ?_,
    fun time hash result found => ?_⟩
  · rw [ExpiringMap.lookup_delete] at found
    split at found
    · cases found
    · rename_i different
      obtain ⟨rfl, known⟩ := coherent.clientCache time other client found
      rw [Known, ← coherent.clients] at known
      exact ⟨rfl, others _ (Ne.symm different) _ known⟩
  · intro valid
    obtain ⟨told, same, member⟩ := coherent.validationCache time hash result found valid
    refine ⟨told, same, ?_⟩
    rw [ids_ipWhitelist succeeds, coherent.clients]
    exact member

/-- The caches are coherent with the whitelists of the collection. -/
def CoherentNow (store : ClientStore) : Prop := ∃ held, Coherent held store

theorem updated_ensures (coherent : Coherent held store) (circumstances : ClientCircumstances)
    (number : Nat) (client : Client) (clientId : String) (ips : List String) :
    (do
      updateIpWhitelist clientId ips
      IpWhitelistService.invalidateApiKeyCaches client
      return ApiKeyResult.done : ClientProgram ApiKeyResult).Ensures ClientStore.execLater
        circumstances
      (fun _ store _ => CoherentNow store) number store := by
  refine ensures_bind
    ((updateIpWhitelist_ensures coherent circumstances number clientId ips).mono ?_)
  rintro number store outcome ⟨held, coherent⟩
  cases outcome with
  | error error => exact ⟨held, coherent⟩
  | ok _ =>
    have issues := issues_bind (@invalidateApiKeyCaches_issues held client)
      fun _ => (issues_pure : Issues _ _ (pure ApiKeyResult.done))
    exact (coherent.ensures issues circumstances number).mono fun _ _ _ both => ⟨held, both.1⟩

variable (functions : AddressFunctions)

theorem addIp_ensures (coherent : Coherent held store) (circumstances : ClientCircumstances)
    (number : Nat) (clientId ip : String) :
    (IpWhitelistService.addIp settings functions clientId ip).Ensures ClientStore.execLater
      circumstances
      (fun _ store _ => CoherentNow store) number store := by
  unfold IpWhitelistService.addIp
  split
  · exact ⟨held, coherent⟩
  · refine ensures_bind
      ((coherent.ensures (findClient_respects clientId) circumstances number).mono ?_)
    rintro number store outcome ⟨coherent, _⟩
    cases outcome with
    | error error => exact ⟨held, coherent⟩
    | ok client =>
      dsimp only
      split
      · exact ⟨held, coherent⟩
      · exact updated_ensures coherent circumstances number client clientId _

theorem removeIp_ensures (coherent : Coherent held store) (circumstances : ClientCircumstances)
    (number : Nat) (clientId ip : String) :
    (IpWhitelistService.removeIp settings functions clientId ip).Ensures ClientStore.execLater
      circumstances
      (fun _ store _ => CoherentNow store) number store := by
  refine ensures_bind
    ((coherent.ensures (findClient_respects clientId) circumstances number).mono ?_)
  rintro number store outcome ⟨coherent, _⟩
  cases outcome with
  | error error => exact ⟨held, coherent⟩
  | ok client =>
    cases functions.decodeURIComponent ip with
    | error error => exact ⟨held, coherent⟩
    | ok decodedIp =>
      change (if _ then _ else _ : ClientProgram ApiKeyResult).Ensures _ _ _ _ _
      split
      · exact ⟨held, coherent⟩
      · exact updated_ensures coherent circumstances number client clientId _

theorem CoherentNow.serve (coherent : CoherentNow store) (call : AuthCall)
    (circumstances : ClientCircumstances) :
    CoherentNow (serve (call.body settings functions) circumstances store).1 := by
  obtain ⟨held, coherent⟩ := coherent
  cases call with
  | apiKey call => exact ⟨held, (coherent.serve (call_issues call) circumstances).1⟩
  | addIp clientId ip =>
    exact ensures_iff_run.mp (addIp_ensures functions coherent circumstances 0 clientId ip)
  | removeIp clientId ip =>
    exact ensures_iff_run.mp
      (removeIp_ensures functions coherent circumstances 0 clientId ip)

theorem CoherentNow.endpoint (coherent : CoherentNow store) (apiKey : String)
    (ipAddress : Option String) (circumstances : ClientCircumstances) :
    CoherentNow (Gateway.serve (endpoint settings apiKey ipAddress) circumstances store).1 ∧
      MayReturn
        (fun reply => Checked settings
          (whitelists (Gateway.serve (endpoint settings apiKey ipAddress) circumstances
            store).1.clients) ipAddress reply.data)
        (Gateway.serve (endpoint settings apiKey ipAddress) circumstances store).2 := by
  obtain ⟨held, coherent⟩ := coherent
  obtain ⟨coherent', checked⟩ := coherent.serve (endpoint_respects apiKey ipAddress) circumstances
  rw [coherent'.clients]
  exact ⟨⟨held, coherent'⟩, checked⟩

end Store

section Runs

variable {settings : ClientSettings} {functions : AddressFunctions} {keyPrefix : String}

/-- The whitelist of the client that a response tells of allows the address. -/
def Allowed (settings : ClientSettings) (clients : List Client) (ipAddress : Option String)
    (response : ValidateApiKeyResponse) : Prop :=
  ∃ told ∈ response.client, ∃ client ∈ clients, client.clientId = told.clientId ∧
    isAllowed settings ipAddress client.ipWhitelist = true

instance {clients : List Client} {ipAddress : Option String} {response : ValidateApiKeyResponse} :
    Decidable (Allowed settings clients ipAddress response) :=
  inferInstanceAs (Decidable (∃ told ∈ _, ∃ client ∈ _, _ ∧ _))

/-- The address of a call is allowed by the whitelist that is held, or by the one that was held
when the auth service answered last that the key is valid. -/
def AllowedNowOrThen (settings : ClientSettings) (state : GatewayState) (apiKey : String)
    (ipAddress : Option String) (response : ValidateApiKeyResponse) : Prop :=
  Allowed settings state.store.auth.clients ipAddress response ∨
    Allowed settings (state.answered apiKey) ipAddress response

/-- A call of the gateway returns valid only to an address that is allowed. -/
def ValidOnlyIfAllowed (settings : ClientSettings) (keyPrefix : String) (state : GatewayState) :
    GatewayInput → Prop
  | .validateApiKey apiKey ipAddress fault circumstances =>
    let (after, outcome) :=
      state.validateApiKey settings keyPrefix apiKey ipAddress fault circumstances
    ∀ response, outcome = .ok response → response.valid = true →
      AllowedNowOrThen settings after apiKey ipAddress response
  | .auth _ _ | .elapse _ => True

/-- The gateway has not cached a valid answer that it would return to an address that is not
allowed. -/
def NoStrangerHits (settings : ClientSettings) (keyPrefix : String) (state : GatewayState) :
    GatewayInput → Prop
  | .validateApiKey apiKey ipAddress _ _ =>
    ∀ cached ∈ AuthClient.getCached keyPrefix state.store apiKey, cached.valid = true →
      AllowedNowOrThen settings state apiKey ipAddress cached
  | .auth _ _ | .elapse _ => True

theorem allowed_of_checked {clients : List Client} {ipAddress : Option String}
    {response : ValidateApiKeyResponse}
    (checked : Checked settings (whitelists clients) ipAddress response)
    (valid : response.valid = true) : Allowed settings clients ipAddress response := by
  obtain ⟨told, same, ips, member, allowed⟩ := checked valid
  obtain ⟨client, stored, equal⟩ := List.mem_map.mp member
  obtain ⟨id, rfl⟩ := Prod.mk.inj equal
  exact ⟨told, same, client, stored, id, allowed⟩

theorem receive_valid {reply : Reply} {response : ValidateApiKeyResponse}
    (received : AuthClient.receive reply = .ok response) (valid : response.valid = true) :
    response = reply.data := by
  unfold AuthClient.receive at received
  split at received
  · exact (Except.ok.inj received).symm
  · split at received
    · cases received
      cases valid
    · cases received

/-- A request keeps the auth service coherent, and its answer is valid only for an address that
the whitelist allows. -/
theorem request_sound {store : GatewayStore} (coherent : CoherentNow store.auth) (apiKey : String)
    (ipAddress : Option String) (fault : Option Fault) (circumstances : ClientCircumstances) :
    CoherentNow (AuthClient.request settings keyPrefix apiKey ipAddress fault circumstances
      store).1.auth ∧
    ∀ response, (AuthClient.request settings keyPrefix apiKey ipAddress fault circumstances
      store).2 = .ok response → response.valid = true →
        Allowed settings (AuthClient.request settings keyPrefix apiKey ipAddress fault circumstances
          store).1.auth.clients ipAddress response := by
  obtain ⟨coherent', checked⟩ :=
    @CoherentNow.endpoint settings _ coherent apiKey ipAddress circumstances
  unfold AuthClient.request
  rcases fault with _ | _ | _
  · generalize serve (endpoint settings apiKey ipAddress) circumstances store.auth = served
      at coherent' checked
    obtain ⟨auth, outcome⟩ := served
    cases outcome with
    | error error => exact ⟨coherent', fun _ failed => nomatch failed⟩
    | ok reply =>
      cases received : AuthClient.receive reply with
      | error error =>
        simp only [Except.bind, received]
        exact ⟨coherent', fun _ failed => nomatch failed⟩
      | ok data =>
        have sound : data.valid = true → Allowed settings auth.clients ipAddress data := by
          intro valid
          have same := receive_valid received valid
          subst same
          exact allowed_of_checked checked valid
        simp only [Except.bind, received]
        split
        · refine ⟨coherent', ?_⟩
          rintro response ⟨⟩ valid
          exact sound valid
        · refine ⟨coherent', ?_⟩
          rintro response ⟨⟩ valid
          exact sound valid
  · exact ⟨coherent, fun _ failed => nomatch failed⟩
  · exact ⟨coherent', fun _ failed => nomatch failed⟩

theorem hit_or_request (state : GatewayState) (apiKey : String) (ipAddress : Option String)
    (fault : Option Fault) (circumstances : ClientCircumstances) :
    (∃ cached, AuthClient.getCached keyPrefix state.store apiKey = some cached ∧
      cached.valid = true ∧
      state.validateApiKey settings keyPrefix apiKey ipAddress fault circumstances =
        (state, .ok cached)) ∨ state.isHit keyPrefix apiKey = false ∧
      ((state.validateApiKey settings keyPrefix apiKey ipAddress fault circumstances).1.store,
        (state.validateApiKey settings keyPrefix apiKey ipAddress fault circumstances).2) =
        AuthClient.request settings keyPrefix apiKey ipAddress fault circumstances state.store := by
  have missed (requests : AuthClient.validateApiKey settings keyPrefix apiKey ipAddress fault
      circumstances state.store =
        AuthClient.request settings keyPrefix apiKey ipAddress fault circumstances state.store) :
      ((state.validateApiKey settings keyPrefix apiKey ipAddress fault circumstances).1.store,
        (state.validateApiKey settings keyPrefix apiKey ipAddress fault circumstances).2) =
        AuthClient.request settings keyPrefix apiKey ipAddress fault circumstances state.store := by
    unfold GatewayState.validateApiKey
    rw [requests]
    dsimp only
    split <;> rfl
  cases found : AuthClient.getCached keyPrefix state.store apiKey with
  | none =>
    right
    refine ⟨by simp only [GatewayState.isHit, found, Option.any_none], missed ?_⟩
    simp [AuthClient.validateApiKey, found]
  | some cached =>
    cases valid : cached.valid with
    | true =>
      left
      refine ⟨cached, rfl, valid, ?_⟩
      simp [GatewayState.validateApiKey, AuthClient.validateApiKey, GatewayState.isHit,
        found, valid]
    | false =>
      right
      refine ⟨by simp [GatewayState.isHit, found, valid], missed ?_⟩
      simp [AuthClient.validateApiKey, found, valid]

theorem step_coherent (state : GatewayState) (input : GatewayInput)
    (coherent : CoherentNow state.store.auth) :
    CoherentNow ((GatewayState.machine settings functions keyPrefix).step state
      input).1.store.auth := by
  cases input with
  | auth call circumstances => exact coherent.serve functions call circumstances
  | elapse milliseconds =>
    obtain ⟨held, coherent⟩ := coherent
    exact ⟨held, coherent.later milliseconds⟩
  | validateApiKey apiKey ipAddress fault circumstances =>
    change CoherentNow (state.validateApiKey settings keyPrefix apiKey ipAddress fault
      circumstances).1.store.auth
    rcases @hit_or_request settings keyPrefix state apiKey ipAddress fault circumstances
      with ⟨cached, _, _, hit⟩ | ⟨_, miss⟩
    · rw [hit]
      exact coherent
    · rw [(Prod.mk.inj miss).1]
      exact (request_sound coherent apiKey ipAddress fault circumstances).1

/-- With a coherent auth service, a call is sound unless the gateway answers it from its cache
for an address that is not allowed. -/
theorem valid_only_if_allowed_iff (state : GatewayState) (input : GatewayInput)
    (coherent : CoherentNow state.store.auth) : ValidOnlyIfAllowed settings keyPrefix state input ↔
      NoStrangerHits settings keyPrefix state input := by
  cases input with
  | auth | elapse => exact Iff.rfl
  | validateApiKey apiKey ipAddress fault circumstances =>
    simp only [ValidOnlyIfAllowed, NoStrangerHits]
    rcases @hit_or_request settings keyPrefix state apiKey ipAddress fault circumstances
      with ⟨cached, found, valid, hit⟩ | ⟨nothing, miss⟩
    · rw [hit, found]
      constructor
      · rintro sound _ ⟨⟩ _
        exact sound cached rfl valid
      · rintro sound _ ⟨⟩ _
        exact sound cached rfl valid
    · obtain ⟨store, outcome⟩ := Prod.mk.inj miss
      constructor
      · intro _ cached found valid
        rw [GatewayState.isHit, Option.mem_def.mp found, Option.any_some, valid] at nothing
        cases nothing
      · intro _ response returned valid
        left
        rw [store]
        rw [outcome] at returned
        exact (request_sound coherent apiKey ipAddress fault circumstances).2 response returned
          valid

theorem coherent_initial (clients : List Client) (now : Nat) :
    CoherentNow (GatewayState.initial clients now).store.auth :=
  ⟨_, rfl, fun _ _ _ found => (nomatch found), fun _ _ _ found => nomatch found⟩

end Runs

/-- In every run, every call of the gateway returns valid only to an address that is allowed by
the whitelist of the client now or when the cached answer was computed, exactly when no call
is answered from the cache of the gateway for another address. -/
theorem valid_only_if_allowed (settings : ClientSettings) (functions : AddressFunctions)
    (keyPrefix : String) (clients : List Client) (now : Nat) (inputs : List GatewayInput) :
    (GatewayState.machine settings functions keyPrefix).Admits
        (ValidOnlyIfAllowed settings keyPrefix) (GatewayState.initial clients now) inputs ↔
      (GatewayState.machine settings functions keyPrefix).Admits
        (NoStrangerHits settings keyPrefix) (GatewayState.initial clients now) inputs :=
  Transducer.Admits.congr
    (fun state input coherent (_ : True) => step_coherent state input coherent)
    (fun state input coherent _ => valid_only_if_allowed_iff state input coherent)
    (Transducer.admits_of_forall (fun _ _ => trivial) _ _) (coherent_initial clients now)

section Sample

instance {settings : ClientSettings} {keyPrefix : String} (state : GatewayState)
    (input : GatewayInput) : Decidable (NoStrangerHits settings keyPrefix state input) :=
  match input with
  | .validateApiKey apiKey _ _ _ =>
    @Option.decidableForallMem _ _ (fun _ => inferInstanceAs (Decidable (_ → _ ∨ _)))
      (AuthClient.getCached keyPrefix state.store apiKey)
  | .auth _ _ | .elapse _ => .isTrue trivial

def sampleSettings : ClientSettings := ⟨id, ApiKeyService.isIpAllowed, id⟩

def sampleFunctions : AddressFunctions := ⟨fun _ => true, fun _ => false, .ok⟩

def sampleClient : Client where
  clientId := "c"
  tenantId := "t"
  companyName := "n"
  plan := .free
  apiKeys := ⟨some ⟨"k", "k", 0, none, false⟩, none⟩
  ipWhitelist := ["10.0.0.0/24"]
  activeProjectId := some "i"
  activeProjectName := some "n"
  activeProjectStack := some "custom"
  activeProjectEnvironment := some .development
  projects := [⟨"i", "n", "n", "custom", .development, 0, .active⟩]
  projectContext := some ⟨1, false, .projects, 0, 0⟩
  status := .active
  createdAt := 0
  updatedAt := 0

def presented (ip : String) : GatewayInput :=
  .validateApiKey "k" (some ip) none fun _ => ⟨0, "uuid", "key"⟩

def strangerInputs : List GatewayInput := [presented "10.0.0.7", presented "10.0.1.7"]

set_option maxRecDepth 16000 in
/-- The key is accepted from the other address. -/
theorem stranger_is_accepted :
    ¬ (GatewayState.machine sampleSettings sampleFunctions "gateway:").Admits
      (ValidOnlyIfAllowed sampleSettings "gateway:") (GatewayState.initial [sampleClient] 0)
      strangerInputs := by
  intro sound
  have hits : (GatewayState.machine sampleSettings sampleFunctions "gateway:").Admits
      (NoStrangerHits sampleSettings "gateway:") (GatewayState.initial [sampleClient] 0)
      strangerInputs :=
    Transducer.Admits.imp (fun state input coherent _ => step_coherent state input coherent)
      (fun state input coherent => (valid_only_if_allowed_iff state input coherent).mp) sound
      (coherent_initial [sampleClient] 0)
  exact absurd hits (by decide)

end Sample

end Caas.Gateway.WhitelistCaching
