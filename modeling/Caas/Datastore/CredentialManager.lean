import Caas.Datastore.ControlPlaneService
import Caas.Js.Buffer
import Caas.Js.Date

/-!
# The credential manager

Credentials are kept encrypted: a record holds the hexadecimal texts of a vector, a tag and a
ciphertext, joined by colons. `retrieve_refines` says that nothing of this is seen: the manager
answers as a vault that keeps the secrets themselves.

The cipher is a parameter, and so is how a date is read from its text.
-/

namespace Caas.Datastore

open Js

/-- A `CredentialRecord` with all that the manager keeps of it. -/
structure StoredCredential extends CredentialRecord where
  provider : ProviderId
  authMode : AuthMode
  encryptedPayload : String
  expiresAt : Option String
  rotatedAt : Option String := none
  createdAt : String
  version : Nat
deriving DecidableEq

/-- The arguments of `store`. -/
structure NewCredential where
  profileId : String
  tenantId : String
  provider : ProviderId
  authMode : AuthMode
  rawCredential : String
  expiresAt : Option String := none
  actor : Option String := none

inductive CredentialAction where
  | create
  | rotate
  | revoke
deriving DecidableEq

structure CredentialAuditEntry where
  id : String
  timestamp : String
  tenantId : String
  action : CredentialAction
  credentialId : String
  actor : String
deriving DecidableEq

inductive CredentialError where
  | notFound (credentialId : String)
  | expired (provider : ProviderId)
  | invalidKeyLength
  | invalidPayload
  | cipher (message : String)
deriving DecidableEq

/-- `randomBytes(16)` -/
abbrev Vector := { bytes : Buffer // bytes.length = 16 }

/-- `aes-256-gcm`, of a key and a vector: a text to its ciphertext and tag, and back. -/
structure Aes256Gcm where
  encipher (key iv : Buffer) (plaintext : String) : Buffer × Buffer
  decipher (key iv tag ciphertext : Buffer) : Except String String

/-- The cipher decrypts what it encrypted under the same key and vector. -/
def Aes256Gcm.Faithful (cipher : Aes256Gcm) : Prop :=
  ∀ (key : Buffer) (iv : Vector) plaintext, key.length = 32 →
    cipher.decipher key iv (cipher.encipher key iv plaintext).2
      (cipher.encipher key iv plaintext).1 = .ok plaintext

structure CredentialManager where
  encryptionKey : Buffer
  credentials : OrderedMap String StoredCredential := .empty
  auditLog : List CredentialAuditEntry := []

namespace CredentialManager

variable (cipher : Aes256Gcm) (date : String → Date) (manager : CredentialManager)

/-- `createCipheriv` and `createDecipheriv` refuse a key that has not 256 bits. -/
def withKey {α : Type} (encryptionKey : Buffer) (result : Except CredentialError α) :
    Except CredentialError α :=
  if encryptionKey.length = 32 then result else .error .invalidKeyLength

def encrypt (encryptionKey : Buffer) (plaintext : String) (iv : Vector) :
    Except CredentialError String :=
  let (encrypted, tag) := cipher.encipher encryptionKey iv plaintext
  withKey encryptionKey
    (.ok (Buffer.toHex iv ++ ":" ++ Buffer.toHex tag ++ ":" ++ Buffer.toHex encrypted))

/-- A part that is missing is `undefined`, which no decoder takes. -/
def decrypt (encryptionKey : Buffer) (payload : String) : Except CredentialError String :=
  match payload.toList.splitOn ':' with
  | ivHex :: tagHex :: encrypted :: _ =>
    withKey encryptionKey ((cipher.decipher encryptionKey (Buffer.ofHexChars ivHex)
      (Buffer.ofHexChars tagHex) (Buffer.ofHexChars encrypted)).mapError .cipher)
  | _ => .error .invalidPayload

def recordAudit (tenantId : String) (action : CredentialAction) (credentialId actor : String)
    (draws : Draws) : CredentialManager :=
  { manager with
    auditLog := manager.auditLog ++
      [⟨draws.uuid 0, draws.now 0, tenantId, action, credentialId, actor⟩] }

def store (request : NewCredential) (iv : Vector) (draws : Draws) :
    CredentialManager × Except CredentialError StoredCredential :=
  match encrypt cipher manager.encryptionKey request.rawCredential iv with
  | .error error => (manager, .error error)
  | .ok encrypted =>
    let record : StoredCredential :=
      { id := draws.uuid 0
        profileId := request.profileId
        tenantId := request.tenantId
        provider := request.provider
        authMode := request.authMode
        encryptedPayload := encrypted
        expiresAt := request.expiresAt
        createdAt := draws.now 0
        version := 1 }
    (({ manager with credentials := manager.credentials.set record.id record }).recordAudit
      request.tenantId .create record.id (request.actor.getD "system") (draws.drop 1 1), .ok record)

/-- `expiresAt && new Date(expiresAt) < new Date()`; no time is before an invalid date. -/
def isExpired (expiresAt : Option String) (now : Int) : Bool :=
  ((present expiresAt).bind date).any (· < now)

def retrieve (credentialId : String) (now : Int) : Except CredentialError String :=
  match manager.credentials.get credentialId with
  | none => .error (.notFound credentialId)
  | some record =>
    if isExpired date record.expiresAt now then .error (.expired record.provider)
    else decrypt cipher manager.encryptionKey record.encryptedPayload

def rotate (credentialId newRawCredential : String) (actor : Option String) (iv : Vector)
    (draws : Draws) : CredentialManager × Except CredentialError StoredCredential :=
  match manager.credentials.get credentialId with
  | none => (manager, .error (.notFound credentialId))
  | some existing =>
    match encrypt cipher manager.encryptionKey newRawCredential iv with
    | .error error => (manager, .error error)
    | .ok encrypted =>
      let rotated : StoredCredential :=
        { existing with
          encryptedPayload := encrypted
          rotatedAt := some (draws.now 0)
          version := existing.version + 1 }
      (({ manager with credentials := manager.credentials.set credentialId rotated }).recordAudit
        existing.tenantId .rotate credentialId (actor.getD "system") (draws.drop 0 1), .ok rotated)

def revoke (credentialId : String) (actor : Option String) (draws : Draws) :
    CredentialManager × Bool :=
  match manager.credentials.get credentialId with
  | none => (manager, false)
  | some existing =>
    let noted := manager.recordAudit existing.tenantId .revoke credentialId
      (actor.getD "system") draws
    ({ noted with credentials := noted.credentials.delete credentialId }, true)

def getByProfile (profileId : String) : Option StoredCredential :=
  manager.credentials.values.find? fun credential => credential.profileId = profileId

inductive Call where
  | store (request : NewCredential) (iv : Vector) (draws : Draws)
  | retrieve (credentialId : String) (now : Int)
  | rotate (credentialId newRawCredential : String) (actor : Option String) (iv : Vector)
      (draws : Draws)
  | revoke (credentialId : String) (actor : Option String) (draws : Draws)

inductive Reply where
  | record (record : StoredCredential)
  | secret (plaintext : String)
  | revoked (found : Bool)
deriving DecidableEq

def machine : Transducer CredentialManager Call (Except CredentialError Reply) where
  step manager
    | .store request iv draws => (manager.store cipher request iv draws).map id (·.map .record)
    | .retrieve credentialId now =>
      (manager, (manager.retrieve cipher date credentialId now).map .secret)
    | .rotate credentialId newRawCredential actor iv draws =>
      (manager.rotate cipher credentialId newRawCredential actor iv draws).map id (·.map .record)
    | .revoke credentialId actor draws =>
      (manager.revoke credentialId actor draws).map id fun found => .ok (.revoked found)

/-! ## The secrets behind the payloads -/

/-- What a vault keeps of a credential. -/
structure Secret where
  provider : ProviderId
  expiresAt : Option String
  plaintext : String

/-- What the manager is for: to each id its secret, in plain text. A vault without a usable key
takes no secrets. -/
structure Vault where
  usable : Bool
  secrets : String → Option Secret

/-- What a caller learns from a reply. -/
inductive Answer where
  | done
  | secret (plaintext : String)
  | revoked (found : Bool)
deriving DecidableEq

namespace Vault

variable (vault : Vault)

/-- Put a secret under an id. -/
def keep (credentialId : String) (secret : Secret) : Vault × Except CredentialError Answer :=
  if vault.usable then
    ({ vault with secrets := Function.update vault.secrets credentialId (some secret) }, .ok .done)
  else (vault, .error .invalidKeyLength)

def machine : Transducer Vault Call (Except CredentialError Answer) where
  step vault
    | .store request _ draws =>
      vault.keep (draws.uuid 0) ⟨request.provider, request.expiresAt, request.rawCredential⟩
    | .retrieve credentialId now =>
      (vault, match vault.secrets credentialId with
        | none => .error (.notFound credentialId)
        | some secret =>
          if isExpired date secret.expiresAt now then .error (.expired secret.provider)
          else .ok (.secret secret.plaintext))
    | .rotate credentialId newRawCredential _ _ _ =>
      match vault.secrets credentialId with
      | none => (vault, .error (.notFound credentialId))
      | some secret => vault.keep credentialId { secret with plaintext := newRawCredential }
    | .revoke credentialId _ _ =>
      ({ vault with secrets := Function.update vault.secrets credentialId none },
        .ok (.revoked (vault.secrets credentialId).isSome))

end Vault

def Reply.answer : Reply → Answer
  | .record _ => .done
  | .secret plaintext => .secret plaintext
  | .revoked found => .revoked found

/-- A record with the secret that its payload holds. -/
def Seals (encryptionKey : Buffer) (record : StoredCredential) (secret : Secret) : Prop :=
  record.provider = secret.provider ∧ record.expiresAt = secret.expiresAt ∧
    decrypt cipher encryptionKey record.encryptedPayload = .ok secret.plaintext

/-- The records of the manager and the secrets of the vault, id by id. -/
structure Represents (manager : CredentialManager) (vault : Vault) : Prop where
  usable : vault.usable = decide (manager.encryptionKey.length = 32)
  lookup (credentialId : String) :
    manager.credentials.get credentialId = none ∧ vault.secrets credentialId = none ∨
      ∃ record secret, manager.credentials.get credentialId = some record ∧
        vault.secrets credentialId = some secret ∧
          Seals cipher manager.encryptionKey record secret

section Refinement

variable {cipher : Aes256Gcm} {date : String → Date} {manager : CredentialManager} {vault : Vault}
  {encryptionKey : Buffer} {plaintext payload credentialId : String}

/-- A payload is read back part by part. -/
theorem splitOn_payload (iv tag encrypted : Buffer) :
    (Buffer.toHex iv ++ ":" ++ Buffer.toHex tag ++ ":" ++ Buffer.toHex encrypted).toList.splitOn
      ':' = [Buffer.hexChars iv, Buffer.hexChars tag, Buffer.hexChars encrypted] := by
  have parts : (Buffer.toHex iv ++ ":" ++ Buffer.toHex tag ++ ":" ++
      Buffer.toHex encrypted).toList = Buffer.hexChars iv ++ ':' :: (Buffer.hexChars tag ++
        ':' :: Buffer.hexChars encrypted) := by
    simp [Buffer.toHex]
  have colonless := @Buffer.not_mem_hexChars ':' (by decide)
  rw [parts, List.splitOn_append_cons_self_of_not_mem (colonless iv),
    List.splitOn_append_cons_self_of_not_mem (colonless tag),
    List.splitOn_eq_singleton (colonless encrypted)]

/-- Under a usable key the payload holds the text. -/
theorem encrypt_of_usable (faithful : cipher.Faithful) (usable : encryptionKey.length = 32)
    (plaintext : String) (iv : Vector) :
    ∃ payload, encrypt cipher encryptionKey plaintext iv = .ok payload ∧
      decrypt cipher encryptionKey payload = .ok plaintext := by
  refine ⟨_, if_pos usable, ?_⟩
  rw [decrypt, splitOn_payload]
  simp only [Buffer.ofHexChars_hexChars, withKey, if_pos usable, faithful _ _ _ usable]
  rfl

/-- A text is encrypted and kept, or refused on both sides. -/
theorem Represents.keep (represents : Represents cipher manager vault) (faithful : cipher.Faithful)
    (plaintext : String) (iv : Vector) :
    (∃ payload, encrypt cipher manager.encryptionKey plaintext iv = .ok payload ∧
      decrypt cipher manager.encryptionKey payload = .ok plaintext ∧
        ∀ credentialId secret, vault.keep credentialId secret =
          ({ vault with secrets := Function.update vault.secrets credentialId (some secret) },
            .ok .done)) ∨
      encrypt cipher manager.encryptionKey plaintext iv = .error .invalidKeyLength ∧
        ∀ credentialId secret, vault.keep credentialId secret =
          (vault, .error .invalidKeyLength) := by
  have alike := represents.usable
  by_cases usable : manager.encryptionKey.length = 32
  · obtain ⟨payload, encrypted, decrypted⟩ := encrypt_of_usable faithful usable plaintext iv
    exact .inl ⟨payload, encrypted, decrypted, fun _ _ => if_pos (by simp [alike, usable])⟩
  · exact .inr ⟨if_neg usable, fun _ _ => if_neg (by simp [alike, usable])⟩

theorem Represents.set (represents : Represents cipher manager vault) {record : StoredCredential}
    (secret : Secret) (seals : Seals cipher manager.encryptionKey record secret)
    (auditLog : List CredentialAuditEntry) :
    Represents cipher
      { manager with credentials := manager.credentials.set credentialId record, auditLog }
      { vault with secrets := Function.update vault.secrets credentialId (some secret) } where
  usable := represents.usable
  lookup other := by
    by_cases same : credentialId = other
    · subst same
      exact .inr ⟨record, secret, by simp, by simp, seals⟩
    · simpa [same, Function.update_of_ne (Ne.symm same)] using represents.lookup other

theorem Represents.delete (represents : Represents cipher manager vault)
    (auditLog : List CredentialAuditEntry) :
    Represents cipher
      { manager with credentials := manager.credentials.delete credentialId, auditLog }
      { vault with secrets := Function.update vault.secrets credentialId none } where
  usable := represents.usable
  lookup other := by
    by_cases same : credentialId = other
    · simp [same]
    · simpa [same, Function.update_of_ne (Ne.symm same)] using represents.lookup other

/-- One call: the records and the secrets stay in step, and the answers agree. -/
theorem step_represents (faithful : cipher.Faithful) (represents : Represents cipher manager vault)
    (call : Call) :
    Represents cipher ((machine cipher date).step manager call).1
        ((Vault.machine date).step vault call).1 ∧
      ((machine cipher date).step manager call).2.map Reply.answer =
        ((Vault.machine date).step vault call).2 := by
  cases call with
  | store request iv draws =>
    obtain ⟨payload, encrypted, decrypted, keeps⟩ | ⟨refused, refuses⟩ :=
      represents.keep faithful request.rawCredential iv
    · simp only [machine, store, encrypted, Vault.machine, keeps]
      exact ⟨represents.set _ ⟨rfl, rfl, decrypted⟩ _, rfl⟩
    · simp only [machine, store, refused, Vault.machine, refuses]
      exact ⟨represents, rfl⟩
  | retrieve credentialId now =>
    refine ⟨represents, ?_⟩
    obtain ⟨found, kept⟩ | ⟨record, secret, found, kept, provider, expiresAt, decrypted⟩ :=
      represents.lookup credentialId
    · simp only [machine, retrieve, Vault.machine, found, kept]
      rfl
    · simp only [machine, retrieve, Vault.machine, found, kept, provider, expiresAt, decrypted]
      split <;> rfl
  | rotate credentialId newRawCredential actor iv draws =>
    obtain ⟨found, kept⟩ | ⟨record, secret, found, kept, provider, expiresAt, -⟩ :=
      represents.lookup credentialId
    · simp only [machine, rotate, Vault.machine, found, kept]
      exact ⟨represents, rfl⟩
    · obtain ⟨payload, encrypted, decrypted, keeps⟩ | ⟨refused, refuses⟩ :=
        represents.keep faithful newRawCredential iv
      · simp only [machine, rotate, encrypted, Vault.machine, found, kept, keeps]
        refine ⟨represents.set { secret with plaintext := newRawCredential } ?_ _, rfl⟩
        exact ⟨provider, expiresAt, decrypted⟩
      · simp only [machine, rotate, refused, Vault.machine, found, kept, refuses]
        exact ⟨represents, rfl⟩
  | revoke credentialId actor draws =>
    obtain ⟨found, kept⟩ | ⟨record, secret, found, kept, -⟩ := represents.lookup credentialId
    · have unchanged : Function.update vault.secrets credentialId none = vault.secrets :=
        Function.update_eq_self_iff.mpr kept.symm
      simp only [machine, revoke, Vault.machine, found, kept, unchanged]
      exact ⟨represents, rfl⟩
    · simp only [machine, revoke, Vault.machine, found, kept]
      exact ⟨represents.delete _, rfl⟩

/-- In every run the manager answers as a vault that keeps the secrets themselves. -/
theorem retrieve_refines (faithful : cipher.Faithful) (encryptionKey : Buffer)
    (calls : List Call) :
    ((machine cipher date).outputs { encryptionKey } calls).map (·.map Reply.answer) =
      (Vault.machine date).outputs ⟨encryptionKey.length = 32, fun _ => none⟩ calls := by
  have start : Represents cipher { encryptionKey } ⟨encryptionKey.length = 32, fun _ => none⟩ :=
    ⟨rfl, fun _ => .inl ⟨rfl, rfl⟩⟩
  have each (manager : CredentialManager) (vault : Vault) (call : Call)
      (represents : Represents cipher manager vault) (_ : True) :=
    @step_represents cipher date manager vault faithful represents call
  have same : ((machine cipher date).outputs { encryptionKey } calls).map (·.map Reply.answer) =
      ((Vault.machine date).outputs ⟨encryptionKey.length = 32, fun _ => none⟩ calls).map id :=
    (Transducer.simulation each start fun _ _ => trivial).2
  rwa [List.map_id] at same

end Refinement

/-! ## What the audit log tells -/

/-- What an entry changes about a credential, of which the tenant and the version are known. It
counts only if it names the tenant. -/
def accountEntry (credentialId : String) (known : Option (String × Nat))
    (entry : CredentialAuditEntry) : Option (String × Nat) :=
  if entry.credentialId = credentialId then
    match entry.action with
    | .create => some (entry.tenantId, 1)
    | .rotate => (known.filter (·.1 = entry.tenantId)).map (·.map id (· + 1))
    | .revoke => known.filter (·.1 ≠ entry.tenantId)
  else known

/-- The tenant and the version of a credential, by the log alone. -/
def accounted (log : List CredentialAuditEntry) (credentialId : String) : Option (String × Nat) :=
  log.foldl (accountEntry credentialId) none

/-- What one call can do to the records and the log. -/
inductive Step (manager : CredentialManager) : Call → CredentialManager → Prop where
  | kept {call : Call} : Step manager call manager
  | created {request : NewCredential} {iv draws} (record : StoredCredential)
      (entry : CredentialAuditEntry) (first : record.id = draws.uuid 0 ∧ record.version = 1)
      (names : entry.credentialId = record.id ∧ entry.tenantId = record.tenantId ∧
        entry.action = .create) :
      Step manager (.store request iv draws)
        { manager with
          credentials := manager.credentials.set record.id record
          auditLog := manager.auditLog ++ [entry] }
  | rotated {credentialId newRawCredential actor iv draws} (existing rotated : StoredCredential)
      (entry : CredentialAuditEntry) (found : manager.credentials.get credentialId = some existing)
      (keeps : rotated.toCredentialRecord = existing.toCredentialRecord ∧
        rotated.provider = existing.provider ∧ rotated.expiresAt = existing.expiresAt ∧
          rotated.version = existing.version + 1)
      (names : entry.credentialId = credentialId ∧ entry.tenantId = existing.tenantId ∧
        entry.action = .rotate) :
      Step manager (.rotate credentialId newRawCredential actor iv draws)
        { manager with
          credentials := manager.credentials.set credentialId rotated
          auditLog := manager.auditLog ++ [entry] }
  | revoked {credentialId actor draws} (existing : StoredCredential) (entry : CredentialAuditEntry)
      (found : manager.credentials.get credentialId = some existing)
      (names : entry.credentialId = credentialId ∧ entry.tenantId = existing.tenantId ∧
        entry.action = .revoke) :
      Step manager (.revoke credentialId actor draws)
        { manager with
          credentials := manager.credentials.delete credentialId
          auditLog := manager.auditLog ++ [entry] }

section Accounts

variable {cipher : Aes256Gcm} {date : String → Date} {manager : CredentialManager}

theorem step_cases (manager : CredentialManager) (call : Call) :
    Step manager call ((machine cipher date).step manager call).1 := by
  cases call with
  | store request iv draws =>
    simp only [machine, store]
    cases encrypt cipher manager.encryptionKey request.rawCredential iv with
    | error => exact .kept
    | ok encrypted =>
      exact .created { id := draws.uuid 0, tenantId := request.tenantId, .. } _ ⟨rfl, rfl⟩
        ⟨rfl, rfl, rfl⟩
  | retrieve => exact .kept
  | rotate credentialId newRawCredential actor iv draws =>
    simp only [machine, rotate]
    cases found : manager.credentials.get credentialId with
    | none => exact .kept
    | some existing =>
      cases encrypt cipher manager.encryptionKey newRawCredential iv with
      | error => exact .kept
      | ok encrypted =>
        exact .rotated existing _ _ found ⟨rfl, rfl, rfl, rfl⟩ ⟨rfl, rfl, rfl⟩
  | revoke credentialId actor draws =>
    simp only [machine, revoke]
    cases found : manager.credentials.get credentialId with
    | none => exact .kept
    | some existing => exact .revoked existing _ found ⟨rfl, rfl, rfl⟩

/-- The log tells the tenant and the version of every credential. -/
def Accounts (manager : CredentialManager) : Prop :=
  ∀ credentialId, (manager.credentials.get credentialId).map (fun record =>
    (record.tenantId, record.version)) = accounted manager.auditLog credentialId

theorem accounted_append (log : List CredentialAuditEntry) (entry : CredentialAuditEntry)
    (credentialId : String) :
    accounted (log ++ [entry]) credentialId =
      accountEntry credentialId (accounted log credentialId) entry :=
  List.foldl_concat ..

theorem Accounts.step {call : Call} {after : CredentialManager} (accounts : Accounts manager)
    (step : Step manager call after) : Accounts after := by
  intro credentialId
  have known := accounts credentialId
  cases step with
  | kept => exact known
  | created record entry first names =>
    obtain ⟨named, tenant, action⟩ := names
    rw [accounted_append, ← known, accountEntry, named, action, tenant]
    by_cases same : record.id = credentialId <;> simp [same, first.2]
  | rotated existing rotated entry found keeps names =>
    obtain ⟨named, tenant, action⟩ := names
    rw [accounted_append, ← known, accountEntry, named, action, tenant]
    split
    · rename_i same
      subst same
      simp [found, keeps]
    · rename_i other
      simp [other]
  | revoked existing entry found names =>
    obtain ⟨named, tenant, action⟩ := names
    rw [accounted_append, ← known, accountEntry, named, action, tenant]
    split
    · rename_i same
      subst same
      simp [found, Option.filter]
    · rename_i other
      simp [other]

/-- After every run the audit log tells which credentials there are, whose they are and how often
each was rotated. -/
theorem auditLog_accounts (encryptionKey : Buffer) (calls : List Call) :
    Accounts ((machine cipher date).run { encryptionKey } calls) :=
  Transducer.run_invariant (fun manager call (accounts : Accounts manager) =>
    accounts.step (step_cases manager call)) _ _ fun _ => rfl

end Accounts

/-! ## Expiry -/

def Call.Stores (credentialId : String) : Call → Prop
  | .store _ _ draws => draws.uuid 0 = credentialId
  | _ => False

section Expiry

variable {cipher : Aes256Gcm} {date : String → Date} {manager after : CredentialManager}
  {credentialId : String} {provider : ProviderId} {now later : Int}

/-- There is no such credential, or it has expired. -/
def Lapsed (date : String → Date) (credentialId : String) (provider : ProviderId) (now : Int)
    (manager : CredentialManager) : Prop :=
  ∀ record ∈ manager.credentials.get credentialId,
    record.provider = provider ∧ isExpired date record.expiresAt now = true

theorem Lapsed.step {call : Call} (lapsed : Lapsed date credentialId provider now manager)
    (fresh : ¬ call.Stores credentialId) (step : Step manager call after) :
    Lapsed date credentialId provider now after := by
  cases step with
  | kept => exact lapsed
  | created record entry first names =>
    have other : record.id ≠ credentialId := fun same => fresh (first.1.symm.trans same)
    simpa [Lapsed, other] using lapsed
  | @rotated id _ _ _ _ existing rotated entry found keeps =>
    by_cases same : id = credentialId
    · subst same
      obtain ⟨-, provider, expiresAt, -⟩ := keeps
      simpa [Lapsed, provider, expiresAt] using lapsed existing found
    · simpa [Lapsed, same] using lapsed
  | @revoked id =>
    by_cases same : id = credentialId
    · simp [Lapsed, same]
    · simpa [Lapsed, same] using lapsed

theorem isExpired_mono {expiresAt : Option String} (order : now ≤ later)
    (expired : isExpired date expiresAt now = true) : isExpired date expiresAt later = true := by
  unfold isExpired at expired ⊢
  cases read : (present expiresAt).bind date with
  | none => simp [read] at expired
  | some time =>
    simp only [read, Option.any_some, decide_eq_true_eq] at expired ⊢
    omega

theorem retrieve_of_lapsed (lapsed : Lapsed date credentialId provider now manager)
    (order : now ≤ later) :
    manager.retrieve cipher date credentialId later = .error (.expired provider) ∨
      manager.retrieve cipher date credentialId later = .error (.notFound credentialId) := by
  unfold retrieve
  cases found : manager.credentials.get credentialId with
  | none => exact .inr rfl
  | some record =>
    obtain ⟨same, expired⟩ := lapsed record found
    simp [same, isExpired_mono order expired]

theorem decrypt_ne_expired (encryptionKey : Buffer) (payload : String) :
    decrypt cipher encryptionKey payload ≠ .error (.expired provider) := by
  unfold decrypt withKey
  split
  · split
    · cases cipher.decipher .. <;> simp [Except.mapError]
    · simp
  · simp

theorem lapsed_of_expired
    (expired : manager.retrieve cipher date credentialId now = .error (.expired provider)) :
    Lapsed date credentialId provider now manager := by
  intro record found
  simp only [retrieve, Option.mem_def.mp found] at expired
  split at expired
  · rename_i past
    cases expired
    exact ⟨rfl, past⟩
  · exact absurd expired (decrypt_ne_expired _ _)

/-- A credential that has expired is never retrieved again, whatever is rotated or revoked. -/
theorem expired_for_good (calls : List Call)
    (expired : manager.retrieve cipher date credentialId now = .error (.expired provider))
    (fresh : ∀ call ∈ calls, ¬ call.Stores credentialId) (order : now ≤ later) :
    ((machine cipher date).run manager calls).retrieve cipher date credentialId later =
        .error (.expired provider) ∨
      ((machine cipher date).run manager calls).retrieve cipher date credentialId later =
        .error (.notFound credentialId) := by
  have lapsed : Lapsed date credentialId provider now ((machine cipher date).run manager calls) :=
    (Transducer.admits_of_mem fresh).invariant
      (fun manager call lapsed fresh => Lapsed.step lapsed fresh (step_cases manager call))
      (lapsed_of_expired expired)
  exact retrieve_of_lapsed lapsed order

end Expiry

/-! ## What the control plane sees -/

/-- The change to the control plane's credentials that a call makes. -/
def Call.toInput : Call → Option ControlPlaneService.Input
  | .store request _ draws => some (.storeCredential request.profileId request.tenantId draws)
  | .revoke credentialId _ _ => some (.revokeCredential credentialId)
  | _ => none

section ControlPlane

variable {cipher : Aes256Gcm} {date : String → Date} {library : SchemaLibrary}

theorem mapValues_run (calls : List Call) {manager : CredentialManager} {service : ControlPlane}
    (usable : manager.encryptionKey.length = 32)
    (alike : manager.credentials.mapValues StoredCredential.toCredentialRecord =
      service.credentials) :
    ((machine cipher date).run manager calls).credentials.mapValues
        StoredCredential.toCredentialRecord =
      ((ControlPlaneService.machine library).run service
        (calls.filterMap Call.toInput)).credentials := by
  induction calls generalizing manager service with
  | nil => exact alike
  | cons call rest ih =>
    cases call with
    | store request iv draws =>
      obtain ⟨payload, encrypted⟩ : ∃ payload,
          encrypt cipher manager.encryptionKey request.rawCredential iv = .ok payload :=
        ⟨_, if_pos usable⟩
      refine ih ?_ ?_
      · simp only [machine, store, encrypted]
        exact usable
      · simp only [machine, store, encrypted]
        exact (OrderedMap.mapValues_set ..).trans (congrArg (OrderedMap.set · _ _) alike)
    | retrieve => exact ih usable alike
    | rotate credentialId newRawCredential actor iv draws =>
      obtain ⟨payload, encrypted⟩ : ∃ payload,
          encrypt cipher manager.encryptionKey newRawCredential iv = .ok payload :=
        ⟨_, if_pos usable⟩
      refine ih ?_ ?_
      · simp only [machine, rotate, encrypted]
        split <;> exact usable
      · simp only [machine, rotate, encrypted]
        split
        · exact alike
        · rename_i existing found
          -- What the control plane sees of the record is what was there.
          refine (OrderedMap.mapValues_set ..).trans ((OrderedMap.set_of_get ?_).trans alike)
          simp [found]
    | revoke credentialId actor draws =>
      refine ih ?_ ?_
      · simp only [machine, revoke]
        split <;> exact usable
      · simp only [machine, revoke]
        split
        · rename_i absent
          have absent' : service.credentials.get credentialId = none := by simp [← alike, absent]
          exact alike.trans (OrderedMap.delete_of_absent absent').symm
        · exact (OrderedMap.mapValues_delete ..).trans
            (congrArg (OrderedMap.delete · credentialId) alike)

/-- The control plane finds the same credential of a profile as the manager. -/
theorem control_plane_sees_credentials (library : SchemaLibrary) {encryptionKey : Buffer}
    (usable : encryptionKey.length = 32) (calls : List Call) (profileId : String) :
    (((machine cipher date).run { encryptionKey } calls).getByProfile profileId).map
        StoredCredential.toCredentialRecord =
      ((ControlPlaneService.machine library).run .empty
        (calls.filterMap Call.toInput)).getByProfile profileId := by
  have start : ({ encryptionKey } : CredentialManager).credentials.mapValues
      StoredCredential.toCredentialRecord = ControlPlane.empty.credentials := rfl
  rw [ControlPlane.getByProfile, ← mapValues_run calls usable start, OrderedMap.values_mapValues,
    List.find?_map]
  rfl

end ControlPlane

section Sample

/-- A cipher that hides nothing. -/
noncomputable def openCipher : Aes256Gcm where
  encipher _ _ plaintext := (Buffer.ofUtf8 plaintext, [])
  decipher _ _ _ ciphertext := .ok (Function.invFun Buffer.ofUtf8 ciphertext)

theorem openCipher_faithful : openCipher.Faithful := fun _ _ plaintext _ =>
  congrArg Except.ok (Function.leftInverse_invFun Buffer.ofUtf8_injective plaintext)

def sampleKey : Buffer := List.replicate 32 0

def sampleVector : Vector := ⟨List.replicate 16 0, rfl⟩

def sampleDraws : Draws := ⟨fun _ => "credential", fun _ => "2024"⟩

/-- A credential that expires at 10. -/
def sampleRequest : NewCredential where
  profileId := "profile"
  tenantId := "acme"
  provider := .mongodb
  authMode := .connectionString
  rawCredential := "secret"
  expiresAt := some "10"

/-- The credential is stored, rotated and revoked. -/
def sampleCalls : List Call :=
  [.store sampleRequest sampleVector sampleDraws, .retrieve "credential" 5,
    .rotate "credential" "newer" none sampleVector sampleDraws, .retrieve "credential" 5,
    .revoke "credential" none sampleDraws]

def sampleDate (_ : String) : Date := some 10

theorem retrieve_refines_sample :
    ((machine openCipher sampleDate).outputs { encryptionKey := sampleKey } sampleCalls).map
        (·.map Reply.answer) =
      [.ok .done, .ok (.secret "secret"), .ok .done, .ok (.secret "newer"), .ok (.revoked true)] :=
  (retrieve_refines openCipher_faithful sampleKey sampleCalls).trans (by decide +kernel)

noncomputable def sampleManager : CredentialManager :=
  (machine openCipher sampleDate).run { encryptionKey := sampleKey } (sampleCalls.take 1)

theorem expired_for_good_sample :
    ((machine openCipher sampleDate).run sampleManager (sampleCalls.drop 1)).retrieve openCipher
        sampleDate "credential" 12 = .error (.expired .mongodb) ∨
      ((machine openCipher sampleDate).run sampleManager (sampleCalls.drop 1)).retrieve openCipher
        sampleDate "credential" 12 = .error (.notFound "credential") :=
  expired_for_good (sampleCalls.drop 1)
    (show sampleManager.retrieve openCipher sampleDate "credential" 11 = _ by decide +kernel)
    (by simp [sampleCalls, Call.Stores]) (by decide)

theorem control_plane_sees_sample :
    (((machine openCipher sampleDate).run { encryptionKey := sampleKey }
        (sampleCalls.take 4)).getByProfile "profile").map StoredCredential.toCredentialRecord =
      some ⟨"credential", "profile", "acme"⟩ :=
  (control_plane_sees_credentials ⟨fun _ => true, fun _ => "rejected"⟩ rfl _ _).trans
    (by decide +kernel)

end Sample

end CredentialManager

end Caas.Datastore
