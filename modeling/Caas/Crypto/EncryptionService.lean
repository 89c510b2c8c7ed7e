import Caas.Async.Pool
import Caas.Js.Buffer
import Caas.Redis.ExpiringMap
import Mathlib.Data.List.Lookmap

/-!
# The encryption service

Keys are documents of a collection; Redis holds copies of their data, without their expiry
and without their flag, for an hour each. Encryption and decryption look a key up in the
same way. The cipher is a parameter: it works on a text and gives base64 text, or fails.

A call that generates a key, or encrypts, carries what it draws at random.
-/

namespace Caas.Crypto

open Js Async Program Redis

inductive KeyType where
  | master
  | data
  | session
deriving DecidableEq

structure EncryptionKey where
  keyId : String
  tenantId : String
  keyType : KeyType
  keyData : String
  createdAt : Nat
  expiresAt : Nat
  isActive : Bool
deriving DecidableEq

/-- What `encrypt` returns. -/
structure Ciphertext where
  ciphertext : String
  iv : String
  authTag : String
deriving DecidableEq

/-- The cipher of the configured algorithm, of a key and an initialisation vector: a text to
its ciphertext and tag, and back. -/
structure Cipher where
  encipher : Buffer → Buffer → String → Except String (String × Buffer)
  decipher : Buffer → Buffer → Buffer → String → Except String String

/-- The cipher decrypts what it encrypted under the same key and vector. -/
def Cipher.Faithful (cipher : Cipher) : Prop :=
  ∀ key iv plaintext ciphertext authTag,
    cipher.encipher key iv plaintext = .ok (ciphertext, authTag) →
      cipher.decipher key iv authTag ciphertext = .ok plaintext

/-- The random id and the random bytes of a new key. -/
structure KeyDraw where
  keyId : String
  keyBuffer : Buffer

/-- `config.keyManagement.keyExpiry`. -/
def keyExpiry : Nat := 86400000 * 365

inductive KeyCommand where
  | newDate
  | insertOne (key : EncryptionKey)
  | findOne (keyId : String) (activeOnly : Bool)
  | deactivate (keyId : String)
  | redis (command : StringCommand String String)

def KeyCommand.Reply : KeyCommand → Type
  | .newDate => Nat
  | .insertOne _ | .deactivate _ => Unit
  | .findOne _ _ => Option EncryptionKey
  | .redis command => command.Reply

/-- An `async` method of the service. -/
abbrev KeyProgram := Program KeyCommand KeyCommand.Reply

namespace EncryptionService

/-- `await`. -/
def await (command : KeyCommand) : KeyProgram command.Reply := Program.command command

def newKey (tenantId : String) (keyType : KeyType) (draw : KeyDraw) (createdAt : Nat) :
    EncryptionKey where
  keyId := draw.keyId
  tenantId := tenantId
  keyType := keyType
  keyData := Buffer.toBase64 draw.keyBuffer
  createdAt := createdAt
  expiresAt := createdAt + keyExpiry
  isActive := true

def generateKey (tenantId : String) (keyType : KeyType) (draw : KeyDraw) : KeyProgram String := do
  let createdAt : Nat ← await .newDate
  let key := newKey tenantId keyType draw createdAt
  let _ ← await (.insertOne key)
  let cached : Except String Unit ← await (.redis (.setex key.keyId 3600 key.keyData))
  orThrow cached
  return key.keyId

def getKey (keyId : String) : KeyProgram Buffer := do
  let cachedKey : Option String ← await (.redis (.get keyId))
  match cachedKey.filter (· ≠ "") with
  | some keyData => return Buffer.ofBase64 keyData
  | none =>
    let found : Option EncryptionKey ← await (.findOne keyId true)
    match found with
    | none => .failure "Key not found or inactive"
    | some key =>
      let now : Nat ← await .newDate
      if key.expiresAt < now then .failure "Key expired"
      else
        let cached : Except String Unit ← await (.redis (.setex keyId 3600 key.keyData))
        orThrow cached
        return Buffer.ofBase64 key.keyData

variable (cipher : Cipher)

/-- The result of the cipher, with its encodings. -/
def sealing (key iv : Buffer) (plaintext : String) : Except String Ciphertext :=
  (cipher.encipher key iv plaintext).map fun (ciphertext, authTag) =>
    ⟨ciphertext, Buffer.toBase64 iv, Buffer.toBase64 authTag⟩

/-- `encrypt`, which draws the vector. -/
def encrypt (keyId plaintext : String) (iv : Buffer) : KeyProgram Ciphertext := do
  let key ← getKey keyId
  orThrow (sealing cipher key iv plaintext)

def decrypt (keyId : String) (data : Ciphertext) : KeyProgram String := do
  let key ← getKey keyId
  orThrow (cipher.decipher key (Buffer.ofBase64 data.iv) (Buffer.ofBase64 data.authTag)
    data.ciphertext)

def rotateKey (oldKeyId tenantId : String) (draw : KeyDraw) : KeyProgram String := do
  let found : Option EncryptionKey ← await (.findOne oldKeyId false)
  match found with
  | none => .failure "Old key not found"
  | some oldKey =>
    let newKeyId ← generateKey tenantId oldKey.keyType draw
    let _ ← await (.deactivate oldKeyId)
    let _ ← await (.redis (.del oldKeyId))
    return newKeyId

theorem decipher_sealing {cipher : Cipher} (faithful : cipher.Faithful) {key iv : Buffer}
    {plaintext : String} {data : Ciphertext} (sealed : sealing cipher key iv plaintext = .ok data) :
    cipher.decipher key (Buffer.ofBase64 data.iv) (Buffer.ofBase64 data.authTag) data.ciphertext =
      .ok plaintext := by
  cases enciphered : cipher.encipher key iv plaintext with
  | error error =>
    rw [sealing, enciphered] at sealed
    cases sealed
  | ok parts =>
    rw [sealing, enciphered] at sealed
    cases sealed
    simp only [Buffer.ofBase64_toBase64]
    exact faithful _ _ _ _ _ enciphered

end EncryptionService

/-- The clock, the collection of keys and the copies of their data. -/
structure KeyServer where
  now : Nat
  keys : List EncryptionKey
  copies : ExpiringMap String String

/-- `{ $set: { is_active: false } }` on a key with the id. -/
def deactivated (keyId : String) (key : EncryptionKey) : Option EncryptionKey :=
  if key.keyId = keyId then some { key with isActive := false } else none

/-- Execute a command; `updateOne` updates the first document that matches. -/
def KeyServer.exec (server : KeyServer) : (command : KeyCommand) → KeyServer × command.Reply
  | .newDate => (server, server.now)
  | .insertOne key => ({ server with keys := server.keys ++ [key] }, ())
  | .findOne keyId activeOnly =>
    (server, server.keys.find? fun key => key.keyId = keyId && (!activeOnly || key.isActive))
  | .deactivate keyId => ({ server with keys := server.keys.lookmap (deactivated keyId) }, ())
  | .redis command =>
    let (copies, reply) := command.exec server.copies server.now
    ({ server with copies }, reply)

inductive KeyCall where
  | generateKey (tenantId : String) (keyType : KeyType) (draw : KeyDraw)
  | encrypt (keyId plaintext : String) (iv : Buffer)
  | decrypt (keyId : String) (data : Ciphertext)
  | rotateKey (oldKeyId tenantId : String) (draw : KeyDraw)

inductive KeyAnswer where
  | keyId (keyId : String)
  | encrypted (data : Ciphertext)
  | decrypted (plaintext : String)
deriving DecidableEq

namespace EncryptionService

variable (cipher : Cipher)

def body : KeyCall → KeyProgram KeyAnswer
  | .generateKey tenantId keyType draw => do
    let keyId ← generateKey tenantId keyType draw
    return .keyId keyId
  | .encrypt keyId plaintext iv => do
    let data ← encrypt cipher keyId plaintext iv
    return .encrypted data
  | .decrypt keyId data => do
    let plaintext ← decrypt cipher keyId data
    return .decrypted plaintext
  | .rotateKey oldKeyId tenantId draw => do
    let keyId ← rotateKey oldKeyId tenantId draw
    return .keyId keyId

/-- Concurrent calls; outside of them only time passes, and copies expire. -/
def host : Host KeyServer KeyCommand KeyCommand.Reply Unit Nat KeyCall KeyAnswer where
  exec server command _ := server.exec command
  change server elapsed := { server with now := server.now + elapsed }
  body := body cipher

end EncryptionService

namespace KeyCall

def lookedUp : KeyCall → Option String
  | .encrypt keyId _ _ | .decrypt keyId _ => some keyId
  | .generateKey _ _ _ | .rotateKey _ _ _ => none

def draw? : KeyCall → Option KeyDraw
  | .generateKey _ _ draw | .rotateKey _ _ draw => some draw
  | .encrypt _ _ _ | .decrypt _ _ => none

end KeyCall

section Phases

/-- Where a call stands: what its lookup has found, or how far it is with a new key. -/
inductive Phase where
  | start
  | missed
  | found (key : EncryptionKey)
  | caching (key : EncryptionKey)
  | holding (keyData : String)
  | rotating (oldKey : EncryptionKey)
  | dated
  | inserted (key : EncryptionKey)
  | generated
  | deactivated
  | retired
  | failed
deriving DecidableEq

def nextPhase : Phase → (command : KeyCommand) → command.Reply → Phase
  | .start, .redis (.get _), (cached : Option String) =>
    match cached.filter (· ≠ "") with
    | some keyData => .holding keyData
    | none => .missed
  | .missed, .findOne _ _, (found : Option EncryptionKey) => found.elim .failed .found
  | .found key, .newDate, (now : Nat) => if key.expiresAt < now then .failed else .caching key
  | .caching key, .redis _, _ => .holding key.keyData
  | .start, .findOne _ _, (found : Option EncryptionKey) => found.elim .failed .rotating
  | .start, .newDate, _ | .rotating _, .newDate, _ => .dated
  | .dated, .insertOne key, _ => .inserted key
  | .inserted _, .redis _, _ => .generated
  | .generated, .deactivate _, _ => .deactivated
  | .deactivated, .redis _, _ => .retired
  | phase, _, _ => phase

inductive Awaits : KeyCall → Phase → KeyCommand → Prop where
  | get {call : KeyCall} {keyId : String} (looks : call.lookedUp = some keyId) :
      Awaits call .start (.redis (.get keyId))
  | find {call : KeyCall} {keyId : String} (looks : call.lookedUp = some keyId) :
      Awaits call .missed (.findOne keyId true)
  | check {call : KeyCall} {keyId : String} (looks : call.lookedUp = some keyId)
      (key : EncryptionKey) : Awaits call (.found key) .newDate
  | cache {call : KeyCall} {keyId : String} (looks : call.lookedUp = some keyId)
      (key : EncryptionKey) :
      Awaits call (.caching key) (.redis (.setex keyId 3600 key.keyData))
  | findOld (oldKeyId tenantId : String) (draw : KeyDraw) :
      Awaits (.rotateKey oldKeyId tenantId draw) .start (.findOne oldKeyId false)
  | date (tenantId : String) (keyType : KeyType) (draw : KeyDraw) :
      Awaits (.generateKey tenantId keyType draw) .start .newDate
  | dateNew (oldKeyId tenantId : String) (draw : KeyDraw) (oldKey : EncryptionKey) :
      Awaits (.rotateKey oldKeyId tenantId draw) (.rotating oldKey) .newDate
  | insert {call : KeyCall} {draw : KeyDraw} (draws : call.draw? = some draw)
      (tenantId : String) (keyType : KeyType) (createdAt : Nat) :
      Awaits call .dated (.insertOne (EncryptionService.newKey tenantId keyType draw createdAt))
  | copy {call : KeyCall} {draw : KeyDraw} (draws : call.draw? = some draw)
      (key : EncryptionKey) :
      Awaits call (.inserted key) (.redis (.setex key.keyId 3600 key.keyData))
  | deactivate (oldKeyId tenantId : String) (draw : KeyDraw) :
      Awaits (.rotateKey oldKeyId tenantId draw) .generated (.deactivate oldKeyId)
  | delete (oldKeyId tenantId : String) (draw : KeyDraw) :
      Awaits (.rotateKey oldKeyId tenantId draw) .deactivated (.redis (.del oldKeyId))

def discipline (call : KeyCall) : Discipline KeyCommand KeyCommand.Reply Phase where
  next := nextPhase
  may := Awaits call
  assumes _ _ := True

/-- `encrypt` answers with the key data that it holds; `rotateKey` answers when it has retired
the old key. -/
def ends (cipher : Cipher) (phase : Phase) : KeyCall → Outcome KeyAnswer → Prop
  | .encrypt _ plaintext iv, .ok answer => ∃ keyData data, phase = .holding keyData ∧
    answer = .encrypted data ∧
      EncryptionService.sealing cipher (Buffer.ofBase64 keyData) iv plaintext = .ok data
  | .rotateKey _ _ _, .ok _ => phase = .retired
  | .rotateKey _ _ _, .error _ => phase ≠ .retired
  | _, _ => True

theorem not_awaits_retired {call : KeyCall} {command : KeyCommand} :
    ¬ Awaits call .retired command := nofun

inductive Moves (server : KeyServer) : KeyCall → Phase → KeyServer → Phase → Prop where
  | hits {call : KeyCall} {keyId keyData : String} (looks : call.lookedUp = some keyId)
      (cached : server.copies.lookup server.now keyId = some keyData) (nonempty : keyData ≠ "") :
      Moves server call .start server (.holding keyData)
  | misses {call : KeyCall} {keyId : String} (looks : call.lookedUp = some keyId) :
      Moves server call .start server .missed
  | finds {call : KeyCall} {key : EncryptionKey} (looks : call.lookedUp = some key.keyId)
      (stored : key ∈ server.keys) (active : key.isActive = true) :
      Moves server call .missed server (.found key)
  | fails {call : KeyCall} (phase : Phase)
      (early : phase = .start ∨ phase = .missed ∨ ∃ key, phase = .found key) :
      Moves server call phase server .failed
  | passes {call : KeyCall} {keyId : String} (looks : call.lookedUp = some keyId)
      {key : EncryptionKey} (current : server.now ≤ key.expiresAt) :
      Moves server call (.found key) server (.caching key)
  | caches {call : KeyCall} {keyId : String} (looks : call.lookedUp = some keyId)
      (key : EncryptionKey) :
      Moves server call (.caching key)
        (server.exec (.redis (.setex keyId 3600 key.keyData))).1 (.holding key.keyData)
  | rotates {oldKey : EncryptionKey} (stored : oldKey ∈ server.keys) (tenantId : String)
      (draw : KeyDraw) :
      Moves server (.rotateKey oldKey.keyId tenantId draw) .start server (.rotating oldKey)
  | dates (tenantId : String) (keyType : KeyType) (draw : KeyDraw) :
      Moves server (.generateKey tenantId keyType draw) .start server .dated
  | datesNew (oldKeyId tenantId : String) (draw : KeyDraw) (oldKey : EncryptionKey) :
      Moves server (.rotateKey oldKeyId tenantId draw) (.rotating oldKey) server .dated
  | inserts {call : KeyCall} {draw : KeyDraw} (draws : call.draw? = some draw)
      (tenantId : String) (keyType : KeyType) (createdAt : Nat) :
      Moves server call .dated
        { server with
          keys := server.keys ++ [EncryptionService.newKey tenantId keyType draw createdAt] }
        (.inserted (EncryptionService.newKey tenantId keyType draw createdAt))
  | copies {call : KeyCall} {draw : KeyDraw} (draws : call.draw? = some draw)
      (key : EncryptionKey) :
      Moves server call (.inserted key)
        (server.exec (.redis (.setex key.keyId 3600 key.keyData))).1 .generated
  | deactivates (oldKeyId tenantId : String) (draw : KeyDraw) :
      Moves server (.rotateKey oldKeyId tenantId draw) .generated
        { server with keys := server.keys.lookmap (deactivated oldKeyId) } .deactivated
  | retires (oldKeyId tenantId : String) (draw : KeyDraw) :
      Moves server (.rotateKey oldKeyId tenantId draw) .deactivated
        (server.exec (.redis (.del oldKeyId))).1 .retired

theorem moves_exec {call : KeyCall} {phase : Phase} {command : KeyCommand}
    (awaits : Awaits call phase command) (server : KeyServer) :
    Moves server call phase (server.exec command).1
      (nextPhase phase command (server.exec command).2) := by
  cases awaits with
  | @get _ keyId looks =>
    have reply : (server.exec (.redis (.get keyId))).2 = server.copies.lookup server.now keyId :=
      rfl
    simp only [nextPhase, reply]
    cases cached : (server.copies.lookup server.now keyId).filter (· ≠ "") with
    | none => exact .misses looks
    | some keyData =>
      obtain ⟨found, nonempty⟩ := Option.filter_eq_some_iff.mp cached
      exact .hits looks found (of_decide_eq_true nonempty)
  | @find _ keyId looks =>
    have reply : (server.exec (.findOne keyId true)).2 = server.keys.find? fun key =>
      key.keyId = keyId && (!true || key.isActive) := rfl
    simp only [nextPhase, reply]
    cases found : server.keys.find? fun key => key.keyId = keyId && (!true || key.isActive) with
    | none => exact .fails _ (.inr (.inl rfl))
    | some key =>
      have matching := List.find?_some found
      simp only [Bool.not_true, Bool.false_or, Bool.and_eq_true, decide_eq_true_eq] at matching
      obtain ⟨rfl, active⟩ := matching
      exact .finds looks (List.mem_of_find?_eq_some found) active
  | check looks key =>
    have reply : (server.exec .newDate).2 = server.now := rfl
    simp only [nextPhase, reply]
    split
    · exact .fails _ (.inr (.inr ⟨key, rfl⟩))
    · exact .passes looks (Nat.le_of_not_lt ‹_›)
  | cache looks key => exact .caches looks key
  | findOld oldKeyId tenantId draw =>
    have reply : (server.exec (.findOne oldKeyId false)).2 = server.keys.find? fun key =>
      key.keyId = oldKeyId && (!false || key.isActive) := rfl
    simp only [nextPhase, reply]
    cases found : server.keys.find? fun key =>
        key.keyId = oldKeyId && (!false || key.isActive) with
    | none => exact .fails _ (.inl rfl)
    | some oldKey =>
      have matching := List.find?_some found
      simp only [Bool.not_false, Bool.true_or, Bool.and_true, decide_eq_true_eq] at matching
      subst matching
      exact .rotates (List.mem_of_find?_eq_some found) tenantId draw
  | date tenantId keyType draw => exact .dates tenantId keyType draw
  | dateNew oldKeyId tenantId draw oldKey => exact .datesNew oldKeyId tenantId draw oldKey
  | insert draws tenantId keyType createdAt => exact .inserts draws tenantId keyType createdAt
  | copy draws key => exact .copies draws key
  | deactivate oldKeyId tenantId draw => exact .deactivates oldKeyId tenantId draw
  | delete oldKeyId tenantId draw => exact .retires oldKeyId tenantId draw

end Phases

section Bodies

open EncryptionService

variable {cipher : Cipher} {call : KeyCall}

theorem getKey_respects {keyId : String} (looks : call.lookedUp = some keyId) :
    (getKey keyId).Respects (discipline call)
      (fun final outcome => ∀ key, outcome = .ok key →
        ∃ keyData, final = .holding keyData ∧ key = Buffer.ofBase64 keyData) .start := by
  refine Program.respects_command_bind (.get looks) ?_
  rintro (cached : Option String) _ after moved
  cases copy : cached.filter (· ≠ "") with
  | some keyData =>
    obtain rfl : Phase.holding keyData = after := by
      simpa only [discipline, nextPhase, copy] using moved
    rintro key ⟨⟩
    exact ⟨keyData, rfl, rfl⟩
  | none =>
    obtain rfl : Phase.missed = after := by
      simpa only [discipline, nextPhase, copy] using moved
    refine Program.respects_command_bind (.find looks) ?_
    rintro (_ | key) _ _ rfl
    · exact nofun
    · refine Program.respects_command_bind (.check looks key) ?_
      rintro (now : Nat) _ after moved
      by_cases expired : key.expiresAt < now
      · simp only [expired, if_true]
        exact nofun
      · obtain rfl : Phase.caching key = after := (if_neg expired).symm.trans moved
        simp only [expired, if_false]
        refine Program.respects_command_bind (.cache looks key) ?_
        rintro (written : Except String Unit) _ _ rfl
        refine Program.respects_orThrow_bind (fun _ _ => ?_) fun _ _ => nofun
        rintro _ ⟨⟩
        exact ⟨key.keyData, rfl, rfl⟩

theorem generateKey_respects {draw : KeyDraw} (draws : call.draw? = some draw) {phase : Phase}
    (date : Awaits call phase .newDate)
    (early : phase = .start ∨ ∃ oldKey, phase = .rotating oldKey) (tenantId : String)
    (keyType : KeyType) : (generateKey tenantId keyType draw).Respects (discipline call)
      (fun final _ => final = .generated) phase := by
  refine Program.respects_command_bind date ?_
  rintro (createdAt : Nat) _ after moved
  obtain rfl : Phase.dated = after := by
    rcases early with rfl | ⟨oldKey, rfl⟩ <;> exact moved
  refine Program.respects_command_bind (.insert draws tenantId keyType createdAt) ?_
  rintro _ _ _ rfl
  refine Program.respects_command_bind (.copy draws _) ?_
  rintro (written : Except String Unit) _ _ rfl
  exact Program.respects_orThrow_bind (fun _ _ => rfl) fun _ _ => rfl

theorem body_respects (call : KeyCall) :
    (body cipher call).Respects (discipline call) (fun phase => ends cipher phase call)
      .start := by
  cases call with
  | generateKey tenantId keyType draw =>
    refine Program.respects_bind ((generateKey_respects rfl (.date _ _ _) (.inl rfl) _ _).mono ?_)
    rintro _ (_ | keyId) _ <;> trivial
  | encrypt keyId plaintext iv =>
    refine Program.respects_bind (Program.respects_bind ((getKey_respects rfl).mono ?_))
    rintro _ (_ | key) done
    · trivial
    · obtain ⟨keyData, rfl, rfl⟩ := done key rfl
      refine Program.respects_orThrow ?_
      cases sealed : sealing cipher (Buffer.ofBase64 keyData) iv plaintext with
      | error error => trivial
      | ok data => exact ⟨keyData, data, rfl, rfl, sealed⟩
  | decrypt keyId data =>
    refine Program.respects_bind (Program.respects_bind ((getKey_respects rfl).mono ?_))
    rintro _ (_ | key) done
    · trivial
    · refine Program.respects_orThrow ?_
      cases cipher.decipher key (Buffer.ofBase64 data.iv) (Buffer.ofBase64 data.authTag)
        data.ciphertext <;> trivial
  | rotateKey oldKeyId tenantId draw =>
    refine Program.respects_bind (Program.respects_command_bind (.findOld _ _ _) ?_)
    rintro (_ | oldKey) _ _ rfl
    · exact nofun
    · refine Program.respects_bind ((generateKey_respects rfl (.dateNew _ _ _ oldKey)
        (.inr ⟨oldKey, rfl⟩) _ _).mono ?_)
      rintro _ (_ | keyId) rfl
      · exact nofun
      · refine Program.respects_command_bind (.deactivate _ _ _) ?_
        rintro _ _ _ rfl
        refine Program.respects_command_bind (.delete _ _ _) ?_
        rintro _ _ _ rfl
        exact rfl

end Bodies

abbrev KeyPool := Pool KeyServer KeyCommand KeyCommand.Reply KeyCall Phase KeyAnswer

abbrev KeyCallState := Call KeyCommand KeyCommand.Reply KeyCall Phase KeyAnswer

def machine (cipher : Cipher) : Transducer KeyPool (Event Unit Nat KeyCall) Unit :=
  Pool.machine (EncryptionService.host cipher) discipline fun _ => .start

def newPool (now : Nat) : KeyPool := ⟨⟨now, [], .empty⟩, []⟩

/-- The ids that calls draw are new. -/
def Fresh (pool : KeyPool) : Event Unit Nat KeyCall → Prop
  | .start input => ∀ draw, input.draw? = some draw →
    ∀ call ∈ pool.calls, ∀ other, call.input.draw? = some other → other.keyId ≠ draw.keyId
  | .run _ _ | .change _ => True

section Sample

def authenticating : Cipher where
  encipher key iv plaintext := .ok (plaintext, key ++ iv)
  decipher key iv authTag ciphertext :=
    if authTag = key ++ iv then .ok ciphertext
    else .error "Unsupported state or unable to authenticate data"

theorem authenticating_faithful : authenticating.Faithful := by
  intro key iv plaintext ciphertext authTag enciphered
  cases enciphered
  exact if_pos rfl

def sampleEvents : List (Event Unit Nat KeyCall) :=
  [.start (.generateKey "t" .data ⟨"k", [7]⟩), .run 0 (), .run 0 (), .run 0 (),
    .start (.encrypt "k" "secret" [1]), .run 1 ()]

def rotation : List (Event Unit Nat KeyCall) :=
  .start (.rotateKey "k" "t" ⟨"l", [8]⟩) :: List.replicate 6 (.run 2 ())

theorem fresh_sample : (machine authenticating).Admits Fresh (newPool 0) sampleEvents :=
  ⟨fun _ _ _ absent => absurd absent List.not_mem_nil, trivial, trivial, trivial,
    fun _ draws => (nomatch draws), trivial, trivial⟩

theorem fresh_rotation :
    (machine authenticating).Admits Fresh (newPool 0) (sampleEvents ++ rotation) := by
  refine ⟨fun _ _ _ absent => absurd absent List.not_mem_nil, trivial, trivial, trivial,
    fun _ draws => (nomatch draws), trivial, ?_, trivial, trivial, trivial, trivial, trivial,
    trivial, trivial⟩
  rintro _ ⟨⟩ call here other drawn
  rcases List.mem_cons.mp here with rfl | later
  · cases drawn
    decide
  · rw [List.mem_singleton.mp later] at drawn
    cases drawn

end Sample

end Caas.Crypto
