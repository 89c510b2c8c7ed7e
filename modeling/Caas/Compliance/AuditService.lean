import Caas.Async.Pool
import Caas.Async.Fallible
import Caas.Js.Buffer
import Caas.Js.Date
import Caas.Js.Json
import Caas.Redis.ExpiringMap

/-!
# The audit service of compliance

`log` computes the hash of an entry from the last hash that Redis or the collection knows
and puts the entry into a buffer; `flushBatch` writes the buffer to the collection. The code
between two awaits works on the buffer and the clock alone; its pieces are commands of
their own here, so that calls can interleave where they await.

Every reading of the clock is later than the one before. What Redis and MongoDB are asked
may fail, an insertion after some of its documents. The start and the end of the timer are
left out: a flush is a call like any other.
-/

namespace Caas.Compliance

open Js Async Program Redis

/-- What a caller logs; `ν` is the type of the numbers in its metadata. -/
structure AuditEvent (ν : Type) where
  tenantId : String
  userId : Option String
  action : String
  resourceType : String
  resourceId : Option String
  metadata : Json ν

/-- The fields of a log that are hashed. -/
structure AuditData (ν : Type) extends AuditEvent ν where
  auditId : String
  createdAt : Int

structure AuditLog (ν : Type) extends AuditData ν where
  hash : String
  previousHash : String

/-- What the service is built on: the text of a number, the hash function of the configured
algorithm, and what the database gives back for the data of a stored log. -/
structure AuditSettings (ν : Type) where
  digits : ν → List Char
  digest : Buffer → Buffer
  retrieve : AuditData ν → AuditData ν

namespace HashChainService

variable {ν : Type} (settings : AuditSettings ν)

def isoString (time : Int) : Json ν := .string (String.ofList (Js.Date.isoText time))

/-- The object literal that `log` and `verifyIntegrity` pass as `data`. -/
def dataDocument (data : AuditData ν) : Json ν :=
  .literal [("audit_id", some (.string data.auditId)), ("tenant_id", some (.string data.tenantId)),
    ("user_id", data.userId.map .string), ("action", some (.string data.action)),
    ("resource_type", some (.string data.resourceType)),
    ("resource_id", data.resourceId.map .string), ("metadata", some data.metadata),
    ("created_at", some (isoString data.createdAt))]

/-- The hash of data when the clock reads `time`. -/
def calculateHash (data : AuditData ν) (previousHash : String) (time : Int) : String :=
  Buffer.hexDigest settings.digest (Json.stringify settings.digits
    (.literal [("data", some (dataDocument data)), ("previousHash", some (.string previousHash)),
      ("timestamp", some (isoString time))]))

def getGenesisHash : String := String.ofList (List.replicate 64 '0')

theorem time_of_calculateHash {settings : AuditSettings ν}
    (injective : Function.Injective settings.digest) (numerals : Json.Numerals settings.digits)
    {data data' : AuditData ν} {previousHash previousHash' : String} {time time' : Int}
    (same : calculateHash settings data previousHash time =
      calculateHash settings data' previousHash' time') : time = time' := by
  have documents := Json.stringify_injective numerals (Buffer.hexDigest_injective injective same)
  have texts : String.ofList (Js.Date.isoText time) = String.ofList (Js.Date.isoText time') := by
    simp only [Json.literal, isoString, List.filterMap_cons, List.filterMap_nil, Option.map_some,
      Json.object.injEq, List.cons.injEq, Prod.mk.injEq, Json.string.injEq, true_and,
      and_true] at documents
    exact documents.2.2
  exact Js.Date.isoText_injective (String.ofList_injective texts)

end HashChainService

/-- The memory of the service with the clock, the database and the cache. -/
structure AuditState (ν : Type) where
  now : Nat
  batchBuffer : List (AuditLog ν)
  collection : List (AuditLog ν)
  redis : ExpiringMap String String

/-- What the methods await, and what they do in between. -/
inductive AuditCommand (ν : Type) where
  | newDate
  | redis (command : StringCommand String String)
  | findOne (tenantId : String)
  | find (tenantId : String) (startDate endDate : Option Int)
  | push (log : AuditLog ν)
  | takeBatch
  | insertMany (batch : List (AuditLog ν))
  | unshift (batch : List (AuditLog ν))

namespace AuditCommand

variable {ν : Type}

/-- The reply of a command; of a piece of code, what it goes on with. -/
def Reply : AuditCommand ν → Type
  | .newDate => Int
  | .redis command => Except String command.Reply
  | .findOne _ => Except String (Option (AuditLog ν))
  | .find _ _ _ => Except String (List (AuditLog ν))
  | .push _ => Nat
  | .takeBatch => List (AuditLog ν)
  | .insertMany _ => Except String Unit
  | .unshift _ => Unit

end AuditCommand

/-- The time since the last reading of the clock, whether the command fails, and how many
documents a failing insertion inserts. -/
structure Circumstance where
  elapsed : Nat := 0
  fault : Option String := none
  inserted : Nat := 0

namespace AuditService

variable {ν : Type} (settings : AuditSettings ν)

/-- What the database gives back for a stored log. -/
def retrieved (log : AuditLog ν) : AuditLog ν :=
  { settings.retrieve log.toAuditData with hash := log.hash, previousHash := log.previousHash }

def lastCreated (logs : List (AuditLog ν)) : Option (AuditLog ν) :=
  logs.foldl (fun last log =>
    if last.any fun other => log.createdAt < other.createdAt then last else some log) none

/-- The logs that `find` answers, in the order of their creation. -/
def found (collection : List (AuditLog ν)) (tenantId : String) (startDate endDate : Option Int) :
    List (AuditLog ν) :=
  (collection.filter fun log => log.tenantId = tenantId && startDate.all (· ≤ log.createdAt) &&
    endDate.all (log.createdAt ≤ ·)).mergeSort fun log later => log.createdAt ≤ later.createdAt

/-- A reply of Redis or MongoDB that fails does so without an effect. -/
def exec (state : AuditState ν) : (command : AuditCommand ν) → Circumstance →
    AuditState ν × command.Reply
  | .newDate, circumstance =>
    let now := state.now + circumstance.elapsed + 1
    ({ state with now }, (now : Int))
  | .redis command, circumstance =>
    match circumstance.fault with
    | some error => (state, .error error)
    | none =>
      let (redis, reply) := command.exec state.redis state.now
      ({ state with redis }, .ok reply)
  | .findOne tenantId, circumstance =>
    match circumstance.fault with
    | some error => (state, .error error)
    | none =>
      (state, .ok ((lastCreated (state.collection.filter fun log => log.tenantId = tenantId)).map
        (retrieved settings)))
  | .find tenantId startDate endDate, circumstance =>
    match circumstance.fault with
    | some error => (state, .error error)
    | none =>
      (state, .ok ((found state.collection tenantId startDate endDate).map (retrieved settings)))
  | .push log, _ =>
    let batchBuffer := state.batchBuffer ++ [log]
    ({ state with batchBuffer }, batchBuffer.length)
  | .takeBatch, _ => ({ state with batchBuffer := [] }, state.batchBuffer)
  | .insertMany batch, circumstance =>
    match circumstance.fault with
    | some error =>
      ({ state with collection := state.collection ++ batch.take circumstance.inserted },
        .error error)
    | none => ({ state with collection := state.collection ++ batch }, .ok ())
  | .unshift batch, _ => ({ state with batchBuffer := batch ++ state.batchBuffer }, ())

/-- An `async` method of the service. -/
abbrev AuditProgram (ν : Type) := Program (AuditCommand ν) AuditCommand.Reply

/-- `await`, or the code up to the next one. -/
def await (command : AuditCommand ν) : AuditProgram ν command.Reply := Program.command command

/-- `new Date()`. -/
def newDate : AuditProgram ν Int := await .newDate

/-- `await redis.get(key)`. -/
def redisGet (key : String) : AuditProgram ν (Option String) := do
  let reply : Except String (Option String) ← await (.redis (.get key))
  orThrow reply

/-- `await redis.setex(key, seconds, value)`. -/
def redisSetex (key : String) (seconds : Int) (value : String) : AuditProgram ν Unit := do
  let reply : Except String (Except String Unit) ←
    await (.redis (.setex key seconds value))
  let written ← orThrow reply
  orThrow written

def cacheKey (tenantId : String) : String := "last_hash:" ++ tenantId

def getLastHash (tenantId : String) : AuditProgram ν String := do
  let cachedHash ← redisGet (cacheKey tenantId)
  match cachedHash.filter (· ≠ "") with
  | some hash => return hash
  | none =>
    let reply : Except String (Option (AuditLog ν)) ← await (.findOne tenantId)
    let lastLog ← orThrow reply
    let hash := match lastLog with
      | some log => log.hash
      | none => HashChainService.getGenesisHash
    redisSetex (cacheKey tenantId) 60 hash
    return hash

/-- The loop of `flushBatch` over the batch. -/
def cacheLastHashes : List (AuditLog ν) → AuditProgram ν Unit
  | [] => return ()
  | log :: rest => do
    redisSetex (cacheKey log.tenantId) 60 log.hash
    cacheLastHashes rest

def flushBatch : AuditProgram ν Unit := do
  let batch : List (AuditLog ν) ← await .takeBatch
  if batch.length = 0 then return ()
  let written : AuditProgram ν Unit := do
    let reply : Except String Unit ← await (.insertMany batch)
    let _ ← orThrow reply
    cacheLastHashes batch
  written.catching fun _ => do
    let _ ← await (.unshift batch)
    return ()

/-- `log`, which has drawn `auditId`. -/
def log (event : AuditEvent ν) (auditId : String) : AuditProgram ν String := do
  let createdAt ← newDate
  let previousHash ← getLastHash event.tenantId
  let time ← newDate
  let data : AuditData ν := { event with auditId, createdAt }
  let auditLog : AuditLog ν :=
    { data with hash := HashChainService.calculateHash settings data previousHash time
                previousHash }
  let length : Nat ← await (.push auditLog)
  if length ≥ 100 then
    flushBatch
  return auditId

/-- What `verifyIntegrity` reports. -/
structure Report where
  valid : Bool
  totalLogs : Nat
  verifiedLogs : Nat
  errors : List String
deriving DecidableEq

/-- The loop of `verifyIntegrity` after the log `previous`: the errors and the number of
verified logs so far. -/
def verifyLogs (previous : Option (AuditLog ν)) (errors : List String) (verified : Nat) :
    List (AuditLog ν) → AuditProgram ν (List String × Nat)
  | [] => return (errors, verified)
  | log :: rest => do
    let time ← newDate
    let calculatedHash :=
      HashChainService.calculateHash settings log.toAuditData log.previousHash time
    if calculatedHash ≠ log.hash then
      verifyLogs (some log) (errors ++ ["Hash mismatch at audit_id: " ++ log.auditId]) verified rest
    else if previous.any fun previousLog => log.previousHash ≠ previousLog.hash then
      verifyLogs (some log) (errors ++ ["Chain broken at audit_id: " ++ log.auditId]) verified rest
    else verifyLogs (some log) errors (verified + 1) rest

def verifyIntegrity (tenantId : String) (startDate endDate : Option Int) :
    AuditProgram ν Report := do
  let reply : Except String (List (AuditLog ν)) ← await (.find tenantId startDate endDate)
  let logs ← orThrow reply
  let (errors, verified) ← verifyLogs settings none [] 0 logs
  return { valid := errors.length = 0, totalLogs := logs.length, verifiedLogs := verified, errors }

inductive AuditCall (ν : Type) where
  | log (event : AuditEvent ν) (auditId : String)
  | flushBatch

/-- What a call runs; only `log` has a result. -/
def body : AuditCall ν → AuditProgram ν (Option String)
  | .log event auditId => do
    let id ← log settings event auditId
    return some id
  | .flushBatch => do
    flushBatch
    return none

/-- Concurrent calls; outside of them time passes, and keys of the cache expire. -/
def host : Host (AuditState ν) (AuditCommand ν) AuditCommand.Reply Circumstance Nat (AuditCall ν)
    (Option String) where
  exec := exec settings
  change state elapsed := { state with now := state.now + elapsed }
  body := body settings

section Calm

variable {settings} {circumstance : Nat → Circumstance}
  {execute : AuditState ν → (command : AuditCommand ν) → Circumstance → AuditState ν × command.Reply}
  (caches : ∀ state command circumstance,
    execute state (.redis command) circumstance = exec settings state (.redis command) circumstance)
  (calm : ∀ number, (circumstance number).fault = none)

include caches calm

theorem redisSetex_ensures {number : Nat} {state : AuditState ν} (key value : String) :
    (redisSetex key 60 value : AuditProgram ν Unit).Ensures execute circumstance
      (fun _ after outcome => outcome = .ok () ∧ ∃ redis, after = { state with redis }) number
      state := by
  have executed : execute state (.redis (.setex key 60 value)) (circumstance number) =
      ({ state with redis := state.redis.store state.now key 60 value }, .ok (.ok ())) := by
    rw [caches]
    unfold exec
    simp only [calm number]
    rfl
  exact Program.ensures_command_bind executed ⟨rfl, _, rfl⟩

theorem cacheLastHashes_ensures {number : Nat} {state : AuditState ν} (batch : List (AuditLog ν)) :
    (cacheLastHashes batch).Ensures execute circumstance
      (fun _ after outcome => outcome = .ok () ∧ ∃ redis, after = { state with redis }) number
      state := by
  induction batch generalizing number state with
  | nil => exact ⟨rfl, _, rfl⟩
  | cons log rest ih =>
    refine ensures_bind
      ((redisSetex_ensures caches calm _ _).mono fun number after outcome done => ?_)
    obtain ⟨rfl, redis, rfl⟩ := done
    exact @ih number { state with redis }

end Calm

end AuditService

end Caas.Compliance
