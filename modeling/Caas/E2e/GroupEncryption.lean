import Caas.Async.Pool
import Caas.Redis.ExpiringSet

/-!
# Group encryption

Each member of a group has a sender key, which is stored in Redis and sent to the other
members. A join sends the new member the stored keys, and makes and sends a key of the
new member; a leave makes and sends a new key of each remaining member in turn. Keys are
numbered by generations, which Redis counts.

The keys with the prefixes `sender_key:` and `sender_key_gen:` are two maps here, and
`JSON.stringify` and `JSON.parse` of a sender key are the identity. What is sent between two
awaits is one command. Redis and `Date.now` share one clock.
-/

namespace Caas.E2e

open Js Async Redis

structure SenderKey where
  userId : String
  conversationId : String
  chainKey : String
  generation : Nat
  createdAt : Nat
deriving DecidableEq

/-- What is sent through `io`. -/
inductive GroupEmission where
  /-- `e2e:group_sender_key_distribute` to a user. -/
  | distribute (memberId senderId conversationId chainKey : String) (generation timestamp : Nat)
  /-- `e2e:group_key_update` to a conversation. -/
  | keyUpdate (conversationId leavingMemberId : String) (timestamp : Nat)
deriving DecidableEq

/-- Redis, with everything that has been sent, in its order. -/
structure GroupStore where
  now : Nat
  senderKeys : ExpiringMap String SenderKey
  generations : ExpiringMap String Nat
  sent : List GroupEmission

namespace GroupEncryption

inductive GroupCommand where
  | get (key : String)
  | setex (key : String) (seconds : Nat) (senderKey : SenderKey)
  | del (key : String)
  | incr (key : String)
  | expire (key : String) (seconds : Nat)
  /-- Send with the time of sending. -/
  | emit (emissions : Nat → List GroupEmission)
  /-- `randomBytes(32).toString('hex')` -/
  | randomBytes
  /-- `Date.now()` -/
  | dateNow

def GroupCommand.Reply : GroupCommand → Type
  | .get _ => Option SenderKey
  | .setex _ _ _ => Unit
  | .del _ => Unit
  | .incr _ => Nat
  | .expire _ _ => Unit
  | .emit _ => Unit
  | .randomBytes => String
  | .dateNow => Nat

abbrev GroupProgram := Program GroupCommand GroupCommand.Reply

def await (command : GroupCommand) : GroupProgram command.Reply := Program.command command

/-- Execute a command; `bytes` is what would be drawn at random. -/
def exec (store : GroupStore) (command : GroupCommand) (bytes : String) :
    GroupStore × command.Reply :=
  match command with
  | .get key => (store, store.senderKeys.lookup store.now key)
  | .setex key seconds senderKey =>
    ({ store with senderKeys := store.senderKeys.store store.now key seconds senderKey }, ())
  | .del key => ({ store with senderKeys := OrderedMap.delete store.senderKeys key }, ())
  | .incr key =>
    let generation := (store.generations.lookup store.now key).getD 0 + 1
    ({ store with generations := store.generations.replace store.now key generation }, generation)
  | .expire key seconds =>
    ({ store with generations := store.generations.expire store.now key seconds }, ())
  | .emit emissions => ({ store with sent := store.sent ++ emissions store.now }, ())
  | .randomBytes => (store, bytes)
  | .dateNow => (store, store.now)

variable (rotationIntervalHours : Nat)

def senderKeyName (conversationId userId : String) : String :=
  "sender_key:" ++ conversationId ++ ":" ++ userId

/-- The Redis key of the generations of sender keys. -/
def generationName (conversationId userId : String) : String :=
  "sender_key_gen:" ++ conversationId ++ ":" ++ userId

def storeSenderKey (senderKey : SenderKey) : GroupProgram Unit :=
  await (.setex (senderKeyName senderKey.conversationId senderKey.userId)
    (rotationIntervalHours * 3600 + 86400) senderKey)

def deleteSenderKey (userId conversationId : String) : GroupProgram Unit :=
  await (.del (senderKeyName conversationId userId))

def getNextGeneration (conversationId userId : String) : GroupProgram Nat := do
  let generation : Nat ← await (.incr (generationName conversationId userId))
  let _ ← await (.expire (generationName conversationId userId) (86400 * 365))
  pure generation

def generateSenderKey (userId conversationId : String) : GroupProgram SenderKey := do
  let chainKey : String ← await .randomBytes
  let generation ← getNextGeneration conversationId userId
  let createdAt : Nat ← await .dateNow
  let senderKey : SenderKey := { userId, conversationId, chainKey, generation, createdAt }
  storeSenderKey rotationIntervalHours senderKey
  pure senderKey

def getSenderKey (userId conversationId : String) : GroupProgram (Option SenderKey) :=
  await (.get (senderKeyName conversationId userId))

def distributions (senderKey : SenderKey) (memberIds : List String) (timestamp : Nat) :
    List GroupEmission :=
  (memberIds.filter fun memberId => memberId != senderKey.userId).map fun memberId =>
    .distribute memberId senderKey.userId senderKey.conversationId senderKey.chainKey
      senderKey.generation timestamp

def distributeSenderKey (senderKey : SenderKey) (memberIds : List String) : GroupProgram Unit :=
  await (.emit (distributions senderKey memberIds))

/-- The loop of `handleMemberJoin` that reads the sender keys of the members. -/
def collectSenderKeys (conversationId : String) (senderKeys : List SenderKey) :
    List String → GroupProgram (List SenderKey)
  | [] => pure senderKeys
  | memberId :: rest => do
    let senderKey : Option SenderKey ← getSenderKey memberId conversationId
    collectSenderKeys conversationId (senderKeys ++ senderKey.toList) rest

def welcomes (conversationId newMemberId : String) (senderKeys : List SenderKey)
    (timestamp : Nat) : List GroupEmission :=
  senderKeys.map fun senderKey =>
    .distribute newMemberId senderKey.userId conversationId senderKey.chainKey
      senderKey.generation timestamp

def handleMemberJoin (conversationId newMemberId : String) (existingMemberIds : List String) :
    GroupProgram Unit := do
  let senderKeys ← collectSenderKeys conversationId [] existingMemberIds
  let _ ← await (.emit (welcomes conversationId newMemberId senderKeys))
  let newMemberKey ← generateSenderKey rotationIntervalHours newMemberId conversationId
  distributeSenderKey newMemberKey existingMemberIds

/-- The loop of `handleMemberLeave` over the members whose keys are still to be rotated. -/
def rotateSenderKeys (conversationId : String) (remainingMemberIds : List String) :
    List String → GroupProgram Unit
  | [] => pure ()
  | memberId :: rest => do
    let newSenderKey ← generateSenderKey rotationIntervalHours memberId conversationId
    distributeSenderKey newSenderKey remainingMemberIds
    rotateSenderKeys conversationId remainingMemberIds rest

def handleMemberLeave (conversationId leavingMemberId : String)
    (remainingMemberIds : List String) : GroupProgram Unit := do
  deleteSenderKey leavingMemberId conversationId
  rotateSenderKeys rotationIntervalHours conversationId remainingMemberIds remainingMemberIds
  await (.emit fun timestamp => [.keyUpdate conversationId leavingMemberId timestamp])

inductive GroupCall where
  | join (newMemberId : String) (existingMemberIds : List String)
  | leave (leavingMemberId : String) (remainingMemberIds : List String)

def GroupCall.memberIds : GroupCall → List String
  | .join _ existingMemberIds => existingMemberIds
  | .leave _ remainingMemberIds => remainingMemberIds

/-- The calls on a group; time passes between commands. -/
def host (conversationId : String) :
    Host GroupStore GroupCommand GroupCommand.Reply String Nat GroupCall Unit where
  exec := exec
  change store elapsed := { store with now := store.now + elapsed }
  body
    | .join newMemberId existingMemberIds =>
      handleMemberJoin rotationIntervalHours conversationId newMemberId existingMemberIds
    | .leave leavingMemberId remainingMemberIds =>
      handleMemberLeave rotationIntervalHours conversationId leavingMemberId remainingMemberIds

end GroupEncryption

end Caas.E2e

/-!
## Phases of joins and leaves

A join reads the stored keys, sends them to the new member, and makes and sends a key of
the new member; a leave deletes a key, and makes and sends a new key of each remaining
member in turn. The membership of the group changes when a call starts, which is given the
members.
-/

namespace Caas.E2e.GroupEncryption

open Js Async Redis

/-- Where a call is; `rest` are the members whose keys are still to be read, or made. -/
inductive Phase where
  | deleting
  | reading (rest : List String) (senderKeys : List SenderKey)
  | generating (memberId : String) (generation : Option Nat) (rest : List String)
  | distributing (senderKey : SenderKey) (rest : List String)
  | notifying
  | finished

/-- The phase in which a key is made of each of `rest` in turn. -/
def rotating : List String → Phase
  | [] => .notifying
  | memberId :: rest => .generating memberId none rest

def firstPhase : GroupCall → Phase
  | .join _ existingMemberIds => .reading existingMemberIds []
  | .leave _ _ => .deleting

def nextPhase (call : GroupCall) : Phase → (command : GroupCommand) → command.Reply → Phase
  | .deleting, .del _, _ => rotating call.memberIds
  | .reading (_ :: rest) senderKeys, .get _, (found : Option SenderKey) =>
    .reading rest (senderKeys ++ found.toList)
  | .reading [] _, .emit _, _ =>
    match call with
    | .join newMemberId _ => .generating newMemberId none []
    | .leave _ _ => .finished
  | .generating memberId none rest, .incr _, (generation : Nat) =>
    .generating memberId (some generation) rest
  | .generating _ (some _) rest, .setex _ _ senderKey, _ => .distributing senderKey rest
  | .distributing _ rest, .emit _, _ =>
    match call with
    | .join _ _ => .finished
    | .leave _ _ => rotating rest
  | .notifying, .emit _, _ => .finished
  | phase, _, _ => phase

inductive Awaits (conversationId : String) : GroupCall → Phase → GroupCommand → Prop where
  | delete leavingMemberId remainingMemberIds :
    Awaits conversationId (.leave leavingMemberId remainingMemberIds) .deleting
      (.del (senderKeyName conversationId leavingMemberId))
  | read call memberId rest senderKeys :
    Awaits conversationId call (.reading (memberId :: rest) senderKeys)
      (.get (senderKeyName conversationId memberId))
  | welcome newMemberId existingMemberIds senderKeys :
    Awaits conversationId (.join newMemberId existingMemberIds) (.reading [] senderKeys)
      (.emit (welcomes conversationId newMemberId senderKeys))
  | draw call memberId rest :
    Awaits conversationId call (.generating memberId none rest) .randomBytes
  | count call memberId rest :
    Awaits conversationId call (.generating memberId none rest)
      (.incr (generationName conversationId memberId))
  | renew call memberId generation rest seconds (positive : 0 < seconds) :
    Awaits conversationId call (.generating memberId (some generation) rest)
      (.expire (generationName conversationId memberId) seconds)
  | date call memberId generation rest :
    Awaits conversationId call (.generating memberId (some generation) rest) .dateNow
  | store call senderKey rest seconds (positive : 0 < seconds) :
    Awaits conversationId call
      (.generating senderKey.userId (some senderKey.generation) rest)
      (.setex (senderKeyName conversationId senderKey.userId) seconds senderKey)
  | distribute call senderKey rest :
    Awaits conversationId call (.distributing senderKey rest)
      (.emit (distributions senderKey call.memberIds))
  | notify leavingMemberId remainingMemberIds :
    Awaits conversationId (.leave leavingMemberId remainingMemberIds) .notifying
      (.emit fun timestamp => [.keyUpdate conversationId leavingMemberId timestamp])

def discipline (conversationId : String) (call : GroupCall) :
    Discipline GroupCommand GroupCommand.Reply Phase where
  next := nextPhase call
  may := Awaits conversationId call
  assumes _ _ := True

def ends (_ : GroupCall) (phase : Phase) (outcome : Program.Outcome Unit) : Prop :=
  phase = .finished ∧ outcome = .ok ()

abbrev GroupPool := Pool GroupStore GroupCommand GroupCommand.Reply GroupCall Phase Unit

abbrev GroupEvent := Event String Nat GroupCall

abbrev GroupCallState := Call GroupCommand GroupCommand.Reply GroupCall Phase Unit

def machine (rotationIntervalHours : Nat) (conversationId : String) :
    Transducer GroupPool GroupEvent Unit :=
  Pool.machine (host rotationIntervalHours conversationId) (discipline conversationId) firstPhase

def membersAfter (members : List String) : GroupCall → List String
  | .join newMemberId _ => newMemberId :: members
  | .leave leavingMemberId _ => members.filter fun member => member != leavingMemberId

/-- The members, of a group that had some when there were no calls. -/
def members (initial : List String) (pool : GroupPool) : List String :=
  pool.calls.foldl (fun members call => membersAfter members call.input) initial

def GivenMembers (members : List String) : GroupCall → Prop
  | .join newMemberId existingMemberIds =>
    ∀ member, member ≠ newMemberId → (member ∈ existingMemberIds ↔ member ∈ members)
  | .leave leavingMemberId remainingMemberIds =>
    ∀ member, member ∈ remainingMemberIds ↔ member ∈ members ∧ member ≠ leavingMemberId

def senderKey? (conversationId : String) (store : GroupStore) (member : String) :
    Option SenderKey :=
  store.senderKeys.lookup store.now (senderKeyName conversationId member)

def generation (conversationId : String) (store : GroupStore) (member : String) : Nat :=
  (store.generations.lookup store.now (generationName conversationId member)).getD 0

section Members

variable {initial : List String} {pool : GroupPool} {conversationId : String}

theorem members_start (rotationIntervalHours : Nat) (call : GroupCall) :
    members initial (pool.start (host rotationIntervalHours conversationId) firstPhase call) =
      membersAfter (members initial pool) call := by
  rw [members, Pool.start, List.foldl_append]
  rfl

theorem members_resume {index : Nat} {call : GroupCallState} {command : GroupCommand}
    {next : command.Reply → GroupProgram Unit} {effect : GroupStore × command.Reply}
    (present : pool.calls[index]? = some call) :
    members initial (pool.resume (discipline conversationId) index call command next effect) =
      members initial pool := by
  have inputs : (pool.resume (discipline conversationId) index call command next
      effect).calls.map (·.input) = pool.calls.map (·.input) := by
    apply List.ext_getElem?
    intro other
    rw [List.getElem?_map, List.getElem?_map, Pool.getElem?_resume present]
    split
    · rename_i same
      rw [← same, present]
      rfl
    · rfl
  have folded (pool : GroupPool) :
      members initial pool = (pool.calls.map (·.input)).foldl membersAfter initial := by
    rw [members, List.foldl_map]
  rw [folded, folded, inputs]

theorem senderKeyName_inj {member other : String}
    (same : senderKeyName conversationId member = senderKeyName conversationId other) :
    member = other :=
  (String.append_right_inj _).mp same

theorem generationName_inj {member other : String}
    (same : generationName conversationId member = generationName conversationId other) :
    member = other :=
  (String.append_right_inj _).mp same

variable {store : GroupStore} {member : String} {bytes : String}

theorem senderKey?_setex {made : SenderKey} {seconds : Nat} (positive : 0 < seconds) :
    senderKey? conversationId (exec store
        (.setex (senderKeyName conversationId made.userId) seconds made) bytes).1 member =
      if member = made.userId then some made else senderKey? conversationId store member := by
  change ExpiringMap.lookup (ExpiringMap.store _ _ _ _ _) store.now _ = _
  rw [ExpiringMap.lookup_store positive]
  by_cases same : member = made.userId
  · rw [if_pos (same ▸ rfl), if_pos same]
  · rw [if_neg fun name => same (senderKeyName_inj name).symm, if_neg same]
    rfl

theorem senderKey?_del {leavingMemberId : String} : senderKey? conversationId (exec store
        (.del (senderKeyName conversationId leavingMemberId)) bytes).1 member =
      if member = leavingMemberId then none else senderKey? conversationId store member := by
  change ExpiringMap.lookup (OrderedMap.delete _ _) store.now _ = _
  rw [ExpiringMap.lookup_delete]
  by_cases same : member = leavingMemberId
  · rw [if_pos (same ▸ rfl), if_pos same]
  · rw [if_neg fun name => same (senderKeyName_inj name).symm, if_neg same]
    rfl

theorem generation_incr {memberId : String} :
    generation conversationId (exec store (.incr (generationName conversationId memberId))
        bytes).1 member =
      if member = memberId then generation conversationId store memberId + 1
      else generation conversationId store member := by
  change (ExpiringMap.lookup (ExpiringMap.replace _ _ _ _) store.now _).getD 0 = _
  rw [ExpiringMap.lookup_replace]
  by_cases same : member = memberId
  · rw [if_pos (same ▸ rfl), if_pos same]
    rfl
  · rw [if_neg fun name => same (generationName_inj name).symm, if_neg same]
    rfl

theorem generation_expire {memberId : String} {seconds : Nat} (positive : 0 < seconds) :
    generation conversationId (exec store (.expire (generationName conversationId memberId)
        seconds) bytes).1 member = generation conversationId store member := by
  change (ExpiringMap.lookup (ExpiringMap.expire _ _ _ _) store.now _).getD 0 = _
  rw [ExpiringMap.lookup_expire (Int.natCast_pos.mpr positive)]
  rfl

end Members

section Respects

variable {conversationId : String} {call : GroupCall} (rotationIntervalHours : Nat)

theorem generate_respects {memberId : String} {rest : List String} {next : GroupProgram Unit}
    (later : ∀ senderKey, next.Respects (discipline conversationId call) (ends call)
      (nextPhase call (.distributing senderKey rest)
        (.emit (distributions senderKey call.memberIds)) ())) :
    (do
      let senderKey ← generateSenderKey rotationIntervalHours memberId conversationId
      distributeSenderKey senderKey call.memberIds
      next : GroupProgram Unit).Respects (discipline conversationId call) (ends call)
        (.generating memberId none rest) := by
  refine ⟨.draw _ _ _, fun (chainKey : String) _ => ⟨.count _ _ _, fun (generation : Nat) _ => ?_⟩⟩
  refine ⟨.renew _ _ _ _ _ (by decide), fun _ _ => ⟨.date _ _ _ _, fun (createdAt : Nat) _ => ?_⟩⟩
  refine ⟨.store call ⟨memberId, conversationId, chainKey, generation, createdAt⟩ rest _
    (Nat.succ_pos _), fun _ _ => ?_⟩
  exact ⟨.distribute _ _ _, fun _ _ =>
    later ⟨memberId, conversationId, chainKey, generation, createdAt⟩⟩

theorem rotateSenderKeys_respects (leavingMemberId : String)
    (remainingMemberIds rest : List String) :
    (do
      rotateSenderKeys rotationIntervalHours conversationId remainingMemberIds rest
      await (.emit fun timestamp =>
        [.keyUpdate conversationId leavingMemberId timestamp]) : GroupProgram Unit).Respects
        (discipline conversationId (.leave leavingMemberId remainingMemberIds))
        (ends (.leave leavingMemberId remainingMemberIds)) (rotating rest) := by
  induction rest with
  | nil => exact ⟨.notify _ _, fun _ _ => ⟨rfl, rfl⟩⟩
  | cons memberId rest ih => exact generate_respects rotationIntervalHours fun _ => ih

theorem collectSenderKeys_respects (newMemberId : String) (existingMemberIds rest : List String)
    (senderKeys : List SenderKey) :
    (do
      let senderKeys ← collectSenderKeys conversationId senderKeys rest
      let _ ← await (.emit (welcomes conversationId newMemberId senderKeys))
      let newMemberKey ← generateSenderKey rotationIntervalHours newMemberId conversationId
      distributeSenderKey newMemberKey existingMemberIds : GroupProgram Unit).Respects
        (discipline conversationId (.join newMemberId existingMemberIds))
        (ends (.join newMemberId existingMemberIds)) (.reading rest senderKeys) := by
  induction rest generalizing senderKeys with
  | nil =>
    refine ⟨.welcome _ _ _, fun _ _ => ?_⟩
    exact @generate_respects conversationId (.join newMemberId existingMemberIds)
      rotationIntervalHours newMemberId [] (pure ()) fun _ => ⟨rfl, rfl⟩
  | cons memberId rest ih =>
    exact ⟨.read _ _ _ _, fun (found : Option SenderKey) _ => ih (senderKeys ++ found.toList)⟩

theorem groupCall_respects (call : GroupCall) :
    ((host rotationIntervalHours conversationId).body call).Respects
      (discipline conversationId call) (ends call) (firstPhase call) := by
  cases call with
  | join newMemberId existingMemberIds =>
    exact collectSenderKeys_respects rotationIntervalHours newMemberId existingMemberIds _ []
  | leave leavingMemberId remainingMemberIds =>
    refine ⟨.delete _ _, fun _ _ => ?_⟩
    exact rotateSenderKeys_respects rotationIntervalHours leavingMemberId remainingMemberIds _

end Respects

end Caas.E2e.GroupEncryption
