import Caas.Async.Histories
import Caas.Redis.ExpiringMap

/-!
# MFA challenges

The service keeps a challenge in Redis, each version of it under the same key with the time
to live that is left of it. The verifier of responses is asked through a command; it may
accept, refuse or throw.

Readings of the clock and random draws are commands of their own, and a serialised challenge
is the challenge.
-/

namespace Caas.Mfa

open Async Redis

inductive MFAMethod where
  | totp
  | backupCode
  | email
  | sms
deriving DecidableEq

structure MFAChallenge where
  id : String
  userId : String
  sessionId : String
  method : Option MFAMethod
  availableMethods : List MFAMethod
  expiresAt : Int
  attempts : Nat
  maxAttempts : Nat
  createdAt : Int
deriving DecidableEq

structure MFAChallengeResult where
  success : Bool
  challengeId : String
  methodUsed : MFAMethod
  trustDevice : Option Bool := none
  error : Option String := none
deriving DecidableEq

/-- What the service is built with: the bound on attempts, and the time to live in seconds. -/
structure ChallengeSettings where
  maxAttempts : Nat := 5
  challengeTTL : Int := 300

inductive ChallengeCommand where
  | redis (command : StringCommand String MFAChallenge)
  | verify (userId : String) (method : MFAMethod) (response : String)
  | now
  | uuid

namespace ChallengeCommand

/-- The reply of a command; a rejected promise is an error. -/
def Reply : ChallengeCommand → Type
  | .redis command => command.Reply
  | .verify _ _ _ => Except String Bool
  | .now => Nat
  | .uuid => String

end ChallengeCommand

abbrev ChallengeProgram := Program ChallengeCommand ChallengeCommand.Reply

/-- `await` on a command. -/
def ChallengeCommand.await (command : ChallengeCommand) : ChallengeProgram command.Reply :=
  Program.command command

namespace ChallengeStorage

/-- The time to live that is left, rounded up to seconds. -/
def timeToLive (now : Nat) (challenge : MFAChallenge) : Int := -((now - challenge.expiresAt) / 1000)

def storeChallenge (challenge : MFAChallenge) : ChallengeProgram Unit := do
  let now : Nat ← ChallengeCommand.await .now
  let ttl := timeToLive now challenge
  if 0 < ttl then
    Program.orThrow (← ChallengeCommand.await (.redis (.setex challenge.id ttl challenge)))

def getChallenge (challengeId : String) : ChallengeProgram (Option MFAChallenge) :=
  ChallengeCommand.await (.redis (.get challengeId))

def updateChallenge (challenge : MFAChallenge) : ChallengeProgram Unit := storeChallenge challenge

def deleteChallenge (challengeId : String) : ChallengeProgram Unit := do
  let _ ← ChallengeCommand.await (.redis (.del challengeId))

end ChallengeStorage

namespace MFAChallengeService

open ChallengeStorage

def newChallenge (settings : ChallengeSettings) (id userId sessionId : String)
    (availableMethods : List MFAMethod) (now : Nat) : MFAChallenge where
  id
  userId
  sessionId
  method := availableMethods.head?
  availableMethods
  expiresAt := now + settings.challengeTTL * 1000
  attempts := 0
  maxAttempts := settings.maxAttempts
  createdAt := now

def createChallenge (settings : ChallengeSettings) (userId sessionId : String)
    (availableMethods : List MFAMethod) : ChallengeProgram MFAChallenge := do
  let challengeId : String ← ChallengeCommand.await .uuid
  let now : Nat ← ChallengeCommand.await .now
  let challenge := newChallenge settings challengeId userId sessionId availableMethods now
  storeChallenge challenge
  return challenge

/-- A challenge that is not met, and why. -/
def unmet (challengeId : String) (method : MFAMethod) (error : String) : MFAChallengeResult where
  success := false
  challengeId
  methodUsed := method
  error := some error

/-- The attempt on a challenge that is open: it is counted before the response is verified. -/
def attempt (challenge : MFAChallenge) (challengeId : String) (method : MFAMethod)
    (response : String) (trustDevice : Bool) : ChallengeProgram MFAChallengeResult := do
  updateChallenge { challenge with attempts := challenge.attempts + 1 }
  let isValid : Bool ← Program.orThrow
    (← ChallengeCommand.await (.verify challenge.userId method response))
  if isValid then
    deleteChallenge challengeId
    return { success := true, challengeId, methodUsed := method, trustDevice := some trustDevice }
  else return unmet challengeId method "Invalid verification code"

def verifyChallenge (challengeId : String) (method : MFAMethod) (response : String)
    (trustDevice : Bool) : ChallengeProgram MFAChallengeResult := do
  match ← getChallenge challengeId with
  | none => return unmet challengeId method "Challenge not found or expired"
  | some challenge =>
    let now : Nat ← ChallengeCommand.await .now
    if challenge.expiresAt ≤ now then
      deleteChallenge challengeId
      return unmet challengeId method "Challenge expired"
    else if challenge.maxAttempts ≤ challenge.attempts then
      deleteChallenge challengeId
      return unmet challengeId method "Maximum attempts exceeded"
    else attempt challenge challengeId method response trustDevice

/-- A challenge after a switch of methods, which counts the attempts anew. -/
def switched (challenge : MFAChallenge) (method : MFAMethod) : MFAChallenge :=
  { challenge with method := some method, attempts := 0 }

def switchMethod (challengeId : String) (method : MFAMethod) : ChallengeProgram MFAChallenge := do
  match ← getChallenge challengeId with
  | none => Program.failure "Challenge not found"
  | some challenge =>
    if method ∈ challenge.availableMethods then
      updateChallenge (switched challenge method)
      return switched challenge method
    else Program.failure "Method not available"

end MFAChallengeService

inductive ChallengeCall where
  | verifyChallenge (challengeId : String) (method : MFAMethod) (response : String)
      (trustDevice : Bool)
  | switchMethod (challengeId : String) (method : MFAMethod)
deriving DecidableEq

def ChallengeCall.challengeId : ChallengeCall → String
  | .verifyChallenge challengeId _ _ _ | .switchMethod challengeId _ => challengeId

inductive ChallengeAnswer where
  | verified (result : MFAChallengeResult)
  | switched (challenge : MFAChallenge)
deriving DecidableEq

def challengeCall : ChallengeCall → ChallengeProgram ChallengeAnswer
  | .verifyChallenge challengeId method response trustDevice => do
    return .verified
      (← MFAChallengeService.verifyChallenge challengeId method response trustDevice)
  | .switchMethod challengeId method => do
    return .switched (← MFAChallengeService.switchMethod challengeId method)

/-- The Redis keys of challenges, and the clock. -/
structure ChallengeStore where
  now : Nat
  challenges : ExpiringMap String MFAChallenge

/-- What the verifier answers, and what is drawn at random. -/
structure ChallengeOracle where
  verdict : Except String Bool := .ok false
  uuid : String := ""

def ChallengeStore.exec (store : ChallengeStore) (oracle : ChallengeOracle) :
    (command : ChallengeCommand) → ChallengeStore × command.Reply
  | .redis command =>
    let (challenges, reply) := command.exec store.challenges store.now
    ({ store with challenges }, reply)
  | .verify _ _ _ => (store, oracle.verdict)
  | .now => (store, store.now)
  | .uuid => (store, oracle.uuid)

/-- Execute a command some milliseconds after the one before. -/
def ChallengeStore.execLater (store : ChallengeStore) (command : ChallengeCommand)
    (circumstance : Nat × ChallengeOracle) : ChallengeStore × command.Reply :=
  { store with now := store.now + circumstance.1 }.exec circumstance.2 command

/-- Concurrent calls of the service; outside of them only time passes, by a number of
milliseconds. -/
def challengeHost : Host ChallengeStore ChallengeCommand ChallengeCommand.Reply ChallengeOracle Nat
    ChallengeCall ChallengeAnswer where
  exec store command oracle := store.exec oracle command
  change store elapsed := { store with now := store.now + elapsed }
  body := challengeCall

section Phases

/-- Where a call stands: what it has read of the challenge, or what it writes of it. -/
inductive Phase where
  | start
  | checking (challenge : MFAChallenge)
  | condemned (challenge : MFAChallenge)
  | storing (challenge : MFAChallenge)
  | writing (challenge : MFAChallenge)
  | verifying (challenge : MFAChallenge)
  | accepted (challenge : MFAChallenge)
  | finished (succeeded : Bool)
deriving DecidableEq

def Phase.version? : Phase → Option MFAChallenge
  | .checking challenge | .condemned challenge | .storing challenge | .writing challenge
  | .verifying challenge | .accepted challenge => some challenge
  | .start | .finished _ => none

def updated (challenge : MFAChallenge) : ChallengeCall → Phase
  | .verifyChallenge _ _ _ _ => .verifying challenge
  | .switchMethod _ _ => .finished false

def nextPhase : ChallengeCall → Phase → (command : ChallengeCommand) → command.Reply → Phase
  | call, .start, .redis (.get _), (found : Option MFAChallenge) =>
    match found, call with
    | none, _ => .finished false
    | some challenge, .verifyChallenge _ _ _ _ => .checking challenge
    | some challenge, .switchMethod _ method =>
      if method ∈ challenge.availableMethods then
        .storing (MFAChallengeService.switched challenge method)
      else .finished false
  | _, .checking challenge, .now, (now : Nat) =>
    if challenge.expiresAt ≤ now then .condemned challenge
    else if challenge.maxAttempts ≤ challenge.attempts then .condemned challenge
    else .storing { challenge with attempts := challenge.attempts + 1 }
  | call, .storing challenge, .now, (now : Nat) =>
    if 0 < ChallengeStorage.timeToLive now challenge then .writing challenge
    else updated challenge call
  | call, .writing challenge, .redis _, _ => updated challenge call
  | _, .verifying challenge, .verify _ _ _, (verdict : Except String Bool) =>
    match verdict with
    | .ok true => .accepted challenge
    | _ => .finished false
  | _, .condemned _, .redis _, _ => .finished false
  | _, .accepted _, .redis _, _ => .finished true
  | _, phase, _, _ => phase

inductive Awaits : ChallengeCall → Phase → ChallengeCommand → Prop where
  | find (call : ChallengeCall) : Awaits call .start (.redis (.get call.challengeId))
  | check (challengeId : String) (method : MFAMethod) (response : String) (trustDevice : Bool)
      (challenge : MFAChallenge) :
      Awaits (.verifyChallenge challengeId method response trustDevice) (.checking challenge) .now
  | condemn (call : ChallengeCall) (challenge : MFAChallenge) :
      Awaits call (.condemned challenge) (.redis (.del call.challengeId))
  | date (call : ChallengeCall) (challenge : MFAChallenge) : Awaits call (.storing challenge) .now
  | write (call : ChallengeCall) (challenge : MFAChallenge) (ttl : Int) (left : 0 < ttl) :
      Awaits call (.writing challenge) (.redis (.setex challenge.id ttl challenge))
  | verify (challengeId : String) (method : MFAMethod) (response : String) (trustDevice : Bool)
      (challenge : MFAChallenge) :
      Awaits (.verifyChallenge challengeId method response trustDevice) (.verifying challenge)
        (.verify challenge.userId method response)
  | delete (call : ChallengeCall) (challenge : MFAChallenge) :
      Awaits call (.accepted challenge) (.redis (.del call.challengeId))

/-- The calls await what their phases say; Redis takes what has time to live. -/
def discipline (call : ChallengeCall) :
    Discipline ChallengeCommand ChallengeCommand.Reply Phase where
  next := nextPhase call
  may := Awaits call
  assumes
    | .redis (.setex _ ttl _), (written : Except String Unit) => 0 < ttl → written = .ok ()
    | _, _ => True

/-- A call succeeds when its phase says so, with its own method. -/
def ends (call : ChallengeCall) (phase : Phase) :
    Program.Outcome ChallengeAnswer → Prop
  | .ok (.verified result) => phase = .finished result.success ∧
    ∃ response trustDevice, call =
      .verifyChallenge result.challengeId result.methodUsed response trustDevice
  | .ok (.switched _) | .error _ => phase = .finished false

inductive Moves (store : ChallengeStore) (oracle : ChallengeOracle) :
    ChallengeCall → Phase → ChallengeCommand → Phase → Prop where
  | misses (call : ChallengeCall)
      (absent : store.challenges.lookup store.now call.challengeId = none) :
      Moves store oracle call .start (.redis (.get call.challengeId)) (.finished false)
  | reads (challengeId : String) (method : MFAMethod) (response : String) (trustDevice : Bool)
      (version : MFAChallenge)
      (found : store.challenges.lookup store.now challengeId = some version) :
      Moves store oracle (.verifyChallenge challengeId method response trustDevice) .start
        (.redis (.get challengeId)) (.checking version)
  | switches (challengeId : String) (method : MFAMethod) (version : MFAChallenge)
      (found : store.challenges.lookup store.now challengeId = some version)
      (available : method ∈ version.availableMethods) :
      Moves store oracle (.switchMethod challengeId method) .start (.redis (.get challengeId))
        (.storing (MFAChallengeService.switched version method))
  | rejects (challengeId : String) (method : MFAMethod) (version : MFAChallenge)
      (found : store.challenges.lookup store.now challengeId = some version)
      (unavailable : method ∉ version.availableMethods) :
      Moves store oracle (.switchMethod challengeId method) .start (.redis (.get challengeId))
        (.finished false)
  | closes (challengeId : String) (method : MFAMethod) (response : String) (trustDevice : Bool)
      (version : MFAChallenge)
      (closed : version.expiresAt ≤ store.now ∨ version.maxAttempts ≤ version.attempts) :
      Moves store oracle (.verifyChallenge challengeId method response trustDevice)
        (.checking version) .now (.condemned version)
  | counts (challengeId : String) (method : MFAMethod) (response : String) (trustDevice : Bool)
      (version : MFAChallenge) (lower : version.attempts < version.maxAttempts) :
      Moves store oracle (.verifyChallenge challengeId method response trustDevice)
        (.checking version) .now (.storing { version with attempts := version.attempts + 1 })
  | dates (call : ChallengeCall) (version : MFAChallenge)
      (left : 0 < ChallengeStorage.timeToLive store.now version) :
      Moves store oracle call (.storing version) .now (.writing version)
  | drops (call : ChallengeCall) (version : MFAChallenge)
      (late : ¬ 0 < ChallengeStorage.timeToLive store.now version) :
      Moves store oracle call (.storing version) .now (updated version call)
  | writes (call : ChallengeCall) (version : MFAChallenge) (ttl : Int) (left : 0 < ttl) :
      Moves store oracle call (.writing version) (.redis (.setex version.id ttl version))
        (updated version call)
  | accepts (challengeId : String) (method : MFAMethod) (response : String) (trustDevice : Bool)
      (version : MFAChallenge) (accepted : oracle.verdict = .ok true) :
      Moves store oracle (.verifyChallenge challengeId method response trustDevice)
        (.verifying version) (.verify version.userId method response) (.accepted version)
  | refuses (challengeId : String) (method : MFAMethod) (response : String) (trustDevice : Bool)
      (version : MFAChallenge) (refused : oracle.verdict ≠ .ok true) :
      Moves store oracle (.verifyChallenge challengeId method response trustDevice)
        (.verifying version) (.verify version.userId method response) (.finished false)
  | fails (call : ChallengeCall) (version : MFAChallenge) :
      Moves store oracle call (.condemned version) (.redis (.del call.challengeId))
        (.finished false)
  | succeeds (call : ChallengeCall) (version : MFAChallenge) :
      Moves store oracle call (.accepted version) (.redis (.del call.challengeId)) (.finished true)

theorem moves_exec {call : ChallengeCall} {phase : Phase} {command : ChallengeCommand}
    (awaits : Awaits call phase command) (store : ChallengeStore) (oracle : ChallengeOracle) :
    Moves store oracle call phase command
      (nextPhase call phase command (store.exec oracle command).2) := by
  cases awaits with
  | find =>
    have reply : (store.exec oracle (.redis (.get call.challengeId))).2 =
        store.challenges.lookup store.now call.challengeId := rfl
    rw [reply]
    cases found : store.challenges.lookup store.now call.challengeId with
    | none => exact .misses call found
    | some version =>
      cases call with
      | verifyChallenge challengeId method response trustDevice =>
        exact .reads challengeId method response trustDevice version found
      | switchMethod challengeId method =>
        simp only [nextPhase]
        split
        · exact .switches challengeId method version found ‹_›
        · exact .rejects challengeId method version found ‹_›
  | check challengeId method response trustDevice version =>
    simp only [nextPhase]
    split
    · exact .closes challengeId method response trustDevice version (.inl ‹_›)
    · split
      · exact .closes challengeId method response trustDevice version (.inr ‹_›)
      · exact .counts challengeId method response trustDevice version (Nat.lt_of_not_le ‹_›)
  | condemn _ version => exact .fails call version
  | date _ version =>
    simp only [nextPhase]
    split
    · exact .dates call version ‹_›
    · exact .drops call version ‹_›
  | write _ version ttl left => exact .writes call version ttl left
  | verify challengeId method response trustDevice version =>
    have reply : (store.exec oracle (.verify version.userId method response)).2 = oracle.verdict :=
      rfl
    rw [reply]
    rcases verdict : oracle.verdict with error | _ | _
    · exact .refuses challengeId method response trustDevice version (by rw [verdict]; nofun)
    · exact .refuses challengeId method response trustDevice version (by rw [verdict]; nofun)
    · exact .accepts challengeId method response trustDevice version verdict
  | delete _ version => exact .succeeds call version

section Bodies

open MFAChallengeService ChallengeStorage

theorem storeChallenge_respects (call : ChallengeCall) (challenge : MFAChallenge) :
    (storeChallenge challenge).Respects (discipline call)
      (fun after outcome => outcome = .ok () ∧ after = updated challenge call)
      (.storing challenge) := by
  refine Program.respects_command_bind (.date call challenge) ?_
  rintro (now : Nat) _ after moved
  by_cases left : 0 < timeToLive now challenge
  · obtain rfl : Phase.writing challenge = after := (if_pos left).symm.trans moved
    simp only [left, if_true]
    refine Program.respects_command_bind (.write call challenge _ left) ?_
    rintro (written : Except String Unit) succeeds _ rfl
    obtain rfl : written = .ok () := succeeds left
    exact ⟨rfl, rfl⟩
  · simp only [left, if_false]
    exact ⟨rfl, ((if_neg left).symm.trans moved).symm⟩

theorem attempt_respects (challenge : MFAChallenge) (challengeId : String) (method : MFAMethod)
    (response : String) (trustDevice : Bool) :
    (attempt challenge challengeId method response trustDevice).Respects
      (discipline (.verifyChallenge challengeId method response trustDevice))
      (fun after outcome => ends (.verifyChallenge challengeId method response trustDevice) after
        (outcome.map .verified))
      (.storing { challenge with attempts := challenge.attempts + 1 }) := by
  refine Program.respects_bind ((storeChallenge_respects _ _).mono ?_)
  rintro _ _ ⟨rfl, rfl⟩
  refine Program.respects_command_bind
    (.verify challengeId method response trustDevice
      { challenge with attempts := challenge.attempts + 1 }) ?_
  rintro (verdict : Except String Bool) _ after moved
  cases verdict with
  | error error => exact moved.symm
  | ok isValid =>
    cases isValid with
    | false => exact ⟨moved.symm, response, trustDevice, rfl⟩
    | true =>
      obtain rfl : Phase.accepted _ = after := moved
      refine Program.respects_bind (Program.respects_command_bind (.delete _ _) ?_)
      rintro _ _ _ rfl
      exact ⟨rfl, response, trustDevice, rfl⟩

theorem challengeCall_respects (call : ChallengeCall) :
    (challengeCall call).Respects (discipline call) (ends call) .start := by
  cases call with
  | switchMethod challengeId method =>
    refine Program.respects_bind (Program.respects_command_bind (.find _) ?_)
    rintro (found : Option MFAChallenge) _ after moved
    cases found with
    | none => exact moved.symm
    | some challenge =>
      by_cases available : method ∈ challenge.availableMethods
      · obtain rfl : Phase.storing (switched challenge method) = after :=
          (if_pos available).symm.trans moved
        simp only [available, if_true]
        refine Program.respects_bind ((storeChallenge_respects _ _).mono ?_)
        rintro _ _ ⟨rfl, rfl⟩
        exact rfl
      · simp only [available, if_false]
        exact ((if_neg available).symm.trans moved).symm
  | verifyChallenge challengeId method response trustDevice =>
    refine Program.respects_bind (Program.respects_command_bind (.find _) ?_)
    rintro (found : Option MFAChallenge) _ after moved
    cases found with
    | none => exact ⟨moved.symm, response, trustDevice, rfl⟩
    | some challenge =>
      obtain rfl : Phase.checking challenge = after := moved
      refine Program.respects_command_bind (.check _ _ _ _ _) ?_
      rintro (now : Nat) _ after moved
      by_cases expired : challenge.expiresAt ≤ now
      · obtain rfl : Phase.condemned challenge = after := (if_pos expired).symm.trans moved
        simp only [expired, if_true]
        refine Program.respects_bind (Program.respects_command_bind (.condemn _ _) ?_)
        rintro _ _ _ rfl
        exact ⟨rfl, response, trustDevice, rfl⟩
      · by_cases exhausted : challenge.maxAttempts ≤ challenge.attempts
        · obtain rfl : Phase.condemned challenge = after :=
            ((if_neg expired).trans (if_pos exhausted)).symm.trans moved
          simp only [expired, exhausted, if_true, if_false]
          refine Program.respects_bind (Program.respects_command_bind (.condemn _ _) ?_)
          rintro _ _ _ rfl
          exact ⟨rfl, response, trustDevice, rfl⟩
        · obtain rfl : Phase.storing
              { challenge with attempts := challenge.attempts + 1 } = after :=
            ((if_neg expired).trans (if_neg exhausted)).symm.trans moved
          simp only [expired, exhausted, if_false]
          refine (attempt_respects challenge challengeId method response trustDevice).mono ?_
          intro after outcome ended
          cases outcome <;> exact ended

end Bodies

end Phases

end Caas.Mfa
