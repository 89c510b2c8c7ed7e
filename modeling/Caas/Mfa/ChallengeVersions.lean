import Caas.Async.Fallible
import Caas.Mfa.Challenges

/-!
# The versions of a challenge

Calls on one challenge read, hold and write versions of it, which differ in the method and
in the number of attempts only.
-/

namespace Caas.Mfa

open Async Program Redis StringCommand

structure IsVersion (challenge version : MFAChallenge) : Prop where
  id : version.id = challenge.id
  availableMethods : version.availableMethods = challenge.availableMethods
  expiresAt : version.expiresAt = challenge.expiresAt
  maxAttempts : version.maxAttempts = challenge.maxAttempts

abbrev ChallengePool (History : Type) :=
  Pool.Recorded ChallengeStore ChallengeCommand ChallengeCommand.Reply ChallengeCall Phase
    ChallengeAnswer History

abbrev ChallengeEvent := Event ChallengeOracle Nat ChallengeCall

abbrev ChallengeCallState :=
  Call ChallengeCommand ChallengeCommand.Reply ChallengeCall Phase ChallengeAnswer

abbrev ChallengeRecorder (History : Type) :=
  Pool.Recorder ChallengeCommand ChallengeCommand.Reply ChallengeCall Phase ChallengeAnswer History

def challengeMachine {History : Type} (recorder : ChallengeRecorder History) :
    Transducer (ChallengePool History) ChallengeEvent Unit :=
  Pool.Recorded.machine challengeHost discipline (fun _ => .start) recorder

/-- Nothing but the challenge is stored under its id. -/
def Only (challenge : MFAChallenge) (store : ChallengeStore) : Prop :=
  ∀ time version, store.challenges.lookup time challenge.id = some version → version = challenge

section Execution

variable {store : ChallengeStore} {oracle : ChallengeOracle} {challenge version : MFAChallenge}
  {call : ChallengeCall} {phase : Phase} {command : ChallengeCommand}

theorem IsVersion.refl (challenge : MFAChallenge) : IsVersion challenge challenge :=
  ⟨rfl, rfl, rfl, rfl⟩

theorem assumes_exec (store : ChallengeStore) (oracle : ChallengeOracle) (call : ChallengeCall)
    (command : ChallengeCommand) :
    (discipline call).assumes command (store.exec oracle command).2 := by
  cases command with
  | redis command =>
    cases command with
    | setex key ttl challenge => exact setex_succeeds
    | get | ttl | del => trivial
  | _ => trivial

theorem lookup_exec {time : Nat} {key : String}
    (found : (store.exec oracle command).1.challenges.lookup time key = some version) :
    store.challenges.lookup time key = some version ∨
      ∃ ttl, command = .redis (.setex key ttl version) := by
  cases command with
  | redis command =>
    rcases lookup_exec found with before | ⟨ttl, rfl⟩
    · exact .inl before
    · exact .inr ⟨ttl, rfl⟩
  | verify | now | uuid => exact .inl found

theorem Awaits.writing {key : String} {ttl : Int}
    (awaits : Awaits call phase (.redis (.setex key ttl version))) :
    phase = .writing version ∧ version.id = key ∧ 0 < ttl := by
  cases awaits with
  | write _ _ _ left => exact ⟨rfl, rfl, left⟩

theorem isVersion_moves {after : Phase} (moves : Moves store oracle call phase command after)
    (own : call.challengeId = challenge.id)
    (stored : ∀ time version, store.challenges.lookup time challenge.id = some version →
      IsVersion challenge version)
    (held : ∀ version ∈ phase.version?, IsVersion challenge version) :
    ∀ version ∈ after.version?, IsVersion challenge version := by
  intro version has
  cases moves with
  | misses | rejects | refuses | fails | succeeds => cases has
  | reads challengeId method response trustDevice read found =>
    cases has
    rw [show challengeId = challenge.id from own] at found
    exact stored _ _ found
  | switches challengeId method read found available =>
    cases has
    rw [show challengeId = challenge.id from own] at found
    obtain ⟨id, availableMethods, expiresAt, maxAttempts⟩ := stored _ _ found
    exact ⟨id, availableMethods, expiresAt, maxAttempts⟩
  | counts challengeId method response trustDevice read =>
    cases has
    obtain ⟨id, availableMethods, expiresAt, maxAttempts⟩ := held read rfl
    exact ⟨id, availableMethods, expiresAt, maxAttempts⟩
  | closes | dates | accepts =>
    cases has
    exact held version rfl
  | drops _ read | writes _ read =>
    cases call with
    | verifyChallenge =>
      cases has
      exact held version rfl
    | switchMethod => cases has

end Execution

/-- Every call is on the challenge, and what is stored or held are versions of it. -/
structure Versions (challenge : MFAChallenge)
    (pool : Pool ChallengeStore ChallengeCommand ChallengeCommand.Reply ChallengeCall Phase
      ChallengeAnswer) : Prop where
  own : ∀ call ∈ pool.calls, call.input.challengeId = challenge.id
  stored : ∀ time version, pool.shared.challenges.lookup time challenge.id = some version →
    IsVersion challenge version
  held : ∀ call ∈ pool.calls, ∀ version ∈ call.phase.version?, IsVersion challenge version

namespace Versions

variable {challenge : MFAChallenge}
  {pool : Pool ChallengeStore ChallengeCommand ChallengeCommand.Reply ChallengeCall Phase
    ChallengeAnswer}

theorem start (versions : Versions challenge pool) {input : ChallengeCall}
    (own : input.challengeId = challenge.id) :
    Versions challenge (pool.start challengeHost (fun _ => .start) input) := by
  refine ⟨?_, versions.stored, ?_⟩
  · exact Pool.forall_start own versions.own
  · exact Pool.forall_start (fun _ absent => nomatch absent) versions.held

theorem resume (versions : Versions challenge pool) {index : Nat} {call : ChallengeCallState}
    {command : ChallengeCommand} {next : command.Reply → ChallengeProgram ChallengeAnswer}
    (oracle : ChallengeOracle) (present : pool.calls[index]? = some call)
    (awaits : Awaits call.input call.phase command) : Versions challenge
      (pool.resume discipline index call command next (pool.shared.exec oracle command)) := by
  have among := List.mem_of_getElem? present
  have held := versions.held call among
  refine ⟨?_, ?_, ?_⟩
  · intro other member
    rcases List.mem_or_eq_of_mem_set member with earlier | rfl
    · exact versions.own other earlier
    · exact versions.own call among
  · intro time version found
    rcases lookup_exec found with before | ⟨ttl, rfl⟩
    · exact versions.stored time version before
    · refine held version ?_
      rw [awaits.writing.1]
      rfl
  · intro other member
    rcases List.mem_or_eq_of_mem_set member with earlier | rfl
    · exact versions.held other earlier
    · exact isVersion_moves (moves_exec awaits pool.shared oracle) (versions.own call among)
        versions.stored held

end Versions

end Caas.Mfa
