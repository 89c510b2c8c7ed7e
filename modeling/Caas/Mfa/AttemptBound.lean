import Caas.Mfa.ChallengeVersions

/-!
# The bound on attempts at a challenge

Each attempt is written into the challenge before its response is verified, and a switch of
methods counts the attempts anew. As long as no attempt is written over one that it has not
read, every attempt that the verifier is asked about is paid for by the count that is stored.
-/

namespace Caas.Mfa.AttemptBound

open Async Redis ExpiringMap

/-- How often the verifier has been asked, and how often a switch of methods has been written. -/
structure Tally where
  verifications : Nat
  resets : Nat
deriving DecidableEq

def tally : ChallengeRecorder Tally where
  started current _ _ := current
  ran current _ call command _ _ :=
    match command, call.input with
    | .verify _ _ _, _ => { current with verifications := current.verifications + 1 }
    | .redis (.setex _ _ _), .switchMethod _ _ => { current with resets := current.resets + 1 }
    | _, _ => current

def machine : Transducer (ChallengePool Tally) ChallengeEvent Unit := challengeMachine tally

def newPool (store : ChallengeStore) : ChallengePool Tally := ⟨⟨store, []⟩, ⟨0, 0⟩⟩

section Conditions

variable (challenge : MFAChallenge)

/-- The condition on a command of an attempt: it is counted before the challenge expires, and
over a count that is lower. -/
def CarefulCommand (store : ChallengeStore) (call : ChallengeCallState) : ChallengeCommand → Prop
  | .now =>
    match call.input, call.phase with
    | .verifyChallenge _ _ _ _, .storing version => store.now < version.expiresAt
    | _, _ => True
  | .redis (.setex _ _ version) =>
    match call.input with
    | .verifyChallenge _ _ _ _ =>
      ∃ stored ∈ store.challenges.lookup store.now challenge.id, stored.attempts < version.attempts
    | .switchMethod _ _ => True
  | _ => True

def Careful (current : ChallengePool Tally) : ChallengeEvent → Prop
  | .start input => input.challengeId = challenge.id
  | .change _ => True
  | .run index _ => ∀ awaiting ∈ current.pool.awaited? index,
    CarefulCommand challenge current.pool.shared awaiting.1 awaiting.2

end Conditions

/-- The call is about to ask the verifier. -/
def isVerifying : Phase → Bool
  | .verifying _ => true
  | _ => false

/-- The attempts so far, those included that are about to be verified. -/
def attempts (current : ChallengePool Tally) : Nat :=
  current.history.verifications + current.pool.calls.countP fun call => isVerifying call.phase

/-- An attempt is counted within the bound. -/
def Counted (challenge : MFAChallenge) : ChallengeCall → Phase → Prop
  | .verifyChallenge _ _ _ _, .storing version | .verifyChallenge _ _ _ _, .writing version =>
    version.attempts ≤ challenge.maxAttempts
  | _, _ => True

/-- The attempts are within the bound, and within what is stored. -/
structure Bounded (challenge : MFAChallenge) (current : ChallengePool Tally) : Prop where
  versions : Versions challenge current.pool
  total : attempts current ≤ challenge.maxAttempts * (1 + current.history.resets)
  stored : ∀ time version,
    current.pool.shared.challenges.lookup time challenge.id = some version →
      attempts current ≤ version.attempts + challenge.maxAttempts * current.history.resets
  counted : ∀ call ∈ current.pool.calls, Counted challenge call.input call.phase

theorem timeToLive_pos {now : Nat} {version : MFAChallenge} (unexpired : now < version.expiresAt) :
    0 < ChallengeStorage.timeToLive now version := by
  unfold ChallengeStorage.timeToLive
  omega

theorem counted_moves {challenge : MFAChallenge} {store : ChallengeStore} {oracle : ChallengeOracle}
    {call : ChallengeCall} {phase after : Phase} {command : ChallengeCommand}
    (moves : Moves store oracle call phase command after)
    (held : ∀ version ∈ phase.version?, IsVersion challenge version)
    (counted : Counted challenge call phase) : Counted challenge call after := by
  cases moves with
  | counts challengeId method response trustDevice version lower =>
    have bound := (held version rfl).maxAttempts
    simp only [Counted]
    omega
  | dates => cases call <;> exact counted
  | misses | fails | succeeds | drops | writes => cases call <;> trivial
  | reads | switches | rejects | closes | accepts | refuses => trivial

section Steps

variable {challenge : MFAChallenge} {current : ChallengePool Tally}
  (bounded : Bounded challenge current)

include bounded

theorem Bounded.start {input : ChallengeCall} (own : input.challengeId = challenge.id) :
    Bounded challenge
      ⟨current.pool.start challengeHost (fun _ => .start) input, current.history⟩ := by
  have same : attempts ⟨current.pool.start challengeHost (fun _ => .start) input, current.history⟩ =
      attempts current := by
    simp [attempts, Pool.start, isVerifying]
  refine ⟨bounded.versions.start own, ?_, ?_, ?_⟩
  · rw [same]
    exact bounded.total
  · rw [same]
    exact bounded.stored
  · intro call member
    rcases Pool.mem_start member with earlier | rfl
    · exact bounded.counted call earlier
    · cases input <;> trivial

omit bounded in
/-- The attempts change with the call that has run. -/
theorem attempts_resume {index : Nat} {call : ChallengeCallState} {command : ChallengeCommand}
    {next : command.Reply → ChallengeProgram ChallengeAnswer}
    {effect : ChallengeStore × command.Reply} (history : Tally)
    (present : current.pool.calls[index]? = some call) :
    attempts ⟨current.pool.resume discipline index call command next effect, history⟩ +
        (if isVerifying call.phase then 1 else 0) + current.history.verifications =
      attempts current + history.verifications +
        (if isVerifying (nextPhase call.input call.phase command effect.2) then 1 else 0) := by
  have counts : (current.pool.resume discipline index call command next effect).calls.countP
        (fun call => isVerifying call.phase) + (if isVerifying call.phase then 1 else 0) =
      current.pool.calls.countP (fun call => isVerifying call.phase) +
        (if isVerifying (nextPhase call.input call.phase command effect.2) then 1 else 0) :=
    Pool.countP_resume present fun call => isVerifying call.phase
  simp only [attempts]
  omega

section After

variable {after : ChallengePool Tally} (versions : Versions challenge after.pool)
  (counted : ∀ call ∈ after.pool.calls, Counted challenge call.input call.phase)

include versions counted

theorem Bounded.same (same : attempts after = attempts current)
    (resets : after.history.resets = current.history.resets) (lookup : ∀ time version,
      after.pool.shared.challenges.lookup time challenge.id = some version →
        current.pool.shared.challenges.lookup time challenge.id = some version) :
    Bounded challenge after := by
  refine ⟨versions, ?_, ?_, counted⟩
  · rw [same, resets]
    exact bounded.total
  · rw [same, resets]
    exact fun time version found => bounded.stored time version (lookup time version found)

theorem Bounded.one (one : attempts after = attempts current + 1)
    (resets : after.history.resets = current.history.resets) {written stored : MFAChallenge}
    (within : written.attempts ≤ challenge.maxAttempts) {now : Nat}
    (found : current.pool.shared.challenges.lookup now challenge.id = some stored)
    (lower : stored.attempts < written.attempts) (only : ∀ time version,
      after.pool.shared.challenges.lookup time challenge.id = some version → version = written) :
    Bounded challenge after := by
  have paid := bounded.stored now stored found
  refine ⟨versions, ?_, ?_, counted⟩
  · rw [one, resets, Nat.mul_add, Nat.mul_one]
    omega
  · intro time version found
    rw [only time version found, one, resets]
    omega

theorem Bounded.reset (same : attempts after = attempts current)
    (resets : after.history.resets = current.history.resets + 1) : Bounded challenge after := by
  have total := bounded.total
  rw [Nat.mul_add, Nat.mul_one] at total
  refine ⟨versions, ?_, ?_, counted⟩
  · rw [same, resets, Nat.mul_add, Nat.mul_one, Nat.mul_add]
    omega
  · intro time version _
    rw [same, resets, Nat.mul_add, Nat.mul_one]
    omega

end After

theorem Bounded.resume {index : Nat} {call : ChallengeCallState} {command : ChallengeCommand}
    {next : command.Reply → ChallengeProgram ChallengeAnswer} (oracle : ChallengeOracle)
    (present : current.pool.calls[index]? = some call)
    (awaits : Awaits call.input call.phase command)
    (careful : CarefulCommand challenge current.pool.shared call command) : Bounded challenge
      ⟨current.pool.resume discipline index call command next
          (current.pool.shared.exec oracle command),
        tally.ran current.history index call command (current.pool.shared.exec oracle command).2
          (next (current.pool.shared.exec oracle command).2)⟩ := by
  have among := List.mem_of_getElem? present
  have versions := @Versions.resume _ _ bounded.versions _ _ _ next oracle present awaits
  have counts := @attempts_resume _ _ _ _ next (current.pool.shared.exec oracle command)
    (tally.ran current.history index call command (current.pool.shared.exec oracle command).2
      (next (current.pool.shared.exec oracle command).2)) present
  have counted : ∀ other ∈ (current.pool.resume discipline index call command next
      (current.pool.shared.exec oracle command)).calls,
        Counted challenge other.input other.phase := by
    intro other member
    rcases List.mem_or_eq_of_mem_set member with earlier | rfl
    · exact bounded.counted other earlier
    · exact counted_moves (moves_exec awaits current.pool.shared oracle)
        (bounded.versions.held call among) (bounded.counted call among)
  have seen : ∀ time version, (current.pool.resume discipline index call command next
      (current.pool.shared.exec oracle command)).shared.challenges.lookup time challenge.id =
        some version →
      current.pool.shared.challenges.lookup time challenge.id = some version ∨
        ∃ ttl, command = .redis (.setex challenge.id ttl version) :=
    fun _ _ found => lookup_exec found
  have held := bounded.versions.held call among
  have mine := bounded.counted call among
  have moves := moves_exec awaits current.pool.shared oracle
  generalize told : tally.ran current.history index call command _ _ = history at counts ⊢
  generalize nextPhase call.input call.phase command _ = after at counts moves
  generalize resumed : current.pool.resume discipline index call command next
    (current.pool.shared.exec oracle command) = pool' at versions counts counted seen ⊢
  obtain ⟨input, phase, program⟩ := call
  subst told
  -- Nothing is written: what is seen was seen before.
  have unwritten (other : ∀ ttl version, command ≠ .redis (.setex challenge.id ttl version))
      (time : Nat) (version : MFAChallenge)
      (found : pool'.shared.challenges.lookup time challenge.id = some version) :
      current.pool.shared.challenges.lookup time challenge.id = some version := by
    rcases seen time version found with before | ⟨ttl, same⟩
    · exact before
    · exact absurd same (other ttl version)
  cases moves with
  | misses | fails | succeeds | reads | switches | rejects | closes | counts | dates =>
    refine bounded.same versions counted ?_ rfl (unwritten nofun)
    simpa [isVerifying, tally] using counts
  | drops _ version late =>
    cases input with
    | verifyChallenge => exact absurd (timeToLive_pos careful) late
    | switchMethod =>
      refine bounded.same versions counted ?_ rfl (unwritten nofun)
      simpa [updated, isVerifying, tally] using counts
  | accepts | refuses =>
    -- The attempt has been counted before; now the verifier is asked.
    refine bounded.same versions counted ?_ rfl (unwritten nofun)
    simp only [isVerifying, tally, if_true, Bool.false_eq_true, if_false] at counts ⊢
    omega
  | writes _ version ttl left =>
    have written : ∀ time read, pool'.shared.challenges.lookup time challenge.id = some read →
        read = version := by
      intro time read found
      rw [← resumed, ← (held version rfl).id] at found
      exact StringCommand.lookup_setex_self (StringCommand.setex_succeeds left) found
    cases input with
    | verifyChallenge challengeId method response trustDevice =>
      obtain ⟨stored, found, lower⟩ := careful
      refine bounded.one versions counted ?_ rfl mine found lower written
      simp only [updated, isVerifying, tally, if_true, Bool.false_eq_true, if_false] at counts ⊢
      omega
    | switchMethod challengeId method =>
      refine bounded.reset versions counted ?_ rfl
      simp only [updated, isVerifying, tally, Bool.false_eq_true, if_false] at counts ⊢
      omega

end Steps

section Runs

theorem bounded_run {challenge : MFAChallenge} {store : ChallengeStore}
    {events : List ChallengeEvent} (stored : Only challenge store)
    (careful : machine.Admits (Careful challenge) (newPool store) events) :
    Bounded challenge (machine.run (newPool store) events) := by
  refine (Pool.Recorded.invariant challengeCall_respects ?_ ?_ ?_ careful
    (fun _ member => nomatch member) ?_).2
  · intro current input bounded own
    exact bounded.start own
  · intro current elapsed bounded _
    exact ⟨⟨bounded.versions.own, bounded.versions.stored, bounded.versions.held⟩, bounded.total,
      bounded.stored, bounded.counted⟩
  · intro current index oracle call command next bounded guarded _ present program awaits
    have careful := guarded _ (Pool.awaited?_of_await present program)
    exact ⟨assumes_exec current.pool.shared oracle call.input command,
      fun _ => bounded.resume oracle present awaits careful⟩
  · refine ⟨⟨fun _ member => (nomatch member), fun time version found => ?_,
      fun _ member => (nomatch member)⟩, ?_, ?_, fun _ member => (nomatch member)⟩
    · rw [stored time version found]
      exact .refl challenge
    · exact Nat.zero_le _
    · exact fun _ _ _ => Nat.zero_le _

/-- In every interleaving of calls on a challenge, whose attempts are written over lower counts
before the challenge expires, the verifier is asked at most `maxAttempts` times for each time
the attempts are counted from zero: once at its creation, and once more for every switch. -/
theorem attempts_are_bounded (settings : ChallengeSettings) (id userId sessionId : String)
    (availableMethods : List MFAMethod) (now : Nat) (store : ChallengeStore)
    (stored : Only (MFAChallengeService.newChallenge settings id userId sessionId availableMethods
      now) store) (events : List ChallengeEvent)
    (careful : machine.Admits (Careful (MFAChallengeService.newChallenge settings id userId
      sessionId availableMethods now)) (newPool store) events) :
    (machine.run (newPool store) events).history.verifications ≤
      settings.maxAttempts * (1 + (machine.run (newPool store) events).history.resets) :=
  Nat.le_trans (Nat.le_add_right _ _) (bounded_run stored careful).total

instance {challenge : MFAChallenge} {store : ChallengeStore} {call : ChallengeCallState}
    (command : ChallengeCommand) : Decidable (CarefulCommand challenge store call command) := by
  unfold CarefulCommand
  split
  · split <;> infer_instance
  · split <;> infer_instance
  · infer_instance

instance {challenge : MFAChallenge} (current : ChallengePool Tally) (event : ChallengeEvent) :
    Decidable (Careful challenge current event) :=
  match event with
  | .start _ => inferInstanceAs (Decidable (_ = _))
  | .change _ => .isTrue trivial
  | .run _ _ => inferInstanceAs (Decidable (∀ awaiting ∈ _, _))

end Runs

section Sample

def sampleSettings : ChallengeSettings := { maxAttempts := 1 }

def sampleChallenge : MFAChallenge :=
  MFAChallengeService.newChallenge sampleSettings "c" "u" "s" [.totp, .backupCode] 0

def sampleStore : ChallengeStore :=
  ⟨0, (store .empty 0 "c" 300 sampleChallenge)⟩

theorem sampleStore_only : Only sampleChallenge sampleStore := by
  intro time version found
  change sampleStore.challenges.lookup time "c" = some version at found
  rw [sampleStore, store, lookup_set_self] at found
  split at found
  · exact (Option.some.inj found).symm
  · cases found

def whole (index : Nat) (call : ChallengeCall) (count : Nat) : List ChallengeEvent :=
  .start call :: List.replicate count (.run index {})

def switchBetween : List ChallengeEvent :=
  whole 0 (.verifyChallenge "c" .totp "000000" false) 5 ++
    whole 1 (.switchMethod "c" .backupCode) 3 ++
    whole 2 (.verifyChallenge "c" .backupCode "000000" false) 5

/-- The bound with a switch of methods. -/
theorem sample_attempts_are_bounded :
    (machine.run (newPool sampleStore) switchBetween).history.verifications ≤
      sampleSettings.maxAttempts *
        (1 + (machine.run (newPool sampleStore) switchBetween).history.resets) :=
  attempts_are_bounded sampleSettings "c" "u" "s" [.totp, .backupCode] 0 sampleStore
    sampleStore_only switchBetween (by decide +kernel)

/-- A switch of methods allows more attempts, even when no calls overlap. -/
theorem switching_allows_more_attempts :
    ¬ ∀ (settings : ChallengeSettings) (id userId sessionId : String)
      (availableMethods : List MFAMethod) (now : Nat) (store : ChallengeStore),
      Only (MFAChallengeService.newChallenge settings id userId sessionId availableMethods now)
          store →
        ∀ events : List ChallengeEvent, (∀ input, .start input ∈ events → input.challengeId = id) →
          (machine.run (newPool store) events).history.verifications ≤ settings.maxAttempts := by
  intro bounded
  have once := bounded sampleSettings "c" "u" "s" [.totp, .backupCode] 0 sampleStore
    sampleStore_only switchBetween (by
      intro input member
      simp only [switchBetween, whole, List.mem_append, List.mem_cons, List.mem_replicate,
        Event.start.injEq, reduceCtorEq, and_false, or_false] at member
      rcases member with (rfl | rfl) | rfl <;> rfl)
  revert once
  decide +kernel

end Sample

end Caas.Mfa.AttemptBound
