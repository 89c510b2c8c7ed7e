import Caas.Mfa.ChallengeVersions

/-!
# Who meets a challenge

A verification that is accepted deletes the challenge before it succeeds. A call that has read
the challenge before such a deletion has a version of it that is out of date: as long as no
such version is written back or accepted, one call at most succeeds.
-/

namespace Caas.Mfa.ChallengeSoundness

open Async Redis ExpiringMap

/-- The call has been accepted and is about to delete the challenge. -/
def isAccepted : Phase → Bool
  | .accepted _ => true
  | _ => false

/-- Whether a command takes the version of the challenge that is stored. -/
def renews (_call : ChallengeCall) (_phase : Phase) :
    (command : ChallengeCommand) → command.Reply → Bool
  | .redis (.get _), _ => true
  | _, _ => false

/-- Whether a command deletes the challenge for a call that has been accepted. -/
def outdates (_call : ChallengeCall) (phase : Phase) :
    (command : ChallengeCommand) → command.Reply → Bool
  | .redis (.del _), _ => isAccepted phase
  | _, _ => false

/-- The concurrent calls, with whose versions are out of date. -/
abbrev StalenessPool := ChallengePool (Nat → Bool)

def machine : Transducer StalenessPool ChallengeEvent Unit :=
  challengeMachine (Pool.staleness renews outdates)

def newPool (store : ChallengeStore) : StalenessPool := ⟨⟨store, []⟩, fun _ => false⟩

section Conditions

/-- The condition on a command of the call at `index`. A challenge is written back only as long
as the version is up to date; the verifier accepts only a method that is available, a version
that is up to date, and no call while another one is about to delete the challenge. -/
def CarefulCommand (current : StalenessPool) (index : Nat) (oracle : ChallengeOracle)
    (call : ChallengeCallState) : ChallengeCommand → Prop
  | .redis (.setex _ _ _) => current.history index = false
  | .verify _ method _ => oracle.verdict = .ok true →
    (∀ version ∈ call.phase.version?, method ∈ version.availableMethods) ∧
      current.history index = false ∧
      ∀ other ∈ current.pool.calls, isAccepted other.phase = false
  | _ => True

def Careful (challenge : MFAChallenge) (current : StalenessPool) : ChallengeEvent → Prop
  | .start input => input.challengeId = challenge.id
  | .change _ => True
  | .run index oracle => ∀ awaiting ∈ current.pool.awaited? index,
    CarefulCommand current index oracle awaiting.1 awaiting.2

end Conditions

/-- The verifier has accepted the call. -/
def Solved (phase : Phase) : Prop := isAccepted phase = true ∨ phase = .finished true

theorem not_solved {phase : Phase} (unaccepted : isAccepted phase = false)
    (unfinished : phase ≠ .finished true) : ¬ Solved phase := by
  rintro (accepted | finished)
  · cases unaccepted.symm.trans accepted
  · exact unfinished finished

def method : ChallengeCall → MFAMethod
  | .verifyChallenge _ method _ _ | .switchMethod _ method => method

/-- One call at most has been accepted, with a method that is available; once it has succeeded,
nothing is stored and every version is out of date. -/
structure Sound (challenge : MFAChallenge) (current : StalenessPool) : Prop where
  versions : Versions challenge current.pool
  available : ∀ call ∈ current.pool.calls, Solved call.phase →
    method call.input ∈ challenge.availableMethods
  single : current.pool.Exclusive Solved
  gone : (∃ call ∈ current.pool.calls, call.phase = .finished true) →
    (∀ time, current.pool.shared.challenges.lookup time challenge.id = none) ∧
      ∀ (index : Nat) (call : ChallengeCallState), current.pool.calls[index]? = some call →
        call.phase.version? ≠ none → current.history index = true

theorem deletes_of_moves {store : ChallengeStore} {oracle : ChallengeOracle} {call : ChallengeCall}
    {phase after : Phase} {command : ChallengeCommand}
    (moves : Moves store oracle call phase command after) (finished : after = .finished true) :
    command = .redis (.del call.challengeId) ∧ isAccepted phase = true := by
  cases moves with
  | succeeds => exact ⟨rfl, rfl⟩
  | drops | writes => cases call <;> cases finished
  | _ => cases finished

section Steps

variable {challenge : MFAChallenge} {current : StalenessPool} (sound : Sound challenge current)

include sound

theorem Sound.start {input : ChallengeCall} (own : input.challengeId = challenge.id) :
    Sound challenge
      ⟨current.pool.start challengeHost (fun _ => .start) input, current.history⟩ := by
  have idle : ¬ Solved .start := not_solved rfl nofun
  refine ⟨sound.versions.start own, ?_, sound.single.start idle, ?_⟩
  · intro call member solved
    rcases Pool.mem_start member with earlier | rfl
    · exact sound.available call earlier solved
    · exact absurd solved idle
  · rintro ⟨call, member, finished⟩
    rcases Pool.mem_start member with earlier | rfl
    · obtain ⟨none, stale⟩ := sound.gone ⟨call, earlier, finished⟩
      refine ⟨none, fun index other present has => ?_⟩
      rcases Pool.getElem?_start present with before | rfl
      · exact stale index other before has
      · exact absurd rfl has
    · cases finished

variable {index : Nat} {call : ChallengeCallState} {command : ChallengeCommand}

theorem Sound.accepts {oracle : ChallengeOracle} {after : Phase}
    (present : current.pool.calls[index]? = some call)
    (moves : Moves current.pool.shared oracle call.input call.phase command after)
    (careful : CarefulCommand current index oracle call command) (solved : Solved after) :
    Solved call.phase ∨ method call.input ∈ challenge.availableMethods ∧
      ∀ other ∈ current.pool.calls, ¬ Solved other.phase := by
  have held := sound.versions.held call (List.mem_of_getElem? present)
  obtain ⟨input, phase, program⟩ := call
  cases moves with
  | succeeds => exact .inl (.inl rfl)
  | accepts challengeId method response trustDevice version accepted =>
    obtain ⟨available, fresh, none⟩ := careful accepted
    have available := available version rfl
    rw [(held version rfl).availableMethods] at available
    refine .inr ⟨available, fun other member solved => ?_⟩
    rcases solved with accepted | finished
    · cases accepted.symm.trans (none other member)
    · obtain ⟨_, stale⟩ := sound.gone ⟨other, member, finished⟩
      cases fresh.symm.trans (stale index _ present nofun)
  | drops _ version | writes _ version => cases input <;> exact absurd solved (not_solved rfl nofun)
  | _ => exact absurd solved (not_solved rfl nofun)

theorem Sound.closed {oracle : ChallengeOracle} {after : Phase}
    (present : current.pool.calls[index]? = some call)
    (moves : Moves current.pool.shared oracle call.input call.phase command after)
    (careful : CarefulCommand current index oracle call command)
    (succeeded : ∃ call ∈ current.pool.calls, call.phase = .finished true) (reply : command.Reply) :
    (∀ ttl version, command ≠ .redis (.setex challenge.id ttl version)) ∧
      (after.version? ≠ none → call.phase.version? ≠ none ∧
        renews call.input call.phase command reply = false) := by
  obtain ⟨none, stale⟩ := sound.gone succeeded
  have stale := stale index call present
  have own := sound.versions.own call (List.mem_of_getElem? present)
  obtain ⟨input, phase, program⟩ := call
  cases moves with
  | writes => cases (show current.history index = false from careful).symm.trans (stale nofun)
  | reads challengeId _ _ _ version found | switches challengeId _ version found
  | rejects challengeId _ version found =>
    rw [show challengeId = challenge.id from own, none] at found
    cases found
  | misses | fails | succeeds | refuses => exact ⟨nofun, fun has => absurd rfl has⟩
  | closes | counts | dates | accepts => exact ⟨nofun, fun _ => ⟨nofun, rfl⟩⟩
  | drops => exact ⟨nofun, fun _ => ⟨nofun, rfl⟩⟩

theorem Sound.resume {next : command.Reply → ChallengeProgram ChallengeAnswer}
    (oracle : ChallengeOracle) (present : current.pool.calls[index]? = some call)
    (awaits : Awaits call.input call.phase command)
    (careful : CarefulCommand current index oracle call command) : Sound challenge
      ⟨current.pool.resume discipline index call command next
          (current.pool.shared.exec oracle command),
        Pool.staleAfter renews outdates current.history index call command
          (current.pool.shared.exec oracle command).2⟩ := by
  have among := List.mem_of_getElem? present
  have versions := @Versions.resume _ _ sound.versions _ _ _ next oracle present awaits
  have moves := moves_exec awaits current.pool.shared oracle
  have solves := sound.accepts present moves careful
  refine ⟨versions, ?_, ?_, ?_⟩
  · intro other member solved
    rcases List.mem_or_eq_of_mem_set member with earlier | rfl
    · exact sound.available other earlier solved
    · rcases solves solved with before | ⟨available, _⟩
      · exact sound.available call among before
      · exact available
  · exact sound.single.resume present fun solved => (solves solved).imp_right And.right
  · rintro ⟨succeeded, member, finished⟩
    rcases List.mem_or_eq_of_mem_set member with earlier | rfl
    · obtain ⟨none, stale⟩ := sound.gone ⟨succeeded, earlier, finished⟩
      obtain ⟨unwritten, unread⟩ := sound.closed present moves careful
        ⟨succeeded, earlier, finished⟩ (current.pool.shared.exec oracle command).2
      constructor
      · intro time
        refine Option.eq_none_iff_forall_not_mem.mpr fun version found => ?_
        rcases lookup_exec found with before | ⟨ttl, same⟩
        · cases (none time).symm.trans before
        · exact unwritten ttl version same
      · intro other holder found has
        rw [Pool.getElem?_resume present] at found
        split at found
        · rename_i same
          cases found
          obtain ⟨had, unrenewed⟩ := unread has
          exact Pool.staleAfter_stays (same ▸ stale index call present had) (.inr unrenewed)
        · rename_i different
          exact Pool.staleAfter_stays (stale other holder found has) (.inl (Ne.symm different))
    · -- The call deletes the challenge, and succeeds.
      obtain ⟨rfl, accepted⟩ := deletes_of_moves moves finished
      constructor
      · intro time
        refine lookup_delete.trans (if_pos ?_)
        exact sound.versions.own call among
      · intro other holder _ _
        exact Pool.staleAfter_of_outdates accepted

end Steps

section Runs

variable {challenge : MFAChallenge} {store : ChallengeStore} {events : List ChallengeEvent}

/-- The verification at `index` has succeeded with the method. -/
def Succeeded (current : StalenessPool) (index : Nat) (method : MFAMethod) : Prop :=
  ∃ result, current.pool.outcome? index = some (.ok (.verified result)) ∧ result.success = true ∧
    result.methodUsed = method

/-- Only methods that are available succeed, and only once. -/
structure Secure (challenge : MFAChallenge) (current : StalenessPool) : Prop where
  available : ∀ index method, Succeeded current index method → method ∈ challenge.availableMethods
  once : ∀ index other method method', Succeeded current index method →
    Succeeded current other method' → index = other

theorem sound_run (stored : Only challenge store)
    (careful : machine.Admits (Careful challenge) (newPool store) events) :
    (machine.run (newPool store) events).pool.Respectful discipline ends ∧
      Sound challenge (machine.run (newPool store) events) := by
  refine Pool.Recorded.invariant challengeCall_respects ?_ ?_ ?_ careful
    (fun _ member => nomatch member) ?_
  · intro current input sound own
    exact sound.start own
  · intro current elapsed sound _
    exact ⟨⟨sound.versions.own, sound.versions.stored, sound.versions.held⟩, sound.available,
      sound.single, sound.gone⟩
  · intro current index oracle call command next sound guarded _ present program awaits
    have careful := guarded _ (Pool.awaited?_of_await present program)
    exact ⟨assumes_exec current.pool.shared oracle call.input command,
      fun _ => sound.resume oracle present awaits careful⟩
  · refine ⟨⟨fun _ member => (nomatch member), fun time version found => ?_,
      fun _ member => (nomatch member)⟩, fun _ member => (nomatch member),
      fun _ _ _ _ absent => (nomatch absent), ?_⟩
    · rw [stored time version found]
      exact .refl challenge
    · rintro ⟨_, member, _⟩
      cases member

theorem solved_of_succeeded {current : StalenessPool}
    (respectful : current.pool.Respectful discipline ends) {index : Nat} {used : MFAMethod}
    (succeeded : Succeeded current index used) :
    ∃ call, current.pool.calls[index]? = some call ∧ Solved call.phase ∧
      method call.input = used := by
  obtain ⟨result, outcome, success, rfl⟩ := succeeded
  obtain ⟨call, present, ended⟩ := Option.bind_eq_some_iff.mp outcome
  obtain ⟨finished, response, trustDevice, input⟩ := respectful.ends_of_outcome present ended
  rw [success] at finished
  refine ⟨call, present, .inr finished, ?_⟩
  rw [input]
  rfl

/-- In every interleaving of calls on a challenge, in which only versions that are up to date are
written back or accepted, and with methods that are available: a verification succeeds with a
method that is available, and one at most does. -/
theorem challenge_is_secure (challenge : MFAChallenge) (store : ChallengeStore)
    (stored : Only challenge store) (events : List ChallengeEvent)
    (careful : machine.Admits (Careful challenge) (newPool store) events) (count : Nat) :
    Secure challenge (machine.run (newPool store) (events.take count)) := by
  rw [← List.take_append_drop count events] at careful
  obtain ⟨respectful, sound⟩ := sound_run stored (Transducer.admits_append.mp careful).1
  constructor
  · intro index used succeeded
    obtain ⟨call, present, solved, rfl⟩ := solved_of_succeeded respectful succeeded
    exact sound.available call (List.mem_of_getElem? present) solved
  · intro index other used used' succeeded succeeded'
    obtain ⟨call, present, solved, _⟩ := solved_of_succeeded respectful succeeded
    obtain ⟨call', present', solved', _⟩ := solved_of_succeeded respectful succeeded'
    exact sound.single index other call call' present present' solved solved'

instance {current : StalenessPool} {index : Nat} {oracle : ChallengeOracle}
    {call : ChallengeCallState} (command : ChallengeCommand) :
    Decidable (CarefulCommand current index oracle call command) :=
  match command with
  | .redis (.setex _ _ _) => inferInstanceAs (Decidable (_ = _))
  | .verify _ _ _ =>
    inferInstanceAs (Decidable (_ → (∀ version ∈ _, _) ∧ _ = _ ∧ ∀ other ∈ _, _))
  | .redis (.get _) | .redis (.ttl _) | .redis (.del _) | .now | .uuid => .isTrue trivial

instance (current : StalenessPool) (event : ChallengeEvent) :
    Decidable (Careful challenge current event) :=
  match event with
  | .start _ => inferInstanceAs (Decidable (_ = _))
  | .change _ => .isTrue trivial
  | .run _ _ => inferInstanceAs (Decidable (∀ awaiting ∈ _, _))

end Runs

section Sample

def sampleChallenge : MFAChallenge :=
  MFAChallengeService.newChallenge {} "c" "u" "s" [.totp] 0

def sampleStore : ChallengeStore := ⟨0, store .empty 0 "c" 300 sampleChallenge⟩

theorem sampleStore_only : Only sampleChallenge sampleStore := by
  intro time version found
  change sampleStore.challenges.lookup time "c" = some version at found
  rw [sampleStore, store, lookup_set_self] at found
  split at found
  · exact (Option.some.inj found).symm
  · cases found

def runs (index count : Nat) (isValid : Bool) : List ChallengeEvent :=
  List.replicate count (.run index { verdict := .ok isValid })

def startBoth (method : MFAMethod) : List ChallengeEvent :=
  [.start (.verifyChallenge "c" .totp "123456" false),
    .start (.verifyChallenge "c" method "123456" false)]

def oneFails : List ChallengeEvent :=
  startBoth .totp ++ runs 0 4 true ++ runs 1 5 false ++ runs 0 2 true

theorem sample_is_secure :
    Secure sampleChallenge (machine.run (newPool sampleStore) (oneFails.take 13)) :=
  challenge_is_secure sampleChallenge sampleStore sampleStore_only oneFails (by decide +kernel) 13

def otherMethod : List ChallengeEvent := startBoth .backupCode ++ runs 1 6 true

def bothAccepted : List ChallengeEvent :=
  startBoth .totp ++ runs 0 5 true ++ runs 1 6 true ++ runs 0 1 true

/-- A backup code is accepted, though it is not available; and two calls that overlap both
succeed. -/
theorem unavailable_and_repeated_success :
    ¬ (∀ (challenge : MFAChallenge) (store : ChallengeStore) (events : List ChallengeEvent),
      Only challenge store → (∀ input, .start input ∈ events → input.challengeId = challenge.id) →
        ∀ index method, Succeeded (machine.run (newPool store) events) index method →
          method ∈ challenge.availableMethods) ∧
    ¬ ∀ (challenge : MFAChallenge) (store : ChallengeStore) (events : List ChallengeEvent),
      Only challenge store → (∀ input, .start input ∈ events → input.challengeId = challenge.id) →
        ∀ index other method method', Succeeded (machine.run (newPool store) events) index method →
          Succeeded (machine.run (newPool store) events) other method' → index = other := by
  constructor
  · intro available
    have own : ∀ input, .start input ∈ otherMethod → input.challengeId = "c" := by
      intro input member
      simp only [otherMethod, startBoth, runs, List.mem_append, List.mem_cons, List.mem_replicate,
        Event.start.injEq, reduceCtorEq, and_false, or_false, List.not_mem_nil] at member
      rcases member with rfl | rfl <;> rfl
    have among := available sampleChallenge sampleStore otherMethod sampleStore_only own 1
      .backupCode ⟨⟨true, "c", .backupCode, some false, none⟩, by decide +kernel, rfl, rfl⟩
    revert among
    decide
  · intro once
    have own : ∀ input, .start input ∈ bothAccepted → input.challengeId = "c" := by
      intro input member
      simp only [bothAccepted, startBoth, runs, List.mem_append, List.mem_cons,
        List.mem_replicate, Event.start.injEq, reduceCtorEq, and_false, or_false,
        List.not_mem_nil] at member
      rcases member with rfl | rfl <;> rfl
    have same := once sampleChallenge sampleStore bothAccepted sampleStore_only own 0 1 .totp .totp
      ⟨⟨true, "c", .totp, some false, none⟩, by decide +kernel, rfl, rfl⟩
      ⟨⟨true, "c", .totp, some false, none⟩, by decide +kernel, rfl, rfl⟩
    cases same

end Sample

end Caas.Mfa.ChallengeSoundness
