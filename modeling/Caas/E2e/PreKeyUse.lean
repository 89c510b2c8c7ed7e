import Caas.E2e.KeyExchange

/-!
# One-time pre-keys are used once

No two initiations that are forwarded to a user should name the same one-time pre-key of the
bundle that the user has published. Once an initiation has been given a bundle nothing keeps
it from being forwarded, so it must not be given one when an earlier one names the same key.
-/

namespace Caas.E2e.E2EKeyExchange

open Js Async Program Redis

/-- How far an initiation is: whether it has been given a bundle, and has been forwarded. -/
inductive InitiationPhase where
  | requesting
  | given
  | forwarded
deriving DecidableEq

variable {ν : Type}

def nextPhase : InitiationPhase → (command : KeyExchangeCommand ν) → command.Reply →
    InitiationPhase
  | .requesting, .get _, (some _ : Option (PreKeyBundle ν)) => .given
  | .requesting, .fetchBundle _, .found _ => .given
  | .given, .forward _ _, _ => .forwarded
  | phase, _, _ => phase

inductive Awaits (call : InitiationCall ν) : InitiationPhase → KeyExchangeCommand ν → Prop where
  | count key : Awaits call .requesting (.incr key)
  | renew key seconds : Awaits call .requesting (.expire key seconds)
  | look key : Awaits call .requesting (.get key)
  | fetch targetUserId : Awaits call .requesting (.fetchBundle targetUserId)
  | cache key seconds bundle : Awaits call .given (.setex key seconds bundle)
  | delete bundleId : Awaits call .given (.deletePreKey bundleId)
  | invalidate key : Awaits call .given (.del key)
  | forward : Awaits call .given (.forward call.userId call.data)

def discipline (call : InitiationCall ν) :
    Discipline (KeyExchangeCommand ν) KeyExchangeCommand.Reply InitiationPhase where
  next := nextPhase
  may := Awaits call
  assumes _ _ := True

/-- An initiation never throws, and has been forwarded when it succeeds. -/
def ends (_ : InitiationCall ν) (phase : InitiationPhase) :
    Outcome InitiationResponse → Prop
  | .ok (.success _) => phase = .forwarded
  | .ok (.failure _) => phase = .requesting
  | .error _ => False

abbrev InitiationPool (ν : Type) :=
  Pool (KeyExchangeStore ν) (KeyExchangeCommand ν) KeyExchangeCommand.Reply (InitiationCall ν)
    InitiationPhase InitiationResponse

abbrev InitiationEvent (ν : Type) := Event (BundleReply ν) KeyExchangeChange (InitiationCall ν)

abbrev InitiationCallState (ν : Type) :=
  Call (KeyExchangeCommand ν) KeyExchangeCommand.Reply (InitiationCall ν) InitiationPhase
    InitiationResponse

variable (numbers : Json.Numbers ν) (config : Config)

def machine : Transducer (InitiationPool ν) (InitiationEvent ν) Unit :=
  Pool.machine (host numbers config) discipline fun _ => .requesting

def newPool (store : KeyExchangeStore ν) : InitiationPool ν := ⟨store, []⟩

variable [DecidableEq ν]

/-- The initiation is sent to the user, with the one-time pre-key. -/
def Names (responder : String) (id : ν) (data : X3DHInitiation ν) : Prop :=
  data.responderId = responder ∧ data.oneTimePreKeyId = some id

instance (responder : String) (id : ν) (data : X3DHInitiation ν) :
    Decidable (Names responder id data) :=
  inferInstanceAs (Decidable (_ ∧ _))

/-- How many initiations with the one-time pre-key have been forwarded to the user. -/
def uses (responder : String) (id : ν) (store : KeyExchangeStore ν) : Nat :=
  store.forwarded.countP fun forwarded => Names responder id forwarded.initiation

/-- No two initiations that have been forwarded to the user name the same one-time pre-key of
the bundle. -/
def UsedOnce (responder : String) (bundle : PreKeyBundle ν) (store : KeyExchangeStore ν) : Prop :=
  ∀ key ∈ bundle.oneTimePreKeys, uses responder key.keyId store ≤ 1

/-- The command gives a bundle: the cache has one, or the crypto service answers with one. -/
def Gives (store : KeyExchangeStore ν) (answer : BundleReply ν) : KeyExchangeCommand ν → Prop
  | .get key => store.bundles.lookup store.now key ≠ none
  | .fetchBundle _ => ∃ bundle, answer = .found bundle
  | _ => False

/-- An initiation that names a one-time pre-key of the published bundle is given a bundle only
when none of those that have been given one names the same key. -/
def FreshKeys (responder : String) (published : PreKeyBundle ν) (pool : InitiationPool ν) :
    InitiationEvent ν → Prop
  | .run index answer => ∀ call command, pool.awaited? index = some (call, command) →
    Gives pool.shared answer command →
      ∀ key ∈ published.oneTimePreKeys, Names responder key.keyId call.input.data →
        ∀ other ∈ pool.calls, Names responder key.keyId other.input.data →
          other.phase = .requesting
  | _ => True

section Respects

variable {call : InitiationCall ν}

/-- A bundle is given, or none is. -/
def found (phase : InitiationPhase) : Outcome (Option (PreKeyBundle ν)) → Prop
  | .ok (some _) => phase = .given
  | _ => phase = .requesting

omit [DecidableEq ν]

theorem findBundle_respects (targetUserId : String) :
    (findBundle config targetUserId).Respects (discipline call) found .requesting := by
  refine ⟨.look _, fun (cached : Option (PreKeyBundle ν)) _ => ?_⟩
  cases cached with
  | some bundle => rfl
  | none =>
    refine ⟨.fetch _, fun (response : BundleReply ν) _ => ?_⟩
    cases response with
    | found bundle => exact ⟨.cache _ _ _, fun _ _ => rfl⟩
    | notFound | failed => rfl

theorem requestBundle_respects (requesterId targetUserId : String) :
    (requestBundle config requesterId targetUserId).Respects (discipline call) found
      .requesting := by
  have limited (requests : Nat) :
      (if requests > config.rateLimitPerMinute then
        .failure "Rate limit exceeded for pre-key bundle requests"
      else findBundle config targetUserId :
        KeyExchangeProgram ν (Option (PreKeyBundle ν))).Respects (discipline call) found
          .requesting := by
    split
    · rfl
    · exact findBundle_respects config targetUserId
  refine ⟨.count _, fun (requests : Nat) _ => ?_⟩
  dsimp only [Program.bind]
  split
  · exact ⟨.renew _ _, fun _ _ => limited requests⟩
  · exact limited requests

theorem initiation_respects (call : InitiationCall ν) :
    ((host numbers config).body call).Respects (discipline call) (ends call) .requesting := by
  refine respects_catching (respects_bind ?_)
  refine (requestBundle_respects config _ _).mono fun phase outcome reached => ?_
  cases outcome with
  | error error => exact reached
  | ok bundle =>
    cases bundle with
    | none => exact reached
    | some bundle =>
      cases reached
      cases usedPreKey? numbers call.data with
      | none => exact ⟨.forward, fun _ _ => rfl⟩
      | some id =>
        exact ⟨.delete _, fun _ _ => ⟨.invalidate _, fun _ _ => ⟨.forward, fun _ _ => rfl⟩⟩⟩

end Respects

section Steps

/-- The initiation names the one-time pre-key, and has been given a bundle. -/
def hasPassed (responder : String) (id : ν) (call : InitiationCall ν) : InitiationPhase → Bool
  | .requesting => false
  | _ => Names responder id call.data

/-- The initiation names the one-time pre-key, and has been forwarded. -/
def hasForwarded (responder : String) (id : ν) (call : InitiationCall ν) : InitiationPhase → Bool
  | .forwarded => Names responder id call.data
  | _ => false

/-- At most one initiation with a one-time pre-key of the bundle has been given a bundle, and
those that have been forwarded to the user are those that have come to the end. -/
structure Single (responder : String) (published : PreKeyBundle ν) (pool : InitiationPool ν) :
    Prop where
  given : ∀ key ∈ published.oneTimePreKeys,
    (pool.calls.countP fun call => hasPassed responder key.keyId call.input call.phase) ≤ 1
  forwarded : ∀ id, uses responder id pool.shared =
    pool.calls.countP fun call => hasForwarded responder id call.input call.phase

variable {responder : String} {published : PreKeyBundle ν} {pool pool' : InitiationPool ν}
  {call : InitiationCallState ν} {phase : InitiationPhase}

section

variable (single : Single responder published pool)
include single

theorem Single.usedOnce :
    UsedOnce responder published pool.shared := by
  intro key among
  rw [single.forwarded]
  refine Nat.le_trans (List.countP_mono_left fun call _ forwarded => ?_) (single.given key among)
  cases reached : call.phase with
  | forwarded =>
    rw [reached] at forwarded
    exact forwarded
  | _ =>
    rw [reached] at forwarded
    cases forwarded

theorem Single.stay (goes : pool.Goes call call.phase pool')
    (same : pool'.shared.forwarded = pool.shared.forwarded) : Single responder published pool' := by
  constructor
  · intro key among
    rw [Nat.add_right_cancel (goes.countP (hasPassed responder key.keyId))]
    exact single.given key among
  · intro id
    rw [uses, same, Nat.add_right_cancel (goes.countP (hasForwarded responder id))]
    exact single.forwarded id

theorem Single.give (goes : pool.Goes call .given pool') (requesting : call.phase = .requesting)
    (same : pool'.shared.forwarded = pool.shared.forwarded)
    (fresh : ∀ key ∈ published.oneTimePreKeys, Names responder key.keyId call.input.data →
      ∀ other ∈ pool.calls, Names responder key.keyId other.input.data →
        other.phase = .requesting) : Single responder published pool' := by
  constructor
  · intro key among
    have count := goes.countP (hasPassed responder key.keyId)
    rw [requesting] at count
    simp only [hasPassed, Bool.false_eq_true, if_false, decide_eq_true_eq, Nat.add_zero] at count
    change (pool'.calls.countP fun call => hasPassed responder key.keyId call.input call.phase) =
      (pool.calls.countP fun call => hasPassed responder key.keyId call.input call.phase) + _ at count
    by_cases names : Names responder key.keyId call.input.data
    · have others : (pool.calls.countP fun other =>
          hasPassed responder key.keyId other.input other.phase) = 0 := by
        refine List.countP_eq_zero.mpr fun other here passed => ?_
        by_cases alike : Names responder key.keyId other.input.data
        · rw [fresh key among names other here alike] at passed
          cases passed
        · cases reached : other.phase with
          | requesting =>
            rw [reached] at passed
            cases passed
          | _ =>
            rw [reached] at passed
            exact alike (of_decide_eq_true passed)
      apply Nat.le_of_eq
      rw [count, others, if_pos names]
    · rw [count, if_neg names]
      exact single.given key among
  · intro id
    have count := goes.countP (hasForwarded responder id)
    rw [requesting] at count
    rw [uses, same, Nat.add_right_cancel count]
    exact single.forwarded id

theorem Single.forward (goes : pool.Goes call .forwarded pool') (given : call.phase = .given)
    {timestamp : Nat} (sent : pool'.shared.forwarded =
      pool.shared.forwarded ++ [⟨call.input.userId, call.input.data, timestamp⟩]) :
    Single responder published pool' := by
  constructor
  · intro key among
    have count := goes.countP (hasPassed responder key.keyId)
    rw [given] at count
    rw [Nat.add_right_cancel count]
    exact single.given key among
  · intro id
    have count := goes.countP (hasForwarded responder id)
    rw [given] at count
    rw [uses, sent, List.countP_append, List.countP_singleton]
    exact (congrArg (· + _) (single.forwarded id)).trans count.symm

theorem Single.resume {index : Nat} {command : KeyExchangeCommand ν}
    {next : command.Reply → KeyExchangeProgram ν InitiationResponse} (answer : BundleReply ν)
    (present : pool.calls[index]? = some call) (awaits : Awaits call.input call.phase command)
    (fresh : Gives pool.shared answer command → ∀ key ∈ published.oneTimePreKeys,
      Names responder key.keyId call.input.data → ∀ other ∈ pool.calls,
        Names responder key.keyId other.input.data → other.phase = .requesting) :
    Single responder published
      (pool.resume discipline index call command next (exec pool.shared command answer)) := by
  have goes := @Pool.goes_resume _ _ _ _ _ _ discipline pool index call command next
    (exec pool.shared command answer) present
  change pool.Goes call (nextPhase call.phase command (exec pool.shared command answer).2) _ at goes
  obtain ⟨input, phase, program⟩ := call
  cases awaits with
  | count | renew | cache | delete | invalidate => exact single.stay goes rfl
  | look key =>
    cases cached : pool.shared.bundles.lookup pool.shared.now key with
    | none =>
      have stays : nextPhase .requesting (.get key) (exec pool.shared (.get key) answer).2 =
          .requesting := by
        change nextPhase .requesting (.get key) (pool.shared.bundles.lookup pool.shared.now key) = _
        rw [cached]
        rfl
      exact single.stay (stays ▸ goes) rfl
    | some bundle =>
      have given : nextPhase .requesting (.get key) (exec pool.shared (.get key) answer).2 =
          .given := by
        change nextPhase .requesting (.get key) (pool.shared.bundles.lookup pool.shared.now key) = _
        rw [cached]
        rfl
      refine single.give (given ▸ goes) rfl rfl (fresh ?_)
      exact fun missing => nomatch cached.symm.trans missing
  | fetch targetUserId =>
    cases answer with
    | found bundle => exact single.give goes rfl rfl (fresh ⟨bundle, rfl⟩)
    | _ => exact single.stay goes rfl
  | forward => exact single.forward goes rfl rfl

end

end Steps

section Sample

def sampleNumbers : Json.Numbers Nat := ⟨Nat.toDigits 10, (· = 0)⟩

def sampleConfig : Config := ⟨3600, 10⟩

def sampleBundle (ids : List Nat) : PreKeyBundle Nat :=
  ⟨"bob", "ik", ⟨⟨1, "spk"⟩, "sig"⟩, ids.map fun id => ⟨id, "opk"⟩, 0⟩

def emptyStore : KeyExchangeStore Nat := ⟨0, .empty, .empty, [], []⟩

def initiation (userId : String) : InitiationCall Nat := ⟨userId, "bob", "ik", "ek", some 5, none⟩

def initiated (index : Nat) (userId : String) (ids : List Nat) : List (InitiationEvent Nat) :=
  .start (initiation userId) :: List.replicate 8 (.run index (.found (sampleBundle ids)))

end Sample

end Caas.E2e.E2EKeyExchange
