import Mathlib.Data.Set.Function
import Caas.Async.Pool
import Caas.E2e.SessionKeys

/-!
# Message keys that are issued

Any number of managers issue message keys of one session. The keys of a sending chain
differ, as long as the keyed hash does not collide on what the chain hashes. So two
calls return the same key only when one of them takes it off a copy of the chain, in
memory or in Redis, that does not count all the keys taken before.
-/

namespace Caas.E2e.SessionKeyManager

open Js Async DoubleRatchet OrderedMap

/-- The first key of the sending chain of a fresh party. -/
def sendingOrigin (hmac : Buffer → Buffer → Buffer) (sharedSecret : String) : Buffer :=
  hmac (Buffer.ofHex sharedSecret) (Buffer.ofUtf8 "sending" ++ [1])

/-- What a fresh party hashes to send `count` messages. -/
def sendingInputs (hmac : Buffer → Buffer → Buffer) (sharedSecret : String) (count : Nat) :
    Set (Buffer × Buffer) :=
  { input |
    input = (Buffer.ofHex sharedSecret, Buffer.ofUtf8 "sending" ++ [1]) ∨
      ∃ position < count, ∃ message, (message = [2] ∨
          message = Buffer.ofUtf8 "message-key" ++ indexBytes position) ∧
        input = ((advanceChainKey hmac)^[position] (sendingOrigin hmac sharedSecret), message) }

/-- The keyed hash has no collisions among what a fresh party hashes to send `count`
messages. -/
def CollisionFree (hmac : Buffer → Buffer → Buffer) (sharedSecret : String) (count : Nat) : Prop :=
  Set.InjOn (fun input => hmac input.1 input.2) (sendingInputs hmac sharedSecret count)

/-- The message key at a position of the sending chain that starts at `origin`. -/
def messageKeyAt (hmac : Buffer → Buffer → Buffer) (origin : Buffer) (position : Nat) : String :=
  Buffer.toHex (deriveMessageKey hmac ((advanceChainKey hmac)^[position] origin) position)

section Chain

variable {hmac : Buffer → Buffer → Buffer} {sharedSecret : String} {count position other : Nat}

theorem mem_sendingInputs (bound : position < count) {message : Buffer}
    (hashed : message = [2] ∨ message = Buffer.ofUtf8 "message-key" ++ indexBytes position) :
    ((advanceChainKey hmac)^[position] (sendingOrigin hmac sharedSecret), message) ∈
      sendingInputs hmac sharedSecret count :=
  .inr ⟨position, bound, message, hashed, rfl⟩

theorem CollisionFree.ne_start (free : CollisionFree hmac sharedSecret count)
    (bound : position < count) :
    (advanceChainKey hmac)^[position + 1] (sendingOrigin hmac sharedSecret) ≠
      sendingOrigin hmac sharedSecret := by
  have purposes : [2] ≠ Buffer.ofUtf8 "sending" ++ [1] := by decide
  intro equal
  rw [Function.iterate_succ_apply'] at equal
  have inputs := free (mem_sendingInputs bound (.inl rfl)) (.inl rfl) equal
  exact purposes (congrArg Prod.snd inputs)

theorem CollisionFree.chain (free : CollisionFree hmac sharedSecret count)
    (bound : position < count) (bound' : other < count)
    (equal : (advanceChainKey hmac)^[position] (sendingOrigin hmac sharedSecret) =
      (advanceChainKey hmac)^[other] (sendingOrigin hmac sharedSecret)) :
    position = other := by
  induction position generalizing other with
  | zero =>
    cases other with
    | zero => rfl
    | succ other => exact absurd equal.symm (free.ne_start (Nat.lt_of_succ_lt bound'))
  | succ position ih =>
    have below := Nat.lt_of_succ_lt bound
    cases other with
    | zero => exact absurd equal (free.ne_start below)
    | succ other =>
      have below' := Nat.lt_of_succ_lt bound'
      rw [Function.iterate_succ_apply', Function.iterate_succ_apply'] at equal
      have inputs := free (mem_sendingInputs below (.inl rfl))
        (mem_sendingInputs below' (.inl rfl)) equal
      rw [ih below below' (congrArg Prod.fst inputs)]

theorem CollisionFree.messageKeyAt (free : CollisionFree hmac sharedSecret count)
    (bound : position < count) (bound' : other < count)
    (equal : messageKeyAt hmac (sendingOrigin hmac sharedSecret) position =
      messageKeyAt hmac (sendingOrigin hmac sharedSecret) other) :
    position = other := by
  have inputs := free (mem_sendingInputs bound (.inr rfl)) (mem_sendingInputs bound' (.inr rfl))
    (Buffer.toHex_injective equal)
  exact free.chain bound bound' (congrArg Prod.fst inputs)

end Chain

/-- Where a call of `getMessageKey` is. -/
inductive IssuePhase where
  | start
  | missed
  | loaded (sessionState : SessionState)
  | taken (messageKey : String)
  | reloaded (messageKey : String) (sessionState : SessionState)
  | saving (messageKey : String) (sessionState : SessionState)
  | updated (messageKey : String)

namespace IssuePhase

/-- The key that the call has taken. -/
def key? : IssuePhase → Option String
  | .taken messageKey | .reloaded messageKey _ | .saving messageKey _ | .updated messageKey =>
    some messageKey
  | _ => none

/-- The record that the call is to restore a ratchet from, or to write. -/
def record? : IssuePhase → Option SessionState
  | .loaded sessionState | .saving _ sessionState => some sessionState
  | _ => none

end IssuePhase

section Issuing

variable (hmac : Buffer → Buffer → Buffer) (sessionKeyLifetimeHours : Nat) (sessionKey : String)

inductive Awaits (manager : Nat) : IssuePhase → SessionCommand → Prop where
  | advance : Awaits manager .start (.advance manager sessionKey .sending)
  | load : Awaits manager .missed (.load sessionKey)
  | restore sessionState :
    Awaits manager (.loaded sessionState) (.restore manager sessionKey sessionState .sending)
  | reload messageKey : Awaits manager (.taken messageKey) (.load sessionKey)
  | read messageKey sessionState :
    Awaits manager (.reloaded messageKey sessionState) (.ratchet manager sessionKey)
  | save messageKey sessionState seconds :
    Awaits manager (.saving messageKey sessionState) (.save sessionKey seconds sessionState)
  | check messageKey : Awaits manager (.updated messageKey) (.load sessionKey)

def nextPhase : IssuePhase → (command : SessionCommand) → command.Reply → IssuePhase
  | .start, .advance _ _ _, (found : Option String) => found.elim .missed .taken
  | .missed, .load _, (found : Option SessionState) => found.elim .missed .loaded
  | .loaded _, .restore _ _ _ _, (messageKey : String) => .taken messageKey
  | .taken messageKey, .load _, (found : Option SessionState) =>
    found.elim (.updated messageKey) (.reloaded messageKey)
  | .reloaded messageKey sessionState, .ratchet _ _, (found : Option DoubleRatchet) =>
    found.elim (.updated messageKey) fun ratchet => .saving messageKey (sessionState.advanced ratchet)
  | .saving messageKey _, .save _ _ _, _ => .updated messageKey
  | phase, _, _ => phase

def discipline (manager : Nat) : Discipline SessionCommand SessionCommand.Reply IssuePhase where
  next := nextPhase
  may := Awaits sessionKey manager
  assumes _ _ := True

/-- A call returns the key it has taken. -/
def ends (_ : Nat) (phase : IssuePhase) (outcome : Program.Outcome String) : Prop :=
  ∀ messageKey, outcome = .ok messageKey → phase.key? = some messageKey

end Issuing

section Calls

variable (hmac : Buffer → Buffer → Buffer) (sessionKeyLifetimeHours : Nat)
  (conversationId userId : String)

/-- The calls of `getMessageKey`, each of one manager. A record may expire at any time. -/
def host : Host SessionStore SessionCommand SessionCommand.Reply Unit String Nat String where
  exec := exec hmac
  change store sessionKey := { store with redis := store.redis.delete sessionKey }
  body manager := getMessageKey sessionKeyLifetimeHours manager conversationId userId

abbrev IssuePool := Pool SessionStore SessionCommand SessionCommand.Reply Nat IssuePhase String

abbrev IssueEvent := Event Unit String Nat

abbrev IssueCall := Call SessionCommand SessionCommand.Reply Nat IssuePhase String

def machine : Transducer IssuePool IssueEvent Unit :=
  Pool.machine (host hmac sessionKeyLifetimeHours conversationId userId)
    (discipline (getSessionKey conversationId userId)) fun _ => .start

theorem getMessageKey_respects (manager : Nat) :
    (getMessageKey sessionKeyLifetimeHours manager conversationId userId).Respects
      (discipline (getSessionKey conversationId userId) manager) (ends manager) .start := by
  have update (messageKey : String) : (do
      updateSessionState sessionKeyLifetimeHours manager (getSessionKey conversationId userId)
      checkRotation (getSessionKey conversationId userId)
      pure messageKey : SessionProgram String).Respects
        (discipline (getSessionKey conversationId userId) manager) (ends manager)
        (.taken messageKey) := by
    have check : (do
        checkRotation (getSessionKey conversationId userId)
        pure messageKey : SessionProgram String).Respects
          (discipline (getSessionKey conversationId userId) manager) (ends manager)
          (.updated messageKey) :=
      ⟨.check _, fun _ _ _ returned => congrArg some (Except.ok.inj returned)⟩
    refine ⟨.reload _, fun (found : Option SessionState) _ => ?_⟩
    cases found with
    | none => exact check
    | some sessionState =>
      refine ⟨.read _ _, fun (held : Option DoubleRatchet) _ => ?_⟩
      cases held with
      | none => exact check
      | some ratchet => exact ⟨.save _ _ _, fun _ _ => check⟩
  refine ⟨.advance, fun (held : Option String) _ => ?_⟩
  cases held with
  | some messageKey => exact update messageKey
  | none =>
    refine ⟨.load, fun (found : Option SessionState) _ => ?_⟩
    cases found with
    | none => exact nofun
    | some sessionState => exact ⟨.restore _, fun (messageKey : String) _ => update messageKey⟩

end Calls

section Copies

variable (hmac : Buffer → Buffer → Buffer) (origin : Buffer)

def takenKeys (pool : IssuePool) : Nat := pool.calls.countP fun call => call.phase.key?.isSome

/-- The chain key stands at its length on the chain that starts at `origin`, and counts no more
than `count` keys. -/
def Follows (count : Nat) (chainKey : Buffer) (length : Nat) : Prop :=
  chainKey = (advanceChainKey hmac)^[length] origin ∧ length ≤ count

def FollowsRatchet (count : Nat) (ratchet : DoubleRatchet) : Prop :=
  Follows hmac origin count ratchet.sendingChainKey ratchet.sendingChainLength

def FollowsRecord (count : Nat) (sessionState : SessionState) : Prop :=
  FollowsRatchet hmac origin count (restoreRatchet hmac sessionState)

/-- The copy of the ratchet that a command takes a key off, if it does. -/
def advanced? (store : SessionStore) : SessionCommand → Option DoubleRatchet
  | .advance manager sessionKey _ => store.ratchet? manager sessionKey
  | .restore _ _ sessionState _ => some (restoreRatchet hmac sessionState)
  | _ => none

/-- A key is taken off a copy of the sending chain that counts all keys taken before. -/
def TakesNext (pool : IssuePool) : IssueEvent → Prop
  | .run index _ => ∀ call command ratchet, pool.awaited? index = some (call, command) →
    advanced? hmac pool.shared command = some ratchet →
      takenKeys pool ≤ ratchet.sendingChainLength
  | _ => True

/-- Each call that has taken a key has taken the one of a position of its own. -/
def Places (pool : IssuePool) (place : Nat → Nat) : Prop :=
  (∀ (index : Nat) (call : IssueCall) (messageKey : String), pool.calls[index]? = some call →
    call.phase.key? = some messageKey →
      place index < takenKeys pool ∧ messageKey = messageKeyAt hmac origin (place index)) ∧
  ∀ (index other : Nat) (call call' : IssueCall), pool.calls[index]? = some call →
    pool.calls[other]? = some call' → call.phase.key?.isSome → call'.phase.key?.isSome →
      place index = place other → index = other

/-- All copies of the sending chain are of one chain. -/
structure Issued (sessionKey : String) (pool : IssuePool) : Prop where
  held : ∀ manager ratchet, pool.shared.ratchet? manager sessionKey = some ratchet →
    FollowsRatchet hmac origin (takenKeys pool) ratchet
  stored : ∀ sessionState, pool.shared.redis.get sessionKey = some sessionState →
    FollowsRecord hmac origin (takenKeys pool) sessionState
  copied : ∀ call ∈ pool.calls, ∀ sessionState, call.phase.record? = some sessionState →
    FollowsRecord hmac origin (takenKeys pool) sessionState
  placed : ∃ place, Places hmac origin pool place

end Copies

section Steps

variable {hmac : Buffer → Buffer → Buffer} {origin : Buffer} {sessionKey : String}
  {pool : IssuePool} {count count' : Nat} {ratchet : DoubleRatchet} {sessionState : SessionState}

theorem FollowsRatchet.mono (follows : FollowsRatchet hmac origin count ratchet)
    (more : count ≤ count') : FollowsRatchet hmac origin count' ratchet :=
  ⟨follows.1, follows.2.trans more⟩

theorem FollowsRatchet.advanced (follows : FollowsRatchet hmac origin count ratchet) :
    FollowsRecord hmac origin count (sessionState.advanced ratchet) := by
  refine ⟨?_, follows.2⟩
  simpa [restoreRatchet, DoubleRatchet.restore, SessionState.advanced] using follows.1

theorem FollowsRatchet.next (follows : FollowsRatchet hmac origin count ratchet)
    (current : count ≤ ratchet.sendingChainLength) :
    FollowsRatchet hmac origin (count + 1) (ratchetSendingChain hmac ratchet).1 ∧
      (ratchetSendingChain hmac ratchet).2 = messageKeyAt hmac origin count := by
  have last := Nat.le_antisymm follows.2 current
  refine ⟨⟨?_, Nat.succ_le_succ follows.2⟩, ?_⟩
  · simp [ratchetSendingChain, Function.iterate_succ_apply', follows.1]
  · simp [ratchetSendingChain, messageKeyAt, follows.1, last]

theorem Issued.start (issued : Issued hmac origin sessionKey pool) (manager : Nat)
    (sessionKeyLifetimeHours : Nat) (conversationId userId : String) :
    Issued hmac origin sessionKey (pool.start (host hmac sessionKeyLifetimeHours conversationId
      userId) (fun _ => .start) manager) := by
  have same : takenKeys (pool.start (host hmac sessionKeyLifetimeHours conversationId
      userId) (fun _ => .start) manager) = takenKeys pool := by
    simp [takenKeys, Pool.start, List.countP_append, IssuePhase.key?]
  obtain ⟨place, keys, distinct⟩ := issued.placed
  refine ⟨?_, ?_, ?_, place, ?_, ?_⟩
  · rw [same]
    exact issued.held
  · rw [same]
    exact issued.stored
  · rw [same]
    intro call member sessionState copy
    rcases Pool.mem_start member with earlier | rfl
    · exact issued.copied call earlier sessionState copy
    · cases copy
  · rw [same]
    intro index call messageKey present key
    rcases Pool.getElem?_start present with earlier | rfl
    · exact keys index call messageKey earlier key
    · cases key
  · intro index other call call' present present' key key'
    rcases Pool.getElem?_start present with earlier | rfl
    · rcases Pool.getElem?_start present' with earlier' | rfl
      · exact distinct index other call call' earlier earlier' key key'
      · cases key'
    · cases key

variable {index : Nat} {call : IssueCall} {command : SessionCommand}
  {next : command.Reply → SessionProgram String} {effect : SessionStore × command.Reply}

theorem takenKeys_resume (present : pool.calls[index]? = some call) :
    takenKeys (pool.resume (discipline sessionKey) index call command next effect) +
        (if call.phase.key?.isSome then 1 else 0) =
      takenKeys pool +
        (if (nextPhase call.phase command effect.2).key?.isSome then 1 else 0) :=
  Pool.countP_resume present fun call => call.phase.key?.isSome

theorem Places.pass {place : Nat → Nat} (places : Places hmac origin pool place)
    (present : pool.calls[index]? = some call)
    (same : takenKeys (pool.resume (discipline sessionKey) index call command next effect) =
      takenKeys pool) (key : (nextPhase call.phase command effect.2).key? = call.phase.key?) :
    Places hmac origin (pool.resume (discipline sessionKey) index call command next effect)
      place := by
  obtain ⟨keys, distinct⟩ := places
  have before : ∀ (other : Nat) (call' : IssueCall),
      (pool.resume (discipline sessionKey) index call command next effect).calls[other]? =
        some call' → ∃ earlier, pool.calls[other]? = some earlier ∧
          call'.phase.key? = earlier.phase.key? := by
    intro other call' present'
    rw [Pool.getElem?_resume present] at present'
    split at present'
    · rename_i same
      cases present'
      exact ⟨call, same ▸ present, key⟩
    · exact ⟨call', present', rfl⟩
  constructor
  · rw [same]
    intro other call' messageKey present' taken
    obtain ⟨earlier, found, kept⟩ := before other call' present'
    exact keys other earlier messageKey found (kept ▸ taken)
  · intro one two call₁ call₂ present₁ present₂ key₁ key₂
    obtain ⟨earlier₁, found₁, kept₁⟩ := before one call₁ present₁
    obtain ⟨earlier₂, found₂, kept₂⟩ := before two call₂ present₂
    exact distinct one two earlier₁ earlier₂ found₁ found₂ (kept₁ ▸ key₁) (kept₂ ▸ key₂)

theorem Places.take {place : Nat → Nat} (places : Places hmac origin pool place)
    (present : pool.calls[index]? = some call)
    (more : takenKeys (pool.resume (discipline sessionKey) index call command next effect) =
      takenKeys pool + 1) (taken : nextPhase call.phase command effect.2 =
      .taken (messageKeyAt hmac origin (takenKeys pool))) :
    Places hmac origin (pool.resume (discipline sessionKey) index call command next effect)
      (Function.update place index (takenKeys pool)) := by
  obtain ⟨keys, distinct⟩ := places
  constructor
  · rw [more]
    intro other call' messageKey present' key
    rw [Pool.getElem?_resume present] at present'
    split at present'
    · rename_i same
      subst same
      cases present'
      change (nextPhase call.phase command effect.2).key? = some messageKey at key
      rw [taken] at key
      cases key
      rw [Function.update_self]
      exact ⟨Nat.lt_succ_self _, rfl⟩
    · rename_i different
      rw [Function.update_of_ne (Ne.symm different)]
      obtain ⟨bound, at_place⟩ := keys other call' messageKey present' key
      exact ⟨Nat.lt_succ_of_lt bound, at_place⟩
  · have others : ∀ (other : Nat) (call' : IssueCall), pool.calls[other]? = some call' →
        call'.phase.key?.isSome → place other < takenKeys pool := by
      intro other call' present' key
      obtain ⟨messageKey, key⟩ := Option.isSome_iff_exists.mp key
      exact (keys other call' messageKey present' key).1
    intro one two call₁ call₂ present₁ present₂ key₁ key₂ together
    rw [Pool.getElem?_resume present] at present₁ present₂
    by_cases first : index = one
    · by_cases second : index = two
      · exact first.symm.trans second
      · rw [if_neg second] at present₂
        have below := others two call₂ present₂ key₂
        rw [← first, Function.update_self, Function.update_of_ne (Ne.symm second)] at together
        omega
    · rw [if_neg first] at present₁
      have below := others one call₁ present₁ key₁
      rw [Function.update_of_ne (Ne.symm first)] at together
      by_cases second : index = two
      · rw [← second, Function.update_self] at together
        omega
      · rw [if_neg second] at present₂
        rw [Function.update_of_ne (Ne.symm second)] at together
        exact distinct one two call₁ call₂ present₁ present₂ key₁ key₂ together

theorem Issued.pass (issued : Issued hmac origin sessionKey pool)
    (present : pool.calls[index]? = some call)
    (key : (nextPhase call.phase command effect.2).key? = call.phase.key?)
    (held : ∀ manager, effect.1.ratchet? manager sessionKey =
      pool.shared.ratchet? manager sessionKey)
    (stored : ∀ sessionState, effect.1.redis.get sessionKey = some sessionState →
      FollowsRecord hmac origin (takenKeys pool) sessionState)
    (copied : ∀ sessionState, (nextPhase call.phase command effect.2).record? = some sessionState →
      FollowsRecord hmac origin (takenKeys pool) sessionState) : Issued hmac origin sessionKey
      (pool.resume (discipline sessionKey) index call command next effect) := by
  have same : takenKeys (pool.resume (discipline sessionKey) index call command next effect) =
      takenKeys pool := by
    have counted := @takenKeys_resume sessionKey pool index call command next effect present
    rw [key] at counted
    exact Nat.add_right_cancel counted
  obtain ⟨place, places⟩ := issued.placed
  refine ⟨?_, ?_, ?_, place, places.pass present same key⟩
  · rw [same]
    intro manager ratchet found
    exact issued.held manager ratchet ((held manager).symm.trans found)
  · rw [same]
    exact stored
  · rw [same]
    intro other member sessionState copy
    rcases List.mem_or_eq_of_mem_set member with kept | rfl
    · exact issued.copied other kept sessionState copy
    · exact copied sessionState copy

theorem Issued.take (issued : Issued hmac origin sessionKey pool) {manager : Nat}
    (present : pool.calls[index]? = some call) (fresh : call.phase.key? = none)
    (follows : FollowsRatchet hmac origin (takenKeys pool) ratchet)
    (current : takenKeys pool ≤ ratchet.sendingChainLength)
    (kept : effect.1 = pool.shared.keep manager sessionKey (ratchetSendingChain hmac ratchet).1)
    (taken : nextPhase call.phase command effect.2 = .taken (ratchetSendingChain hmac ratchet).2) :
    Issued hmac origin sessionKey
      (pool.resume (discipline sessionKey) index call command next effect) := by
  obtain ⟨after, issues⟩ := follows.next current
  have more : takenKeys (pool.resume (discipline sessionKey) index call command next effect) =
      takenKeys pool + 1 := by
    have counted := @takenKeys_resume sessionKey pool index call command next effect present
    rw [fresh, taken] at counted
    exact counted
  obtain ⟨place, places⟩ := issued.placed
  refine ⟨?_, ?_, ?_, _, places.take present more (taken.trans (congrArg _ issues))⟩
  · rw [more]
    intro other held found
    change effect.1.ratchet? other sessionKey = some held at found
    rw [kept, SessionStore.ratchet?_keep] at found
    split at found
    · cases found
      exact after
    · exact (issued.held other held found).mono (Nat.le_succ _)
  · rw [more]
    intro sessionState found
    change effect.1.redis.get sessionKey = some sessionState at found
    rw [kept, SessionStore.redis_keep] at found
    exact (issued.stored sessionState found).mono (Nat.le_succ _)
  · rw [more]
    intro other member sessionState copy
    rcases List.mem_or_eq_of_mem_set member with earlier | rfl
    · exact (issued.copied other earlier sessionState copy).mono (Nat.le_succ _)
    · change (nextPhase call.phase command effect.2).record? = some sessionState at copy
      rw [taken] at copy
      cases copy

section Found

variable {α : Type} {other : IssuePhase} {reached : α → IssuePhase}

theorem key?_elim {key : Option String} (absent : other.key? = key)
    (here : ∀ value, (reached value).key? = key) (found : Option α) :
    (found.elim other reached).key? = key := by
  cases found with
  | none => exact absent
  | some value => exact here value

theorem record?_elim (absent : other.record? = none) {found : Option α}
    (copy : (found.elim other reached).record? = some sessionState) :
    ∃ value, found = some value ∧ (reached value).record? = some sessionState := by
  cases found with
  | none => cases absent.symm.trans copy
  | some value => exact ⟨value, rfl, copy⟩

end Found

/-- A command, which takes a key off a copy that counts all keys taken before, if it takes
one. -/
theorem Issued.resume (issued : Issued hmac origin sessionKey pool)
    (present : pool.calls[index]? = some call)
    (awaits : Awaits sessionKey call.input call.phase command)
    (takesNext : ∀ ratchet, advanced? hmac pool.shared command = some ratchet →
      takenKeys pool ≤ ratchet.sendingChainLength) :
    Issued hmac origin sessionKey (pool.resume (discipline sessionKey) index call command next
      (exec hmac pool.shared command ())) := by
  have copied := issued.copied call (List.mem_of_getElem? present)
  obtain ⟨manager, phase, program⟩ := call
  cases awaits with
  | advance =>
    cases found : pool.shared.ratchet? manager sessionKey with
    | none =>
      have missed : exec hmac pool.shared (.advance manager sessionKey .sending) () =
          (pool.shared, none) := by
        simp only [exec, found]
        rfl
      rw [missed]
      exact issued.pass present rfl (fun _ => rfl) issued.stored nofun
    | some ratchet =>
      have taken : exec hmac pool.shared (.advance manager sessionKey .sending) () =
          (pool.shared.keep manager sessionKey (ratchetSendingChain hmac ratchet).1,
            some (ratchetSendingChain hmac ratchet).2) := by
        simp only [exec, found]
        rfl
      rw [taken]
      exact issued.take present rfl (issued.held manager ratchet found) (takesNext ratchet found)
        rfl rfl
  | restore sessionState =>
    exact issued.take present rfl (copied sessionState rfl) (takesNext _ rfl) rfl rfl
  | load =>
    have key := @key?_elim SessionState .missed .loaded none rfl fun _ => rfl
    refine issued.pass present (key _) (fun _ => rfl) issued.stored fun sessionState copy => ?_
    obtain ⟨loaded, found, same⟩ := @record?_elim _ SessionState .missed .loaded rfl _ copy
    exact issued.stored sessionState (found.trans same)
  | reload messageKey =>
    have key := @key?_elim SessionState (.updated messageKey) (.reloaded messageKey) messageKey rfl
      fun _ => rfl
    refine issued.pass present (key _) (fun _ => rfl) issued.stored fun sessionState copy => ?_
    obtain ⟨loaded, -, none⟩ := @record?_elim _ SessionState (.updated messageKey)
      (.reloaded messageKey) rfl _ copy
    cases none
  | read messageKey sessionState =>
    let saving (ratchet : DoubleRatchet) : IssuePhase :=
      .saving messageKey (sessionState.advanced ratchet)
    have key := @key?_elim _ (.updated messageKey) saving messageKey rfl fun _ => rfl
    refine issued.pass present (key _) (fun _ => rfl) issued.stored fun written copy => ?_
    obtain ⟨ratchet, found, same⟩ := @record?_elim _ _ (.updated messageKey) saving rfl _ copy
    cases same
    exact (issued.held manager ratchet found).advanced
  | save messageKey sessionState seconds =>
    refine issued.pass present rfl (fun _ => rfl) ?_ nofun
    intro other found
    cases (get_set_self _ _ _).symm.trans found
    exact copied sessionState rfl
  | check messageKey => exact issued.pass present rfl (fun _ => rfl) issued.stored nofun

end Steps

def newPool (store : SessionStore) : IssuePool := ⟨store, []⟩

section Runs

variable {hmac : Buffer → Buffer → Buffer} {sessionKeyLifetimeHours : Nat}
  {conversationId userId : String}

theorem issued_opened (manager : Nat) (redis : OrderedMap String SessionState)
    (partnerId sharedSecret : String) (isInitiator : Bool) (createdAt lastRotation : Int) :
    Issued hmac (sendingOrigin hmac sharedSecret) (getSessionKey conversationId userId)
      (newPool (opened hmac sessionKeyLifetimeHours manager conversationId userId
        ⟨redis, fun _ => .empty⟩ partnerId sharedSecret isInitiator createdAt lastRotation)) := by
  refine ⟨?_, ?_, fun _ member => (nomatch member), fun _ => 0,
    fun _ _ _ absent => (nomatch absent), fun _ _ _ _ absent => (nomatch absent)⟩
  · intro other ratchet found
    change (SessionStore.keep _ manager _ _).ratchet? other _ = some ratchet at found
    rw [SessionStore.ratchet?_keep] at found
    split at found
    · cases found
      exact ⟨rfl, Nat.le_refl 0⟩
    · cases found
  · intro sessionState found
    cases (get_set_self _ _ _).symm.trans found
    refine ⟨?_, Nat.le_refl 0⟩
    simp [restoreRatchet, DoubleRatchet.restore, DoubleRatchet.new, deriveChainKey, sendingOrigin]

/-- In a run that takes the next key at every time, all copies stay of one chain. -/
theorem issued_run {origin : Buffer} {pool : IssuePool} {events : List IssueEvent}
    (takesNext : (machine hmac sessionKeyLifetimeHours conversationId userId).Admits
      (TakesNext hmac) pool events)
    (respectful : pool.Respectful (discipline (getSessionKey conversationId userId)) ends)
    (issued : Issued hmac origin (getSessionKey conversationId userId) pool) :
    ((machine hmac sessionKeyLifetimeHours conversationId userId).run pool events).Respectful
        (discipline (getSessionKey conversationId userId)) ends ∧
      Issued hmac origin (getSessionKey conversationId userId)
        ((machine hmac sessionKeyLifetimeHours conversationId userId).run pool events) := by
  refine Pool.invariant (getMessageKey_respects sessionKeyLifetimeHours conversationId userId)
    ?_ ?_ ?_ takesNext respectful issued
  · intro pool manager issued _
    exact issued.start manager sessionKeyLifetimeHours conversationId userId
  · intro pool expired issued _
    refine ⟨issued.held, ?_, issued.copied, issued.placed⟩
    intro sessionState found
    refine issued.stored sessionState ?_
    change (pool.shared.redis.delete expired).get _ = some sessionState at found
    rw [get_delete] at found
    split at found
    · cases found
    · exact found
  · intro pool index _ call command next issued takesNext present program awaits
    refine ⟨trivial, issued.resume present awaits ?_⟩
    exact fun ratchet => takesNext call command ratchet (Pool.awaited?_of_await present program)

end Runs

/-- A session is opened, and any number of managers issue its message keys. When each key is
taken off a copy of the sending chain that counts all the keys taken before, no two calls
return the same key, as long as the keyed hash has no collision among what the keys of so
many messages are hashed from. -/
theorem message_keys_are_unique (hmac : Buffer → Buffer → Buffer)
    (sessionKeyLifetimeHours manager : Nat) (redis : OrderedMap String SessionState)
    (conversationId userId partnerId sharedSecret : String) (isInitiator : Bool)
    (createdAt lastRotation : Int) (events : List IssueEvent)
    (takesNext : (machine hmac sessionKeyLifetimeHours conversationId userId).Admits
      (TakesNext hmac) (newPool (opened hmac sessionKeyLifetimeHours manager conversationId userId
        ⟨redis, fun _ => .empty⟩ partnerId sharedSecret isInitiator createdAt lastRotation))
      events) :
    let final := (machine hmac sessionKeyLifetimeHours conversationId userId).run
      (newPool (opened hmac sessionKeyLifetimeHours manager conversationId userId
        ⟨redis, fun _ => .empty⟩ partnerId sharedSecret isInitiator createdAt lastRotation)) events
    CollisionFree hmac sharedSecret final.calls.length →
      ∀ index other messageKey, final.outcome? index = some (.ok messageKey) →
        final.outcome? other = some (.ok messageKey) → index = other := by
  intro final free index other messageKey returned returned'
  obtain ⟨respectful, issued⟩ := issued_run takesNext nofun (issued_opened manager redis partnerId
    sharedSecret isInitiator createdAt lastRotation)
  obtain ⟨place, keys, distinct⟩ := issued.placed
  obtain ⟨call, present, ended⟩ := Option.bind_eq_some_iff.mp returned
  obtain ⟨call', present', ended'⟩ := Option.bind_eq_some_iff.mp returned'
  have key := respectful.ends_of_outcome present ended messageKey rfl
  have key' := respectful.ends_of_outcome present' ended' messageKey rfl
  obtain ⟨bound, same⟩ := keys index call messageKey present key
  obtain ⟨bound', same'⟩ := keys other call' messageKey present' key'
  have few : takenKeys final ≤ final.calls.length := List.countP_le_length
  refine distinct index other call call' present present' (Option.isSome_iff_exists.mpr ⟨_, key⟩)
    (Option.isSome_iff_exists.mpr ⟨_, key'⟩) ?_
  exact free.messageKeyAt (bound.trans_le few) (bound'.trans_le few) (same.symm.trans same')

section Sample

def sampleIssuing : IssuePool :=
  newPool (opened framed 24 0 "c" "u" ⟨.empty, fun _ => .empty⟩ "v" "ab" true 0 0)

def sampleMachine : Transducer IssuePool IssueEvent Unit := machine framed 24 "c" "u"

def commands (index count : Nat) : List IssueEvent := List.replicate count (.run index ())

def calledTwice : List IssueEvent := .start 0 :: commands 0 5 ++ .start 0 :: commands 1 5

theorem called_twice_keys_differ : (sampleMachine.run sampleIssuing calledTwice).outcome? 0 ≠
      (sampleMachine.run sampleIssuing calledTwice).outcome? 1 := by
  intro same
  have returned : (sampleMachine.run sampleIssuing calledTwice).outcome? 0 =
      some (.ok (messageKeyAt framed (sendingOrigin framed "ab") 0)) := by decide +kernel
  refine absurd (message_keys_are_unique framed 24 0 .empty "c" "u" "v" "ab" true 0 0 calledTwice
    ?_ ?_ 0 1 _ returned (same.symm.trans returned)) (by decide)
  · refine ⟨trivial, ?_, ?_, ?_, ?_, ?_, trivial, ?_, ?_, ?_, ?_, ?_, trivial⟩
    all_goals rintro _ _ _ ⟨⟩ ⟨⟩
    · exact Nat.zero_le _
    · exact Nat.le_refl 1
  · intro input _ input' _ equal
    obtain ⟨key, message⟩ := framed_injective equal
    exact Prod.ext key message

def calledOnBoth : List IssueEvent := .start 1 :: commands 0 7 ++ .start 0 :: commands 1 5

/-- Two managers, one after the other, take the same key. -/
theorem second_manager_reuses_key : ¬ ∀ events index other messageKey,
      (sampleMachine.run sampleIssuing events).outcome? index = some (.ok messageKey) →
      (sampleMachine.run sampleIssuing events).outcome? other = some (.ok messageKey) →
        index = other := by
  intro unique
  have returned : (sampleMachine.run sampleIssuing calledOnBoth).outcome? 0 =
      some (.ok (messageKeyAt framed (sendingOrigin framed "ab") 0)) := by decide +kernel
  have returned' : (sampleMachine.run sampleIssuing calledOnBoth).outcome? 1 =
      some (.ok (messageKeyAt framed (sendingOrigin framed "ab") 0)) := by decide +kernel
  exact absurd (unique calledOnBoth 0 1 _ returned returned') (by decide)

end Sample

end Caas.E2e.SessionKeyManager
