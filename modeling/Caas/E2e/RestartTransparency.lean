import Caas.E2e.SessionKeys
import Caas.Machine.Transducer

/-!
# Restarts of a session

A restart leaves the record of a session in Redis, and with it both chains of the
ratchet, but not the keys of skipped messages. So a run with restarts and the run of
the same calls without them answer alike as long as each message number that is asked
for finds the same skipped key, or none, in both.
-/

namespace Caas.E2e.SessionKeyManager

open Js Async Program OrderedMap

inductive SessionCall where
  | getMessageKey
  | decryptMessage (messageNumber chainLength : Nat)

/-- A call, or a fresh manager over the same Redis. -/
inductive SessionEvent where
  | call (call : SessionCall)
  | restart

def isCall : SessionEvent → Bool
  | .call _ => true
  | .restart => false

/-- What a call takes off the ratchet. -/
def stepOf : SessionCall → RatchetStep
  | .getMessageKey => .sending
  | .decryptMessage messageNumber chainLength => .receiving messageNumber chainLength

variable (hmac : Buffer → Buffer → Buffer) (sessionKeyLifetimeHours manager : Nat)
  (conversationId userId : String)

def bodyOf : SessionCall → SessionProgram String
  | .getMessageKey => getMessageKey sessionKeyLifetimeHours manager conversationId userId
  | .decryptMessage messageNumber chainLength =>
    decryptMessage sessionKeyLifetimeHours manager conversationId userId messageNumber chainLength

/-- The calls on a session, one after the other, with restarts between them. -/
def session : Transducer SessionStore SessionEvent (Option (Outcome String)) where
  step store
    | .restart => (store.restart manager, none)
    | .call call =>
      let (after, outcome) := runAlone hmac store
        (bodyOf sessionKeyLifetimeHours manager conversationId userId call)
      (after, some outcome)

/-- The answers of the calls of a run. -/
def answers (store : SessionStore) (events : List SessionEvent) : List (Outcome String) :=
  ((session hmac sessionKeyLifetimeHours manager conversationId userId).outputs store
    events).filterMap id

/-- Two stores in step, of which only the first is restarted. -/
def alongside : Transducer (SessionStore × SessionStore) SessionEvent Unit where
  step stores event :=
    let session := session hmac sessionKeyLifetimeHours manager conversationId userId
    ((((session.step stores.1 event).1, match event with
      | .call _ => (session.step stores.2 event).1
      | .restart => stores.2)), ())

/-- The skipped key that the manager has stored for a message number. -/
def skipped? (store : SessionStore) (messageNumber chainLength : Nat) : Option Buffer :=
  (store.ratchet? manager (getSessionKey conversationId userId)).bind fun ratchet =>
    ratchet.skippedMessageKeys.get (DoubleRatchet.skippedKey chainLength messageNumber)

/-- A message number that is asked for finds the same skipped key, or none, in both stores. -/
def Remembers (stores : SessionStore × SessionStore) : SessionEvent → Prop
  | .call (.decryptMessage messageNumber chainLength) =>
    skipped? manager conversationId userId stores.1 messageNumber chainLength =
      skipped? manager conversationId userId stores.2 messageNumber chainLength
  | _ => True

section Chains

variable {hmac} {ratchet ratchet' : DoubleRatchet}

structure SameChains (ratchet ratchet' : DoubleRatchet) : Prop where
  sendingKey : ratchet.sendingChainKey = ratchet'.sendingChainKey
  receivingKey : ratchet.receivingChainKey = ratchet'.receivingChainKey
  sendingLength : ratchet.sendingChainLength = ratchet'.sendingChainLength
  receivingLength : ratchet.receivingChainLength = ratchet'.receivingChainLength

theorem SameChains.skipMessages (same : SameChains ratchet ratchet')
    (chainLength index count : Nat) :
    SameChains (DoubleRatchet.skipMessages hmac chainLength ratchet index count)
      (DoubleRatchet.skipMessages hmac chainLength ratchet' index count) := by
  induction count generalizing ratchet ratchet' index with
  | zero => exact same
  | succ count ih =>
    apply ih
    exact ⟨same.sendingKey, congrArg (DoubleRatchet.advanceChainKey hmac) same.receivingKey,
      same.sendingLength, same.receivingLength⟩

/-- A step takes the same key off ratchets with the same chains, as long as they have stored
the same skipped key for the message number. -/
theorem SameChains.apply (same : SameChains ratchet ratchet') (step : RatchetStep)
    (remembers : ∀ messageNumber chainLength, step = .receiving messageNumber chainLength →
      ratchet.skippedMessageKeys.get (DoubleRatchet.skippedKey chainLength messageNumber) =
        ratchet'.skippedMessageKeys.get (DoubleRatchet.skippedKey chainLength messageNumber)) :
    SameChains (step.apply hmac ratchet).1 (step.apply hmac ratchet').1 ∧
      (step.apply hmac ratchet).2 = (step.apply hmac ratchet').2 := by
  cases step with
  | sending =>
    simp only [RatchetStep.apply, DoubleRatchet.ratchetSendingChain, same.sendingKey,
      same.sendingLength]
    exact ⟨⟨rfl, same.receivingKey, rfl, same.receivingLength⟩, trivial⟩
  | receiving messageNumber chainLength =>
    simp only [RatchetStep.apply, DoubleRatchet.ratchetReceivingChain, remembers]
    cases ratchet'.skippedMessageKeys.get (DoubleRatchet.skippedKey chainLength messageNumber) with
    | some key =>
      exact ⟨⟨same.sendingKey, same.receivingKey, same.sendingLength, same.receivingLength⟩, rfl⟩
    | none =>
      have skips := @SameChains.skipMessages hmac _ _ same chainLength
        ratchet'.receivingChainLength (messageNumber - ratchet'.receivingChainLength)
      rw [same.receivingLength]
      refine ⟨⟨skips.sendingKey, ?_, skips.sendingLength, rfl⟩, ?_⟩
      · exact congrArg (DoubleRatchet.advanceChainKey hmac) skips.receivingKey
      · exact congrArg (fun key => Buffer.toHex (DoubleRatchet.deriveMessageKey hmac key
          messageNumber)) skips.receivingKey

structure Records (sessionState : SessionState) (ratchet : DoubleRatchet) : Prop where
  sendingKey : sessionState.sendingChainKey = Buffer.toHex ratchet.sendingChainKey
  receivingKey : sessionState.receivingChainKey = Buffer.toHex ratchet.receivingChainKey
  sendingLength : sessionState.sendingChainLength = ratchet.sendingChainLength
  receivingLength : sessionState.receivingChainLength = ratchet.receivingChainLength

variable {sessionState : SessionState}

theorem advanced_of_sameChains (same : SameChains ratchet ratchet') :
    sessionState.advanced ratchet = sessionState.advanced ratchet' := by
  simp [SessionState.advanced, same.sendingKey, same.receivingKey, same.sendingLength,
    same.receivingLength]

theorem records_advanced : Records (sessionState.advanced ratchet) ratchet := ⟨rfl, rfl, rfl, rfl⟩

theorem Records.same (records : Records sessionState ratchet)
    (records' : Records sessionState ratchet') : SameChains ratchet ratchet' where
  sendingKey := Buffer.toHex_injective (records.sendingKey.symm.trans records'.sendingKey)
  receivingKey := Buffer.toHex_injective (records.receivingKey.symm.trans records'.receivingKey)
  sendingLength := records.sendingLength.symm.trans records'.sendingLength
  receivingLength := records.receivingLength.symm.trans records'.receivingLength

theorem Records.restored (records : Records sessionState ratchet) :
    Records sessionState (restoreRatchet hmac sessionState) := by
  refine ⟨?_, ?_, rfl, rfl⟩
  · simp [restoreRatchet, DoubleRatchet.restore, records.sendingKey]
  · simp [restoreRatchet, DoubleRatchet.restore, records.receivingKey]

end Chains

section Calls

variable {hmac manager conversationId userId} {store : SessionStore} {sessionKey : String}
  {sessionState : SessionState}

/-- The ratchet that a call works on, when the session has a record. -/
def working (hmac : Buffer → Buffer → Buffer) (store : SessionStore) (manager : Nat)
    (sessionKey : String) (sessionState : SessionState) : DoubleRatchet :=
  (store.ratchet? manager sessionKey).getD (restoreRatchet hmac sessionState)

/-- The store after a ratchet has been advanced and its record written. -/
def written (store : SessionStore) (manager : Nat) (sessionKey : String)
    (sessionState : SessionState) (ratchet : DoubleRatchet) : SessionStore :=
  { store.keep manager sessionKey ratchet with
    redis := store.redis.set sessionKey (sessionState.advanced ratchet) }

theorem takeKey_ensures (recorded : store.redis.get sessionKey = some sessionState)
    (step : RatchetStep) (number : Nat) :
    (takeKey manager sessionKey step).Ensures (exec hmac) (fun _ => ())
      (fun _ after outcome =>
        after = store.keep manager sessionKey
            (step.apply hmac (working hmac store manager sessionKey sessionState)).1 ∧
          outcome = .ok (step.apply hmac (working hmac store manager sessionKey sessionState)).2)
      number store := by
  unfold takeKey working
  cases held : store.ratchet? manager sessionKey with
  | some ratchet =>
    have advanced : exec hmac store (.advance manager sessionKey step) () =
        (store.keep manager sessionKey (step.apply hmac ratchet).1,
          some (step.apply hmac ratchet).2) := by
      simp only [exec, held]
      rfl
    exact ensures_command_bind advanced ⟨rfl, rfl⟩
  | none =>
    have absent : exec hmac store (.advance manager sessionKey step) () = (store, none) := by
      simp only [exec, held]
      rfl
    have loaded : exec hmac store (.load sessionKey) () = (store, some sessionState) := by
      simp only [exec, recorded]
      rfl
    refine ensures_command_bind absent ?_
    exact ensures_command_bind loaded ⟨rfl, rfl⟩

theorem updateSessionState_ensures (recorded : store.redis.get sessionKey = some sessionState)
    (ratchet : DoubleRatchet) (number : Nat) :
    (updateSessionState sessionKeyLifetimeHours manager sessionKey).Ensures (exec hmac)
      (fun _ => ())
      (fun _ after outcome => after = written store manager sessionKey sessionState ratchet ∧
        outcome = .ok ())
      number (store.keep manager sessionKey ratchet) := by
  have loaded : exec hmac (store.keep manager sessionKey ratchet) (.load sessionKey) () =
      (store.keep manager sessionKey ratchet, some sessionState) := by
    simp only [exec, SessionStore.redis_keep, recorded]
    rfl
  have held : exec hmac (store.keep manager sessionKey ratchet) (.ratchet manager sessionKey) () =
      (store.keep manager sessionKey ratchet, some ratchet) := by
    simp only [exec, SessionStore.ratchet?_keep_self]
    rfl
  refine ensures_command_bind loaded ?_
  exact ensures_command_bind held ⟨rfl, rfl⟩

/-- A call on a session with a record takes its key off the ratchet it works on, and writes
the record of that ratchet. -/
theorem runAlone_bodyOf (recorded : store.redis.get (getSessionKey conversationId userId) =
      some sessionState) (call : SessionCall) :
    let sessionKey := getSessionKey conversationId userId
    let step := (stepOf call).apply hmac (working hmac store manager sessionKey sessionState)
    runAlone hmac store (bodyOf sessionKeyLifetimeHours manager conversationId userId call) =
      (written store manager sessionKey sessionState step.1, .ok step.2) := by
  intro sessionKey step
  have ends : (bodyOf sessionKeyLifetimeHours manager conversationId userId call).Ensures
      (exec hmac) (fun _ => ())
      (fun _ after outcome => after = written store manager sessionKey sessionState step.1 ∧
        outcome = .ok step.2) 0 store := by
    cases call with
    | getMessageKey =>
      refine ensures_bind ((takeKey_ensures recorded .sending 0).mono ?_)
      rintro number after _ ⟨rfl, rfl⟩
      refine ensures_bind ((updateSessionState_ensures sessionKeyLifetimeHours recorded _
        number).mono ?_)
      rintro number after _ ⟨rfl, rfl⟩
      exact ⟨rfl, rfl⟩
    | decryptMessage messageNumber chainLength =>
      refine ensures_bind ((takeKey_ensures recorded
        (.receiving messageNumber chainLength) 0).mono ?_)
      rintro number after _ ⟨rfl, rfl⟩
      refine ensures_bind ((updateSessionState_ensures sessionKeyLifetimeHours recorded _
        number).mono ?_)
      rintro number after _ ⟨rfl, rfl⟩
      exact ⟨rfl, rfl⟩
  obtain ⟨after, outcome⟩ := ensures_iff_run.mp ends
  exact Prod.ext after outcome

end Calls

section Runs

variable {hmac sessionKeyLifetimeHours manager conversationId userId}
  {stores : SessionStore × SessionStore}

/-- Both stores have the same record of the session, which has the chains of the ratchets in
memory; only the second one must have one. -/
structure InStep (manager : Nat) (sessionKey : String) (stores : SessionStore × SessionStore) :
    Prop where
  recorded : ∃ sessionState ratchet, stores.1.redis.get sessionKey = some sessionState ∧
    stores.2.redis.get sessionKey = some sessionState ∧
      stores.2.ratchet? manager sessionKey = some ratchet ∧ Records sessionState ratchet ∧
        ∀ other, stores.1.ratchet? manager sessionKey = some other → Records sessionState other

theorem InStep.call (inStep : InStep manager (getSessionKey conversationId userId) stores)
    (call : SessionCall) (remembers : Remembers manager conversationId userId stores (.call call)) :
    let session := session hmac sessionKeyLifetimeHours manager conversationId userId
    InStep manager (getSessionKey conversationId userId)
        ((session.step stores.1 (.call call)).1, (session.step stores.2 (.call call)).1) ∧
      (session.step stores.1 (.call call)).2 = (session.step stores.2 (.call call)).2 := by
  obtain ⟨sessionState, ratchet, recorded, recorded', held, records, others⟩ := inStep.recorded
  set sessionKey := getSessionKey conversationId userId with key
  have works : working hmac stores.2 manager sessionKey sessionState = ratchet := by
    rw [working, held]
    rfl
  have same : SameChains (working hmac stores.1 manager sessionKey sessionState) ratchet := by
    unfold working
    cases found : stores.1.ratchet? manager sessionKey with
    | none => exact records.restored.same records
    | some other => exact (others other found).same records
  obtain ⟨chains, answer⟩ := @SameChains.apply hmac _ _ same (stepOf call) fun number length is => by
    cases call with
    | getMessageKey => cases is
    | decryptMessage =>
      cases is
      have remembers : skipped? manager conversationId userId stores.1 number length =
        skipped? manager conversationId userId stores.2 number length := remembers
      simp only [skipped?, ← key, held, Option.bind_some] at remembers
      rw [← remembers, working]
      cases stores.1.ratchet? manager sessionKey with
      | none | some => rfl
  have first := @runAlone_bodyOf hmac sessionKeyLifetimeHours manager conversationId userId _ _
    recorded call
  have second := @runAlone_bodyOf hmac sessionKeyLifetimeHours manager conversationId userId _ _
    recorded' call
  dsimp only at first second
  rw [← key] at first second
  rw [works] at second
  dsimp only [session]
  rw [first, second]
  refine ⟨⟨_, _, ?_, get_set_self _ _ _, SessionStore.ratchet?_keep_self,
    records_advanced, ?_⟩, congrArg (some ∘ Except.ok) answer⟩
  · rw [← advanced_of_sameChains chains]
    exact get_set_self _ _ _
  · intro other found
    obtain rfl := Option.some.inj (found.symm.trans SessionStore.ratchet?_keep_self)
    rw [← advanced_of_sameChains chains]
    exact records_advanced

theorem InStep.restart {sessionKey : String} (inStep : InStep manager sessionKey stores) :
    InStep manager sessionKey (stores.1.restart manager, stores.2) := by
  obtain ⟨sessionState, ratchet, recorded, recorded', held, records, -⟩ := inStep.recorded
  refine ⟨sessionState, ratchet, recorded, recorded', held, records, ?_⟩
  intro other found
  rw [SessionStore.ratchet?_restart_self] at found
  cases found

theorem inStep_opened (store : SessionStore) (partnerId sharedSecret : String) (isInitiator : Bool)
    (createdAt lastRotation : Int) :
    let opened := opened hmac sessionKeyLifetimeHours manager conversationId userId store partnerId
      sharedSecret isInitiator createdAt lastRotation
    InStep manager (getSessionKey conversationId userId) (opened, opened) := by
  refine ⟨_, _, get_set_self _ _ _, get_set_self _ _ _,
    SessionStore.ratchet?_keep_self, ⟨rfl, rfl, rfl, rfl⟩, ?_⟩
  intro other found
  obtain rfl := Option.some.inj (found.symm.trans SessionStore.ratchet?_keep_self)
  exact ⟨rfl, rfl, rfl, rfl⟩

theorem InStep.answers (inStep : InStep manager (getSessionKey conversationId userId) stores)
    {events : List SessionEvent}
    (remembers : (alongside hmac sessionKeyLifetimeHours manager conversationId userId).Admits
      (Remembers manager conversationId userId) stores events) :
    answers hmac sessionKeyLifetimeHours manager conversationId userId stores.1 events =
      answers hmac sessionKeyLifetimeHours manager conversationId userId stores.2
        (events.filter isCall) := by
  induction events generalizing stores with
  | nil => rfl
  | cons event rest ih =>
    cases event with
    | restart => exact ih inStep.restart remembers.2
    | call call =>
      obtain ⟨next, answer⟩ := inStep.call call remembers.1
      have later := ih next remembers.2
      have filtered : (SessionEvent.call call :: rest).filter isCall =
        .call call :: rest.filter isCall := rfl
      unfold answers at later ⊢
      rw [filtered, Transducer.outputs_cons, Transducer.outputs_cons, answer,
        List.filterMap_cons, List.filterMap_cons, later]

end Runs

/-- A session that is restarted at any points answers its calls as if it were not, as long as
each message number that is asked for finds the same skipped key, or none, with the restarts
and without them. -/
theorem restarts_are_transparent (hmac : Buffer → Buffer → Buffer)
    (sessionKeyLifetimeHours manager : Nat)
    (conversationId userId partnerId sharedSecret : String) (isInitiator : Bool)
    (createdAt lastRotation : Int) (store : SessionStore) (events : List SessionEvent) (remembers :
      let opened := opened hmac sessionKeyLifetimeHours manager conversationId userId store
        partnerId sharedSecret isInitiator createdAt lastRotation
      (alongside hmac sessionKeyLifetimeHours manager conversationId userId).Admits
        (Remembers manager conversationId userId) (opened, opened) events) :
    let opened := opened hmac sessionKeyLifetimeHours manager conversationId userId store
      partnerId sharedSecret isInitiator createdAt lastRotation
    answers hmac sessionKeyLifetimeHours manager conversationId userId opened events =
      answers hmac sessionKeyLifetimeHours manager conversationId userId opened
        (events.filter isCall) :=
  (inStep_opened store partnerId sharedSecret isInitiator createdAt lastRotation).answers remembers

section Sample

def sampleSession : SessionStore :=
  opened List.append 24 0 "c" "u" ⟨.empty, fun _ => .empty⟩ "v" "ab" true 0 0

def sampleAnswers (events : List SessionEvent) : List (Outcome String) :=
  answers List.append 24 0 "c" "u" sampleSession events

/-- A restart between messages that come in order. -/
theorem ordered_messages_survive :
    sampleAnswers [.call .getMessageKey, .restart, .call (.decryptMessage 0 0)] =
      sampleAnswers [.call .getMessageKey, .call (.decryptMessage 0 0)] :=
  restarts_are_transparent List.append 24 0 "c" "u" "v" "ab" true 0 0 ⟨.empty, fun _ => .empty⟩
    [.call .getMessageKey, .restart, .call (.decryptMessage 0 0)] ⟨trivial, trivial, rfl, trivial⟩

/-- A restart loses the key of a message that was skipped before it. -/
theorem skipped_key_is_lost :
    ¬ ∀ events, sampleAnswers events = sampleAnswers (events.filter isCall) := by
  intro transparent
  have same := transparent [.call (.decryptMessage 1 0), .restart, .call (.decryptMessage 0 0)]
  revert same
  decide +kernel

end Sample

end Caas.E2e.SessionKeyManager
