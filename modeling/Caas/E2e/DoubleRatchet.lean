import Mathlib.Logic.Function.Basic
import Mathlib.Logic.Function.Iterate
import Caas.Js.Buffer
import Caas.Js.OrderedMap

/-!
# The double ratchet

Two chains of keys, one for sending and one for receiving, with a store for the
message keys that an early message skips. `hmac key message` is the keyed hash,
the `update` calls of the source being concatenated into one message.

The constructor takes the role of the party and does not use it.
-/

namespace Caas.E2e

open Js OrderedMap

structure DoubleRatchet where
  rootKey : Buffer
  sendingChainKey : Buffer
  receivingChainKey : Buffer
  sendingChainLength : Nat
  receivingChainLength : Nat
  skippedMessageKeys : OrderedMap String Buffer
deriving DecidableEq

namespace DoubleRatchet

variable (hmac : Buffer → Buffer → Buffer)

def deriveChainKey (rootKey : Buffer) (purpose : String) : Buffer × Buffer :=
  (hmac rootKey (Buffer.ofUtf8 purpose ++ [1]), hmac rootKey (Buffer.ofUtf8 purpose ++ [2]))

/-- The low four bytes of a message number. -/
def indexBytes (index : Nat) : Buffer :=
  [Fin.ofNat 256 index, Fin.ofNat 256 (index / 0x100), Fin.ofNat 256 (index / 0x10000),
    Fin.ofNat 256 (index / 0x1000000)]

def deriveMessageKey (chainKey : Buffer) (index : Nat) : Buffer :=
  hmac chainKey (Buffer.ofUtf8 "message-key" ++ indexBytes index)

def advanceChainKey (chainKey : Buffer) : Buffer := hmac chainKey [2]

def new (sharedSecret : String) (_isInitiator : Bool) : DoubleRatchet :=
  let sending := deriveChainKey hmac (Buffer.ofHex sharedSecret) "sending"
  let receiving := deriveChainKey hmac sending.2 "receiving"
  { rootKey := sending.2
    sendingChainKey := sending.1
    receivingChainKey := receiving.1
    sendingChainLength := 0
    receivingChainLength := 0
    skippedMessageKeys := .empty }

def ratchetSendingChain (ratchet : DoubleRatchet) : DoubleRatchet × String :=
  ({ ratchet with
      sendingChainKey := advanceChainKey hmac ratchet.sendingChainKey
      sendingChainLength := ratchet.sendingChainLength + 1 },
    Buffer.toHex (deriveMessageKey hmac ratchet.sendingChainKey ratchet.sendingChainLength))

/-- The key under which a skipped message key is stored. -/
def skippedKey (chainLength messageNumber : Nat) : String :=
  toString chainLength ++ ":" ++ toString messageNumber

/-- The loop over the messages from `index` on that an early message skips. -/
def skipMessages (chainLength : Nat) (ratchet : DoubleRatchet) (index : Nat) :
    Nat → DoubleRatchet
  | 0 => ratchet
  | count + 1 =>
    skipMessages chainLength
      { ratchet with
        skippedMessageKeys := ratchet.skippedMessageKeys.set (skippedKey chainLength index)
          (deriveMessageKey hmac ratchet.receivingChainKey index)
        receivingChainKey := advanceChainKey hmac ratchet.receivingChainKey }
      (index + 1) count

/-- Beyond a hundred stored keys the fifty oldest are dropped. -/
def cleanup (keys : OrderedMap String Buffer) : OrderedMap String Buffer :=
  if keys.size > 100 then
    ((keys.entries.map Prod.fst).take 50).foldl (fun kept key => kept.delete key) keys
  else keys

def ratchetReceivingChain (ratchet : DoubleRatchet) (messageNumber chainLength : Nat) :
    DoubleRatchet × String :=
  match ratchet.skippedMessageKeys.get (skippedKey chainLength messageNumber) with
  | some key =>
    ({ ratchet with skippedMessageKeys :=
        ratchet.skippedMessageKeys.delete (skippedKey chainLength messageNumber) },
      Buffer.toHex key)
  | none =>
    -- The subtraction is zero for a message that is not early.
    let skipped := skipMessages hmac chainLength ratchet ratchet.receivingChainLength
      (messageNumber - ratchet.receivingChainLength)
    ({ skipped with
        receivingChainKey := advanceChainKey hmac skipped.receivingChainKey
        receivingChainLength := messageNumber + 1
        skippedMessageKeys := cleanup skipped.skippedMessageKeys },
      Buffer.toHex (deriveMessageKey hmac skipped.receivingChainKey messageNumber))

/-- Take over the chains of a party whose state has been kept. -/
def restore (ratchet : DoubleRatchet) (sendingChainKey receivingChainKey : String)
    (sendingChainLength receivingChainLength : Nat) : DoubleRatchet :=
  { ratchet with
    sendingChainKey := Buffer.ofHex sendingChainKey
    receivingChainKey := Buffer.ofHex receivingChainKey
    sendingChainLength
    receivingChainLength }

/-- The party after `count` sent messages. -/
def sendMany (ratchet : DoubleRatchet) (count : Nat) : DoubleRatchet :=
  (fun current => (ratchetSendingChain hmac current).1)^[count] ratchet

/-- The party after receiving messages, each with its number and its chain. -/
def receiveMany (ratchet : DoubleRatchet) (messages : List (Nat × Nat)) : DoubleRatchet :=
  messages.foldl (fun current message =>
    (ratchetReceivingChain hmac current message.1 message.2).1) ratchet

/-- The party's `count`-th sending key. -/
def sendingKey (ratchet : DoubleRatchet) (count : Nat) : String :=
  (ratchetSendingChain hmac (sendMany hmac ratchet count)).2

/-- The key the party derives for a message number, after receiving other messages. -/
def receivingKey (ratchet : DoubleRatchet) (received : List (Nat × Nat))
    (messageNumber chainLength : Nat) : String :=
  (ratchetReceivingChain hmac (receiveMany hmac ratchet received) messageNumber chainLength).2

section Chains

variable {hmac}

theorem sendMany_eq (ratchet : DoubleRatchet) (count : Nat) : sendMany hmac ratchet count =
      { ratchet with
        sendingChainKey := (advanceChainKey hmac)^[count] ratchet.sendingChainKey
        sendingChainLength := ratchet.sendingChainLength + count } := by
  induction count with
  | zero => rfl
  | succ count ih =>
    have next : sendMany hmac ratchet (count + 1) =
        (ratchetSendingChain hmac (sendMany hmac ratchet count)).1 :=
      Function.iterate_succ_apply' _ _ _
    rw [next, ih]
    simp [ratchetSendingChain, Function.iterate_succ_apply', Nat.add_assoc]

theorem sendingKey_eq (ratchet : DoubleRatchet) (count : Nat) : sendingKey hmac ratchet count =
      Buffer.toHex (deriveMessageKey hmac ((advanceChainKey hmac)^[count] ratchet.sendingChainKey)
        (ratchet.sendingChainLength + count)) := by
  rw [sendingKey, sendMany_eq]
  rfl

/-- A key on the chain that starts at `origin`. -/
def OnChain (hmac : Buffer → Buffer → Buffer) (origin chainKey : Buffer) : Prop :=
  ∃ position, chainKey = (advanceChainKey hmac)^[position] origin

/-- A message key of the chain that starts at `origin`. -/
def MessageKeyOf (hmac : Buffer → Buffer → Buffer) (origin key : Buffer) : Prop :=
  ∃ chainKey index, OnChain hmac origin chainKey ∧ key = deriveMessageKey hmac chainKey index

variable {origin : Buffer} {ratchet : DoubleRatchet}

theorem OnChain.advance {chainKey : Buffer} (onChain : OnChain hmac origin chainKey) :
    OnChain hmac origin (advanceChainKey hmac chainKey) := by
  obtain ⟨position, rfl⟩ := onChain
  exact ⟨position + 1, (Function.iterate_succ_apply' _ _ _).symm⟩

/-- All receiving keys of the party are on the chain that starts at `origin`. -/
structure ReceivesOn (hmac : Buffer → Buffer → Buffer) (origin : Buffer)
    (ratchet : DoubleRatchet) : Prop where
  chain : OnChain hmac origin ratchet.receivingChainKey
  skipped : ∀ key stored, ratchet.skippedMessageKeys.get key = some stored →
    MessageKeyOf hmac origin stored

theorem ReceivesOn.skipMessages (receives : ReceivesOn hmac origin ratchet)
    (chainLength index count : Nat) :
    ReceivesOn hmac origin (skipMessages hmac chainLength ratchet index count) := by
  induction count generalizing ratchet index with
  | zero => exact receives
  | succ count ih =>
    refine ih ⟨receives.chain.advance, ?_⟩ (index + 1)
    intro key stored found
    rw [get_set] at found
    by_cases same : skippedKey chainLength index = key
    · rw [if_pos same] at found
      cases found
      exact ⟨_, index, receives.chain, rfl⟩
    · rw [if_neg same] at found
      exact receives.skipped key stored found

theorem get_foldl_delete {keys : List String} {map : OrderedMap String Buffer} {key : String}
    {stored : Buffer}
    (found : (keys.foldl (fun kept key => kept.delete key) map).get key = some stored) :
    map.get key = some stored := by
  induction keys generalizing map with
  | nil => exact found
  | cons first rest ih =>
    have kept := ih found
    rw [get_delete] at kept
    by_cases same : first = key
    · simp [same] at kept
    · simpa [same] using kept

theorem get_cleanup {map : OrderedMap String Buffer} {key : String} {stored : Buffer}
    (found : (cleanup map).get key = some stored) : map.get key = some stored := by
  unfold cleanup at found
  split at found
  · exact get_foldl_delete found
  · exact found

theorem ReceivesOn.receive (receives : ReceivesOn hmac origin ratchet)
    (messageNumber chainLength : Nat) :
    ReceivesOn hmac origin (ratchetReceivingChain hmac ratchet messageNumber chainLength).1 ∧
      ∃ key, (ratchetReceivingChain hmac ratchet messageNumber chainLength).2 = Buffer.toHex key ∧
        MessageKeyOf hmac origin key := by
  unfold ratchetReceivingChain
  cases found : ratchet.skippedMessageKeys.get (skippedKey chainLength messageNumber) with
  | some stored =>
    refine ⟨⟨receives.chain, ?_⟩, stored, rfl, receives.skipped _ _ found⟩
    intro key other kept
    rw [get_delete] at kept
    by_cases same : skippedKey chainLength messageNumber = key
    · simp [same] at kept
    · exact receives.skipped key other (by simpa [same] using kept)
  | none =>
    have skips := receives.skipMessages chainLength ratchet.receivingChainLength
      (messageNumber - ratchet.receivingChainLength)
    refine ⟨⟨skips.chain.advance, ?_⟩, _, rfl, _, messageNumber, skips.chain, rfl⟩
    intro key stored kept
    exact skips.skipped key stored (get_cleanup kept)

theorem receivingKey_messageKeyOf (receives : ReceivesOn hmac origin ratchet)
    (received : List (Nat × Nat)) (messageNumber chainLength : Nat) :
    ∃ key, receivingKey hmac ratchet received messageNumber chainLength = Buffer.toHex key ∧
      MessageKeyOf hmac origin key := by
  have after : ReceivesOn hmac origin (receiveMany hmac ratchet received) := by
    induction received generalizing ratchet with
    | nil => exact receives
    | cons message rest ih => exact ih (receives.receive message.1 message.2).1
  exact (after.receive messageNumber chainLength).2

end Chains

end DoubleRatchet

end Caas.E2e

/-!
## Agreement of the two parties

Two parties agree when the receiving chain of one is the sending chain of the
other. The constructor splits the root alike for both roles, so a party's
receiving chain is neither its own nor its peer's sending chain, and both parties
send under the same keys. With an injective `hmac` no two keys of the two chains
coincide, however far each of them has advanced.
-/

namespace Caas.E2e.DoubleRatchet

open Js

variable {hmac : Buffer → Buffer → Buffer}

/-- Chains that start from different messages, neither of which advances a chain,
never meet. -/
theorem chains_disjoint (injective : Function.Injective2 hmac)
    {root root' message message' : Buffer}
    (different : message ≠ message') (start : message ≠ [2]) (start' : message' ≠ [2])
    (position position' : Nat) : (advanceChainKey hmac)^[position] (hmac root message) ≠
      (advanceChainKey hmac)^[position'] (hmac root' message') := by
  induction position generalizing position' with
  | zero =>
    cases position' with
    | zero =>
      intro equal
      exact different (injective equal).2
    | succ position' =>
      intro equal
      rw [Function.iterate_succ_apply'] at equal
      exact start (injective equal).2
  | succ position ih =>
    cases position' with
    | zero =>
      intro equal
      rw [Function.iterate_succ_apply'] at equal
      exact start' (injective equal.symm).2
    | succ position' =>
      intro equal
      rw [Function.iterate_succ_apply', Function.iterate_succ_apply'] at equal
      exact ih position' (injective equal).1

theorem receivesOn_new (sharedSecret : String) (isInitiator : Bool) :
    ReceivesOn hmac (new hmac sharedSecret false).receivingChainKey
      (new hmac sharedSecret isInitiator) where
  chain := ⟨0, rfl⟩
  skipped := by
    intro key stored found
    cases found

/-- No receiving key of a party, whatever it has received, is a sending key of a party
of either role. -/
theorem receivingKey_ne_sendingKey (injective : Function.Injective2 hmac) (sharedSecret : String)
    (receiver sender : Bool) (received : List (Nat × Nat)) (messageNumber chainLength count : Nat) :
    receivingKey hmac (new hmac sharedSecret receiver) received messageNumber chainLength ≠
      sendingKey hmac (new hmac sharedSecret sender) count := by
  obtain ⟨key, derived, chainKey, index, ⟨position, rfl⟩, rfl⟩ :=
    receivingKey_messageKeyOf (receivesOn_new sharedSecret receiver) received messageNumber
      chainLength
  rw [derived, sendingKey_eq]
  intro equal
  have chains := (injective (Buffer.toHex_injective equal)).1
  have purposes : Buffer.ofUtf8 "receiving" ++ [1] ≠ Buffer.ofUtf8 "sending" ++ [1] := by decide
  exact chains_disjoint injective purposes (by decide) (by decide) position count chains

/-- For every shared secret, no message number makes the parties agree: each party's
receiving key differs from its peer's sending key, and both send under the same key. -/
theorem parties_never_agree (hmac : Buffer → Buffer → Buffer) (injective : Function.Injective2 hmac)
    (sharedSecret : String) (received : List (Nat × Nat)) (messageNumber chainLength : Nat) :
    let initiator := new hmac sharedSecret true
    let responder := new hmac sharedSecret false
    receivingKey hmac responder received messageNumber chainLength ≠
        sendingKey hmac initiator messageNumber ∧
      receivingKey hmac initiator received messageNumber chainLength ≠
        sendingKey hmac responder messageNumber ∧
      sendingKey hmac initiator messageNumber = sendingKey hmac responder messageNumber := by
  intro initiator responder
  refine ⟨?_, ?_, rfl⟩
  · exact receivingKey_ne_sendingKey injective sharedSecret false true received _ _ _
  · exact receivingKey_ne_sendingKey injective sharedSecret true false received _ _ _

/-- An injective keyed hash to evaluate examples with: every byte of the key is marked,
and the message follows. -/
def framed (key message : Buffer) : Buffer :=
  key.flatMap (fun byte => [⟨1, by decide⟩, byte]) ++ ⟨0, by decide⟩ :: message

theorem framed_injective : Function.Injective2 framed := by
  intro key key' message message' equal
  induction key generalizing key' with
  | nil =>
    cases key' with
    | nil => exact ⟨rfl, by simpa [framed] using equal⟩
    | cons byte rest => simp [framed] at equal
  | cons byte rest ih =>
    cases key' with
    | nil => simp [framed] at equal
    | cons byte' rest' =>
      simp only [framed, List.flatMap_cons, List.cons_append, List.nil_append,
        List.cons.injEq, true_and] at equal
      obtain ⟨rfl, rest⟩ := equal
      obtain ⟨rfl, messages⟩ := ih rest
      exact ⟨rfl, messages⟩

/-- The parties of one secret, after a first message. -/
theorem parties_never_agree_framed : receivingKey framed (new framed "ab" false) [(0, 0)] 1 0 ≠
        sendingKey framed (new framed "ab" true) 1 ∧
      receivingKey framed (new framed "ab" true) [(0, 0)] 1 0 ≠
        sendingKey framed (new framed "ab" false) 1 ∧
      sendingKey framed (new framed "ab" true) 1 = sendingKey framed (new framed "ab" false) 1 :=
  parties_never_agree framed framed_injective "ab" [(0, 0)] 1 0

/-- The first key the responder derives is not the first key the initiator sends under. -/
theorem first_keys_differ : receivingKey framed (new framed "ab" false) [] 0 0 ≠
      sendingKey framed (new framed "ab" true) 0 :=
  receivingKey_ne_sendingKey framed_injective "ab" false true [] 0 0 0

end Caas.E2e.DoubleRatchet
