import Std.Data.String.ToNat
import Caas.E2e.DoubleRatchet
import Caas.Machine.Transducer

/-!
# The receiving chain

A fresh party receives the messages of one chain in any order. As long as the
chain has not passed a message number, or still stores the key it skipped for it,
the party derives the key of that number and the chain stands where its length
says. A number that the chain has passed and whose key is gone (received before,
or evicted) moves the chain on and its length back.
-/

namespace Caas.E2e.DoubleRatchet

open Js

/-- The party as a receiver of messages of one chain, by their numbers. -/
def receiver (hmac : Buffer → Buffer → Buffer) (chainLength : Nat) :
    Transducer DoubleRatchet Nat String where
  step ratchet messageNumber := ratchetReceivingChain hmac ratchet messageNumber chainLength

/-- The call derives the key of the message number, leaves the chain where its length says,
and does not shorten it. The chain starts at `origin`. -/
def ReceivesMessage (hmac : Buffer → Buffer → Buffer) (origin : Buffer) (chainLength : Nat)
    (ratchet : DoubleRatchet) (messageNumber : Nat) : Prop :=
  (ratchetReceivingChain hmac ratchet messageNumber chainLength).2 =
      Buffer.toHex (deriveMessageKey hmac ((advanceChainKey hmac)^[messageNumber] origin)
        messageNumber) ∧
    (ratchetReceivingChain hmac ratchet messageNumber chainLength).1.receivingChainKey =
      (advanceChainKey hmac)^[(ratchetReceivingChain hmac ratchet messageNumber
        chainLength).1.receivingChainLength] origin ∧
    ratchet.receivingChainLength ≤
      (ratchetReceivingChain hmac ratchet messageNumber chainLength).1.receivingChainLength

/-- The chain has not passed the message number, or stores the key skipped for it. -/
def Derivable (chainLength : Nat) (ratchet : DoubleRatchet) (messageNumber : Nat) : Prop :=
  ratchet.receivingChainLength ≤ messageNumber ∨
    (ratchet.skippedMessageKeys.get (skippedKey chainLength messageNumber)).isSome

theorem skippedKey_inj {chainLength messageNumber other : Nat}
    (same : skippedKey chainLength messageNumber = skippedKey chainLength other) :
    messageNumber = other :=
  Nat.repr_injective ((String.append_right_inj _).mp same)

variable {hmac : Buffer → Buffer → Buffer} {origin : Buffer} {chainLength : Nat}
  {ratchet : DoubleRatchet}

/-- The skipped keys are keys of their message numbers. -/
def SkipsOn (hmac : Buffer → Buffer → Buffer) (origin : Buffer) (chainLength : Nat)
    (keys : OrderedMap String Buffer) : Prop :=
  ∀ messageNumber key, keys.get (skippedKey chainLength messageNumber) = some key →
    key = deriveMessageKey hmac ((advanceChainKey hmac)^[messageNumber] origin) messageNumber

/-- The chain stands where its length says, and has stored what it has skipped. -/
structure Positioned (hmac : Buffer → Buffer → Buffer) (origin : Buffer) (chainLength : Nat)
    (ratchet : DoubleRatchet) : Prop where
  chain : ratchet.receivingChainKey =
    (advanceChainKey hmac)^[ratchet.receivingChainLength] origin
  skipped : SkipsOn hmac origin chainLength ratchet.skippedMessageKeys

theorem SkipsOn.set {keys : OrderedMap String Buffer} (skips : SkipsOn hmac origin chainLength keys)
    (index : Nat) : SkipsOn hmac origin chainLength (keys.set (skippedKey chainLength index)
      (deriveMessageKey hmac ((advanceChainKey hmac)^[index] origin) index)) := by
  intro messageNumber key found
  rw [OrderedMap.get_set] at found
  split at found
  · rename_i same
    obtain rfl := skippedKey_inj same
    exact (Option.some.inj found).symm
  · exact skips messageNumber key found

theorem SkipsOn.delete {keys : OrderedMap String Buffer}
    (skips : SkipsOn hmac origin chainLength keys) (removed : String) :
    SkipsOn hmac origin chainLength (keys.delete removed) := by
  intro messageNumber key found
  rw [OrderedMap.get_delete] at found
  split at found
  · cases found
  · exact skips messageNumber key found

theorem skipMessages_positioned (count index : Nat)
    (chain : ratchet.receivingChainKey = (advanceChainKey hmac)^[index] origin)
    (skipped : SkipsOn hmac origin chainLength ratchet.skippedMessageKeys) :
    (skipMessages hmac chainLength ratchet index count).receivingChainKey =
        (advanceChainKey hmac)^[index + count] origin ∧ SkipsOn hmac origin chainLength
        (skipMessages hmac chainLength ratchet index count).skippedMessageKeys := by
  induction count generalizing ratchet index with
  | zero => exact ⟨chain, skipped⟩
  | succ count ih =>
    have moved : index + (count + 1) = index + 1 + count := by omega
    rw [moved]
    refine ih (index + 1) ?_ ?_
    · rw [Function.iterate_succ_apply']
      exact congrArg (advanceChainKey hmac) chain
    · have set := skipped.set index
      rw [← chain] at set
      exact set

/-- A message whose key is derivable is received, and the chain stays positioned. -/
theorem Positioned.receive (positioned : Positioned hmac origin chainLength ratchet)
    {messageNumber : Nat} (derivable : Derivable chainLength ratchet messageNumber) :
    ReceivesMessage hmac origin chainLength ratchet messageNumber ∧
      Positioned hmac origin chainLength
        (ratchetReceivingChain hmac ratchet messageNumber chainLength).1 := by
  unfold ReceivesMessage ratchetReceivingChain
  cases found : ratchet.skippedMessageKeys.get (skippedKey chainLength messageNumber) with
  | some key =>
    refine ⟨⟨?_, positioned.chain, Nat.le_refl _⟩, positioned.chain, ?_⟩
    · exact congrArg Buffer.toHex (positioned.skipped messageNumber key found)
    · exact positioned.skipped.delete _
  | none =>
    have ahead : ratchet.receivingChainLength ≤ messageNumber := by
      rcases derivable with ahead | stored
      · exact ahead
      · rw [found] at stored
        cases stored
    obtain ⟨chain, skipped⟩ := skipMessages_positioned
      (messageNumber - ratchet.receivingChainLength) _ positioned.chain positioned.skipped
    rw [Nat.add_sub_cancel' ahead] at chain
    have next : advanceChainKey hmac (skipMessages hmac chainLength ratchet
        ratchet.receivingChainLength
        (messageNumber - ratchet.receivingChainLength)).receivingChainKey =
          (advanceChainKey hmac)^[messageNumber + 1] origin := by
      rw [chain, Function.iterate_succ_apply']
    refine ⟨⟨?_, next, Nat.le_succ_of_le ahead⟩, next, ?_⟩
    · exact congrArg (fun key => Buffer.toHex (deriveMessageKey hmac key messageNumber)) chain
    · intro number key kept
      exact skipped number key (get_cleanup kept)

/-- A message whose key is not derivable is not received, unless a chain key follows
itself. -/
theorem Positioned.derivable_of_receives (positioned : Positioned hmac origin chainLength ratchet)
    (moves : ∀ chainKey, advanceChainKey hmac chainKey ≠ chainKey) {messageNumber : Nat}
    (receives : ReceivesMessage hmac origin chainLength ratchet messageNumber) :
    Derivable chainLength ratchet messageNumber := by
  rcases Nat.lt_or_ge messageNumber ratchet.receivingChainLength with passed | ahead
  · right
    cases found : ratchet.skippedMessageKeys.get (skippedKey chainLength messageNumber) with
    | some key => rfl
    | none =>
      exfalso
      have skips : messageNumber - ratchet.receivingChainLength = 0 := by omega
      obtain ⟨-, chain, kept⟩ := receives
      simp only [ratchetReceivingChain, found, skips, skipMessages] at chain kept
      have last : messageNumber + 1 = ratchet.receivingChainLength := by omega
      rw [last, ← positioned.chain] at chain
      exact moves _ chain
  · exact .inl ahead

theorem positioned_new (sharedSecret : String) (isInitiator : Bool) :
    Positioned hmac (new hmac sharedSecret isInitiator).receivingChainKey chainLength
      (new hmac sharedSecret isInitiator) where
  chain := rfl
  skipped _ _ found := nomatch found

/-- When no chain key follows itself, a party receives a run of messages exactly when each
of them is derivable as it comes. -/
theorem receives_iff_derivable (moves : ∀ chainKey, advanceChainKey hmac chainKey ≠ chainKey)
    (positioned : Positioned hmac origin chainLength ratchet) (numbers : List Nat) :
    (receiver hmac chainLength).Admits (ReceivesMessage hmac origin chainLength) ratchet numbers ↔
      (receiver hmac chainLength).Admits (Derivable chainLength) ratchet numbers := by
  induction numbers generalizing ratchet with
  | nil => exact Iff.rfl
  | cons number rest ih =>
    constructor
    · rintro ⟨receives, later⟩
      have derivable := positioned.derivable_of_receives moves receives
      exact ⟨derivable, (ih (positioned.receive derivable).2).mp later⟩
    · rintro ⟨derivable, later⟩
      obtain ⟨receives, next⟩ := positioned.receive derivable
      exact ⟨receives, (ih next).mpr later⟩

/-- A fresh party that is asked for derivable message keys only derives the key of every
message number, and its chain stands where its length says, which never falls. -/
theorem receiving_chain_is_correct (hmac : Buffer → Buffer → Buffer) (sharedSecret : String)
    (isInitiator : Bool) (chainLength : Nat) (numbers : List Nat)
    (derivable : (receiver hmac chainLength).Admits (Derivable chainLength)
      (new hmac sharedSecret isInitiator) numbers) : (receiver hmac chainLength).Admits
      (ReceivesMessage hmac (new hmac sharedSecret isInitiator).receivingChainKey chainLength)
      (new hmac sharedSecret isInitiator) numbers := by
  have start : Positioned hmac (new hmac sharedSecret isInitiator).receivingChainKey chainLength
      (new hmac sharedSecret isInitiator) := positioned_new sharedSecret isInitiator
  refine derivable.imp (fun ratchet number positioned derivable => ?_)
    (fun ratchet number positioned derivable => ?_) start
  · exact (positioned.receive derivable).2
  · exact (positioned.receive derivable).1

/-- The second message comes before the first. -/
theorem late_message_is_received : (receiver List.append 0).Admits
      (ReceivesMessage List.append (new List.append "ab" true).receivingChainKey 0)
      (new List.append "ab" true) [1, 0, 2] := by
  refine receiving_chain_is_correct List.append "ab" true 0 [1, 0, 2] ⟨?_, ?_, ?_, trivial⟩
  · exact .inl (Nat.zero_le 1)
  · exact .inr rfl
  · exact .inl (Nat.le_refl 2)

/-- A message that is received again shortens the chain. -/
theorem replay_shortens_chain : ¬ ∀ numbers : List Nat, (receiver List.append 0).Admits
      (ReceivesMessage List.append (new List.append "ab" true).receivingChainKey 0)
      (new List.append "ab" true) numbers := by
  intro receives
  obtain ⟨-, -, ⟨-, -, kept⟩, -⟩ := receives [1, 0, 0]
  have shorter : ((receiver (List.append : Buffer → Buffer → Buffer) 0).run
      (new List.append "ab" true) [1, 0, 0]).receivingChainLength = 1 := rfl
  have longer : ((receiver (List.append : Buffer → Buffer → Buffer) 0).run
      (new List.append "ab" true) [1, 0]).receivingChainLength = 2 := rfl
  change ((receiver (List.append : Buffer → Buffer → Buffer) 0).run
      (new List.append "ab" true) [1, 0]).receivingChainLength ≤
    ((receiver (List.append : Buffer → Buffer → Buffer) 0).run
      (new List.append "ab" true) [1, 0, 0]).receivingChainLength at kept
  rw [shorter, longer] at kept
  omega

end Caas.E2e.DoubleRatchet
