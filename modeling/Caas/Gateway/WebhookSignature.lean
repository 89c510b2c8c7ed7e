import Caas.Js.Buffer
import Caas.Js.Numerals

/-!
# Signatures of webhooks

`generateWebhookSignature` writes a header with the time and the signature of a payload, and
`verifyWebhookSignature` reads one. The signatures are compared by `timingSafeEqual`, which throws
unless both have the same number of bytes; the header comes from outside, and nothing looks at the
length before. `verification_iff` says for which headers the verification is what it should be.

The hash is a parameter. Timestamps are whole numbers of seconds, and exact.
-/

namespace Caas.Gateway

open Js

/-- `crypto.createHmac('sha256', secret).update(data).digest()` -/
abbrev HmacSha256 := String → String → { digest : Buffer // digest.length = 32 }

namespace WebhookSignature

variable (hmac : HmacSha256)

/-- `.digest('hex')` -/
def hexDigest (secret data : String) : String := Buffer.toHex (hmac secret data).val

def signedData (timestamp : Int) (payload : String) : String := toString timestamp ++ "." ++ payload

def generateWebhookSignature (payload secret : String) (timestamp : Int) : String :=
  "t=" ++ toString timestamp ++ ",v1=" ++ hexDigest hmac secret (signedData timestamp payload)

/-- `text.split('v1=')`, with the characters before. -/
def splitV1 (before : List Char) : List Char → List (List Char)
  | [] => [before]
  | 'v' :: '1' :: '=' :: rest => before :: splitV1 [] rest
  | c :: rest => splitV1 (before ++ [c]) rest

def firstPart (start : List Char) (header : String) : Option (List Char) :=
  (header.toList.splitOn ',').find? start.isPrefixOf

/-- `crypto.timingSafeEqual` -/
def timingSafeEqual (left right : Buffer) : Except String Bool :=
  if left.length = right.length then .ok (left = right)
  else .error "RangeError: Input buffers must have the same byte length"

/-- `Math.abs(now - timestamp) > tolerance` -/
def exceeds (tolerance : Number) (now timestamp : Int) : Bool :=
  tolerance.lessThan (.int |now - timestamp|) = some true

/-- `clock` is `Date.now()`. -/
def verifyWebhookSignature (payload secret header : String) (tolerance : Number) (clock : Int) :
    Except String Bool :=
  match firstPart ['t', '='] header, firstPart ['v', '1', '='] header with
  | some timestampPart, some signaturePart =>
    let signature := String.ofList (signaturePart.drop 3)
    match parseInt (String.ofList (timestampPart.drop 2)) with
    | none => .ok false
    | some timestamp =>
      let now := clock / 1000
      if exceeds tolerance now timestamp then .ok false
      else
        let expectedSignature := generateWebhookSignature hmac payload secret timestamp
        let expectedSigValue := String.ofList ((splitV1 [] expectedSignature.toList).getD 1 [])
        timingSafeEqual (Buffer.ofUtf8 signature) (Buffer.ofUtf8 expectedSigValue)
  | _, _ => .ok false

section Texts

theorem splitV1_of_not_mem {chars : List Char} (plain : 'v' ∉ chars) (before : List Char) :
    splitV1 before chars = [before ++ chars] := by
  induction chars generalizing before with
  | nil => rw [splitV1, List.append_nil]
  | cons c rest ih =>
    obtain ⟨other, plain⟩ := not_or.mp (mt List.mem_cons.mpr plain)
    rw [splitV1, ih plain, List.append_assoc, List.singleton_append]
    rintro rest rfl
    exact absurd rfl other

theorem splitV1_append {chars : List Char} (plain : 'v' ∉ chars) (before rest : List Char) :
    splitV1 before (chars ++ 'v' :: '1' :: '=' :: rest) = (before ++ chars) :: splitV1 [] rest := by
  induction chars generalizing before with
  | nil => rw [List.nil_append, splitV1, List.append_nil]
  | cons c chars ih =>
    obtain ⟨other, plain⟩ := not_or.mp (mt List.mem_cons.mpr plain)
    rw [List.cons_append, splitV1, ih plain, List.append_assoc, List.singleton_append]
    rintro rest rfl
    exact absurd rfl other

theorem length_ofUtf8_toHex (buffer : Buffer) :
    (Buffer.ofUtf8 (Buffer.toHex buffer)).length = 2 * buffer.length := by
  have ascii : ∀ digit, (Buffer.hexDigit digit).utf8Size = 1 := by decide
  rw [Buffer.ofUtf8, Buffer.toHex, String.toList_ofList]
  induction buffer with
  | nil => rfl
  | cons byte rest ih =>
    rw [Buffer.hexChars] at ih ⊢
    rw [List.flatMap_cons, List.flatMap_append, List.length_append, ih, List.flatMap_cons,
      List.flatMap_cons, List.flatMap_nil, List.append_nil, List.length_append, List.length_map,
      List.length_map, String.length_utf8EncodeChar, String.length_utf8EncodeChar, ascii, ascii,
      List.length_cons]
    omega

variable (payload secret : String) (timestamp : Int)

theorem length_ofUtf8_hexDigest (data : String) :
    (Buffer.ofUtf8 (hexDigest hmac secret data)).length = 64 := by
  rw [hexDigest, length_ofUtf8_toHex, (hmac secret data).property]

theorem not_mem_hexDigest {secret data : String} {c : Char}
    (other : ∀ digit, Buffer.hexDigit digit ≠ c) : c ∉ (hexDigest hmac secret data).toList := by
  rw [hexDigest, Buffer.toHex, String.toList_ofList]
  exact Buffer.not_mem_hexChars other _

theorem not_mem_timestampPart {c : Char} (letter : c.isDigit = false)
    (other : c ≠ '-' ∧ c ≠ 't' ∧ c ≠ '=') : c ∉ 't' :: '=' :: (toString timestamp).toList := by
  refine List.not_mem_cons_of_ne_of_not_mem other.2.1
    (List.not_mem_cons_of_ne_of_not_mem other.2.2 fun member => ?_)
  obtain digit | minus := mem_toString member
  · exact absurd (letter.symm.trans digit) Bool.false_ne_true
  · exact other.1 minus

theorem toList_generateWebhookSignature :
    (generateWebhookSignature hmac payload secret timestamp).toList =
      ('t' :: '=' :: (toString timestamp).toList) ++ ',' :: 'v' :: '1' :: '=' ::
        (hexDigest hmac secret (signedData timestamp payload)).toList := by
  simp only [generateWebhookSignature, String.toList_append, List.append_assoc]
  rfl

theorem expectedSigValue_eq : String.ofList ((splitV1 []
        (generateWebhookSignature hmac payload secret timestamp).toList).getD 1 []) =
      hexDigest hmac secret (signedData timestamp payload) := by
  have front : 'v' ∉ ('t' :: '=' :: (toString timestamp).toList) ++ [','] := by
    rw [List.mem_append]
    exact not_or.mpr ⟨not_mem_timestampPart timestamp (by decide) (by decide), by decide⟩
  have digest : 'v' ∉ (hexDigest hmac secret (signedData timestamp payload)).toList :=
    not_mem_hexDigest hmac (by decide)
  rw [toList_generateWebhookSignature, List.append_cons, splitV1_append front,
    splitV1_of_not_mem digest]
  exact String.ofList_toList

theorem splitOn_generateWebhookSignature :
    (generateWebhookSignature hmac payload secret timestamp).toList.splitOn ',' =
      ['t' :: '=' :: (toString timestamp).toList, 'v' :: '1' :: '=' ::
        (hexDigest hmac secret (signedData timestamp payload)).toList] := by
  have front : ',' ∉ 't' :: '=' :: (toString timestamp).toList :=
    not_mem_timestampPart timestamp (by decide) (by decide)
  have digest : ',' ∉ (hexDigest hmac secret (signedData timestamp payload)).toList :=
    not_mem_hexDigest hmac (by decide)
  have back : ',' ∉ ['v', '1', '='] ++
      (hexDigest hmac secret (signedData timestamp payload)).toList := by
    rw [List.mem_append]
    exact not_or.mpr ⟨by decide, digest⟩
  rw [toList_generateWebhookSignature, List.splitOn_append_cons_self,
    List.splitOn_eq_singleton front]
  exact congrArg _ (List.splitOn_eq_singleton back)

end Texts

section Verification

/-- The timestamp and the signature that a header gives. -/
def reading (header : String) : Option (Int × String) := do
  let timestampPart ← firstPart ['t', '='] header
  let signaturePart ← firstPart ['v', '1', '='] header
  let timestamp ← parseInt (String.ofList (timestampPart.drop 2))
  return (timestamp, String.ofList (signaturePart.drop 3))

/-- The header gives a time within the tolerance and the digest for that time. -/
def Genuine (payload secret header : String) (tolerance : Number) (clock : Int) : Prop :=
  ∃ timestamp signature, reading header = some (timestamp, signature) ∧
    tolerance.atLeast (.int |clock / 1000 - timestamp|) = true ∧
    signature = hexDigest hmac secret (signedData timestamp payload)

/-- The verification returns, and what it returns is right. -/
def VerifiesExactly (payload secret header : String) (tolerance : Number) (clock : Int) : Prop :=
  ∃ answer, verifyWebhookSignature hmac payload secret header tolerance clock = .ok answer ∧
    (answer = true ↔ Genuine hmac payload secret header tolerance clock)

variable {payload secret header : String} {tolerance : Number} {clock timestamp : Int}

theorem verify_of_none (unread : reading header = none) :
    verifyWebhookSignature hmac payload secret header tolerance clock = .ok false := by
  unfold reading at unread
  unfold verifyWebhookSignature
  cases timestampPart : firstPart ['t', '='] header with
  | none => rfl
  | some timestampPart' =>
    cases signaturePart : firstPart ['v', '1', '='] header with
    | none => rfl
    | some signaturePart' =>
      rw [timestampPart, signaturePart] at unread
      cases parsed : parseInt (String.ofList (timestampPart'.drop 2)) with
      | none => simp [parsed]
      | some timestamp =>
        simp only [Option.bind_eq_bind, Option.bind_some, parsed] at unread
        exact absurd unread (Option.some_ne_none _)

theorem verify_of_some {signature : String} (read : reading header = some (timestamp, signature)) :
    verifyWebhookSignature hmac payload secret header tolerance clock =
      if exceeds tolerance (clock / 1000) timestamp then .ok false
      else timingSafeEqual (Buffer.ofUtf8 signature)
        (Buffer.ofUtf8 (hexDigest hmac secret (signedData timestamp payload))) := by
  obtain ⟨timestampPart, first, read⟩ := Option.bind_eq_some_iff.mp read
  obtain ⟨signaturePart, second, read⟩ := Option.bind_eq_some_iff.mp read
  obtain ⟨timestamp', parsed, read⟩ := Option.bind_eq_some_iff.mp read
  obtain ⟨rfl, rfl⟩ := Prod.mk.inj (Option.some.inj read)
  simp only [verifyWebhookSignature, first, second, parsed, expectedSigValue_eq]

theorem reading_generateWebhookSignature (payload secret : String) (timestamp : Int) :
    reading (generateWebhookSignature hmac payload secret timestamp) =
      some (timestamp, hexDigest hmac secret (signedData timestamp payload)) := by
  have first : firstPart ['t', '='] (generateWebhookSignature hmac payload secret timestamp) =
      some ('t' :: '=' :: (toString timestamp).toList) := by
    rw [firstPart, splitOn_generateWebhookSignature]
    rfl
  have second : firstPart ['v', '1', '='] (generateWebhookSignature hmac payload secret timestamp) =
      some ('v' :: '1' :: '=' ::
        (hexDigest hmac secret (signedData timestamp payload)).toList) := by
    rw [firstPart, splitOn_generateWebhookSignature]
    rfl
  simp only [reading, first, second, Option.bind_eq_bind, Option.bind_some, List.drop_succ_cons,
    List.drop_zero, String.ofList_toList, parseInt_toString_int, Option.pure_def]

theorem timingSafeEqual_of_length {left right : String}
    (lengths : (Buffer.ofUtf8 left).length = (Buffer.ofUtf8 right).length) :
    timingSafeEqual (Buffer.ofUtf8 left) (Buffer.ofUtf8 right) = .ok (decide (left = right)) := by
  rw [timingSafeEqual, if_pos lengths]
  exact congrArg _ (decide_eq_decide.mpr Buffer.ofUtf8_injective.eq_iff)

theorem atLeast_iff_of_not_exceeds {now : Int} (within : exceeds tolerance now timestamp = false) :
    tolerance.atLeast (.int |now - timestamp|) = true ↔ tolerance ≠ .nan := by
  have compared := of_decide_eq_false within
  rw [Number.atLeast, decide_eq_true_iff]
  cases tolerance with
  | nan => simp [Number.lessThan]
  | negInfinity => exact absurd rfl compared
  | infinity => simp [Number.lessThan, Number.int]
  | finite value =>
    simp only [Number.lessThan, Number.int, Option.some.injEq, decide_eq_true_eq] at compared
    simp only [Number.lessThan, Number.int, Option.some.injEq, decide_eq_false_iff_not, compared,
      not_false_eq_true, ne_eq, reduceCtorEq]

theorem not_exceeds_of_atLeast {now : Int}
    (within : tolerance.atLeast (.int |now - timestamp|) = true) :
    exceeds tolerance now timestamp = false := by
  have compared := of_decide_eq_true within
  rw [exceeds, compared]
  rfl

theorem verify_generateWebhookSignature (payload secret : String)
    (within : tolerance.atLeast (.int |clock / 1000 - timestamp|) = true) :
    verifyWebhookSignature hmac payload secret
      (generateWebhookSignature hmac payload secret timestamp) tolerance clock = .ok true := by
  rw [verify_of_some hmac (reading_generateWebhookSignature hmac payload secret timestamp),
    not_exceeds_of_atLeast within, if_neg Bool.false_ne_true, timingSafeEqual_of_length rfl,
    decide_eq_true rfl]

theorem verifiesExactly_of_reading {signature : String}
    (read : reading header = some (timestamp, signature))
    (recent : exceeds tolerance (clock / 1000) timestamp = false) :
    VerifiesExactly hmac payload secret header tolerance clock ↔
      (Buffer.ofUtf8 signature).length = 64 ∧
        (tolerance = .nan → signature ≠ hexDigest hmac secret (signedData timestamp payload)) := by
  have genuine : Genuine hmac payload secret header tolerance clock ↔ tolerance ≠ .nan ∧
      signature = hexDigest hmac secret (signedData timestamp payload) := by
    rw [← atLeast_iff_of_not_exceeds recent]
    constructor
    · rintro ⟨timestamp', signature', again, within, same⟩
      obtain ⟨rfl, rfl⟩ := Prod.mk.inj (Option.some.inj (read.symm.trans again))
      exact ⟨within, same⟩
    · rintro ⟨within, same⟩
      exact ⟨timestamp, signature, read, within, same⟩
  have digestLength := length_ofUtf8_hexDigest hmac secret (signedData timestamp payload)
  rw [VerifiesExactly, genuine, verify_of_some hmac read, recent, if_neg Bool.false_ne_true]
  by_cases length : (Buffer.ofUtf8 signature).length = 64
  · rw [timingSafeEqual_of_length (length.trans digestLength.symm)]
    simp only [Except.ok.injEq, exists_eq_left', decide_eq_true_eq, length, true_and]
    tauto
  · rw [timingSafeEqual, digestLength, if_neg length]
    simp [length]

theorem verification_iff (payload secret header : String) (tolerance : Number) (clock : Int) :
    (VerifiesExactly hmac payload secret header tolerance clock ↔
      ∀ timestamp signature, reading header = some (timestamp, signature) →
        exceeds tolerance (clock / 1000) timestamp = false → (Buffer.ofUtf8 signature).length = 64 ∧
          (tolerance = .nan → signature ≠ hexDigest hmac secret (signedData timestamp payload))) ∧
    ∀ timestamp, tolerance.atLeast (.int |clock / 1000 - timestamp|) = true →
      verifyWebhookSignature hmac payload secret
        (generateWebhookSignature hmac payload secret timestamp) tolerance clock = .ok true := by
  refine ⟨?_, fun timestamp within => verify_generateWebhookSignature hmac payload secret within⟩
  cases read : reading header with
  | none =>
    refine iff_of_true ⟨false, verify_of_none hmac read, ?_⟩ (fun _ _ given => by cases given)
    refine iff_of_false Bool.false_ne_true ?_
    rintro ⟨timestamp, signature, again, _⟩
    rw [read] at again
    cases again
  | some found =>
    obtain ⟨timestamp, signature⟩ := found
    have only (condition : Int → String → Prop) :
        (∀ timestamp' signature', some (timestamp, signature) = some (timestamp', signature') →
          condition timestamp' signature') ↔ condition timestamp signature := by
      constructor
      · intro all
        exact all timestamp signature rfl
      · rintro holds timestamp' signature' same
        obtain ⟨rfl, rfl⟩ := Prod.mk.inj (Option.some.inj same)
        exact holds
    rw [only]
    cases recent : exceeds tolerance (clock / 1000) timestamp with
    | false => simp [verifiesExactly_of_reading hmac read recent]
    | true =>
      refine iff_of_true ⟨false, ?_, iff_of_false Bool.false_ne_true ?_⟩ (fun given => by cases given)
      · rw [verify_of_some hmac read, recent, if_pos rfl]
      · rintro ⟨timestamp', signature', again, within, _⟩
        obtain ⟨rfl, rfl⟩ := Prod.mk.inj (Option.some.inj (read.symm.trans again))
        exact absurd (recent.symm.trans (not_exceeds_of_atLeast within)) Bool.true_eq_false.mp

def zeroDigest : HmacSha256 := fun _ _ => ⟨List.replicate 32 0, List.length_replicate⟩

/-- A signature of three characters makes the comparison throw. -/
theorem verification_throws :
    ¬VerifiesExactly zeroDigest "{}" "secret" "t=1700000000,v1=abc" (.finite 300)
      1700000000000 := by
  intro exactly
  have read : reading "t=1700000000,v1=abc" = some (1700000000, "abc") := by decide
  have length := ((verifiesExactly_of_reading zeroDigest read (by decide)).mp exactly).1
  exact absurd length (by decide)

end Verification

end WebhookSignature

end Caas.Gateway
