import Mathlib.Data.List.Induction
import Caas.Js.Buffer
import Caas.Machine.BitStrings

/-!
# Secrets in base32

The text of a secret. The encoder shifts the bytes into a word of 32 bits that it never masks
and takes five bits from it as long as there are as many; what it has taken falls off the
word at some time. The characters of an unpadded text in base32 are the quintets of the bits
of the bytes, the last of them filled up with zeros.
-/

namespace Caas.Mfa

open Js BitStrings

namespace TOTPService

def base32Chars : List Char := "ABCDEFGHIJKLMNOPQRSTUVWXYZ234567".toList

def charOf (value : BitVec 32) : Char := base32Chars.getD (value &&& 31).toNat '='

/-- The inner loop, with the bits that it leaves. -/
def takeQuintets (value : BitVec 32) : Nat → List Char × Nat
  | bits + 5 =>
    let (output, left) := takeQuintets value bits
    (charOf (value >>> bits) :: output, left)
  | bits => ([], bits)

structure Encoder where
  bits : Nat := 0
  value : BitVec 32 := 0
  output : List Char := []

def addByte (encoder : Encoder) (byte : Fin 256) : Encoder :=
  let value := encoder.value <<< 8 ||| BitVec.ofNat 32 byte.val
  let (output, bits) := takeQuintets value (encoder.bits + 8)
  { bits, value, output := encoder.output ++ output }

def base32Encode (buffer : Buffer) : String :=
  let encoder := buffer.foldl addByte {}
  if 0 < encoder.bits then
    String.ofList (encoder.output ++ [charOf (encoder.value <<< (5 - encoder.bits))])
  else String.ofList encoder.output

end TOTPService

namespace Base32

/-- The letters, and the digits from two on. -/
def quintetChar (quintet : Nat) : Char :=
  if quintet < 26 then Char.ofNat (65 + quintet) else Char.ofNat (24 + quintet)

def quintetValue (c : Char) : Option Nat :=
  if 'A' ≤ c ∧ c ≤ 'Z' then some (c.toNat - 65)
  else if '2' ≤ c ∧ c ≤ '7' then some (c.toNat - 24)
  else none

/-- The bits of bytes, the highest of each first. -/
def bitsOfBytes (buffer : Buffer) : List Bool := buffer.flatMap fun byte => bitsOf 8 byte.val

/-- Bits in groups of five, the last filled up with zeros. -/
def quintets : List Bool → List (List Bool)
  | a :: b :: c :: d :: e :: rest => [a, b, c, d, e] :: quintets rest
  | [] => []
  | bits => [bits ++ List.replicate (5 - bits.length) false]

def toBase32 (buffer : Buffer) : String :=
  String.ofList ((quintets (bitsOfBytes buffer)).map fun quintet => quintetChar (numberOf quintet))

/-- The bytes of bits; what is left of an incomplete byte is dropped. -/
def bytesOfBits : List Bool → Buffer
  | a :: b :: c :: d :: e :: f :: g :: h :: rest =>
    Fin.ofNat 256 (numberOf [a, b, c, d, e, f, g, h]) :: bytesOfBits rest
  | _ => []

/-- The bytes of a text, unless a character is none of base32. -/
def ofBase32 (text : String) : Option Buffer :=
  (text.toList.mapM quintetValue).map fun quintets => bytesOfBits (quintets.flatMap (bitsOf 5))

section Quintets

theorem quintets_append {bits : List Bool} (five : bits.length = 5) (rest : List Bool) :
    quintets (bits ++ rest) = bits :: quintets rest := by
  match bits, five with
  | [a, b, c, d, e], _ => rfl

theorem quintets_short {bits : List Bool} (some_left : bits ≠ []) (short : bits.length < 5) :
    quintets bits = [bits ++ List.replicate (5 - bits.length) false] := by
  match bits, some_left, short with
  | [a], _, _ | [a, b], _, _ | [a, b, c], _, _ | [a, b, c, d], _, _ => rfl

theorem quintets_spec (bits : List Bool) : (∀ quintet ∈ quintets bits, quintet.length = 5) ∧
      ∃ padding : List Bool, padding.length < 5 ∧ (quintets bits).flatten = bits ++ padding := by
  match bits with
  | a :: b :: c :: d :: e :: rest =>
    obtain ⟨fives, padding, short, whole⟩ := quintets_spec rest
    refine ⟨List.forall_mem_cons.mpr ⟨rfl, fives⟩, padding, short, ?_⟩
    rw [quintets, List.flatten_cons, whole]
    rfl
  | [] => exact ⟨fun _ none => absurd none List.not_mem_nil, [], by decide, rfl⟩
  | [a] | [a, b] | [a, b, c] | [a, b, c, d] =>
    rw [quintets_short (List.cons_ne_nil _ _) (by simp)]
    refine ⟨fun quintet member => ?_, _, ?_, List.flatten_singleton⟩
    · rw [List.mem_singleton.mp member]
      rfl
    · simp

theorem bytesOfBits_bitsOfBytes (buffer : Buffer) {padding : List Bool}
    (short : padding.length < 8) : bytesOfBits (bitsOfBytes buffer ++ padding) = buffer := by
  induction buffer with
  | nil =>
    match padding, short with
    | [], _ | [_], _ | [_, _], _ | [_, _, _], _ | [_, _, _, _], _ | [_, _, _, _, _], _
    | [_, _, _, _, _, _], _ | [_, _, _, _, _, _, _], _ => rfl
  | cons byte rest ih =>
    have whole : numberOf (bitsOf 8 byte.val) = byte.val := by
      rw [numberOf_bitsOf]
      exact Nat.mod_eq_of_lt byte.isLt
    have bits : bitsOfBytes (byte :: rest) ++ padding =
        bitsOf 8 byte.val ++ (bitsOfBytes rest ++ padding) := by
      rw [bitsOfBytes, List.flatMap_cons, List.append_assoc]
      rfl
    rw [bits]
    change Fin.ofNat 256 (numberOf (bitsOf 8 byte.val)) ::
      bytesOfBits (bitsOfBytes rest ++ padding) = byte :: rest
    rw [whole, ih, Fin.ofNat_val_eq_self]

theorem quintetValue_quintetChar {quintet : Nat} (small : quintet < 32) :
    quintetValue (quintetChar quintet) = some quintet := by
  have each : ∀ quintet : Nat, quintet < 32 →
      quintetValue (quintetChar quintet) = some quintet := by
    decide
  exact each quintet small

theorem mapM_quintetValue {fives : List (List Bool)}
    (each : ∀ quintet ∈ fives, quintet.length = 5) :
    (fives.map fun quintet => quintetChar (numberOf quintet)).mapM quintetValue =
      some (fives.map numberOf) := by
  induction fives with
  | nil => rfl
  | cons quintet rest ih =>
    have small : numberOf quintet < 32 := by
      have below := numberOf_lt quintet
      rwa [each quintet List.mem_cons_self] at below
    rw [List.map_cons, List.mapM_cons, quintetValue_quintetChar small,
      ih fun later member => each later (List.mem_cons_of_mem _ member)]
    rfl

theorem ofBase32_toBase32 (buffer : Buffer) : ofBase32 (toBase32 buffer) = some buffer := by
  obtain ⟨fives, padding, short, whole⟩ := quintets_spec (bitsOfBytes buffer)
  have bits : ((quintets (bitsOfBytes buffer)).map numberOf).flatMap (bitsOf 5) =
      (quintets (bitsOfBytes buffer)).flatten := by
    rw [List.flatMap_map, List.flatMap_def]
    refine congrArg List.flatten
      ((List.map_congr_left fun quintet member => ?_).trans (List.map_id _))
    rw [← fives quintet member, bitsOf_numberOf]
    rfl
  rw [ofBase32, toBase32, String.toList_ofList, mapM_quintetValue fives, Option.map_some, bits,
    whole, bytesOfBits_bitsOfBytes buffer (by omega)]

end Quintets

end Base32

namespace TOTPService

open Base32

def textOf (bits : List Bool) : List Char :=
  (quintets bits).map fun quintet => quintetChar (numberOf quintet)

theorem charOf_eq (value : BitVec 32) :
    charOf value = quintetChar (numberOf (bitsOf 5 value.toNat)) := by
  have table : ∀ quintet : Nat, quintet < 32 →
      base32Chars.getD quintet '=' = quintetChar quintet := by
    decide
  have lowest : (value &&& 31).toNat = value.toNat % 2 ^ 5 := by
    rw [BitVec.toNat_and]
    exact Nat.and_two_pow_sub_one_eq_mod value.toNat 5
  rw [charOf, lowest, numberOf_bitsOf]
  exact table _ (Nat.mod_lt _ (by decide))

theorem textOf_quintet (value : BitVec 32) (bits : Nat) (more : List Bool) :
    textOf (bitsOf (bits + 5) value.toNat ++ more) =
      charOf (value >>> bits) :: textOf (bitsOf bits value.toNat ++ more) := by
  rw [Nat.add_comm, bitsOf_add, List.append_assoc, textOf,
    quintets_append (length_bitsOf 5 _), List.map_cons, charOf_eq, BitVec.toNat_ushiftRight]
  rfl

theorem takeQuintets_spec (value : BitVec 32) (bits : Nat) :
    (takeQuintets value bits).2 < 5 ∧ ∀ more, textOf (bitsOf bits value.toNat ++ more) =
      (takeQuintets value bits).1 ++
        textOf (bitsOf (takeQuintets value bits).2 value.toNat ++ more) := by
  fun_induction takeQuintets value bits with
  | case1 bits output left later ih =>
    rw [later] at ih
    refine ⟨ih.1, fun more => ?_⟩
    rw [textOf_quintet, ih.2 more, List.cons_append]
  | case2 bits few =>
    have short : bits < 5 := by
      by_contra long
      obtain ⟨rest, rfl⟩ := Nat.exists_eq_add_of_le (Nat.le_of_not_lt long)
      exact few rest (Nat.add_comm 5 rest)
    exact ⟨short, fun _ => rfl⟩

/-- What has been put out, and the bits of the word that count, are the bytes so far. -/
structure Encodes (buffer : Buffer) (encoder : Encoder) : Prop where
  few : encoder.bits < 5
  text : ∀ more, textOf (bitsOfBytes buffer ++ more) =
    encoder.output ++ textOf (bitsOf encoder.bits encoder.value.toNat ++ more)

theorem Encodes.addByte {buffer : Buffer} {encoder : Encoder} (encodes : Encodes buffer encoder)
    (byte : Fin 256) : Encodes (buffer ++ [byte]) (addByte encoder byte) := by
  obtain ⟨short, taken⟩ := takeQuintets_spec
    (encoder.value <<< 8 ||| BitVec.ofNat 32 byte.val) (encoder.bits + 8)
  have few := encodes.few
  refine ⟨short, fun more => ?_⟩
  have bits : bitsOfBytes (buffer ++ [byte]) ++ more =
      bitsOfBytes buffer ++ (bitsOf 8 byte.val ++ more) := by
    simp [bitsOfBytes]
  rw [bits, encodes.text, ← List.append_assoc (bitsOf encoder.bits encoder.value.toNat),
    ← bitsOf_shiftLeft_or encoder.value 8 byte.isLt (by omega), taken more, ← List.append_assoc]
  rfl

theorem encodes_foldl (buffer : Buffer) : Encodes buffer (buffer.foldl addByte {}) := by
  induction buffer using List.reverseRecOn with
  | nil => exact ⟨by decide, fun _ => rfl⟩
  | append_singleton buffer byte ih =>
    rw [List.foldl_append]
    exact ih.addByte byte

theorem charOf_shiftLeft (value : BitVec 32) {bits : Nat} (few : bits < 5) :
    charOf (value <<< (5 - bits)) =
      quintetChar (numberOf (bitsOf bits value.toNat ++ List.replicate (5 - bits) false)) := by
  have width : bits + (5 - bits) = 5 := by omega
  have filled : bitsOf (bits + (5 - bits)) (value <<< (5 - bits) ||| BitVec.ofNat 32 0).toNat =
      bitsOf bits value.toNat ++ bitsOf (5 - bits) 0 :=
    bitsOf_shiftLeft_or value (5 - bits) (Nat.two_pow_pos _) (by omega)
  rw [width, bitsOf_zero, BitVec.or_zero] at filled
  rw [charOf_eq, filled]

theorem base32Encode_eq (buffer : Buffer) : base32Encode buffer = toBase32 buffer := by
  obtain ⟨few, text⟩ := encodes_foldl buffer
  have whole := text []
  rw [List.append_nil, List.append_nil] at whole
  have toText : toBase32 buffer = String.ofList (textOf (bitsOfBytes buffer)) := rfl
  rw [toText, whole, base32Encode]
  generalize buffer.foldl addByte {} = encoder at few
  by_cases left : 0 < encoder.bits
  · have nonempty : bitsOf encoder.bits encoder.value.toNat ≠ [] := by
      rw [← List.length_pos_iff, length_bitsOf]
      exact left
    have short : (bitsOf encoder.bits encoder.value.toNat).length < 5 := by
      rwa [length_bitsOf]
    have filled := charOf_shiftLeft encoder.value few
    rw [if_pos left, filled, textOf, quintets_short nonempty short, length_bitsOf]
    rfl
  · have empty : encoder.bits = 0 := by omega
    rw [if_neg left, empty]
    exact congrArg String.ofList (List.append_nil _).symm

/-- The encoder returns the text of the bytes, which decodes to the bytes; so no two are encoded
alike. -/
theorem base32Encode_spec : (∀ buffer, base32Encode buffer = toBase32 buffer ∧
      ofBase32 (base32Encode buffer) = some buffer) ∧ Function.Injective base32Encode := by
  have decodes : ∀ buffer, ofBase32 (base32Encode buffer) = some buffer := by
    intro buffer
    rw [base32Encode_eq, ofBase32_toBase32]
  refine ⟨fun buffer => ⟨base32Encode_eq buffer, decodes buffer⟩, fun left right same => ?_⟩
  exact Option.some.inj ((decodes left).symm.trans ((congrArg ofBase32 same).trans (decodes right)))

end TOTPService

end Caas.Mfa
