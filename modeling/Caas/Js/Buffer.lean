import Mathlib.Data.Fin.Basic
import Mathlib.Data.List.Basic

/-!
# Byte buffers

`Buffer` with its UTF-8 and hexadecimal encodings. Decoding hexadecimal text stops
at the first pair of characters that is not one, as `Buffer.from(text, 'hex')` does.
-/

namespace Js

abbrev Buffer := List (Fin 256)

instance neZeroByte : @NeZero Nat Zero.ofOfNat0 256 := Nat.instNeZeroSucc

namespace Buffer

/-- `Buffer.from(text, 'utf8')`. -/
def ofUtf8 (text : String) : Buffer :=
  text.toList.flatMap fun c => (String.utf8EncodeChar c).map UInt8.toFin

/-- A hexadecimal digit, in lower case. -/
def hexDigit (digit : Fin 16) : Char :=
  if digit.val < 10 then Char.ofNat (48 + digit.val) else Char.ofNat (87 + digit.val)

/-- The value of a hexadecimal digit, in either case. -/
def digitValue (c : Char) : Option (Fin 16) :=
  if '0' ≤ c ∧ c ≤ '9' then some (Fin.ofNat 16 (c.toNat - 48))
  else if 'a' ≤ c ∧ c ≤ 'f' then some (Fin.ofNat 16 (c.toNat - 87))
  else if 'A' ≤ c ∧ c ≤ 'F' then some (Fin.ofNat 16 (c.toNat - 55))
  else none

def digits (byte : Fin 256) : Fin 16 × Fin 16 :=
  (⟨byte.val / 16, by omega⟩, ⟨byte.val % 16, by omega⟩)

def ofDigits (high low : Fin 16) : Fin 256 := ⟨16 * high.val + low.val, by omega⟩

/-- `buffer.toString('hex')`, as characters. -/
def hexChars (buffer : Buffer) : List Char :=
  buffer.flatMap fun byte => [hexDigit (digits byte).1, hexDigit (digits byte).2]

/-- `buffer.toString('hex')`. -/
def toHex (buffer : Buffer) : String := String.ofList (hexChars buffer)

def ofHexChars : List Char → Buffer
  | high :: low :: rest =>
    match digitValue high, digitValue low with
    | some h, some l => ofDigits h l :: ofHexChars rest
    | _, _ => []
  | _ => []

/-- `Buffer.from(text, 'hex')`. -/
def ofHex (text : String) : Buffer := ofHexChars text.toList

theorem digitValue_hexDigit : ∀ digit, digitValue (hexDigit digit) = some digit := by decide

theorem ofDigits_digits (byte : Fin 256) : ofDigits (digits byte).1 (digits byte).2 = byte := by
  apply Fin.ext
  simp only [ofDigits, digits]
  omega

theorem ofHexChars_hexChars (buffer : Buffer) : ofHexChars (hexChars buffer) = buffer := by
  induction buffer with
  | nil => rfl
  | cons byte rest ih =>
    have split : hexChars (byte :: rest) =
        hexDigit (digits byte).1 :: hexDigit (digits byte).2 :: hexChars rest := rfl
    simp [split, ofHexChars, digitValue_hexDigit, ofDigits_digits, ih]

/-- A buffer survives its hexadecimal text. -/
@[simp] theorem ofHex_toHex (buffer : Buffer) : ofHex (toHex buffer) = buffer := by
  simp [ofHex, toHex, ofHexChars_hexChars]

/-- Only hexadecimal digits occur in hexadecimal text. -/
theorem not_mem_hexChars {c : Char} (other : ∀ digit, hexDigit digit ≠ c) (buffer : Buffer) :
    c ∉ hexChars buffer := by
  rw [hexChars, List.mem_flatMap]
  rintro ⟨byte, _, member⟩
  obtain same | same := List.mem_pair.mp member
  · exact other _ same.symm
  · exact other _ same.symm

/-- Hexadecimal texts tell buffers apart. -/
theorem toHex_injective : Function.Injective toHex :=
  Function.LeftInverse.injective ofHex_toHex

/-- Texts are told apart by their encodings. -/
theorem ofUtf8_injective : Function.Injective ofUtf8 := by
  intro left right equal
  have numbers : (left.toList.flatMap String.utf8EncodeChar).map UInt8.toFin =
      (right.toList.flatMap String.utf8EncodeChar).map UInt8.toFin := by
    simpa only [ofUtf8, List.map_flatMap] using equal
  have bytes := List.map_injective_iff.mpr (fun _ _ same => UInt8.toFin_inj.mp same) numbers
  have encoded : left.toByteArray = right.toByteArray := by
    rw [← String.utf8Encode_toList, ← String.utf8Encode_toList, List.utf8Encode,
      List.utf8Encode, bytes]
  exact String.toByteArray_inj.mp encoded

/-- `createHash(algorithm).update(data).digest('hex')`, by the hash of the algorithm. -/
def hexDigest (hash : Buffer → Buffer) (data : String) : String := toHex (hash (ofUtf8 data))

theorem hexDigest_injective {hash : Buffer → Buffer} (injective : Function.Injective hash) :
    Function.Injective (hexDigest hash) := fun _ _ equal =>
  ofUtf8_injective (injective (toHex_injective equal))

/-- An injective hash to evaluate examples with. -/
def framed (bytes : Buffer) : Buffer := 1 :: bytes

theorem framed_injective : Function.Injective framed := fun _ _ equal => (List.cons.inj equal).2

end Buffer

end Js

/-!
## Base64 texts of buffers

`buffer.toString('base64')` and `Buffer.from(text, 'base64')`, which also reads the
alphabet of URLs and skips what is in neither. Three bytes are four sextets; a last
group of one or two bytes is padded.
-/

namespace Js.Buffer

def sextetChar (sextet : Fin 64) : Char :=
  if sextet.val < 26 then Char.ofNat (65 + sextet.val)
  else if sextet.val < 52 then Char.ofNat (71 + sextet.val)
  else if sextet.val < 62 then Char.ofNat (sextet.val - 4)
  else if sextet.val = 62 then '+'
  else '/'

/-- The sextet of a character of either alphabet. -/
def sextetValue (c : Char) : Option (Fin 64) :=
  if 'A' ≤ c ∧ c ≤ 'Z' then some (Fin.ofNat 64 (c.toNat - 65))
  else if 'a' ≤ c ∧ c ≤ 'z' then some (Fin.ofNat 64 (c.toNat - 71))
  else if '0' ≤ c ∧ c ≤ '9' then some (Fin.ofNat 64 (c.toNat + 4))
  else if c = '+' ∨ c = '-' then some 62
  else if c = '/' ∨ c = '_' then some 63
  else none

/-- The four sextets of three bytes. -/
def sextets (a b c : Fin 256) : Fin 64 × Fin 64 × Fin 64 × Fin 64 :=
  (⟨a.val / 4, by omega⟩, ⟨a.val % 4 * 16 + b.val / 16, by omega⟩,
    ⟨b.val % 16 * 4 + c.val / 64, by omega⟩, ⟨c.val % 64, by omega⟩)

/-- The three bytes of four sextets. -/
def ofSextets (s t u v : Fin 64) : Fin 256 × Fin 256 × Fin 256 :=
  (⟨s.val * 4 + t.val / 16, by omega⟩, ⟨t.val % 16 * 16 + u.val / 4, by omega⟩,
    ⟨u.val % 4 * 64 + v.val, by omega⟩)

/-- `buffer.toString('base64')`, as characters. -/
def base64Chars : Buffer → List Char
  | a :: b :: c :: rest =>
    let (s, t, u, v) := sextets a b c
    sextetChar s :: sextetChar t :: sextetChar u :: sextetChar v :: base64Chars rest
  | [a, b] =>
    let (s, t, u, _) := sextets a b 0
    [sextetChar s, sextetChar t, sextetChar u, '=']
  | [a] =>
    let (s, t, _, _) := sextets a 0 0
    [sextetChar s, sextetChar t, '=', '=']
  | [] => []

/-- `buffer.toString('base64')`. -/
def toBase64 (buffer : Buffer) : String := String.ofList (base64Chars buffer)

/-- The bytes of a list of sextets; what is left of an incomplete byte is dropped. -/
def bytesOfSextets : List (Fin 64) → Buffer
  | s :: t :: u :: v :: rest =>
    let (a, b, c) := ofSextets s t u v
    a :: b :: c :: bytesOfSextets rest
  | [s, t, u] =>
    let (a, b, _) := ofSextets s t u 0
    [a, b]
  | [s, t] =>
    let (a, _, _) := ofSextets s t 0 0
    [a]
  | _ => []

/-- `Buffer.from(text, 'base64')`. -/
def ofBase64 (text : String) : Buffer := bytesOfSextets (text.toList.filterMap sextetValue)

theorem sextetValue_sextetChar : ∀ sextet, sextetValue (sextetChar sextet) = some sextet := by
  decide

theorem sextetValue_padding : sextetValue '=' = none := by decide

theorem ofSextets_sextets (a b c : Fin 256) :
    ofSextets (sextets a b c).1 (sextets a b c).2.1 (sextets a b c).2.2.1 (sextets a b c).2.2.2 =
      (a, b, c) := by
  simp only [ofSextets, sextets, Prod.mk.injEq, Fin.ext_iff]
  omega

/-- The sextets of two bytes do not depend on the third, nor those of one on the others. -/
theorem ofSextets_padded (a b : Fin 256) (u v : Fin 64) :
    (ofSextets (sextets a b 0).1 (sextets a b 0).2.1 (sextets a b 0).2.2.1 v).1 = a ∧
      (ofSextets (sextets a b 0).1 (sextets a b 0).2.1 (sextets a b 0).2.2.1 v).2.1 = b ∧
        (ofSextets (sextets a b 0).1 (sextets a b 0).2.1 u v).1 = a := by
  simp only [ofSextets, sextets, Fin.ext_iff]
  omega

theorem bytes_base64Chars (buffer : Buffer) :
    bytesOfSextets ((base64Chars buffer).filterMap sextetValue) = buffer := by
  fun_induction base64Chars buffer with
  | case1 a b c rest s t u v split ih =>
    have whole := ofSextets_sextets a b c
    rw [split] at whole
    simp [sextetValue_sextetChar, bytesOfSextets, whole, ih]
  | case2 a b s t u v split =>
    obtain ⟨first, second, -⟩ := ofSextets_padded a b 0 0
    rw [split] at first second
    simp [sextetValue_sextetChar, sextetValue_padding, bytesOfSextets, first, second]
  | case3 a s t u v split =>
    obtain ⟨-, -, first⟩ := ofSextets_padded a 0 0 0
    rw [split] at first
    simp [sextetValue_sextetChar, sextetValue_padding, bytesOfSextets, first]
  | case4 => rfl

/-- A buffer survives its base64 text. -/
@[simp] theorem ofBase64_toBase64 (buffer : Buffer) : ofBase64 (toBase64 buffer) = buffer := by
  simp [ofBase64, toBase64, bytes_base64Chars]

theorem toBase64_eq_empty {buffer : Buffer} : toBase64 buffer = "" ↔ buffer = [] := by
  constructor
  · intro empty
    rw [← ofBase64_toBase64 buffer, empty]
    rfl
  · rintro rfl
    rfl

example : toBase64 (ofUtf8 "light wor") = "bGlnaHQgd29y" ∧ toBase64 (ofUtf8 "li") = "bGk=" := by
  decide

end Js.Buffer
