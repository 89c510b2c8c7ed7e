import Mathlib.Data.Nat.Bitwise
import Caas.Auth.ApiKeyService

/-!
# Whitelists of addresses

Which addresses a whitelist allows, and the service that adds an address to the whitelist
of a client or removes one. Bitwise operators work on 32 bits; the numbers they are given
are exact integers here, without the rounding of a number above 2⁵³.
-/

namespace Caas.Auth

open Async Program Redis Js

namespace ApiKeyService

/-- `text.split(separator)`. -/
def split (separator : Char) (text : String) : List String :=
  (text.toList.splitOn separator).map String.ofList

def hexValue (c : Char) : Option Nat :=
  if c.isDigit then some (c.toNat - '0'.toNat)
  else if 'a' ≤ c ∧ c ≤ 'f' then some (c.toNat - 'a'.toNat + 10)
  else if 'A' ≤ c ∧ c ≤ 'F' then some (c.toNat - 'A'.toNat + 10)
  else none

/-- The number of the leading hexadecimal digits; `none` is `NaN`. -/
def parseHex (chars : List Char) : Option Int :=
  match chars.takeWhile fun c => (hexValue c).isSome with
  | [] => none
  | digits => some (digits.foldl (fun total c => 16 * total + ((hexValue c).getD 0 : Nat)) 0)

/-- `parseInt(text)`, which reads hexadecimal digits after `0x`. -/
def parseInteger (text : String) : Option Int :=
  match text.toList.dropWhile isWhiteSpace with
  | '-' :: '0' :: x :: rest =>
    if x = 'x' ∨ x = 'X' then (parseHex rest).map fun n => -n else parseInt text
  | '+' :: '0' :: x :: rest | '0' :: x :: rest =>
    if x = 'x' ∨ x = 'X' then parseHex rest else parseInt text
  | _ => parseInt text

/-- `ToInt32`; `NaN` becomes 0. -/
def toInt32 (number : Option Int) : BitVec 32 := BitVec.ofInt 32 (number.getD 0)

/-- `(sum << 8) + parseInt(octet)`. -/
def shiftIn (sum : Option Int) (octet : String) : Option Int :=
  (parseInteger octet).map fun value => (toInt32 sum <<< 8).toInt + value

def ipToNumber (ip : String) : BitVec 32 := toInt32 ((split '.' ip).foldl shiftIn (some 0))

/-- `~(Math.pow(2, 32 - parseInt(bits)) - 1)`. A power above 2⁵³ absorbs the 1, and one below
2⁻⁵³ is absorbed by it. -/
def cidrMask (bits : Option Int) : BitVec 32 :=
  match bits with
  | none => BitVec.allOnes 32
  | some bits =>
    let exponent := 32 - bits
    if exponent < -53 then 0#32
    else if exponent < 0 ∨ 53 < exponent then BitVec.allOnes 32
    else ~~~BitVec.ofNat 32 (2 ^ exponent.toNat - 1)

def isIpInCidr (ip cidr : String) : Bool :=
  let parts := split '/' cidr
  let mask := cidrMask ((parts[1]?).bind parseInteger)
  ipToNumber ip &&& mask = ipToNumber (parts.headD "") &&& mask

/-- An empty whitelist allows every address. -/
def isIpAllowed (ip : String) (whitelist : List String) : Bool :=
  whitelist.isEmpty || whitelist.any fun entry =>
    if '/' ∈ entry.toList then isIpInCidr ip entry else ip = entry

theorem getLsbD_cidrMask {bits : Nat} (inside : bits ≤ 32) {index : Nat} (bound : index < 32) :
    (cidrMask (some bits)).getLsbD index = decide (32 - bits ≤ index) := by
  have exponent : ((32 : Int) - bits).toNat = 32 - bits := by omega
  have plain : ¬ (32 : Int) - bits < -53 := by omega
  have exact : ¬ ((32 : Int) - bits < 0 ∨ 53 < (32 : Int) - bits) := by omega
  simp only [cidrMask, if_neg plain, if_neg exact, exponent, BitVec.getLsbD_not,
    BitVec.getLsbD_ofNat, Nat.testBit_two_pow_sub_one, bound, decide_true, Bool.true_and]
  by_cases low : index < 32 - bits
  · have short : ¬ 32 - bits ≤ index := by omega
    rw [decide_eq_true low, decide_eq_false short, Bool.not_true]
  · have long : 32 - bits ≤ index := by omega
    rw [decide_eq_false low, decide_eq_true long, Bool.not_false]

theorem and_cidrMask_eq_iff {left right : BitVec 32} {bits : Nat} (inside : bits ≤ 32) :
    left &&& cidrMask (some bits) = right &&& cidrMask (some bits) ↔
      left >>> (32 - bits) = right >>> (32 - bits) := by
  constructor
  · intro same
    apply BitVec.eq_of_getLsbD_eq
    intro index bound
    rw [BitVec.getLsbD_ushiftRight, BitVec.getLsbD_ushiftRight]
    by_cases high : 32 - bits + index < 32
    · have bit := congrArg (fun word => word.getLsbD (32 - bits + index)) same
      simpa only [BitVec.getLsbD_and, getLsbD_cidrMask inside high, Nat.le_add_right, decide_true,
        Bool.and_true] using bit
    · rw [BitVec.getLsbD_of_ge left _ (Nat.le_of_not_lt high),
        BitVec.getLsbD_of_ge right _ (Nat.le_of_not_lt high)]
  · intro same
    apply BitVec.eq_of_getLsbD_eq
    intro index bound
    rw [BitVec.getLsbD_and, BitVec.getLsbD_and, getLsbD_cidrMask inside bound]
    by_cases high : 32 - bits ≤ index
    · have bit := congrArg (fun word => word.getLsbD (index - (32 - bits))) same
      simp only [BitVec.getLsbD_ushiftRight, Nat.add_sub_cancel' high] at bit
      rw [bit]
    · simp [high]

end ApiKeyService

/-- What the service takes from the platform. -/
structure AddressFunctions where
  isIPv4 : String → Bool
  isIPv6 : String → Bool
  decodeURIComponent : String → Except String String

namespace IpWhitelistService

open ApiKeyService

variable (settings : ClientSettings) (functions : AddressFunctions)

def isValidIpOrCidr (input : String) : Bool :=
  if '/' ∈ input.toList then
    let parts := split '/' input
    let ip := parts.headD ""
    let within (most : Int) : Bool :=
      ((parts[1]?).bind parseInteger).any fun bits => 0 ≤ bits && bits ≤ most
    if functions.isIPv4 ip then within 32
    else if functions.isIPv6 ip then within 128
    else false
  else functions.isIPv4 input || functions.isIPv6 input

def invalidateApiKeyCaches (client : Client) : ClientProgram Unit := do
  evictValidation client.apiKeys.primary
  evictValidation client.apiKeys.secondary

def addIp (clientId ip : String) : ClientProgram ApiKeyResult := do
  if isValidIpOrCidr functions ip = false then
    failure "Invalid IP address or CIDR notation"
  else
    let client ← findClient settings clientId
    if ip ∈ client.ipWhitelist then failure "IP already in whitelist"
    else
      ClientRepository.updateIpWhitelist clientId (client.ipWhitelist ++ [ip])
      invalidateApiKeyCaches client
      return .done

def removeIp (clientId ip : String) : ClientProgram ApiKeyResult := do
  let client ← findClient settings clientId
  let decodedIp ← orThrow (functions.decodeURIComponent ip)
  let updatedList := client.ipWhitelist.filter (· ≠ decodedIp)
  if updatedList.length = client.ipWhitelist.length then
    failure "IP not found in whitelist"
  else
    ClientRepository.updateIpWhitelist clientId updatedList
    invalidateApiKeyCaches client
    return .done

end IpWhitelistService

end Caas.Auth
