import Caas.Auth.IpWhitelist
import Caas.Js.Numerals

/-!
# What a whitelist denotes

The addresses that an entry denotes, against those that it allows. The arithmetic of the check
is that of IPv4: it is right for an IPv4 address and a block of such (`isIpInCidr_ipv4`), and for
anything else it compares the numbers that the texts happen to begin with, or nothing at all
(`Loose`). `whitelist_allows_iff` says exactly when the check is nevertheless right.

How an IPv6 address is written is left to the platform.
-/

namespace Caas.Auth.WhitelistMatching

open Js ApiKeyService

/-- An IPv6 address, perhaps of a zone. -/
structure Ipv6Address where
  bits : BitVec 128
  zone : Option String := none
deriving DecidableEq

inductive Address where
  | ipv4 (bits : BitVec 32)
  | ipv6 (address : Ipv6Address)
deriving DecidableEq

/-- A number below 256 without leading zeros. -/
def octet (text : String) : Option Nat := (List.range 256).find? fun value => toString value = text

/-- Four octets with points between them. -/
def readIpv4 (text : String) : Option (BitVec 32) :=
  match (split '.' text).map octet with
  | [some a, some b, some c, some d] =>
    some (BitVec.ofNat 32 (a * 256 ^ 3 + b * 256 ^ 2 + c * 256 + d))
  | _ => none

variable (readIpv6 : String → Option Ipv6Address)

def readAddress (text : String) : Option Address :=
  match readIpv4 text with
  | some bits => some (.ipv4 bits)
  | none => (readIpv6 text).map .ipv6

/-- What the platform does with addresses written so. -/
def addressFunctions (decodeURIComponent : String → Except String String) : AddressFunctions where
  isIPv4 text := (readIpv4 text).isSome
  isIPv6 text := (readIpv6 text).isSome
  decodeURIComponent

/-- The addresses are of one family and agree in so many leading bits. -/
def samePrefix (count : Nat) : Address → Address → Bool
  | .ipv4 left, .ipv4 right => left >>> (32 - count) = right >>> (32 - count)
  | .ipv6 left, .ipv6 right => left.bits >>> (128 - count) = right.bits >>> (128 - count)
  | _, _ => false

def blockAddress (entry : String) : String := (split '/' entry).headD ""

/-- The number of leading bits that a block fixes. -/
def blockBits (entry : String) : Option Int := ((split '/' entry)[1]?).bind parseInteger

def isBlock (entry : String) : Bool := '/' ∈ entry.toList

/-- The entry is the address, or a block that it lies in. -/
def denotes (entry : String) (address : Address) : Bool :=
  if isBlock entry then
    (readAddress readIpv6 (blockAddress entry)).any fun base =>
      (blockBits entry).any fun bits => samePrefix bits.toNat base address
  else readAddress readIpv6 entry = some address

/-- The block or the address is none of IPv4, and the block is one that is longer than the numbers
of the arithmetic can tell, or the numbers of the texts agree in as many leading bits. -/
def loose (ip entry : String) : Bool :=
  isBlock entry && !((readIpv4 ip).isSome && (readIpv4 (blockAddress entry)).isSome) &&
    (blockBits entry).any fun bits => 85 < bits ||
      ipToNumber ip >>> (32 - bits.toNat) = ipToNumber (blockAddress entry) >>> (32 - bits.toNat)

/-- Where the arithmetic matches a block that is none of IPv4 some entry denotes the address;
and where one denotes an IPv6 address, that is written in the list as it is given, or the
arithmetic matches some block. -/
def Unmistaken (ip : String) (address : Address) (whitelist : List String) : Prop :=
  ((∃ entry ∈ whitelist, loose ip entry = true) →
    ∃ entry ∈ whitelist, denotes readIpv6 entry address = true) ∧
  ((∃ entry ∈ whitelist, denotes readIpv6 entry address = true) → readIpv4 ip = none →
    (ip ∈ whitelist ∧ isBlock ip = false) ∨ ∃ entry ∈ whitelist, loose ip entry = true)

section Ipv4

variable {text : String} {bits : BitVec 32}

theorem octet_eq_some {value : Nat} (found : octet text = some value) :
    value < 256 ∧ text = toString value := by
  have same := List.find?_some found
  exact ⟨List.mem_range.mp (List.mem_of_find?_eq_some found), (of_decide_eq_true same).symm⟩

theorem readIpv4_eq_some (read : readIpv4 text = some bits) :
    ∃ a b c d : Nat, (a < 256 ∧ b < 256 ∧ c < 256 ∧ d < 256) ∧
      split '.' text = [toString a, toString b, toString c, toString d] ∧
      bits = BitVec.ofNat 32 (a * 256 ^ 3 + b * 256 ^ 2 + c * 256 + d) := by
  unfold readIpv4 at read
  split at read
  · next a b c d octets =>
    simp only [List.map_eq_cons_iff, List.map_eq_nil_iff] at octets
    obtain ⟨_, _, parts, one, _, _, rfl, two, _, _, rfl, three, _, _, rfl, four, rfl⟩ := octets
    obtain ⟨first, rfl⟩ := octet_eq_some one
    obtain ⟨second, rfl⟩ := octet_eq_some two
    obtain ⟨third, rfl⟩ := octet_eq_some three
    obtain ⟨fourth, rfl⟩ := octet_eq_some four
    exact ⟨a, b, c, d, ⟨first, second, third, fourth⟩, parts, (Option.some.inj read).symm⟩
  · cases read

theorem split_injective {separator : Char} {left right : String}
    (same : split separator left = split separator right) : left = right := by
  have parts := congrArg (List.map String.toList) same
  simp only [split, List.map_map, Function.comp_def, String.toList_ofList, List.map_id'] at parts
  have joined := congrArg (List.intercalate [separator]) parts
  rw [List.intercalate_splitOn, List.intercalate_splitOn] at joined
  exact String.toList_inj.mp joined

theorem readIpv4_injective {left right : String} (read : readIpv4 left = some bits)
    (read' : readIpv4 right = some bits) : left = right := by
  obtain ⟨a, b, c, d, small, parts, rfl⟩ := readIpv4_eq_some read
  obtain ⟨a', b', c', d', small', parts', same⟩ := readIpv4_eq_some read'
  have number := congrArg BitVec.toNat same
  rw [BitVec.toNat_ofNat, BitVec.toNat_ofNat, Nat.mod_eq_of_lt (by omega),
    Nat.mod_eq_of_lt (by omega)] at number
  obtain ⟨rfl, rfl, rfl, rfl⟩ : a = a' ∧ b = b' ∧ c = c' ∧ d = d' := by omega
  exact split_injective (parts.trans parts'.symm)

theorem parseInteger_toString (number : Nat) :
    parseInteger (toString number) = some (number : Int) := by
  have digit : ∀ c ∈ (toString number).toList.dropWhile isWhiteSpace, c.isDigit = true := by
    intro c member
    have listed : c ∈ (toString number).toList := (List.dropWhile_sublist _).subset member
    have text : (toString number).toList = Nat.toDigits 10 number := by
      change number.repr.toList = _
      rw [Nat.repr_eq_ofList_toDigits, String.toList_ofList]
    rw [text] at listed
    exact Nat.isDigit_of_mem_toDigits (by decide) (by decide) listed
  have read : parseInt (toString number) = some (number : Int) := parseInt_repr number
  unfold parseInteger
  split
  · next begins =>
    rw [begins] at digit
    exact absurd (digit '-' List.mem_cons_self) (by decide)
  · next begins =>
    rw [begins] at digit
    exact absurd (digit '+' List.mem_cons_self) (by decide)
  · next x rest begins =>
    rw [begins] at digit
    rw [if_neg, read]
    rintro (rfl | rfl)
    · exact absurd (digit 'x' (by simp)) (by decide)
    · exact absurd (digit 'X' (by simp)) (by decide)
  · exact read

theorem shiftIn_toString (sum : Int) (value : Nat) :
    ∃ next : Int, shiftIn (some sum) (toString value) = some next ∧
      BitVec.ofInt 32 next = BitVec.ofInt 32 sum <<< 8 + BitVec.ofNat 32 value := by
  refine ⟨_, by rw [shiftIn, parseInteger_toString, Option.map_some], ?_⟩
  rw [BitVec.ofInt_add, BitVec.ofInt_toInt, BitVec.ofInt_natCast]
  rfl

theorem ipToNumber_of_readIpv4 (read : readIpv4 text = some bits) : ipToNumber text = bits := by
  obtain ⟨a, b, c, d, ⟨firsts, seconds, thirds, fourths⟩, parts, rfl⟩ := readIpv4_eq_some read
  obtain ⟨one, first, word⟩ := shiftIn_toString 0 a
  obtain ⟨two, second, word'⟩ := shiftIn_toString one b
  obtain ⟨three, third, word''⟩ := shiftIn_toString two c
  obtain ⟨four, fourth, all⟩ := shiftIn_toString three d
  rw [ipToNumber, parts]
  simp only [List.foldl_cons, List.foldl_nil, first, second, third, fourth, toInt32,
    Option.getD_some, word, word', word'', all]
  apply BitVec.eq_of_toNat_eq
  simp only [BitVec.toNat_add, BitVec.toNat_shiftLeft, BitVec.toNat_ofNat, BitVec.toNat_ofInt,
    Nat.shiftLeft_eq]
  omega

end Ipv4

section Blocks

variable {readIpv6 : String → Option Ipv6Address} {ip entry : String} {bits : Int}

theorem isIpInCidr_eq (counted : blockBits entry = some bits) :
    isIpInCidr ip entry = true ↔ ipToNumber ip &&& cidrMask (some bits) =
      ipToNumber (blockAddress entry) &&& cidrMask (some bits) := by
  have parsed : ((split '/' entry)[1]?).bind parseInteger = some bits := counted
  simp only [isIpInCidr, parsed, decide_eq_true_eq]
  rfl

theorem isIpInCidr_iff_bits (counted : blockBits entry = some bits) (natural : 0 ≤ bits) :
    isIpInCidr ip entry = true ↔ 85 < bits ∨ ipToNumber ip >>> (32 - bits.toNat) =
        ipToNumber (blockAddress entry) >>> (32 - bits.toNat) := by
  obtain ⟨count, rfl⟩ := Int.eq_ofNat_of_zero_le natural
  rw [isIpInCidr_eq counted, Int.toNat_natCast]
  by_cases inside : count ≤ 32
  · have short : ¬ (85 : Int) < count := by omega
    rw [and_cidrMask_eq_iff inside, or_iff_right short]
  · have none : 32 - count = 0 := by omega
    rw [none, BitVec.ushiftRight_zero, BitVec.ushiftRight_zero, cidrMask]
    by_cases long : 85 < (count : Int)
    · have absorbed : (32 : Int) - count < -53 := by omega
      simp only [if_pos absorbed, BitVec.and_zero, long, true_or]
    · have plain : ¬ (32 : Int) - count < -53 := by omega
      have ones : (32 : Int) - count < 0 ∨ 53 < (32 : Int) - count := by omega
      simp only [if_neg plain, if_pos ones, BitVec.and_allOnes, long, false_or]

variable {decodeURIComponent : String → Except String String}

theorem isIPv4_addressFunctions (text : String) :
    (addressFunctions readIpv6 decodeURIComponent).isIPv4 text = (readIpv4 text).isSome := rfl

theorem isValidIpOrCidr_of_isBlock (functions : AddressFunctions) (block : isBlock entry = true) :
    IpWhitelistService.isValidIpOrCidr functions entry =
      if functions.isIPv4 (blockAddress entry) = true then
        (blockBits entry).any fun bits => 0 ≤ bits && bits ≤ 32
      else if functions.isIPv6 (blockAddress entry) = true then
        (blockBits entry).any fun bits => 0 ≤ bits && bits ≤ 128
      else false := by
  unfold IpWhitelistService.isValidIpOrCidr
  rw [if_pos (of_decide_eq_true block)]
  rfl

theorem block_of_valid
    (valid : IpWhitelistService.isValidIpOrCidr (addressFunctions readIpv6 decodeURIComponent)
      entry = true) (block : isBlock entry = true) :
    ∃ bits, blockBits entry = some bits ∧ 0 ≤ bits ∧
      ((readIpv4 (blockAddress entry)).isSome = true ∧ bits ≤ 32 ∨
        readIpv4 (blockAddress entry) = none) := by
  rw [isValidIpOrCidr_of_isBlock _ block, isIPv4_addressFunctions] at valid
  split at valid
  · next ipv4 =>
    obtain ⟨bits, counted, inside⟩ := (Option.any_eq_true _ _).mp valid
    rw [Bool.and_eq_true, decide_eq_true_eq, decide_eq_true_eq] at inside
    exact ⟨bits, counted, inside.1, .inl ⟨ipv4, inside.2⟩⟩
  · next other =>
    split at valid
    · obtain ⟨bits, counted, inside⟩ := (Option.any_eq_true _ _).mp valid
      rw [Bool.and_eq_true, decide_eq_true_eq] at inside
      exact ⟨bits, counted, inside.1, .inr (Option.not_isSome_iff_eq_none.mp other)⟩
    · cases valid

theorem isIpInCidr_ipv4 {address base : BitVec 32} (block : isBlock entry = true)
    (valid : IpWhitelistService.isValidIpOrCidr (addressFunctions readIpv6 decodeURIComponent)
      entry = true)
    (read : readIpv4 ip = some address) (range : readIpv4 (blockAddress entry) = some base) :
    isIpInCidr ip entry = true ↔ denotes readIpv6 entry (.ipv4 address) = true := by
  obtain ⟨bits, counted, natural, ⟨_, inside⟩ | other⟩ := block_of_valid valid block
  · have short : ¬ 85 < bits := by omega
    rw [isIpInCidr_iff_bits counted natural, or_iff_right short, ipToNumber_of_readIpv4 read,
      ipToNumber_of_readIpv4 range]
    simp only [denotes, if_pos block, readAddress, range, counted, Option.any_some, samePrefix,
      decide_eq_true_eq]
    exact eq_comm
  · rw [range] at other
    cases other

theorem isIpInCidr_iff_loose (block : isBlock entry = true)
    (valid : IpWhitelistService.isValidIpOrCidr (addressFunctions readIpv6 decodeURIComponent)
      entry = true)
    (other : ((readIpv4 ip).isSome && (readIpv4 (blockAddress entry)).isSome) = false) :
    isIpInCidr ip entry = true ↔ loose ip entry = true := by
  obtain ⟨bits, counted, natural, _⟩ := block_of_valid valid block
  rw [isIpInCidr_iff_bits counted natural]
  simp [loose, block, other, counted]

end Blocks

section Whitelists

variable {readIpv6 : String → Option Ipv6Address}
  {decodeURIComponent : String → Except String String} {ip : String} {address : Address}
  {whitelist : List String}

theorem isIpAllowed_iff : isIpAllowed ip whitelist = true ↔ whitelist = [] ∨
    ∃ entry ∈ whitelist, isBlock entry = true ∧ isIpInCidr ip entry = true ∨
      isBlock entry = false ∧ ip = entry := by
  rw [isIpAllowed, Bool.or_eq_true, List.isEmpty_iff, List.any_eq_true]
  refine or_congr Iff.rfl (exists_congr fun entry => and_congr_right fun _ => ?_)
  by_cases block : '/' ∈ entry.toList
  · simp [isBlock, block]
  · simp [isBlock, block]

theorem readAddress_eq_ipv4_iff {text : String} {bits : BitVec 32} :
    readAddress readIpv6 text = some (.ipv4 bits) ↔ readIpv4 text = some bits := by
  unfold readAddress
  cases readIpv4 text with
  | some other => simp
  | none => cases readIpv6 text <;> simp

variable {entry : String}

theorem denotes_or_loose
    (valid : IpWhitelistService.isValidIpOrCidr (addressFunctions readIpv6 decodeURIComponent)
      entry = true) (read : readAddress readIpv6 ip = some address)
    (passes : isBlock entry = true ∧ isIpInCidr ip entry = true ∨
      isBlock entry = false ∧ ip = entry) :
    denotes readIpv6 entry address = true ∨ loose ip entry = true := by
  obtain ⟨block, within⟩ | ⟨plain, rfl⟩ := passes
  · by_cases both : ((readIpv4 ip).isSome && (readIpv4 (blockAddress entry)).isSome) = true
    · obtain ⟨first, second⟩ := (Bool.and_eq_true _ _).mp both
      obtain ⟨bits, here⟩ := Option.isSome_iff_exists.mp first
      obtain ⟨base, there⟩ := Option.isSome_iff_exists.mp second
      have same := Option.some.inj ((readAddress_eq_ipv4_iff.mpr here).symm.trans read)
      exact .inl (same ▸ (isIpInCidr_ipv4 block valid here there).mp within)
    · exact .inr ((isIpInCidr_iff_loose block valid (Bool.eq_false_iff.mpr both)).mp within)
  · left
    rw [denotes, plain, if_neg Bool.false_ne_true]
    exact decide_eq_true read

theorem passes_of_denotes {bits : BitVec 32}
    (valid : IpWhitelistService.isValidIpOrCidr (addressFunctions readIpv6 decodeURIComponent)
      entry = true)
    (read : readIpv4 ip = some bits) (denoted : denotes readIpv6 entry (.ipv4 bits) = true) :
    isBlock entry = true ∧ isIpInCidr ip entry = true ∨ isBlock entry = false ∧ ip = entry := by
  cases block : isBlock entry with
  | true =>
    refine .inl ⟨rfl, ?_⟩
    have within := denoted
    rw [denotes, if_pos block] at within
    obtain ⟨base, range, agrees⟩ := (Option.any_eq_true _ _).mp within
    cases base with
    | ipv4 base =>
      exact (isIpInCidr_ipv4 block valid read (readAddress_eq_ipv4_iff.mp range)).mpr denoted
    | ipv6 base =>
      obtain ⟨_, _, same⟩ := (Option.any_eq_true _ _).mp agrees
      cases same
  | false =>
    refine .inr ⟨rfl, ?_⟩
    rw [denotes, block, if_neg Bool.false_ne_true] at denoted
    exact readIpv4_injective read (readAddress_eq_ipv4_iff.mp (of_decide_eq_true denoted))

theorem passes_of_loose
    (valid : IpWhitelistService.isValidIpOrCidr (addressFunctions readIpv6 decodeURIComponent)
      entry = true)
    (matched : loose ip entry = true) : isBlock entry = true ∧ isIpInCidr ip entry = true := by
  have parts := matched
  rw [loose, Bool.and_eq_true, Bool.and_eq_true, Bool.not_eq_true'] at parts
  exact ⟨parts.1.1, (isIpInCidr_iff_loose parts.1.1 valid parts.1.2).mpr matched⟩

/-- The check allows an address exactly when the list is empty or some entry denotes it, if and
only if the list is unmistaken about it. -/
theorem whitelist_allows_iff (valid : ∀ entry ∈ whitelist, IpWhitelistService.isValidIpOrCidr
      (addressFunctions readIpv6 decodeURIComponent) entry = true)
    (read : readAddress readIpv6 ip = some address) :
    (isIpAllowed ip whitelist = true ↔ whitelist = [] ∨
        ∃ entry ∈ whitelist, denotes readIpv6 entry address = true) ↔
      Unmistaken readIpv6 ip address whitelist := by
  rw [isIpAllowed_iff]
  constructor
  · intro right
    constructor
    · rintro ⟨entry, member, matched⟩
      obtain rfl | denoted := right.mp (.inr ⟨entry, member, .inl (passes_of_loose
        (valid entry member) matched)⟩)
      · cases member
      · exact denoted
    · intro denoted other
      obtain rfl | ⟨entry, member, passes⟩ := right.mpr (.inr denoted)
      · obtain ⟨_, member, _⟩ := denoted
        cases member
      · obtain ⟨block, within⟩ | ⟨plain, rfl⟩ := passes
        · have single :
              ((readIpv4 ip).isSome && (readIpv4 (blockAddress entry)).isSome) = false := by
            rw [other, Option.isSome_none, Bool.false_and]
          exact .inr ⟨entry, member,
            (isIpInCidr_iff_loose block (valid entry member) single).mp within⟩
        · exact .inl ⟨member, plain⟩
  · rintro ⟨never_more, never_less⟩
    refine or_congr Iff.rfl ⟨?_, ?_⟩
    · rintro ⟨entry, member, passes⟩
      obtain denoted | matched := denotes_or_loose (valid entry member) read passes
      · exact ⟨entry, member, denoted⟩
      · exact never_more ⟨entry, member, matched⟩
    · rintro ⟨entry, member, denoted⟩
      cases ipv4 : readIpv4 ip with
      | some bits =>
        cases Option.some.inj ((readAddress_eq_ipv4_iff.mpr ipv4).symm.trans read)
        exact ⟨entry, member, passes_of_denotes (valid entry member) ipv4 denoted⟩
      | none =>
        obtain ⟨listed, plain⟩ | ⟨other, listed, matched⟩ :=
          never_less ⟨entry, member, denoted⟩ ipv4
        · exact ⟨ip, listed, .inr ⟨plain, rfl⟩⟩
        · exact ⟨other, listed, .inl (passes_of_loose (valid other listed) matched)⟩

end Whitelists

def oneIpv6 (text : String) : Option Ipv6Address :=
  if text = "2001:db8::1" then some { bits := 0x20010db8000000000000000000000001 } else none

/-- The list of one IPv6 address allows any IPv4 address. -/
theorem single_address_allows_any :
    IpWhitelistService.isValidIpOrCidr (addressFunctions oneIpv6 .ok) "2001:db8::1/128" = true ∧
      readAddress oneIpv6 "203.0.113.9" = some (.ipv4 0xcb007109) ∧
      ¬ (isIpAllowed "203.0.113.9" ["2001:db8::1/128"] = true ↔ ["2001:db8::1/128"] = [] ∨
        ∃ entry ∈ ["2001:db8::1/128"], denotes oneIpv6 entry (.ipv4 0xcb007109) = true) := by
  decide +kernel

/-- A block of IPv4 addresses is read right. -/
theorem private_network_is_read :
    isIpAllowed "10.1.2.3" ["10.0.0.0/8"] = true ↔ ["10.0.0.0/8"] = [] ∨
      ∃ entry ∈ ["10.0.0.0/8"], denotes oneIpv6 entry (.ipv4 0x0a010203) = true :=
  (@whitelist_allows_iff oneIpv6 .ok "10.1.2.3" (.ipv4 0x0a010203) ["10.0.0.0/8"]
    (by decide +kernel) (by decide +kernel)).mpr ⟨by decide +kernel, by decide +kernel⟩

end Caas.Auth.WhitelistMatching
