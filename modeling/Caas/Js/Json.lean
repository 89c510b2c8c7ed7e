import Mathlib.Logic.Function.Basic
import Caas.Js.OrderedMap

/-!
# JSON text

Documents and the text `JSON.stringify` writes for them. `ν` is the type of numbers and
`digits` writes one; a member whose value is `undefined` is left out of its object.

`stringify_injective` recovers a document from its text.
-/

namespace Js

inductive Json (ν : Type) where
  | null
  | boolean (value : Bool)
  | number (value : ν)
  | string (value : String)
  | array (items : List (Json ν))
  | object (members : List (String × Json ν))

namespace Json

def literal {ν : Type} (members : List (String × Option (Json ν))) : Json ν :=
  .object (members.filterMap fun member => member.2.map fun value => (member.1, value))

/-- A lower-case hexadecimal digit. -/
def hexDigit (digit : Nat) : Char :=
  if digit < 10 then Char.ofNat (48 + digit) else Char.ofNat (87 + digit)

/-- A character inside quotation marks. -/
def escape (c : Char) : List Char :=
  if c = '\"' then ['\\', '\"']
  else if c = '\\' then ['\\', '\\']
  else if c.toNat = 8 then ['\\', 'b']
  else if c.toNat = 9 then ['\\', 't']
  else if c.toNat = 10 then ['\\', 'n']
  else if c.toNat = 12 then ['\\', 'f']
  else if c.toNat = 13 then ['\\', 'r']
  else if c.toNat < 32 then ['\\', 'u', '0', '0', hexDigit (c.toNat / 16), hexDigit (c.toNat % 16)]
  else [c]

def quoted (value : String) : List Char := '\"' :: value.toList.flatMap escape ++ ['\"']

section Writing

variable {ν : Type} (digits : ν → List Char)

mutual

def text : Json ν → List Char
  | .null => ['n', 'u', 'l', 'l']
  | .boolean true => ['t', 'r', 'u', 'e']
  | .boolean false => ['f', 'a', 'l', 's', 'e']
  | .number value => digits value
  | .string value => quoted value
  | .array items => '[' :: itemsText items
  | .object members => '{' :: membersText members

/-- The items of an array and its closing bracket. -/
def itemsText : List (Json ν) → List Char
  | [] => [']']
  | item :: rest => text item ++ laterItemsText rest

def laterItemsText : List (Json ν) → List Char
  | [] => [']']
  | item :: rest => ',' :: text item ++ laterItemsText rest

/-- The members of an object and its closing brace. -/
def membersText : List (String × Json ν) → List Char
  | [] => ['}']
  | (key, value) :: rest => quoted key ++ ':' :: text value ++ laterMembersText rest

def laterMembersText : List (String × Json ν) → List Char
  | [] => ['}']
  | (key, value) :: rest => ',' :: quoted key ++ ':' :: text value ++ laterMembersText rest

end

/-- `JSON.stringify(document)`. -/
def stringify (document : Json ν) : String := String.ofList (text digits document)

end Writing

/-! ## Reading a text back -/

/-- The value of a lower-case hexadecimal digit. -/
def hexValue (c : Char) : Nat := if c.toNat < 58 then c.toNat - 48 else c.toNat - 87

/-- The first character that a text inside quotation marks stands for. -/
def unescape : List Char → Option (Char × List Char)
  | '\\' :: 'u' :: '0' :: '0' :: high :: low :: rest =>
    some (Char.ofNat (16 * hexValue high + hexValue low), rest)
  | '\\' :: 'b' :: rest => some (Char.ofNat 8, rest)
  | '\\' :: 't' :: rest => some (Char.ofNat 9, rest)
  | '\\' :: 'n' :: rest => some (Char.ofNat 10, rest)
  | '\\' :: 'f' :: rest => some (Char.ofNat 12, rest)
  | '\\' :: 'r' :: rest => some (Char.ofNat 13, rest)
  | '\\' :: c :: rest => some (c, rest)
  | '\"' :: _ => none
  | c :: rest => some (c, rest)
  | [] => none

theorem hexValue_hexDigit : ∀ digit < 16, hexValue (hexDigit digit) = digit := by decide

theorem unescape_escape (c : Char) (rest : List Char) :
    unescape (escape c ++ rest) = some (c, rest) := by
  unfold escape
  split_ifs with quote backslash code code code code code control
  · rw [quote]
    rfl
  · rw [backslash]
    rfl
  any_goals
    rw [← Char.ofNat_toNat c, code]
    rfl
  · have high := hexValue_hexDigit (c.toNat / 16) (by omega)
    have low := hexValue_hexDigit (c.toNat % 16) (by omega)
    simp only [List.cons_append, List.nil_append, unescape, high, low]
    rw [Nat.div_add_mod, Char.ofNat_toNat]
  · rw [List.singleton_append, unescape.eq_def]
    split <;> simp_all

theorem escape_cancel {c d : Char} {left right : List Char}
    (equal : escape c ++ left = escape d ++ right) : c = d ∧ left = right := by
  have read := congrArg unescape equal
  rw [unescape_escape, unescape_escape] at read
  simpa using read

theorem escape_ne_quote (c : Char) (left right : List Char) :
    escape c ++ left ≠ '\"' :: right := by
  intro equal
  have read := congrArg unescape equal
  rw [unescape_escape] at read
  simp [unescape] at read

theorem quoted_cancel {value value' : String} {left right : List Char}
    (equal : quoted value ++ left = quoted value' ++ right) : value = value' ∧ left = right := by
  have bodies : ∀ chars chars' : List Char,
      chars.flatMap escape ++ '\"' :: left = chars'.flatMap escape ++ '\"' :: right →
        chars = chars' ∧ left = right := by
    intro chars
    induction chars with
    | nil =>
      rintro (_ | ⟨d, rest⟩) same
      · simpa using same
      · rw [List.flatMap_cons, List.append_assoc] at same
        exact absurd same.symm (escape_ne_quote d _ _)
    | cons c rest ih =>
      rintro (_ | ⟨d, rest'⟩) same
      · rw [List.flatMap_cons, List.append_assoc] at same
        exact absurd same (escape_ne_quote c _ _)
      · simp only [List.flatMap_cons, List.append_assoc] at same
        obtain ⟨rfl, tails⟩ := escape_cancel same
        obtain ⟨rfl, ends⟩ := ih rest' tails
        exact ⟨rfl, ends⟩
  have same := bodies value.toList value'.toList (by simpa [quoted] using equal)
  exact ⟨String.toList_inj.mp same.1, same.2⟩

/-- The characters a number is written with. -/
def isNumeral (c : Char) : Bool := c.isDigit || c = '-' || c = '+' || c = '.' || c = 'e'

/-- Different numbers have different texts, of numeral characters only. -/
structure Numerals {ν : Type} (digits : ν → List Char) : Prop where
  injective : Function.Injective digits
  nonempty : ∀ value, digits value ≠ []
  numeral : ∀ value, ∀ c ∈ digits value, isNumeral c = true

/-- No number goes on into this text. -/
def Delimited (rest : List Char) : Prop := ∀ c ∈ rest.head?, isNumeral c = false

theorem delimited_nil : Delimited [] := by simp [Delimited]

theorem delimited_cons {c : Char} (plain : isNumeral c = false) (rest : List Char) :
    Delimited (c :: rest) := by
  simpa [Delimited] using plain

section Cancelling

variable {ν : Type} {digits : ν → List Char}

theorem takeWhile_numeral {body rest : List Char} (numeral : ∀ c ∈ body, isNumeral c = true)
    (delimited : Delimited rest) : (body ++ rest).takeWhile isNumeral = body := by
  rw [List.takeWhile_append_of_pos numeral]
  cases rest with
  | nil => exact List.append_nil body
  | cons c rest =>
    have plain := delimited c rfl
    rw [List.takeWhile_cons_of_neg (by simp [plain]), List.append_nil]

theorem digits_cancel (numerals : Numerals digits) {value value' : ν} {left right : List Char}
    (equal : digits value ++ left = digits value' ++ right) (delimited : Delimited left)
    (delimited' : Delimited right) : value = value' ∧ left = right := by
  have same := congrArg (List.takeWhile isNumeral) equal
  rw [takeWhile_numeral (numerals.numeral value) delimited,
    takeWhile_numeral (numerals.numeral value') delimited'] at same
  rw [same] at equal
  exact ⟨numerals.injective same, List.append_cancel_left equal⟩

theorem digits_ne_cons (numerals : Numerals digits) {c : Char} (plain : isNumeral c = false)
    (value : ν) (left right : List Char) : digits value ++ left ≠ c :: right := by
  intro equal
  cases written : digits value with
  | nil => exact numerals.nonempty value written
  | cons d rest =>
    rw [written, List.cons_append, List.cons.injEq] at equal
    have numeral := numerals.numeral value d (by simp [written])
    rw [equal.1, plain] at numeral
    exact Bool.noConfusion numeral

theorem delimited_laterItems (items : List (Json ν)) (rest : List Char) :
    Delimited (laterItemsText digits items ++ rest) := by
  cases items <;> exact delimited_cons (by decide) _

theorem delimited_laterMembers (members : List (String × Json ν)) (rest : List Char) :
    Delimited (laterMembersText digits members ++ rest) := by
  cases members <;> exact delimited_cons (by decide) _

/-- No document begins like the end of an array. -/
theorem text_ne_bracket (numerals : Numerals digits) (document : Json ν)
    (left right : List Char) : text digits document ++ left ≠ ']' :: right := by
  cases document with
  | number value => exact digits_ne_cons numerals (by decide) value left right
  | boolean value => cases value <;> simp [text]
  | _ => simp [text, quoted]

mutual

/-- A document is read off any text that begins with it. -/
theorem text_cancel (numerals : Numerals digits) :
    ∀ (document document' : Json ν) {left right : List Char},
      text digits document ++ left = text digits document' ++ right →
        Delimited left → Delimited right → document = document' ∧ left = right
  | .null, document', left, right, equal, _, _ => by
    cases document' with
    | null => exact ⟨rfl, by simpa [text] using equal⟩
    | boolean value' => cases value' <;> simp [text] at equal
    | number value' => exact absurd equal.symm (digits_ne_cons numerals (by decide) value' _ _)
    | _ => simp [text, quoted] at equal
  | .boolean value, document', left, right, equal, _, _ => by
    cases document' with
    | boolean value' => cases value <;> cases value' <;> simp_all [text]
    | number value' =>
      cases value <;>
        exact absurd equal.symm (digits_ne_cons numerals (by decide) value' _ _)
    | _ => cases value <;> simp [text, quoted] at equal
  | .number value, document', left, right, equal, delimited, delimited' => by
    cases document' with
    | number value' =>
      obtain ⟨rfl, ends⟩ := digits_cancel numerals equal delimited delimited'
      exact ⟨rfl, ends⟩
    | boolean value' =>
      cases value' <;> exact absurd equal (digits_ne_cons numerals (by decide) value _ _)
    | _ => exact absurd equal (digits_ne_cons numerals (by decide) value _ _)
  | .string value, document', left, right, equal, _, _ => by
    cases document' with
    | string value' =>
      obtain ⟨rfl, ends⟩ := quoted_cancel equal
      exact ⟨rfl, ends⟩
    | boolean value' => cases value' <;> simp [text, quoted] at equal
    | number value' => exact absurd equal.symm (digits_ne_cons numerals (by decide) value' _ _)
    | _ => simp [text, quoted] at equal
  | .array items, document', left, right, equal, _, _ => by
    cases document' with
    | array items' =>
      obtain ⟨rfl, ends⟩ := itemsText_cancel numerals items items' (List.cons.inj equal).2
      exact ⟨rfl, ends⟩
    | boolean value' => cases value' <;> simp [text] at equal
    | number value' => exact absurd equal.symm (digits_ne_cons numerals (by decide) value' _ _)
    | _ => simp [text, quoted] at equal
  | .object members, document', left, right, equal, _, _ => by
    cases document' with
    | object members' =>
      obtain ⟨rfl, ends⟩ := membersText_cancel numerals members members' (List.cons.inj equal).2
      exact ⟨rfl, ends⟩
    | boolean value' => cases value' <;> simp [text] at equal
    | number value' => exact absurd equal.symm (digits_ne_cons numerals (by decide) value' _ _)
    | _ => simp [text, quoted] at equal

theorem itemsText_cancel (numerals : Numerals digits) :
    ∀ (items items' : List (Json ν)) {left right : List Char},
      itemsText digits items ++ left = itemsText digits items' ++ right →
        items = items' ∧ left = right
  | [], [], _, _, equal => ⟨rfl, (List.cons.inj equal).2⟩
  | [], item' :: rest', left, right, equal => by
    rw [itemsText, itemsText, List.append_assoc] at equal
    exact absurd equal.symm (text_ne_bracket numerals item' _ _)
  | item :: rest, [], left, right, equal => by
    rw [itemsText, itemsText, List.append_assoc] at equal
    exact absurd equal (text_ne_bracket numerals item _ _)
  | item :: rest, item' :: rest', left, right, equal => by
    simp only [itemsText, List.append_assoc] at equal
    obtain ⟨rfl, tails⟩ := text_cancel numerals item item' equal
      (delimited_laterItems rest left) (delimited_laterItems rest' right)
    obtain ⟨rfl, ends⟩ := laterItemsText_cancel numerals rest rest' tails
    exact ⟨rfl, ends⟩

theorem laterItemsText_cancel (numerals : Numerals digits) :
    ∀ (items items' : List (Json ν)) {left right : List Char},
      laterItemsText digits items ++ left = laterItemsText digits items' ++ right →
        items = items' ∧ left = right
  | [], [], _, _, equal => ⟨rfl, (List.cons.inj equal).2⟩
  | [], item' :: rest', left, right, equal => by
    simp [laterItemsText] at equal
  | item :: rest, [], left, right, equal => by
    simp [laterItemsText] at equal
  | item :: rest, item' :: rest', left, right, equal => by
    simp only [laterItemsText, List.cons_append, List.append_assoc, List.cons.injEq, true_and]
      at equal
    obtain ⟨rfl, tails⟩ := text_cancel numerals item item' equal
      (delimited_laterItems rest left) (delimited_laterItems rest' right)
    obtain ⟨rfl, ends⟩ := laterItemsText_cancel numerals rest rest' tails
    exact ⟨rfl, ends⟩

theorem membersText_cancel (numerals : Numerals digits) :
    ∀ (members members' : List (String × Json ν)) {left right : List Char},
      membersText digits members ++ left = membersText digits members' ++ right →
        members = members' ∧ left = right
  | [], [], _, _, equal => ⟨rfl, (List.cons.inj equal).2⟩
  | [], (key', value') :: rest', left, right, equal => by
    simp [membersText, quoted] at equal
  | (key, value) :: rest, [], left, right, equal => by
    simp [membersText, quoted] at equal
  | (key, value) :: rest, (key', value') :: rest', left, right, equal => by
    simp only [membersText, List.append_assoc, List.cons_append] at equal
    obtain ⟨rfl, values⟩ := quoted_cancel equal
    obtain ⟨rfl, tails⟩ := text_cancel numerals value value' (List.cons.inj values).2
      (delimited_laterMembers rest left) (delimited_laterMembers rest' right)
    obtain ⟨rfl, ends⟩ := laterMembersText_cancel numerals rest rest' tails
    exact ⟨rfl, ends⟩

theorem laterMembersText_cancel (numerals : Numerals digits) :
    ∀ (members members' : List (String × Json ν)) {left right : List Char},
      laterMembersText digits members ++ left = laterMembersText digits members' ++ right →
        members = members' ∧ left = right
  | [], [], _, _, equal => ⟨rfl, (List.cons.inj equal).2⟩
  | [], (key', value') :: rest', left, right, equal => by
    simp [laterMembersText] at equal
  | (key, value) :: rest, [], left, right, equal => by
    simp [laterMembersText] at equal
  | (key, value) :: rest, (key', value') :: rest', left, right, equal => by
    simp only [laterMembersText, List.append_assoc, List.cons_append, List.cons.injEq, true_and]
      at equal
    obtain ⟨rfl, values⟩ := quoted_cancel equal
    obtain ⟨rfl, tails⟩ := text_cancel numerals value value' (List.cons.inj values).2
      (delimited_laterMembers rest left) (delimited_laterMembers rest' right)
    obtain ⟨rfl, ends⟩ := laterMembersText_cancel numerals rest rest' tails
    exact ⟨rfl, ends⟩

end

/-- A text determines its document. -/
theorem stringify_injective (numerals : Numerals digits) :
    Function.Injective (stringify digits) := by
  intro document document' equal
  have texts := String.ofList_injective equal
  exact (text_cancel numerals document document'
    (congrArg (fun written => written ++ []) texts) delimited_nil
    delimited_nil).1

end Cancelling

end Json

end Js

/-!
## Working with parsed JSON

What JavaScript makes of a value that `JSON.parse` returns: its members, its truth, its text
in a template, and object literals that spread it. The type of numbers is a parameter, with
the text of a number and the numbers that count as false.
-/

namespace Js.Json

variable {ν : Type}

/-- The numbers in texts and conditions. -/
structure Numbers (ν : Type) where
  digits : ν → List Char
  isZero : ν → Bool

/-- `value[key]`, of a key that is no index and belongs to no prototype. -/
def member? (value : Json ν) (key : String) : Option (Json ν) :=
  match value with
  | .object members => (OrderedMap.ofList members).get key
  | _ => none

def stringMember? (value : Json ν) (key : String) : Option String :=
  match value.member? key with
  | some (.string text) => some text
  | _ => none

/-- `Boolean(value)`. -/
def truthy (numbers : Numbers ν) : Json ν → Bool
  | .null => false
  | .boolean value => value
  | .number value => !numbers.isZero value
  | .string text => text ≠ ""
  | .array _ | .object _ => true

/-- `value || other`. -/
def orElse (numbers : Numbers ν) (value : Option (Json ν)) (other : Json ν) : Json ν :=
  (value.filter (truthy numbers)).getD other

section Texts

variable (numbers : Numbers ν)

mutual

/-- The characters of a value in a template. -/
def shown : Json ν → List Char
  | .null => ['n', 'u', 'l', 'l']
  | .boolean true => ['t', 'r', 'u', 'e']
  | .boolean false => ['f', 'a', 'l', 's', 'e']
  | .number value => numbers.digits value
  | .string value => value.toList
  | .array items => shownItems items
  | .object _ => "[object Object]".toList

/-- The items of an array, joined; `null` is empty. -/
def shownItems : List (Json ν) → List Char
  | [] => []
  | .null :: rest => shownLaterItems rest
  | item :: rest => shown item ++ shownLaterItems rest

def shownLaterItems : List (Json ν) → List Char
  | [] => []
  | .null :: rest => ',' :: shownLaterItems rest
  | item :: rest => ',' :: shown item ++ shownLaterItems rest

end

def template (value : Json ν) : String := String.ofList (shown numbers value)

end Texts

/-- The members that a value spreads; those of a string are its characters. -/
def ownMembers : Json ν → List (String × Json ν)
  | .object members => members
  | .array items => items.zipIdx.map fun (item, index) => (toString index, item)
  | .string text => text.toList.zipIdx.map fun (c, index) => (toString index, .string c.toString)
  | .null | .boolean _ | .number _ => []

/-- The literal `{ ...value, ...patch }`. -/
def spread (value : Option (Json ν)) (patch : List (String × Json ν)) : Json ν :=
  .object (OrderedMap.spread (.ofList ((value.map ownMembers).getD [])) (.ofList patch)).entries

/-- A literal reads its later members first. -/
theorem member?_spread (value : Option (Json ν)) (patch : List (String × Json ν)) (key : String) :
    (spread value patch).member? key = ((OrderedMap.ofList patch).get key).or
      ((OrderedMap.ofList ((value.map ownMembers).getD [])).get key) := by
  rw [spread, member?, OrderedMap.ofList, OrderedMap.get_foldl_set _ (OrderedMap.nodup _),
    OrderedMap.get_empty, Option.or_none]
  exact OrderedMap.get_spread _ _ key

end Js.Json
