import Mathlib.Data.List.Sort
import Mathlib.Data.Rat.Defs
import Mathlib.Data.Rat.Init
import Mathlib.Algebra.Order.Ring.Unbundled.Rat
import Mathlib.Tactic.NormNum
import Caas.Js.OrderedMap

/-!
# JavaScript values

The values a program can put into an untyped record, with the operators the
verified code applies to them. Arrays and nested objects are opaque references:
the code compares them by identity and never looks inside.

Numbers are exact rationals beside the three non-finite values; the two zeros
are one number, as every operator used here treats them. `Runtime` collects what
the language leaves to the engine or to the contents of a reference.
-/

namespace Js

inductive Number where
  | nan
  | negInfinity
  | finite (value : ℚ)
  | infinity
deriving DecidableEq

namespace Number

/-- `IsLessThan` on numbers: `none` when an operand is `NaN`. -/
def lessThan : Number → Number → Option Bool
  | .nan, _ => none
  | _, .nan => none
  | .finite left, .finite right => some (decide (left < right))
  | .negInfinity, right => some (decide (right ≠ .negInfinity))
  | .infinity, _ => some false
  | .finite _, right => some (decide (right = .infinity))

/-- `left >= right`. -/
def atLeast (left right : Number) : Bool := left.lessThan right = some false

def int (value : Int) : Number := .finite value

/-- `given || default` on an optional number: zero and `NaN` count as absent. -/
def orElse (given : Option Number) (default : Number) : Number :=
  match given with
  | some number => if number = .nan ∨ number = .finite 0 then default else number
  | none => default

theorem orElse_of_one_le {number default : Number} (positive : number.atLeast (.finite 1) = true) :
    orElse (some number) default = number := by
  have present : ¬ (number = .nan ∨ number = .finite 0) := by
    rintro (rfl | rfl)
    · exact absurd positive (by decide)
    · norm_num [atLeast, lessThan] at positive
  simp [orElse, if_neg present]

/-- Number addition, without rounding. -/
def add : Number → Number → Number
  | .nan, _ => .nan
  | _, .nan => .nan
  | .finite left, .finite right => .finite (left + right)
  | .infinity, right => if right = .negInfinity then .nan else .infinity
  | .negInfinity, right => if right = .infinity then .nan else .negInfinity
  | .finite _, right => right

end Number

/-- A value of an untyped record field. -/
inductive Value where
  | undefined
  | null
  | boolean (value : Bool)
  | number (value : Number)
  | string (value : String)
  | array (reference : Nat)
  | object (reference : Nat)
deriving DecidableEq

/-- A plain object with string keys. -/
abbrev Record := OrderedMap String Value

/-- What the verified code leaves to the engine: coercions which depend on text
or on the contents of a reference, the length of a serialisation, and the order
`Array.prototype.sort` leaves behind under an arbitrary comparator. -/
structure Runtime where
  stringToNumber : String → Number
  toPrimitive : Nat → Value
  stringifyLength : Record → Nat
  sort : (Record → Record → Int) → List Record → List Record

namespace Value

/-- The integer `value` as a number value. -/
def int (value : Int) : Value := .number (.finite value)

/-- Strict equality `===`. -/
def strictEquals (left right : Value) : Bool := left = right && left ≠ .number .nan

/-- `SameValueZero`, the equality of `Map` keys and of `includes`. -/
def sameValueZero (left right : Value) : Bool := left = right

/-- The values `null` and `undefined`, which `??` replaces. -/
def isNullish (value : Value) : Bool := value = .null || value = .undefined

/-- `ToBoolean`. -/
def truthy : Value → Bool
  | .undefined | .null => false
  | .boolean value => value
  | .number value => value ≠ .nan && value ≠ .finite 0
  | .string value => value ≠ ""
  | .array _ | .object _ => true

end Value

def codeUnits (c : Char) : List Nat :=
  let code := c.val.toNat
  if code < 0x10000 then [code]
  else [0xD800 + (code - 0x10000) / 0x400, 0xDC00 + (code - 0x10000) % 0x400]

/-- The order of string comparison: lexicographic in UTF-16 code units. -/
def stringLess (left right : String) : Bool :=
  left.toList.flatMap codeUnits < right.toList.flatMap codeUnits

namespace Runtime

variable (runtime : Runtime)

/-- `ToPrimitive`. -/
def primitive : Value → Value
  | .array reference | .object reference => runtime.toPrimitive reference
  | value => value

/-- `ToNumber` of a primitive value. -/
def toNumber : Value → Number
  | .null => .finite 0
  | .boolean value => if value then .finite 1 else .finite 0
  | .number value => value
  | .string value => runtime.stringToNumber value
  | .undefined | .array _ | .object _ => .nan

/-- `IsLessThan` on arbitrary values. -/
def isLessThan (left right : Value) : Option Bool :=
  match runtime.primitive left, runtime.primitive right with
  | .string l, .string r => some (stringLess l r)
  | l, r => (runtime.toNumber l).lessThan (runtime.toNumber r)

/-- `left < right`. -/
def lt (left right : Value) : Bool := runtime.isLessThan left right = some true

/-- `left > right`. -/
def gt (left right : Value) : Bool := runtime.isLessThan right left = some true

/-- `left <= right`. -/
def le (left right : Value) : Bool := runtime.isLessThan right left = some false

/-- `left >= right`. -/
def ge (left right : Value) : Bool := runtime.isLessThan left right = some false

/-- `(value ?? 0) + 1`. -/
def successor (value : Value) : Value :=
  match runtime.primitive (if value.isNullish then .int 0 else value) with
  | .string text => .string (text ++ "1")
  | v => .number ((runtime.toNumber v).add (.finite 1))

end Runtime

/-- The white space that number parsing skips and `trim` removes. -/
def isWhiteSpace (c : Char) : Bool :=
  let code := c.val.toNat
  (0x09 ≤ code && code ≤ 0x0D) || (0x2000 ≤ code && code ≤ 0x200A) ||
    code ∈ [0x20, 0xA0, 0x1680, 0x2028, 0x2029, 0x202F, 0x205F, 0x3000, 0xFEFF]

/-- `text.trim()`. -/
def trim (text : String) : String :=
  String.ofList ((text.toList.dropWhile isWhiteSpace).reverse.dropWhile isWhiteSpace).reverse

/-- `parseInt(text, 10)`; `none` is `NaN`. -/
def parseInt (text : String) : Option Int :=
  let digitsOf (chars : List Char) : Option Int :=
    match chars.takeWhile Char.isDigit with
    | [] => none
    | digits => some (digits.foldl (fun total c => 10 * total + (c.toNat - '0'.toNat : Nat)) 0)
  match text.toList.dropWhile isWhiteSpace with
  | '-' :: rest => (digitsOf rest).map fun n => -n
  | '+' :: rest => digitsOf rest
  | chars => digitsOf chars

/-- The position that `Array.prototype.slice` makes of an integer index. -/
def sliceIndex (length : Nat) (index : Int) : Nat :=
  if index < 0 then (length + index).toNat else min index.toNat length

/-- `items.slice(start, stop)`. -/
def slice {α : Type} (items : List α) (start stop : Int) : List α :=
  (items.take (sliceIndex items.length stop)).drop (sliceIndex items.length start)

/-- The length of the JSON text of a property value; references count as `{}`. -/
def Value.jsonLength : Value → Nat
  | .undefined => 0
  | .boolean value => if value then 4 else 5
  | .string text => text.length + 2
  | .number (.finite value) => (toString value.num).length
  | .null | .number _ => 4
  | .array _ | .object _ => 2

/-- A runtime to evaluate examples with. It agrees with an engine on decimal integer
strings, on records of primitives without escapes or fractions, and on consistent
comparators. -/
def Runtime.sample : Runtime where
  stringToNumber text := ((parseInt text).map fun n => .finite n).getD .nan
  toPrimitive _ := .string "[object Object]"
  stringifyLength doc :=
    let shown := doc.entries.filter fun entry => entry.2 ≠ .undefined
    shown.foldl (fun total entry => total + entry.1.length + entry.2.jsonLength + 4) 2 -
      min 1 shown.length
  sort comparator items := items.insertionSort fun a b => comparator a b ≤ 0

end Js
