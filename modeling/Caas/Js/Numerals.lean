import Mathlib.Data.List.TakeWhile
import Caas.Js.Value

/-!
# Decimal numerals

What `String` writes of a natural number `parseInt` reads back.
-/

namespace Js

theorem not_isWhiteSpace_of_isDigit {c : Char} (digit : c.isDigit = true) :
    isWhiteSpace c = false := by
  simp only [Char.isDigit, Bool.and_eq_true, decide_eq_true_eq, UInt32.le_iff_toNat_le] at digit
  obtain ⟨low, high⟩ := digit
  change 48 ≤ c.val.toNat at low
  change c.val.toNat ≤ 57 at high
  simp only [isWhiteSpace, Bool.or_eq_false_iff, Bool.and_eq_false_iff, decide_eq_false_iff_not,
    List.mem_cons, List.not_mem_nil, or_false]
  omega

/-- `parseInt` adds up digits as they are written. -/
theorem foldl_digits (digits : List Char) (total : Nat) :
    digits.foldl (fun (total : Int) c => 10 * total + (c.toNat - '0'.toNat : Nat)) total =
      (Nat.ofDigitChars 10 digits total : Int) := by
  induction digits generalizing total with
  | nil => rw [List.foldl_nil, Nat.ofDigitChars_nil]
  | cons c rest ih =>
    rw [List.foldl_cons, Nat.ofDigitChars_cons, ← ih]
    push_cast
    rfl

theorem parseInt_ofList {digits : List Char} (nonempty : digits ≠ [])
    (each : ∀ c ∈ digits, c.isDigit = true) :
    parseInt (String.ofList digits) = some (Nat.ofDigitChars 10 digits 0 : Int) := by
  obtain ⟨first, rest, rfl⟩ := List.exists_cons_of_ne_nil nonempty
  have digit := each first List.mem_cons_self
  have plus : first ≠ '+' := by
    rintro rfl
    exact absurd digit (by decide)
  have minus : first ≠ '-' := by
    rintro rfl
    exact absurd digit (by decide)
  have text : (String.ofList (first :: rest)).toList.dropWhile isWhiteSpace = first :: rest := by
    rw [String.toList_ofList, List.dropWhile_cons_of_neg (by
      rw [not_isWhiteSpace_of_isDigit digit]
      decide)]
  have all : (first :: rest).takeWhile Char.isDigit = first :: rest :=
    List.takeWhile_eq_self_iff.mpr each
  unfold parseInt
  rw [text]
  split
  · next same => exact absurd (List.cons.inj same).1 minus
  · next same => exact absurd (List.cons.inj same).1 plus
  · simp only [all]
    exact congrArg some (foldl_digits (first :: rest) 0)

theorem parseInt_minus {digits : List Char} (nonempty : digits ≠ [])
    (each : ∀ c ∈ digits, c.isDigit = true) :
    parseInt (String.ofList ('-' :: digits)) = some (-(Nat.ofDigitChars 10 digits 0 : Int)) := by
  obtain ⟨first, rest, rfl⟩ := List.exists_cons_of_ne_nil nonempty
  have text : (String.ofList ('-' :: first :: rest)).toList.dropWhile isWhiteSpace =
      '-' :: first :: rest := by
    rw [String.toList_ofList, List.dropWhile_cons_of_neg (by decide)]
  have all : (first :: rest).takeWhile Char.isDigit = first :: rest :=
    List.takeWhile_eq_self_iff.mpr each
  unfold parseInt
  rw [text]
  simp only [all]
  exact congrArg (fun value : Int => some (-value)) (foldl_digits (first :: rest) 0)

theorem parseInt_repr (number : Nat) : parseInt number.repr = some (number : Int) := by
  rw [Nat.repr_eq_ofList_toDigits, parseInt_ofList Nat.toDigits_ne_nil
    fun c member => Nat.isDigit_of_mem_toDigits (by decide) (by decide) member,
    Nat.ofDigitChars_ten_toDigits]

/-- An integer survives its text. -/
theorem parseInt_toString_int (number : Int) : parseInt (toString number) = some number := by
  cases number with
  | ofNat natural => exact parseInt_repr natural
  | negSucc natural =>
    have text : toString (Int.negSucc natural) =
        String.ofList ('-' :: Nat.toDigits 10 (natural + 1)) := by
      rw [Int.toString_eq_repr, Int.repr_eq_if, if_neg (by omega), ← List.singleton_append,
        String.ofList_append, ← Nat.repr_eq_ofList_toDigits]
      rfl
    rw [text, parseInt_minus Nat.toDigits_ne_nil
      fun c member => Nat.isDigit_of_mem_toDigits (by decide) (by decide) member,
      Nat.ofDigitChars_ten_toDigits]
    rfl

/-- An integer is written in digits, after a sign when it is negative. -/
theorem mem_toString {number : Int} {c : Char} (member : c ∈ (toString number).toList) :
    c.isDigit = true ∨ c = '-' := by
  have digits {natural : Nat} (member : c ∈ natural.repr.toList) : c.isDigit = true := by
    rw [Nat.repr_eq_ofList_toDigits, String.toList_ofList] at member
    exact Nat.isDigit_of_mem_toDigits (by decide) (by decide) member
  rw [Int.toString_eq_repr, Int.repr_eq_if] at member
  split at member
  · exact .inl (digits member)
  · rw [String.toList_append] at member
    exact (List.mem_append.mp member).symm.imp digits List.mem_singleton.mp

end Js
