import Mathlib.Data.List.Basic
import Mathlib.Logic.Function.Basic

/-!
# Dates

A date holds a time value, in milliseconds since 1970, or is invalid. `toISOString`
writes a time value in the Gregorian calendar; it throws on an invalid date.

Calendar years are grouped in eras of four hundred, and the year of an era begins on the
first of March, so that the day a leap year adds is its last.
-/

namespace Js

/-- A `Date` by its time value; `none` is an invalid date. -/
abbrev Date := Option Int

namespace Date

/-- The years of an era before its day `day`. -/
def yearOfEra (day : Nat) : Nat :=
  let century := min (day / 36524) 3
  let dayOfCentury := day - century * 36524
  century * 100 + dayOfCentury / 1461 * 4 + min (dayOfCentury % 1461 / 365) 3

/-- The days of a year before day `day` of the era. -/
def dayOfYear (day : Nat) : Nat :=
  let dayOfCentury := day - min (day / 36524) 3 * 36524
  dayOfCentury % 1461 - min (dayOfCentury % 1461 / 365) 3 * 365

structure Civil where
  year : Int
  month : Nat
  day : Nat
deriving DecidableEq

/-- The day `day` of the year `year`, both counted from March. -/
def Civil.ofMarch (year : Int) (day : Nat) : Civil :=
  let shifted := (5 * day + 2) / 153
  let month := if shifted < 10 then shifted + 3 else shifted - 9
  { year := if month ≤ 2 then year + 1 else year
    month
    day := day - (153 * shifted + 2) / 5 + 1 }

/-- The day which is `days` days after 1970-01-01. -/
def civil (days : Int) : Civil :=
  let day := ((days + 719468) % 146097).toNat
  Civil.ofMarch ((days + 719468) / 146097 * 400 + yearOfEra day) (dayOfYear day)

example : civil 0 = ⟨1970, 1, 1⟩ := by decide
example : civil 19782 = ⟨2024, 2, 29⟩ := by decide
example : civil (-719529) = ⟨-1, 12, 31⟩ := by decide

variable {day width value : Nat} {c : Char}

theorem yearOfEra_lt (inside : day < 146097) : yearOfEra day < 400 := by
  simp only [yearOfEra]
  omega

theorem dayOfYear_le (day : Nat) : dayOfYear day ≤ 365 := by
  simp only [dayOfYear]
  omega

/-- A day of an era is known by its year and its day of the year. -/
theorem day_of_year (inside : day < 146097) :
    yearOfEra day / 100 * 36524 + yearOfEra day % 100 / 4 * 1461 + yearOfEra day % 4 * 365 +
      dayOfYear day = day := by
  simp only [yearOfEra, dayOfYear]
  obtain ⟨century, centuryEq⟩ : ∃ century, century = min (day / 36524) 3 := ⟨_, rfl⟩
  obtain ⟨dayOfCentury, dayEq⟩ : ∃ rest, rest = day - century * 36524 := ⟨_, rfl⟩
  rw [← centuryEq, ← dayEq]
  obtain ⟨year, yearEq⟩ : ∃ year, year = min (dayOfCentury % 1461 / 365) 3 := ⟨_, rfl⟩
  rw [← yearEq]
  have hundreds : (century * 100 + dayOfCentury / 1461 * 4 + year) / 100 = century := by omega
  have fours : (century * 100 + dayOfCentury / 1461 * 4 + year) % 100 / 4 =
      dayOfCentury / 1461 := by omega
  have ones : (century * 100 + dayOfCentury / 1461 * 4 + year) % 4 = year := by omega
  rw [hundreds, fours, ones]
  omega

/-- A calendar day is known by its year and its day of the year, both from March. -/
theorem Civil.ofMarch_unique {year year' : Int} {day' : Nat} (inside : day ≤ 365)
    (inside' : day' ≤ 365) (equal : ofMarch year day = ofMarch year' day') :
    year = year' ∧ day = day' := by
  unfold ofMarch at equal
  simp only [Civil.mk.injEq] at equal
  obtain ⟨years, months, days⟩ := equal
  have shifted : (5 * day + 2) / 153 = (5 * day' + 2) / 153 := by
    split_ifs at months <;> omega
  rw [shifted] at years days
  split_ifs at years <;> omega

/-- Different days have different calendar days. -/
theorem civil_injective : Function.Injective civil := by
  intro days days' equal
  have inside : ((days + 719468) % 146097).toNat < 146097 := by omega
  have inside' : ((days' + 719468) % 146097).toNat < 146097 := by omega
  have known := Civil.ofMarch_unique (dayOfYear_le _) (dayOfYear_le _) equal
  have year := yearOfEra_lt inside
  have year' := yearOfEra_lt inside'
  have years : yearOfEra ((days + 719468) % 146097).toNat =
      yearOfEra ((days' + 719468) % 146097).toNat := by omega
  have day := day_of_year inside
  rw [years, known.2, day_of_year inside'] at day
  omega

/-! ## The text of a date -/

/-- A number in decimal digits, at least `width` of them. -/
def padStart (width value : Nat) : List Char := List.leftpad width '0' (Nat.toDigits 10 value)

/-- A year, with a sign and six digits outside of the years 0 to 9999. -/
def yearText (year : Int) : List Char :=
  if year < 0 then '-' :: padStart 6 year.natAbs
  else if 9999 < year then '+' :: padStart 6 year.natAbs
  else padStart 4 year.natAbs

/-- The time value `time` in the form `YYYY-MM-DDTHH:mm:ss.sssZ`. -/
def isoText (time : Int) : List Char :=
  let date := civil (time / 86400000)
  let clock := (time % 86400000).toNat
  yearText date.year ++ '-' :: (padStart 2 date.month ++ '-' :: (padStart 2 date.day ++
    'T' :: (padStart 2 (clock / 3600000) ++ ':' :: (padStart 2 (clock / 60000 % 60) ++
    ':' :: (padStart 2 (clock / 1000 % 60) ++ '.' :: (padStart 3 (clock % 1000) ++ ['Z']))))))

/-- `date.toISOString()`. -/
def toISOString : Date → Except String String
  | some time => .ok (String.ofList (isoText time))
  | none => .error "RangeError: Invalid time value"

example : toISOString (some 1709210096789) = .ok "2024-02-29T12:34:56.789Z" := by decide +kernel
example : toISOString (some (-62198755200001)) = .ok "-000002-12-31T23:59:59.999Z" := by
  decide +kernel

theorem ofDigitChars_padStart (width value : Nat) :
    Nat.ofDigitChars 10 (padStart width value) 0 = value := by
  rw [padStart, List.leftpad, Nat.ofDigitChars_append, Nat.ofDigitChars_replicate_zero,
    Nat.mul_zero, Nat.ofDigitChars_ten_toDigits]

theorem isDigit_of_mem_padStart (member : c ∈ padStart width value) : c.isDigit = true := by
  rw [padStart, List.leftpad, List.mem_append, List.mem_replicate] at member
  rcases member with ⟨-, rfl⟩ | digit
  · rfl
  · exact Nat.isDigit_of_mem_toDigits (by decide) (by decide) digit

theorem takeWhile_padStart (width value : Nat) (plain : c.isDigit = false) (rest : List Char) :
    (padStart width value ++ c :: rest).takeWhile Char.isDigit = padStart width value := by
  rw [List.takeWhile_append_of_pos fun d member => isDigit_of_mem_padStart member,
    List.takeWhile_cons_of_neg (by simp [plain]), List.append_nil]

/-- A number followed by something else than a digit is read off the text. -/
theorem padStart_cancel {width' value' : Nat} (plain : c.isDigit = false) {left right : List Char}
    (equal : padStart width value ++ c :: left = padStart width' value' ++ c :: right) :
    value = value' ∧ left = right := by
  have same := congrArg (List.takeWhile Char.isDigit) equal
  rw [takeWhile_padStart _ _ plain, takeWhile_padStart _ _ plain] at same
  rw [same] at equal
  have values := congrArg (Nat.ofDigitChars 10 · 0) same
  simp only [ofDigitChars_padStart] at values
  exact ⟨values, (List.cons.inj (List.append_cancel_left equal)).2⟩

theorem padStart_ne_cons {d : Char} (plain : c.isDigit = false) (sign : d.isDigit = false)
    (left right : List Char) : padStart width value ++ c :: left ≠ d :: right := by
  intro equal
  have same := congrArg (List.takeWhile Char.isDigit) equal
  rw [takeWhile_padStart _ _ plain, List.takeWhile_cons_of_neg (by simp [sign])] at same
  have digits := congrArg List.length same
  have positive := @Nat.length_toDigits_pos 10 value
  simp only [padStart, List.leftpad, List.length_append, List.length_nil] at digits
  omega

theorem yearText_cancel {year year' : Int} {left right : List Char}
    (equal : yearText year ++ '-' :: left = yearText year' ++ '-' :: right) :
    year = year' ∧ left = right := by
  unfold yearText at equal
  split_ifs at equal with before before' after' after before' after' before' after'
  all_goals try simp only [List.cons_append, List.cons.injEq] at equal
  all_goals first
    | exact absurd equal (padStart_ne_cons (by decide) (by decide) _ _)
    | exact absurd equal.symm (padStart_ne_cons (by decide) (by decide) _ _)
    | exact absurd equal.1 (by decide)
    | (obtain ⟨values, rests⟩ := padStart_cancel (by decide) equal.2
       exact ⟨by omega, rests⟩)
    | (obtain ⟨values, rests⟩ := padStart_cancel (by decide) equal
       exact ⟨by omega, rests⟩)

/-- Different time values have different texts. -/
theorem isoText_injective : Function.Injective isoText := by
  intro time time' equal
  obtain ⟨years, equal⟩ := yearText_cancel equal
  obtain ⟨months, equal⟩ := padStart_cancel (by decide) equal
  obtain ⟨days, equal⟩ := padStart_cancel (by decide) equal
  obtain ⟨hours, equal⟩ := padStart_cancel (by decide) equal
  obtain ⟨minutes, equal⟩ := padStart_cancel (by decide) equal
  obtain ⟨seconds, equal⟩ := padStart_cancel (by decide) equal
  obtain ⟨milliseconds, -⟩ := padStart_cancel (by decide) equal
  have date : civil (time / 86400000) = civil (time' / 86400000) := by
    cases first : civil (time / 86400000)
    cases second : civil (time' / 86400000)
    simp_all
  have day := civil_injective date
  omega

/-- Different valid dates have different texts, and an invalid one has none. -/
theorem toISOString_inj {date date' : Date} {text : String} (written : date.toISOString = .ok text)
    (written' : date'.toISOString = .ok text) : date = date' := by
  cases date with
  | none => simp [toISOString] at written
  | some time =>
    cases date' with
    | none => simp [toISOString] at written'
    | some time' =>
      rw [← written] at written'
      have texts := String.ofList_injective (Except.ok.inj written')
      rw [isoText_injective texts]

end Date

end Js
