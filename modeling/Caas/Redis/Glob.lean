import Mathlib.Data.List.Infix
import Mathlib.Data.Char

/-!
# Glob patterns of Redis keys

A pattern is read into tokens: `*` for any text, `?` for one character, a class in
brackets, which `^` negates and which may hold ranges, and characters that stand for
themselves, after a backslash whatever they are. A class that is not closed ends with the
pattern.
-/

namespace Redis.Glob

inductive Token where
  | anything
  | anyOne
  | oneOf (negated : Bool) (ranges : List (Char × Char))
  | literal (char : Char)
deriving DecidableEq

def Token.admits (char : Char) : Token → Bool
  | .anything | .anyOne => true
  | .oneOf negated ranges => negated != ranges.any fun range => range.1 ≤ char && char ≤ range.2
  | .literal expected => expected = char

/-- Where the reading of a pattern stands: in text or after a backslash in it, after an
opening bracket, or in a class; there after a backslash, after a character, which may
begin a range, or after its dash. -/
inductive Mode where
  | text
  | escaped
  | opened
  | inClass (negated : Bool) (ranges : List (Char × Char))
  | classEscaped (negated : Bool) (ranges : List (Char × Char))
  | begun (negated : Bool) (ranges : List (Char × Char)) (start : Char)
  | dashed (negated : Bool) (ranges : List (Char × Char)) (start : Char)

def readInClass (negated : Bool) (ranges : List (Char × Char)) (char : Char) : Mode × List Token :=
  if char = ']' then (.text, [.oneOf negated ranges])
  else if char = '\\' then (.classEscaped negated ranges, [])
  else (.begun negated ranges char, [])

def read : Mode → Char → Mode × List Token
  | .text, char =>
    if char = '*' then (.text, [.anything])
    else if char = '?' then (.text, [.anyOne])
    else if char = '[' then (.opened, [])
    else if char = '\\' then (.escaped, [])
    else (.text, [.literal char])
  | .escaped, char => (.text, [.literal char])
  | .opened, char => if char = '^' then (.inClass true [], []) else readInClass false [] char
  | .inClass negated ranges, char => readInClass negated ranges char
  | .classEscaped negated ranges, char => (.inClass negated ((char, char) :: ranges), [])
  | .begun negated ranges start, char =>
    if char = '-' then (.dashed negated ranges start, [])
    else readInClass negated ((start, start) :: ranges) char
  | .dashed negated ranges start, char =>
    (.inClass negated ((if char < start then (char, start) else (start, char)) :: ranges), [])

/-- The token that the end of a pattern completes. -/
def finish : Mode → List Token
  | .text => []
  | .escaped => [.literal '\\']
  | .opened => [.oneOf false []]
  | .inClass negated ranges => [.oneOf negated ranges]
  | .classEscaped negated ranges => [.oneOf negated (('\\', '\\') :: ranges)]
  | .begun negated ranges start => [.oneOf negated ((start, start) :: ranges)]
  | .dashed negated ranges start => [.oneOf negated (('-', '-') :: (start, start) :: ranges)]

/-- The tokens of what is left of a pattern. -/
def scan (mode : Mode) : List Char → List Token
  | [] => finish mode
  | char :: rest => (read mode char).2 ++ scan (read mode char).1 rest

/-- Some way of reading the tokens fits the text. -/
def fits : List Token → List Char → Bool
  | [], text => text.isEmpty
  | .anything :: rest, text => text.tails.any (fits rest)
  | _ :: _, [] => false
  | token :: rest, char :: text => token.admits char && fits rest text

def glob (pattern key : String) : Bool := fits (scan .text pattern.toList) key.toList

/-- Text without brackets and backslashes. -/
def Plain (text : List Char) : Prop := ∀ char ∈ text, char ≠ '[' ∧ char ≠ '\\'

theorem scan_cons (mode : Mode) (char : Char) (rest : List Char) :
    scan mode (char :: rest) = (read mode char).2 ++ scan (read mode char).1 rest := rfl

theorem fits_nil (text : List Char) : fits [] text = text.isEmpty := rfl

theorem fits_star (rest : List Token) (text : List Char) :
    fits (.anything :: rest) text = text.tails.any (fits rest) := rfl

variable {text : List Char}

theorem fits_anything {rest : List Token} {left : List Char} (suffix : left <:+ text)
    (fit : fits rest left = true) : fits (.anything :: rest) text = true := by
  rw [fits_star, List.any_eq_true]
  exact ⟨left, (List.mem_tails left text).mpr suffix, fit⟩

/-- A token that admits a character fits before a text. -/
theorem fits_cons {token : Token} {rest : List Token} {char : Char}
    (admits : token.admits char = true) (fit : fits rest text = true) :
    fits (token :: rest) (char :: text) = true := by
  cases token with
  | anything => exact fits_anything (List.suffix_cons char text) fit
  | anyOne | oneOf | literal => simp [fits, admits, fit]

/-- What fits two texts fits one after the other. -/
theorem fits_append {first second : List Token} {left right : List Char}
    (fit : fits first left = true) (fit' : fits second right = true) :
    fits (first ++ second) (left ++ right) = true := by
  induction first generalizing left with
  | nil =>
    rw [fits_nil, List.isEmpty_iff] at fit
    subst fit
    exact fit'
  | cons token rest ih =>
    cases token with
    | anything =>
      rw [fits_star, List.any_eq_true] at fit
      obtain ⟨text, suffix, fit⟩ := fit
      obtain ⟨before, rfl⟩ := (List.mem_tails _ _).mp suffix
      rw [List.append_assoc]
      exact fits_anything (List.suffix_append before _) (ih fit)
    | anyOne | oneOf | literal =>
      cases left with
      | nil => cases fit
      | cons char text =>
        simp only [fits, Bool.and_eq_true] at fit
        exact fits_cons fit.1 (ih fit.2)

/-- The character is read as one token, and admitted by it. -/
theorem read_plain {char : Char} (plain : char ≠ '[' ∧ char ≠ '\\') :
    ∃ token, read .text char = (.text, [token]) ∧ token.admits char = true := by
  by_cases star : char = '*'
  · exact ⟨.anything, by simp [read, star], rfl⟩
  by_cases question : char = '?'
  · exact ⟨.anyOne, by simp [read, question], rfl⟩
  exact ⟨.literal char, by simp [read, star, question, plain.1, plain.2], by simp [Token.admits]⟩

theorem Plain.tail {char : Char} {text : List Char} (plain : Plain (char :: text)) : Plain text :=
  fun other member => plain other (List.mem_cons_of_mem char member)

/-- Plain text is read to its end. -/
theorem scan_append (plain : Plain text) (rest : List Char) :
    scan .text (text ++ rest) = scan .text text ++ scan .text rest := by
  induction text with
  | nil => rfl
  | cons char text ih =>
    obtain ⟨token, read, -⟩ := read_plain (plain char List.mem_cons_self)
    simp [scan_cons, read, ih plain.tail]

theorem fits_self (plain : Plain text) : fits (scan .text text) text = true := by
  induction text with
  | nil => rfl
  | cons char text ih =>
    obtain ⟨token, read, admits⟩ := read_plain (plain char List.mem_cons_self)
    simp only [scan_cons, read]
    exact fits_cons admits (ih plain.tail)

/-- A plain piece of a pattern that fits a piece of a key. -/
structure Covers (pattern text : List Char) : Prop where
  plain : Plain pattern
  fit : fits (scan .text pattern) text = true

theorem Covers.self (plain : Plain text) : Covers text text :=
  ⟨plain, fits_self plain⟩

theorem Covers.star (text : List Char) : Covers ['*'] text :=
  ⟨by simp [Plain], fits_anything (List.nil_suffix) rfl⟩

theorem Covers.append {pattern pattern' text' : List Char} (covers : Covers pattern text)
    (covers' : Covers pattern' text') : Covers (pattern ++ pattern') (text ++ text') where
  plain char member := by
    rcases List.mem_append.mp member with left | right
    · exact covers.plain char left
    · exact covers'.plain char right
  fit := by
    rw [scan_append covers.plain]
    exact fits_append covers.fit covers'.fit

end Redis.Glob
