import Rollout.Number.Binary
import Rollout.Text.Numeral
import Rollout.Toml.Scan

/-!
# Numbers and times

Whole numbers of 64 bits in four bases, binary fractions, and dates and times. Between two digits
of a number an underscore may stand. Of fractions and times only the form is checked, with the
ranges of their parts; their values are not kept.
-/

namespace Rollout.Toml

open Rollout.Toml.Scan

/-- Reads one or more digits of a class, with an underscore between any two or none. -/
def digitRun (ok : Char → Bool) : Scan (List Char) := do
  let first ← one ok
  let more ← many do
    let _ ← attempt (char '_')
    one ok
  return first :: more

/-- Reads an optional sign. -/
def sign : Scan (List Char) := do
  match ← attempt (one fun c => c == '+' || c == '-') with
  | some c => return [c]
  | none => return []

/-- Reads the digits of a decimal whole number, which has no leading zeros. -/
def decimalDigits : Scan (List Char) := do
  match ← attempt (char '0') with
  | some _ => return ['0']
  | none => digitRun Char.isDigit

/-- Whether a whole number fits 64 bits with a sign. -/
def fitsInteger (n : Int) : Bool :=
  -9223372036854775808 ≤ n && n ≤ 9223372036854775807

/-- Reads a whole number of a base whose digits follow a letter. -/
def based (letter : Char) (base : Nat) : Scan Int := do
  word ['0', letter]
  let digits ← digitRun fun c => (Text.digitOf? base c).isSome
  match Text.digits? base digits with
  | some n => if fitsInteger n then return n else fail
  | none => fail

/-- Reads a decimal whole number. -/
def decimal : Scan Int := do
  let mark ← sign
  let digits ← decimalDigits
  match Text.integer? 10 (mark ++ digits) with
  | some n => if fitsInteger n then return n else fail
  | none => fail

/-- Reads a whole number. -/
def integer : Scan Int :=
  or (based 'x' 16) (or (based 'o' 8) (or (based 'b' 2) decimal))

/-- Reads the exponent of a fraction. -/
def exponentPart : Scan (List Char) := do
  let _ ← one fun c => c == 'e' || c == 'E'
  let mark ← sign
  let digits ← digitRun Char.isDigit
  return 'e' :: mark ++ digits

/-- Reads a point and the digits behind it. -/
def fractionPart : Scan (List Char) := do
  char '.'
  let digits ← digitRun Char.isDigit
  return '.' :: digits

/-- Reads a fraction in digits. A positive one must not be too great. -/
def decimalFraction : Scan Unit := do
  let mark ← sign
  let whole ← decimalDigits
  let tail ← or exponentPart do
    let fraction ← fractionPart
    let exponent ← attempt exponentPart
    return fraction ++ exponent.getD []
  if mark ≠ ['-'] ∧ (Floating.read? (whole ++ tail)).isNone then fail

/-- Reads the words for what is not finite, with an optional sign. -/
def namedFraction : Scan Unit := do
  let _ ← sign
  or (word ['i', 'n', 'f']) (word ['n', 'a', 'n'])

/-- Reads a fraction. -/
def fraction : Scan Unit :=
  or decimalFraction namedFraction

/-- Reads a number of just so many digits. -/
def fixed : Nat → Nat → Scan Nat
  | 0, value => pure value
  | n + 1, value => do
    let c ← one Char.isDigit
    fixed n (value * 10 + (c.toNat - '0'.toNat))

/-- Reads a number of two digits within bounds. -/
def pair (least greatest : Nat) : Scan Nat := do
  let n ← fixed 2 0
  if least ≤ n ∧ n ≤ greatest then return n else fail

/-- The number of days of a month. -/
def daysOf (year month : Nat) : Nat :=
  if month = 2 then
    if year % 4 = 0 ∧ (year % 100 ≠ 0 ∨ year % 400 = 0) then 29 else 28
  else if month = 4 ∨ month = 6 ∨ month = 9 ∨ month = 11 then 30
  else 31

/-- Reads a date. -/
def date : Scan Unit := do
  let year ← fixed 4 0
  char '-'
  let month ← pair 1 12
  char '-'
  let _ ← pair 1 (daysOf year month)

/-- Reads a time of day, in which a leap second may occur. -/
def timeOfDay : Scan Unit := do
  let _ ← pair 0 23
  char ':'
  let _ ← pair 0 59
  char ':'
  let _ ← pair 0 60
  let _ ← attempt do
    char '.'
    let _ ← one Char.isDigit
    takeWhile Char.isDigit

/-- Reads the distance of a time from universal time. -/
def offset : Scan Unit :=
  or (do let _ ← one fun c => c == 'Z' || c == 'z') do
    let _ ← one fun c => c == '+' || c == '-'
    let _ ← pair 0 23
    char ':'
    let _ ← pair 0 59

/-- Reads a date, a time or both. -/
def time : Scan Unit :=
  or (do
    date
    let _ ← attempt do
      let _ ← one fun c => c == 'T' || c == 't' || c == ' '
      timeOfDay
      attempt offset) timeOfDay

end Rollout.Toml
