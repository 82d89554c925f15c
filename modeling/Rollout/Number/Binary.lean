import Rollout.Text.Numeral

/-!
# Binary fractions

Numbers of the form `m * 2 ^ q` with a mantissa of 53 bits, the rounding of a decimal numeral to
the nearest of them, and the reading of numerals with a point and an exponent.
-/

namespace Rollout

open Rollout.Text (digits?)

/-- A binary floating-point number of 64 bits. A finite one is `mantissa * 2 ^ exponent` with the
sign; its mantissa is less than `2 ^ 53`, and no smaller exponent than `-1074` occurs. -/
inductive Floating where
  | finite (negative : Bool) (mantissa : Nat) (exponent : Int)
  | infinite (negative : Bool)
  | notANumber
  deriving DecidableEq, Repr

namespace Floating

/-- The quotient of two numbers rounded to the nearest whole number, a half going to the even
one. -/
def roundDiv (num den : Nat) : Nat :=
  let q := num / den
  let r := 2 * (num % den)
  if r < den then q else if den < r then q + 1 else q + q % 2

/-- The least exponent of a finite number. -/
def leastExponent : Int := -1074

/-- The greatest exponent of a finite number. -/
def greatestExponent : Int := 971

/-- A fraction scaled by a power of two: the numerator and the denominator of
`num / den * 2 ^ -q`. -/
def scaled (num den : Nat) (q : Int) : Nat × Nat :=
  if q < 0 then (num <<< (-q).toNat, den) else (num, den <<< q.toNat)

/-- The finite number nearest to a positive fraction, as mantissa and exponent, or nothing if the
fraction is too great. -/
def nearestFraction (num den : Nat) : Option (Nat × Int) :=
  let rough := max ((num.log2 : Int) - den.log2 - 53) leastExponent
  let (n, d) := scaled num den rough
  let q := if n / d < 1 <<< 53 then rough else rough + 1
  let (n, d) := scaled num den q
  let m := roundDiv n d
  let (m, q) := if m = 1 <<< 53 then (1 <<< 52, q + 1) else (m, q)
  if greatestExponent < q then none else some (m, q)

/-- The finite number nearest to `digits * 10 ^ power`, as mantissa and exponent, or nothing if
that is too great. -/
def nearestDecimal (digits : Nat) (power : Int) : Option (Nat × Int) :=
  if digits = 0 then some (0, 0)
  else
    let magnitude := (Nat.toDigits 10 digits).length + power
    if magnitude > 310 then none
    else if magnitude < -330 then some (0, 0)
    else if power < 0 then nearestFraction digits (Nat.pow 10 (-power).toNat)
    else nearestFraction (digits * Nat.pow 10 power.toNat) 1

/-- The digits at the front of a text and the rest. -/
def splitDigits (cs : List Char) : List Char × List Char :=
  cs.span Char.isDigit

/-- The exponent at the end of a numeral: none at all, or the letter `e` and a whole number. -/
def exponent? : List Char → Option Int
  | [] => some 0
  | c :: r =>
    if c = 'e' ∨ c = 'E' then Text.integer? 10 r else none

/-- The numeral without a sign that a text writes: its digits, of which there is one at least, and
the power of ten. -/
def unsigned? (cs : List Char) : Option (Nat × Int) :=
  let (whole, r) := splitDigits cs
  let (fraction, r) := match r with
    | '.' :: r' => splitDigits r'
    | _ => ([], r)
  match digits? 10 (whole ++ fraction), exponent? r with
  | some n, some e => some (n, e - fraction.length)
  | _, _ => none

/-- The finite number that a decimal numeral with an optional sign writes, if it is not too
great. -/
def read? (cs : List Char) : Option Floating :=
  let (negative, body) := match cs with
    | '-' :: r => (true, r)
    | '+' :: r => (false, r)
    | _ => (false, cs)
  match unsigned? body with
  | none => none
  | some (n, e) => (nearestDecimal n e).map fun (m, q) => finite negative m q

/-- Numbers are the same when they are equal, and what is not a number is the same as itself. -/
def same : Floating → Floating → Bool
  | finite n m q, finite n' m' q' => (m == 0 && m' == 0) || (n == n' && m == m' && q == q')
  | infinite n, infinite n' => n == n'
  | notANumber, notANumber => true
  | _, _ => false

end Floating

end Rollout
