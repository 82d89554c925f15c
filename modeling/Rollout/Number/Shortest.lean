import Rollout.Number.Binary

/-!
# Shortest decimals

The fewest decimal digits that read back as a given binary number, and the layout of a number's
text around them. Of two shortest candidates the nearer one is taken, and of two equally near ones
the even one.
-/

namespace Rollout.Floating

/-- The decimals that round to a number, in quarters of its last binary place: the number itself
and the ends of the interval, which belong to it if and only if the mantissa is even. -/
structure Interval where
  low : Nat
  value : Nat
  high : Nat
  closed : Bool
  exponent : Int

/-- The interval of the decimals that round to a positive number. -/
def interval (mantissa : Nat) (exponent : Int) : Interval where
  low :=
    if mantissa = 1 <<< 52 ∧ leastExponent < exponent then 4 * mantissa - 1
    else 4 * mantissa - 2
  value := 4 * mantissa
  high := 4 * mantissa + 2
  closed := mantissa % 2 = 0
  exponent := exponent - 2

/-- Whole numbers that stand in the proportion `a * 2 ^ q` to `b * 10 ^ p`. -/
def proportion (a : Nat) (q : Int) (b : Nat) (p : Int) : Nat × Nat :=
  ((a * Nat.pow 10 (-p).toNat) <<< q.toNat, (b * Nat.pow 10 p.toNat) <<< (-q).toNat)

/-- Whether `b * 10 ^ p` lies in an interval. -/
def Interval.holds (i : Interval) (b : Nat) (p : Int) : Bool :=
  let (low, x) := proportion i.low i.exponent b p
  let (high, y) := proportion i.high i.exponent b p
  if i.closed then low ≤ x && y ≤ high else low < x && y < high

/-- The multiples of `10 ^ p` next to the value of an interval: the nearer one that lies in the
interval, if one does. -/
def Interval.onGrid? (i : Interval) (p : Int) : Option Nat :=
  let (v, unit) := proportion i.value i.exponent 1 p
  let below := v / unit
  let above := below + 1
  match i.holds below p && below != 0, i.holds above p with
  | true, true =>
    let r := 2 * (v % unit)
    some (if r < unit then below else if unit < r then above else below + below % 2)
  | true, false => some below
  | false, true => some above
  | false, false => none

/-- The first grid, from a power of ten downwards, on which an interval has a point. -/
def Interval.search (i : Interval) : Nat → Int → Nat × Int
  | 0, p => ((i.onGrid? p).getD 0, p)
  | steps + 1, p => match i.onGrid? p with
    | some n => (n, p)
    | none => i.search steps (p - 1)

/-- The power of ten that is not greater than `a * 2 ^ q`, found from a bound downwards. -/
def leadingPower (a : Nat) (q : Int) : Nat → Int → Int
  | 0, p => p
  | steps + 1, p =>
    let (v, unit) := proportion a q 1 p
    if unit ≤ v then p else leadingPower a q steps (p - 1)

/-- Digits without the zeros at their end, each of which raises the power of ten by one. -/
def withoutZeros (n : Nat) (p : Int) : Nat → Nat × Int
  | 0 => (n, p)
  | steps + 1 => if n % 10 = 0 then withoutZeros (n / 10) (p + 1) steps else (n, p)

/-- The shortest decimal of a positive number: its digits as a whole number and the power of ten
of the last one. -/
def shortest (mantissa : Nat) (exponent : Int) : Nat × Int :=
  let i := interval mantissa exponent
  let lead := leadingPower i.value i.exponent 700 310
  let (n, p) := i.search 17 lead
  withoutZeros n p 20

/-- Where the text of a number puts its digits. -/
structure Layout where
  /-- The most digits in front of the point in a text without an exponent. -/
  mostBefore : Int
  /-- The most zeros between the point and the first digit in a text without an exponent. -/
  mostZeros : Int

/-- A text with digits and an exponent has up to sixteen digits in front of the point and up to
four zeros behind it before it takes an exponent. -/
def plainLayout : Layout := ⟨16, 4⟩

/-- The digits of a number with a point at some place of them, or with an exponent. -/
def Layout.place (l : Layout) (ds : List Char) (power : Int) : List Char :=
  let before := ds.length + power
  if 0 ≤ power ∧ before ≤ l.mostBefore then
    ds ++ List.replicate power.toNat '0' ++ ['.', '0']
  else if 0 < before ∧ before ≤ l.mostBefore then
    ds.take before.toNat ++ '.' :: ds.drop before.toNat
  else if before ≤ 0 ∧ -l.mostZeros ≤ before then
    '0' :: '.' :: List.replicate (-before).toNat '0' ++ ds
  else
    let tail := 'e' :: (toString (before - 1)).toList
    match ds with
    | [d] => d :: tail
    | d :: more => d :: '.' :: more ++ tail
    | [] => tail

/-- The text of a number. -/
def text : Floating → String
  | notANumber => ".nan"
  | infinite false => ".inf"
  | infinite true => "-.inf"
  | finite negative m q =>
    let body :=
      if m = 0 then ['0', '.', '0']
      else
        let (n, p) := shortest m q
        plainLayout.place (Nat.toDigits 10 n) p
    String.ofList (if negative then '-' :: body else body)

end Rollout.Floating
