/-!
# Numerals

Whole numbers written with an optional sign and digits of a base, with no other characters and no
grouping. Leading zeros are allowed.
-/

namespace Rollout.Text

/-- The value of a digit or letter as a digit, whatever the base. -/
def digitValue? (c : Char) : Option Nat :=
  if '0' ≤ c ∧ c ≤ '9' then some (c.toNat - '0'.toNat)
  else if 'a' ≤ c ∧ c ≤ 'z' then some (c.toNat - 'a'.toNat + 10)
  else if 'A' ≤ c ∧ c ≤ 'Z' then some (c.toNat - 'A'.toNat + 10)
  else none

/-- The value of a character as a digit of a base. -/
def digitOf? (base : Nat) (c : Char) : Option Nat :=
  (digitValue? c).filter (· < base)

/-- The number that digits write after `value`, most significant digit first. -/
def digitsOnto? (base : Nat) (value : Nat) : List Char → Option Nat
  | [] => some value
  | c :: r => match digitOf? base c with
    | some d => digitsOnto? base (value * base + d) r
    | none => none

/-- The number that one or more digits of a base write. -/
def digits? (base : Nat) (cs : List Char) : Option Nat :=
  if cs.isEmpty then none else digitsOnto? base 0 cs

/-- A number with an optional plus sign. -/
def natural? (base : Nat) : List Char → Option Nat
  | '+' :: r => digits? base r
  | cs => digits? base cs

/-- A number with an optional sign. -/
def integer? (base : Nat) : List Char → Option Int
  | '+' :: r => (digits? base r).map Int.ofNat
  | '-' :: r => (digits? base r).map fun n => -Int.ofNat n
  | cs => (digits? base cs).map Int.ofNat

/-- A signed decimal number of 32 bits. -/
def int32? (cs : List Char) : Option Int :=
  (integer? 10 cs).filter fun n => -2147483648 ≤ n ∧ n ≤ 2147483647

/-- An unsigned decimal number of 16 bits. -/
def uint16? (cs : List Char) : Option Nat :=
  (natural? 10 cs).filter (· ≤ 65535)

/-- An unsigned decimal number of 64 bits. -/
def uint64? (cs : List Char) : Option Nat :=
  (natural? 10 cs).filter (· < UInt64.size)

/-- A number in lower-case hexadecimal with at least `width` digits. -/
def hex (width : Nat) (n : Nat) : List Char :=
  let ds := Nat.toDigits 16 n
  List.replicate (width - ds.length) '0' ++ ds

end Rollout.Text
