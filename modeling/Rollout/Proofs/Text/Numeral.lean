import Mathlib.Data.Nat.Digits.Defs
import Mathlib.Tactic.IntervalCases
import Rollout.Text.Numeral

/-!
# Decimal numerals

A decimal numeral is one or more digits of ASCII, and its value is that of the digits in base ten,
the last of which counts once. A numeral may have a sign in front of it. The readers of numbers read
exactly the numerals (`integer?_eq_some_iff`, `natural?_eq_some_iff`), and those of a limited number
of bits exactly the numerals whose values lie within the limits (`int32?_eq_some_iff`,
`uint16?_eq_some_iff`), however many digits they have.
-/

namespace Rollout.Text

/-- `Decimal cs n` says that `cs` consists of one or more digits, most significant first, and that
`n` is their value. -/
def Decimal (cs : List Char) (n : Nat) : Prop :=
  ∃ ds : List Nat, ds ≠ [] ∧ (∀ d ∈ ds, d < 10) ∧ cs = ds.map Nat.digitChar ∧
    n = Nat.ofDigits 10 ds.reverse

/-- A decimal numeral with an optional sign, and its value. -/
inductive Signed : List Char → Int → Prop
  | bare {cs : List Char} {n : Nat} (h : Decimal cs n) : Signed cs n
  | plus {cs : List Char} {n : Nat} (h : Decimal cs n) : Signed ('+' :: cs) n
  | minus {cs : List Char} {n : Nat} (h : Decimal cs n) : Signed ('-' :: cs) (-n)

/-- A decimal numeral with an optional plus sign, and its value. -/
inductive Unsigned : List Char → Nat → Prop
  | bare {cs : List Char} {n : Nat} (h : Decimal cs n) : Unsigned cs n
  | plus {cs : List Char} {n : Nat} (h : Decimal cs n) : Unsigned ('+' :: cs) n

/-- A signed numeral whose value takes at most 32 bits in two's complement. -/
def IsInt32 (cs : List Char) (n : Int) : Prop :=
  Signed cs n ∧ -2 ^ 31 ≤ n ∧ n ≤ 2 ^ 31 - 1

/-- An unsigned numeral whose value takes at most 16 bits. -/
def IsUInt16 (cs : List Char) (n : Nat) : Prop :=
  Unsigned cs n ∧ n ≤ 65535

variable {c : Char} {cs : List Char} {d m n : Nat}

/-- The decimal digits are the ten characters of ASCII. -/
theorem digitOf?_ten_eq_some_iff : digitOf? 10 c = some d ↔ d < 10 ∧ c = d.digitChar := by
  constructor
  · intro h
    obtain ⟨hvalue, hd⟩ := Option.filter_eq_some_iff.1 h
    have hlt : d < 10 := by simpa using hd
    unfold digitValue? at hvalue
    split at hvalue
    · rename_i hc
      have hlow : 48 ≤ c.toNat := hc.1
      have hvalue : c.toNat - 48 = d := Option.some.inj hvalue
      refine ⟨hlt, Char.toNat_inj.1 ?_⟩
      rw [Nat.toNat_digitChar_of_lt_ten hlt]
      omega
    · -- a letter counts for ten at least
      split at hvalue
      · simp at hvalue
        omega
      · split at hvalue
        · simp at hvalue
          omega
        · cases hvalue
  · rintro ⟨hd, rfl⟩
    interval_cases d <;> decide

/-- Digits written after a value make up a number with the value in front. -/
theorem digitsOnto?_ten_eq_some_iff : digitsOnto? 10 m cs = some n ↔
    ∃ ds : List Nat, (∀ d ∈ ds, d < 10) ∧ cs = ds.map Nat.digitChar ∧
      n = m * 10 ^ ds.length + Nat.ofDigits 10 ds.reverse := by
  induction cs generalizing m with
  | nil =>
    constructor
    · rintro ⟨⟩
      exact ⟨[], by simp, rfl, by simp⟩
    · rintro ⟨ds, -, hds, rfl⟩
      obtain rfl : ds = [] := by simpa using hds.symm
      simp [digitsOnto?]
  | cons c r ih =>
    constructor
    · intro h
      rw [digitsOnto?] at h
      split at h
      · rename_i d hd
        obtain ⟨hlt, rfl⟩ := digitOf?_ten_eq_some_iff.1 hd
        obtain ⟨ds, hds, rfl, rfl⟩ := ih.1 h
        refine ⟨d :: ds, List.forall_mem_cons.2 ⟨hlt, hds⟩, rfl, ?_⟩
        rw [Nat.ofDigits_reverse_cons, List.length_cons, pow_succ]
        ring
      · cases h
    · rintro ⟨_ | ⟨d, ds⟩, hds, hcs, rfl⟩
      · cases hcs
      · obtain ⟨hlt, hds⟩ := List.forall_mem_cons.1 hds
        obtain ⟨rfl, rfl⟩ := List.cons.inj hcs
        simp only [digitsOnto?, digitOf?_ten_eq_some_iff.2 ⟨hlt, rfl⟩]
        refine ih.2 ⟨ds, hds, rfl, ?_⟩
        rw [Nat.ofDigits_reverse_cons, List.length_cons, pow_succ]
        ring

/-- Digits are read exactly if they are a numeral, which has one digit at least. -/
theorem digits?_ten_eq_some_iff : digits? 10 cs = some n ↔ Decimal cs n := by
  unfold digits? Decimal
  cases cs with
  | nil =>
    simp only [List.isEmpty_nil, if_true, reduceCtorEq, false_iff]
    rintro ⟨ds, hne, -, hds, -⟩
    exact hne (by simpa using hds.symm)
  | cons c r =>
    simp only [List.isEmpty_cons, Bool.false_eq_true, if_false, digitsOnto?_ten_eq_some_iff,
      Nat.zero_mul, Nat.zero_add]
    constructor
    · rintro ⟨ds, hds, hcs, hn⟩
      refine ⟨ds, ?_, hds, hcs, hn⟩
      rintro rfl
      cases hcs
    · rintro ⟨ds, -, hds, hcs, hn⟩
      exact ⟨ds, hds, hcs, hn⟩

/-- A numeral begins with a digit, and so with no sign. -/
theorem Decimal.exists_cons (h : Decimal cs n) :
    ∃ c r, cs = c :: r ∧ c ≠ '+' ∧ c ≠ '-' := by
  obtain ⟨ds, hne, hds, rfl, -⟩ := h
  obtain ⟨d, r, rfl⟩ := List.exists_cons_of_ne_nil hne
  have hd : d < 10 := hds d List.mem_cons_self
  refine ⟨d.digitChar, r.map Nat.digitChar, rfl, ?_, ?_⟩ <;> interval_cases d <;> decide

/-- An integer is read exactly from a numeral with or without a sign. -/
theorem integer?_eq_some_iff {z : Int} : integer? 10 cs = some z ↔ Signed cs z := by
  constructor
  · intro h
    unfold integer? at h
    split at h
    · obtain ⟨n, hn, rfl⟩ := Option.map_eq_some_iff.1 h
      exact .plus (digits?_ten_eq_some_iff.1 hn)
    · obtain ⟨n, hn, rfl⟩ := Option.map_eq_some_iff.1 h
      exact .minus (digits?_ten_eq_some_iff.1 hn)
    · obtain ⟨n, hn, rfl⟩ := Option.map_eq_some_iff.1 h
      exact .bare (digits?_ten_eq_some_iff.1 hn)
  · intro h
    cases h with
    | bare h =>
      have hdigits := digits?_ten_eq_some_iff.2 h
      obtain ⟨c, r, rfl, hplus, hminus⟩ := h.exists_cons
      unfold integer?
      split
      · exact absurd (by simp_all) hplus
      · exact absurd (by simp_all) hminus
      · rw [hdigits]
        rfl
    | plus h =>
      rw [integer?, digits?_ten_eq_some_iff.2 h]
      rfl
    | minus h =>
      rw [integer?, digits?_ten_eq_some_iff.2 h]
      rfl

/-- A natural number is read exactly from a numeral with or without a plus. -/
theorem natural?_eq_some_iff : natural? 10 cs = some n ↔ Unsigned cs n := by
  constructor
  · intro h
    unfold natural? at h
    split at h
    · exact .plus (digits?_ten_eq_some_iff.1 h)
    · exact .bare (digits?_ten_eq_some_iff.1 h)
  · intro h
    cases h with
    | bare h =>
      have hdigits := digits?_ten_eq_some_iff.2 h
      obtain ⟨c, r, rfl, hplus, -⟩ := h.exists_cons
      unfold natural?
      split
      · exact absurd (by simp_all) hplus
      · exact hdigits
    | plus h => exact digits?_ten_eq_some_iff.2 h

/-- The range is looked at after the integer was read. -/
theorem int32?_eq_some_iff {z : Int} : int32? cs = some z ↔ IsInt32 cs z := by
  rw [int32?, Option.filter_eq_some_iff, integer?_eq_some_iff, IsInt32]
  norm_num

/-- The range is looked at after the number was read. -/
theorem uint16?_eq_some_iff : uint16? cs = some n ↔ IsUInt16 cs n := by
  rw [uint16?, Option.filter_eq_some_iff, natural?_eq_some_iff, IsUInt16]
  simp

end Rollout.Text
