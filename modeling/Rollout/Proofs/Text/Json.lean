import Mathlib.Data.List.Basic
import Rollout.Text.Json

/-!
# JSON texts can be told apart

A value in compact form is no front of another one's text: two texts that begin with values agree
only if the values do and what follows them does (`Told`). A numeral has no mark at its end, so this
is said of texts that do not go on with one (`Ends`); in compact form a value is followed by a
comma, a closing bracket or nothing. Hence different values have different texts (`compact_inj`).
-/

namespace Rollout.Json

/-! ## Characters and strings -/

/-- The character that an escape with a letter stands for. -/
def namedBy : Char → Char
  | 'b' => '\x08'
  | 't' => '\t'
  | 'n' => '\n'
  | 'f' => '\x0c'
  | 'r' => '\r'
  | c => c

/-- The three ways in which a character stands inside a string: as it is, as a backslash and a
letter, or as the number of a control character. -/
inductive Escaped : Char → List Char → Prop
  | plain {c : Char} (hq : c ≠ '"') (hb : c ≠ '\\') : Escaped c [c]
  | named {k : Char} (h : k ≠ 'u') : Escaped (namedBy k) ['\\', k]
  | numbered {c : Char} (h : c.toNat < 0x20) : Escaped c ('\\' :: 'u' :: Text.hex 4 c.toNat)

/-- Every character is escaped in one of the three ways. -/
theorem escaped (c : Char) : Escaped c (escape c) := by
  unfold escape
  split
  · exact .named (k := '"') (by decide)
  · exact .named (k := '\\') (by decide)
  · exact .named (k := 'b') (by decide)
  · exact .named (k := 't') (by decide)
  · exact .named (k := 'n') (by decide)
  · exact .named (k := 'f') (by decide)
  · exact .named (k := 'r') (by decide)
  · rename_i hq hb _ _ _ _ _
    split
    · rename_i h
      exact .numbered h
    · exact .plain hq hb

/-- The number of a control character has four digits. -/
theorem length_hex : ∀ n < 0x20, (Text.hex 4 n).length = 4 := by
  decide

/-- The digits of a control character are read as its number. -/
theorem digits?_hex : ∀ n < 0x20, Text.digits? 16 (Text.hex 4 n) = some n := by
  decide

/-- A character inside a string does not begin with the quote that ends the string. -/
theorem Escaped.exists_cons {c : Char} {e : List Char} (h : Escaped c e) :
    ∃ x r, e = x :: r ∧ x ≠ '"' := by
  cases h with
  | plain hq _ => exact ⟨c, [], rfl, hq⟩
  | @named k _ => exact ⟨'\\', [k], rfl, by decide⟩
  | numbered _ => exact ⟨'\\', _, rfl, by decide⟩

/-- Escaped characters can be told apart, whatever follows them. -/
theorem Escaped.append_inj {c c' : Char} {e e' r r' : List Char} (h : Escaped c e)
    (h' : Escaped c' e') (he : e ++ r = e' ++ r') : c = c' ∧ r = r' := by
  cases h with
  | plain hq hb =>
    cases h' with
    | plain _ _ => exact List.cons.inj he
    | named _ => exact absurd (List.cons.inj he).1 hb
    | numbered _ => exact absurd (List.cons.inj he).1 hb
  | named hk =>
    cases h' with
    | plain _ hb => exact absurd (List.cons.inj he).1.symm hb
    | named _ =>
      obtain ⟨rfl, hr⟩ := List.cons.inj (List.cons.inj he).2
      exact ⟨rfl, hr⟩
    | numbered _ => exact absurd (List.cons.inj (List.cons.inj he).2).1 hk
  | numbered hc =>
    cases h' with
    | plain _ hb => exact absurd (List.cons.inj he).1.symm hb
    | named hk => exact absurd (List.cons.inj (List.cons.inj he).2).1.symm hk
    | numbered hc' =>
      have hdigits := (List.cons.inj (List.cons.inj he).2).2
      obtain ⟨hhex, hr⟩ := List.append_inj hdigits (by rw [length_hex _ hc, length_hex _ hc'])
      have hn : some c.toNat = some c'.toNat := by
        rw [← digits?_hex _ hc, ← digits?_hex _ hc', hhex]
      exact ⟨Char.toNat_inj.1 (Option.some.inj hn), hr⟩

/-- Escaped texts are told apart by the quotes behind them. -/
theorem escape_append_inj {cs cs' r r' : List Char}
    (h : cs.flatMap escape ++ '"' :: r = cs'.flatMap escape ++ '"' :: r') : cs = cs' ∧ r = r' := by
  induction cs generalizing cs' with
  | nil =>
    cases cs' with
    | nil => exact ⟨rfl, (List.cons.inj h).2⟩
    | cons c' cs' =>
      obtain ⟨x, e, he, hx⟩ := (escaped c').exists_cons
      rw [List.flatMap_cons, he] at h
      exact absurd (List.cons.inj h).1.symm hx
  | cons c cs ih =>
    cases cs' with
    | nil =>
      obtain ⟨x, e, he, hx⟩ := (escaped c).exists_cons
      rw [List.flatMap_cons, he] at h
      exact absurd (List.cons.inj h).1 hx
    | cons c' cs' =>
      rw [List.flatMap_cons, List.flatMap_cons, List.append_assoc, List.append_assoc] at h
      obtain ⟨rfl, hcs⟩ := (escaped c).append_inj (escaped c') h
      obtain ⟨rfl, hr⟩ := ih hcs
      exact ⟨rfl, hr⟩

/-- Strings can be told apart, whatever follows them. -/
theorem quoted_append_inj {s s' : String} {r r' : List Char}
    (h : quoted s ++ r = quoted s' ++ r') : s = s' ∧ r = r' := by
  have hbody : s.toList.flatMap escape ++ '"' :: r = s'.toList.flatMap escape ++ '"' :: r' := by
    simpa [quoted] using h
  obtain ⟨hs, hr⟩ := escape_append_inj hbody
  exact ⟨String.toList_inj.1 hs, hr⟩

/-! ## Numerals -/

/-- The characters of numerals: digits and the minus sign. -/
def isNumeral (c : Char) : Bool :=
  c.isDigit || c == '-'

/-- Whether a numeral that stands in front of a text ends there. -/
def Ends (r : List Char) : Prop :=
  ∀ c ∈ r.head?, isNumeral c = false

theorem ends_nil : Ends [] := by
  simp [Ends]

/-- A character that is not part of a numeral ends one. -/
theorem ends_cons {c : Char} (h : isNumeral c = false) (r : List Char) : Ends (c :: r) := by
  simpa [Ends] using h

theorem decimal_ofNat (m : Nat) : decimal (.ofNat m) = Nat.toDigits 10 m := by
  have h : decimal (.ofNat m) = (toString m).toList := rfl
  rw [h, Nat.toString_eq_ofList_toDigits, String.toList_ofList]

theorem decimal_negSucc (m : Nat) : decimal (.negSucc m) = '-' :: Nat.toDigits 10 (m + 1) := by
  have h : (toString (Int.negSucc m)).toList = '-' :: (toString (m + 1)).toList :=
    String.toList_append
  rw [decimal, h, Nat.toString_eq_ofList_toDigits, String.toList_ofList]

theorem isDigit_of_mem_toDigits {m : Nat} {c : Char} (h : c ∈ Nat.toDigits 10 m) :
    c.isDigit = true :=
  Nat.isDigit_of_mem_toDigits (by decide) (by decide) h

/-- A numeral consists of digits and a minus. -/
theorem isNumeral_of_mem_decimal {n : Int} {c : Char} (h : c ∈ decimal n) :
    isNumeral c = true := by
  cases n with
  | ofNat m =>
    rw [decimal_ofNat] at h
    simp [isNumeral, isDigit_of_mem_toDigits h]
  | negSucc m =>
    rw [decimal_negSucc] at h
    rcases List.mem_cons.1 h with rfl | h
    · rfl
    · simp [isNumeral, isDigit_of_mem_toDigits h]

/-- Different numbers have different numerals. -/
theorem decimal_inj {n n' : Int} (h : decimal n = decimal n') : n = n' := by
  have hdigits {a b : Nat} (hab : Nat.toDigits 10 a = Nat.toDigits 10 b) : a = b := by
    rw [← Nat.ofDigitChars_ten_toDigits (n := a), hab, Nat.ofDigitChars_ten_toDigits]
  -- no digit is a minus sign
  have hsign {a : Nat} {r : List Char} (har : Nat.toDigits 10 a = '-' :: r) : False := by
    have hminus := isDigit_of_mem_toDigits (har ▸ List.mem_cons_self : '-' ∈ Nat.toDigits 10 a)
    cases hminus
  cases n with
  | ofNat a =>
    cases n' with
    | ofNat b =>
      rw [decimal_ofNat, decimal_ofNat] at h
      exact congrArg Int.ofNat (hdigits h)
    | negSucc b =>
      rw [decimal_ofNat, decimal_negSucc] at h
      exact (hsign h).elim
  | negSucc a =>
    cases n' with
    | ofNat b =>
      rw [decimal_negSucc, decimal_ofNat] at h
      exact (hsign h.symm).elim
    | negSucc b =>
      rw [decimal_negSucc, decimal_negSucc] at h
      exact congrArg Int.negSucc (Nat.succ.inj (hdigits (List.cons.inj h).2))

/-- A numeral is the longest front of a text that may be one. -/
theorem takeWhile_decimal (n : Int) {r : List Char} (h : Ends r) :
    (decimal n ++ r).takeWhile isNumeral = decimal n := by
  have hr : r.takeWhile isNumeral = [] := by
    cases r with
    | nil => rfl
    | cons c r => exact List.takeWhile_cons_of_neg (by simp [h c rfl])
  rw [List.takeWhile_append_of_pos fun c hc => isNumeral_of_mem_decimal hc, hr, List.append_nil]

/-- Numerals can be told apart where they end. -/
theorem decimal_append_inj {n n' : Int} {r r' : List Char} (hr : Ends r) (hr' : Ends r')
    (h : decimal n ++ r = decimal n' ++ r') : n = n' ∧ r = r' := by
  have hd : decimal n = decimal n' := by
    rw [← takeWhile_decimal n hr, h, takeWhile_decimal n' hr']
  rw [hd] at h
  exact ⟨decimal_inj hd, List.append_cancel_left h⟩

/-! ## Lists of written things -/

/-- A thing whose writing can be told apart from all others, in front of texts that end numerals. -/
def Told {α : Type} (write : α → List Char) (a : α) : Prop :=
  ∀ ⦃a' r r'⦄, Ends r → Ends r' → write a ++ r = write a' ++ r' → a = a' ∧ r = r'

/-- All but the first of some texts stand behind a separator. -/
theorem separated_cons (mark x : List Char) (r : List (List Char)) :
    separated mark (x :: r) = x ++ r.flatMap (mark ++ ·) := by
  induction r generalizing x with
  | nil => simp [separated]
  | cons y r ih => rw [separated, ih, List.flatMap_cons, List.append_assoc, List.append_assoc]

section Separated

variable {α : Type} {write : α → List Char} {close : Char}

/-- What follows an item of a list, another one or the closing mark, ends numerals. -/
theorem ends_behind (hclose : isNumeral close = false) (l : List α) (r : List Char) :
    Ends ((l.map write).flatMap ([','] ++ ·) ++ close :: r) := by
  cases l with
  | nil => exact ends_cons hclose r
  | cons a l => exact ends_cons rfl _

/-- Items behind commas can be told apart where a closing mark follows them. -/
theorem flatMap_append_inj (hclose : isNumeral close = false) (hcomma : close ≠ ',')
    {l l' : List α} {r r' : List Char} (ht : ∀ a ∈ l, Told write a)
    (h : (l.map write).flatMap ([','] ++ ·) ++ close :: r =
      (l'.map write).flatMap ([','] ++ ·) ++ close :: r') : l = l' ∧ r = r' := by
  induction l generalizing l' with
  | nil =>
    cases l' with
    | nil => exact ⟨rfl, (List.cons.inj h).2⟩
    | cons a' l' => exact absurd (List.cons.inj h).1 hcomma
  | cons a l ih =>
    cases l' with
    | nil => exact absurd (List.cons.inj h).1.symm hcomma
    | cons a' l' =>
      obtain ⟨ha, hl⟩ := List.forall_mem_cons.1 ht
      have hitems : write a ++ ((l.map write).flatMap ([','] ++ ·) ++ close :: r) =
          write a' ++ ((l'.map write).flatMap ([','] ++ ·) ++ close :: r') := by
        simpa using h
      obtain ⟨rfl, hrest⟩ := ha (ends_behind hclose l r) (ends_behind hclose l' r') hitems
      obtain ⟨rfl, hr⟩ := ih hl hrest
      exact ⟨rfl, hr⟩

/-- Lists of items that do not begin like the closing mark can be told apart where it follows. -/
theorem separated_append_inj (hclose : isNumeral close = false) (hcomma : close ≠ ',')
    (hfront : ∀ a, ∃ c r, write a = c :: r ∧ c ≠ close) {l l' : List α} {r r' : List Char}
    (ht : ∀ a ∈ l, Told write a)
    (h : separated [','] (l.map write) ++ close :: r =
      separated [','] (l'.map write) ++ close :: r') : l = l' ∧ r = r' := by
  cases l with
  | nil =>
    cases l' with
    | nil => exact ⟨rfl, (List.cons.inj h).2⟩
    | cons a' l' =>
      obtain ⟨c, x, hx, hc⟩ := hfront a'
      rw [List.map_cons, separated_cons, hx] at h
      exact absurd (List.cons.inj h).1.symm hc
  | cons a l =>
    cases l' with
    | nil =>
      obtain ⟨c, x, hx, hc⟩ := hfront a
      rw [List.map_cons, separated_cons, hx] at h
      exact absurd (List.cons.inj h).1 hc
    | cons a' l' =>
      obtain ⟨ha, hl⟩ := List.forall_mem_cons.1 ht
      rw [List.map_cons, List.map_cons, separated_cons, separated_cons, List.append_assoc,
        List.append_assoc] at h
      obtain ⟨rfl, hrest⟩ := ha (ends_behind hclose l r) (ends_behind hclose l' r') h
      obtain ⟨rfl, hr⟩ := flatMap_append_inj hclose hcomma hl hrest
      exact ⟨rfl, hr⟩

end Separated

/-! ## Values -/

/-- What holds of a value if it holds of the items of a list and of the values of members. -/
theorem induct {P : Json → Prop} (null : P null) (flag : ∀ b, P (flag b))
    (number : ∀ n, P (number n)) (text : ∀ s, P (text s))
    (list : ∀ items, (∀ j ∈ items, P j) → P (list items))
    (object : ∀ members, (∀ p ∈ members, P p.2) → P (object members)) : ∀ j, P j
  | .null => null
  | .flag b => flag b
  | .number n => number n
  | .text s => text s
  | .list items => list items fun j _ => induct null flag number text list object j
  | .object members => object members fun p _ => induct null flag number text list object p.2
termination_by j => sizeOf j
decreasing_by
  · have := List.sizeOf_lt_of_mem ‹j ∈ items›
    simp only [Json.list.sizeOf_spec]
    omega
  · have := List.sizeOf_lt_of_mem ‹p ∈ members›
    have : sizeOf p = 1 + sizeOf p.1 + sizeOf p.2 := rfl
    simp only [Json.object.sizeOf_spec]
    omega

/-- The kinds of values. -/
inductive Kind where
  | null
  | flag
  | number
  | text
  | list
  | object

/-- The kind of a value. -/
def kind : Json → Kind
  | null => .null
  | flag _ => .flag
  | number _ => .number
  | text _ => .text
  | list _ => .list
  | object _ => .object

/-- The kind of the values that begin with a character, if any do. -/
def kindOf? (c : Char) : Option Kind :=
  if isNumeral c then some .number
  else match c with
    | 'n' => some .null
    | 't' => some .flag
    | 'f' => some .flag
    | '"' => some .text
    | '[' => some .list
    | '\x7b' => some .object
    | _ => none

/-- A value begins with a character that shows its kind. -/
theorem exists_compact_eq_cons (j : Json) :
    ∃ c r, compact j = c :: r ∧ kindOf? c = some j.kind := by
  cases j with
  | null => exact ⟨'n', _, by rw [compact], rfl⟩
  | flag b =>
    cases b with
    | true => exact ⟨'t', _, by rw [compact], rfl⟩
    | false => exact ⟨'f', _, by rw [compact], rfl⟩
  | number n =>
    obtain ⟨c, r, h⟩ : ∃ c r, decimal n = c :: r := by
      cases n with
      | ofNat m =>
        rw [decimal_ofNat]
        exact List.exists_cons_of_ne_nil Nat.toDigits_ne_nil
      | negSucc m => exact ⟨_, _, decimal_negSucc m⟩
    have hc : c ∈ decimal n := h ▸ List.mem_cons_self
    exact ⟨c, r, by rw [compact, h], if_pos (isNumeral_of_mem_decimal hc)⟩
  | text s => exact ⟨'"', _, by rw [compact, quoted, List.cons_append], rfl⟩
  | list items => exact ⟨'[', _, by rw [compact, List.cons_append], rfl⟩
  | object members => exact ⟨'\x7b', _, by rw [compact, List.cons_append], rfl⟩

/-- Texts that begin with values agree only if the values are of one kind. -/
theorem kind_eq_of_append {j j' : Json} {r r' : List Char}
    (h : compact j ++ r = compact j' ++ r') : j.kind = j'.kind := by
  obtain ⟨c, x, hx, hc⟩ := exists_compact_eq_cons j
  obtain ⟨c', x', hx', hc'⟩ := exists_compact_eq_cons j'
  rw [hx, hx'] at h
  rw [(List.cons.inj h).1, hc'] at hc
  exact (Option.some.inj hc).symm

/-- A member of an object in compact form. -/
def member (p : String × Json) : List Char :=
  quoted p.1 ++ ':' :: compact p.2

/-- The items of an array are written one by one. -/
theorem compactItems_eq (items : List Json) : compactItems items = items.map compact := by
  induction items with
  | nil => rw [compactItems, List.map_nil]
  | cons j r ih => rw [compactItems, List.map_cons, ih]

/-- The members of an object are written one by one. -/
theorem compactMembers_eq (members : List (String × Json)) :
    compactMembers members = members.map member := by
  induction members with
  | nil => rw [compactMembers, List.map_nil]
  | cons p r ih => rw [compactMembers, List.map_cons, ih, member]

/-- A member can be told apart if its value can. -/
theorem Told.member {p : String × Json} (h : Told compact p.2) : Told member p := by
  intro p' r r' hr hr' he
  unfold Json.member at he
  rw [List.append_assoc, List.append_assoc] at he
  obtain ⟨hname, hrest⟩ := quoted_append_inj he
  obtain ⟨hvalue, hrr⟩ := h hr hr' (List.cons.inj hrest).2
  exact ⟨Prod.ext hname hvalue, hrr⟩

/-- Every value can be told apart. -/
theorem told (j : Json) : Told compact j := by
  induction j using induct with
  | null =>
    intro j' r r' _ _ h
    have hkind := kind_eq_of_append h
    cases j' with
    | null => exact ⟨rfl, List.append_cancel_left h⟩
    | _ => cases hkind
  | flag b =>
    intro j' r r' _ _ h
    have hkind := kind_eq_of_append h
    cases j' with
    | flag b' =>
      cases b <;> cases b'
      · exact ⟨rfl, List.append_cancel_left h⟩
      · cases (List.cons.inj h).1
      · cases (List.cons.inj h).1
      · exact ⟨rfl, List.append_cancel_left h⟩
    | _ => cases hkind
  | number n =>
    intro j' r r' hr hr' h
    have hkind := kind_eq_of_append h
    cases j' with
    | number n' =>
      rw [compact, compact] at h
      obtain ⟨rfl, hrr⟩ := decimal_append_inj hr hr' h
      exact ⟨rfl, hrr⟩
    | _ => cases hkind
  | text s =>
    intro j' r r' _ _ h
    have hkind := kind_eq_of_append h
    cases j' with
    | text s' =>
      rw [compact, compact] at h
      obtain ⟨rfl, hrr⟩ := quoted_append_inj h
      exact ⟨rfl, hrr⟩
    | _ => cases hkind
  | list items ih =>
    intro j' r r' _ _ h
    have hkind := kind_eq_of_append h
    cases j' with
    | list items' =>
      have hitems : separated [','] (items.map compact) ++ ']' :: r =
          separated [','] (items'.map compact) ++ ']' :: r' := by
        simpa [compact, compactItems_eq] using h
      have hfront (j : Json) : ∃ c x, compact j = c :: x ∧ c ≠ ']' := by
        obtain ⟨c, x, hx, hc⟩ := exists_compact_eq_cons j
        refine ⟨c, x, hx, ?_⟩
        rintro rfl
        cases hc
      obtain ⟨rfl, hrr⟩ := separated_append_inj (by decide) (by decide) hfront ih hitems
      exact ⟨rfl, hrr⟩
    | _ => cases hkind
  | object members ih =>
    intro j' r r' _ _ h
    have hkind := kind_eq_of_append h
    cases j' with
    | object members' =>
      have hmembers : separated [','] (members.map member) ++ '\x7d' :: r =
          separated [','] (members'.map member) ++ '\x7d' :: r' := by
        simpa [compact, compactMembers_eq] using h
      have hfront (p : String × Json) : ∃ c x, member p = c :: x ∧ c ≠ '\x7d' :=
        ⟨'"', _, by rw [member, quoted, List.cons_append, List.cons_append], by decide⟩
      obtain ⟨rfl, hrr⟩ := separated_append_inj (by decide) (by decide) hfront
        (fun p hp => (ih p hp).member) hmembers
      exact ⟨rfl, hrr⟩
    | _ => cases hkind

/-- Different values have different texts. -/
theorem compact_inj {j j' : Json} (h : compact j = compact j') : j = j' :=
  (told j ends_nil ends_nil (by rw [h])).1

end Rollout.Json
