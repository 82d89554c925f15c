import Mathlib.Data.List.Forall2
import Rollout.Proofs.Sql.Quote

/-!
# T-SQL in tokens

T-SQL is read from the left into the characters of its code and the values of its texts and names: a
text stands between single quotes, with or without an `N` in front of them, a name in brackets, and
the closing mark stands for itself where it is doubled. The skeleton of a statement is what remains
when every value is left out. What is read of a statement is read of its parts one after the other,
as long as no part begins with a closing mark (`tokens?_append`).
-/

namespace Rollout.Sql

/-- A token of T-SQL. -/
inductive Token where
  | code (c : Char)
  /-- The value of a text or of a name, which the mark tells apart: it is the one that closes it. -/
  | quoted (mark : Char) (value : List Char)
  deriving DecidableEq

namespace Token

/-- A token without the value of a text or of a name. -/
def blank : Token → Token
  | code c => code c
  | quoted mark _ => quoted mark []

/-- The value of a text or of a name. -/
def value? : Token → Option (List Char)
  | code _ => none
  | quoted _ value => some value

end Token

/-- A text or a name at the front of T-SQL: the mark that closes it, and what follows the
opening. -/
def opening? : List Char → Option (Char × List Char)
  | '\'' :: r => some ('\'', r)
  | 'N' :: '\'' :: r => some ('\'', r)
  | '[' :: r => some (']', r)
  | _ => none

/-- What follows an opening is shorter than the text. -/
theorem length_of_opening {cs r : List Char} {mark : Char} (h : opening? cs = some (mark, r)) :
    r.length < cs.length := by
  unfold opening? at h
  split at h <;> cases h <;> simp +arith

/-- The tokens of T-SQL, unless a text or a name is never closed. -/
def tokens? (cs : List Char) : Option (List Token) :=
  match _h : opening? cs with
  | some (mark, r) => match _h' : undouble mark r with
    | some (value, rest) => (tokens? rest).map (.quoted mark value :: ·)
    | none => none
  | none => match cs with
    | [] => some []
    | c :: r => (tokens? r).map (.code c :: ·)
termination_by cs.length
decreasing_by
  · have h1 := length_of_opening ‹opening? cs = _›
    have h2 := length_of_undouble ‹undouble mark r = _›
    omega
  · simp

/-- The tokens of a statement without the values of texts and names. -/
def skeleton? (sql : String) : Option (List Token) :=
  (tokens? sql.toList).map (List.map Token.blank)

/-- The values of texts and names, in order. -/
def valuesOf (ts : List Token) : List String :=
  (ts.filterMap Token.value?).map String.ofList

/-- The values of the texts and names of a statement. -/
def values? (sql : String) : Option (List String) :=
  (tokens? sql.toList).map valuesOf

/-- Characters that do not begin with a closing mark, so that what is closed in front of them is
closed for good. -/
def Detached (cs : List Char) : Prop :=
  cs.head? ≠ some '\'' ∧ cs.head? ≠ some ']'

instance (cs : List Char) : Decidable (Detached cs) :=
  inferInstanceAs (Decidable (_ ∧ _))

/-- Detached characters may follow detached ones. -/
theorem Detached.append {cs more : List Char} (h : Detached cs) (h' : Detached more) :
    Detached (cs ++ more) := by
  cases cs with
  | nil => exact h'
  | cons c r => exact h

/-- An opening at the front does not depend on what follows. -/
theorem opening?_append {cs r : List Char} {mark : Char} (h : opening? cs = some (mark, r))
    (more : List Char) : opening? (cs ++ more) = some (mark, r ++ more) := by
  unfold opening? at h
  split at h <;> cases h <;> rfl

/-- Where nothing opens, nothing does if the text goes on, for an `N` at its end meets no quote. -/
theorem opening?_append_of_none {c : Char} {r more : List Char} (h : opening? (c :: r) = none)
    (hmore : Detached more) : opening? (c :: (r ++ more)) = none := by
  unfold opening? at h ⊢
  split at h
  · cases h
  · cases h
  · cases h
  · rename_i hquote hnational hbracket
    split
    · rename_i heq
      cases heq
      exact absurd rfl (hquote _)
    · rename_i r' heq
      obtain ⟨rfl, hr⟩ := List.cons.inj heq
      -- the quote behind the `N` is in the text itself or in what it goes on with
      cases r with
      | nil => exact absurd (by rw [show more = _ from hr]; rfl) hmore.1
      | cons d r =>
        cases hr
        exact absurd rfl (hnational _)
    · rename_i heq
      cases heq
      exact absurd rfl (hbracket _)
    · rfl

/-- The mark that closes is a single quote or a closing bracket. -/
theorem mark_of_opening {cs r : List Char} {mark : Char} (h : opening? cs = some (mark, r)) :
    mark = '\'' ∨ mark = ']' := by
  unfold opening? at h
  split at h <;> cases h <;> simp

/-- Detached characters do not begin with the mark that closes an opening. -/
theorem Detached.head?_ne {cs r more : List Char} {mark : Char} (h : Detached more)
    (hopen : opening? cs = some (mark, r)) : more.head? ≠ some mark := by
  rcases mark_of_opening hopen with rfl | rfl
  · exact h.1
  · exact h.2

/-- The tokens from a text or a name on. -/
theorem tokens?_of_opening {cs r value rest : List Char} {mark : Char}
    (hopen : opening? cs = some (mark, r)) (hclose : undouble mark r = some (value, rest)) :
    tokens? cs = (tokens? rest).map (.quoted mark value :: ·) := by
  rw [tokens?]
  split
  · rename_i hopen'
    cases hopen'.symm.trans hopen
    split
    · rename_i hclose'
      cases hclose'.symm.trans hclose
      rfl
    · rename_i hclose'
      cases hclose'.symm.trans hclose
  · rename_i hopen'
    cases hopen'.symm.trans hopen

/-- The tokens from a character of code on. -/
theorem tokens?_cons {c : Char} {r : List Char} (h : opening? (c :: r) = none) :
    tokens? (c :: r) = (tokens? r).map (.code c :: ·) := by
  rw [tokens?]
  split
  · rename_i hopen
    cases hopen.symm.trans h
  · rfl

/-- What is read of a text that goes on is what is read of it, and then what is read of the rest. -/
theorem tokens?_append {cs more : List Char} {ts : List Token} (h : tokens? cs = some ts)
    (hmore : Detached more) : tokens? (cs ++ more) = (tokens? more).map (ts ++ ·) := by
  fun_induction tokens? cs generalizing ts with
  | case1 cs mark r hopen value rest hclose ih =>
    obtain ⟨ts', hts', rfl⟩ := Option.map_eq_some_iff.1 h
    -- where the text ends with the closing mark, no other one follows to double it
    have hclose' := undouble_append hclose more fun _ => hmore.head?_ne hopen
    rw [tokens?_of_opening (opening?_append hopen more) hclose', ih hts', Option.map_map]
    rfl
  | case2 => cases h
  | case3 =>
    cases h
    simp
  | case4 c r hopen ih =>
    obtain ⟨ts', hts', rfl⟩ := Option.map_eq_some_iff.1 h
    rw [List.cons_append, tokens?_cons (opening?_append_of_none hopen hmore), ih hts',
      Option.map_map]
    rfl

/-- A character of code: no opening of a text or a name, and no closing mark. -/
def isCode (c : Char) : Bool :=
  c != '\'' && c != '[' && c != ']'

/-- Characters of code are tokens of code. -/
theorem tokens?_of_isCode {cs : List Char} (h : cs.all isCode = true) :
    tokens? cs = some (cs.map .code) := by
  induction cs with
  | nil => simp [tokens?, opening?]
  | cons c r ih =>
    obtain ⟨hc, hr⟩ := Bool.and_eq_true_iff.1 (List.all_cons.symm.trans h)
    have hopen : opening? (c :: r) = none := by
      unfold opening?
      split <;> simp_all [isCode]
    rw [tokens?_cons hopen, ih hr, Option.map_some, List.map_cons]

/-- No character of code is a closing mark. -/
theorem Detached.of_isCode {cs : List Char} (h : cs.all isCode = true) : Detached cs := by
  cases cs with
  | nil => simp [Detached]
  | cons c r =>
    simp only [List.all_cons, isCode, Bool.and_eq_true, bne_iff_ne] at h
    simp [Detached, h]

/-- An enclosed text is one token, with what it says as its value. -/
theorem tokens?_enclosed {opening : String} {mark : Char}
    (hopen : ∀ r, opening? (opening.toList ++ r) = some (mark, r)) (text : String) :
    tokens? (enclosed opening mark text).toList = some [.quoted mark text.toList] := by
  have hopening : opening? (enclosed opening mark text).toList =
      some (mark, doubled mark text.toList ++ [mark]) := by
    rw [enclosed, String.toList_append, hopen, String.toList_ofList]
  rw [tokens?_of_opening hopening (undouble_doubled text.toList (by simp))]
  simp [tokens?, opening?]

/-- A text in quotes is one token, with the text as its value. -/
theorem tokens?_literal (text : String) :
    tokens? (literal text).toList = some [.quoted '\'' text.toList] := by
  rw [literal_eq]
  exact tokens?_enclosed (fun _ => rfl) text

/-- A name in brackets is one token, with the name as its value. -/
theorem tokens?_ident (name : String) :
    tokens? (ident name).toList = some [.quoted ']' name.toList] := by
  rw [ident_eq]
  exact tokens?_enclosed (fun _ => rfl) name

theorem eq_ofList_append {a b : String} {cs ds : List Char} (ha : a = String.ofList cs)
    (hb : b = String.ofList ds) : a ++ b = String.ofList (cs ++ ds) := by
  rw [ha, hb, String.ofList_append]

/-- Two statements that differ in nothing but the values of texts and names, with the values of the
first. -/
structure SameCode (sql sql' : String) (values : List String) : Prop where
  detached : Detached sql.toList
  detached' : Detached sql'.toList
  tokens : ∃ ts ts', tokens? sql.toList = some ts ∧ tokens? sql'.toList = some ts' ∧
    ts.map Token.blank = ts'.map Token.blank ∧ valuesOf ts = values

namespace SameCode

variable {a a' b b' : String} {values more : List String}

/-- Statements with the same code have the same skeleton. -/
theorem skeleton?_eq (h : SameCode a a' values) : skeleton? a = skeleton? a' := by
  obtain ⟨ts, ts', hts, hts', hblank, -⟩ := h.tokens
  rw [skeleton?, skeleton?, hts, hts', Option.map_some, Option.map_some, hblank]

/-- The values of a statement are those that its code leaves out. -/
theorem values?_eq (h : SameCode a a' values) : values? a = some values := by
  obtain ⟨ts, ts', hts, -, -, hvalues⟩ := h.tokens
  rw [values?, hts, Option.map_some, hvalues]

/-- Statements that have the same code part by part have the same code. -/
theorem append (h : SameCode a a' values) (h' : SameCode b b' more) :
    SameCode (a ++ b) (a' ++ b') (values ++ more) := by
  obtain ⟨ts, ts', hts, hts', hblank, rfl⟩ := h.tokens
  obtain ⟨us, us', hus, hus', hblank', rfl⟩ := h'.tokens
  constructor
  · rw [String.toList_append]
    exact h.detached.append h'.detached
  · rw [String.toList_append]
    exact h.detached'.append h'.detached'
  · refine ⟨ts ++ us, ts' ++ us', ?_, ?_, ?_, ?_⟩
    · rw [String.toList_append, tokens?_append hts h'.detached, hus, Option.map_some]
    · rw [String.toList_append, tokens?_append hts' h'.detached', hus', Option.map_some]
    · rw [List.map_append, List.map_append, hblank, hblank']
    · simp [valuesOf]

/-- Code has no values. -/
theorem of_isCode (h : a.toList.all isCode = true) : SameCode a a [] where
  detached := .of_isCode h
  detached' := .of_isCode h
  tokens := by
    refine ⟨_, _, tokens?_of_isCode h, tokens?_of_isCode h, rfl, ?_⟩
    simp [valuesOf, Token.value?, List.filterMap_map, Function.comp_def]

/-- A part of a statement that is given by its characters, all of them code. -/
theorem code {cs : List Char} (ha : a = String.ofList cs) (h : cs.all isCode = true) :
    SameCode a a [] :=
  of_isCode (by rwa [ha, String.toList_ofList])

/-- A part of a statement that is given by its characters, with texts that are always the same. -/
theorem fixed {cs : List Char} {texts : List (List Char)} (ha : a = String.ofList cs)
    (hvalues : List.Forall₂ (fun value text => value = String.ofList text) values texts)
    (hcs : Detached cs) (h : (tokens? cs).map (List.filterMap Token.value?) = some texts) :
    SameCode a a values := by
  obtain ⟨ts, hts, htexts⟩ := Option.map_eq_some_iff.1 h
  have hmap : texts.map String.ofList = values := by
    clear h htexts
    induction hvalues with
    | nil => rfl
    | cons hv _ ih => rw [List.map_cons, ih, hv]
  rw [← String.toList_ofList (l := cs), ← ha] at hcs hts
  exact ⟨hcs, hcs, ts, ts, hts, hts, rfl, by rw [valuesOf, htexts, hmap]⟩

/-- A text in quotes is its value, whatever it holds. -/
theorem literal (text text' : String) : SameCode (literal text) (literal text') [text] where
  detached := by simp [Sql.literal, Detached]
  detached' := by simp [Sql.literal, Detached]
  tokens := ⟨_, _, tokens?_literal text, tokens?_literal text', rfl, by
    simp [valuesOf, Token.value?]⟩

/-- A name in brackets is its value, whatever it holds. -/
theorem ident (name name' : String) : SameCode (ident name) (ident name') [name] where
  detached := by simp [Sql.ident, Detached]
  detached' := by simp [Sql.ident, Detached]
  tokens := ⟨_, _, tokens?_ident name, tokens?_ident name', rfl, by
    simp [valuesOf, Token.value?]⟩

/-- Code that goes on. -/
theorem codeThen {cs : List Char} (ha : a = String.ofList cs) (h : cs.all isCode = true)
    (hb : SameCode b b' more) : SameCode (a ++ b) (a ++ b') more :=
  append (code ha h) hb

/-- Two parts that share a text which is always the same, and what goes on behind them. -/
theorem fixedPairThen {c c' : String} {cs ds : List Char} {texts : List (List Char)}
    (ha : a = String.ofList cs) (hb : b = String.ofList ds)
    (hvalues : List.Forall₂ (fun value text => value = String.ofList text) values texts)
    (hcs : Detached (cs ++ ds))
    (h : (tokens? (cs ++ ds)).map (List.filterMap Token.value?) = some texts)
    (hc : SameCode c c' more) : SameCode (a ++ (b ++ c)) (a ++ (b ++ c')) (values ++ more) := by
  rw [← String.append_assoc, ← String.append_assoc]
  exact append (fixed (eq_ofList_append ha hb) hvalues hcs h) hc

/-- A text in quotes, and what goes on behind it. -/
theorem literalThen (text text' : String) (hb : SameCode b b' more) :
    SameCode (Sql.literal text ++ b) (Sql.literal text' ++ b') (text :: more) :=
  append (literal text text') hb

/-- A name in brackets, and what goes on behind it. -/
theorem identThen (name name' : String) (hb : SameCode b b' more) :
    SameCode (Sql.ident name ++ b) (Sql.ident name' ++ b') (name :: more) :=
  append (ident name name') hb

theorem empty : SameCode "" "" [] :=
  code (String.ofList_nil).symm rfl

/-- The digits of a number are code. -/
theorem nat (n : Nat) : SameCode (toString n) (toString n) [] := by
  refine of_isCode (List.all_eq_true.2 fun c hc => ?_)
  have hdigits : (toString n).toList = Nat.toDigits 10 n := by simp
  have hdigit : c.isDigit = true :=
    Nat.isDigit_of_mem_toDigits (by decide) (by decide) (hdigits ▸ hc)
  have hne (d : Char) (hd : d.isDigit = false) : c ≠ d := by
    rintro rfl
    cases hd.symm.trans hdigit
  simp [isCode, hne '\'' rfl, hne '[' rfl, hne ']' rfl]

/-- A number is code. -/
theorem int (n : Int) : SameCode (toString n) (toString n) [] := by
  cases n with
  | ofNat n => exact nat n
  | negSucc n => exact append (a := "-") (.code rfl rfl) (nat (n + 1))

end SameCode

end Rollout.Sql
