import Rollout.Sql.Quote

/-!
# Reading quoted text back

`undouble` reads up to the quote that closes a quoted text. It undoes `doubled`: what it reads is
exactly a doubled text with a closing quote behind it and no other quote after that
(`undouble_eq_some_iff`), and in a doubled text alone it finds no closing quote at all
(`undouble_eq_none_iff`). Both come from one law: a doubled text is passed over as what it says,
whatever follows (`undouble_doubled_append`). So a text in quotes and a name in brackets are read
back in front of whatever follows them, and neither is closed by what it says (`quoted_read_back`).
-/

namespace Rollout.Sql

variable {mark : Char} {cs t rest : List Char}

/-- Doubling a character brings no other characters into a text. -/
@[simp] theorem mem_doubled {x : Char} : x ∈ doubled mark t ↔ x ∈ t := by
  induction t with
  | nil => simp [doubled]
  | cons c r ih => by_cases hc : c = mark <;> simp [doubled, hc, ih]

/-! ## The quote that closes -/

/-- A character that is no quote is part of the text. -/
theorem undouble_cons {c : Char} (hc : c ≠ mark) (r : List Char) :
    undouble mark (c :: r) = (undouble mark r).map fun (t, rest) => (c :: t, rest) := by
  cases r <;> simp [undouble, hc]

/-- A quote in front of no other quote closes. -/
theorem undouble_mark (h : rest.head? ≠ some mark) :
    undouble mark (mark :: rest) = some ([], rest) := by
  cases rest with
  | nil => simp [undouble]
  | cons d r =>
    have hd : d ≠ mark := by simpa using h
    simp [undouble, hd]

/-- A doubled text holds no closing quote: it is passed over as what it says, and the quote is
looked for in what follows. -/
theorem undouble_doubled_append (t more : List Char) :
    undouble mark (doubled mark t ++ more) = (undouble mark more).map fun p => (t ++ p.1, p.2) := by
  induction t with
  | nil => simp [doubled]
  | cons c r ih =>
    by_cases hc : c = mark
    · subst hc
      simp [doubled, undouble, ih, Function.comp_def]
    · rw [doubled, if_neg hc, List.cons_append, undouble_cons hc, ih, Option.map_map]
      rfl

/-- What is read is a doubled text and the quote behind it that closes, which no other one
follows. -/
theorem undouble_eq_some_iff :
    undouble mark cs = some (t, rest) ↔
      cs = doubled mark t ++ mark :: rest ∧ rest.head? ≠ some mark := by
  constructor
  · intro h
    fun_induction undouble mark cs generalizing t with
    | case1 => cases h
    | case2 => cases h; simp [doubled]
    | case3 => cases h
    | case4 r ih =>
      obtain ⟨⟨t', rest'⟩, h', he⟩ := Option.map_eq_some_iff.1 h
      cases he
      simpa [doubled] using ih h'
    | case5 d r hd =>
      cases h
      simp [doubled, hd]
    | case6 c d r hc ih =>
      obtain ⟨⟨t', rest'⟩, h', he⟩ := Option.map_eq_some_iff.1 h
      cases he
      simpa [doubled, hc] using ih h'
  · rintro ⟨rfl, hrest⟩
    rw [undouble_doubled_append, undouble_mark hrest, Option.map_some, List.append_nil]

/-- No quote closes exactly if every quote is one of a doubled pair. -/
theorem undouble_eq_none_iff : undouble mark cs = none ↔ ∃ t, cs = doubled mark t := by
  constructor
  · intro h
    fun_induction undouble mark cs with
    | case1 => exact ⟨[], rfl⟩
    | case2 => cases h
    | case3 c hc => exact ⟨[c], by simp [doubled, hc]⟩
    | case4 r ih =>
      obtain ⟨t, rfl⟩ := ih (Option.map_eq_none_iff.1 h)
      exact ⟨mark :: t, by simp [doubled]⟩
    | case5 => cases h
    | case6 c d r hc ih =>
      obtain ⟨t, ht⟩ := ih (Option.map_eq_none_iff.1 h)
      exact ⟨c :: t, by simp [doubled, hc, ht]⟩
  · rintro ⟨t, rfl⟩
    have hopen := @undouble_doubled_append mark t []
    rwa [List.append_nil] at hopen

/-- What follows the closing quote is shorter than the text. -/
theorem length_of_undouble (h : undouble mark cs = some (t, rest)) : rest.length < cs.length := by
  rw [(undouble_eq_some_iff.1 h).1]
  simp only [List.length_append, List.length_cons]
  omega

/-- What follows the closing quote is the back of the text, if the text does not end there. -/
theorem getLast?_of_undouble {c : Char} (hc : c ≠ mark) (hlast : cs.getLast? = some c)
    (h : undouble mark cs = some (t, rest)) : rest.getLast? = some c := by
  rw [(undouble_eq_some_iff.1 h).1] at hlast
  cases rest with
  | nil => exact absurd (by simpa using hlast) hc.symm
  | cons d r => simpa using hlast

/-- A text is read back from its doubled form and the quote behind it, unless one more quote
follows. -/
theorem undouble_doubled (t : List Char) (h : rest.head? ≠ some mark) :
    undouble mark (doubled mark t ++ mark :: rest) = some (t, rest) :=
  undouble_eq_some_iff.2 ⟨rfl, h⟩

/-- What is read from the front of a text does not depend on how the text goes on, unless it goes
on with the closing quote once more. -/
theorem undouble_append (h : undouble mark cs = some (t, rest)) (more : List Char)
    (hmore : rest = [] → more.head? ≠ some mark) :
    undouble mark (cs ++ more) = some (t, rest ++ more) := by
  obtain ⟨rfl, hrest⟩ := undouble_eq_some_iff.1 h
  rw [List.append_assoc, List.cons_append]
  apply undouble_doubled
  cases rest with
  | nil => exact hmore rfl
  | cons d r => exact hrest

/-- Where the front of a text holds no closing quote, it is looked for in what follows. -/
theorem undouble_append_of_none (h : undouble mark cs = none) :
    ∃ u, ∀ more, undouble mark (cs ++ more) =
      (undouble mark more).map fun p => (u ++ p.1, p.2) := by
  obtain ⟨u, rfl⟩ := undouble_eq_none_iff.1 h
  exact ⟨u, undouble_doubled_append u⟩

/-- The quote that closes a doubled text is the one behind it or a later one, whatever follows. -/
theorem extends_of_undouble_doubled {more t' : List Char}
    (h : undouble mark (doubled mark t ++ mark :: more) = some (t', rest)) :
    t <+: t' ∧ rest <:+ more := by
  rw [undouble_doubled_append] at h
  obtain ⟨⟨u, rest'⟩, hu, he⟩ := Option.map_eq_some_iff.1 h
  cases he
  refine ⟨List.prefix_append t u, ?_⟩
  have hback : rest' <:+ mark :: more := by
    rw [(undouble_eq_some_iff.1 hu).1]
    exact (List.suffix_cons mark rest').trans (List.suffix_append _ _)
  -- one quote at least is read off what follows the doubled text
  rcases List.suffix_cons_iff.1 hback with hall | hback
  · have hlt := length_of_undouble hu
    rw [hall] at hlt
    exact absurd hlt (Nat.lt_irrefl _)
  · exact hback

/-! ## Texts in quotes and names in brackets -/

/-- A text behind an opening, with every closing mark in it doubled and one more that closes it. -/
def enclosed (opening : String) (mark : Char) (text : String) : String :=
  opening ++ String.ofList (doubled mark text.toList ++ [mark])

/-- Reads a text between an opening and the first mark that is not doubled off the front of T-SQL:
the text and what follows the mark. -/
def readEnclosed? (opening : String) (mark : Char) (sql : String) : Option (String × String) :=
  if opening.toList <+: sql.toList then
    (undouble mark (sql.toList.drop opening.toList.length)).map fun (text, rest) =>
      (String.ofList text, String.ofList rest)
  else none

/-- Reads a national string off the front of T-SQL: what it says, with two quotes for one, and what
follows the first quote that is not doubled. -/
def readLiteral? : String → Option (String × String) :=
  readEnclosed? "N'" '\''

/-- Reads a name in brackets off the front of T-SQL: the name, with two closing brackets for one,
and what follows the first closing bracket that is not doubled. -/
def readIdent? : String → Option (String × String) :=
  readEnclosed? "[" ']'

/-- A text is enclosed by quotes, the first of which stands behind an `N`. -/
theorem literal_eq (text : String) : literal text = enclosed "N'" '\'' text := by
  simp [literal, enclosed, ← String.toList_inj]

/-- A name is enclosed by brackets, of which the closing one is the mark. -/
theorem ident_eq (name : String) : ident name = enclosed "[" ']' name := by
  simp [ident, enclosed, ← String.toList_inj]

section Enclosed

variable {opening text text' more more' : String}

/-- Behind the opening of an enclosed text its end is looked for. -/
theorem readEnclosed?_enclosed_append (opening text more : String) :
    readEnclosed? opening mark (enclosed opening mark text ++ more) =
      (undouble mark (doubled mark text.toList ++ mark :: more.toList)).map fun (text, rest) =>
        (String.ofList text, String.ofList rest) := by
  have hchars : (enclosed opening mark text ++ more).toList =
      opening.toList ++ (doubled mark text.toList ++ mark :: more.toList) := by
    simp [enclosed]
  rw [readEnclosed?, hchars, if_pos (List.prefix_append _ _), List.drop_left]

/-- An enclosed text is read back exactly if its closing mark does not follow once more. -/
theorem readEnclosed?_enclosed_iff :
    readEnclosed? opening mark (enclosed opening mark text ++ more) = some (text, more) ↔
      more.toList.head? ≠ some mark := by
  rw [readEnclosed?_enclosed_append]
  constructor
  · intro h
    obtain ⟨⟨t, rest⟩, hread, he⟩ := Option.map_eq_some_iff.1 h
    cases he
    rw [String.toList_ofList]
    exact (undouble_eq_some_iff.1 hread).2
  · intro h
    simp [undouble_doubled text.toList h]

/-- An enclosed text does not end before its closing mark, whatever follows. -/
theorem extends_of_readEnclosed
    (h : readEnclosed? opening mark (enclosed opening mark text ++ more) = some (text', more')) :
    text.toList <+: text'.toList ∧ more'.toList <:+ more.toList := by
  rw [readEnclosed?_enclosed_append] at h
  obtain ⟨⟨t, rest⟩, hread, he⟩ := Option.map_eq_some_iff.1 h
  cases he
  rw [String.toList_ofList, String.toList_ofList]
  exact extends_of_undouble_doubled hread

/-- An enclosed text ends where it was closed, so what it says and what follows it are told from one
another, unless the closing mark follows once more. -/
theorem enclosed_append_inj (h : more.toList.head? ≠ some mark)
    (h' : more'.toList.head? ≠ some mark) :
    enclosed opening mark text ++ more = enclosed opening mark text' ++ more' ↔
      text = text' ∧ more = more' := by
  constructor
  · intro he
    have hread : readEnclosed? opening mark (enclosed opening mark text ++ more) =
        some (text, more) := readEnclosed?_enclosed_iff.2 h
    rw [he, readEnclosed?_enclosed_iff.2 h'] at hread
    cases hread
    exact ⟨rfl, rfl⟩
  · rintro ⟨rfl, rfl⟩
    rfl

theorem enclosed_injective : Function.Injective (enclosed opening mark) := by
  intro text text' h
  have happend : enclosed opening mark text ++ "" = enclosed opening mark text' ++ "" := by rw [h]
  exact ((enclosed_append_inj (by simp) (by simp)).1 happend).1

end Enclosed

/-- A text in quotes and what follows it are told from one another. -/
theorem literal_append_inj {t t' r r' : String} (hr : r.toList.head? ≠ some '\'')
    (hr' : r'.toList.head? ≠ some '\'') : literal t ++ r = literal t' ++ r' ↔ t = t' ∧ r = r' := by
  rw [literal_eq, literal_eq, enclosed_append_inj hr hr']

/-- A quoted text is told from the rest where both go on with the same code. -/
theorem literal_code_append_inj {t t' code r r' : String} {c : Char} {cs : List Char}
    (hcode : code = String.ofList (c :: cs)) (hc : c ≠ '\'') :
    literal t ++ (code ++ r) = literal t' ++ (code ++ r') ↔ t = t' ∧ r = r' := by
  have hhead (r : String) : (code ++ r).toList.head? ≠ some '\'' := by simp [hcode, hc]
  rw [literal_append_inj (hhead r) (hhead r'), String.append_right_inj]

theorem literal_injective : Function.Injective literal := by
  rw [funext literal_eq]
  exact enclosed_injective

theorem ident_injective : Function.Injective ident := by
  rw [funext ident_eq]
  exact enclosed_injective

@[simp] theorem literal_inj {t t' : String} : literal t = literal t' ↔ t = t' :=
  literal_injective.eq_iff

/-- A text in quotes is read back as what it says, and what follows it is left, exactly if no other
quote follows; a name in brackets, exactly if no other closing bracket follows. Whatever follows,
neither is closed within what it says: at least that is read, and nothing of it is left. So
different texts are quoted differently, and different names. -/
theorem quoted_read_back (t r : String) :
    (readLiteral? (literal t ++ r) = some (t, r) ↔ r.toList.head? ≠ some '\'') ∧
    (readIdent? (ident t ++ r) = some (t, r) ↔ r.toList.head? ≠ some ']') ∧
    (∀ t' r', readLiteral? (literal t ++ r) = some (t', r') →
      t.toList <+: t'.toList ∧ r'.toList <:+ r.toList) ∧
    (∀ t' r', readIdent? (ident t ++ r) = some (t', r') →
      t.toList <+: t'.toList ∧ r'.toList <:+ r.toList) ∧
    Function.Injective literal ∧ Function.Injective ident := by
  refine ⟨?_, ?_, ?_, ?_, literal_injective, ident_injective⟩
  · rw [literal_eq]
    exact readEnclosed?_enclosed_iff
  · rw [ident_eq]
    exact readEnclosed?_enclosed_iff
  · intro t' r' h
    rw [literal_eq] at h
    exact extends_of_readEnclosed h
  · intro t' r' h
    rw [ident_eq] at h
    exact extends_of_readEnclosed h

/-- A text that ends in quotes and a bracket, in front of a quote: as a name it is read back, and as
a text in quotes it goes on up to the next quote that stands alone. -/
theorem quoted_read_back_sample :
    readIdent? (ident "a'']'" ++ "' = N'b'") = some ("a'']'", "' = N'b'") ∧
    readLiteral? (literal "a'']'" ++ "' = N'b'") = some ("a'']'' = N", "b'") ∧
    "a'']'".toList <+: "a'']'' = N".toList ∧ "b'".toList <:+ "' = N'b'".toList := by
  obtain ⟨-, hident, hlate, -⟩ := quoted_read_back "a'']'" "' = N'b'"
  have hread : readLiteral? (literal "a'']'" ++ "' = N'b'") = some ("a'']'' = N", "b'") := by
    decide
  exact ⟨hident.2 (by decide), hread, hlate _ _ hread⟩

end Rollout.Sql
