import Mathlib.Data.List.Forall2
import Rollout.Proofs.Sql.Masking

/-!
# Openings of secrets

What opens a secret is stated by its parts (`Opens`), and masking looks for exactly that
(`isSome_opened?_iff`). The first letter of `password` does not come back in an opening, so none
runs on into a word `PASSWORD` that follows. So a text without an opening is kept in front of an
assignment to a password, and of the password nothing is shown, whatever it is and whatever follows
it (`mask_password`).
-/

namespace Rollout.Sql

open Rollout.Text (isBlank)

/-- The opening of a secret: the word `password` in any case, an equals sign and the quote of a
string, national or not, with blank characters allowed around the sign. -/
inductive Opens : List Char → Prop
  | intro {word before behind national : List Char}
    (hword : List.Forall₂ (fun letter c => foldsTo letter c = true)
      ['p', 'a', 's', 's', 'w', 'o', 'r', 'd'] word)
    (hbefore : ∀ c ∈ before, isBlank c = true) (hbehind : ∀ c ∈ behind, isBlank c = true)
    (hnational : national = [] ∨ national = ['N'] ∨ national = ['n']) :
    Opens (word ++ before ++ '=' :: (behind ++ national ++ ['\'']))

/-- A text with the opening of a secret somewhere in it. -/
def HasOpening (cs : List Char) : Prop :=
  ∃ o, Opens o ∧ o <:+: cs

variable {cs o u head word rest letters : List Char} {c : Char}

/-! ## Openings are what masking finds -/

theorem forall₂_of_word (h : word? letters cs = some (word, rest)) :
    List.Forall₂ (fun letter c => foldsTo letter c = true) letters word := by
  fun_induction word? letters cs generalizing word with
  | case1 => cases h; exact .nil
  | case2 => cases h
  | case3 letter ls d r hd ih =>
    obtain ⟨p, hp, he⟩ := Option.map_eq_some_iff.1 h
    cases he
    exact .cons hd (ih hp)
  | case4 => cases h

theorem word?_of_forall₂
    (h : List.Forall₂ (fun letter c => foldsTo letter c = true) letters word) (rest : List Char) :
    word? letters (word ++ rest) = some (word, rest) := by
  induction h with
  | nil => rfl
  | cons hc _ ih => rw [List.cons_append, word?, if_pos hc, ih]; rfl

theorem dropWhile_blank_append (h : ∀ c ∈ cs, isBlank c = true) (hc : isBlank c = false)
    (rest : List Char) : (cs ++ c :: rest).dropWhile isBlank = c :: rest := by
  rw [List.dropWhile_append_of_pos h, List.dropWhile_cons_of_neg (by simp [hc])]

/-- An assignment is put together of the word, an equals sign and the blank characters around it. -/
theorem exists_of_assignment {r : List Char} (h : assignment? cs = some (head, r)) :
    ∃ word before behind, List.Forall₂ (fun letter c => foldsTo letter c = true)
        ['p', 'a', 's', 's', 'w', 'o', 'r', 'd'] word ∧
      (∀ c ∈ before, isBlank c = true) ∧ (∀ c ∈ behind, isBlank c = true) ∧
      cs = word ++ before ++ '=' :: (behind ++ r) := by
  have hblank (l : List Char) : ∀ c ∈ l.takeWhile isBlank, isBlank c = true :=
    List.all_eq_true.1 List.all_takeWhile
  unfold assignment? at h
  split at h
  · cases h
  · rename_i word t hw
    split at h
    · rename_i t' ht
      cases h
      refine ⟨word, t.takeWhile isBlank, t'.takeWhile isBlank, forall₂_of_word hw, hblank t,
        hblank t', ?_⟩
      rw [List.takeWhile_append_dropWhile, List.append_assoc, ← ht,
        List.takeWhile_append_dropWhile, word?_eq_some hw]
    · cases h

/-- The quote that opens a string may have an `N` in front of it. -/
theorem exists_of_stringOpened (h : stringOpened? cs = some u) :
    ∃ national, (national = [] ∨ national = ['N'] ∨ national = ['n']) ∧
      cs = national ++ '\'' :: u := by
  unfold stringOpened? at h
  split at h
  · cases h
    exact ⟨[], .inl rfl, rfl⟩
  · rename_i c r _
    split at h
    · rename_i hc
      cases h
      exact ⟨[c], by simpa using hc, rfl⟩
    · cases h
  · cases h

/-- What masking takes for the opening of a secret is one. -/
theorem opens_of_opened (h : opened? cs = some (head, u)) : ∃ o, Opens o ∧ cs = o ++ u := by
  unfold opened? at h
  split at h
  · cases h
  · rename_i head' r ha
    obtain ⟨u', hu, he⟩ := Option.map_eq_some_iff.1 h
    cases he
    obtain ⟨word, before, behind, hword, hbefore, hbehind, rfl⟩ := exists_of_assignment ha
    obtain ⟨national, hnational, rfl⟩ := exists_of_stringOpened hu
    exact ⟨_, .intro hword hbefore hbehind hnational, by simp⟩

/-- An opening is found, whatever follows it. -/
theorem isSome_opened? (h : Opens o) (u : List Char) : (opened? (o ++ u)).isSome = true := by
  obtain ⟨hword, hbefore, hbehind, hnational⟩ := h
  rename_i word before behind national
  have hstring : ∃ d r, isBlank d = false ∧ national ++ '\'' :: u = d :: r ∧
      stringOpened? (d :: r) = some u := by
    rcases hnational with rfl | rfl | rfl
    · exact ⟨'\'', u, rfl, rfl, rfl⟩
    · exact ⟨'N', _, rfl, rfl, rfl⟩
    · exact ⟨'n', _, rfl, rfl, rfl⟩
  obtain ⟨d, r, hd, hr, hopened⟩ := hstring
  have hcs : word ++ before ++ '=' :: (behind ++ national ++ ['\'']) ++ u =
      word ++ (before ++ '=' :: (behind ++ d :: r)) := by
    simp [← hr]
  have hassign : ∃ head, assignment? (word ++ (before ++ '=' :: (behind ++ d :: r))) =
      some (head, d :: r) := by
    have hequals : isBlank '=' = false := rfl
    rw [assignment?, word?_of_forall₂ hword]
    simp only [dropWhile_blank_append hbefore hequals, dropWhile_blank_append hbehind hd]
    exact ⟨_, rfl⟩
  obtain ⟨head, hassign⟩ := hassign
  rw [hcs, opened?, hassign]
  simp [hopened]

/-- A text has an opening exactly if masking finds one from some place in it on. -/
theorem hasOpening_iff : HasOpening cs ↔ ∃ t ∈ cs.tails, (opened? t).isSome = true := by
  constructor
  · rintro ⟨o, ho, front, back, rfl⟩
    exact ⟨o ++ back, (List.mem_tails _ _).2 ⟨front, by simp⟩, isSome_opened? ho back⟩
  · rintro ⟨t, ht, hopen⟩
    obtain ⟨⟨head, u⟩, hopen⟩ := Option.isSome_iff_exists.1 hopen
    obtain ⟨o, ho, rfl⟩ := opens_of_opened hopen
    obtain ⟨front, rfl⟩ := (List.mem_tails _ _).1 ht
    exact ⟨o, ho, front, u, by simp⟩

instance (cs : List Char) : Decidable (HasOpening cs) :=
  decidable_of_iff _ hasOpening_iff.symm

/-! ## Nothing opens across a password -/

theorem notMem_of_forall₂
    (h : List.Forall₂ (fun letter c => foldsTo letter c = true) letters word)
    (hc : (letters.all fun l => !foldsTo l c) = true) : c ∉ word := by
  induction h with
  | nil => simp
  | cons hd _ ih =>
    rw [List.all_cons, Bool.and_eq_true, Bool.not_eq_true'] at hc
    rw [List.mem_cons, not_or]
    refine ⟨?_, ih hc.2⟩
    rintro rfl
    rw [hc.1] at hd
    cases hd

/-- Past its first letter an opening has no `P`. -/
theorem Opens.notMem_tail (h : Opens o) : 'P' ∉ o.tail := by
  obtain ⟨hword, hbefore, hbehind, hnational⟩ := h
  obtain ⟨_, _, _, hletters, rfl⟩ := List.forall₂_cons_left_iff.1 hword
  have hnotBlank {l : List Char} (h : ∀ c ∈ l, isBlank c = true) : 'P' ∉ l := fun hmem =>
    absurd (h _ hmem) (by decide)
  have hnotLetter := notMem_of_forall₂ (c := 'P') hletters rfl
  rcases hnational with rfl | rfl | rfl <;>
    simp [hnotLetter, hnotBlank hbefore, hnotBlank hbehind]

/-- An opening that is not in a text does not begin in it either, where a `P` follows. -/
theorem opened?_append_eq_none {d : Char} {r : List Char} (h : ¬ HasOpening (d :: r))
    (more : List Char) : opened? (d :: r ++ 'P' :: more) = none := by
  by_contra hopen
  obtain ⟨⟨head, u⟩, hopen⟩ := Option.ne_none_iff_exists'.1 hopen
  obtain ⟨o, ho, heq⟩ := opens_of_opened hopen
  rcases List.append_eq_append_iff.1 heq with ⟨t, rfl, ht⟩ | ⟨t, ht, -⟩
  · cases t with
    | nil => exact h ⟨_, ho, by simp⟩
    | cons c t =>
      obtain ⟨rfl, -⟩ := List.cons.inj ht
      exact ho.notMem_tail (by simp)
  · exact h ⟨o, ho, [], t, by rw [ht]; rfl⟩

/-- A text without an opening is kept in front of a `P`, whatever is masked from there on. -/
theorem maskChars_append_of_not_hasOpening (h : ¬ HasOpening cs) (more : List Char) :
    maskChars (cs ++ 'P' :: more) = cs ++ maskChars ('P' :: more) := by
  induction cs with
  | nil => rfl
  | cons d r ih =>
    have hsecret : secret? (d :: r ++ 'P' :: more) = none := by
      rw [secret?_eq, opened?_append_eq_none h]
      rfl
    have hr : ¬ HasOpening r := fun ⟨o, ho, hinfix⟩ =>
      h ⟨o, ho, hinfix.trans (List.suffix_cons d r).isInfix⟩
    rw [List.cons_append] at hsecret ⊢
    rw [maskChars_cons hsecret, ih hr, List.cons_append]

/-- A quoted password that is assigned behind a text without an opening is masked, and all the rest
is masked as if it stood alone, whatever the password is and whatever follows its last quote. -/
theorem mask_password (pre password post : String) (hpre : ¬ HasOpening pre.toList)
    (hpost : post.toList.head? ≠ some '\'') :
    mask (pre ++ "PASSWORD = " ++ literal password ++ post) =
      pre ++ "PASSWORD = N'***'" ++ mask post := by
  have hhead (r : List Char) : assignment? ("PASSWORD = ".toList ++ 'N' :: r) =
      some ("PASSWORD = ".toList, 'N' :: r) := rfl
  have hmasked := maskChars_literal hhead password hpost
  have hkept := maskChars_append_of_not_hasOpening hpre
    ("ASSWORD = ".toList ++ (literal password).toList ++ post.toList)
  have hword : "PASSWORD = ".toList = 'P' :: "ASSWORD = ".toList := rfl
  have hshown : "PASSWORD = N'***'".toList = "PASSWORD = ".toList ++ maskedString := rfl
  apply String.toList_inj.1
  calc (mask (pre ++ "PASSWORD = " ++ literal password ++ post)).toList
      = maskChars (pre.toList ++ 'P' :: ("ASSWORD = ".toList ++ (literal password).toList ++
          post.toList)) := by simp [mask]
    _ = pre.toList ++ maskChars ("PASSWORD = ".toList ++ (literal password).toList ++
          post.toList) := by rw [hkept, hword]; rfl
    _ = (pre ++ "PASSWORD = N'***'" ++ mask post).toList := by
      rw [hmasked, String.toList_append, String.toList_append, hshown]
      simp [mask]

/-- The password has a quote, an equals sign and a second assignment in it, the text in front a
string and half an opening, and the rest one more password. -/
theorem mask_password_in_between :
    mask ("CREATE LOGIN [O'Neil] WITH CHECK_PASSWORD = n PASSWORD = " ++
        literal "a'' PASSWORD = N'b" ++ ", OLD_pas\u017fword='c''d' MUST_CHANGE") =
      "CREATE LOGIN [O'Neil] WITH CHECK_PASSWORD = n PASSWORD = N'***'" ++
        mask ", OLD_pas\u017fword='c''d' MUST_CHANGE" :=
  mask_password "CREATE LOGIN [O'Neil] WITH CHECK_PASSWORD = n " "a'' PASSWORD = N'b"
    ", OLD_pas\u017fword='c''d' MUST_CHANGE" (by decide) (by decide)

end Rollout.Sql
